/-!
# Programs over a state

An operation on a shared state is a program: steps that change the state at once, and requests to
the world outside, between which other programs may run.  This file defines:

* `Program`, with `look`, `change`, `atomically` and `ask`;
* `Program.bind`, which makes programs a monad;
* `Program.run`, which runs a program alone where every request is answered at once.
-/

namespace DeviceConsole

/-- An operation on a state `σ` that ends in a result.  A step sees the state and changes it; a
request waits for its reply. -/
inductive Program (σ : Type) {ρ : Type} (Reply : ρ → Type) (α : Type) where
  | done (result : α)
  | step (change : σ → σ) (next : σ → Program σ Reply α)
  | request (r : ρ) (next : Reply r → Program σ Reply α)

namespace Program

variable {σ ρ : Type} {Reply : ρ → Type} {α β : Type}

def bind (p : Program σ Reply α) (f : α → Program σ Reply β) : Program σ Reply β :=
  match p with
  | done a => f a
  | step change next => step change fun s => (next s).bind f
  | request r next => request r fun reply => (next reply).bind f

instance : Monad (Program σ Reply) where
  pure := done
  bind := bind

def look (view : σ → α) : Program σ Reply α := step id fun s => done (view s)

def change (update : σ → σ) : Program σ Reply Unit := step update fun _ => done ()

/-- Looks at the state and changes it, in one step. -/
def atomically (act : σ → α × σ) : Program σ Reply α :=
  step (fun s => (act s).2) fun s => done (act s).1

def ask (r : ρ) : Program σ Reply (Reply r) := request r done

/-- Runs a program alone, with the same answer to the same request every time. -/
def run (answer : (r : ρ) → Reply r) : Program σ Reply α → σ → α × σ
  | done a, s => (a, s)
  | step change next, s => run answer (next s) (change s)
  | request r next, s => run answer (next (answer r)) s

@[simp] theorem bind_done (a : α) (f : α → Program σ Reply β) : (done a).bind f = f a := rfl

@[simp] theorem bind_eq (p : Program σ Reply α) (f : α → Program σ Reply β) :
    p >>= f = p.bind f := rfl

@[simp] theorem pure_eq (a : α) : (pure a : Program σ Reply α) = done a := rfl

end Program

end DeviceConsole
