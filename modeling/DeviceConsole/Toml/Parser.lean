import DeviceConsole.Toml.Table

/-!
# Reading settings files

This file defines:

* `value?`, any value, with fewer brackets inside each other than `depthLimit`;
* `statement?`, one statement with the end of its line;
* `parse?`, the whole text as a table.
-/

namespace DeviceConsole

namespace Toml

/-! ## Values -/

def simple? : Step Value := fun text =>
  match text with
  | 't' :: 'r' :: 'u' :: 'e' :: rest => some (.boolean true, rest)
  | 'f' :: 'a' :: 'l' :: 's' :: 'e' :: rest => some (.boolean false, rest)
  | '"' :: _ => (string? text).map fun found => (.string found.1, found.2)
  | '\'' :: _ => (string? text).map fun found => (.string found.1, found.2)
  | _ =>
    match dateTime? text with
    | some (_, rest) => some (.dateTime, rest)
    | none =>
      match float? text with
      | some (_, rest) => some (.float, rest)
      | none => (integer? text).map fun found => (.integer found.1, found.2)

/-- Takes the items of an array after its opening bracket; a comma may follow the last one. -/
def items? (read : Step Value) : Nat → Step (List Value)
  | 0, _ => none
  | fuel + 1, text =>
    match gaps text with
    | ']' :: rest => some ([], rest)
    | text => do
      let (item, rest) ← read text
      match gaps rest with
      | ']' :: rest => return ([item], rest)
      | ',' :: rest => do
        let (more, rest) ← items? read fuel rest
        return (item :: more, rest)
      | _ => none

def pair? (read : Step Value) : Step (List String × Value) := fun text => do
  let (path, rest) ← path? text
  let rest ← mark? '=' rest
  let (value, rest) ← read (blanks rest)
  return ((path, value), rest)

def pairs? (read : Step Value) : Nat → Step (List (List String × Value))
  | 0, _ => none
  | fuel + 1, text => do
    let (pair, rest) ← pair? read text
    match blanks rest with
    | '\x7d' :: rest => return ([pair], rest)
    | ',' :: rest => do
      let (more, rest) ← pairs? read fuel rest
      return (pair :: more, rest)
    | _ => none

/-- Takes a value with at most `depth` brackets inside each other. -/
def value? : Nat → Step Value
  | 0, text => simple? text
  | depth + 1, text =>
    match text with
    | '[' :: rest =>
      (items? (value? depth) text.length rest).map fun found => (.array found.1, found.2)
    | '\x7b' :: rest =>
      match blanks rest with
      | '\x7d' :: rest => some (.table .complete [], rest)
      | rest => do
        let (pairs, rest) ← pairs? (value? depth) text.length rest
        return (← ofPairs? pairs, rest)
    | text => simple? text

/-! ## Statements -/

def statement? : Step Statement := fun text =>
  match text with
  | '[' :: '[' :: rest => do
    let (path, rest) ← path? rest
    return (.itemHeader path, ← mark? ']' (← mark? ']' rest))
  | '[' :: rest => do
    let (path, rest) ← path? rest
    return (.header path, ← mark? ']' rest)
  | text => (pair? (value? (depthLimit - 1)) text).map fun found =>
    (.pair found.1.1 found.1.2, found.2)

/-- Takes statements until nothing is left; every statement ends its line. -/
def statements? : Nat → List Char → Option (List Statement)
  | 0, _ => none
  | fuel + 1, text =>
    match gaps text with
    | [] => some []
    | text => do
      let (statement, rest) ← statement? text
      let rest ← lineEnd? rest
      return statement :: (← statements? fuel rest)

/-- The text without a byte order mark at its front. -/
def dropMark : List Char → List Char
  | '\ufeff' :: rest => rest
  | text => text

def parse? (text : String) : Option Table :=
  let text := dropMark text.toList
  (statements? (text.length + 1) text).bind ofStatements?

end Toml

end DeviceConsole
