import DeviceConsole.Proofs.Session.Board

/-!
# Sound boards

State, session, attempts and live map of a connection fit together, and no session has two
connections.  This file defines:

* `Vitals.Sound`, what fits together in one connection;
* `Board.Sound`, the same for every connection, with what references and sessions need for it.

Both are kept by everything that may happen to a board.
-/

namespace DeviceConsole

/-! ## One connection -/

/-- How the vitals of a connection fit together. -/
structure Vitals.Sound (v : Vitals) : Prop where
  /-- In each of the four active states there is a session. -/
  held : v.status.isActive = true → v.session ≠ none
  few : v.retryCount ≤ Connection.maxAttempts
  counted : ∀ n, v.status = .reconnecting n → 1 ≤ n ∧ n = v.retryCount
  steady : v.status = .connecting ∨ v.status = .connected ∨ v.status = .disconnecting →
    v.retryCount = 0
  bare : v.session = none → v.live = .empty
  destroyed_iff : v.status = .destroyed ↔ v.destroyed = true
  retired : v.destroyed = true → v.session = none ∧ v.live = .empty ∧ v.retryCount = 0

namespace Vitals

variable {v w : Vitals} {session : SessionId}

theorem Sound.alive (h : v.Sound) (held : v.session = some session) : v.destroyed = false := by
  cases dead : v.destroyed with
  | false => rfl
  | true =>
      have none := (h.retired dead).1
      rw [held] at none
      cases none

theorem Sound.status_ne (h : v.Sound) (alive : v.destroyed = false) : v.status ≠ .destroyed := by
  intro gone
  have dead := h.destroyed_iff.1 gone
  rw [alive] at dead
  cases dead

theorem sound_initial : Vitals.initial.Sound := by
  constructor <;> simp [initial, ConnectionStatus.isActive]

theorem sound_connecting (alive : v.destroyed = false) : (v.connecting session).Sound := by
  constructor <;> simp [connecting, alive]

theorem sound_unopened (alive : v.destroyed = false) : v.unopened.Sound := by
  constructor <;> simp [unopened, alive, ConnectionStatus.isActive]

theorem sound_retired : v.retired.Sound := by
  constructor <;> simp [retired, ConnectionStatus.isActive]

theorem sound_retrying (h : v.Sound) (held : v.session = some session)
    (few : v.retryCount < Connection.maxAttempts) : v.retrying.Sound := by
  have alive := h.alive held
  constructor <;> simp [retrying, held, alive]
  omega

theorem Sound.closing (h : v.Sound) (held : v.session = some session) : v.closing.Sound := by
  have alive := h.alive held
  have going := h.status_ne alive
  cases active : v.status.isActive with
  | true => constructor <;> simp [Vitals.closing, announced, active, held, alive]
  | false =>
      -- One inactive state is left for a connection that was not destroyed.
      have idle : v.status = .disconnected := by
        cases status : v.status with
        | disconnected => rfl
        | destroyed => exact absurd status going
        | connecting => simp [status, ConnectionStatus.isActive] at active
        | connected => simp [status, ConnectionStatus.isActive] at active
        | reconnecting n => simp [status, ConnectionStatus.isActive] at active
        | disconnecting => simp [status, ConnectionStatus.isActive] at active
      constructor <;>
        simp [Vitals.closing, announced, idle, held, alive, ConnectionStatus.isActive]

theorem Sound.settles (h : v.Sound) (held : v.session = some session) (settles : v.Settles w) :
    w.Sound := by
  have alive := h.alive held
  cases settles with
  | up => constructor <;> simp [held, alive]
  | failed => exact h
  | dropped =>
      cases up : v.status.isConnected with
      | true => constructor <;> simp [h.few, held, alive, ConnectionStatus.isActive]
      | false => exact h
  | ended => constructor <;> simp [h.few, alive, ConnectionStatus.isActive]
  | gaveUp => exact h.closing held

theorem Sound.marked (h : v.Sound) (held : v.session = some session) (live : KeyMap Bool) :
    Sound { v with live := live } where
  held := h.held
  few := h.few
  counted := h.counted
  steady := h.steady
  bare := fun none => by rw [held] at none; cases none
  destroyed_iff := h.destroyed_iff
  retired := fun dead => by rw [h.alive held] at dead; cases dead

theorem Sound.forgot (h : v.Sound) (filter : String) :
    Sound { v with live := v.live.erase filter } where
  held := h.held
  few := h.few
  counted := h.counted
  steady := h.steady
  bare := fun none => by rw [h.bare none]; rfl
  destroyed_iff := h.destroyed_iff
  retired := fun dead => by
    rcases h.retired dead with ⟨none, empty, zero⟩
    refine ⟨none, ?_, zero⟩
    rw [empty]
    rfl

end Vitals

/-! ## All connections -/

/-- How the parts of a board fit together. -/
structure Board.Sound (b : Board) : Prop where
  each : ∀ {i : ConnectionRef} {v : Vitals}, b.vitals[i]? = some v → v.Sound
  distinct : ∀ {i j : ConnectionRef} {v w : Vitals} {session : SessionId},
    b.vitals[i]? = some v → b.vitals[j]? = some w →
    v.session = some session → w.session = some session → i = j
  known : ∀ {i : ConnectionRef} {v : Vitals} {session : SessionId},
    b.vitals[i]? = some v → v.session = some session → session ∈ b.opened
  current : ∀ entry ∈ b.current, entry.2 < b.vitals.length
  handlers : ∀ entry ∈ b.handlers, entry.2 < b.vitals.length

namespace Board

variable {b b' : Board} {marks : List Mark}

/-- A board stays sound if one connection gets sound vitals with no other session than before. -/
theorem Sound.put (h : b.Sound) {i : ConnectionRef} {v w : Vitals} (hv : b.vitals[i]? = some v)
    (hw : w.Sound) (kept : ∀ session, w.session = some session → v.session = some session) :
    (b.put i w).Sound where
  each := by
    intro j u hu
    rcases get?_put hu with ⟨-, rfl⟩ | ⟨-, before⟩
    · exact hw
    · exact h.each before
  distinct := by
    intro j k u x session hu hx first second
    rcases get?_put hu with ⟨rfl, rfl⟩ | ⟨-, before⟩
    · rcases get?_put hx with ⟨rfl, rfl⟩ | ⟨-, other⟩
      · rfl
      · exact h.distinct hv other (kept session first) second
    · rcases get?_put hx with ⟨rfl, rfl⟩ | ⟨-, other⟩
      · exact h.distinct before hv first (kept session second)
      · exact h.distinct before other first second
  known := by
    intro j u session hu first
    rcases get?_put hu with ⟨rfl, rfl⟩ | ⟨-, before⟩
    · exact h.known hv (kept session first)
    · exact h.known before first
  current := by
    intro entry member
    rw [length_put]
    exact h.current entry member
  handlers := by
    intro entry member
    rw [length_put]
    exact h.handlers entry member

theorem Sound.setGate (h : b.Sound) (held : Bool) : (b.setGate held).Sound where
  each := h.each
  distinct := h.distinct
  known := h.known
  current := h.current
  handlers := h.handlers

/-- A connection may take a new session. -/
theorem Sound.enroll (h : b.Sound) {i : ConnectionRef} {v : Vitals} {session : SessionId}
    (hv : b.vitals[i]? = some v) (alive : v.destroyed = false) (fresh : session ∉ b.opened) :
    ((b.put i (v.connecting session)).enroll session i).Sound where
  each := by
    intro j u hu
    rcases get?_put hu with ⟨-, rfl⟩ | ⟨-, before⟩
    · exact Vitals.sound_connecting alive
    · exact h.each before
  distinct := by
    -- No other connection has the new session, since held sessions were opened before.
    intro j k u x n hu hx first second
    rcases get?_put hu with ⟨rfl, rfl⟩ | ⟨-, before⟩
    · rcases get?_put hx with ⟨rfl, rfl⟩ | ⟨-, other⟩
      · rfl
      · cases first
        exact absurd (h.known other second) fresh
    · rcases get?_put hx with ⟨rfl, rfl⟩ | ⟨-, other⟩
      · cases second
        exact absurd (h.known before first) fresh
      · exact h.distinct before other first second
  known := by
    intro j u n hu first
    rcases get?_put hu with ⟨rfl, rfl⟩ | ⟨-, before⟩
    · cases first
      simp [Board.enroll]
    · exact List.mem_append_left _ (h.known before first)
  current := by
    intro entry member
    simpa [Board.enroll] using h.current entry member
  handlers := by
    intro entry member
    rcases List.getElem?_eq_some_iff.1 hv with ⟨hi, -⟩
    rcases List.mem_append.1 member with member | member
    · simpa [Board.enroll] using h.handlers entry member
    · rcases List.mem_singleton.1 member with rfl
      simpa [Board.enroll] using hi

theorem Sound.move (h : b.Sound) (move : b.Move marks b') : b'.Sound := by
  cases move with
  | idle => exact h
  | opened hv alive _ fresh => exact (h.enroll hv alive fresh).setGate true
  | unopened hv alive _ => exact h.put hv (Vitals.sound_unopened alive) nofun
  | kept => exact h
  | closed hv held => exact h.put hv ((h.each hv).closing held) fun _ => id
  | destroyed hv _ _ => exact h.put hv Vitals.sound_retired nofun
  | aborted hv _ _ => exact (h.put hv Vitals.sound_retired nofun).setGate false
  | gone => exact h
  | marked live hv held => exact h.put hv ((h.each hv).marked held live) fun _ => id
  | forgot filter hv => exact h.put hv ((h.each hv).forgot filter) fun _ => id
  | retried hv _ held few =>
      exact (h.put hv (Vitals.sound_retrying (h.each hv) held few) fun _ => id).setGate true
  | settled hv _ held settles =>
      refine (h.put hv ((h.each hv).settles held settles) ?_).setGate false
      cases settles with
      | ended => nofun
      | up | failed | dropped | gaveUp => exact fun _ => id

theorem Sound.extends (h : b.Sound) (grown : b.Extends b') : b'.Sound where
  each := by
    intro i v hv
    rcases grown.get? hv with hv | rfl
    · exact h.each hv
    · exact Vitals.sound_initial
  distinct := by
    intro i j v w session hv hw first second
    rcases grown.get? hv with hv | rfl
    · rcases grown.get? hw with hw | rfl
      · exact h.distinct hv hw first second
      · cases second
    · cases first
  known := by
    intro i v session hv first
    rw [grown.opened]
    rcases grown.get? hv with hv | rfl
    · exact h.known hv first
    · cases first
  current := by
    intro entry member
    rcases grown.current entry member with member | bound
    · exact Nat.lt_of_lt_of_le (h.current entry member) grown.length_le
    · exact bound
  handlers := by
    intro entry member
    exact Nat.lt_of_lt_of_le (h.handlers entry (grown.handlers entry member)) grown.length_le

end Board

end DeviceConsole
