import DeviceConsole.Proofs.Json.RoundTrip
import DeviceConsole.Proofs.Profile.RoundTrip
import DeviceConsole.Storage.Profiles

/-!
# Stored profiles are read back

What is stored of profiles is a text without doubles and with few brackets inside each other, so the
profiles are read back from it.  This file shows:

* `printable_toJson` for each record that is part of a profile;
* `ProfileStorage.decode?_encode`: the profiles are read back from their text, in order.
-/

namespace DeviceConsole

open Json (Printable)

/-! ## Parts of a record -/

namespace Json

attribute [simp] Printable.null Printable.bool Printable.str

theorem printable_ofNat (d : Nat) {n : Nat} (h : n < 2 ^ 64) : Printable d (.ofNat n) :=
  .int d (by omega) (by omega)

@[simp] theorem printable_ofWord8 (d : Nat) (w : UInt8) : Printable d (.ofWord8 w) :=
  printable_ofNat d (Nat.lt_trans w.toNat_lt (by decide))

@[simp] theorem printable_ofWord16 (d : Nat) (w : UInt16) : Printable d (.ofWord16 w) :=
  printable_ofNat d (Nat.lt_trans w.toNat_lt (by decide))

@[simp] theorem printable_ofWord32 (d : Nat) (w : UInt32) : Printable d (.ofWord32 w) :=
  printable_ofNat d (Nat.lt_trans w.toNat_lt (by decide))

@[simp] theorem printable_ofWord64 (d : Nat) (w : UInt64) : Printable d (.ofWord64 w) :=
  printable_ofNat d w.toNat_lt

@[simp] theorem printable_ofQos (d : Nat) (q : Qos) : Printable d (.ofQos q) := by
  cases q <;> exact printable_ofNat d (by decide)

@[simp] theorem printable_ofTextMap (d : Nat) (map : KeyMap String) :
    Printable (d + 1) (.ofTextMap map) := by
  refine .obj fun member h => ?_
  obtain ⟨entry, -, rfl⟩ := List.mem_map.1 h
  exact .str d entry.2

@[simp] theorem printable_ofOption {α : Type} {d : Nat} {write : α → Json}
    (h : ∀ a, Printable d (write a)) (o : Option α) : Printable d (.ofOption write o) := by
  cases o with
  | none => exact .null d
  | some a => exact h a

theorem printable_optionalMember {α : Type} {d : Nat} {name : String} {write : α → Json}
    (h : ∀ a, Printable d (write a)) (o : Option α) :
    ∀ member ∈ optionalMember name write o, Printable d member.2 := by
  cases o with
  | none => exact fun _ member => absurd member List.not_mem_nil
  | some a => simpa [optionalMember] using h a

end Json

/-! ## Records -/

@[simp] theorem SubscribeOptions.printable_toJson (d : Nat) (o : SubscribeOptions) :
    Printable (d + 1) o.toJson := by
  refine .obj ?_
  simp only [List.forall_mem_append]
  exact ⟨⟨⟨by simp, Json.printable_optionalMember (by simp) _⟩,
    Json.printable_optionalMember (by simp) _⟩, Json.printable_optionalMember (by simp) _⟩

@[simp] theorem WillProperties.printable_toJson (d : Nat) (p : WillProperties) :
    Printable (d + 2) p.toJson :=
  .obj (by simp)

@[simp] theorem ConnectProperties.printable_toJson (d : Nat) (p : ConnectProperties) :
    Printable (d + 2) p.toJson :=
  .obj (by simp)

@[simp] theorem Subscription.printable_toJson (d : Nat) (s : Subscription) :
    Printable (d + 2) s.toJson := by
  refine .obj ?_
  simp only [List.forall_mem_append]
  exact ⟨⟨by simp, Json.printable_optionalMember (by simp) _⟩, by simp⟩

@[simp] theorem WillSettings.printable_toJson (d : Nat) (w : WillSettings) :
    Printable (d + 3) w.toJson :=
  .obj (by simp)

@[simp] theorem PublishDefaults.printable_toJson (d : Nat) (p : PublishDefaults) :
    Printable (d + 1) p.toJson :=
  .obj (by simp)

namespace Profile

theorem printable_toJson (d : Nat) (p : Profile) : Printable (d + 4) p.toJson := by
  have subscriptions : Printable (d + 3) (.arr (p.subscriptions.map Subscription.toJson)) :=
    .arr (by simp)
  refine .obj ?_
  simp [members, TlsSettings.members, ConnectionId.toJson, subscriptions]

theorem printable_listToJson (d : Nat) (profiles : List Profile) :
    Printable (d + 5) (listToJson profiles) :=
  .arr (by simp [printable_toJson])

theorem read?_toJson (fresh : ConnectionId) (p : Profile) : read? fresh p.toJson = some p :=
  Written.full.conveys.read? fresh

/-- A list of profiles is read back from how it is written. -/
theorem readList?_listToJson (fresh : Nat → ConnectionId) (profiles : List Profile) :
    readList? fresh (listToJson profiles) = some profiles :=
  readFrom?_of_forall₂ (by simp [read?_toJson]) 0

end Profile

/-! ## Texts -/

namespace ProfileStorage

theorem decode?_encode (fresh : Nat → ConnectionId) (profiles : List Profile) :
    decode? fresh (encode profiles) = some profiles := by
  have parsed : Json.parse? (encode profiles) = some (Profile.listToJson profiles) :=
    Json.parse?_text (Profile.printable_listToJson 122 profiles)
  rw [decode?, Json.readAs?, Json.parseAs?_eq_some parsed, Option.bind_some,
    Profile.readList?_listToJson]

end ProfileStorage

end DeviceConsole
