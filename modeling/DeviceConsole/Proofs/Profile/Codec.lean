import DeviceConsole.Profile.Record
import DeviceConsole.Proofs.KeyList
import DeviceConsole.Proofs.Profile.Identity

/-!
# Readers that give back what was written

Every part of a profile is read back from how it is written.  This file defines:

* `Reader.Inverts read write`: whatever is written by `write`, `read` gives it back;
* `Fields.Told`: a field is written, or it is left out because its value is the default;
* one lemma `inverts` for each record that is part of a profile.
-/

namespace DeviceConsole

/-! ## Readers and writers -/

/-- A reader gives back every value from how it is written, and null stands for no value. -/
structure Reader.Inverts {α : Type} (read : Reader α) (write : α → Json) : Prop where
  back : ∀ a, read (write a) = some a
  proper : ∀ a, write a ≠ .null

namespace Reader.Inverts

variable {α : Type} {read : Reader α} {write : α → Json}

theorem string : Inverts Json.string? .str := ⟨fun _ => rfl, fun _ h => nomatch h⟩

theorem bool : Inverts Json.bool? .bool := ⟨fun _ => rfl, fun _ h => nomatch h⟩

theorem nat {size n : Nat} (h : n < size) : Json.nat? (size - 1) (.ofNat n) = some n :=
  if_pos (Nat.le_sub_one_of_lt h)

theorem word8 : Inverts Json.word8? Json.ofWord8 where
  back w := by
    rw [Json.word8?, Json.ofWord8, nat w.toNat_lt_size, Option.map_some, UInt8.ofNat_toNat]
  proper _ h := nomatch h

theorem word16 : Inverts Json.word16? Json.ofWord16 where
  back w := by
    rw [Json.word16?, Json.ofWord16, nat w.toNat_lt_size, Option.map_some, UInt16.ofNat_toNat]
  proper _ h := nomatch h

theorem word32 : Inverts Json.word32? Json.ofWord32 where
  back w := by
    rw [Json.word32?, Json.ofWord32, nat w.toNat_lt_size, Option.map_some, UInt32.ofNat_toNat]
  proper _ h := nomatch h

theorem word64 : Inverts Json.word64? Json.ofWord64 where
  back w := by
    rw [Json.word64?, Json.ofWord64, nat w.toNat_lt_size, Option.map_some, UInt64.ofNat_toNat]
  proper _ h := nomatch h

theorem qos : Inverts Json.qos? Json.ofQos where
  back q := by cases q <;> rfl
  proper _ h := nomatch h

/-- Names are read by a table that has each value under its name. -/
theorem variant {table : List (String × α)} {text : α → String}
    (listed : ∀ a, table.lookup (text a) = some a) :
    Inverts (Json.variant? table) fun a => .str (text a) :=
  ⟨listed, fun _ h => nomatch h⟩

theorem looseVariant {table : List (String × α)} {text : α → String}
    (listed : ∀ a, table.lookup (text a) = some a) :
    Inverts (Json.looseVariant? table) fun a => .str (text a) :=
  ⟨listed, fun _ h => nomatch h⟩

theorem present (h : Inverts read write) (a : α) :
    Json.nullable? read (write a) = some (some a) := by
  have value : Json.nullable? read (write a) = (read (write a)).map some := by
    unfold Json.nullable?
    split
    · next null => exact absurd null (h.proper a)
    · rfl
  rw [value, h.back a, Option.map_some]

theorem nullable (h : Inverts read write) (o : Option α) :
    Json.nullable? read (.ofOption write o) = some o := by
  cases o with
  | none => rfl
  | some a => exact h.present a

theorem mapM (h : Inverts read write) (as : List α) : (as.map write).mapM read = some as := by
  induction as with
  | nil => rfl
  | cons a rest ih => simp [h.back a, ih]

theorem list (h : Inverts read write) :
    Inverts (Json.list? read) fun as => .arr (as.map write) :=
  ⟨h.mapM, fun _ h => nomatch h⟩

theorem textMap : Inverts (Json.map? Json.string?) Json.ofTextMap where
  back map := by
    have entries : (map.entries.map fun entry => (entry.1, Json.str entry.2)).mapM
        (fun member => (Json.string? member.2).map (member.1, ·)) = some map.entries := by
      generalize map.entries = entries
      induction entries with
      | nil => rfl
      | cons entry rest ih =>
          rw [List.map_cons, List.mapM_cons, ih]
          rfl
    have collected : KeyMap.ofList map.entries = map := by
      cases map with
      | mk entries ordered => simp [KeyMap.ofList, KeyList.ofList_of_ordered ordered]
    rw [Json.ofTextMap, Json.map?, entries, Option.map_some, collected]
  proper _ h := nomatch h

end Reader.Inverts

/-! ## Records -/

namespace Fields

variable {α : Type} {fields : Fields} {name : String} {read : Reader α} {write : α → Json}

/-- A record is read if it has no other members than those that are known, and each of them once. -/
theorem read?_obj {names : List String} {members : List (String × Json)}
    (distinct : names.Nodup) (known : (members.map (·.1)).Sublist names) :
    Fields.read? names (.obj members) = some ⟨members, false⟩ := by
  have all : members.filter (fun member => names.contains member.1) = members := by
    rw [List.filter_eq_self]
    intro member h
    exact List.contains_iff_mem.2 (known.subset (List.mem_map.2 ⟨member, h, rfl⟩))
  rw [read?, known?, all, if_pos (distinct.sublist known), Option.map_some]

theorem read?_full {names : List String} {members : List (String × Json)} (distinct : names.Nodup)
    (full : members.map (·.1) = names) :
    Fields.read? names (.obj members) = some ⟨members, false⟩ :=
  read?_obj distinct (full ▸ List.Sublist.refl _)

theorem sublist_optionalMember (o : Option α) :
    ((Json.optionalMember name write o).map (·.1)).Sublist [name] := by
  cases o with
  | none => exact List.nil_sublist _
  | some a => exact List.Sublist.refl _

theorem orElse_eq (fields : Fields) (name : String) (read : Reader α) (default : α) :
    fields.orElse name read default = ((fields.member? name).map read).getD (some default) := by
  rw [orElse]
  cases fields.member? name <;> rfl

/-- A field is written, or left out because its value is the default. -/
def Told (fields : Fields) (name : String) (value default : Json) : Prop :=
  fields.member? name = some value ∨ fields.member? name = none ∧ value = default

theorem orElse_of_told (h : read.Inverts write) {a d : α}
    (told : fields.Told name (write a) (write d)) : fields.orElse name read d = some a := by
  rcases told with told | ⟨told, same⟩
  · rw [orElse, told]
    exact h.back a
  · -- Values that are written alike are equal, since both are read back.
    rw [orElse, told, ← h.back a, same, h.back d]

theorem optional_of_told (h : read.Inverts write) {o : Option α}
    (told : fields.Told name (.ofOption write o) .null) : fields.optional name read = some o := by
  rcases told with told | ⟨told, same⟩
  · rw [optional, orElse, told]
    exact h.nullable o
  · cases o with
    | none => rw [optional, orElse, told]
    | some a => exact absurd same (h.proper a)

end Fields

/-! ## Options -/

open Reader

theorem SubscribeOptions.inverts : Inverts SubscribeOptions.read? SubscribeOptions.toJson where
  back o := by
    obtain ⟨qos, noLocal, retainAsPublished, retainHandling⟩ := o
    -- The three optional members are left out if they have no value, hence the eight cases.
    rw [read?, toJson, Fields.read?_obj (by decide)]
    · cases noLocal <;> cases retainAsPublished <;> cases retainHandling <;>
        simp [Json.optionalMember, Fields.required, Fields.optional, Fields.orElse_eq,
          Fields.member?, KeyList.get?, Inverts.qos.back, Inverts.bool.present,
          Inverts.word8.present]
    · simp only [List.map_append]
      exact (((List.Sublist.refl ["qos"]).append (Fields.sublist_optionalMember _)).append
        (Fields.sublist_optionalMember _)).append (Fields.sublist_optionalMember _)
  proper _ h := nomatch h

theorem WillProperties.inverts : Inverts WillProperties.read? WillProperties.toJson where
  back p := by
    -- A member without a value is written as null, so all members are always there.
    rw [read?, toJson, Fields.read?_full (by decide) (by rfl)]
    simp [Fields.optional, Fields.orElse_eq, Fields.member?, KeyList.get?, Inverts.bool.nullable,
      Inverts.word32.nullable, Inverts.string.nullable, Inverts.textMap.nullable]
  proper _ h := nomatch h

theorem ConnectProperties.inverts : Inverts ConnectProperties.read? ConnectProperties.toJson where
  back p := by
    rw [read?, toJson, Fields.read?_full (by decide) (by rfl)]
    simp [Fields.optional, Fields.orElse_eq, Fields.member?, KeyList.get?, Inverts.bool.nullable,
      Inverts.word16.nullable, Inverts.word32.nullable, Inverts.string.nullable,
      Inverts.textMap.nullable]
  proper _ h := nomatch h

theorem Subscription.inverts : Inverts Subscription.read? Subscription.toJson where
  back s := by
    obtain ⟨id, name, topic, options, keep⟩ := s
    rw [read?, toJson, Fields.read?_obj (by decide)]
    · cases name <;>
        simp [Json.optionalMember, Fields.required, Fields.optional, Fields.orElse_eq,
          Fields.member?, KeyList.get?, Inverts.string.back, Inverts.string.present,
          Inverts.bool.back, SubscribeOptions.inverts.back]
    · simp only [List.map_append]
      exact ((List.Sublist.refl ["id"]).append (Fields.sublist_optionalMember _)).append
        (List.Sublist.refl ["topic", "opts", "keep"])
  proper _ h := nomatch h

theorem WillSettings.inverts : Inverts WillSettings.read? WillSettings.toJson where
  back w := by
    rw [read?, toJson, Fields.read?_full (by decide) (by rfl)]
    simp [Fields.optional, Fields.orElse_eq, Fields.member?, KeyList.get?, Inverts.bool.back,
      Inverts.qos.back, Inverts.string.back, WillProperties.inverts.nullable]
  proper _ h := nomatch h

theorem PublishDefaults.inverts : Inverts PublishDefaults.read? PublishDefaults.toJson where
  back d := by
    rw [read?, toJson, Fields.read?_full (by decide) (by rfl)]
    simp [Fields.orElse_eq, Fields.member?, KeyList.get?, Inverts.bool.back, Inverts.qos.back]
  proper _ h := nomatch h

/-! ## Ids and names -/

theorem ConnectionId.inverts : Inverts ConnectionId.read? ConnectionId.toJson :=
  ⟨ConnectionId.parse?_text, fun _ h => nomatch h⟩

theorem Role.inverts : Inverts (Json.variant? Role.table) fun r => .str r.text :=
  .variant fun r => by cases r <;> rfl

theorem Protocol.inverts : Inverts (Json.variant? Protocol.table) fun q => .str q.scheme :=
  .variant fun q => by cases q <;> rfl

theorem Version.inverts : Inverts (Json.variant? Version.table) fun v => .str v.text :=
  .variant fun v => by cases v <;> rfl

theorem CertificateKind.inverts :
    Inverts (Json.looseVariant? CertificateKind.table) fun k => .str k.text :=
  .looseVariant fun k => by cases k <;> rfl

end DeviceConsole
