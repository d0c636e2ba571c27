import DeviceConsole.Proofs.Json.Canonical
import DeviceConsole.Proofs.Shadow.WellFormed

/-!
# Documents stand for JSON objects

In a document every JSON object is a document itself, so that a patch can reach into it.  This file
defines

* `Json.Plain`: a value that may stand in a document as a scalar;
* `Document.Faithful`: names are in order, and scalars are plain;
* `Document.Built`: what the operations on documents and on JSON values can yield;

and proves

* `Document.ofJson?_toJson` and `Document.map_toJson_ofJson?`, that a faithful document and the
  object it stands for determine each other;
* `Document.Built.faithful`, that the operations yield nothing else.
-/

namespace DeviceConsole

/-- What a document holds as a scalar: no object, and where an array in it holds objects, these have
their members in key order. -/
structure Json.Plain (leaf : Json) : Prop where
  not_object : leaf.isObject = false
  canonical : leaf.canonical = leaf

namespace DocumentValue

variable {entries nested : List (String × DocumentValue)} {value : DocumentValue} {leaf : Json}

/-! ## To JSON and back -/

theorem membersOfEntries_eq_map (entries : List (String × DocumentValue)) :
    membersOfEntries entries = entries.map (Prod.map id toJson) := by
  induction entries with
  | nil => rfl
  | cons entry rest ih =>
      obtain ⟨name, value⟩ := entry
      rw [membersOfEntries, ih]
      rfl

theorem membersOfEntries_insert (name : String) (value : DocumentValue)
    (entries : List (String × DocumentValue)) :
    membersOfEntries (KeyList.insert name value entries) =
      KeyList.insert name value.toJson (membersOfEntries entries) := by
  rw [membersOfEntries_eq_map, membersOfEntries_eq_map, KeyList.insert_map]

theorem membersOfEntries_erase (name : String) (entries : List (String × DocumentValue)) :
    membersOfEntries (KeyList.erase name entries) =
      KeyList.erase name (membersOfEntries entries) := by
  rw [membersOfEntries_eq_map, membersOfEntries_eq_map, KeyList.erase_map]

theorem membersOfEntries_ofList (entries : List (String × DocumentValue)) :
    membersOfEntries (KeyList.ofList entries) = KeyList.ofList (membersOfEntries entries) := by
  rw [membersOfEntries_eq_map, membersOfEntries_eq_map, KeyList.ofList_map]

theorem entriesOfMembers_eq_map (members : List (String × Json)) :
    entriesOfMembers members = members.map (Prod.map id ofJson) := by
  induction members with
  | nil => rfl
  | cons member rest ih =>
      obtain ⟨name, value⟩ := member
      rw [entriesOfMembers, ih]
      rfl

mutual

/-- What was read is written in key order. -/
theorem toJson_ofJson : (json : Json) → (ofJson json).toJson = json.canonical
  | .obj members => by
      rw [ofJson, toJson, membersOfEntries_ofList, membersOfEntries_entriesOfMembers members,
        Json.canonical]
  | .null | .bool _ | .num _ | .str _ | .arr _ => rfl

theorem membersOfEntries_entriesOfMembers : (members : List (String × Json)) →
    membersOfEntries (entriesOfMembers members) = Json.canonicalMembers members
  | [] => rfl
  | (name, value) :: rest => by
      rw [entriesOfMembers, membersOfEntries, Json.canonicalMembers, toJson_ofJson value,
        membersOfEntries_entriesOfMembers rest]

end

theorem ofJson_of_plain (plain : leaf.Plain) : ofJson leaf = .scalar leaf := by
  rcases plain with ⟨leafless, canonical⟩
  cases leaf with
  | obj => cases leafless
  | null | bool | num | str | arr => exact congrArg DocumentValue.scalar canonical

/-- Scalars that are read are plain. -/
theorem plain_of_ofJson {json : Json} (read : ofJson json = .scalar leaf) : leaf.Plain := by
  cases json with
  | obj => cases read
  | null | bool | num | str | arr =>
      cases read
      exact ⟨Json.isObject_canonical _, Json.canonical_canonical _⟩

/-! ## Faithful values -/

/-- Names are in order at every level, and no scalar is an object that should be a document. -/
structure Faithful (value : DocumentValue) : Prop where
  formed : value.WellFormed
  plain : value.Scalars Json.Plain

theorem faithful_document_iff :
    Faithful (.document entries) ↔
      KeyList.Ordered entries ∧ ∀ entry ∈ entries, entry.2.Faithful := by
  constructor
  · rintro ⟨formed, plain⟩
    rcases formed_iff.1 formed with ⟨ordered, values⟩
    exact ⟨ordered, fun entry member =>
      ⟨values entry member, scalars_document_iff.1 plain entry member⟩⟩
  · rintro ⟨ordered, values⟩
    exact ⟨formed_iff.2 ⟨ordered, fun entry member => (values entry member).formed⟩,
      .document fun entry member => (values entry member).plain⟩

theorem closed_faithful : Closed Faithful where
  empty := ⟨closed_wellFormed.empty, (closed_scalars _).empty⟩
  found whole there :=
    ⟨closed_wellFormed.found whole.formed there, (closed_scalars _).found whole.plain there⟩
  insert whole fresh :=
    ⟨closed_wellFormed.insert whole.formed fresh.formed,
      (closed_scalars _).insert whole.plain fresh.plain⟩
  erase whole := ⟨closed_wellFormed.erase whole.formed, (closed_scalars _).erase whole.plain⟩

theorem faithful_scalar (plain : leaf.Plain) : Faithful (.scalar leaf) := ⟨trivial, .scalar plain⟩

theorem faithful_ofJson (json : Json) : (ofJson json).Faithful :=
  closed_faithful.ofJson (fun _ _ read => faithful_scalar (plain_of_ofJson read)) json

theorem Faithful.patchEntries (whole : Faithful (.document entries))
    (patch : Faithful (.document nested)) : Faithful (.document (patchEntries entries nested)) :=
  closed_faithful.patchEntries whole (patch.plain.imp fun _ => faithful_scalar)

/-- A faithful value is read from what is written for it. -/
theorem Faithful.ofJson_toJson (h : value.Faithful) : ofJson value.toJson = value := by
  induction value using induction with
  | document entries ih =>
      rcases faithful_document_iff.1 h with ⟨ordered, values⟩
      -- Reading collects the entries, which leaves entries in order as they are.
      have same : entriesOfMembers (membersOfEntries entries) = entries := by
        rw [entriesOfMembers_eq_map, membersOfEntries_eq_map, List.map_map]
        calc
          entries.map (Prod.map id ofJson ∘ Prod.map id toJson) = entries.map id :=
            List.map_congr_left fun entry member =>
              Prod.ext rfl (ih entry member (values entry member))
          _ = entries := List.map_id entries
      rw [toJson, ofJson, same, KeyList.ofList_of_ordered ordered]
  | scalar leaf => exact ofJson_of_plain (scalars_scalar_iff.1 h.plain)

/-! ## What operations yield -/

/-- The values that come from JSON by the operations on documents. -/
inductive Built : DocumentValue → Prop where
  | value (json : Json) : Built (ofJson json)
  | empty : Built Document.empty.toValue
  | read {json : Json} {d : Document} : Document.ofJson? json = some d → Built d.toValue
  | found {d : Document} {name : String} {value : DocumentValue} :
      Built d.toValue → d.get? name = some value → Built value
  | insert {d : Document} {name : String} {value : DocumentValue} :
      Built d.toValue → Built value → Built (d.insert name value).toValue
  | remove {d : Document} {name : String} : Built d.toValue → Built (d.remove name).toValue
  | collect {entries : List (String × DocumentValue)} :
      (∀ entry ∈ entries, Built entry.2) → Built (Document.ofEntries entries).toValue
  | patch {d p : Document} : Built d.toValue → Built p.toValue → Built (d.patch p).toValue

theorem Built.faithful (h : value.Built) : value.Faithful := by
  induction h with
  | value json => exact faithful_ofJson json
  | empty => exact closed_faithful.empty
  | @read json d read =>
      cases json with
      | obj members =>
          cases read
          exact faithful_ofJson (.obj members)
      | null | bool | num | str | arr => cases read
  | found _ there whole => exact closed_faithful.found whole there
  | insert _ _ whole fresh => exact closed_faithful.insert whole fresh
  | remove _ whole => exact closed_faithful.erase whole
  | collect _ values => exact closed_faithful.ofList values
  | patch _ _ whole patch => exact whole.patchEntries patch

end DocumentValue

/-! ## Documents -/

namespace Document

open DocumentValue

def Faithful (d : Document) : Prop := d.toValue.Faithful

/-- The document comes from JSON values by the operations on documents. -/
def Built (d : Document) : Prop := d.toValue.Built

theorem Built.faithful {d : Document} (h : d.Built) : d.Faithful := DocumentValue.Built.faithful h

theorem Faithful.patch {d p : Document} (h : d.Faithful) (hp : p.Faithful) :
    (d.patch p).Faithful :=
  h.patchEntries hp

/-- A faithful document is read from the object that is written for it. -/
theorem ofJson?_toJson {d : Document} (h : d.Faithful) : ofJson? d.toJson = some d := by
  have same : document _ = document d.entries := h.ofJson_toJson
  exact congrArg (fun entries => some (Document.mk entries)) (DocumentValue.document.inj same)

/-- An object that is read is written in key order. -/
theorem map_toJson_ofJson? {json : Json} (h : json.isObject = true) :
    (ofJson? json).map toJson = some json.canonical := by
  cases json with
  | obj members => exact congrArg some (toJson_ofJson (.obj members))
  | null | bool | num | str | arr => cases h

end Document

end DeviceConsole
