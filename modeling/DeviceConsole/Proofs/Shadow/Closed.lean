import DeviceConsole.Proofs.Shadow.Lookup

/-!
# What operations on documents keep

A patch inserts and removes names one at a time, in a document and in those below it.  What these
two steps keep, the whole patch keeps.  This file defines

* `DocumentValue.Scalars holds`: every scalar of a value, at whatever depth, satisfies `holds`;
* `DocumentValue.Closed kept`: what `kept` says of values survives lookups, insertions and removals;

and proves

* `DocumentValue.Closed.ofList`, for entries that are collected;
* `DocumentValue.Closed.patchEntries`, for patches;
* `DocumentValue.Closed.ofJson`, for values that are read.
-/

namespace DeviceConsole

namespace DocumentValue

variable {holds also : Json → Prop} {kept : DocumentValue → Prop}
  {entries patch : List (String × DocumentValue)} {name : String} {value : DocumentValue}
  {leaf : Json}

/-! ## Scalars of a value -/

/-- Every scalar of a value satisfies a condition. -/
inductive Scalars (holds : Json → Prop) : DocumentValue → Prop where
  | document {entries : List (String × DocumentValue)} :
      (∀ entry ∈ entries, Scalars holds entry.2) → Scalars holds (.document entries)
  | scalar {leaf : Json} : holds leaf → Scalars holds (.scalar leaf)

theorem scalars_document_iff :
    Scalars holds (.document entries) ↔ ∀ entry ∈ entries, entry.2.Scalars holds := by
  constructor
  · intro h
    cases h with
    | document each => exact each
  · exact .document

theorem scalars_scalar_iff : Scalars holds (.scalar leaf) ↔ holds leaf := by
  constructor
  · intro h
    cases h with
    | scalar held => exact held
  · exact .scalar

theorem Scalars.imp (weaker : ∀ leaf, holds leaf → also leaf) (h : value.Scalars holds) :
    value.Scalars also := by
  induction h with
  | document _ ih => exact .document ih
  | scalar held => exact .scalar (weaker _ held)

/-- A condition on all JSON values is one on the scalars of every value. -/
theorem scalars_of_forall (all : ∀ leaf, holds leaf) (value : DocumentValue) :
    value.Scalars holds := by
  induction value using induction with
  | document entries ih => exact .document ih
  | scalar leaf => exact .scalar (all leaf)

/-! ## Closed conditions -/

/-- A condition on values that passes to what is found in a document, and that a document keeps when
such a value is inserted or a name is removed. -/
structure Closed (kept : DocumentValue → Prop) : Prop where
  empty : kept (.document [])
  found : ∀ {entries name value}, kept (.document entries) →
    KeyList.get? name entries = some value → kept value
  insert : ∀ {entries name value}, kept (.document entries) → kept value →
    kept (.document (KeyList.insert name value entries))
  erase : ∀ {entries name}, kept (.document entries) →
    kept (.document (KeyList.erase name entries))

theorem closed_scalars (holds : Json → Prop) : Closed (Scalars holds) where
  empty := .document nofun
  found whole there := scalars_document_iff.1 whole _ (KeyList.mem_of_get? there)
  insert whole fresh := by
    refine .document fun entry member => ?_
    rcases KeyList.mem_insert member with rfl | member
    · exact fresh
    · exact scalars_document_iff.1 whole entry member
  erase whole := by
    refine .document fun entry member => ?_
    exact scalars_document_iff.1 whole entry (List.mem_filter.1 member).1

/-- A patch keeps what each of its entries keeps. -/
theorem kept_patchEntries_of_forall (whole : kept (.document entries))
    (each : ∀ entry ∈ patch, ∀ {entries}, kept (.document entries) →
      kept (.document (patchEntry entries entry.1 entry.2))) :
    kept (.document (patchEntries entries patch)) := by
  induction patch generalizing entries with
  | nil => exact whole
  | cons entry rest ih =>
      rw [patchEntries]
      refine ih (each entry List.mem_cons_self whole) ?_
      intro other member
      exact each other (List.mem_cons_of_mem _ member)

namespace Closed

variable (closed : Closed kept)

include closed

/-- What a document of a patch is merged into satisfies the condition. -/
theorem entriesOf (whole : kept (.document entries)) (name : String) :
    kept (.document (entriesOf (KeyList.get? name entries))) := by
  match there : KeyList.get? name entries with
  | some (.document existing) => exact closed.found whole there
  | some (.scalar _) | none => exact closed.empty

/-- Entries are collected by insertions into an empty document. -/
theorem ofList (values : ∀ entry ∈ entries, kept entry.2) :
    kept (.document (KeyList.ofList entries)) := by
  refine List.foldlRecOn entries _ (motive := fun acc => kept (.document acc)) closed.empty ?_
  intro acc whole entry member
  exact closed.insert whole (values entry member)

/-- One entry of a patch keeps the condition if the scalars in it satisfy it. -/
theorem patchEntry (whole : kept (.document entries)) (name : String)
    (leaves : value.Scalars fun leaf => kept (.scalar leaf)) :
    kept (.document (patchEntry entries name value)) := by
  induction leaves generalizing entries name with
  | @document nested _ ih =>
      rw [patchEntry_document]
      -- What it is merged into satisfies the condition, and so does each step of the merge.
      refine closed.insert whole (kept_patchEntries_of_forall (closed.entriesOf whole name) ?_)
      intro entry member inner within
      exact ih entry member within entry.1
  | @scalar leaf held =>
      cases leaf with
      | null => exact closed.erase whole
      | bool | num | str | arr | obj => exact closed.insert whole held

/-- A patch keeps the condition if the scalars in it satisfy it. -/
theorem patchEntries (whole : kept (.document entries))
    (leaves : (document patch).Scalars fun leaf => kept (.scalar leaf)) :
    kept (.document (patchEntries entries patch)) :=
  kept_patchEntries_of_forall whole fun entry member _ within =>
    closed.patchEntry within entry.1 (scalars_document_iff.1 leaves entry member)

end Closed

/-! ## Values that are read -/

mutual

/-- Whatever is read satisfies the condition if the scalars that are read do. -/
theorem Closed.ofJson (closed : Closed kept)
    (leaves : ∀ json leaf, ofJson json = .scalar leaf → kept (.scalar leaf)) :
    (json : Json) → kept (ofJson json)
  | .obj members => closed.ofList (closed.entriesOfMembers leaves members)
  | .null => leaves .null _ rfl
  | .bool b => leaves (.bool b) _ rfl
  | .num n => leaves (.num n) _ rfl
  | .str text => leaves (.str text) _ rfl
  | .arr items => leaves (.arr items) _ rfl

theorem Closed.entriesOfMembers (closed : Closed kept)
    (leaves : ∀ json leaf, DocumentValue.ofJson json = .scalar leaf → kept (.scalar leaf)) :
    (members : List (String × Json)) → ∀ entry ∈ entriesOfMembers members, kept entry.2
  | [], _, member => nomatch member
  | (_, value) :: rest, entry, member => by
      rcases List.mem_cons.1 member with rfl | later
      · exact closed.ofJson leaves value
      · exact closed.entriesOfMembers leaves rest entry later

end

end DocumentValue

end DeviceConsole
