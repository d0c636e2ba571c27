import DeviceConsole.Proofs.Shadow.Lookup

/-!
# Paths into documents

A path of names leads from a document to a value inside it, through a document for each name but the
last.  This file defines

* `DocumentValue.at?` and `Document.at?`, the value at the end of a path;
* `Document.dropAt`, the document without the entry at the end of a path;

and proves `DocumentValue.get?_patchEntries_diffEntries`, what a patch by a delta leaves under a
name.
-/

namespace DeviceConsole

namespace DocumentValue

/-! ## Walking along a path -/

def at? : List String → DocumentValue → Option DocumentValue
  | [], value => some value
  | name :: path, .document entries => (KeyList.get? name entries).bind (at? path)
  | _ :: _, .scalar _ => none

variable {entries existing nested wanted : List (String × DocumentValue)}
  {name : String} {path : List String} {value inner : DocumentValue}

theorem at?_cons_eq_some :
    (document entries).at? (name :: path) = some value ↔
      ∃ inner, KeyList.get? name entries = some inner ∧ inner.at? path = some value := by
  rw [at?, Option.bind_eq_some_iff]

/-- Whatever has something further down is a document. -/
theorem eq_document_of_at? (found : inner.at? (name :: path) = some value) :
    ∃ entries, inner = .document entries := by
  cases inner with
  | document entries => exact ⟨entries, rfl⟩
  | scalar _ => cases found

/-- Also a value from which a path leads to a document is one. -/
theorem eq_document_of_at?_document (found : inner.at? path = some (.document nested)) :
    ∃ entries, inner = .document entries := by
  cases path with
  | nil =>
      cases found
      exact ⟨nested, rfl⟩
  | cons name path => exact eq_document_of_at? found

/-- Takes away the entry at the end of a path; without such an entry nothing changes. -/
def dropAt : List String → List (String × DocumentValue) → List (String × DocumentValue)
  | [], entries => entries
  | [name], entries => KeyList.erase name entries
  | name :: next :: path, entries =>
    match KeyList.get? name entries with
    | some (.document inner) =>
      KeyList.insert name (.document (dropAt (next :: path) inner)) entries
    | _ => entries

theorem dropAt_cons_cons {next : String}
    (found : KeyList.get? name entries = some (.document nested)) :
    dropAt (name :: next :: path) entries =
      KeyList.insert name (.document (dropAt (next :: path) nested)) entries := by
  rw [dropAt, found]

theorem ordered_dropAt (h : KeyList.Ordered entries) (path : List String) :
    KeyList.Ordered (dropAt path entries) := by
  match path with
  | [] => exact h
  | [_] => exact KeyList.ordered_erase h
  | _ :: _ :: _ =>
      rw [dropAt]
      split
      · exact KeyList.ordered_insert h
      · exact h

/-! ## Documents patched by a delta -/

/-- Two documents ask for the delta of their entries, if there is any. -/
theorem diffValue_document (nested existing : List (String × DocumentValue)) :
    diffValue (.document nested) (some (.document existing)) =
      if (diffEntries existing nested).isEmpty then none
      else some (.document (diffEntries existing nested)) := by
  rw [diffValue]
  cases diffEntries existing nested with
  | nil => rfl
  | cons => rfl

/-- Below its first name a path finds the same in what two documents ask for and in their delta. -/
theorem bind_at?_diffValue (nested existing : List (String × DocumentValue)) (name : String)
    (path : List String) :
    (diffValue (.document nested) (some (.document existing))).bind (at? (name :: path)) =
      (document (diffEntries existing nested)).at? (name :: path) := by
  rw [diffValue_document]
  cases diffEntries existing nested with
  | nil => rfl
  | cons => rfl

theorem diffValue_scalar (want present : Json) :
    diffValue (.scalar want) (some (.scalar present)) =
      if sameScalar want present then none else some (.scalar want) := by
  rw [diffValue]

theorem diffValue_scalar_document (want : Json) (existing : List (String × DocumentValue)) :
    diffValue (.scalar want) (some (.document existing)) = some (.scalar want) := by
  cases want with
  | null | bool | num | str | arr | obj => rfl

/-- What becomes of a value by the patch with what it is asked for. -/
def settled (actual : Option DocumentValue) (wanted : DocumentValue) : Option DocumentValue :=
  match diffValue wanted actual with
  | some missing => patchedValue actual missing
  | none => actual

/-- What is asked for as a whole is settled as it would be without the comparison. -/
theorem settled_eq_patchedValue {actual : Option DocumentValue}
    (asked : diffValue value actual = some value) :
    settled actual value = patchedValue actual value := by
  rw [settled, asked]

theorem settled_document (nested existing : List (String × DocumentValue)) :
    settled (some (.document existing)) (.document nested) =
      some (.document (patchEntries existing (diffEntries existing nested))) := by
  rw [settled, diffValue_document]
  cases diffEntries existing nested with
  | nil => rfl
  | cons => rfl

/-- The patch by a delta settles what is wanted, and changes nothing else. -/
theorem get?_patchEntries_diffEntries (reported : List (String × DocumentValue))
    (ordered : KeyList.Ordered wanted) (name : String) :
    KeyList.get? name (patchEntries reported (diffEntries reported wanted)) =
      match KeyList.get? name wanted with
      | some value => settled (KeyList.get? name reported) value
      | none => KeyList.get? name reported := by
  rw [get?_patchEntries reported (ordered_diffEntries reported ordered),
    get?_diffEntries reported ordered]
  cases KeyList.get? name wanted with
  | none => rfl
  | some value => rfl

end DocumentValue

namespace Document

def at? (d : Document) (path : List String) : Option DocumentValue := d.toValue.at? path

def dropAt (d : Document) (path : List String) : Document := ⟨DocumentValue.dropAt path d.entries⟩

end Document

end DeviceConsole
