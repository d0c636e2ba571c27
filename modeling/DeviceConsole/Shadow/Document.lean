import DeviceConsole.Json.Printer

/-!
# Shadow documents

A document maps names to values, and values may be documents themselves.  Entries are kept in the
order of their names.  This file defines:

* `DocumentValue` and `Document`, with `get?`, `insert` and `remove`;
* `Document.ofJson?` and `Document.toJson`, which pass between documents and JSON objects;
* `Document.patch`, the merge in which null removes a name;
* `Document.WellFormed`: names increase at every level.
-/

namespace DeviceConsole

/-- A value inside a document: a document, or any other JSON value. -/
inductive DocumentValue where
  | document (entries : List (String × DocumentValue))
  | scalar (value : Json)
  deriving Repr, Inhabited

/-- A document: its entries in the order of their names. -/
structure Document where
  entries : List (String × DocumentValue)
  deriving Repr, Inhabited

namespace DocumentValue

def isNull : DocumentValue → Bool
  | scalar .null => true
  | _ => false

def document? : DocumentValue → Option Document
  | document entries => some ⟨entries⟩
  | scalar _ => none

mutual

/-- Reads a JSON value: objects become documents. -/
def ofJson : Json → DocumentValue
  | .obj members => .document (KeyList.ofList (entriesOfMembers members))
  | other => .scalar other.canonical

def entriesOfMembers : List (String × Json) → List (String × DocumentValue)
  | [] => []
  | (name, value) :: rest => (name, ofJson value) :: entriesOfMembers rest

end

mutual

def toJson : DocumentValue → Json
  | .document entries => .obj (membersOfEntries entries)
  | .scalar value => value

def membersOfEntries : List (String × DocumentValue) → List (String × Json)
  | [] => []
  | (name, value) :: rest => (name, toJson value) :: membersOfEntries rest

end

mutual

/-- Merges the entries of a patch into entries, one after the other.  A nested document is merged
into the document of that name, or into an empty one; null removes; anything else replaces. -/
def patchEntries (entries : List (String × DocumentValue)) :
    List (String × DocumentValue) → List (String × DocumentValue)
  | [] => entries
  | (name, value) :: rest => patchEntries (patchEntry entries name value) rest

def patchEntry (entries : List (String × DocumentValue)) (name : String) :
    DocumentValue → List (String × DocumentValue)
  | .document nested =>
    let inner := match KeyList.get? name entries with
      | some (.document existing) => existing
      | _ => []
    KeyList.insert name (.document (patchEntries inner nested)) entries
  | .scalar .null => KeyList.erase name entries
  | .scalar value => KeyList.insert name (.scalar value) entries

end

mutual

/-- Names increase in this value and in every document below it. -/
def WellFormed : DocumentValue → Prop
  | .document entries => KeyList.Ordered entries ∧ EntriesWellFormed entries
  | .scalar _ => True

def EntriesWellFormed : List (String × DocumentValue) → Prop
  | [] => True
  | (_, value) :: rest => WellFormed value ∧ EntriesWellFormed rest

end

end DocumentValue

namespace Document

def empty : Document := ⟨[]⟩

def toValue (d : Document) : DocumentValue := .document d.entries

def get? (d : Document) (name : String) : Option DocumentValue := KeyList.get? name d.entries

def insert (d : Document) (name : String) (value : DocumentValue) : Document :=
  ⟨KeyList.insert name value d.entries⟩

def remove (d : Document) (name : String) : Document := ⟨KeyList.erase name d.entries⟩

def size (d : Document) : Nat := d.entries.length

def isEmpty (d : Document) : Bool := d.entries.isEmpty

/-- Collects entries; the last of several with one name stays. -/
def ofEntries (entries : List (String × DocumentValue)) : Document := ⟨KeyList.ofList entries⟩

def ofJson? : Json → Option Document
  | .obj members => some ⟨KeyList.ofList (DocumentValue.entriesOfMembers members)⟩
  | _ => none

def toJson (d : Document) : Json := d.toValue.toJson

def patch (d p : Document) : Document := ⟨DocumentValue.patchEntries d.entries p.entries⟩

/-- Names increase at every level. -/
def WellFormed (d : Document) : Prop := d.toValue.WellFormed

end Document

end DeviceConsole
