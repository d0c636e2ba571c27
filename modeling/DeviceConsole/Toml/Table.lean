import DeviceConsole.Toml.Scalar
import DeviceConsole.KeyMap

/-!
# Tables of settings files

A file is a list of statements: pairs, headers of tables, and headers of the items of lists of
tables.  No table is defined twice, and dotted keys extend only tables that dotted keys have made.
This file defines:

* `Value`, with tables that know how they came about;
* `insertAt?`, which adds a pair under a dotted key;
* `Statement` and `ofStatements?`, the table that a list of statements describes.
-/

namespace DeviceConsole

namespace Toml

inductive TableKind where
  /-- By a header of its own, or as the file itself. -/
  | header
  /-- By a header of a table inside it. -/
  | parent
  /-- By a dotted key. -/
  | dotted
  /-- By braces; such a table is complete. -/
  | complete
  deriving DecidableEq, Repr

inductive Value where
  | string (text : String)
  | integer (value : Int)
  | float
  | boolean (value : Bool)
  | dateTime
  | array (items : List Value)
  | table (kind : TableKind) (entries : List (String × Value))
  /-- A list of tables, the newest first. -/
  | tables (items : List (List (String × Value)))

structure Table where
  kind : TableKind
  entries : List (String × Value)

def Table.value (t : Table) : Value := .table t.kind t.entries

/-- Changes the table under a path.  Tables that are missing are made with the given kind; a dotted
path passes only tables without a header of their own. -/
def updateAt? (made : TableKind) (change : Table → Option Table) :
    List String → Table → Option Table
  | [], table => change table
  | key :: path, table => do
    let child ← (
      match KeyList.get? key table.entries with
      | none => (updateAt? made change path ⟨made, []⟩).map Table.value
      | some (.table kind entries) =>
        if kind = .complete ∨ (made = .dotted ∧ kind = .header) then none
        else (updateAt? made change path ⟨kind, entries⟩).map Table.value
      | some (.tables (newest :: older)) =>
        (updateAt? made change path ⟨.header, newest⟩).map fun t => .tables (t.entries :: older)
      | some _ => none)
    return { table with entries := KeyList.insert key child table.entries }

def Table.add? (t : Table) (key : String) (value : Value) : Option Table :=
  match KeyList.get? key t.entries with
  | some _ => none
  | none => some { t with entries := KeyList.insert key value t.entries }

def splitLast? (path : List String) : Option (List String × String) :=
  path.getLast?.map (path.dropLast, ·)

def insertAt? (path : List String) (value : Value) (table : Table) : Option Table := do
  let (parents, key) ← splitLast? path
  updateAt? .dotted
    (fun t => if parents = [] ∨ t.kind = .dotted then t.add? key value else none) parents table

def ofPairs? (pairs : List (List String × Value)) : Option Value := do
  let table ← pairs.foldlM (fun table pair => insertAt? pair.1 pair.2 table) ⟨.header, []⟩
  return .table .complete table.entries

/-! ## Statements -/

inductive Statement where
  | pair (path : List String) (value : Value)
  | header (path : List String)
  | itemHeader (path : List String)

def open? (path : List String) (root : Table) : Option Table := do
  let (parents, key) ← splitLast? path
  updateAt? .parent
    (fun t =>
      match KeyList.get? key t.entries with
      | none => t.add? key (.table .header [])
      | some (.table .parent entries) =>
        some { t with entries := KeyList.insert key (.table .header entries) t.entries }
      | some _ => none)
    parents root

def openItem? (path : List String) (root : Table) : Option Table := do
  let (parents, key) ← splitLast? path
  updateAt? .parent
    (fun t =>
      match KeyList.get? key t.entries with
      | none => t.add? key (.tables [[]])
      | some (.tables items) =>
        some { t with entries := KeyList.insert key (.tables ([] :: items)) t.entries }
      | some _ => none)
    parents root

/-- The table that statements describe; pairs go to the table that was opened last. -/
def build? : List String → Table → List Statement → Option Table
  | _, root, [] => some root
  | opened, root, .pair path value :: rest => do
    build? opened (← updateAt? .parent (insertAt? path value) opened root) rest
  | _, root, .header path :: rest => do build? path (← open? path root) rest
  | _, root, .itemHeader path :: rest => do build? path (← openItem? path root) rest

def ofStatements? (statements : List Statement) : Option Table :=
  build? [] ⟨.header, []⟩ statements

end Toml

end DeviceConsole
