import DeviceConsole.Json.Value
import DeviceConsole.Qos

/-!
# Reading JSON values as typed values

A reader turns a JSON value into a value of some type or refuses it.  Records are objects, or arrays
of their fields in order; unknown members are ignored, and a member that occurs twice is refused.
This file defines:

* readers for texts, truth values, bounded integers, lists and maps;
* `Json.variant?` and `Json.looseVariant?`, for types whose values are names;
* `Json.tagged?`, for records that name their kind;
* `Fields`, the members of a record by name, with `required`, `orElse` and `optional`.
-/

namespace DeviceConsole

abbrev Reader (α : Type) := Json → Option α

namespace Json

def nat? (limit : Nat) : Reader Nat := fun value =>
  match value.int? with
  | some (.ofNat n) => if n ≤ limit then some n else none
  | _ => none

def word8? : Reader UInt8 := fun value => (nat? (UInt8.size - 1) value).map UInt8.ofNat

def word16? : Reader UInt16 := fun value => (nat? (UInt16.size - 1) value).map UInt16.ofNat

def word32? : Reader UInt32 := fun value => (nat? (UInt32.size - 1) value).map UInt32.ofNat

def word64? : Reader UInt64 := fun value => (nat? (UInt64.size - 1) value).map UInt64.ofNat

def int64? : Reader Int := fun value =>
  match value.int? with
  | some i => if -Int.pow 2 63 ≤ i ∧ i < Int.pow 2 63 then some i else none
  | none => none

def nullable? {α : Type} (read : Reader α) : Reader (Option α) := fun value =>
  match value with
  | .null => some none
  | value => (read value).map some

def list? {α : Type} (read : Reader α) : Reader (List α) := fun value =>
  match value with
  | .arr items => items.mapM read
  | _ => none

/-- A map; the last of several members with one name stays. -/
def map? {α : Type} (read : Reader α) : Reader (KeyMap α) := fun value =>
  match value with
  | .obj members =>
    (members.mapM fun member => (read member.2).map (member.1, ·)).map KeyMap.ofList
  | _ => none

/-- A name out of a table, alone or as the only member of an object, with null. -/
def variant? {α : Type} (table : List (String × α)) : Reader α := fun value =>
  match value with
  | .str name => table.lookup name
  | .obj [(name, .null)] => table.lookup name
  | _ => none

/-- A name out of a table, as `variant?` reads it, where an empty object may stand for the null. -/
def looseVariant? {α : Type} (table : List (String × α)) : Reader α := fun value =>
  match value with
  | .obj [(name, .obj [])] => table.lookup name
  | value => variant? table value

/-- A record that names its kind under a tag: an object with the tag among its members, or an array
that starts with the kind.  The answer is the kind and what is left of the record. -/
def tagged? (tag : String) : Reader (String × Json) := fun value =>
  match value with
  | .obj members =>
    match members.filter (·.1 = tag) with
    | [(_, .str kind)] => some (kind, .obj (members.filter (·.1 ≠ tag)))
    | _ => none
  | .arr (.str kind :: rest) => some (kind, .arr rest)
  | _ => none

def qos? : Reader Qos := fun value => (word8? value).bind fun level => Qos.ofLevel? level.toNat

end Json

/-! ## Records -/

/-- The members of a record by name.  In a positional record every field without a default has been
written. -/
structure Fields where
  entries : List (String × Json)
  positional : Bool

namespace Fields

/-- The members with known names, unless one of them occurs twice. -/
def known? (names : List String) (members : List (String × Json)) :
    Option (List (String × Json)) :=
  let entries := members.filter fun member => names.contains member.1
  if (entries.map (·.1)).Nodup then some entries else none

/-- The fields of a record with these names: from an object, or from an array with at most as many
items. -/
def read? (names : List String) : Reader Fields := fun value =>
  match value with
  | .obj members => (known? names members).map (⟨·, false⟩)
  | .arr items =>
    if items.length ≤ names.length then some ⟨names.zip items, true⟩ else none
  | _ => none

def member? (fields : Fields) (name : String) : Option Json :=
  KeyList.get? name fields.entries

def required {α : Type} (fields : Fields) (name : String) (read : Reader α) : Option α :=
  (fields.member? name).bind read

def orElse {α : Type} (fields : Fields) (name : String) (read : Reader α) (default : α) :
    Option α :=
  match fields.member? name with
  | some value => read value
  | none => some default

def optional {α : Type} (fields : Fields) (name : String) (read : Reader α) : Option (Option α) :=
  fields.orElse name (Json.nullable? read) none

/-- A field that may be null, and that may be missing only where fields are named. -/
def named {α : Type} (fields : Fields) (name : String) (read : Reader α) : Option (Option α) :=
  if fields.positional then fields.required name (Json.nullable? read)
  else fields.optional name read

end Fields

/-! ## Writing records -/

namespace Json

/-- A member that is left out if there is no value. -/
def optionalMember {α : Type} (name : String) (encode : α → Json) : Option α → List (String × Json)
  | none => []
  | some a => [(name, encode a)]

def ofTextMap (map : KeyMap String) : Json :=
  .obj (map.entries.map fun entry => (entry.1, .str entry.2))

def ofWord8 (w : UInt8) : Json := .ofNat w.toNat

def ofWord16 (w : UInt16) : Json := .ofNat w.toNat

def ofWord32 (w : UInt32) : Json := .ofNat w.toNat

def ofWord64 (w : UInt64) : Json := .ofNat w.toNat

def ofQos (qos : Qos) : Json := .ofNat qos.level

end Json

end DeviceConsole
