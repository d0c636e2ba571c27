import DeviceConsole.Json.Reader
import DeviceConsole.Json.Skip

/-!
# Reading the parts of a text that matter

A record has members that its reader knows, and maybe others.  The others are skipped: they have to
be well formed, but nobody asks for their values.  This file defines:

* `Outline`, which parts of a value are read;
* `readOutlined`, which reads a value and leaves out what its outline leaves out;
* `Json.readAs?`, a whole text as a typed value.
-/

namespace DeviceConsole

namespace Json

/-- Which parts of a value are read. -/
inductive Outline where
  /-- All of it. -/
  | whole
  /-- The items of an array, each in outline. -/
  | list (item : Outline)
  /-- The known members of a record, each in outline; a record may be an array of them.  With the
  flag its other members are read as well. -/
  | record (others : Bool) (known : List (String × Outline))

namespace Outline

/-- The outline of a record that reads the members with these names; some of them have outlines of
their own. -/
def ofNames (names : List String) (inner : List (String × Outline)) : Outline :=
  .record false (names.map fun name => (name, (inner.lookup name).getD .whole))

/-- The outline of the member with this name, if it is read. -/
def member? : Outline → String → Option Outline
  | .record others known, name =>
    match known.lookup name with
    | some outline => some outline
    | none => if others then some .whole else none
  | _, _ => some .whole

def head : Outline → Outline
  | .list item => item
  | .record _ (first :: _) => first.2
  | _ => .whole

def tail : Outline → Outline
  | .record others (_ :: known) => .record others known
  | outline => outline

end Outline

/-! ## Reading -/

def readName? (text : List Char) : Option (String × List Char) :=
  match skipBlanks text with
  | '"' :: rest => do
    let (name, rest) ← (readString (rest.length + 1) [] rest).toOption
    return (name, ← (expectColon rest).toOption)
  | _ => none

mutual

/-- Reads one value in outline.  `depth` is the number of brackets that may still be opened, plus
one. -/
def readOutlined : Nat → Nat → Outline → List Char → Option (Json × List Char)
  | 0, _, _, _ => none
  | fuel + 1, depth, .whole, text => (readValue (fuel + 1) depth text).toOption
  | fuel + 1, depth, outline, text =>
    match skipBlanks text with
    | '[' :: rest =>
      if depth ≤ 1 then none
      else
        match skipBlanks rest with
        | ']' :: rest => some (.arr [], rest)
        | rest => do
          let (items, rest) ← readOutlinedItems fuel (depth - 1) outline rest
          return (.arr items, rest)
    | '\x7b' :: rest =>
      if depth ≤ 1 then none
      else
        match skipBlanks rest with
        | '\x7d' :: rest => some (.obj [], rest)
        | rest => do
          let (members, rest) ← readOutlinedMembers fuel (depth - 1) outline rest
          return (.obj members, rest)
    | text => (readValue (fuel + 1) depth text).toOption

/-- Reads the items of an array that is not empty, up to its closing bracket. -/
def readOutlinedItems : Nat → Nat → Outline → List Char → Option (List Json × List Char)
  | 0, _, _, _ => none
  | fuel + 1, depth, outline, text => do
    let (item, rest) ← readOutlined fuel depth outline.head text
    match skipBlanks rest with
    | ']' :: rest => return ([item], rest)
    | ',' :: rest => do
      let (items, rest) ← readOutlinedItems fuel depth outline.tail rest
      return (item :: items, rest)
    | _ => none

/-- Reads the members of an object that is not empty, up to its closing bracket. -/
def readOutlinedMembers :
    Nat → Nat → Outline → List Char → Option (List (String × Json) × List Char)
  | 0, _, _, _ => none
  | fuel + 1, depth, outline, text => do
    let (name, rest) ← readName? text
    let (read, rest) ← (
      match outline.member? name with
      | some inner => do
        let (value, rest) ← readOutlined fuel depth inner rest
        return ([(name, value)], rest)
      | none => do return ([], ← skipValue? rest))
    match skipBlanks rest with
    | '\x7d' :: rest => return (read, rest)
    | ',' :: rest => do
      let (members, rest) ← readOutlinedMembers fuel depth outline rest
      return (read ++ members, rest)
    | _ => none

end

def parseOutlined? (outline : Outline) (text : List Char) : Option Json := do
  let (value, rest) ← readOutlined (3 * text.length + 3) depthLimit outline text
  if skipBlanks rest = [] then some value else none

/-- The value of a text, as far as its outline goes.  A text that can be read in full is read in
full. -/
def parseAs? (outline : Outline) (text : String) : Option Json :=
  parse? text <|> parseOutlined? outline text.toList

/-- The outline does not matter for a text that can be read in full. -/
theorem parseAs?_eq_some {outline : Outline} {text : String} {value : Json}
    (h : parse? text = some value) : parseAs? outline text = some value := by
  simp [parseAs?, h]

/-- Reads a text as a typed value, whose reader looks at no more than the outline. -/
def readAs? {α : Type} (outline : Outline) (read : Reader α) (text : String) : Option α :=
  (parseAs? outline text).bind read

end Json

end DeviceConsole
