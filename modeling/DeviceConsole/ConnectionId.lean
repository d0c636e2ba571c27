import DeviceConsole.Payload.Hex
import DeviceConsole.Json.Parser

/-!
# Connection ids

A connection is identified by 128 bits, written as 32 hexadecimal digits in five groups.  This file
defines:

* `ConnectionId`, with `text` and the shortened `debugText`;
* `ConnectionId.parse?`, which also reads ids without hyphens, in braces, or as a name of the `uuid`
  scheme.
-/

namespace DeviceConsole

structure ConnectionId where
  value : BitVec 128
  deriving DecidableEq, Repr

namespace ConnectionId

instance : Inhabited ConnectionId := ⟨⟨0⟩⟩

/-- The lengths of the groups of digits. -/
def groups : List Nat := [8, 4, 4, 4, 12]

/-- The digits of an id, most significant first. -/
def digits (id : ConnectionId) : List Char :=
  (List.range 32).map fun i => Hex.digit (id.value.toNat / Nat.pow 16 (31 - i) % 16)

/-- Cuts a text into groups with hyphens between them. -/
def hyphenate : List Nat → List Char → List Char
  | [], _ => []
  | [n], text => text.take n
  | n :: more, text => text.take n ++ '-' :: hyphenate more (text.drop n)

/-- The written form: hyphenated digits in lower case. -/
def chars (id : ConnectionId) : List Char := hyphenate groups id.digits

def text (id : ConnectionId) : String := String.ofList id.chars

def debugText (id : ConnectionId) : String :=
  "ConnectionId(" ++ String.ofList (id.chars.take 8) ++ "...)"

def ofDigits? (digits : List Char) : Option ConnectionId := do
  let values ← digits.mapM Json.hexDigit?
  return ⟨BitVec.ofNat 128 (values.foldl (fun n d => n * 16 + d) 0)⟩

/-- The digits of a text in which every group but the first follows a hyphen. -/
def dropHyphens? : List Nat → List Char → Option (List Char)
  | [], [] => some []
  | [], _ => none
  | [n], text => if text.length = n then some text else none
  | n :: more, text =>
    match text.drop n with
    | '-' :: rest =>
      if n ≤ text.length then (dropHyphens? more rest).map (text.take n ++ ·) else none
    | _ => none

def ofHyphenated? (text : List Char) : Option ConnectionId :=
  (dropHyphens? groups text).bind ofDigits?

/-- The mark of a name of the `uuid` scheme. -/
def schemeMark : List Char := "urn:uuid:".toList

/-- Reads an id in any of its written forms; letters of the mark may have either case. -/
def ofChars? (text : List Char) : Option ConnectionId :=
  match text with
  | '\x7b' :: rest =>
    match rest.reverse with
    | '\x7d' :: inner => ofHyphenated? inner.reverse
    | _ => none
  | text =>
    if text.length = 32 then ofDigits? text
    else if (text.take 9).map Char.toLower = schemeMark then ofHyphenated? (text.drop 9)
    else ofHyphenated? text

def parse? (text : String) : Option ConnectionId := ofChars? text.toList

end ConnectionId

end DeviceConsole
