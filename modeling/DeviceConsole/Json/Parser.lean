import DeviceConsole.Json.Numeral

/-!
# Reading JSON texts

The reader takes one value from the front of a text and returns the rest.  Failures carry the rest
at which they were noticed, and `Failure.describe` turns that into a line and a column, counted in
bytes.  This file defines:

* `readString`, with its escapes and surrogate pairs;
* `readValue`, which admits 127 brackets inside each other;
* `Json.parse`, the whole text as one value.
-/

namespace DeviceConsole

namespace Json

def byteCount (text : List Char) : Nat := text.foldl (fun count c => count + c.utf8Size) 0

def isBlank (c : Char) : Bool := c = ' ' || c = '\n' || c = '\t' || c = '\r'

def skipBlanks (text : List Char) : List Char := text.dropWhile isBlank

/-! ## Strings -/

def hexDigit? (c : Char) : Option Nat :=
  if '0' ≤ c ∧ c ≤ '9' then some (c.toNat - '0'.toNat)
  else if 'a' ≤ c ∧ c ≤ 'f' then some (c.toNat - 'a'.toNat + 10)
  else if 'A' ≤ c ∧ c ≤ 'F' then some (c.toNat - 'A'.toNat + 10)
  else none

def hexQuad? (a b c d : Char) : Option Nat := do
  let a ← hexDigit? a
  let b ← hexDigit? b
  let c ← hexDigit? c
  let d ← hexDigit? d
  return ((a * 16 + b) * 16 + c) * 16 + d

def readHexQuad (text : List Char) : Except Failure (Nat × List Char) :=
  match text with
  | a :: b :: c :: d :: rest =>
    match hexQuad? a b c d with
    | some n => .ok (n, rest)
    | none => .error ⟨.wrongEscape, text, 4⟩
  | short =>
    if byteCount short < 4 then .error (.last .endInString [])
    else .error ⟨.wrongEscape, short, 4⟩

def readLowSurrogate (high : Nat) (text : List Char) : Except Failure (Char × List Char) :=
  match text with
  | '\\' :: 'u' :: rest => do
    let (low, rest) ← readHexQuad rest
    if 0xDC00 ≤ low ∧ low ≤ 0xDFFF then
      .ok (Char.ofNat ((high - 0xD800) * 0x400 + (low - 0xDC00) + 0x10000), rest)
    else .error (.last .loneSurrogate rest)
  | [] => .error (.last .endInString [])
  | '\\' :: [] => .error (.last .endInString [])
  | '\\' :: rest => .error (.next .endOfHexEscape rest)
  | rest => .error (.next .endOfHexEscape rest)

def readHexEscape (text : List Char) : Except Failure (Char × List Char) := do
  let (n, rest) ← readHexQuad text
  if 0xDC00 ≤ n ∧ n ≤ 0xDFFF then .error (.last .loneSurrogate rest)
  else if 0xD800 ≤ n ∧ n ≤ 0xDBFF then readLowSurrogate n rest
  else .ok (Char.ofNat n, rest)

def readEscape (text : List Char) : Except Failure (Char × List Char) :=
  match text with
  | [] => .error (.last .endInString [])
  | '"' :: rest => .ok ('"', rest)
  | '\\' :: rest => .ok ('\\', rest)
  | '/' :: rest => .ok ('/', rest)
  | 'b' :: rest => .ok ('\x08', rest)
  | 'f' :: rest => .ok ('\x0c', rest)
  | 'n' :: rest => .ok ('\n', rest)
  | 'r' :: rest => .ok ('\r', rest)
  | 't' :: rest => .ok ('\t', rest)
  | 'u' :: rest => readHexEscape rest
  | rest => .error (.next .wrongEscape rest)

/-- Reads the rest of a string, after its opening quote.  The fuel bounds the number of
characters. -/
def readString : Nat → List Char → List Char → Except Failure (String × List Char)
  | 0, _, text => .error (.last .endInString text)
  | fuel + 1, read, text =>
    match text with
    | [] => .error (.last .endInString [])
    | '"' :: rest => .ok (String.ofList read.reverse, rest)
    | '\\' :: rest => do
      let (c, rest) ← readEscape rest
      readString fuel (c :: read) rest
    | c :: rest =>
      if c.toNat < 0x20 then .error (.next .controlCharacter (c :: rest))
      else readString fuel (c :: read) rest

/-! ## Values -/

def readWord (value : Json) : List Char → List Char → Except Failure (Json × List Char)
  | [], text => .ok (value, text)
  | _ :: _, [] => .error (.last .endInValue [])
  | w :: word, c :: rest =>
    if c = w then readWord value word rest else .error (.next .wrongWord (c :: rest))

/-- Goes on after the name of a member: a colon has to follow. -/
def expectColon (text : List Char) : Except Failure (List Char) :=
  match skipBlanks text with
  | ':' :: rest => .ok rest
  | [] => .error (.last .endInObject [])
  | rest => .error (.next .missingColon rest)

/-- How many brackets may be open at once, plus one. -/
def depthLimit : Nat := 128

mutual

/-- Reads one value.  `depth` is the number of brackets that may still be opened, plus one. -/
def readValue : Nat → Nat → List Char → Except Failure (Json × List Char)
  | 0, _, text => .error (.last .endInValue text)
  | fuel + 1, depth, text =>
    match skipBlanks text with
    | [] => .error (.last .endInValue [])
    | 'n' :: rest => readWord .null ['u', 'l', 'l'] rest
    | 't' :: rest => readWord (.bool true) ['r', 'u', 'e'] rest
    | 'f' :: rest => readWord (.bool false) ['a', 'l', 's', 'e'] rest
    | '"' :: rest => do
      let (s, rest) ← readString (rest.length + 1) [] rest
      return (.str s, rest)
    | '[' :: rest =>
      if depth ≤ 1 then .error (.next .tooDeep ('[' :: rest))
      else do
        let (items, rest) ← readItems fuel (depth - 1) true rest
        return (.arr items, rest)
    | '\x7b' :: rest =>
      if depth ≤ 1 then .error (.next .tooDeep ('\x7b' :: rest))
      else do
        let (members, rest) ← readMembers fuel (depth - 1) true rest
        return (.obj members, rest)
    | '-' :: rest => do
      let (n, rest) ← readNumeral true rest
      return (.num n, rest)
    | c :: rest =>
      if (digit? c).isSome then do
        let (n, rest) ← readNumeral false (c :: rest)
        return (.num n, rest)
      else .error (.next .missingValue (c :: rest))

def readItems : Nat → Nat → Bool → List Char → Except Failure (List Json × List Char)
  | 0, _, _, text => .error (.last .endInList text)
  | fuel + 1, depth, first, text =>
    match skipBlanks text with
    | [] => .error (.last .endInList [])
    | ']' :: rest => .ok ([], rest)
    | ',' :: rest =>
      -- In the first place a comma is taken for an item, and refused as one.
      if first then readItem fuel depth (',' :: rest)
      else
        match skipBlanks rest with
        | [] => .error (.last .endInValue [])
        | ']' :: rest => .error (.next .trailingComma (']' :: rest))
        | rest => readItem fuel depth rest
    | rest =>
      if first then readItem fuel depth rest
      else .error (.next .missingListComma rest)

def readItem : Nat → Nat → List Char → Except Failure (List Json × List Char)
  | 0, _, text => .error (.last .endInList text)
  | fuel + 1, depth, text => do
    let (item, rest) ← readValue fuel depth text
    let (items, rest) ← readItems fuel depth false rest
    return (item :: items, rest)

def readMembers : Nat → Nat → Bool → List Char → Except Failure (List (String × Json) × List Char)
  | 0, _, _, text => .error (.last .endInObject text)
  | fuel + 1, depth, first, text =>
    match skipBlanks text with
    | [] => .error (.last .endInObject [])
    | '\x7d' :: rest => .ok ([], rest)
    | '"' :: rest =>
      if first then readMember fuel depth rest
      else .error (.next .missingObjectComma ('"' :: rest))
    | ',' :: rest =>
      if first then .error (.next .keyNotString (',' :: rest))
      else
        match skipBlanks rest with
        | [] => .error (.last .endInValue [])
        | '"' :: rest => readMember fuel depth rest
        | '\x7d' :: rest => .error (.next .trailingComma ('\x7d' :: rest))
        | rest => .error (.next .keyNotString rest)
    | rest => .error (.next (if first then .keyNotString else .missingObjectComma) rest)

/-- Reads one member, after the opening quote of its name, and the members after it. -/
def readMember : Nat → Nat → List Char → Except Failure (List (String × Json) × List Char)
  | 0, _, text => .error (.last .endInObject text)
  | fuel + 1, depth, text => do
    let (name, rest) ← readString (text.length + 1) [] text
    let rest ← expectColon rest
    let (value, rest) ← readValue fuel depth rest
    let (members, rest) ← readMembers fuel depth false rest
    return ((name, value) :: members, rest)

end

/-- Reads a whole text: one value, with nothing but blanks around it. -/
def parseChars (text : List Char) : Except Failure Json := do
  let (value, rest) ← readValue (3 * text.length + 3) depthLimit text
  match skipBlanks rest with
  | [] => return value
  | rest => .error (.next .trailingCharacters rest)

def parse (text : String) : Except Failure Json := parseChars text.toList

def parse? (text : String) : Option Json := (parse text).toOption

/-! ## Places -/

/-- The line and the column of the place that lies a number of bytes into a text. -/
def locate : Nat → Nat → Nat → List Char → Nat × Nat
  | _, line, column, [] => (line, column)
  | bytes, line, column, c :: rest =>
    if bytes = 0 then (line, column)
    else if c = '\n' then locate (bytes - 1) (line + 1) 0 rest
    else if bytes ≤ c.utf8Size then (line, column + bytes)
    else locate (bytes - c.utf8Size) line (column + c.utf8Size) rest

/-- The wording of a failure in a text, with its place. -/
def Failure.describe (failure : Failure) (text : List Char) : String :=
  let (line, column) := locate (byteCount text - byteCount failure.rest + failure.ahead) 1 0 text
  failure.fault.message ++ " at line " ++ toString line ++ " column " ++ toString column

end Json

end DeviceConsole
