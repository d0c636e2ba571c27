import DeviceConsole.Json.Value

/-!
# Reading decimal numerals

A numeral is read in two roundings: its leading digits, as many as fit into 64 bits, become the
nearest double, and that double is scaled by the double nearest to a power of ten.  This file
defines:

* `accumulate`, collecting digits while they fit;
* `scaled?`, the scaling step with its refusal of numerals that are too large;
* `Fault` and `Failure`, what can be wrong with a text and where it was noticed.
-/

namespace DeviceConsole

namespace Json

/-! ## Faults of a text -/

inductive Fault where
  | endInList
  | endInObject
  | endInString
  | endInValue
  | missingColon
  | missingListComma
  | missingObjectComma
  | wrongWord
  | missingValue
  | wrongEscape
  | wrongNumber
  | numberTooLarge
  | controlCharacter
  | keyNotString
  | loneSurrogate
  | trailingComma
  | trailingCharacters
  | endOfHexEscape
  | tooDeep
  deriving DecidableEq, Repr

def Fault.message : Fault → String
  | endInList => "EOF while parsing a list"
  | endInObject => "EOF while parsing an object"
  | endInString => "EOF while parsing a string"
  | endInValue => "EOF while parsing a value"
  | missingColon => "expected `:`"
  | missingListComma => "expected `,` or `]`"
  | missingObjectComma => "expected `,` or `\x7d`"
  | wrongWord => "expected ident"
  | missingValue => "expected value"
  | wrongEscape => "invalid escape"
  | wrongNumber => "invalid number"
  | numberTooLarge => "number out of range"
  | controlCharacter => "control character (\\u0000-\\u001F) found while parsing a string"
  | keyNotString => "key must be a string"
  | loneSurrogate => "lone leading surrogate in hex escape"
  | trailingComma => "trailing comma"
  | trailingCharacters => "trailing characters"
  | endOfHexEscape => "unexpected end of hex escape"
  | tooDeep => "recursion limit exceeded"

/-- A fault together with the text that was unread when it was noticed, and the number of bytes of
that text which belong to the place of the fault. -/
structure Failure where
  fault : Fault
  rest : List Char
  ahead : Nat
  deriving Repr

/-- The fault lies at the next character, or at the end of the text. -/
def Failure.next (fault : Fault) (rest : List Char) : Failure :=
  ⟨fault, rest, if rest.isEmpty then 0 else 1⟩

/-- The fault lies at the last character that was read. -/
def Failure.last (fault : Fault) (rest : List Char) : Failure := ⟨fault, rest, 0⟩

/-! ## Digits -/

def digit? (c : Char) : Option Nat :=
  if '0' ≤ c ∧ c ≤ '9' then some (c.toNat - '0'.toNat) else none

def startsWithDigit : List Char → Bool
  | c :: _ => (digit? c).isSome
  | [] => false

/-- Appends digits to a number while it stays below a limit.  Returns the number, how many digits
went into it, and the rest from the first character that did not. -/
def accumulate (limit : Nat) : Nat → Nat → List Char → Nat × Nat × List Char
  | number, taken, [] => (number, taken, [])
  | number, taken, c :: rest =>
    match digit? c with
    | none => (number, taken, c :: rest)
    | some d =>
      if number * 10 + d ≤ limit then accumulate limit (number * 10 + d) (taken + 1) rest
      else (number, taken, c :: rest)

def skipDigits : Nat → List Char → Nat × List Char
  | count, [] => (count, [])
  | count, c :: rest =>
    if (digit? c).isSome then skipDigits (count + 1) rest else (count, c :: rest)

/-- The largest number that fits into 64 bits without a sign. -/
def wordMax : Nat := UInt64.size - 1

/-- The largest exponent that is still counted. -/
def exponentMax : Nat := Nat.pow 2 31 - 1

/-! ## Scaling -/

/-- The largest power of ten that is below infinity. -/
def tenLimit : Nat := 308

/-- Divides by the largest power of ten until the exponent is in its range; a zero stays. -/
def scaleDown : Nat → Nat → Nat → Nat
  | 0, magnitude, exponent => Magnitude.div magnitude (Magnitude.tenPower exponent)
  | rounds + 1, magnitude, exponent =>
    if magnitude = 0 then 0
    else if exponent ≤ tenLimit then Magnitude.div magnitude (Magnitude.tenPower exponent)
    else
      scaleDown rounds (Magnitude.div magnitude (Magnitude.tenPower tenLimit))
        (exponent - tenLimit)

/-- The magnitude of a decimal with these leading digits and this power of ten; none if it is not
finite. -/
def scaled? (digits : Nat) (exponent : Int) : Option Nat :=
  let magnitude := Magnitude.ofNat digits
  match exponent with
  | .ofNat e =>
    if e ≤ tenLimit then
      let product := Magnitude.mul magnitude (Magnitude.tenPower e)
      if product < Magnitude.infinity then some product else none
    else if magnitude = 0 then some 0
    else none
  | .negSucc e => some (scaleDown (e / tenLimit + 1) magnitude (e + 1))

/-! ## Numerals -/

/-- A double with the given sign, or the failure of a numeral that is too large. -/
def finish (negative : Bool) (digits : Nat) (exponent : Int) (rest : List Char) :
    Except Failure (Number × List Char) :=
  match scaled? digits exponent with
  | some magnitude => .ok (.float ⟨negative, magnitude⟩, rest)
  | none => .error (.last .numberTooLarge rest)

def readExponent (negative : Bool) (digits : Nat) (start : Int) (text : List Char) :
    Except Failure (Number × List Char) :=
  let (down, text) := match text with
    | '+' :: rest => (false, rest)
    | '-' :: rest => (true, rest)
    | rest => (false, rest)
  if startsWithDigit text then
    let (exponent, _, rest) := accumulate exponentMax 0 0 text
    if startsWithDigit rest then
      -- So large an exponent decides alone whether the numeral is too large or zero.
      if digits ≠ 0 ∧ ¬ down then .error (.last .numberTooLarge (rest.drop 1))
      else .ok (.float ⟨negative, 0⟩, (skipDigits 0 rest).2)
    else finish negative digits (if down then start - exponent else start + exponent) rest
  else if text.isEmpty then .error (.last .endInValue text)
  else .error (.next .wrongNumber text)

def readTail (negative : Bool) (digits : Nat) (exponent : Int) (text : List Char) :
    Except Failure (Number × List Char) :=
  match text with
  | 'e' :: rest => readExponent negative digits exponent rest
  | 'E' :: rest => readExponent negative digits exponent rest
  | rest => finish negative digits exponent rest

/-- Reads the digits after a decimal point; those that no longer fit are skipped. -/
def readFraction (negative : Bool) (digits : Nat) (exponent : Int) (text : List Char) :
    Except Failure (Number × List Char) :=
  if startsWithDigit text then
    let (digits, taken, rest) := accumulate wordMax digits 0 text
    readTail negative digits (exponent - taken) (skipDigits 0 rest).2
  else .error (.next (if text.isEmpty then .endInValue else .wrongNumber) text)

/-- An integer if it fits into 64 bits, with or without a sign, else the nearest double.  The
negative zero is a double. -/
def integer (negative : Bool) (digits : Nat) : Number :=
  if negative then
    if digits = 0 ∨ Nat.pow 2 63 < digits then .float ⟨true, Magnitude.ofNat digits⟩
    else .int (- (digits : Int))
  else .int digits

/-- Reads what follows the digits in front of the point. -/
def readAfterInteger (negative : Bool) (digits : Nat) (text : List Char) :
    Except Failure (Number × List Char) :=
  match text with
  | '.' :: rest => readFraction negative digits 0 rest
  | 'e' :: rest => readExponent negative digits 0 rest
  | 'E' :: rest => readExponent negative digits 0 rest
  | rest => .ok (integer negative digits, rest)

/-- Reads what follows an integer that does not fit: its further digits only count. -/
def readAfterLongInteger (negative : Bool) (digits : Nat) (text : List Char) :
    Except Failure (Number × List Char) :=
  let (dropped, rest) := skipDigits 0 text
  match rest with
  | '.' :: rest => readFraction negative digits dropped rest
  | rest => readTail negative digits dropped rest

def readNumeral (negative : Bool) (text : List Char) : Except Failure (Number × List Char) :=
  match text with
  | [] => .error (.last .endInValue [])
  | '0' :: rest =>
    if startsWithDigit rest then .error (.next .wrongNumber rest)
    else readAfterInteger negative 0 rest
  | c :: rest =>
    if (digit? c).isSome then
      let (digits, _, rest) := accumulate wordMax 0 0 (c :: rest)
      if startsWithDigit rest then readAfterLongInteger negative digits rest
      else readAfterInteger negative digits rest
    else .error (.next .wrongNumber (c :: rest))

end Json

end DeviceConsole
