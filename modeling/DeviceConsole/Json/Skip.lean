import DeviceConsole.Json.Parser

/-!
# Skipping JSON values

A value that nobody reads only has to be well formed: its numerals may be of any size, the code
units in its strings need not form characters, and its brackets may lie inside each other to any
depth.  This file defines:

* `skipString?`, `skipNumeral?` and `skipScalar?`, for values without brackets;
* `skipValue?`, for all values.
-/

namespace DeviceConsole

namespace Json

/-! ## Values without brackets -/

/-- Whether a character names an escape that stands for itself alone. -/
def isEscapeLetter (c : Char) : Bool := ['"', '\\', '/', 'b', 'f', 'n', 'r', 't'].contains c

def skipString? : List Char → Option (List Char)
  | [] => none
  | '"' :: rest => some rest
  | '\\' :: 'u' :: a :: b :: c :: d :: rest =>
    if (hexQuad? a b c d).isSome then skipString? rest else none
  | '\\' :: c :: rest => if isEscapeLetter c then skipString? rest else none
  | c :: rest => if c.toNat < 0x20 then none else skipString? rest

def skipSomeDigits? (text : List Char) : Option (List Char) :=
  if startsWithDigit text then some (skipDigits 0 text).2 else none

def skipExponent? : List Char → Option (List Char)
  | '+' :: rest => skipSomeDigits? rest
  | '-' :: rest => skipSomeDigits? rest
  | rest => skipSomeDigits? rest

def skipTail? : List Char → Option (List Char)
  | 'e' :: rest => skipExponent? rest
  | 'E' :: rest => skipExponent? rest
  | rest => some rest

def skipFraction? : List Char → Option (List Char)
  | '.' :: rest => (skipSomeDigits? rest).bind skipTail?
  | rest => skipTail? rest

/-- Skips a numeral after its sign; a leading zero stands alone. -/
def skipNumeral? : List Char → Option (List Char)
  | '0' :: rest => if startsWithDigit rest then none else skipFraction? rest
  | text => (skipSomeDigits? text).bind skipFraction?

def skipScalar? : List Char → Option (List Char)
  | 'n' :: 'u' :: 'l' :: 'l' :: rest => some rest
  | 't' :: 'r' :: 'u' :: 'e' :: rest => some rest
  | 'f' :: 'a' :: 'l' :: 's' :: 'e' :: rest => some rest
  | '"' :: rest => skipString? rest
  | '-' :: rest => skipNumeral? rest
  | text => skipNumeral? text

/-! ## All values -/

/-- What is open while a value is skipped. -/
inductive Bracket where
  | list
  | object
  deriving DecidableEq, Repr

def skipName? (text : List Char) : Option (List Char) :=
  match skipBlanks text with
  | '"' :: rest => do
    match skipBlanks (← skipString? rest) with
    | ':' :: rest => some rest
    | _ => none
  | _ => none

/-- Skips up to the end of the outermost open bracket.  The flag tells that a value comes next, and
not what follows one.  Every round takes a character, so the fuel bounds their number. -/
def skipFrom? : Nat → Bool → List Bracket → List Char → Option (List Char)
  | 0, _, _, _ => none
  | fuel + 1, true, opened, text =>
    match skipBlanks text with
    | '[' :: rest =>
      match skipBlanks rest with
      | ']' :: rest => skipFrom? fuel false opened rest
      | rest => skipFrom? fuel true (.list :: opened) rest
    | '\x7b' :: rest =>
      match skipBlanks rest with
      | '\x7d' :: rest => skipFrom? fuel false opened rest
      | rest =>
        match skipName? rest with
        | some rest => skipFrom? fuel true (.object :: opened) rest
        | none => none
    | text =>
      match skipScalar? text with
      | some rest => skipFrom? fuel false opened rest
      | none => none
  | _ + 1, false, [], text => some text
  | fuel + 1, false, bracket :: opened, text =>
    match bracket, skipBlanks text with
    | .list, ']' :: rest => skipFrom? fuel false opened rest
    | .object, '\x7d' :: rest => skipFrom? fuel false opened rest
    | .list, ',' :: rest => skipFrom? fuel true (.list :: opened) rest
    | .object, ',' :: rest =>
      match skipName? rest with
      | some rest => skipFrom? fuel true (.object :: opened) rest
      | none => none
    | _, _ => none

def skipValue? (text : List Char) : Option (List Char) :=
  skipFrom? (text.length + 1) true [] text

end Json

end DeviceConsole
