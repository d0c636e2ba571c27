import DeviceConsole.Toml.Text
import DeviceConsole.Number.Binary64

/-!
# Numbers and dates in settings files

Only integers have a value here; of floats and dates it matters whether they are well formed.  This
file defines:

* `integer?`, decimal or with a base, of 64 bits with a sign;
* `float?`, refused if it rounds to positive infinity;
* `dateTime?`, dates and times of day that exist.
-/

namespace DeviceConsole

namespace Toml

/-! ## Digits -/

def digit? (base : Nat) (c : Char) : Option Nat := (Json.hexDigit? c).filter (· < base)

/-- Takes digits; an underscore may stand between two of them. -/
def digitsFrom (base : Nat) : List Char → Option (List Nat × List Char)
  | '_' :: c :: rest => do
    let d ← digit? base c
    let (more, rest) ← digitsFrom base rest
    return (d :: more, rest)
  | ['_'] => none
  | c :: rest =>
    match digit? base c with
    | some d => do
      let (more, rest) ← digitsFrom base rest
      return (d :: more, rest)
    | none => some ([], c :: rest)
  | [] => some ([], [])

def digits? (base : Nat) : Step (List Nat) := fun text =>
  match text with
  | c :: _ => if (digit? base c).isSome then digitsFrom base text else none
  | [] => none

def ofDigits (base : Nat) (digits : List Nat) : Nat := digits.foldl (fun n d => n * base + d) 0

/-- Takes a sign, if there is one; the answer tells whether it is a minus. -/
def sign : List Char → Bool × List Char
  | '-' :: rest => (true, rest)
  | '+' :: rest => (false, rest)
  | text => (false, text)

/-- Takes decimal digits without a leading zero; a zero stands alone. -/
def plainDigits? : Step (List Nat)
  | '0' :: rest => some ([0], rest)
  | text => digits? 10 text

/-! ## Integers -/

def bounded? (i : Int) : Option Int :=
  if -Int.pow 2 63 ≤ i ∧ i < Int.pow 2 63 then some i else none

def based? (base : Nat) : Step Int := fun text => do
  let (digits, rest) ← digits? base text
  return (← bounded? (ofDigits base digits), rest)

def integer? : Step Int := fun text =>
  match text with
  | '0' :: 'x' :: rest => based? 16 rest
  | '0' :: 'o' :: rest => based? 8 rest
  | '0' :: 'b' :: rest => based? 2 rest
  | text => do
    let (negative, rest) := sign text
    let (digits, rest) ← plainDigits? rest
    let n : Int := ofDigits 10 digits
    return (← bounded? (if negative then -n else n), rest)

/-! ## Floats -/

/-- Whether `n * 10 ^ exponent` rounds to infinity.  Below a count of 309 digits it never does,
above it always does. -/
def overflows (n : Nat) (exponent : Int) : Bool :=
  let size := (Nat.toDigits 10 n).length + exponent
  if n = 0 ∨ size < 309 then false
  else if 309 < size then true
  else if 0 ≤ exponent then Magnitude.infinity ≤ Magnitude.ofNat (n * Nat.pow 10 exponent.toNat)
  else Magnitude.infinity ≤ Magnitude.ofQuotient n (Nat.pow 10 (-exponent).toNat)

def exponent? : Step Int := fun text => do
  let (negative, rest) := sign text
  let (digits, rest) ← digits? 10 rest
  let n : Int := ofDigits 10 digits
  return (if negative then -n else n, rest)

/-- Takes an exponent with its letter, or nothing. -/
def exponentOrZero? : Step Int := fun text =>
  match text with
  | 'e' :: rest => exponent? rest
  | 'E' :: rest => exponent? rest
  | rest => some (0, rest)

/-- Takes the fraction and the exponent of a float, one of which has to be there.  The answer is the
digits of the fraction and the exponent. -/
def fraction? : Step (List Nat × Int) := fun text =>
  match text with
  | '.' :: rest => do
    let (digits, rest) ← digits? 10 rest
    let (exponent, rest) ← exponentOrZero? rest
    return ((digits, exponent), rest)
  | 'e' :: rest => (exponent? rest).map fun found => (([], found.1), found.2)
  | 'E' :: rest => (exponent? rest).map fun found => (([], found.1), found.2)
  | _ => none

def special? : Step Unit
  | 'i' :: 'n' :: 'f' :: rest => some ((), rest)
  | 'n' :: 'a' :: 'n' :: rest => some ((), rest)
  | _ => none

def float? : Step Unit := fun text =>
  let (negative, unsigned) := sign text
  match special? unsigned with
  | some found => some found
  | none => do
    let (whole, rest) ← plainDigits? unsigned
    let ((fraction, exponent), rest) ← fraction? rest
    -- Only a negative number may lie beyond the doubles.
    if !negative && overflows (ofDigits 10 (whole ++ fraction)) (exponent - fraction.length) then
      none
    else some ((), rest)

/-! ## Dates -/

/-- Takes a number of exactly so many digits, within bounds. -/
def fixed? (count low high : Nat) : Step Nat := fun text => do
  let digits ← (text.take count).mapM (digit? 10)
  let n := ofDigits 10 digits
  if digits.length = count ∧ low ≤ n ∧ n ≤ high then some (n, text.drop count) else none

def mark? (c : Char) (text : List Char) : Option (List Char) :=
  match text with
  | [] => none
  | d :: rest => if c = d then some rest else none

def daysOf (year month : Nat) : Nat :=
  if month = 2 then
    if year % 4 = 0 ∧ (year % 100 ≠ 0 ∨ year % 400 = 0) then 29 else 28
  else if month = 4 ∨ month = 6 ∨ month = 9 ∨ month = 11 then 30
  else 31

def date? (text : List Char) : Option (List Char) := do
  let (year, rest) ← fixed? 4 0 9999 text
  let (month, rest) ← fixed? 2 1 12 (← mark? '-' rest)
  let (_, rest) ← fixed? 2 1 (daysOf year month) (← mark? '-' rest)
  return rest

/-- Takes a time of day; a minute may have a leap second. -/
def time? (text : List Char) : Option (List Char) := do
  let (_, rest) ← fixed? 2 0 23 text
  let (_, rest) ← fixed? 2 0 59 (← mark? ':' rest)
  let (_, rest) ← fixed? 2 0 60 (← mark? ':' rest)
  match rest with
  | '.' :: c :: more => if c.isDigit then some (more.dropWhile Char.isDigit) else some rest
  | rest => some rest

def offset? (text : List Char) : Option (List Char) :=
  match text with
  | 'Z' :: rest => some rest
  | 'z' :: rest => some rest
  | text => do
    let rest ← mark? '+' text <|> mark? '-' text
    let (_, rest) ← fixed? 2 0 23 rest
    let (_, rest) ← fixed? 2 0 59 (← mark? ':' rest)
    return rest

/-- Takes a time of day and a distance after a date, if they are there. -/
def timeAfterDate (text : List Char) : List Char :=
  match text with
  | [] => []
  | c :: rest =>
    if c = 'T' ∨ c = 't' ∨ c = ' ' then
      match time? rest with
      | some rest => (offset? rest).getD rest
      | none => text
    else text

def dateTime? : Step Unit := fun text =>
  match date? text with
  | some rest => some ((), timeAfterDate rest)
  | none => (time? text).map ((), ·)

end Toml

end DeviceConsole
