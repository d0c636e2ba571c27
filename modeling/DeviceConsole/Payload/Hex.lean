import DeviceConsole.Text.Utf8

/-!
# Payloads as hexadecimal digits

Two digits per byte, written in lower case and read in either case.  This file defines:

* `Hex.encode` and `Hex.decode`;
* `Hex.Fault`, why a text is refused, with its wording.
-/

namespace DeviceConsole

namespace Hex

inductive Fault where
  /-- The number of bytes is odd. -/
  | oddLength
  /-- The byte at this position is no digit. -/
  | wrongDigit (byte : UInt8) (position : Nat)
  deriving DecidableEq, Repr

/-- The digit of a value below sixteen, in lower case. -/
def digit (n : Nat) : Char :=
  if n < 10 then Char.ofNat ('0'.toNat + n) else Char.ofNat ('a'.toNat + (n - 10))

def value? (b : UInt8) : Option Nat :=
  if 0x30 ≤ b ∧ b ≤ 0x39 then some (b.toNat - 0x30)
  else if 0x61 ≤ b ∧ b ≤ 0x66 then some (b.toNat - 0x61 + 10)
  else if 0x41 ≤ b ∧ b ≤ 0x46 then some (b.toNat - 0x41 + 10)
  else none

/-- The digits of a number without leading zeros. -/
def ofNat (n : Nat) : List Char := Nat.toDigits 16 n

def encode : Bytes → List Char
  | [] => []
  | b :: rest => digit (b.toNat / 16) :: digit (b.toNat % 16) :: encode rest

/-- Reads pairs of digits; the position counts the bytes in front. -/
def decodePairs (position : Nat) : Bytes → Except Fault Bytes
  | [] => .ok []
  | [_] => .error .oddLength
  | a :: b :: rest =>
    match value? a, value? b with
    | none, _ => .error (.wrongDigit a position)
    | some _, none => .error (.wrongDigit b (position + 1))
    | some high, some low =>
      match decodePairs (position + 2) rest with
      | .ok bytes => .ok (UInt8.ofNat (high * 16 + low) :: bytes)
      | .error fault => .error fault

/-- Reads the bytes of a text; its length is looked at first. -/
def decode (text : Bytes) : Except Fault Bytes :=
  if text.length % 2 = 1 then .error .oddLength else decodePairs 0 text

/-- A byte as a character of the first 256, in quotes, with an escape where it has no picture. -/
def showByte (b : UInt8) : String :=
  let body :=
    if b = 0x00 then "\\0"
    else if b = 0x09 then "\\t"
    else if b = 0x0A then "\\n"
    else if b = 0x0D then "\\r"
    else if b = 0x27 then "\\\x27"
    else if b = 0x5C then "\\\\"
    else if b < 0x20 ∨ (0x7F ≤ b ∧ b ≤ 0xA0) ∨ b = 0xAD then
      "\\u\x7b" ++ String.ofList (ofNat b.toNat) ++ "\x7d"
    else String.ofList [Char.ofNat b.toNat]
  "\x27" ++ body ++ "\x27"

def Fault.message : Fault → String
  | oddLength => "Odd number of digits"
  | wrongDigit byte position =>
    "Invalid character " ++ showByte byte ++ " at position " ++ ToString.toString position

end Hex

end DeviceConsole
