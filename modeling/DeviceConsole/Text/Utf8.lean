/-!
# Characters as bytes

Payloads are bytes, and the operator reads and writes text.  This file defines:

* `Utf8.encode`, the bytes of a text;
* `Utf8.decodeLossy`, which reads any bytes: each longest start of a character that does not go on
  as one is read as a single replacement character.
-/

namespace DeviceConsole

/-- A payload on the wire. -/
abbrev Bytes := List UInt8

namespace Utf8

def encode (text : List Char) : Bytes := text.flatMap String.utf8EncodeChar

def ofString (text : String) : Bytes := encode text.toList

def replacement : Char := '\ufffd'

/-- Whether a byte can only go on a character. -/
def isTail (b : UInt8) : Bool := 0x80 ≤ b && b ≤ 0xBF

/-- What the first byte of a character says: its payload bits, how many bytes follow, and the range
of the byte that follows it. -/
structure Lead where
  bits : Nat
  following : Nat
  least : UInt8
  greatest : UInt8

/-- Reads a first byte; none if no character starts with it. -/
def lead? (b : UInt8) : Option Lead :=
  if b < 0x80 then some ⟨b.toNat, 0, 0, 0⟩
  else if 0xC2 ≤ b ∧ b ≤ 0xDF then some ⟨b.toNat - 0xC0, 1, 0x80, 0xBF⟩
  else if b = 0xE0 then some ⟨0, 2, 0xA0, 0xBF⟩
  else if b = 0xED then some ⟨0xD, 2, 0x80, 0x9F⟩
  else if 0xE1 ≤ b ∧ b ≤ 0xEF then some ⟨b.toNat - 0xE0, 2, 0x80, 0xBF⟩
  else if b = 0xF0 then some ⟨0, 3, 0x90, 0xBF⟩
  else if 0xF1 ≤ b ∧ b ≤ 0xF3 then some ⟨b.toNat - 0xF0, 3, 0x80, 0xBF⟩
  else if b = 0xF4 then some ⟨4, 3, 0x80, 0x8F⟩
  else none

/-- Appends the bits of a following byte. -/
def push (bits : Nat) (b : UInt8) : Nat := bits * 64 + (b.toNat - 0x80)

/-- The character that starts with a byte, and how many of the bytes that follow belong to it.
Where the bytes stop being a character, those read so far count as one replacement. -/
def readChar (a : UInt8) (rest : Bytes) : Char × Nat :=
  match lead? a with
  | none => (replacement, 0)
  | some lead =>
    match lead.following, rest with
    | 0, _ => (Char.ofNat lead.bits, 0)
    | _ + 1, [] => (replacement, 0)
    | following + 1, b :: rest =>
      if ¬ (lead.least ≤ b ∧ b ≤ lead.greatest) then (replacement, 0)
      else
        match following, rest with
        | 0, _ => (Char.ofNat (push lead.bits b), 1)
        | _ + 1, [] => (replacement, 1)
        | following + 1, c :: rest =>
          if ¬ isTail c then (replacement, 1)
          else
            match following, rest with
            | 0, _ => (Char.ofNat (push (push lead.bits b) c), 2)
            | _ + 1, [] => (replacement, 2)
            | _ + 1, d :: _ =>
              if isTail d then (Char.ofNat (push (push (push lead.bits b) c) d), 3)
              else (replacement, 2)

/-- Reads any bytes as text, after skipping those that belong to the character before. -/
def decodeFrom : Nat → Bytes → List Char
  | _, [] => []
  | skip + 1, _ :: rest => decodeFrom skip rest
  | 0, a :: rest => (readChar a rest).1 :: decodeFrom (readChar a rest).2 rest

/-- Reads any bytes as text. -/
def decodeLossy (bytes : Bytes) : List Char := decodeFrom 0 bytes

def toString (bytes : Bytes) : String := String.ofList (decodeLossy bytes)

def toString? (bytes : Bytes) : Option String :=
  let text := decodeLossy bytes
  if encode text = bytes then some (String.ofList text) else none

end Utf8

end DeviceConsole
