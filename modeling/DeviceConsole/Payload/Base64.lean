import DeviceConsole.Text.Utf8

/-!
# Payloads as base64

The standard alphabet with padding.  A text is read only if it is the one that writing produces: its
padding is complete and the bits that no byte uses are zero.  This file defines:

* `Base64.encode` and `Base64.decode`, three bytes against four symbols;
* `Base64.Fault`, why a text is refused, with its wording.
-/

namespace DeviceConsole

namespace Base64

inductive Fault where
  /-- The byte at this offset does not belong there. -/
  | wrongSymbol (byte : UInt8) (offset : Nat)
  /-- The text ends inside a byte, after this many symbols. -/
  | wrongLength (length : Nat)
  /-- The last group of symbols is not filled up. -/
  | wrongPadding
  /-- The last symbol, at this offset, has bits that no byte uses. -/
  | wrongLastSymbol (byte : UInt8) (offset : Nat)
  deriving DecidableEq, Repr

def pad : UInt8 := 0x3D

def symbol (n : Nat) : UInt8 :=
  if n < 26 then UInt8.ofNat (0x41 + n)
  else if n < 52 then UInt8.ofNat (0x61 + (n - 26))
  else if n < 62 then UInt8.ofNat (0x30 + (n - 52))
  else if n = 62 then 0x2B
  else 0x2F

def value? (b : UInt8) : Option Nat :=
  if 0x41 ≤ b ∧ b ≤ 0x5A then some (b.toNat - 0x41)
  else if 0x61 ≤ b ∧ b ≤ 0x7A then some (b.toNat - 0x61 + 26)
  else if 0x30 ≤ b ∧ b ≤ 0x39 then some (b.toNat - 0x30 + 52)
  else if b = 0x2B then some 62
  else if b = 0x2F then some 63
  else none

/-- Four symbols for three bytes, and a filled up group for the bytes that remain. -/
def encode : Bytes → Bytes
  | [] => []
  | [a] => [symbol (a.toNat / 4), symbol (a.toNat % 4 * 16), pad, pad]
  | [a, b] =>
    [symbol (a.toNat / 4), symbol (a.toNat % 4 * 16 + b.toNat / 16), symbol (b.toNat % 16 * 4), pad]
  | a :: b :: c :: rest =>
    symbol (a.toNat / 4) :: symbol (a.toNat % 4 * 16 + b.toNat / 16) ::
      symbol (b.toNat % 16 * 4 + c.toNat / 64) :: symbol (c.toNat % 64) :: encode rest

/-- The three bytes of four values. -/
def join (a b c d : Nat) : Bytes :=
  [UInt8.ofNat (a * 4 + b / 16), UInt8.ofNat (b % 16 * 16 + c / 4), UInt8.ofNat (c % 4 * 64 + d)]

/-- The values of symbols in front of the last group, where padding has no place. -/
def values (offset : Nat) : Bytes → Except Fault (List Nat)
  | [] => .ok []
  | b :: rest =>
    match value? b with
    | none => .error (.wrongSymbol b offset)
    | some v =>
      match values (offset + 1) rest with
      | .ok vs => .ok (v :: vs)
      | .error fault => .error fault

/-- What has been seen of the last group: its values in reverse, the last symbol, and the offset and
number of its padding. -/
structure Tail where
  values : List Nat
  last : UInt8
  padding : Option (Nat × Nat)

/-- Reads the symbols and the padding of the last group.  `place` counts the bytes of the group. -/
def readTail (offset : Nat) : Nat → Tail → Bytes → Except Fault Tail
  | _, tail, [] => .ok tail
  | place, tail, b :: rest =>
    if b = pad then
      if place < 2 then .error (.wrongSymbol b (offset + place))
      else
        let padding := match tail.padding with
          | none => (offset + place, 1)
          | some (first, count) => (first, count + 1)
        readTail offset (place + 1) ⟨tail.values, tail.last, some padding⟩ rest
    else
      match tail.padding with
      | some (first, _) => .error (.wrongSymbol pad first)
      | none =>
        match value? b with
        | none => .error (.wrongSymbol b (offset + place))
        | some v => readTail offset (place + 1) ⟨v :: tail.values, b, none⟩ rest

/-- The bytes of the last group, if it is filled up and has no unused bits. -/
def closeTail (offset : Nat) (tail : Tail) : Except Fault Bytes :=
  let filled := (tail.padding.map (·.2)).getD 0
  match tail.values.reverse with
  | [a, b] =>
    if filled ≠ 2 then .error .wrongPadding
    else if b % 16 ≠ 0 then .error (.wrongLastSymbol tail.last (offset + 1))
    else .ok [UInt8.ofNat (a * 4 + b / 16)]
  | [a, b, c] =>
    if filled ≠ 1 then .error .wrongPadding
    else if c % 4 ≠ 0 then .error (.wrongLastSymbol tail.last (offset + 2))
    else .ok [UInt8.ofNat (a * 4 + b / 16), UInt8.ofNat (b % 16 * 16 + c / 4)]
  | [a, b, c, d] => .ok (join a b c d)
  | short => .error (.wrongLength (offset + short.length))

/-- Reads groups of four; the last one, complete or not, may be filled up. -/
def decodeGroups (offset : Nat) : Bytes → Except Fault Bytes
  | [] => .ok []
  | a :: b :: c :: d :: e :: rest =>
    match values offset [a, b, c, d] with
    | .error fault => .error fault
    | .ok vs =>
      match decodeGroups (offset + 4) (e :: rest) with
      | .error fault => .error fault
      | .ok bytes =>
        match vs with
        | [a, b, c, d] => .ok (join a b c d ++ bytes)
        | _ => .ok bytes
  | last =>
    match readTail offset 0 ⟨[], 0, none⟩ last with
    | .ok tail => closeTail offset tail
    | .error fault => .error fault

/-- Reads a text.  A single byte after complete groups that is no symbol is reported first. -/
def decode (text : Bytes) : Except Fault Bytes :=
  match text.getLast? with
  | none => .ok []
  | some last =>
    if text.length % 4 = 1 ∧ last ≠ pad ∧ value? last = none then
      .error (.wrongSymbol last (text.length - 1))
    else decodeGroups 0 text

def Fault.message : Fault → String
  | wrongSymbol byte offset =>
    "Invalid symbol " ++ toString byte ++ ", offset " ++ toString offset ++ "."
  | wrongLength length => "Invalid input length: " ++ toString length
  | wrongPadding => "Invalid padding"
  | wrongLastSymbol byte offset =>
    "Invalid last symbol " ++ toString byte ++ ", offset " ++ toString offset ++ "."

end Base64

end DeviceConsole
