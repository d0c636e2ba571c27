import DeviceConsole.Payload.Codec
import DeviceConsole.Proofs.Payload.Base64
import DeviceConsole.Proofs.Payload.Hex

/-!
# Texts that are payloads

Each mode turns texts into bytes and bytes into texts.  This file shows which texts a mode accepts,
and what becomes of a text, or of bytes, there and back:

* `Payload.encode_hex_iff` and `Payload.encode_base64_iff`: what is accepted, and as which bytes;
* `Payload.encode_decode_text_iff`: the bytes that the other modes give back;
* `Payload.modes_round_trip`, which puts the modes together.
-/

namespace DeviceConsole

namespace Payload

variable {text : String} {bytes : Bytes}

/-! ## Hexadecimal -/

theorem decode_hex_iff :
    decode bytes .hex = text.toLower ↔ text.toList.map Char.toLower = Hex.encode bytes := by
  have lower : text.toLower = text.map Char.toLower := rfl
  rw [decode, lower, ← String.toList_inj, String.toList_map, String.toList_ofList, eq_comm]

/-- A text becomes the bytes that are written like it in lower case. -/
theorem encode_hex_iff : encode text .hex = .ok bytes ↔ decode bytes .hex = text.toLower := by
  rw [decode_hex_iff, ← Hex.decode_eq_ok_iff, encode]
  cases Hex.decode (Utf8.ofString text) <;> simp

/-- A text is accepted if it is an even number of digits. -/
theorem exists_encode_hex_iff :
    (∃ bytes, encode text .hex = .ok bytes) ↔
      Even text.length ∧ ∀ c ∈ text.toList, Hex.IsDigit c := by
  have written := Hex.exists_encode_iff (text.toList.map Char.toLower)
  rw [List.length_map, String.length_toList, List.forall_mem_map] at written
  simp only [encode_hex_iff, decode_hex_iff, eq_comm (b := Hex.encode _)]
  exact written

/-- Bytes are written in lower case, and read back. -/
theorem encode_decode_hex (bytes : Bytes) : encode (decode bytes .hex) .hex = .ok bytes := by
  rw [encode_hex_iff, decode_hex_iff, decode, String.toList_ofList]
  refine (List.map_congr_left fun c member => ?_).trans (List.map_id _)
  exact Hex.toLower_digit c (Hex.mem_digits_of_mem_encode member)

theorem decode_hex_spells (bytes : Bytes) :
    Spells Hex.digits 4 0 bytes (decode bytes .hex).toList := by
  rw [decode, String.toList_ofList]
  exact Hex.encode_spells bytes

/-! ## Base64 -/

theorem encode_base64_iff :
    encode text .base64 = .ok bytes ↔ Base64.Canonical bytes text.toList := by
  rw [← Base64.decode_ofString_iff, encode]
  cases Base64.decode (Utf8.ofString text) <;> simp

theorem decode_base64_iff : decode bytes .base64 = text ↔ Base64.Canonical bytes text.toList := by
  rw [Base64.canonical_iff, ← String.toList_inj, decode, String.toList_ofList, eq_comm]
  rfl

/-! ## Text -/

/-- Bytes come back exactly if they are the bytes of a text. -/
theorem encode_decode_text_iff {mode : RenderMode} (h : mode = .plaintext ∨ mode = .json) :
    encode (decode bytes mode) mode = .ok bytes ↔ bytes.toByteArray.IsValidUTF8 := by
  rcases h with rfl | rfl <;>
    rw [decode, encode, Except.ok.injEq, Utf8.ofString_toString_iff]

/-! ## All modes -/

/-- Hexadecimal and base64 give back all bytes.  Hexadecimal accepts an even number of digits, each
for four bits, and gives them back in lower case; base64 accepts canonical texts, and gives them
back as they are.  The other modes accept all texts and give them back, and of bytes those that are
UTF-8. -/
theorem modes_round_trip :
    (∀ (bytes : Bytes) (mode : RenderMode), mode = .hex ∨ mode = .base64 →
      encode (decode bytes mode) mode = .ok bytes) ∧
    (∀ text : String,
      ((∃ bytes, encode text .hex = .ok bytes) ↔
        Even text.length ∧ ∀ c ∈ text.toList, Hex.IsDigit c) ∧
      ∀ bytes, encode text .hex = .ok bytes →
        decode bytes .hex = text.toLower ∧ Spells Hex.digits 4 0 bytes text.toLower.toList) ∧
    (∀ text : String,
      ((∃ bytes, encode text .base64 = .ok bytes) ↔
        ∃ bytes, Base64.Canonical bytes text.toList) ∧
      ∀ bytes, encode text .base64 = .ok bytes →
        decode bytes .base64 = text ∧ Base64.Canonical bytes text.toList) ∧
    ∀ mode : RenderMode, mode = .plaintext ∨ mode = .json →
      (∀ text : String, ∃ bytes, encode text mode = .ok bytes ∧ decode bytes mode = text) ∧
      ∀ bytes : Bytes, encode (decode bytes mode) mode = .ok bytes ↔
        bytes.toByteArray.IsValidUTF8 := by
  refine ⟨?_, fun text => ⟨exists_encode_hex_iff, fun bytes h => ?_⟩,
    fun text => ⟨exists_congr fun _ => encode_base64_iff, fun bytes h => ?_⟩,
    fun mode h => ⟨?_, ?_⟩⟩
  · rintro bytes mode (rfl | rfl)
    · exact encode_decode_hex bytes
    · exact encode_base64_iff.2 (decode_base64_iff.1 rfl)
  · have same := encode_hex_iff.1 h
    exact ⟨same, same ▸ decode_hex_spells bytes⟩
  · have canonical := encode_base64_iff.1 h
    exact ⟨decode_base64_iff.2 canonical, canonical⟩
  · intro text
    rcases h with rfl | rfl <;> exact ⟨_, rfl, Utf8.toString_ofString text⟩
  · exact fun bytes => encode_decode_text_iff h

/-- Digits come back in lower case, padding comes back, and no character starts with the byte
`0xFF`. -/
theorem modes_round_trip_deadbeef :
    decode [0xDE, 0xAD, 0xBE, 0xEF] .hex = "DEadBEef".toLower ∧
      decode [0x68, 0x69] .base64 = "aGk=" ∧
      ¬ ([0x68, 0xFF] : Bytes).toByteArray.IsValidUTF8 := by
  rcases modes_round_trip with ⟨-, hex, base64, text⟩
  refine ⟨((hex _).2 _ (by decide +kernel)).1, ((base64 _).2 _ (by decide +kernel)).1, ?_⟩
  have lost : encode (decode [0x68, 0xFF] .json) .json ≠ .ok [0x68, 0xFF] := by decide +kernel
  exact fun valid => lost (((text .json (.inr rfl)).2 _).2 valid)

end Payload

end DeviceConsole
