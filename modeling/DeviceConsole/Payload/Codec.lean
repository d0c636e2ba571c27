import DeviceConsole.Error
import DeviceConsole.Notification
import DeviceConsole.Payload.RenderMode

/-!
# Payload text and payload bytes

The text an operator types becomes bytes, and bytes that arrive become text, both in a render mode.
Text that should be JSON and is not is used all the same; the operator is warned.  This file
defines:

* `Payload.encode` and `Payload.decode`;
* `Payload.publishWarnings` and `Payload.receiveWarnings`.
-/

namespace DeviceConsole

namespace Payload

def encode (text : String) (mode : RenderMode) : Except CodecError Bytes :=
  match mode with
  | .plaintext => .ok (Utf8.ofString text)
  | .json => .ok (Utf8.ofString text)
  | .hex =>
    match Hex.decode (Utf8.ofString text) with
    | .ok bytes => .ok bytes
    | .error fault => .error (.invalidHex fault.message)
  | .base64 =>
    match Base64.decode (Utf8.ofString text) with
    | .ok bytes => .ok bytes
    | .error fault => .error (.invalidBase64 fault.message)

/-- The symbols of base64 are characters of ASCII. -/
def charOfByte (b : UInt8) : Char := Char.ofNat b.toNat

def decode (bytes : Bytes) (mode : RenderMode) : String :=
  match mode with
  | .plaintext => Utf8.toString bytes
  | .json => Utf8.toString bytes
  | .hex => String.ofList (Hex.encode bytes)
  | .base64 => String.ofList ((Base64.encode bytes).map charOfByte)

def jsonWarnings (context text : String) : List Notification :=
  match Json.parse text with
  | .ok _ => []
  | .error failure => [⟨.warn, context ++ " " ++ failure.describe text.toList⟩]

def publishWarnings (text : String) (mode : RenderMode) : List Notification :=
  if mode = .json then jsonWarnings "Publish message" text else []

def receiveWarnings (bytes : Bytes) (mode : RenderMode) : List Notification :=
  if mode = .json then jsonWarnings "Received message" (Utf8.toString bytes) else []

end Payload

end DeviceConsole
