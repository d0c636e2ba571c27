/-!
# Render modes

A render mode says how payload text maps to bytes.  This file defines `RenderMode`, the names of the
modes, and `RenderMode.parse?`, which reads a name in any mixture of cases.
-/

namespace DeviceConsole

/-- How payload text maps to bytes, in both directions. -/
inductive RenderMode where
  /-- The bytes are text. -/
  | plaintext
  /-- The bytes are text that should be JSON. -/
  | json
  /-- The bytes are written as hexadecimal digits. -/
  | hex
  /-- The bytes are written as base64. -/
  | base64
  deriving DecidableEq, Repr, Inhabited

namespace RenderMode

def all : List RenderMode := [plaintext, json, hex, base64]

def text : RenderMode → String
  | plaintext => "Plaintext"
  | json => "JSON"
  | hex => "Hex"
  | base64 => "Base64"

/-- Equality of texts up to the case of the letters of ASCII. -/
def sameLetters (a b : String) : Bool :=
  a.toList.map Char.toLower = b.toList.map Char.toLower

def parse? (name : String) : Option RenderMode :=
  all.find? fun mode => sameLetters mode.text name

/-- What is said about a name that belongs to no mode. -/
def unknown (name : String) : String := "unknown render mode: " ++ name

end RenderMode

end DeviceConsole
