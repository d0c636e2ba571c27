import DeviceConsole.Error
import DeviceConsole.Json.Parser
import DeviceConsole.Json.Printer
import DeviceConsole.Profile.Record

/-!
# Stored profiles

The profiles of a console are kept as one JSON text under one key.  This file defines:

* `ProfileStorage`, the text and whether the device works, with `read` and `write`;
* `ProfileStorage.load` and `save`; whatever cannot be read counts as no profiles.
-/

namespace DeviceConsole

/-- The place of the profiles: the text that was written last, and whether reading and writing
fail. -/
structure ProfileStorage where
  text : Option String
  readFails : Bool
  writeFails : Bool
  deriving DecidableEq, Repr

namespace ProfileStorage

def key : String := "$tiopg/mqtt/connections"

def ofText (text : Option String) : ProfileStorage := ⟨text, false, false⟩

instance : Inhabited ProfileStorage := ⟨ofText none⟩

def read (s : ProfileStorage) : Except StorageError (Option String) :=
  if s.readFails then .error .device else .ok s.text

def write (s : ProfileStorage) (text : String) : Except StorageError Unit × ProfileStorage :=
  if s.writeFails then (.error .device, s) else (.ok (), { s with text := some text })

def decode? (fresh : Nat → ConnectionId) (text : String) : Option (List Profile) :=
  Json.readAs? (.list Profile.outline) (Profile.readList? fresh) text

def encode (profiles : List Profile) : String := (Profile.listToJson profiles).text

/-- The stored profiles; none if there is no text, or if it cannot be read. -/
def load (fresh : Nat → ConnectionId) (s : ProfileStorage) : List Profile :=
  match s.read with
  | .ok (some text) => (decode? fresh text).getD []
  | _ => []

def save (s : ProfileStorage) (profiles : List Profile) :
    Except StorageError Unit × ProfileStorage :=
  s.write (encode profiles)

end ProfileStorage

end DeviceConsole
