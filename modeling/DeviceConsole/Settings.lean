import DeviceConsole.Error
import DeviceConsole.Event.Bus
import DeviceConsole.Text.Utf8
import DeviceConsole.Toml.Parser

/-!
# Console settings

This file defines:

* `Settings`, with its defaults, its record and `Settings.validate`;
* `Settings.ofToml?` and `Settings.ofFile?`, which read a settings file;
* `Settings.directory`, where profiles are kept.
-/

namespace DeviceConsole

/-- What can be set for the whole console. -/
structure Settings where
  /-- Whether active filters are subscribed again after a reconnect. -/
  autoResubscribe : Bool
  eventCapacity : Nat
  /-- The number of messages that a log keeps. -/
  logLimit : Option Nat
  storageDir : Option String
  deriving DecidableEq, Repr

namespace Settings

def default : Settings := ⟨true, EventBus.defaultCapacity, none, none⟩

instance : Inhabited Settings := ⟨default⟩

/-- Refuses a bus without room, and then a log without room. -/
def validate (s : Settings) : Except SettingsError Unit :=
  if s.eventCapacity = 0 then
    .error (.invalid "event_capacity" "must be greater than zero")
  else if s.logLimit = some 0 then
    .error (.invalid "snapshot_log_limit" "must be greater than zero when set")
  else .ok ()

/-- The folder of the profiles: the one that is set, or the console's own among those of the
operator. -/
def directory (configHome : String) (s : Settings) : String :=
  s.storageDir.getD (configHome ++ "/tio-console")

/-! ## Records -/

def names : List String :=
  ["auto_resubscribe", "event_capacity", "snapshot_log_limit", "storage_dir"]

def outline : Json.Outline := .ofNames names []

/-- The largest capacity that can be written. -/
def wordMax : Nat := UInt64.size - 1

/-- Reads settings; any of them may be missing. -/
def read? : Reader Settings := fun value => do
  let fields ← Fields.read? names value
  return {
    autoResubscribe := ← fields.orElse "auto_resubscribe" Json.bool? default.autoResubscribe
    eventCapacity := ← fields.orElse "event_capacity" (Json.nat? wordMax) default.eventCapacity
    logLimit := ← fields.optional "snapshot_log_limit" (Json.nat? wordMax)
    storageDir := ← fields.optional "storage_dir" Json.string? }

def toJson (s : Settings) : Json :=
  .obj [("auto_resubscribe", .bool s.autoResubscribe), ("event_capacity", .ofNat s.eventCapacity),
    ("snapshot_log_limit", .ofOption .ofNat s.logLimit),
    ("storage_dir", .ofOption .str s.storageDir)]

/-! ## Settings files -/

/-- An entry of a settings file, if it is there and of the right kind; a wrong kind is refused. -/
def entry? {α : Type} (table : Toml.Table) (name : String) (read : Toml.Value → Option α) :
    Option (Option α) :=
  match KeyList.get? name table.entries with
  | none => some none
  | some value => (read value).map some

def bool? : Toml.Value → Option Bool
  | .boolean b => some b
  | _ => none

def count? : Toml.Value → Option Nat
  | .integer (.ofNat n) => some n
  | _ => none

def text? : Toml.Value → Option String
  | .string text => some text
  | _ => none

def ofTable? (table : Toml.Table) : Option Settings := do
  return {
    autoResubscribe := (← entry? table "auto_resubscribe" bool?).getD default.autoResubscribe
    eventCapacity := (← entry? table "event_capacity" count?).getD default.eventCapacity
    logLimit := ← entry? table "snapshot_log_limit" count?
    storageDir := ← entry? table "storage_dir" text? }

def ofToml? (text : String) : Except SettingsError Settings :=
  match (Toml.parse? text).bind ofTable? with
  | none => .error .malformed
  | some settings => settings.validate.map fun _ => settings

def ofFile? (file : Option Bytes) : Except SettingsError Settings :=
  match file.bind Utf8.toString? with
  | none => .error .device
  | some text => ofToml? text

end Settings

end DeviceConsole
