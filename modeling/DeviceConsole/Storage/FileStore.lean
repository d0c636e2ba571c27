import DeviceConsole.Error
import DeviceConsole.KeyMap
import DeviceConsole.Text.Utf8

/-!
# Values in files

A folder keeps each value in a file named after its key.  Letters and digits of ASCII and hyphens of
the key stay, anything else becomes an underscore, and what precedes the first letter or digit is
dropped.  This file defines:

* `FileStore.fileName`;
* `FileStore`, the folder on the disk, with `get` and `set`.
-/

namespace DeviceConsole

inductive FolderEntry where
  | file (content : Bytes)
  | folder
  deriving DecidableEq, Repr

/-- A folder that keeps values. -/
inductive FileStore where
  /-- There is no such folder yet. -/
  | missing
  /-- A file stands in its place. -/
  | blocked
  | present (entries : KeyMap FolderEntry)

namespace FileStore

/-- The number of bytes that a name may have. -/
def nameLimit : Nat := 255

/-- The number of bytes that a path may have. -/
def pathLimit : Nat := 4095

def nameChar (c : Char) : Char := if c.isAlphanum || c = '-' then c else '_'

def fileName (key : String) : String :=
  String.ofList ((key.toList.dropWhile fun c => !c.isAlphanum).map nameChar) ++ ".json"

/-- Looks up the value of a key.  Files that are not text cannot be read. -/
def get (store : FileStore) (key : String) : Except StorageError (Option String) :=
  let name := fileName key
  match store with
  | missing => if name.length ≤ pathLimit then .ok none else .error .device
  | blocked => .error .device
  | present entries =>
    if name.length ≤ nameLimit then
      match entries.get? name with
      | none => .ok none
      | some .folder => .error .device
      | some (.file content) =>
        match Utf8.toString? content with
        | some text => .ok (some text)
        | none => .error .device
    else .error .device

def make (store : FileStore) : FileStore :=
  match store with
  | missing => present .empty
  | store => store

/-- Stores a value; the folder is made even where the file then cannot be written. -/
def set (store : FileStore) (key value : String) : Except StorageError Unit × FileStore :=
  let name := fileName key
  match store.make with
  | present entries =>
    if name.length ≤ nameLimit ∧ entries.get? name ≠ some .folder then
      (.ok (), present (entries.insert name (.file (Utf8.ofString value))))
    else (.error .device, present entries)
  | store => (.error .device, store)

def names : FileStore → List String
  | present entries => entries.keys
  | _ => []

/-- Puts an entry into the folder, which is made if it is missing. -/
def put (store : FileStore) (name : String) (entry : FolderEntry) : FileStore :=
  match store.make with
  | present entries => present (entries.insert name entry)
  | store => store

end FileStore

end DeviceConsole
