import Mathlib.Data.List.Forall2
import DeviceConsole.Proofs.KeyList
import DeviceConsole.Proofs.Text.Utf8
import DeviceConsole.Storage.FileStore

/-!
# Values in files and values in a map

The name of a file does not tell all keys apart, so a folder is a map of names and not of keys.
This file defines:

* `StoreCall`, `StoreAnswer` and `ValueStore`, with the answers to calls one after the other;
* `FileStore.files` and `KeyMap.memory`, values in a folder and in a map;
* `FileStore.Alike`, which keys share a file, and `IsEntryName`, what can lie in a folder itself;
* `FileStore.folder_answers_iff`, when the answers of a folder are those of a map.
-/

namespace DeviceConsole

/-! ## Calls on a store -/

inductive StoreCall where
  | set (key value : String)
  | get (key : String)
  deriving DecidableEq

namespace StoreCall

def key : StoreCall → String
  | set key _ => key
  | get key => key

def rename (name : String → String) : StoreCall → StoreCall
  | set key value => set (name key) value
  | get key => get (name key)

def IsSet : StoreCall → Prop
  | set _ _ => True
  | get _ => False

@[simp] theorem key_rename (name : String → String) (call : StoreCall) :
    (call.rename name).key = name call.key := by
  cases call <;> rfl

end StoreCall

inductive StoreAnswer where
  | stored
  | found (value : Option String)
  | failed (error : StorageError)
  deriving DecidableEq

structure ValueStore (σ : Type) where
  get : σ → String → Except StorageError (Option String)
  set : σ → String → String → Except StorageError Unit × σ

namespace ValueStore

variable {σ : Type}

def perform (store : ValueStore σ) (s : σ) : StoreCall → StoreAnswer × σ
  | .set key value =>
    match store.set s key value with
    | (.ok (), s) => (.stored, s)
    | (.error error, s) => (.failed error, s)
  | .get key =>
    match store.get s key with
    | .ok value => (.found value, s)
    | .error error => (.failed error, s)

def performAll (store : ValueStore σ) (s : σ) : List StoreCall → List StoreAnswer × σ
  | [] => ([], s)
  | call :: rest =>
    let (answer, s) := store.perform s call
    let (answers, s) := store.performAll s rest
    (answer :: answers, s)

def answers (store : ValueStore σ) (s : σ) (calls : List StoreCall) : List StoreAnswer :=
  (store.performAll s calls).1

def Works (store : ValueStore σ) (s : σ) (calls : List StoreCall) : Prop :=
  ∀ error, .failed error ∉ store.answers s calls

theorem answers_cons (store : ValueStore σ) (s : σ) (call : StoreCall) (rest : List StoreCall) :
    store.answers s (call :: rest) =
      (store.perform s call).1 :: store.answers (store.perform s call).2 rest := rfl

theorem performAll_cons_snd (store : ValueStore σ) (s : σ) (call : StoreCall)
    (rest : List StoreCall) :
    (store.performAll s (call :: rest)).2 =
      (store.performAll (store.perform s call).2 rest).2 := rfl

theorem works_cons_iff {store : ValueStore σ} {s : σ} {call : StoreCall} {rest : List StoreCall} :
    store.Works s (call :: rest) ↔
      (∀ error, (store.perform s call).1 ≠ .failed error) ∧
        store.Works (store.perform s call).2 rest := by
  simp only [Works, answers_cons, List.mem_cons, not_or, forall_and, ne_eq, eq_comm]

end ValueStore

/-! ## A map -/

namespace KeyMap

def memory : ValueStore (KeyMap String) where
  get map key := .ok (map.get? key)
  set map key value := (.ok (), map.insert key value)

theorem answers_set (map : KeyMap String) (key value : String) (rest : List StoreCall) :
    memory.answers map (.set key value :: rest) =
      .stored :: memory.answers (map.insert key value) rest := rfl

theorem answers_get (map : KeyMap String) (key : String) (rest : List StoreCall) :
    memory.answers map (.get key :: rest) =
      .found (map.get? key) :: memory.answers map rest := rfl

/-- Other names for the keys make no difference, if no key that is set gets the name of another. -/
theorem answers_rename {name : String → String} {Among : String → Prop} {calls : List StoreCall}
    (among : ∀ call ∈ calls, Among call.key)
    (apart : ∀ call ∈ calls, call.IsSet → ∀ other, Among other →
      name call.key = name other → call.key = other)
    {map named : KeyMap String} (same : ∀ key, Among key → named.get? (name key) = map.get? key) :
    memory.answers named (calls.map (StoreCall.rename name)) = memory.answers map calls := by
  induction calls generalizing map named with
  | nil => rfl
  | cons call rest ih =>
      have amongRest : ∀ other ∈ rest, Among other.key := fun other member =>
        among other (List.mem_cons_of_mem _ member)
      have apartRest := fun other member => apart other (List.mem_cons_of_mem _ member)
      cases call with
      | get key =>
          have found := same key (among _ List.mem_cons_self)
          rw [List.map_cons, StoreCall.rename, answers_get, answers_get, found,
            ih amongRest apartRest same]
      | set key value =>
          rw [List.map_cons, StoreCall.rename, answers_set, answers_set]
          refine congrArg _ (ih amongRest apartRest fun other member => ?_)
          have differs : name key = name other → key = other :=
            apart _ List.mem_cons_self trivial other member
          rw [get?_insert, get?_insert, same other member]
          by_cases here : key = other
          · rw [here, if_pos rfl, if_pos rfl]
          · rw [if_neg here, if_neg fun clash => here (differs clash)]

end KeyMap

/-! ## Names of files -/

/-- What can be the name of an entry of a folder itself, and of nothing further down or up. -/
def IsEntryName (name : String) : Prop :=
  name ≠ "" ∧ name ≠ "." ∧ name ≠ ".." ∧ '/' ∉ name.toList ∧ '\x00' ∉ name.toList

namespace FileStore

/-- The part of a key that its file is named after. -/
def core (key : String) : List Char := key.toList.dropWhile fun c => !c.isAlphanum

/-- Whether an underscore stands for a character in the name of a file. -/
def Blurred (c : Char) : Prop := c.isAlphanum = false ∧ c ≠ '-'

instance (c : Char) : Decidable (Blurred c) := inferInstanceAs (Decidable (_ ∧ _))

/-- Whether two keys have the same characters from their first letter or digit on, save where an
underscore stands for both. -/
def Alike (key other : String) : Prop :=
  List.Forall₂ (fun c d => c = d ∨ Blurred c ∧ Blurred d) (core key) (core other)

instance (key other : String) : Decidable (Alike key other) :=
  inferInstanceAs (Decidable (List.Forall₂ _ _ _))

theorem nameChar_of_blurred {c : Char} (blurred : Blurred c) : nameChar c = '_' := by
  simp [nameChar, blurred.1, blurred.2]

theorem nameChar_of_not_blurred {c : Char} (plain : ¬ Blurred c) : nameChar c = c := by
  rw [nameChar, if_pos]
  by_cases letter : c.isAlphanum = true
  · simp [letter]
  · simpa [Blurred, letter] using plain

theorem blurred_underscore : Blurred '_' := by decide

theorem nameChar_eq_iff {c d : Char} :
    nameChar c = nameChar d ↔ c = d ∨ Blurred c ∧ Blurred d := by
  constructor
  · intro same
    by_cases first : Blurred c
    · by_cases second : Blurred d
      · exact Or.inr ⟨first, second⟩
      · rw [nameChar_of_blurred first, nameChar_of_not_blurred second] at same
        exact absurd (same ▸ blurred_underscore) second
    · by_cases second : Blurred d
      · rw [nameChar_of_not_blurred first, nameChar_of_blurred second] at same
        exact absurd (same ▸ blurred_underscore) first
      · rw [nameChar_of_not_blurred first, nameChar_of_not_blurred second] at same
        exact Or.inl same
  · rintro (rfl | ⟨first, second⟩)
    · rfl
    · rw [nameChar_of_blurred first, nameChar_of_blurred second]

/-- Keys share a file if they are alike. -/
theorem fileName_eq_iff {key other : String} : fileName key = fileName other ↔ Alike key other := by
  rw [fileName, fileName, String.append_left_inj, String.ofList_inj, Alike, ← List.forall₂_eq_eq_eq,
    List.forall₂_map_left_iff, List.forall₂_map_right_iff]
  simp only [nameChar_eq_iff]
  rfl

theorem mem_fileName {key : String} {c : Char} (member : c ∈ (fileName key).toList) :
    c.isAlphanum = true ∨ c = '-' ∨ c = '_' ∨ c = '.' := by
  rw [fileName, String.toList_append, String.toList_ofList, List.mem_append, List.mem_map] at member
  rcases member with ⟨d, -, rfl⟩ | member
  · by_cases blurred : Blurred d
    · exact Or.inr (Or.inr (Or.inl (nameChar_of_blurred blurred)))
    · rw [nameChar_of_not_blurred blurred]
      by_cases letter : d.isAlphanum = true
      · exact Or.inl letter
      · exact Or.inr (Or.inl (by simpa [Blurred, letter] using blurred))
  · have letters : ".json".toList = ['.', 'j', 's', 'o', 'n'] := rfl
    rw [letters] at member
    simp only [List.mem_cons, List.not_mem_nil, or_false] at member
    rcases member with rfl | rfl | rfl | rfl | rfl <;> decide

theorem isEntryName_fileName (key : String) : IsEntryName (fileName key) := by
  have long : 5 ≤ (fileName key).length := by
    rw [fileName, String.length_append]
    exact Nat.le_add_left 5 _
  refine ⟨?_, ?_, ?_, ?_, ?_⟩
  · exact fun same => absurd (same ▸ long) (by decide)
  · exact fun same => absurd (same ▸ long) (by decide)
  · exact fun same => absurd (same ▸ long) (by decide)
  · exact fun member => absurd (mem_fileName member) (by decide)
  · exact fun member => absurd (mem_fileName member) (by decide)

/-! ## A folder -/

def files : ValueStore FileStore where
  get := get
  set := set

/-- Whether a folder has the texts of a map in its files, and nothing else. -/
def Holds : FileStore → KeyMap String → Prop
  | missing, map => ∀ name, map.get? name = none
  | blocked, _ => False
  | present entries, map =>
    ∀ name, entries.get? name = (map.get? name).map fun text => .file (Utf8.ofString text)

variable {store : FileStore} {map : KeyMap String} {call : StoreCall} {calls : List StoreCall}

theorem Holds.make (h : Holds store map) :
    ∃ entries, store.make = present entries ∧ Holds (present entries) map := by
  cases store with
  | missing => exact ⟨.empty, rfl, fun name => by rw [h name]; rfl⟩
  | blocked => exact h.elim
  | present entries => exact ⟨entries, rfl, h⟩

theorem Holds.ne_folder {entries : KeyMap FolderEntry} (h : Holds (present entries) map)
    (name : String) : entries.get? name ≠ some .folder := by
  rw [h name]
  cases map.get? name <;> simp

/-- Looking up a key gives what the map has for the name of its file, unless it fails. -/
theorem Holds.get (h : Holds store map) (key : String) :
    store.get key = .ok (map.get? (fileName key)) ∨
      nameLimit < (fileName key).length ∧ store.get key = .error .device := by
  cases store with
  | missing =>
      rw [FileStore.get, h]
      split
      · exact Or.inl rfl
      · next long => exact Or.inr ⟨by simp only [nameLimit, pathLimit] at *; omega, rfl⟩
  | blocked => exact h.elim
  | present entries =>
      rw [FileStore.get]
      split
      · refine Or.inl ?_
        rw [h (fileName key)]
        cases map.get? (fileName key) with
        | none => rfl
        | some text => simp [Utf8.toString?, Utf8.ofString, Utf8.decodeLossy_encode]
      · next long => exact Or.inr ⟨Nat.lt_of_not_le long, rfl⟩

/-- Storing puts the value under the name of the file, and fails exactly if the name is too long. -/
theorem Holds.set (h : Holds store map) (key value : String) :
    (fileName key).length ≤ nameLimit ∧ (store.set key value).1 = .ok () ∧
      Holds (store.set key value).2 (map.insert (fileName key) value) ∨
    nameLimit < (fileName key).length ∧ (store.set key value).1 = .error .device ∧
      Holds (store.set key value).2 map := by
  obtain ⟨entries, made, h⟩ := h.make
  rw [FileStore.set, made]
  dsimp only
  split
  · next fits =>
      refine Or.inl ⟨fits.1, rfl, fun name => ?_⟩
      rw [KeyMap.get?_insert, KeyMap.get?_insert, h name]
      split <;> rfl
  · next long =>
      refine Or.inr ⟨?_, rfl, h⟩
      exact Nat.lt_of_not_le fun fits => long ⟨fits, h.ne_folder _⟩

/-- A call that does not fail does to the folder what it does to the map, under the name of the
file. -/
theorem Holds.perform (h : Holds store map)
    (works : ∀ error, (files.perform store call).1 ≠ .failed error) :
    (files.perform store call).1 = (KeyMap.memory.perform map (call.rename fileName)).1 ∧
      Holds (files.perform store call).2
        (KeyMap.memory.perform map (call.rename fileName)).2 := by
  cases call with
  | get key =>
      rcases h.get key with found | ⟨-, failed⟩
      · simpa [ValueStore.perform, files, found, KeyMap.memory, StoreCall.rename] using h
      · simp [ValueStore.perform, files, failed] at works
  | set key value =>
      rcases done : store.set key value with ⟨result, later⟩
      rcases h.set key value with ⟨-, stored, later⟩ | ⟨-, failed, -⟩
      · rw [done] at stored later
        obtain rfl := stored
        simpa [ValueStore.perform, files, done, KeyMap.memory, StoreCall.rename] using later
      · rw [done] at failed
        obtain rfl := failed
        simp [ValueStore.perform, files, done] at works

/-- A call about a file with a name that is not too long does not fail. -/
theorem Holds.works (h : Holds store map) (within : (fileName call.key).length ≤ nameLimit)
    (error : StorageError) : (files.perform store call).1 ≠ .failed error := by
  cases call with
  | get key =>
      rcases h.get key with found | ⟨long, -⟩
      · simp [ValueStore.perform, files, found]
      · exact absurd within (Nat.not_le_of_lt long)
  | set key value =>
      rcases done : store.set key value with ⟨result, later⟩
      rcases h.set key value with ⟨-, stored, -⟩ | ⟨long, -, -⟩
      · rw [done] at stored
        obtain rfl := stored
        simp [ValueStore.perform, files, done]
      · exact absurd within (Nat.not_le_of_lt long)

theorem Holds.within {key value : String} (h : Holds store map)
    (works : ∀ error, (files.perform store (.set key value)).1 ≠ .failed error) :
    (fileName key).length ≤ nameLimit := by
  rcases done : store.set key value with ⟨result, later⟩
  rcases h.set key value with ⟨fits, -, -⟩ | ⟨-, failed, -⟩
  · exact fits
  · rw [done] at failed
    obtain rfl := failed
    simp [ValueStore.perform, files, done] at works

/-! ## Calls one after the other -/

theorem Holds.performAll (h : Holds store map) (works : files.Works store calls) :
    files.answers store calls =
        KeyMap.memory.answers map (calls.map (StoreCall.rename fileName)) ∧
      Holds (files.performAll store calls).2
        (KeyMap.memory.performAll map (calls.map (StoreCall.rename fileName))).2 := by
  induction calls generalizing store map with
  | nil => exact ⟨rfl, h⟩
  | cons call rest ih =>
      rcases ValueStore.works_cons_iff.1 works with ⟨first, others⟩
      rcases h.perform first with ⟨answer, later⟩
      rcases ih later others with ⟨answers, last⟩
      rw [List.map_cons, ValueStore.answers_cons, ValueStore.answers_cons, answer, answers,
        ValueStore.performAll_cons_snd, ValueStore.performAll_cons_snd]
      exact ⟨rfl, last⟩

theorem Holds.worksAll (h : Holds store map)
    (within : ∀ call ∈ calls, (fileName call.key).length ≤ nameLimit) :
    files.Works store calls := by
  induction calls generalizing store map with
  | nil => exact fun error member => absurd member List.not_mem_nil
  | cons call rest ih =>
      have first := h.works (within call List.mem_cons_self)
      exact ValueStore.works_cons_iff.2 ⟨first, ih (h.perform first).2 fun other member =>
        within other (List.mem_cons_of_mem _ member)⟩

theorem Holds.withinAll (h : Holds store map) (works : files.Works store calls) :
    ∀ call ∈ calls, call.IsSet → (fileName call.key).length ≤ nameLimit := by
  induction calls generalizing store map with
  | nil => exact fun call member => absurd member List.not_mem_nil
  | cons call rest ih =>
      rcases ValueStore.works_cons_iff.1 works with ⟨first, others⟩
      intro other member isSet
      rcases List.mem_cons.1 member with rfl | member
      · cases other with
        | get key => exact isSet.elim
        | set key value => exact h.within first
      · exact ih (h.perform first).2 others other member isSet

theorem Holds.get?_of_mem_names {name : String} (h : Holds store map)
    (member : name ∈ store.names) : map.get? name ≠ none := by
  cases store with
  | missing => exact absurd member List.not_mem_nil
  | blocked => exact h.elim
  | present entries =>
      rcases List.mem_map.1 member with ⟨entry, inside, rfl⟩
      have found := KeyList.get?_of_mem entries.ordered inside
      intro absent
      have missing : entries.get? entry.1 = none := by
        rw [h, absent]
        rfl
      exact absurd (found.symm.trans missing) (Option.some_ne_none _)

/-- Before anything is stored: there is no folder yet, or nothing in it. -/
def IsFresh (store : FileStore) : Prop := store = missing ∨ store = present .empty

theorem IsFresh.holds (fresh : IsFresh store) : Holds store .empty := by
  rcases fresh with rfl | rfl
  · exact fun name => rfl
  · exact fun name => rfl

end FileStore

/-- What is in a map was there before, or was stored under its key. -/
theorem KeyMap.get?_performAll {map : KeyMap String} {calls : List StoreCall} {name : String}
    (found : (memory.performAll map calls).2.get? name ≠ none) :
    map.get? name ≠ none ∨ ∃ call ∈ calls, call.key = name := by
  induction calls generalizing map with
  | nil => exact Or.inl found
  | cons call rest ih =>
      rw [ValueStore.performAll_cons_snd] at found
      rcases ih found with before | ⟨other, member, same⟩
      · cases call with
        | get key => exact Or.inl before
        | set key value =>
            by_cases here : key = name
            · exact Or.inr ⟨_, List.mem_cons_self, here⟩
            · refine Or.inl fun absent => before ?_
              have kept := get?_insert map key name value
              rw [if_neg here, absent] at kept
              exact kept
      · exact Or.inr ⟨other, List.mem_cons_of_mem _ member, same⟩

namespace FileStore

variable {store : FileStore}

/-- Calls on an empty folder that do not fail are answered as by a map that has the names of files
for keys, and leave no other files than those of their keys, which lie in the folder itself.  These
are the answers of a map with the keys themselves, for all calls about some keys, exactly if no two
of these keys are alike, other than those whose files have names that are too long. -/
theorem folder_answers_iff (fresh : store.IsFresh) (Among : String → Prop) :
    ((∀ calls, (∀ call ∈ calls, Among call.key) → files.Works store calls →
        files.answers store calls = KeyMap.memory.answers .empty calls) ↔
      ∀ key other, Among key → Among other → (fileName key).length ≤ nameLimit →
        Alike key other → key = other) ∧
    (∀ calls, files.Works store calls →
      files.answers store calls =
          KeyMap.memory.answers .empty (calls.map (StoreCall.rename fileName)) ∧
        ∀ name ∈ (files.performAll store calls).2.names, ∃ call ∈ calls, fileName call.key = name) ∧
    ∀ key, IsEntryName (fileName key) := by
  have held := fresh.holds
  refine ⟨⟨fun same key other first second fits alike => ?_, fun apart calls among works => ?_⟩,
    fun calls works => ⟨(held.performAll works).1, fun name member => ?_⟩, isEntryName_fileName⟩
  · -- A value is stored for the one and looked up for the other.
    have names := fileName_eq_iff.2 alike
    by_contra differs
    have works : files.Works store [.set key "", .get other] := by
      refine held.worksAll fun call member => ?_
      simp only [List.mem_cons, List.not_mem_nil, or_false] at member
      rcases member with rfl | rfl
      · exact fits
      · exact names ▸ fits
    have among : ∀ call ∈ [StoreCall.set key "", .get other], Among call.key := by
      simp [StoreCall.key, first, second]
    have answers := (held.performAll works).1.symm.trans (same _ among works)
    simp [StoreCall.rename, KeyMap.answers_set, KeyMap.answers_get, names, differs] at answers
  · rw [(held.performAll works).1]
    refine KeyMap.answers_rename among (fun call member isSet other second clash => ?_) ?_
    · exact apart call.key other (among call member) second
        (held.withinAll works call member isSet) (fileName_eq_iff.1 clash)
    · intro key _
      rw [KeyMap.get?_empty, KeyMap.get?_empty]
  · have found := (held.performAll works).2.get?_of_mem_names member
    rcases KeyMap.get?_performAll found with before | ⟨renamed, inside, same⟩
    · exact absurd (KeyMap.get?_empty name) before
    · rcases List.mem_map.1 inside with ⟨call, member, rfl⟩
      rw [StoreCall.key_rename] at same
      exact ⟨call, member, same⟩

/-- The values of `a/b` and `a-b` are kept apart. -/
theorem folder_answers_iff_of_hyphen :
    FileStore.missing.IsFresh ∧
      (∀ calls, (∀ call ∈ calls, call.key = "a/b" ∨ call.key = "a-b") →
        files.Works missing calls →
        files.answers missing calls = KeyMap.memory.answers .empty calls) := by
  have fresh : FileStore.missing.IsFresh := Or.inl rfl
  refine ⟨fresh, (folder_answers_iff fresh fun key => key = "a/b" ∨ key = "a-b").1.2 ?_⟩
  rintro key other (rfl | rfl) (rfl | rfl) - alike
  · rfl
  · exact absurd alike (by decide)
  · exact absurd alike (by decide)
  · rfl

/-- A value that is stored for `a/b` is found under `a_b`, for which nothing was stored. -/
theorem slash_found_under_underscore :
    files.Works missing [.set "a/b" "1", .get "a_b"] ∧
      files.answers missing [.set "a/b" "1", .get "a_b"] = [.stored, .found (some "1")] ∧
      KeyMap.memory.answers .empty [.set "a/b" "1", .get "a_b"] = [.stored, .found none] := by
  have answers : files.answers missing [.set "a/b" "1", .get "a_b"] =
      [.stored, .found (some "1")] := by decide
  refine ⟨fun error => ?_, answers, by decide⟩
  rw [answers]
  simp

end FileStore

end DeviceConsole
