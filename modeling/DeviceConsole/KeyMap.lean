/-!
# Maps with text keys, in key order

Documents, subscription states and user properties are maps from text to values that are always
shown in the order of their keys.  This file defines:

* `KeyList` operations on plain association lists, for types that nest maps inside themselves;
* `KeyMap α`, a list of entries together with the proof that its keys increase;
* one equation per operation, stated through `get?`.
-/

namespace DeviceConsole

/-! ## Association lists in key order -/

namespace KeyList

variable {α β : Type}

/-- The value of the first entry with this key. -/
def get? (key : String) : List (String × α) → Option α
  | [] => none
  | (k, v) :: rest => if k = key then some v else get? key rest

/-- Puts a value at the place of its key, replacing the value that was there. -/
def insert (key : String) (value : α) : List (String × α) → List (String × α)
  | [] => [(key, value)]
  | (k, v) :: rest =>
    if key = k then (key, value) :: rest
    else if key < k then (key, value) :: (k, v) :: rest
    else (k, v) :: insert key value rest

/-- Drops every entry with this key. -/
def erase (key : String) (entries : List (String × α)) : List (String × α) :=
  entries.filter fun entry => decide (entry.1 ≠ key)

/-- Collects entries one after the other, so the last of several entries with one key stays. -/
def ofList (entries : List (String × α)) : List (String × α) :=
  entries.foldl (fun acc entry => insert entry.1 entry.2 acc) []

/-- The keys increase strictly from each entry to all later ones. -/
def Ordered (entries : List (String × α)) : Prop :=
  entries.Pairwise fun a b => a.1 < b.1

theorem mem_insert {key : String} {value : α} {entry : String × α} {entries : List (String × α)} :
    entry ∈ insert key value entries → entry = (key, value) ∨ entry ∈ entries := by
  induction entries with
  | nil => simp [insert]
  | cons head rest ih =>
      obtain ⟨k, v⟩ := head
      rw [insert]
      split
      · rintro (_ | ⟨_, h⟩)
        · exact Or.inl rfl
        · exact Or.inr (List.mem_cons_of_mem _ h)
      · split
        · intro h
          rcases List.mem_cons.mp h with h | h
          · exact Or.inl h
          · exact Or.inr h
        · intro h
          rcases List.mem_cons.mp h with h | h
          · exact Or.inr (h ▸ List.mem_cons_self)
          · rcases ih h with h | h
            · exact Or.inl h
            · exact Or.inr (List.mem_cons_of_mem _ h)

theorem lt_of_ne_of_not_lt {a b : String} (hne : a ≠ b) (hlt : ¬ a < b) : b < a :=
  Std.lt_of_le_of_ne (Std.not_lt.mp hlt) (Ne.symm hne)

theorem ordered_insert {key : String} {value : α} {entries : List (String × α)}
    (h : Ordered entries) : Ordered (insert key value entries) := by
  induction entries with
  | nil => simp [insert, Ordered]
  | cons head rest ih =>
      obtain ⟨k, v⟩ := head
      obtain ⟨hhead, hrest⟩ := List.pairwise_cons.mp h
      rw [insert]
      split
      next heq => exact List.pairwise_cons.mpr ⟨fun b hb => heq ▸ hhead b hb, hrest⟩
      next hne =>
        split
        next hlt =>
          refine List.pairwise_cons.mpr ⟨fun b hb => ?_, h⟩
          rcases List.mem_cons.mp hb with rfl | hb
          · exact hlt
          · exact String.lt_trans hlt (hhead b hb)
        next hnlt =>
          refine List.pairwise_cons.mpr ⟨fun b hb => ?_, ih hrest⟩
          rcases mem_insert hb with rfl | hb
          · exact lt_of_ne_of_not_lt hne hnlt
          · exact hhead b hb

theorem ordered_erase {key : String} {entries : List (String × α)} (h : Ordered entries) :
    Ordered (erase key entries) :=
  List.Pairwise.filter _ h

theorem ordered_foldl_insert {entries acc : List (String × α)} (h : Ordered acc) :
    Ordered (entries.foldl (fun acc entry => insert entry.1 entry.2 acc) acc) := by
  induction entries generalizing acc with
  | nil => exact h
  | cons head rest ih => exact ih (ordered_insert h)

theorem ordered_ofList (entries : List (String × α)) : Ordered (ofList entries) :=
  ordered_foldl_insert List.Pairwise.nil

theorem get?_insert (key other : String) (value : α) (entries : List (String × α)) :
    get? other (insert key value entries) =
      if key = other then some value else get? other entries := by
  induction entries with
  | nil => simp [insert, get?]
  | cons head rest ih =>
      obtain ⟨k, v⟩ := head
      rw [insert]
      split
      next heq =>
        subst heq
        simp only [get?]
        split <;> rfl
      next hne =>
        split
        · simp only [get?]
        · simp only [get?, ih]
          by_cases hk : k = other
          · subst hk
            simp [hne]
          · simp [hk]

theorem get?_erase (key other : String) (entries : List (String × α)) :
    get? other (erase key entries) = if key = other then none else get? other entries := by
  induction entries with
  | nil => simp [erase, get?]
  | cons head rest ih =>
      obtain ⟨k, v⟩ := head
      simp only [erase, List.filter_cons] at ih ⊢
      by_cases hk : k = key
      · subst hk
        simp only [ne_eq, not_true_eq_false, decide_false, Bool.false_eq_true, if_false, ih, get?]
        by_cases ho : k = other <;> simp [ho]
      · simp only [ne_eq, hk, not_false_eq_true, decide_true, if_true, get?, ih]
        by_cases ho : k = other
        · subst ho
          simp [Ne.symm hk]
        · simp [ho]

end KeyList

/-! ## Maps that carry the order of their keys -/

/-- Entries with strictly increasing keys. -/
structure KeyMap (α : Type) where
  entries : List (String × α)
  ordered : KeyList.Ordered entries
  deriving DecidableEq

namespace KeyMap

variable {α β : Type}

def empty : KeyMap α := ⟨[], List.Pairwise.nil⟩

instance : EmptyCollection (KeyMap α) := ⟨empty⟩

instance : Inhabited (KeyMap α) := ⟨empty⟩

def get? (map : KeyMap α) (key : String) : Option α := KeyList.get? key map.entries

def insert (map : KeyMap α) (key : String) (value : α) : KeyMap α :=
  ⟨KeyList.insert key value map.entries, KeyList.ordered_insert map.ordered⟩

def erase (map : KeyMap α) (key : String) : KeyMap α :=
  ⟨KeyList.erase key map.entries, KeyList.ordered_erase map.ordered⟩

def ofList (entries : List (String × α)) : KeyMap α :=
  ⟨KeyList.ofList entries, KeyList.ordered_ofList entries⟩

def filter (map : KeyMap α) (keep : String → α → Bool) : KeyMap α :=
  ⟨map.entries.filter fun entry => keep entry.1 entry.2, List.Pairwise.filter _ map.ordered⟩

def mapValues (map : KeyMap α) (change : α → β) : KeyMap β :=
  ⟨map.entries.map fun entry => (entry.1, change entry.2), by
    rw [KeyList.Ordered, List.pairwise_map]
    exact map.ordered⟩

def keys (map : KeyMap α) : List String := map.entries.map (·.1)

def isEmpty (map : KeyMap α) : Bool := map.entries.isEmpty

@[simp] theorem get?_empty (key : String) : (empty : KeyMap α).get? key = none := rfl

@[simp] theorem get?_insert (map : KeyMap α) (key other : String) (value : α) :
    (map.insert key value).get? other = if key = other then some value else map.get? other :=
  KeyList.get?_insert key other value map.entries

@[simp] theorem get?_erase (map : KeyMap α) (key other : String) :
    (map.erase key).get? other = if key = other then none else map.get? other :=
  KeyList.get?_erase key other map.entries

end KeyMap

end DeviceConsole
