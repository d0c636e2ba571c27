import DeviceConsole.KeyMap

/-!
# Entries in key order

Lists of entries are told apart by what is found under each key, as long as their keys increase.
This file proves

* `KeyList.get?_of_mem`, `KeyList.mem_of_get?`, between entries and what is found under a key;
* `KeyList.ofList_of_ordered` and `KeyList.ext_of_ordered`, about entries in key order;
* `KeyList.ofList_perm`, that entries with different keys are all collected;
* `KeyList.get?_map`, `KeyList.insert_map`, `KeyList.erase_map` and `KeyList.ofList_map`, for values
  that are changed one by one.
-/

namespace DeviceConsole

namespace KeyList

variable {α β : Type} {entries others : List (String × α)} {key : String} {value : α}

instance (entries : List (String × α)) : Decidable (Ordered entries) :=
  inferInstanceAs (Decidable (List.Pairwise _ entries))

/-! ## Entries and lookups -/

theorem Ordered.tail {entry : String × α} (h : Ordered (entry :: entries)) : Ordered entries :=
  (List.pairwise_cons.1 h).2

theorem Ordered.ne_of_mem {entry other : String × α} (h : Ordered (entry :: entries))
    (member : other ∈ entries) : entry.1 ≠ other.1 := by
  have less := (List.pairwise_cons.1 h).1 other member
  intro same
  rw [same] at less
  exact String.lt_irrefl _ less

theorem get?_eq_none (h : ∀ entry ∈ entries, entry.1 ≠ key) : get? key entries = none := by
  induction entries with
  | nil => rfl
  | cons entry rest ih =>
      rw [get?, if_neg (h entry List.mem_cons_self)]
      exact ih fun other member => h other (List.mem_cons_of_mem _ member)

theorem mem_of_get? (h : get? key entries = some value) : (key, value) ∈ entries := by
  induction entries with
  | nil => cases h
  | cons entry rest ih =>
      rcases entry with ⟨k, v⟩
      rw [get?] at h
      split at h
      · next same =>
          cases h
          rw [same]
          exact List.mem_cons_self
      · exact List.mem_cons_of_mem _ (ih h)

/-- In key order every entry is found under its key. -/
theorem get?_of_mem (h : Ordered entries) (member : (key, value) ∈ entries) :
    get? key entries = some value := by
  induction entries with
  | nil => cases member
  | cons entry rest ih =>
      rcases List.mem_cons.1 member with rfl | later
      · exact if_pos rfl
      · rw [get?, if_neg (h.ne_of_mem later)]
        exact ih h.tail later

/-- In key order no later entry has the key of the first one. -/
theorem Ordered.get?_tail {entry : String × α} (h : Ordered (entry :: entries)) :
    get? entry.1 entries = none :=
  get?_eq_none fun _ member => (h.ne_of_mem member).symm

/-- Where no key occurs twice, an entry is found under its key. -/
theorem get?_of_mem_of_nodup (distinct : (entries.map (·.1)).Nodup)
    (member : (key, value) ∈ entries) : get? key entries = some value := by
  induction entries with
  | nil => cases member
  | cons head rest ih =>
      obtain ⟨k, v⟩ := head
      rcases List.nodup_cons.1 distinct with ⟨fresh, distinct⟩
      rcases List.mem_cons.1 member with same | member
      · cases same
        exact if_pos rfl
      · have differs : k ≠ key := by
          rintro rfl
          exact fresh (List.mem_map.2 ⟨(k, value), member, rfl⟩)
        rw [get?, if_neg differs]
        exact ih distinct member

/-! ## Entries in order -/

/-- An entry with a key beyond all others goes to the end. -/
theorem insert_of_lt (beyond : ∀ entry ∈ entries, entry.1 < key) :
    insert key value entries = entries ++ [(key, value)] := by
  induction entries with
  | nil => rfl
  | cons head rest ih =>
      obtain ⟨k, v⟩ := head
      have less : k < key := beyond _ List.mem_cons_self
      have differs : key ≠ k := by
        rintro rfl
        exact String.lt_irrefl _ less
      rw [insert, if_neg differs, if_neg (String.lt_asymm less),
        ih fun entry member => beyond entry (List.mem_cons_of_mem _ member)]
      rfl

/-- Entries in order stay as they are. -/
theorem ofList_of_ordered (h : Ordered entries) : ofList entries = entries := by
  -- The entries so far come before all that follow.
  have collect : ∀ (acc rest : List (String × α)), Ordered (acc ++ rest) →
      rest.foldl (fun acc entry => insert entry.1 entry.2 acc) acc = acc ++ rest := by
    intro acc rest
    induction rest generalizing acc with
    | nil => simp
    | cons head rest ih =>
        intro ordered
        have beyond : ∀ entry ∈ acc, entry.1 < head.1 := fun entry member =>
          (List.pairwise_append.1 ordered).2.2 entry member head List.mem_cons_self
        rw [List.foldl_cons, insert_of_lt beyond, ih]
        · simp
        · simpa using ordered
  exact collect [] entries h

theorem get?_eq_none_of_lt {entry : String × α} (h : Ordered (entry :: entries))
    (less : key < entry.1) : get? key (entry :: entries) = none := by
  refine get?_eq_none fun other member same => ?_
  subst same
  rcases List.mem_cons.1 member with rfl | later
  · exact String.lt_irrefl _ less
  · exact String.lt_asymm less ((List.pairwise_cons.1 h).1 other later)

/-- Entries in order are the same if the same is found under every key. -/
theorem ext_of_ordered (h : Ordered entries) (ho : Ordered others)
    (same : ∀ key, get? key entries = get? key others) : entries = others := by
  induction entries generalizing others with
  | nil =>
      cases others with
      | nil => rfl
      | cons other later => simpa [get?] using same other.1
  | cons entry rest ih =>
      cases others with
      | nil => simpa [get?] using same entry.1
      | cons other later =>
          obtain ⟨k, v⟩ := entry
          obtain ⟨l, w⟩ := other
          -- The smaller of two first keys would be missing on the other side.
          have first : ¬ k < l := by
            intro less
            have absent := get?_eq_none_of_lt ho less
            rw [← same k] at absent
            simp [get?] at absent
          have second : ¬ l < k := by
            intro less
            have absent := get?_eq_none_of_lt h less
            rw [same l] at absent
            simp [get?] at absent
          have keys : k = l := by
            by_cases differs : k = l
            · exact differs
            · exact absurd (lt_of_ne_of_not_lt differs first) second
          subst keys
          have values : v = w := by simpa [get?] using same k
          subst values
          have tails : rest = later := by
            refine ih h.tail ho.tail fun key => ?_
            by_cases met : k = key
            · subst met
              exact h.get?_tail.trans ho.get?_tail.symm
            · simpa [get?, met] using same key
          rw [tails]

/-! ## Entries in any order -/

/-- An entry with a new key joins the others. -/
theorem insert_perm (fresh : ∀ entry ∈ entries, entry.1 ≠ key) :
    (insert key value entries).Perm ((key, value) :: entries) := by
  induction entries with
  | nil => exact .refl _
  | cons head rest ih =>
      obtain ⟨k, v⟩ := head
      have differs : key ≠ k := Ne.symm (fresh _ List.mem_cons_self)
      rw [insert, if_neg differs]
      split
      · exact .refl _
      · have later := ih fun entry member => fresh entry (List.mem_cons_of_mem _ member)
        exact (later.cons (k, v)).trans (.swap ..)

/-- No entry comes from elsewhere. -/
theorem mem_of_mem_ofList {entry : String × α} (member : entry ∈ ofList entries) :
    entry ∈ entries := by
  have collect : ∀ (rest acc : List (String × α)),
      entry ∈ rest.foldl (fun acc entry => insert entry.1 entry.2 acc) acc →
        entry ∈ acc ∨ entry ∈ rest := by
    intro rest
    induction rest with
    | nil => exact fun acc member => Or.inl member
    | cons head rest ih =>
        intro acc member
        rcases ih _ member with inside | later
        · rcases mem_insert inside with rfl | inside
          · exact Or.inr List.mem_cons_self
          · exact Or.inl inside
        · exact Or.inr (List.mem_cons_of_mem head later)
  exact (collect entries [] member).resolve_left List.not_mem_nil

/-- Where no key occurs twice, no entry is lost. -/
theorem ofList_perm (distinct : (entries.map (·.1)).Nodup) : (ofList entries).Perm entries := by
  -- The entries so far have other keys than those that follow.
  have collect : ∀ (rest acc : List (String × α)), ((acc ++ rest).map (·.1)).Nodup →
      (rest.foldl (fun acc entry => insert entry.1 entry.2 acc) acc).Perm (acc ++ rest) := by
    intro rest
    induction rest with
    | nil => simp
    | cons head rest ih =>
        intro acc distinct
        have fresh : ∀ entry ∈ acc, entry.1 ≠ head.1 := by
          intro entry member same
          rw [List.map_append, List.nodup_append] at distinct
          exact distinct.2.2 _ (List.mem_map_of_mem member) _ List.mem_cons_self same
        have inserted : (insert head.1 head.2 acc).Perm (head :: acc) := insert_perm fresh
        have joined := inserted.append_right rest
        have all : (insert head.1 head.2 acc ++ rest).Perm (acc ++ head :: rest) :=
          joined.trans List.perm_middle.symm
        exact (ih _ ((all.map (·.1)).nodup_iff.2 distinct)).trans all
  exact collect entries [] distinct

/-! ## Values changed one by one -/

section Map

variable (f : α → β)

theorem get?_map (key : String) (entries : List (String × α)) :
    get? key (entries.map (Prod.map id f)) = (get? key entries).map f := by
  induction entries with
  | nil => rfl
  | cons entry rest ih =>
      obtain ⟨k, v⟩ := entry
      simp only [List.map_cons, Prod.map_apply, id_eq, get?, ih]
      split <;> rfl

theorem insert_map (key : String) (value : α) (entries : List (String × α)) :
    insert key (f value) (entries.map (Prod.map id f)) =
      (insert key value entries).map (Prod.map id f) := by
  induction entries with
  | nil => rfl
  | cons entry rest ih =>
      obtain ⟨k, v⟩ := entry
      simp only [List.map_cons, Prod.map_apply, id_eq, insert, ih]
      split
      · rfl
      · split <;> rfl

theorem erase_map (key : String) (entries : List (String × α)) :
    erase key (entries.map (Prod.map id f)) = (erase key entries).map (Prod.map id f) := by
  rw [erase, erase, List.filter_map]
  rfl

theorem ofList_map (entries : List (String × α)) :
    ofList (entries.map (Prod.map id f)) = (ofList entries).map (Prod.map id f) := by
  have collect : ∀ (rest acc : List (String × α)),
      (rest.map (Prod.map id f)).foldl (fun acc entry => insert entry.1 entry.2 acc)
          (acc.map (Prod.map id f)) =
        (rest.foldl (fun acc entry => insert entry.1 entry.2 acc) acc).map (Prod.map id f) := by
    intro rest
    induction rest with
    | nil => exact fun acc => rfl
    | cons entry rest ih =>
        intro acc
        rw [List.map_cons, List.foldl_cons, List.foldl_cons, ← ih, ← insert_map]
        rfl
  exact collect entries []

end Map

end KeyList

end DeviceConsole
