import Mathlib.Data.List.Infix
import DeviceConsole.Text.Substitute

/-!
# What replacing a mark makes of a text

A mark cuts a text into parts, whatever is put in its place later.  This file defines:

* `Text.parts`, the parts of a text between the occurrences of a mark, with
  `Text.replaceFrom_eq_intercalate`: replacing the mark joins these parts by the new text.

It shows where a replacement leaves a text alone, that it stops at every character which the mark
does not have, that it brings in no other mark, and how often each character occurs afterwards.
-/

namespace DeviceConsole

namespace Text

/-- The parts of a text between the occurrences of a mark; the first `skip` characters belong to an
occurrence. -/
def parts (mark : List Char) : Nat → List Char → List (List Char)
  | _, [] => [[]]
  | skip + 1, _ :: rest => parts mark skip rest
  | 0, c :: rest =>
    if mark.isPrefixOf (c :: rest) then [] :: parts mark (mark.length - 1) rest
    else (parts mark 0 rest).modifyHead (c :: ·)

variable {mark new other text front rest : List Char} {c : Char} {skip : Nat}

theorem parts_ne_nil (mark : List Char) (skip : Nat) (text : List Char) :
    parts mark skip text ≠ [] := by
  fun_induction parts mark skip text with
  | case1 => simp
  | case2 _ _ _ ih => exact ih
  | case3 => simp
  | case4 _ _ _ ih => cases same : parts mark 0 _ <;> simp_all

/-! ## Parts and their joint -/

theorem intercalate_modifyHead {parts : List (List Char)} (some : parts ≠ []) :
    new.intercalate (parts.modifyHead (c :: ·)) = c :: new.intercalate parts := by
  rcases parts with _ | ⟨first, _ | ⟨second, later⟩⟩
  · exact absurd rfl some
  · simp
  · simp

/-- The parts do not depend on what takes the place of the mark. -/
theorem replaceFrom_eq_intercalate (mark new : List Char) (skip : Nat) (text : List Char) :
    replaceFrom mark new skip text = new.intercalate (parts mark skip text) := by
  fun_induction parts mark skip text with
  | case1 skip => cases skip <;> simp [replaceFrom]
  | case2 _ _ _ ih => rw [replaceFrom, ih]
  | case3 c rest here ih =>
      rw [replaceFrom, if_pos here, ih]
      obtain ⟨first, later, same⟩ := List.exists_cons_of_ne_nil
        (parts_ne_nil mark (mark.length - 1) rest)
      rw [same, List.intercalate_cons_cons, List.nil_append]
  | case4 c rest here ih =>
      rw [replaceFrom, if_neg here, ih, intercalate_modifyHead (parts_ne_nil mark 0 rest)]

/-! ## Texts that a replacement leaves alone -/

theorem not_isPrefixOf_of_absent (absent : ¬ mark <:+: text) : ¬ mark.isPrefixOf text = true :=
  fun here => absent (List.isPrefixOf_iff_prefix.1 here).isInfix

/-- A text without the mark stays as it is. -/
theorem replaceFrom_of_absent (absent : ¬ mark <:+: text) :
    replaceFrom mark new 0 text = text := by
  induction text with
  | nil => rfl
  | cons c rest ih =>
      have later : ¬ mark <:+: rest := fun inside => absent (inside.trans (List.infix_cons
        List.infix_rfl))
      rw [replaceFrom, if_neg (not_isPrefixOf_of_absent absent), ih later]

theorem replaceFrom_skip (skipped rest : List Char) :
    replaceFrom mark new skipped.length (skipped ++ rest) = replaceFrom mark new 0 rest := by
  induction skipped with
  | nil => rfl
  | cons c skipped ih => exact ih

theorem replaceFrom_mark (some : mark ≠ []) :
    replaceFrom mark new 0 (mark ++ rest) = new ++ replaceFrom mark new 0 rest := by
  obtain ⟨c, tail, rfl⟩ := List.exists_cons_of_ne_nil some
  have here : (c :: tail).isPrefixOf (c :: (tail ++ rest)) = true :=
    List.isPrefixOf_iff_prefix.2 (List.prefix_append (c :: tail) rest)
  rw [List.cons_append, replaceFrom, if_pos here]
  exact congrArg (new ++ ·) (replaceFrom_skip tail rest)

/-! ## Characters that the mark does not have -/

theorem prefix_append_cons_iff (apart : c ∉ mark) :
    mark <+: front ++ c :: rest ↔ mark <+: front := by
  constructor
  · intro here
    rcases List.prefix_or_prefix_of_prefix here (List.prefix_append front _) with inside | beyond
    · exact inside
    · obtain ⟨tail, rfl⟩ := beyond
      rw [List.prefix_append_right_inj] at here
      cases tail with
      | nil => simp
      | cons d tail =>
          obtain ⟨rfl, -⟩ := List.cons_prefix_cons.1 here
          simp at apart
  · exact fun here => here.trans (List.prefix_append front _)

theorem infix_append_cons_iff (apart : c ∉ mark) :
    mark <:+: front ++ c :: rest ↔ mark <:+: front ∨ mark <:+: rest := by
  induction front with
  | nil =>
      have first : mark <+: [] ++ c :: rest ↔ mark <+: [] := prefix_append_cons_iff apart
      rw [List.nil_append] at first ⊢
      rw [List.infix_cons_iff, first, List.infix_nil, List.prefix_nil]
  | cons d front ih =>
      rw [List.cons_append, List.infix_cons_iff, ih, List.infix_cons_iff, or_assoc,
        ← List.cons_append, prefix_append_cons_iff apart]

theorem replaceFrom_cons (some : mark ≠ []) (apart : c ∉ mark) :
    replaceFrom mark new 0 (c :: rest) = c :: replaceFrom mark new 0 rest := by
  have other : ¬ mark.isPrefixOf (c :: rest) = true := by
    rw [List.isPrefixOf_iff_prefix, ← List.nil_append (c :: rest), prefix_append_cons_iff apart,
      List.prefix_nil]
    exact some
  rw [replaceFrom, if_neg other]

/-- What stands before and after such a character is replaced on its own. -/
theorem replaceFrom_append_cons (some : mark ≠ []) (apart : c ∉ mark)
    (within : skip ≤ front.length) :
    replaceFrom mark new skip (front ++ c :: rest) =
      replaceFrom mark new skip front ++ c :: replaceFrom mark new 0 rest := by
  induction front generalizing skip with
  | nil =>
      obtain rfl : skip = 0 := Nat.le_zero.1 within
      exact replaceFrom_cons some apart
  | cons d front ih =>
      cases skip with
      | succ skip => exact ih (Nat.le_of_succ_le_succ within)
      | zero =>
          have same : mark.isPrefixOf (d :: (front ++ c :: rest)) =
              mark.isPrefixOf (d :: front) := by
            rw [Bool.eq_iff_iff, List.isPrefixOf_iff_prefix, List.isPrefixOf_iff_prefix,
              ← List.cons_append, prefix_append_cons_iff apart]
          rw [List.cons_append, replaceFrom, replaceFrom, same]
          split
          next here =>
            have short := (List.isPrefixOf_iff_prefix.1 here).length_le
            rw [List.length_cons] at short
            rw [ih (by omega), List.append_assoc]
          next => rw [ih (Nat.zero_le _), List.cons_append]

/-! ## Other marks -/

/-- The first part starts the text, and the others lie in it. -/
theorem parts_spread {first : List Char} {later : List (List Char)}
    (cut : parts mark skip text = first :: later) :
    first <+: text.drop skip ∧ ∀ part ∈ later, part <:+: text := by
  fun_induction parts mark skip text generalizing first later with
  | case1 skip =>
      cases cut
      simp
  | case2 skip c rest ih =>
      obtain ⟨start, inside⟩ := ih cut
      exact ⟨start, fun part member => (inside part member).trans (List.suffix_cons c rest).isInfix⟩
  | case3 c rest here ih =>
      cases cut
      refine ⟨List.nil_prefix, fun part member => ?_⟩
      obtain ⟨next, others, same⟩ := List.exists_cons_of_ne_nil
        (parts_ne_nil mark (mark.length - 1) rest)
      obtain ⟨start, inside⟩ := ih same
      have within : part <:+: rest := by
        rcases List.mem_cons.1 (same ▸ member) with rfl | member
        · exact start.isInfix.trans (List.drop_suffix _ rest).isInfix
        · exact inside part member
      exact within.trans (List.suffix_cons c rest).isInfix
  | case4 c rest here ih =>
      obtain ⟨next, others, same⟩ := List.exists_cons_of_ne_nil
        (parts_ne_nil mark 0 rest)
      obtain ⟨start, inside⟩ := ih same
      rw [same, List.modifyHead_cons] at cut
      cases cut
      exact ⟨List.cons_prefix_cons.2 ⟨rfl, start⟩,
        fun part member => (inside part member).trans (List.suffix_cons c rest).isInfix⟩

theorem infix_of_mem_parts {part : List Char} (member : part ∈ parts mark 0 text) :
    part <:+: text := by
  obtain ⟨first, later, cut⟩ := List.exists_cons_of_ne_nil
    (parts_ne_nil mark 0 text)
  obtain ⟨start, inside⟩ := parts_spread cut
  rcases List.mem_cons.1 (cut ▸ member) with rfl | member
  · exact start.isInfix
  · exact inside part member

theorem infix_append_of_forall (some : new ≠ []) (apart : ∀ c ∈ new, c ∉ other)
    (inside : other <:+: front ++ new ++ rest) : other <:+: front ∨ other <:+: rest := by
  induction new generalizing front with
  | nil => exact absurd rfl some
  | cons c new ih =>
      rw [List.forall_mem_cons] at apart
      rw [List.append_assoc, List.cons_append, infix_append_cons_iff apart.1] at inside
      refine inside.imp id fun inside => ?_
      by_cases last : new = []
      · simpa [last] using inside
      · -- What is left of the new text has nothing in front of it.
        have nothing : other <:+: [] ++ new ++ rest := inside
        exact (ih last apart.2 nothing).elim
          (fun empty => (List.eq_nil_of_infix_nil empty) ▸ List.nil_infix) id

theorem not_infix_intercalate {parts : List (List Char)} (some : new ≠ []) (solid : other ≠ [])
    (apart : ∀ c ∈ new, c ∉ other) (absent : ∀ part ∈ parts, ¬ other <:+: part) :
    ¬ other <:+: new.intercalate parts := by
  induction parts with
  | nil => simpa using solid
  | cons part parts ih =>
      rw [List.forall_mem_cons] at absent
      cases parts with
      | nil => simpa using absent.1
      | cons second later =>
          rw [List.intercalate_cons_cons]
          exact fun inside => (infix_append_of_forall some apart inside).elim absent.1
            (ih absent.2)

/-- A text that shares no character with a mark cannot bring it in. -/
theorem not_infix_replaceFrom (some : new ≠ []) (solid : other ≠ [])
    (apart : ∀ c ∈ new, c ∉ other) (absent : ¬ other <:+: text) :
    ¬ other <:+: replaceFrom mark new 0 text := by
  rw [replaceFrom_eq_intercalate]
  exact not_infix_intercalate some solid apart fun part member inside =>
    absent (inside.trans (infix_of_mem_parts member))

/-! ## Counting characters -/

theorem countP_intercalate (p : Char → Bool) (new : List Char) (parts : List (List Char)) :
    (new.intercalate parts).countP p =
      parts.flatten.countP p + (parts.length - 1) * new.countP p := by
  induction parts with
  | nil => simp
  | cons part parts ih =>
      cases parts with
      | nil => simp
      | cons second later =>
          rw [List.intercalate_cons_cons, List.countP_append, List.countP_append, ih]
          simp only [List.flatten_cons, List.countP_append, List.length_cons, Nat.add_sub_cancel,
            Nat.add_one_mul]
          omega

/-- Putting the mark in its own place changes nothing. -/
theorem replaceFrom_self (some : mark ≠ []) (skip : Nat) :
    replaceFrom mark mark skip text = text.drop skip := by
  induction text generalizing skip with
  | nil => cases skip <;> rfl
  | cons c rest ih =>
      cases skip with
      | succ skip => exact ih skip
      | zero =>
          rw [replaceFrom]
          split
          next here =>
            obtain ⟨tail, whole⟩ := List.isPrefixOf_iff_prefix.1 here
            obtain ⟨d, mark, rfl⟩ := List.exists_cons_of_ne_nil some
            obtain ⟨rfl, rfl⟩ := List.cons.inj whole
            rw [ih]
            simp
          next => rw [ih, List.drop_zero, List.drop_zero]

/-- A text with the mark falls into two parts at least. -/
theorem two_le_length_parts (inside : mark <:+: text) (some : mark ≠ []) :
    2 ≤ (parts mark 0 text).length := by
  induction text with
  | nil => exact absurd (List.infix_nil.1 inside) some
  | cons c rest ih =>
      rw [parts]
      split
      next here =>
        have more := List.length_pos_of_ne_nil
          (parts_ne_nil mark (mark.length - 1) rest)
        rw [List.length_cons]
        omega
      next other =>
        rw [List.length_modifyHead]
        rcases List.infix_cons_iff.1 inside with here | later
        · exact absurd (List.isPrefixOf_iff_prefix.2 here) other
        · exact ih later

/-- Each occurrence of the mark takes its characters along and leaves those of the new text. -/
theorem countP_replaceFrom (p : Char → Bool) (some : mark ≠ []) (new text : List Char) :
    (replaceFrom mark new 0 text).countP p + ((parts mark 0 text).length - 1) * mark.countP p =
      text.countP p + ((parts mark 0 text).length - 1) * new.countP p := by
  have whole : mark.intercalate (parts mark 0 text) = text := by
    rw [← replaceFrom_eq_intercalate, replaceFrom_self some, List.drop_zero]
  have before := countP_intercalate p mark (parts mark 0 text)
  have after := countP_intercalate p new (parts mark 0 text)
  rw [whole] at before
  rw [replaceFrom_eq_intercalate]
  omega

variable {p : Char → Bool}

theorem countP_replaceFrom_le (some : mark ≠ []) (absent : ∀ c ∈ new, ¬ p c) :
    (replaceFrom mark new 0 text).countP p ≤ text.countP p := by
  have balance := countP_replaceFrom p some new text
  rw [List.countP_eq_zero.2 absent] at balance
  omega

theorem countP_replaceFrom_lt (member : ∃ c ∈ mark, p c) (absent : ∀ c ∈ new, ¬ p c)
    (inside : mark <:+: text) : (replaceFrom mark new 0 text).countP p < text.countP p := by
  obtain ⟨c, known, -⟩ := id member
  have some : mark ≠ [] := List.ne_nil_of_mem known
  have balance := countP_replaceFrom p some new text
  have occurs := two_le_length_parts inside some
  have taken := Nat.mul_pos (Nat.sub_pos_of_lt occurs) (List.countP_pos_iff.2 member)
  rw [List.countP_eq_zero.2 absent] at balance
  omega

/-- A character is there because of the new text, or it is there also if the mark is only taken
away. -/
theorem mem_replaceFrom (member : c ∈ replaceFrom mark new skip text) :
    c ∈ new ∨ c ∈ replaceFrom mark [] skip text := by
  fun_induction replaceFrom mark new skip text with
  | case1 => exact nomatch member
  | case2 _ _ _ ih => exact ih member
  | case3 d rest here ih =>
      rw [replaceFrom, if_pos here, List.nil_append]
      exact (List.mem_append.1 member).elim Or.inl ih
  | case4 d rest here ih =>
      rw [replaceFrom, if_neg here]
      rcases List.mem_cons.1 member with rfl | member
      · exact Or.inr List.mem_cons_self
      · exact (ih member).imp_right (List.mem_cons_of_mem d)

end Text

end DeviceConsole
