import DeviceConsole.Proofs.Coherence.Errand

/-!
# What is owed

While calls are halfway, everything in the register that does not fit is the duty of one of them.
This file defines:

* `Register.Accounted R owed`, that the register fits but for the duties owed;
* `Register.Accounted.move`: a move keeps the account, whatever others owe.
-/

namespace DeviceConsole

namespace Register

variable {R R' : Register} {id : ConnectionId} {i j : ConnectionRef}
  {owed owed' others : Duty → Prop}

/-- Whether everything that does not fit is owed. -/
structure Accounted (R : Register) (owed : Duty → Prop) : Prop where
  tidy : R.Tidy
  /-- Connections in use belong to profiles. -/
  housed : ∀ {id i}, (id, i) ∈ R.current →
    (R.profile? id).isSome ∨ ∃ moved, owed (.evict id moved)
  /-- They have these profiles. -/
  aligned : ∀ {id i card p}, (id, i) ∈ R.current → R.cards[i]? = some card →
    R.profile? id = some p → card.profile = p ∨ owed (.align id)
  /-- Connections that are not in use were destroyed. -/
  used : ∀ {i card}, R.cards[i]? = some card → card.destroyed = false →
    (card.id, i) ∈ R.current ∨ owed (.discard i)
  apart : ∀ {i}, owed (.discard i) → i < R.cards.length ∧ ∀ id, (id, i) ∉ R.current
  /-- The focus is on a profile. -/
  focused : ∀ {id}, R.focus = some id → (R.profile? id).isSome ∨ owed (.evict id false)

/-! ## Cards and profiles that change -/

theorem use_modify {f : Card → Card} (keeps : ∀ card, (f card).use = card.use) :
    (R.modify i f).cards.map Card.use = R.cards.map Card.use := by
  apply List.ext_getElem?
  intro j
  have kept : Card.use ∘ f = Card.use := funext keeps
  rw [List.getElem?_map, List.getElem?_map, get?_modify]
  by_cases same : i = j
  · rw [if_pos same, Option.map_map, kept]
  · rw [if_neg same]

theorem get?_of_use (same : R'.cards.map Card.use = R.cards.map Card.use) {card : Card}
    (found : R'.cards[i]? = some card) :
    ∃ before, R.cards[i]? = some before ∧ before.id = card.id ∧
      before.destroyed = card.destroyed := by
  have uses := congrArg (fun cards => cards[i]?) same
  simp only [List.getElem?_map, found, Option.map_some] at uses
  rcases Option.map_eq_some_iff.1 uses.symm with ⟨before, there, use⟩
  exact ⟨before, there, congrArg Prod.fst use, congrArg Prod.snd use⟩

theorem profile?_isSome_of_ids (same : R'.profiles.map (·.id) = R.profiles.map (·.id)) :
    (R'.profile? id).isSome ↔ (R.profile? id).isSome := by
  have mem : ∀ Q : Register, (Q.profile? id).isSome ↔ id ∈ Q.profiles.map (·.id) := by
    intro Q
    rw [profile?_isSome_iff, List.mem_map]
  rw [mem, mem, same]

/-- If no connection is made, taken out of use or destroyed, and no profile comes or goes, then all
that is left to show is that the connections in use have their profiles. -/
theorem Accounted.realign (h : R.Accounted owed)
    (ids : R'.profiles.map (·.id) = R.profiles.map (·.id)) (current : R'.current = R.current)
    (focus : R'.focus = R.focus) (cards : R'.cards.map Card.use = R.cards.map Card.use)
    (evicts : ∀ id moved, owed' (.evict id moved) ↔ owed (.evict id moved))
    (discards : ∀ i, owed' (.discard i) ↔ owed (.discard i))
    (aligned : ∀ {id i card p}, (id, i) ∈ R.current → R'.cards[i]? = some card →
      R'.profile? id = some p → card.profile = p ∨ owed' (.align id)) :
    R'.Accounted owed' where
  tidy := by
    refine ⟨?_, ?_, ?_⟩
    · rw [ids]
      exact h.tidy.ids
    · rw [current]
      exact h.tidy.keys
    · intro id i member
      rw [current] at member
      rcases h.tidy.entry member with ⟨card, found, rfl, alive⟩
      rcases get?_of_use cards.symm found with ⟨after, there, same, flag⟩
      exact ⟨after, there, same, flag.trans alive⟩
  housed := by
    intro id i member
    rw [current] at member
    rw [profile?_isSome_of_ids ids]
    simp only [evicts]
    exact h.housed member
  aligned := by
    intro id i card p member
    rw [current] at member
    exact aligned member
  used := by
    intro i card found alive
    rcases get?_of_use cards found with ⟨before, there, same, flag⟩
    rw [current, discards, ← same]
    exact h.used there (flag.trans alive)
  apart := by
    intro i discarded
    rw [discards] at discarded
    have length : R'.cards.length = R.cards.length := by simpa using congrArg List.length cards
    rw [length, current]
    exact h.apart discarded
  focused := by
    intro id focused
    rw [focus] at focused
    rw [profile?_isSome_of_ids ids, evicts]
    exact h.focused focused

/-! ## One move -/

/-- What a call owes along with others. -/
def Owes (d : Duty) (others : Duty → Prop) (x : Duty) : Prop := x = d ∨ others x

variable {d d' x : Duty} {p : Profile}

/-- Others owe what the call itself does not, whatever it owes next. -/
theorem Owes.of_ne (h : Owes d others x) (differs : x ≠ d) : Owes d' others x :=
  Or.inr (h.resolve_left differs)

/-! ### Moves of cards and profiles -/

theorem Accounted.equip (h : R.Accounted owed) (has : R.Has i p.id)
    (known : R.profile? p.id = some p) : (R.modify i (Card.rewrite p)).Accounted owed := by
  refine h.realign rfl rfl rfl (use_modify (f := Card.rewrite p) fun _ => rfl) (fun _ _ => .rfl)
    (fun _ => .rfl) ?_
  intro id j card q member found known'
  rw [get?_modify] at found
  by_cases same : i = j
  · subst same
    rcases has with ⟨before, there, named⟩
    rcases h.tidy.entry member with ⟨card', there', rfl, -⟩
    rw [there] at there'
    cases there'
    rw [profile?_modify, named, known] at known'
    cases known'
    simp only [there, if_pos, Option.map_some, Option.some.injEq] at found
    rw [← found]
    exact Or.inl rfl
  · rw [if_neg same] at found
    exact h.aligned member found known'

theorem Accounted.scribble {f : Card → Card} (h : R.Accounted (Owes .none others))
    (has : R.Has i id)
    (keeps : ∀ card, (f card).id = card.id ∧ (f card).destroyed = card.destroyed) :
    (R.modify i f).Accounted (Owes (.align id) others) := by
  refine h.realign rfl rfl rfl (use_modify fun card => ?_) (by simp [Owes]) (by simp [Owes]) ?_
  · exact Prod.ext (keeps card).1 (keeps card).2
  · intro other j card q member found known
    rw [get?_modify] at found
    by_cases same : i = j
    · subst same
      rcases has with ⟨before, there, rfl⟩
      rcases h.tidy.entry member with ⟨card', there', rfl, -⟩
      rw [there] at there'
      cases there'
      exact Or.inr (Or.inl rfl)
    · rw [if_neg same] at found
      exact (h.aligned member found known).imp_right (·.of_ne nofun)

theorem Accounted.edit {change : Profile → Profile} (h : R.Accounted (Owes d others))
    (mine : d = .none ∨ d = .align id) (keeps : ∀ p, p.id = id → (change p).id = id) :
    (R.withProfiles (Console.replaceFirst id change R.profiles)).Accounted
      (Owes (.align id) others) := by
  refine h.realign (map_id_replaceFirst keeps) rfl rfl rfl ?_ ?_ ?_
  · rcases mine with rfl | rfl <;> simp [Owes]
  · rcases mine with rfl | rfl <;> simp [Owes]
  · intro other j card q member found known
    rw [profile?_replaceFirst keeps] at known
    by_cases same : other = id
    · rw [same]
      exact Or.inr (Or.inl rfl)
    · rw [if_neg same] at known
      have differs : .align other ≠ d := by
        rcases mine with rfl | rfl
        · nofun
        · exact fun owed => same (Duty.align.inj owed)
      exact (h.aligned member found known).imp_right (·.of_ne differs)

theorem Accounted.settle (h : R.Accounted (Owes (.align p.id) others))
    (known : R.profile? p.id = some p) (member : (p.id, i) ∈ R.current) :
    (R.modify i (Card.rewrite p)).Accounted (Owes .none others) := by
  refine h.realign rfl rfl rfl (use_modify (f := Card.rewrite p) fun _ => rfl) (by simp [Owes])
    (by simp [Owes]) ?_
  intro other j card q entry found known'
  rw [get?_modify] at found
  by_cases same : i = j
  · subst same
    have named := h.tidy.id_unique entry member
    subst named
    rw [profile?_modify, known] at known'
    cases known'
    rcases h.tidy.entry entry with ⟨before, there, -, -⟩
    simp only [there, if_pos, Option.map_some, Option.some.injEq] at found
    rw [← found]
    exact Or.inl rfl
  · rw [if_neg same] at found
    -- The other connection would be one more for the same id.
    have differs : Duty.align other ≠ .align p.id := by
      intro owed
      rw [Duty.align.inj owed] at entry
      exact same (h.tidy.ref_unique member entry)
    exact (h.aligned entry found known').imp_right (·.of_ne differs)

theorem Accounted.spare (h : R.Accounted (Owes (.align id) others))
    (unused : ∀ i, (id, i) ∉ R.current) : R.Accounted (Owes .none others) := by
  refine h.realign rfl rfl rfl rfl (by simp [Owes]) (by simp [Owes]) ?_
  intro other j card q entry found known
  have differs : Duty.align other ≠ .align id := by
    intro owed
    rw [Duty.align.inj owed] at entry
    exact unused j entry
  exact (h.aligned entry found known).imp_right (·.of_ne differs)

/-! ### A connection comes -/

theorem mem_current_create : (id, i) ∈ (R.create p).current ↔
    (id, i) ∈ R.current ∨ id = p.id ∧ i = R.cards.length := by
  simp [Register.create]

theorem get?_create_of_lt (hi : i < R.cards.length) : (R.create p).cards[i]? = R.cards[i]? :=
  List.getElem?_append_left hi

theorem get?_create_length (R : Register) (p : Profile) :
    (R.create p).cards[R.cards.length]? = some ⟨p.id, p, false⟩ := by
  simp [Register.create]

theorem Tidy.create (h : R.Tidy) (unused : ∀ i, (p.id, i) ∉ R.current) : (R.create p).Tidy where
  ids := h.ids
  keys := by
    have fresh : p.id ∉ R.current.map (·.1) := by
      intro member
      rcases List.mem_map.1 member with ⟨⟨id, i⟩, entry, rfl⟩
      exact unused i entry
    have keys := h.keys.concat fresh
    rwa [List.concat_eq_append, ← List.map_singleton (f := fun entry => entry.1)
      (a := (p.id, R.cards.length)), ← List.map_append] at keys
  entry := by
    intro id i member
    rcases mem_current_create.1 member with old | ⟨rfl, rfl⟩
    · rw [get?_create_of_lt (h.lt old)]
      exact h.entry old
    · exact ⟨_, get?_create_length R p, rfl, rfl⟩

theorem Accounted.create (h : R.Accounted owed) (known : R.profile? p.id = some p)
    (unused : ∀ i, (p.id, i) ∉ R.current) : (R.create p).Accounted owed where
  tidy := h.tidy.create unused
  housed := by
    intro id i member
    rw [profile?_create]
    rcases mem_current_create.1 member with old | ⟨rfl, -⟩
    · exact h.housed old
    · exact Or.inl (Option.isSome_of_eq_some known)
  aligned := by
    intro id i card q member found asked
    rw [profile?_create] at asked
    rcases mem_current_create.1 member with old | ⟨rfl, rfl⟩
    · rw [get?_create_of_lt (h.tidy.lt old)] at found
      exact h.aligned old found asked
    · rw [get?_create_length] at found
      rw [known] at asked
      cases found
      cases asked
      exact Or.inl rfl
  used := by
    intro i card found alive
    have bound : i < R.cards.length + 1 := by
      simpa [Register.create] using (List.getElem?_eq_some_iff.1 found).1
    rcases Nat.lt_succ_iff_lt_or_eq.1 bound with hi | rfl
    · rw [get?_create_of_lt hi] at found
      exact (h.used found alive).imp_left fun old => mem_current_create.2 (Or.inl old)
    · rw [get?_create_length] at found
      cases found
      exact Or.inl (mem_current_create.2 (Or.inr ⟨rfl, rfl⟩))
  apart := by
    intro i discarded
    rcases h.apart discarded with ⟨hi, absent⟩
    refine ⟨by simpa [Register.create] using Nat.lt_succ_of_lt hi, ?_⟩
    intro id member
    rcases mem_current_create.1 member with old | ⟨-, rfl⟩
    · exact absent id old
    · exact Nat.lt_irrefl _ hi
  focused := h.focused

/-! ### A profile comes or goes -/

theorem Accounted.insert (h : R.Accounted owed) (unknown : R.profile? p.id = none)
    (unused : ∀ i, (p.id, i) ∉ R.current) :
    (R.withProfiles (R.profiles ++ [p])).Accounted owed := by
  have more : ∀ {id}, (R.profile? id).isSome →
      ((R.withProfiles (R.profiles ++ [p])).profile? id).isSome := by
    intro id known
    rw [profile?_append, Option.isSome_or, known]
    rfl
  have fresh : p.id ∉ R.profiles.map (·.id) := by
    intro member
    rcases List.mem_map.1 member with ⟨q, there, same⟩
    have known := profile?_isSome_iff.2 ⟨q, there, same⟩
    rw [unknown] at known
    cases known
  refine {
    tidy := ⟨?ids, h.tidy.keys, h.tidy.entry⟩
    housed := fun member => (h.housed member).imp_left more
    aligned := ?aligned
    used := h.used
    apart := h.apart
    focused := fun focused => (h.focused focused).imp_left more }
  case ids =>
    have ids := h.tidy.ids.concat fresh
    rwa [List.concat_eq_append, ← List.map_singleton (f := fun q => q.id) (a := p),
      ← List.map_append] at ids
  case aligned =>
    intro id i card q member found known
    -- An id in use is not the new one, so that its profile is an old one.
    have differs : p.id ≠ id := fun same => unused i (same ▸ member)
    rw [profile?_append, if_neg differs, Option.or_none] at known
    exact h.aligned member found known

theorem Accounted.drop (h : R.Accounted (Owes .none others)) :
    (R.withProfiles (Console.removeFirst id R.profiles)).Accounted
      (Owes (.evict id false) others) where
  tidy := by
    have fewer : (Console.removeFirst id R.profiles).Sublist R.profiles := List.eraseP_sublist
    exact ⟨h.tidy.ids.sublist (fewer.map _), h.tidy.keys, h.tidy.entry⟩
  housed := by
    intro other i member
    rw [profile?_removeFirst h.tidy.ids]
    by_cases same : other = id
    · rw [same]
      exact Or.inr ⟨false, Or.inl rfl⟩
    · rw [if_neg same]
      exact (h.housed member).imp_right fun ⟨moved, owed⟩ => ⟨moved, owed.of_ne nofun⟩
  aligned := by
    intro other i card q member found known
    rw [profile?_removeFirst h.tidy.ids] at known
    by_cases same : other = id
    · rw [if_pos same] at known
      cases known
    · rw [if_neg same] at known
      exact (h.aligned member found known).imp_right (·.of_ne nofun)
  used found alive := (h.used found alive).imp_right (·.of_ne nofun)
  apart owed := h.apart (owed.of_ne nofun)
  focused := by
    intro other focused
    rw [profile?_removeFirst h.tidy.ids]
    by_cases same : other = id
    · rw [same]
      exact Or.inr (Or.inl rfl)
    · rw [if_neg same]
      exact (h.focused focused).imp_right (·.of_ne nofun)

theorem Accounted.focus {target : Option ConnectionId} (h : R.Accounted (Owes d others))
    (known : ∀ id, target = some id → (R.profile? id).isSome) :
    (R.withFocus target).Accounted (Owes d.moved others) where
  tidy := ⟨h.tidy.ids, h.tidy.keys, h.tidy.entry⟩
  housed := by
    intro id i member
    rcases h.housed member with known | ⟨moved, rfl | owed⟩
    · exact Or.inl known
    · exact Or.inr ⟨true, Or.inl rfl⟩
    · exact Or.inr ⟨moved, Or.inr owed⟩
  aligned := by
    intro id i card q member found asked
    refine (h.aligned member found asked).imp_right fun owed => owed.imp_left ?_
    rintro rfl
    rfl
  used := by
    intro i card found alive
    refine (h.used found alive).imp_right fun owed => owed.imp_left ?_
    rintro rfl
    rfl
  apart := by
    intro i owed
    refine h.apart (owed.imp_left fun same => ?_)
    cases d <;> cases same
    rfl
  focused := by
    intro id focused
    exact Or.inl (known id focused)

/-! ### A connection goes -/

theorem mem_current_retire {other : ConnectionId} : (other, i) ∈ (R.retire id).current ↔
    (other, i) ∈ R.current ∧ other ≠ id := by
  simp [Register.retire]

theorem Tidy.retire (h : R.Tidy) (id : ConnectionId) : (R.retire id).Tidy where
  ids := h.ids
  keys := by
    have fewer : (R.retire id).current.Sublist R.current := List.filter_sublist
    exact h.keys.sublist (fewer.map _)
  entry member := h.entry (mem_current_retire.1 member).1

theorem Accounted.retire (h : R.Accounted (Owes d others))
    (mine : d = .none ∨ d = .evict id true) (member : (id, i) ∈ R.current) :
    (R.retire id).Accounted (Owes (.discard i) others) := by
  have differs : ∀ {x}, x ≠ .none → x ≠ .evict id true → x ≠ d := by
    intro x nothing evict
    rcases mine with rfl | rfl
    · exact nothing
    · exact evict
  refine {
    tidy := h.tidy.retire id
    housed := ?housed
    aligned := ?aligned
    used := ?used
    apart := ?apart
    focused := ?focused }
  case housed =>
    intro other j entry
    rcases mem_current_retire.1 entry with ⟨entry, another⟩
    refine (h.housed entry).imp_right ?_
    rintro ⟨moved, owed⟩
    exact ⟨moved, owed.of_ne (differs nofun fun same => another (Duty.evict.inj same).1)⟩
  case aligned =>
    intro other j card q entry found known
    have before := h.aligned (mem_current_retire.1 entry).1 found known
    exact before.imp_right (·.of_ne (differs nofun nofun))
  case used =>
    intro j card found alive
    rcases h.used found alive with entry | owed
    · by_cases same : card.id = id
      · rw [same] at entry
        rw [h.tidy.ref_unique entry member]
        exact Or.inr (Or.inl rfl)
      · exact Or.inl (mem_current_retire.2 ⟨entry, same⟩)
    · exact Or.inr (owed.of_ne (differs nofun nofun))
  case apart =>
    rintro j (owed | owed)
    · cases owed
      refine ⟨h.tidy.lt member, ?_⟩
      intro other entry
      rcases mem_current_retire.1 entry with ⟨entry, another⟩
      exact another (h.tidy.id_unique entry member)
    · rcases h.apart (Or.inr owed) with ⟨hj, absent⟩
      exact ⟨hj, fun other entry => absent other (mem_current_retire.1 entry).1⟩
  case focused =>
    intro other focused
    exact (h.focused focused).imp_right (·.of_ne (differs nofun nofun))

theorem Accounted.vacant (h : R.Accounted (Owes (.evict id true) others))
    (unused : ∀ i, (id, i) ∉ R.current) : R.Accounted (Owes .none others) where
  tidy := h.tidy
  housed := by
    intro other i member
    refine (h.housed member).imp_right ?_
    rintro ⟨moved, owed⟩
    refine ⟨moved, owed.of_ne fun same => ?_⟩
    rw [(Duty.evict.inj same).1] at member
    exact unused i member
  aligned member found known := (h.aligned member found known).imp_right (·.of_ne nofun)
  used found alive := (h.used found alive).imp_right (·.of_ne nofun)
  apart owed := h.apart (owed.of_ne nofun)
  focused focused := (h.focused focused).imp_right (·.of_ne nofun)

theorem Accounted.mark (h : R.Accounted (Owes (.discard i) others)) :
    (R.modify i Card.strike).Accounted (Owes .none others) := by
  have absent := (h.apart (Or.inl rfl)).2
  -- The connection is not in use, so that those in use have the cards that they had.
  have same : ∀ {id j}, (id, j) ∈ R.current →
      (R.modify i Card.strike).cards[j]? = R.cards[j]? := by
    intro id j member
    have differs : i ≠ j := fun same => absent id (same ▸ member)
    rw [get?_modify, if_neg differs]
  refine {
    tidy := ⟨h.tidy.ids, h.tidy.keys, ?entry⟩
    housed := ?housed
    aligned := ?aligned
    used := ?used
    apart := ?apart
    focused := fun focused => (h.focused focused).imp_right (·.of_ne nofun) }
  case entry =>
    intro id j member
    rw [same member]
    exact h.tidy.entry member
  case housed =>
    intro id j member
    exact (h.housed member).imp_right fun ⟨moved, owed⟩ => ⟨moved, owed.of_ne nofun⟩
  case aligned =>
    intro id j card q member found known
    rw [same member] at found
    exact (h.aligned member found known).imp_right (·.of_ne nofun)
  case used =>
    intro j card found alive
    rw [get?_modify] at found
    by_cases struck : i = j
    · rw [if_pos struck] at found
      rcases Option.map_eq_some_iff.1 found with ⟨before, -, rfl⟩
      cases alive
    · rw [if_neg struck] at found
      have differs : Duty.discard j ≠ .discard i := fun same => struck (Duty.discard.inj same).symm
      exact (h.used found alive).imp_right (·.of_ne differs)
  case apart =>
    intro j owed
    have length : (R.modify i Card.strike).cards.length = R.cards.length := List.length_modify ..
    rw [length]
    exact h.apart (owed.of_ne nofun)

/-! ### Every move -/

/-- A move keeps the account. -/
theorem Accounted.move {e : Errand} (h : R.Accounted (Owes d others))
    (move : e.Move d R d' R') : R'.Accounted (Owes d' others) := by
  cases move with
  | keep => exact h
  | create known unused => exact h.create known unused
  | equip has known => exact h.equip has known
  | scribble has keeps => exact h.scribble has keeps
  | edit mine keeps => exact h.edit mine keeps
  | settle known member => exact h.settle known member
  | spare unused => exact h.spare unused
  | insert unknown unused => exact h.insert unknown unused
  | drop _ _ => exact h.drop
  | focus known => exact h.focus known
  | retire mine member => exact h.retire mine member
  | vacant unused => exact h.vacant unused
  | mark => exact h.mark

end Register

end DeviceConsole
