import Mathlib.Data.List.Induction
import DeviceConsole.Session.Operations

/-!
# What becomes of declared filters

Requested filters are declared one after the other: the first subscription for a filter gets new
options, and a filter without one gets a new subscription at the end.  This file defines:

* `Subscription.Proposal`, a request with the subscription that it leads to if there is none, and
  `Subscription.upsertAll`, which declares several of them;
* `Subscription.Extends`, how a list of declared subscriptions grows by requests;
* `Subscription.Stems`, where a new subscription comes from;

and shows that declaring filters extends the list by subscriptions that stem from the proposals,
`Subscription.upsertAll_extends`.
-/

namespace DeviceConsole

/-- No element is left twice. -/
theorem nodup_eraseDups {α : Type} [BEq α] [LawfulBEq α] (xs : List α) : xs.eraseDups.Nodup := by
  match xs with
  | [] => simp
  | x :: rest =>
      rw [List.eraseDups_cons, List.nodup_cons]
      refine ⟨?_, nodup_eraseDups _⟩
      simp
termination_by xs.length
decreasing_by exact Nat.lt_succ_of_le (List.length_filter_le _ _)

/-- An element that comes last is kept unless it occurred before. -/
theorem eraseDups_concat {α : Type} [DecidableEq α] (xs : List α) (x : α) :
    (xs ++ [x]).eraseDups =
      if x ∈ xs.eraseDups then xs.eraseDups else xs.eraseDups ++ [x] := by
  rw [List.eraseDups_append]
  split
  · next known => simp [List.removeAll, List.mem_eraseDups.1 known]
  · next unknown =>
      have fresh : x ∉ xs := mt List.mem_eraseDups.2 unknown
      simp [List.removeAll, fresh, List.eraseDups_cons]

namespace Subscription

def topics (ds : List Subscription) : List String := ds.map (·.topic)

/-- The options that a filter is requested with; of several requests, the last one counts. -/
def requested? (requests : List FilterRequest) (topic : String) : Option SubscribeOptions :=
  requests.reverse.lookup topic

theorem requested?_append (requests : List FilterRequest) (request : FilterRequest)
    (topic : String) : requested? (requests ++ [request]) topic =
      if topic = request.1 then some request.2 else requested? requests topic := by
  obtain ⟨filter, options⟩ := request
  by_cases same : topic = filter
  · simp [requested?, same]
  · have differs : (topic == filter) = false := beq_eq_false_iff_ne.2 same
    simp [requested?, List.lookup_cons, same, differs]

/-! ## One filter -/

section

variable {ds more : List Subscription} {d new : Subscription} {topic : String}
  {options : SubscribeOptions}

theorem topics_append : topics (ds ++ more) = topics ds ++ topics more := List.map_append

theorem topics_take (k : Nat) : topics (ds.take k) = (topics ds).take k := List.map_take

theorem topics_upsert_of_mem (declared : topic ∈ topics ds) :
    topics (upsert topic options new ds) = topics ds := by
  induction ds with
  | nil => cases declared
  | cons e rest ih =>
      rw [upsert]
      split
      · rfl
      · next differs =>
          have later : topic ∈ topics rest :=
            (List.mem_cons.1 declared).resolve_left (Ne.symm differs)
          exact congrArg (e.topic :: ·) (ih later)

theorem length_upsert_of_mem (declared : topic ∈ topics ds) :
    (upsert topic options new ds).length = ds.length := by
  have same : topics (upsert topic options new ds) = topics ds := topics_upsert_of_mem declared
  simpa [topics] using congrArg List.length same

theorem upsert_append_of_mem (declared : topic ∈ topics ds) :
    upsert topic options new (ds ++ more) = upsert topic options new ds ++ more := by
  induction ds with
  | nil => cases declared
  | cons e rest ih =>
      rw [List.cons_append, upsert, upsert]
      split
      · rfl
      · next differs =>
          have later : topic ∈ topics rest :=
            (List.mem_cons.1 declared).resolve_left (Ne.symm differs)
          exact congrArg (e :: ·) (ih later)

theorem upsert_append_of_not_mem (undeclared : topic ∉ topics ds) :
    upsert topic options new (ds ++ more) = ds ++ upsert topic options new more := by
  induction ds with
  | nil => rfl
  | cons e rest ih =>
      rcases not_or.1 (mt List.mem_cons.2 undeclared) with ⟨differs, later⟩
      rw [List.cons_append, upsert, if_neg (Ne.symm differs), ih later]
      rfl

theorem upsert_of_not_mem (undeclared : topic ∉ topics ds) :
    upsert topic options new ds = ds ++ [new] := by
  have appended : upsert topic options new (ds ++ []) = ds ++ upsert topic options new [] :=
    upsert_append_of_not_mem undeclared
  simpa [upsert] using appended

/-- The first subscription for a filter gets new options; all others stay as they are. -/
theorem getElem?_upsert {k : Nat} (found : ds[k]? = some d) :
    (upsert topic options new ds)[k]? = some
      (if d.topic = topic ∧ topic ∉ topics (ds.take k) then { d with options := options }
        else d) := by
  induction ds generalizing k with
  | nil => cases found
  | cons e rest ih =>
      rw [upsert]
      cases k with
      | zero =>
          obtain rfl : e = d := Option.some.inj found
          split
          · next same => simp [same, topics]
          · next differs => simp [differs]
      | succ k =>
          replace found : rest[k]? = some d := found
          split
          · next same => simp [found, topics, same]
          · next differs =>
              rw [List.getElem?_cons_succ, ih found]
              simp [topics, Ne.symm differs]

/-- Where no filter is declared twice, all subscriptions for a filter get new options. -/
theorem mem_upsert (distinct : (topics ds).Nodup) (member : d ∈ upsert topic options new ds) :
    (d = new ∧ topic ∉ topics ds) ∨ (d ∈ ds ∧ d.topic ≠ topic) ∨
      ∃ e ∈ ds, e.topic = topic ∧ d = { e with options := options } := by
  induction ds with
  | nil => exact Or.inl ⟨List.mem_singleton.1 member, nofun⟩
  | cons e rest ih =>
      rcases List.nodup_cons.1 distinct with ⟨unique, distinct⟩
      rw [upsert] at member
      split at member
      · next same =>
          right
          rcases List.mem_cons.1 member with rfl | member
          · exact Or.inr ⟨e, List.mem_cons_self, same, rfl⟩
          · -- No later subscription is for the filter of the first one.
            refine Or.inl ⟨List.mem_cons_of_mem _ member, ?_⟩
            rintro rfl
            exact unique (List.mem_map.2 ⟨d, member, same.symm⟩)
      · next differs =>
          rcases List.mem_cons.1 member with rfl | member
          · exact Or.inr (Or.inl ⟨List.mem_cons_self, differs⟩)
          · rcases ih distinct member with ⟨rfl, fresh⟩ | ⟨old, other⟩ | ⟨first, old, same, rfl⟩
            · refine Or.inl ⟨rfl, ?_⟩
              simpa [topics, Ne.symm differs] using fresh
            · exact Or.inr (Or.inl ⟨List.mem_cons_of_mem _ old, other⟩)
            · exact Or.inr (Or.inr ⟨first, List.mem_cons_of_mem _ old, same, rfl⟩)

end

/-! ## Several filters -/

/-- A request for a filter, with the subscription that it leads to if there is none. -/
structure Proposal where
  request : FilterRequest
  entry : Subscription
  named : entry.topic = request.1

/-- Declares the filters of proposals one after the other. -/
def upsertAll (ps : List Proposal) (ds : List Subscription) : List Subscription :=
  ps.foldl (fun ds q => upsert q.request.1 q.request.2 q.entry ds) ds

/-- How declared subscriptions grow by requests: there are some at the place of the old ones, and
new ones after them. -/
structure Extends (requests : List FilterRequest) (before olds news : List Subscription) :
    Prop where
  /-- The old subscriptions stay where they are, and as they are, save that the first one for a
  requested filter has the requested options. -/
  old : ∀ (k : Nat) (d : Subscription), before[k]? = some d →
    olds[k]? = some
      (if d.topic ∈ topics (before.take k) then d
        else { d with options := (requested? requests d.topic).getD d.options })
  length : olds.length = before.length
  /-- There is one new subscription for each requested filter that was not declared, in the order in
  which they were requested first. -/
  new : topics news = ((requests.map (·.1)).filter (· ∉ topics before)).eraseDups

/-- Where a new subscription comes from: it is one that was proposed, and has the options that were
requested last if the filter was requested again. -/
structure Stems (ps : List Proposal) (d : Subscription) : Prop where
  source : ∃ q ∈ ps, d = { q.entry with options := d.options }
  once : ∀ q, ps.filter (·.request.1 = d.topic) = [q] → d = q.entry
  again : (∀ q, ps.filter (·.request.1 = d.topic) ≠ [q]) →
    requested? (ps.map (·.request)) d.topic = some d.options

namespace Extends

variable {requests : List FilterRequest} {before olds news : List Subscription}

theorem topics_old (h : Extends requests before olds news) : topics olds = topics before := by
  refine List.ext_getElem? fun k => ?_
  rw [topics, topics, List.getElem?_map, List.getElem?_map]
  cases found : before[k]? with
  | none =>
      have beyond := List.getElem?_eq_none_iff.1 found
      rw [← h.length] at beyond
      rw [List.getElem?_eq_none beyond]
  | some d =>
      rw [h.old k d found]
      simp only [Option.map_some]
      split <;> rfl

theorem topic_new (h : Extends requests before olds news) {d : Subscription} (member : d ∈ news) :
    d.topic ∈ requests.map (·.1) ∧ d.topic ∉ topics before := by
  have named : d.topic ∈ topics news := List.mem_map_of_mem member
  rw [h.new, List.mem_eraseDups, List.mem_filter] at named
  exact ⟨named.1, by simpa using named.2⟩

theorem distinct_new (h : Extends requests before olds news) : (topics news).Nodup := by
  rw [h.new]
  exact nodup_eraseDups _

/-- No filter is declared twice if none was before. -/
theorem distinct (h : Extends requests before olds news) (distinct : (topics before).Nodup) :
    (topics (olds ++ news)).Nodup := by
  rw [topics_append, h.topics_old, List.nodup_append]
  refine ⟨distinct, h.distinct_new, ?_⟩
  rintro topic old _ new rfl
  rcases List.mem_map.1 new with ⟨d, member, rfl⟩
  exact (h.topic_new member).2 old

theorem refl (ds : List Subscription) : Extends [] ds ds [] where
  old k d found := by
    rw [found]
    simp [requested?]
  length := rfl
  new := rfl

end Extends

/-- What is known of a filter does not depend on requests for others. -/
theorem Stems.append_of_ne {ps : List Proposal} {d : Subscription} {q : Proposal}
    (h : Stems ps d) (differs : q.request.1 ≠ d.topic) : Stems (ps ++ [q]) d := by
  have same : (ps ++ [q]).filter (·.request.1 = d.topic) = ps.filter (·.request.1 = d.topic) := by
    simp [List.filter_append, differs]
  constructor
  case source =>
    rcases h.source with ⟨q', member, from'⟩
    exact ⟨q', List.mem_append_left _ member, from'⟩
  case once =>
    rw [same]
    exact h.once
  case again =>
    rw [same, List.map_append, List.map_singleton, requested?_append, if_neg (Ne.symm differs)]
    exact h.again

theorem Stems.of_first {ps : List Proposal} {q : Proposal}
    (first : q.request.1 ∉ ps.map (·.request.1)) : Stems (ps ++ [q]) q.entry := by
  have alone : (ps ++ [q]).filter (·.request.1 = q.entry.topic) = [q] := by
    have none : ps.filter (·.request.1 = q.entry.topic) = [] := by
      rw [List.filter_eq_nil_iff]
      intro q' member same
      refine first (List.mem_map.2 ⟨q', member, ?_⟩)
      simpa [q.named] using same
    rw [List.filter_append, none]
    simp [q.named]
  constructor
  case source => exact ⟨q, by simp, rfl⟩
  case once =>
    rw [alone]
    rintro _ ⟨⟩
    rfl
  case again => exact fun never => absurd alone (never q)

/-- A subscription gets new options as its filter is requested again. -/
theorem Stems.renew {ps : List Proposal} {q : Proposal} {e : Subscription} (h : Stems ps e)
    (same : e.topic = q.request.1) :
    Stems (ps ++ [q]) { e with options := q.request.2 } := by
  constructor
  case source =>
    rcases h.source with ⟨q', member, from'⟩
    refine ⟨q', List.mem_append_left _ member, ?_⟩
    rw [from']
  case once =>
    intro q' alone
    -- The filter had been requested before already.
    rcases h.source with ⟨first, member, from'⟩
    have named : first.request.1 = e.topic := by
      rw [← first.named, from']
    have kept : first ∈ ps.filter (·.request.1 = e.topic) :=
      List.mem_filter.2 ⟨member, by simpa using named⟩
    have twice : ps.filter (·.request.1 = e.topic) ++ [q] = [q'] := by
      rw [← alone, List.filter_append]
      simp [same]
    rw [List.append_eq_singleton_iff] at twice
    rcases twice with ⟨none, -⟩ | ⟨-, ⟨⟩⟩
    rw [none] at kept
    cases kept
  case again =>
    intro _
    rw [List.map_append, List.map_singleton, requested?_append, if_pos same]

/-- One more proposal. -/
theorem upsert_extends {ps : List Proposal} {before olds news : List Subscription} (q : Proposal)
    (h : Extends (ps.map (·.request)) before olds news) (stems : ∀ d ∈ news, Stems ps d) :
    ∃ olds' news', upsert q.request.1 q.request.2 q.entry (olds ++ news) = olds' ++ news' ∧
      Extends ((ps ++ [q]).map (·.request)) before olds' news' ∧
      ∀ d ∈ news', Stems (ps ++ [q]) d := by
  rw [List.map_append, List.map_singleton]
  by_cases declared : q.request.1 ∈ topics before
  · -- The filter was declared before, so that an old subscription is renewed.
    have there : q.request.1 ∈ topics olds := by
      rw [h.topics_old]
      exact declared
    refine ⟨_, news, upsert_append_of_mem there, ⟨?_, ?_, ?_⟩, ?_⟩
    · intro k d found
      have taken : topics (olds.take k) = topics (before.take k) := by
        rw [topics_take, topics_take, h.topics_old]
      have stays := h.old k d found
      by_cases later : d.topic ∈ topics (before.take k)
      · rw [if_pos later] at stays ⊢
        rw [getElem?_upsert stays, taken, if_neg]
        rintro ⟨same, first⟩
        exact first (same ▸ later)
      · rw [if_neg later] at stays ⊢
        rw [getElem?_upsert stays, taken, requested?_append]
        by_cases same : d.topic = q.request.1
        · rw [if_pos same, if_pos ⟨same, same ▸ later⟩]
          rfl
        · rw [if_neg same, if_neg fun both => same both.1]
    · rw [length_upsert_of_mem there, h.length]
    · rw [h.new]
      simp [List.filter_append, declared]
    · intro d member
      refine (stems d member).append_of_ne ?_
      intro same
      exact (h.topic_new member).2 (same ▸ declared)
  · have absent : q.request.1 ∉ topics olds := by
      rw [h.topics_old]
      exact declared
    refine ⟨olds, _, upsert_append_of_not_mem absent, ⟨?_, h.length, ?_⟩, ?_⟩
    · intro k d found
      have differs : d.topic ≠ q.request.1 := by
        intro same
        exact declared (same ▸ List.mem_map_of_mem (List.mem_of_getElem? found))
      rw [requested?_append, if_neg differs]
      exact h.old k d found
    · have more : ((ps.map (·.request) ++ [q.request]).map (·.1)).filter (· ∉ topics before) =
          ((ps.map (·.request)).map (·.1)).filter (· ∉ topics before) ++ [q.request.1] := by
        simp [List.filter_append, declared]
      rw [more, eraseDups_concat, ← h.new]
      split
      · next again => exact topics_upsert_of_mem again
      · next first =>
          rw [upsert_of_not_mem first, topics_append]
          simp [topics, q.named]
    · intro d member
      rcases mem_upsert h.distinct_new member with
        ⟨rfl, fresh⟩ | ⟨old, differs⟩ | ⟨e, old, same, rfl⟩
      · refine .of_first fun before' => ?_
        have unknown := fresh
        rw [h.new, List.mem_eraseDups, List.mem_filter] at unknown
        exact unknown ⟨by simpa using before', by simpa using declared⟩
      · exact (stems d old).append_of_ne (Ne.symm differs)
      · exact (stems e old).renew same

/-- Declaring filters extends the list by subscriptions that stem from the proposals. -/
theorem upsertAll_extends (ps : List Proposal) (ds : List Subscription) :
    ∃ olds news, upsertAll ps ds = olds ++ news ∧ Extends (ps.map (·.request)) ds olds news ∧
      ∀ d ∈ news, Stems ps d := by
  -- By induction on the proposals, from the last one.
  induction ps using List.reverseRecOn with
  | nil => exact ⟨ds, [], by simp [upsertAll], .refl ds, nofun⟩
  | append_singleton ps q ih =>
      rcases ih with ⟨olds, news, whole, grown, stems⟩
      rcases upsert_extends q grown stems with ⟨olds', news', more, further⟩
      refine ⟨olds', news', ?_, further⟩
      rw [← more, ← whole, upsertAll, upsertAll, List.foldl_append]
      rfl

end Subscription

/-! ## Filters of a catalog -/

/-- What a new subscription is: a kept one under the name of the template that was found for the
filter; and a filter that was requested once has the template's options, if there is one. -/
structure Subscription.Introduced (lookup : String → Option TopicTemplate)
    (requests : List FilterRequest) (d : Subscription) : Prop where
  keep : d.keep = true
  name : d.name = (lookup d.topic).map (·.name)
  once : ∀ options, requests.filter (·.1 = d.topic) = [(d.topic, options)] →
    d.options = if (lookup d.topic).isSome then .ofQos .atMostOnce else options
  again : (∀ options, requests.filter (·.1 = d.topic) ≠ [(d.topic, options)]) →
    requested? requests d.topic = some d.options

namespace Console

open Subscription

variable {catalog : Catalog} {fresh : Nat → String} {id thing : String}
  {filters : List FilterRequest} {filter : FilterRequest}

/-- A template stands for the filter that it was found for. -/
theorem topic_declaration : (declaration catalog id thing filter).topic = filter.1 := by
  unfold declaration
  split
  · next template found =>
      have resolved := List.find?_some found
      exact of_decide_eq_true resolved
  · rfl

theorem name_declaration : (declaration catalog id thing filter).keep = true ∧
    (declaration catalog id thing filter).name =
      (catalog.lookup thing filter.1).map (·.name) := by
  unfold declaration
  split
  · next template found => simp [found, TopicTemplate.subscription, Subscription.fresh]
  · next none => simp [none, Subscription.fresh]

theorem options_declaration : (declaration catalog id thing filter).options =
    if (catalog.lookup thing filter.1).isSome then .ofQos .atMostOnce else filter.2 := by
  unfold declaration
  split
  · next template found => simp [found, TopicTemplate.subscription, Subscription.fresh,
      SubscribeOptions.default]
  · next none => simp [none, Subscription.fresh]

/-- What is declared for requested filters if they are new. -/
def proposals (catalog : Catalog) (fresh : Nat → String) (thing : String)
    (filters : List FilterRequest) : List Proposal :=
  filters.zipIdx.map fun (filter, n) =>
    ⟨filter, declaration catalog (fresh n) thing filter, topic_declaration⟩

theorem requests_proposals : (proposals catalog fresh thing filters).map (·.request) = filters := by
  simp [proposals, Function.comp_def]

theorem entry_of_mem_proposals {q : Proposal} (member : q ∈ proposals catalog fresh thing filters) :
    ∃ id, q.entry = declaration catalog id thing q.request := by
  rcases List.mem_map.1 member with ⟨⟨filter, n⟩, -, rfl⟩
  exact ⟨fresh n, rfl⟩

theorem declare_eq (p : Profile) : declare catalog fresh thing filters p =
    { p with
      subscriptions := upsertAll (proposals catalog fresh thing filters) p.subscriptions } := by
  unfold declare upsertAll proposals
  generalize filters.zipIdx = numbered
  rw [List.foldl_map]
  induction numbered generalizing p with
  | nil => rfl
  | cons first rest ih => exact ih _

variable (catalog fresh thing filters) in
/-- Declaring filters extends the declared subscriptions of a profile by those that the catalog has
for them. -/
theorem declare_extends (p : Profile) : ∃ olds news,
    declare catalog fresh thing filters p = { p with subscriptions := olds ++ news } ∧
      Extends filters p.subscriptions olds news ∧
      ∀ d ∈ news, d.Introduced (catalog.lookup thing) filters := by
  let ps := proposals catalog fresh thing filters
  have requests : ps.map (·.request) = filters := requests_proposals
  rcases upsertAll_extends ps p.subscriptions with ⟨olds, news, whole, grown, stems⟩
  rw [requests] at grown
  refine ⟨olds, news, by rw [declare_eq, whole], grown, fun d member => ?_⟩
  have stem := stems d member
  have asked : filters.filter (·.1 = d.topic) =
      (ps.filter (·.request.1 = d.topic)).map (·.request) := by
    rw [← requests, List.filter_map]
    rfl
  rcases stem.source with ⟨q, among, source⟩
  rcases entry_of_mem_proposals among with ⟨id, entry⟩
  have named : q.request.1 = d.topic := by
    rw [← q.named, source]
  constructor
  case keep =>
    rw [source, entry]
    exact name_declaration.1
  case name =>
    rw [← named, source, entry]
    exact name_declaration.2
  case once =>
    intro options alone
    rw [asked, List.map_eq_singleton_iff] at alone
    rcases alone with ⟨only, alone, request⟩
    have proposed : only ∈ ps := (List.mem_filter.1 (alone ▸ List.mem_singleton_self only)).1
    rcases entry_of_mem_proposals proposed with ⟨id', entry'⟩
    have first : (declaration catalog id' thing only.request).options = _ := options_declaration
    rw [← entry', ← stem.once only alone, request] at first
    exact first
  case again =>
    intro several
    have again := stem.again fun only alone => several only.request.2 ?_
    · rwa [requests] at again
    · have same : only.request.1 = d.topic := by
        have kept := List.mem_filter.1 (alone ▸ List.mem_singleton_self only)
        exact of_decide_eq_true kept.2
      rw [asked, alone, ← same]
      rfl

end Console

end DeviceConsole
