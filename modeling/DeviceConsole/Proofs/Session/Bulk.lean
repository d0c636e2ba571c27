import DeviceConsole.Proofs.Session.Restoring
import DeviceConsole.Proofs.Session.Subscribing

/-!
# Subscribing and unsubscribing everything

Two calls bring the live map of a connection in line with the declared filters of its profile: one
subscribes those that are not active, the other unsubscribes those that are.  This file defines:

* `Scene.Accepts`, that the transport accepted what was asked between two scenes;
* `Console.SubscribedAll` and `Console.UnsubscribedAll`, what the two calls leave then;

and shows that they leave it, and that there is nothing left to ask for, `bulk_requests`.
-/

namespace DeviceConsole

open Operation

/-! ## Transports that accept requests -/

/-- Whether a transport accepted a request about filters: each filter that is subscribed gets a code
that grants it. -/
def Exchange.Accepted : Exchange → Prop
  | ⟨.subscribe _ filters, .ok (codes : List UInt8)⟩ =>
    codes.length = filters.length ∧ ∀ code ∈ codes, code ≤ 2
  | ⟨.unsubscribe _ _, .ok _⟩ => True
  | _ => False

instance : DecidablePred Exchange.Accepted
  | ⟨.subscribe _ filters, .ok (codes : List UInt8)⟩ =>
    inferInstanceAs (Decidable (codes.length = filters.length ∧ ∀ code ∈ codes, code ≤ 2))
  | ⟨.unsubscribe _ _, .ok _⟩ => isTrue trivial
  | ⟨.subscribe _ _, .error _⟩ | ⟨.unsubscribe _ _, .error _⟩ | ⟨.open _, _⟩
  | ⟨.publish _ _ _ _, _⟩ | ⟨.close _, _⟩ => isFalse id

/-- Whether a transport accepted all that was asked between two scenes. -/
def Scene.Accepts (s s' : Scene) : Prop :=
  ∀ e ∈ s'.exchanges.drop s.exchanges.length, e.Accepted

instance (s s' : Scene) : Decidable (s.Accepts s') := inferInstanceAs (Decidable (∀ _ ∈ _, _))

theorem Scene.Accepts.last {s s' : Scene} {e : Exchange} (h : s.Accepts s')
    (said : s'.exchanges = s.exchanges ++ [e]) : e.Accepted := by
  refine h e ?_
  rw [said, List.drop_left]
  exact List.mem_singleton_self e

/-- Codes that grant filters refuse none. -/
theorem Connection.refusedFilters_eq_nil {filters : List FilterRequest} {codes : List UInt8}
    (granted : ∀ code ∈ codes, code ≤ 2) : refusedFilters filters codes = [] := by
  rw [refusedFilters, List.map_eq_nil_iff, List.filter_eq_nil_iff]
  rintro ⟨filter, code⟩ member refused
  exact UInt8.not_lt.2 (granted code (List.of_mem_zip member).2) (of_decide_eq_true refused)

/-! ## Connections that are up -/

/-- Whether messages and requests go out over a session. -/
structure Connection.Up (x : Connection) (session : SessionId) : Prop where
  alive : x.destroyed = false
  opened : x.openSession? = some session

namespace Connection

variable {i : ConnectionRef} {s s' : Scene} {session : SessionId} {audience : Audience}

theorem Up.requestObstacle? {x : Connection} (up : x.Up session) {count : Nat}
    (some : count ≠ 0) : x.requestObstacle? count = none := by
  simp [Connection.requestObstacle?, up.alive, up.opened, some]

theorem Up.held {x : Connection} (up : x.Up session) : x.session = some session :=
  (openSession?_eq_some.1 up.opened).2

/-- Marks do not end a session. -/
theorem Up.mark {x : Connection} (up : x.Up session) {active : Bool} {filters : List String} :
    (x.present (Snapshot.mark active filters)).Up session := ⟨up.alive, up.opened⟩

/-- Filters that the transport accepts are granted over the session that is up. -/
theorem subscribe_accepted {filters : List FilterRequest} {a : Except ConsoleError Unit}
    (up : (s.console.connection i).Up session) (some : filters ≠ [])
    (h : (subscribe i filters audience).Runs s a s') (accepts : s.Accepts s') :
    a = .ok () ∧ s.console.Marks i true (filters.map (·.1)) s'.console ∧
      ∃ codes, s'.exchanges = s.exchanges ++ [⟨.subscribe session filters, .ok codes⟩] := by
  cases subscribe_subscribed h with
  | refused error obstacle =>
      rw [up.requestObstacle? (mt List.length_eq_zero_iff.1 some)] at obstacle
      cases obstacle
  | failed _ error _ said => exact (accepts.last said).elim
  | rejected _ codes error _ refused said =>
      exact absurd (refusedFilters_eq_nil (accepts.last said).2) refused
  | granted session' codes opened _ said marks =>
      obtain rfl : session = session' := Option.some.inj (up.opened.symm.trans opened)
      exact ⟨rfl, marks, codes, said⟩

theorem unsubscribe_accepted {filters : List String} {a : Except ConsoleError Unit}
    (up : (s.console.connection i).Up session) (some : filters ≠ [])
    (h : (unsubscribe i filters audience).Runs s a s') (accepts : s.Accepts s') :
    a = .ok () ∧ s.console.Marks i false filters s'.console ∧
      s'.exchanges = s.exchanges ++ [⟨.unsubscribe session filters, .ok ()⟩] := by
  cases unsubscribe_unsubscribed h with
  | refused error obstacle =>
      rw [up.requestObstacle? (mt List.length_eq_zero_iff.1 some)] at obstacle
      cases obstacle
  | failed _ error _ said => exact (accepts.last said).elim
  | revoked session' opened said marks =>
      obtain rfl : session = session' := Option.some.inj (up.opened.symm.trans opened)
      exact ⟨rfl, marks, said⟩

end Connection

/-! ## Profiles that stay as they are -/

namespace Subscription

/-- Requests with declared options change nothing. -/
theorem Extends.eq_self {requests : List FilterRequest} {before olds news : List Subscription}
    (h : Extends requests before olds news) (distinct : (topics before).Nodup)
    (declared : ∀ request ∈ requests, ∃ d ∈ before, (d.topic, d.options) = request) :
    olds ++ news = before := by
  have none : news = [] := by
    have fresh : (requests.map (·.1)).filter (· ∉ topics before) = [] := by
      rw [List.filter_eq_nil_iff]
      intro topic member
      rcases List.mem_map.1 member with ⟨request, asked, rfl⟩
      rcases declared request asked with ⟨d, known, rfl⟩
      have listed : d.topic ∈ topics before := List.mem_map_of_mem known
      simpa using listed
    have empty := h.new
    rw [fresh] at empty
    exact List.map_eq_nil_iff.1 empty
  rw [none, List.append_nil]
  refine List.ext_getElem? fun k => ?_
  cases found : before[k]? with
  | none =>
      rw [List.getElem?_eq_none_iff, h.length]
      exact List.getElem?_eq_none_iff.1 found
  | some d =>
      have member := List.mem_of_getElem? found
      have options : (requested? requests d.topic).getD d.options = d.options := by
        cases asked : requested? requests d.topic with
        | none => rfl
        | some options =>
            rcases List.lookup_eq_some_iff.1 asked with ⟨_, _, split, -⟩
            have among : (d.topic, options) ∈ requests := by
              rw [← List.mem_reverse, split]
              simp
            -- The filter is declared once only, so that these are its options already.
            rcases declared _ among with ⟨d', known, request⟩
            rcases Prod.mk.inj request with ⟨same, rfl⟩
            rw [List.inj_on_of_nodup_map distinct known member same]
            rfl
      rw [h.old k d found, options, ite_self]

end Subscription

namespace Console

variable {id : ConnectionId} {i : ConnectionRef} {s s' : Scene}

theorem replaceFirst_eq_self {change : Profile → Profile} {profiles : List Profile} {p : Profile}
    (known : profiles.find? (·.id = id) = some p) (same : change p = p) :
    replaceFirst id change profiles = profiles := by
  induction profiles with
  | nil => cases known
  | cons q rest ih =>
      rw [List.find?_cons] at known
      rw [replaceFirst]
      split at known
      · next this =>
          cases known
          rw [if_pos (of_decide_eq_true this), same]
      · next other => rw [if_neg (of_decide_eq_false other), ih known]

/-- Declaring filters that are declared already, with the same options, changes no profile. -/
theorem declare_eq_self {catalog : Catalog} {fresh : Nat → String} {thing : String}
    {filters : List FilterRequest} {p : Profile}
    (distinct : (p.subscriptions.map (·.topic)).Nodup)
    (declared : ∀ request ∈ filters, ∃ d ∈ p.subscriptions, (d.topic, d.options) = request) :
    declare catalog fresh thing filters p = p := by
  rcases declare_extends catalog fresh thing filters p with ⟨olds, news, whole, grown, -⟩
  rw [whole, grown.eq_self distinct declared]

/-- A change that leaves a profile as it is stores the profiles once more, and that may fail. -/
theorem modifyProfile_self {change : Profile → Profile} {p : Profile} {a : Result Unit}
    (known : s.console.profile? id = some p) (same : change p = p)
    (h : (modifyProfile id change).Runs s a s') :
    (a = .ok () ∨ ∃ error, a = .error (.storage error)) ∧
      s'.console.profiles = s.console.profiles := by
  have edited := replaceFirst_eq_self known same
  rcases modifyProfile_cases h with ⟨-, unknown, -⟩ | ⟨q, -, rfl, rfl⟩
  · rw [known] at unknown
    cases unknown
  · rw [edited]
    refine ⟨?_, ?_⟩
    · cases (s.console.saveProfiles s.console.profiles).1 with
      | ok _ => exact Or.inl rfl
      | error error => exact Or.inr ⟨error, rfl⟩
    · have spared : Spares (s.console.saveProfiles s.console.profiles).2 _ :=
        spares_configure _ (change q)
      rw [Scene.console_apply, edited]
      exact spared.profiles

/-! ## Calls for a connection in use -/

/-- What a request for all declared filters leaves. -/
structure SubscribedAll (id : ConnectionId) (i : ConnectionRef) (p : Profile) (s s' : Scene) :
    Prop where
  /-- Exactly the declared filters that are not active are requested, each once and with its
  declared options; if there are none, nothing is asked. -/
  asked : ∃ filters : List FilterRequest,
    filters.Perm ((p.subscriptions.filter fun d =>
      d.topic ∉ (s.console.connection i).snapshot.active).map fun d => (d.topic, d.options)) ∧
    (filters = [] ∧ s'.exchanges = s.exchanges ∨
      filters ≠ [] ∧ ∃ session codes, (s.console.connection i).session = some session ∧
        s'.exchanges = s.exchanges ++ [⟨.subscribe session filters, .ok codes⟩])
  declared : ∀ d ∈ p.subscriptions, d.topic ∈ (s'.console.connection i).snapshot.active
  active : (s.console.connection i).snapshot.active ⊆ (s'.console.connection i).snapshot.active
  profiles : s'.console.profiles = s.console.profiles
  status : (s'.console.connection i).snapshot.status = (s.console.connection i).snapshot.status
  used : s'.console.current? id = s.console.current? id

/-- What a request to unsubscribe all active filters leaves. -/
structure UnsubscribedAll (id : ConnectionId) (i : ConnectionRef) (s s' : Scene) : Prop where
  /-- Exactly the active filters are named; if there are none, nothing is asked. -/
  asked : (s.console.connection i).snapshot.active = [] ∧ s'.exchanges = s.exchanges ∨
    (s.console.connection i).snapshot.active ≠ [] ∧
      ∃ session, (s.console.connection i).session = some session ∧
        s'.exchanges = s.exchanges ++
          [⟨.unsubscribe session (s.console.connection i).snapshot.active, .ok ()⟩]
  none : (s'.console.connection i).snapshot.active = []
  known : ∀ filter, ((s'.console.connection i).snapshot.live.get? filter).isSome =
    ((s.console.connection i).snapshot.live.get? filter).isSome
  profiles : s'.console.profiles = s.console.profiles
  status : (s'.console.connection i).snapshot.status = (s.console.connection i).snapshot.status
  used : s'.console.current? id = s.console.current? id

/-! ### Subscribing -/

theorem pending_eq (p : Profile) (x : Snapshot) : (pending p x).entries = KeyList.ofList
    ((p.subscriptions.filter fun d => d.topic ∉ x.active).map fun d => (d.topic, d.options)) := by
  have inactive : ∀ d : Subscription,
      (!(x.live.get? d.topic).getD false) = decide (d.topic ∉ x.active) := by
    intro d
    simp only [Snapshot.mem_active_iff_get?]
    rcases x.live.get? d.topic with _ | _ | _ <;> rfl
  simp only [pending, inactive]
  rfl

/-- No declared filter that is not active is left out. -/
theorem pending_perm {p : Profile} {x : Snapshot}
    (distinct : (p.subscriptions.map (·.topic)).Nodup) :
    (pending p x).entries.Perm
      ((p.subscriptions.filter fun d => d.topic ∉ x.active).map fun d => (d.topic, d.options)) := by
  rw [pending_eq]
  refine KeyList.ofList_perm ?_
  rw [List.map_map]
  exact distinct.sublist (List.filter_sublist.map _)

theorem pending_eq_nil {p : Profile} {x : Snapshot}
    (active : ∀ d ∈ p.subscriptions, d.topic ∈ x.active) : (pending p x).entries = [] := by
  have none : p.subscriptions.filter (fun d => d.topic ∉ x.active) = [] := by
    rw [List.filter_eq_nil_iff]
    intro d member
    simpa using active d member
  rw [pending_eq, none]
  rfl

theorem reportAll_tells {success failure : String} {result a : Result Unit}
    (h : (reportAll success failure result).Runs s a s') : s.console.Tells s'.console := by
  cases result with
  | ok _ =>
      rcases runs_change_done_iff.1 h with ⟨-, rfl⟩
      exact ⟨[_], rfl⟩
  | error error =>
      rcases runs_change_done_iff.1 h with ⟨-, rfl⟩
      rw [Scene.console_apply]
      split
      · exact ⟨[], by simp [notifyAll]⟩
      · exact ⟨[_], rfl⟩

variable {p : Profile} {session : SessionId} {fresh : Nat → String} {a : Result Unit}

/-- Without a filter to ask for, nothing is asked. -/
theorem subscribeAll_idle (used : s.console.current? id = some i)
    (known : s.console.profile? id = some p)
    (nothing : (pending p (s.console.connection i).snapshot).entries = [])
    (h : (subscribeAll id fresh).Runs s a s') :
    s.console.Tells s'.console ∧ s'.exchanges = s.exchanges := by
  have run := withConnection_used used h
  simp only [Program.bind_eq, runs_look_bind_iff, known, nothing, if_true] at run
  rcases runs_change_done_iff.1 run with ⟨-, rfl⟩
  exact ⟨⟨[_], rfl⟩, rfl⟩

/-- The filters that are pending are declared already, with the options that are asked for. -/
theorem subscribe_pending {filters : List FilterRequest} {audience : Audience}
    (up : (s.console.connection i).Up session) (used : s.console.current? id = some i)
    (known : s.console.profile? id = some p)
    (distinct : (p.subscriptions.map (·.topic)).Nodup) (some : filters ≠ [])
    (declared : ∀ request ∈ filters, ∃ d ∈ p.subscriptions, (d.topic, d.options) = request)
    (h : (subscribe id fresh filters audience).Runs s a s') (accepts : s.Accepts s') :
    (∃ codes, s'.exchanges = s.exchanges ++ [⟨.subscribe session filters, .ok codes⟩]) ∧
      (s'.console.connection i).snapshot =
        (s.console.connection i).snapshot.mark true (filters.map (·.1)) ∧
      s'.console.profiles = s.console.profiles ∧
      s'.console.current? id = s.console.current? id := by
  have run := withConnection_used used h
  simp only [Program.bind_eq, runs_bind_iff] at run
  rcases run with ⟨granted, last, run, rest⟩
  have silent : s'.exchanges = last.exchanges := by
    cases granted with
    | error error =>
        rcases runs_done_iff.1 rest with ⟨-, rfl⟩
        rfl
    | ok _ =>
        simp only [runs_look_bind_iff] at rest
        exact silent_modifyProfile.exchanges rest
  rw [Scene.Accepts, silent] at accepts
  rcases Connection.subscribe_accepted up some run accepts with ⟨rfl, marks, codes, said⟩
  simp only [runs_look_bind_iff] at rest
  have spared := Connection.spares_subscribe.runs run .refl .trans
  have known' : last.console.profile? id = .some p := by
    rw [profile?, spared.profiles]
    exact known
  have unchanged := modifyProfile_self known' (declare_eq_self distinct declared) rest
  have views := (reveals_modifyProfile.runs rest .refl .trans).view i
  have own := marks.connection (Connection.lt_of_openSession? up.opened)
  refine ⟨⟨codes, silent.trans said⟩, ?_, unchanged.2.trans spared.profiles, ?_⟩
  · exact (congrArg Prod.fst views).trans (congrArg Connection.snapshot own)
  · rw [current?_of_board (congrArg Board.current (modifyProfile_runs rest)), marks.current?]

theorem subscribeAll_accepted (up : (s.console.connection i).Up session)
    (used : s.console.current? id = some i) (known : s.console.profile? id = some p)
    (distinct : (p.subscriptions.map (·.topic)).Nodup)
    (h : (subscribeAll id fresh).Runs s a s') (accepts : s.Accepts s') :
    SubscribedAll id i p s s' := by
  let filters := (pending p (s.console.connection i).snapshot).entries
  have perm := pending_perm (x := (s.console.connection i).snapshot) distinct
  have mem_filters : ∀ request, request ∈ filters ↔ ∃ d ∈ p.subscriptions,
      d.topic ∉ (s.console.connection i).snapshot.active ∧ (d.topic, d.options) = request := by
    intro request
    rw [perm.mem_iff]
    simp [and_assoc]
  by_cases nothing : filters = []
  · rcases subscribeAll_idle used known nothing h with ⟨⟨notices, told⟩, silent⟩
    have same : s'.console.connection i = s.console.connection i := by
      rw [told]
      rfl
    have active : ∀ d ∈ p.subscriptions,
        d.topic ∈ (s.console.connection i).snapshot.active := by
      intro d member
      by_contra inactive
      have among := (mem_filters _).2 ⟨d, member, inactive, rfl⟩
      rw [nothing] at among
      cases among
    refine ⟨⟨filters, perm, Or.inl ⟨nothing, silent⟩⟩, ?_, ?_, ?_, ?_, ?_⟩
    · rw [same]
      exact active
    · rw [same]
      exact List.Subset.refl _
    · rw [told]
      rfl
    · rw [same]
    · rw [told]
      rfl
  · have run := withConnection_used used h
    simp only [Program.bind_eq, runs_look_bind_iff, known] at run
    rw [if_neg nothing] at run
    rcases runs_bind_iff.1 run with ⟨granted, last, subscribed, reported⟩
    rcases reportAll_tells reported with ⟨notices, told⟩
    have silent := silent_reportAll.exchanges reported
    rw [Scene.Accepts, silent] at accepts
    have declared : ∀ request ∈ filters, ∃ d ∈ p.subscriptions,
        (d.topic, d.options) = request := by
      intro request member
      rcases (mem_filters request).1 member with ⟨d, known, -, same⟩
      exact ⟨d, known, same⟩
    rcases subscribe_pending up used known distinct nothing declared subscribed accepts with
      ⟨⟨codes, said⟩, snapshot, profiles, current⟩
    have same : s'.console.connection i = last.console.connection i := by
      rw [told]
      rfl
    have active : ∀ filter, filter ∈ (s'.console.connection i).snapshot.active ↔
        filter ∈ filters.map (·.1) ∨ filter ∈ (s.console.connection i).snapshot.active := by
      intro filter
      rw [same, snapshot, Snapshot.mem_active_iff_get?, Snapshot.mem_active_iff_get?,
        Snapshot.get?_mark]
      split
      · next marked => simp [marked]
      · next unmarked => simp [unmarked]
    refine ⟨⟨filters, perm, Or.inr ⟨nothing, session, codes, up.held, silent.trans said⟩⟩,
      ?_, ?_, ?_, ?_, ?_⟩
    · intro d member
      rw [active]
      by_cases before : d.topic ∈ (s.console.connection i).snapshot.active
      · exact Or.inr before
      · exact Or.inl (List.mem_map_of_mem ((mem_filters _).2 ⟨d, member, before, rfl⟩))
    · exact fun filter member => (active filter).2 (Or.inr member)
    · rw [told]
      exact profiles
    · rw [same, snapshot]
      rfl
    · rw [told]
      exact current

/-! ### Unsubscribing -/

/-- Without an active filter, nothing is asked. -/
theorem unsubscribeAll_idle (used : s.console.current? id = some i)
    (nothing : (s.console.connection i).snapshot.active = [])
    (h : (unsubscribeAll id).Runs s a s') :
    s.console.Tells s'.console ∧ s'.exchanges = s.exchanges := by
  have run := withConnection_used used h
  simp only [Program.bind_eq, runs_look_bind_iff, nothing, if_true] at run
  rcases runs_change_done_iff.1 run with ⟨-, rfl⟩
  exact ⟨⟨[_], rfl⟩, rfl⟩

theorem unsubscribeAll_accepted (up : (s.console.connection i).Up session)
    (used : s.console.current? id = some i) (h : (unsubscribeAll id).Runs s a s')
    (accepts : s.Accepts s') : UnsubscribedAll id i s s' := by
  by_cases nothing : (s.console.connection i).snapshot.active = []
  · rcases unsubscribeAll_idle used nothing h with ⟨⟨notices, told⟩, silent⟩
    have same : s'.console.connection i = s.console.connection i := by
      rw [told]
      rfl
    refine ⟨Or.inl ⟨nothing, silent⟩, ?_, ?_, ?_, ?_, ?_⟩
    · rw [same, nothing]
    · intro filter
      rw [same]
    · rw [told]
      rfl
    · rw [same]
    · rw [told]
      rfl
  · have run := withConnection_used used h
    simp only [Program.bind_eq, runs_look_bind_iff] at run
    rw [if_neg nothing] at run
    rcases runs_bind_iff.1 run with ⟨revoked, last, unsubscribed, reported⟩
    rcases reportAll_tells reported with ⟨notices, told⟩
    have silent := silent_reportAll.exchanges reported
    rw [Scene.Accepts, silent] at accepts
    rcases Connection.unsubscribe_accepted up nothing unsubscribed accepts with ⟨-, marks, said⟩
    have own := marks.connection (Connection.lt_of_openSession? up.opened)
    have same : (s'.console.connection i).snapshot = (s.console.connection i).snapshot.mark false
        (s.console.connection i).snapshot.active := by
      rw [told]
      exact congrArg Connection.snapshot own
    refine ⟨Or.inr ⟨nothing, session, up.held, silent.trans said⟩, ?_, ?_, ?_, ?_, ?_⟩
    · refine List.eq_nil_iff_forall_not_mem.2 fun filter member => ?_
      rw [same, Snapshot.mem_active_iff_get?, Snapshot.get?_mark] at member
      split at member
      · cases member
      · next inactive => exact inactive (Snapshot.mem_active_iff_get?.2 member)
    · intro filter
      rw [same, Snapshot.get?_mark]
      split
      · next active =>
          rw [Snapshot.mem_active_iff_get?.1 active]
          rfl
      · rfl
    · rw [told]
      exact (Connection.spares_unsubscribe.runs unsubscribed .refl .trans).profiles
    · rw [same]
      rfl
    · rw [told]
      exact marks.current? id

end Console

/-! ## Runs -/

/-- A connection in use that is connected has a session over which requests go out. -/
theorem Run.up {settings : Settings} {catalog : Catalog} {storage : ProfileStorage}
    {fresh : Nat → ConnectionId} {clock : Int} {transitions : List Transition} {s : Scene}
    {id : ConnectionId} {i : ConnectionRef}
    (run : Run (.start settings catalog storage fresh clock) transitions s)
    (used : s.console.current? id = some i)
    (connected : (s.console.connection i).snapshot.status = .connected) :
    ∃ session, (s.console.connection i).Up session := by
  rcases Console.get?_of_current? run.sound used with ⟨v, hv⟩
  have sound := run.sound.each hv
  rcases Console.board_get?_iff.1 hv with ⟨-, rfl⟩
  have active : (s.console.connection i).vitals.status.isActive = true :=
    congrArg ConnectionStatus.isActive connected
  rcases Option.ne_none_iff_exists'.1 (sound.held active) with ⟨session, held⟩
  exact ⟨session, sound.alive held, Connection.openSession?_eq_some.2 ⟨connected, held⟩⟩

/-- In every state in which the connection in use for a profile is connected, and as long as the
transport accepts what it is asked: subscribing all filters asks for exactly the declared ones that
are not active, so that all of them are active then; unsubscribing all filters names exactly the
active ones, so that none is.  Neither changes the profiles or loses a filter from the live map, and
a second call right after one of them asks for nothing. -/
theorem bulk_requests {settings : Settings} {catalog : Catalog} {storage : ProfileStorage}
    {clock : Int} {ids : Nat → ConnectionId} {transitions : List Transition} {s : Scene}
    {id : ConnectionId} {i : ConnectionRef} {p : Profile}
    (run : Run (.start settings catalog storage ids clock) transitions s)
    (used : s.console.current? id = some i)
    (connected : (s.console.connection i).snapshot.status = .connected)
    (known : s.console.profile? id = some p)
    (distinct : (p.subscriptions.map (·.topic)).Nodup) :
    (∀ fresh a s', (Console.subscribeAll id fresh).Runs s a s' → s.Accepts s' →
      Console.SubscribedAll id i p s s' ∧
      ∀ fresh' a' s'', (Console.subscribeAll id fresh').Runs s' a' s'' →
        s''.exchanges = s'.exchanges) ∧
    (∀ a s', (Console.unsubscribeAll id).Runs s a s' → s.Accepts s' →
      Console.UnsubscribedAll id i s s' ∧
      ∀ a' s'', (Console.unsubscribeAll id).Runs s' a' s'' → s''.exchanges = s'.exchanges) := by
  rcases run.up used connected with ⟨session, up⟩
  constructor
  · intro fresh a s' call accepts
    have all := Console.subscribeAll_accepted up used known distinct call accepts
    refine ⟨all, fun fresh' a' s'' again => ?_⟩
    have known' : s'.console.profile? id = some p := by
      rw [Console.profile?, all.profiles]
      exact known
    exact (Console.subscribeAll_idle (all.used.trans used) known'
      (Console.pending_eq_nil all.declared) again).2
  · intro a s' call accepts
    have all := Console.unsubscribeAll_accepted up used call accepts
    exact ⟨all, fun a' s'' again =>
      (Console.unsubscribeAll_idle (all.used.trans used) all.none again).2⟩

/-- Of three declared filters one is active, and so is one that is not declared. -/
theorem bulk_requests_of_overlap :
    ∃ (transitions : List Transition) (s s' s'' : Scene) (p : Profile),
      Run .blank transitions s ∧ s.console.profile? ⟨0⟩ = some p ∧
      p.subscriptions.map (·.topic) = ["a", "b", "c"] ∧
      (s.console.connection 0).snapshot.active = ["b", "x"] ∧
      (Console.subscribeAll ⟨0⟩ fun _ => "").Runs s (.ok ()) s' ∧
      Console.SubscribedAll ⟨0⟩ 0 p s s' ∧
      (s'.exchanges.drop s.exchanges.length).map (·.request) =
        [.subscribe 0 [("a", .ofQos .exactlyOnce), ("c", .ofQos .atMostOnce)]] ∧
      (Console.unsubscribeAll ⟨0⟩).Runs s' (.ok ()) s'' ∧
      Console.UnsubscribedAll ⟨0⟩ 0 s' s'' ∧
      (s''.exchanges.drop s'.exchanges.length).map (·.request) =
        [.unsubscribe 0 ["a", "b", "c", "x"]] := by
  let declared : List Subscription :=
    [⟨"0", none, "a", .ofQos .exactlyOnce, true⟩, ⟨"1", some "B", "b", .ofQos .atLeastOnce, true⟩,
      ⟨"2", none, "c", .ofQos .atMostOnce, false⟩]
  let p : Profile := { Profile.default ⟨0⟩ with username := "42", subscriptions := declared }
  let opening : List Action :=
    [.call (.add ⟨0⟩ (fun _ => "") p), .call (.connect ⟨0⟩ none), .event 0 0 .connected,
      .direct 0 (.subscribe [("x", .default), ("b", .default)] .caller)]
  let s := (Scene.blank.play .obliging opening).2
  have run : Run .blank _ s :=
    Run.play Responder.fair_obliging .start (by decide : Scene.blank.Playable .obliging opening)
  let all := Console.subscribeAll ⟨0⟩ fun _ => ""
  let s' := (all.perform .obliging s).2
  have granted : (all.perform .obliging s).1 = .ok () := by decide
  have asked : all.Runs s (.ok ()) s' := granted ▸ runs_perform Responder.fair_obliging all s
  have step : Step s (.call (.subscribeAll ⟨0⟩ fun _ => "") (.ok ())) s' := .call asked
  have later : Run .blank _ s' := run.step step
  let none := Console.unsubscribeAll ⟨0⟩
  let s'' := (none.perform .obliging s').2
  have revoked : (none.perform .obliging s').1 = .ok () := by decide
  have revoking : none.Runs s' (.ok ()) s'' :=
    revoked ▸ runs_perform Responder.fair_obliging none s'
  have accepts : s.Accepts s' ∧ s'.Accepts s'' := by decide +kernel
  have subscribed := ((bulk_requests (i := 0) (p := p) run (by decide) (by decide) (by decide)
    (by decide)).1 _ _ _ asked accepts.1).1
  have unsubscribed := ((bulk_requests (i := 0) (p := p) later (by decide) (by decide) (by decide)
    (by decide)).2 _ _ revoking accepts.2).1
  exact ⟨_, s, s', s'', p, run, by decide, by decide, by decide, asked, subscribed, by decide,
    revoking, unsubscribed, by decide⟩

end DeviceConsole
