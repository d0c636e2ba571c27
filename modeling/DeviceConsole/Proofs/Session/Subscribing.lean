import DeviceConsole.Proofs.Profile.Declaring
import DeviceConsole.Proofs.Session.Granted
import DeviceConsole.Proofs.Session.Views
import DeviceConsole.Proofs.Storage.Saving

/-!
# What subscribing leaves

A call that subscribes filters marks them as active in the live map, and declares them on the
profile.  This file proves:

* `Console.Marks.connection` and the like, what a request that was granted does to a connection;
* `Console.modifyProfile_ok`, what a change of a profile that succeeds does;
* `subscribing_declares`, what a call that succeeds does to live map and profile.
-/

namespace DeviceConsole

open Operation

/-! ## Marks -/

theorem Snapshot.get?_mark (s : Snapshot) (active : Bool) (filters : List String)
    (filter : String) : (s.mark active filters).live.get? filter =
      if filter ∈ filters then some active else s.live.get? filter :=
  Connection.get?_foldl_insert active filters s.live filter

theorem Connection.lt_of_openSession? {c : Console} {i : ConnectionRef} {session : SessionId}
    (opened : (c.connection i).openSession? = some session) : i < c.connections.length := by
  refine Console.lt_of_ne_default fun unknown => ?_
  rw [unknown] at opened
  cases opened

namespace Console.Marks

variable {i : ConnectionRef} {active : Bool} {filters : List String} {c c' : Console}

theorem connection (h : c.Marks i active filters c') (hi : i < c.connections.length) :
    c'.connection i = (c.connection i).present (Snapshot.mark active filters) := by
  rcases h with ⟨notices, rfl⟩
  exact connection_update_self (c := c.notifyAll notices) hi

theorem current? (h : c.Marks i active filters c') (id : ConnectionId) :
    c'.current? id = c.current? id := by
  rcases h with ⟨notices, rfl⟩
  rfl

end Console.Marks

namespace Console

variable {id : ConnectionId} {s s' : Scene}

/-- A change of a profile that succeeds changes a profile that there is; observers see nothing of
it, and the same connections are in use. -/
theorem modifyProfile_ok {change : Profile → Profile}
    (keeps : ∀ p, p.id = id → (change p).id = id)
    (h : (modifyProfile id change).Runs s (.ok ()) s') :
    (∃ p, s.console.profile? id = some p ∧ s'.console.profile? id = some (change p)) ∧
      (∀ j, (s'.console.connection j).view = (s.console.connection j).view) ∧
      ∀ other, s'.console.current? other = s.console.current? other := by
  have edited : s'.console.profiles = replaceFirst id change s.console.profiles :=
    (saves_modifyProfile h).1
  have found : s'.console.profile? id = (s.console.profile? id).map change := by
    have replaced := Register.profile?_replaceFirst (R := s.console.register) keeps id
    rw [if_pos rfl] at replaced
    rw [profile?, edited]
    exact replaced
  refine ⟨?_, (reveals_modifyProfile.runs h .refl .trans).view, fun other => ?_⟩
  · rcases modifyProfile_cases h with ⟨⟨⟩, -⟩ | ⟨p, known, -⟩
    rw [known] at found
    exact ⟨p, known, found⟩
  · exact current?_of_board (congrArg Board.current (modifyProfile_runs h))

end Console

/-- After filters were subscribed, the profile is as before, save that its declared subscriptions
were extended: the first one for each requested filter got the requested options, and at the end there is
a new one for each filter that was not declared, as the catalog has it.  No filter is declared twice
because of it, and all requested filters are active. -/
theorem subscribing_declares {s s' : Scene} {id : ConnectionId} {fresh : Nat → String}
    {filters : List FilterRequest} {audience : Audience}
    (h : (Console.subscribe id fresh filters audience).Runs s (.ok ()) s') :
    ∃ p olds news i, s.console.profile? id = some p ∧
      s'.console.profile? id = some { p with subscriptions := olds ++ news } ∧
      Subscription.Extends filters p.subscriptions olds news ∧
      (∀ d ∈ news, d.Introduced (s.console.catalog.lookup (s.console.found id).thingId) filters) ∧
      ((p.subscriptions.map (·.topic)).Nodup → ((olds ++ news).map (·.topic)).Nodup) ∧
      s'.console.current? id = some i ∧
      ∀ request ∈ filters,
        (s'.console.connection i).snapshot.live.get? request.1 = some true := by
  rcases Console.subscribe_cases h with
    ⟨⟨⟩, -⟩ | ⟨i, middle, last, granted, found, -, used, -, run, h⟩
  cases granted with
  | error error => cases h.1
  | ok _ =>
      have keeps : ∀ p : Profile, p.id = id → (Console.declare s.console.catalog fresh
          (s.console.found id).thingId filters p).id = id := by
        intro p same
        rw [Console.id_declare, same]
      rcases Console.modifyProfile_ok keeps h with ⟨⟨p, known, edited⟩, views, current⟩
      rcases Console.declare_extends s.console.catalog fresh (s.console.found id).thingId filters p
        with ⟨olds, news, whole, grown, introduced⟩
      have spared := found.trans (Connection.spares_subscribe.runs run .refl .trans)
      rw [Console.profile?, spared.profiles] at known
      rw [whole] at edited
      cases Connection.subscribe_subscribed run with
      | granted session codes opened _ _ marks =>
          refine ⟨p, olds, news, i, known, edited, grown, introduced, grown.distinct, ?_, ?_⟩
          · rw [current, marks.current?, used]
          · intro request member
            have own := marks.connection (Connection.lt_of_openSession? opened)
            have snapshot := congrArg Prod.fst (views i)
            rw [own] at snapshot
            have active := (Snapshot.get?_mark (middle.console.connection i).snapshot true
              (filters.map (·.1)) request.1).trans (if_pos (List.mem_map_of_mem member))
            exact (congrArg (·.live.get? request.1) snapshot).trans active

/-- A request names a filter that is declared twice, one of the catalog, and another one twice. -/
theorem subscribing_declares_of_several :
    ∃ (start s s' : Scene) (transitions : List Transition) (p : Profile)
      (olds news : List Subscription) (fresh : Nat → String) (filters : List FilterRequest),
      Run start transitions s ∧
      (Console.subscribe ⟨0⟩ fresh filters .operator).Runs s (.ok ()) s' ∧
      s.console.profile? ⟨0⟩ = some p ∧
      s'.console.profile? ⟨0⟩ = some { p with subscriptions := olds ++ news } ∧
      Subscription.Extends filters p.subscriptions olds news ∧
      (∀ d ∈ news, d.Introduced (s.console.catalog.lookup (s.console.found ⟨0⟩).thingId) filters) ∧
      (∀ request ∈ filters,
        (s'.console.connection 0).snapshot.live.get? request.1 = some true) ∧
      olds = [⟨"0", none, "a", .ofQos .atLeastOnce, false⟩,
        ⟨"1", some "A", "a", .ofQos .exactlyOnce, true⟩] ∧
      news = [⟨"c", some "Clock", "ntp/42", .ofQos .atMostOnce, true⟩,
        ⟨"cc", none, "b", .ofQos .atLeastOnce, true⟩] := by
  let fresh (n : Nat) : String := String.ofList (List.replicate n 'c')
  let catalog : Catalog := ⟨[⟨"Clock", none, "ntp/" ++ thingMark, true, false, false⟩], []⟩
  let start : Scene := .start default catalog default (fun _ => default) 0
  let declared : List Subscription :=
    [⟨"0", none, "a", .default, false⟩, ⟨"1", some "A", "a", .ofQos .exactlyOnce, true⟩]
  let p : Profile := { Profile.default ⟨0⟩ with username := "42", subscriptions := declared }
  let opening : List Action :=
    [.call (.add ⟨0⟩ fresh p), .call (.connect ⟨0⟩ none), .event 0 0 .connected]
  let s := (start.play .obliging opening).2
  have run : Run start _ s :=
    Run.play Responder.fair_obliging .start (by decide : start.Playable .obliging opening)
  let filters : List FilterRequest := ["a", "ntp/42", "b", "b"].map (·, .ofQos .atLeastOnce)
  let program := Console.subscribe ⟨0⟩ fresh filters .operator
  let s' := (program.perform .obliging s).2
  have ok : (program.perform .obliging s).1 = .ok () := by decide
  have ends : program.Runs s (.ok ()) s' := ok ▸ runs_perform Responder.fair_obliging program s
  rcases subscribing_declares ends with
    ⟨p', olds, news, i, known, edited, grown, introduced, -, used, active⟩
  have two : (s.console.profile? ⟨0⟩).map (·.subscriptions.length) = some 2 := by decide
  have four : (s'.console.profile? ⟨0⟩).map (·.subscriptions) = some
      ([⟨"0", none, "a", .ofQos .atLeastOnce, false⟩,
          ⟨"1", some "A", "a", .ofQos .exactlyOnce, true⟩] ++
        [⟨"c", some "Clock", "ntp/42", .ofQos .atMostOnce, true⟩,
          ⟨"cc", none, "b", .ofQos .atLeastOnce, true⟩]) := by decide
  have first : s'.console.current? ⟨0⟩ = some 0 := by decide
  rw [known] at two
  rw [edited] at four
  obtain rfl : i = 0 := Option.some.inj (used.symm.trans first)
  rcases List.append_inj (Option.some.inj four) (grown.length.trans (Option.some.inj two)) with
    ⟨old, new⟩
  exact ⟨start, s, s', _, p', olds, news, fresh, filters, run, ends, known, edited, grown,
    introduced, active, old, new⟩

end DeviceConsole
