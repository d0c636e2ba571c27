import DeviceConsole.Proofs.Mqtt.Orderly

/-!
# Acknowledgements reach their own requests

Calls overlap as they like, requests are refused, acknowledgements do not come, and the connection
fails: an acknowledgement ends the wait of the request that it is for, or none, as long as the client
takes a request before the connection fails.  A failure ends the wait of a request that is being
handed over as well, but not the request: if the client takes it afterwards, its acknowledgement ends
the wait of another one.  This file defines:

* `Wire.Returned`, that a call gave a result;
* `Wire.Cut`, what has become of the waits that were there when everything was interrupted;
* `Wire.acknowledgements_reach_their_requests`, and `Wire.acknowledgement_given_to_another`, a run in
  which one does not.
-/

namespace DeviceConsole

namespace Mqtt

namespace Wire

variable {v w w' : Wire} {happening : Happening}

def Returned (w : Wire) (k : Nat) (job : Job) (result : Result job.Value) : Prop :=
  ∃ waits answer since, w.callers[k]? = some ⟨job, .done result, waits, answer, since⟩

/-! ## What becomes of the callers -/

/-- Whether every call is still there, with the waits that it had. -/
def Continues (w w' : Wire) : Prop :=
  ∀ (k : Nat) (caller : Caller), w.callers[k]? = some caller →
    ∃ later : Caller, w'.callers[k]? = some later ∧ caller.waits <+: later.waits

theorem continues_of_eq (callers : w'.callers = w.callers) : Continues w w' := by
  intro k caller found
  exact ⟨caller, callers ▸ found, List.prefix_rfl⟩

theorem Puts.continues {k : Nat} {after : Caller} (puts : w.Puts w' k after) : Continues w w' := by
  intro j caller found
  by_cases same : j = k
  · subst same
    refine ⟨after, puts.here, ?_⟩
    rw [puts.waits, found, Option.elim_some]
    exact List.prefix_append _ _
  · exact ⟨caller, (puts.there j same).trans found, List.prefix_rfl⟩

theorem Moved.continues (moved : w.Moved happening w') : Continues w w' := by
  have put : ∀ {k : Nat} {after : Caller}, w.Puts w' k after → Continues w w' := Puts.continues
  cases moved with
  | enters job => exact put (w.puts_enter job)
  | goes unseen there goes job => exact put (puts_set there rfl goes.turned.waits_eq job)
  | refuses there => exact put (puts_answer there rfl rfl)
  | takes there =>
      obtain ⟨link, callers, -⟩ := send_eq _ _
      exact put (puts_answer there callers link)
  | answers | fails | looks | resumes | leaves => exact continues_of_eq rfl

/-! ## After an interruption -/

/-- What is the case since nothing was waited for: no wait that had been registered by then is
acknowledged any more. -/
structure Cut (v w : Wire) : Prop where
  registered : v.link.registered ≤ w.link.registered
  waits : ∀ kind, ∀ wait ∈ w.link.waits kind, v.link.registered ≤ wait
  acknowledged : ∀ wait codes, wait < v.link.registered → w.link.Acknowledged wait codes →
    v.link.Acknowledged wait codes
  callers : Continues v w

theorem cut_self (nothing : ∀ kind, w.link.waits kind = []) : Cut w w where
  registered := Nat.le_refl _
  waits kind wait member := by
    rw [nothing] at member
    cases member
  acknowledged _ _ _ := id
  callers := continues_of_eq rfl

theorem Cut.thins (h : Cut v w) (thins : w.link.Thins w'.link) (callers : Continues v w') :
    Cut v w' where
  registered := thins.registered ▸ h.registered
  waits kind wait member := h.waits kind wait (thins.waits kind wait member)
  acknowledged wait codes old found := by
    rcases thins.acknowledged wait codes found with before | ⟨kind, waiting⟩
    · exact h.acknowledged wait codes old before
    · exact absurd (h.waits kind wait waiting) (Nat.not_le.2 old)
  callers := callers

theorem Cut.stirs (h : Cut v w) (stirs : Stirs w.link w'.link) (callers : Continues v w') :
    Cut v w' where
  registered := Nat.le_trans h.registered stirs.registered
  waits kind wait member := by
    rcases stirs.waits kind wait member with before | new
    · exact h.waits kind wait before
    · exact Nat.le_trans h.registered new
  acknowledged wait codes old found :=
    h.acknowledged wait codes old (stirs.remains.acknowledged_iff.1 found)
  callers := callers

theorem Cut.next? (h : Cut v w) (moved : w.Moved happening w') : Cut v w' := by
  have callers : Continues v w' := by
    intro k caller found
    obtain ⟨between, there, grown⟩ := h.callers k caller found
    obtain ⟨last, there', grown'⟩ := moved.continues k between there
    exact ⟨last, there', grown.trans grown'⟩
  rcases moved.link_cases with ⟨-, outcome, -, link⟩ | ⟨-, -, link⟩ | ⟨-, stirs⟩
  · exact h.thins (link ▸ w.link.thins_attend outcome) callers
  · exact h.thins (link ▸ w.link.thins_resume) callers
  · exact h.stirs stirs callers

/-- An interruption ends all waits. -/
theorem Moved.cut (moved : w.Moved happening w')
    (interrupts : Passage.Interrupts ⟨w, happening, w'⟩) : Cut w' w' := by
  refine cut_self fun kind => ?_
  rcases moved.link_cases with ⟨going, outcome, rfl, link⟩ | ⟨going, rfl, link⟩ |
    ⟨unseen, stirs⟩
  · rw [link]
    refine Link.attend_waits_eq_nil ?_ kind
    rcases interrupts with ⟨reason, failed⟩ | ⟨-, finished⟩
    · exact Or.inl ⟨reason, Happening.look.inj failed⟩
    · exact Or.inr (link ▸ finished)
  · rw [link]
    refine Link.resume_waits_eq_nil ?_ kind
    rcases interrupts with ⟨reason, failed⟩ | ⟨-, finished⟩
    · cases failed
    · exact link ▸ finished
  · rcases interrupts with ⟨reason, failed⟩ | ⟨going, finished⟩
    · exact absurd failed (unseen _)
    · exact Bool.noConfusion (going.symm.trans (stirs.remains.isOver.symm.trans finished))

/-! ## Runs -/

variable {pause : Nat} {passages : List Passage}

theorem seated_quiet (pause : Nat) : (quiet pause).Seated := by
  have nobody : ∀ {k : Nat} {caller : Caller}, (quiet pause).callers[k]? ≠ some caller := nofun
  constructor <;> exact fun found => absurd found nobody

theorem Run.seated (run : Run pause passages w) : w.Seated := by
  induction run with
  | start => exact seated_quiet pause
  | step run happens ih => exact ih.next? (ih.moved happens)

theorem Run.moved (run : Run pause passages w) (happens : w.next? happening = some w') :
    w.Moved happening w' := run.seated.moved happens

theorem Run.parted (run : Run pause passages w) : w.Parted := by
  induction run with
  | start => exact ⟨nofun, nofun⟩
  | step run happens ih => exact ih.next? run.seated (run.moved happens)

theorem orderly_quiet (pause : Nat) : (quiet pause).Orderly := by
  have nobody : ∀ {k : Nat} {caller : Caller}, (quiet pause).callers[k]? ≠ some caller := nofun
  refine ⟨⟨?_, ?_, ?_⟩, fun _ kind => ?_, fun found => absurd found nobody⟩
  · exact fun kind sent member => absurd member List.not_mem_nil
  · exact fun sent codes member => absurd member List.not_mem_nil
  · exact fun wait codes member => absurd member List.not_mem_nil
  · cases kind <;> rfl

theorem orderly_of_run (run : Run pause passages w) (straight : ∀ p ∈ passages, ¬ p.Strays) :
    w.Orderly := by
  induction run with
  | start => exact orderly_quiet pause
  | step run happens ih =>
      refine (ih fun p member => straight p (List.mem_append_left _ member)).next? run.seated
        (run.moved happens) (straight _ ?_)
      exact List.mem_append_right _ List.mem_cons_self

/-- After an interruption, the waits from before are of no more use. -/
theorem Run.cut (run : Run pause passages w) {p : Passage} (member : p ∈ passages)
    (interrupts : p.Interrupts) : p.after.Seated ∧ Cut p.after w := by
  induction run with
  | start => cases member
  | step run happens ih =>
      -- The interruption is behind the last happening, or it is the last happening.
      have moved := run.moved happens
      rcases List.mem_append.1 member with earlier | last
      · exact ⟨(ih earlier).1, (ih earlier).2.next? moved⟩
      · obtain rfl := List.mem_singleton.1 last
        exact ⟨run.seated.next? moved, moved.cut interrupts⟩

/-- The end is not said before a link is over, and then once, after everything else. -/
theorem Run.ended (run : Run pause passages w) : w.link.Unended ∨ w.link.Ended := by
  induction run with
  | start => exact Or.inl ⟨rfl, List.not_mem_nil⟩
  | @step _ w _ _ run happens ih =>
      -- A link that is over does nothing by itself any more.
      have unended : w.link.isOver = false → w.link.Unended := fun going =>
        ih.resolve_right fun ended => Bool.noConfusion (going.symm.trans ended.1)
      rcases (run.moved happens).link_cases with
        ⟨going, outcome, -, link⟩ | ⟨going, -, link⟩ | ⟨-, stirs⟩
      · rw [link]
        exact (unended going).attend outcome
      · rw [link]
        exact (unended going).resume
      · exact ih.imp stirs.remains.unended stirs.remains.ended_of

/-! ## Acknowledgements and waits -/

/-- Where waits and requests stand in the same order, an acknowledgement that does not stray ends the
wait of its own request. -/
theorem Orderly.fits (h : w.Orderly) (moved : w.Moved happening w')
    (straight : ¬ Passage.Strays ⟨w, happening, w'⟩) : Passage.Fits ⟨w, happening, w'⟩ := by
  rintro ⟨request, wait⟩ ended
  obtain ⟨kind, codes, later, others, rfl, first, waiting⟩ := Passage.ends?_eq_some.1 ended
  have timely : request.belated = false :=
    Bool.eq_false_iff.2 fun belated => straight ⟨_, ended, belated⟩
  have going : w.link.isOver = false := by
    rcases moved.link_cases with ⟨going, -⟩ | ⟨going, -⟩ | ⟨unseen, -⟩
    · exact going
    · exact going
    · exact absurd rfl (unseen _)
  have queue := h.queued.waits going kind
  rw [first, waiting, awaited_cons_of_timely timely, List.cons_append] at queue
  exact (List.cons.inj queue).1

/-- The wait of a belated request has ended before, so that its acknowledgement ends another one. -/
theorem Parted.not_fits (h : w.Parted) (strays : Passage.Strays ⟨w, happening, w'⟩) :
    ¬ Passage.Fits ⟨w, happening, w'⟩ := by
  obtain ⟨⟨request, wait⟩, ended, belated⟩ := strays
  obtain ⟨kind, codes, later, others, rfl, first, waiting⟩ := Passage.ends?_eq_some.1 ended
  intro fits
  have older : request.wait < wait :=
    (h.unanswered (first ▸ List.mem_cons_self) belated).2 kind wait (waiting ▸ List.mem_cons_self)
  exact Nat.ne_of_gt older (fits _ ended)

theorem Run.fits_iff (run : Run pause passages w) :
    (∀ p ∈ passages, p.Fits) ↔ ∀ p ∈ passages, ¬ p.Strays := by
  constructor
  · intro fits p member strays
    obtain ⟨-, earlier, run', -⟩ := run.before member
    exact run'.parted.not_fits strays (fits p member)
  · intro straight p member
    obtain ⟨happens, earlier, run', sub⟩ := run.before member
    have orderly := orderly_of_run run' fun q inside => straight q (sub inside)
    exact orderly.fits (run'.moved happens) (straight p member)

/-! ## Calls that return -/

/-- The request of an acknowledged wait is one of the call that registered it. -/
theorem Orderly.answered (h : w.Orderly) (seated : w.Seated) {k place : Nat} {caller : Caller}
    {wait : WaitId} {codes : List UInt8} (there : w.callers[k]? = some caller)
    (own : caller.waits[place]? = some wait) (acknowledged : w.link.Acknowledged wait codes) :
    ∃ request, caller.job.requests[place]? = some request ∧
      (⟨k, place, request, wait, false⟩, codes) ∈ w.answered := by
  obtain ⟨sent, member, same, timely⟩ := h.recorded.acknowledged wait codes acknowledged
  obtain ⟨other, found, wait_at, request_at⟩ := h.recorded.answered sent codes member
  rw [same] at wait_at
  obtain rfl : sent.call = k :=
    seated.owned found there (List.mem_of_getElem? wait_at) (List.mem_of_getElem? own)
  obtain rfl := Option.some.inj (found.symm.trans there)
  have nodup : other.waits.Nodup := (seated.ordered there).imp Nat.ne_of_lt
  have bound : sent.place < other.waits.length := (List.getElem?_eq_some_iff.1 wait_at).1
  obtain rfl : sent.place = place := (List.getElem?_inj bound nodup).1 (wait_at.trans own.symm)
  subst same
  have whole : sent = ⟨sent.call, sent.place, sent.request, sent.wait, false⟩ := by rw [← timely]
  exact ⟨sent.request, request_at, whole ▸ member⟩

/-- A call that succeeds has had its waits acknowledged. -/
theorem Seated.acknowledged_of_returned (h : w.Seated) {k : Nat} {job : Job} {value : job.Value}
    (returned : w.Returned k job (.ok value)) {caller : Caller}
    (there : w.callers[k]? = some caller) :
    ∀ wait ∈ caller.waits, ∃ codes, w.link.Acknowledged wait codes := by
  obtain ⟨waits, answer, since, found⟩ := returned
  obtain rfl := Option.some.inj (there.symm.trans found)
  have stands := h.stands there
  cases formed : job.form? with
  | none =>
      rw [((Caller.stands_iff_of_apart _ formed).1 stands).1]
      exact fun wait member => absurd member List.not_mem_nil
  | some F =>
      obtain ⟨codes, -, -, all, -⟩ := ((Caller.stands_iff_of_form _ formed).1 stands).of_done
      exact all

theorem Orderly.answered_of_subscribe (h : w.Orderly) (seated : w.Seated) {k : Nat}
    {filters : List FilterRequest} {codes : List UInt8}
    (returned : w.Returned k (.subscribe filters) (.ok codes)) :
    ∃ wait, (⟨k, 0, .subscribe filters, wait, false⟩, codes) ∈ w.answered := by
  obtain ⟨waits, answer, since, there⟩ := returned
  have formed : (Job.subscribe filters).form? = some (subscribing filters) := rfl
  have stands := (Caller.stands_iff_of_form _ formed).1 (seated.stands there)
  obtain ⟨codes', same, count, -, last⟩ := stands.of_done
  obtain ⟨wait, rfl⟩ := List.length_eq_one_iff.1 count
  have acknowledged : w.link.Acknowledged wait codes := same ▸ last wait rfl
  have own : [wait][0]? = some wait := rfl
  obtain ⟨request, asked, member⟩ := h.answered seated there own acknowledged
  obtain rfl := Option.some.inj asked
  exact ⟨wait, member⟩

theorem Orderly.answered_of_unsubscribe (h : w.Orderly) (seated : w.Seated) {k place : Nat}
    {filters : List String} {filter : String}
    (returned : w.Returned k (.unsubscribe filters) (.ok ()))
    (asked : filters[place]? = some filter) :
    ∃ wait codes, (⟨k, place, .unsubscribe filter, wait, false⟩, codes) ∈ w.answered := by
  obtain ⟨waits, answer, since, there⟩ := returned
  have formed : (Job.unsubscribe filters).form? = some (unsubscribing filters) := rfl
  have stands := (Caller.stands_iff_of_form _ formed).1 (seated.stands there)
  obtain ⟨-, -, count, all, -⟩ := stands.of_done
  have bound : place < waits.length := by
    rw [count]
    exact (List.length_map (ClientRequest.unsubscribe)).symm ▸ (List.getElem?_eq_some_iff.1 asked).1
  have own : waits[place]? = some waits[place] := List.getElem?_eq_getElem bound
  obtain ⟨codes, acknowledged⟩ := all _ (List.mem_of_getElem? own)
  obtain ⟨request, request_at, member⟩ := h.answered seated there own acknowledged
  have same : (filters.map ClientRequest.unsubscribe)[place]? = some request := request_at
  rw [List.getElem?_map, asked] at same
  obtain rfl := Option.some.inj same
  exact ⟨_, codes, member⟩

/-- However calls on a session overlap: every wait that an acknowledgement ends is that of the request
that it is for, exactly if no acknowledgement of a belated request ends a wait.  Then a subscribing
call gives the codes of the acknowledgement of its own request, and an unsubscribing call succeeds
after its request for each filter was acknowledged.  In any case, the waits that a call had when the
connection failed, or the link came to its end, are not acknowledged any more, and the call succeeds
only if all of them had been by then; and a link says its end when it is over, once and after
everything else. -/
theorem acknowledgements_reach_their_requests (run : Run pause passages w) :
    ((∀ p ∈ passages, p.Fits) ↔ ∀ p ∈ passages, ¬ p.Strays) ∧
    ((∀ p ∈ passages, ¬ p.Strays) →
      (∀ k filters codes, w.Returned k (.subscribe filters) (.ok codes) →
        ∃ wait, (⟨k, 0, .subscribe filters, wait, false⟩, codes) ∈ w.answered) ∧
      (∀ k filters, w.Returned k (.unsubscribe filters) (.ok ()) →
        ∀ place filter, filters[place]? = some filter →
          ∃ wait codes, (⟨k, place, .unsubscribe filter, wait, false⟩, codes) ∈ w.answered)) ∧
    (∀ p ∈ passages, p.Interrupts → ∀ k caller, p.after.callers[k]? = some caller →
      (∀ wait ∈ caller.waits, ∀ codes, w.link.Acknowledged wait codes →
        p.after.link.Acknowledged wait codes) ∧
      ∀ job value, w.Returned k job (.ok value) →
        ∀ wait ∈ caller.waits, ∃ codes, p.after.link.Acknowledged wait codes) ∧
    (w.link.isOver = false → .ended ∉ w.link.events) ∧
    (w.link.isOver = true → ∃ earlier, w.link.events = earlier ++ [.ended] ∧ .ended ∉ earlier) := by
  refine ⟨run.fits_iff, fun straight => ?_, ?_, ?_, ?_⟩
  · have orderly := orderly_of_run run straight
    exact ⟨fun k filters codes => orderly.answered_of_subscribe run.seated,
      fun k filters returned place filter => orderly.answered_of_unsubscribe run.seated returned⟩
  · intro p member interrupts k caller there
    obtain ⟨seated, cut⟩ := run.cut member interrupts
    have old := seated.numbered there
    refine ⟨fun wait waiting codes => cut.acknowledged wait codes (old wait waiting),
      fun job value returned wait waiting => ?_⟩
    obtain ⟨last, found, grown⟩ := cut.callers k caller there
    obtain ⟨codes, acknowledged⟩ :=
      run.seated.acknowledged_of_returned returned found wait (grown.subset waiting)
    exact ⟨codes, cut.acknowledged wait codes (old wait waiting) acknowledged⟩
  · intro going
    rcases run.ended with unended | ended
    · exact fun member => unended.2 (List.mem_reverse.1 member)
    · exact Bool.noConfusion (going.symm.trans ended.1)
  · intro finished
    rcases run.ended with unended | ended
    · exact Bool.noConfusion (unended.1.symm.trans finished)
    · exact ended.2

/-! ## Two requests and a failure -/

/-- A first call hands over its request, and the connection fails before the client takes it; a second
call hands over its own later, and then there is one more acknowledgement. -/
def interrupted (between : List Happening) (codes : List UInt8) : List Happening :=
  [.start (.subscribe [("a", .default)]), .turn 0, .look (.failed "lost"), .resume,
    .take 0 (.ok ()), .hear 0] ++ between ++
  [.start (.subscribe [("b", .default)]), .turn 1, .take 1 (.ok ()), .hear 1,
    .look (.acknowledged .subscription codes), .wake 0, .wake 1]

/-- The belated request is acknowledged before the second call begins, which gives the codes of the
acknowledgement of its own request. -/
theorem acknowledgements_reach_requests_after_failure :
    ∃ passages w, Run 1000 passages w ∧ (∀ p ∈ passages, ¬ p.Strays) ∧
      (⟨0, 0, .subscribe [("a", .default)], 0, true⟩, [0]) ∈ w.answered ∧
      w.Returned 1 (.subscribe [("b", .default)]) (.ok [1]) ∧
      ∃ wait, (⟨1, 0, .subscribe [("b", .default)], wait, false⟩, [1]) ∈ w.answered := by
  let happenings := interrupted [.look (.acknowledged .subscription [0])] [1]
  have run := (@Run.start 1000).play happenings
  have returned : Returned ((quiet 1000).play happenings).2 1 (.subscribe [("b", .default)])
      (.ok [1]) := ⟨_, _, _, rfl⟩
  have own := ((acknowledgements_reach_their_requests run).2.1 (by decide)).1 1 [("b", .default)] [1]
  exact ⟨_, _, run, by decide, by decide, returned, own returned⟩

/-- The belated request is acknowledged after the second call handed over its own: that call gives the
codes, which are not for it. -/
theorem acknowledgement_given_to_another :
    ∃ passages w, Run 1000 passages w ∧ (∃ p ∈ passages, p.Strays) ∧
      w.Returned 1 (.subscribe [("b", .default)]) (.ok [0]) ∧
      w.answered = [(⟨0, 0, .subscribe [("a", .default)], 0, true⟩, [0])] := by
  have run := (@Run.start 1000).play (interrupted [] [0])
  exact ⟨_, _, run, by decide, ⟨_, _, _, rfl⟩, rfl⟩

end Wire

end Mqtt

end DeviceConsole
