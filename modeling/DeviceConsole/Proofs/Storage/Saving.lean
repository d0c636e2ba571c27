import DeviceConsole.Proofs.Session.Filtering
import DeviceConsole.Proofs.Storage.Ledger

/-!
# Calls that store the profiles

Five calls edit the profiles and store them, and so does a sixth one if it has filters to subscribe.
This file defines:

* `Console.Saves`, how such a call leaves the profiles and their place, by its result;
* `Label.edit?`, what a call is to make of the profiles, and `Step.saves`, that it makes it.
-/

namespace DeviceConsole

open Operation

/-! ## Editing -/

/-- How a call leaves the profiles and their place.  A change that could not be stored stays; after
any other failure there was no change. -/
def Console.Saves {α : Type} (result : Console.Result α) (edited : List Profile)
    (c c' : Console) : Prop :=
  match result with
  | .ok _ => c'.profiles = edited ∧ c'.storage.text = some (ProfileStorage.encode edited)
  | .error (.storage _) => c'.profiles = edited ∧ c'.storage.text = c.storage.text
  | .error _ => c'.profiles = c.profiles ∧ c'.storage.text = c.storage.text

namespace Console

variable {α : Type} {id : ConnectionId} {edited : List Profile} {s s' : Scene} {a b c d : Console}

theorem saves_saveProfiles (result : α) :
    Saves (afterSaving (c.saveProfiles edited).1 result) edited c (c.saveProfiles edited).2 := by
  cases fails : c.storage.writeFails <;>
    simp [saveProfiles, ProfileStorage.save, ProfileStorage.write, fails, afterSaving, Saves]

theorem saves_refused {error : ConsoleError} (other : ∀ e, error ≠ .storage e)
    (spared : Spares c d) : Saves (α := α) (.error error) edited c d := by
  cases error with
  | storage e => exact absurd rfl (other e)
  | _ => exact ⟨spared.profiles, congrArg ProfileStorage.text spared.storage⟩

/-- What spares the ledger may come before and after. -/
theorem Saves.within {result : Result α} (h : Saves result edited b c) (before : Spares a b)
    (after : Spares c d) : Saves result edited a d := by
  unfold Saves at h ⊢
  rw [after.profiles, after.storage, ← before.profiles, ← before.storage]
  exact h

/-- It does not matter what a call answers besides. -/
theorem Saves.map {result : Result α} (h : Saves result edited c d) :
    Saves (result.map fun _ => ()) edited c d := by
  cases result with
  | ok _ => exact h
  | error error => cases error <;> exact h

theorem saves_modifyProfile {change : Profile → Profile} {result : Result Unit}
    (h : (modifyProfile id change).Runs s result s') :
    Saves result (replaceFirst id change s.console.profiles) s.console s'.console := by
  rcases modifyProfile_cases h with ⟨rfl, -, rfl⟩ | ⟨p, -, rfl, rfl⟩
  · exact saves_refused nofun rfl
  · -- The connection is told of its new profile after the profiles were stored, or were not.
    exact (saves_saveProfiles ()).within (.refl _) (spares_configure _ _)

/-! ### Profiles -/

/-- The profile that is added: under its new id, and a thing without declared subscriptions gets the
suggested ones. -/
def equipped (c : Console) (id : ConnectionId) (fresh : Nat → String) (p : Profile) : Profile :=
  if p.role = .thing ∧ p.subscriptions = [] then
    { p with id := id, subscriptions := c.catalog.suggestedFor fresh p.username }
  else { p with id := id }

theorem saves_addProfile {fresh : Nat → String} {p : Profile} {result : Result ConnectionId}
    (h : (addProfile id fresh p).Runs s result s') :
    Saves result (s.console.profiles ++ [s.console.equipped id fresh p]) s.console s'.console := by
  simp only [addProfile, Program.bind_eq, runs_bind_iff, runs_atomically_iff] at h
  rcases h with ⟨_, middle, ⟨rfl, rfl⟩, _, last, made, h⟩
  rcases runs_done_iff.1 h with ⟨rfl, rfl⟩
  exact (saves_saveProfiles id).within (.refl _) (spares_getOrCreate.runs made .refl .trans)

theorem saves_removeProfile {result : Result Unit} (h : (removeProfile id).Runs s result s') :
    Saves result (removeFirst id s.console.profiles) s.console s'.console := by
  rcases removeProfile_cases h with
    ⟨rfl, -, rfl⟩ | ⟨-, _, focused, found, rfl, moved, destroyed, rfl⟩
  · exact saves_refused nofun rfl
  · have spared : Spares (s.console.saveProfiles (removeFirst id s.console.profiles)).2
        focused.console := by
      unfold Refocuses at moved
      split at moved
      · rw [moved]
        exact .refl _
      · exact spares_select.runs moved .refl .trans
    exact (saves_saveProfiles ()).within (.refl _)
      (spared.trans (spares_destroy.runs destroyed .refl .trans))

/-! ### Messages and filters -/

variable {audience : Audience} {result : Result Unit}

theorem saves_publish {d : Connection.Draft} (h : (publish id d audience).Runs s result s') :
    Saves result
      (replaceFirst id (fun p => { p with publishDefaults := d.defaults }) s.console.profiles)
      s.console s'.console := by
  rcases withConnection_found h with ⟨rfl, rfl⟩ | ⟨i, middle, found, -, -, -, h⟩
  · exact saves_refused nofun rfl
  · simp only [Program.bind_eq, runs_bind_iff] at h
    rcases h with ⟨sent, last, run, h⟩
    have spared := found.trans (Connection.spares_publish.runs run .refl .trans)
    cases sent with
    | error error =>
        rcases runs_done_iff.1 h with ⟨rfl, rfl⟩
        exact saves_refused (Connection.publish_error run).ne_storage spared
    | ok _ =>
        have saved := saves_modifyProfile h
        rw [spared.profiles] at saved
        exact saved.within spared (.refl _)

/-- What the profiles become when filters are declared on the one with an id: those that were not
declared before are declared as the template of the connection's thing says. -/
def declared (c : Console) (id : ConnectionId) (fresh : Nat → String)
    (filters : List FilterRequest) : List Profile :=
  replaceFirst id (declare c.catalog fresh (c.found id).thingId filters) c.profiles

/-- How filters are subscribed: the connection that is found does it, and then they are declared on
the profile, which nothing has changed until then. -/
theorem subscribe_cases {fresh : Nat → String} {filters : List FilterRequest}
    (h : (subscribe id fresh filters audience).Runs s result s') :
    (result = .error (.connectionNotFound id) ∧ s' = s) ∨
    ∃ i middle last granted, s.console.Spares middle.console ∧ middle.exchanges = s.exchanges ∧
      middle.console.current? id = some i ∧ middle.console.connection i = s.console.found id ∧
      (Connection.subscribe i filters audience).Runs middle granted last ∧
      match granted with
      | .error error => result = .error error ∧ s' = last
      | .ok _ => (modifyProfile id (declare s.console.catalog fresh (s.console.found id).thingId
          filters)).Runs last result s' := by
  rcases withConnection_found h with ⟨rfl, rfl⟩ | ⟨i, middle, found, silent, used, here, h⟩
  · exact Or.inl ⟨rfl, rfl⟩
  · simp only [Program.bind_eq, runs_bind_iff] at h
    rcases h with ⟨granted, last, run, h⟩
    refine Or.inr ⟨i, middle, last, granted, found, silent, used, here, run, ?_⟩
    cases granted with
    | error error => exact runs_done_iff.1 h
    | ok _ =>
        -- The connection still has the profile that it was found with.
        have profile := profile_connection_of_keeps
          (Connection.keeps_subscribe.runs run Keeps.refl Keeps.trans) i
        have thing : (last.console.connection i).thingId = (s.console.found id).thingId := by
          rw [← here, Connection.thingId, Connection.thingId, profile]
        have catalog := (found.trans (Connection.spares_subscribe.runs run .refl .trans)).catalog
        simp only [runs_look_bind_iff] at h
        rwa [catalog, thing] at h

theorem saves_subscribe {fresh : Nat → String} {filters : List FilterRequest}
    (h : (subscribe id fresh filters audience).Runs s result s') :
    Saves result (s.console.declared id fresh filters) s.console s'.console := by
  rcases subscribe_cases h with
    ⟨rfl, rfl⟩ | ⟨i, middle, last, granted, found, -, -, -, run, h⟩
  · exact saves_refused nofun rfl
  · have spared := found.trans (Connection.spares_subscribe.runs run .refl .trans)
    cases granted with
    | error error =>
        rcases h with ⟨rfl, rfl⟩
        exact saves_refused (Connection.subscribe_error run).ne_storage spared
    | ok _ =>
        have saved := saves_modifyProfile h
        rw [spared.profiles] at saved
        exact saved.within spared (.refl _)

theorem reportAll_result {success failure : String} {granted : Result Unit}
    (h : (reportAll success failure granted).Runs s result s') : result = granted := by
  cases granted <;> exact (runs_change_done_iff.1 h).1

/-- The declared filters of a profile that are not active on its connection. -/
def pendingFor (c : Console) (id : ConnectionId) : List FilterRequest :=
  match c.profile? id with
  | none => []
  | some p => (pending p (c.found id).snapshot).entries

/-- Subscribing all filters is subscribing those that are pending, if there are any. -/
theorem saves_subscribeAll {fresh : Nat → String} (h : (subscribeAll id fresh).Runs s result s') :
    if s.console.pendingFor id = [] then s.console.Spares s'.console
    else Saves result (s.console.declared id fresh (s.console.pendingFor id)) s.console
      s'.console := by
  rcases withConnection_found h with ⟨rfl, rfl⟩ | ⟨i, middle, spared, -, used, here, h⟩
  · split
    · rfl
    · exact saves_refused nofun rfl
  · have found : middle.console.found id = s.console.found id := by
      rw [Console.found, used]
      exact here
    have known : middle.console.profile? id = s.console.profile? id := by
      rw [profile?, spared.profiles, profile?]
    have asked : middle.console.declared id fresh = s.console.declared id fresh := by
      funext filters
      rw [declared, declared, spared.profiles, spared.catalog, found]
    simp only [Program.bind_eq, runs_look_bind_iff, known] at h
    cases profile : s.console.profile? id with
    | none =>
        rw [profile] at h
        rcases runs_done_iff.1 h with ⟨rfl, rfl⟩
        rw [pendingFor, profile, if_pos rfl]
        exact spared
    | some p =>
        have pending : s.console.pendingFor id =
            (pending p (s.console.found id).snapshot).entries := by
          rw [pendingFor, profile]
        rw [profile] at h
        simp only [runs_look_bind_iff, here, ← pending] at h
        split at h
        · next none =>
            rcases runs_change_done_iff.1 h with ⟨rfl, rfl⟩
            rw [if_pos none]
            exact spared
        · next some =>
            simp only [runs_bind_iff] at h
            rcases h with ⟨granted, last, run, h⟩
            obtain rfl := reportAll_result h
            have saved := saves_subscribe run
            rw [asked] at saved
            rw [if_neg some]
            exact saved.within spared (spares_reportAll.runs h .refl .trans)

end Console

/-! ## Steps -/

/-- What a call is to make of the profiles, and its result, if it edits them. -/
def Label.edit? (c : Console) : Label → Option (List Profile × Except ConsoleError Unit)
  | .call (.add id fresh p) result =>
    some (c.profiles ++ [c.equipped id fresh p], result.map fun _ => ())
  | .call (.update p) result => some (Console.replaceFirst p.id (fun _ => p) c.profiles, result)
  | .call (.remove id) result => some (Console.removeFirst id c.profiles, result)
  | .call (.publish id d _) result =>
    some (Console.replaceFirst id (fun p => { p with publishDefaults := d.defaults }) c.profiles,
      result)
  | .call (.subscribe id fresh filters _) result => some (c.declared id fresh filters, result)
  | .call (.subscribeAll id fresh) result =>
    if c.pendingFor id = [] then none else some (c.declared id fresh (c.pendingFor id), result)
  | _ => none

/-- What does not edit the profiles leaves them and their text alone. -/
def Console.Unedited (c c' : Console) : Prop :=
  c'.profiles = c.profiles ∧ c'.storage.text = c.storage.text

theorem Console.Spares.unedited {c c' : Console} (h : c.Spares c') : c.Unedited c' :=
  ⟨h.profiles, congrArg ProfileStorage.text h.storage⟩

theorem Console.Outside.unedited {c c' : Console} (h : c.Outside c') : c.Unedited c' := by
  cases h <;> exact ⟨rfl, rfl⟩

open Console in
theorem Console.Call.saves {call : Console.Call} {result : call.Result} {s s' : Scene}
    (h : call.program.Runs s result s') :
    match (Label.call call result).edit? s.console with
    | some (edited, result) => s.console.Saves result edited s'.console
    | none => s.console.Unedited s'.console := by
  cases call with
  | add id fresh p =>
      exact (saves_addProfile h).map
  | update p => exact saves_modifyProfile h
  | remove id => exact saves_removeProfile h
  | publish id d audience => exact saves_publish h
  | subscribe id fresh filters audience => exact saves_subscribe h
  | subscribeAll id fresh =>
      have saved := saves_subscribeAll h
      simp only [Label.edit?]
      split at saved
      · next none =>
          rw [if_pos none]
          exact saved.unedited
      · next some =>
          rw [if_neg some]
          exact saved
  | getOrCreate id p => exact Spares.unedited (spares_getOrCreate.runs h .refl .trans)
  | destroy id => exact Spares.unedited (spares_destroy.runs h .refl .trans)
  | select id => exact Spares.unedited (spares_select.runs h .refl .trans)
  | connect id token => exact Spares.unedited (Console.spares_connect.runs h .refl .trans)
  | disconnect id => exact Spares.unedited (Console.spares_disconnect.runs h .refl .trans)
  | unsubscribe id filters audience =>
      exact Spares.unedited (Console.spares_unsubscribe.runs h .refl .trans)
  | unsubscribeAll id => exact Spares.unedited (spares_unsubscribeAll.runs h .refl .trans)
  | clear id =>
      have spared : (Console.clear id).Every Spares := spares_locally fun _ _ => rfl
      exact Spares.unedited (spared.runs h .refl .trans)
  | setRenderMode id mode =>
      have spared : (Console.setRenderMode id mode).Every Spares := spares_locally fun _ _ => rfl
      exact Spares.unedited (spared.runs h .refl .trans)
  | forget id filter =>
      have spared : (Console.forget id filter).Every Spares :=
        spares_locally fun _ _ => Connection.spares_forget
      exact Spares.unedited (spared.runs h .refl .trans)

/-- A call that edits the profiles stores them; every other step leaves them and their text. -/
theorem Step.saves {s s' : Scene} {label : Label} (step : Step s label s') :
    match label.edit? s.console with
    | some (edited, result) => s.console.Saves result edited s'.console
    | none => s.console.Unedited s'.console := by
  cases step with
  | call h => exact Console.Call.saves h
  | @direct i call _ _ result hi h =>
      exact Console.Spares.unedited (call.spares.runs h .refl .trans)
  | event member alive h =>
      exact Console.Spares.unedited (Connection.spares_react.runs h .refl .trans)
  | outside h => exact h.unedited

end DeviceConsole
