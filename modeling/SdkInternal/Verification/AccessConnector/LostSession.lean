import SdkInternal.Model.AccessConnector.SessionManager

/-! # Lost sessions

A session that was revoked or closed stays so through every interleaving of its manager's calls,
and an active one has a bearer and an organization key. -/

namespace SdkInternal.AccessConnector

open Shared List SessionState SessionManager

def SessionPhase.lost : SessionPhase → Option SessionLost
  | .revoked => some .revoked
  | .closed => some .closed
  | _ => none

/-! ## The session state -/

namespace SessionState

/-- An active session can be used, and a lost one holds no secrets. -/
structure Sound (state : SessionState) : Prop where
  active : state.phase = .active →
    state.bearer.isSome = true ∧ ∃ organizationId, state.organizationId = some organizationId ∧
      ∃ key, (organizationId, key) ∈ state.keyStore
  lost : state.phase.lost.isSome = true → state.bearer = none ∧ state.keyStore = []

variable {state : SessionState}

theorem sound_setPhase {phase : SessionPhase} (hactive : phase ≠ .active)
    (hlost : phase.lost = none) : Sound { state with phase } where
  active h := absurd h hactive
  lost h := by simp [hlost] at h

theorem sound_enterTerminal (reason : SessionLost) : (state.enterTerminal reason).Sound where
  active h := by cases reason <;> cases h
  lost _ := ⟨rfl, rfl⟩

theorem close_sound (h : state.Sound) : state.close.Sound := by
  unfold close
  split <;> first | exact h | exact sound_enterTerminal .closed

theorem close_lost {reason : SessionLost} (h : state.phase.lost = some reason) :
    state.close = state := by
  unfold close
  cases hphase : state.phase <;> simp_all [SessionPhase.lost]

theorem beginRenewal_lost {reason : SessionLost} (h : state.phase.lost = some reason)
    (now : Instant) (stale : Option String) :
    state.beginRenewal now stale = (.returned (.error (.lost reason)), state) := by
  unfold beginRenewal
  cases hphase : state.phase <;> simp_all [SessionPhase.lost]

/-- A renewal that has the mutex leaves the state, or begins to authenticate. -/
theorem beginRenewal_cases (state : SessionState) (now : Instant) (stale : Option String) :
    (∃ result, state.beginRenewal now stale = (.returned result, state)) ∨
      state.beginRenewal now stale =
        (.authenticating, { state with phase := .authenticating }) := by
  unfold beginRenewal
  cases hphase : state.phase with
  | revoked | closed => exact .inl ⟨_, rfl⟩
  | authenticating | expired => exact .inr rfl
  | active =>
    simp only
    split
    · exact .inl ⟨_, rfl⟩
    · exact .inr rfl

theorem finishRenewal_sound (now : Instant) (answer : Except AuthError AuthSuccess) :
    (state.finishRenewal now answer).2.Sound := by
  have hexpired : Sound { state with phase := .expired } := sound_setPhase nofun rfl
  rcases answer with (_ | message | _) | success
  · exact sound_enterTerminal .revoked
  · exact hexpired
  · exact hexpired
  · simp only [finishRenewal, applySuccess]
    cases success.payload with
    | error e => exact hexpired
    | ok key =>
      refine ⟨fun _ => ⟨rfl, success.organizationId, rfl, key, ?_⟩, fun h => (by cases h)⟩
      exact mem_cons_self

end SessionState

/-! ## Steps -/

namespace SessionManager

variable {manager next : SessionManager} {label : SessionStep}

/-- What a step does to the session, the mutex and the record of calls. -/
inductive Effect (manager next : SessionManager) : Prop where
  | quiet (hstate : next.state = manager.state)
      (hholder : next.holder = manager.holder ∨ next.holder = none)
      (hcalls : next.identityCalls = manager.identityCalls)
      (hresults : next.results = manager.results)
  | returned {id : CallId} {stale : Option String} {result : Except SessionError String}
      (hfree : manager.holder = none)
      (hentry : manager.state.beginRenewal manager.clock stale = (.returned result, next.state))
      (hholder : next.holder = none) (hcalls : next.identityCalls = manager.identityCalls)
      (hresults : next.results = manager.results ++ [(id, result)])
  | began {stale : Option String} (hfree : manager.holder = none)
      (hentry : manager.state.beginRenewal manager.clock stale = (.authenticating, next.state))
  | closed (hfree : manager.holder = none) (hstate : next.state = manager.state.close)
      (hholder : next.holder = none) (hcalls : next.identityCalls = manager.identityCalls)
      (hresults : next.results = manager.results)
  | answered {id : CallId} {answer : Except AuthError AuthSuccess}
      (hheld : manager.holder = some id)
      (hstate : next.state = (manager.state.finishRenewal manager.clock answer).2)
      (hholder : next.holder = none)

variable {id : CallId} {reason : SessionLost}

theorem lock_effect (h : manager.lock id = some next) : Effect manager next := by
  unfold lock at h
  split_ifs at h with hfree
  split at h
  · rename_i renewal hcall
    cases hentry : manager.state.beginRenewal manager.clock renewal.stale with
    | mk entry state =>
      simp only [hentry] at h
      cases entry <;> cases h
      · exact .returned hfree hentry hfree rfl rfl
      · exact .began hfree hentry
  · cases h
    exact .closed hfree rfl hfree rfl rfl
  · cases h

theorem answer_effect {answer : Except AuthError AuthSuccess}
    (h : manager.answer id answer = some next) : Effect manager next := by
  unfold SessionManager.answer at h
  split_ifs at h with hheld
  simp only at h
  repeat' split at h
  all_goals cases h
  all_goals exact .answered hheld rfl rfl

theorem step_effect (h : manager.step label = some next) : Effect manager next := by
  cases label with
  | lock id => exact lock_effect h
  | answer id answer => exact answer_effect h
  | tick | call | wake =>
    simp only [step] at h
    repeat' split at h
    all_goals cases h
    all_goals exact .quiet rfl (.inl rfl) rfl rfl
  | drop id =>
    cases h
    refine .quiet rfl ?_ rfl rfl
    split
    · exact .inr rfl
    · exact .inl rfl

/-! ## The invariant -/

/-- While a call holds the mutex the session is authenticating. -/
structure Consistent (manager : SessionManager) : Prop where
  sound : manager.state.Sound
  held : manager.holder.isSome = true → manager.state.phase = .authenticating

theorem new_consistent (clock : Instant) (keyStore : List (Uuid × OrgKey)) :
    (new clock keyStore).Consistent where
  sound := ⟨fun h => (by cases h), fun h => (by cases h)⟩
  held h := by cases h

theorem step_consistent (h : manager.Consistent) (hstep : manager.step label = some next) :
    next.Consistent := by
  have hreleased : next.holder = none → next.holder.isSome = true →
      next.state.phase = .authenticating := by
    intro hnone hsome
    simp [hnone] at hsome
  cases step_effect hstep with
  | quiet hstate hholder _ _ =>
    refine ⟨hstate ▸ h.sound, ?_⟩
    rcases hholder with hsame | hnone
    · rw [hsame, hstate]
      exact h.held
    · exact hreleased hnone
  | @returned id stale result _ hentry hholder _ _ =>
    refine ⟨?_, hreleased hholder⟩
    obtain ⟨other, heq⟩ | heq := manager.state.beginRenewal_cases manager.clock stale
    · rw [heq] at hentry
      exact (Prod.mk.inj hentry).2 ▸ h.sound
    · rw [heq] at hentry
      cases (Prod.mk.inj hentry).1
  | @began stale _ hentry =>
    obtain ⟨other, heq⟩ | heq := manager.state.beginRenewal_cases manager.clock stale
    · rw [heq] at hentry
      cases (Prod.mk.inj hentry).1
    · rw [heq] at hentry
      have hstate := (Prod.mk.inj hentry).2
      exact ⟨hstate ▸ sound_setPhase nofun rfl, fun _ => hstate ▸ rfl⟩
  | closed _ hstate hholder _ _ =>
    exact ⟨hstate ▸ close_sound h.sound, hreleased hholder⟩
  | answered _ hstate hholder =>
    exact ⟨hstate ▸ finishRenewal_sound _ _, hreleased hholder⟩

theorem holder_of_lost (h : manager.Consistent) (hlost : manager.state.phase.lost = some reason) :
    manager.holder = none := by
  cases hholder : manager.holder with
  | none => rfl
  | some id =>
    have hphase := h.held (by rw [hholder]; rfl)
    rw [hphase] at hlost
    cases hlost

/-- What a manager with a lost session has done since then: its calls returned the loss. -/
structure OnlyLost (reason : SessionLost) (manager later : SessionManager) : Prop where
  state : later.state = manager.state
  identityCalls : later.identityCalls = manager.identityCalls
  results : ∃ returned, later.results = manager.results ++ returned ∧
    ∀ result ∈ returned, result.2 = .error (.lost reason)

theorem OnlyLost.refl (reason : SessionLost) (manager : SessionManager) :
    OnlyLost reason manager manager :=
  ⟨rfl, rfl, [], (append_nil _).symm, by simp⟩

theorem OnlyLost.trans {later last : SessionManager} (h : OnlyLost reason manager later)
    (hlast : OnlyLost reason later last) :
    OnlyLost reason manager last := by
  obtain ⟨first, hfirst, hall⟩ := h.results
  obtain ⟨second, hsecond, hmore⟩ := hlast.results
  refine ⟨hlast.state.trans h.state, hlast.identityCalls.trans h.identityCalls, first ++ second,
    by rw [hsecond, hfirst, append_assoc], ?_⟩
  exact forall_mem_append.mpr ⟨hall, hmore⟩

theorem step_onlyLost (h : manager.Consistent) (hlost : manager.state.phase.lost = some reason)
    (hstep : manager.step label = some next) :
    OnlyLost reason manager next := by
  have hnone : ∀ {after : SessionManager}, after.results = manager.results →
      ∃ returned, after.results = manager.results ++ returned ∧
        ∀ result ∈ returned, result.2 = .error (.lost reason) :=
    fun heq => ⟨[], by rw [heq, append_nil], by simp⟩
  cases step_effect hstep with
  | quiet hstate _ hcalls hresults => exact ⟨hstate, hcalls, hnone hresults⟩
  | returned _ hentry _ hcalls hresults =>
    rw [beginRenewal_lost hlost] at hentry
    obtain ⟨hreturned, hstate⟩ := Prod.mk.inj hentry
    cases hreturned
    refine ⟨hstate.symm, hcalls, _, hresults, ?_⟩
    intro result hresult
    rw [mem_singleton.mp hresult]
  | began _ hentry =>
    rw [beginRenewal_lost hlost] at hentry
    cases (Prod.mk.inj hentry).1
  | closed _ hstate _ hcalls hresults =>
    exact ⟨hstate.trans (close_lost hlost), hcalls, hnone hresults⟩
  | answered hheld _ _ =>
    rw [holder_of_lost h hlost] at hheld
    cases hheld

/-! ## Runs -/

variable {labels : List SessionStep}

theorem run_consistent (h : manager.Consistent) (hrun : run step manager labels = some next) :
    next.Consistent := by
  exact run_invariant step Consistent
    (fun _ _ _ _ hstep hconsistent => step_consistent hconsistent hstep) (meets_true _ _ _) hrun h

theorem run_onlyLost (h : manager.Consistent) (hlost : manager.state.phase.lost = some reason)
    (hrun : run step manager labels = some next) : OnlyLost reason manager next := by
  induction labels generalizing manager with
  | nil =>
    cases hrun
    exact .refl reason _
  | cons label labels ih =>
    rw [run_cons, Option.bind_eq_some_iff] at hrun
    obtain ⟨after, hstep, hrest⟩ := hrun
    have hfirst := step_onlyLost h hlost hstep
    exact hfirst.trans (ih (step_consistent h hstep) (hfirst.state ▸ hlost) hrest)

theorem lock_of_lost (h : manager.Consistent) (hlost : manager.state.phase.lost = some reason)
    {renewal : Renewal} (hcall : manager.calls id = some (.queued renewal)) :
    ∃ next, manager.step (.lock id) = some next ∧
      next.results = manager.results ++ [(id, .error (.lost reason))] := by
  refine ⟨manager.returns id (.error (.lost reason)), ?_, rfl⟩
  simp only [step, lock, if_pos (holder_of_lost h hlost), hcall, beginRenewal_lost hlost]

def world (manager : SessionManager) (cancelled : Bool) (lastOk : Instant) : World :=
  ⟨manager.clock, cancelled, lastOk, manager.state, manager.holder.map fun _ => .other⟩

theorem step_environment (hstep : manager.step label = some next) (cancelled : Bool)
    (lastOk : Instant) :
    next.world cancelled lastOk = manager.world cancelled lastOk ∨
      ∃ e, (manager.world cancelled lastOk).environment e = some (next.world cancelled lastOk) := by
  cases label with
  | tick elapsed =>
    cases hstep
    exact .inr ⟨.tick elapsed, rfl⟩
  | call | wake =>
    simp only [step] at hstep
    repeat' split at hstep
    all_goals cases hstep
    all_goals exact .inl rfl
  | lock id =>
    simp only [step, lock] at hstep
    split_ifs at hstep with hfree
    have hworld : (manager.world cancelled lastOk).holder = none := by simp [world, hfree]
    split at hstep
    · rename_i renewal hcall
      refine .inr ⟨.beginRenewal renewal.stale, ?_⟩
      simp only [World.environment, hworld, if_true, World.beginRenewal]
      cases hentry : manager.state.beginRenewal manager.clock renewal.stale with
      | mk entry state =>
        simp only [hentry] at hstep
        cases entry <;> cases hstep <;> simp [world, hentry, returns, setCall, hfree]
    · cases hstep
      refine .inr ⟨.close, ?_⟩
      simp [World.environment, world, setCall, hfree]
    · cases hstep
  | answer id answer =>
    simp only [step, SessionManager.answer] at hstep
    split_ifs at hstep with hheld
    refine .inr ⟨.endRenewal answer, ?_⟩
    have hworld : (manager.world cancelled lastOk).holder = some .other := by
      simp [world, hheld]
    simp only [World.environment, hworld, if_true]
    repeat' split at hstep
    all_goals cases hstep
    all_goals rfl
  | drop id =>
    cases hstep
    by_cases hheld : manager.holder = some id
    · refine .inr ⟨.dropRenewal, ?_⟩
      simp [World.environment, world, setCall, hheld]
    · simp [world, setCall, hheld]

theorem run_environment (hrun : run step manager labels = some next) (cancelled : Bool)
    (lastOk : Instant) :
    ∃ events, run World.environment (manager.world cancelled lastOk) events =
      some (next.world cancelled lastOk) := by
  induction labels generalizing manager with
  | nil =>
    cases hrun
    exact ⟨[], rfl⟩
  | cons label labels ih =>
    rw [run_cons, Option.bind_eq_some_iff] at hrun
    obtain ⟨after, hstep, hrest⟩ := hrun
    obtain ⟨events, hevents⟩ := ih hrest
    -- a call that only queues or sleeps is no event of the session
    obtain hsame | ⟨event, hevent⟩ := step_environment hstep cancelled lastOk
    · exact ⟨events, hsame ▸ hevents⟩
    · exact ⟨event :: events, by rw [run_cons, hevent]; exact hevents⟩

end SessionManager

/-- An active session has a bearer and an organization key. Once a session is lost, its phase
stays, it holds no bearer and no organization key, no identity call is in flight or started, and
all calls return the loss as soon as they get the mutex. -/
theorem session_stays_lost (clock : Instant) (keyStore : List (Uuid × OrgKey))
    {labels : List SessionStep} {manager : SessionManager}
    (hrun : run step (.new clock keyStore) labels = some manager) :
    (manager.state.phase = .active → manager.state.bearer.isSome = true ∧
      ∃ organizationId, manager.state.organizationId = some organizationId ∧
        ∃ key, (organizationId, key) ∈ manager.state.keyStore) ∧
    ∀ reason, manager.state.phase.lost = some reason →
      ∀ later last, run step manager later = some last →
        last.state.phase = manager.state.phase ∧ last.state.bearer = none ∧
        last.state.keyStore = [] ∧ last.holder = none ∧
        last.identityCalls = manager.identityCalls ∧
        (∃ returned, last.results = manager.results ++ returned ∧
          ∀ result ∈ returned, result.2 = .error (.lost reason)) ∧
        ∀ id renewal, last.calls id = some (.queued renewal) →
          ∃ next, last.step (.lock id) = some next ∧
            next.results = last.results ++ [(id, .error (.lost reason))] := by
  have hconsistent := run_consistent
    (new_consistent clock keyStore) hrun
  refine ⟨hconsistent.sound.active, ?_⟩
  intro reason hlost later last hlater
  have honly := run_onlyLost hconsistent hlost hlater
  have hlast := run_consistent hconsistent hlater
  have hstill : last.state.phase.lost = some reason := by
    rw [honly.state]
    exact hlost
  obtain ⟨hbearer, hkeys⟩ := hlast.sound.lost (by rw [hstill]; rfl)
  exact ⟨by rw [honly.state], hbearer, hkeys, holder_of_lost hlast hstill,
    honly.identityCalls, honly.results,
    fun _ _ hcall => lock_of_lost hlast hstill hcall⟩

def rejectedRefresh : List SessionStep :=
  [ .call 0 (.bearer none), .lock 0,
    .answer 0 (.ok ⟨"bearer", 3600, 4, .ok []⟩),
    .call 1 (.forceRefresh "bearer" none), .lock 1, .answer 1 (.error .protocol),
    .call 2 (.forceRefresh "bearer" none), .lock 2, .answer 2 (.error .rejected) ]

theorem rejectedRefresh_lost :
    ∃ manager last, run step (.new 0 []) rejectedRefresh = some manager ∧
      manager.state.phase = .revoked ∧
      run step manager [.tick (seconds 1), .wake 1, .lock 1] = some last ∧
      last.identityCalls = manager.identityCalls ∧ last.state.keyStore = [] := by
  have hphase : (run step (.new 0 []) rejectedRefresh).map
      (fun manager => (manager.state.phase,
        (run step manager [.tick (seconds 1), .wake 1, .lock 1]).isSome)) =
      some (.revoked, true) := by
    decide +kernel
  obtain ⟨manager, hrun, hmanager⟩ := Option.map_eq_some_iff.mp hphase
  obtain ⟨hrevoked, hsome⟩ := Prod.mk.inj hmanager
  obtain ⟨last, hlast⟩ := Option.isSome_iff_exists.mp hsome
  have hlost := (session_stays_lost 0 [] hrun).2 .revoked (by rw [hrevoked]; rfl) _ last hlast
  exact ⟨manager, last, hrun, hrevoked, hlast, hlost.2.2.2.2.1, hlost.2.2.1⟩

theorem rejectedRefresh_environment :
    ∃ manager, run step (.new 0 []) rejectedRefresh = some manager ∧
      ∃ events, run World.environment ((SessionManager.new 0 []).world false 0) events =
        some (manager.world false 0) := by
  have hsome : (run step (.new 0 []) rejectedRefresh).isSome = true := by decide +kernel
  obtain ⟨manager, hrun⟩ := Option.isSome_iff_exists.mp hsome
  exact ⟨manager, hrun, run_environment hrun false 0⟩

end SdkInternal.AccessConnector
