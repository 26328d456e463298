import SdkInternal.Verification.Client.Runs

/-! # At most one processing loop, if calls of `start` do not cross

`start` stores its token before it awaits the subscription and publishes its sender only
afterwards, so a second call that looks in between finds no sender and starts a second
loop. No two loops run side by side as long as no call stores its token while another one
is on its way. -/

namespace SdkInternal.Ipc

open Shared Lifecycle

namespace Lifecycle

def Stopped (s : Lifecycle) (run : ℕ) : Prop :=
  s.cancelled run ≠ none ∨ s.loops run ≠ .live

def Exclusive (s : Lifecycle) : Prop :=
  ∀ run other, s.loops run = .live → s.cancelled run = none →
    s.loops other = .live → s.cancelled other = none → run = other

/-- A call stores its token only while the client is still not running and no other call
is between storing its token and spawning its loop. -/
def Unopposed (s : Lifecycle) : LifecycleAction → Prop
  | .store call => s.isRunning = false ∧
      ∀ other, other ≠ call → (s.starts other).active = false
  | _ => True

/-- Some run has its sender published and has not yet called `stop_inner`. -/
def Published (s : Lifecycle) : Prop :=
  ∃ run, s.incoming = some run ∧ (s.starts run = .spawning ∨ (s.loops run).active = true)

structure Guarded (s : Lifecycle) : Prop where
  spawned : ∀ call, s.starts call ≠ .returned (.ok ()) → s.loops call = .absent
  single : ∀ call other, (s.starts call).active = true → (s.starts other).active = true →
    call = other
  /-- The stored token is that of every run that is on its way or live and not cancelled. -/
  token : ∀ run, (s.starts run).active = true ∨ s.loops run = .live →
    s.cancelled run = none → s.cancellationToken = some run
  published : ∀ run, s.starts run = .spawning ∨ s.loops run = .live →
    s.cancelled run = none → s.Published
  /-- While a call is on its way, every run before it is stopped. -/
  waiting : ∀ call run, (s.starts call).active = true →
    s.starts run = .returned (.ok ()) → s.Stopped run

theorem guarded_new : Guarded new where
  spawned := fun _ _ => rfl
  single := by simp [new, StartPc.active]
  token := by simp [new, StartPc.active]
  published := by simp [new]
  waiting := by simp [new]

theorem Guarded.exclusive {s : Lifecycle} (h : s.Guarded) : s.Exclusive := by
  intro run other hrun hfree hother hfree'
  have htoken := h.token run (.inr hrun) hfree
  rw [h.token other (.inr hother) hfree'] at htoken
  exact (Option.some.inj htoken).symm

theorem isRunning_of_published {s : Lifecycle} {token : ℕ} (h : s.Published)
    (htoken : s.cancellationToken = some token) : s.isRunning = true := by
  obtain ⟨run, hincoming, hrun⟩ := h
  have halive : s.senderAlive run = true := by
    unfold senderAlive
    rcases hrun with hrun | hrun
    · rw [hrun]
    · cases hloop : s.loops run with
      | live | stopping reason => split <;> simp_all
      | _ =>
        rw [hloop] at hrun
        cases hrun
  simp [isRunning, hincoming, htoken, halive]

/-! ## Steps -/

variable (s : Lifecycle)

section

variable {s : Lifecycle} {call run : ℕ}

theorem setStart_starts (pc : StartPc) (i : ℕ) :
    (s.setStart call pc).starts i = if i = call then pc else s.starts i :=
  Function.update_apply ..

theorem setLoop_loops (pc : ProcessingPc) (i : ℕ) :
    (s.setLoop run pc).loops i = if i = run then pc else s.loops i :=
  Function.update_apply ..

theorem setStart_iff {pc : StartPc} (p : StartPc → Prop) (h : p pc ↔ p (s.starts call))
    (i : ℕ) : p ((s.setStart call pc).starts i) ↔ p (s.starts i) := by
  rw [setStart_starts]
  split_ifs with hi
  · rwa [hi]
  · rfl

variable (canceller : Canceller)

@[simp] theorem stopInner_token : (s.stopInner canceller).cancellationToken = none := by
  unfold stopInner
  split
  · assumption
  · rfl

@[simp] theorem stopInner_loops : (s.stopInner canceller).loops = s.loops := by
  unfold stopInner
  split <;> rfl

@[simp] theorem stopInner_starts : (s.stopInner canceller).starts = s.starts := by
  unfold stopInner
  split <;> rfl

section

variable (h : s.Guarded)

include h

theorem Guarded.setStart {new : StartPc} {incoming : Option ℕ}
    (hactive : new.active = true ↔ (s.starts call).active = true)
    (hreturned : new = .returned (.ok ()) ↔ s.starts call = .returned (.ok ()))
    (hpublished : ∀ run, (s.setStart call new).starts run = .spawning ∨ s.loops run = .live →
      s.cancelled run = none → Published { s.setStart call new with incoming := incoming }) :
    Guarded { s.setStart call new with incoming := incoming } := by
  have hactive' := setStart_iff (fun pc => pc.active = true) hactive
  have hreturned' := setStart_iff (· = .returned (.ok ())) hreturned
  refine ⟨?_, ?_, ?_, hpublished, ?_⟩
  · exact fun i hi => h.spawned i (mt (hreturned' i).mpr hi)
  · exact fun i j hi hj => h.single i j ((hactive' i).mp hi) ((hactive' j).mp hj)
  · exact fun i hi => h.token i (hi.imp_left (hactive' i).mp)
  · exact fun i j hi hj => h.waiting i j ((hactive' i).mp hi) ((hreturned' j).mp hj)

theorem Guarded.check {new : StartPc} (hold : (s.starts call).active = false)
    (hopen : s.starts call ≠ .returned (.ok ())) (hnew : new.active = false)
    (hresult : new ≠ .returned (.ok ())) : (s.setStart call new).Guarded := by
  have hspawning := @setStart_iff s call new (· = .spawning) <|
    iff_of_false (by rintro rfl; cases hnew) (fun hi => by simp [hi, StartPc.active] at hold)
  refine h.setStart (by simp [hold, hnew]) (by simp [hopen, hresult]) ?_
  intro i hi hfree
  obtain ⟨m, hm, hactive⟩ := h.published i (hi.imp_left (hspawning i).mp) hfree
  exact ⟨m, hm, hactive.imp_left (hspawning m).mpr⟩

theorem Guarded.store (hpc : s.starts call = .passed) (hunopposed : s.Unopposed (.store call)) :
    Guarded { s.setStart call .subscribing with cancellationToken := some call } := by
  obtain ⟨hrunning, hidle⟩ := hunopposed
  have hactive : ∀ i, ((s.setStart call .subscribing).starts i).active = true → i = call := by
    intro i hi
    by_contra hcall
    rw [setStart_starts, if_neg hcall, hidle i hcall] at hi
    cases hi
  -- A live loop that is not cancelled would have its sender and its token published.
  have hstopped : ∀ i, s.Stopped i := by
    intro i
    by_contra hi
    simp only [Stopped, not_or, not_not] at hi
    have hpublished := h.published i (.inr hi.2) hi.1
    rw [isRunning_of_published hpublished (h.token i (.inr hi.2) hi.1)] at hrunning
    cases hrunning
  refine ⟨?_, ?_, ?_, ?_, ?_⟩
  · intro i hi
    by_cases hcall : i = call
    · exact h.spawned i (by simp [hcall, hpc])
    · exact h.spawned i (by simpa [setStart_starts, hcall] using hi)
  · exact fun i j hi hj => (hactive i hi).trans (hactive j hj).symm
  · intro i hi hfree
    rcases hi with hi | hi
    · exact congrArg some (hactive i hi).symm
    · exact ((hstopped i).elim (· hfree) (· hi)).elim
  · intro i hi hfree
    rcases hi with hi | hi
    · obtain rfl : i = call := hactive i (by rw [hi]; rfl)
      simp [setStart_starts] at hi
    · exact ((hstopped i).elim (· hfree) (· hi)).elim
  · exact fun _ i _ _ => hstopped i

theorem Guarded.publish (hpc : s.starts call = .subscribing) :
    Guarded { s.setStart call .spawning with incoming := some call } := by
  refine h.setStart (by rw [hpc]; rfl) (by simp [hpc]) ?_
  exact fun _ _ _ => ⟨call, rfl, .inl (by simp [setStart_starts])⟩

theorem Guarded.spawn (hpc : s.starts call = .spawning) :
    ((s.setStart call (.returned (.ok ()))).setLoop call .live).Guarded := by
  have hactive : (s.starts call).active = true := by rw [hpc]; rfl
  -- The call was the only one on its way.
  have hidle : ∀ i, ((s.setStart call (.returned (.ok ()))).starts i).active = false := by
    intro i
    rw [setStart_starts]
    split_ifs with hcall
    · rfl
    · exact Bool.eq_false_iff.mpr fun hi => hcall (h.single i call hi hactive)
  have hlive : ∀ i, ((s.setStart call (.returned (.ok ()))).setLoop call .live).loops i = .live →
      s.starts i = .spawning ∨ s.loops i = .live := by
    intro i hi
    rw [setLoop_loops] at hi
    split_ifs at hi with hcall
    · exact .inl (hcall ▸ hpc)
    · exact .inr hi
  refine ⟨?_, ?_, ?_, ?_, ?_⟩
  · intro i hi
    by_cases hcall : i = call
    · simp [setLoop, setStart_starts, hcall] at hi
    · rw [setLoop_loops, if_neg hcall]
      exact h.spawned i (by simpa [setLoop, setStart_starts, hcall] using hi)
  · intro i j hi
    exact absurd hi (Bool.eq_false_iff.mp (hidle i))
  · intro i hi hfree
    have hlive' := hlive i (hi.resolve_left (Bool.eq_false_iff.mp (hidle i)))
    exact h.token i (hlive'.imp_left fun hi => by rw [hi]; rfl) hfree
  · intro i hi hfree
    have hlive' := hlive i (hi.resolve_left fun hi => by
      have hfalse := hidle i
      rw [show (s.setStart call (.returned (.ok ()))).starts i = .spawning from hi] at hfalse
      cases hfalse)
    obtain ⟨m, hm, hrun⟩ := h.published i hlive' hfree
    refine ⟨m, hm, .inr ?_⟩
    rw [setLoop_loops]
    split_ifs with hcall
    · rfl
    · refine hrun.resolve_left fun hm => hcall (h.single m call ?_ hactive)
      rw [hm]
      rfl
  · intro i j hi
    exact absurd hi (Bool.eq_false_iff.mp (hidle i))

/-- A step that starts nothing: loops are left, tokens are cancelled, and the stored token
is only taken by one who cancels it. -/
theorem Guarded.retire {s' : Lifecycle} (hstarts : s'.starts = s.starts)
    (habsent : ∀ i, s.loops i = .absent → s'.loops i = .absent)
    (hlive : ∀ i, s'.loops i = .live → s.loops i = .live)
    (hfree : ∀ i, s'.cancelled i = none → s.cancelled i = none)
    (htoken : ∀ i, s'.cancelled i = none → s.cancellationToken = some i →
      s'.cancellationToken = some i)
    (hpublished : ∀ i, s'.cancelled i = none → s.cancellationToken = some i → s.Published →
      s'.Published) : s'.Guarded := by
  refine ⟨?_, ?_, ?_, ?_, ?_⟩
  · rw [hstarts]
    exact fun i hi => habsent i (h.spawned i hi)
  · rw [hstarts]
    exact h.single
  · rw [hstarts]
    exact fun i hi hi' => htoken i hi' (h.token i (hi.imp_right (hlive i)) (hfree i hi'))
  · rw [hstarts]
    intro i hi hi'
    have hlive' := hi.imp_right (hlive i)
    refine hpublished i hi' (h.token i (hlive'.imp_left ?_) (hfree i hi'))
      (h.published i hlive' (hfree i hi'))
    intro hspawning
    rw [hspawning]
    rfl
  · rw [hstarts]
    exact fun i j hi hj => (h.waiting i j hi hj).imp (mt (hfree j)) (mt (hlive j))

/-- A loop on its way out keeps its sender as long as a token is stored. -/
theorem Guarded.leave {new : ProcessingPc} (hold : s.loops run ≠ .absent) (hnew : new ≠ .live)
    (hactive : ∀ token, s.cancellationToken = some token →
      (s.loops run).active = true → new.active = true) : (s.setLoop run new).Guarded := by
  refine h.retire rfl ?_ ?_ (fun _ hi => hi) (fun _ _ hi => hi) ?_
  · intro i hi
    have hrun : i ≠ run := by
      rintro rfl
      exact hold hi
    rwa [setLoop_loops, if_neg hrun]
  · intro i hi
    rw [setLoop_loops] at hi
    split_ifs at hi
    · exact absurd hi hnew
    · exact hi
  · rintro i - htoken ⟨m, hm, hsender⟩
    refine ⟨m, hm, hsender.imp_right fun hm => ?_⟩
    rw [setLoop_loops]
    split_ifs with hrun
    · exact hactive i htoken (hrun ▸ hm)
    · exact hm

end

theorem free_of_cancelToken {canceller : Canceller} {token i : ℕ}
    (h : (s.cancelToken canceller token).cancelled i = none) :
    s.cancelled i = none ∧ i ≠ token := by
  by_cases hi : i = token
  · subst hi
    simp [cancelToken] at h
  · simp only [cancelToken, Function.update_of_ne hi] at h
    exact ⟨h, hi⟩

theorem Guarded.stopInner (h : s.Guarded) (canceller : Canceller) :
    (s.stopInner canceller).Guarded := by
  rcases s.stopInner_cases canceller with ⟨-, heq⟩ | ⟨token, htoken, heq⟩
  · rw [heq]
    exact h
  · rw [heq]
    -- Whoever is not cancelled now did not own the stored token.
    have hother : ∀ i, (s.cancelToken canceller token).cancelled i = none →
        s.cancellationToken ≠ some i := by
      intro i hi hstored
      rw [htoken] at hstored
      exact (free_of_cancelToken hi).2 (Option.some.inj hstored).symm
    exact h.retire rfl (fun _ hi => hi) (fun _ hi => hi) (fun i hi => (free_of_cancelToken hi).1)
      (fun i hi hstored => absurd hstored (hother i hi))
      (fun i hi hstored _ => absurd hstored (hother i hi))

end

/-- A loop that calls `stop_inner` leaves no token that needs its sender. -/
theorem Guarded.shutdown {s : Lifecycle} {run : ℕ} {reason : StopReason} (h : s.Guarded)
    (hpc : s.loops run = .stopping reason) :
    ((s.stopInner (.shutdown run)).setLoop run (.stopped reason)).Guarded := by
  refine (h.stopInner (.shutdown run)).leave (by simp [hpc]) (by simp) ?_
  intro token htoken
  rw [stopInner_token] at htoken
  cases htoken

theorem Guarded.step {s s' : Lifecycle} {action : LifecycleAction}
    (hunopposed : s.Unopposed action) (hstep : s.step action = some s') (h : s.Guarded) :
    s'.Guarded := by
  cases step_cases hstep with
  | check hold hopen hnew hresult => exact h.check hold hopen hnew hresult
  | store hpc => exact h.store hpc hunopposed
  | publish hpc => exact h.publish hpc
  | spawn hpc => exact h.spawn hpc
  | observe hpc hcancelled | receiveFatal hpc =>
    exact h.leave (by simp [hpc]) (by simp) (fun _ _ _ => rfl)
  | receive hpc => exact h
  | shutdown hpc => exact h.shutdown hpc
  | finish hpc =>
    refine h.leave (by simp [hpc]) (by simp) ?_
    intro _ _ hactive
    rw [hpc] at hactive
    cases hactive
  | fatalSend => exact h.stopInner .fatalSend
  | cancel =>
    exact h.retire rfl (fun _ hi => hi) (fun _ hi => hi)
      (fun i hi => (free_of_cancelToken hi).1) (fun _ _ hi => hi) (fun _ _ _ hi => hi)

theorem Guarded.run {s s' : Lifecycle} {actions : List LifecycleAction} (h : s.Guarded)
    (hmeets : Meets Lifecycle.step Unopposed s actions)
    (hrun : run Lifecycle.step s actions = some s') : s'.Guarded :=
  run_invariant Lifecycle.step Guarded (fun _ _ _ hcondition hstep h => h.step hcondition hstep)
    hmeets hrun h

/-! ## Runs -/

section

variable {s s' : Lifecycle} {action : LifecycleAction} {run call : ℕ}

theorem starts_of_step (hstep : s.step action = some s') (run : ℕ) :
    s'.starts run = s.starts run ∨
      (s.starts run ≠ .returned (.ok ()) ∧
        (s'.starts run = .returned (.ok ()) → (s.starts run).active = true)) := by
  have hset : ∀ call pc, s.starts call ≠ .returned (.ok ()) →
      (pc = .returned (.ok ()) → (s.starts call).active = true) →
      (s.setStart call pc).starts run = s.starts run ∨
        (s.starts run ≠ .returned (.ok ()) ∧
          ((s.setStart call pc).starts run = .returned (.ok ()) →
            (s.starts run).active = true)) := by
    intro call pc hopen hpc
    rw [setStart_starts]
    split_ifs with hcall
    · exact .inr (hcall ▸ ⟨hopen, hpc⟩)
    · exact .inl rfl
  cases step_cases hstep with
  | check hold hopen hnew hresult => exact hset _ _ hopen (absurd · hresult)
  | store hpc | publish hpc => exact hset _ _ (by simp [hpc]) (by simp)
  | spawn hpc => exact hset _ _ (by simp [hpc]) (fun _ => by rw [hpc]; rfl)
  | shutdown hpc | fatalSend => exact .inl (congrFun (s.stopInner_starts _) run)
  | _ => exact .inl rfl

theorem stopInner_free {canceller : Canceller} {i : ℕ}
    (h : (s.stopInner canceller).cancelled i = none) : s.cancelled i = none := by
  rcases s.stopInner_cases canceller with ⟨-, heq⟩ | ⟨token, -, heq⟩
  · rwa [heq] at h
  · rw [heq] at h
    exact (free_of_cancelToken h).1

theorem free_of_step (hstep : s.step action = some s') (hfree : s'.cancelled run = none) :
    s.cancelled run = none := by
  cases step_cases hstep with
  | shutdown hpc | fatalSend => exact stopInner_free hfree
  | cancel => exact (free_of_cancelToken hfree).1
  | _ => exact hfree

theorem live_of_step (hstep : s.step action = some s')
    (hreturned : s.starts run = .returned (.ok ())) (hlive : s'.loops run = .live) :
    s.loops run = .live := by
  have hset : ∀ (s : Lifecycle) i pc, pc ≠ .live → (s.setLoop i pc).loops run = .live →
      s.loops run = .live := by
    intro s i pc hpc hlive
    rw [setLoop_loops] at hlive
    split_ifs at hlive
    · exact absurd hlive hpc
    · exact hlive
  cases step_cases hstep with
  | @spawn call hpc =>
    have hcall : run ≠ call := by
      rintro rfl
      rw [hpc] at hreturned
      cases hreturned
    rwa [setLoop_loops, if_neg hcall] at hlive
  | observe hpc hcancelled | receiveFatal hpc | finish hpc => exact hset s _ _ (by simp) hlive
  | shutdown hpc =>
    simpa using hset _ _ _ (by simp) hlive
  | fatalSend => exact congrFun (s.stopInner_loops _) run ▸ hlive
  | _ => exact hlive

/-- The first of two calls has returned `Ok`, and is stopped if the second one has too. -/
structure Overtaken (s : Lifecycle) (run call : ℕ) : Prop where
  guarded : s.Guarded
  returned : s.starts run = .returned (.ok ())
  stopped : s.starts call = .returned (.ok ()) → s.Stopped run

theorem Overtaken.step (hunopposed : s.Unopposed action) (hstep : s.step action = some s')
    (h : s.Overtaken run call) : s'.Overtaken run call := by
  refine ⟨h.guarded.step hunopposed hstep, ?_, ?_⟩
  · rcases starts_of_step hstep run with heq | ⟨hopen, -⟩
    · exact heq.trans h.returned
    · exact absurd h.returned hopen
  · intro hcall
    have hstopped : s.Stopped run := by
      rcases starts_of_step hstep call with heq | ⟨-, hactive⟩
      · exact h.stopped (heq.symm.trans hcall)
      · exact h.guarded.waiting call run (hactive hcall) h.returned
    exact hstopped.imp (mt (free_of_step hstep)) (mt (live_of_step hstep h.returned))

end

/-- In every run in which a call stores its token only while the client is not running and
no other call is on its way, at most one loop is live and not cancelled, and of two calls
that return `Ok` the first run is stopped before the second call returns. -/
theorem starts_exclusive (first second : List LifecycleAction) (s s' : Lifecycle)
    (hunopposed : Meets Lifecycle.step Unopposed new (first ++ second))
    (hfirst : run Lifecycle.step new first = some s)
    (hsecond : run Lifecycle.step s second = some s') :
    s.Exclusive ∧ s'.Exclusive ∧
      ∀ earlier later, s.starts earlier = .returned (.ok ()) →
        s.starts later ≠ .returned (.ok ()) → s'.starts later = .returned (.ok ()) →
        s'.Stopped earlier := by
  obtain ⟨hmeets, hmeets'⟩ := meets_append_iff Lifecycle.step hfirst |>.mp hunopposed
  have hguarded := guarded_new.run hmeets hfirst
  have hguarded' := hguarded.run hmeets' hsecond
  refine ⟨hguarded.exclusive, hguarded'.exclusive, ?_⟩
  intro earlier later hearlier hlater hreturned
  have hovertaken : s.Overtaken earlier later := ⟨hguarded, hearlier, (absurd · hlater)⟩
  exact (run_invariant Lifecycle.step (Overtaken · earlier later)
    (fun _ _ _ hcondition hstep h => h.step hcondition hstep) hmeets' hsecond
    hovertaken).stopped hreturned

theorem unopposed_of_ne_store (a : LifecycleAction) (ha : ∀ call, a ≠ .store call) :
    s.Unopposed a := by
  cases a with
  | store call => exact absurd rfl (ha call)
  | _ => trivial

def starting (call : ℕ) : List LifecycleAction :=
  checking call ++ ([.store call] ++ spawning call)

theorem unopposed_starting {s s' : Lifecycle} {call : ℕ}
    (hchecked : run step s (checking call) = some s')
    (hstore : s'.Unopposed (.store call)) : Meets step Unopposed s (starting call) := by
  refine meets_append_of_run _ (meets_of_ne_store unopposed_of_ne_store ?_ s) hchecked ?_
  · simp [checking]
  · refine ⟨hstore, fun next _ => meets_of_ne_store unopposed_of_ne_store ?_ next⟩
    simp [spawning]

/-- The client is started again after a send has failed fatally, before its first loop has
noticed. -/
theorem starts_exclusive_sample :
    ∃ s s', run step new (starting 0) = some s ∧
      run step s (.fatalSend :: starting 1) = some s' ∧
      s'.starts 0 = .returned (.ok ()) ∧ s'.starts 1 = .returned (.ok ()) ∧
      s'.loops 0 = .live ∧ s'.loops 1 = .live ∧ s'.Exclusive ∧ s'.Stopped 0 := by
  have hmeets : Meets step Unopposed new (starting 0 ++ .fatalSend :: starting 1) := by
    refine meets_append_of_run _ (unopposed_starting rfl ⟨rfl, ?_⟩) rfl ⟨trivial, ?_⟩
    · intro other hother
      cases other with
      | zero => exact absurd rfl hother
      | succ other => rfl
    · intro s hs
      cases hs
      refine unopposed_starting rfl ⟨rfl, ?_⟩
      intro other hother
      match other with
      | 0 => rfl
      | 1 => exact absurd rfl hother
      | other + 2 => rfl
  obtain ⟨-, hexclusive, hstopped⟩ :=
    starts_exclusive (starting 0) (.fatalSend :: starting 1) _ _ hmeets rfl rfl
  exact ⟨_, _, rfl, rfl, rfl, rfl, rfl, rfl, hexclusive,
    hstopped 0 1 rfl (by decide) rfl⟩

/-- The second call looks whether the client is running while the first one awaits its
subscription. Both return `Ok`, and both loops stay live. -/
theorem crossing_starts_both_live :
    ∃ s, run step new (checking 0 ++ [.store 0] ++ checking 1 ++ [.store 1] ++
        spawning 0 ++ spawning 1) = some s ∧
      s.starts 0 = .returned (.ok ()) ∧ s.starts 1 = .returned (.ok ()) ∧
      s.taken = [] ∧ (∀ run, s.cancelled run = none) ∧ ¬s.Stopped 0 ∧ ¬s.Exclusive := by
  refine ⟨_, rfl, rfl, rfl, rfl, fun _ => rfl, ?_, ?_⟩
  · rintro (hcancelled | hleft)
    · exact hcancelled rfl
    · exact hleft rfl
  · intro hexclusive
    cases hexclusive 0 1 rfl rfl rfl rfl

end Lifecycle

end SdkInternal.Ipc
