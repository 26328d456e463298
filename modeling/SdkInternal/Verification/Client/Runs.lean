import SdkInternal.Model.Ipc.Lifecycle
import SdkInternal.Shared.Run

/-! # Runs of the client do not stop each other, if they do not overlap

A loop on its way out cancels whatever token is stored. That is its own token as long as
no call of `start` stores one while an earlier run is active. -/

namespace SdkInternal.Ipc

open Shared Function ProcessingPc Lifecycle

def ProcessingPc.reason : ProcessingPc → Option StopReason
  | .stopping reason | .stopped reason | .finished reason => some reason
  | _ => none

def ProcessingPc.done : ProcessingPc → Bool
  | .stopped _ | .finished _ => true
  | _ => false

def ProcessingPc.active : ProcessingPc → Bool
  | .live | .stopping _ => true
  | _ => false

def StartPc.active : StartPc → Bool
  | .subscribing | .spawning => true
  | _ => false

namespace Lifecycle

/-! ## Cancelling tokens -/

theorem cancelled_cancelToken {s : Lifecycle} {canceller c : Canceller} {token i : ℕ}
    (h : (s.cancelToken canceller token).cancelled i = some c) :
    s.cancelled i = some c ∨ (i = token ∧ c = canceller) := by
  simp only [cancelToken, update_apply] at h
  split_ifs at h with hi
  · rcases Option.or_eq_some_iff.mp h with h | ⟨-, h⟩
    · exact .inl (hi ▸ h)
    · exact .inr ⟨hi, (Option.some.inj h).symm⟩
  · exact .inl h

theorem cancelToken_cancelled {s : Lifecycle} {c : Canceller} {i : ℕ}
    (h : s.cancelled i = some c) (canceller : Canceller) (token : ℕ) :
    (s.cancelToken canceller token).cancelled i = some c := by
  by_cases hi : i = token
  · subst hi
    simp [cancelToken, h]
  · simp [cancelToken, update_of_ne hi, h]

theorem stopInner_cases (s : Lifecycle) (canceller : Canceller) :
    (s.cancellationToken = none ∧ s.stopInner canceller = s) ∨
      ∃ token, s.cancellationToken = some token ∧ s.stopInner canceller =
        { s.cancelToken canceller token with
          cancellationToken := none
          taken := s.taken ++ [(canceller, token)] } := by
  unfold stopInner
  cases h : s.cancellationToken with
  | none => exact .inl ⟨rfl, rfl⟩
  | some token => exact .inr ⟨token, rfl, rfl⟩

/-! ## Transitions -/

inductive Step (s : Lifecycle) : LifecycleAction → Lifecycle → Prop where
  | check {action call new} (hold : (s.starts call).active = false)
      (hopen : s.starts call ≠ .returned (.ok ())) (hnew : new.active = false)
      (hresult : new ≠ .returned (.ok ())) : Step s action (s.setStart call new)
  | store {call} (hpc : s.starts call = .passed) :
      Step s (.store call) { s.setStart call .subscribing with cancellationToken := some call }
  | publish {call} (hpc : s.starts call = .subscribing) :
      Step s (.publish call) { s.setStart call .spawning with incoming := some call }
  | spawn {call} (hpc : s.starts call = .spawning) :
      Step s (.spawn call) ((s.setStart call (.returned (.ok ()))).setLoop call .live)
  | observe {run c} (hpc : s.loops run = .live) (hcancelled : s.cancelled run = some c) :
      Step s (.observe run) (s.setLoop run (.stopping .cancelled))
  | receive {run} (hpc : s.loops run = .live) : Step s (.receive run) s
  | receiveFatal {run} (hpc : s.loops run = .live) :
      Step s (.receiveFatal run) (s.setLoop run (.stopping .fatalReceive))
  | shutdown {run reason} (hpc : s.loops run = .stopping reason) :
      Step s (.shutdown run) ((s.stopInner (.shutdown run)).setLoop run (.stopped reason))
  | finish {run reason} (hpc : s.loops run = .stopped reason) :
      Step s (.finish run) (s.setLoop run (.finished reason))
  | fatalSend : Step s .fatalSend (s.stopInner .fatalSend)
  | cancel {call} : Step s (.cancel call) (s.cancelToken .caller call)

theorem step_cases {s s' : Lifecycle} {action : LifecycleAction}
    (h : s.step action = some s') : Step s action s' := by
  cases action with
  | fatalSend =>
    cases h
    exact .fatalSend
  | cancel call =>
    cases h
    exact .cancel
  | checkIncoming call | checkToken call =>
    simp only [step] at h
    split at h
    · rename_i hpc
      (try split_ifs at h) <;> cases h <;>
        exact .check (by rw [hpc]; rfl) (by simp [hpc]) rfl (by simp)
    · cases h
  | observe run =>
    simp only [step] at h
    split at h
    · rename_i hpc
      split_ifs at h with hsome
      cases h
      obtain ⟨c, hc⟩ := Option.isSome_iff_exists.mp hsome
      exact .observe hpc hc
    · cases h
  | _ =>
    simp only [step] at h
    split at h
    · rename_i hpc
      cases h
      constructor
      exact hpc
    · cases h

/-! ## Runs that do not overlap -/

/-- The run has stored its token, and its loop, if it is there already, has not yet called
`stop_inner`. -/
def Active (s : Lifecycle) (run : ℕ) : Prop :=
  (s.starts run).active = true ∨ (s.loops run).active = true

/-- A call stores its token only while no other run is active. -/
def Alone (s : Lifecycle) : LifecycleAction → Prop
  | .store call => ∀ run, run ≠ call → ¬s.Active run
  | _ => True

/-- Loops on their way out only take their own token, and a loop was left because of a
fatal error of its own, or because its token was cancelled by its caller or by a send that
failed fatally. -/
structure Independent (s : Lifecycle) : Prop where
  taken : ∀ run token, (Canceller.shutdown run, token) ∈ s.taken → token = run
  reason : ∀ run, (s.loops run).reason = some .cancelled →
    s.cancelled run = some .caller ∨ s.cancelled run = some .fatalSend

structure Orderly (s : Lifecycle) : Prop extends Independent s where
  /-- The stored token is that of every active run. -/
  token : ∀ run, s.Active run → ∀ token, s.cancellationToken = some token → token = run
  spawned : ∀ call, s.starts call ≠ .returned (.ok ()) → s.loops call = .absent
  /-- A token that a loop on its way out was the first to cancel is its own. -/
  shutdown : ∀ run other, s.cancelled run = some (.shutdown other) → (s.loops run).done = true

theorem orderly_new : Orderly new where
  taken := by simp [new]
  reason := by simp [new, reason]
  token := by simp [new]
  spawned := fun _ _ => rfl
  shutdown := by simp [new]

section

variable {s : Lifecycle} {call run : ℕ}

section

variable (h : s.Orderly)

include h

/-- A call moves on, and leaves the stored token or stores its own. -/
theorem Orderly.setStart {new : StartPc} {stored : Option ℕ}
    (hopen : s.starts call ≠ .returned (.ok ()))
    (hself : new.active = true → ∀ token, stored = some token → token = call)
    (hothers : ∀ run, run ≠ call → s.Active run → stored = s.cancellationToken) :
    Orderly { s.setStart call new with cancellationToken := stored } where
  taken := h.taken
  reason := h.reason
  shutdown := h.shutdown
  token := by
    refine (forall_update_iff s.starts fun run pc =>
      pc.active = true ∨ (s.loops run).active = true →
        ∀ token, stored = some token → token = run).mpr ⟨?_, ?_⟩
    · rw [h.spawned call hopen]
      exact fun hactive => hself (hactive.resolve_right (by simp [active]))
    · intro run hrun hactive
      rw [hothers run hrun hactive]
      exact h.token run hactive
  spawned := by
    refine (forall_update_iff s.starts fun i pc =>
      pc ≠ .returned (.ok ()) → s.loops i = .absent).mpr ⟨?_, fun i _ => h.spawned i⟩
    exact fun _ => h.spawned call hopen

theorem Orderly.returned_of_loop (hloop : s.loops run ≠ .absent) :
    s.starts run = .returned (.ok ()) := by
  by_contra hstart
  exact hloop (h.spawned run hstart)

theorem Orderly.setLoop {new : ProcessingPc} (hstart : s.starts run = .returned (.ok ()))
    (hactive : new.active = true → ∀ token, s.cancellationToken = some token → token = run)
    (hdone : (s.loops run).done = true → new.done = true)
    (hreason : new.reason = some .cancelled →
      s.cancelled run = some .caller ∨ s.cancelled run = some .fatalSend) :
    (s.setLoop run new).Orderly where
  taken := h.taken
  reason := by
    exact (forall_update_iff s.loops fun i pc => pc.reason = some .cancelled →
      s.cancelled i = some .caller ∨ s.cancelled i = some .fatalSend).mpr
      ⟨hreason, fun i _ => h.reason i⟩
  token := by
    refine (forall_update_iff s.loops fun i pc =>
      (s.starts i).active = true ∨ pc.active = true →
        ∀ token, s.cancellationToken = some token → token = i).mpr
      ⟨?_, fun i _ => h.token i⟩
    intro hi
    rcases hi with hi | hi
    · exact h.token run (.inl hi)
    · exact hactive hi
  spawned := by
    refine (forall_update_iff s.loops fun i pc =>
      s.starts i ≠ .returned (.ok ()) → pc = .absent).mpr ⟨?_, fun i _ => h.spawned i⟩
    exact fun hi => absurd hstart hi
  shutdown := by
    refine (forall_update_iff s.loops fun i pc =>
      ∀ other, s.cancelled i = some (.shutdown other) → pc.done = true).mpr
      ⟨?_, fun i _ => h.shutdown i⟩
    exact fun other hi => hdone (h.shutdown run other hi)

theorem Orderly.cancelToken {canceller : Canceller} (token : ℕ)
    (hcanceller : ∀ run, canceller ≠ .shutdown run) :
    (s.cancelToken canceller token).Orderly where
  taken := h.taken
  reason := by
    exact fun i hi => (h.reason i hi).imp (cancelToken_cancelled · canceller token)
      (cancelToken_cancelled · canceller token)
  token := h.token
  spawned := h.spawned
  shutdown := by
    intro i other hi
    rcases cancelled_cancelToken hi with hi | ⟨-, hc⟩
    · exact h.shutdown i other hi
    · exact absurd hc.symm (hcanceller other)

theorem Orderly.take (canceller : Canceller) (token : ℕ)
    (hcanceller : ∀ run, canceller = .shutdown run → token = run) :
    Orderly { s with cancellationToken := none, taken := s.taken ++ [(canceller, token)] } where
  taken := by
    intro run t ht
    rcases List.mem_append.mp ht with ht | ht
    · exact h.taken run t ht
    · cases List.mem_singleton.mp ht
      exact hcanceller run rfl
  reason := h.reason
  token := fun _ _ _ ht => by cases ht
  spawned := h.spawned
  shutdown := h.shutdown

theorem Orderly.fatalSend : (s.stopInner .fatalSend).Orderly := by
  rcases s.stopInner_cases .fatalSend with ⟨-, heq⟩ | ⟨token, -, heq⟩
  · rw [heq]
    exact h
  · rw [heq]
    exact (h.cancelToken token (fun _ => by simp)).take _ token (fun _ hc => by cases hc)

/-- A loop on its way out finds its own token, or none. -/
theorem Orderly.shutdownLoop {reason : StopReason} (hpc : s.loops run = .stopping reason) :
    ((s.stopInner (.shutdown run)).setLoop run (.stopped reason)).Orderly := by
  have hstart : s.starts run = .returned (.ok ()) := h.returned_of_loop (by simp [hpc])
  have hreason : (stopped reason).reason = some .cancelled →
      s.cancelled run = some .caller ∨ s.cancelled run = some .fatalSend := by
    intro hcancelled
    apply h.reason run
    rw [hpc]
    exact hcancelled
  rcases s.stopInner_cases (.shutdown run) with ⟨-, heq⟩ | ⟨token, htoken, heq⟩
  · rw [heq]
    exact h.setLoop hstart (fun hactive => by cases hactive) (fun _ => rfl) hreason
  · obtain rfl : token = run := h.token run (.inr (by rw [hpc]; rfl)) token htoken
    rw [heq]
    have hstopped : (s.setLoop token (.stopped reason)).Orderly :=
      h.setLoop hstart (fun hactive => by cases hactive) (fun _ => rfl) hreason
    have htaken := hstopped.take (.shutdown token) token fun run hrun => by cases hrun; rfl
    refine ⟨⟨htaken.taken, ?_⟩, htaken.token, htaken.spawned, ?_⟩
    · exact fun i hi => (htaken.reason i hi).imp (cancelToken_cancelled · _ token)
        (cancelToken_cancelled · _ token)
    · intro i other hi
      rcases cancelled_cancelToken hi with hi | ⟨rfl, -⟩
      · exact htaken.shutdown i other hi
      · simp [Lifecycle.setLoop, done]

end

end

theorem Orderly.step {s s' : Lifecycle} {action : LifecycleAction} (halone : s.Alone action)
    (hstep : s.step action = some s') (h : s.Orderly) : s'.Orderly := by
  cases step_cases hstep with
  | check hold hopen hnew hresult =>
    exact h.setStart hopen (fun hactive => by simp [hnew] at hactive) (fun _ _ _ => rfl)
  | store hpc =>
    exact h.setStart (by simp [hpc]) (fun _ _ htoken => (Option.some.inj htoken).symm)
      (fun run hrun hactive => absurd hactive (halone run hrun))
  | @publish call hpc =>
    have hnext : (s.setStart call .spawning).Orderly :=
      h.setStart (by simp [hpc]) (fun _ => h.token call (.inl (by rw [hpc]; rfl)))
        (fun _ _ _ => rfl)
    exact ⟨⟨hnext.taken, hnext.reason⟩, hnext.token, hnext.spawned, hnext.shutdown⟩
  | @spawn call hpc =>
    have hactive : s.Active call := .inl (by rw [hpc]; rfl)
    have habsent : s.loops call = .absent := h.spawned call (by simp [hpc])
    have hnext : (s.setStart call (.returned (.ok ()))).Orderly :=
      h.setStart (by simp [hpc]) (fun hactive => by cases hactive) (fun _ _ _ => rfl)
    refine hnext.setLoop (by simp [Lifecycle.setStart])
      (fun _ => h.token call hactive) ?_ ?_
    · intro hdone
      simp [Lifecycle.setStart, habsent, done] at hdone
    · intro hreason
      cases hreason
  | @observe run c hpc hcancelled =>
    have hactive : s.Active run := .inr (by rw [hpc]; rfl)
    refine h.setLoop (h.returned_of_loop (by simp [hpc])) (fun _ => h.token run hactive) ?_ ?_
    · intro hdone
      rw [hpc] at hdone
      cases hdone
    · intro _
      cases c with
      | caller => exact .inl hcancelled
      | fatalSend => exact .inr hcancelled
      | shutdown other =>
        have hdone := h.shutdown run other hcancelled
        rw [hpc] at hdone
        cases hdone
  | receive hpc => exact h
  | @receiveFatal run hpc =>
    have hactive : s.Active run := .inr (by rw [hpc]; rfl)
    refine h.setLoop (h.returned_of_loop (by simp [hpc])) (fun _ => h.token run hactive) ?_ ?_
    · intro hdone
      rw [hpc] at hdone
      cases hdone
    · intro hreason
      cases hreason
  | shutdown hpc => exact h.shutdownLoop hpc
  | @finish run reason hpc =>
    refine h.setLoop (h.returned_of_loop (by simp [hpc])) (fun hactive => by cases hactive)
      (fun _ => rfl) ?_
    intro hreason
    apply h.reason run
    rw [hpc]
    exact hreason
  | fatalSend => exact h.fatalSend
  | cancel => exact h.cancelToken _ (fun _ => by simp)

/-- In every run in which a call stores its token only while no other run is active, loops
are only left for reasons of their own. -/
theorem runs_independent (actions : List LifecycleAction) (s : Lifecycle)
    (halone : Meets step Alone new actions)
    (hrun : run step new actions = some s) : s.Independent :=
  (run_invariant step Orderly (fun _ _ _ halone hstep h => h.step halone hstep)
    halone hrun orderly_new).toIndependent

/-! ## Fixed runs -/

def checking (call : ℕ) : List LifecycleAction := [.checkIncoming call, .checkToken call]

def spawning (call : ℕ) : List LifecycleAction := [.publish call, .spawn call]

/-- A send fails fatally, and the loop has called `stop_inner` before `start` is called
again. The second run is then stopped by its caller. -/
def separateRuns : List LifecycleAction :=
  checking 0 ++ ([.store 0] ++ (spawning 0 ++ [.fatalSend, .observe 0, .shutdown 0] ++
    checking 1 ++ ([.store 1] ++ (spawning 1 ++ [.cancel 1, .observe 1]))))

/-- The loop of the first run wakes up only after `start` has been called again. -/
def overlappingRuns : List LifecycleAction :=
  checking 0 ++ [.store 0] ++ spawning 0 ++ [.fatalSend] ++ checking 1 ++ [.store 1] ++
    spawning 1 ++ [.observe 0, .shutdown 0, .observe 1]

theorem meets_of_ne_store {condition : Lifecycle → LifecycleAction → Prop}
    (hcondition : ∀ s a, (∀ call, a ≠ .store call) → condition s a)
    {labels : List LifecycleAction} (hlabels : ∀ a ∈ labels, ∀ call, a ≠ .store call)
    (s : Lifecycle) : Meets step condition s labels :=
  meets_of_forall _ (fun a ha s => hcondition s a (hlabels a ha)) s

theorem alone_of_ne_store (s : Lifecycle) (a : LifecycleAction)
    (ha : ∀ call, a ≠ .store call) : s.Alone a := by
  cases a with
  | store call => exact absurd rfl (ha call)
  | _ => trivial

theorem alone_separateRuns : Meets step Alone new separateRuns := by
  have hfree : ∀ labels : List LifecycleAction,
      (∀ a ∈ labels, ∀ call, a ≠ .store call) → ∀ s, Meets step Alone s labels :=
    fun labels hlabels => meets_of_ne_store alone_of_ne_store hlabels
  refine meets_append_of_run _ (hfree _ (by simp [checking]) _) rfl ?_
  refine meets_append_of_run _ ⟨?_, fun _ _ => trivial⟩ rfl ?_
  · intro run hrun
    cases run with
    | zero => exact absurd rfl hrun
    | succ run => simp [Active, setStart, new, StartPc.active, active]
  refine meets_append_of_run _ (hfree _ (by simp [checking, spawning]) _) rfl ?_
  refine meets_append_of_run _ ⟨?_, fun _ _ => trivial⟩ rfl (hfree _ (by simp [spawning]) _)
  intro run hrun hactive
  match run with
  | 0 => rcases hactive with hactive | hactive <;> cases hactive
  | 1 => exact hrun rfl
  | run + 2 => rcases hactive with hactive | hactive <;> cases hactive

theorem runs_independent_sample :
    ∃ s, run step new separateRuns = some s ∧
      s.loops 1 = .stopping .cancelled ∧ s.cancelled 1 = some .caller ∧ s.Independent :=
  ⟨_, rfl, rfl, rfl, runs_independent separateRuns _ alone_separateRuns rfl⟩

/-- The loop of the first run cancels the token of the second one, which is then left. -/
theorem overlapping_run_stopped :
    ∃ s, run step new overlappingRuns = some s ∧
      s.starts 1 = .returned (.ok ()) ∧ s.loops 1 = .stopping .cancelled ∧
      s.cancelled 1 = some (.shutdown 0) ∧ (Canceller.shutdown 0, 1) ∈ s.taken ∧
      ¬s.Independent := by
  refine ⟨_, rfl, rfl, rfl, rfl, by decide, ?_⟩
  intro hindependent
  have htoken : 1 = 0 := hindependent.taken 0 1 (by decide)
  cases htoken

end Lifecycle

end SdkInternal.Ipc
