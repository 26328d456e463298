import SdkInternal.Shared.Computation
import SdkInternal.Verification.AccessConnector.Attempt

/-! # The sync state that an attempt reports

A failed rotate step reports the effect of its last call only. Calls before it may have changed
the target. -/

namespace SdkInternal.AccessConnector

open Shared List RotationSyncState

variable {vault : Vault}

/-! ## Rotate calls in a history -/

variable (event : Event (Op vault) Op.Answer)

def isRotateCall : Bool :=
  match event with
  | ⟨.finish .rotate _, _⟩ => true
  | _ => false

def rotateCalls (history : History vault) : ℕ := history.countP isRotateCall

def isChange : Bool :=
  match event with
  | ⟨.finish .rotate _, answer⟩ => answer.changed
  | _ => false

def ChangedTarget (history : History vault) : Prop := history.any isChange = true

instance (history : History vault) : Decidable (ChangedTarget history) :=
  inferInstanceAs (Decidable (_ = true))

theorem changedTarget_append (first second : History vault) :
    ChangedTarget (first ++ second) ↔ ChangedTarget first ∨ ChangedTarget second := by
  simp only [ChangedTarget, any_append, Bool.or_eq_true]

variable (op : Op vault)

/-- Operations other than the answer of a rotate call. -/
def Op.NotRotate : Prop := ∀ context, op ≠ .finish .rotate context

theorem notRotate_of_isPreparatory (h : op.isPreparatory = true) : op.NotRotate := by
  rintro context rfl
  cases h

theorem event_of_notRotate {event : Event (Op vault) Op.Answer} (h : event.op.NotRotate) :
    isRotateCall event = false ∧ isChange event = false := by
  obtain ⟨op, answer⟩ := event
  cases op with
  | finish step context =>
    cases step with
    | rotate => exact absurd rfl (h context)
    | verify | terminateSessions => exact ⟨rfl, rfl⟩
  | _ => exact ⟨rfl, rfl⟩

theorem history_of_notRotate (history : History vault) {events : History vault}
    (h : ∀ event ∈ events, event.op.NotRotate) :
    rotateCalls (history ++ events) = rotateCalls history ∧
      (ChangedTarget (history ++ events) ↔ ChangedTarget history) := by
  constructor
  · have hnone : countP isRotateCall events = 0 := by
      rw [countP_eq_zero]
      intro event hevent
      simp [(event_of_notRotate (h event hevent)).1]
    simp [rotateCalls, countP_append, hnone]
  · have hnone : ¬ChangedTarget events := by
      simp only [ChangedTarget, any_eq_true, not_exists, not_and]
      intro event hevent
      simp [(event_of_notRotate (h event hevent)).2]
    simp [changedTarget_append, hnone]

/-! ## The rotate step -/

/-- A rotate call that ends its step with an effect of `NotApplied` comes after no call that
changed the target. -/
def effectsAccumulate (cfg : RetryCfg) : Rely vault where
  environment _ _ _ := True
  answer op _ history answer :=
    match op, answer with
    | .finish .rotate _, answer =>
      match answer.result with
      | .ok _ => True
      | .error e =>
        e.effect = .notApplied →
        e.retry = .permanent ∨ max cfg.maxRetryAttempts 1 ≤ rotateCalls history + 1 →
        ¬ChangedTarget history
    | _, _ => True

/-- The sync state is true of the rotate calls of the history. -/
def TruthfulSync (sync : RotationSyncState) (history : History vault) : Prop :=
  (sync = .targetUnchanged → ¬ChangedTarget history) ∧
    (sync = .targetUpdated → ChangedTarget history)

def ReportsTruthfully : Guarantee vault :=
  fun op _ history _ => ∀ attemptId code detail sync,
    op = .reportFailure attemptId code detail sync → TruthfulSync sync history

def Op.NotReport : Prop :=
  ∀ attemptId code detail sync, op ≠ .reportFailure attemptId code detail sync

theorem reportsTruthfully_of_notReport (h : op.NotReport) (world : World)
    (history : History vault) (answer : op.Answer) : ReportsTruthfully op world history answer :=
  fun attemptId code detail sync hop => absurd hop (h attemptId code detail sync)

theorem notReport_of_isPreparatory (h : op.isPreparatory = true) : op.NotReport := by
  rintro attemptId code detail sync rfl
  cases h

def RotatePost : Post vault (GatedOutcome Unit IntegrationError AbortReason)
  | .ok _, _, history => ChangedTarget history
  | .aborted _, _, _ => True
  | .failed e, _, history => TruthfulSync (.ofEffect e.effect) history

/-- The tries that are left, by the rotate calls of the history. -/
def TriesLeft (cfg : RetryCfg) : Post vault ℕ :=
  fun left _ history => rotateCalls history + left + 1 = max cfg.maxRetryAttempts 1

theorem changedTarget_append_rotate (history : History vault) (context : RotateContext)
    (answer : TargetAnswer) :
    ChangedTarget (history ++ [⟨.finish .rotate context, answer⟩]) ↔
      ChangedTarget history ∨ answer.changed = true := by
  simp [ChangedTarget, isChange]

variable {history : History vault} {cfg : RetryCfg} {world : World} {answer : TargetAnswer}

/-- The effect of the last call is true of all calls, if none changed the target before it. -/
theorem truthfulSync_append_rotate {e : IntegrationError} (hresult : answer.result = .error e)
    (htruthful : answer.truthful = true)
    (hunchanged : e.effect = .notApplied → ¬ChangedTarget history) (context : RotateContext) :
    TruthfulSync (.ofEffect e.effect) (history ++ [⟨.finish .rotate context, answer⟩]) := by
  simp only [TargetAnswer.truthful, hresult] at htruthful
  simp only [TruthfulSync, changedTarget_append_rotate]
  cases heffect : e.effect with
  | notApplied =>
    simp only [heffect, Bool.not_eq_true'] at htruthful
    simp [ofEffect, htruthful, hunchanged heffect]
  | applied =>
    simp only [heffect] at htruthful
    simp [ofEffect, htruthful]
  | unknown => simp [ofEffect]

theorem rotateCalls_append_rotate (history : History vault) (context : RotateContext)
    (answer : TargetAnswer) :
    rotateCalls (history ++ [⟨.finish .rotate context, answer⟩]) = rotateCalls history + 1 := by
  simp [rotateCalls, isRotateCall]

/-- What the answer of a rotate call leaves: a truthful outcome, or a try less. -/
theorem tryPost_rotate {left : ℕ} {after : World} {context : RotateContext}
    (h : TriesLeft cfg left world history) (htruthful : answer.truthful = true)
    (hrely : (effectsAccumulate cfg).answer (.finish .rotate context) world history answer) :
    TryPost RotatePost (TriesLeft cfg) left (answer.result.mapError fun e => (e.retry, e)) after
      (history ++ [⟨.finish .rotate context, answer⟩]) := by
  cases hresult : answer.result with
  | ok value =>
    have hchanged : answer.changed = true := by
      simpa only [TargetAnswer.truthful, hresult] using htruthful
    exact (changedTarget_append_rotate history context answer).mpr (.inr hchanged)
  | error e =>
    simp only [effectsAccumulate, hresult] at hrely
    have hlast : e.retry = .permanent ∨ left = 0 →
        TruthfulSync (.ofEffect e.effect) (history ++ [⟨.finish .rotate context, answer⟩]) := by
      intro hend
      refine truthfulSync_append_rotate hresult htruthful ?_ context
      intro heffect
      refine hrely heffect (hend.imp_right ?_)
      rintro rfl
      exact h.ge
    rw [mapError_error]
    cases hretry : e.retry with
    | permanent => exact hlast (.inl hretry)
    | transient =>
      cases left with
      | zero => exact hlast (.inr rfl)
      | succ left =>
        have hcalls := rotateCalls_append_rotate history context answer
        have hleft : rotateCalls history + (left + 1) + 1 = max cfg.maxRetryAttempts 1 := h
        change rotateCalls _ + left + 1 = _
        omega

theorem callRotate_holds {left : ℕ} (h : TriesLeft cfg left world history)
    (context : RotateContext) :
    Holds (host vault) (effectsAccumulate cfg) ReportsTruthfully
      (TryPost RotatePost (TriesLeft cfg) left) (Attempt.callTarget .rotate context) world
      history := by
  refine holds_immediate rfl ?_
  intro _ after _ _
  refine ⟨reportsTruthfully_of_notReport _ (fun _ _ _ _ hop => by cases hop) _ _ _, ?_⟩
  refine holds_perform ?_
  intro current _ answer last hanswer hrely
  refine ⟨reportsTruthfully_of_notReport _ (fun _ _ _ _ hop => by cases hop) _ _ _, ?_⟩
  have htruthful : answer.truthful = true := by
    simp only [host, World.answer, Option.ite_none_right_eq_some] at hanswer
    exact hanswer.1
  have hstarted : TriesLeft cfg left current (history ++ [⟨.start .rotate, ()⟩]) := by
    have hnot : ∀ event ∈ ([⟨.start .rotate, ()⟩] : History vault), event.op.NotRotate := by
      intro event hevent
      rw [mem_singleton.mp hevent]
      rintro context ⟨⟩
    change rotateCalls _ + left + 1 = _
    rw [(history_of_notRotate history hnot).1]
    exact h
  exact tryPost_rotate hstarted htruthful hrely

variable (attempt : Attempt)

theorem runRotate_holds (h : rotateCalls history = 0) (context : RotateContext) :
    Holds (host vault) (effectsAccumulate attempt.ctx.retryCfg) ReportsTruthfully RotatePost
      (attempt.runTargetStep context .rotate) world history := by
  have hquiet : ∀ {α : Type} {program : Task vault α} {left : ℕ} {world : World}
      {history : History vault}, (program.Uses fun op => op.isLocal = true) →
      TriesLeft attempt.ctx.retryCfg left world history →
      Holds (host vault) (effectsAccumulate attempt.ctx.retryCfg) ReportsTruthfully
        (fun _ => TriesLeft attempt.ctx.retryCfg left) program world history := by
    intro α program left world history huses hleft
    refine (holds_of_uses (fun op hop => reportsTruthfully_of_notReport op
      (notReport_of_isPreparatory op (isPreparatory_of_isLocal op hop))) huses world history).mono
      ?_
    rintro value world after ⟨events, rfl, hlocal⟩
    have hnot : ∀ event ∈ events, event.op.NotRotate := fun event hevent =>
      notRotate_of_isPreparatory _ (isPreparatory_of_isLocal _ (hlocal event hevent))
    change rotateCalls _ + left + 1 = _
    rw [(history_of_notRotate history hnot).1]
    exact hleft
  refine retryFrom_holds (TriesLeft attempt.ctx.retryCfg) (TriesLeft attempt.ctx.retryCfg)
    ?_ ?_ ?_ _ _ _ ?_
  · intro left world history hleft
    refine (hquiet (check_uses (fun _ h => h) attempt.gate _ _) hleft).mono ?_
    rintro (abort | _) world history hkept
    · trivial
    · exact hkept
  · intro left world history hleft
    exact callRotate_holds hleft context
  · intro left duration world history hleft
    exact hquiet (sleep_uses (fun _ h => h) duration) hleft
  · change rotateCalls history + _ + 1 = _
    omega

/-! ## The pipeline -/

def HaltsTruthfully : Post vault (Except Halt Unit)
  | .error (.report _ _ sync), _, history => TruthfulSync sync history
  | _, _, _ => True

theorem haltsTruthfully_of_changed {result : Except Halt Unit}
    (hresult : HaltsWith .targetUpdated result) (hchanged : ChangedTarget history) (world : World) :
    HaltsTruthfully result world history := by
  rcases result with (⟨code, detail, sync⟩ | reason) | _
  · obtain rfl : sync = .targetUpdated := hresult
    exact ⟨fun hsync => (by cases hsync), fun _ => hchanged⟩
  · trivial
  · trivial

theorem runRotated_holds (h : ChangedTarget history) (context : RotateContext) :
    Holds (host vault) (effectsAccumulate cfg) ReportsTruthfully HaltsTruthfully
      (attempt.runRotated context) world history := by
  have hlocal : ∀ op : Op vault, op.isLocal = true → op.NotReport := fun op hop =>
    notReport_of_isPreparatory op (isPreparatory_of_isLocal op hop)
  have huses : (attempt.runRotated context : Task vault _).Uses Op.NotReport := by
    refine Program.Uses.andThen (runRequiredStep_uses hlocal attempt context .verify
      (by rintro _ _ _ _ ⟨⟩) (by rintro _ _ _ _ ⟨⟩)) fun _ => ?_
    refine Program.Uses.andThen (writeCipher_uses hlocal attempt
      (by rintro _ _ _ _ ⟨⟩) (by rintro _ _ _ _ _ ⟨⟩) _) fun _ => ?_
    refine Program.Uses.andThen (terminateSessions_uses hlocal attempt context
      (by rintro _ _ _ _ ⟨⟩) (by rintro _ _ _ _ ⟨⟩)) fun termination => ?_
    exact reportSuccess_uses hlocal attempt termination (by rintro _ _ _ _ ⟨⟩)
  have hreturns : (attempt.runRotated context : Task vault _).Returns (HaltsWith .targetUpdated) :=
    haltsWith_andThen (verify_returns attempt context) fun _ =>
    haltsWith_andThen (writeCipher_returns attempt _) fun _ =>
    haltsWith_andThen (terminateSessions_returns attempt _ context) fun termination =>
    reportSuccess_returns attempt _ termination
  refine ((holds_of_uses reportsTruthfully_of_notReport huses world history).of_returns
    hreturns).mono ?_
  rintro result world after ⟨hresult, events, rfl, -⟩
  exact haltsTruthfully_of_changed hresult ((changedTarget_append history events).mpr (.inl h))
    world

theorem runTarget_reports (h : rotateCalls history = 0) (context : RotateContext) :
    Holds (host vault) (effectsAccumulate attempt.ctx.retryCfg) ReportsTruthfully HaltsTruthfully
      (attempt.runTarget context) world history := by
  refine Holds.bind (Holds.bind ((runRotate_holds attempt h context).mono ?_))
  rintro (_ | reason | e) world history hpost
  · exact runRotated_holds attempt hpost context
  · trivial
  · exact hpost

theorem run_reports (hcalls : rotateCalls history = 0) (hchanged : ¬ChangedTarget history) :
    Holds (host vault) (effectsAccumulate attempt.ctx.retryCfg) ReportsTruthfully HaltsTruthfully
      attempt.run world history := by
  refine run_holds_of_target
    (fun history => rotateCalls history = 0 ∧ ¬ChangedTarget history)
    (fun op hop => reportsTruthfully_of_notReport op (notReport_of_isPreparatory op hop))
    ?_ attempt ?_ (fun context world history h => runTarget_reports attempt h.1 context)
    ⟨hcalls, hchanged⟩
  · rintro history event hop ⟨hcalls, hchanged⟩
    have hnot : ∀ other ∈ [event], other.op.NotRotate := by
      intro other hother
      rw [mem_singleton.mp hother]
      exact notRotate_of_isPreparatory _ hop
    obtain ⟨hsame, hiff⟩ := history_of_notRotate history hnot
    exact ⟨hsame.trans hcalls, mt hiff.mp hchanged⟩
  · rintro (⟨code, detail, sync⟩ | reason) world history hsync ⟨-, hchanged⟩
    · obtain rfl : sync = .targetUnchanged := hsync
      exact ⟨fun _ => hchanged, fun hsync => (by cases hsync)⟩
    · trivial

theorem execute_reports (job : VerifiedJob) (ctx : ExecutionContext) (rounds : ℕ)
    (world : World) :
    Holds (host vault) (effectsAccumulate ctx.retryCfg) ReportsTruthfully (fun _ _ _ => True)
      (execute job ctx rounds) world [] := by
  refine Holds.bind (holds_immediate rfl ?_)
  intro now after _ _
  refine ⟨reportsTruthfully_of_notReport _ (notReport_of_isPreparatory _ rfl) _ _ _, ?_⟩
  have hstart : ¬ChangedTarget ([] ++ [⟨.now, now⟩] : History vault) := Bool.false_ne_true
  refine Holds.bind ((run_reports ⟨job, ctx, _, rounds⟩ rfl hstart).mono ?_)
  rintro ((⟨code, detail, sync⟩ | reason) | _) world history hhalts
  · refine holds_perform ?_
    intro current _ answer last _ _
    refine ⟨?_, trivial⟩
    rintro attemptId code detail sync ⟨⟩
    exact hhalts
  · trivial
  · trivial

/-! ## Runs -/

/-- In a run in which no rotate step ends with `NotApplied` after one of its calls changed the
target, every failure report has a true sync state. -/
theorem reported_sync_truthful (job : VerifiedJob) (ctx : ExecutionContext) (rounds : ℕ)
    (world : World) {labels : List (HostLabel (Op vault) Op.Answer EnvironmentStep)}
    {last : Process (Op vault) Op.Answer World ExecutionResult}
    (hrun : run (host vault).step (attemptIn world job ctx rounds) labels = some last)
    (haccumulate : Meets (host vault).step (effectsAccumulate ctx.retryCfg : Rely vault).Step
      (attemptIn world job ctx rounds) labels) :
    Meets (host vault).step (fun process label => ∀ attemptId code detail sync answer,
      label = .answer (.reportFailure attemptId code detail sync) answer →
        (sync = .targetUnchanged → ¬ChangedTarget process.history) ∧
          (sync = .targetUpdated → ChangedTarget process.history))
      (attemptIn world job ctx rounds) labels := by
  have hholds : Holds (host vault) (effectsAccumulate ctx.retryCfg) ReportsTruthfully
      (fun _ _ _ => True) (execute job ctx rounds) world [] :=
    execute_reports job ctx rounds world
  refine (run_safe hholds haccumulate hrun).1.mono _ ?_
  rintro process label hreports attemptId code detail sync answer rfl
  exact hreports attemptId code detail sync rfl

instance (cfg : RetryCfg) (process : Process (Op vault) Op.Answer World ExecutionResult)
    (label : HostLabel (Op vault) Op.Answer EnvironmentStep) :
    Decidable ((effectsAccumulate cfg : Rely vault).Step process label) :=
  match label with
  | .environment _ => .isTrue (by simp only [Contract.Step, effectsAccumulate]; split <;> trivial)
  | .answer (.finish .rotate _) answer =>
    match hresult : answer.result with
    | .ok _ => .isTrue (by simp only [Contract.Step, effectsAccumulate, hresult])
    | .error e =>
      decidable_of_iff (e.effect = .notApplied →
          e.retry = .permanent ∨ max cfg.maxRetryAttempts 1 ≤ rotateCalls process.history + 1 →
          ¬ChangedTarget process.history)
        (by simp only [Contract.Step, effectsAccumulate, hresult])
  | .answer (.finish .verify _) _ | .answer (.finish .terminateSessions _) _ => .isTrue trivial
  | .answer .now _ | .answer .isCancelled _ | .answer .lastOk _ | .answer (.sleepUntil _) _
  | .answer (.sleepOrCancelled _) _ | .answer (.phase _) _ | .answer (.beginRenewal _) _
  | .answer .authenticate _ | .answer (.finishRenewal _) _ | .answer (.resolve _ _) _
  | .answer (.generatePassword _) _ | .answer (.start _) _ | .answer (.getCipher _) _
  | .answer (.putCipher _ _) _ | .answer (.reportSuccess _ _) _
  | .answer (.reportFailure _ _ _ _) _ => .isTrue trivial

def sampleGate (clock : Instant) : List (HostLabel (Op sampleVault) Op.Answer EnvironmentStep) :=
  [ .answer .now clock,
    .answer .isCancelled false,
    .answer (.phase .gate) .active,
    .answer .lastOk (0 : ℕ),
    .answer .now clock,
    .answer (.start .rotate) () ]

def sampleRotation : RotateContext := ⟨3, "account", "password", [], 0⟩

def forbidden : TargetAnswer :=
  ⟨.error ⟨.permanent, .notApplied, .targetRejected, ⟨"HTTP 403"⟩⟩, false⟩

/-- A rotate call that the target applies, and that is answered by `HTTP 502`. -/
def badGateway : TargetAnswer :=
  ⟨.error ⟨.transient, .unknown, .targetUnreachable, ⟨"HTTP 502"⟩⟩, true⟩

def reportUnchanged : HostLabel (Op sampleVault) Op.Answer EnvironmentStep :=
  .answer (.reportFailure 1 .targetRejected (some ⟨"HTTP 403"⟩) .targetUnchanged) (.ok ())

/-- The only rotate call is forbidden. -/
def forbiddenRun : List (HostLabel (Op sampleVault) Op.Answer EnvironmentStep) :=
  samplePreparation ++ sampleGate 0 ++
    [.answer (.finish .rotate sampleRotation) forbidden, reportUnchanged]

theorem forbiddenRun_truthful :
    (run (host sampleVault).step (attemptIn sampleWorld sampleJob sampleContext 3)
      forbiddenRun).isSome = true ∧
    Meets (host sampleVault).step (fun process label => ∀ attemptId code detail sync answer,
      label = .answer (.reportFailure attemptId code detail sync) answer →
        (sync = .targetUnchanged → ¬ChangedTarget process.history) ∧
          (sync = .targetUpdated → ChangedTarget process.history))
      (attemptIn sampleWorld sampleJob sampleContext 3) forbiddenRun := by
  have hsome : (run (host sampleVault).step (attemptIn sampleWorld sampleJob sampleContext 3)
      forbiddenRun).isSome = true := by
    decide +kernel
  refine ⟨hsome, reported_sync_truthful sampleJob sampleContext 3 sampleWorld
    (Option.some_get hsome).symm ?_⟩
  decide +kernel

/-- The first call is applied behind a bad gateway, and the second one is forbidden. -/
def maskedRun : List (HostLabel (Op sampleVault) Op.Answer EnvironmentStep) :=
  samplePreparation ++ sampleGate 0 ++
    [ .answer (.finish .rotate sampleRotation) badGateway,
      .answer .now (0 : ℕ),
      .environment (.tick (seconds 1)),
      .answer (.sleepUntil 1000) () ] ++
    sampleGate 1000 ++ [.answer (.finish .rotate sampleRotation) forbidden]

/-- A failure report of an unchanged target, after a rotate call that changed it. -/
theorem unchanged_reported_after_change :
    ((run (host sampleVault).step (attemptIn sampleWorld sampleJob sampleContext 3)
        maskedRun).map fun process =>
      (process.history.any isChange, ((host sampleVault).step process reportUnchanged).isSome)) =
      some (true, true) := by
  decide +kernel

end SdkInternal.AccessConnector
