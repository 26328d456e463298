import SdkInternal.Verification.AccessConnector.Attempt

/-! # The lease of target-side steps

The gate reads the clock and the cancellation token, and then waits for the session's mutex to
read the phase. What it found before that wait is not read again. -/

namespace SdkInternal.AccessConnector

open Shared Option World

variable {vault : Vault}

/-! ## Answers of the world -/

variable (world after : World)

@[simp] theorem answer_now (t : Instant) :
    (host vault).answer .now world t = some after ↔ t = world.clock ∧ world = after :=
  ite_some_none_eq_some

@[simp] theorem answer_isCancelled (cancelled : Bool) :
    (host vault).answer .isCancelled world cancelled = some after ↔
      cancelled = world.cancelled ∧ world = after :=
  ite_some_none_eq_some

@[simp] theorem answer_lastOk (t : Instant) :
    (host vault).answer .lastOk world t = some after ↔ t = world.lastOk ∧ world = after :=
  ite_some_none_eq_some

@[simp] theorem answer_phase (reader : PhaseReader) (phase : SessionPhase) :
    (host vault).answer (.phase reader) world phase = some after ↔
      (world.holder = none ∧ phase = world.session.phase) ∧ world = after :=
  ite_some_none_eq_some

theorem environment_clock {world next : World} {e : EnvironmentStep}
    (h : world.environment e = some next) : world.clock ≤ next.clock := by
  cases e with
  | tick elapsed =>
    obtain rfl := some.inj h
    exact Nat.le_add_right _ _
  | cancel | contact => exact (some.inj h) ▸ le_rfl
  | beginRenewal stale | endRenewal answer | dropRenewal | close =>
    simp only [environment, ite_none_right_eq_some, some.injEq] at h
    exact h.2 ▸ le_rfl

theorem answer_clock {op : Op vault} {world next : World} {answer : op.Answer}
    (h : (host vault).answer op world answer = some next) : next.clock = world.clock := by
  cases op with
  | resolve | generatePassword | start | getCipher | putCipher | reportSuccess | reportFailure =>
    exact (some.inj h) ▸ rfl
  | finish step context =>
    cases step with
    | rotate =>
      simp only [host, World.answer, ite_none_right_eq_some, some.injEq] at h
      exact h.2 ▸ rfl
    | verify | terminateSessions => exact (some.inj h) ▸ rfl
  | _ =>
    simp only [host, World.answer, ite_none_right_eq_some, some.injEq] at h
    exact h.2 ▸ rfl

/-! ## The gate -/

/-- The session is active and the last contact with the server is recent. -/
structure Connected (offlineGrace : Duration) (world : World) : Prop where
  active : world.session.phase = .active
  recent : world.clock - world.lastOk ≤ offlineGrace

/-- A property of the world that holds wherever the lease is found running and the run not
cancelled, and that the wait of the gate for the session's mutex keeps. -/
structure GateRules (rely : Rely vault) (executeBy : Instant) (inside : World → Prop) : Prop where
  lease : ∀ op world history answer, rely.answer op world history answer →
    world.clock < executeBy → world.cancelled = false → inside world
  wait : ∀ world e next, world.environment e = some next →
    rely.environment (.phase .gate) world e → inside world → inside next

/-- Target-side steps start in connected worlds with a property. -/
def StartsIn (inside : World → Prop) (offlineGrace : Duration) : Guarantee vault :=
  fun op world _ _ => ∀ step, op = .start step → inside world ∧ Connected offlineGrace world

section Gate

variable {rely : Rely vault} {inside : World → Prop} {offlineGrace : Duration} {gate : Gate}

theorem startsIn_of_ne {op : Op vault} (h : ∀ step, op ≠ .start step) (world : World)
    (history : History vault) (answer : op.Answer) :
    StartsIn inside offlineGrace op world history answer :=
  fun step hstart => absurd hstart (h step)

theorem startsIn_of_isLocal (op : Op vault) (h : op.isLocal = true) (world : World)
    (history : History vault) (answer : op.Answer) :
    StartsIn inside offlineGrace op world history answer := by
  refine startsIn_of_ne ?_ world history answer
  rintro step rfl
  cases h

theorem leaseOrCancel_holds (hrules : GateRules rely gate.executeBy inside) (world : World)
    (history : History vault) :
    Holds (host vault) rely (StartsIn inside offlineGrace)
      (ExceptPost (fun _ world _ => inside world) fun _ _ _ => True)
      (leaseOrCancel gate.executeBy) world history := by
  refine holds_immediate rfl ?_
  intro now after hnow hrely
  obtain ⟨rfl, rfl⟩ := (answer_now _ _ _).mp hnow
  refine ⟨startsIn_of_isLocal _ rfl _ _ _, ?_⟩
  by_cases hlease : gate.executeBy ≤ world.clock
  · rw [if_pos hlease]
    trivial
  rw [if_neg hlease]
  refine holds_immediate rfl ?_
  intro cancelled after hcancelled _
  obtain ⟨rfl, rfl⟩ := (answer_isCancelled _ _ _).mp hcancelled
  refine ⟨startsIn_of_isLocal _ rfl _ _ _, ?_⟩
  cases hworld : world.cancelled with
  | true => trivial
  | false => exact hrules.lease _ _ _ _ hrely (Nat.lt_of_not_le hlease) hworld

theorem offlineFor_holds (world : World) (history : History vault) :
    Holds (host vault) rely (StartsIn inside offlineGrace)
      (fun offline after _ => offline = world.clock - world.lastOk ∧ after = world)
      offlineFor world history := by
  refine holds_immediate rfl ?_
  intro lastOk after hlastOk _
  obtain ⟨rfl, rfl⟩ := (answer_lastOk _ _ _).mp hlastOk
  refine ⟨startsIn_of_isLocal _ rfl _ _ _, holds_immediate rfl ?_⟩
  intro now after hnow _
  obtain ⟨rfl, rfl⟩ := (answer_now _ _ _).mp hnow
  exact ⟨startsIn_of_isLocal _ rfl _ _ _, rfl, rfl⟩

abbrev GateHolds (rely : Rely vault) (inside : World → Prop) (offlineGrace : Duration)
    (program : Task vault (Except AbortReason Unit)) : World → History vault → Prop :=
  Holds (host vault) rely (StartsIn inside offlineGrace)
    (ExceptPost (fun _ world _ => inside world ∧ Connected offlineGrace world) fun _ _ _ => True)
    program

/-- A gate that has read the phase says yes at once, or takes another pass. -/
theorem forPhase_holds {again : Task vault (Except AbortReason Unit)} {world : World}
    (hworld : inside world)
    (hagain : ∀ world history, GateHolds rely inside gate.offlineGrace again world history)
    (rounds : ℕ) (history : History vault) :
    GateHolds rely inside gate.offlineGrace (gate.forPhase rounds world.session.phase again)
      world history := by
  cases hphase : world.session.phase with
  | revoked | closed => trivial
  | expired | authenticating =>
    refine (holds_of_uses_of_forall startsIn_of_isLocal
      (renewFrom_uses (fun _ h => h) _ _ _ _ _) ?_ _ _).bind
    rintro ((reason | message) | bearer) after history
    · trivial
    · trivial
    · exact hagain after history
  | active =>
    refine ((offlineFor_holds world history).mono ?_).bind
    rintro _ after history ⟨rfl, rfl⟩
    split
    · have hconnected : Holds (host vault) rely (StartsIn inside gate.offlineGrace)
          (ExceptPost (fun _ _ _ => True) fun _ _ _ => True)
          (waitForConnectivity gate rounds) after history :=
        holds_of_uses_of_forall startsIn_of_isLocal
          (waitForConnectivity_uses (fun _ h => h) _ _)
          (exceptPost_of_forall (fun _ _ _ => trivial) fun _ _ _ => trivial) _ _
      exact hconnected.andThen fun _ after history _ => hagain after history
    · rename_i hrecent
      exact ⟨hworld, hphase, Nat.le_of_not_lt hrecent⟩

/-- The gate says yes only to a connected session, under the property that its rules give. -/
theorem checkFrom_holds (gate : Gate) (hrules : GateRules rely gate.executeBy inside)
    (rounds passes : ℕ) (world : World) (history : History vault) :
    GateHolds rely inside gate.offlineGrace (gate.checkFrom rounds passes) world history := by
  induction passes generalizing world history with
  | zero => trivial
  | succ passes ih =>
    refine (leaseOrCancel_holds hrules world history).andThen ?_
    intro _ world history hstart
    refine holds_perform ?_
    intro current hcurrent phase after hphase _
    obtain ⟨⟨-, rfl⟩, rfl⟩ := (answer_phase _ _ _ _).mp hphase
    exact ⟨startsIn_of_isLocal _ rfl _ _ _,
      forPhase_holds (hcurrent.invariant inside hrules.wait hstart) ih rounds _⟩

end Gate

/-! ## The pipeline -/

section

variable {rely : Rely vault} {inside : World → Prop} (attempt : Attempt)

/-- Everything the attempt does, up to its result, with target-side steps that start as they
should. -/
abbrev StepsHold {α : Type} (rely : Rely vault) (inside : World → Prop) (attempt : Attempt)
    (program : Task vault α) (world : World) (history : History vault) : Prop :=
  Holds (host vault) rely (StartsIn inside attempt.ctx.offlineGrace) (fun _ _ _ => True) program
    world history

theorem stepsHold_of_uses {α : Type} {program : Task vault α}
    (h : program.Uses fun op => ∀ step, op ≠ .start step) (world : World)
    (history : History vault) : StepsHold rely inside attempt program world history :=
  holds_of_uses_of_forall (fun _ hop => startsIn_of_ne hop) h (fun _ _ _ => trivial) world history

theorem StepsHold.andThen {α β ε : Type} {program : Task vault (Except ε α)}
    {next : α → Task vault (Except ε β)} {attempt : Attempt} {world : World}
    {history : History vault}
    (h : StepsHold rely inside attempt program world history)
    (hnext : ∀ value world history,
      StepsHold rely inside attempt (next value) world history) :
    StepsHold rely inside attempt (program.andThen next) world history := by
  refine (h.mono ?_).bind
  rintro (e | value) world history -
  · trivial
  · exact hnext value world history

theorem ne_start_of_isLocal (op : Op vault) (h : op.isLocal = true) (step : TargetStep) :
    op ≠ .start step := by
  rintro rfl
  cases h

theorem callTarget_holds {world : World} (step : TargetStep) (context : RotateContext)
    (hworld : inside world ∧ Connected attempt.ctx.offlineGrace world)
    (history : History vault) :
    StepsHold rely inside attempt (Attempt.callTarget step context) world history := by
  refine holds_immediate rfl ?_
  intro _ after _ _
  refine ⟨fun _ _ => hworld, holds_perform ?_⟩
  intro current _ answer last _ _
  exact ⟨startsIn_of_ne (fun _ h => by cases h) _ _ _, trivial⟩

variable {attempt} (hrules : GateRules rely attempt.executeBy inside)
include hrules

variable (context : RotateContext)

theorem runTargetStep_holds (step : TargetStep) (world : World) (history : History vault) :
    StepsHold rely inside attempt (attempt.runTargetStep context step) world history := by
  refine retryFrom_holds (fun _ _ _ => True)
    (fun _ world _ => inside world ∧ Connected attempt.ctx.offlineGrace world) ?_ ?_ ?_ _ _ _
    trivial
  · intro left world history _
    refine (checkFrom_holds attempt.gate hrules _ _ world history).mono ?_
    rintro (abort | _) world history hresult
    · trivial
    · exact hresult
  · intro left world history hready
    refine (callTarget_holds attempt step context hready history).mono ?_
    intro result world history _
    exact tryPost_of_forall _ _ (fun _ _ _ => trivial) (fun _ _ _ => trivial) left result world
      history
  · intro left duration world history _
    exact stepsHold_of_uses attempt (sleep_uses ne_start_of_isLocal duration) world history

theorem runRequiredStep_holds (step : TargetStep) (world : World) (history : History vault) :
    StepsHold rely inside attempt (attempt.runRequiredStep context step) world history := by
  refine ((runTargetStep_holds hrules context step world history).mono ?_).bind
  rintro (_ | reason | e) world history -
  all_goals trivial

variable (world : World) (history : History vault)

theorem terminateSessions_holds :
    StepsHold rely inside attempt (attempt.terminateSessions context) world history := by
  unfold Attempt.terminateSessions
  split
  · refine ((runTargetStep_holds hrules context .terminateSessions world history).mono ?_).bind
    rintro (_ | reason | e) world history -
    · trivial
    · cases reason <;> trivial
    · trivial
  · trivial

theorem runTarget_holds :
    StepsHold rely inside attempt (attempt.runTarget context) world history := by
  refine StepsHold.andThen (runRequiredStep_holds hrules context .rotate world history) ?_
  intro _ world history
  refine StepsHold.andThen (runRequiredStep_holds hrules context .verify world history) ?_
  intro _ world history
  have hwrite : (attempt.writeCipher context.newPassword : Task vault _).Uses
      fun op => ∀ step, op ≠ .start step :=
    writeCipher_uses ne_start_of_isLocal attempt (fun _ h => by cases h) (fun _ _ h => by cases h)
      context.newPassword
  refine StepsHold.andThen (stepsHold_of_uses attempt hwrite world history) ?_
  intro _ world history
  refine StepsHold.andThen (terminateSessions_holds hrules context world history) ?_
  intro termination world history
  exact stepsHold_of_uses attempt
    (reportSuccess_uses ne_start_of_isLocal attempt termination fun _ h => by cases h) world history

theorem run_holds : StepsHold rely inside attempt attempt.run world history := by
  refine run_holds_of_target (fun _ => True) ?_ (fun _ _ _ _ => trivial) attempt
    (fun _ _ _ _ _ => trivial) (fun context world history _ =>
      runTarget_holds hrules context world history) trivial
  intro op hop world history answer
  refine startsIn_of_ne ?_ world history answer
  rintro step rfl
  cases hop

end

theorem execute_holds {rely : Rely vault} {inside : World → Prop} (job : VerifiedJob)
    (ctx : ExecutionContext) (rounds : ℕ)
    (hrules : ∀ start : Instant, GateRules (rely.under fun world => start ≤ world.clock)
      (start + min (job.executeBy - start) maxLease) inside)
    (world : World) (history : History vault) :
    Holds (host vault) rely (StartsIn inside ctx.offlineGrace) (fun _ _ _ => True)
      (execute job ctx rounds) world history := by
  refine Holds.bind (holds_immediate rfl ?_)
  intro now after hnow _
  obtain ⟨rfl, rfl⟩ := (answer_now _ _ _).mp hnow
  suffices hrun : Holds (host vault) rely (StartsIn inside ctx.offlineGrace) (fun _ _ _ => True)
      (do
        let result ← Attempt.run
          ⟨job, ctx, world.clock + min (job.executeBy - world.clock) maxLease, rounds⟩
        conclude job result) world (history ++ [⟨.now, world.clock⟩]) from
    ⟨startsIn_of_isLocal _ rfl _ _ _, hrun⟩
  -- the clock never goes back behind the start of the attempt
  refine Holds.of_under (fun later => world.clock ≤ later.clock)
    (fun _ _ _ hstep hle => hle.trans (environment_clock hstep))
    (fun _ _ _ _ hanswer hle => (answer_clock hanswer).symm ▸ hle) ?_ le_rfl
  refine Holds.bind
    ((@run_holds vault _ inside ⟨job, ctx, _, rounds⟩ (hrules world.clock) world _).mono ?_)
  intro result world history _
  have hconclude : (conclude job result : Task vault _).Uses
      fun op => ∀ step, op ≠ .start step := by
    rcases result with (⟨code, detail, sync⟩ | reason) | _
    · refine ⟨?_, fun _ => trivial⟩
      rintro step ⟨⟩
    · trivial
    · trivial
  exact holds_of_uses_of_forall (fun _ hop => startsIn_of_ne hop) hconclude (fun _ _ _ => trivial)
    world history

/-! ## Runs -/

def Within (executeBy : Instant) (world : World) : Prop :=
  world.clock < executeBy ∧ world.cancelled = false

/-- While a gate waits for the session's mutex, the deadline does not pass and the run is not
cancelled. -/
def gateUndisturbed (executeBy : Instant) : Rely vault where
  environment op world e :=
    op = .phase .gate →
      match e with
      | .tick elapsed => world.clock + elapsed < executeBy
      | .cancel => False
      | _ => True
  answer _ _ _ _ := True

theorem lt_of_lt_lease {clock start executeBy : ℕ} (hstart : start ≤ clock)
    (h : clock < start + min (executeBy - start) maxLease) : clock < executeBy := by
  omega

theorem gateRules_undisturbed (executeBy start : Instant) :
    GateRules ((gateUndisturbed executeBy : Rely vault).under fun world => start ≤ world.clock)
      (start + min (executeBy - start) maxLease) (Within executeBy) where
  lease _ _ _ _ hrely hclock hcancelled := ⟨lt_of_lt_lease hrely.2 hclock, hcancelled⟩
  wait world e next hnext hrely hwithin := by
    have hundisturbed := hrely.1 rfl
    cases e with
    | tick elapsed => exact some.inj hnext ▸ ⟨hundisturbed, hwithin.2⟩
    | cancel => exact hundisturbed.elim
    | contact => exact some.inj hnext ▸ hwithin
    | beginRenewal stale | endRenewal answer | dropRenewal | close =>
      simp only [environment, ite_none_right_eq_some, some.injEq] at hnext
      exact hnext.2 ▸ hwithin

variable (job : VerifiedJob) (ctx : ExecutionContext) (rounds : ℕ) (world : World)
  {labels : List (HostLabel (Op vault) Op.Answer EnvironmentStep)}
  {last : Process (Op vault) Op.Answer World ExecutionResult}

/-- In a run in which no wait of a gate for the session's mutex outlasts the deadline or meets a
cancellation, every target-side step starts within the lease, with the run not cancelled, the
session active and a recent contact. -/
theorem steps_start_within_lease
    (hrun : run (host vault).step (attemptIn world job ctx rounds) labels = some last)
    (hundisturbed : Meets (host vault).step (gateUndisturbed job.executeBy : Rely vault).Step
      (attemptIn world job ctx rounds) labels) :
    Meets (host vault).step (fun process label => ∀ step, label = .answer (.start step) () →
      Within job.executeBy process.world ∧ Connected ctx.offlineGrace process.world)
      (attemptIn world job ctx rounds) labels := by
  have hholds : Holds (host vault) (gateUndisturbed job.executeBy)
      (StartsIn (Within job.executeBy) ctx.offlineGrace) (fun _ _ _ => True)
      (execute job ctx rounds) world [] :=
    execute_holds job ctx rounds (gateRules_undisturbed job.executeBy) world []
  refine (run_safe hholds hundisturbed hrun).1.mono _ ?_
  rintro process label hstarts step rfl
  exact hstarts step rfl

instance (executeBy : Instant) (process : Process (Op vault) Op.Answer World ExecutionResult)
    (label : HostLabel (Op vault) Op.Answer EnvironmentStep) :
    Decidable ((gateUndisturbed executeBy : Rely vault).Step process label) :=
  match label with
  | .answer _ _ => .isTrue trivial
  | .environment e =>
    match hprogram : process.program with
    | .call op _ =>
      match e with
      | .tick elapsed =>
        decidable_of_iff (op = .phase .gate → process.world.clock + elapsed < executeBy)
          (by simp [Contract.Step, gateUndisturbed, hprogram])
      | .cancel =>
        decidable_of_iff (op ≠ .phase .gate) (by simp [Contract.Step, gateUndisturbed, hprogram])
      | .contact | .beginRenewal _ | .endRenewal _ | .dropRenewal | .close =>
        .isTrue (by simp [Contract.Step, gateUndisturbed, hprogram])
    | .done _ | .suspended => .isTrue (by simp [Contract.Step, hprogram])

/-- The gate waits for a renewal that takes five seconds. -/
def promptRotation : List (HostLabel (Op sampleVault) Op.Answer EnvironmentStep) :=
  samplePreparation ++
    [ .answer .now (0 : ℕ),
      .answer .isCancelled false,
      .environment (.beginRenewal none),
      .environment (.tick (seconds 5)),
      .environment (.endRenewal (.ok ⟨"renewed", 3600, 4, .ok []⟩)),
      .answer (.phase .gate) .active,
      .answer .lastOk (0 : ℕ),
      .answer .now (5000 : ℕ),
      .answer (.start .rotate) () ]

theorem promptRotation_starts_within_lease :
    (run (host sampleVault).step (attemptIn sampleWorld sampleJob sampleContext 3)
      promptRotation).isSome = true ∧
    Meets (host sampleVault).step (fun process label => ∀ step, label = .answer (.start step) () →
      Within sampleJob.executeBy process.world ∧
        Connected sampleContext.offlineGrace process.world)
      (attemptIn sampleWorld sampleJob sampleContext 3) promptRotation := by
  have hsome : (run (host sampleVault).step (attemptIn sampleWorld sampleJob sampleContext 3)
      promptRotation).isSome = true := by
    decide +kernel
  refine ⟨hsome, steps_start_within_lease sampleJob sampleContext 3 sampleWorld
    (some_get hsome).symm ?_⟩
  decide +kernel

/-- The gate finds the lease running, waits for a renewal that takes twenty seconds, is cancelled
meanwhile, and then finds the session active. -/
def lateRotation : List (HostLabel (Op sampleVault) Op.Answer EnvironmentStep) :=
  samplePreparation ++
    [ .answer .now (0 : ℕ),
      .answer .isCancelled false,
      .environment (.beginRenewal none),
      .environment (.tick (seconds 20)),
      .environment .cancel,
      .environment (.endRenewal (.ok ⟨"renewed", 3600, 4, .ok []⟩)),
      .answer (.phase .gate) .active,
      .answer .lastOk (0 : ℕ),
      .answer .now (20000 : ℕ) ]

/-- A rotate call that starts ten seconds after the deadline, in a cancelled run. -/
theorem rotate_starts_after_lease :
    ((run (host sampleVault).step (attemptIn sampleWorld sampleJob sampleContext 3)
        lateRotation).map fun process =>
      (process.world.clock, process.world.cancelled,
        ((host sampleVault).step process (.answer (.start .rotate) ())).isSome)) =
      some (20000, true, true) ∧ sampleJob.executeBy = 10000 := by
  decide +kernel

end SdkInternal.AccessConnector
