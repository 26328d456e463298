import SdkInternal.Model.AccessConnector.Rotation

/-! # The parts of an attempt

The operations that each part uses, and the rule of the retry loop. -/

namespace SdkInternal.AccessConnector

open Shared Program.Returns Attempt

variable {vault : Vault} {ε τ κ : Type}

def Op.isLocal : Op vault → Bool
  | .now | .isCancelled | .lastOk | .sleepUntil _ | .sleepOrCancelled _ | .phase _
  | .beginRenewal _ | .authenticate | .finishRenewal _ => true
  | _ => false

section Uses

variable {allowed : Op vault → Prop}

theorem uses_ask {op : Op vault} (h : allowed op) : (ask op).Uses allowed :=
  ⟨h, fun _ => trivial⟩

theorem uses_ask_return {op : Op vault} (h : allowed op) (f : op.Answer → τ) :
    Program.Uses allowed (do return f (← ask op) : Task vault τ) :=
  (uses_ask h).bind fun _ => trivial

variable (hlocal : ∀ op : Op vault, op.isLocal = true → allowed op)
include hlocal

theorem sleep_uses (duration : Duration) : (sleep duration).Uses allowed :=
  (uses_ask (hlocal _ rfl)).bind fun _ => uses_ask (hlocal _ rfl)

theorem capToDeadline_uses (delay : Duration) (deadline : Option Instant) :
    (capToDeadline delay deadline).Uses allowed := by
  cases deadline with
  | none => trivial
  | some deadline => exact (uses_ask (hlocal _ rfl)).bind fun _ => trivial

variable {op : Task vault (Except (Retry × ε) τ)}

theorem retryFrom_uses {gate : Task vault (Except κ Unit)} (hgate : gate.Uses allowed)
    (hop : op.Uses allowed) (base : Duration) (deadline : Option Instant) (left attempt : ℕ) :
    (retryFrom base deadline gate op left attempt).Uses allowed := by
  have htry : ∀ transient : ε → Task vault (GatedOutcome τ ε κ),
      (∀ e, (transient e).Uses allowed) → (tryGated gate op transient).Uses allowed := by
    intro transient htransient
    refine hgate.bind ?_
    rintro (abort | ⟨⟩)
    · trivial
    refine hop.bind ?_
    rintro (⟨retry, e⟩ | value)
    · cases retry with
      | transient => exact htransient e
      | permanent => trivial
    · trivial
  induction left generalizing attempt with
  | zero => exact htry _ fun _ => trivial
  | succ left ih =>
    refine htry _ ?_
    intro e
    refine (capToDeadline_uses hlocal _ deadline).bind ?_
    rintro (_ | duration)
    · trivial
    · exact (sleep_uses hlocal duration).bind fun _ => ih (attempt + 1)

theorem withRetries_uses (hop : op.Uses allowed) (cfg : RetryCfg) (deadline : Option Instant) :
    (withRetries cfg deadline op).Uses allowed := by
  have hgate : (return .ok () : Task vault (Except Empty Unit)).Uses allowed := trivial
  refine (retryFrom_uses hlocal hgate hop _ deadline _ 0).bind ?_
  rintro (value | never | e)
  · trivial
  · exact never.elim
  · trivial

theorem renewFrom_uses (deadline : Option Instant) (stale : Option String) (rounds : ℕ)
    (delay : Duration) (tries : ℕ) :
    (renewFrom deadline stale rounds delay tries).Uses allowed := by
  induction rounds generalizing delay tries with
  | zero => trivial
  | succ rounds ih =>
    refine (uses_ask (hlocal _ rfl)).bind ?_
    rintro (result | _)
    · trivial
    refine (uses_ask (hlocal _ rfl)).bind fun answer => ?_
    refine (uses_ask (hlocal _ rfl)).bind ?_
    rintro (result | message)
    · trivial
    have hdelay : (renewalDelay deadline delay (tries + 1) message).Uses allowed := by
      cases deadline with
      | none =>
        simp only [renewalDelay]
        split <;> trivial
      | some deadline =>
        refine (uses_ask (hlocal _ rfl)).bind fun now => ?_
        split <;> trivial
    refine hdelay.bind ?_
    rintro (e | duration)
    · trivial
    · exact (sleep_uses hlocal duration).bind fun _ => ih _ _

theorem leaseOrCancel_uses (executeBy : Instant) : (leaseOrCancel executeBy).Uses allowed := by
  refine (uses_ask (hlocal _ rfl)).bind fun now => ?_
  split
  · trivial
  · refine (uses_ask (hlocal _ rfl)).bind fun cancelled => ?_
    cases cancelled <;> trivial

theorem offlineFor_uses : (offlineFor : Task vault Duration).Uses allowed :=
  (uses_ask (hlocal _ rfl)).bind fun _ => (uses_ask (hlocal _ rfl)).bind fun _ => trivial

variable (gate : Gate)

theorem waitForConnectivity_uses (rounds : ℕ) : (waitForConnectivity gate rounds).Uses allowed := by
  induction rounds with
  | zero => trivial
  | succ rounds ih =>
    refine (leaseOrCancel_uses hlocal _).andThen fun _ => ?_
    refine (offlineFor_uses hlocal).bind fun offline => ?_
    split
    · trivial
    refine (uses_ask (hlocal _ rfl)).bind fun now => ?_
    simp only
    split
    · trivial
    refine (uses_ask (hlocal _ rfl)).bind fun now => ?_
    refine (uses_ask (hlocal _ rfl)).bind fun cancelled => ?_
    cases cancelled with
    | true => trivial
    | false => exact ih

theorem forPhase_uses (rounds : ℕ) (phase : SessionPhase)
    {again : Task vault (Except AbortReason Unit)} (hagain : again.Uses allowed) :
    (gate.forPhase rounds phase again).Uses allowed := by
  have hrenew : ∀ phase, phase = .expired ∨ phase = .authenticating →
      (gate.forPhase rounds phase again).Uses allowed := by
    rintro _ (rfl | rfl) <;>
    · refine (renewFrom_uses hlocal _ _ _ _ _).bind ?_
      rintro ((reason | message) | bearer)
      · trivial
      · trivial
      · exact hagain
  cases phase with
  | revoked | closed => trivial
  | expired => exact hrenew _ (.inl rfl)
  | authenticating => exact hrenew _ (.inr rfl)
  | active =>
    refine (offlineFor_uses hlocal).bind fun offline => ?_
    split
    · exact (waitForConnectivity_uses hlocal gate rounds).andThen fun _ => hagain
    · trivial

theorem check_uses (rounds passes : ℕ) :
    (gate.checkFrom rounds passes : Task vault (Except AbortReason Unit)).Uses allowed := by
  induction passes with
  | zero => trivial
  | succ passes ih =>
    refine (leaseOrCancel_uses hlocal _).andThen fun _ => ?_
    exact (uses_ask (hlocal _ rfl)).bind fun phase => forPhase_uses hlocal gate rounds phase ih

variable (attempt : Attempt) (context : RotateContext) (step : TargetStep)

theorem runTargetStep_uses (hstart : allowed (.start step))
    (hfinish : allowed (.finish step context)) :
    (attempt.runTargetStep context step).Uses allowed := by
  refine retryFrom_uses hlocal (check_uses hlocal _ _ _) ?_ _ _ _ _
  exact (uses_ask hstart).bind fun _ => uses_ask_return hfinish _

theorem runRequiredStep_uses (hstart : allowed (.start step))
    (hfinish : allowed (.finish step context)) :
    (attempt.runRequiredStep context step).Uses allowed := by
  refine (runTargetStep_uses hlocal attempt context step hstart hfinish).bind ?_
  rintro (_ | reason | e)
  all_goals trivial

theorem terminateSessions_uses (hstart : allowed (.start .terminateSessions))
    (hfinish : allowed (.finish .terminateSessions context)) :
    (attempt.terminateSessions context).Uses allowed := by
  unfold terminateSessions
  split
  · refine (runTargetStep_uses hlocal attempt context _ hstart hfinish).bind ?_
    rintro (_ | reason | e)
    · trivial
    · cases reason <;> trivial
    · trivial
  · trivial

/-! ## The vault and the reports -/

section

variable (hget : allowed (.getCipher attempt.job.attemptId))

include hget

theorem fetchCipher_uses : attempt.fetchCipher.Uses allowed :=
  withRetries_uses hlocal (uses_ask_return hget _) _ _

theorem fetchCheckedCipher_uses (stage : Stage) :
    (attempt.fetchCheckedCipher stage).Uses allowed := by
  refine (fetchCipher_uses hlocal attempt hget).bind ?_
  rintro (e | cipher)
  · trivial
  · simp only
    split <;> trivial

theorem preFlight_uses : attempt.preFlight.Uses allowed :=
  (fetchCheckedCipher_uses hlocal attempt hget _).andThen fun _ => trivial

end

omit hlocal in
theorem resolveCredentials_uses
    (hresolve : allowed (.resolve attempt.job.targetSystemId attempt.job.kind)) :
    attempt.resolveCredentials.Uses allowed :=
  uses_ask_return hresolve _

omit hlocal in
theorem generatePassword_uses (hgenerate : ∀ request, allowed (.generatePassword request)) :
    attempt.generatePassword.Uses allowed := by
  unfold generatePassword
  split
  · trivial
  · exact uses_ask_return (hgenerate _) _

theorem writeCipher_uses (hget : allowed (.getCipher attempt.job.attemptId))
    (hput : ∀ request, allowed (.putCipher attempt.job.attemptId request))
    (newPassword : String) : (attempt.writeCipher newPassword).Uses allowed := by
  refine (fetchCheckedCipher_uses hlocal attempt hget _).andThen fun cipher => ?_
  split
  case h_1 => trivial
  rename_i request _
  have hputCipher : (attempt.putCipher request).Uses allowed :=
    withRetries_uses hlocal (uses_ask_return (hput request) _) _ _
  refine hputCipher.bind ?_
  intro result
  split
  case h_1 => trivial
  case h_3 => trivial
  have hlanded : (attempt.cipherWriteLanded newPassword).Uses allowed := by
    refine (fetchCipher_uses hlocal attempt hget).bind ?_
    rintro (e | cipher)
    · simp only
      split <;> trivial
    · trivial
  refine hlanded.bind ?_
  rintro (reason | landed)
  · trivial
  · cases landed <;> trivial

theorem reportSuccess_uses (termination : SessionTerminationOutcome)
    (hreport : allowed (.reportSuccess attempt.job.attemptId termination)) :
    (attempt.reportSuccess termination).Uses allowed := by
  refine (withRetries_uses hlocal (uses_ask_return hreport _) _ _).bind ?_
  intro result
  split <;> trivial

end Uses

/-! ## Tries -/

abbrev History (vault : Vault) := List (Event (Op vault) Op.Answer)

abbrev Post (vault : Vault) (α : Type) := α → World → History vault → Prop

abbrev Rely (vault : Vault) := Contract (Op vault) Op.Answer EnvironmentStep World

abbrev Guarantee (vault : Vault) :=
  (op : Op vault) → World → History vault → op.Answer → Prop

section Tries

variable (post : Post vault (GatedOutcome τ ε κ)) (before ready : Post vault ℕ)

/-- A gate that admits a try makes it ready. -/
def GatePost (left : ℕ) : Post vault (Except κ Unit) :=
  ExceptPost (fun _ => ready left) fun abort => post (.aborted abort)

/-- A transient failure is the outcome of the last try, and comes before the next one. -/
def TransientPost (e : ε) : Post vault ℕ
  | 0 => post (.failed e)
  | left + 1 => before left

def TryPost (left : ℕ) : Post vault (Except (Retry × ε) τ)
  | .ok value => post (.ok value)
  | .error (.permanent, e) => post (.failed e)
  | .error (.transient, e) => TransientPost post before e left

theorem tryPost_of_forall (hpost : ∀ outcome world history, post outcome world history)
    (hbefore : ∀ left world history, before left world history) (left : ℕ)
    (result : Except (Retry × ε) τ) (world : World) (history : History vault) :
    TryPost post before left result world history := by
  rcases result with ⟨retry, e⟩ | value
  · cases retry with
    | permanent => exact hpost _ world history
    | transient =>
      cases left with
      | zero => exact hpost _ world history
      | succ left => exact hbefore left world history
  · exact hpost _ world history

variable {post before ready} {rely : Rely vault} {guarantee : Guarantee vault}
  {gate : Task vault (Except κ Unit)} {op : Task vault (Except (Retry × ε) τ)}
  {history : History vault}

theorem tryGated_holds {left : ℕ} {transient : ε → Task vault (GatedOutcome τ ε κ)}
    {world : World}
    (hgate : Holds (host vault) rely guarantee (GatePost post ready left) gate world history)
    (hop : ∀ world history, ready left world history →
      Holds (host vault) rely guarantee (TryPost post before left) op world history)
    (htransient : ∀ e world history, TransientPost post before e left world history →
      Holds (host vault) rely guarantee post (transient e) world history) :
    Holds (host vault) rely guarantee post (tryGated gate op transient) world history := by
  refine (hgate.mono ?_).bind
  rintro (abort | ⟨⟩) world history hready
  · exact hready
  refine ((hop world history hready).mono ?_).bind
  rintro (⟨retry, e⟩ | value) world history hresult
  · cases retry with
    | transient => exact htransient e world history hresult
    | permanent => exact hresult
  · exact hresult

variable (before ready) in
/-- A property of the tries that are left carries the retry loop. -/
theorem retryFrom_holds
    (hgate : ∀ left world history, before left world history →
      Holds (host vault) rely guarantee (GatePost post ready left) gate world history)
    (hop : ∀ left world history, ready left world history →
      Holds (host vault) rely guarantee (TryPost post before left) op world history)
    (hsleep : ∀ left duration world history, before left world history →
      Holds (host vault) rely guarantee (fun _ => before left) (sleep duration) world history)
    (base : Duration) (left attempt : ℕ) {world : World} (h : before left world history) :
    Holds (host vault) rely guarantee post (retryFrom base none gate op left attempt) world
      history := by
  induction left generalizing attempt world history with
  | zero =>
    exact tryGated_holds (hgate 0 world history h) (hop 0) fun _ _ _ hfailed => hfailed
  | succ left ih =>
    refine tryGated_holds (hgate (left + 1) world history h) (hop (left + 1)) ?_
    intro e world history hnext
    exact ((hsleep left _ world history hnext).mono fun _ _ _ hbefore =>
      ih (attempt + 1) hbefore).bind

end Tries

/-! ## Halts -/

def Halt.Syncs (sync : RotationSyncState) : Halt → Prop
  | .report _ _ reported => reported = sync
  | .abort _ => True

def HaltsWith (sync : RotationSyncState) : Except Halt τ → Prop
  | .ok _ => True
  | .error halt => halt.Syncs sync

theorem haltFromApi_syncs (e : ApiError) (sync : RotationSyncState) :
    (haltFromApi e sync).Syncs sync := by
  unfold haltFromApi
  split
  · trivial
  · rfl

theorem cipherHalt_syncs (e : RotationCipherError) (stage : Stage) :
    (cipherHalt e stage).Syncs stage.sync := by
  cases e <;> cases stage <;> rfl

theorem haltsWith_andThen {sync : RotationSyncState} {program : Task vault (Except Halt ε)}
    {next : ε → Task vault (Except Halt τ)} (h : program.Returns (HaltsWith sync))
    (hnext : ∀ value, (next value).Returns (HaltsWith sync)) :
    (program.andThen next).Returns (HaltsWith sync) :=
  h.andThen (fun _ halt => halt) hnext

section Halts

variable (attempt : Attempt)

theorem checkSessionLive_returns :
    (checkSessionLive : Task vault _).Returns (HaltsWith .targetUnchanged) := by
  refine bind ?_ _
  intro phase
  split
  · rfl
  · trivial

theorem fetchCheckedCipher_returns (stage : Stage) :
    (attempt.fetchCheckedCipher stage : Task vault _).Returns (HaltsWith stage.sync) := by
  refine bind ?_ _
  rintro (e | cipher)
  · exact haltFromApi_syncs e stage.sync
  · simp only
    split
    · trivial
    · rfl

theorem rotateCipher_haltsWith (cipher : vault.Cipher) (newPassword : String) (stage : Stage) :
    HaltsWith stage.sync (attempt.rotateCipher cipher newPassword stage) := by
  unfold rotateCipher
  cases vault.rotateCipherPassword attempt.ctx.organizationId cipher newPassword with
  | ok request => trivial
  | error e => exact cipherHalt_syncs e stage

theorem preFlight_returns :
    (attempt.preFlight : Task vault _).Returns (HaltsWith .targetUnchanged) := by
  refine haltsWith_andThen (fetchCheckedCipher_returns attempt .preFlight) ?_
  intro cipher
  have hrotate := rotateCipher_haltsWith attempt cipher preFlightPlaceholderPassword .preFlight
  cases hresult : attempt.rotateCipher cipher preFlightPlaceholderPassword .preFlight with
  | ok request => trivial
  | error halt =>
    rw [hresult] at hrotate
    exact hrotate

theorem resolveCredentials_returns :
    (attempt.resolveCredentials : Task vault _).Returns (HaltsWith .targetUnchanged) := by
  refine bind ?_ _
  rintro (names | creds)
  · rfl
  · trivial

theorem generatePassword_returns :
    (attempt.generatePassword : Task vault _).Returns (HaltsWith .targetUnchanged) := by
  unfold generatePassword
  split
  · rfl
  · refine bind ?_ _
    rintro (e | password)
    · rfl
    · trivial

theorem lookUpIntegration_haltsWith : HaltsWith .targetUnchanged attempt.lookUpIntegration := by
  unfold lookUpIntegration
  split
  · trivial
  · rfl

theorem verify_returns (context : RotateContext) :
    (attempt.runRequiredStep context .verify : Task vault _).Returns
      (HaltsWith .targetUpdated) := by
  refine bind ?_ _
  rintro (_ | reason | e)
  · trivial
  · trivial
  · rfl

theorem writeCipher_returns (newPassword : String) :
    (attempt.writeCipher newPassword : Task vault _).Returns (HaltsWith .targetUpdated) := by
  refine haltsWith_andThen (fetchCheckedCipher_returns attempt .preWrite) ?_
  intro cipher
  have hrotate := rotateCipher_haltsWith attempt cipher newPassword .preWrite
  split
  · rename_i halt hresult
    rw [hresult] at hrotate
    exact hrotate
  refine bind ?_ _
  intro result
  split
  · trivial
  · refine bind ?_ _
    rintro (reason | landed)
    · trivial
    · cases landed
      · rfl
      · trivial
  · exact haltFromApi_syncs _ .targetUpdated

theorem terminateSessions_returns (sync : RotationSyncState) (context : RotateContext) :
    (attempt.terminateSessions context : Task vault _).Returns (HaltsWith sync) := by
  unfold terminateSessions
  split
  · refine bind ?_ _
    rintro (_ | reason | e)
    · trivial
    · cases reason <;> trivial
    · trivial
  · trivial

theorem reportSuccess_returns (sync : RotationSyncState)
    (termination : SessionTerminationOutcome) :
    (attempt.reportSuccess termination : Task vault _).Returns (HaltsWith sync) := by
  refine bind ?_ _
  intro result
  split <;> trivial

end Halts

/-! ## Preparation -/

def Op.isPreparatory : Op vault → Bool
  | .resolve _ _ | .generatePassword _ | .getCipher _ => true
  | op => op.isLocal

theorem isPreparatory_of_isLocal (op : Op vault) (h : op.isLocal = true) :
    op.isPreparatory = true := by
  cases op <;> first | rfl | cases h

section Preparation

variable {rely : Rely vault} {guarantee : Guarantee vault} {before : History vault → Prop}
  {world : World} {history : History vault}
  (hguarantee : ∀ op : Op vault, op.isPreparatory = true → ∀ world history answer,
    guarantee op world history answer)
  (hevent : ∀ history event, event.op.isPreparatory = true → before history →
    before (history ++ [event]))

include hguarantee hevent

/-- A part that only prepares keeps what its operations keep of the history. -/
theorem prepared_holds {program : Task vault (Except Halt τ)}
    (huses : program.Uses fun op => op.isPreparatory = true)
    (hreturns : program.Returns (HaltsWith .targetUnchanged)) (h : before history) :
    Holds (host vault) rely guarantee
      (fun result _ history => HaltsWith .targetUnchanged result ∧ before history) program world
      history := by
  have hevents : ∀ (events history : History vault), before history →
      (∀ event ∈ events, event.op.isPreparatory = true) → before (history ++ events) := by
    intro events
    induction events with
    | nil => exact fun history h _ => (List.append_nil history).symm ▸ h
    | cons event events ih =>
      intro history h hall
      rw [List.append_cons]
      exact ih _ (hevent history event (hall event List.mem_cons_self) h)
        fun later hlater => hall later (List.mem_cons_of_mem event hlater)
  refine ((holds_of_uses hguarantee huses world history).of_returns hreturns).mono ?_
  rintro result world after ⟨hhalts, events, rfl, hall⟩
  exact ⟨hhalts, hevents events history h hall⟩

variable (before) in
/-- The attempt prepares, halts with an unchanged target, or comes to its target-side steps. -/
theorem run_holds_of_target (attempt : Attempt) {post : Post vault (Except Halt Unit)}
    (hhalt : ∀ halt world history, Halt.Syncs .targetUnchanged halt → before history →
      post (.error halt) world history)
    (htarget : ∀ context world history, before history →
      Holds (host vault) rely guarantee post (attempt.runTarget context) world history)
    (h : before history) :
    Holds (host vault) rely guarantee post attempt.run world history := by
  have hlocal : ∀ op : Op vault, op.isLocal = true → op.isPreparatory = true :=
    isPreparatory_of_isLocal
  have hpart : ∀ {α : Type} {program : Task vault (Except Halt α)}
      {next : α → Task vault (Except Halt Unit)} {world history},
      (program.Uses fun op => op.isPreparatory = true) →
      program.Returns (HaltsWith .targetUnchanged) → before history →
      (∀ value world history, before history →
        Holds (host vault) rely guarantee post (next value) world history) →
      Holds (host vault) rely guarantee post (program.andThen next) world history := by
    intro α program next world history huses hreturns hbefore hnext
    refine ((prepared_holds hguarantee hevent huses hreturns hbefore).mono ?_).bind
    rintro (halt | value) world history ⟨hhalts, hkept⟩
    · exact hhalt halt world history hhalts hkept
    · exact hnext value world history hkept
  refine hpart (uses_ask_return (hlocal _ rfl) _) checkSessionLive_returns h ?_
  intro _ world history h
  refine hpart (preFlight_uses hlocal attempt rfl) (preFlight_returns attempt) h ?_
  intro _ world history h
  refine hpart (resolveCredentials_uses attempt rfl) (resolveCredentials_returns attempt) h ?_
  intro creds world history h
  refine hpart (generatePassword_uses attempt fun _ => rfl) (generatePassword_returns attempt) h ?_
  intro newPassword world history h
  refine holds_immediate rfl ?_
  intro rotationStartedAt after _ _
  refine ⟨hguarantee _ rfl _ _ _, ?_⟩
  have hkept := hevent history ⟨.now, rotationStartedAt⟩ rfl h
  have hlookup := lookUpIntegration_haltsWith attempt
  split
  · rename_i halt hresult
    rw [hresult] at hlookup
    exact hhalt halt _ _ hlookup hkept
  · exact htarget _ _ _ hkept

end Preparation

/-! ## A sample attempt -/

/-- A vault whose ciphers are their ids and hold one password, and whose requests are the new
password. -/
def sampleVault : Vault where
  Cipher := Uuid
  CipherRequest := String
  decidableEqRequest := inferInstance
  id := some
  rotateCipherPassword _ _ newPassword := .ok newPassword
  cipherHasPassword _ password := some (password = "password")

def sampleJob : VerifiedJob where
  attemptId := 1
  cipherId := 2
  targetSystemId := 3
  kind := .entra
  accountIdentity := "account"
  terminateSessions := false
  executeBy := seconds 10
  generatorRequest := some ⟨true, true, true, false, 14, false, none, none, none, none, none, none,
    none⟩

def sampleContext : ExecutionContext where
  integrations _ := true
  organizationId := 4
  retryCfg := ⟨5, seconds 1⟩
  offlineGrace := seconds 60

def sampleWorld : World where
  clock := 0
  cancelled := false
  lastOk := 0
  session := ⟨.active, some "bearer", some (seconds 200), [(4, [])], some 4⟩
  holder := none

/-- The attempt up to the gate of its rotate call. -/
def samplePreparation : List (HostLabel (Op sampleVault) Op.Answer EnvironmentStep) :=
  [ .answer .now (0 : ℕ),
    .answer (.phase .sessionCheck) .active,
    .answer (.getCipher 1) (.ok (2 : ℕ)),
    .answer (.resolve 3 .entra) (.ok []),
    .answer (.generatePassword ⟨true, true, true, false, 14, false, none, none, none, none, none,
      none, none⟩) (.ok "password"),
    .answer .now (0 : ℕ) ]

end SdkInternal.AccessConnector
