import SdkInternal.Model.AccessConnector.Operations

/-! # The rotation attempt

The retry loop, the renewal of the session, the gate before target-side steps, and the pipeline
of one attempt. Loops without a bound of their own are given a number of rounds, after which the
attempt is suspended. -/

namespace SdkInternal.AccessConnector

open Generators (PasswordGeneratorRequest)

variable {vault : Vault} {ε τ κ : Type}

abbrev ask (op : Op vault) : Task vault op.Answer := .perform op

def sleep (duration : Duration) : Task vault Unit := do
  let now ← ask .now
  ask (.sleepUntil (now + duration))

/-! ## Retries -/

structure RetryCfg where
  maxRetryAttempts : ℕ
  retryBaseDelay : Duration

inductive GatedOutcome (τ ε κ : Type) where
  | ok (value : τ)
  | aborted (reason : κ)
  | failed (e : ε)

def exponentialDelay (base : Duration) (attempt : ℕ) : Duration := base * 2 ^ min attempt 5

def capToDeadline (delay : Duration) (deadline : Option Instant) : Task vault (Option Duration) :=
  match deadline with
  | none => return some delay
  | some deadline => do
    let now ← ask .now
    return if deadline ≤ now then none else some (min delay (deadline - now))

def tryGated (gate : Task vault (Except κ Unit)) (op : Task vault (Except (Retry × ε) τ))
    (transient : ε → Task vault (GatedOutcome τ ε κ)) : Task vault (GatedOutcome τ ε κ) := do
  match ← gate with
  | .error abort => return .aborted abort
  | .ok () =>
    match ← op with
    | .ok value => return .ok value
    | .error (.permanent, e) => return .failed e
    | .error (.transient, e) => transient e

def retryFrom (base : Duration) (deadline : Option Instant) (gate : Task vault (Except κ Unit))
    (op : Task vault (Except (Retry × ε) τ)) : ℕ → ℕ → Task vault (GatedOutcome τ ε κ)
  | 0, _ => tryGated gate op fun e => return .failed e
  | left + 1, attempt =>
    tryGated gate op fun e => do
      match ← capToDeadline (exponentialDelay base attempt) deadline with
      | none => return .failed e
      | some duration =>
        sleep duration
        retryFrom base deadline gate op left (attempt + 1)

variable (cfg : RetryCfg) (deadline : Option Instant)

def retryLoop (gate : Task vault (Except κ Unit)) (op : Task vault (Except (Retry × ε) τ)) :
    Task vault (GatedOutcome τ ε κ) :=
  retryFrom cfg.retryBaseDelay deadline gate op (max cfg.maxRetryAttempts 1 - 1) 0

def withRetriesGated (gate : Task vault (Except κ Unit)) (op : Task vault (Except (Retry × ε) τ)) :
    Task vault (GatedOutcome τ ε κ) :=
  retryLoop cfg none gate op

def withRetries (op : Task vault (Except (Retry × ε) τ)) :
    Task vault (Except ε τ) := do
  match ← retryLoop (κ := Empty) cfg deadline (return .ok ()) op with
  | .ok value => return .ok value
  | .failed e => return .error e

/-! ## Renewal -/

def backoffBase : Duration := seconds 1

def backoffCap : Duration := seconds 30

def noDeadlineMaxTries : ℕ := 3

/-- The wait before the next round, or the error with which the renewal gives up. -/
def renewalDelay (delay : Duration) (tries : ℕ) (message : String) :
    Task vault (Except SessionError Duration) :=
  match deadline with
  | none =>
    if noDeadlineMaxTries ≤ tries then return .error (.transient message)
    else return .ok delay
  | some deadline => do
    let now ← ask .now
    if deadline - now = 0 then return .error (.transient "renewal deadline exceeded")
    else return .ok (min delay (deadline - now))

def renewFrom (deadline : Option Instant) (stale : Option String) :
    ℕ → Duration → ℕ → Task vault (Except SessionError String)
  | 0, _, _ => .suspended
  | rounds + 1, delay, tries => do
    match ← ask (.beginRenewal stale) with
    | .returned result => return result
    | .authenticating =>
      let answer ← ask .authenticate
      match ← ask (.finishRenewal answer) with
      | .returned result => return result
      | .failed message =>
        match ← renewalDelay deadline delay (tries + 1) message with
        | .error e => return .error e
        | .ok duration =>
          sleep duration
          renewFrom deadline stale rounds (min (delay * 2) backoffCap) (tries + 1)

def renewWithBackoff (rounds : ℕ) (deadline : Option Instant) (stale : Option String) :
    Task vault (Except SessionError String) :=
  renewFrom deadline stale rounds backoffBase 0

def bearer (rounds : ℕ) (deadline : Option Instant) : Task vault (Except SessionError String) :=
  renewWithBackoff rounds deadline none

/-! ## The gate -/

inductive AbortReason where
  | leaseExpired
  | sessionLost (reason : SessionLost)
  | cancelled
  | unknownAttempt
  | reportFailed

structure Gate where
  executeBy : Instant
  offlineGrace : Duration

def maxLease : Duration := seconds (24 * 60 * 60)

def datetimeToInstant (dt : Instant) : Task vault Instant := do
  let now ← ask .now
  return now + min (dt - now) maxLease

def leaseOrCancel (executeBy : Instant) : Task vault (Except AbortReason Unit) := do
  let now ← ask .now
  if executeBy ≤ now then return .error .leaseExpired
  else
    if ← ask .isCancelled then return .error .cancelled
    else return .ok ()

def offlineFor : Task vault Duration := do
  let lastOk ← ask .lastOk
  let now ← ask .now
  return now - lastOk

def connectivityPoll : Duration := seconds 1

def waitForConnectivity (gate : Gate) : ℕ → Task vault (Except AbortReason Unit)
  | 0 => .suspended
  | rounds + 1 =>
    (leaseOrCancel gate.executeBy).andThen fun _ => do
      if (← offlineFor) ≤ gate.offlineGrace then return .ok ()
      else
        let now ← ask .now
        let duration := min connectivityPoll (gate.executeBy - now)
        if duration = 0 then return .error .leaseExpired
        else
          let now ← ask .now
          if ← ask (.sleepOrCancelled (now + duration)) then return .error .cancelled
          else waitForConnectivity gate rounds

/-- The gate of a session in a phase, with the next pass of its loop. -/
def Gate.forPhase (gate : Gate) (rounds : ℕ) (phase : SessionPhase)
    (again : Task vault (Except AbortReason Unit)) : Task vault (Except AbortReason Unit) :=
  match phase with
  | .revoked => return .error (.sessionLost .revoked)
  | .closed => return .error (.sessionLost .closed)
  | .expired | .authenticating => do
    match ← bearer rounds (some gate.executeBy) with
    | .ok _ => again
    | .error (.lost reason) => return .error (.sessionLost reason)
    -- the renewal kept failing until the deadline
    | .error (.transient _) => return .error .leaseExpired
  | .active => do
    if gate.offlineGrace < (← offlineFor) then
      (waitForConnectivity gate rounds).andThen fun _ => again
    else return .ok ()

def Gate.checkFrom (gate : Gate) (rounds : ℕ) : ℕ → Task vault (Except AbortReason Unit)
  | 0 => .suspended
  | passes + 1 =>
    (leaseOrCancel gate.executeBy).andThen fun _ => do
      let phase ← ask (.phase .gate)
      gate.forPhase rounds phase (gate.checkFrom rounds passes)

def Gate.check (gate : Gate) (rounds : ℕ) : Task vault (Except AbortReason Unit) :=
  gate.checkFrom rounds rounds

/-! ## The attempt -/

/-- The fields of a verified job that an attempt reads. Without a generator request the policy
of the job is invalid. -/
structure VerifiedJob where
  attemptId : Uuid
  cipherId : Uuid
  targetSystemId : Uuid
  kind : SealedTargetSystemKind
  accountIdentity : String
  terminateSessions : Bool
  executeBy : Instant
  generatorRequest : Option PasswordGeneratorRequest

structure ExecutionContext where
  integrations : SealedTargetSystemKind → Bool
  organizationId : Uuid
  retryCfg : RetryCfg
  offlineGrace : Duration

structure Attempt where
  job : VerifiedJob
  ctx : ExecutionContext
  executeBy : Instant
  rounds : ℕ

inductive Halt where
  | report (code : RotationFailureCode) (detail : Option SafeDetail) (sync : RotationSyncState)
  | abort (reason : AbortReason)

inductive ExecutionResult where
  | reported
  | unreported (reason : AbortReason)

def abortFromApi : ApiError → Option AbortReason
  | .unknownAttempt => some .unknownAttempt
  | .sessionLost reason => some (.sessionLost reason)
  | _ => none

def haltFromApi (e : ApiError) (sync : RotationSyncState) : Halt :=
  match abortFromApi e with
  | some reason => .abort reason
  | none => .report .internal none sync

def classified (result : Except ApiError τ) : Except (Retry × ApiError) τ :=
  result.mapError fun e => (e.retryClass, e)

inductive Stage where
  | preFlight
  | preWrite

def Stage.sync : Stage → RotationSyncState
  | .preFlight => .targetUnchanged
  | .preWrite => .targetUpdated

def Stage.reason : Stage → String → String
  | .preFlight, suffix => "pre_flight_" ++ suffix
  | .preWrite, suffix => "pre_write_" ++ suffix

def cipherHalt (e : RotationCipherError) (stage : Stage) : Halt :=
  let rejected (reason : String) : Halt :=
    .report .sealedDataRejected (some (.fromSealRejection reason)) stage.sync
  match e, stage with
  | .cipherDataPresent, .preWrite | .json, .preWrite =>
    .report .cipherEncryptFailed none .targetUpdated
  | .cipherDataPresent, .preFlight | .json, .preFlight =>
    rejected "pre_flight_cipher_write_invalid"
  | .cipherOrganizationMismatch, stage => rejected (stage.reason "cipher_org_mismatch")
  | .cipherNotLogin, stage => rejected (stage.reason "cipher_not_login")
  | .cipherRestricted, stage => rejected (stage.reason "cipher_restricted")
  | .cipherWithoutItemKey, stage => rejected (stage.reason "cipher_without_item_key")
  | .crypto, stage => rejected (stage.reason "cipher_decrypt_failed")

def preFlightPlaceholderPassword : String := "pre-flight-placeholder"

namespace Attempt

variable (attempt : Attempt)

def checkSessionLive : Task vault (Except Halt Unit) := do
  let phase ← ask (.phase .sessionCheck)
  return if phase = .revoked ∨ phase = .closed then
    .error (.report .noActiveSession none .targetUnchanged)
  else .ok ()

def fetchCipher : Task vault (Except ApiError vault.Cipher) :=
  withRetries attempt.ctx.retryCfg none do
    return classified (← ask (.getCipher attempt.job.attemptId))

def fetchCheckedCipher (stage : Stage) : Task vault (Except Halt vault.Cipher) := do
  match ← attempt.fetchCipher with
  | .error e => return .error (haltFromApi e stage.sync)
  | .ok cipher =>
    if vault.id cipher = some attempt.job.cipherId then return .ok cipher
    else return .error (.report .sealedDataRejected
      (some (.fromSealRejection (stage.reason "cipher_id_mismatch"))) stage.sync)

def rotateCipher (cipher : vault.Cipher) (newPassword : String) (stage : Stage) :
    Except Halt vault.CipherRequest :=
  (vault.rotateCipherPassword attempt.ctx.organizationId cipher newPassword).mapError
    fun e => cipherHalt e stage

def preFlight : Task vault (Except Halt Unit) :=
  (attempt.fetchCheckedCipher .preFlight).andThen fun cipher =>
    return (attempt.rotateCipher cipher preFlightPlaceholderPassword .preFlight).map fun _ => ()

def resolveCredentials : Task vault (Except Halt ResolvedCredentials) := do
  let answer ← ask (.resolve attempt.job.targetSystemId attempt.job.kind)
  return answer.mapError fun names =>
    .report .credentialsUnresolved (some (.fromMissingVars names)) .targetUnchanged

def generatePassword : Task vault (Except Halt String) :=
  match attempt.job.generatorRequest with
  | none => return .error (.report .invalidPolicy none .targetUnchanged)
  | some request => do
    let answer ← ask (.generatePassword request)
    return answer.mapError fun _ => .report .invalidPolicy none .targetUnchanged

def lookUpIntegration : Except Halt Unit :=
  if attempt.ctx.integrations attempt.job.kind then .ok ()
  else .error (.report .unsupportedKind none .targetUnchanged)

def callTarget (step : TargetStep) (context : RotateContext) :
    Task vault (Except (Retry × IntegrationError) Unit) := do
  ask (.start step)
  let answer ← ask (.finish step context)
  return answer.result.mapError fun e => (e.retry, e)

def gate : Gate := ⟨attempt.executeBy, attempt.ctx.offlineGrace⟩

variable (context : RotateContext)

def runTargetStep (step : TargetStep) :
    Task vault (GatedOutcome Unit IntegrationError AbortReason) :=
  withRetriesGated attempt.ctx.retryCfg (attempt.gate.check attempt.rounds)
    (callTarget step context)

def runRequiredStep (step : TargetStep) :
    Task vault (Except Halt Unit) := do
  match ← attempt.runTargetStep context step with
  | .ok () => return .ok ()
  | .aborted reason => return .error (.abort reason)
  | .failed e => return .error (.report e.code (some e.detail) (step.failureSync e))

def putCipher (request : vault.CipherRequest) : Task vault (Except ApiError Unit) :=
  withRetries attempt.ctx.retryCfg none do
    return classified (← ask (.putCipher attempt.job.attemptId request))

def cipherWriteLanded (newPassword : String) : Task vault (Except AbortReason Bool) := do
  match ← attempt.fetchCipher with
  | .ok cipher => return .ok ((vault.cipherHasPassword cipher newPassword).getD false)
  | .error e =>
    match abortFromApi e with
    | some reason => return .error reason
    | none => return .ok false

def writeCipher (newPassword : String) : Task vault (Except Halt Unit) :=
  (attempt.fetchCheckedCipher .preWrite).andThen fun cipher =>
    match attempt.rotateCipher cipher newPassword .preWrite with
    | .error halt => return .error halt
    | .ok request => do
      match ← attempt.putCipher request with
      | .ok () => return .ok ()
      -- a retried write may be rejected after a first try that landed
      | .error (.rejected _) =>
        match ← attempt.cipherWriteLanded newPassword with
        | .ok true => return .ok ()
        | .ok false => return .error (.report .cipherWriteRejected none .targetUpdated)
        | .error reason => return .error (.abort reason)
      | .error e => return .error (haltFromApi e .targetUpdated)

def terminateSessions (context : RotateContext) :
    Task vault (Except Halt SessionTerminationOutcome) :=
  if attempt.job.terminateSessions then do
    match ← attempt.runTargetStep context .terminateSessions with
    | .ok () => return .ok .terminated
    | .aborted (.sessionLost reason) => return .error (.abort (.sessionLost reason))
    | .aborted _ => return .ok .termFailed
    | .failed _ => return .ok .termFailed
  else return .ok .notRequested

/-- A rejection of the success report, or an unknown attempt, is final. -/
def acceptedReport : Except ApiError Unit → Except (Retry × ApiError) Unit
  | .error (.rejected _) | .error .unknownAttempt => .ok ()
  | result => classified result

def reportSuccess (termination : SessionTerminationOutcome) : Task vault (Except Halt Unit) := do
  let result ← withRetries attempt.ctx.retryCfg none do
    return acceptedReport (← ask (.reportSuccess attempt.job.attemptId termination))
  match result with
  | .ok () => return .ok ()
  | .error (.sessionLost reason) => return .error (.abort (.sessionLost reason))
  | .error _ => return .error (.abort .reportFailed)

/-- The steps of the pipeline after the target was rotated. -/
def runRotated : Task vault (Except Halt Unit) :=
  (attempt.runRequiredStep context .verify).andThen fun _ =>
  (attempt.writeCipher context.newPassword).andThen fun _ =>
  (attempt.terminateSessions context).andThen fun termination =>
  attempt.reportSuccess termination

/-- The steps of the pipeline from the first one that touches the target. -/
def runTarget : Task vault (Except Halt Unit) :=
  (attempt.runRequiredStep context .rotate).andThen fun _ => attempt.runRotated context

def run : Task vault (Except Halt Unit) :=
  checkSessionLive.andThen fun _ =>
  attempt.preFlight.andThen fun _ =>
  attempt.resolveCredentials.andThen fun creds =>
  attempt.generatePassword.andThen fun newPassword => do
    let rotationStartedAt ← ask .now
    match attempt.lookUpIntegration with
    | .error halt => return .error halt
    | .ok () =>
      attempt.runTarget
        { targetSystemId := attempt.job.targetSystemId
          accountIdentity := attempt.job.accountIdentity
          newPassword, creds, rotationStartedAt }

end Attempt

/-- The result of an attempt is reported, unless it was aborted. A failing report is absorbed. -/
def conclude (job : VerifiedJob) : Except Halt Unit → Task vault ExecutionResult
  | .ok () => return .reported
  | .error (.report code detail sync) => do
    let _ ← ask (.reportFailure job.attemptId code detail sync)
    return .reported
  | .error (.abort reason) => return .unreported reason

def execute (job : VerifiedJob) (ctx : ExecutionContext) (rounds : ℕ) :
    Task vault ExecutionResult := do
  let executeBy ← datetimeToInstant job.executeBy
  let result ← Attempt.run { job, ctx, executeBy, rounds }
  conclude job result

def attemptIn (world : World) (job : VerifiedJob) (ctx : ExecutionContext) (rounds : ℕ) :
    Shared.Process (Op vault) Op.Answer World ExecutionResult :=
  ⟨world, [], execute job ctx rounds⟩

end SdkInternal.AccessConnector
