import SdkInternal.Model.AccessConnector.Session
import SdkInternal.Model.Generators.Password
import SdkInternal.Shared.Program

/-! # What a rotation attempt asks of its surroundings

An attempt reads the clock and the session, calls the target system, the resolver and the
server, and sleeps. Other tasks of the connector change the session and the cancellation token
while it waits. The code between two awaits takes no time, and the wall clock keeps step with
the monotonic one. -/

namespace SdkInternal.AccessConnector

open Generators (PasswordGeneratorRequest PasswordError)

/-! ## Errors and reports -/

inductive Retry where
  | transient
  | permanent
  deriving DecidableEq

structure SafeDetail where
  text : String
  deriving DecidableEq

namespace SafeDetail

def maxLen : ℕ := 500

/-- The characters that fit into `budget` bytes. -/
def fitting : ℕ → List Char → List Char
  | _, [] => []
  | budget, c :: rest =>
    if c.utf8Size ≤ budget then c :: fitting (budget - c.utf8Size) rest else []

def truncate (s : String) : String :=
  if s.utf8ByteSize ≤ maxLen then s else String.ofList (fitting maxLen s.toList)

def fromMissingVars (names : List String) : SafeDetail :=
  ⟨truncate ("missing vars: " ++ ", ".intercalate names)⟩

def fromSealRejection (reason : String) : SafeDetail :=
  ⟨truncate ("sealed data rejected: " ++ reason)⟩

end SafeDetail

inductive RotationFailureCode where
  | noActiveSession
  | credentialsUnresolved
  | invalidPolicy
  | unsupportedKind
  | targetRejected
  | targetUnreachable
  | verificationFailed
  | scriptFailed
  | scriptTimeout
  | cipherWriteRejected
  | cipherEncryptFailed
  | sealedDataRejected
  | internal
  | unknown
  deriving DecidableEq

inductive RotationSyncState where
  | targetUnchanged
  | targetUpdated
  | indeterminate
  | unknown
  deriving DecidableEq

inductive SessionTerminationOutcome where
  | notRequested
  | terminated
  | termFailed
  | unknown
  deriving DecidableEq

inductive ApiError where
  | sessionLost (reason : SessionLost)
  | rejected (status : UInt16)
  | unknownAttempt
  | notEligible
  | transient (message : String)
  | protocol (message : String)

def ApiError.retryClass : ApiError → Retry
  | .transient _ => .transient
  | _ => .permanent

/-! ## Target systems -/

inductive SealedTargetSystemKind where
  | entra
  | customScript
  deriving DecidableEq

inductive TargetEffect where
  | notApplied
  | applied
  | unknown
  deriving DecidableEq

def RotationSyncState.ofEffect : TargetEffect → RotationSyncState
  | .notApplied => .targetUnchanged
  | .unknown => .indeterminate
  | .applied => .targetUpdated

structure IntegrationError where
  retry : Retry
  effect : TargetEffect
  code : RotationFailureCode
  detail : SafeDetail

abbrev ResolvedCredentials := List (String × String)

structure RotateContext where
  targetSystemId : Uuid
  accountIdentity : String
  newPassword : String
  creds : ResolvedCredentials
  rotationStartedAt : Instant
  deriving DecidableEq

inductive TargetStep where
  | rotate
  | verify
  | terminateSessions
  deriving DecidableEq

def TargetStep.failureSync (step : TargetStep) (e : IntegrationError) : RotationSyncState :=
  match step with
  | .rotate => .ofEffect e.effect
  -- these run after the target was rotated
  | .verify | .terminateSessions => .targetUpdated

/-- What one call of an integration returns, and whether it changed the target credential. -/
structure TargetAnswer where
  result : Except IntegrationError Unit
  changed : Bool

/-- A rotate call that succeeds has changed the target, and one that fails reports an effect
that is true of it. -/
def TargetAnswer.truthful (answer : TargetAnswer) : Bool :=
  match answer.result with
  | .ok _ => answer.changed
  | .error e =>
    match e.effect with
    | .notApplied => !answer.changed
    | .applied => answer.changed
    | .unknown => true

/-! ## The vault -/

inductive RotationCipherError where
  | cipherDataPresent
  | json
  | cipherOrganizationMismatch
  | cipherNotLogin
  | cipherRestricted
  | cipherWithoutItemKey
  | crypto

/-- The ciphers of the vault, as the attempt reads and rewrites them. -/
structure Vault where
  Cipher : Type
  CipherRequest : Type
  decidableEqRequest : DecidableEq CipherRequest
  id : Cipher → Option Uuid
  rotateCipherPassword : Uuid → Cipher → String → Except RotationCipherError CipherRequest
  cipherHasPassword : Cipher → String → Option Bool

instance (vault : Vault) : DecidableEq vault.CipherRequest := vault.decidableEqRequest

/-! ## Operations -/

/-- Who waits for the session's mutex to read its phase. -/
inductive PhaseReader where
  | sessionCheck
  | gate
  deriving DecidableEq

inductive Op (vault : Vault) where
  | now
  | isCancelled
  | lastOk
  | sleepUntil (wake : Instant)
  /-- A sleep that a cancellation ends. -/
  | sleepOrCancelled (wake : Instant)
  | phase (reader : PhaseReader)
  | beginRenewal (stale : Option String)
  | authenticate
  | finishRenewal (answer : Except AuthError AuthSuccess)
  | resolve (targetSystemId : Uuid) (kind : SealedTargetSystemKind)
  | generatePassword (request : PasswordGeneratorRequest)
  /-- The call of a target-side step starts. -/
  | start (step : TargetStep)
  | finish (step : TargetStep) (context : RotateContext)
  | getCipher (attemptId : Uuid)
  | putCipher (attemptId : Uuid) (request : vault.CipherRequest)
  | reportSuccess (attemptId : Uuid) (termination : SessionTerminationOutcome)
  | reportFailure (attemptId : Uuid) (code : RotationFailureCode) (detail : Option SafeDetail)
      (sync : RotationSyncState)
  deriving DecidableEq

/-- The answers of an operation. -/
@[reducible] def Op.Answer {vault : Vault} : Op vault → Type
  | .now | .lastOk => Instant
  | .isCancelled => Bool
  | .sleepUntil _ => Unit
  -- whether the cancellation came first
  | .sleepOrCancelled _ => Bool
  | .phase _ => SessionPhase
  | .beginRenewal _ => RenewalEntry
  | .authenticate => Except AuthError AuthSuccess
  | .finishRenewal _ => RenewalStep
  | .resolve _ _ => Except (List String) ResolvedCredentials
  | .generatePassword _ => Except PasswordError String
  | .start _ => Unit
  | .finish _ _ => TargetAnswer
  | .getCipher _ => Except ApiError vault.Cipher
  | .putCipher _ _ => Except ApiError Unit
  | .reportSuccess _ _ => Except ApiError Unit
  | .reportFailure _ _ _ _ => Except ApiError Unit

/-- Operations that are answered without an await. -/
def Op.immediate {vault : Vault} : Op vault → Bool
  | .now | .isCancelled | .lastOk | .finishRenewal _ | .generatePassword _ | .start _ => true
  | _ => false

/-! ## The world of an attempt -/

/-- Whose renewal holds the session's mutex across its identity call. -/
inductive Holder where
  | attempt
  | other
  deriving DecidableEq

structure World where
  clock : Instant
  cancelled : Bool
  /-- The last successful contact with the server. -/
  lastOk : Instant
  session : SessionState
  holder : Option Holder

/-- Steps of the clock and of the connector's other tasks. A renewal that is dropped, when the
request it serves times out, releases the mutex and leaves the phase as it is. -/
inductive EnvironmentStep where
  | tick (elapsed : Duration)
  | cancel
  | contact
  | beginRenewal (stale : Option String)
  | endRenewal (answer : Except AuthError AuthSuccess)
  | dropRenewal
  | close

namespace World

def beginRenewal (world : World) (holder : Holder) (stale : Option String) : RenewalEntry × World :=
  let entry := world.session.beginRenewal world.clock stale
  (entry.1, { world with
    session := entry.2
    holder := if entry.1 = .authenticating then some holder else none })

def finishRenewal (world : World) (answer : Except AuthError AuthSuccess) : RenewalStep × World :=
  let outcome := world.session.finishRenewal world.clock answer
  (outcome.1, { world with session := outcome.2, holder := none })

def environment (world : World) : EnvironmentStep → Option World
  | .tick elapsed => some { world with clock := world.clock + elapsed }
  | .cancel => some { world with cancelled := true }
  | .contact => some { world with lastOk := world.clock }
  | .beginRenewal stale =>
    if world.holder = none then some (world.beginRenewal .other stale).2 else none
  | .endRenewal answer =>
    if world.holder = some .other then some (world.finishRenewal answer).2 else none
  | .dropRenewal =>
    if world.holder = some .other then some { world with holder := none } else none
  | .close =>
    if world.holder = none then some { world with session := world.session.close } else none

/-- The world after an answer to the attempt. The resolver, the password generator, the target
system and the server may answer anything that the truthfulness of rotate calls allows. -/
def answer {vault : Vault} (op : Op vault) (world : World) (answer : op.Answer) : Option World :=
  match op, answer with
  | .now, t => if t = world.clock then some world else none
  | .isCancelled, cancelled => if cancelled = world.cancelled then some world else none
  | .lastOk, t => if t = world.lastOk then some world else none
  | .sleepUntil wake, _ => if wake ≤ world.clock then some world else none
  | .sleepOrCancelled wake, cancelled =>
    if if cancelled then world.cancelled else decide (wake ≤ world.clock) then some world
    else none
  | .phase _, phase =>
    if world.holder = none ∧ phase = world.session.phase then some world else none
  | .beginRenewal stale, entry =>
    if world.holder = none ∧ entry = (world.beginRenewal .attempt stale).1 then
      some (world.beginRenewal .attempt stale).2
    else none
  | .authenticate, _ => if world.holder = some .attempt then some world else none
  | .finishRenewal result, step =>
    if world.holder = some .attempt ∧ step = (world.finishRenewal result).1 then
      some (world.finishRenewal result).2
    else none
  | .finish .rotate _, result => if result.truthful then some world else none
  | .finish _ _, _ => some world
  | .resolve _ _, _ => some world
  | .generatePassword _, _ => some world
  | .start _, _ => some world
  | .getCipher _, _ => some world
  | .putCipher _ _, _ => some world
  | .reportSuccess _ _, _ => some world
  | .reportFailure _ _ _ _, _ => some world

end World

def host (vault : Vault) : Shared.Host (Op vault) Op.Answer EnvironmentStep World where
  immediate := Op.immediate
  environment := World.environment
  answer := World.answer

abbrev Task (vault : Vault) (α : Type) := Shared.Program (Op vault) Op.Answer α

end SdkInternal.AccessConnector
