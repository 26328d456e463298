import Mathlib.Algebra.Order.Ring.Nat

/-! # The connector session

The state that a `SessionManager` keeps behind its mutex, and what a renewal does to it before
and after the call of the identity server. -/

namespace SdkInternal.AccessConnector

abbrev Uuid := ℕ

/-- Instants and durations are in milliseconds. -/
abbrev Instant := ℕ

abbrev Duration := ℕ

def seconds (count : ℕ) : Duration := 1000 * count

inductive SessionPhase where
  | authenticating
  | active
  | expired
  | revoked
  | closed
  deriving DecidableEq

inductive SessionLost where
  | revoked
  | closed
  deriving DecidableEq

inductive SessionError where
  | lost (reason : SessionLost)
  | transient (message : String)
  deriving DecidableEq

abbrev OrgKey := List UInt8

/-- The encrypted payload is given by what opening it with the connector's token yields. -/
structure AuthSuccess where
  accessToken : String
  expiresIn : ℕ
  organizationId : Uuid
  payload : Except String OrgKey
  deriving DecidableEq

inductive AuthError where
  | rejected
  | transient (message : String)
  | protocol
  deriving DecidableEq

structure SessionState where
  phase : SessionPhase
  bearer : Option String
  expiresAt : Option Instant
  keyStore : List (Uuid × OrgKey)
  organizationId : Option Uuid

def tokenRenewMargin : Duration := seconds (5 * 60)

variable (state : SessionState) (now : Instant)

namespace SessionState

def needsRenewal : Bool :=
  match state.expiresAt with
  | some t => if now ≤ t then decide (t - now ≤ tokenRenewMargin) else true
  | none => true

def activeBearer : Except SessionError String :=
  match state.bearer, state.phase with
  | some bearer, _ => .ok bearer
  | none, .revoked => .error (.lost .revoked)
  | none, .closed => .error (.lost .closed)
  | none, _ => .error (.transient "session has no bearer")

/-- An organization's slot is set, whatever it held. -/
def installOrgKey (keyStore : List (Uuid × OrgKey)) (organizationId : Uuid) (key : OrgKey) :
    List (Uuid × OrgKey) :=
  (organizationId, key) :: keyStore.filter fun slot => slot.1 ≠ organizationId

def applySuccess (success : AuthSuccess) : Except String SessionState :=
  match success.payload with
  | .error e => .error e
  | .ok key => .ok
      { phase := .active
        bearer := some success.accessToken
        expiresAt := some (now + seconds success.expiresIn)
        keyStore := installOrgKey state.keyStore success.organizationId key
        organizationId := some success.organizationId }

def enterTerminal (lost : SessionLost) : SessionState :=
  { state with
    phase := match lost with
      | .revoked => .revoked
      | .closed => .closed
    bearer := none
    expiresAt := none
    keyStore := [] }

def close : SessionState :=
  match state.phase with
  | .revoked | .closed => state
  | _ => state.enterTerminal .closed

end SessionState

/-- A renewal that has the mutex returns, or goes on to the identity server. -/
inductive RenewalEntry where
  | returned (result : Except SessionError String)
  | authenticating
  deriving DecidableEq

/-- After the answer of the identity server a renewal returns, or has failed once more. -/
inductive RenewalStep where
  | returned (result : Except SessionError String)
  | failed (message : String)
  deriving DecidableEq

namespace SessionState

/-- The part of a round of `renew_with_backoff` before its identity call. -/
def beginRenewal (stale : Option String) : RenewalEntry × SessionState :=
  match state.phase with
  | .revoked => (.returned (.error (.lost .revoked)), state)
  | .closed => (.returned (.error (.lost .closed)), state)
  | .active =>
    if !state.needsRenewal now && state.bearer != stale then
      (.returned state.activeBearer, state)
    else (.authenticating, { state with phase := .authenticating })
  | _ => (.authenticating, { state with phase := .authenticating })

/-- The part of a round of `renew_with_backoff` between its identity call and the release of
the mutex. -/
def finishRenewal (answer : Except AuthError AuthSuccess) : RenewalStep × SessionState :=
  match answer with
  | .ok success =>
    match state.applySuccess now success with
    | .ok state => (.returned state.activeBearer, state)
    -- a payload that does not open counts as a protocol failure
    | .error e => (.failed e, { state with phase := .expired })
  | .error .rejected =>
    (.returned (.error (.lost .revoked)), state.enterTerminal .revoked)
  | .error (.transient message) => (.failed message, { state with phase := .expired })
  | .error .protocol =>
    (.failed "identity server returned unexpected response", { state with phase := .expired })

end SessionState

end SdkInternal.AccessConnector
