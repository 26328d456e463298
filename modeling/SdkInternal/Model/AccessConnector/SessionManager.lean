import SdkInternal.Model.AccessConnector.Rotation

/-! # Calls of a session manager

Any number of `bearer`, `force_refresh` and `close` calls share one session. A renewal holds the
mutex across its identity call and releases it while it sleeps. A call runs from one await to the
next without interruption, and may be dropped at an await. -/

namespace SdkInternal.AccessConnector

inductive SessionRequest where
  | bearer (deadline : Option Instant)
  | forceRefresh (stale : String) (deadline : Option Instant)
  | close

/-- The variables of `renew_with_backoff` at the head of its loop. -/
structure Renewal where
  deadline : Option Instant
  stale : Option String
  delay : Duration
  tries : ℕ

inductive SessionCall where
  | queued (renewal : Renewal)
  | authenticating (renewal : Renewal)
  | sleeping (renewal : Renewal) (wake : Instant)
  | closing

def SessionRequest.start : SessionRequest → SessionCall
  | .bearer deadline => .queued ⟨deadline, none, backoffBase, 0⟩
  | .forceRefresh stale deadline => .queued ⟨deadline, some stale, backoffBase, 0⟩
  | .close => .closing

abbrev CallId := ℕ

structure SessionManager where
  clock : Instant
  state : SessionState
  /-- The call that holds the mutex across an await. -/
  holder : Option CallId
  calls : CallId → Option SessionCall
  identityCalls : ℕ
  results : List (CallId × Except SessionError String)

inductive SessionStep where
  | tick (elapsed : Duration)
  | call (id : CallId) (request : SessionRequest)
  | lock (id : CallId)
  | answer (id : CallId) (answer : Except AuthError AuthSuccess)
  | wake (id : CallId)
  | drop (id : CallId)

/-- The wait after a failed round, or the error with which the renewal gives up. -/
def Renewal.backoff (renewal : Renewal) (now : Instant) (message : String) :
    Except SessionError Duration :=
  match renewal.deadline with
  | none =>
    if noDeadlineMaxTries ≤ renewal.tries then .error (.transient message)
    else .ok renewal.delay
  | some deadline =>
    if deadline - now = 0 then .error (.transient "renewal deadline exceeded")
    else .ok (min renewal.delay (deadline - now))

namespace SessionManager

def new (clock : Instant) (keyStore : List (Uuid × OrgKey)) : SessionManager where
  clock := clock
  state := ⟨.authenticating, none, none, keyStore, none⟩
  holder := none
  calls _ := none
  identityCalls := 0
  results := []

variable (manager : SessionManager) (id : CallId)

def setCall (call : Option SessionCall) : SessionManager :=
  { manager with calls := Function.update manager.calls id call }

def returns (result : Except SessionError String) : SessionManager :=
  { manager.setCall id none with results := manager.results ++ [(id, result)] }

def lock : Option SessionManager :=
  if manager.holder = none then
    match manager.calls id with
    | some (.queued renewal) =>
      let entry := manager.state.beginRenewal manager.clock renewal.stale
      let manager := { manager with state := entry.2 }
      match entry.1 with
      | .returned result => some (manager.returns id result)
      | .authenticating => some
          { manager.setCall id (some (.authenticating renewal)) with
            holder := some id
            identityCalls := manager.identityCalls + 1 }
    | some .closing => some { manager.setCall id none with state := manager.state.close }
    | _ => none
  else none

def answer (manager : SessionManager) (id : CallId) (answer : Except AuthError AuthSuccess) :
    Option SessionManager :=
  if manager.holder = some id then
    match manager.calls id with
    | some (.authenticating renewal) =>
      let outcome := manager.state.finishRenewal manager.clock answer
      let manager := { manager with state := outcome.2, holder := none }
      match outcome.1 with
      | .returned result => some (manager.returns id result)
      | .failed message =>
        let renewal := { renewal with tries := renewal.tries + 1 }
        match renewal.backoff manager.clock message with
        | .error e => some (manager.returns id (.error e))
        | .ok duration =>
          let next := { renewal with delay := min (renewal.delay * 2) backoffCap }
          some (manager.setCall id (some (.sleeping next (manager.clock + duration))))
    | _ => none
  else none

def step : SessionStep → Option SessionManager
  | .tick elapsed => some { manager with clock := manager.clock + elapsed }
  | .call id request =>
    if manager.calls id = none then some (manager.setCall id (some request.start)) else none
  | .lock id => manager.lock id
  | .answer id result => manager.answer id result
  | .wake id =>
    match manager.calls id with
    | some (.sleeping renewal wake) =>
      if wake ≤ manager.clock then some (manager.setCall id (some (.queued renewal)))
      else none
    | _ => none
  | .drop id =>
    some { manager.setCall id none with
      holder := if manager.holder = some id then none else manager.holder }

end SessionManager

end SdkInternal.AccessConnector
