import Mathlib.Data.List.Basic

/-! # Starting and stopping the IPC client

The client as a machine that interleaves calls of `start`, the processing loops they
spawn, sends that fail fatally, and the callers that cancel the tokens they passed. Every
access to a mutex is a step of its own. Each call of `start` is given a token of its own
by its caller or by default, so the number of the call also names its token, its sender of
incoming messages and its loop. -/

namespace SdkInternal.Ipc

inductive AlreadyRunningError where
  | alreadyRunning
deriving DecidableEq

inductive StartPc where
  | idle
  /-- `is_running` has looked for a sender that is still alive. -/
  | checking (hasIncoming : Bool)
  /-- The client is not running. -/
  | passed
  /-- The token is stored and the subscription is awaited. -/
  | subscribing
  /-- The sender is published and the loop is about to be spawned. -/
  | spawning
  | returned (result : Except AlreadyRunningError Unit)
deriving DecidableEq

inductive StopReason where
  | cancelled
  | fatalReceive

inductive ProcessingPc where
  | absent
  | live
  /-- It has left its loop and is about to call `stop_inner`. -/
  | stopping (reason : StopReason)
  /-- It has called `stop_inner` and still owns its sender. -/
  | stopped (reason : StopReason)
  | finished (reason : StopReason)

inductive Canceller where
  | caller
  | fatalSend
  | shutdown (run : ℕ)
deriving DecidableEq

inductive LifecycleAction where
  | checkIncoming (call : ℕ)
  | checkToken (call : ℕ)
  | store (call : ℕ)
  | publish (call : ℕ)
  | spawn (call : ℕ)
  /-- The loop sees that its token is cancelled. -/
  | observe (run : ℕ)
  /-- The loop handles a message or a recoverable error. -/
  | receive (run : ℕ)
  | receiveFatal (run : ℕ)
  | shutdown (run : ℕ)
  | finish (run : ℕ)
  | fatalSend
  | cancel (call : ℕ)

/-- The fields of the client that `start` and `stop_inner` use, its tokens, calls and
loops. A token remembers who cancelled it first, and `taken` who took which token out of
the client. -/
structure Lifecycle where
  cancellationToken : Option ℕ
  incoming : Option ℕ
  cancelled : ℕ → Option Canceller
  starts : ℕ → StartPc
  loops : ℕ → ProcessingPc
  taken : List (Canceller × ℕ)

namespace Lifecycle

def new : Lifecycle where
  cancellationToken := none
  incoming := none
  cancelled := fun _ => none
  starts := fun _ => .idle
  loops := fun _ => .absent
  taken := []

variable (s : Lifecycle)

/-- The sender of a run lives from its publication until the loop has finished. -/
def senderAlive (run : ℕ) : Bool :=
  match s.starts run, s.loops run with
  | .spawning, _ => true
  | _, .live => true
  | _, .stopping _ => true
  | _, .stopped _ => true
  | _, _ => false

/-- `is_running`, when both mutexes are read in one state. -/
def isRunning : Bool :=
  s.incoming.any s.senderAlive && s.cancellationToken.isSome

def setStart (call : ℕ) (pc : StartPc) : Lifecycle :=
  { s with starts := Function.update s.starts call pc }

def setLoop (run : ℕ) (pc : ProcessingPc) : Lifecycle :=
  { s with loops := Function.update s.loops run pc }

/-- Cancelling a token again changes nothing. -/
def cancelToken (canceller : Canceller) (token : ℕ) : Lifecycle :=
  { s with
    cancelled := Function.update s.cancelled token ((s.cancelled token).or (some canceller)) }

/-- Takes and cancels whatever token is stored. -/
def stopInner (canceller : Canceller) : Lifecycle :=
  match s.cancellationToken with
  | none => s
  | some token =>
    { s.cancelToken canceller token with
      cancellationToken := none
      taken := s.taken ++ [(canceller, token)] }

def step : LifecycleAction → Option Lifecycle
  | .checkIncoming call =>
    match s.starts call with
    | .idle => some (s.setStart call (.checking (s.incoming.any s.senderAlive)))
    | _ => none
  | .checkToken call =>
    match s.starts call with
    | .checking hasIncoming =>
      if hasIncoming && s.cancellationToken.isSome then
        some (s.setStart call (.returned (.error .alreadyRunning)))
      else some (s.setStart call .passed)
    | _ => none
  | .store call =>
    match s.starts call with
    | .passed => some { s.setStart call .subscribing with cancellationToken := some call }
    | _ => none
  | .publish call =>
    match s.starts call with
    | .subscribing => some { s.setStart call .spawning with incoming := some call }
    | _ => none
  | .spawn call =>
    match s.starts call with
    | .spawning => some ((s.setStart call (.returned (.ok ()))).setLoop call .live)
    | _ => none
  | .observe run =>
    match s.loops run with
    | .live =>
      if (s.cancelled run).isSome then some (s.setLoop run (.stopping .cancelled)) else none
    | _ => none
  | .receive run =>
    match s.loops run with
    | .live => some s
    | _ => none
  | .receiveFatal run =>
    match s.loops run with
    | .live => some (s.setLoop run (.stopping .fatalReceive))
    | _ => none
  | .shutdown run =>
    match s.loops run with
    | .stopping reason => some ((s.stopInner (.shutdown run)).setLoop run (.stopped reason))
    | _ => none
  | .finish run =>
    match s.loops run with
    | .stopped reason => some (s.setLoop run (.finished reason))
    | _ => none
  | .fatalSend => some (s.stopInner .fatalSend)
  | .cancel call => some (s.cancelToken .caller call)

end Lifecycle

end SdkInternal.Ipc
