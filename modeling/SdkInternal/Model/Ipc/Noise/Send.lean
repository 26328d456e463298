import SdkInternal.Model.Ipc.Client
import SdkInternal.Model.Ipc.Noise.Provider

/-! # The Noise provider of a client

A call of `send` is a run of the provider's machine, in which its other calls and the receive loop
take part. Every call is reported with the frames that it handed to the backend. -/

namespace SdkInternal.Ipc.Noise

open Shared

/-- A call of `send`: the task that makes it, and the steps of the provider from then on. -/
structure Call where
  task : ℕ
  steps : List Action

def Action.of (task : ℕ) : Action → Option SendAction
  | .send other action => if other = task then some action else none
  | .loop _ => none

def SendAction.answer? : SendAction → Option (Option ErrorKind)
  | .frameAnswer answer => some answer
  | _ => none

def Call.own (call : Call) : List SendAction := call.steps.filterMap (Action.of call.task)

/-- The backend's answer to the transport frame, if there was one. -/
def Call.answer (call : Call) : Option (Option ErrorKind) := call.own.findSome? SendAction.answer?

structure SendReport where
  call : Call
  handed : List OutgoingFrame
  result : Completion NoiseCryptoProviderError

structure SendLog where
  provider : Provider
  reports : List SendReport

variable (prims : Primitives)

/-- The transport frames that a task hands over in a run. -/
def handedBy (task : ℕ) : Provider → List Action → List OutgoingFrame
  | _, [] => []
  | s, action :: rest =>
    match s.step prims action with
    | none => []
    | some s' =>
      (if action.of task = some .handFrame then s'.outbox.drop s.outbox.length else []) ++
        handedBy task s' rest

def SendPc.completion : SendPc → Completion NoiseCryptoProviderError
  | .returned result => .returned result
  | .panicked => .panicked
  | _ => .pending

def NoiseCryptoProviderError.debug : NoiseCryptoProviderError → String
  | .handshakeProtocol => "HandshakeProtocol"
  | .timeout => "Timeout"
  | .transportUnreachable => "TransportUnreachable"
  | .transportSend kind => "TransportSend \x7b kind: " ++ kind.debug ++ " \x7d"
  | .transportReceive kind => "TransportReceive \x7b kind: " ++ kind.debug ++ " \x7d"
  | .decryptionFailure => "DecryptionFailure"

def noiseMaxMessageLen : ℕ := 65535

def noiseTagLen : ℕ := 16

/-- A call whose steps the provider cannot take never ends. -/
def cryptoProvider : CryptoProvider SendLog NoiseCryptoProviderError Call where
  maxPayloadLen := noiseMaxMessageLen - noiseTagLen
  kind := NoiseCryptoProviderError.kind
  debug := NoiseCryptoProviderError.debug
  send call log message :=
    let steps := .send call.task (.call message) :: call.steps
    match run (Provider.step prims) log.provider steps with
    | none => (.pending, log)
    | some provider =>
      let result := (provider.sends call.task).completion
      (result, { provider, reports := log.reports ++
        [⟨call, handedBy prims call.task log.provider steps, result⟩] })

end SdkInternal.Ipc.Noise
