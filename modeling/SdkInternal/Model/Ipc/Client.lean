import SdkInternal.Model.Ipc.Fragmentation

/-! # Sending a message through the IPC client

The client splits a message into fragments and sends them one after the other through its
crypto provider, until one of them fails. It is generic in the provider. What happens
around a call of the provider, such as the answers of the communication backend, is given
for each fragment. -/

namespace SdkInternal.Ipc

/-- How far a call has come. -/
inductive Completion (ε : Type) where
  | returned (result : Except ε Unit)
  | panicked
  | pending
deriving DecidableEq

/-- A provider with its sessions as the state, its errors, and the circumstances of a
call. -/
structure CryptoProvider (σ ε γ : Type) where
  maxPayloadLen : ℕ
  kind : ε → ErrorKind
  debug : ε → String
  send : γ → σ → OutgoingMessage → Completion ε × σ

inductive SendError where
  | unreachable
  | other (text : String)

/-- The text of an error. The argument is how `Debug` prints a string. -/
def FragmentationError.toString (debugStr : String → String) : FragmentationError → String
  | .payloadTooLarge len =>
    s!"Payload of {len} bytes exceeds the maximum of {maxPayloadSize} bytes"
  | .providerLimitTooSmall len =>
    s!"Crypto provider message limit of {len} bytes leaves no room for fragment data"
  | .reservedTopic topic => s!"Topic {debugStr topic} is reserved for fragments"

structure SendOutcome where
  result : Completion SendError
  /-- The client has been stopped by a fatal error. -/
  fatal : Bool

namespace Client

variable {σ ε γ : Type} (crypto : CryptoProvider σ ε γ)

/-- What `send_fragment` makes of the provider's result. -/
def classify : Completion ε → SendOutcome
  | .panicked => { result := .panicked, fatal := false }
  | .pending => { result := .pending, fatal := false }
  | .returned (.ok ()) => { result := .returned (.ok ()), fatal := false }
  | .returned (.error e) =>
    { fatal := decide (crypto.kind e = .fatal)
      result := .returned (.error
        (match crypto.kind e with
        | .unreachable => .unreachable
        | _ => .other (crypto.debug e))) }

def sendFragment (circumstances : γ) (state : σ) (fragment : OutgoingMessage) : SendOutcome × σ :=
  let answer := crypto.send circumstances state fragment
  (classify crypto answer.1, answer.2)

/-- The loop over the fragments. The call for fragment `k` happens under
`circumstances k`. -/
def sendFragments (crypto : CryptoProvider σ ε γ) (circumstances : ℕ → γ) :
    ℕ → σ → List OutgoingMessage → SendOutcome × σ
  | _, state, [] => ({ result := .returned (.ok ()), fatal := false }, state)
  | k, state, fragment :: rest =>
    let outcome := sendFragment crypto (circumstances k) state fragment
    match outcome.1.result with
    | .returned (.ok ()) => sendFragments crypto circumstances (k + 1) outcome.2 rest
    | _ => outcome

/-- Sends a message. `messageId` is the random id drawn for its fragments. -/
def sendMessage (codec : HeaderCodec) (debugStr : String → String) (messageId : UInt64)
    (circumstances : ℕ → γ) (state : σ) (message : OutgoingMessage) : SendOutcome × σ :=
  match Fragments.split messageId message crypto.maxPayloadLen with
  | .error e =>
    ({ result := .returned (.error (.other (e.toString debugStr))), fatal := false }, state)
  | .ok fragments => sendFragments crypto circumstances 0 state (fragments.collect codec)

/-- The fragments that `sendMessage` goes through, none if the message is refused. -/
def fragmentsOf (codec : HeaderCodec) (messageId : UInt64) (maxPayloadLen : ℕ)
    (message : OutgoingMessage) : List OutgoingMessage :=
  match Fragments.split messageId message maxPayloadLen with
  | .error _ => []
  | .ok fragments => fragments.collect codec

end Client

end SdkInternal.Ipc
