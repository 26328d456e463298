import SdkInternal.Model.Ipc.Noise.Provider

/-! # Two providers that talk to each other

Two providers are connected by channels that deliver every frame, in order. A frame
arrives at a side after it was handed to the other side's backend, and from then on both
the receive loop and the subscription of a handshake can take it, each at its own pace.
The backends never fail, but a handshake may time out. -/

namespace SdkInternal.Ipc.Noise

open Shared Function

inductive Side where
  | a
  | b
deriving DecidableEq

def Side.other : Side → Side
  | .a => .b
  | .b => .a

/-- One side: its provider, and how many frames of the other side have arrived, have been
taken by the receive loop, and are behind the subscription of the last handshake. -/
structure Node where
  provider : Provider
  arrived : ℕ
  taken : ℕ
  subscription : ℕ

abbrev Peers := Side → Node

inductive PeerAction where
  /-- The next frame of the other side arrives. -/
  | arrive (side : Side)
  /-- The receive loop takes the next frame that has arrived. -/
  | take (side : Side) (ephemeral : ℕ)
  /-- The subscription of a handshake yields its next frame. -/
  | hear (side : Side) (task : ℕ) (now : UInt64)
  | act (side : Side) (action : Action)

namespace Peers

def initial : Peers := fun _ =>
  { provider := Provider.start ∅, arrived := 0, taken := 0, subscription := 0 }

/-- How a frame of the side `sender` arrives. -/
def delivered (source : Side → Source) (sender : Side) (out : OutgoingFrame) :
    IncomingFrame where
  source := source sender
  destination := out.destination
  topic := out.topic
  frame := some out.frame

/-- The backend accepts every frame, calls are addressed to the peer, and frames are only
received as the channel delivers them. -/
def reliable (peer : Endpoint) : Action → Bool
  | .send _ (.call message) => decide (message.destination = peer)
  | .send _ (.startAnswer answer) => answer.isNone
  | .send _ (.frameAnswer answer) => answer.isNone
  | .send _ (.incoming _ _) => false
  | .send _ (.receiveError _) => false
  | .send _ _ => true
  | .loop (.receive _ _) => false
  | .loop .receiveError => false
  | .loop (.finishAnswer answer _) => answer.isNone
  | .loop (.invalidatedAnswer answer) => answer.isNone
  | .loop .abort => false
  | .loop _ => true

def peerEndpoint (source : Side → Source) (side : Side) : Endpoint :=
  (source side.other).toEndpoint

/-- A handshake subscribes to the frames that arrive from now on. -/
def subscribes : Action → Bool
  | .send _ (.subscribe _) => true
  | _ => false

def step (prims : Primitives) (source : Side → Source) (p : Peers) : PeerAction → Option Peers
  | .arrive side =>
    if (p side).arrived < (p side.other).provider.outbox.length then
      some (Function.update p side { p side with arrived := (p side).arrived + 1 })
    else none
  | .take side ephemeral =>
    if (p side).taken < (p side).arrived then
      match (p side.other).provider.outbox[(p side).taken]? with
      | none => none
      | some out =>
        ((p side).provider.step prims
          (.loop (.receive (delivered source side.other out) ephemeral))).map
          fun provider =>
            Function.update p side { p side with provider, taken := (p side).taken + 1 }
    else none
  | .hear side task now =>
    if (p side).subscription < (p side).arrived then
      match (p side.other).provider.outbox[(p side).subscription]? with
      | none => none
      | some out =>
        ((p side).provider.step prims
          (.send task (.incoming (delivered source side.other out) now))).map
          fun provider =>
            Function.update p side
              { p side with provider, subscription := (p side).subscription + 1 }
    else none
  | .act side action =>
    if reliable (peerEndpoint source side) action then
      ((p side).provider.step prims action).map fun provider =>
        Function.update p side
          { p side with
            provider
            subscription :=
              if subscribes action then (p side).arrived else (p side).subscription }
    else none

end Peers

end SdkInternal.Ipc.Noise
