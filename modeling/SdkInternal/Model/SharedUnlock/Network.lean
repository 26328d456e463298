import SdkInternal.Model.SharedUnlock.Peer

/-! # Peers that send to each other

A fixed number of peers with the messages in flight between them. Deliveries happen in any
order, and a peer handles one message at a time, as its receive loop does. -/

namespace SdkInternal.SharedUnlock

open Ipc Shared

/-- Whom an endpoint leads to, seen from each peer, and as what source a peer appears to
another one. -/
structure Topology (n : ℕ) where
  route : Fin n → Endpoint → Option (Fin n)
  source : Fin n → Fin n → Source

structure Flight (κ : Type) (n : ℕ) where
  receiver : Fin n
  source : Source
  sync : SharedUnlockSync κ

structure Network (κ : Type) (n : ℕ) where
  peers : Fin n → Peer κ
  inFlight : List (Flight κ n)

variable {κ : Type} {n : ℕ}

/-- The messages among what a peer has done. One to an endpoint that leads nowhere is
lost. -/
def Topology.departures (topology : Topology n) (sender : Fin n) (done : List (Effect κ)) :
    List (Flight κ n) :=
  done.filterMap fun effect =>
    match effect with
    | .sent recipient message =>
      (topology.route sender recipient).map fun receiver =>
        ⟨receiver, topology.source sender receiver, message⟩
    | _ => none

def Network.deliver [DecidableEq κ] (topology : Topology n) (net : Network κ n) (index : ℕ)
    (env : Surroundings) : Option (Network κ n) :=
  match net.inFlight[index]? with
  | none => none
  | some flight =>
    let peer := { net.peers flight.receiver with effects := [] }
    let handled := (peer.receiveMessage env flight.source flight.sync).2
    some
      { peers := Function.update net.peers flight.receiver { handled with effects := [] }
        inFlight := net.inFlight.eraseIdx index ++
          topology.departures flight.receiver handled.effects }

end SdkInternal.SharedUnlock
