import SdkInternal.Shared.Run
import Mathlib.Algebra.Order.Ring.Nat

/-! # Transport states of a Noise session

Each side of a session holds a key for either direction and the last nonce used in it.
Sending counts the nonce up, receiving accepts only frames with a larger nonce. -/

namespace SdkInternal.Ipc.Noise

open Shared

def keySize : ℕ := 32

inductive TransportCipher where
  | chaCha20Poly1305
  | aes256Gcm

structure SymmetricKey where
  bytes : List UInt8
  length_eq : bytes.length = keySize
deriving DecidableEq

/-- The ciphers of `snow`, without associated data. -/
structure Aead where
  encrypt : TransportCipher → SymmetricKey → UInt64 → List UInt8 → List UInt8
  decrypt : TransportCipher → SymmetricKey → UInt64 → List UInt8 → Option (List UInt8)

structure TransportFrame where
  payload : List UInt8
  nonce : UInt64
deriving DecidableEq

inductive ReceiveError where
  | nonceReplay
  | decryption

structure PersistentTransportState where
  transportCipher : TransportCipher
  sendKey : SymmetricKey
  receiveKey : SymmetricKey
  sendNonce : UInt64
  receiveNonce : UInt64
  lastHandshakeTime : UInt64

namespace PersistentTransportState

def new (sendKey receiveKey : SymmetricKey) (transportCipher : TransportCipher)
    (now : UInt64) : PersistentTransportState where
  transportCipher
  sendKey
  receiveKey
  sendNonce := 0
  receiveNonce := 0
  lastHandshakeTime := now

def isOlderThan (s : PersistentTransportState) (now maxAge : UInt64) : Bool :=
  decide (maxAge.toNat < now.toNat - s.lastHandshakeTime.toNat)

/-- `u64::checked_add(1)`. -/
def checkedAddOne (n : UInt64) : Option UInt64 :=
  if n.toNat + 1 < 2 ^ 64 then some (n + 1) else none

variable (aead : Aead)

/-- Encrypts the payload under the next nonce. The code panics, here `none`, rather than
let the nonce overflow. -/
def send (s : PersistentTransportState) (payload : List UInt8) :
    Option (TransportFrame × PersistentTransportState) :=
  (checkedAddOne s.sendNonce).map fun sendNonce =>
    ({ payload := aead.encrypt s.transportCipher s.sendKey sendNonce payload
       nonce := sendNonce },
      { s with sendNonce })

def receive (s : PersistentTransportState) (frame : TransportFrame) :
    Except ReceiveError (List UInt8) × PersistentTransportState :=
  if frame.nonce > s.receiveNonce then
    match aead.decrypt s.transportCipher s.receiveKey frame.nonce frame.payload with
    | some plaintext => (.ok plaintext, { s with receiveNonce := frame.nonce })
    | none => (.error .decryption, s)
  else (.error .nonceReplay, s)

def sendAll (aead : Aead) : PersistentTransportState → List (List UInt8) →
    List (List UInt8 × TransportFrame)
  | _, [] => []
  | s, payload :: payloads =>
    match s.send aead payload with
    | none => []
    | some (frame, s') => (payload, frame) :: sendAll aead s' payloads

def receiveAll : PersistentTransportState → List TransportFrame →
    List (Except ReceiveError (List UInt8)) × PersistentTransportState :=
  feed (receive aead)

end PersistentTransportState

end SdkInternal.Ipc.Noise
