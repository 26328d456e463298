import SdkInternal.Model.Ipc.Noise.TransportState

/-! # The Noise NN handshake

The initiator sends a start message, the responder answers it with a finish message, and
both derive the keys of the two directions from the handshake. -/

namespace SdkInternal.Ipc.Noise

inductive CipherSuite where
  | noiseNN25519ChaChaPolyBLAKE2s
  | noiseNN25519AESGCMSHA256
  | noiseNNP256AESGCMSHA256
deriving DecidableEq

instance : Inhabited CipherSuite := ⟨.noiseNNP256AESGCMSHA256⟩

def CipherSuite.transportCipher : CipherSuite → TransportCipher
  | .noiseNN25519ChaChaPolyBLAKE2s => .chaCha20Poly1305
  | .noiseNN25519AESGCMSHA256 => .aes256Gcm
  | .noiseNNP256AESGCMSHA256 => .aes256Gcm

structure HandshakeStartMessage where
  ciphersuite : CipherSuite
  noiseFrame : List UInt8
deriving DecidableEq

structure HandshakeFinishMessage where
  noiseFrame : List UInt8
deriving DecidableEq

/-- The keys from initiator to responder and back. -/
structure Split where
  i2r : SymmetricKey
  r2i : SymmetricKey

/-- The handshake states of `snow`. A side is determined by its cipher suite and by the
number its ephemeral key is made from. Reading a message can fail. -/
structure Snow where
  writeStart : CipherSuite → ℕ → List UInt8
  respond : CipherSuite → List UInt8 → ℕ → Option (List UInt8 × Split)
  readResponse : CipherSuite → ℕ → List UInt8 → Option Split

variable (snow : Snow)

/-- The two sides of one handshake derive the same keys. -/
def Snow.Agrees : Prop :=
  ∀ suite initiator responder response split split',
    snow.respond suite (snow.writeStart suite initiator) responder = some (response, split) →
    snow.readResponse suite initiator response = some split' → split' = split

structure HandshakeInitiator where
  ciphersuite : CipherSuite
  ephemeral : ℕ

variable (initiator : HandshakeInitiator)

def HandshakeInitiator.writeStartMessage : HandshakeStartMessage where
  ciphersuite := initiator.ciphersuite
  noiseFrame := snow.writeStart initiator.ciphersuite initiator.ephemeral

/-- `none` if the message is not an answer to the initiator's start message. -/
def HandshakeInitiator.readResponseMessage (message : HandshakeFinishMessage) : Option Split :=
  snow.readResponse initiator.ciphersuite initiator.ephemeral message.noiseFrame

def HandshakeInitiator.transportState (split : Split) (now : UInt64) : PersistentTransportState :=
  .new split.i2r split.r2i initiator.ciphersuite.transportCipher now

/-- A responder that has written its response. -/
structure HandshakeResponder where
  ciphersuite : CipherSuite
  split : Split

/-- `read_start_message` and `write_response_message`, whose errors the provider treats
alike. -/
def HandshakeResponder.respond (snow : Snow) (message : HandshakeStartMessage)
    (ephemeral : ℕ) : Option (HandshakeFinishMessage × HandshakeResponder) :=
  (snow.respond message.ciphersuite message.noiseFrame ephemeral).map fun (response, split) =>
    (⟨response⟩, ⟨message.ciphersuite, split⟩)

def HandshakeResponder.transportState (responder : HandshakeResponder) (now : UInt64) :
    PersistentTransportState :=
  .new responder.split.r2i responder.split.i2r responder.ciphersuite.transportCipher now

end SdkInternal.Ipc.Noise
