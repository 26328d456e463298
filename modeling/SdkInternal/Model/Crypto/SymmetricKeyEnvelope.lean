import SdkInternal.Model.Crypto.Aes256CbcHmacAead
import SdkInternal.Model.Crypto.KeyStore

/-! # Envelopes for symmetric keys

A key sealed with a key-encryption-key of the store. -/

namespace SdkInternal.Crypto

inductive KeyEncryptionKeyError where
  | missing
  | wrongKeyType

inductive SymmetricKeyEnvelopeError where
  | keyMissing
  | wrongKeyType

def SymmetricKeyEnvelopeError.from : KeyEncryptionKeyError → SymmetricKeyEnvelopeError
  | .missing => .keyMissing
  | .wrongKeyType => .wrongKeyType

inductive SymmetricKeyEnvelopeNamespace where
  | sessionKey
  | organizationInvite

/-- A header with the values under the crate's own labels. -/
structure SafeHeader extends Header where
  containedKeyId : Option KeyId
  /-- `SafeObjectNamespace::SymmetricKeyEnvelope`. -/
  objectNamespace : ℤ := 3
  contentNamespace : SymmetricKeyEnvelopeNamespace

structure SymmetricKeyEnvelope where
  protectedHeader : SafeHeader
  iv : List UInt8
  ciphertext : List UInt8

inductive CoseKeyView where
  | xAes256Gcm (key : XAes256GcmKey)
  | aes256CbcHmac (key : Aes256CbcHmacKey)

def aes256CbcHmacSha256AeadId : ℤ := -70011

/-- `CoseKeyView::key_id`. The id of a legacy key is the start of its thumbprint. -/
def CoseKeyView.keyId (thumbprint : List UInt8 → Vector UInt8 32) : CoseKeyView → KeyId
  | .xAes256Gcm key => key.keyId
  | .aes256CbcHmac key => (thumbprint key.key.toList).take 16

section

variable (prims : Primitives) (cose : CosePrimitives) (headerToVec : SafeHeader → List UInt8)

/-- `encrypt_cose0` with the algorithm and the bytes of the key. -/
def encryptCose0 (key : CoseKeyView) (header : SafeHeader) (plaintext : List UInt8)
    (random : EncryptionRandom) : Except CryptoError SymmetricKeyEnvelope := do
  let plaintext ← match ContentFormat.ofHeader header.toHeader with
    | .ok format => padContent plaintext format
    | .error _ => .ok plaintext
  match key with
  | .xAes256Gcm key =>
    let header := { header with alg := some (.privateUse xAes256GcmId) }
    return ⟨header, random.nonce.toList, cose.xAes256Gcm.encrypt key.encKey random.nonce plaintext
      (cose.encStructure (headerToVec header))⟩
  | .aes256CbcHmac key =>
    let header := { header with alg := some (.privateUse aes256CbcHmacSha256AeadId) }
    return ⟨header, random.iv.toList, Aes256CbcHmacSha256Aead.encrypt prims key.key random.iv
      plaintext (cose.encStructure (headerToVec header))⟩

namespace KeyStoreContext

variable {κ : Type} [DecidableEq κ] [KeySlotId κ] (self : KeyStoreContext κ)

def getCoseKeyView (keyId : κ) : Except KeyEncryptionKeyError CoseKeyView := do
  match ← (self.getSymmetricKey keyId).mapError fun _ => .missing with
  | .xAes256GcmKey key => .ok (.xAes256Gcm key)
  | .aes256CbcHmacKey key => .ok (.aes256CbcHmac key)
  | _ => .error .wrongKeyType

/-- `SymmetricKeyEnvelope::seal`. -/
def sealSymmetricKey (thumbprint : List UInt8 → Vector UInt8 32) (keyToSeal sealingKey : κ)
    (contentNamespace : SymmetricKeyEnvelopeNamespace) (random : EncryptionRandom) :
    Except SymmetricKeyEnvelopeError SymmetricKeyEnvelope := do
  let keyToSeal ← (self.getSymmetricKey keyToSeal).mapError fun _ => .keyMissing
  let wrappingKey ← (self.getCoseKeyView sealingKey).mapError .from
  let encoded := keyToSeal.toEncodedRaw cose.toCoset
  let header : SafeHeader :=
    { encoded.contentFormat.toHeader with
      containedKeyId := keyToSeal.keyId thumbprint
      contentNamespace
      keyId := (wrappingKey.keyId thumbprint).toList }
  (encryptCose0 prims cose headerToVec wrappingKey header encoded.toVec random).mapError
    fun _ => .wrongKeyType

end KeyStoreContext

end

end SdkInternal.Crypto
