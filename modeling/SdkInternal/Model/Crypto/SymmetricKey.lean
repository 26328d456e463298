import SdkInternal.Model.Crypto.Aes256CbcHmac
import SdkInternal.Model.Crypto.Cose

/-! # Symmetric keys

The five kinds of symmetric keys and their encodings. In the legacy encoding a key is told
apart by its length alone, so a COSE key is padded beyond the lengths of the other two. -/

namespace SdkInternal.Crypto

abbrev KeyId := Vector UInt8 16

structure Aes256CbcKey where
  encKey : Subkey
  deriving DecidableEq

/-- The fields that the keys for COSE messages share. -/
structure CoseSymmetricKey where
  keyId : KeyId
  encKey : Subkey
  supportedOperations : List KeyOperation
  deriving DecidableEq

abbrev XChaCha20Poly1305Key := CoseSymmetricKey
abbrev Aes256GcmKey := CoseSymmetricKey
abbrev XAes256GcmKey := CoseSymmetricKey

inductive SymmetricCryptoKey where
  | aes256CbcKey (key : Aes256CbcKey)
  | aes256CbcHmacKey (key : Aes256CbcHmacKey)
  | xChaCha20Poly1305Key (key : XChaCha20Poly1305Key)
  | aes256GcmKey (key : Aes256GcmKey)
  | xAes256GcmKey (key : XAes256GcmKey)
  deriving DecidableEq

inductive EncodedSymmetricKey where
  | bitwardenLegacyKey (key : List UInt8)
  | coseKey (key : List UInt8)

namespace EncodedSymmetricKey

def toVec : EncodedSymmetricKey → List UInt8
  | .bitwardenLegacyKey key => key
  | .coseKey key => key

def contentFormat : EncodedSymmetricKey → ContentFormat
  | .bitwardenLegacyKey _ => .bitwardenLegacyKey
  | .coseKey _ => .coseKey

end EncodedSymmetricKey

/-- `pad_key`. The padding of a minimum length below 255 cannot fail, which the source
expects. -/
def padKey (keyBytes : List UInt8) (minLength : UInt8) : List UInt8 :=
  match padBytes keyBytes minLength.toNat with
  | .ok padded => padded
  | .error _ => keyBytes

def unpadKey (keyBytes : List UInt8) : Except CryptoError (List UInt8) :=
  match unpadBytes keyBytes with
  | .ok bytes => .ok bytes
  | .error _ => .error .invalidKey

/-- The COSE key of a key that names its algorithm. -/
def CoseSymmetricKey.toCoseKey (self : CoseSymmetricKey) (alg : Algorithm) : CoseKey :=
  let builder := { CoseKey.newSymmetricKey self.encKey.toList with keyId := self.keyId.toList }
  { self.supportedOperations.foldl CoseKey.addKeyOp builder with alg := some alg }

namespace SymmetricCryptoKey

def aes256CbcKeyLen : ℕ := 32
def aes256CbcHmacKeyLen : ℕ := 64

/-! ## From and to COSE keys -/

/-- The operations that a parsed key may have. -/
def parseKeyOp : KeyOperationLabel → Except CryptoError KeyOperation
  | .assigned .encrypt => .ok .encrypt
  | .assigned .decrypt => .ok .decrypt
  | .assigned .wrapKey => .ok .wrapKey
  | .assigned .unwrapKey => .ok .unwrapKey
  | _ => .error .invalidKey

variable (coseKey : CoseKey)

def keyBytes : Option (List UInt8) :=
  coseKey.params.findSome? fun (label, value) =>
    match value with
    | .bytes bytes => if label = CoseKey.symmetricKeyLabel then some bytes else none
    | .other => none

/-- The fields of a COSE key, as arrays of their lengths. -/
def coseFields (bytes : List UInt8) (operations : List KeyOperation) :
    Except CryptoError CoseSymmetricKey :=
  match bytesToArray 32 bytes with
  | none => .error .invalidKey
  | some encKey =>
    match bytesToArray 16 coseKey.keyId with
    | none => .error .invalidKey
    | some keyId => .ok ⟨keyId, encKey, operations⟩

/-- `TryFrom<&coset::CoseKey> for SymmetricCryptoKey`. -/
def tryFromCoseKey : Except CryptoError SymmetricCryptoKey :=
  match keyBytes coseKey with
  | none => .error .invalidKey
  | some bytes =>
    match coseKey.alg with
    | none => .error .invalidKey
    | some alg => do
      let operations ← coseKey.keyOps.mapM parseKeyOp
      if alg = .privateUse xChaCha20Poly1305Id then
        return .xChaCha20Poly1305Key (← coseFields coseKey bytes operations)
      else if alg = .privateUse xAes256GcmId then
        return .xAes256GcmKey (← coseFields coseKey bytes operations)
      else if alg = .a256Gcm then
        return .aes256GcmKey (← coseFields coseKey bytes operations)
      else .error .invalidKey

section Encoding

variable (coset : Coset)

def tryFromCose (serializedKey : List UInt8) : Except CryptoError SymmetricCryptoKey :=
  match coset.keyFromSlice serializedKey with
  | none => .error .invalidKey
  | some coseKey => tryFromCoseKey coseKey

def toEncodedRaw : SymmetricCryptoKey → EncodedSymmetricKey
  | .aes256CbcKey key => .bitwardenLegacyKey key.encKey.toList
  | .aes256CbcHmacKey key => .bitwardenLegacyKey key.key.toList
  | .xChaCha20Poly1305Key key =>
    .coseKey (coset.keyToVec (key.toCoseKey (.privateUse xChaCha20Poly1305Id)))
  | .xAes256GcmKey key => .coseKey (coset.keyToVec (key.toCoseKey (.privateUse xAes256GcmId)))
  | .aes256GcmKey key => .coseKey (coset.keyToVec (key.toCoseKey .a256Gcm))

/-! ## Legacy encoding -/

def toEncoded (self : SymmetricCryptoKey) : List UInt8 :=
  match toEncodedRaw coset self with
  | .bitwardenLegacyKey key => key
  | .coseKey key => padKey key (UInt8.ofNat (aes256CbcHmacKeyLen + 1))

/-- `TryFrom<EncodedSymmetricKey> for SymmetricCryptoKey`. -/
def tryFromEncoded : EncodedSymmetricKey → Except CryptoError SymmetricCryptoKey
  | .bitwardenLegacyKey key =>
    match bytesToArray 32 key with
    | some encKey => .ok (.aes256CbcKey ⟨encKey⟩)
    | none =>
      match bytesToArray 64 key with
      | some compositeKey => .ok (.aes256CbcHmacKey ⟨compositeKey⟩)
      | none => .error .invalidKey
  | .coseKey key => tryFromCose coset key

/-- `TryFrom<&BitwardenLegacyKeyBytes> for SymmetricCryptoKey`. -/
def tryFromLegacy (value : List UInt8) : Except CryptoError SymmetricCryptoKey :=
  if value.length = aes256CbcHmacKeyLen ∨ value.length = aes256CbcKeyLen then
    tryFromEncoded coset (.bitwardenLegacyKey value)
  else if aes256CbcHmacKeyLen < value.length then do
    let unpaddedValue ← unpadKey value
    tryFromCose coset unpaddedValue
  else .error .invalidKeyLen

end Encoding

/-! ## Key ids -/

/-- The id of a legacy key is the start of its thumbprint, which is a hash of its bytes. -/
def keyId (thumbprint : List UInt8 → Vector UInt8 32) : SymmetricCryptoKey → Option KeyId
  | .aes256CbcKey _ => none
  | .aes256CbcHmacKey key => some ((thumbprint key.key.toList).take 16)
  | .xChaCha20Poly1305Key key => some key.keyId
  | .aes256GcmKey key => some key.keyId
  | .xAes256GcmKey key => some key.keyId

end SymmetricCryptoKey

end SdkInternal.Crypto
