import SdkInternal.Model.Crypto.CoseEncryption
import SdkInternal.Model.Crypto.EncString
import SdkInternal.Shared.KeyedStore
import SdkInternal.Shared.Stateful

/-! # Key store contexts

A context has the keys of its own and those of the store it was made from, which it may
change only if it was made for writing. Keys are wrapped and unwrapped by their slots. -/

namespace SdkInternal.Crypto

open Shared Aes256CbcHmacSha256 SymmetricCryptoKey

/-- The random values that one encryption draws. -/
structure EncryptionRandom where
  iv : Iv
  nonce : Nonce

namespace EncString

def encryptAes256Hmac (prims : Primitives) (data : List UInt8) (key : Aes256CbcHmacKey)
    (iv : Iv) : Except CryptoError EncString :=
  let (mac, data) := encrypt prims iv data key.key
  .ok (.aes256CbcHmacSha256 iv mac data)

def encryptXChaCha20Poly1305 (cose : CosePrimitives) (data : List UInt8)
    (key : XChaCha20Poly1305Key) (format : ContentFormat) (nonce : Nonce) :
    Except CryptoError EncString := do
  let data ← Crypto.encryptXChaCha20Poly1305 cose data key format nonce
  return .coseEncrypt0 data

def encryptXAes256Gcm (cose : CosePrimitives) (data : List UInt8) (key : XAes256GcmKey)
    (format : ContentFormat) (nonce : Nonce) : Except CryptoError EncString := do
  let data ← Crypto.encryptXAes256Gcm cose data key format nonce
  return .coseEncrypt0 data

end EncString

/-! ## Slots -/

structure LocalId where
  uuid : Vector UInt8 16
  deriving DecidableEq

/-- The slots for symmetric keys. A slot made for a local id is local. -/
class KeySlotId (κ : Type) where
  isLocal : κ → Bool
  newLocal : LocalId → κ
  debug : κ → String
  isLocal_newLocal : ∀ id, isLocal (newLocal id) = true

structure KeyStoreContext (κ : Type) where
  globalSymmetricKeys : Store κ SymmetricCryptoKey
  /-- Made with access for writing. -/
  readWrite : Bool
  localSymmetricKeys : Store κ SymmetricCryptoKey

namespace KeyStoreContext

variable {κ : Type} [DecidableEq κ] [KeySlotId κ] (self : KeyStoreContext κ)

def getSymmetricKey (keyId : κ) : Except CryptoError SymmetricCryptoKey :=
  let found :=
    if KeySlotId.isLocal keyId then self.localSymmetricKeys.lookup keyId
    else self.globalSymmetricKeys.lookup keyId
  match found with
  | none => .error (.missingKeyId (KeySlotId.debug keyId))
  | some key => .ok key

def setSymmetricKey (keyId : κ) (key : SymmetricCryptoKey) :
    Except CryptoError (KeyStoreContext κ) :=
  if KeySlotId.isLocal keyId then
    .ok { self with localSymmetricKeys := self.localSymmetricKeys.insert keyId key }
  else if self.readWrite then
    .ok { self with globalSymmetricKeys := self.globalSymmetricKeys.insert keyId key }
  else .error .readOnlyKeyStore

inductive SymmetricKeyAlgorithm where
  | aes256CbcHmac
  | xChaCha20Poly1305
  | aes256Gcm
  | xAes256Gcm
  deriving DecidableEq

/-- The algorithm that `get_symmetric_key_algorithm` returns for a key. -/
def symmetricKeyAlgorithm : SymmetricCryptoKey → Except CryptoError SymmetricKeyAlgorithm
  | .aes256CbcKey _ => .error (.operationNotSupported .encryptionNotImplementedForKey)
  | .aes256CbcHmacKey _ => .ok .aes256CbcHmac
  | .xChaCha20Poly1305Key _ => .ok .xChaCha20Poly1305
  | .aes256GcmKey _ => .ok .aes256Gcm
  | .xAes256GcmKey _ => .ok .xAes256Gcm

/-! ## Encryption and decryption -/

section

variable (prims : Primitives) (cose : CosePrimitives) (self : KeyStoreContext κ)

def encryptDataWithSymmetricKey (key : κ) (data : List UInt8) (format : ContentFormat)
    (random : EncryptionRandom) : Except CryptoError EncString := do
  match ← self.getSymmetricKey key with
  | .aes256CbcKey _ => .error (.operationNotSupported .encryptionNotImplementedForKey)
  | .aes256CbcHmacKey key => EncString.encryptAes256Hmac prims data key random.iv
  | .xChaCha20Poly1305Key key =>
    if .encrypt ∉ key.supportedOperations then .error (.keyOperationNotSupported .encrypt)
    else EncString.encryptXChaCha20Poly1305 cose data key format random.nonce
  | .aes256GcmKey _ => .error (.operationNotSupported .encryptionNotImplementedForKey)
  | .xAes256GcmKey key =>
    if .encrypt ∉ key.supportedOperations then .error (.keyOperationNotSupported .encrypt)
    else EncString.encryptXAes256Gcm cose data key format random.nonce

/-- A legacy key wraps the legacy encoding. The keys for COSE messages wrap the encoding
without padding and say in the content format which one it is. -/
def wrapSymmetricKey (wrappingKey keyToWrap : κ) (random : EncryptionRandom) :
    Except CryptoError EncString := do
  let wrappingKeyInstance ← self.getSymmetricKey wrappingKey
  let keyToWrapInstance ← self.getSymmetricKey keyToWrap
  match wrappingKeyInstance with
  | .aes256CbcHmacKey _ =>
    self.encryptDataWithSymmetricKey prims cose wrappingKey
      (keyToWrapInstance.toEncoded cose.toCoset) .bitwardenLegacyKey random
  | .xChaCha20Poly1305Key _ | .xAes256GcmKey _ =>
    let encoded := keyToWrapInstance.toEncodedRaw cose.toCoset
    self.encryptDataWithSymmetricKey prims cose wrappingKey encoded.toVec
      encoded.contentFormat random
  | _ => .error (.operationNotSupported .encryptionNotImplementedForKey)

/-- The key in the content of a message, by the content's format. -/
def unwrapContent : List UInt8 × ContentFormat → Except CryptoError SymmetricCryptoKey
  | (content, .bitwardenLegacyKey) => tryFromLegacy cose.toCoset content
  | (content, .coseKey) => tryFromCose cose.toCoset content
  | _ => .error .invalidKey

/-- The key that `unwrap_symmetric_key` puts into the context. -/
def unwrapKey (wrappedKey : EncString) (wrappingKey : SymmetricCryptoKey) :
    Except CryptoError SymmetricCryptoKey :=
  match wrappedKey, wrappingKey with
  | .aes256Cbc _ _, .aes256CbcKey _ =>
    .error (.operationNotSupported .decryptionNotImplementedForKey)
  | .aes256CbcHmacSha256 iv mac data, .aes256CbcHmacKey key =>
    match decrypt prims iv data mac key.key with
    | .error _ => .error .decrypt
    | .ok content => tryFromLegacy cose.toCoset content
  | .coseEncrypt0 data, .xChaCha20Poly1305Key key => do
    unwrapContent cose (← decryptXChaCha20Poly1305 cose data key)
  | .coseEncrypt0 data, .xAes256GcmKey key => do
    unwrapContent cose (← decryptXAes256Gcm cose data key)
  | .unparseable _, _ => .error .unparseableEncString
  | _, _ => .error .invalidKey

def decryptData (data : EncString) (key : SymmetricCryptoKey) : Except CryptoError (List UInt8) :=
  match data, key with
  | .aes256Cbc _ _, .aes256CbcKey _ =>
    .error (.operationNotSupported .decryptionNotImplementedForKey)
  | .aes256CbcHmacSha256 iv mac data, .aes256CbcHmacKey key =>
    match decrypt prims iv data mac key.key with
    | .error _ => .error .decrypt
    | .ok content => .ok content
  | .coseEncrypt0 data, .xChaCha20Poly1305Key key => do
    return (← decryptXChaCha20Poly1305 cose data key).1
  | .coseEncrypt0 data, .xAes256GcmKey key => do
    return (← decryptXAes256Gcm cose data key).1
  | .unparseable _, _ => .error .unparseableEncString
  | _, _ => .error .invalidKey

def decryptDataWithSymmetricKey (key : κ) (data : EncString) :
    Except CryptoError (List UInt8) := do
  decryptData prims cose data (← self.getSymmetricKey key)

/-- The slot of the unwrapped key and the context that has it. A call that fails leaves the
context as it is. -/
def unwrapSymmetricKey (wrappingKey : κ) (wrappedKey : EncString) (localId : LocalId) :
    Except CryptoError (κ × KeyStoreContext κ) := do
  let wrappingKey ← self.getSymmetricKey wrappingKey
  let key ← unwrapKey prims cose wrappedKey wrappingKey
  let newKeyId := KeySlotId.newLocal localId
  let context ← self.setSymmetricKey newKeyId key
  return (newKeyId, context)

end

end KeyStoreContext

/-! ## Keys of every kind -/

inductive KeyKind where
  | symmetric
  | privateKey
  | signing
  deriving DecidableEq

/-- A context with its keys of every kind. -/
structure FullContext (Slot Key : KeyKind → Type) where
  globalKeys : ∀ kind, Store (Slot kind) (Key kind)
  readWrite : Bool
  localKeys : ∀ kind, Store (Slot kind) (Key kind)

namespace FullContext

variable {Slot Key : KeyKind → Type} [∀ kind, DecidableEq (Slot kind)]
  [∀ kind, KeySlotId (Slot kind)] {kind : KeyKind}

abbrev M (Slot Key : KeyKind → Type) := Stateful (FullContext Slot Key) CryptoError

def find (self : FullContext Slot Key) (slot : Sigma Slot) : Option (Key slot.1) :=
  if KeySlotId.isLocal slot.2 then (self.localKeys slot.1).lookup slot.2
  else (self.globalKeys slot.1).lookup slot.2

variable (keyId : Slot kind)

def getKey : M Slot Key (Key kind) := do
  Stateful.require (.missingKeyId (KeySlotId.debug keyId)) ((← get).find ⟨kind, keyId⟩)

/-- Changes the keys among which a slot is. -/
def change (f : Store (Slot kind) (Key kind) → Store (Slot kind) (Key kind)) :
    M Slot Key Unit := fun self =>
  if KeySlotId.isLocal keyId then
    (.ok (), { self with
      localKeys := Function.update self.localKeys kind (f (self.localKeys kind)) })
  else if self.readWrite then
    (.ok (), { self with
      globalKeys := Function.update self.globalKeys kind (f (self.globalKeys kind)) })
  else (.error .readOnlyKeyStore, self)

def dropKey : M Slot Key Unit :=
  change keyId (·.erase keyId)

def setKey (key : Key kind) : M Slot Key Unit :=
  change keyId (·.insert keyId key)

/-- Moves a key of the context into the store. -/
def persistKey (source target : Slot kind) : M Slot Key Unit := do
  Stateful.ofExcept (ensure (KeySlotId.isLocal source ∧ ¬ KeySlotId.isLocal target)
    CryptoError.invalidKeyStoreOperation)
  let key ← getKey source
  dropKey source
  setKey target key

def persistSymmetricKey := @persistKey Slot Key _ _ .symmetric

def persistPrivateKey := @persistKey Slot Key _ _ .privateKey

def persistSigningKey := @persistKey Slot Key _ _ .signing

end FullContext

end SdkInternal.Crypto
