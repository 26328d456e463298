import SdkInternal.Model.Crypto.KeyStore

/-! # Upgrade tokens

A token is made when the key of a user moves from the first version to the second, and has each of
the two keys wrapped by the other. -/

namespace SdkInternal.KeyManagement

open Crypto KeyStoreContext

abbrev SymmetricKeyAlgorithm := KeyStoreContext.SymmetricKeyAlgorithm

/-- Reading with keys of a context. Slots are given by what looking them up yields, local slots by
the keys they hold. -/
structure KeyReader (EncString SymmetricKey : Type) where
  algorithm : SymmetricKey → Except CryptoError SymmetricKeyAlgorithm
  decryptBytes : SymmetricKey → EncString → Except CryptoError (List UInt8)
  unwrapSymmetricKey : SymmetricKey → EncString → Except CryptoError SymmetricKey

/-- Writing with keys of a context. `Random` is the state of the random source. -/
structure KeyWriter (EncString SymmetricKey Random : Type) extends
    KeyReader EncString SymmetricKey where
  wrapSymmetricKey : SymmetricKey → SymmetricKey → StateT Random (Except CryptoError) EncString

structure V2UpgradeToken (EncString : Type) where
  wrappedUserKey1 : EncString
  wrappedUserKey2 : EncString

inductive V2UpgradeTokenError where
  | decryptionFailed
  | validationFailed
  | wrongKeyType
  | keyMissing
  | encryptionFailed

namespace V2UpgradeToken

variable {EncString SymmetricKey Random : Type}

section Reading

variable (reader : KeyReader EncString SymmetricKey) (self : V2UpgradeToken EncString)

/-- The key of the first version, if it can read the other half. -/
def unwrapV1 (v2Key : SymmetricKey) : Except V2UpgradeTokenError SymmetricKey :=
  match reader.unwrapSymmetricKey v2Key self.wrappedUserKey1 with
  | .error _ => .error .decryptionFailed
  | .ok v1Key =>
    match reader.decryptBytes v1Key self.wrappedUserKey2 with
    | .error _ => .error .validationFailed
    | .ok _ => .ok v1Key

/-- The key of the second version, if it can read the other half. -/
def unwrapV2 (v1Key : SymmetricKey) : Except V2UpgradeTokenError SymmetricKey :=
  match reader.unwrapSymmetricKey v1Key self.wrappedUserKey2 with
  | .error _ => .error .decryptionFailed
  | .ok v2Key =>
    match reader.algorithm v2Key with
    | .error _ => .error .keyMissing
    | .ok algorithm =>
      if algorithm ≠ .xAes256Gcm then .error .wrongKeyType
      else
        match reader.decryptBytes v2Key self.wrappedUserKey1 with
        | .error _ => .error .validationFailed
        | .ok _ => .ok v2Key

end Reading

def checkAlgorithm (reader : KeyReader EncString SymmetricKey) (expected : SymmetricKeyAlgorithm)
    (slot : Except CryptoError SymmetricKey) : Except V2UpgradeTokenError SymmetricKey :=
  match slot with
  | .error _ => .error .keyMissing
  | .ok key =>
    match reader.algorithm key with
    | .error _ => .error .keyMissing
    | .ok algorithm => if algorithm ≠ expected then .error .wrongKeyType else .ok key

variable (writer : KeyWriter EncString SymmetricKey Random)

/-- The wrapped key, or the failure to encrypt it. -/
def wrapHalf (wrappingKey key : SymmetricKey) :
    StateT Random (Except V2UpgradeTokenError) EncString := fun random =>
  (writer.wrapSymmetricKey wrappingKey key random).mapError fun _ => .encryptionFailed

def create (v1Slot v2Slot : Except CryptoError SymmetricKey) :
    StateT Random (Except V2UpgradeTokenError) (V2UpgradeToken EncString) := do
  let v1Key ← checkAlgorithm writer.toKeyReader .aes256CbcHmac v1Slot
  let v2Key ← checkAlgorithm writer.toKeyReader .xAes256Gcm v2Slot
  let wrappedUserKey1 ← wrapHalf writer v2Key v1Key
  let wrappedUserKey2 ← wrapHalf writer v1Key v2Key
  return { wrappedUserKey1, wrappedUserKey2 }

end V2UpgradeToken

/-- Reading with the keys of the crypto crate. -/
def keyReader (prims : Primitives) (cose : CosePrimitives) :
    KeyReader EncString SymmetricCryptoKey where
  algorithm := symmetricKeyAlgorithm
  decryptBytes key data := decryptData prims cose data key
  unwrapSymmetricKey key wrapped := unwrapKey prims cose wrapped key

end SdkInternal.KeyManagement
