import SdkInternal.Model.KeyManagement.V2UpgradeToken

/-! # The keys of a client

A client holds keys in slots, and reads and writes what its host keeps: values of the state bridge
and the wrapped key of the local data. -/

namespace SdkInternal.KeyManagement

open Crypto Shared

abbrev UserId := ℕ

abbrev OrganizationId := ℕ

structure CryptoTypes where
  EncString : Type
  SymmetricKey : Type
  PrivateKey : Type
  SigningKey : Type
  SharedKey : Type
  SignedPublicKey : Type
  SignedSecurityState : Type
  SecurityState : Type
  /-- `PasswordProtectedKeyEnvelope`. -/
  PinEnvelope : Type
  SymmetricKeyEnvelope : Type
  Random : Type

inductive SymmetricKeySlotId where
  | master
  | user
  | organization (id : OrganizationId)
  | localUserData
  deriving DecidableEq

variable (T : CryptoTypes)

structure StateBridge where
  userKey : Option T.SymmetricKey
  persistentPinEnvelope : Option T.PinEnvelope
  ephemeralPinEnvelope : Option T.PinEnvelope
  encryptedPin : Option T.EncString
  v2UpgradeToken : Option (V2UpgradeToken T.EncString)

/-- The slots of the key store, its security version and the security state. -/
structure ClientKeys where
  symmetricKeys : SymmetricKeySlotId → Option T.SymmetricKey
  userPrivateKey : Option T.PrivateKey
  userSigningKey : Option T.SigningKey
  securityStateVersion : ℕ
  securityState : Option T.SecurityState

/-- A client. The bridge is absent if none is registered, and the wrapped key of the local data is
that in the repository. -/
structure Client extends ClientKeys T where
  userId : Option UserId
  bridge : Option (StateBridge T)
  localUserDataKey : Option T.EncString
  random : T.Random

section

variable {T : CryptoTypes} {ε α : Type}

def ClientKeys.setSymmetricKey (keys : ClientKeys T) (slot : SymmetricKeySlotId)
    (key : Option T.SymmetricKey) : ClientKeys T :=
  { keys with symmetricKeys := Function.update keys.symmetricKeys slot key }

def Client.withKeys (client : Client T) (keys : ClientKeys T) : Client T :=
  { client with toClientKeys := keys }

/-- `persist_symmetric_key`, and with no key `drop_symmetric_key`. -/
def setSymmetricKey (slot : SymmetricKeySlotId) (key : Option T.SymmetricKey) :
    Stateful (Client T) ε Unit :=
  modify fun client => client.withKeys (client.toClientKeys.setSymmetricKey slot key)

end

/-! ## The repository -/

/-- A write that fails may have been done. -/
inductive WriteOutcome where
  | written
  | failed (stored : Bool)

/-- What happens to the calls that one step makes to the repository. -/
structure RepositoryAccess where
  available : Bool
  readable : Bool
  write : WriteOutcome

/-- The entry of the repository, with the random source. -/
structure LocalDataStore where
  localUserDataKey : Option T.EncString
  random : T.Random

namespace RepositoryAccess

variable {T : CryptoTypes} {ε : Type} (self : RepositoryAccess) (error : ε)

def acquire : Stateful (LocalDataStore T) ε Unit :=
  if self.available then pure () else throw error

def get : Stateful (LocalDataStore T) ε (Option T.EncString) :=
  if self.readable then do return (← MonadState.get).localUserDataKey else throw error

def set (value : T.EncString) : Stateful (LocalDataStore T) ε Unit :=
  match self.write with
  | .written => modify fun store => { store with localUserDataKey := some value }
  | .failed true => do
    modify fun store => { store with localUserDataKey := some value }
    throw error
  | .failed false => throw error

end RepositoryAccess

end SdkInternal.KeyManagement
