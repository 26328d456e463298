import SdkInternal.Model.KeyManagement.InitializeUserCrypto

/-! # Key management on sync

`handle_crypto_sync` first reads the stored account state and then writes what the server reported.
Every access to the state bridge is awaited, so that calls interleave between them. -/

namespace SdkInternal.Sync

open KeyManagement

structure SyncTypes extends CryptoTypes where
  Kdf : Type
  WebAuthnPrfUnlockOption : Type

structure MasterPasswordUnlockData (T : SyncTypes) where
  kdf : T.Kdf
  masterKeyWrappedUserKey : T.EncString
  salt : String
  containedKeyId : Option Crypto.KeyId

structure CryptoSyncUserDecryption (T : SyncTypes) where
  masterPasswordUnlock : Option (MasterPasswordUnlockData T)
  v2UpgradeToken : Option (V2UpgradeToken T.EncString)
  webAuthnPrfOptions : Option (List T.WebAuthnPrfUnlockOption)
  userKeyId : Option Crypto.KeyId

structure CryptoSyncData (T : SyncTypes) where
  userDecryption : Option (CryptoSyncUserDecryption T)
  accountCryptographicState : Option (WrappedAccountCryptographicState T.toCryptoTypes)

/-- The values of a registered state bridge that a sync writes. -/
structure SyncedState (T : SyncTypes) where
  masterpasswordUnlockData : Option (MasterPasswordUnlockData T)
  kdfConfig : Option T.Kdf
  v2UpgradeToken : Option (V2UpgradeToken T.EncString)
  webauthnPrfUnlockData : Option (List T.WebAuthnPrfUnlockOption)
  userKeyId : Option Crypto.KeyId
  accountCryptographicState : Option (WrappedAccountCryptographicState T.toCryptoTypes)

/-- An awaited write to the state bridge. -/
abbrev BridgeWrite (T : SyncTypes) := SyncedState T → SyncedState T

variable {T : SyncTypes} (data : CryptoSyncData T)

def handleUserDecryptionOptions : List (BridgeWrite T) :=
  match data.userDecryption with
  | none => []
  | some userDecryption =>
    (match userDecryption.masterPasswordUnlock with
      | some unlock =>
        [fun stored => { stored with masterpasswordUnlockData := some unlock },
          fun stored => { stored with kdfConfig := some unlock.kdf }]
      | none => [fun stored => { stored with masterpasswordUnlockData := none }]) ++
    [fun stored => { stored with v2UpgradeToken := userDecryption.v2UpgradeToken },
      -- An absent list and an empty list both mean that there are no such credentials.
      fun stored => { stored with
        webauthnPrfUnlockData := userDecryption.webAuthnPrfOptions.filter (!·.isEmpty) },
      fun stored => { stored with userKeyId := userDecryption.userKeyId }]

def handleAccountCryptographicState : List (BridgeWrite T) :=
  match data.accountCryptographicState with
  | none => []
  | some incoming => [fun stored => { stored with accountCryptographicState := some incoming }]

/-- `reinit_user_crypto` gets as far as to store the token if it is given an account state of the
second version and, as `upgrades` says, the client is unlocked with a key that the token replaces.
Its other writes are not to what a sync stores. -/
def handleV2Upgrade (upgrades : Bool) (data : CryptoSyncData T) : List (BridgeWrite T) :=
  match data.accountCryptographicState, data.userDecryption.bind (·.v2UpgradeToken) with
  | some (.v2 ..), some token =>
    if upgrades then [fun stored => { stored with v2UpgradeToken := some token }] else []
  | _, _ => []

def isV2ToV1Downgrade (stored incoming : WrappedAccountCryptographicState T.toCryptoTypes) :
    Bool :=
  match stored, incoming with
  | .v2 .., .v1 _ => true
  | _, _ => false

def isReplayedState (stored : SyncedState T) (data : CryptoSyncData T) : Bool :=
  match data.accountCryptographicState, stored.accountCryptographicState with
  | some incoming, some stored => isV2ToV1Downgrade stored incoming
  | _, _ => false

/-- The writes that follow once the stored state was read. -/
def handleCryptoSync (upgrades : Bool) (data : CryptoSyncData T) (stored : SyncedState T) :
    List (BridgeWrite T) :=
  if isReplayedState stored data then []
  else handleUserDecryptionOptions data ++ handleAccountCryptographicState data ++
    handleV2Upgrade upgrades data

/-! ## Interleavings -/

/-- How far a call of `on_sync` has come. -/
inductive Progress (T : SyncTypes) where
  | notStarted
  | checking
  | writing (rest : List (BridgeWrite T))

/-- The payload of a call, with whether it upgrades an unlocked client. -/
structure OnSync (T : SyncTypes) where
  data : CryptoSyncData T
  upgrades : Bool

structure Syncs (T : SyncTypes) where
  stored : SyncedState T
  progress : ℕ → Progress T

namespace Syncs

def ofStored (stored : SyncedState T) : Syncs T :=
  ⟨stored, fun _ => .notStarted⟩

/-- The call with the given number goes on to its next await point. -/
def step (calls : ℕ → OnSync T) (self : Syncs T) (call : ℕ) : Syncs T :=
  match self.progress call with
  | .notStarted => { self with progress := Function.update self.progress call .checking }
  | .checking => { self with
      progress := Function.update self.progress call
        (.writing (handleCryptoSync (calls call).upgrades (calls call).data self.stored)) }
  | .writing [] => self
  | .writing (write :: rest) =>
    { stored := write self.stored,
      progress := Function.update self.progress call (.writing rest) }

def run (calls : ℕ → OnSync T) (self : Syncs T) (schedule : List ℕ) : Syncs T :=
  schedule.foldl (step calls) self

end Syncs

end SdkInternal.Sync
