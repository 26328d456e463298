import SdkInternal.Model.Crypto.Error
import SdkInternal.Model.Vault.Records

/-! # Sealed items and key contexts

The contents of a sealed item, and what the vault uses of the crypto crate and of other
libraries. -/

namespace SdkInternal.Vault

open Crypto

/-! ## The contents of a blob -/

structure LoginUriDataV1 where
  uri : Option String
  matchType : Option UriMatchType
  deriving DecidableEq

structure Fido2CredentialDataV1 where
  (credentialId keyType keyAlgorithm keyCurve keyValue rpId : String)
  (userHandle userName : Option String)
  counter : UInt64
  (rpName userDisplayName : Option String)
  discoverable : Bool
  creationDate : DateTime
  deriving DecidableEq

structure LoginDataV1 where
  (username password : Option String)
  passwordRevisionDate : Option DateTime
  uris : List LoginUriDataV1
  totp : Option String
  autofillOnPageLoad : Option Bool
  httpAuthenticationEnabled : Bool
  fido2Credentials : List Fido2CredentialDataV1
  deriving DecidableEq

/-- The data of the other types have the fields of their views, with dates as texts. -/
inductive CipherTypeDataV1 where
  | login (data : LoginDataV1)
  | card (data : Card (Option String))
  | identity (data : Identity (Option String))
  | secureNote (data : SecureNote)
  | sshKey (data : SshKeyView)
  | bankAccount (data : BankAccount (Option String))
  | passport (data : Passport (Option String))
  | driversLicense (data : DriversLicense (Option String))
  deriving DecidableEq

structure CipherBlobV1 where
  name : String
  notes : Option String
  typeData : CipherTypeDataV1
  fields : List (Field (Option String))
  passwordHistory : List (PasswordHistory String)
  deriving DecidableEq

structure DataEnvelope where
  bytes : List UInt8

def blobFormatVersion : UInt8 := 1

structure SealedCipherBlob (EncString : Type) where
  formatVersion : UInt8
  wrappedCek : EncString
  envelope : DataEnvelope

/-- The part of a restricted item that the server sends. -/
structure RestrictedCipherData (EncString : Type) where
  name : Option EncString
  uris : Option (List (LoginUri EncString))

/-! ## Contexts -/

structure Libraries where
  sha256 : List UInt8 → List UInt8
  /-- The public key and the fingerprint of a private key that can be imported. -/
  importKey : String → Option (String × String)
  parseDate : String → Option NaiveDate
  formatDate : NaiveDate → String

/-- A slot of the key store, as what looking it up gives. -/
abbrev KeySlot (SymmetricKey : Type) := Except CryptoError SymmetricKey

/-- Reading with a context of the key store. -/
structure DecryptContext (EncString SymmetricKey : Type) extends Libraries where
  decrypt : SymmetricKey → EncString → Except CryptoError String
  unwrapSymmetricKey : SymmetricKey → EncString → Except CryptoError SymmetricKey
  /-- The envelope, opened with the content key that is wrapped next to it. -/
  unsealWithWrappingKey : SymmetricKey → EncString → DataEnvelope → Option CipherBlobV1
  fromOpaqueString : String → Option (SealedCipherBlob EncString)
  parseRestricted : String → Option (RestrictedCipherData EncString)
  securityStateVersion : ℕ

/-- Writing with a context of the key store. `Random` is the state of the random source. -/
structure EncryptContext (EncString SymmetricKey Random : Type) extends
    DecryptContext EncString SymmetricKey where
  encrypt : SymmetricKey → String → StateT Random (Except CryptoError) EncString
  wrapSymmetricKey : SymmetricKey → SymmetricKey → StateT Random (Except CryptoError) EncString
  generateSymmetricKey : StateT Random (Except CryptoError) SymmetricKey
  /-- The envelope under a new content key, and this key wrapped. -/
  sealWithWrappingKey :
    SymmetricKey → CipherBlobV1 → StateT Random Option (DataEnvelope × EncString)
  toOpaqueString : SealedCipherBlob EncString → String

section Slots

variable {EncString SymmetricKey Random : Type}

namespace DecryptContext

variable (ctx : DecryptContext EncString SymmetricKey) (slot : KeySlot SymmetricKey)

def decryptIn (value : EncString) : Except CryptoError String := do
  ctx.decrypt (← slot) value

def unwrapIn (wrapped : EncString) :
    Except CryptoError SymmetricKey := do
  ctx.unwrapSymmetricKey (← slot) wrapped

end DecryptContext

variable (ctx : EncryptContext EncString SymmetricKey Random) (slot : KeySlot SymmetricKey)

def EncryptContext.encryptIn (text : String) :
    StateT Random (Except CryptoError) EncString := do
  ctx.encrypt (← slot) text

def EncryptContext.wrapIn (key : SymmetricKey) :
    StateT Random (Except CryptoError) EncString := do
  ctx.wrapSymmetricKey (← slot) key

/-- What is written is read back. -/
structure EncryptContext.Lawful : Prop where
  decrypt_encrypt : ∀ {key text random enc random'},
    ctx.encrypt key text random = .ok (enc, random') → ctx.decrypt key enc = .ok text
  unwrap_wrap : ∀ {wrappingKey key random enc random'},
    ctx.wrapSymmetricKey wrappingKey key random = .ok (enc, random') →
    ctx.unwrapSymmetricKey wrappingKey enc = .ok key
  unseal_seal : ∀ {key blob random envelope cek random'},
    ctx.sealWithWrappingKey key blob random = some ((envelope, cek), random') →
    ctx.unsealWithWrappingKey key cek envelope = some blob
  fromOpaqueString_toOpaqueString : ∀ {key blob random envelope cek random'},
    ctx.sealWithWrappingKey key blob random = some ((envelope, cek), random') →
    ctx.fromOpaqueString (ctx.toOpaqueString ⟨blobFormatVersion, cek, envelope⟩) =
      some ⟨blobFormatVersion, cek, envelope⟩
  parseDate_formatDate : ∀ date, ctx.parseDate (ctx.formatDate date) = some date

end Slots

end SdkInternal.Vault
