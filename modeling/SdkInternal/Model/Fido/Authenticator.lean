import SdkInternal.Model.Vault.Cipher

/-! # Passkeys in the vault

The authenticator of the passkey library finds and stores passkeys through the vault. The user
selects an item, and the first of its passkeys is used. -/

namespace SdkInternal.Fido

open Vault Shared

variable {CoseKey SymmetricKey : Type}

structure FidoLibraries (CoseKey : Type) where
  parseUuid : String → Option (Vector UInt8 16)
  printUuid : Vector UInt8 16 → String
  pkcs8ToCoseKey : List UInt8 → Option CoseKey
  coseKeyToPkcs8 : CoseKey → Option (List UInt8)

structure Passkey (CoseKey : Type) where
  key : CoseKey
  credentialId : List UInt8
  rpId : String
  userHandle : Option (List UInt8)
  counter : Option UInt32

inductive FidoError where
  | decode
  | invalidGuid
  | privateKeyFromSecretKey
  | noFido2CredentialsFound
  | invalidCounter
  | invalidInputLength
  | coseKeyToPkcs8
  | noSelectedCredential
  | noCredentialFound
  | credentialIdMismatch
  | missingLogin
  | missingUser
  | callback
  deriving DecidableEq

def orError {α : Type} (error : FidoError) (value : Option α) : Except FidoError α :=
  value.elim (.error error) .ok

/-! ## Conversions -/

def b64Url (bytes : List UInt8) : String := String.ofList (Base64.encodeUrl bytes)

/-- `trim_start_matches`, which drops the mark as often as it is there. -/
def trimB64Mark : List Char → List Char
  | 'b' :: '6' :: '4' :: '.' :: text => trimB64Mark text
  | text => text

def parseU32 (text : String) : Option UInt32 := do
  let value ← parseU64 text
  if value.toNat < UInt32.size then some value.toUInt32 else none

namespace FidoLibraries

variable (libs : FidoLibraries CoseKey)

def guidBytesToString (source : List UInt8) : Except FidoError String :=
  if h : source.length = 16 then .ok (libs.printUuid ⟨source.toArray, h⟩)
  else .error .invalidInputLength

def stringToGuidBytes (source : String) : Except FidoError (List UInt8) :=
  match source.toList with
  | 'b' :: '6' :: '4' :: '.' :: text => orError .invalidGuid (Base64.decodeUrl (trimB64Mark text))
  | _ => orError .invalidGuid ((libs.parseUuid source).map (·.toList))

def tryFromCredentialFullView (value : Fido2Credential String) :
    Except FidoError (Passkey CoseKey) := do
  let counter ← orError .invalidCounter (parseU32 value.counter)
  let keyValue ← orError .decode (Base64.decodeUrl value.keyValue.toList)
  let userHandle ← traverse (fun userHandle : String =>
    orError .decode (Base64.decodeUrl userHandle.toList)) value.userHandle
  let key ← orError .privateKeyFromSecretKey (libs.pkcs8ToCoseKey keyValue)
  let credentialId ← libs.stringToGuidBytes value.credentialId
  return { key, credentialId, rpId := value.rpId, userHandle,
           counter := if counter = 0 then none else some counter }

/-- A passkey of the library, with what the library does not keep. -/
def toFullView (value : Passkey CoseKey) (userHandle : Option (List UInt8))
    (rpName userName userDisplayName : Option String) (discoverable : String)
    (creationDate : DateTime) : Except FidoError (Fido2Credential String) := do
  let keyValue ← orError .coseKeyToPkcs8 (libs.coseKeyToPkcs8 value.key)
  let credentialId ← libs.guidBytesToString value.credentialId
  return { credentialId, keyType := "public-key", keyAlgorithm := "ECDSA", keyCurve := "P-256"
           keyValue := b64Url keyValue, rpId := value.rpId, userHandle := userHandle.map b64Url
           counter := toString (value.counter.getD 0).toNat
           rpName, userName, userDisplayName, discoverable, creationDate }

def fillWithCredential (view : Fido2Credential String) (value : Passkey CoseKey) :
    Except FidoError (Fido2Credential String) :=
  libs.toFullView value value.userHandle view.rpName view.userName view.userDisplayName "true"
    view.creationDate

structure NewCredential where
  userId : List UInt8
  (userName userDisplayName rpName : Option String)
  rk : Bool
  now : DateTime

def tryFromCredentialFull (value : Passkey CoseKey) (request : NewCredential) :
    Except FidoError (Fido2Credential String) :=
  libs.toFullView value (some request.userId) request.rpName request.userName
    request.userDisplayName (toString request.rk) request.now

end FidoLibraries

def getFido2Credentials (cipher : CipherView SymmetricKey) : List (Fido2Credential String) :=
  (cipher.login.bind (·.fido2Credentials)).getD []

/-- An item is a passkey by its first one. -/
def FidoLibraries.tryFromCipherView (libs : FidoLibraries CoseKey)
    (value : CipherView SymmetricKey) : Except FidoError (Passkey CoseKey) := do
  let cred ← orError .noFido2CredentialsFound (getFido2Credentials value).head?
  libs.tryFromCredentialFullView cred

def setNewFido2Credentials (creds : List (Fido2Credential String))
    (cipher : CipherView SymmetricKey) : Except FidoError (CipherView SymmetricKey) := do
  let login ← orError .missingLogin cipher.login
  return { cipher with login := some { login with fido2Credentials := some creds } }

/-! ## The authenticator -/

/-- The host of the SDK: its credential store and its user interface. -/
structure Host (SymmetricKey : Type) where
  findCredentials : Option (List (List UInt8)) → String → Option (List (CipherView SymmetricKey))
  pickCredentialForAuthentication :
    List (CipherView SymmetricKey) → Option (CipherView SymmetricKey)
  /-- Whether an item can be encrypted and stored. -/
  saveCredential : CipherView SymmetricKey → Bool

/-- The state is the selected item. -/
abbrev FidoM (SymmetricKey : Type) :=
  StateT (Option (CipherView SymmetricKey)) (Except FidoError)

structure GetAssertionRequest where
  rpId : String
  allowList : Option (List (List UInt8))

/-- What the passkey library answers, with the passkey that made the signature. -/
structure AssertionResponse (CoseKey : Type) where
  signedWith : Passkey CoseKey
  user : Option (List UInt8)

structure CredentialStore (CoseKey SymmetricKey : Type) where
  findCredentials : Option (List (List UInt8)) → String →
    FidoM SymmetricKey (List (CipherView SymmetricKey))
  tryIntoPasskey : CipherView SymmetricKey → Except FidoError (Passkey CoseKey)
  updateCredential : Passkey CoseKey → FidoM SymmetricKey Unit

/-- `get_assertion` of the passkey library. -/
abbrev PasskeyLibrary (CoseKey SymmetricKey : Type) :=
  CredentialStore CoseKey SymmetricKey → GetAssertionRequest →
    FidoM SymmetricKey (AssertionResponse CoseKey)

structure GetAssertionResult (CoseKey SymmetricKey : Type) where
  credentialId : List UInt8
  signedWith : Passkey CoseKey
  userHandle : List UInt8
  selectedCredential : CipherView SymmetricKey × Fido2Credential String

variable (libs : FidoLibraries CoseKey) (host : Host SymmetricKey)

def getSelectedCredential : FidoM SymmetricKey (CipherView SymmetricKey × Fido2Credential String) :=
  do
    let cipher ← orError .noSelectedCredential (← get)
    let credential ← orError .noCredentialFound (getFido2Credentials cipher).head?
    return (cipher, credential)

/-- The items that have a list of passkeys. -/
def offered (ciphers : List (CipherView SymmetricKey)) : List (CipherView SymmetricKey) :=
  ciphers.filter fun cipher => (cipher.login.bind (·.fido2Credentials)).isSome

/-- To authenticate, the user picks one of the items. -/
def findCredentials (createCredential : Bool) (ids : Option (List (List UInt8))) (rpId : String) :
    FidoM SymmetricKey (List (CipherView SymmetricKey)) := do
  let ciphers ← orError .callback (host.findCredentials ids rpId)
  if createCredential then return offered ciphers
  else
    let picked ← orError .callback (host.pickCredentialForAuthentication (offered ciphers))
    set (some picked)
    return [picked]

/-- Puts the passkeys into the item and has it stored. -/
def storeCredentials (cipher : CipherView SymmetricKey) (creds : List (Fido2Credential String)) :
    FidoM SymmetricKey Unit := do
  let selected ← setNewFido2Credentials creds cipher
  set (some selected)
  ensure (host.saveCredential selected = true) FidoError.callback

def saveCredential (cred : Passkey CoseKey) (request : FidoLibraries.NewCredential) :
    FidoM SymmetricKey Unit := do
  let cred ← libs.tryFromCredentialFull cred request
  let selected ← orError .noSelectedCredential (← get)
  storeCredentials host selected [cred]

def updateCredential (cred : Passkey CoseKey) : FidoM SymmetricKey Unit := do
  let (cipher, credential) ← getSelectedCredential
  let selectedId ← libs.stringToGuidBytes credential.credentialId
  ensure (cred.credentialId = selectedId) FidoError.credentialIdMismatch
  storeCredentials host cipher [← libs.fillWithCredential credential cred]

def getAssertion (library : PasskeyLibrary CoseKey SymmetricKey) (request : GetAssertionRequest) :
    FidoM SymmetricKey (GetAssertionResult CoseKey SymmetricKey) := do
  let response ← library
    ⟨findCredentials host false, libs.tryFromCipherView, updateCredential libs host⟩ request
  let selectedCredential ← getSelectedCredential
  let credentialId ← libs.stringToGuidBytes selectedCredential.2.credentialId
  let userHandle ← orError .missingUser response.user
  return { credentialId, signedWith := response.signedWith, userHandle, selectedCredential }

end SdkInternal.Fido
