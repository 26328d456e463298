import SdkInternal.Model.Vault.Payloads

/-! # Items

An item is stored field by field, each value encrypted on its own, or as one sealed blob. The
server may withhold the secrets of an item and send a restricted part of it only. -/

namespace SdkInternal.Vault

open Crypto

/-- What is stored in the clear, and is the same in an item and in its views. -/
structure CipherMetadata where
  (id organizationId folderId : Option Uuid)
  collectionIds : List Uuid
  favorite : Bool
  reprompt : CipherRepromptType
  (organizationUseTotp edit : Bool)
  permissions : Option CipherPermissions
  viewPassword : Bool
  localData : Option LocalData
  creationDate : DateTime
  deletedDate : Option DateTime
  revisionDate : DateTime
  archivedDate : Option DateTime

structure Cipher (EncString : Type) extends CipherMetadata where
  type : CipherType
  (key name notes : Option EncString)
  login : Option (Login EncString)
  identity : Option (Identity (Option EncString))
  card : Option (Card (Option EncString))
  secureNote : Option SecureNote
  sshKey : Option (SshKey EncString)
  bankAccount : Option (BankAccount (Option EncString))
  driversLicense : Option (DriversLicense (Option EncString))
  passport : Option (Passport (Option EncString))
  attachments : Option (List (Attachment EncString))
  fields : Option (List (Field (Option EncString)))
  passwordHistory : Option (List (PasswordHistory EncString))
  (data partialData : Option String)

structure CipherView (SymmetricKey : Type) extends CipherMetadata where
  type : CipherType
  key : Option SymmetricKey
  name : String
  notes : Option String
  login : Option (Login String)
  identity : Option (Identity (Option String))
  card : Option (Card (Option String))
  secureNote : Option SecureNote
  sshKey : Option SshKeyView
  bankAccount : Option (BankAccount (Option String))
  driversLicense : Option DriversLicenseView
  passport : Option PassportView
  (attachments attachmentDecryptionFailures : Option (List (AttachmentView SymmetricKey)))
  fields : Option (List (Field (Option String)))
  passwordHistory : Option (List (PasswordHistory String))
  isPartial : Bool

/-! ## Blobs -/

/-- `str::parse::<u64>`. -/
def parseU64 (text : String) : Option UInt64 :=
  let digits := match text.toList with
    | '+' :: digits => digits
    | digits => digits
  if digits.isEmpty || !digits.all Char.isDigit then none
  else
    let value := digits.foldl (fun value digit => 10 * value + (digit.toNat - '0'.toNat)) 0
    if value < UInt64.size then some (UInt64.ofNat value) else none

def noneIfEmpty {α : Type} (list : List α) : Option (List α) :=
  if list.isEmpty then none else some list

def LoginUriDataV1.fromView (view : LoginUri String) : LoginUriDataV1 where
  uri := view.uri
  matchType := view.matchType

def LoginUriDataV1.toView (self : LoginUriDataV1) : LoginUri String where
  uri := self.uri
  matchType := self.matchType
  uriChecksum := none

def Fido2CredentialDataV1.fromView (view : Fido2Credential String) : Fido2CredentialDataV1 where
  credentialId := view.credentialId
  keyType := view.keyType
  keyAlgorithm := view.keyAlgorithm
  keyCurve := view.keyCurve
  keyValue := view.keyValue
  rpId := view.rpId
  userHandle := view.userHandle
  userName := view.userName
  counter := (parseU64 view.counter).getD 0
  rpName := view.rpName
  userDisplayName := view.userDisplayName
  discoverable := view.discoverable == "true"
  creationDate := view.creationDate

def Fido2CredentialDataV1.toView (self : Fido2CredentialDataV1) : Fido2Credential String where
  credentialId := self.credentialId
  keyType := self.keyType
  keyAlgorithm := self.keyAlgorithm
  keyCurve := self.keyCurve
  keyValue := self.keyValue
  rpId := self.rpId
  userHandle := self.userHandle
  userName := self.userName
  counter := toString self.counter.toNat
  rpName := self.rpName
  userDisplayName := self.userDisplayName
  discoverable := if self.discoverable then "true" else "false"
  creationDate := self.creationDate

def LoginDataV1.fromView (login : Login String) : LoginDataV1 where
  username := login.username
  password := login.password
  passwordRevisionDate := login.passwordRevisionDate
  uris := (login.uris.map (·.map .fromView)).getD []
  totp := login.totp
  autofillOnPageLoad := login.autofillOnPageLoad
  httpAuthenticationEnabled := login.httpAuthenticationEnabled.getD false
  fido2Credentials := (login.fido2Credentials.map (·.map .fromView)).getD []

def LoginDataV1.toView (self : LoginDataV1) : Login String where
  username := self.username
  password := self.password
  passwordRevisionDate := self.passwordRevisionDate
  uris := noneIfEmpty (self.uris.map (·.toView))
  totp := self.totp
  autofillOnPageLoad := self.autofillOnPageLoad
  httpAuthenticationEnabled := some self.httpAuthenticationEnabled
  fido2Credentials := noneIfEmpty (self.fido2Credentials.map (·.toView))

section Blobs

variable {SymmetricKey : Type} (libs : Libraries)

/-- The payload of the item's type. -/
def CipherTypeDataV1.fromView (view : CipherView SymmetricKey) :
    Except CryptoError CipherTypeDataV1 := do
  match view.type with
  | .login => return .login (.fromView (← required view.login "login"))
  | .card => return .card (← required view.card "card")
  | .identity => return .identity (← required view.identity "identity")
  | .secureNote => return .secureNote (← required view.secureNote "secure_note")
  | .sshKey => return .sshKey (← required view.sshKey "ssh_key")
  | .bankAccount => return .bankAccount (← required view.bankAccount "bank_account")
  | .driversLicense =>
    return .driversLicense ((← required view.driversLicense "drivers_license").toTexts libs)
  | .passport => return .passport ((← required view.passport "passport").toTexts libs)

def CipherBlobV1.fromCipherView (view : CipherView SymmetricKey) :
    Except CryptoError CipherBlobV1 := do
  let typeData ← CipherTypeDataV1.fromView libs view
  return { name := view.name, notes := view.notes, typeData,
           fields := view.fields.getD [], passwordHistory := view.passwordHistory.getD [] }

/-- The payload of the blob replaces all payloads of the view. -/
def CipherTypeDataV1.applyToCipherView (self : CipherTypeDataV1)
    (view : CipherView SymmetricKey) : CipherView SymmetricKey :=
  let view := { view with
    login := none, card := none, identity := none, secureNote := none, sshKey := none
    bankAccount := none, driversLicense := none, passport := none }
  match self with
  | .login data => { view with type := .login, login := some data.toView }
  | .card data => { view with type := .card, card := some data }
  | .identity data => { view with type := .identity, identity := some data }
  | .secureNote data => { view with type := .secureNote, secureNote := some data }
  | .sshKey data => { view with type := .sshKey, sshKey := some data }
  | .bankAccount data => { view with type := .bankAccount, bankAccount := some data }
  | .driversLicense data =>
    { view with type := .driversLicense, driversLicense := some (data.toView libs) }
  | .passport data => { view with type := .passport, passport := some (data.toView libs) }

def CipherBlobV1.applyToCipherView (self : CipherBlobV1) (view : CipherView SymmetricKey) :
    CipherView SymmetricKey :=
  self.typeData.applyToCipherView libs
    { view with
      name := self.name
      notes := self.notes
      fields := noneIfEmpty self.fields
      passwordHistory := noneIfEmpty self.passwordHistory }

end Blobs

/-! ## Decryption -/

def minimumEnforceIconUriHashVersion : ℕ := 2

section Decryption

variable {EncString SymmetricKey : Type} (ctx : DecryptContext EncString SymmetricKey)
  (key : KeySlot SymmetricKey)

/-- The slot of the item's own key. An item without one uses the key it is given. -/
def decryptCipherKey : Option EncString → Except CryptoError (KeySlot SymmetricKey)
  | some wrapped => do return .ok (← ctx.unwrapIn key wrapped)
  | none => .ok key

def viewKey (ciphersKey : KeySlot SymmetricKey) (wrapped : Option EncString) :
    Except CryptoError (Option SymmetricKey) :=
  if wrapped.isSome then some <$> ciphersKey else .ok none

def CipherView.removeInvalidChecksums (libs : Libraries) (self : CipherView SymmetricKey) :
    CipherView SymmetricKey :=
  { self with login := self.login.map (·.removeInvalidChecksums libs) }

/-- Whether the item has a key of its own or the user is on the second version of the security
state. -/
def checksumsEnforced (hasKey : Bool) : Bool :=
  hasKey || decide (minimumEnforceIconUriHashVersion ≤ ctx.securityStateVersion)

def enforceChecksums (hasKey : Bool) (view : CipherView SymmetricKey) : CipherView SymmetricKey :=
  if checksumsEnforced ctx hasKey then view.removeInvalidChecksums ctx.toLibraries else view

variable (cipher : Cipher EncString)

def lenientDecryptCipherView :
    Except CryptoError (CipherView SymmetricKey) := do
  let ciphersKey ← decryptCipherKey ctx key cipher.key
  let dec := ctx.decryptIn ciphersKey
  let decrypted := decryptAttachmentsWithFailures dec (ctx.unwrapIn ciphersKey)
    (cipher.attachments.getD [])
  let viewKey ← viewKey ciphersKey cipher.key
  return enforceChecksums ctx viewKey.isSome
    { cipher.toCipherMetadata with
      type := cipher.type
      key := viewKey
      name := (cipher.name.bind fun name => (dec name).toOption).getD ""
      notes := decryptOrNone dec cipher.notes
      login := cipher.login.map (·.decrypt dec)
      identity := cipher.identity.map (·.decrypt dec)
      card := cipher.card.map (·.decrypt dec)
      secureNote := cipher.secureNote
      sshKey := (traverse (SshKey.decrypt dec ctx.toLibraries) cipher.sshKey).toOption.join
      bankAccount := cipher.bankAccount.map (·.decrypt dec)
      driversLicense := cipher.driversLicense.map (·.decrypt dec ctx.toLibraries)
      passport := cipher.passport.map (·.decrypt dec ctx.toLibraries)
      attachments := some decrypted.1
      attachmentDecryptionFailures := some decrypted.2
      fields := cipher.fields.map (·.map (·.decrypt dec))
      passwordHistory := cipher.passwordHistory.map (·.map (·.decrypt dec))
      isPartial := false }

def strictDecryptCipherView :
    Except CryptoError (CipherView SymmetricKey) := do
  let ciphersKey ← decryptCipherKey ctx key cipher.key
  let dec := ctx.decryptIn ciphersKey
  let decrypted := decryptAttachmentsWithFailures dec (ctx.unwrapIn ciphersKey)
    (cipher.attachments.getD [])
  let viewKey ← viewKey ciphersKey cipher.key
  let name ← required cipher.name "name" >>= dec
  let notes ← traverse dec cipher.notes
  let login ← traverse (Login.strictDecrypt dec) cipher.login
  let identity ← traverse (Identity.strictDecrypt dec) cipher.identity
  let card ← traverse (Card.strictDecrypt dec) cipher.card
  let sshKey ← traverse (SshKey.decrypt dec ctx.toLibraries) cipher.sshKey
  let fields ← traverse (traverse (Field.strictDecrypt dec)) cipher.fields
  return enforceChecksums ctx viewKey.isSome
    { cipher.toCipherMetadata with
      type := cipher.type
      key := viewKey
      name, notes, login, identity, card
      secureNote := cipher.secureNote
      sshKey
      -- These records have the lenient decryption only.
      bankAccount := cipher.bankAccount.map (·.decrypt dec)
      driversLicense := cipher.driversLicense.map (·.decrypt dec ctx.toLibraries)
      passport := cipher.passport.map (·.decrypt dec ctx.toLibraries)
      attachments := some decrypted.1
      attachmentDecryptionFailures := some decrypted.2
      fields
      passwordHistory := cipher.passwordHistory.map (·.map (·.decrypt dec))
      isPartial := false }

def SealedCipherBlob.unseal (self : SealedCipherBlob EncString)
    (wrappingKey : KeySlot SymmetricKey) : Except CryptoError CipherBlobV1 :=
  if self.formatVersion ≠ blobFormatVersion then .error .decrypt
  else
    match wrappingKey with
    | .error _ => .error .decrypt
    | .ok wrappingKey =>
      match ctx.unsealWithWrappingKey wrappingKey self.wrappedCek self.envelope with
      | none => .error .decrypt
      | some blob => .ok blob

def tryParseBlob : Option (SealedCipherBlob EncString) :=
  cipher.data.bind ctx.fromOpaqueString

def decryptBlobCipher (sealedBlob : SealedCipherBlob EncString) :
    Except CryptoError (CipherView SymmetricKey) := do
  let cipherKey ← decryptCipherKey ctx key cipher.key
  let blob ← sealedBlob.unseal ctx cipherKey
  let decrypted := decryptAttachmentsWithFailures (ctx.decryptIn cipherKey)
    (ctx.unwrapIn cipherKey) (cipher.attachments.getD [])
  let viewKey ← viewKey cipherKey cipher.key
  return blob.applyToCipherView ctx.toLibraries
    { cipher.toCipherMetadata with
      type := cipher.type
      key := viewKey
      name := "", notes := none
      login := none, identity := none, card := none, secureNote := none, sshKey := none
      bankAccount := none, driversLicense := none, passport := none
      attachments := some decrypted.1
      attachmentDecryptionFailures := some decrypted.2
      fields := none, passwordHistory := none
      isPartial := false }

def CipherView.blank : CipherView SymmetricKey where
  id := none
  organizationId := none
  folderId := none
  collectionIds := []
  key := none
  name := ""
  notes := none
  type := .login
  login := none
  identity := none
  card := none
  secureNote := none
  sshKey := none
  bankAccount := none
  driversLicense := none
  passport := none
  favorite := false
  reprompt := .none
  organizationUseTotp := false
  edit := false
  permissions := none
  viewPassword := true
  localData := none
  attachments := none
  attachmentDecryptionFailures := none
  fields := none
  passwordHistory := none
  creationDate := 0
  deletedDate := none
  revisionDate := 0
  archivedDate := none
  isPartial := false

/-- The contents of an item send. What is not in the blob has its default. -/
def CipherView.unsealBlobForItemSends (data : String) :
    Except CryptoError (CipherView SymmetricKey) :=
  match ctx.fromOpaqueString data with
  | none => .error .decrypt
  | some sealedBlob => do
    let blob ← sealedBlob.unseal ctx key
    return blob.applyToCipherView ctx.toLibraries CipherView.blank

/-! ### Restricted items -/

variable (restricted : RestrictedCipherData EncString)

def decryptRestrictedName (ciphersKey : KeySlot SymmetricKey) (strict : Bool) :
    Except CryptoError String :=
  match restricted.name with
  | none => .ok ""
  | some name =>
    if strict then ctx.decryptIn ciphersKey name
    else .ok ((ctx.decryptIn ciphersKey name).toOption.getD "")

def decryptRestrictedUris (ciphersKey : KeySlot SymmetricKey) (strict : Bool) :
    Except CryptoError (Option (List (LoginUri String))) :=
  let uris := traverse (decryptUris (ctx.decryptIn ciphersKey)) restricted.uris
  if strict then uris else .ok uris.toOption.join

def parseRestrictedCipherData (raw : String) : RestrictedCipherData EncString :=
  (ctx.parseRestricted raw).getD { name := none, uris := none }

def decryptRestrictedLogin (ciphersKey : KeySlot SymmetricKey) (strict : Bool) (type : CipherType) :
    Except CryptoError (Option (Login String)) :=
  if type = .login then do
    let uris ← decryptRestrictedUris ctx restricted ciphersKey strict
    return some
      { username := none, password := none, passwordRevisionDate := none, uris
        totp := none, autofillOnPageLoad := none, httpAuthenticationEnabled := none
        fido2Credentials := none }
  else return none

/-- Only the name and the uris of a login are read. -/
def decryptRestrictedCipherView (raw : String) (strict : Bool) :
    Except CryptoError (CipherView SymmetricKey) := do
  let ciphersKey ← decryptCipherKey ctx key cipher.key
  let restricted := parseRestrictedCipherData ctx raw
  let name ← decryptRestrictedName ctx restricted ciphersKey strict
  let login ← decryptRestrictedLogin ctx restricted ciphersKey strict cipher.type
  return enforceChecksums ctx cipher.key.isSome
    { cipher.toCipherMetadata with
      type := cipher.type
      key := none
      name
      notes := none
      login
      identity := none, card := none, secureNote := none, sshKey := none
      bankAccount := none, driversLicense := none, passport := none
      attachments := none, attachmentDecryptionFailures := none
      fields := none, passwordHistory := none
      isPartial := true }

/-! ### All formats -/

def Cipher.decryptWith (strict : Bool) (self : Cipher EncString) :
    Except CryptoError (CipherView SymmetricKey) :=
  match self.partialData with
  | some raw =>
    if self.organizationId.isNone then .error .restrictedCipherRequiresOrganization
    else decryptRestrictedCipherView ctx key self raw strict
  | none =>
    match tryParseBlob ctx self with
    | some sealedBlob => decryptBlobCipher ctx key self sealedBlob
    | none =>
      if strict then strictDecryptCipherView ctx key self
      else lenientDecryptCipherView ctx key self

variable (self : Cipher EncString)

def Cipher.decrypt : Except CryptoError (CipherView SymmetricKey) :=
  self.decryptWith ctx key false

/-- `StrictDecrypt(cipher).decrypt`. -/
def Cipher.strictDecrypt : Except CryptoError (CipherView SymmetricKey) :=
  self.decryptWith ctx key true

def Cipher.isBlobEncrypted : Bool := (tryParseBlob ctx self).isSome

end Decryption

/-! ## Encryption -/

section

variable {EncString SymmetricKey Random : Type} (ctx : EncryptContext EncString SymmetricKey Random)
  (key : KeySlot SymmetricKey) (self : CipherView SymmetricKey)

/-- The item's own key. One is generated for a view that has none. -/
def CipherView.loadCipherKeySlot : EncryptM Random (SymmetricKey × CipherView SymmetricKey) :=
  match self.key with
  | some key => return (key, self)
  | none => do
    let key ← ctx.generateSymmetricKey
    return (key, { self with key := some key })

/-- A restricted view is not encrypted, as its secrets are left out. -/
def CipherView.rejectRestricted : EncryptM Random Unit :=
  if self.isPartial then throw .encryptRestrictedView else pure ()

def CipherView.generateChecksums (libs : Libraries) (self : CipherView SymmetricKey) :
    CipherView SymmetricKey :=
  { self with login := self.login.map (·.generateChecksums libs) }

def CipherView.encryptLegacyFieldEncryption :
    EncryptM Random (Cipher EncString) := do
  self.rejectRestricted
  let loaded ← self.loadCipherKeySlot ctx
  let ciphersKey := loaded.1
  let view := loaded.2.generateChecksums ctx.toLibraries
  let enc := ctx.encrypt ciphersKey
  let wrapped ← ctx.wrapIn key ciphersKey
  let name ← enc view.name
  let notes ← traverse enc view.notes
  let login ← traverse (Login.encrypt enc) view.login
  let identity ← traverse (Identity.encrypt enc) view.identity
  let card ← traverse (Card.encrypt enc) view.card
  let sshKey ← traverse (SshKeyView.encrypt enc ctx.toLibraries) view.sshKey
  let bankAccount ← traverse (BankAccount.encrypt enc) view.bankAccount
  let driversLicense ← traverse (DriversLicenseView.encrypt enc ctx.toLibraries) view.driversLicense
  let passport ← traverse (PassportView.encrypt enc ctx.toLibraries) view.passport
  let attachments ← traverse
    (traverse (AttachmentView.encrypt enc (ctx.wrapSymmetricKey ciphersKey))) view.attachments
  let fields ← traverse (traverse (Field.encrypt enc)) view.fields
  let passwordHistory ← traverse (traverse (PasswordHistory.encrypt enc)) view.passwordHistory
  return { view.toCipherMetadata with
    type := view.type
    key := some wrapped
    name := some name
    notes, login, identity, card
    secureNote := view.secureNote
    sshKey, bankAccount, driversLicense, passport, attachments, fields, passwordHistory
    data := none
    partialData := none }

def sealBlobContent (blob : CipherBlobV1) (cipherKey : SymmetricKey) :
    EncryptM Random String := fun random =>
  match ctx.sealWithWrappingKey cipherKey blob random with
  | none => .error .decrypt
  | some ((envelope, wrappedCek), random) =>
    .ok (ctx.toOpaqueString { formatVersion := blobFormatVersion, wrappedCek, envelope }, random)

variable (view : CipherView SymmetricKey)

def encryptBlobCipherWithWrappingKey :
    EncryptM Random (Cipher EncString) := do
  view.rejectRestricted
  let loaded ← view.loadCipherKeySlot ctx
  let cipherKey := loaded.1
  let view := loaded.2
  let blob ← CipherBlobV1.fromCipherView ctx.toLibraries view
  let data ← sealBlobContent ctx blob cipherKey
  let attachments ← traverse
    (traverse (AttachmentView.encrypt (ctx.encrypt cipherKey) (ctx.wrapSymmetricKey cipherKey)))
    view.attachments
  let wrapped ← ctx.wrapIn key cipherKey
  return { view.toCipherMetadata with
    type := view.type
    key := some wrapped
    name := none, notes := none
    login := none, identity := none, card := none, secureNote := none, sshKey := none
    bankAccount := none, driversLicense := none, passport := none
    attachments
    fields := none, passwordHistory := none
    data := some data
    partialData := none }

inductive EncryptMode where
  | blob
  | legacy

def EncryptMode.encryptComposite :
    EncryptMode → EncryptM Random (Cipher EncString)
  | .blob => encryptBlobCipherWithWrappingKey ctx key view
  | .legacy => view.encryptLegacyFieldEncryption ctx key

/-- The contents of the view, for the data of an item send. -/
def CipherView.sealBlobForItemSends :
    EncryptM Random String := do
  self.rejectRestricted
  let blob ← CipherBlobV1.fromCipherView ctx.toLibraries self
  match key with
  | .error _ => throw .decrypt
  | .ok key => sealBlobContent ctx blob key

inductive CipherKeyRewrapError where
  | noCipherKey
  | decryptionFailure
  | encryptionFailure

/-- The item with its own key wrapped under another key. -/
def Cipher.rewrapCipherKey (oldKey newKey : KeySlot SymmetricKey) (self : Cipher EncString) :
    StateT Random (Except CipherKeyRewrapError) (Cipher EncString) := fun random =>
  match self.key with
  | none => .error .noCipherKey
  | some wrapped =>
    match ctx.unwrapIn oldKey wrapped with
    | .error _ => .error .decryptionFailure
    | .ok cipherKey =>
      match ctx.wrapIn newKey cipherKey random with
      | .error _ => .error .encryptionFailure
      | .ok (rewrapped, random) => .ok ({ self with key := some rewrapped }, random)

end

end SdkInternal.Vault
