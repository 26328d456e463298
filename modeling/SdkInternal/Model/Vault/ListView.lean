import SdkInternal.Model.Vault.Cipher

/-! # List views

The list view of an item is a projection of its view, or is decrypted from the item directly. The
presence of a value decides which values can be copied, in an item as in its view. -/

namespace SdkInternal.Vault

open Crypto

structure Fido2CredentialListView where
  (credentialId rpId : String)
  (userHandle userName userDisplayName : Option String)
  counter : String

structure LoginListView where
  fido2Credentials : Option (List Fido2CredentialListView)
  hasFido2 : Bool
  (username totp : Option String)
  uris : Option (List (LoginUri String))

structure CardListView where
  brand : Option String

structure BankAccountListView where
  (accountNumber accountType : Option String)

structure FieldListView where
  (name value : Option String)
  type : FieldType

inductive CipherListViewType where
  | login (login : LoginListView)
  | secureNote
  | card (card : CardListView)
  | identity
  | sshKey
  | bankAccount (bankAccount : BankAccountListView)
  | passport
  | driversLicense

inductive CopyableCipherFields where
  | loginUsername
  | loginPassword
  | loginTotp
  | cardNumber
  | cardSecurityCode
  | identityUsername
  | identityEmail
  | identityPhone
  | identityAddress
  | sshKey
  | secureNotes
  | bankAccountNameOnAccount
  | bankAccountAccountNumber
  | bankAccountRoutingNumber
  | bankAccountBranchNumber
  | bankAccountPin
  | bankAccountIban
  | bankAccountSwift
  | passportGivenName
  | passportSurname
  | passportPassportNumber
  | passportNationalIdentificationNumber
  | driversLicenseFirstName
  | driversLicenseMiddleName
  | driversLicenseLastName
  | driversLicenseLicenseNumber

/-- The last three fields are those of a build for the web, for search. -/
structure CipherListView extends CipherMetadata where
  (name subtitle : String)
  type : CipherListViewType
  attachments : UInt32
  hasOldAttachments : Bool
  copyableFields : List CopyableCipherFields
  isPartial : Bool
  notes : Option String
  fields : Option (List FieldListView)
  attachmentNames : Option (List String)

/-! ## Subtitles -/

/-- The brand and the last digits of the number, five for a number of American Express. -/
def buildSubtitleCard (brand number : Option String) : String :=
  let subtitle := brand.getD ""
  match number with
  | none => subtitle
  | some number =>
    let digits := number.toList
    if 4 < digits.length then
      let subtitle := if subtitle.isEmpty then subtitle else subtitle ++ ", "
      let count := match digits with
        | '3' :: '4' :: _ | '3' :: '7' :: _ => 5
        | _ => 4
      subtitle ++ "*" ++ String.ofList (digits.drop (digits.length - count))
    else subtitle

def buildSubtitleIdentity (firstName lastName : Option String) : String :=
  let subtitle := firstName.getD ""
  match lastName with
  | none => subtitle
  | some lastName => (if subtitle.isEmpty then subtitle else subtitle ++ " ") ++ lastName

/-- The text after the subtitle, apart from it if both are present. -/
def appendToSubtitle (subtitle separator : String) (text : Option String) : String :=
  match text with
  | none => subtitle
  | some text =>
    (if !subtitle.isEmpty && !text.isEmpty then subtitle ++ separator else subtitle) ++ text

def buildSubtitleDriversLicense (firstName lastName issuingState : Option String) : String :=
  appendToSubtitle (appendToSubtitle (firstName.getD "") " " lastName) ", " issuingState

def buildSubtitlePassport (givenName surname issuingCountry : Option String) : String :=
  appendToSubtitle (appendToSubtitle (givenName.getD "") " " surname) ", " issuingCountry

/-! ## Values that can be copied -/

section

variable {Text : Type}

/-- The fields whose values are present. -/
def presentFields (fields : List (Bool × CopyableCipherFields)) : List CopyableCipherFields :=
  (fields.filter (·.1)).map (·.2)

def Login.getCopyableFields (self : Login Text) : List CopyableCipherFields :=
  presentFields
    [ (self.username.isSome, .loginUsername),
      (self.password.isSome, .loginPassword),
      (self.totp.isSome, .loginTotp) ]

def Card.getCopyableFields (self : Card (Option Text)) : List CopyableCipherFields :=
  presentFields
    [ (self.number.isSome, .cardNumber),
      (self.code.isSome, .cardSecurityCode) ]

def Identity.getCopyableFields (self : Identity (Option Text)) : List CopyableCipherFields :=
  presentFields
    [ (self.username.isSome, .identityUsername),
      (self.email.isSome, .identityEmail),
      (self.phone.isSome, .identityPhone),
      (self.address1.isSome || self.address2.isSome || self.address3.isSome || self.city.isSome ||
        self.state.isSome || self.postalCode.isSome, .identityAddress) ]

def BankAccount.getCopyableFields (self : BankAccount (Option Text)) : List CopyableCipherFields :=
  presentFields
    [ (self.nameOnAccount.isSome, .bankAccountNameOnAccount),
      (self.accountNumber.isSome, .bankAccountAccountNumber),
      (self.routingNumber.isSome, .bankAccountRoutingNumber),
      (self.branchNumber.isSome, .bankAccountBranchNumber),
      (self.pin.isSome, .bankAccountPin),
      (self.iban.isSome, .bankAccountIban),
      (self.swiftCode.isSome, .bankAccountSwift) ]

def DriversLicense.getCopyableFields (self : DriversLicense (Option Text)) :
    List CopyableCipherFields :=
  presentFields
    [ (self.firstName.isSome, .driversLicenseFirstName),
      (self.middleName.isSome, .driversLicenseMiddleName),
      (self.lastName.isSome, .driversLicenseLastName),
      (self.licenseNumber.isSome, .driversLicenseLicenseNumber) ]

def DriversLicenseView.getCopyableFields (self : DriversLicenseView) : List CopyableCipherFields :=
  presentFields
    [ (self.firstName.isSome, .driversLicenseFirstName),
      (self.middleName.isSome, .driversLicenseMiddleName),
      (self.lastName.isSome, .driversLicenseLastName),
      (self.licenseNumber.isSome, .driversLicenseLicenseNumber) ]

def Passport.getCopyableFields (self : Passport (Option Text)) : List CopyableCipherFields :=
  presentFields
    [ (self.givenName.isSome, .passportGivenName),
      (self.surname.isSome, .passportSurname),
      (self.passportNumber.isSome, .passportPassportNumber),
      (self.nationalIdentificationNumber.isSome, .passportNationalIdentificationNumber) ]

def PassportView.getCopyableFields (self : PassportView) : List CopyableCipherFields :=
  presentFields
    [ (self.givenName.isSome, .passportGivenName),
      (self.surname.isSome, .passportSurname),
      (self.passportNumber.isSome, .passportPassportNumber),
      (self.nationalIdentificationNumber.isSome, .passportNationalIdentificationNumber) ]

end

/-! ## The projection of a view -/

section

variable {SymmetricKey : Type}

def Fido2Credential.toListView (self : Fido2Credential String) : Fido2CredentialListView where
  credentialId := self.credentialId
  rpId := self.rpId
  userHandle := self.userHandle
  userName := self.userName
  userDisplayName := self.userDisplayName
  counter := self.counter

def Login.toListView (self : Login String) : LoginListView where
  fido2Credentials := self.fido2Credentials.map (·.map (·.toListView))
  hasFido2 := self.fido2Credentials.isSome
  username := self.username
  totp := self.totp
  uris := self.uris

/-- Only the value of a text field is shown. -/
def Field.toListView (self : Field (Option String)) : FieldListView where
  name := self.name
  value := if self.type = .text then self.value else none
  type := self.type

namespace CipherView

variable (self : CipherView SymmetricKey)

def subtitle : String :=
  match self.type with
  | .login => (self.login.bind (·.username)).getD ""
  | .card => (self.card.map fun card => buildSubtitleCard card.brand card.number).getD ""
  | .identity =>
    (self.identity.map fun identity =>
      buildSubtitleIdentity identity.firstName identity.lastName).getD ""
  | .sshKey => (self.sshKey.map (·.fingerprint)).getD ""
  | .secureNote => ""
  | .bankAccount => (self.bankAccount.map fun account => account.bankName.getD "").getD ""
  | .driversLicense =>
    (self.driversLicense.map fun license =>
      buildSubtitleDriversLicense license.firstName license.lastName
        license.issuingState).getD ""
  | .passport =>
    (self.passport.map fun passport =>
      buildSubtitlePassport passport.givenName passport.surname passport.issuingCountry).getD ""

def getCopyableFields : List CopyableCipherFields :=
  match self.type with
  | .login => (self.login.map (·.getCopyableFields)).getD []
  | .card => (self.card.map (·.getCopyableFields)).getD []
  | .identity => (self.identity.map (·.getCopyableFields)).getD []
  | .sshKey => [.sshKey]
  | .secureNote => presentFields [(self.notes.isSome, .secureNotes)]
  | .bankAccount => (self.bankAccount.map (·.getCopyableFields)).getD []
  | .driversLicense => (self.driversLicense.map (·.getCopyableFields)).getD []
  | .passport => (self.passport.map (·.getCopyableFields)).getD []

def listViewType : Except CryptoError CipherListViewType := do
  match self.type with
  | .login => return .login (← required self.login "login").toListView
  | .secureNote => return .secureNote
  | .card => return .card { brand := (← required self.card "card").brand }
  | .identity => return .identity
  | .sshKey => return .sshKey
  | .bankAccount =>
    let bankAccount ← required self.bankAccount "bank_account"
    return .bankAccount
      { accountNumber := bankAccount.accountNumber, accountType := bankAccount.accountType }
  | .driversLicense => return .driversLicense
  | .passport => return .passport

def allAttachments : List (AttachmentView SymmetricKey) :=
  self.attachments.getD [] ++ self.attachmentDecryptionFailures.getD []

/-- `web` is true in a build for the web. -/
def toListView (web : Bool) : Except CryptoError CipherListView := do
  let type ← self.listViewType
  return { self.toCipherMetadata with
    name := self.name
    subtitle := self.subtitle
    type
    attachments := UInt32.ofNat self.allAttachments.length
    hasOldAttachments := self.allAttachments.any (·.key.isNone)
    copyableFields := self.getCopyableFields
    isPartial := false
    notes := if web then self.notes else none
    fields := if web then self.fields.map (·.map (·.toListView)) else none
    attachmentNames := if web then self.attachments.map (·.filterMap (·.fileName)) else none }

end CipherView

end

/-! ## Decryption to a list view -/

section

variable {EncString SymmetricKey : Type} (dec : EncString → Except CryptoError String)

def Fido2Credential.decryptListView (self : Fido2Credential EncString) :
    Except CryptoError Fido2CredentialListView := do
  let credentialId ← dec self.credentialId
  let rpId ← dec self.rpId
  let userHandle ← Traversable.traverse dec self.userHandle
  let userName ← Traversable.traverse dec self.userName
  let userDisplayName ← Traversable.traverse dec self.userDisplayName
  let counter ← dec self.counter
  return { credentialId, rpId, userHandle, userName, userDisplayName, counter }

def Login.strictDecryptListView (self : Login EncString) : Except CryptoError LoginListView := do
  let fido2Credentials ← Traversable.traverse
    (Traversable.traverse (Fido2Credential.decryptListView dec)) self.fido2Credentials
  let username ← Traversable.traverse dec self.username
  let totp ← Traversable.traverse dec self.totp
  let uris ← Traversable.traverse (decryptUris dec) self.uris
  return { fido2Credentials, hasFido2 := self.fido2Credentials.isSome, username, totp, uris }

def SshKey.decryptSubtitle (libs : Libraries) (self : SshKey EncString) :
    Except CryptoError String := do
  match self.fingerprint with
  | some fingerprint => dec fingerprint
  | none =>
    let privateKey ← dec self.privateKey
    return (derivePublicKeyAndFingerprint libs privateKey).2

namespace Cipher

variable (self : Cipher EncString)

/-- An item without the payload of its type has no subtitle. -/
def decryptSubtitle (libs : Libraries) : Except CryptoError String :=
  let subtitle {α : Type} (payload : Option α) (decrypt : α → Except CryptoError String) :
      Except CryptoError String :=
    match payload with
    | none => .ok ""
    | some payload => decrypt payload
  match self.type with
  | .login => subtitle self.login fun login =>
    return (← traverse dec login.username).getD ""
  | .card => subtitle self.card fun card =>
    return buildSubtitleCard (← traverse dec card.brand) (← traverse dec card.number)
  | .identity => subtitle self.identity fun identity =>
    return buildSubtitleIdentity (← traverse dec identity.firstName)
      (← traverse dec identity.lastName)
  | .sshKey => subtitle self.sshKey (·.decryptSubtitle dec libs)
  | .secureNote => .ok ""
  | .bankAccount => subtitle self.bankAccount fun account =>
    return (← traverse dec account.bankName).getD ""
  | .driversLicense => subtitle self.driversLicense fun license =>
    return buildSubtitleDriversLicense (← traverse dec license.firstName)
      (← traverse dec license.lastName) (← traverse dec license.issuingState)
  | .passport => subtitle self.passport fun passport =>
    return buildSubtitlePassport (← traverse dec passport.givenName)
      (← traverse dec passport.surname) (← traverse dec passport.issuingCountry)

def getCopyableFields : List CopyableCipherFields :=
  match self.type with
  | .login => (self.login.map (·.getCopyableFields)).getD []
  | .card => (self.card.map (·.getCopyableFields)).getD []
  | .identity => (self.identity.map (·.getCopyableFields)).getD []
  | .sshKey => (self.sshKey.map fun _ => [.sshKey]).getD []
  | .secureNote =>
    (self.secureNote.map fun _ => presentFields [(self.notes.isSome, .secureNotes)]).getD []
  | .bankAccount => (self.bankAccount.map (·.getCopyableFields)).getD []
  | .driversLicense => (self.driversLicense.map (·.getCopyableFields)).getD []
  | .passport => (self.passport.map (·.getCopyableFields)).getD []

def strictListViewType : Except CryptoError CipherListViewType := do
  match self.type with
  | .login => return .login (← (← required self.login "login").strictDecryptListView dec)
  | .secureNote => return .secureNote
  | .card => return .card { brand := ← traverse dec (← required self.card "card").brand }
  | .identity => return .identity
  | .sshKey => return .sshKey
  | .bankAccount =>
    let bankAccount ← required self.bankAccount "bank_account"
    let accountNumber ← traverse dec bankAccount.accountNumber
    let accountType ← traverse dec bankAccount.accountType
    return .bankAccount { accountNumber, accountType }
  | .driversLicense => return .driversLicense
  | .passport => return .passport

end Cipher

/-- A value that is there in a build for the web only. -/
def onWeb {α : Type} (web : Bool) (value : Except CryptoError (Option α)) :
    Except CryptoError (Option α) :=
  if web then value else .ok none

variable (ctx : DecryptContext EncString SymmetricKey) (key : KeySlot SymmetricKey) (web : Bool)
  (cipher : Cipher EncString)

def strictDecryptCipherListView :
    Except CryptoError CipherListView := do
  let ciphersKey ← decryptCipherKey ctx key cipher.key
  let dec := ctx.decryptIn ciphersKey
  let name ← required cipher.name "name" >>= dec
  let subtitle ← cipher.decryptSubtitle dec ctx.toLibraries
  let type ← cipher.strictListViewType dec
  let notes ← onWeb web (traverse dec cipher.notes)
  let fields ← onWeb web (traverse (traverse (Field.strictDecrypt dec)) cipher.fields)
  let attachmentNames ← onWeb web
    (traverse (traverse fun attachment => traverse dec attachment.fileName) cipher.attachments)
  return { cipher.toCipherMetadata with
    name, subtitle, type
    attachments := UInt32.ofNat (cipher.attachments.getD []).length
    hasOldAttachments := (cipher.attachments.getD []).any (·.key.isNone)
    copyableFields := cipher.getCopyableFields
    isPartial := false
    notes
    fields := fields.map (·.map (·.toListView))
    attachmentNames := attachmentNames.map (·.filterMap id) }

def decryptRestrictedCipherListView (raw : String) (strict : Bool) :
    Except CryptoError CipherListView := do
  let ciphersKey ← decryptCipherKey ctx key cipher.key
  let restricted := parseRestrictedCipherData ctx raw
  let name ← decryptRestrictedName ctx restricted ciphersKey strict
  let type ← match cipher.type with
    | .login => do
      let uris ← decryptRestrictedUris ctx restricted ciphersKey strict
      pure (.login
        { fido2Credentials := none, hasFido2 := false, username := none, totp := none, uris })
    | .secureNote => pure .secureNote
    | .card => pure (.card { brand := none })
    | .identity => pure .identity
    | .sshKey => pure .sshKey
    | .bankAccount => pure (.bankAccount { accountNumber := none, accountType := none })
    | .driversLicense => pure .driversLicense
    | .passport => pure .passport
  return { cipher.toCipherMetadata with
    name, type
    subtitle := ""
    attachments := 0
    hasOldAttachments := false
    copyableFields := []
    isPartial := true
    notes := none, fields := none, attachmentNames := none }

def Cipher.strictDecryptToListView (self : Cipher EncString) :
    Except CryptoError CipherListView := do
  match self.partialData with
  | some raw =>
    if self.organizationId.isNone then .error .restrictedCipherRequiresOrganization
    else decryptRestrictedCipherListView ctx key self raw true
  | none =>
    match tryParseBlob ctx self with
    | some sealedBlob => (← decryptBlobCipher ctx key self sealedBlob).toListView web
    | none => strictDecryptCipherListView ctx key web self

end

end SdkInternal.Vault
