import SdkInternal.Model.Vault.Context
import SdkInternal.Shared.Base64

/-! # Encryption and decryption of the records of an item

All texts of a record are under one key, so the functions take the decryption `dec` or the
encryption `enc` under this key. Strict decryption of a record traverses it with `dec`. The
lenient one leaves out what it cannot read. -/

namespace SdkInternal.Vault

open Crypto Shared

/-- Computations that draw from the random source and may fail. -/
abbrev EncryptM (Random : Type) := StateT Random (Except CryptoError)

/-- `ok_or(CryptoError::MissingField(field))`. -/
def required {α : Type} (value : Option α) (field : String) : Except CryptoError α :=
  match value with
  | none => .error (.missingField field)
  | some value => .ok value

section Decryption

variable {EncString : Type} (dec : EncString → Except CryptoError String)

/-- `decrypt(..).ok().flatten()` of an optional text. -/
def decryptOrNone (value : Option EncString) : Option String :=
  (traverse dec value).toOption.join

/-! ## Logins -/

def decryptUris (uris : List (LoginUri EncString)) : Except CryptoError (List (LoginUri String)) :=
  traverse (traverse dec) uris

def decryptFido2Credentials (credentials : List (Fido2Credential EncString)) :
    Except CryptoError (List (Fido2Credential String)) :=
  traverse (traverse dec) credentials

/-- The uris, or the passkeys, are left out as a whole if one of them cannot be read. -/
def Login.decrypt (self : Login EncString) : Login String where
  username := decryptOrNone dec self.username
  password := decryptOrNone dec self.password
  passwordRevisionDate := self.passwordRevisionDate
  uris := (Traversable.traverse (decryptUris dec) self.uris).toOption.join
  totp := decryptOrNone dec self.totp
  autofillOnPageLoad := self.autofillOnPageLoad
  httpAuthenticationEnabled := self.httpAuthenticationEnabled
  fido2Credentials := self.fido2Credentials.bind fun creds =>
    (decryptFido2Credentials dec creds).toOption

def Login.strictDecrypt (self : Login EncString) : Except CryptoError (Login String) :=
  Traversable.traverse dec self

/-! ## Records of optional texts -/

variable (self : Card (Option EncString))

def Card.decrypt : Card (Option String) :=
  decryptOrNone dec <$> self

def Card.strictDecrypt : Except CryptoError (Card (Option String)) :=
  Traversable.traverse (Traversable.traverse dec) self

variable (self : Identity (Option EncString))

def Identity.decrypt : Identity (Option String) :=
  decryptOrNone dec <$> self

def Identity.strictDecrypt : Except CryptoError (Identity (Option String)) :=
  Traversable.traverse (Traversable.traverse dec) self

def BankAccount.decrypt (self : BankAccount (Option EncString)) : BankAccount (Option String) :=
  decryptOrNone dec <$> self

def Field.decrypt (self : Field (Option EncString)) : Field (Option String) :=
  decryptOrNone dec <$> self

def Field.strictDecrypt (self : Field (Option EncString)) :
    Except CryptoError (Field (Option String)) :=
  Traversable.traverse (Traversable.traverse dec) self

/-- An entry that cannot be read becomes empty. -/
def PasswordHistory.decrypt (self : PasswordHistory EncString) : PasswordHistory String where
  password := (dec self.password).toOption.getD ""
  lastUsedDate := self.lastUsedDate

/-! ## Records with dates -/

variable (libs : Libraries)

/-- A date that cannot be parsed is left out. -/
def DriversLicense.toView (self : DriversLicense (Option String)) : DriversLicenseView where
  firstName := self.firstName
  middleName := self.middleName
  lastName := self.lastName
  dateOfBirth := self.dateOfBirth.bind libs.parseDate
  licenseNumber := self.licenseNumber
  issuingCountry := self.issuingCountry
  issuingState := self.issuingState
  issueDate := self.issueDate.bind libs.parseDate
  expirationDate := self.expirationDate.bind libs.parseDate
  issuingAuthority := self.issuingAuthority
  licenseClass := self.licenseClass

def DriversLicenseView.toTexts (self : DriversLicenseView) : DriversLicense (Option String) where
  firstName := self.firstName
  middleName := self.middleName
  lastName := self.lastName
  dateOfBirth := self.dateOfBirth.map libs.formatDate
  licenseNumber := self.licenseNumber
  issuingCountry := self.issuingCountry
  issuingState := self.issuingState
  issueDate := self.issueDate.map libs.formatDate
  expirationDate := self.expirationDate.map libs.formatDate
  issuingAuthority := self.issuingAuthority
  licenseClass := self.licenseClass

def DriversLicense.decrypt (self : DriversLicense (Option EncString)) : DriversLicenseView :=
  (decryptOrNone dec <$> self).toView libs

def Passport.toView (self : Passport (Option String)) : PassportView where
  surname := self.surname
  givenName := self.givenName
  dateOfBirth := self.dateOfBirth.bind libs.parseDate
  sex := self.sex
  birthPlace := self.birthPlace
  nationality := self.nationality
  issuingCountry := self.issuingCountry
  passportNumber := self.passportNumber
  passportType := self.passportType
  nationalIdentificationNumber := self.nationalIdentificationNumber
  issuingAuthority := self.issuingAuthority
  issueDate := self.issueDate.bind libs.parseDate
  expirationDate := self.expirationDate.bind libs.parseDate

def PassportView.toTexts (self : PassportView) : Passport (Option String) where
  surname := self.surname
  givenName := self.givenName
  dateOfBirth := self.dateOfBirth.map libs.formatDate
  sex := self.sex
  birthPlace := self.birthPlace
  nationality := self.nationality
  issuingCountry := self.issuingCountry
  passportNumber := self.passportNumber
  passportType := self.passportType
  nationalIdentificationNumber := self.nationalIdentificationNumber
  issuingAuthority := self.issuingAuthority
  issueDate := self.issueDate.map libs.formatDate
  expirationDate := self.expirationDate.map libs.formatDate

def Passport.decrypt (self : Passport (Option EncString)) : PassportView :=
  (decryptOrNone dec <$> self).toView libs

/-! ## SSH keys -/

def derivePublicKeyAndFingerprint (privateKey : String) : String × String :=
  (libs.importKey privateKey).getD ("", "")

def SshKey.decrypt (self : SshKey EncString) : Except CryptoError SshKeyView := do
  let privateKey ← dec self.privateKey
  match self.publicKey, self.fingerprint with
  | some publicKey, some fingerprint =>
    let publicKey ← dec publicKey
    let fingerprint ← dec fingerprint
    return { privateKey, publicKey, fingerprint }
  | _, _ =>
    let derived := derivePublicKeyAndFingerprint libs privateKey
    return { privateKey, publicKey := derived.1, fingerprint := derived.2 }

/-! ## Attachments -/

variable {SymmetricKey : Type} (unwrap : EncString → Except CryptoError SymmetricKey)
  (self : Attachment EncString)

def Attachment.decrypt :
    Except CryptoError (AttachmentView SymmetricKey) := do
  let fileName ← Traversable.traverse dec self.fileName
  let key ← Traversable.traverse unwrap self.key
  return { id := self.id, url := self.url, size := self.size, sizeName := self.sizeName,
           fileName, key }

/-- What is shown of an attachment that does not decrypt. -/
def Attachment.failure : AttachmentView SymmetricKey where
  id := self.id
  url := self.url
  size := self.size
  sizeName := self.sizeName
  fileName := none
  key := self.key.bind fun wrapped => (unwrap wrapped).toOption

def decryptAttachmentsWithFailures : List (Attachment EncString) →
    List (AttachmentView SymmetricKey) × List (AttachmentView SymmetricKey)
  | [] => ([], [])
  | attachment :: rest =>
    let decrypted := decryptAttachmentsWithFailures rest
    match attachment.decrypt dec unwrap with
    | .ok view => (view :: decrypted.1, decrypted.2)
    | .error _ => (decrypted.1, attachment.failure unwrap :: decrypted.2)

end Decryption

/-! ## Checksums of uris -/

section

variable (libs : Libraries) (self : LoginUri String)

def LoginUri.isChecksumValid : Bool :=
  match self.uri, self.uriChecksum with
  | some uri, some checksum =>
    match Base64.decode checksum.toList with
    | some checksum => libs.sha256 uri.toUTF8.toList == checksum
    | none => false
  | _, _ => false

def LoginUri.generateChecksum : LoginUri String :=
  match self.uri with
  | some uri =>
    { self with
      uriChecksum := some (String.ofList (Base64.encode (libs.sha256 uri.toUTF8.toList))) }
  | none => self

def Login.generateChecksums (self : Login String) : Login String :=
  { self with uris := self.uris.map fun uris => uris.map (·.generateChecksum libs) }

def Login.removeInvalidChecksums (self : Login String) : Login String :=
  { self with uris := self.uris.map fun uris => uris.filter (·.isChecksumValid libs) }

end

/-! ## Encryption -/

section

variable {EncString SymmetricKey Random : Type} (enc : String → EncryptM Random EncString)
  (libs : Libraries)

/-- An empty one-time password key is not stored. -/
def Login.encrypt (self : Login String) : EncryptM Random (Login EncString) :=
  Traversable.traverse enc { self with totp := self.totp.filter fun totp => !totp.isEmpty }

def Card.encrypt (self : Card (Option String)) : EncryptM Random (Card (Option EncString)) :=
  Traversable.traverse (Traversable.traverse enc) self

def Identity.encrypt (self : Identity (Option String)) :
    EncryptM Random (Identity (Option EncString)) :=
  Traversable.traverse (Traversable.traverse enc) self

def BankAccount.encrypt (self : BankAccount (Option String)) :
    EncryptM Random (BankAccount (Option EncString)) :=
  Traversable.traverse (Traversable.traverse enc) self

def Field.encrypt (self : Field (Option String)) : EncryptM Random (Field (Option EncString)) :=
  Traversable.traverse (Traversable.traverse enc) self

def PasswordHistory.encrypt (self : PasswordHistory String) :
    EncryptM Random (PasswordHistory EncString) :=
  Traversable.traverse enc self

def DriversLicenseView.encrypt (self : DriversLicenseView) :
    EncryptM Random (DriversLicense (Option EncString)) :=
  Traversable.traverse (Traversable.traverse enc) (self.toTexts libs)

def PassportView.encrypt (self : PassportView) : EncryptM Random (Passport (Option EncString)) :=
  Traversable.traverse (Traversable.traverse enc) (self.toTexts libs)

/-- An empty public key or fingerprint is derived from the private key. -/
def SshKeyView.complete (self : SshKeyView) : SshKeyView :=
  if self.publicKey.isEmpty || self.fingerprint.isEmpty then
    let derived := derivePublicKeyAndFingerprint libs self.privateKey
    { self with
      publicKey := if self.publicKey.isEmpty then derived.1 else self.publicKey
      fingerprint := if self.fingerprint.isEmpty then derived.2 else self.fingerprint }
  else self

def SshKeyView.encrypt (self : SshKeyView) : EncryptM Random (SshKey EncString) := do
  let complete := self.complete libs
  let privateKey ← enc self.privateKey
  let publicKey ← enc complete.publicKey
  let fingerprint ← enc complete.fingerprint
  return { privateKey, publicKey := some publicKey, fingerprint := some fingerprint }

def AttachmentView.encrypt (wrap : SymmetricKey → EncryptM Random EncString)
    (self : AttachmentView SymmetricKey) : EncryptM Random (Attachment EncString) := do
  let fileName ← Traversable.traverse enc self.fileName
  let key ← Traversable.traverse wrap self.key
  return { id := self.id, url := self.url, size := self.size, sizeName := self.sizeName,
           fileName, key }

end

end SdkInternal.Vault
