import SdkInternal.Model.Vault.Cipher

/-! # The records of the API

The server exchanges encrypted values and dates as texts, and every value as optional. A record of
the API is parsed into a record of an item, and a record of an item is printed into one of the
API. -/

namespace SdkInternal.Vault

open Crypto

/-- An enumeration of the API, together with the codes that are not known. -/
inductive ApiEnum (α : Type) where
  | known (value : α)
  | unknown (code : ℤ)

inductive VaultParseError where
  | chrono
  | crypto (error : CryptoError)
  | missingField (field : String)

/-- Texts of encrypted values and of dates. -/
structure WireFormat (EncString : Type) where
  parse : String → Except CryptoError EncString
  print : EncString → String
  parseDateTime : String → Option DateTime
  toRfc3339 : DateTime → String
  /-- `to_rfc3339_opts(SecondsFormat::Millis, true)`. -/
  toRfc3339Millis : DateTime → String
  /-- `to_rfc3339_opts(SecondsFormat::Secs, true)`. -/
  toRfc3339Secs : DateTime → String

/-! ## Records -/

structure CipherLoginUriModel where
  (uri uriChecksum : Option String)
  matchType : Option (ApiEnum UriMatchType)

structure CipherFido2CredentialModel where
  (credentialId keyType keyAlgorithm keyCurve keyValue rpId rpName userHandle
    userName userDisplayName counter discoverable : Option String)
  creationDate : String

structure CipherLoginModel where
  uris : Option (List CipherLoginUriModel)
  (username password passwordRevisionDate totp : Option String)
  autofillOnPageLoad : Option Bool
  fido2Credentials : Option (List CipherFido2CredentialModel)

abbrev CipherCardModel := Card (Option String)

abbrev CipherIdentityModel := Identity (Option String)

abbrev CipherBankAccountModel := BankAccount (Option String)

abbrev CipherDriversLicenseModel := DriversLicense (Option String)

abbrev CipherPassportModel := Passport (Option String)

structure CipherSecureNoteModel where
  type : Option (ApiEnum SecureNoteType)

structure CipherSshKeyModel where
  (privateKey publicKey keyFingerprint : Option String)

structure CipherFieldModel where
  (name value : Option String)
  type : Option (ApiEnum FieldType)
  linkedId : Option Int32

structure CipherPasswordHistoryModel where
  (password lastUsedDate : String)

/-- The file name and the key are texts. -/
abbrev AttachmentResponseModel := Attachment String

structure CipherPermissionsResponseModel where
  (delete restore : Option Bool)

/-! ## Linked fields -/

def LoginLinkedIdType.discriminant : LoginLinkedIdType → ℕ
  | username => 100
  | password => 101

def CardLinkedIdType.discriminant : CardLinkedIdType → ℕ
  | cardholderName => 300
  | expMonth => 301
  | expYear => 302
  | code => 303
  | brand => 304
  | number => 305

def IdentityLinkedIdType.discriminant : IdentityLinkedIdType → ℕ
  | title => 400
  | middleName => 401
  | address1 => 402
  | address2 => 403
  | address3 => 404
  | city => 405
  | state => 406
  | postalCode => 407
  | country => 408
  | company => 409
  | email => 410
  | phone => 411
  | ssn => 412
  | username => 413
  | passportNumber => 414
  | licenseNumber => 415
  | firstName => 416
  | lastName => 417
  | fullName => 418

def LinkedIdType.discriminant : LinkedIdType → ℕ
  | login id => id.discriminant
  | card id => id.discriminant
  | identity id => id.discriminant

def LinkedIdType.all : List LinkedIdType :=
  [LoginLinkedIdType.username, .password].map .login ++
  [CardLinkedIdType.cardholderName, .expMonth, .expYear, .code, .brand, .number].map .card ++
  [IdentityLinkedIdType.title, .middleName, .address1, .address2, .address3, .city, .state,
    .postalCode, .country, .company, .email, .phone, .ssn, .username, .passportNumber,
    .licenseNumber, .firstName, .lastName, .fullName].map .identity

/-- The field with the code, `TryFrom<u32>`. -/
def LinkedIdType.ofCode (code : ℕ) : Except VaultParseError LinkedIdType :=
  match LinkedIdType.all.find? fun id => id.discriminant == code with
  | none => .error (.missingField "LinkedIdType")
  | some id => .ok id

/-! ## Parsing -/

/-- `require!(value)`. -/
def requireValue {α : Type} (value : Option α) (field : String) : Except VaultParseError α :=
  match value with
  | none => .error (.missingField field)
  | some value => .ok value

def ApiEnum.tryInto {α : Type} (value : ApiEnum α) (field : String) : Except VaultParseError α :=
  match value with
  | known value => .ok value
  | unknown _ => .error (.missingField field)

section Parsing

variable {EncString : Type} (wire : WireFormat EncString)

def parseEncString (text : String) : Except VaultParseError EncString :=
  (wire.parse text).mapError .crypto

/-- `EncString::try_from_optional`. -/
def tryFromOptional (text : Option String) : Except VaultParseError (Option EncString) :=
  traverse (parseEncString wire) text

def parseDateTime (text : String) : Except VaultParseError DateTime :=
  match wire.parseDateTime text with
  | none => .error .chrono
  | some date => .ok date

def CipherLoginUriModel.tryInto (self : CipherLoginUriModel) :
    Except VaultParseError (LoginUri EncString) := do
  let uri ← tryFromOptional wire self.uri
  let matchType ← traverse (ApiEnum.tryInto · "match") self.matchType
  let uriChecksum ← tryFromOptional wire self.uriChecksum
  return { uri, matchType, uriChecksum }

/-- The optional texts that cannot be parsed are left out. -/
def CipherFido2CredentialModel.tryInto (self : CipherFido2CredentialModel) :
    Except VaultParseError (Fido2Credential EncString) := do
  let credentialId ← requireValue self.credentialId "value.credential_id" >>= parseEncString wire
  let keyType ← requireValue self.keyType "value.key_type" >>= parseEncString wire
  let keyAlgorithm ← requireValue self.keyAlgorithm "value.key_algorithm" >>= parseEncString wire
  let keyCurve ← requireValue self.keyCurve "value.key_curve" >>= parseEncString wire
  let keyValue ← requireValue self.keyValue "value.key_value" >>= parseEncString wire
  let rpId ← requireValue self.rpId "value.rp_id" >>= parseEncString wire
  let counter ← requireValue self.counter "value.counter" >>= parseEncString wire
  let discoverable ← requireValue self.discoverable "value.discoverable" >>= parseEncString wire
  let creationDate ← parseDateTime wire self.creationDate
  return { credentialId, keyType, keyAlgorithm, keyCurve, keyValue, rpId
           userHandle := (tryFromOptional wire self.userHandle).toOption.join
           userName := (tryFromOptional wire self.userName).toOption.join
           counter
           rpName := (tryFromOptional wire self.rpName).toOption.join
           userDisplayName := (tryFromOptional wire self.userDisplayName).toOption.join
           discoverable, creationDate }

/-- The API has no setting for HTTP authentication. -/
def CipherLoginModel.tryInto (self : CipherLoginModel) :
    Except VaultParseError (Login EncString) := do
  let username ← tryFromOptional wire self.username
  let password ← tryFromOptional wire self.password
  let passwordRevisionDate ← traverse (parseDateTime wire) self.passwordRevisionDate
  let uris ← traverse (traverse (CipherLoginUriModel.tryInto wire)) self.uris
  let totp ← tryFromOptional wire self.totp
  let fido2Credentials ← traverse (traverse (CipherFido2CredentialModel.tryInto wire))
    self.fido2Credentials
  return { username, password, passwordRevisionDate, uris, totp
           autofillOnPageLoad := self.autofillOnPageLoad
           httpAuthenticationEnabled := none
           fido2Credentials }

/-- The records of optional texts, parsed text by text. -/
def tryIntoRecord {t : Type → Type} [Traversable t] (record : t (Option String)) :
    Except VaultParseError (t (Option EncString)) :=
  traverse (tryFromOptional wire) record

def CipherSecureNoteModel.tryInto (self : CipherSecureNoteModel) :
    Except VaultParseError SecureNote := do
  return { type := ← (← requireValue self.type "model.r#type").tryInto "type" }

def CipherSshKeyModel.tryInto (self : CipherSshKeyModel) :
    Except VaultParseError (SshKey EncString) := do
  let privateKey ← tryFromOptional wire self.privateKey
  let privateKey ← requireValue privateKey "EncString::try_from_optional(ssh_key.private_key)?"
  let publicKey ← tryFromOptional wire self.publicKey
  let fingerprint ← tryFromOptional wire self.keyFingerprint
  return { privateKey, publicKey, fingerprint }

def CipherFieldModel.tryInto (self : CipherFieldModel) :
    Except VaultParseError (Field (Option EncString)) := do
  let name ← tryFromOptional wire self.name
  let value ← tryFromOptional wire self.value
  let type ← requireValue self.type "model.r#type" >>= (ApiEnum.tryInto · "type")
  let linkedId ← traverse (fun id => LinkedIdType.ofCode id.toUInt32.toNat) self.linkedId
  return { name, value, type, linkedId }

def CipherPasswordHistoryModel.tryInto (self : CipherPasswordHistoryModel) :
    Except VaultParseError (PasswordHistory EncString) := do
  let password ← parseEncString wire self.password
  let lastUsedDate ← parseDateTime wire self.lastUsedDate
  return { password, lastUsedDate }

def AttachmentResponseModel.tryInto (self : AttachmentResponseModel) :
    Except VaultParseError (Attachment EncString) := do
  let fileName ← tryFromOptional wire self.fileName
  let key ← tryFromOptional wire self.key
  return { id := self.id, url := self.url, size := self.size, sizeName := self.sizeName,
           fileName, key }

def CipherPermissionsResponseModel.tryInto (self : CipherPermissionsResponseModel) :
    Except VaultParseError CipherPermissions := do
  let delete ← requireValue self.delete "permissions.delete"
  let restore ← requireValue self.restore "permissions.restore"
  return { delete, restore }

end Parsing

/-! ## Printing -/

section

variable {EncString : Type} (wire : WireFormat EncString)

def LoginUri.toModel (self : LoginUri EncString) : CipherLoginUriModel where
  uri := self.uri.map wire.print
  uriChecksum := self.uriChecksum.map wire.print
  matchType := self.matchType.map .known

def Fido2Credential.toModel (self : Fido2Credential EncString) : CipherFido2CredentialModel where
  credentialId := some (wire.print self.credentialId)
  keyType := some (wire.print self.keyType)
  keyAlgorithm := some (wire.print self.keyAlgorithm)
  keyCurve := some (wire.print self.keyCurve)
  keyValue := some (wire.print self.keyValue)
  rpId := some (wire.print self.rpId)
  rpName := self.rpName.map wire.print
  userHandle := self.userHandle.map wire.print
  userName := self.userName.map wire.print
  userDisplayName := self.userDisplayName.map wire.print
  counter := some (wire.print self.counter)
  discoverable := some (wire.print self.discoverable)
  creationDate := wire.toRfc3339 self.creationDate

def Login.toModel (self : Login EncString) : CipherLoginModel where
  uris := self.uris.map (·.map (·.toModel wire))
  username := self.username.map wire.print
  password := self.password.map wire.print
  passwordRevisionDate := self.passwordRevisionDate.map wire.toRfc3339
  totp := self.totp.map wire.print
  autofillOnPageLoad := self.autofillOnPageLoad
  fido2Credentials := self.fido2Credentials.map (·.map (·.toModel wire))

/-- The records of optional texts, printed text by text. -/
def toRecordModel {t : Type → Type} [Functor t] (record : t (Option EncString)) :
    t (Option String) :=
  Option.map wire.print <$> record

def SecureNote.toModel (self : SecureNote) : CipherSecureNoteModel where
  type := some (.known self.type)

def SshKey.toModel (self : SshKey EncString) : CipherSshKeyModel where
  privateKey := some (wire.print self.privateKey)
  publicKey := self.publicKey.map wire.print
  keyFingerprint := self.fingerprint.map wire.print

def Field.toModel (self : Field (Option EncString)) : CipherFieldModel where
  name := self.name.map wire.print
  value := self.value.map wire.print
  type := some (.known self.type)
  linkedId := self.linkedId.map fun id => (UInt32.ofNat id.discriminant).toInt32

def PasswordHistory.toModel (self : PasswordHistory EncString) : CipherPasswordHistoryModel where
  password := wire.print self.password
  lastUsedDate := wire.toRfc3339 self.lastUsedDate

end

end SdkInternal.Vault
