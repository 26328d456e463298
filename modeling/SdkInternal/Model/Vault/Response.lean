import SdkInternal.Model.Vault.Wire

/-! # Responses of the server

An item is built from one of four responses of the server. What the response does not have is
taken from the local copy of the item, if there is one. -/

namespace SdkInternal.Vault

structure CipherMiniResponseModel where
  (id organizationId : Option Uuid)
  type : Option (ApiEnum CipherType)
  (data partialData name notes : Option String)
  login : Option CipherLoginModel
  card : Option CipherCardModel
  identity : Option CipherIdentityModel
  secureNote : Option CipherSecureNoteModel
  sshKey : Option CipherSshKeyModel
  bankAccount : Option CipherBankAccountModel
  driversLicense : Option CipherDriversLicenseModel
  passport : Option CipherPassportModel
  fields : Option (List CipherFieldModel)
  passwordHistory : Option (List CipherPasswordHistoryModel)
  attachments : Option (List AttachmentResponseModel)
  organizationUseTotp : Option Bool
  (revisionDate creationDate deletedDate : Option String)
  reprompt : Option (ApiEnum CipherRepromptType)
  key : Option String

structure CipherMiniDetailsResponseModel extends CipherMiniResponseModel where
  collectionIds : Option (List Uuid)

structure CipherResponseModel extends CipherMiniResponseModel where
  folderId : Option Uuid
  (favorite edit viewPassword : Option Bool)
  archivedDate : Option String
  permissions : Option CipherPermissionsResponseModel

structure CipherDetailsResponseModel extends CipherResponseModel where
  collectionIds : Option (List Uuid)

/-! ## Values that all responses have -/

structure ParsedPayloads (EncString : Type) where
  (name notes : Option EncString)
  type : CipherType
  login : Option (Login EncString)
  identity : Option (Identity (Option EncString))
  card : Option (Card (Option EncString))
  secureNote : Option SecureNote
  sshKey : Option (SshKey EncString)
  bankAccount : Option (BankAccount (Option EncString))
  driversLicense : Option (DriversLicense (Option EncString))
  passport : Option (Passport (Option EncString))
  reprompt : CipherRepromptType

structure ParsedRecords (EncString : Type) where
  attachments : Option (List (Attachment EncString))
  fields : Option (List (Field (Option EncString)))
  passwordHistory : Option (List (PasswordHistory EncString))
  creationDate : DateTime
  deletedDate : Option DateTime
  revisionDate : DateTime

section Merging

variable {EncString : Type} (wire : WireFormat EncString) (self : CipherMiniResponseModel)

namespace CipherMiniResponseModel

/-- An error names the field of the variable that the response is in. -/
def parsePayloads (variableName : String) :
    Except VaultParseError (ParsedPayloads EncString) := do
  let name ← tryFromOptional wire self.name
  let notes ← tryFromOptional wire self.notes
  let type ← requireValue self.type (variableName ++ ".r#type") >>= (ApiEnum.tryInto · "type")
  let login ← traverse (CipherLoginModel.tryInto wire) self.login
  let identity ← traverse (tryIntoRecord wire) self.identity
  let card ← traverse (tryIntoRecord wire) self.card
  let secureNote ← traverse CipherSecureNoteModel.tryInto self.secureNote
  let sshKey ← traverse (CipherSshKeyModel.tryInto wire) self.sshKey
  let bankAccount ← traverse (tryIntoRecord wire) self.bankAccount
  let driversLicense ← traverse (tryIntoRecord wire) self.driversLicense
  let passport ← traverse (tryIntoRecord wire) self.passport
  let reprompt ← traverse (ApiEnum.tryInto · "reprompt") self.reprompt
  return { name, notes, type, login, identity, card, secureNote, sshKey, bankAccount
           driversLicense, passport, reprompt := reprompt.getD .none }

def parseRecords (variableName : String) :
    Except VaultParseError (ParsedRecords EncString) := do
  let attachments ← traverse (traverse (AttachmentResponseModel.tryInto wire)) self.attachments
  let fields ← traverse (traverse (CipherFieldModel.tryInto wire)) self.fields
  let passwordHistory ← traverse (traverse (CipherPasswordHistoryModel.tryInto wire))
    self.passwordHistory
  let creationDate ← requireValue self.creationDate (variableName ++ ".creation_date") >>=
    parseDateTime wire
  let deletedDate ← traverse (parseDateTime wire) self.deletedDate
  let revisionDate ← requireValue self.revisionDate (variableName ++ ".revision_date") >>=
    parseDateTime wire
  return { attachments, fields, passwordHistory, creationDate, deletedDate, revisionDate }

end CipherMiniResponseModel

def assembleCipher (metadata : CipherMetadata) (key : Option EncString)
    (payloads : ParsedPayloads EncString) (records : ParsedRecords EncString)
    (data partialData : Option String) : Cipher EncString :=
  { metadata with
    type := payloads.type
    key
    name := payloads.name
    notes := payloads.notes
    login := payloads.login
    identity := payloads.identity
    card := payloads.card
    secureNote := payloads.secureNote
    sshKey := payloads.sshKey
    bankAccount := payloads.bankAccount
    driversLicense := payloads.driversLicense
    passport := payloads.passport
    attachments := records.attachments
    fields := records.fields
    passwordHistory := records.passwordHistory
    data
    partialData }

/-! ## The four responses -/

def CipherDetailsResponseModel.tryInto (self : CipherDetailsResponseModel) :
    Except VaultParseError (Cipher EncString) := do
  let payloads ← self.parsePayloads wire "cipher"
  let permissions ← traverse CipherPermissionsResponseModel.tryInto self.permissions
  let records ← self.parseRecords wire "cipher"
  let key ← tryFromOptional wire self.key
  let archivedDate ← traverse (parseDateTime wire) self.archivedDate
  return assembleCipher
    { id := self.id
      organizationId := self.organizationId
      folderId := self.folderId
      collectionIds := self.collectionIds.getD []
      favorite := self.favorite.getD false
      reprompt := payloads.reprompt
      organizationUseTotp := self.organizationUseTotp.getD true
      edit := self.edit.getD true
      permissions
      viewPassword := self.viewPassword.getD true
      localData := none
      creationDate := records.creationDate
      deletedDate := records.deletedDate
      revisionDate := records.revisionDate
      archivedDate }
    key payloads records self.data self.partialData

def CipherDetailsResponseModel.mergeWithCipher (self : CipherDetailsResponseModel)
    (cipher : Option (Cipher EncString)) : Except VaultParseError (Cipher EncString) := do
  return { ← self.tryInto wire with localData := cipher.bind (·.localData) }

def CipherResponseModel.mergeWithCipher (self : CipherResponseModel)
    (cipher : Option (Cipher EncString)) : Except VaultParseError (Cipher EncString) := do
  let payloads ← self.parsePayloads wire "self"
  let permissions ← traverse CipherPermissionsResponseModel.tryInto self.permissions
  let records ← self.parseRecords wire "self"
  let key ← tryFromOptional wire self.key
  let archivedDate ← traverse (parseDateTime wire) self.archivedDate
  return assembleCipher
    { id := self.id
      organizationId := self.organizationId
      folderId := self.folderId
      collectionIds := (cipher.map (·.collectionIds)).getD []
      favorite := self.favorite.getD false
      reprompt := payloads.reprompt
      organizationUseTotp := self.organizationUseTotp.getD false
      edit := self.edit.getD false
      permissions
      viewPassword := self.viewPassword.getD true
      localData := cipher.bind (·.localData)
      creationDate := records.creationDate
      deletedDate := records.deletedDate
      revisionDate := records.revisionDate
      archivedDate }
    key payloads records self.data self.partialData

def CipherMiniResponseModel.mergeWithCipher (cipher : Option (Cipher EncString)) :
    Except VaultParseError (Cipher EncString) := do
  let key ← tryFromOptional wire self.key
  let payloads ← self.parsePayloads wire "self"
  let records ← self.parseRecords wire "self"
  return assembleCipher
    { id := self.id
      organizationId := self.organizationId
      folderId := cipher.bind (·.folderId)
      collectionIds := (cipher.map (·.collectionIds)).getD []
      favorite := (cipher.map (·.favorite)).getD false
      reprompt := payloads.reprompt
      organizationUseTotp := self.organizationUseTotp.getD true
      edit := (cipher.map (·.edit)).getD false
      permissions := cipher.bind (·.permissions)
      viewPassword := (cipher.map (·.viewPassword)).getD true
      localData := cipher.bind (·.localData)
      creationDate := records.creationDate
      deletedDate := records.deletedDate
      revisionDate := records.revisionDate
      archivedDate := cipher.bind (·.archivedDate) }
    key payloads records self.data self.partialData

/-- The data are those of the local copy, although the response has data. -/
def CipherMiniDetailsResponseModel.mergeWithCipher (self : CipherMiniDetailsResponseModel)
    (cipher : Option (Cipher EncString)) : Except VaultParseError (Cipher EncString) := do
  let key ← tryFromOptional wire self.key
  let payloads ← self.parsePayloads wire "self"
  let records ← self.parseRecords wire "self"
  return assembleCipher
    { id := self.id
      organizationId := self.organizationId
      folderId := cipher.bind (·.folderId)
      collectionIds := self.collectionIds.getD []
      favorite := (cipher.map (·.favorite)).getD false
      reprompt := payloads.reprompt
      organizationUseTotp := self.organizationUseTotp.getD true
      edit := (cipher.map (·.edit)).getD false
      permissions := cipher.bind (·.permissions)
      viewPassword := (cipher.map (·.viewPassword)).getD true
      localData := cipher.bind (·.localData)
      creationDate := records.creationDate
      deletedDate := records.deletedDate
      revisionDate := records.revisionDate
      archivedDate := cipher.bind (·.archivedDate) }
    key payloads records (cipher.bind (·.data)) self.partialData

inductive PartialCipher where
  | details (model : CipherDetailsResponseModel)
  | response (model : CipherResponseModel)
  | mini (model : CipherMiniResponseModel)
  | miniDetails (model : CipherMiniDetailsResponseModel)

def PartialCipher.common : PartialCipher → CipherMiniResponseModel
  | details model => model.toCipherMiniResponseModel
  | response model => model.toCipherMiniResponseModel
  | mini model => model
  | miniDetails model => model.toCipherMiniResponseModel

def PartialCipher.mergeWithCipher (self : PartialCipher) (cipher : Option (Cipher EncString)) :
    Except VaultParseError (Cipher EncString) :=
  match self with
  | details model => model.mergeWithCipher wire cipher
  | response model => model.mergeWithCipher wire cipher
  | mini model => model.mergeWithCipher wire cipher
  | miniDetails model => model.mergeWithCipher wire cipher

end Merging

end SdkInternal.Vault
