import SdkInternal.Model.Vault.Response
import SdkInternal.Shared.KeyedStore

/-! # Requests to the server

An encrypted item is printed into a request. The requests differ in how they treat attachments
without an id, and in the precision of their dates. -/

namespace SdkInternal.Vault

open Crypto Shared

structure CipherAttachmentModel where
  (fileName key : Option String)

structure CipherRequestModel where
  encryptedFor : Option Uuid
  encryptedByKeyId : Option String
  type : Option (ApiEnum CipherType)
  organizationId : Option Uuid
  isOrganizationCipher : Option Bool
  folderId : Option Uuid
  favorite : Option Bool
  reprompt : Option (ApiEnum CipherRepromptType)
  (key name notes : Option String)
  login : Option CipherLoginModel
  card : Option CipherCardModel
  identity : Option CipherIdentityModel
  secureNote : Option CipherSecureNoteModel
  sshKey : Option CipherSshKeyModel
  bankAccount : Option CipherBankAccountModel
  driversLicense : Option CipherDriversLicenseModel
  passport : Option CipherPassportModel
  fields : Option (List CipherFieldModel)
  passwordHistory : Option (List CipherPasswordHistoryModel)
  attachments : Option (Store String String)
  attachments2 : Option (Store String CipherAttachmentModel)
  (lastKnownRevisionDate archivedDate data : Option String)

structure CipherWithIdRequestModel extends CipherRequestModel where
  id : Uuid

/-- An encrypted item, with the user and the key that it is encrypted for. -/
structure EncryptionContext (EncString : Type) where
  encryptedFor : Uuid
  encryptedByKeyId : Option String
  cipher : Cipher EncString

structure MissingFieldError where
  field : String

section Printing

variable {EncString : Type} (wire : WireFormat EncString)

def Attachment.toModel (self : Attachment EncString) : CipherAttachmentModel where
  fileName := self.fileName.map wire.print
  key := self.key.map wire.print

/-- What all requests take over from an item. -/
def Cipher.toRequestModel (self : Cipher EncString) : CipherRequestModel where
  encryptedFor := none
  encryptedByKeyId := none
  type := some (.known self.type)
  organizationId := self.organizationId
  isOrganizationCipher := none
  folderId := self.folderId
  favorite := some self.favorite
  reprompt := some (.known self.reprompt)
  key := self.key.map wire.print
  name := self.name.map wire.print
  notes := self.notes.map wire.print
  login := self.login.map (·.toModel wire)
  card := self.card.map (toRecordModel wire)
  identity := self.identity.map (toRecordModel wire)
  secureNote := self.secureNote.map (·.toModel)
  sshKey := self.sshKey.map (·.toModel wire)
  bankAccount := self.bankAccount.map (toRecordModel wire)
  driversLicense := self.driversLicense.map (toRecordModel wire)
  passport := self.passport.map (toRecordModel wire)
  fields := self.fields.map (·.map (·.toModel wire))
  passwordHistory := self.passwordHistory.map (·.map (·.toModel wire))
  attachments := none
  attachments2 := none
  lastKnownRevisionDate := none
  archivedDate := none
  data := self.data

/-- `TryFrom<Cipher> for CipherRequestModel`, which requires that attachments have an id. -/
def Cipher.tryIntoRequest (self : Cipher EncString) : Except CryptoError CipherRequestModel := do
  let attachments2 ← traverse (traverse fun attachment => do
    return (← required attachment.id "id", attachment.toModel wire)) self.attachments
  return { self.toRequestModel wire with
    attachments2 := attachments2.map Store.ofList
    lastKnownRevisionDate := some (wire.toRfc3339Secs self.revisionDate)
    archivedDate := self.archivedDate.map wire.toRfc3339 }

variable (self : EncryptionContext EncString)

/-- `From<EncryptionContext> for CipherRequestModel`. Attachments without an id are left out, and
lists that are absent are sent as empty. -/
def EncryptionContext.toRequest : CipherRequestModel :=
  { self.cipher.toRequestModel wire with
    encryptedFor := some self.encryptedFor
    encryptedByKeyId := self.encryptedByKeyId
    fields := some ((self.cipher.fields.getD []).map (·.toModel wire))
    passwordHistory := some ((self.cipher.passwordHistory.getD []).map (·.toModel wire))
    attachments2 := some (Store.ofList ((self.cipher.attachments.getD []).filterMap
      fun attachment => attachment.id.map fun id => (id, attachment.toModel wire)))
    lastKnownRevisionDate := some (wire.toRfc3339Millis self.cipher.revisionDate)
    archivedDate := self.cipher.archivedDate.map wire.toRfc3339Millis }

/-- `TryFrom<EncryptionContext> for CipherWithIdRequestModel`. -/
def EncryptionContext.tryIntoWithId : Except MissingFieldError CipherWithIdRequestModel :=
  match self.cipher.id with
  | none => .error ⟨"cipher.id"⟩
  | some id => .ok { self.toRequest wire with id }

end Printing

end SdkInternal.Vault
