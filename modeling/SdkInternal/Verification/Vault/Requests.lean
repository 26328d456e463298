import SdkInternal.Model.Vault.Request
import SdkInternal.Verification.Vault.Merge
import SdkInternal.Verification.Vault.RoundTrip

/-! # Requests that are stored and read back

A request holds the printed values of an item. A server that stores it answers with the same
values, and the response is parsed into the item again, apart from the setting for HTTP
authentication, which the API does not have. -/

namespace SdkInternal.Vault

open Crypto Shared Store Attachment List Function AttachmentResponseModel LinkedIdType

variable {EncString SymmetricKey : Type} {wire : WireFormat EncString}

/-- What is printed is parsed back. Milliseconds are the last digits that some dates have. -/
structure WireFormat.Lawful (wire : WireFormat EncString) : Prop where
  parse_print : ∀ value, wire.parse (wire.print value) = .ok value
  parseDateTime_toRfc3339 : ∀ date, wire.parseDateTime (wire.toRfc3339 date) = some date
  parseDateTime_toRfc3339Millis : ∀ date : ℤ,
    wire.parseDateTime (wire.toRfc3339Millis date) = some (date - date % 1000000)

/-! ## Records -/

section

variable (hwire : wire.Lawful)

include hwire

theorem parseEncString_print (value : EncString) :
    parseEncString wire (wire.print value) = .ok value := by
  rw [parseEncString, hwire.parse_print]
  rfl

theorem tryFromOptional_print (value : Option EncString) :
    tryFromOptional wire (value.map wire.print) = .ok value :=
  traverse_map_ok_self (parseEncString_print hwire) value

theorem parseDateTime_toRfc3339 (date : DateTime) :
    parseDateTime wire (wire.toRfc3339 date) = .ok date := by
  rw [parseDateTime, hwire.parseDateTime_toRfc3339]

theorem parseDateTimes_toRfc3339 (date : Option DateTime) :
    traverse (parseDateTime wire) (date.map wire.toRfc3339) = .ok date :=
  traverse_map_ok_self (parseDateTime_toRfc3339 hwire) date

theorem LoginUri.tryInto_toModel (uri : LoginUri EncString) :
    (uri.toModel wire).tryInto wire = .ok uri := by
  obtain ⟨uri, matchType, checksum⟩ := uri
  have hmatch : Traversable.traverse (ApiEnum.tryInto · "match")
      (matchType.map ApiEnum.known) = .ok matchType :=
    traverse_map_ok_self (f := (ApiEnum.tryInto · "match")) (u := ApiEnum.known) (fun _ => rfl)
      matchType
  simp only [CipherLoginUriModel.tryInto, LoginUri.toModel, tryFromOptional_print hwire, hmatch]
  rfl

theorem Fido2Credential.tryInto_toModel (credential : Fido2Credential EncString) :
    (credential.toModel wire).tryInto wire = .ok credential := by
  simp only [CipherFido2CredentialModel.tryInto, Fido2Credential.toModel, requireValue,
    tryFromOptional_print hwire, parseDateTime_toRfc3339 hwire]
  simp only [Bind.bind, Except.bind, parseEncString_print hwire]
  rfl

def Login.withoutHttpAuthentication {Text : Type} (login : Login Text) : Login Text :=
  { login with httpAuthenticationEnabled := none }

theorem Login.tryInto_toModel (login : Login EncString) :
    (login.toModel wire).tryInto wire = .ok login.withoutHttpAuthentication := by
  have huris : Traversable.traverse (Traversable.traverse (CipherLoginUriModel.tryInto wire))
      (login.uris.map (·.map (LoginUri.toModel wire))) = .ok login.uris :=
    traverse_map_ok_self (traverse_map_ok_self (LoginUri.tryInto_toModel hwire)) login.uris
  have hcredentials : Traversable.traverse
      (Traversable.traverse (CipherFido2CredentialModel.tryInto wire))
      (login.fido2Credentials.map (·.map (Fido2Credential.toModel wire))) =
        .ok login.fido2Credentials :=
    traverse_map_ok_self (traverse_map_ok_self (Fido2Credential.tryInto_toModel hwire))
      login.fido2Credentials
  simp only [CipherLoginModel.tryInto, Login.toModel, tryFromOptional_print hwire,
    parseDateTimes_toRfc3339 hwire, huris, hcredentials]
  rfl

variable {t : Type → Type}

theorem tryIntoRecord_toRecordModel [Traversable t] [LawfulTraversable t]
    (record : t (Option EncString)) :
    tryIntoRecord wire (toRecordModel wire record) = .ok record :=
  traverse_map_ok_self (tryFromOptional_print hwire) record

theorem traverse_record_toRecordModel [Traversable t] [LawfulTraversable t]
    (record : Option (t (Option EncString))) :
    traverse (tryIntoRecord wire) (record.map (toRecordModel wire)) = .ok record :=
  traverse_map_ok_self (tryIntoRecord_toRecordModel hwire) record

omit hwire in
theorem SecureNote.tryInto_toModel (note : SecureNote) : note.toModel.tryInto = .ok note := rfl

theorem SshKey.tryInto_toModel (sshKey : SshKey EncString) :
    (sshKey.toModel wire).tryInto wire = .ok sshKey := by
  have hprivate := tryFromOptional_print hwire (some sshKey.privateKey)
  simp only [Option.map_some] at hprivate
  simp only [CipherSshKeyModel.tryInto, SshKey.toModel, hprivate, tryFromOptional_print hwire]
  rfl

omit hwire in
theorem LinkedIdType.ofCode_discriminant (id : LinkedIdType) :
    ofCode (UInt32.ofNat id.discriminant).toInt32.toUInt32.toNat = .ok id := by
  cases id with
  | login id | card id | identity id => cases id <;> rfl

theorem Field.tryInto_toModel (field : Field (Option EncString)) :
    (field.toModel wire).tryInto wire = .ok field := by
  have hlinked : Traversable.traverse
      (fun id : Int32 => ofCode id.toUInt32.toNat)
      (field.linkedId.map fun id => (UInt32.ofNat id.discriminant).toInt32) =
      .ok field.linkedId :=
    traverse_map_ok_self (f := fun id : Int32 => ofCode id.toUInt32.toNat)
      ofCode_discriminant field.linkedId
  simp only [CipherFieldModel.tryInto, Field.toModel, tryFromOptional_print hwire, hlinked]
  rfl

theorem PasswordHistory.tryInto_toModel (entry : PasswordHistory EncString) :
    (entry.toModel wire).tryInto wire = .ok entry := by
  simp only [CipherPasswordHistoryModel.tryInto, PasswordHistory.toModel,
    parseEncString_print hwire, parseDateTime_toRfc3339 hwire]
  rfl

end

/-! ## Items -/

/-- What the server answers of an attachment that is stored under the id. -/
def CipherAttachmentModel.stored (id : String) (model : CipherAttachmentModel) :
    AttachmentResponseModel where
  id := some id
  url := none
  size := none
  sizeName := none
  fileName := model.fileName
  key := model.key

def Attachment.stored (id : String) (attachment : Attachment EncString) :
    Attachment EncString where
  id := some id
  url := none
  size := none
  sizeName := none
  fileName := attachment.fileName
  key := attachment.key

def storedAttachments (attachments : Store String (Attachment EncString)) :
    List (Attachment EncString) :=
  attachments.entries.map fun entry => entry.2.stored entry.1

/-- The response of a server that has stored the request. -/
def CipherRequestModel.stored (wire : WireFormat EncString) (id : Uuid)
    (creationDate revisionDate : DateTime) (request : CipherRequestModel) :
    CipherResponseModel where
  id := some id
  organizationId := request.organizationId
  type := request.type
  data := request.data
  partialData := none
  name := request.name
  notes := request.notes
  login := request.login
  card := request.card
  identity := request.identity
  secureNote := request.secureNote
  sshKey := request.sshKey
  bankAccount := request.bankAccount
  driversLicense := request.driversLicense
  passport := request.passport
  fields := request.fields
  passwordHistory := request.passwordHistory
  attachments := request.attachments2.map fun attachments =>
    attachments.entries.map fun entry => entry.2.stored entry.1
  organizationUseTotp := none
  revisionDate := some (wire.toRfc3339 revisionDate)
  creationDate := some (wire.toRfc3339 creationDate)
  deletedDate := none
  reprompt := request.reprompt
  key := request.key
  folderId := request.folderId
  favorite := request.favorite
  edit := none
  viewPassword := none
  archivedDate := request.archivedDate
  permissions := none

def CipherMetadata.stored (id : Uuid) (creationDate revisionDate : DateTime)
    (archivedDate : Option DateTime) (cipher : Option (Cipher EncString))
    (metadata : CipherMetadata) : CipherMetadata where
  id := some id
  organizationId := metadata.organizationId
  folderId := metadata.folderId
  collectionIds := (cipher.map (·.collectionIds)).getD []
  favorite := metadata.favorite
  reprompt := metadata.reprompt
  organizationUseTotp := false
  edit := false
  permissions := none
  viewPassword := true
  localData := cipher.bind (·.localData)
  creationDate := creationDate
  deletedDate := none
  revisionDate := revisionDate
  archivedDate := archivedDate

def Cipher.readBack (attachments : Option (Store String (Attachment EncString)))
    (cipher : Cipher EncString) : Cipher EncString :=
  { cipher with
    login := cipher.login.map (·.withoutHttpAuthentication)
    attachments := attachments.map storedAttachments
    partialData := none }

/-- The values of a request that are not taken over from the item as they are. -/
structure Sending where
  encryptedFor : Option Uuid
  encryptedByKeyId : Option String
  attachments2 : Option (Store String CipherAttachmentModel)
  lastKnownRevisionDate : Option String
  archivedDate : Option String

def Cipher.requestWith (wire : WireFormat EncString) (sending : Sending)
    (cipher : Cipher EncString) : CipherRequestModel :=
  { cipher.toRequestModel wire with
    encryptedFor := sending.encryptedFor
    encryptedByKeyId := sending.encryptedByKeyId
    attachments2 := sending.attachments2
    lastKnownRevisionDate := sending.lastKnownRevisionDate
    archivedDate := sending.archivedDate }

section

variable (hwire : wire.Lawful)

include hwire

theorem tryInto_stored (attachments : Store String (Attachment EncString)) :
    traverse (tryInto wire)
      ((attachments.mapValues (toModel wire)).entries.map
        fun entry => entry.2.stored entry.1) = .ok (storedAttachments attachments) := by
  rw [entries_mapValues, List.map_map]
  refine traverse_map_ok ?_ attachments.entries
  intro entry
  simp only [tryInto, comp_apply, CipherAttachmentModel.stored,
    toModel, tryFromOptional_print hwire]
  rfl

variable (cipher : Cipher EncString) (sending : Sending)

theorem parsePayloads_stored (id : Uuid) (creationDate revisionDate : DateTime)
    (variableName : String) :
    ((cipher.requestWith wire sending).stored wire id creationDate revisionDate).parsePayloads
      wire variableName = .ok
        { name := cipher.name
          notes := cipher.notes
          type := cipher.type
          login := cipher.login.map (·.withoutHttpAuthentication)
          identity := cipher.identity
          card := cipher.card
          secureNote := cipher.secureNote
          sshKey := cipher.sshKey
          bankAccount := cipher.bankAccount
          driversLicense := cipher.driversLicense
          passport := cipher.passport
          reprompt := cipher.reprompt } := by
  have hlogin : traverse (CipherLoginModel.tryInto wire) (cipher.login.map (Login.toModel wire)) =
      .ok (cipher.login.map (·.withoutHttpAuthentication)) :=
    traverse_map_ok (Login.tryInto_toModel hwire) cipher.login
  have hnote : traverse CipherSecureNoteModel.tryInto
      (cipher.secureNote.map SecureNote.toModel) = .ok cipher.secureNote :=
    traverse_map_ok_self SecureNote.tryInto_toModel cipher.secureNote
  have hsshKey : traverse (CipherSshKeyModel.tryInto wire)
      (cipher.sshKey.map (SshKey.toModel wire)) = .ok cipher.sshKey :=
    traverse_map_ok_self (SshKey.tryInto_toModel hwire) cipher.sshKey
  simp only [CipherMiniResponseModel.parsePayloads, CipherRequestModel.stored,
    Cipher.requestWith, Cipher.toRequestModel, tryFromOptional_print hwire, hlogin, hnote, hsshKey,
    traverse_record_toRecordModel hwire]
  rfl

variable {attachments : Option (Store String (Attachment EncString))}

theorem parseRecords_stored {sending : Sending} (hattachments : sending.attachments2 =
      attachments.map (mapValues (toModel wire))) (id : Uuid)
    (creationDate revisionDate : DateTime) (variableName : String) :
    ((cipher.requestWith wire sending).stored wire id creationDate revisionDate).parseRecords
      wire variableName = .ok
        { attachments := attachments.map storedAttachments
          fields := cipher.fields
          passwordHistory := cipher.passwordHistory
          creationDate
          deletedDate := none
          revisionDate } := by
  have hstored : traverse (traverse (tryInto wire))
      ((attachments.map (mapValues (toModel wire))).map fun attachments =>
        attachments.entries.map fun entry => entry.2.stored entry.1) =
      .ok (attachments.map storedAttachments) := by
    rw [Option.map_map]
    exact traverse_map_ok (tryInto_stored hwire) attachments
  have hfields : traverse (traverse (CipherFieldModel.tryInto wire))
      (cipher.fields.map (·.map (Field.toModel wire))) = .ok cipher.fields :=
    traverse_map_ok_self (traverse_map_ok_self (Field.tryInto_toModel hwire)) cipher.fields
  have hhistory : traverse (traverse (CipherPasswordHistoryModel.tryInto wire))
      (cipher.passwordHistory.map (·.map (PasswordHistory.toModel wire))) =
      .ok cipher.passwordHistory :=
    traverse_map_ok_self (traverse_map_ok_self (PasswordHistory.tryInto_toModel hwire))
      cipher.passwordHistory
  simp only [CipherMiniResponseModel.parseRecords, CipherRequestModel.stored,
    Cipher.requestWith, Cipher.toRequestModel, hattachments, hstored, hfields, hhistory,
    requireValue, Bind.bind, Except.bind, parseDateTime_toRfc3339 hwire]
  rfl

theorem mergeWithCipher_stored {archivedDate : Option DateTime}
    (hattachments : sending.attachments2 =
      attachments.map (mapValues (toModel wire)))
    (harchived : traverse (parseDateTime wire) sending.archivedDate = .ok archivedDate) (id : Uuid)
    (creationDate revisionDate : DateTime) (stored : Option (Cipher EncString)) :
    ((cipher.requestWith wire sending).stored wire id creationDate revisionDate).mergeWithCipher
      wire stored =
      .ok ((cipher.readBack attachments).withMetadata
        (cipher.toCipherMetadata.stored id creationDate revisionDate archivedDate stored)) := by
  have hkey : tryFromOptional wire
      ((cipher.requestWith wire sending).stored wire id creationDate revisionDate).key =
      .ok cipher.key := tryFromOptional_print hwire cipher.key
  have harchived : traverse (parseDateTime wire)
      ((cipher.requestWith wire sending).stored wire id creationDate revisionDate).archivedDate =
      .ok archivedDate := harchived
  simp only [CipherResponseModel.mergeWithCipher, parsePayloads_stored hwire,
    parseRecords_stored hwire cipher hattachments, hkey, harchived]
  rfl

end

/-! ## Attachments by id -/

section

/-- The file name and the key of the last attachment with the id. -/
def attachmentById (views : List (AttachmentView SymmetricKey)) (id : String) :
    Option (Option String × Option SymmetricKey) :=
  (views.reverse.find? (·.id = some id)).map fun view => (view.fileName, view.key)

def attachmentStore (attachments : List (Attachment EncString)) :
    Store String (Attachment EncString) :=
  Store.ofList (attachments.filterMap fun attachment => attachment.id.map fun id =>
    (id, attachment))

theorem ofList_toModel (wire : WireFormat EncString) (attachments : List (Attachment EncString)) :
    ofList (attachments.filterMap fun attachment => attachment.id.map fun id =>
      (id, attachment.toModel wire)) =
      (attachmentStore attachments).mapValues (toModel wire) := by
  rw [attachmentStore, ← ofList_map, map_filterMap]
  simp [comp_def]

variable {attachments : List (Attachment EncString)}

theorem traverse_required_eq_ok {wire : WireFormat EncString}
    {pairs : List (String × CipherAttachmentModel)}
    (h : traverse (fun attachment : Attachment EncString =>
      (do return (← required attachment.id "id", attachment.toModel wire) :
        Except CryptoError (String × CipherAttachmentModel))) attachments = .ok pairs) :
    (∀ attachment ∈ attachments, attachment.id.isSome) ∧
      pairs = attachments.filterMap fun attachment => attachment.id.map fun id =>
        (id, attachment.toModel wire) := by
  induction attachments generalizing pairs with
  | nil =>
    cases h
    simp
  | cons attachment attachments ih =>
    obtain ⟨pair, rest, hpair, hrest, rfl⟩ := traverse_cons_eq_ok_iff.mp h
    simp only [bind_eq_ok_iff, required_eq_ok_iff, pure_eq_ok_iff] at hpair
    obtain ⟨id, hid, rfl⟩ := hpair
    obtain ⟨hids, rfl⟩ := ih hrest
    refine ⟨?_, by simp [hid]⟩
    simpa [hid] using hids

theorem Cipher.tryIntoRequest_eq_ok {wire : WireFormat EncString} {cipher : Cipher EncString}
    {request : CipherRequestModel} (h : cipher.tryIntoRequest wire = .ok request) :
    (∀ attachment ∈ cipher.attachments.getD [], attachment.id.isSome) ∧
      request = cipher.requestWith wire
        { encryptedFor := none
          encryptedByKeyId := none
          attachments2 := (cipher.attachments.map attachmentStore).map
            (mapValues (toModel wire))
          lastKnownRevisionDate := some (wire.toRfc3339Secs cipher.revisionDate)
          archivedDate := cipher.archivedDate.map wire.toRfc3339 } := by
  simp only [Cipher.tryIntoRequest, bind_eq_ok_iff, pure_eq_ok_iff] at h
  obtain ⟨attachments2, hattachments, rfl⟩ := h
  cases hstored : cipher.attachments with
  | none =>
    rw [hstored] at hattachments
    cases hattachments
    exact ⟨by simp, rfl⟩
  | some attachments =>
    rw [hstored] at hattachments
    obtain ⟨pairs, hpairs, rfl⟩ := map_eq_ok_iff.mp hattachments
    obtain ⟨hids, rfl⟩ := traverse_required_eq_ok hpairs
    refine ⟨hids, ?_⟩
    simp only [Option.map_some, ofList_toModel]
    rfl

def AttachmentView.stored (id : String) (view : AttachmentView SymmetricKey) :
    AttachmentView SymmetricKey where
  id := some id
  url := none
  size := none
  sizeName := none
  fileName := view.fileName
  key := view.key

variable {unwrap : EncString → Except CryptoError SymmetricKey}
  {dec : EncString → Except CryptoError String}

theorem Attachment.decrypt_stored {attachment : Attachment EncString}
    {view : AttachmentView SymmetricKey} (h : attachment.decrypt dec unwrap = .ok view)
    (id : String) : (attachment.stored id).decrypt dec unwrap = .ok (view.stored id) := by
  obtain ⟨hname, hkey, -⟩ := decrypt_eq_ok_iff.mp h
  exact decrypt_eq_ok_iff.mpr ⟨hname, hkey, rfl, rfl, rfl, rfl⟩

/-- The stored attachments decrypt to views with the ids, file names and keys of those that they
were made from. -/
theorem decryptAttachments_stored {views : List (AttachmentView SymmetricKey)}
    (h : traverse (decrypt dec unwrap) attachments = .ok views) :
    ∃ stored, decryptAttachmentsWithFailures dec unwrap
        (storedAttachments (attachmentStore attachments)) = (stored, []) ∧
      ∀ id, attachmentById stored id = attachmentById views id := by
  -- The attachments together with their views, by id.
  obtain ⟨successes, rfl, rfl⟩ := traverse_eq_ok_iff.mp h
  let store : Store String (Success (decrypt dec unwrap)) :=
    ofList (successes.filterMap fun success => success.argument.id.map fun id =>
      (id, success))
  have hstore : attachmentStore (Success.argument <$> successes) =
      store.mapValues Success.argument := by
    rw [← ofList_map, map_filterMap, attachmentStore]
    simp [filterMap_map, comp_def]
  refine ⟨store.entries.map fun entry => entry.2.result.stored entry.1, ?_, ?_⟩
  · apply decryptAttachmentsWithFailures_eq_iff.mpr
    rw [hstore, storedAttachments, entries_mapValues, List.map_map]
    exact traverse_map_ok (fun entry => entry.2.argument.decrypt_stored entry.2.eq_ok entry.1)
      store.entries
  · intro id
    have hid : ∀ success : Success (decrypt dec unwrap),
        success.result.id = success.argument.id := by
      intro success
      exact (decrypt_eq_ok_iff.mp success.eq_ok).2.2.1
    have hlookup : store.lookup id = successes.reverse.find? (·.argument.id = some id) :=
      lookup_ofList_filterMap (fun success => success.argument.id) successes id
    rw [← find?_entries_reverse] at hlookup
    have hcontents := congrArg
      (Option.map fun success => (success.result.fileName, success.result.key)) hlookup
    simpa [attachmentById, ← map_reverse, find?_map, comp_def, hid,
      AttachmentView.stored] using hcontents

end

end SdkInternal.Vault
