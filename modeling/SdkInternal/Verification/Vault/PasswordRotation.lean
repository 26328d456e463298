import SdkInternal.Model.Pam.Cipher
import SdkInternal.Verification.Vault.Requests

/-! # Rotating the password of a login

The request of a rotation is read back as the item with the new password. What the field-level
format does not store as it is, and the setting that the API does not have, are the only other
differences. -/

namespace SdkInternal.Vault

open Crypto Shared Pam Option Cipher CipherView

/-! ## The history -/

section

variable {SymmetricKey : Type} (now : DateTime)

theorem detectHiddenFieldChanges_self (fields : List (Field (Option String))) :
    detectHiddenFieldChanges now fields fields = [] := by
  rw [detectHiddenFieldChanges, List.filterMap_eq_nil_iff]
  intro field hfield
  rw [if_pos (Store.lookup_eq_some.mpr hfield)]

variable (newPassword : String) (login : Login String)

def replacedPassword : List (PasswordHistory String) :=
  if login.password.getD "" = "" ∨ login.password.getD "" = newPassword then []
  else [⟨login.password.getD "", now⟩]

theorem Login.detectPasswordChange_withPassword :
    ∃ revisionDate, (revisionDate = login.passwordRevisionDate ∨ revisionDate = some now) ∧
      { login with password := some newPassword }.detectPasswordChange now (some login) =
        (replacedPassword now newPassword login,
          { login with password := some newPassword, passwordRevisionDate := revisionDate }) := by
  simp only [Login.detectPasswordChange, replacedPassword, getD_some, String.isEmpty_iff]
  by_cases hold : login.password.getD "" = ""
  · by_cases hnew : newPassword = ""
    · exact ⟨_, .inl rfl, by simp [hold, hnew]⟩
    · exact ⟨_, .inr rfl, by simp [hold, hnew]⟩
  · by_cases hsame : login.password.getD "" = newPassword
    · subst hsame
      exact ⟨_, .inl rfl, by simp [hold]⟩
    · exact ⟨_, .inr rfl, by simp [hold, hsame, PasswordHistory.newPassword]⟩

theorem updatePasswordHistory_withPassword {view : CipherView SymmetricKey} {login : Login String}
    (hlogin : view.login = some login) :
    ∃ revisionDate, (revisionDate = login.passwordRevisionDate ∨ revisionDate = some now) ∧
      (view.withPassword newPassword).updatePasswordHistory now view =
        { view with
          login := some
            { login with password := some newPassword, passwordRevisionDate := revisionDate }
          passwordHistory := some ((replacedPassword now newPassword login ++
            view.passwordHistory.getD []).take 5) } := by
  obtain ⟨revisionDate, hdate, hdetected⟩ :=
    login.detectPasswordChange_withPassword now newPassword
  refine ⟨revisionDate, hdate, ?_⟩
  have hfields : (view.fields.map fun fields =>
      detectHiddenFieldChanges now fields (view.fields.getD [])).getD [] = [] := by
    cases view.fields with
    | none => rfl
    | some fields => exact detectHiddenFieldChanges_self now fields
  have hreverse : (replacedPassword now newPassword login).reverse =
      replacedPassword now newPassword login := by
    unfold replacedPassword
    split <;> rfl
  simp [updatePasswordHistory, withPassword, hlogin, hdetected, hfields,
    hreverse, maxPasswordHistoryEntries]

end

/-! ## The item that is rotated -/

section

variable {EncString SymmetricKey Random : Type} {cipherKey : SymmetricKey}

section Reading

variable {ctx : DecryptContext EncString SymmetricKey} {key : KeySlot SymmetricKey}

variable {cipher : Cipher EncString} {view : CipherView SymmetricKey}

theorem decryptWith_of_strictDecrypt (hunrestricted : cipher.partialData = none)
    (h : cipher.strictDecrypt ctx key = .ok view) (strict : Bool) :
    cipher.decryptWith ctx key strict = .ok view := by
  simp only [strictDecrypt, decryptWith, hunrestricted] at h ⊢
  cases hblob : tryParseBlob ctx cipher with
  | some sealedBlob => simpa [hblob] using h
  | none =>
    simp only [hblob, if_true] at h
    cases strict with
    | true => simpa [hblob] using h
    | false => simpa [hblob] using lenientDecryptCipherView_of_strict h

theorem decryptWith_of_strictView {slot : KeySlot SymmetricKey}
    (h : StrictView ctx slot cipher view) (hunrestricted : cipher.partialData = none)
    (hdata : cipher.data = none) (hslot : decryptCipherKey ctx key cipher.key = .ok slot)
    (strict : Bool) :
    cipher.decryptWith ctx key strict = .ok (enforceChecksums ctx cipher.key.isSome view) := by
  have hblob : tryParseBlob ctx cipher = none := by simp [tryParseBlob, hdata]
  apply decryptWith_of_strictDecrypt hunrestricted
  simp only [strictDecrypt, decryptWith, hunrestricted, hblob, if_true]
  exact (strictDecryptCipherView_eq_ok_iff ctx).mpr ⟨slot, view, hslot, h, rfl⟩

theorem strictDecrypt_frame {wrapped : EncString} (hunrestricted : cipher.partialData = none)
    (hkey : cipher.key = some wrapped) (h : cipher.strictDecrypt ctx key = .ok view) :
    view.toCipherMetadata = cipher.toCipherMetadata ∧ view.isPartial = false ∧
      ∃ cipherKey, ctx.unwrapIn key wrapped = .ok cipherKey ∧ view.key = some cipherKey := by
  simp only [strictDecrypt, decryptWith, hunrestricted] at h
  have hslot : ∀ slot, decryptCipherKey ctx key cipher.key = .ok slot →
      ∃ cipherKey, ctx.unwrapIn key wrapped = .ok cipherKey ∧ slot = .ok cipherKey := by
    intro slot hslot
    rw [hkey] at hslot
    obtain ⟨cipherKey, hunwrap, hslot⟩ := bind_eq_ok_iff.mp hslot
    exact ⟨cipherKey, hunwrap, (Except.ok.inj hslot).symm⟩
  cases hblob : tryParseBlob ctx cipher with
  | some sealedBlob =>
    simp only [hblob, decryptBlobCipher, bind_eq_ok_iff, pure_eq_ok_iff] at h
    obtain ⟨slot, hslot', blob, -, viewed, hviewed, rfl⟩ := h
    obtain ⟨cipherKey, hunwrap, rfl⟩ := hslot slot hslot'
    rw [hkey] at hviewed
    cases hviewed
    obtain ⟨hmetadata, hshown, -, -, hpartially⟩ := applyToCipherView_frame ctx.toLibraries blob _
    exact ⟨hmetadata, hpartially, cipherKey, hunwrap, hshown⟩
  | none =>
    simp only [hblob, if_true] at h
    obtain ⟨slot, full, hslot', hfull, rfl⟩ := (strictDecryptCipherView_eq_ok_iff ctx).mp h
    obtain ⟨cipherKey, hunwrap, rfl⟩ := hslot slot hslot'
    have hshown := hfull.key
    rw [hkey] at hshown
    obtain ⟨hmetadata, hframed, -, hpartially⟩ := enforceChecksums_frame ctx cipher.key.isSome full
    refine ⟨hmetadata.trans hfull.metadata, hpartially.trans hfull.isPartial, cipherKey, hunwrap,
      hframed.trans (Except.ok.inj hshown).symm⟩

theorem Login.strictDecrypt_withoutHttpAuthentication
    {dec : EncString → Except CryptoError String} {login : Login EncString} {view : Login String}
    (h : login.strictDecrypt dec = .ok view) :
    login.withoutHttpAuthentication.strictDecrypt dec = .ok view.withoutHttpAuthentication := by
  obtain ⟨successes, rfl, rfl⟩ := traverse_eq_ok_iff.mp h
  exact traverse_eq_ok_iff.mpr ⟨successes.withoutHttpAuthentication, rfl, rfl⟩

/-- The view of an item that is read back with another wrapping of its key. -/
theorem StrictView.readBack (h : StrictView ctx (.ok cipherKey) cipher view)
    {attachments : Option (Store String (Attachment EncString))}
    {views : List (AttachmentView SymmetricKey)}
    (hattachments : decryptAttachmentsWithFailures (ctx.decryptIn (.ok cipherKey))
      (ctx.unwrapIn (.ok cipherKey)) ((attachments.map storedAttachments).getD []) = (views, []))
    (wrapped : EncString) :
    StrictView ctx (.ok cipherKey) ({ cipher with key := some wrapped }.readBack attachments)
      { view with
        key := some cipherKey
        login := view.login.map (·.withoutHttpAuthentication)
        attachments := some views
        attachmentDecryptionFailures := some [] } := by
  refine ⟨h.metadata, h.type, rfl, h.name, h.notes, ?_, h.identity, h.card, h.secureNote,
    h.sshKey, h.bankAccount, h.driversLicense, h.passport, ?_, ?_, h.fields, h.passwordHistory,
    h.isPartial⟩
  · obtain ⟨successes, hlogin, hview⟩ := traverse_eq_ok_iff.mp h.login
    simp only [Cipher.readBack, ← hlogin, ← hview, map_eq_map, map_map]
    refine traverse_map_ok ?_ successes
    intro success
    exact Login.strictDecrypt_withoutHttpAuthentication success.eq_ok
  · simp only [Cipher.readBack, hattachments]
  · simp only [Cipher.readBack, hattachments]

theorem enforceChecksums_readBack (ctx : DecryptContext EncString SymmetricKey)
    (cipherKey : SymmetricKey) (view : CipherView SymmetricKey)
    (attachments : Option (List (AttachmentView SymmetricKey))) :
    enforceChecksums ctx true
      { view.savedLegacy ctx.toLibraries cipherKey with
        login := (view.login.map fun login => (login.generateChecksums ctx.toLibraries).stored).map
          (·.withoutHttpAuthentication)
        attachments } =
      { view.savedLegacy ctx.toLibraries cipherKey with
        login := view.login.map fun login =>
          (login.savedLegacy ctx.toLibraries).withoutHttpAuthentication
        attachments } := by
  have henforced : checksumsEnforced ctx true = true := by simp [checksumsEnforced]
  have hlogin : ∀ login : Login String,
      Login.removeInvalidChecksums ctx.toLibraries
          (login.generateChecksums ctx.toLibraries).stored.withoutHttpAuthentication =
        (login.savedLegacy ctx.toLibraries).withoutHttpAuthentication := by
    intro login
    rw [← Login.removeInvalidChecksums_stored]
    rfl
  rw [enforceChecksums, if_pos henforced]
  simp [removeInvalidChecksums, Function.comp_def, hlogin]

theorem isChecksumValid_of_enforceChecksums (ctx : DecryptContext EncString SymmetricKey)
    (view : CipherView SymmetricKey) :
    ∀ login ∈ (enforceChecksums ctx true view).login, ∀ uris ∈ login.uris, ∀ uri ∈ uris,
      uri.isChecksumValid ctx.toLibraries := by
  intro login hlogin uris huris uri huri
  obtain ⟨full, -, rfl⟩ := mem_map.mp hlogin
  obtain ⟨stored, -, rfl⟩ := mem_map.mp huris
  exact (List.mem_filter.mp huri).2

end Reading

/-! ## What a rotation changes -/

/-- What a rotation keeps of a login, and what it sets. -/
structure LoginRotated (libs : Libraries) (now : DateTime) (newPassword : String)
    (before after : Login String) : Prop where
  username : after.username = before.username
  password : after.password = some newPassword
  passwordRevisionDate : after.passwordRevisionDate = before.passwordRevisionDate ∨
    after.passwordRevisionDate = some now
  uris : after.uris = before.uris.map fun uris =>
    (uris.filter (·.uri.isSome)).map (·.generateChecksum libs)
  totp : after.totp = before.totp.filter fun totp => !totp.isEmpty
  autofillOnPageLoad : after.autofillOnPageLoad = before.autofillOnPageLoad
  fido2Credentials : after.fido2Credentials = before.fido2Credentials

/-- What a rotation keeps of an item, and what it sets. -/
structure PasswordRotated (libs : Libraries) (now : DateTime) (newPassword : String)
    (before after : CipherView SymmetricKey) : Prop where
  organizationId : after.organizationId = before.organizationId
  folderId : after.folderId = before.folderId
  favorite : after.favorite = before.favorite
  reprompt : after.reprompt = before.reprompt
  archivedDate : after.archivedDate = before.archivedDate
  type : after.type = before.type
  key : after.key = before.key
  name : after.name = before.name
  notes : after.notes = before.notes
  login : ∃ old new, before.login = some old ∧ after.login = some new ∧
    LoginRotated libs now newPassword old new ∧
    after.passwordHistory = some ((replacedPassword now newPassword old ++
      before.passwordHistory.getD []).take 5)
  identity : after.identity = before.identity
  card : after.card = before.card
  secureNote : after.secureNote = before.secureNote
  sshKey : after.sshKey = before.sshKey.map (·.complete libs)
  bankAccount : after.bankAccount = before.bankAccount
  driversLicense : after.driversLicense = before.driversLicense
  passport : after.passport = before.passport
  fields : after.fields = before.fields
  attachments : ∀ id, attachmentById (after.attachments.getD []) id =
    attachmentById (before.attachments.getD []) id
  attachmentIds : ∀ attachment ∈ before.attachments.getD [], attachment.id.isSome
  isPartial : after.isPartial = false

variable {ctx : EncryptContext EncString SymmetricKey Random} {wire : WireFormat EncString}
  {keyStore : KeyStore SymmetricKey} {organizationId : Uuid} {now : DateTime}
  {cipher : Cipher EncString} {newPassword : String} {request : CipherRequestModel}
  {random random' : Random} {wrapped : EncString}

theorem itemKey_eq_ok_iff : itemKey cipher = .ok wrapped ↔ cipher.key = some wrapped := by
  cases hkey : cipher.key <;> simp [itemKey, hkey]

variable {rotated : Cipher EncString}

theorem changeLoginPassword_eq_ok (horganization : cipher.organizationId = some organizationId)
    (hkey : cipher.key = some wrapped)
    (h : cipher.changeLoginPassword ctx keyStore now newPassword random =
      .ok (rotated, random')) :
    ∃ original login,
      cipher.strictDecrypt ctx.toDecryptContext (keyStore.slot (.organization organizationId)) =
        .ok original ∧
      original.login = some login ∧
      ((original.withPassword newPassword).updatePasswordHistory now
        original).encryptLegacyFieldEncryption ctx (keyStore.slot (.organization organizationId))
        random = .ok (rotated, random') := by
  simp only [changeLoginPassword, run_bind_eq_ok_iff, run_lift_eq_ok_iff, ensure_eq_ok_iff,
    mapError_eq_ok_iff, run_translateError_eq_ok_iff] at h
  obtain ⟨_, _, ⟨hunrestricted, rfl⟩, _, _, ⟨-, rfl⟩, original, _, ⟨horiginal, rfl⟩, _, _,
    ⟨hlogin, rfl⟩, hencrypted⟩ := h
  obtain ⟨login, hlogin⟩ := isSome_iff_exists.mp hlogin
  have hmetadata := (strictDecrypt_frame hunrestricted hkey horiginal).1
  have horiginalId : original.organizationId = some organizationId := by
    rw [hmetadata, horganization]
  have hchangedId : ((original.withPassword newPassword).updatePasswordHistory now
      original).organizationId = some organizationId := horiginalId
  rw [horganization] at horiginal
  rw [hchangedId] at hencrypted
  exact ⟨original, login, horiginal, hlogin, hencrypted⟩

/-- The item that the server stores, read back, has the new password and is otherwise the view
that was encrypted. -/
theorem readBack_of_encryptLegacy (hctx : ctx.Lawful) (hwire : wire.Lawful)
    {key : KeySlot SymmetricKey} {view : CipherView SymmetricKey}
    (h : view.encryptLegacyFieldEncryption ctx key random = .ok (rotated, random'))
    (hview : view.key = some cipherKey) (hunwrap : ctx.unwrapIn key wrapped = .ok cipherKey)
    (hrequest : rotated.tryIntoRequest wire = .ok request) (id : Uuid)
    (creationDate revisionDate : DateTime) (stored : Option (Cipher EncString)) :
    ∃ merged attachments,
      ({ request with key := some (wire.print wrapped) }.stored wire id creationDate
        revisionDate).mergeWithCipher wire stored = .ok merged ∧
      merged.key = some wrapped ∧ merged.organizationId = view.organizationId ∧
      (∀ strict, merged.decryptWith ctx.toDecryptContext key strict =
        .ok (CipherView.withMetadata
          (view.toCipherMetadata.stored id creationDate revisionDate view.archivedDate stored)
          { view.savedLegacy ctx.toLibraries cipherKey with
            login := view.login.map fun login =>
              (login.savedLegacy ctx.toLibraries).withoutHttpAuthentication
            attachments := some attachments })) ∧
      (∀ id, attachmentById attachments id = attachmentById (view.attachments.getD []) id) ∧
      ∀ attachment ∈ view.attachments.getD [], attachment.id.isSome := by
  obtain ⟨encryptedKey, rewrapped, howns, -, -, hdata, hrestricted, hfull⟩ :=
    strictView_of_encryptLegacy hctx h
  obtain rfl : cipherKey = encryptedKey := howns cipherKey hview
  obtain ⟨hids, rfl⟩ := tryIntoRequest_eq_ok hrequest
  -- The attachments of the request are the encrypted ones, which all decrypt.
  have hattachments : decryptAttachmentsWithFailures (ctx.decryptIn (.ok cipherKey))
      (ctx.unwrapIn (.ok cipherKey)) (rotated.attachments.getD []) =
      (view.attachments.getD [], []) :=
    Prod.ext (some.inj hfull.attachments).symm
      (some.inj hfull.attachmentDecryptionFailures).symm
  have hread := decryptAttachmentsWithFailures_eq_iff.mp hattachments
  obtain ⟨attachments, hdecrypted, hbyId⟩ := decryptAttachments_stored hread
  have hstored : ((rotated.attachments.map attachmentStore).map storedAttachments).getD [] =
      storedAttachments (attachmentStore (rotated.attachments.getD [])) := by
    cases rotated.attachments <;> rfl
  rw [← hstored] at hdecrypted
  have hmerged := mergeWithCipher_stored hwire { rotated with key := some wrapped }
    { encryptedFor := none, encryptedByKeyId := none
      attachments2 := (rotated.attachments.map attachmentStore).map
        (Store.mapValues (Attachment.toModel wire))
      lastKnownRevisionDate := some (wire.toRfc3339Secs rotated.revisionDate)
      archivedDate := rotated.archivedDate.map wire.toRfc3339 }
    rfl (parseDateTimes_toRfc3339 hwire rotated.archivedDate) id creationDate revisionDate stored
  have hmetadata : view.toCipherMetadata = rotated.toCipherMetadata := hfull.metadata
  refine ⟨_, attachments, hmerged, rfl, congrArg (·.organizationId) hmetadata.symm, ?_, hbyId, ?_⟩
  · have hslot : decryptCipherKey ctx.toDecryptContext key (some wrapped) = .ok (.ok cipherKey) :=
      bind_eq_ok_iff.mpr ⟨cipherKey, hunwrap, rfl⟩
    intro strict
    have hdecrypt := decryptWith_of_strictView (hfull.readBack hdecrypted wrapped) rfl hdata hslot
      strict
    rw [hmetadata]
    refine (decryptWith_withMetadata _ _ ?_ strict).trans ?_
    · rfl
    · rw [hdecrypt]
      exact congrArg (fun view => Except.ok (CipherView.withMetadata _ view))
        (enforceChecksums_readBack ctx.toDecryptContext cipherKey view (some attachments))
  · intro attachment hattachment
    obtain ⟨successes, harguments, hresults⟩ := traverse_eq_ok_iff.mp hread
    rw [← hresults] at hattachment
    obtain ⟨success, hsuccess, rfl⟩ := List.mem_map.mp hattachment
    rw [(Attachment.decrypt_eq_ok_iff.mp success.eq_ok).2.2.1]
    apply hids
    rw [← harguments]
    exact List.mem_map.mpr ⟨success, hsuccess, rfl⟩

/-- The password of an item is compared with the one it decrypts to. -/
theorem cipherHasPassword_eq_ok (horganization : cipher.organizationId = some organizationId)
    {view : CipherView SymmetricKey} {login : Login String}
    (h : cipher.decrypt ctx.toDecryptContext (keyStore.slot (.organization organizationId)) =
      .ok view)
    (hlogin : view.login = some login) (hpassword : login.password = some newPassword)
    (password : String) :
    cipherHasPassword ctx keyStore cipher password = .ok (decide (newPassword = password)) := by
  rw [cipherHasPassword, horganization]
  simp only [keyIdentifier, h]
  simp [Except.mapError, hlogin, hpassword, bind, Except.bind, pure, Except.pure]

/-- A rotation that succeeds has read the item, strictly and leniently alike, and the request is
read back as the same item with the new password, and is recognised by it. -/
theorem rotateCipherPassword_changesOnlyPassword
    (ctx : EncryptContext EncString SymmetricKey Random) (hctx : ctx.Lawful)
    (wire : WireFormat EncString) (hwire : wire.Lawful) (keyStore : KeyStore SymmetricKey)
    (organizationId : Uuid) (now : DateTime)
    (h : rotateCipherPassword ctx wire keyStore organizationId now cipher newPassword random =
      .ok (request, random')) :
    ∃ before,
      (∀ strict, cipher.decryptWith ctx.toDecryptContext
        (keyStore.slot (.organization organizationId)) strict = .ok before) ∧
      (tryParseBlob ctx.toDecryptContext cipher = none →
        (∃ slot, decryptCipherKey ctx.toDecryptContext
            (keyStore.slot (.organization organizationId)) cipher.key = .ok slot ∧
          cipher.StrictPartsReadable (ctx.decryptIn slot) ctx.toLibraries) ∧
        ∀ login ∈ before.login, ∀ uris ∈ login.uris, ∀ uri ∈ uris,
          uri.isChecksumValid ctx.toLibraries) ∧
      ∀ id creationDate revisionDate stored, ∃ merged after,
        (request.stored wire id creationDate revisionDate).mergeWithCipher wire stored =
          .ok merged ∧
        merged.key = cipher.key ∧
        (∀ strict, merged.decryptWith ctx.toDecryptContext
          (keyStore.slot (.organization organizationId)) strict = .ok after) ∧
        PasswordRotated ctx.toLibraries now newPassword before after ∧
        ∀ password, cipherHasPassword ctx keyStore merged password =
          .ok (decide (newPassword = password)) := by
  simp only [rotateCipherPassword, run_bind_eq_ok_iff, run_lift_eq_ok_iff, ensure_eq_ok_iff,
    mapError_eq_ok_iff, run_translateError_eq_ok_iff, run_pure_eq_ok_iff] at h
  obtain ⟨_, _, ⟨horganization, rfl⟩, _, _, ⟨-, rfl⟩, _, _, ⟨hunrestricted, rfl⟩, wrapped, _,
    ⟨hitem, rfl⟩, rotated, _, hrotated, base, _, ⟨hbase, rfl⟩, _, _, ⟨-, rfl⟩, rfl, rfl⟩ := h
  have hkey := itemKey_eq_ok_iff.mp hitem
  obtain ⟨before, login, hbefore, hlogin, hencrypted⟩ :=
    changeLoginPassword_eq_ok horganization hkey hrotated
  obtain ⟨hmetadata, hpartially, cipherKey, hunwrap, hshown⟩ :=
    strictDecrypt_frame hunrestricted hkey hbefore
  obtain ⟨revisionDate, hdate, hchanged⟩ :=
    updatePasswordHistory_withPassword now newPassword hlogin
  rw [hchanged] at hencrypted
  refine ⟨before, decryptWith_of_strictDecrypt hunrestricted hbefore, ?_, ?_⟩
  · intro hblob
    have hstrict : strictDecryptCipherView ctx.toDecryptContext
        (keyStore.slot (.organization organizationId)) cipher = .ok before := by
      simpa [strictDecrypt, decryptWith, hunrestricted, hblob] using hbefore
    obtain ⟨slot, full, hslot, hfull, rfl⟩ := (strictDecryptCipherView_eq_ok_iff _).mp hstrict
    refine ⟨⟨slot, hslot, (exists_strictView_iff _ hslot).mp ⟨full, hfull⟩⟩, ?_⟩
    rw [hkey]
    exact isChecksumValid_of_enforceChecksums ctx.toDecryptContext full
  · intro id creationDate revised stored
    obtain ⟨merged, attachments, hmerged, hmergedKey, hmergedId, hread, hbyId, hids⟩ :=
      readBack_of_encryptLegacy hctx hwire hencrypted hshown hunwrap hbase id creationDate revised
        stored
    have horganizationId : merged.organizationId = some organizationId := by
      rw [hmergedId, ← horganization, ← hmetadata]
    refine ⟨merged, _, hmerged, hmergedKey.trans hkey.symm, hread, ?_,
      cipherHasPassword_eq_ok horganizationId (hread false) rfl rfl⟩
    exact
      { organizationId := rfl, folderId := rfl, favorite := rfl, reprompt := rfl
        archivedDate := rfl, type := rfl, key := hshown.symm, name := rfl, notes := rfl
        login := ⟨login, _, hlogin, rfl, ⟨rfl, rfl, hdate, rfl, rfl, rfl, rfl⟩, rfl⟩
        identity := rfl, card := rfl, secureNote := rfl, sshKey := rfl, bankAccount := rfl
        driversLicense := rfl, passport := rfl, fields := rfl, attachments := hbyId
        attachmentIds := hids, isPartial := hpartially }

end

/-! ## An empty one-time password key -/

/-- Values are their texts. -/
def openContext : EncryptContext String Unit Unit where
  sha256 bytes := bytes
  importKey _ := none
  parseDate := parseStrokes
  formatDate := formatStrokes
  decrypt _ text := .ok text
  unwrapSymmetricKey _ _ := .ok ()
  unsealWithWrappingKey _ _ _ := none
  fromOpaqueString _ := none
  parseRestricted _ := none
  securityStateVersion := 2
  encrypt _ text := pure text
  wrapSymmetricKey _ _ := pure "key"
  generateSymmetricKey := pure ()
  sealWithWrappingKey _ _ _ := none
  toOpaqueString _ := ""

theorem openContext_lawful : openContext.Lawful where
  decrypt_encrypt := by
    intro key text random enc random' h
    cases h
    rfl
  unwrap_wrap := by
    intro wrappingKey key random enc random' h
    rfl
  unseal_seal := by
    intro key blob random envelope cek random' h
    cases h
  fromOpaqueString_toOpaqueString := by
    intro key blob random envelope cek random' h
    cases h
  parseDate_formatDate := parseStrokes_formatStrokes

def openWire : WireFormat String where
  parse text := .ok text
  print text := text
  parseDateTime := parseStrokes
  toRfc3339 := formatStrokes
  toRfc3339Millis date := formatStrokes (date - date % 1000000)
  toRfc3339Secs date := formatStrokes (date - date % 1000000000)

theorem openWire_lawful : openWire.Lawful where
  parse_print := fun _ => rfl
  parseDateTime_toRfc3339 := parseStrokes_formatStrokes
  parseDateTime_toRfc3339Millis := fun _ => parseStrokes_formatStrokes _

def openKeyStore : KeyStore Unit where
  slot _ := .ok ()
  keyId _ := none

def loginWithTotp (totp : String) : Cipher String :=
  { bareItem with
    key := some "key"
    name := some "name"
    login := some
      { bareLogin with
        username := some "user", password := some "current", totp := some totp }
    attachments := some [⟨some "file", none, none, none, some "report", some "key"⟩]
    passwordHistory := some [⟨"old", 0⟩] }

theorem loginWithTotp_rotated :
    ∃ request before merged after,
      rotateCipherPassword openContext openWire openKeyStore 2 7 (loginWithTotp "seed") "new" () =
        .ok (request, ()) ∧
      (loginWithTotp "seed").decrypt openContext.toDecryptContext (.ok ()) = .ok before ∧
      (request.stored openWire 1 0 0).mergeWithCipher openWire none = .ok merged ∧
      merged.decrypt openContext.toDecryptContext (.ok ()) = .ok after ∧
      PasswordRotated openContext.toLibraries 7 "new" before after ∧
      before.passwordHistory = some [⟨"old", 0⟩] := by
  have hrotated : rotateCipherPassword openContext openWire openKeyStore 2 7
      (loginWithTotp "seed") "new" () = .ok (_, ()) := rfl
  obtain ⟨before, hbefore, -, hread⟩ := rotateCipherPassword_changesOnlyPassword openContext
    openContext_lawful openWire openWire_lawful openKeyStore 2 7 hrotated
  obtain ⟨merged, after, hmerged, -, hafter, hkept, -⟩ := hread 1 0 0 none
  refine ⟨_, before, merged, after, hrotated, hbefore false, hmerged, hafter false, hkept, ?_⟩
  have hdecrypted := hbefore false
  cases hdecrypted
  rfl

theorem rotation_dropsEmptyTotp :
    openContext.Lawful ∧ openWire.Lawful ∧
    ∃ request before old merged after new,
      rotateCipherPassword openContext openWire openKeyStore 2 7 (loginWithTotp "") "new" () =
        .ok (request, ()) ∧
      (loginWithTotp "").decrypt openContext.toDecryptContext (.ok ()) = .ok before ∧
      before.login = some old ∧ old.totp = some "" ∧
      (request.stored openWire 1 0 0).mergeWithCipher openWire none = .ok merged ∧
      merged.decrypt openContext.toDecryptContext (.ok ()) = .ok after ∧
      after.login = some new ∧ new.totp = none := by
  refine ⟨openContext_lawful, openWire_lawful, _, _, _, _, _, _, rfl, rfl, rfl, rfl, rfl, rfl,
    rfl, rfl⟩

end SdkInternal.Vault
