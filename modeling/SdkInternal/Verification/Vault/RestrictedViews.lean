import SdkInternal.Verification.Vault.PasswordRotation

/-! # Restricted views

The view of a restricted item is refused by every encryption. A request to edit an item does not
say whether it was made from such a view, so that an edit is refused only if the local copy of the
item is restricted as well, or cannot be edited at all. -/

namespace SdkInternal.Vault

open Crypto Shared Option CipherView

variable {EncString SymmetricKey Random : Type}

/-! ## What a restricted view shows -/

/-- The view shows the name and the uris of a login only. -/
structure IsRestrictedView (cipher : Cipher EncString) (view : CipherView SymmetricKey) :
    Prop where
  organizationId : cipher.organizationId.isSome
  metadata : view.toCipherMetadata = cipher.toCipherMetadata
  type : view.type = cipher.type
  login : view.login.isSome ↔ cipher.type = .login
  identity : view.identity = none
  card : view.card = none
  secureNote : view.secureNote = none
  sshKey : view.sshKey = none
  bankAccount : view.bankAccount = none
  driversLicense : view.driversLicense = none
  passport : view.passport = none
  attachments : view.attachments = none
  isPartial : view.isPartial = true

variable {cipher : Cipher EncString} {view : CipherView SymmetricKey}

theorem isRestrictedView_of_decryptWith {ctx : DecryptContext EncString SymmetricKey}
    {key : KeySlot SymmetricKey} {raw : String} {strict : Bool}
    (hrestricted : cipher.partialData = some raw)
    (h : cipher.decryptWith ctx key strict = .ok view) : IsRestrictedView cipher view := by
  simp only [Cipher.decryptWith, hrestricted] at h
  split at h
  next => cases h
  next horganization =>
    simp only [decryptRestrictedCipherView, bind_eq_ok_iff, pure_eq_ok_iff] at h
    obtain ⟨slot, -, name, -, login, hlogin, rfl⟩ := h
    have hshown : login.isSome ↔ cipher.type = .login := by
      unfold decryptRestrictedLogin at hlogin
      split at hlogin
      next htype =>
        obtain ⟨uris, -, h⟩ := bind_eq_ok_iff.mp hlogin
        cases h
        simp [htype]
      next htype =>
        cases hlogin
        simp [htype]
    have horganized : cipher.organizationId.isSome := by
      cases hid : cipher.organizationId <;> simp [hid] at horganization ⊢
    unfold enforceChecksums
    split
    · refine ⟨horganized, rfl, rfl, ?_, rfl, rfl, rfl, rfl, rfl, rfl, rfl, rfl, rfl⟩
      simpa [removeInvalidChecksums] using hshown
    · exact ⟨horganized, rfl, rfl, hshown, rfl, rfl, rfl, rfl, rfl, rfl, rfl, rfl, rfl⟩

/-! ## Encryption -/

section

variable {ctx : EncryptContext EncString SymmetricKey Random} {view : CipherView SymmetricKey}

section

variable (h : view.isPartial = true)

include h

theorem rejectRestricted_of_isPartial (random : Random) :
    (view.rejectRestricted : EncryptM Random Unit) random = .error .encryptRestrictedView := by
  unfold rejectRestricted
  rw [if_pos h]
  rfl

theorem encryptComposite_of_isPartial (mode : EncryptMode) (slot : KeySlot SymmetricKey)
    (random : Random) :
    mode.encryptComposite ctx slot view random = .error .encryptRestrictedView := by
  have hrejected := rejectRestricted_of_isPartial h random
  cases mode with
  | blob | legacy =>
    show (view.rejectRestricted random >>= _) = _
    rw [hrejected]
    rfl

theorem sealBlobForItemSends_of_isPartial (slot : KeySlot SymmetricKey) (random : Random) :
    view.sealBlobForItemSends ctx slot random = .error .encryptRestrictedView := by
  show (view.rejectRestricted random >>= _) = _
  rw [rejectRestricted_of_isPartial h]
  rfl

end

structure EncryptContext.Total (ctx : EncryptContext EncString SymmetricKey Random) : Prop where
  encrypt : ∀ key text, Succeeds (ctx.encrypt key text)
  wrapSymmetricKey : ∀ wrappingKey key, Succeeds (ctx.wrapSymmetricKey wrappingKey key)
  generateSymmetricKey : Succeeds ctx.generateSymmetricKey

theorem succeeds_rejectRestricted (h : view.isPartial = false) :
    Succeeds (view.rejectRestricted : EncryptM Random Unit) := by
  unfold rejectRestricted
  rw [if_neg (by simp [h])]
  exact succeeds_pure _

theorem EncryptContext.Total.loadCipherKeySlot (hctx : ctx.Total)
    (view : CipherView SymmetricKey) : Succeeds (view.loadCipherKeySlot ctx) := by
  unfold CipherView.loadCipherKeySlot
  cases view.key with
  | some own => exact succeeds_pure _
  | none => exact hctx.generateSymmetricKey.bind fun _ => succeeds_pure _

theorem EncryptContext.Total.encryptAttachments (hctx : ctx.Total) (key : SymmetricKey)
    (attachments : Option (List (AttachmentView SymmetricKey))) :
    Succeeds (traverse (traverse
      (AttachmentView.encrypt (ctx.encrypt key) (ctx.wrapSymmetricKey key))) attachments) := by
  refine .traverse (fun _ => .traverse (fun _ => ?_) _) _
  exact (Succeeds.traverse (hctx.encrypt key) _).bind fun _ =>
    (Succeeds.traverse (hctx.wrapSymmetricKey key) _).bind fun _ => succeeds_pure _

theorem EncryptContext.Total.encryptLegacy (hctx : ctx.Total) (hview : view.isPartial = false)
    (key : SymmetricKey) : Succeeds (view.encryptLegacyFieldEncryption ctx (.ok key)) := by
  have htexts : ∀ key {t : Type → Type} [Traversable t] [LawfulTraversable t]
      (record : t (Option String)), Succeeds (traverse (traverse (ctx.encrypt key)) record) :=
    fun key _ _ _ => .traverse fun _ => .traverse (hctx.encrypt key) _
  have hssh : ∀ key (sshKey : SshKeyView),
      Succeeds (SshKeyView.encrypt (ctx.encrypt key) ctx.toLibraries sshKey) := by
    intro key sshKey
    exact (hctx.encrypt key _).bind fun _ => (hctx.encrypt key _).bind fun _ =>
      (hctx.encrypt key _).bind fun _ => succeeds_pure _
  refine (succeeds_rejectRestricted hview).bind fun _ =>
    (hctx.loadCipherKeySlot view).bind fun loaded =>
    (hctx.wrapSymmetricKey key loaded.1).bind fun _ => (hctx.encrypt loaded.1 _).bind fun _ =>
    (Succeeds.traverse (hctx.encrypt loaded.1) _).bind fun _ =>
    (Succeeds.traverse (fun _ => .traverse (hctx.encrypt loaded.1) _) _).bind fun _ =>
    (Succeeds.traverse (htexts loaded.1) _).bind fun _ =>
    (Succeeds.traverse (htexts loaded.1) _).bind fun _ =>
    (Succeeds.traverse (hssh loaded.1) _).bind fun _ =>
    (Succeeds.traverse (htexts loaded.1) _).bind fun _ =>
    (Succeeds.traverse (fun _ => htexts loaded.1 _) _).bind fun _ =>
    (Succeeds.traverse (fun _ => htexts loaded.1 _) _).bind fun _ =>
    (hctx.encryptAttachments loaded.1 _).bind fun _ =>
    (Succeeds.traverse (fun _ => .traverse (htexts loaded.1) _) _).bind fun _ =>
    (Succeeds.traverse (fun _ => .traverse (fun _ => .traverse (hctx.encrypt loaded.1) _) _)
      _).bind fun _ => succeeds_pure _

theorem encryptLegacy_eq_ok {slot : KeySlot SymmetricKey} {random random' : Random}
    (h : view.encryptLegacyFieldEncryption ctx slot random = .ok (cipher, random')) :
    (∃ key, slot = .ok key) ∧ (view.attachments = some [] → cipher.attachments = some []) := by
  simp only [encryptLegacyFieldEncryption, run_bind_eq_ok_iff, run_pure_eq_ok_iff] at h
  obtain ⟨_, _, -, loaded, _, hloaded, wrapped, _, hwrapped, _, _, -, _, _, -, _, _, -, _, _, -,
    _, _, -, _, _, -, _, _, -, _, _, -, _, _, -, attachments, _, hattachments, _, _, -, _, _, -,
    rfl, rfl⟩ := h
  constructor
  · simp only [EncryptContext.wrapIn, run_bind_eq_ok_iff, run_lift_eq_ok_iff] at hwrapped
    obtain ⟨key, _, ⟨hslot, -⟩, -⟩ := hwrapped
    exact ⟨key, hslot⟩
  · intro hempty
    have hloadedView : (loaded.2.generateChecksums ctx.toLibraries).attachments = some [] := by
      rw [(loadCipherKeySlot_eq_ok hloaded).2]
      exact hempty
    rw [hloadedView] at hattachments
    cases hattachments
    rfl

end

/-! ## Editing -/

section

theorem IsRestrictedView.tryIntoEditRequest_eq_ok_iff (h : IsRestrictedView cipher view)
    {request : CipherEditRequest SymmetricKey} :
    view.tryIntoEditRequest = .ok request ↔
      ∃ login, view.login = some login ∧ cipher.type = .login ∧ cipher.id = some request.id ∧
        request =
          { id := request.id, organizationId := cipher.organizationId
            folderId := cipher.folderId, favorite := cipher.favorite, reprompt := cipher.reprompt
            key := view.key, name := view.name, notes := view.notes
            fields := view.fields.getD [], type := .login login, attachments := []
            revisionDate := cipher.revisionDate, archivedDate := cipher.archivedDate } := by
  have hdata : view.typeData = if cipher.type = .login then view.login.map .login else none := by
    unfold typeData
    rw [h.type]
    cases htype : cipher.type with
    | login => rfl
    | secureNote => simp [h.secureNote]
    | card => simp [h.card]
    | identity => simp [h.identity]
    | sshKey => simp [h.sshKey]
    | bankAccount => simp [h.bankAccount]
    | driversLicense => simp [h.driversLicense]
    | passport => simp [h.passport]
  unfold tryIntoEditRequest
  rw [hdata, h.metadata, h.attachments]
  constructor
  · intro hrequest
    split at hrequest
    next => cases hrequest
    next => cases hrequest
    next id type hid htype =>
      split at htype
      next hlogin =>
        obtain ⟨login, hshown, rfl⟩ := map_eq_some_iff.mp htype
        cases hrequest
        exact ⟨login, hshown, hlogin, hid, rfl⟩
      next => cases htype
  · rintro ⟨login, hshown, hlogin, hid, hrequest⟩
    rw [hid, if_pos hlogin, hshown]
    exact congrArg Except.ok hrequest.symm

variable {ctx : EncryptContext EncString SymmetricKey Random} {wire : WireFormat EncString}
  {keyStore : KeyStore SymmetricKey} {encryptedFor : Uuid} {now : DateTime}
  {request : CipherEditRequest SymmetricKey} {original : CipherView SymmetricKey}
  {organizationId : Uuid}

theorem slot_of_buildCipherRequest {random random' : Random} {sent : CipherRequestModel}
    (horganization : request.organizationId = some organizationId)
    (h : buildCipherRequest ctx wire keyStore encryptedFor now request original random =
      .ok (sent, random')) : ∃ key, keyStore.slot (.organization organizationId) = .ok key := by
  simp only [buildCipherRequest, run_bind_eq_ok_iff] at h
  obtain ⟨cipher, _, hencrypted, -⟩ := h
  have hslot : ((convertRequestToCipherView now request).updatePasswordHistory now
      original).organizationId = some organizationId := horganization
  rw [horganization, hslot] at hencrypted
  exact (encryptLegacy_eq_ok hencrypted).1

theorem exists_buildCipherRequest (hctx : ctx.Total) (wire : WireFormat EncString)
    (horganization : request.organizationId = some organizationId)
    (hattachments : request.attachments = []) {key : SymmetricKey}
    (hkey : keyStore.slot (.organization organizationId) = .ok key) (encryptedFor : Uuid)
    (now : DateTime) (original : CipherView SymmetricKey) (random : Random) :
    ∃ sent random', buildCipherRequest ctx wire keyStore encryptedFor now request original random =
      .ok (sent, random') := by
  let view := (convertRequestToCipherView now request).updatePasswordHistory now original
  have hview : view.isPartial = false := rfl
  obtain ⟨cipher, random', hencrypted⟩ := hctx.encryptLegacy hview key random
  have hempty : cipher.attachments = some [] := by
    apply (encryptLegacy_eq_ok hencrypted).2
    exact congrArg some hattachments
  obtain ⟨built, hbuilt⟩ : ∃ built, cipher.tryIntoRequest wire = .ok built := by
    unfold Cipher.tryIntoRequest
    rw [hempty]
    exact ⟨_, rfl⟩
  have hslot : view.organizationId = some organizationId := horganization
  simp only [buildCipherRequest, run_bind_eq_ok_iff, run_lift_eq_ok_iff, run_pure_eq_ok_iff]
  refine ⟨_, random', cipher, random', ?_, built, random', ⟨hbuilt, rfl⟩, rfl, rfl⟩
  rw [horganization, hslot]
  show view.encryptLegacyFieldEncryption ctx (keyStore.slot (.organization organizationId)) random =
    _
  rw [hkey, hencrypted]

/-- The local copy of the item is a full one that can be edited. -/
structure HasFullCopy (ctx : DecryptContext EncString SymmetricKey)
    (keyStore : KeyStore SymmetricKey) (strict : Bool) (state : VaultState EncString Random)
    (cipher : Cipher EncString) : Prop where
  type : cipher.type = .login
  key : ∃ key, keyStore.slot (keyIdentifier cipher.organizationId) = .ok key
  copy : ∃ id copy original, cipher.id = some id ∧ state.repository.lookup id = some copy ∧
    copy.partialData = none ∧ copy.decryptWith ctx
      (keyStore.slot (keyIdentifier copy.organizationId)) strict = .ok original

/-- No encryption of the view succeeds, and an edit with it fails before anything is sent. -/
structure NeverEncrypted (ctx : EncryptContext EncString SymmetricKey Random)
    (wire : WireFormat EncString) (keyStore : KeyStore SymmetricKey) (strict : Bool)
    (state : VaultState EncString Random) (view : CipherView SymmetricKey) : Prop where
  encryptComposite : ∀ (mode : EncryptMode) slot random, ∃ error,
    mode.encryptComposite ctx slot view random = .error error
  sealBlobForItemSends : ∀ slot random, ∃ error,
    view.sealBlobForItemSends ctx slot random = .error error
  editCipher : ∀ request, view.tryIntoEditRequest = .ok request →
    ∀ server encryptedFor now, ∃ error,
      Vault.editCipher ctx wire keyStore server encryptedFor now request strict state =
        (.error error, state)

/-- The view of a restricted item is never encrypted if and only if the local copy of the item is
not a full one that can be edited. -/
theorem restrictedView_neverEncrypted_iff (ctx : EncryptContext EncString SymmetricKey Random)
    (hctx : ctx.Total) (wire : WireFormat EncString) (keyStore : KeyStore SymmetricKey)
    {cipher : Cipher EncString} {raw : String} (hrestricted : cipher.partialData = some raw)
    {key : KeySlot SymmetricKey} {strictView : Bool} {view : CipherView SymmetricKey}
    (hview : cipher.decryptWith ctx.toDecryptContext key strictView = .ok view) (strict : Bool)
    (state : VaultState EncString Random) :
    NeverEncrypted ctx wire keyStore strict state view ↔
      ¬HasFullCopy ctx.toDecryptContext keyStore strict state cipher := by
  have hshown := isRestrictedView_of_decryptWith hrestricted hview
  constructor
  · rintro hnever ⟨htype, ⟨organizationKey, hkey⟩, id, copy, original, hid, hcopy, hfull, hread⟩
    obtain ⟨organizationId, horganization⟩ := isSome_iff_exists.mp hshown.organizationId
    obtain ⟨login, hlogin⟩ := isSome_iff_exists.mp (hshown.login.mpr htype)
    obtain ⟨request, hrequest⟩ : ∃ request, view.tryIntoEditRequest = .ok request :=
      ⟨⟨id, _, _, _, _, _, _, _, _, _, _, _, _⟩,
        hshown.tryIntoEditRequest_eq_ok_iff.mpr ⟨login, hlogin, htype, hid, rfl⟩⟩
    obtain ⟨shown, -, -, hrequestId, hmade⟩ := hshown.tryIntoEditRequest_eq_ok_iff.mp hrequest
    obtain rfl : id = request.id := some.inj (hid.symm.trans hrequestId)
    rw [horganization] at hkey
    have hrequestOrganization : request.organizationId = some organizationId := by
      rw [hmade]
      exact horganization
    have hattachments : request.attachments = [] := by rw [hmade]
    obtain ⟨sent, random', hsent⟩ := exists_buildCipherRequest hctx wire hrequestOrganization
      hattachments hkey 0 0 original state.random
    -- A server that does not answer has received the request all the same.
    obtain ⟨error, hedit⟩ := hnever.editCipher request hrequest (fun _ _ => none) 0 0
    simp only [Vault.editCipher, hcopy, hfull, hread, submitCipherEdit, hsent,
      isSome_none, Bool.false_eq_true, if_false] at hedit
    have hlog := congrArg (fun outcome => outcome.2.sent.length) hedit
    simp at hlog
  · intro hcopy
    refine ⟨?_, ?_, ?_⟩
    · intro mode slot random
      exact ⟨_, encryptComposite_of_isPartial hshown.isPartial mode slot random⟩
    · intro slot random
      exact ⟨_, sealBlobForItemSends_of_isPartial hshown.isPartial slot random⟩
    · intro request hrequest server encryptedFor now
      obtain ⟨shown, -, htype, hid, hmade⟩ := hshown.tryIntoEditRequest_eq_ok_iff.mp hrequest
      obtain ⟨organizationId, horganization⟩ := isSome_iff_exists.mp hshown.organizationId
      have hrequestOrganization : request.organizationId = some organizationId := by
        rw [hmade]
        exact horganization
      unfold Vault.editCipher
      split
      next => exact ⟨_, rfl⟩
      next copy hlookup =>
        split
        next => exact ⟨_, rfl⟩
        next hfull =>
          split
          next => exact ⟨_, rfl⟩
          next original hread =>
            unfold submitCipherEdit
            split
            next => exact ⟨_, rfl⟩
            next sent random' hsent =>
              have hkey := slot_of_buildCipherRequest hrequestOrganization hsent
              have hcomplete : copy.partialData = none := by simpa using hfull
              refine absurd ⟨htype, ?_, request.id, copy, original, hid, hlookup, hcomplete, hread⟩
                hcopy
              rw [horganization]
              exact hkey

end

/-! ## A restricted view next to a full copy -/

def restrictedContext : EncryptContext String Unit Unit :=
  { openContext with parseRestricted := fun _ => some { name := some "name", uris := none } }

theorem restrictedContext_total : restrictedContext.Total where
  encrypt _ text random := ⟨text, random, rfl⟩
  wrapSymmetricKey _ _ random := ⟨"key", random, rfl⟩
  generateSymmetricKey random := ⟨(), random, rfl⟩

def restrictedLogin : Cipher String :=
  { loginWithTotp "seed" with
    name := none, login := none, attachments := none, passwordHistory := none
    partialData := some "restricted" }

def stateWithCopy (copy : Cipher String) : VaultState String Unit where
  repository := AList.singleton 1 copy
  sent := []
  random := ()

theorem restrictedCopy_neverEncrypted :
    ∃ view, restrictedLogin.decrypt restrictedContext.toDecryptContext (.ok ()) = .ok view ∧
      NeverEncrypted restrictedContext openWire openKeyStore false
        (stateWithCopy restrictedLogin) view := by
  have hview : restrictedLogin.decryptWith restrictedContext.toDecryptContext (.ok ()) false =
      .ok _ := rfl
  refine ⟨_, hview, (restrictedView_neverEncrypted_iff restrictedContext restrictedContext_total
    openWire openKeyStore rfl hview false (stateWithCopy restrictedLogin)).mpr ?_⟩
  rintro ⟨-, -, id, copy, original, hid, hcopy, hfull, -⟩
  cases hid
  cases hcopy
  cases hfull

theorem restrictedView_sentOverFullCopy :
    restrictedContext.Total ∧
    ∃ view request edited state sent,
      restrictedLogin.decrypt restrictedContext.toDecryptContext (.ok ()) = .ok view ∧
      view.tryIntoEditRequest = .ok request ∧
      editCipher restrictedContext openWire openKeyStore
        (fun id request => some (request.stored openWire id 0 0)) 9 7 request false
        (stateWithCopy (loginWithTotp "seed")) = (.ok edited, state) ∧
      state.sent = [(1, sent)] ∧
      sent.login = some
        { uris := none, username := none, password := none
          passwordRevisionDate := some (openWire.toRfc3339 7), totp := none
          autofillOnPageLoad := none, fido2Credentials := none } ∧
      ¬NeverEncrypted restrictedContext openWire openKeyStore false
        (stateWithCopy (loginWithTotp "seed")) view := by
  refine ⟨restrictedContext_total, _, _, _, _, _, rfl, rfl, rfl, rfl, rfl, ?_⟩
  intro hnever
  obtain ⟨error, hedit⟩ := hnever.editCipher _ rfl
    (fun id request => some (request.stored openWire id 0 0)) 9 7
  cases congrArg Prod.fst hedit

end SdkInternal.Vault
