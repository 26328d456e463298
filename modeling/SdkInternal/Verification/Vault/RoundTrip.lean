import SdkInternal.Verification.Vault.StrictDecryption

/-! # Saving an item and reading it back

A view that is encrypted in either format decrypts, strictly as well as leniently, to its saved
form: the view with the few values that the format does not store as they are. -/

namespace SdkInternal.Vault

open Crypto Shared CipherView CipherBlobV1 List Function LoginDataV1 DriversLicenseView

/-! ## Strict and lenient decryption -/

section

variable {EncString SymmetricKey : Type} {dec : EncString → Except CryptoError String}

theorem Login.decrypt_of_ok {login : Login EncString} {view : Login String}
    (h : login.strictDecrypt dec = .ok view) : login.decrypt dec = view := by
  have hread := loginReadAs_of_ok h
  have hcredentials : (login.fido2Credentials.bind fun creds =>
      (decryptFido2Credentials dec creds).toOption) = view.fido2Credentials := by
    have hdecrypted := hread.fido2Credentials
    cases hstored : login.fido2Credentials with
    | none =>
      rw [hstored] at hdecrypted
      exact Except.ok.inj hdecrypted
    | some credentials =>
      rw [hstored] at hdecrypted
      obtain ⟨views, hviews, hsome⟩ := map_eq_ok_iff.mp hdecrypted
      rw [← hsome, Option.bind_some, hviews]
      rfl
  unfold Login.decrypt
  rw [decryptOrNone_of_ok hread.username, decryptOrNone_of_ok hread.password,
    decryptOrNone_of_ok hread.totp, hread.uris, hcredentials, ← hread.passwordRevisionDate,
    ← hread.autofillOnPageLoad, ← hread.httpAuthenticationEnabled]
  rfl

variable {ctx : DecryptContext EncString SymmetricKey} {key : KeySlot SymmetricKey}

theorem enforceChecksums_frame (ctx : DecryptContext EncString SymmetricKey) (hasKey : Bool)
    (view : CipherView SymmetricKey) :
    (enforceChecksums ctx hasKey view).toCipherMetadata = view.toCipherMetadata ∧
      (enforceChecksums ctx hasKey view).key = view.key ∧
      (enforceChecksums ctx hasKey view).attachments = view.attachments ∧
      (enforceChecksums ctx hasKey view).isPartial = view.isPartial := by
  unfold enforceChecksums
  split <;> exact ⟨rfl, rfl, rfl, rfl⟩

theorem lenientDecryptCipherView_of_strict {cipher : Cipher EncString}
    {view : CipherView SymmetricKey} (h : strictDecryptCipherView ctx key cipher = .ok view) :
    lenientDecryptCipherView ctx key cipher = .ok view := by
  obtain ⟨slot, full, hslot, hfull, rfl⟩ := (strictDecryptCipherView_eq_ok_iff ctx).mp h
  obtain ⟨name, hstored, hname⟩ := hfull.name
  have hshownName : (cipher.name.bind fun name => (ctx.decryptIn slot name).toOption).getD "" =
      full.name := by
    rw [hstored, Option.bind_some, hname]
    rfl
  have hlogin : cipher.login.map (·.decrypt (ctx.decryptIn slot)) = full.login :=
    (eq_map_of_traverse_eq_ok (fun _ _ hok => (Login.decrypt_of_ok hok).symm) hfull.login).symm
  have hidentity : cipher.identity.map (·.decrypt (ctx.decryptIn slot)) = full.identity :=
    map_map_decryptOrNone_of_ok hfull.identity
  have hcard : cipher.card.map (·.decrypt (ctx.decryptIn slot)) = full.card :=
    map_map_decryptOrNone_of_ok hfull.card
  have hfields : cipher.fields.map (·.map (·.decrypt (ctx.decryptIn slot))) = full.fields := by
    refine (eq_map_of_traverse_eq_ok ?_ hfull.fields).symm
    intro fields views hviews
    exact (map_map_decryptOrNone_of_ok hviews).symm
  simp only [lenientDecryptCipherView, bind_eq_ok_iff]
  refine ⟨slot, hslot, full.key, hfull.key, ?_⟩
  rw [isSome_of_viewKey hfull.key, hshownName, decryptOrNone_of_ok hfull.notes, hlogin, hidentity,
    hcard, hfull.sshKey, hfields, ← hfull.metadata, ← hfull.type, ← hfull.secureNote,
    ← hfull.bankAccount, ← hfull.driversLicense, ← hfull.passport, ← hfull.attachments,
    ← hfull.attachmentDecryptionFailures, ← hfull.passwordHistory, ← hfull.isPartial]
  rfl

variable {unwrap : EncString → Except CryptoError SymmetricKey}
  {views : List (AttachmentView SymmetricKey)} {attachments : List (Attachment EncString)}

theorem decryptAttachmentsWithFailures_eq_iff :
    decryptAttachmentsWithFailures dec unwrap attachments = (views, []) ↔
      traverse (Attachment.decrypt dec unwrap) attachments = .ok views := by
  induction attachments generalizing views with
  | nil => simp [decryptAttachmentsWithFailures, pure_eq_ok_iff]
  | cons attachment attachments ih =>
    simp only [decryptAttachmentsWithFailures, traverse_cons_eq_ok_iff, ← ih]
    cases attachment.decrypt dec unwrap with
    | error error => simp
    | ok view =>
      generalize decryptAttachmentsWithFailures dec unwrap attachments = shown
      obtain ⟨rest, failures⟩ := shown
      simp only [Except.ok.injEq, Prod.mk.injEq]
      constructor
      · rintro ⟨rfl, rfl⟩
        exact ⟨view, rest, rfl, ⟨rfl, rfl⟩, rfl⟩
      · rintro ⟨_, _, rfl, ⟨rfl, rfl⟩, rfl⟩
        exact ⟨rfl, rfl⟩

theorem decryptAttachmentsWithFailures_getD_of_ok
    {attachments : Option (List (Attachment EncString))}
    {views : Option (List (AttachmentView SymmetricKey))}
    (h : traverse (traverse (Attachment.decrypt dec unwrap)) attachments = .ok views) :
    decryptAttachmentsWithFailures dec unwrap (attachments.getD []) = (views.getD [], []) := by
  cases attachments with
  | none =>
    cases h
    rfl
  | some attachments =>
    obtain ⟨views, hviews, rfl⟩ := map_eq_ok_iff.mp h
    exact decryptAttachmentsWithFailures_eq_iff.mpr hviews

end

/-! ## Checksums and dates -/

section

variable (libs : Libraries)

theorem LoginUri.isChecksumValid_generateChecksum (uri : LoginUri String) :
    (uri.generateChecksum libs).isChecksumValid libs = uri.uri.isSome := by
  obtain ⟨uri, matchType, checksum⟩ := uri
  cases uri with
  | none => rfl
  | some uri =>
    simp [LoginUri.generateChecksum, LoginUri.isChecksumValid, Base64.decode_encode]

variable (login : Login String)

def Login.stored : Login String :=
  { login with totp := login.totp.filter fun totp => !totp.isEmpty }

/-- The form of a login in the field-level format: the checksums are computed anew, a uri entry
without a uri is dropped, and so is an empty one-time password key. -/
def Login.savedLegacy : Login String :=
  { login with
    uris := login.uris.map fun uris => (uris.filter (·.uri.isSome)).map (·.generateChecksum libs)
    totp := login.totp.filter fun totp => !totp.isEmpty }

theorem Login.removeInvalidChecksums_stored :
    (login.generateChecksums libs).stored.removeInvalidChecksums libs = login.savedLegacy libs := by
  simp only [Login.removeInvalidChecksums, Login.stored, Login.generateChecksums,
    Login.savedLegacy, Option.map_map]
  congr 2
  simp [comp_def, filter_map, LoginUri.isChecksumValid_generateChecksum]

variable {libs} (hdate : ∀ date, libs.parseDate (libs.formatDate date) = some date)
include hdate

theorem bind_parseDate_formatDate (date : Option NaiveDate) :
    (date.map libs.formatDate).bind libs.parseDate = date := by
  cases date with
  | none => rfl
  | some date => exact hdate date

theorem DriversLicenseView.toView_toTexts (view : DriversLicenseView) :
    (view.toTexts libs).toView libs = view := by
  simp [toTexts, DriversLicense.toView, bind_parseDate_formatDate hdate]

theorem PassportView.toView_toTexts (view : PassportView) :
    (view.toTexts libs).toView libs = view := by
  simp [PassportView.toTexts, Passport.toView, bind_parseDate_formatDate hdate]

end

/-! ## Records that are read back -/

section

variable {EncString SymmetricKey Random : Type} {enc : String → EncryptM Random EncString}
  {dec : EncString → Except CryptoError String} {libs : Libraries} {random random' : Random}

variable (hdec : Undoes dec enc)

include hdec

theorem map_toView_decrypt_encrypt {View : Type} {t : Type → Type} [Traversable t]
    [LawfulTraversable t] {toTexts : View → t (Option String)} {toView : t (Option String) → View}
    (hview : ∀ view, toView (toTexts view) = view) {views : Option View}
    {records : Option (t (Option EncString))}
    (h : traverse (fun view => traverse (traverse enc) (toTexts view)) views random =
      .ok (records, random')) :
    records.map (fun record => toView (decryptOrNone dec <$> record)) = views := by
  have hread := traverse_inverse (fun _ _ _ _ hrecord => hdec.traverse.traverse hrecord) h
  have htexts := congrArg (Option.map toView) (map_map_decryptOrNone_of_ok hread)
  simp only [Option.map_eq_map, Option.map_map] at htexts
  refine htexts.trans ?_
  simp [comp_def, hview]

theorem SshKey.decrypt_encrypt {view : SshKeyView} {sshKey : SshKey EncString}
    (h : view.encrypt enc libs random = .ok (sshKey, random')) :
    sshKey.decrypt dec libs = .ok (view.complete libs) := by
  simp only [SshKeyView.encrypt, run_bind_eq_ok_iff, run_pure_eq_ok_iff] at h
  obtain ⟨privateKey, _, hprivate, publicKey, _, hpublic, fingerprint, _, hfingerprint, rfl,
    rfl⟩ := h
  simp only [SshKey.decrypt, bind_eq_ok_iff]
  refine ⟨_, hdec hprivate, _, hdec hpublic, _, hdec hfingerprint, ?_⟩
  unfold SshKeyView.complete
  split <;> rfl

variable {unwrap : EncString → Except CryptoError SymmetricKey}
  {wrap : SymmetricKey → EncryptM Random EncString}

theorem Attachment.decrypt_encrypt (hunwrap : Undoes unwrap wrap) :
    Undoes (Attachment.decrypt dec unwrap) (AttachmentView.encrypt enc wrap) := by
  intro view random attachment random' h
  simp only [AttachmentView.encrypt, run_bind_eq_ok_iff, run_pure_eq_ok_iff] at h
  obtain ⟨fileName, _, hname, key, _, hkey, rfl, rfl⟩ := h
  exact Attachment.decrypt_eq_ok_iff.mpr ⟨hdec.traverse hname, hunwrap.traverse hkey, rfl, rfl,
    rfl, rfl⟩

theorem decryptAttachments_encrypt (hunwrap : Undoes unwrap wrap)
    {views : Option (List (AttachmentView SymmetricKey))}
    {attachments : Option (List (Attachment EncString))}
    (h : traverse (traverse (AttachmentView.encrypt enc wrap)) views random =
      .ok (attachments, random')) :
    decryptAttachmentsWithFailures dec unwrap (attachments.getD []) = (views.getD [], []) :=
  decryptAttachmentsWithFailures_getD_of_ok
    ((Attachment.decrypt_encrypt hdec hunwrap).traverse.traverse h)

end

/-! ## The field-level format -/

section

variable {EncString SymmetricKey Random : Type}
  {ctx : EncryptContext EncString SymmetricKey Random} {key : KeySlot SymmetricKey}
  {random random' : Random}

def CipherView.savedLegacy (libs : Libraries) (cipherKey : SymmetricKey)
    (view : CipherView SymmetricKey) : CipherView SymmetricKey :=
  { view with
    key := some cipherKey
    login := view.login.map (·.savedLegacy libs)
    sshKey := view.sshKey.map (·.complete libs)
    attachments := some (view.attachments.getD [])
    attachmentDecryptionFailures := some [] }

variable {view : CipherView SymmetricKey}

theorem rejectRestricted_eq_ok_iff {u : Unit} :
    (view.rejectRestricted : EncryptM Random Unit) random = .ok (u, random') ↔
      view.isPartial = false ∧ random = random' := by
  unfold rejectRestricted
  split
  next h =>
    have hthrow : (throw .encryptRestrictedView : EncryptM Random Unit) random =
      .error .encryptRestrictedView := rfl
    simp [h, hthrow]
  next h => simp [h, run_pure_eq_ok_iff]

theorem loadCipherKeySlot_eq_ok {loaded : SymmetricKey × CipherView SymmetricKey}
    (h : view.loadCipherKeySlot ctx random = .ok (loaded, random')) :
    (∀ own ∈ view.key, own = loaded.1) ∧ loaded.2 = { view with key := some loaded.1 } := by
  unfold loadCipherKeySlot at h
  cases hkey : view.key with
  | some own =>
    simp only [hkey, run_pure_eq_ok_iff] at h
    obtain ⟨rfl, rfl⟩ := h
    exact ⟨by simp, by rw [← hkey]⟩
  | none =>
    simp only [hkey, run_bind_eq_ok_iff, run_pure_eq_ok_iff] at h
    obtain ⟨generated, _, hgenerated, rfl, rfl⟩ := h
    simp

def EncryptContext.UnwrapsWrapped (ctx : EncryptContext EncString SymmetricKey Random) : Prop :=
  ∀ wrappingKey key random enc random',
    ctx.wrapSymmetricKey wrappingKey key random = .ok (enc, random') →
    ctx.unwrapSymmetricKey wrappingKey enc = .ok key

theorem EncryptContext.Lawful.unwrapsWrapped (hctx : ctx.Lawful) : ctx.UnwrapsWrapped :=
  fun _ _ _ _ _ => hctx.unwrap_wrap

theorem EncryptContext.Lawful.decryptsEncrypted (hctx : ctx.Lawful) (cipherKey : SymmetricKey) :
    Undoes (ctx.decryptIn (.ok cipherKey)) (ctx.encrypt cipherKey) :=
  fun _ _ _ _ => hctx.decrypt_encrypt

theorem unwrapIn_of_wrapIn (hunwraps : ctx.UnwrapsWrapped) {wrapped : EncString}
    {cipherKey : SymmetricKey} (h : ctx.wrapIn key cipherKey random = .ok (wrapped, random')) :
    ctx.unwrapIn key wrapped = .ok cipherKey := by
  simp only [EncryptContext.wrapIn, run_bind_eq_ok_iff, run_lift_eq_ok_iff] at h
  obtain ⟨slot, _, ⟨rfl, rfl⟩, hwrapped⟩ := h
  exact hunwraps _ _ _ _ _ hwrapped

variable {cipher : Cipher EncString}

/-- The view of an item that was encrypted in the field-level format, before its uris are
checked. -/
theorem strictView_of_encryptLegacy (hctx : ctx.Lawful)
    (h : view.encryptLegacyFieldEncryption ctx key random = .ok (cipher, random')) :
    ∃ cipherKey wrapped, (∀ own ∈ view.key, own = cipherKey) ∧
      cipher.key = some wrapped ∧ ctx.unwrapIn key wrapped = .ok cipherKey ∧
      cipher.data = none ∧ cipher.partialData = none ∧
      StrictView ctx.toDecryptContext (.ok cipherKey) cipher
        { view.savedLegacy ctx.toLibraries cipherKey with
          login := view.login.map
            fun login => (login.generateChecksums ctx.toLibraries).stored } := by
  simp only [encryptLegacyFieldEncryption, run_bind_eq_ok_iff, run_pure_eq_ok_iff,
    rejectRestricted_eq_ok_iff] at h
  obtain ⟨_, _, ⟨hunrestricted, rfl⟩, loaded, _, hloaded, wrapped, _, hwrapped, name, _, hname,
    notes, _, hnotes, login, _, hlogin, identity, _, hidentity, card, _, hcard, sshKey, _,
    hsshKey, bankAccount, _, hbankAccount, license, _, hlicense, passport, _, hpassport,
    attachments, _, hattachments, fields, _, hfields, history, _, hhistory, rfl, rfl⟩ := h
  obtain ⟨cipherKey, loadedView⟩ := loaded
  obtain ⟨howns, hview⟩ := loadCipherKeySlot_eq_ok hloaded
  simp only at hview
  subst hview
  have hdec := hctx.decryptsEncrypted cipherKey
  have hattachments : decryptAttachmentsWithFailures (ctx.decryptIn (.ok cipherKey))
      (ctx.unwrapIn (.ok cipherKey)) (attachments.getD []) = _ :=
    decryptAttachments_encrypt hdec (hctx.unwrapsWrapped cipherKey) hattachments
  refine ⟨cipherKey, wrapped, howns, rfl, unwrapIn_of_wrapIn hctx.unwrapsWrapped hwrapped, rfl, rfl,
    ?_⟩
  refine ⟨rfl, rfl, rfl, ⟨name, rfl, hdec hname⟩, hdec.traverse hnotes,
    ?_, ?_, ?_, rfl, ?_, ?_, ?_, ?_, ?_, ?_, ?_, ?_, hunrestricted⟩
  · -- what is written of a login is its stored form
    have hread : traverse (Login.strictDecrypt (ctx.decryptIn (.ok cipherKey))) login = _ :=
      traverse_inverse (u := Login.stored) (fun _ _ _ _ h => hdec.traverse h) hlogin
    simpa [generateChecksums, comp_def] using hread
  · exact hdec.traverse.traverse.traverse hidentity
  · exact hdec.traverse.traverse.traverse hcard
  · refine traverse_inverse ?_ hsshKey
    exact fun _ _ _ _ => SshKey.decrypt_encrypt hdec
  · exact (map_map_decryptOrNone_of_ok (hdec.traverse.traverse.traverse hbankAccount)).symm
  · exact (map_toView_decrypt_encrypt hdec
      (toView_toTexts hctx.parseDate_formatDate) hlicense).symm
  · exact (map_toView_decrypt_encrypt hdec
      (PassportView.toView_toTexts hctx.parseDate_formatDate) hpassport).symm
  · rw [hattachments]
    rfl
  · rw [hattachments]
    rfl
  · exact hdec.traverse.traverse.traverse.traverse hfields
  · exact (decrypt_passwordHistories_of_ok (hdec.traverse.traverse.traverse hhistory)).symm

theorem enforceChecksums_encrypted (libs : Libraries) (cipherKey : SymmetricKey)
    {dctx : DecryptContext EncString SymmetricKey} (hlibs : dctx.toLibraries = libs) :
    enforceChecksums dctx true
      { view.savedLegacy libs cipherKey with
        login := view.login.map fun login => (login.generateChecksums libs).stored } =
      view.savedLegacy libs cipherKey := by
  subst hlibs
  have henforced : checksumsEnforced dctx true = true := by simp [checksumsEnforced]
  rw [enforceChecksums, if_pos henforced]
  simp [removeInvalidChecksums, savedLegacy, comp_def, Login.removeInvalidChecksums_stored]

theorem decryptWith_of_encryptLegacy (hctx : ctx.Lawful)
    (h : view.encryptLegacyFieldEncryption ctx key random = .ok (cipher, random')) :
    ∃ cipherKey, (∀ own ∈ view.key, own = cipherKey) ∧
      ∀ strict, cipher.decryptWith ctx.toDecryptContext key strict =
        .ok (view.savedLegacy ctx.toLibraries cipherKey) := by
  obtain ⟨cipherKey, wrapped, howns, hkey, hunwrap, hdata, hrestricted, hfull⟩ :=
    strictView_of_encryptLegacy hctx h
  refine ⟨cipherKey, howns, ?_⟩
  have hslot : decryptCipherKey ctx.toDecryptContext key cipher.key = .ok (.ok cipherKey) := by
    rw [hkey]
    exact bind_eq_ok_iff.mpr ⟨cipherKey, hunwrap, rfl⟩
  have hstrict : strictDecryptCipherView ctx.toDecryptContext key cipher =
      .ok (view.savedLegacy ctx.toLibraries cipherKey) := by
    refine (strictDecryptCipherView_eq_ok_iff _).mpr ⟨_, _, hslot, hfull, ?_⟩
    rw [hkey]
    exact (enforceChecksums_encrypted _ cipherKey rfl).symm
  have hblob : tryParseBlob ctx.toDecryptContext cipher = none := by
    simp [tryParseBlob, hdata]
  intro strict
  cases strict with
  | true => simpa [Cipher.decryptWith, hrestricted, hblob] using hstrict
  | false =>
    simpa [Cipher.decryptWith, hrestricted, hblob] using lenientDecryptCipherView_of_strict hstrict

end

/-! ## Blobs -/

variable (credential : Fido2Credential String)

/-- The form of a passkey in a blob: its counter is the number that it denotes, or zero, and it is
discoverable or not. -/
def Fido2Credential.normalized : Fido2Credential String :=
  { credential with
    counter := toString ((parseU64 credential.counter).getD 0).toNat
    discoverable := if credential.discoverable == "true" then "true" else "false" }

/-- The form of a login in a blob: the checksums are dropped, and lists that are empty. -/
def Login.savedBlob (login : Login String) : Login String :=
  { login with
    uris := noneIfEmpty ((login.uris.getD []).map fun uri => { uri with uriChecksum := none })
    httpAuthenticationEnabled := some (login.httpAuthenticationEnabled.getD false)
    fido2Credentials := noneIfEmpty ((login.fido2Credentials.getD []).map (·.normalized)) }

theorem LoginDataV1.toView_fromView (login : Login String) :
    (fromView login).toView = login.savedBlob := by
  obtain ⟨username, password, revision, uris, totp, autofill, http, credentials⟩ := login
  cases uris <;> cases credentials <;>
    simp [fromView, toView, Login.savedBlob, LoginUriDataV1.fromView,
      LoginUriDataV1.toView, Fido2CredentialDataV1.fromView, Fido2CredentialDataV1.toView,
      Fido2Credential.normalized, comp_def]

/-- A counter is a decimal number of 64 bits, and a passkey is discoverable or not. -/
structure Fido2Credential.IsCanonical : Prop where
  counter : ∃ value : UInt64, credential.counter = toString value.toNat
  discoverable : credential.discoverable = "true" ∨ credential.discoverable = "false"

theorem parseU64_repr (value : UInt64) : parseU64 value.toNat.repr = some value := by
  have hdigits : ∀ digit ∈ Nat.toDigits 10 value.toNat, digit.isDigit = true :=
    fun _ => Nat.isDigit_of_mem_toDigits (by omega) (by omega)
  have hvalue : (Nat.toDigits 10 value.toNat).foldl
      (fun value digit => 10 * value + (digit.toNat - '0'.toNat)) 0 = value.toNat :=
    Nat.ofDigitChars_toDigits (by omega) (by omega)
  have hsign : ∀ digits, Nat.toDigits 10 value.toNat ≠ '+' :: digits := by
    intro digits h
    have hplus := hdigits '+' (by simp [h])
    simp at hplus
  unfold parseU64
  rw [Nat.toList_repr]
  split
  next digits h => exact absurd h (hsign digits)
  next =>
    have hall : (Nat.toDigits 10 value.toNat).all Char.isDigit = true :=
      all_eq_true.mpr hdigits
    have hne : (Nat.toDigits 10 value.toNat).isEmpty = false := by simp
    simp only [hall, hne, hvalue, UInt64.toNat_lt_size, UInt64.ofNat_toNat]
    simp

theorem Fido2Credential.normalized_eq_iff {credential : Fido2Credential String} :
    credential.normalized = credential ↔ credential.IsCanonical := by
  constructor
  · intro h
    have hcounter := congrArg Fido2Credential.counter h
    have hdiscoverable := congrArg Fido2Credential.discoverable h
    refine ⟨⟨_, hcounter.symm⟩, ?_⟩
    rw [← hdiscoverable]
    simp only [Fido2Credential.normalized]
    split
    · exact .inl rfl
    · exact .inr rfl
  · rintro ⟨⟨value, hcounter⟩, hdiscoverable⟩
    obtain ⟨⟩ := credential
    subst hcounter
    rcases hdiscoverable with rfl | rfl
    · simp [Fido2Credential.normalized, parseU64_repr]
    · simp [Fido2Credential.normalized, parseU64_repr]

/-! ### Contents that were read from a blob -/

theorem noneIfEmpty_getD {α : Type} (list : List α) : (noneIfEmpty list).getD [] = list := by
  cases list <;> rfl

theorem Fido2CredentialDataV1.fromView_toView (data : Fido2CredentialDataV1) :
    Fido2CredentialDataV1.fromView data.toView = data := by
  cases data with
  | mk _ _ _ _ _ _ _ _ _ _ _ discoverable _ =>
    cases discoverable <;>
      simp [Fido2CredentialDataV1.fromView, Fido2CredentialDataV1.toView, parseU64_repr]

theorem LoginDataV1.fromView_toView (data : LoginDataV1) :
    fromView data.toView = data := by
  have huris : data.uris.map (LoginUriDataV1.fromView ∘ LoginUriDataV1.toView) = data.uris :=
    map_id data.uris
  have hcredentials : data.fido2Credentials.map
      (Fido2CredentialDataV1.fromView ∘ Fido2CredentialDataV1.toView) = data.fido2Credentials := by
    rw [show Fido2CredentialDataV1.fromView ∘ Fido2CredentialDataV1.toView = id from
      funext Fido2CredentialDataV1.fromView_toView, map_id]
  have hlist : ∀ {α β : Type} (f : α → β) (list : List α),
      ((noneIfEmpty list).map (·.map f)).getD [] = list.map f := by
    intro α β f list
    cases list <;> rfl
  simp [fromView, toView, hlist, huris, hcredentials]

theorem Login.savedBlob_toView (data : LoginDataV1) : data.toView.savedBlob = data.toView := by
  rw [← toView_fromView, fromView_toView]

variable (blob : CipherBlobV1)

section Contents

variable {SymmetricKey : Type} {libs : Libraries}

theorem applyToCipherView_frame (libs : Libraries) (blob : CipherBlobV1)
    (view : CipherView SymmetricKey) :
    (blob.applyToCipherView libs view).toCipherMetadata = view.toCipherMetadata ∧
      (blob.applyToCipherView libs view).key = view.key ∧
      (blob.applyToCipherView libs view).attachments = view.attachments ∧
      (blob.applyToCipherView libs view).attachmentDecryptionFailures =
        view.attachmentDecryptionFailures ∧
      (blob.applyToCipherView libs view).isPartial = view.isPartial := by
  obtain ⟨name, notes, typeData, fields, history⟩ := blob
  cases typeData <;> exact ⟨rfl, rfl, rfl, rfl, rfl⟩

theorem applyToCipherView_congr
    (hdate : ∀ date, libs.parseDate (libs.formatDate date) = some date)
    {blob contents : CipherBlobV1} {base : CipherView SymmetricKey}
    (h : fromCipherView libs (blob.applyToCipherView libs base) = .ok contents)
    (other : CipherView SymmetricKey) :
    contents.applyToCipherView libs other = blob.applyToCipherView libs other := by
  obtain ⟨name, notes, typeData, fields, passwordHistory⟩ := blob
  simp only [fromCipherView, bind_eq_ok_iff, pure_eq_ok_iff] at h
  obtain ⟨contentsData, hdata, rfl⟩ := h
  cases typeData
  all_goals
    simp only [CipherTypeDataV1.fromView, applyToCipherView,
      CipherTypeDataV1.applyToCipherView, bind_eq_ok_iff, pure_eq_ok_iff, required_eq_ok_iff]
      at hdata
    obtain ⟨payload, hpayload, rfl⟩ := hdata
    cases hpayload
    simp [applyToCipherView, CipherTypeDataV1.applyToCipherView, noneIfEmpty_getD, fromView_toView,
      toView_toTexts hdate, PassportView.toView_toTexts hdate]

end Contents

section Blob

variable {EncString SymmetricKey Random : Type}
  {ctx : EncryptContext EncString SymmetricKey Random} {key : KeySlot SymmetricKey}
  {random random' : Random}

/-- The form of a view in a blob, which has the payload of its type only. -/
def CipherView.savedBlob (cipherKey : SymmetricKey) (view : CipherView SymmetricKey) :
    CipherView SymmetricKey :=
  { view with
    key := some cipherKey
    login := if view.type = .login then view.login.map (·.savedBlob) else none
    identity := if view.type = .identity then view.identity else none
    card := if view.type = .card then view.card else none
    secureNote := if view.type = .secureNote then view.secureNote else none
    sshKey := if view.type = .sshKey then view.sshKey else none
    bankAccount := if view.type = .bankAccount then view.bankAccount else none
    driversLicense := if view.type = .driversLicense then view.driversLicense else none
    passport := if view.type = .passport then view.passport else none
    attachments := some (view.attachments.getD [])
    attachmentDecryptionFailures := some []
    fields := noneIfEmpty (view.fields.getD [])
    passwordHistory := noneIfEmpty (view.passwordHistory.getD []) }

variable {cipherKey : SymmetricKey} {blob : CipherBlobV1} {libs : Libraries}

theorem applyToCipherView_fromCipherView
    (hdate : ∀ date, libs.parseDate (libs.formatDate date) = some date)
    {view base : CipherView SymmetricKey} (h : fromCipherView libs view = .ok blob)
    (hmetadata : base.toCipherMetadata = view.toCipherMetadata) (hkey : base.key = some cipherKey)
    (hattachments : base.attachments = some (view.attachments.getD []))
    (hfailures : base.attachmentDecryptionFailures = some [])
    (hunrestricted : base.isPartial = view.isPartial) :
    blob.applyToCipherView libs base = view.savedBlob cipherKey := by
  simp only [fromCipherView, bind_eq_ok_iff, pure_eq_ok_iff] at h
  obtain ⟨typeData, htypeData, rfl⟩ := h
  cases htype : view.type
  all_goals
    simp only [CipherTypeDataV1.fromView, htype, bind_eq_ok_iff, pure_eq_ok_iff,
      required_eq_ok_iff] at htypeData
    obtain ⟨payload, hpayload, rfl⟩ := htypeData
    simp [applyToCipherView, CipherTypeDataV1.applyToCipherView, savedBlob, htype, hpayload,
      hmetadata, hkey, hattachments, hfailures, hunrestricted, toView_fromView, toView_toTexts
      hdate, PassportView.toView_toTexts hdate]

/-- A view that was read from a blob has the same form in a blob. -/
theorem savedBlob_applyToCipherView (base : CipherView SymmetricKey) (cipherKey : SymmetricKey) :
    (blob.applyToCipherView libs base).savedBlob cipherKey =
      { blob.applyToCipherView libs base with
        key := some cipherKey
        attachments := some (base.attachments.getD [])
        attachmentDecryptionFailures := some [] } := by
  obtain ⟨name, notes, typeData, fields, passwordHistory⟩ := blob
  cases typeData <;>
    simp [applyToCipherView, CipherTypeDataV1.applyToCipherView,
      savedBlob, noneIfEmpty_getD, Login.savedBlob_toView]

theorem sealBlobContent_eq_ok {data : String}
    (h : sealBlobContent ctx blob cipherKey random = .ok (data, random')) :
    ∃ envelope cek, ctx.sealWithWrappingKey cipherKey blob random =
        some ((envelope, cek), random') ∧
      data = ctx.toOpaqueString ⟨blobFormatVersion, cek, envelope⟩ := by
  unfold sealBlobContent at h
  split at h
  next => cases h
  next envelope cek random hseal =>
    cases h
    exact ⟨envelope, cek, hseal, rfl⟩

theorem decryptWith_of_encryptBlob (hctx : ctx.Lawful) {view : CipherView SymmetricKey}
    {cipher : Cipher EncString}
    (h : encryptBlobCipherWithWrappingKey ctx key view random = .ok (cipher, random')) :
    ∃ cipherKey, (∀ own ∈ view.key, own = cipherKey) ∧
      ∀ strict, cipher.decryptWith ctx.toDecryptContext key strict =
        .ok (view.savedBlob cipherKey) := by
  simp only [encryptBlobCipherWithWrappingKey, run_bind_eq_ok_iff, run_pure_eq_ok_iff,
    rejectRestricted_eq_ok_iff, run_lift_eq_ok_iff] at h
  obtain ⟨_, _, ⟨hunrestricted, rfl⟩, loaded, _, hloaded, blob, _, ⟨hblob, rfl⟩, data, _, hdata,
    attachments, _, hattachments, wrapped, _, hwrapped, rfl, rfl⟩ := h
  obtain ⟨cipherKey, loadedView⟩ := loaded
  obtain ⟨howns, hview⟩ := loadCipherKeySlot_eq_ok hloaded
  simp only at hview
  subst hview
  obtain ⟨envelope, cek, hseal, rfl⟩ := sealBlobContent_eq_ok hdata
  have hdec := hctx.decryptsEncrypted cipherKey
  have hattachments : decryptAttachmentsWithFailures (ctx.decryptIn (.ok cipherKey))
      (ctx.unwrapIn (.ok cipherKey)) (attachments.getD []) = _ :=
    decryptAttachments_encrypt hdec (hctx.unwrapsWrapped cipherKey) hattachments
  have hslot : decryptCipherKey ctx.toDecryptContext key (some wrapped) = .ok (.ok cipherKey) :=
    bind_eq_ok_iff.mpr ⟨cipherKey, unwrapIn_of_wrapIn hctx.unwrapsWrapped hwrapped, rfl⟩
  have hunsealed : SealedCipherBlob.unseal ctx.toDecryptContext
      ⟨blobFormatVersion, cek, envelope⟩ (.ok cipherKey) = .ok blob := by
    simp [SealedCipherBlob.unseal, hctx.unseal_seal hseal]
  refine ⟨cipherKey, howns, ?_⟩
  intro strict
  unfold Cipher.decryptWith
  simp only [tryParseBlob, Option.bind_some, hctx.fromOpaqueString_toOpaqueString hseal]
  refine bind_eq_ok_iff.mpr ⟨.ok cipherKey, hslot, bind_eq_ok_iff.mpr ⟨blob, hunsealed,
    bind_eq_ok_iff.mpr ⟨some cipherKey, rfl, ?_⟩⟩⟩
  rw [hattachments]
  exact congrArg Except.ok (applyToCipherView_fromCipherView hctx.parseDate_formatDate hblob rfl
    rfl rfl rfl hunrestricted.symm)

def EncryptMode.saved (mode : EncryptMode) (libs : Libraries) (cipherKey : SymmetricKey)
    (view : CipherView SymmetricKey) : CipherView SymmetricKey :=
  match mode with
  | .legacy => view.savedLegacy libs cipherKey
  | .blob => view.savedBlob cipherKey

/-- An encrypted view decrypts, strictly and leniently, to its saved form with the item's own key,
and a passkey has the same form in a blob if and only if it is canonical. -/
theorem decryptWith_of_encryptComposite (ctx : EncryptContext EncString SymmetricKey Random)
    (hctx : ctx.Lawful) (key : KeySlot SymmetricKey) {mode : EncryptMode}
    {view : CipherView SymmetricKey} {cipher : Cipher EncString}
    (h : mode.encryptComposite ctx key view random = .ok (cipher, random')) :
    (∃ cipherKey, (∀ own ∈ view.key, own = cipherKey) ∧
      ∀ strict, cipher.decryptWith ctx.toDecryptContext key strict =
        .ok (mode.saved ctx.toLibraries cipherKey view)) ∧
    ∀ login ∈ view.login, ∀ credentials ∈ login.fido2Credentials, ∀ credential ∈ credentials,
      credential.normalized = credential ↔ credential.IsCanonical := by
  refine ⟨?_, fun _ _ _ _ _ _ => Fido2Credential.normalized_eq_iff⟩
  cases mode with
  | legacy => exact decryptWith_of_encryptLegacy hctx h
  | blob => exact decryptWith_of_encryptBlob hctx h

end Blob

/-! ## A passkey whose counter is no number -/

def formatStrokes (date : ℤ) : String :=
  String.ofList (List.replicate date.natAbs (if date < 0 then '-' else '+'))

def parseStrokes (text : String) : Option ℤ :=
  if text.toList.head? = some '-' then some (-text.toList.length) else some text.toList.length

theorem parseStrokes_formatStrokes (date : ℤ) : parseStrokes (formatStrokes date) = some date := by
  by_cases hnegative : date < 0
  · obtain ⟨count, hcount⟩ : ∃ count, date.natAbs = count + 1 := ⟨date.natAbs - 1, by omega⟩
    simp [parseStrokes, formatStrokes, hnegative, hcount, replicate_succ]
    omega
  · simp [parseStrokes, formatStrokes, hnegative, head?_replicate]
    omega

def sealingContext : EncryptContext (Option String) Unit Unit :=
  { plainContext with
    parseDate := parseStrokes
    formatDate := formatStrokes
    unsealWithWrappingKey := fun _ _ _ => some blob
    fromOpaqueString := fun _ => some ⟨blobFormatVersion, none, ⟨[]⟩⟩
    encrypt := fun _ text => pure (some text)
    wrapSymmetricKey := fun _ _ => pure none
    generateSymmetricKey := pure ()
    sealWithWrappingKey := fun _ sealedBlob random =>
      if sealedBlob = blob then some ((⟨[]⟩, none), random) else none
    toOpaqueString := fun _ => "blob" }

theorem sealingContext_lawful : (sealingContext blob).Lawful where
  decrypt_encrypt := by
    intro key text random enc random' h
    cases h
    rfl
  unwrap_wrap := by
    intro wrappingKey key random enc random' h
    rfl
  unseal_seal := by
    intro key sealedBlob random envelope cek random' h
    simp only [sealingContext] at h
    split at h
    next heq => rw [heq]; rfl
    next => cases h
  fromOpaqueString_toOpaqueString := by
    intro key sealedBlob random envelope cek random' h
    simp only [sealingContext] at h
    split at h
    next =>
      cases h
      rfl
    next => cases h
  parseDate_formatDate := parseStrokes_formatStrokes

def loginWithPasskey (counter : String) : CipherView Unit :=
  { sampleMetadata with
    type := .login
    key := none
    name := "name"
    notes := none
    login := some
      { bareLogin with
        username := some "user", password := some "secret", httpAuthenticationEnabled := some true
        fido2Credentials := some
          [ { credentialId := "id", keyType := "public-key", keyAlgorithm := "ECDSA"
              keyCurve := "P-256", keyValue := "value", rpId := "example.com"
              userHandle := none, userName := none, counter, rpName := none
              userDisplayName := none, discoverable := "true", creationDate := 0 } ] }
    identity := none, card := none, secureNote := none, sshKey := none
    bankAccount := none, driversLicense := none, passport := none
    attachments := some [], attachmentDecryptionFailures := none
    fields := none, passwordHistory := none
    isPartial := false }

def passkeyBlob (counter : UInt64) : CipherBlobV1 where
  name := "name"
  notes := none
  typeData := .login
    { username := some "user", password := some "secret", passwordRevisionDate := none
      uris := [], totp := none, autofillOnPageLoad := none, httpAuthenticationEnabled := true
      fido2Credentials :=
        [ { credentialId := "id", keyType := "public-key", keyAlgorithm := "ECDSA"
            keyCurve := "P-256", keyValue := "value", rpId := "example.com"
            userHandle := none, userName := none, counter, rpName := none
            userDisplayName := none, discoverable := true, creationDate := 0 } ] }
  fields := []
  passwordHistory := []

theorem loginWithPasskey_readsBack :
    ∃ cipher, (EncryptMode.blob.encryptComposite (sealingContext (passkeyBlob 42)) (.ok ())
        (loginWithPasskey "42") () = .ok (cipher, ())) ∧
      cipher.decrypt (sealingContext (passkeyBlob 42)).toDecryptContext (.ok ()) =
        .ok { loginWithPasskey "42" with
              key := some (), attachmentDecryptionFailures := some [] } := by
  have h : EncryptMode.blob.encryptComposite (sealingContext (passkeyBlob 42)) (.ok ())
      (loginWithPasskey "42") () = .ok (_, ()) := rfl
  obtain ⟨⟨cipherKey, -, hread⟩, -⟩ := decryptWith_of_encryptComposite
    (sealingContext (passkeyBlob 42)) (sealingContext_lawful _) (.ok ()) h
  exact ⟨_, h, hread false⟩

theorem passkeyCounter_lost :
    (sealingContext (passkeyBlob 0)).Lawful ∧
    ∃ cipher view login credential,
      EncryptMode.blob.encryptComposite (sealingContext (passkeyBlob 0)) (.ok ())
        (loginWithPasskey "not-a-number") () = .ok (cipher, ()) ∧
      cipher.decrypt (sealingContext (passkeyBlob 0)).toDecryptContext (.ok ()) = .ok view ∧
      view.login = some login ∧ login.fido2Credentials = some [credential] ∧
      credential.counter = "0" :=
  ⟨sealingContext_lawful _, _, _, _, _, rfl, rfl, rfl, rfl, rfl⟩

end SdkInternal.Vault
