import SdkInternal.Verification.Vault.RoundTrip

/-! # What strict decryption reads

Bank accounts, licences, passports, attachments and the password history have a lenient decryption
only, an SSH key with one public part is completed from its private key, and uris with a wrong
checksum are dropped. Strict decryption shows all values, and encrypting them again keeps them,
only if these are readable and right whenever the others are readable. -/

namespace SdkInternal.Vault

open Crypto Shared SshKey

/-! ## Items whose values all decrypt -/

section

variable {EncString SymmetricKey : Type} (dec : EncString → Except CryptoError String)
  (libs : Libraries)

def ParsesAsDate (text : Option String) : Prop :=
  ∀ date ∈ text, (libs.parseDate date).isSome

structure DriversLicense.HasDates (license : DriversLicense (Option String)) : Prop where
  dateOfBirth : ParsesAsDate libs license.dateOfBirth
  issueDate : ParsesAsDate libs license.issueDate
  expirationDate : ParsesAsDate libs license.expirationDate

structure Passport.HasDates (passport : Passport (Option String)) : Prop where
  dateOfBirth : ParsesAsDate libs passport.dateOfBirth
  issueDate : ParsesAsDate libs passport.issueDate
  expirationDate : ParsesAsDate libs passport.expirationDate

/-- The stored parts of an SSH key decrypt to those of the view. -/
@[mk_iff readAs_def]
structure SshKey.ReadAs (sshKey : SshKey EncString) (view : SshKeyView) : Prop where
  privateKey : dec sshKey.privateKey = .ok view.privateKey
  publicKey : ∀ stored ∈ sshKey.publicKey, dec stored = .ok view.publicKey
  fingerprint : ∀ stored ∈ sshKey.fingerprint, dec stored = .ok view.fingerprint

/-- If one public part of the key is stored, it is the one derived from the private key. -/
@[mk_iff]
structure SshKey.LonePartDerived (sshKey : SshKey EncString) (privateKey : String) : Prop where
  publicKey : ∀ stored ∈ sshKey.publicKey, sshKey.fingerprint = none →
    dec stored = .ok (derivePublicKeyAndFingerprint libs privateKey).1
  fingerprint : ∀ stored ∈ sshKey.fingerprint, sshKey.publicKey = none →
    dec stored = .ok (derivePublicKeyAndFingerprint libs privateKey).2

variable {dec libs}

section SshKey

variable {sshKey : SshKey EncString} {view : SshKeyView}

theorem SshKey.privateKey_of_decrypt (h : sshKey.decrypt dec libs = .ok view) :
    dec sshKey.privateKey = .ok view.privateKey := by
  simp only [decrypt, bind_eq_ok_iff] at h
  obtain ⟨decrypted, hprivate, h⟩ := h
  split at h
  · simp only [bind_eq_ok_iff] at h
    obtain ⟨_, _, _, _, h⟩ := h
    cases h
    exact hprivate
  · cases h
    exact hprivate

theorem SshKey.readAs_iff (h : sshKey.decrypt dec libs = .ok view) :
    sshKey.ReadAs dec view ↔ sshKey.LonePartDerived dec libs view.privateKey := by
  obtain ⟨privateKey, publicKey, fingerprint⟩ := sshKey
  simp only [decrypt, bind_eq_ok_iff] at h
  obtain ⟨decrypted, hprivate, h⟩ := h
  rw [readAs_def, lonePartDerived_iff]
  cases publicKey with
  | none =>
    cases h
    simp [hprivate]
  | some publicKey =>
    cases fingerprint with
    | none =>
      cases h
      simp [hprivate]
    | some fingerprint =>
      simp only [bind_eq_ok_iff] at h
      obtain ⟨decryptedPublic, hpublic, decryptedFingerprint, hfingerprint, h⟩ := h
      cases h
      simp [hprivate, hpublic, hfingerprint]

end SshKey

theorem sshKey_readAs_iff {sshKey : Option (SshKey EncString)} {view : Option SshKeyView}
    (h : traverse (decrypt dec libs) sshKey = .ok view) :
    Option.Rel (ReadAs dec) sshKey view ↔
      ∀ stored ∈ sshKey, ∀ privateKey, dec stored.privateKey = .ok privateKey →
        stored.LonePartDerived dec libs privateKey := by
  cases sshKey with
  | none =>
    cases h
    exact ⟨by simp, fun _ => .none⟩
  | some sshKey =>
    obtain ⟨view, hview, rfl⟩ := map_eq_ok_iff.mp h
    have hread := readAs_iff hview
    have hprivate := privateKey_of_decrypt hview
    constructor
    · rintro ⟨hrel⟩ stored ⟨⟩ privateKey hdecrypted
      rw [hprivate] at hdecrypted
      cases hdecrypted
      exact hread.mp hrel
    · intro hlone
      exact .some (hread.mpr (hlone sshKey rfl _ hprivate))

variable (ctx : DecryptContext EncString SymmetricKey) (slot : KeySlot SymmetricKey)

/-- All encrypted values of the item decrypt, and the view has their plaintexts. -/
structure Cipher.ReadAs (cipher : Cipher EncString) (view : CipherView SymmetricKey) : Prop where
  name : ∃ name, cipher.name = some name ∧ ctx.decryptIn slot name = .ok view.name
  notes : traverse (ctx.decryptIn slot) cipher.notes = .ok view.notes
  login : traverse (traverse (ctx.decryptIn slot)) cipher.login = .ok view.login
  identity :
    traverse (traverse (traverse (ctx.decryptIn slot))) cipher.identity = .ok view.identity
  card : traverse (traverse (traverse (ctx.decryptIn slot))) cipher.card = .ok view.card
  sshKey : Option.Rel (SshKey.ReadAs (ctx.decryptIn slot)) cipher.sshKey view.sshKey
  bankAccount :
    traverse (traverse (traverse (ctx.decryptIn slot))) cipher.bankAccount = .ok view.bankAccount
  driversLicense : ∃ texts,
    traverse (traverse (traverse (ctx.decryptIn slot))) cipher.driversLicense = .ok texts ∧
    view.driversLicense = texts.map (·.toView ctx.toLibraries) ∧
    ∀ text ∈ texts, text.HasDates ctx.toLibraries
  passport : ∃ texts,
    traverse (traverse (traverse (ctx.decryptIn slot))) cipher.passport = .ok texts ∧
    view.passport = texts.map (·.toView ctx.toLibraries) ∧
    ∀ text ∈ texts, text.HasDates ctx.toLibraries
  attachments : traverse (Attachment.decrypt (ctx.decryptIn slot) (ctx.unwrapIn slot))
    (cipher.attachments.getD []) = .ok (view.attachments.getD [])
  fields :
    traverse (traverse (traverse (traverse (ctx.decryptIn slot)))) cipher.fields = .ok view.fields
  passwordHistory : traverse (traverse (traverse (ctx.decryptIn slot))) cipher.passwordHistory =
    .ok view.passwordHistory

/-- The values that strict decryption treats leniently are readable, and it drops no uri. -/
structure Cipher.LenientPartsReadable (cipher : Cipher EncString) : Prop where
  bankAccount : ∃ view,
    traverse (traverse (traverse (ctx.decryptIn slot))) cipher.bankAccount = .ok view
  driversLicense : ∃ texts,
    traverse (traverse (traverse (ctx.decryptIn slot))) cipher.driversLicense = .ok texts ∧
    ∀ text ∈ texts, text.HasDates ctx.toLibraries
  passport : ∃ texts,
    traverse (traverse (traverse (ctx.decryptIn slot))) cipher.passport = .ok texts ∧
    ∀ text ∈ texts, text.HasDates ctx.toLibraries
  attachments : ∃ views, traverse (Attachment.decrypt (ctx.decryptIn slot) (ctx.unwrapIn slot))
    (cipher.attachments.getD []) = .ok views
  passwordHistory : ∃ history,
    traverse (traverse (traverse (ctx.decryptIn slot))) cipher.passwordHistory = .ok history
  sshKey : ∀ sshKey ∈ cipher.sshKey, ∀ privateKey,
    ctx.decryptIn slot sshKey.privateKey = .ok privateKey →
    sshKey.LonePartDerived (ctx.decryptIn slot) ctx.toLibraries privateKey
  uris : checksumsEnforced ctx cipher.key.isSome → ∀ views,
    traverse (traverse (ctx.decryptIn slot)) cipher.login = .ok views →
    ∀ login ∈ views, ∀ uris ∈ login.uris, ∀ uri ∈ uris, uri.isChecksumValid ctx.toLibraries

end

/-! ## Views with all values -/

section

variable {EncString SymmetricKey : Type} {ctx : DecryptContext EncString SymmetricKey}
  {slot : KeySlot SymmetricKey} {cipher : Cipher EncString} {view : CipherView SymmetricKey}

theorem Login.removeInvalidChecksums_eq_self_iff {libs : Libraries} {login : Login String} :
    login.removeInvalidChecksums libs = login ↔
      ∀ uris ∈ login.uris, ∀ uri ∈ uris, uri.isChecksumValid libs := by
  obtain ⟨username, password, revision, uris, totp, autofill, http, credentials⟩ := login
  cases uris <;> simp [Login.removeInvalidChecksums]

theorem enforceChecksums_login_eq_iff {hasKey : Bool} :
    (enforceChecksums ctx hasKey view).login = view.login ↔
      (checksumsEnforced ctx hasKey → ∀ login ∈ view.login, ∀ uris ∈ login.uris, ∀ uri ∈ uris,
        uri.isChecksumValid ctx.toLibraries) := by
  unfold enforceChecksums
  split
  next henforced =>
    simp only [CipherView.removeInvalidChecksums, henforced, true_implies]
    cases view.login with
    | none => simp
    | some login =>
      rw [Option.map_some, Option.some_inj, Login.removeInvalidChecksums_eq_self_iff]
      simp
  next henforced => simp [henforced]

theorem enforceChecksums_eq_self {hasKey : Bool}
    (h : (enforceChecksums ctx hasKey view).login = view.login) :
    enforceChecksums ctx hasKey view = view := by
  unfold enforceChecksums at h ⊢
  split at h
  next henforced =>
    rw [if_pos henforced]
    exact congrArg (fun login => { view with login }) h
  next henforced => rw [if_neg henforced]

/-- The view has all plaintexts if and only if the values that are treated leniently are readable
and no uri is dropped. -/
theorem StrictView.readAs_iff (h : StrictView ctx slot cipher view) :
    cipher.ReadAs ctx slot (enforceChecksums ctx cipher.key.isSome view) ↔
      cipher.LenientPartsReadable ctx slot := by
  constructor
  · intro hread
    have hlogin : (enforceChecksums ctx cipher.key.isSome view).login = view.login :=
      Except.ok.inj (hread.login.symm.trans h.login)
    rw [enforceChecksums_eq_self hlogin] at hread
    obtain ⟨license, hlicense, -, hlicenseDates⟩ := hread.driversLicense
    obtain ⟨passport, hpassport, -, hpassportDates⟩ := hread.passport
    refine ⟨⟨_, hread.bankAccount⟩, ⟨license, hlicense, hlicenseDates⟩,
      ⟨passport, hpassport, hpassportDates⟩, ⟨_, hread.attachments⟩, ⟨_, hread.passwordHistory⟩,
      (sshKey_readAs_iff h.sshKey).mp hread.sshKey, ?_⟩
    intro henforced views hviews
    cases hviews.symm.trans h.login
    exact enforceChecksums_login_eq_iff.mp hlogin henforced
  · intro hreadable
    rw [enforceChecksums_eq_self (enforceChecksums_login_eq_iff.mpr fun henforced =>
      hreadable.uris henforced _ h.login)]
    obtain ⟨bankAccount, hbankAccount⟩ := hreadable.bankAccount
    obtain ⟨license, hlicense, hlicenseDates⟩ := hreadable.driversLicense
    obtain ⟨passport, hpassport, hpassportDates⟩ := hreadable.passport
    obtain ⟨attachments, hattachments⟩ := hreadable.attachments
    obtain ⟨history, hhistory⟩ := hreadable.passwordHistory
    refine ⟨h.name, h.notes, h.login, h.identity, h.card,
      (sshKey_readAs_iff h.sshKey).mpr hreadable.sshKey, ?_, ⟨license, hlicense, ?_, hlicenseDates⟩,
      ⟨passport, hpassport, ?_, hpassportDates⟩, ?_, h.fields, ?_⟩
    · rw [h.bankAccount, hbankAccount]
      exact congrArg Except.ok (map_map_decryptOrNone_of_ok hbankAccount).symm
    · rw [h.driversLicense, ← map_map_decryptOrNone_of_ok hlicense, Option.map_eq_map,
        Option.map_map]
      rfl
    · rw [h.passport, ← map_map_decryptOrNone_of_ok hpassport, Option.map_eq_map, Option.map_map]
      rfl
    · rw [h.attachments, hattachments, decryptAttachmentsWithFailures_eq_iff.mpr hattachments]
      rfl
    · rw [h.passwordHistory, hhistory, decrypt_passwordHistories_of_ok hhistory]

end

section Rewriting

variable {EncString SymmetricKey Random : Type}

/-- Strict decryption of an item in the field-level format shows the plaintext of every encrypted
value, and encrypting the view again keeps them, if and only if the bank account, licence,
passport, attachments, password history and single public part of an SSH key are readable, and the
checksums of the uris right, whenever all other values are readable. -/
theorem strictDecrypt_readsAll_iff (ctx : EncryptContext EncString SymmetricKey Random)
    (hctx : ctx.Lawful) (key : KeySlot SymmetricKey) {cipher : Cipher EncString}
    (hunrestricted : cipher.partialData = none)
    (hblob : tryParseBlob ctx.toDecryptContext cipher = none) :
    (∀ view, cipher.strictDecrypt ctx.toDecryptContext key = .ok view →
      (∃ slot, decryptCipherKey ctx.toDecryptContext key cipher.key = .ok slot ∧
        cipher.ReadAs ctx.toDecryptContext slot view) ∧
      ∀ random again random',
        view.encryptLegacyFieldEncryption ctx key random = .ok (again, random') →
        ∃ cipherKey, (∀ own ∈ view.key, own = cipherKey) ∧
          again.strictDecrypt ctx.toDecryptContext key =
            .ok (view.savedLegacy ctx.toLibraries cipherKey)) ↔
    ∀ slot, decryptCipherKey ctx.toDecryptContext key cipher.key = .ok slot →
      cipher.StrictPartsReadable (ctx.decryptIn slot) ctx.toLibraries →
      cipher.LenientPartsReadable ctx.toDecryptContext slot := by
  have hstrict : cipher.strictDecrypt ctx.toDecryptContext key =
      strictDecryptCipherView ctx.toDecryptContext key cipher := by
    simp [Cipher.strictDecrypt, Cipher.decryptWith, hunrestricted, hblob]
  rw [hstrict]
  constructor
  · intro hreads slot hslot hreadable
    obtain ⟨full, hfull⟩ := (exists_strictView_iff _ hslot).mpr hreadable
    obtain ⟨⟨slot', hslot', hread⟩, -⟩ := hreads _
      ((strictDecryptCipherView_eq_ok_iff _).mpr ⟨slot, full, hslot, hfull, rfl⟩)
    cases hslot.symm.trans hslot'
    exact hfull.readAs_iff.mp hread
  · intro hreadable view hview
    obtain ⟨slot, full, hslot, hfull, rfl⟩ := (strictDecryptCipherView_eq_ok_iff _).mp hview
    have hparts := (exists_strictView_iff _ hslot).mp ⟨full, hfull⟩
    refine ⟨⟨slot, hslot, hfull.readAs_iff.mpr (hreadable slot hslot hparts)⟩, ?_⟩
    intro random again random' hagain
    obtain ⟨cipherKey, howns, hread⟩ := decryptWith_of_encryptLegacy hctx hagain
    exact ⟨cipherKey, howns, hread true⟩

end Rewriting

/-! ## A history that is lost -/

def historyContext : EncryptContext (Option String) Unit Unit := sealingContext (passkeyBlob 0)

theorem readableUri_readsAll :
    ∃ view slot,
      checkedLogin.strictDecrypt historyContext.toDecryptContext (.ok ()) = .ok view ∧
      checkedLogin.ReadAs historyContext.toDecryptContext slot view ∧
      view.passwordHistory = some [⟨"old", 0⟩] := by
  have hunrestricted : checkedLogin.partialData = none := rfl
  have hreads := (strictDecrypt_readsAll_iff historyContext (sealingContext_lawful _) (.ok ())
    hunrestricted rfl).mpr (by
    intro slot hslot _
    cases hslot
    refine ⟨⟨none, rfl⟩, ⟨none, rfl, by simp⟩, ⟨none, rfl, by simp⟩, ⟨[], rfl⟩,
      ⟨some [⟨"old", 0⟩], rfl⟩, by simp [loginWithUri, loginWithHistory, bareItem], ?_⟩
    rintro - views ⟨⟩ login ⟨⟩ uris ⟨⟩ uri huri
    cases List.mem_singleton.mp huri
    decide +kernel)
  obtain ⟨⟨slot, -, hread⟩, -⟩ := hreads _ rfl
  exact ⟨_, slot, rfl, hread, rfl⟩

/-- An entry that cannot be read is shown as an empty text, and stored as one. -/
theorem strictDecrypt_blanks_history :
    ∃ view again,
      (loginWithHistory none).strictDecrypt historyContext.toDecryptContext (.ok ()) = .ok view ∧
      view.passwordHistory = some [⟨"", 0⟩] ∧
      (¬∃ slot, (loginWithHistory none).ReadAs historyContext.toDecryptContext slot view) ∧
      view.encryptLegacyFieldEncryption historyContext (.ok ()) () = .ok (again, ()) ∧
      again.passwordHistory = some [⟨some "", 0⟩] := by
  refine ⟨_, _, rfl, rfl, ?_, rfl, rfl⟩
  rintro ⟨slot, hread⟩
  have hhistory := hread.passwordHistory
  cases slot with
  | error e | ok key => cases hhistory

end SdkInternal.Vault
