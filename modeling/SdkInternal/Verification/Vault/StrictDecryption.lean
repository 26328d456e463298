import SdkInternal.Model.Vault.Cipher

/-! # Strict decryption

Strict decryption of an item succeeds if and only if all values that it treats strictly are
readable. -/

namespace SdkInternal.Vault

open Crypto Shared SshKey

/-! ## Values that decrypt -/

section

variable {EncString : Type} {dec : EncString → Except CryptoError String}

theorem decryptOrNone_of_ok {value : Option EncString} {text : Option String}
    (h : traverse dec value = .ok text) : decryptOrNone dec value = text := by
  simp [decryptOrNone, h, Except.toOption]

theorem map_decryptOrNone_of_ok {t : Type → Type} [Traversable t] [LawfulTraversable t]
    {record : t (Option EncString)} {view : t (Option String)}
    (h : traverse (traverse dec) record = .ok view) : decryptOrNone dec <$> record = view :=
  (eq_map_of_traverse_eq_ok (fun _ _ htext => (decryptOrNone_of_ok htext).symm) h).symm

theorem map_map_decryptOrNone_of_ok {s t : Type → Type} [Traversable s] [LawfulTraversable s]
    [Traversable t] [LawfulTraversable t] {records : s (t (Option EncString))}
    {views : s (t (Option String))}
    (h : traverse (traverse (traverse dec)) records = .ok views) :
    (decryptOrNone dec <$> ·) <$> records = views :=
  (eq_map_of_traverse_eq_ok (fun _ _ hview => (map_decryptOrNone_of_ok hview).symm) h).symm

theorem decrypt_passwordHistory_of_ok {entry : PasswordHistory EncString}
    {view : PasswordHistory String} (h : traverse dec entry = .ok view) :
    entry.decrypt dec = view := by
  obtain ⟨entry, rfl, rfl⟩ := traverse_eq_ok_iff.mp h
  show PasswordHistory.mk ((dec entry.password.argument).toOption.getD "") entry.lastUsedDate =
    PasswordHistory.mk entry.password.result entry.lastUsedDate
  rw [entry.password.eq_ok]
  rfl

theorem decrypt_passwordHistories_of_ok {history : Option (List (PasswordHistory EncString))}
    {views : Option (List (PasswordHistory String))}
    (h : traverse (traverse (traverse dec)) history = .ok views) :
    history.map (·.map (·.decrypt dec)) = views := by
  refine (eq_map_of_traverse_eq_ok ?_ h).symm
  intro entries view hentries
  refine eq_map_of_traverse_eq_ok ?_ hentries
  intro entry view hentry
  exact (decrypt_passwordHistory_of_ok hentry).symm

structure LoginReadAs (dec : EncString → Except CryptoError String) (login : Login EncString)
    (view : Login String) : Prop where
  username : traverse dec login.username = .ok view.username
  password : traverse dec login.password = .ok view.password
  passwordRevisionDate : view.passwordRevisionDate = login.passwordRevisionDate
  uris : traverse (decryptUris dec) login.uris = .ok view.uris
  totp : traverse dec login.totp = .ok view.totp
  autofillOnPageLoad : view.autofillOnPageLoad = login.autofillOnPageLoad
  httpAuthenticationEnabled : view.httpAuthenticationEnabled = login.httpAuthenticationEnabled
  fido2Credentials :
    traverse (decryptFido2Credentials dec) login.fido2Credentials = .ok view.fido2Credentials

theorem loginReadAs_of_ok {login : Login EncString} {view : Login String}
    (h : login.strictDecrypt dec = .ok view) : LoginReadAs dec login view := by
  obtain ⟨successes, rfl, rfl⟩ := traverse_eq_ok_iff.mp h
  refine ⟨?_, ?_, rfl, ?_, ?_, rfl, rfl, ?_⟩
  · exact traverse_map_ok Success.eq_ok successes.username
  · exact traverse_map_ok Success.eq_ok successes.password
  · exact traverse_map_ok (traverse_map_ok (traverse_map_ok Success.eq_ok)) successes.uris
  · exact traverse_map_ok Success.eq_ok successes.totp
  · exact traverse_map_ok (traverse_map_ok (traverse_map_ok Success.eq_ok))
      successes.fido2Credentials

theorem Attachment.decrypt_eq_ok_iff {SymmetricKey : Type}
    {unwrap : EncString → Except CryptoError SymmetricKey} {attachment : Attachment EncString}
    {view : AttachmentView SymmetricKey} :
    attachment.decrypt dec unwrap = .ok view ↔
      traverse dec attachment.fileName = .ok view.fileName ∧
      traverse unwrap attachment.key = .ok view.key ∧
      view.id = attachment.id ∧ view.url = attachment.url ∧ view.size = attachment.size ∧
      view.sizeName = attachment.sizeName := by
  simp only [Attachment.decrypt, bind_eq_ok_iff]
  constructor
  · rintro ⟨fileName, hname, key, hkey, h⟩
    cases h
    exact ⟨hname, hkey, rfl, rfl, rfl, rfl⟩
  · rintro ⟨hname, hkey, hid, hurl, hsize, hsizeName⟩
    refine ⟨view.fileName, hname, view.key, hkey, ?_⟩
    rw [← hid, ← hurl, ← hsize, ← hsizeName]
    rfl

end

/-! ## Items that decrypt -/

section

variable {EncString SymmetricKey : Type} (dec : EncString → Except CryptoError String)
  (libs : Libraries)

variable (cipher : Cipher EncString)

/-- The values that strict decryption treats strictly are readable. -/
structure Cipher.StrictPartsReadable : Prop where
  name : ∃ name text, cipher.name = some name ∧ dec name = .ok text
  notes : ∃ notes, traverse dec cipher.notes = .ok notes
  login : ∃ login, traverse (traverse dec) cipher.login = .ok login
  identity : ∃ identity, traverse (traverse (traverse dec)) cipher.identity = .ok identity
  card : ∃ card, traverse (traverse (traverse dec)) cipher.card = .ok card
  sshKey : ∃ sshKey, traverse (SshKey.decrypt dec libs) cipher.sshKey = .ok sshKey
  fields : ∃ fields, traverse (traverse (traverse (traverse dec))) cipher.fields = .ok fields

end

/-! ## What strict decryption returns -/

section

variable {EncString SymmetricKey : Type} (ctx : DecryptContext EncString SymmetricKey)

/-- The view of an item before its uris are checked. -/
structure StrictView (slot : KeySlot SymmetricKey) (cipher : Cipher EncString)
    (view : CipherView SymmetricKey) : Prop where
  metadata : view.toCipherMetadata = cipher.toCipherMetadata
  type : view.type = cipher.type
  key : viewKey slot cipher.key = .ok view.key
  name : ∃ name, cipher.name = some name ∧ ctx.decryptIn slot name = .ok view.name
  notes : traverse (ctx.decryptIn slot) cipher.notes = .ok view.notes
  login : traverse (Login.strictDecrypt (ctx.decryptIn slot)) cipher.login = .ok view.login
  identity :
    traverse (Identity.strictDecrypt (ctx.decryptIn slot)) cipher.identity = .ok view.identity
  card : traverse (Card.strictDecrypt (ctx.decryptIn slot)) cipher.card = .ok view.card
  secureNote : view.secureNote = cipher.secureNote
  sshKey :
    traverse (decrypt (ctx.decryptIn slot) ctx.toLibraries) cipher.sshKey = .ok view.sshKey
  bankAccount : view.bankAccount = cipher.bankAccount.map (·.decrypt (ctx.decryptIn slot))
  driversLicense : view.driversLicense =
    cipher.driversLicense.map (·.decrypt (ctx.decryptIn slot) ctx.toLibraries)
  passport : view.passport = cipher.passport.map (·.decrypt (ctx.decryptIn slot) ctx.toLibraries)
  attachments : view.attachments = some (decryptAttachmentsWithFailures (ctx.decryptIn slot)
    (ctx.unwrapIn slot) (cipher.attachments.getD [])).1
  attachmentDecryptionFailures : view.attachmentDecryptionFailures =
    some (decryptAttachmentsWithFailures (ctx.decryptIn slot) (ctx.unwrapIn slot)
      (cipher.attachments.getD [])).2
  fields : traverse (traverse (Field.strictDecrypt (ctx.decryptIn slot))) cipher.fields =
    .ok view.fields
  passwordHistory : view.passwordHistory =
    cipher.passwordHistory.map (·.map (·.decrypt (ctx.decryptIn slot)))
  isPartial : view.isPartial = false

variable {slot : KeySlot SymmetricKey} {cipher : Cipher EncString} {view : CipherView SymmetricKey}

theorem isSome_of_viewKey {wrapped : Option EncString} {key : Option SymmetricKey}
    (h : viewKey slot wrapped = .ok key) :
    key.isSome = wrapped.isSome := by
  cases wrapped with
  | none =>
    cases h
    rfl
  | some wrapped =>
    obtain ⟨slot, -, rfl⟩ := map_eq_ok_iff.mp h
    rfl

theorem required_eq_ok_iff {α : Type} {value : Option α} {field : String} {a : α} :
    required value field = .ok a ↔ value = some a := by
  cases value <;> simp [required]

variable {key : KeySlot SymmetricKey}

theorem strictDecryptCipherView_eq_ok_iff :
    strictDecryptCipherView ctx key cipher = .ok view ↔
      ∃ slot full, decryptCipherKey ctx key cipher.key = .ok slot ∧
        StrictView ctx slot cipher full ∧ view = enforceChecksums ctx cipher.key.isSome full := by
  simp only [strictDecryptCipherView, bind_eq_ok_iff, required_eq_ok_iff]
  constructor
  · rintro ⟨slot, hslot, viewKey, hkey, name, hname, notes, hnotes, login,
      hlogin, identity, hidentity, card, hcard, sshKey, hsshKey, fields, hfields, hview⟩
    cases hview
    rw [isSome_of_viewKey hkey]
    refine ⟨slot, _, hslot, ?_, rfl⟩
    exact ⟨rfl, rfl, hkey, hname, hnotes, hlogin, hidentity, hcard, rfl, hsshKey, rfl, rfl, rfl,
      rfl, rfl, hfields, rfl, rfl⟩
  · rintro ⟨slot, full, hslot, hfull, rfl⟩
    refine ⟨slot, hslot, full.key, hfull.key, full.name, hfull.name, full.notes, hfull.notes,
      full.login, hfull.login, full.identity, hfull.identity, full.card, hfull.card, full.sshKey,
      hfull.sshKey, full.fields, hfull.fields, ?_⟩
    rw [isSome_of_viewKey hfull.key, ← hfull.metadata, ← hfull.type, ← hfull.secureNote,
      ← hfull.bankAccount, ← hfull.driversLicense, ← hfull.passport, ← hfull.attachments,
      ← hfull.attachmentDecryptionFailures, ← hfull.passwordHistory, ← hfull.isPartial]
    rfl

theorem exists_viewKey (h : decryptCipherKey ctx key cipher.key = .ok slot) :
    ∃ shown, viewKey slot cipher.key = .ok shown := by
  cases hkey : cipher.key with
  | none => exact ⟨none, rfl⟩
  | some wrapped =>
    rw [hkey] at h
    obtain ⟨own, -, hslot⟩ := bind_eq_ok_iff.mp h
    cases hslot
    exact ⟨some own, rfl⟩

theorem exists_strictView_iff (hslot : decryptCipherKey ctx key cipher.key = .ok slot) :
    (∃ full, StrictView ctx slot cipher full) ↔
      cipher.StrictPartsReadable (ctx.decryptIn slot) ctx.toLibraries := by
  constructor
  · rintro ⟨full, hfull⟩
    obtain ⟨name, hname, htext⟩ := hfull.name
    exact ⟨⟨name, _, hname, htext⟩, ⟨_, hfull.notes⟩, ⟨_, hfull.login⟩, ⟨_, hfull.identity⟩,
      ⟨_, hfull.card⟩, ⟨_, hfull.sshKey⟩, ⟨_, hfull.fields⟩⟩
  · intro hreadable
    obtain ⟨name, text, hname, htext⟩ := hreadable.name
    obtain ⟨notes, hnotes⟩ := hreadable.notes
    obtain ⟨login, hlogin⟩ := hreadable.login
    obtain ⟨identity, hidentity⟩ := hreadable.identity
    obtain ⟨card, hcard⟩ := hreadable.card
    obtain ⟨sshKey, hsshKey⟩ := hreadable.sshKey
    obtain ⟨fields, hfields⟩ := hreadable.fields
    obtain ⟨viewKey, hkey⟩ := exists_viewKey ctx hslot
    exact ⟨⟨cipher.toCipherMetadata, cipher.type, viewKey, text, notes, login, identity, card, _,
      sshKey, _, _, _, _, _, fields, _, _⟩, rfl, rfl, hkey, ⟨name, hname, htext⟩, hnotes, hlogin,
      hidentity, hcard, rfl, hsshKey, rfl, rfl, rfl, rfl, rfl, hfields, rfl, rfl⟩

variable {ctx}

def CipherView.HasPayload (view : CipherView SymmetricKey) : Prop :=
  match view.type with
  | .login => view.login.isSome
  | .secureNote => view.secureNote.isSome
  | .card => view.card.isSome
  | .identity => view.identity.isSome
  | .sshKey => view.sshKey.isSome
  | .bankAccount => view.bankAccount.isSome
  | .driversLicense => view.driversLicense.isSome
  | .passport => view.passport.isSome

theorem hasPayload_enforceChecksums {hasKey : Bool} {view : CipherView SymmetricKey} :
    (enforceChecksums ctx hasKey view).HasPayload ↔ view.HasPayload := by
  unfold enforceChecksums
  split
  next =>
    unfold CipherView.removeInvalidChecksums CipherView.HasPayload
    cases view.type <;> simp
  next => rfl

end

/-! ## Logins whose values are their texts -/

def plainContext : DecryptContext (Option String) Unit where
  sha256 bytes := bytes
  importKey _ := none
  parseDate _ := none
  formatDate _ := ""
  decrypt _ value := match value with
    | some text => .ok text
    | none => .error .decrypt
  unwrapSymmetricKey _ _ := .ok ()
  unsealWithWrappingKey _ _ _ := none
  fromOpaqueString _ := none
  parseRestricted _ := none
  securityStateVersion := 2

def sampleMetadata : CipherMetadata where
  id := some 1
  organizationId := some 2
  folderId := none
  collectionIds := []
  favorite := false
  reprompt := .none
  organizationUseTotp := false
  edit := true
  permissions := none
  viewPassword := true
  localData := none
  creationDate := 0
  deletedDate := none
  revisionDate := 0
  archivedDate := none

def bareLogin {Text : Type} : Login Text := ⟨none, none, none, none, none, none, none, none⟩

def bareItem {EncString : Type} : Cipher EncString :=
  { sampleMetadata with
    type := .login
    key := none, name := none, notes := none
    login := none, identity := none, card := none, secureNote := none, sshKey := none
    bankAccount := none, driversLicense := none, passport := none
    attachments := none, fields := none, passwordHistory := none, data := none
    partialData := none }

def loginWithHistory (entry : Option String) : Cipher (Option String) :=
  { bareItem with
    key := some none
    name := some (some "name")
    login := some
      { bareLogin with username := some (some "user"), password := some (some "new") }
    passwordHistory := some [⟨entry, 0⟩] }

def loginWithUri (checksum : Option String) : Cipher (Option String) :=
  { loginWithHistory (some "old") with
    login := some
      { bareLogin with
        username := some (some "user"), password := some (some "new")
        uris := some [⟨some (some "https://example.com"), none, checksum.map some⟩] } }

abbrev checkedLogin : Cipher (Option String) :=
  loginWithUri (some "aHR0cHM6Ly9leGFtcGxlLmNvbQ==")

end SdkInternal.Vault
