import Mathlib.Data.List.Nodup
import SdkInternal.Model.Vault.ListView
import SdkInternal.Verification.Vault.StrictDecryption

/-! # List views and views

The list view of a blob is the projection of its view. The list view of an item in the field-level
format is decrypted on its own, from fewer values and with less care for those that cannot be
read, so it is the projection of the item's view under a condition on the stored values only. -/

namespace SdkInternal.Vault

open Crypto Shared CipherView Success Except

/-! ## Values that decrypt and values that can be copied -/

section

variable {EncString α : Type}

def Readable (dec : EncString → Except CryptoError α) (value : Option EncString) : Prop :=
  ∃ text, traverse dec value = .ok text

variable {value : Option EncString}

theorem isSome_of_traverse_eq_ok {dec : EncString → Except CryptoError α} {text : Option α}
    (h : traverse dec value = .ok text) :
    text.isSome = value.isSome := by
  cases value with
  | none =>
    cases h
    rfl
  | some value =>
    obtain ⟨text, -, rfl⟩ := map_eq_ok_iff.mp h
    rfl

variable {dec : EncString → Except CryptoError String}

theorem Readable.traverse_eq (h : Readable dec value) :
    traverse dec value = .ok (decryptOrNone dec value) := by
  obtain ⟨text, htext⟩ := h
  rw [htext, decryptOrNone_of_ok htext]

theorem traverse_bind_eq_ok_iff {β : Type} {f : Option String → Except CryptoError β} {b : β} :
    (traverse dec value >>= f) = .ok b ↔
      Readable dec value ∧ f (decryptOrNone dec value) = .ok b := by
  rw [bind_eq_ok_iff]
  constructor
  · rintro ⟨text, htext, h⟩
    rw [← decryptOrNone_of_ok htext] at h
    exact ⟨⟨text, htext⟩, h⟩
  · rintro ⟨hreadable, h⟩
    exact ⟨_, hreadable.traverse_eq, h⟩

theorem required_some_bind {α β : Type} {a : α} {field : String} {f : α → Except CryptoError β} :
    (required (some a) field >>= f) = f a := rfl

theorem isSome_decryptOrNone_iff :
    value.isSome = (decryptOrNone dec value).isSome ↔ Readable dec value := by
  constructor
  · intro h
    cases value with
    | none => exact ⟨none, rfl⟩
    | some value =>
      cases htext : dec value with
      | error e =>
        have hmap : traverse dec (some value) = some <$> dec value := rfl
        rw [decryptOrNone, hmap, htext] at h
        cases h
      | ok text =>
        refine ⟨some text, ?_⟩
        exact congrArg (Functor.map some) htext
  · rintro ⟨text, htext⟩
    rw [decryptOrNone_of_ok htext, isSome_of_traverse_eq_ok htext]

theorem map_isSome_of_traverse_eq_ok {t : Type → Type} [Traversable t] [LawfulTraversable t]
    {record : t (Option EncString)} {view : t (Option String)}
    (h : traverse (traverse dec) record = .ok view) :
    Option.isSome <$> record = Option.isSome <$> view := by
  obtain ⟨successes, rfl, rfl⟩ := traverse_eq_ok_iff.mp h
  rw [← comp_map, ← comp_map]
  congr 1
  funext success
  exact (isSome_of_traverse_eq_ok success.eq_ok).symm

theorem mem_presentFields_iff (select : α → Bool) {fields : List (α × CopyableCipherFields)}
    (hnodup : (fields.map (·.2)).Nodup) {field : α × CopyableCipherFields}
    (hfield : field ∈ fields) :
    field.2 ∈ presentFields (fields.map fun field => (select field.1, field.2)) ↔
      select field.1 = true := by
  simp only [presentFields, List.mem_map, List.mem_filter]
  constructor
  · rintro ⟨_, ⟨⟨other, hother, rfl⟩, hselect⟩, htag⟩
    rwa [List.inj_on_of_nodup_map hnodup hother hfield htag] at hselect
  · exact fun hselect => ⟨_, ⟨⟨field, hfield, rfl⟩, hselect⟩, rfl⟩

/-- Two selections from the same fields are equal if and only if they agree on each field. -/
theorem presentFields_eq_iff (first second : α → Bool) (fields : List (α × CopyableCipherFields))
    (hnodup : (fields.map (·.2)).Nodup) :
    presentFields (fields.map fun field => (first field.1, field.2)) =
      presentFields (fields.map fun field => (second field.1, field.2)) ↔
    ∀ field ∈ fields, first field.1 = second field.1 := by
  constructor
  · intro h field hfield
    rw [Bool.eq_iff_iff, ← mem_presentFields_iff first hnodup hfield, h,
      mem_presentFields_iff second hnodup hfield]
  · intro h
    exact congrArg presentFields (List.map_congr_left fun field hfield => by rw [h field hfield])

theorem Card.getCopyableFields_of_ok {card : Card (Option EncString)}
    {view : Card (Option String)} (h : card.strictDecrypt dec = .ok view) :
    card.getCopyableFields = view.getCopyableFields := by
  have hpresent := map_isSome_of_traverse_eq_ok h
  have hnumber : card.number.isSome = view.number.isSome := congrArg Card.number hpresent
  have hcode : card.code.isSome = view.code.isSome := congrArg Card.code hpresent
  simp only [Card.getCopyableFields, hnumber, hcode]

theorem Identity.getCopyableFields_of_ok {identity : Identity (Option EncString)}
    {view : Identity (Option String)} (h : identity.strictDecrypt dec = .ok view) :
    identity.getCopyableFields = view.getCopyableFields := by
  have hpresent := map_isSome_of_traverse_eq_ok h
  injection hpresent
  simp only [Identity.getCopyableFields, *]

/-- The values that can be copied are those of the lenient view if and only if they decrypt. -/
theorem presentFields_decryptOrNone_iff (dec : EncString → Except CryptoError String)
    (fields : List (Option EncString × CopyableCipherFields)) (hnodup : (fields.map (·.2)).Nodup) :
    presentFields (fields.map fun field => (field.1.isSome, field.2)) =
      presentFields (fields.map fun field => ((decryptOrNone dec field.1).isSome, field.2)) ↔
    ∀ field ∈ fields, Readable dec field.1 := by
  rw [presentFields_eq_iff Option.isSome (fun value => (decryptOrNone dec value).isSome) fields
    hnodup]
  simp only [isSome_decryptOrNone_iff]

theorem BankAccount.getCopyableFields_decrypt_iff {account : BankAccount (Option EncString)} :
    account.getCopyableFields = (account.decrypt dec).getCopyableFields ↔
      Readable dec account.nameOnAccount ∧ Readable dec account.accountNumber ∧
      Readable dec account.routingNumber ∧ Readable dec account.branchNumber ∧
      Readable dec account.pin ∧ Readable dec account.iban ∧ Readable dec account.swiftCode := by
  have h := presentFields_decryptOrNone_iff dec
    [ (account.nameOnAccount, .bankAccountNameOnAccount),
      (account.accountNumber, .bankAccountAccountNumber),
      (account.routingNumber, .bankAccountRoutingNumber),
      (account.branchNumber, .bankAccountBranchNumber),
      (account.pin, .bankAccountPin),
      (account.iban, .bankAccountIban),
      (account.swiftCode, .bankAccountSwift) ] (by simp)
  exact h.trans (by simp)

variable {libs : Libraries}

theorem DriversLicense.getCopyableFields_decrypt_iff {license : DriversLicense (Option EncString)} :
    license.getCopyableFields = (license.decrypt dec libs).getCopyableFields ↔
      Readable dec license.firstName ∧ Readable dec license.middleName ∧
      Readable dec license.lastName ∧ Readable dec license.licenseNumber := by
  have h := presentFields_decryptOrNone_iff dec
    [ (license.firstName, .driversLicenseFirstName),
      (license.middleName, .driversLicenseMiddleName),
      (license.lastName, .driversLicenseLastName),
      (license.licenseNumber, .driversLicenseLicenseNumber) ] (by simp)
  exact h.trans (by simp)

theorem Passport.getCopyableFields_decrypt_iff {passport : Passport (Option EncString)} :
    passport.getCopyableFields = (passport.decrypt dec libs).getCopyableFields ↔
      Readable dec passport.givenName ∧ Readable dec passport.surname ∧
      Readable dec passport.passportNumber ∧
      Readable dec passport.nationalIdentificationNumber := by
  have h := presentFields_decryptOrNone_iff dec
    [ (passport.givenName, .passportGivenName),
      (passport.surname, .passportSurname),
      (passport.passportNumber, .passportPassportNumber),
      (passport.nationalIdentificationNumber, .passportNationalIdentificationNumber) ] (by simp)
  exact h.trans (by simp)

end

/-! ## Attachments -/

section

variable {EncString SymmetricKey : Type} {dec : EncString → Except CryptoError String}
  {unwrap : EncString → Except CryptoError SymmetricKey} (attachments : List (Attachment EncString))

/-- The views of all attachments, those that do not decrypt last. -/
def shownAttachments (dec : EncString → Except CryptoError String)
    (unwrap : EncString → Except CryptoError SymmetricKey) : List (AttachmentView SymmetricKey) :=
  (decryptAttachmentsWithFailures dec unwrap attachments).1 ++
    (decryptAttachmentsWithFailures dec unwrap attachments).2

theorem length_shownAttachments :
    (shownAttachments attachments dec unwrap).length = attachments.length := by
  simp only [shownAttachments, List.length_append]
  induction attachments with
  | nil => rfl
  | cons attachment attachments ih =>
    cases h : attachment.decrypt dec unwrap with
    | ok view | error e =>
      simp only [decryptAttachmentsWithFailures, h, List.length_cons]
      omega

theorem isNone_failureKey_iff {attachment : Attachment EncString} :
    (attachment.failure unwrap).key.isNone = true ↔
      attachment.key = none ∨ ¬Readable unwrap attachment.key := by
  cases hkey : attachment.key with
  | none => simp [Attachment.failure, hkey]
  | some wrapped =>
    have hmap : traverse unwrap (some wrapped) = some <$> unwrap wrapped := rfl
    cases hunwrap : unwrap wrapped <;>
      simp [Attachment.failure, Readable, hkey, hmap, hunwrap, Except.toOption]

/-- In a view, an attachment without a key is one that has none or whose key does not unwrap. -/
theorem any_isNone_shownAttachments_iff :
    (shownAttachments attachments dec unwrap).any (·.key.isNone) = true ↔
      ∃ attachment ∈ attachments, attachment.key = none ∨ ¬Readable unwrap attachment.key := by
  simp only [shownAttachments, List.any_append, Bool.or_eq_true]
  induction attachments with
  | nil => simp [decryptAttachmentsWithFailures]
  | cons attachment attachments ih =>
    simp only [List.exists_mem_cons_iff, ← ih]
    cases h : attachment.decrypt dec unwrap with
    | ok view =>
      obtain ⟨-, hkey, -⟩ := Attachment.decrypt_eq_ok_iff.mp h
      have hnone : view.key.isNone = true ↔
          attachment.key = none ∨ ¬Readable unwrap attachment.key := by
        have hreadable : Readable unwrap attachment.key := ⟨_, hkey⟩
        rw [← Option.not_isSome, isSome_of_traverse_eq_ok hkey]
        simp [hreadable]
      simp only [decryptAttachmentsWithFailures, h, List.any_cons, Bool.or_eq_true, hnone,
        or_assoc]
    | error e =>
      simp only [decryptAttachmentsWithFailures, h, List.any_cons, Bool.or_eq_true,
        isNone_failureKey_iff]
      tauto

/-- All names decrypt, and an attachment that has one decrypts as a whole. -/
def AttachmentNamesListed (dec : EncString → Except CryptoError String)
    (unwrap : EncString → Except CryptoError SymmetricKey)
    (attachments : List (Attachment EncString)) : Prop :=
  ∀ attachment ∈ attachments, Readable dec attachment.fileName ∧
    (attachment.fileName.isSome = true → Readable unwrap attachment.key)

variable {attachments : List (Attachment EncString)}

theorem filterMap_eq_filterMap_iff {α β : Type} {f g : α → Option β} {l : List α}
    (h : ∀ a ∈ l, ∀ b, g a = some b → f a = some b) :
    l.filterMap f = l.filterMap g ↔ ∀ a ∈ l, f a = g a := by
  refine ⟨?_, List.filterMap_congr⟩
  induction l with
  | nil => simp
  | cons a l ih =>
    rw [List.forall_mem_cons] at h ⊢
    intro heq
    cases hg : g a with
    | some b =>
      have hf := h.1 b hg
      rw [List.filterMap_cons_some hf, List.filterMap_cons_some hg] at heq
      exact ⟨hf, ih h.2 (List.cons.inj heq).2⟩
    | none =>
      cases hf : f a with
      | none =>
        rw [List.filterMap_cons_none hf, List.filterMap_cons_none hg] at heq
        exact ⟨rfl, ih h.2 heq⟩
      | some b =>
        -- The first list would be the longer one.
        have hle : l.countP (fun a => (g a).isSome) ≤ l.countP (fun a => (f a).isSome) := by
          refine List.countP_mono_left fun a ha hsome => ?_
          obtain ⟨b, hb⟩ := Option.isSome_iff_exists.mp hsome
          rw [h.2 a ha b hb]
          rfl
        have hlength := congrArg List.length heq
        rw [List.filterMap_cons_some hf, List.filterMap_cons_none hg, List.length_cons,
          List.length_filterMap_eq_countP, List.length_filterMap_eq_countP] at hlength
        omega

theorem filterMap_fileName :
    (decryptAttachmentsWithFailures dec unwrap attachments).1.filterMap (·.fileName) =
      attachments.filterMap fun attachment =>
        (attachment.decrypt dec unwrap).toOption.bind (·.fileName) := by
  induction attachments with
  | nil => rfl
  | cons attachment attachments ih =>
    cases h : attachment.decrypt dec unwrap <;>
      simp [decryptAttachmentsWithFailures, h, Except.toOption, List.filterMap_cons, ih]

theorem traverse_fileName_eq_ok_iff {names : List (Option String)} :
    traverse (fun attachment => traverse dec attachment.fileName) attachments = .ok names ↔
      (∀ attachment ∈ attachments, Readable dec attachment.fileName) ∧
        attachments.map (fun attachment => decryptOrNone dec attachment.fileName) = names := by
  induction attachments generalizing names with
  | nil => simp [pure_eq_ok_iff]
  | cons attachment attachments ih =>
    simp only [traverse_cons_eq_ok_iff, ih, List.forall_mem_cons, List.map_cons]
    constructor
    · rintro ⟨name, _, hname, ⟨hreadable, rfl⟩, rfl⟩
      exact ⟨⟨⟨name, hname⟩, hreadable⟩, by rw [decryptOrNone_of_ok hname]⟩
    · rintro ⟨⟨hname, hreadable⟩, rfl⟩
      exact ⟨_, _, hname.traverse_eq, ⟨hreadable, rfl⟩, rfl⟩

theorem attachmentNames_eq_iff :
    (∃ names, traverse (fun attachment => traverse dec attachment.fileName) attachments =
        .ok names ∧
      names.filterMap id =
        (decryptAttachmentsWithFailures dec unwrap attachments).1.filterMap (·.fileName)) ↔
    AttachmentNamesListed dec unwrap attachments := by
  simp only [traverse_fileName_eq_ok_iff, and_assoc, exists_and_left, exists_eq_left',
    List.filterMap_map, Function.id_comp, filterMap_fileName, AttachmentNamesListed, forall_and]
  refine and_congr_right fun hreadable => ?_
  rw [filterMap_eq_filterMap_iff]
  · refine forall₂_congr fun attachment hattachment => ?_
    have hname := (hreadable attachment hattachment).traverse_eq
    cases hview : attachment.decrypt dec unwrap with
    | ok view =>
      obtain ⟨hfileName, hkey, -⟩ := Attachment.decrypt_eq_ok_iff.mp hview
      exact iff_of_true (decryptOrNone_of_ok hfileName) (fun _ => ⟨_, hkey⟩)
    | error e =>
      have hunreadable : ¬Readable unwrap attachment.key := by
        rintro ⟨key, hkey⟩
        have hdecrypts : attachment.decrypt dec unwrap =
            .ok ⟨attachment.id, attachment.url, attachment.size, attachment.sizeName,
              decryptOrNone dec attachment.fileName, key⟩ :=
          Attachment.decrypt_eq_ok_iff.mpr ⟨hname, hkey, rfl, rfl, rfl, rfl⟩
        cases hview.symm.trans hdecrypts
      simp [Except.toOption, hunreadable, ← isSome_of_traverse_eq_ok hname]
  · intro attachment _ name hshown
    cases hview : attachment.decrypt dec unwrap with
    | error e => simp [hview, Except.toOption] at hshown
    | ok view =>
      rw [decryptOrNone_of_ok (Attachment.decrypt_eq_ok_iff.mp hview).1]
      simpa [hview, Except.toOption] using hshown

end

/-! ## The payload of the item's type -/

section

variable {EncString SymmetricKey : Type}

variable (dec : EncString → Except CryptoError String) (libs : Libraries)

/-- What a list view shows of the payload is what it shows of the view's. -/
@[mk_iff payloadListed_def]
structure PayloadListed (cipher : Cipher EncString) (view : CipherView SymmetricKey) : Prop where
  subtitle : cipher.decryptSubtitle dec libs = .ok view.subtitle
  type : ∃ type, cipher.strictListViewType dec = .ok type ∧ view.listViewType = .ok type
  copyable : cipher.getCopyableFields = view.getCopyableFields

/-- A stored fingerprint without a public key is the one derived from the private key. -/
def SshKey.Listable (sshKey : SshKey EncString) : Prop :=
  ∀ stored ∈ sshKey.fingerprint, sshKey.publicKey = none →
    ∀ privateKey, dec sshKey.privateKey = .ok privateKey →
      dec stored = .ok (derivePublicKeyAndFingerprint libs privateKey).2

/-- All values decrypt apart from the bank's phone number, which is not listed. -/
@[mk_iff]
structure BankAccount.Listable (account : BankAccount (Option EncString)) : Prop where
  bankName : Readable dec account.bankName
  nameOnAccount : Readable dec account.nameOnAccount
  accountType : Readable dec account.accountType
  accountNumber : Readable dec account.accountNumber
  routingNumber : Readable dec account.routingNumber
  branchNumber : Readable dec account.branchNumber
  pin : Readable dec account.pin
  swiftCode : Readable dec account.swiftCode
  iban : Readable dec account.iban

@[mk_iff]
structure DriversLicense.Listable (license : DriversLicense (Option EncString)) : Prop where
  firstName : Readable dec license.firstName
  middleName : Readable dec license.middleName
  lastName : Readable dec license.lastName
  licenseNumber : Readable dec license.licenseNumber
  issuingState : Readable dec license.issuingState

@[mk_iff]
structure Passport.Listable (passport : Passport (Option EncString)) : Prop where
  surname : Readable dec passport.surname
  givenName : Readable dec passport.givenName
  issuingCountry : Readable dec passport.issuingCountry
  passportNumber : Readable dec passport.passportNumber
  nationalIdentificationNumber : Readable dec passport.nationalIdentificationNumber

variable {dec libs} {cipher : Cipher EncString} {view : CipherView SymmetricKey}

/-- The values of a login, and what is listed of its passkeys, decrypt to those of the view. -/
structure LoginListed (dec : EncString → Except CryptoError String) (login : Login EncString)
    (view : Login String) : Prop extends LoginReadAs dec login view where
  listedCredentials :
    traverse (traverse (Fido2Credential.decryptListView dec)) login.fido2Credentials =
      .ok (view.fido2Credentials.map (·.map (·.toListView)))

theorem Fido2Credential.decryptListView_success (credential : Fido2Credential (Success dec)) :
    (argument <$> credential).decryptListView dec =
      .ok (result <$> credential).toListView := by
  simp only [Fido2Credential.decryptListView, bind_eq_ok_iff, pure_eq_ok_iff]
  exact ⟨_, credential.credentialId.eq_ok, _, credential.rpId.eq_ok,
    _, traverse_map_ok eq_ok credential.userHandle,
    _, traverse_map_ok eq_ok credential.userName,
    _, traverse_map_ok eq_ok credential.userDisplayName,
    _, credential.counter.eq_ok, rfl⟩

variable {login : Login EncString}

theorem loginListed_of_ok {view : Login String} (h : login.strictDecrypt dec = .ok view) :
    LoginListed dec login view := by
  refine ⟨loginReadAs_of_ok h, ?_⟩
  obtain ⟨successes, rfl, rfl⟩ := traverse_eq_ok_iff.mp h
  have hlisted := traverse_map_ok (traverse_map_ok Fido2Credential.decryptListView_success)
    successes.fido2Credentials
  have hviews : (result <$> successes).fido2Credentials =
      successes.fido2Credentials.map (·.map (result <$> ·)) := rfl
  rw [hviews, Option.map_map]
  refine hlisted.trans ?_
  simp only [Option.map_eq_map, Function.comp_def, List.map_map]
  rfl

theorem payloadListed_login_iff (htype : cipher.type = .login) (hviewType : view.type = .login)
    {loginView : Login String} {enforced : Bool} (hlogin : cipher.login = some login)
    (hview : view.login =
      some (if enforced then loginView.removeInvalidChecksums libs else loginView))
    (h : LoginListed dec login loginView) :
    PayloadListed dec libs cipher view ↔
      (enforced = true → ∀ uris ∈ loginView.uris, ∀ uri ∈ uris, uri.isChecksumValid libs) := by
  obtain ⟨shown, hshown⟩ : ∃ shown, shown = if enforced then loginView.uris.map
      (·.filter (·.isChecksumValid libs)) else loginView.uris := ⟨_, rfl⟩
  have hview : view.login = some { loginView with uris := shown } := by
    rw [hview, hshown]
    cases enforced <;> rfl
  have hlisted : login.strictDecryptListView dec = .ok loginView.toListView := by
    simp only [Login.strictDecryptListView, bind_eq_ok_iff, pure_eq_ok_iff]
    refine ⟨_, h.listedCredentials, _, h.username, _, h.totp, _, h.uris, ?_⟩
    rw [← isSome_of_traverse_eq_ok h.fido2Credentials]
    rfl
  have hsame : PayloadListed dec libs cipher view ↔ shown = loginView.uris := by
    rw [payloadListed_def]
    simp only [Cipher.decryptSubtitle, subtitle, Cipher.strictListViewType, listViewType,
      Cipher.getCopyableFields, getCopyableFields, htype, hviewType, hlogin, hview,
      required_some_bind, bind_eq_ok_iff, pure_eq_ok_iff, hlisted, ok.injEq, exists_eq_left']
    constructor
    · rintro ⟨-, heq, -⟩
      injection heq with heq
      exact congrArg LoginListView.uris heq
    · rintro rfl
      refine ⟨⟨_, h.username, rfl⟩, rfl, ?_⟩
      simp [Login.getCopyableFields, isSome_of_traverse_eq_ok h.username,
        isSome_of_traverse_eq_ok h.password, isSome_of_traverse_eq_ok h.totp]
  rw [hsame, hshown]
  cases enforced with
  | false => simp
  | true =>
    cases loginView.uris with
    | none => simp
    | some uris => simp [List.filter_eq_self]

theorem payloadListed_secureNote (htype : cipher.type = .secureNote)
    (hviewType : view.type = .secureNote) (hpresent : cipher.secureNote.isSome)
    (hnotes : traverse dec cipher.notes = .ok view.notes) : PayloadListed dec libs cipher view := by
  obtain ⟨note, hnote⟩ := Option.isSome_iff_exists.mp hpresent
  refine ⟨?_, ⟨.secureNote, ?_, ?_⟩, ?_⟩
  · simp [Cipher.decryptSubtitle, subtitle, htype, hviewType]
  · simp [Cipher.strictListViewType, htype, pure_eq_ok_iff]
  · simp [listViewType, hviewType, pure_eq_ok_iff]
  · simp [Cipher.getCopyableFields, getCopyableFields, htype, hviewType, hnote,
      isSome_of_traverse_eq_ok hnotes]

theorem payloadListed_card (htype : cipher.type = .card) (hviewType : view.type = .card)
    {card : Card (Option EncString)} {cardView : Card (Option String)}
    (hcard : cipher.card = some card) (hview : view.card = some cardView)
    (h : card.strictDecrypt dec = .ok cardView) : PayloadListed dec libs cipher view := by
  have hcopyable := Card.getCopyableFields_of_ok h
  obtain ⟨successes, rfl, rfl⟩ := traverse_eq_ok_iff.mp h
  have hbrand := successes.brand.eq_ok
  have hnumber := successes.number.eq_ok
  rw [payloadListed_def]
  simp only [Cipher.decryptSubtitle, subtitle, Cipher.strictListViewType,
    listViewType, Cipher.getCopyableFields, getCopyableFields, htype,
    hviewType, hcard, hview, required_some_bind, bind_eq_ok_iff, pure_eq_ok_iff]
  exact ⟨⟨_, hbrand, _, hnumber, rfl⟩, ⟨_, ⟨_, hbrand, rfl⟩, rfl⟩, hcopyable⟩

theorem payloadListed_identity (htype : cipher.type = .identity)
    (hviewType : view.type = .identity) {identity : Identity (Option EncString)}
    {identityView : Identity (Option String)} (hidentity : cipher.identity = some identity)
    (hview : view.identity = some identityView)
    (h : identity.strictDecrypt dec = .ok identityView) : PayloadListed dec libs cipher view := by
  have hcopyable := Identity.getCopyableFields_of_ok h
  obtain ⟨successes, rfl, rfl⟩ := traverse_eq_ok_iff.mp h
  have hfirst := successes.firstName.eq_ok
  have hlast := successes.lastName.eq_ok
  rw [payloadListed_def]
  simp only [Cipher.decryptSubtitle, subtitle, Cipher.strictListViewType,
    listViewType, Cipher.getCopyableFields, getCopyableFields, htype,
    hviewType, hidentity, hview, bind_eq_ok_iff, pure_eq_ok_iff]
  exact ⟨⟨_, hfirst, _, hlast, rfl⟩, ⟨_, rfl, rfl⟩, hcopyable⟩

theorem payloadListed_sshKey_iff (htype : cipher.type = .sshKey) (hviewType : view.type = .sshKey)
    {sshKey : SshKey EncString} {sshKeyView : SshKeyView} (hsshKey : cipher.sshKey = some sshKey)
    (hview : view.sshKey = some sshKeyView) (h : sshKey.decrypt dec libs = .ok sshKeyView) :
    PayloadListed dec libs cipher view ↔ sshKey.Listable dec libs := by
  have hlisted : PayloadListed dec libs cipher view ↔
      sshKey.decryptSubtitle dec libs = .ok sshKeyView.fingerprint := by
    rw [payloadListed_def]
    simp only [Cipher.decryptSubtitle, subtitle, Cipher.strictListViewType, listViewType,
      Cipher.getCopyableFields, getCopyableFields, htype, hviewType, hsshKey, hview, pure_eq_ok_iff]
    exact and_iff_left ⟨⟨_, rfl, rfl⟩, rfl⟩
  rw [hlisted]
  obtain ⟨privateKey, publicKey, fingerprint⟩ := sshKey
  simp only [SshKey.decrypt, bind_eq_ok_iff] at h
  obtain ⟨decrypted, hprivate, h⟩ := h
  simp only [SshKey.decryptSubtitle, SshKey.Listable]
  cases fingerprint with
  | none =>
    have h : SshKeyView.mk decrypted (derivePublicKeyAndFingerprint libs decrypted).1
        (derivePublicKeyAndFingerprint libs decrypted).2 = sshKeyView := by
      cases publicKey <;> exact ok.inj h
    simp [hprivate, ← h]
  | some fingerprint =>
    cases publicKey with
    | none =>
      cases h
      simp [hprivate]
    | some publicKey =>
      simp only [bind_eq_ok_iff] at h
      obtain ⟨_, _, _, hfingerprint, h⟩ := h
      cases h
      simp [hfingerprint]

end

/-! ## List views of items -/

section

variable {EncString SymmetricKey : Type} (ctx : DecryptContext EncString SymmetricKey)
  (slot : KeySlot SymmetricKey)

/-- The stored values of the payload that are shown in a list view are the ones that the view
shows. -/
def Cipher.PayloadListable (cipher : Cipher EncString) : Prop :=
  match cipher.type with
  | .login => checksumsEnforced ctx cipher.key.isSome = true →
      ∀ login ∈ cipher.login, ∀ uris,
        traverse (decryptUris (ctx.decryptIn slot)) login.uris = .ok (some uris) →
        ∀ uri ∈ uris, uri.isChecksumValid ctx.toLibraries
  | .sshKey =>
    ∀ sshKey ∈ cipher.sshKey, sshKey.Listable (ctx.decryptIn slot) ctx.toLibraries
  | .bankAccount => ∀ account ∈ cipher.bankAccount, account.Listable (ctx.decryptIn slot)
  | .driversLicense =>
    ∀ license ∈ cipher.driversLicense, license.Listable (ctx.decryptIn slot)
  | .passport => ∀ passport ∈ cipher.passport, passport.Listable (ctx.decryptIn slot)
  | .secureNote | .card | .identity => True

/-- The same for all that a list view shows. -/
structure Cipher.Listable (web : Bool) (cipher : Cipher EncString) : Prop where
  payload : cipher.PayloadListable ctx slot
  oldAttachments : (∃ attachment ∈ cipher.attachments.getD [], attachment.key = none) ∨
    ∀ attachment ∈ cipher.attachments.getD [], Readable (ctx.unwrapIn slot) attachment.key
  attachmentNames : web = true → ∃ attachments, cipher.attachments = some attachments ∧
    AttachmentNamesListed (ctx.decryptIn slot) (ctx.unwrapIn slot) attachments

variable {ctx}

theorem enforceChecksums_eq (ctx : DecryptContext EncString SymmetricKey) (hasKey : Bool)
    (view : CipherView SymmetricKey) :
    enforceChecksums ctx hasKey view =
      { view with
        login := view.login.map fun login =>
          if checksumsEnforced ctx hasKey then login.removeInvalidChecksums ctx.toLibraries
          else login } := by
  unfold enforceChecksums
  split
  · rfl
  · simp

variable {slot : KeySlot SymmetricKey} {full : CipherView SymmetricKey} {cipher : Cipher EncString}

theorem payloadListed_iff (hfull : StrictView ctx slot cipher full) (hpayload : full.HasPayload) :
    PayloadListed (ctx.decryptIn slot) ctx.toLibraries cipher
      (enforceChecksums ctx cipher.key.isSome full) ↔ cipher.PayloadListable ctx slot := by
  have hview := enforceChecksums_eq ctx cipher.key.isSome full
  generalize enforceChecksums ctx cipher.key.isSome full = view at hview
  cases htype : cipher.type
  all_goals
    have hfullType := hfull.type.trans htype
    have hviewType := (congrArg type hview).trans hfullType
    simp only [CipherView.HasPayload, hfullType] at hpayload
    simp only [Cipher.PayloadListable, htype]
  case login =>
    obtain ⟨login, loginView, hlogin, hloginView, hdecrypted⟩ :=
      exists_of_traverse_eq_ok hfull.login hpayload
    have hlisted := loginListed_of_ok hdecrypted
    rw [payloadListed_login_iff htype hviewType hlogin (by rw [hview, hloginView]; rfl) hlisted]
    simp [hlogin, hlisted.uris]
  case secureNote =>
    rw [hfull.secureNote] at hpayload
    exact iff_of_true (payloadListed_secureNote htype hviewType hpayload
      (by rw [hview]; exact hfull.notes)) trivial
  case card =>
    obtain ⟨card, cardView, hcard, hcardView, hdecrypted⟩ :=
      exists_of_traverse_eq_ok hfull.card hpayload
    exact iff_of_true (payloadListed_card htype hviewType hcard (by rw [hview]; exact hcardView)
      hdecrypted) trivial
  case identity =>
    obtain ⟨identity, identityView, hidentity, hidentityView, hdecrypted⟩ :=
      exists_of_traverse_eq_ok hfull.identity hpayload
    exact iff_of_true (payloadListed_identity htype hviewType hidentity
      (by rw [hview]; exact hidentityView) hdecrypted) trivial
  case sshKey =>
    obtain ⟨sshKey, sshKeyView, hsshKey, hsshKeyView, hdecrypted⟩ :=
      exists_of_traverse_eq_ok hfull.sshKey hpayload
    rw [payloadListed_sshKey_iff htype hviewType hsshKey (by rw [hview]; exact hsshKeyView)
      hdecrypted]
    simp [hsshKey]
  case bankAccount | driversLicense | passport =>
    have hshown : view.bankAccount = full.bankAccount ∧
        view.driversLicense = full.driversLicense ∧ view.passport = full.passport := by
      rw [hview]
      exact ⟨rfl, rfl, rfl⟩
    simp only [hfull.bankAccount, hfull.driversLicense, hfull.passport, Option.isSome_map]
      at hpayload hshown
    obtain ⟨stored, hstored⟩ := Option.isSome_iff_exists.mp hpayload
    rw [payloadListed_def]
    simp only [Cipher.decryptSubtitle, subtitle, Cipher.strictListViewType, listViewType,
      Cipher.getCopyableFields, getCopyableFields, htype, hviewType, hstored, hshown,
      required_some_bind, traverse_bind_eq_ok_iff, pure_eq_ok_iff, Option.map_some,
      Option.getD_some, BankAccount.getCopyableFields_decrypt_iff, BankAccount.listable_iff,
      DriversLicense.getCopyableFields_decrypt_iff, DriversLicense.listable_iff,
      Passport.getCopyableFields_decrypt_iff, Passport.listable_iff, Option.mem_some_iff,
      forall_eq']
    tauto

/-- The old attachments are those without a key, or those whose key does not unwrap. -/
theorem hasOldAttachments_eq_iff {attachments : List (Attachment EncString)} :
    attachments.any (·.key.isNone) =
      (shownAttachments attachments (ctx.decryptIn slot) (ctx.unwrapIn slot)).any
        (·.key.isNone) ↔
    (∃ attachment ∈ attachments, attachment.key = none) ∨
      ∀ attachment ∈ attachments, Readable (ctx.unwrapIn slot) attachment.key := by
  have hlisted : attachments.any (·.key.isNone) = true ↔
      ∃ attachment ∈ attachments, attachment.key = none := by
    simp
  rw [Bool.eq_iff_iff, hlisted, any_isNone_shownAttachments_iff]
  simp only [and_or_left, exists_or, iff_self_or]
  constructor
  · intro h
    by_cases hreadable : ∀ attachment ∈ attachments, Readable (ctx.unwrapIn slot) attachment.key
    · exact .inr hreadable
    · exact .inl (h (by simpa using hreadable))
  · rintro (hold | hreadable) ⟨attachment, hmem, hunreadable⟩
    · exact hold
    · exact absurd (hreadable attachment hmem) hunreadable

/-- The names in a list view are those of the view if and only if there is a list of attachments
and its names are listed. -/
theorem listedNames_eq_iff {attachments : Option (List (Attachment EncString))} :
    (∃ names, traverse (traverse fun attachment =>
        traverse (ctx.decryptIn slot) attachment.fileName) attachments = .ok names ∧
      names.map (·.filterMap id) = some ((decryptAttachmentsWithFailures (ctx.decryptIn slot)
        (ctx.unwrapIn slot) (attachments.getD [])).1.filterMap (·.fileName))) ↔
    ∃ stored, attachments = some stored ∧
      AttachmentNamesListed (ctx.decryptIn slot) (ctx.unwrapIn slot) stored := by
  cases attachments with
  | none =>
    constructor
    · rintro ⟨names, hnames, heq⟩
      cases hnames
      cases heq
    · rintro ⟨stored, hstored, -⟩
      cases hstored
  | some attachments =>
    simp only [Option.some.injEq, exists_eq_left', Option.getD_some, ← attachmentNames_eq_iff]
    constructor
    · rintro ⟨names, hnames, heq⟩
      obtain ⟨decrypted, hdecrypted, rfl⟩ := map_eq_ok_iff.mp hnames
      exact ⟨decrypted, hdecrypted, Option.some.inj heq⟩
    · rintro ⟨names, hnames, heq⟩
      exact ⟨some names, map_eq_ok_iff.mpr ⟨names, hnames, rfl⟩, congrArg some heq⟩

theorem listViews_eq_iff {key : KeySlot SymmetricKey} {web : Bool}
    (hslot : decryptCipherKey ctx key cipher.key = .ok slot)
    (hfull : StrictView ctx slot cipher full) (hpayload : full.HasPayload) :
    (∃ list, strictDecryptCipherListView ctx key web cipher = .ok list ∧
      (enforceChecksums ctx cipher.key.isSome full).toListView web = .ok list) ↔
    cipher.Listable ctx slot web := by
  have hlistable := payloadListed_iff hfull hpayload
  have hview := enforceChecksums_eq ctx cipher.key.isSome full
  generalize enforceChecksums ctx cipher.key.isSome full = view at hview hlistable ⊢
  have hname : view.name = full.name := by rw [hview]
  have hnotes : view.notes = full.notes := by rw [hview]
  have hfields : view.fields = full.fields := by rw [hview]
  have hmetadata := (congrArg toCipherMetadata hview).trans hfull.metadata
  have hattachments := (congrArg attachments hview).trans hfull.attachments
  have hfailures := (congrArg attachmentDecryptionFailures hview).trans
    hfull.attachmentDecryptionFailures
  obtain ⟨name, hstoredName, hdecryptedName⟩ := hfull.name
  have hold : view.allAttachments = shownAttachments (cipher.attachments.getD [])
      (ctx.decryptIn slot) (ctx.unwrapIn slot) := by
    simp [allAttachments, shownAttachments, hattachments, hfailures]
  have hcount : view.allAttachments.length = (cipher.attachments.getD []).length := by
    rw [hold, length_shownAttachments]
  simp only [strictDecryptCipherListView, toListView, bind_eq_ok_iff, pure_eq_ok_iff,
    required_eq_ok_iff, hslot, hstoredName, hdecryptedName, ok.injEq, Option.some.injEq,
    exists_eq_left']
  constructor
  · rintro ⟨list, ⟨subtitle, hsubtitle, type, htype, _, -, _, -, names, hnames, rfl⟩, type', htype',
      hlist⟩
    simp only [CipherListView.mk.injEq] at hlist
    obtain ⟨-, -, rfl, rfl, -, hsameOld, hcopyable, -, -, -, hsameNames⟩ := hlist
    refine ⟨hlistable.mp ⟨hsubtitle, ⟨_, htype, htype'⟩, hcopyable.symm⟩, ?_, ?_⟩
    · rw [hold] at hsameOld
      exact hasOldAttachments_eq_iff.mp hsameOld.symm
    · rintro rfl
      rw [hattachments] at hsameNames
      exact listedNames_eq_iff.mp ⟨names, hnames, hsameNames.symm⟩
  · intro h
    obtain ⟨hsubtitle, ⟨type, htype, htype'⟩, hcopyable⟩ := hlistable.mpr h.payload
    have hsameOld := hasOldAttachments_eq_iff.mpr h.oldAttachments
    rw [← hold] at hsameOld
    obtain ⟨names, hnames, hsameNames⟩ : ∃ names, onWeb web (traverse (traverse fun attachment =>
        traverse (ctx.decryptIn slot) attachment.fileName) cipher.attachments) = .ok names ∧
        names.map (·.filterMap id) =
          if web then view.attachments.map (·.filterMap (·.fileName)) else none := by
      cases web with
      | false => exact ⟨none, rfl, rfl⟩
      | true =>
        obtain ⟨names, hnames, hsame⟩ := listedNames_eq_iff.mpr (h.attachmentNames rfl)
        exact ⟨names, hnames, by simpa [hattachments] using hsame⟩
    refine ⟨_, ⟨_, hsubtitle, _, htype, if web then full.notes else none, ?_,
      if web then full.fields else none, ?_, names, hnames, rfl⟩, type, htype', ?_⟩
    · cases web with
      | false => rfl
      | true => exact hfull.notes
    · cases web with
      | false => rfl
      | true => exact hfull.fields
    · rw [hsameNames, hsameOld, hcopyable, hcount, hname, hnotes, hfields, hmetadata]
      cases web <;> rfl

theorem exists_toListView_of_hasPayload {view : CipherView SymmetricKey} (web : Bool)
    (h : view.HasPayload) : ∃ list, view.toListView web = .ok list := by
  obtain ⟨type, htype⟩ : ∃ type, view.listViewType = .ok type := by
    cases htype : view.type
    case login | card | bankAccount =>
      simp only [CipherView.HasPayload, htype] at h
      obtain ⟨payload, hpayload⟩ := Option.isSome_iff_exists.mp h
      simp only [listViewType, htype, hpayload]
      exact ⟨_, rfl⟩
    all_goals
      simp only [listViewType, htype]
      exact ⟨_, rfl⟩
  refine ⟨_, bind_eq_ok_iff.mpr ⟨type, htype, rfl⟩⟩

/-- If strict decryption gives a view with the payload of its type, then the list view is given as
well and is the projection of the view, if and only if the item is a blob or its stored values are
listable. -/
theorem strictListView_eq_projection_iff (ctx : DecryptContext EncString SymmetricKey)
    (key : KeySlot SymmetricKey) (web : Bool) {cipher : Cipher EncString}
    {view : CipherView SymmetricKey} (hunrestricted : cipher.partialData = none)
    (hview : cipher.strictDecrypt ctx key = .ok view) (hpayload : view.HasPayload) :
    (∃ list, cipher.strictDecryptToListView ctx key web = .ok list ∧
      view.toListView web = .ok list) ↔
    (tryParseBlob ctx cipher = none →
      ∀ slot, decryptCipherKey ctx key cipher.key = .ok slot → cipher.Listable ctx slot web) := by
  cases hblob : tryParseBlob ctx cipher with
  | some sealedBlob =>
    have hdecrypted : decryptBlobCipher ctx key cipher sealedBlob = .ok view := by
      simpa [Cipher.strictDecrypt, Cipher.decryptWith, hunrestricted, hblob] using hview
    have hlist : cipher.strictDecryptToListView ctx key web = view.toListView web := by
      simp only [Cipher.strictDecryptToListView, hunrestricted, hblob, hdecrypted]
      rfl
    obtain ⟨list, hprojection⟩ := exists_toListView_of_hasPayload web hpayload
    rw [hlist]
    simp [hprojection]
  | none =>
    have hdecrypted : strictDecryptCipherView ctx key cipher = .ok view := by
      simpa [Cipher.strictDecrypt, Cipher.decryptWith, hunrestricted, hblob] using hview
    have hlist : cipher.strictDecryptToListView ctx key web =
        strictDecryptCipherListView ctx key web cipher := by
      simp only [Cipher.strictDecryptToListView, hunrestricted, hblob]
    obtain ⟨slot, full, hslot, hfull, rfl⟩ := (strictDecryptCipherView_eq_ok_iff ctx).mp hdecrypted
    rw [hlist, listViews_eq_iff hslot hfull (hasPayload_enforceChecksums.mp hpayload)]
    simp [hslot]

end

/-! ## A uri that is rejected and listed -/

theorem loginWithUri_listed :
    ∃ view list,
      checkedLogin.strictDecrypt plainContext (.ok ()) = .ok view ∧
      checkedLogin.strictDecryptToListView plainContext (.ok ()) false = .ok list ∧
      view.toListView false = .ok list ∧ list.subtitle = "user" := by
  have hunrestricted : checkedLogin.partialData = none := rfl
  have hlisted := (strictListView_eq_projection_iff plainContext (.ok ()) false hunrestricted rfl
    rfl).mpr (by
      intro _ slot hslot
      cases hslot
      refine ⟨?_, .inr (by simp [loginWithUri, loginWithHistory, bareItem]), by simp⟩
      rintro - login ⟨⟩ uris ⟨⟩ uri huri
      cases List.mem_singleton.mp huri
      decide +kernel)
  obtain ⟨list, hlist, hprojection⟩ := hlisted
  refine ⟨_, list, rfl, hlist, hprojection, ?_⟩
  cases hlist
  rfl

theorem listView_shows_rejected_uri :
    ∃ view list login listed, (loginWithUri none).strictDecrypt plainContext (.ok ()) = .ok view ∧
      view.HasPayload ∧
      (loginWithUri none).strictDecryptToListView plainContext (.ok ()) false = .ok list ∧
      view.toListView false ≠ .ok list ∧
      view.login = some login ∧ login.uris = some [] ∧
      list.type = .login listed ∧
      listed.uris = some [⟨some "https://example.com", none, none⟩] := by
  refine ⟨_, _, _, _, rfl, rfl, rfl, ?_, rfl, rfl, rfl, rfl⟩
  intro h
  injection h with h
  have htype := congrArg CipherListView.type h
  injection htype with htype
  have huris := congrArg LoginListView.uris htype
  cases huris

end SdkInternal.Vault
