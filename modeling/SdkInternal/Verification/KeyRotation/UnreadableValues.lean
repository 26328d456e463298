import SdkInternal.Verification.KeyRotation.CarriedOver
import SdkInternal.Verification.Vault.RestrictedViews

/-! # Values that a rotation cannot read

The rotation reads views, which leave out what cannot be read. It fails if the key of an item or of
a send cannot be read, if the contents of a sealed item without a key cannot, or if the payload of
an item is missing. Every other value that cannot be read is lost. -/

namespace SdkInternal.KeyRotation

open Crypto Shared Vault Sends

variable {EncString SymmetricKey Random : Type}

/-! ## Readable data -/

section

/-- All encrypted values of an item in the field-level format decrypt. -/
structure ValuesDecrypt (dec : EncString → Except CryptoError String)
    (unwrap : EncString → Except CryptoError SymmetricKey) (cipher : Cipher EncString) : Prop where
  name : ∃ name, traverse dec cipher.name = .ok name
  notes : ∃ notes, traverse dec cipher.notes = .ok notes
  login : ∃ login, traverse (traverse dec) cipher.login = .ok login
  identity : ∃ identity, traverse (traverse (traverse dec)) cipher.identity = .ok identity
  card : ∃ card, traverse (traverse (traverse dec)) cipher.card = .ok card
  sshKey : ∀ sshKey ∈ cipher.sshKey, (∃ privateKey, dec sshKey.privateKey = .ok privateKey) ∧
    (∃ publicKey, traverse dec sshKey.publicKey = .ok publicKey) ∧
    ∃ fingerprint, traverse dec sshKey.fingerprint = .ok fingerprint
  bankAccount : ∃ account, traverse (traverse (traverse dec)) cipher.bankAccount = .ok account
  driversLicense : ∃ license, traverse (traverse (traverse dec)) cipher.driversLicense = .ok license
  passport : ∃ passport, traverse (traverse (traverse dec)) cipher.passport = .ok passport
  fields : ∃ fields, traverse (traverse (traverse (traverse dec))) cipher.fields = .ok fields
  passwordHistory : ∃ history, traverse (traverse (traverse dec)) cipher.passwordHistory =
    .ok history
  attachments : ∃ attachments,
    traverse (traverse (Attachment.decrypt dec unwrap)) cipher.attachments = .ok attachments

variable (ctx : DecryptContext EncString SymmetricKey)

/-- The contents of a sealed item open, and its attachments decrypt. -/
structure SealedDecrypts (slot : KeySlot SymmetricKey) (cipher : Cipher EncString)
    (sealedBlob : SealedCipherBlob EncString) : Prop where
  contents : ∃ blob, sealedBlob.unseal ctx slot = .ok blob
  attachments : ∃ attachments, traverse
    (traverse (Attachment.decrypt (ctx.decryptIn slot) (ctx.unwrapIn slot))) cipher.attachments =
      .ok attachments

def CipherDecrypts (key : KeySlot SymmetricKey) (cipher : Cipher EncString) : Prop :=
  ∃ slot, decryptCipherKey ctx key cipher.key = .ok slot ∧
    match tryParseBlob ctx cipher with
    | some sealedBlob => SealedDecrypts ctx slot cipher sealedBlob
    | none => ValuesDecrypt (ctx.decryptIn slot) (ctx.unwrapIn slot) cipher

variable (ctx : SendContext EncString SymmetricKey Random) (key : KeySlot SymmetricKey)

def SendKeyDecrypts (send : Send EncString) (sendKey : SymmetricKey) : Prop :=
  ∃ k, ctx.decryptBytesIn key send.key = .ok k ∧ deriveSendKey ctx k = .ok sendKey

structure SendContentsDecrypt (sendKey : SymmetricKey) (send : Send EncString) : Prop where
  name : ∃ name, ctx.decrypt sendKey send.name = .ok name
  notes : ∃ notes, traverse (ctx.decrypt sendKey) send.notes = .ok notes
  file : ∃ file, traverse (SendFile.decrypt (ctx.decrypt sendKey)) send.file = .ok file
  text : ∃ text, traverse (SendText.decrypt (ctx.decrypt sendKey)) send.text = .ok text
  data : ∃ data, traverse (SendItem.decrypt ctx (.ok sendKey)) send.data = .ok data

structure DataDecrypts (folders : List (Folder EncString)) (ciphers : List (Cipher EncString))
    (sends : List (Send EncString)) : Prop where
  folders : ∀ folder ∈ folders, ∃ name, ctx.decryptIn key folder.name = .ok name
  ciphers : ∀ cipher ∈ ciphers, CipherDecrypts ctx.toDecryptContext key cipher
  sends : ∀ send ∈ sends, ∃ sendKey, SendKeyDecrypts ctx key send sendKey ∧
    SendContentsDecrypt ctx sendKey send

end

/-! ## What the rotation requires -/

section

/-- The payload of the item's type is present. An SSH key is readable as well. -/
def PayloadReads (dec : EncString → Except CryptoError String) (libs : Libraries)
    (cipher : Cipher EncString) : Prop :=
  match cipher.type with
  | .login => cipher.login.isSome
  | .card => cipher.card.isSome
  | .identity => cipher.identity.isSome
  | .secureNote => cipher.secureNote.isSome
  | .sshKey => ∃ sshKey view, cipher.sshKey = some sshKey ∧ sshKey.decrypt dec libs = .ok view
  | .bankAccount => cipher.bankAccount.isSome
  | .driversLicense => cipher.driversLicense.isSome
  | .passport => cipher.passport.isSome

variable (ctx : DecryptContext EncString SymmetricKey)

def ContentsRead (slot : KeySlot SymmetricKey) (cipher : Cipher EncString) : Prop :=
  match tryParseBlob ctx cipher with
  | some sealedBlob => ∃ blob, sealedBlob.unseal ctx slot = .ok blob
  | none => PayloadReads (ctx.decryptIn slot) ctx.toLibraries cipher

/-- What the rotation reads of an item, so that it fails otherwise. The contents of a sealed item
with a key of its own are not read. -/
structure CipherPasses (key : KeySlot SymmetricKey) (cipher : Cipher EncString) : Prop where
  id : cipher.id.isSome
  contents : ∃ slot, decryptCipherKey ctx key cipher.key = .ok slot ∧
    (cipher.isBlobEncrypted ctx ∧ cipher.key.isSome ∨
      cipher.partialData = none ∧ ContentsRead ctx slot cipher)

end

/-! ## Sealing a view -/

variable (view : CipherView SymmetricKey)

def Sealable : Prop :=
  view.isPartial = false ∧ view.HasPayload

variable {view : CipherView SymmetricKey} {libs : Libraries}

theorem exists_fromCipherView_iff :
    (∃ blob, CipherBlobV1.fromCipherView libs view = .ok blob) ↔ view.HasPayload := by
  simp only [CipherBlobV1.fromCipherView, bind_eq_ok_iff, pure_eq_ok_iff, CipherView.HasPayload]
  cases htype : view.type <;>
    simp [CipherTypeDataV1.fromView, htype, map_eq_ok_iff, required_eq_ok_iff,
      Option.isSome_iff_exists]

theorem hasPayload_applyToCipherView (libs : Libraries) (blob : CipherBlobV1)
    (base : CipherView SymmetricKey) : (blob.applyToCipherView libs base).HasPayload := by
  obtain ⟨name, notes, typeData, fields, history⟩ := blob
  cases typeData <;> rfl

/-- Under a key that is in the store, encryption does not fail. -/
structure Total (ctx : SendContext EncString SymmetricKey Random) : Prop extends
    ctx.toEncryptContext.Total where
  encryptBytes : ∀ key bytes, Succeeds (ctx.encryptBytes key bytes)
  sealWithWrappingKey : ∀ key blob random, (ctx.sealWithWrappingKey key blob random).isSome

section Sealing

variable {ctx : SendContext EncString SymmetricKey Random} {view : CipherView SymmetricKey}

theorem Total.sealBlobContent (htotal : Total ctx) (blob : CipherBlobV1) (key : SymmetricKey) :
    Succeeds (Vault.sealBlobContent ctx.toEncryptContext blob key) := by
  intro random
  obtain ⟨⟨⟨envelope, cek⟩, random'⟩, hseal⟩ :=
    Option.isSome_iff_exists.mp (htotal.sealWithWrappingKey key blob random)
  simp [Vault.sealBlobContent, hseal]

theorem Total.encryptBlob (htotal : Total ctx) (hview : Sealable view) (key : SymmetricKey) :
    Succeeds (encryptBlobCipherWithWrappingKey ctx.toEncryptContext (.ok key) view) := by
  refine (succeeds_rejectRestricted hview.1).bind fun _ =>
    (htotal.loadCipherKeySlot view).bind_of_run fun _ loaded _ hloaded => ?_
  have hloadedPayload : loaded.2.HasPayload := by
    rw [(loadCipherKeySlot_eq_ok hloaded).2]
    exact hview.2
  exact (succeeds_lift (exists_fromCipherView_iff.mpr hloadedPayload)).bind fun blob =>
    (htotal.sealBlobContent blob loaded.1).bind fun _ =>
    (htotal.encryptAttachments loaded.1 _).bind fun _ =>
    (htotal.wrapSymmetricKey key loaded.1).bind fun _ => succeeds_pure _

variable {key : KeySlot SymmetricKey} {cipher : Cipher EncString} {random random' : Random}

theorem sealable_of_encryptBlob {ctx : EncryptContext EncString SymmetricKey Random}
    (h : encryptBlobCipherWithWrappingKey ctx key view random = .ok (cipher, random')) :
    Sealable view := by
  simp only [encryptBlobCipherWithWrappingKey, run_bind_eq_ok_iff, run_lift_eq_ok_iff,
    rejectRestricted_eq_ok_iff] at h
  obtain ⟨_, _, ⟨hunrestricted, -⟩, loaded, _, hloaded, blob, _, ⟨hblob, -⟩, -⟩ := h
  have hpayload := exists_fromCipherView_iff.mp ⟨blob, hblob⟩
  rw [(loadCipherKeySlot_eq_ok hloaded).2] at hpayload
  exact ⟨hunrestricted, hpayload⟩

end Sealing

/-! ## Items -/

section

variable {ctx : DecryptContext EncString SymmetricKey} {key slot : KeySlot SymmetricKey}
  {cipher : Cipher EncString}

theorem isSome_sshKey_iff {dec : EncString → Except CryptoError String}
    {sshKey : Option (SshKey EncString)} :
    (traverse (SshKey.decrypt dec libs) sshKey).toOption.join.isSome = true ↔
      ∃ stored view, sshKey = some stored ∧ stored.decrypt dec libs = .ok view := by
  cases sshKey with
  | none => simp [Traversable.traverse, Option.traverse, pure, Except.pure, Except.toOption]
  | some stored =>
    have hsome : traverse (SshKey.decrypt dec libs) (some stored) =
        some <$> stored.decrypt dec libs := rfl
    rw [hsome]
    cases hread : stored.decrypt dec libs with
    | error error | ok view => simp [hread, Functor.map, Except.map, Except.toOption]

/-- The view of an item that is not restricted has its payload if and only if the item passes. -/
theorem exists_decrypt_iff (hunrestricted : cipher.partialData = none) :
    (∃ view, cipher.decrypt ctx key = .ok view ∧ Sealable view) ↔
      ∃ slot, decryptCipherKey ctx key cipher.key = .ok slot ∧ ContentsRead ctx slot cipher := by
  simp only [Cipher.decrypt, Cipher.decryptWith, hunrestricted, ContentsRead]
  cases hblob : tryParseBlob ctx cipher with
  | some sealedBlob =>
    simp only [decryptBlobCipher, bind_eq_ok_iff, pure_eq_ok_iff]
    constructor
    · rintro ⟨view, ⟨slot, hslot, blob, hunsealed, -⟩, -⟩
      exact ⟨slot, hslot, blob, hunsealed⟩
    · rintro ⟨slot, hslot, blob, hunsealed⟩
      obtain ⟨shown, hshown⟩ := exists_viewKey _ hslot
      refine ⟨_, ⟨slot, hslot, blob, hunsealed, shown, hshown, rfl⟩, ?_,
        hasPayload_applyToCipherView _ _ _⟩
      exact (applyToCipherView_frame _ _ _).2.2.2.2
  | none =>
    simp only [Bool.false_eq_true, if_false, lenientDecryptCipherView, bind_eq_ok_iff,
      pure_eq_ok_iff]
    constructor
    · rintro ⟨view, ⟨slot, hslot, shown, hshown, rfl⟩, -, hpayload⟩
      refine ⟨slot, hslot, ?_⟩
      rw [hasPayload_enforceChecksums] at hpayload
      unfold PayloadReads
      cases htype : cipher.type <;>
        simpa [CipherView.HasPayload, htype, isSome_sshKey_iff] using hpayload
    · rintro ⟨slot, hslot, hpayload⟩
      obtain ⟨shown, hshown⟩ := exists_viewKey _ hslot
      refine ⟨_, ⟨slot, hslot, shown, hshown, rfl⟩, ?_, ?_⟩
      · exact (enforceChecksums_frame _ _ _).2.2.2
      · rw [hasPayload_enforceChecksums]
        unfold PayloadReads at hpayload
        cases htype : cipher.type <;>
          simpa [CipherView.HasPayload, htype, isSome_sshKey_iff] using hpayload

end

section Reencryption

variable {ctx : SendContext EncString SymmetricKey Random} {currentKey : KeySlot SymmetricKey}
  {newKey : SymmetricKey} {cipher : Cipher EncString} {random random' : Random}
  {slot : KeySlot SymmetricKey}

theorem Total.rewrap (htotal : Total ctx)
    (hslot : decryptCipherKey ctx.toDecryptContext currentKey cipher.key = .ok slot)
    (hkey : cipher.key.isSome) : Succeeds (rewrap ctx currentKey (.ok newKey) cipher) := by
  obtain ⟨wrapped, hwrapped⟩ := Option.isSome_iff_exists.mp hkey
  rw [hwrapped] at hslot
  obtain ⟨own, hunwrapped, -⟩ := bind_eq_ok_iff.mp hslot
  intro random
  obtain ⟨rewrapped, random', hrewrapped⟩ := htotal.wrapSymmetricKey newKey own random
  have hwrap : ctx.wrapIn (.ok newKey) own random = .ok (rewrapped, random') := hrewrapped
  refine ⟨{ cipher with key := some rewrapped }, random', run_translateError_eq_ok_iff.mpr ?_⟩
  simp [Cipher.rewrapCipherKey, hwrapped, hunwrapped, hwrap]

theorem Total.decryptForBlobUpgrade (htotal : Total ctx) (hunwraps : ctx.UnwrapsWrapped)
    (hslot : decryptCipherKey ctx.toDecryptContext currentKey cipher.key = .ok slot)
    (hview : cipher.decrypt ctx.toDecryptContext currentKey = .ok view) :
    Succeeds (decryptForBlobUpgrade ctx currentKey (.ok newKey) cipher) := by
  unfold KeyRotation.decryptForBlobUpgrade
  split
  next hkey =>
    refine (htotal.rewrap hslot hkey).bind_of_run fun _ rewrapped _ hrewrapped => succeeds_lift ?_
    rw [decrypt_of_rewrap hunwraps hrewrapped, hview]
    exact ⟨view, rfl⟩
  next =>
    refine (succeeds_lift ⟨view, by rw [hview]; rfl⟩).bind fun view => ?_
    exact ((htotal.loadCipherKeySlot view).translateError _).bind fun _ => succeeds_pure _

theorem Total.reencryptCipher (htotal : Total ctx) (hunwraps : ctx.UnwrapsWrapped)
    (hpasses : CipherPasses ctx.toDecryptContext currentKey cipher) :
    Succeeds (reencryptCipher ctx currentKey (.ok newKey) cipher) := by
  obtain ⟨slot, hslot, hcontents⟩ := hpasses.contents
  unfold KeyRotation.reencryptCipher
  split
  next hrewrap =>
    rw [Bool.and_eq_true] at hrewrap
    exact htotal.rewrap hslot hrewrap.2
  next hupgrade =>
    obtain ⟨hunrestricted, hcontents⟩ : cipher.partialData = none ∧
        ContentsRead ctx.toDecryptContext slot cipher := by
      rcases hcontents with ⟨hsealed, hkey⟩ | hcontents
      · exact absurd (by rw [hsealed, hkey]; rfl) hupgrade
      · exact hcontents
    obtain ⟨view, hview, hsealable⟩ :=
      (exists_decrypt_iff hunrestricted).mpr ⟨slot, hslot, hcontents⟩
    refine (htotal.decryptForBlobUpgrade hunwraps hslot hview).bind_of_run
      fun _ upgraded _ hupgraded => .translateError ?_ _
    obtain ⟨before, hbefore, -, hsame⟩ := decryptForBlobUpgrade_eq_ok hunwraps hupgraded
    cases hview.symm.trans hbefore
    have hupgradedSealable : Sealable upgraded := by
      rw [hsame]
      exact hsealable
    exact htotal.encryptBlob hupgradedSealable newKey

theorem contentsRead_of_reencryptCipher (hunwraps : ctx.UnwrapsWrapped)
    {newKey : KeySlot SymmetricKey} {reencrypted : Cipher EncString}
    (hpersonal : cipher.organizationId = none)
    (h : reencryptCipher ctx currentKey newKey cipher random = .ok (reencrypted, random')) :
    reencrypted.id = cipher.id ∧
    ∃ slot, decryptCipherKey ctx.toDecryptContext currentKey cipher.key = .ok slot ∧
      (cipher.isBlobEncrypted ctx.toDecryptContext ∧ cipher.key.isSome ∨
        cipher.partialData = none ∧ ContentsRead ctx.toDecryptContext slot cipher) := by
  unfold reencryptCipher at h
  split at h
  next hrewrap =>
    rw [Bool.and_eq_true] at hrewrap
    obtain ⟨wrapped, _, own, hkey, hunwrapped, -, rfl⟩ := rewrap_eq_ok hunwraps h
    refine ⟨rfl, .ok own, ?_, .inl hrewrap⟩
    rw [hkey]
    exact bind_eq_ok_iff.mpr ⟨own, hunwrapped, rfl⟩
  next =>
    simp only [run_bind_eq_ok_iff, run_translateError_eq_ok_iff, EncryptMode.encryptComposite] at h
    obtain ⟨view, _, hview, hreencrypted⟩ := h
    obtain ⟨before, hbefore, -, hsame⟩ := decryptForBlobUpgrade_eq_ok hunwraps hview
    have hunrestricted := unrestricted_of_decrypt hpersonal hbefore
    have hsealable := sealable_of_encryptBlob hreencrypted
    rw [hsame] at hsealable
    obtain ⟨slot, hslot, hcontents⟩ :=
      (exists_decrypt_iff hunrestricted).mp ⟨before, hbefore, hsealable⟩
    refine ⟨?_, slot, hslot, .inr ⟨hunrestricted, hcontents⟩⟩
    rw [metadata_of_encryptBlob hreencrypted, hsame, (decrypt_frame hunrestricted hbefore).1]

end Reencryption

/-! ## Sends -/

section

variable {ctx : SendContext EncString SymmetricKey Random} {currentKey : KeySlot SymmetricKey}
  {newKey : SymmetricKey} {send : Send EncString} {random random' : Random}

variable {key : KeySlot SymmetricKey} {view : SendView SymmetricKey}

theorem sendKeyDecrypts_of_decrypt (h : send.decrypt ctx key = .ok view) :
    ∃ sendKey, SendKeyDecrypts ctx key send sendKey := by
  simp only [Send.decrypt, bind_eq_ok_iff] at h
  obtain ⟨k, hk, sendKey, hsendKey, -⟩ := h
  exact ⟨sendKey, k, hk, hsendKey⟩

section

variable (htotal : Total ctx)

include htotal

theorem Total.encryptSendItem {item : SendItem} {view : SendItemView SymmetricKey}
    (h : item.decrypt ctx key = .ok view) (sendKey : SymmetricKey) :
    Succeeds (view.encryptComposite ctx (.ok sendKey)) := by
  obtain ⟨blob, hview⟩ := SendItem.decrypt_eq_ok h
  obtain ⟨hmetadata, -, -, -, hpartially⟩ := applyToCipherView_frame ctx.toLibraries blob
    (CipherView.withId (some item.metadata.itemId) CipherView.blank)
  rw [← hview] at hmetadata hpartially
  have hpayload : view.data.HasPayload := by
    rw [hview]
    exact hasPayload_applyToCipherView _ _ _
  have hid : view.data.id = some item.metadata.itemId := congrArg CipherMetadata.id hmetadata
  have hseal : Succeeds (view.data.sealBlobForItemSends ctx.toEncryptContext (.ok sendKey)) :=
    (succeeds_rejectRestricted hpartially).bind fun _ =>
      (succeeds_lift (exists_fromCipherView_iff.mpr hpayload)).bind fun blob =>
        htotal.sealBlobContent blob sendKey
  exact hseal.bind fun _ => (succeeds_lift ⟨_, required_eq_ok_iff.mpr hid⟩).bind fun _ =>
    succeeds_pure _

theorem Total.encryptSendData {item : Option SendItem} {view : Option (SendItemView SymmetricKey)}
    (h : (traverse (SendItem.decrypt ctx key) item).toOption.join = view) (sendKey : SymmetricKey) :
    Succeeds (traverse (SendItemView.encryptComposite ctx (.ok sendKey)) view) := by
  cases view with
  | none => exact succeeds_pure none
  | some view =>
    have hread := toOption_eq_some_iff.mp (Option.join_eq_some_iff.mp h)
    obtain ⟨_, _, rfl, hsome, hdecrypted⟩ := exists_of_traverse_eq_ok hread rfl
    cases hsome
    intro random
    obtain ⟨written, random', hwritten⟩ := htotal.encryptSendItem hdecrypted sendKey random
    exact ⟨some written, random', run_map_eq_ok_iff.mpr ⟨written, hwritten, rfl⟩⟩

theorem Total.encryptSend (h : send.decrypt ctx key = .ok view) :
    Succeeds (view.encryptComposite ctx (.ok newKey)) := by
  simp only [Send.decrypt, bind_eq_ok_iff, pure_eq_ok_iff] at h
  obtain ⟨k, -, sendKey, hsendKey, hview⟩ := h
  have hkey : view.key = some (String.ofList (Base64.encodeUrl k)) := by rw [← hview]
  have hdata : (traverse (SendItem.decrypt ctx (.ok sendKey)) send.data).toOption.join =
      view.data := by rw [← hview]
  have hsecret : view.secret ctx = pure k := by
    simp only [SendView.secret, hkey, parseSendKey_encodeUrl]
    rfl
  unfold SendView.encryptComposite
  rw [hsecret]
  refine (succeeds_pure k).bind_of_run fun _ secret _ hrun => ?_
  obtain ⟨rfl, -⟩ := run_pure_eq_ok_iff.mp hrun
  refine (succeeds_lift ⟨sendKey, hsendKey⟩).bind fun sendKey => ?_
  exact (htotal.encrypt sendKey _).bind fun _ =>
    (Succeeds.traverse (htotal.encrypt sendKey) _).bind fun _ =>
    (htotal.encryptBytes newKey _).bind fun _ =>
    (Succeeds.traverse (fun _ => (htotal.encrypt sendKey _).bind fun _ => succeeds_pure _)
      _).bind fun _ =>
    (Succeeds.traverse (fun _ => (Succeeds.traverse (htotal.encrypt sendKey) _).bind fun _ =>
      succeeds_pure _) _).bind fun _ =>
    (htotal.encryptSendData hdata sendKey).bind fun _ => succeeds_pure _

theorem Total.reencryptSend {sendKey : SymmetricKey}
    (hkey : SendKeyDecrypts ctx currentKey send sendKey) :
    Succeeds (reencryptSend ctx currentKey (.ok newKey) send) := by
  obtain ⟨k, hk, hsendKey⟩ := hkey
  have hview : send.decrypt ctx currentKey = .ok _ :=
    bind_eq_ok_iff.mpr ⟨k, hk, bind_eq_ok_iff.mpr ⟨sendKey, hsendKey, rfl⟩⟩
  refine (succeeds_lift ⟨_, mapError_eq_ok_iff.mpr hview⟩).bind_of_run
    fun _ shown _ hshown => .translateError ?_ _
  obtain ⟨hshown, -⟩ := run_lift_eq_ok_iff.mp hshown
  exact htotal.encryptSend (mapError_eq_ok_iff.mp hshown)

end

end

/-! ## Reports -/

section

variable {ctx : SendContext EncString SymmetricKey Random}

theorem Total.reencryptFolder (htotal : Total ctx) {currentKey : KeySlot SymmetricKey}
    {newKey : SymmetricKey} (folder : Folder EncString) :
    Succeeds (reencryptFolder ctx currentKey (.ok newKey) folder) :=
  (succeeds_lift ⟨_, rfl⟩).bind fun _ =>
    Succeeds.translateError ((htotal.encrypt newKey _).bind fun _ => succeeds_pure _) _

theorem exists_toCipherRequest {wire : WireFormat EncString} {keyId : Option String}
    {cipher : Cipher EncString} (h : cipher.id.isSome) :
    ∃ entry, toCipherRequest wire keyId cipher = .ok entry := by
  obtain ⟨id, hid⟩ := Option.isSome_iff_exists.mp h
  simp [toCipherRequest, EncryptionContext.tryIntoWithId, hid, mapError_ok]

/-- The re-encryption succeeds if and only if every item and the key of every send pass. -/
theorem succeeds_reencryptData_iff (htotal : Total ctx) (hunwraps : ctx.UnwrapsWrapped)
    (wire : WireFormat EncString) (symmetricKeyId : KeySlot SymmetricKey → Option String)
    (currentKey : KeySlot SymmetricKey) (newKey : SymmetricKey)
    (folders : List (Folder EncString)) {ciphers : List (Cipher EncString)}
    (sends : List (Send EncString))
    (hpersonal : ∀ cipher ∈ ciphers, cipher.organizationId = none) (random : Random) :
    (∃ result random', reencryptData ctx currentKey (.ok newKey) wire symmetricKeyId folders
      ciphers sends random = .ok (result, random')) ↔
    (∀ cipher ∈ ciphers, CipherPasses ctx.toDecryptContext currentKey cipher) ∧
      ∀ send ∈ sends, ∃ sendKey, SendKeyDecrypts ctx currentKey send sendKey := by
  simp only [reencryptData, reencryptFolders, reencryptCiphers, reencryptSends,
    run_bind_eq_ok_iff, run_lift_eq_ok_iff, run_pure_eq_ok_iff]
  constructor
  · rintro ⟨_, _, _, _, -, newCiphers, _, hciphers, newSends, _, hsends, entries, _,
      ⟨hentries, -⟩, -⟩
    have hciphers := forall₂_comp (forall₂_of_run_traverse hciphers)
      (traverse_eq_ok_iff_forall₂.mp hentries)
    have hsends := forall₂_of_run_traverse hsends
    constructor
    · intro cipher hcipher
      obtain ⟨entry, -, reencrypted, ⟨_, _, hrun⟩, hentry⟩ := exists_mem_of_forall₂ hciphers hcipher
      obtain ⟨hid, hcontents⟩ :=
        contentsRead_of_reencryptCipher hunwraps (hpersonal cipher hcipher) hrun
      refine ⟨?_, hcontents⟩
      rw [← hid, ← id_of_toCipherRequest hentry]
      rfl
    · intro send hsend
      obtain ⟨reencrypted, -, _, _, hrun⟩ := exists_mem_of_forall₂ hsends hsend
      simp only [reencryptSend, run_bind_eq_ok_iff, run_lift_eq_ok_iff, mapError_eq_ok_iff] at hrun
      obtain ⟨view, _, ⟨hview, -⟩, -⟩ := hrun
      exact sendKeyDecrypts_of_decrypt hview
  · rintro ⟨hciphers, hsends⟩
    have hfoldersRun : Succeeds (traverse (reencryptFolder ctx currentKey (.ok newKey)) folders) :=
      .traverse_list fun folder _ => htotal.reencryptFolder folder
    have hciphersRun : Succeeds (traverse (reencryptCipher ctx currentKey (.ok newKey)) ciphers) :=
      .traverse_list fun cipher hcipher => htotal.reencryptCipher hunwraps (hciphers cipher hcipher)
    have hsendsRun : Succeeds (traverse (reencryptSend ctx currentKey (.ok newKey)) sends) :=
      .traverse_list fun send hsend => htotal.reencryptSend (hsends send hsend).choose_spec
    obtain ⟨newFolders, random₁, hnewFolders⟩ := hfoldersRun random
    obtain ⟨newCiphers, random₂, hnewCiphers⟩ := hciphersRun random₁
    obtain ⟨newSends, random₃, hnewSends⟩ := hsendsRun random₂
    obtain ⟨entries, hentries⟩ : ∃ entries,
        toCipherRequests wire (symmetricKeyId (.ok newKey)) newCiphers = .ok entries := by
      apply exists_traverse_eq_ok
      intro reencrypted hreencrypted
      obtain ⟨cipher, hcipher, _, _, hrun⟩ :=
        exists_mem_of_forall₂ (forall₂_of_run_traverse hnewCiphers).flip hreencrypted
      obtain ⟨hid, -⟩ := contentsRead_of_reencryptCipher hunwraps (hpersonal cipher hcipher) hrun
      apply exists_toCipherRequest
      rw [hid]
      exact (hciphers cipher hcipher).id
    exact ⟨_, _, newFolders, random₁, hnewFolders, newCiphers, random₂, hnewCiphers, newSends,
      random₃, hnewSends, entries, random₃, ⟨hentries, rfl⟩, rfl, rfl⟩

/-- A value that does not decrypt is reported if and only if every value decrypts, or an item or
the key of a send does not pass. -/
theorem reencryptData_reportsUnreadable_iff (ctx : SendContext EncString SymmetricKey Random)
    (htotal : Total ctx) (hunwraps : ctx.UnwrapsWrapped) (wire : WireFormat EncString)
    (symmetricKeyId : KeySlot SymmetricKey → Option String) (currentKey : KeySlot SymmetricKey)
    (newKey : SymmetricKey) (folders : List (Folder EncString))
    {ciphers : List (Cipher EncString)} (sends : List (Send EncString))
    (hpersonal : ∀ cipher ∈ ciphers, cipher.organizationId = none) (random : Random) :
    (¬DataDecrypts ctx currentKey folders ciphers sends →
      ∃ error, reencryptData ctx currentKey (.ok newKey) wire symmetricKeyId folders ciphers sends
        random = .error error) ↔
    DataDecrypts ctx currentKey folders ciphers sends ∨
      (∃ cipher ∈ ciphers, ¬CipherPasses ctx.toDecryptContext currentKey cipher) ∨
      ∃ send ∈ sends, ∀ sendKey, ¬SendKeyDecrypts ctx currentKey send sendKey := by
  have hsucceeds := succeeds_reencryptData_iff htotal hunwraps wire symmetricKeyId currentKey newKey
    folders sends hpersonal random
  generalize reencryptData ctx currentKey (.ok newKey) wire symmetricKeyId folders ciphers sends
    random = outcome at hsucceeds ⊢
  have hfails : (∃ error, outcome = .error error) ↔
      ¬∃ result random', outcome = .ok (result, random') := by
    rcases outcome with error | ⟨result, after⟩ <;> simp
  rw [hfails, hsucceeds, ← or_iff_not_imp_left, not_and_or]
  push Not
  rfl

end

/-! ## A password that is lost -/

def totalContext : SendContext (Option String) Unit Unit :=
  { personalContext with
    sealWithWrappingKey := fun _ _ random => some ((⟨[]⟩, none), random) }

theorem totalContext_total : Total totalContext where
  encrypt := fun _ text => succeeds_pure (some text)
  wrapSymmetricKey := fun _ _ => succeeds_pure none
  generateSymmetricKey := succeeds_pure ()
  encryptBytes := fun _ _ => succeeds_pure _
  sealWithWrappingKey := fun _ _ _ => rfl

def sendWithoutKey : Send (Option String) := { sendWithPassword with key := none }

theorem sendWithoutKey_unreadable (sendKey : Unit) :
    ¬SendKeyDecrypts totalContext (.ok ()) sendWithoutKey sendKey := by
  rintro ⟨k, hk, -⟩
  cases hk

theorem sendWithoutKey_reported :
    ∃ error, reencryptData totalContext (.ok ()) (.ok ()) rotationWire (fun _ => none)
      [sampleFolder] [personalLogin] [sendWithoutKey] () = .error error := by
  have hpersonal : ∀ cipher ∈ [personalLogin], cipher.organizationId = none := by
    intro cipher hcipher
    rw [List.mem_singleton.mp hcipher]
    rfl
  apply (reencryptData_reportsUnreadable_iff totalContext totalContext_total
    (fun _ _ _ _ _ _ => rfl) rotationWire (fun _ => none) (.ok ()) () [sampleFolder]
    [sendWithoutKey] hpersonal ()).mpr
  · exact .inr (.inr ⟨sendWithoutKey, List.mem_singleton_self _, sendWithoutKey_unreadable⟩)
  · intro hreadable
    obtain ⟨sendKey, hkey, -⟩ := hreadable.sends sendWithoutKey (List.mem_singleton_self _)
    exact sendWithoutKey_unreadable sendKey hkey

def loginWithPassword (password : Option String) : Cipher (Option String) :=
  { personalLogin with
    login := some { bareLogin with username := some (some "user"), password := some password } }

def loginBlobWithoutPassword : CipherBlobV1 :=
  { personalLoginBlob with
    typeData := .login
      { username := some "user", password := none, passwordRevisionDate := none
        uris := [], totp := none, autofillOnPageLoad := none, httpAuthenticationEnabled := false
        fido2Credentials := [] } }

theorem unreadablePassword_lost :
    (rotationContext loginBlobWithoutPassword).Lawful ∧
    ¬DataDecrypts (rotationContext loginBlobWithoutPassword) (.ok ()) []
      [loginWithPassword none] [] ∧
    ∃ request cipher after login,
      reencryptData (rotationContext loginBlobWithoutPassword) (.ok ()) (.ok ()) rotationWire
        (fun _ => none) [] [loginWithPassword none] [] () = .ok (some request, ()) ∧
      reencryptCiphers (rotationContext loginBlobWithoutPassword) (.ok ()) (.ok ())
        [loginWithPassword none] () = .ok ([cipher], ()) ∧
      cipher.decrypt (rotationContext loginBlobWithoutPassword).toDecryptContext (.ok ()) =
        .ok after ∧
      after.login = some login ∧ login.password = none := by
  refine ⟨rotationContext_lawful _, ?_, _, _, _, _, rfl, rfl, rfl, rfl, rfl⟩
  intro hreadable
  obtain ⟨slot, hslot, hvalues⟩ := hreadable.ciphers _ (List.mem_singleton_self _)
  cases hslot
  obtain ⟨login, hlogin⟩ := hvalues.login
  cases hlogin

end SdkInternal.KeyRotation
