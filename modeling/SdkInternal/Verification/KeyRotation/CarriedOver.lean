import SdkInternal.Model.KeyRotation.Data
import SdkInternal.Verification.Send.RoundTrip

/-! # Re-encrypted data is read as before

An entry of the re-encrypted data is decrypted under the new key to the view that the original has
under the current key. A sealed item keeps its contents, and any other item gets the form of a
sealed one. -/

namespace SdkInternal.KeyRotation

open Crypto Shared Vault Sends Cipher List Option

variable {EncString SymmetricKey Random : Type} {ctx : SendContext EncString SymmetricKey Random}
  {currentKey newKey : KeySlot SymmetricKey} {random random' : Random}

/-! ## Folders -/

structure FolderRotated (ctx : SendContext EncString SymmetricKey Random)
    (currentKey newKey : KeySlot SymmetricKey) (folder reencrypted : Folder EncString) : Prop where
  id : reencrypted.id = folder.id
  view : reencrypted.decrypt ctx.toDecryptContext newKey =
    folder.decrypt ctx.toDecryptContext currentKey

theorem folderRotated_of_reencryptFolder (hctx : ctx.Lawful)
    {folder reencrypted : Folder EncString}
    (h : reencryptFolder ctx currentKey newKey folder random = .ok (reencrypted, random')) :
    FolderRotated ctx currentKey newKey folder reencrypted := by
  simp only [reencryptFolder, run_bind_eq_ok_iff, run_lift_eq_ok_iff, mapError_eq_ok_iff,
    run_translateError_eq_ok_iff, FolderView.encryptComposite, EncryptContext.encryptIn,
    run_pure_eq_ok_iff] at h
  obtain ⟨view, _, ⟨hview, rfl⟩, name, _, ⟨slot, _, ⟨hslot, rfl⟩, hname⟩, rfl, rfl⟩ := h
  cases hview
  refine ⟨rfl, ?_⟩
  have hread : ctx.decryptIn newKey name = .ok _ :=
    bind_eq_ok_iff.mpr ⟨slot, hslot, hctx.decrypt_encrypt hname⟩
  simp only [Folder.decrypt, hread]
  rfl

/-! ## Items -/

variable {cipher rewrapped : Cipher EncString}

theorem rewrap_eq_ok (hunwraps : ctx.UnwrapsWrapped)
    (h : rewrap ctx currentKey newKey cipher random = .ok (rewrapped, random')) :
    ∃ wrapped wrapped' cipherKey, cipher.key = some wrapped ∧
      ctx.unwrapIn currentKey wrapped = .ok cipherKey ∧
      ctx.unwrapIn newKey wrapped' = .ok cipherKey ∧
      rewrapped = { cipher with key := some wrapped' } := by
  simp only [rewrap, run_translateError_eq_ok_iff, rewrapCipherKey] at h
  split at h
  next => cases h
  next wrapped hkey =>
    split at h
    next => cases h
    next cipherKey hunwrap =>
      split at h
      next => cases h
      next rewrappedKey _ hwrap =>
        cases h
        exact ⟨wrapped, rewrappedKey, cipherKey, hkey, hunwrap,
          unwrapIn_of_wrapIn hunwraps hwrap, rfl⟩

theorem decrypt_of_rewrap (hunwraps : ctx.UnwrapsWrapped)
    (h : rewrap ctx currentKey newKey cipher random = .ok (rewrapped, random')) :
    rewrapped.decrypt ctx.toDecryptContext newKey =
      cipher.decrypt ctx.toDecryptContext currentKey := by
  obtain ⟨wrapped, wrapped', cipherKey, hkey, hcurrent, hnew, rfl⟩ := rewrap_eq_ok hunwraps h
  have hcurrentSlot : decryptCipherKey ctx.toDecryptContext currentKey (some wrapped) =
      .ok (.ok cipherKey) := bind_eq_ok_iff.mpr ⟨cipherKey, hcurrent, rfl⟩
  have hnewSlot : decryptCipherKey ctx.toDecryptContext newKey (some wrapped') =
      .ok (.ok cipherKey) := bind_eq_ok_iff.mpr ⟨cipherKey, hnew, rfl⟩
  simp only [decrypt, decryptWith, tryParseBlob, lenientDecryptCipherView,
    decryptBlobCipher, decryptRestrictedCipherView, viewKey, hkey, hcurrentSlot, hnewSlot,
    isSome_some, Bool.false_eq_true, if_false]

variable {view : CipherView SymmetricKey}

theorem decryptForBlobUpgrade_eq_ok (hunwraps : ctx.UnwrapsWrapped) {cipher : Cipher EncString}
    (h : decryptForBlobUpgrade ctx currentKey newKey cipher random = .ok (view, random')) :
    ∃ before, cipher.decrypt ctx.toDecryptContext currentKey = .ok before ∧
      (∀ own ∈ before.key, view.key = some own) ∧ view = { before with key := view.key } := by
  unfold decryptForBlobUpgrade at h
  split at h
  next =>
    simp only [run_bind_eq_ok_iff, run_lift_eq_ok_iff, mapError_eq_ok_iff] at h
    obtain ⟨rewrapped, _, hrewrapped, hview, rfl⟩ := h
    rw [decrypt_of_rewrap hunwraps hrewrapped] at hview
    exact ⟨view, hview, fun _ hown => hown, rfl⟩
  next =>
    simp only [run_bind_eq_ok_iff, run_lift_eq_ok_iff, mapError_eq_ok_iff,
      run_translateError_eq_ok_iff, run_pure_eq_ok_iff] at h
    obtain ⟨before, _, ⟨hbefore, rfl⟩, loaded, _, hloaded, rfl, rfl⟩ := h
    obtain ⟨howns, hview⟩ := loadCipherKeySlot_eq_ok hloaded
    refine ⟨before, hbefore, ?_, ?_⟩
    · intro own hown
      rw [hview, howns own hown]
    · rw [hview]

/-- A personal item that is read without failures. -/
structure Readable (ctx : DecryptContext EncString SymmetricKey) (key : KeySlot SymmetricKey)
    (cipher : Cipher EncString) : Prop where
  personal : cipher.organizationId = none
  decrypts : ∃ view, cipher.decrypt ctx key = .ok view ∧ view.attachmentDecryptionFailures = some []

section Reading

variable {ctx : DecryptContext EncString SymmetricKey} {key : KeySlot SymmetricKey}
  {cipher : Cipher EncString} {view : CipherView SymmetricKey}

theorem unrestricted_of_decrypt (hpersonal : cipher.organizationId = none)
    (h : cipher.decrypt ctx key = .ok view) : cipher.partialData = none := by
  cases hrestricted : cipher.partialData with
  | none => rfl
  | some raw => simp [decrypt, decryptWith, hrestricted, hpersonal] at h

theorem Readable.unrestricted (hreadable : Readable ctx key cipher) :
    cipher.partialData = none := by
  obtain ⟨view, hview, -⟩ := hreadable.decrypts
  exact unrestricted_of_decrypt hreadable.personal hview

theorem Readable.noFailures (hreadable : Readable ctx key cipher)
    (h : cipher.decrypt ctx key = .ok view) : view.attachmentDecryptionFailures = some [] := by
  obtain ⟨other, hother, hfailures⟩ := hreadable.decrypts
  cases h.symm.trans hother
  exact hfailures

theorem sealedView_of_decrypt (hunrestricted : cipher.partialData = none)
    (hsealed : cipher.isBlobEncrypted ctx = true) (h : cipher.decrypt ctx key = .ok view) :
    ∃ blob base slot, view = CipherBlobV1.applyToCipherView ctx.toLibraries blob base ∧
      base.toCipherMetadata = cipher.toCipherMetadata ∧
      decryptCipherKey ctx key cipher.key = .ok slot ∧
      viewKey slot cipher.key = .ok base.key ∧ base.attachments.isSome := by
  obtain ⟨sealedBlob, hblob⟩ := isSome_iff_exists.mp hsealed
  simp only [decrypt, decryptWith, hunrestricted, hblob, decryptBlobCipher,
    bind_eq_ok_iff, pure_eq_ok_iff] at h
  obtain ⟨slot, hslot, blob, -, shown, hshown, rfl⟩ := h
  exact ⟨blob, _, slot, rfl, rfl, hslot, hshown, rfl⟩

theorem decrypt_frame (hunrestricted : cipher.partialData = none)
    (h : cipher.decrypt ctx key = .ok view) :
    view.toCipherMetadata = cipher.toCipherMetadata ∧ view.attachments.isSome := by
  cases hsealed : cipher.isBlobEncrypted ctx with
  | true =>
    obtain ⟨blob, base, -, rfl, hmetadata, -, -, hattachments⟩ :=
      sealedView_of_decrypt hunrestricted hsealed h
    obtain ⟨hframe, -, hkept, -⟩ := applyToCipherView_frame ctx.toLibraries blob base
    rw [hkept]
    exact ⟨hframe.trans hmetadata, hattachments⟩
  | false =>
    have hblob : tryParseBlob ctx cipher = none := by
      simpa [isBlobEncrypted] using hsealed
    simp only [decrypt, decryptWith, hunrestricted, hblob, Bool.false_eq_true,
      if_false, lenientDecryptCipherView, bind_eq_ok_iff, pure_eq_ok_iff] at h
    obtain ⟨slot, -, shown, -, rfl⟩ := h
    obtain ⟨hframe, -, hkept, -⟩ := enforceChecksums_frame ctx shown.isSome _
    rw [hframe, hkept]
    exact ⟨rfl, rfl⟩

end Reading

/-- The view of an item after the rotation: the item has a key of its own, and the contents of an
item that was not sealed have the form of sealed ones. -/
def rotatedView (wasSealed : Bool) (cipherKey : SymmetricKey) (before : CipherView SymmetricKey) :
    CipherView SymmetricKey :=
  if wasSealed then { before with key := some cipherKey }
  else { before.savedBlob cipherKey with
    attachments := before.attachments
    attachmentDecryptionFailures := before.attachmentDecryptionFailures }

variable {key : KeySlot SymmetricKey}

theorem metadata_of_encryptBlob {ctx : EncryptContext EncString SymmetricKey Random}
    {cipher : Cipher EncString}
    (h : encryptBlobCipherWithWrappingKey ctx key view random = .ok (cipher, random')) :
    cipher.toCipherMetadata = view.toCipherMetadata := by
  simp only [encryptBlobCipherWithWrappingKey, run_bind_eq_ok_iff, run_pure_eq_ok_iff] at h
  obtain ⟨_, _, -, loaded, _, hloaded, _, _, -, _, _, -, _, _, -, _, _, -, rfl, -⟩ := h
  rw [(loadCipherKeySlot_eq_ok hloaded).2]

theorem savedBlob_eq_rotatedView {ctx : DecryptContext EncString SymmetricKey}
    {cipher : Cipher EncString} {before : CipherView SymmetricKey}
    (hreadable : Readable ctx key cipher) (hbefore : cipher.decrypt ctx key = .ok before)
    (cipherKey : SymmetricKey) :
    before.savedBlob cipherKey = rotatedView (cipher.isBlobEncrypted ctx) cipherKey before := by
  have hfailures := hreadable.noFailures hbefore
  obtain ⟨-, hpresent⟩ := decrypt_frame hreadable.unrestricted hbefore
  obtain ⟨attachments, hattachments⟩ := isSome_iff_exists.mp hpresent
  unfold rotatedView
  split
  next hsealed =>
    obtain ⟨blob, base, -, rfl, -⟩ :=
      sealedView_of_decrypt hreadable.unrestricted hsealed hbefore
    obtain ⟨-, -, hkept, -⟩ := applyToCipherView_frame ctx.toLibraries blob base
    have hsame : some (base.attachments.getD []) =
        (blob.applyToCipherView ctx.toLibraries base).attachments := by
      rw [← hkept, hattachments, getD_some]
    rw [savedBlob_applyToCipherView, hsame, ← hfailures]
  next => simp [CipherView.savedBlob, hattachments, hfailures]

structure CipherRotated (ctx : SendContext EncString SymmetricKey Random)
    (currentKey newKey : KeySlot SymmetricKey) (cipher reencrypted : Cipher EncString) : Prop where
  id : reencrypted.id = cipher.id
  view : ∃ before cipherKey, cipher.decrypt ctx.toDecryptContext currentKey = .ok before ∧
    (∀ own ∈ before.key, own = cipherKey) ∧
    reencrypted.decrypt ctx.toDecryptContext newKey =
      .ok (rotatedView (cipher.isBlobEncrypted ctx.toDecryptContext) cipherKey before)

theorem cipherRotated_of_rewrap (hctx : ctx.Lawful)
    (hreadable : Readable ctx.toDecryptContext currentKey cipher)
    (hsealed : cipher.isBlobEncrypted ctx.toDecryptContext = true)
    (h : rewrap ctx currentKey newKey cipher random = .ok (rewrapped, random')) :
    CipherRotated ctx currentKey newKey cipher rewrapped := by
  obtain ⟨before, hbefore, -⟩ := hreadable.decrypts
  obtain ⟨wrapped, wrapped', cipherKey, hkey, hcurrent, -, hrewrapped⟩ :=
    rewrap_eq_ok hctx.unwrapsWrapped h
  obtain ⟨blob, base, slot, hview, -, hslot, hshown, -⟩ :=
    sealedView_of_decrypt hreadable.unrestricted hsealed hbefore
  obtain ⟨-, hbase, -⟩ := applyToCipherView_frame ctx.toLibraries blob base
  have hown : before.key = some cipherKey := by
    rw [hkey] at hslot hshown
    obtain ⟨_, hunwrapped, hloaded⟩ := bind_eq_ok_iff.mp hslot
    cases hcurrent.symm.trans hunwrapped
    cases hloaded
    rw [hview, hbase]
    exact (Except.ok.inj hshown).symm
  refine ⟨by rw [hrewrapped], before, cipherKey, hbefore, by simp [hown], ?_⟩
  rw [decrypt_of_rewrap hctx.unwrapsWrapped h, hbefore, rotatedView, if_pos hsealed, ← hown]

theorem cipherRotated_of_reencryptCipher (hctx : ctx.Lawful) {cipher reencrypted : Cipher EncString}
    (hreadable : Readable ctx.toDecryptContext currentKey cipher)
    (h : reencryptCipher ctx currentKey newKey cipher random = .ok (reencrypted, random')) :
    CipherRotated ctx currentKey newKey cipher reencrypted := by
  unfold reencryptCipher at h
  split at h
  next hrewrap =>
    rw [Bool.and_eq_true] at hrewrap
    exact cipherRotated_of_rewrap hctx hreadable hrewrap.1 h
  next =>
    simp only [run_bind_eq_ok_iff, run_translateError_eq_ok_iff, EncryptMode.encryptComposite] at h
    obtain ⟨view, _, hview, hreencrypted⟩ := h
    obtain ⟨before, hbefore, howns, hkeyed⟩ := decryptForBlobUpgrade_eq_ok hctx.unwrapsWrapped hview
    obtain ⟨cipherKey, hown, hread⟩ := decryptWith_of_encryptBlob hctx.toLawful hreencrypted
    obtain ⟨hmetadata, -⟩ := decrypt_frame hreadable.unrestricted hbefore
    have hsaved : view.savedBlob cipherKey = before.savedBlob cipherKey := by
      rw [hkeyed]
      rfl
    refine ⟨?_, before, cipherKey, hbefore, fun own hin => hown own (howns own hin), ?_⟩
    · rw [metadata_of_encryptBlob hreencrypted, hkeyed, ← hmetadata]
    · rw [← savedBlob_eq_rotatedView hreadable hbefore, ← hsaved]
      exact hread false

/-! ## Sends -/

/-- What the rotation keeps of a send. The hash of a password is not in the request. -/
structure SendRotated (ctx : SendContext EncString SymmetricKey Random)
    (currentKey newKey : KeySlot SymmetricKey) (send reencrypted : Send EncString) : Prop where
  id : reencrypted.id = send.id
  view : ∃ before, send.decrypt ctx currentKey = .ok before ∧
    reencrypted.decrypt ctx newKey = .ok { before with hasPassword := false }

theorem sendRotated_of_reencryptSend (hctx : ctx.Lawful) {send reencrypted : Send EncString}
    (h : reencryptSend ctx currentKey newKey send random = .ok (reencrypted, random')) :
    SendRotated ctx currentKey newKey send reencrypted := by
  simp only [reencryptSend, run_bind_eq_ok_iff, run_lift_eq_ok_iff, mapError_eq_ok_iff,
    run_translateError_eq_ok_iff] at h
  obtain ⟨before, _, ⟨hbefore, rfl⟩, hreencrypted⟩ := h
  have hafter := Send.decrypt_of_reencrypt hctx hbefore hreencrypted
  have hkept := Send.metadata_of_decrypt hafter
  rw [Send.metadata_of_decrypt hbefore] at hkept
  exact ⟨congrArg SendMetadata.id hkept.symm, before, hbefore, hafter⟩

/-! ## Requests -/

section

variable (ctx : SendContext EncString SymmetricKey Random) (wire : WireFormat EncString)
  (currentKey newKey : KeySlot SymmetricKey)

structure FolderCarriedOver (folder : Folder EncString) (entry : FolderWithIdRequestModel) :
    Prop where
  id : entry.id = folder.id
  rotated : ∃ reencrypted : Folder EncString, reencrypted.toRequest wire = entry ∧
    FolderRotated ctx currentKey newKey folder reencrypted

structure CipherCarriedOver (keyId : Option String) (cipher : Cipher EncString)
    (entry : CipherWithIdRequestModel) : Prop where
  id : some entry.id = cipher.id
  rotated : ∃ reencrypted, toCipherRequest wire keyId reencrypted = .ok entry ∧
    CipherRotated ctx currentKey newKey cipher reencrypted

structure SendCarriedOver (send : Send EncString) (entry : SendWithIdRequestModel) : Prop where
  id : some entry.id = send.id
  rotated : ∃ reencrypted : Send EncString, reencrypted.toRequest wire = some entry ∧
    SendRotated ctx currentKey newKey send reencrypted

variable {wire}

theorem id_of_toCipherRequest {keyId : Option String} {cipher : Cipher EncString}
    {entry : CipherWithIdRequestModel} (h : toCipherRequest wire keyId cipher = .ok entry) :
    some entry.id = cipher.id := by
  rw [toCipherRequest, EncryptionContext.tryIntoWithId] at h
  split at h
  next => cases h
  next id hid =>
    cases h
    exact hid.symm

theorem id_of_toRequest {send : Send EncString} {entry : SendWithIdRequestModel}
    (h : send.toRequest wire = some entry) : some entry.id = send.id := by
  obtain ⟨id, hid, rfl⟩ := map_eq_some_iff.mp h
  exact hid.symm

end

/-- Each folder, item and send has one entry in the request, in the same order and with its id,
and is read under the new key as it was under the current one. -/
theorem reencryptData_carriesOver (ctx : SendContext EncString SymmetricKey Random)
    (hctx : ctx.Lawful) (wire : WireFormat EncString) (currentKey newKey : KeySlot SymmetricKey)
    (symmetricKeyId : KeySlot SymmetricKey → Option String) {folders : List (Folder EncString)}
    {ciphers : List (Cipher EncString)} {sends : List (Send EncString)}
    {request : AccountDataRequestModel}
    (hreadable : ∀ cipher ∈ ciphers, Readable ctx.toDecryptContext currentKey cipher)
    (h : reencryptData ctx currentKey newKey wire symmetricKeyId folders ciphers sends random =
      .ok (some request, random')) :
    ∃ folderEntries cipherEntries sendEntries,
      request = { folders := some folderEntries, ciphers := some cipherEntries
                  sends := some sendEntries } ∧
      List.Forall₂ (FolderCarriedOver ctx wire currentKey newKey) folders folderEntries ∧
      List.Forall₂ (CipherCarriedOver ctx wire currentKey newKey (symmetricKeyId newKey)) ciphers
        cipherEntries ∧
      List.Forall₂ (SendCarriedOver ctx wire currentKey newKey) sends sendEntries := by
  simp only [reencryptData, reencryptFolders, reencryptCiphers, reencryptSends,
    run_bind_eq_ok_iff, run_lift_eq_ok_iff, run_pure_eq_ok_iff] at h
  obtain ⟨newFolders, _, hfolders, newCiphers, _, hciphers, newSends, _, hsends, cipherEntries, _,
    ⟨hcipherEntries, rfl⟩, hrequest, rfl⟩ := h
  obtain ⟨sendEntries, hsendEntries, rfl⟩ := map_eq_some_iff.mp hrequest
  have hfolders := forall₂_of_run_traverse hfolders
  have hciphers := forall₂_and_left _ _ |>.mpr ⟨hreadable, forall₂_of_run_traverse hciphers⟩
  have hsends := forall₂_of_run_traverse hsends
  have hcipherEntries := traverse_eq_ok_iff_forall₂.mp hcipherEntries
  have hsendEntries := forall₂_of_mapM hsendEntries
  refine ⟨_, _, _, rfl, ?_, ?_, ?_⟩
  · rw [forall₂_map_right_iff]
    apply hfolders.imp
    rintro folder reencrypted ⟨_, _, hfolder⟩
    have hrotated := folderRotated_of_reencryptFolder hctx hfolder
    exact ⟨hrotated.id, reencrypted, rfl, hrotated⟩
  · apply (forall₂_comp hciphers hcipherEntries).imp
    rintro cipher entry ⟨reencrypted, ⟨hread, _, _, hcipher⟩, hentry⟩
    have hrotated := cipherRotated_of_reencryptCipher hctx hread hcipher
    exact ⟨(id_of_toCipherRequest hentry).trans hrotated.id, reencrypted, hentry, hrotated⟩
  · apply (forall₂_comp hsends hsendEntries).imp
    rintro send entry ⟨reencrypted, ⟨_, _, hsend⟩, hentry⟩
    have hrotated := sendRotated_of_reencryptSend hctx hsend
    exact ⟨(id_of_toRequest hentry).trans hrotated.id, reencrypted, hentry, hrotated⟩

/-! ## A password and a setting that a rotation changes -/

def rotationContext (blob : CipherBlobV1) : SendContext (Option String) Unit Unit :=
  { sealingContext blob with
    decryptBytes := fun _ value => match value with
      | some text => parseSendKey text
      | none => .error .decrypt
    encryptBytes := fun _ bytes => pure (some (String.ofList (Base64.encodeUrl bytes)))
    generateRandomBytes := fun count => pure (List.replicate count 0)
    deriveShareableKey := fun _ _ _ => ()
    pbkdf2 := fun _ _ _ => [] }

variable (blob : CipherBlobV1)

theorem rotationContext_lawful : (rotationContext blob).Lawful where
  toLawful := sealingContext_lawful blob
  decryptBytes_encryptBytes := by
    intro key bytes random enc random' h
    cases h
    exact parseSendKey_encodeUrl bytes

def rotationWire : WireFormat (Option String) where
  parse text := .ok (some text)
  print value := value.getD ""
  parseDateTime := parseStrokes
  toRfc3339 := formatStrokes
  toRfc3339Millis := formatStrokes
  toRfc3339Secs := formatStrokes

/-- A login without a key of its own, which does not set HTTP authentication. -/
def personalLogin : Cipher (Option String) :=
  { loginWithHistory (some "old") with organizationId := none, key := none }

def personalLoginBlob : CipherBlobV1 where
  name := "name"
  notes := none
  typeData := .login
    { username := some "user", password := some "new", passwordRevisionDate := none
      uris := [], totp := none, autofillOnPageLoad := none, httpAuthenticationEnabled := false
      fido2Credentials := [] }
  fields := []
  passwordHistory := [⟨"old", 0⟩]

abbrev personalContext : SendContext (Option String) Unit Unit := rotationContext personalLoginBlob

def sampleSecret : List UInt8 := List.replicate 16 0

def sendWithPassword : Send (Option String) where
  id := some 7
  accessId := none
  type := .text
  maxAccessCount := none
  accessCount := 0
  disabled := false
  hideEmail := false
  revisionDate := 0
  deletionDate := 0
  expirationDate := none
  authType := .password
  name := some "send"
  notes := none
  key := some (String.ofList (Base64.encodeUrl sampleSecret))
  password := some "hash"
  file := none
  text := some ⟨some (some "text"), false⟩
  data := none
  emails := none

def sampleFolder : Folder (Option String) := ⟨some 3, some "folder", 0⟩

theorem personalLogin_readable :
    Readable personalContext.toDecryptContext (.ok ()) personalLogin :=
  ⟨rfl, _, rfl, rfl⟩

def sendWithPasswordView : SendView Unit :=
  { sendWithPassword.toSendMetadata with
    name := "send"
    notes := none
    key := some (String.ofList (Base64.encodeUrl sampleSecret))
    newPassword := none
    hasPassword := true
    file := none
    text := some ⟨some "text", false⟩
    data := none
    emails := [] }

theorem sendWithPassword_decrypts :
    sendWithPassword.decrypt (rotationContext blob) (.ok ()) = .ok sendWithPasswordView :=
  bind_eq_ok_iff.mpr ⟨sampleSecret, parseSendKey_encodeUrl sampleSecret, rfl⟩

theorem reencryptSend_sendWithPassword :
    reencryptSend (rotationContext blob) (.ok ()) (.ok ()) sendWithPassword () =
      .ok ({ sendWithPassword with password := none }, ()) := by
  have hsecret : sendWithPasswordView.secret (rotationContext blob) () = .ok (sampleSecret, ()) :=
    run_lift_eq_ok_iff.mpr ⟨parseSendKey_encodeUrl sampleSecret, rfl⟩
  exact run_bind_eq_ok_iff.mpr ⟨sendWithPasswordView, (), rfl,
    run_translateError_eq_ok_iff.mpr (run_bind_eq_ok_iff.mpr ⟨sampleSecret, (), hsecret, rfl⟩)⟩

theorem reencryptSends_sendWithPassword :
    reencryptSends (rotationContext blob) (.ok ()) (.ok ()) [sendWithPassword] () =
      .ok ([{ sendWithPassword with password := none }], ()) :=
  run_traverse_cons_eq_ok_iff.mpr ⟨_, (), [], reencryptSend_sendWithPassword blob, rfl, rfl⟩

theorem sampleData_reencrypted :
    ∃ request, reencryptData personalContext (.ok ()) (.ok ()) rotationWire
      (fun _ => none) [sampleFolder] [personalLogin] [sendWithPassword] () =
        .ok (some request, ()) := by
  have hfolders : reencryptFolders personalContext (.ok ()) (.ok ())
      [sampleFolder] () = .ok (_, ()) := rfl
  have hciphers : reencryptCiphers personalContext (.ok ()) (.ok ())
      [personalLogin] () = .ok (_, ()) := rfl
  exact ⟨_, run_bind_eq_ok_iff.mpr ⟨_, (), hfolders, run_bind_eq_ok_iff.mpr ⟨_, (), hciphers,
    run_bind_eq_ok_iff.mpr ⟨_, (), reencryptSends_sendWithPassword personalLoginBlob, rfl⟩⟩⟩⟩

theorem sampleData_carriedOver :
    ∃ request folderEntry cipherEntry sendEntry,
      reencryptData personalContext (.ok ()) (.ok ()) rotationWire
        (fun _ => none) [sampleFolder] [personalLogin] [sendWithPassword] () =
          .ok (some request, ()) ∧
      request = { folders := some [folderEntry], ciphers := some [cipherEntry]
                  sends := some [sendEntry] } ∧
      FolderCarriedOver personalContext rotationWire (.ok ()) (.ok ()) sampleFolder folderEntry ∧
      CipherCarriedOver personalContext rotationWire (.ok ()) (.ok ()) none
        personalLogin cipherEntry ∧
      SendCarriedOver personalContext rotationWire (.ok ()) (.ok ())
        sendWithPassword sendEntry := by
  obtain ⟨request, hrequest⟩ := sampleData_reencrypted
  obtain ⟨_, _, _, hentries, hfolders, hciphers, hsends⟩ := reencryptData_carriesOver _
    (rotationContext_lawful _) _ _ _ _ (by
      intro cipher hcipher
      rw [mem_singleton.mp hcipher]
      exact personalLogin_readable) hrequest
  obtain _ | ⟨hfolder, _ | _⟩ := hfolders
  obtain _ | ⟨hcipher, _ | _⟩ := hciphers
  obtain _ | ⟨hsend, _ | _⟩ := hsends
  exact ⟨request, _, _, _, hrequest, hentries, hfolder, hcipher, hsend⟩

/-- The password of the send and the setting of the login are read differently afterwards. -/
theorem rotation_changesViews :
    personalContext.Lawful ∧
    (∃ request, reencryptData personalContext (.ok ()) (.ok ()) rotationWire
      (fun _ => none) [sampleFolder] [personalLogin] [sendWithPassword] () =
        .ok (some request, ())) ∧
    (∃ before send after,
      sendWithPassword.decrypt personalContext (.ok ()) = .ok before ∧
      before.hasPassword = true ∧
      reencryptSends personalContext (.ok ()) (.ok ()) [sendWithPassword] () = .ok ([send], ()) ∧
      send.decrypt personalContext (.ok ()) = .ok after ∧
      after.hasPassword = false) ∧
    ∃ before beforeLogin cipher after afterLogin,
      personalLogin.decrypt personalContext.toDecryptContext (.ok ()) = .ok before ∧
      before.login = some beforeLogin ∧ beforeLogin.httpAuthenticationEnabled = none ∧
      reencryptCiphers personalContext (.ok ()) (.ok ()) [personalLogin] () = .ok ([cipher], ()) ∧
      cipher.decrypt personalContext.toDecryptContext (.ok ()) = .ok after ∧
      after.login = some afterLogin ∧ afterLogin.httpAuthenticationEnabled = some false := by
  have hafter : { sendWithPassword with password := none }.decrypt
      personalContext (.ok ()) = .ok { sendWithPasswordView with hasPassword := false } :=
    bind_eq_ok_iff.mpr ⟨sampleSecret, parseSendKey_encodeUrl sampleSecret, rfl⟩
  exact ⟨rotationContext_lawful _, sampleData_reencrypted,
    ⟨_, _, _, sendWithPassword_decrypts _, rfl, reencryptSends_sendWithPassword _, hafter, rfl⟩,
    _, _, _, _, _, rfl, rfl, rfl, rfl, rfl, rfl, rfl⟩

end SdkInternal.KeyRotation
