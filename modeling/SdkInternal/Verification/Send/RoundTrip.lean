import SdkInternal.Model.Send.Send
import SdkInternal.Verification.Vault.RoundTrip

/-! # Encryption and decryption of sends

What is written of a view is read back. A view that was read from a send is read back as it is, up
to the password, of which a view has no hash. -/

namespace SdkInternal.Sends

open Crypto Shared Vault CipherView SendItem

/-! ## Addresses -/

theorem splitEmails_joinEmails (emails : Option String) :
    splitEmails (joinEmails (splitEmails emails)) = splitEmails emails := by
  let parts := Delimited.parts isWhitespace ',' (emails.getD "").toList
  have hparts : splitEmails emails = parts.map String.ofList := rfl
  have htexts : (parts.map String.ofList).map String.toList = parts := by
    simp [Function.comp_def]
  rw [hparts, joinEmails]
  by_cases hempty : parts = []
  · rw [hempty]
    rfl
  · have hne : (parts.map String.ofList).isEmpty = false := by simpa using hempty
    have hagain : Delimited.parts isWhitespace ',' (Delimited.join ',' parts) = parts :=
      Delimited.parts_join_parts isWhitespace ',' _
    simp only [hne, htexts]
    simp [splitEmails, hagain]

/-! ## Contents -/

section

variable {EncString Random : Type} {dec : EncString → Except CryptoError String}
  {enc : String → EncryptM Random EncString} {random random' : Random}

section

variable (hdec : Undoes dec enc)

include hdec

theorem SendText.decrypt_encryptComposite :
    Undoes (SendText.decrypt dec) (SendText.encryptComposite enc) := by
  intro view random text random' h
  simp only [SendText.encryptComposite, run_bind_eq_ok_iff, run_pure_eq_ok_iff] at h
  obtain ⟨value, _, hvalue, rfl, rfl⟩ := h
  exact bind_eq_ok_iff.mpr ⟨view.text, hdec.traverse hvalue, rfl⟩

theorem SendFile.decrypt_encryptComposite :
    Undoes (SendFile.decrypt dec) (SendFile.encryptComposite enc) := by
  intro view random file random' h
  simp only [SendFile.encryptComposite, run_bind_eq_ok_iff, run_pure_eq_ok_iff] at h
  obtain ⟨value, _, hvalue, rfl, rfl⟩ := h
  exact bind_eq_ok_iff.mpr ⟨view.fileName, hdec hvalue, rfl⟩

end

end

section

variable {EncString SymmetricKey Random : Type} {ctx : SendContext EncString SymmetricKey Random}
  {random random' : Random} {key : KeySlot SymmetricKey}

theorem unsealBlobForItemSends_of_seal (hctx : ctx.Lawful) {view : CipherView SymmetricKey}
    {data : String}
    (h : view.sealBlobForItemSends ctx.toEncryptContext key random = .ok (data, random')) :
    ∃ blob, CipherBlobV1.fromCipherView ctx.toLibraries view = .ok blob ∧
      unsealBlobForItemSends ctx.toDecryptContext key data =
        .ok (blob.applyToCipherView ctx.toLibraries blank) := by
  simp only [sealBlobForItemSends, run_bind_eq_ok_iff, rejectRestricted_eq_ok_iff,
    run_lift_eq_ok_iff] at h
  obtain ⟨_, _, ⟨-, rfl⟩, blob, _, ⟨hblob, rfl⟩, hdata⟩ := h
  refine ⟨blob, hblob, ?_⟩
  cases key with
  | error error => cases hdata
  | ok key =>
    obtain ⟨envelope, cek, hseal, rfl⟩ := sealBlobContent_eq_ok hdata
    have hunsealed : SealedCipherBlob.unseal ctx.toDecryptContext
        ⟨blobFormatVersion, cek, envelope⟩ (.ok key) = .ok blob := by
      simp [SealedCipherBlob.unseal, hctx.unseal_seal hseal]
    simp only [unsealBlobForItemSends, hctx.fromOpaqueString_toOpaqueString hseal]
    exact bind_eq_ok_iff.mpr ⟨blob, hunsealed, rfl⟩

def CipherView.withId (id : Option Uuid) (view : CipherView SymmetricKey) :
    CipherView SymmetricKey :=
  { view with id }

theorem applyToCipherView_withId (libs : Libraries) (blob : CipherBlobV1)
    (base : CipherView SymmetricKey) (id : Option Uuid) :
    blob.applyToCipherView libs (CipherView.withId id base) =
      CipherView.withId id (blob.applyToCipherView libs base) := by
  cases htype : blob.typeData <;>
    simp [CipherBlobV1.applyToCipherView, CipherTypeDataV1.applyToCipherView, CipherView.withId,
      htype]

variable {view : SendItemView SymmetricKey}

theorem SendItem.decrypt_eq_ok {item : SendItem} (h : item.decrypt ctx key = .ok view) :
    ∃ blob : CipherBlobV1, view.data = blob.applyToCipherView ctx.toLibraries
      (CipherView.withId (some item.metadata.itemId) CipherView.blank) := by
  simp only [decrypt, bind_eq_ok_iff, pure_eq_ok_iff] at h
  obtain ⟨data, hdata, rfl⟩ := h
  unfold CipherView.unsealBlobForItemSends at hdata
  split at hdata
  next => cases hdata
  next =>
    obtain ⟨blob, -, happlied⟩ := bind_eq_ok_iff.mp hdata
    cases happlied
    exact ⟨blob, (applyToCipherView_withId _ _ _ _).symm⟩

theorem SendItem.decrypt_of_reencrypt (hctx : ctx.Lawful) {key key' : KeySlot SymmetricKey}
    {item item' : SendItem} (hread : item.decrypt ctx key = .ok view)
    (h : view.encryptComposite ctx key' random = .ok (item', random')) :
    item'.decrypt ctx key' = .ok view := by
  obtain ⟨blob, hview⟩ := decrypt_eq_ok hread
  simp only [SendItemView.encryptComposite, run_bind_eq_ok_iff, run_lift_eq_ok_iff,
    run_pure_eq_ok_iff, required_eq_ok_iff] at h
  obtain ⟨data, _, hdata, itemId, _, ⟨hid, rfl⟩, rfl, rfl⟩ := h
  obtain ⟨contents, hcontents, hunsealed⟩ := unsealBlobForItemSends_of_seal hctx hdata
  rw [hview] at hcontents hid
  have hsame := applyToCipherView_congr hctx.parseDate_formatDate hcontents CipherView.blank
  rw [applyToCipherView_withId] at hid
  have hdecrypted : CipherView.withId (some itemId)
      (contents.applyToCipherView ctx.toLibraries CipherView.blank) = view.data := by
    rw [hview, applyToCipherView_withId, hsame, ← hid]
    rfl
  exact bind_eq_ok_iff.mpr ⟨_, hunsealed,
    congrArg (fun data => Except.ok (SendItemView.mk data)) hdecrypted⟩

end

/-! ## Sends -/

section

variable {EncString SymmetricKey Random : Type} {ctx : SendContext EncString SymmetricKey Random}
  {random random' : Random} {key : KeySlot SymmetricKey}

theorem decryptBytesIn_of_encryptBytesIn (hctx : ctx.Lawful) {bytes : List UInt8}
    {value : EncString} (h : ctx.encryptBytesIn key bytes random = .ok (value, random')) :
    ctx.decryptBytesIn key value = .ok bytes := by
  simp only [SendContext.encryptBytesIn, run_bind_eq_ok_iff, run_lift_eq_ok_iff] at h
  obtain ⟨slot, _, ⟨rfl, rfl⟩, hvalue⟩ := h
  exact hctx.decryptBytes_encryptBytes hvalue

theorem parseSendKey_encodeUrl (k : List UInt8) :
    parseSendKey (String.ofList (Base64.encodeUrl k)) = .ok k := by
  simp [parseSendKey, Base64.decodeUrl_encodeUrl]

variable {view : SendView SymmetricKey}

theorem Send.metadata_of_decrypt {send : Send EncString} (h : send.decrypt ctx key = .ok view) :
    view.toSendMetadata = send.toSendMetadata := by
  simp only [Send.decrypt, bind_eq_ok_iff, pure_eq_ok_iff] at h
  obtain ⟨k, -, sendKey, -, rfl⟩ := h
  rfl

variable {key key' : KeySlot SymmetricKey}

theorem traverse_item_of_reencrypt (hctx : ctx.Lawful) {item item' : Option SendItem}
    {view : Option (SendItemView SymmetricKey)}
    (hread : (traverse (decrypt ctx key) item).toOption.join = view)
    (h : traverse (SendItemView.encryptComposite ctx key') view random = .ok (item', random')) :
    (traverse (decrypt ctx key') item').toOption.join = view := by
  cases view with
  | none =>
    cases h
    rfl
  | some view =>
    obtain ⟨written, hwritten, rfl⟩ := run_map_eq_ok_iff.mp h
    have hjoin := Option.join_eq_some_iff.mp hread
    obtain ⟨_, _, rfl, hsome, hdecrypted⟩ :=
      exists_of_traverse_eq_ok (toOption_eq_some_iff.mp hjoin) rfl
    cases hsome
    have hread' := decrypt_of_reencrypt hctx hdecrypted hwritten
    have hagain : traverse (decrypt ctx key') (some written) = .ok (some view) :=
      map_eq_ok_iff.mpr ⟨view, hread', rfl⟩
    rw [hagain]
    rfl

/-- The view of a send is read back from what is written of it, without the password. -/
theorem Send.decrypt_of_reencrypt (hctx : ctx.Lawful) {send send' : Send EncString}
    (hread : send.decrypt ctx key = .ok view)
    (h : view.encryptComposite ctx key' random = .ok (send', random')) :
    send'.decrypt ctx key' = .ok { view with hasPassword := false } := by
  simp only [Send.decrypt, bind_eq_ok_iff, pure_eq_ok_iff] at hread
  obtain ⟨k, -, sendKey, hsendKey, hview⟩ := hread
  have hkey : view.key = some (String.ofList (Base64.encodeUrl k)) := by rw [← hview]
  have hnewPassword : view.newPassword = none := by rw [← hview]
  have hemails : view.emails = splitEmails send.emails := by rw [← hview]
  have hdata : (traverse (SendItem.decrypt ctx (.ok sendKey)) send.data).toOption.join =
      view.data := by rw [← hview]
  simp only [SendView.encryptComposite, SendView.secret, hkey, run_bind_eq_ok_iff,
    run_lift_eq_ok_iff, run_pure_eq_ok_iff, parseSendKey_encodeUrl] at h
  obtain ⟨_, _, ⟨hk, rfl⟩, sendKey', _, ⟨hsendKey', rfl⟩, name, _, hname, notes, _, hnotes,
    secret, _, hsecret, file, _, hfile, text, _, htext, data, _, hitem, rfl, rfl⟩ := h
  cases hk
  cases hsendKey.symm.trans hsendKey'
  have hdec : Undoes (ctx.decrypt sendKey) (ctx.encrypt sendKey) :=
    fun _ _ _ _ hvalue => hctx.decrypt_encrypt hvalue
  have hname := hdec hname
  have hnotes := hdec.traverse hnotes
  have hfile := (SendFile.decrypt_encryptComposite hdec).traverse hfile
  have htext := (SendText.decrypt_encryptComposite hdec).traverse htext
  have hitem := traverse_item_of_reencrypt hctx hdata hitem
  refine bind_eq_ok_iff.mpr ⟨k, decryptBytesIn_of_encryptBytesIn hctx hsecret,
    bind_eq_ok_iff.mpr ⟨sendKey, hsendKey, congrArg Except.ok ?_⟩⟩
  simp only [hname, decryptOrNone, hnotes, hfile, htext, hitem, ← hkey, hnewPassword, hemails,
    splitEmails_joinEmails]
  rfl

end

end SdkInternal.Sends
