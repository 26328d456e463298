import SdkInternal.Verification.Crypto.PlainCoset

/-! # Content formats of COSE messages

A content format is written to the protected header of a message and read back when the
message is decrypted. Two formats can be written only. -/

namespace SdkInternal.Crypto

/-! ## Headers -/

/-- A format that can be read back from the header it is written to. -/
def ContentFormat.Readable (format : ContentFormat) : Prop :=
  format ≠ .coseSign1 ∧ format ≠ .coseEncrypt0

instance (format : ContentFormat) : Decidable format.Readable :=
  inferInstanceAs (Decidable (_ ∧ _))

section

variable (plaintext : List UInt8) (format : ContentFormat)

theorem ContentFormat.ofHeader_contentHeader (keyId : KeyId) (algorithm : ℤ) :
    ofHeader (contentHeader format keyId algorithm) =
      if format.Readable then .ok format else .error (.encString .coseMissingContentType) := by
  cases format <;> rfl

/-! ## Padding of texts -/

theorem exists_padContent :
    ∃ padded, padContent plaintext format = .ok padded ∧
      unpadContent padded format = .ok plaintext ∧
      (format = .utf8 → padded.length = 32 * (1 + plaintext.length / 32)) := by
  by_cases hpad : format = .utf8
  · subst hpad
    have hle : 32 * (1 + plaintext.length / 32) - plaintext.length ≤ 255 := by omega
    obtain ⟨padded, hpadded, hunpad, hlength⟩ := exists_padBytes hle
    refine ⟨padded, hpadded, hunpad, ?_⟩
    intro _
    omega
  · have hshould : format.shouldPadContent = false := by
      rw [ContentFormat.shouldPadContent, beq_eq_false_iff_ne]
      exact hpad
    refine ⟨plaintext, ?_, ?_, fun h => absurd h hpad⟩
    · rw [padContent, hshould, if_neg Bool.false_ne_true]
    · rw [unpadContent, hshould, if_neg Bool.false_ne_true]

end

/-! ## Messages -/

section

variable (encrypt : List UInt8 → CoseSymmetricKey → ContentFormat → Nonce →
    Except CryptoError (List UInt8))
  (decrypt : List UInt8 → CoseSymmetricKey → Except CryptoError (List UInt8 × ContentFormat))
  (key : CoseSymmetricKey) (plaintext : List UInt8) (format : ContentFormat)

/-- A plaintext and its format are what decryption returns, and a text is padded to the next
multiple of 32 bytes beyond its length. -/
structure ContentRoundTrip : Prop where
  decrypt_encrypt : ∀ nonce, ∃ message, encrypt plaintext key format nonce = .ok message ∧
    decrypt message key = .ok (plaintext, format)
  padded : format = .utf8 → ∃ padded, padContent plaintext format = .ok padded ∧
    padded.length = 32 * (1 + plaintext.length / 32)

/-- What was encrypted is read back unless its format cannot be. -/
def ReadsBack : Prop :=
  ∀ nonce, ∃ message, encrypt plaintext key format nonce = .ok message ∧
    decrypt message key = if format.Readable then .ok (plaintext, format)
      else .error (.encString .coseMissingContentType)

variable {encrypt decrypt key plaintext format}

theorem contentRoundTrip_iff_of_readsBack (h : ReadsBack encrypt decrypt key plaintext format) :
    ContentRoundTrip encrypt decrypt key plaintext format ↔ format.Readable := by
  constructor
  · intro hroundTrip
    obtain ⟨message, hencrypt, hdecrypt⟩ := h (Vector.replicate 24 0)
    obtain ⟨message', hencrypt', hdecrypt'⟩ :=
      hroundTrip.decrypt_encrypt (Vector.replicate 24 0)
    obtain rfl : message = message' := Except.ok.inj (hencrypt.symm.trans hencrypt')
    by_contra hnot
    rw [if_neg hnot, hdecrypt'] at hdecrypt
    cases hdecrypt
  · intro hreadable
    refine ⟨?_, ?_⟩
    · intro nonce
      obtain ⟨message, hencrypt, hdecrypt⟩ := h nonce
      rw [if_pos hreadable] at hdecrypt
      exact ⟨message, hencrypt, hdecrypt⟩
    · intro hutf8
      obtain ⟨padded, hpad, -, hlength⟩ := exists_padContent plaintext format
      exact ⟨padded, hpad, hlength hutf8⟩

end

theorem readsBack_encryptEncrypt0 {coset : Coset} (hcoset : coset.Lawful) {aead : AeadCipher}
    (haead : aead.Inverts) {algorithm : ℤ}
    (halgorithm : algorithm ∈ [xChaCha20Poly1305Id, xAes256GcmId]) (key : CoseSymmetricKey)
    (plaintext : List UInt8) (format : ContentFormat) :
    ReadsBack (encryptEncrypt0 coset aead algorithm) (decryptEncrypt0 coset aead algorithm) key
      plaintext format := by
  intro nonce
  obtain ⟨padded, hpad, hunpad, -⟩ := exists_padContent plaintext format
  obtain ⟨header, hheader⟩ : ∃ header, contentHeader format key.keyId algorithm = header :=
    ⟨_, rfl⟩
  obtain ⟨ciphertext, hciphertext⟩ : ∃ ciphertext,
      aead.encrypt key.encKey nonce padded (coset.aad { header := header }) = ciphertext := ⟨_, rfl⟩
  obtain ⟨bytes, htoVec, hfromSlice⟩ := hcoset.encrypt0FromSlice_encrypt0ToVec format key.keyId
    algorithm nonce ciphertext halgorithm
  rw [hheader] at htoVec hfromSlice
  have hformat := ContentFormat.ofHeader_contentHeader format key.keyId algorithm
  have halg : header.alg = some (.privateUse algorithm) := by rw [← hheader]; rfl
  have hkeyId : header.keyId = key.keyId.toList := by rw [← hheader]; rfl
  rw [hheader] at hformat
  have hdecrypt := haead key.encKey nonce padded (coset.aad { header := header })
  rw [hciphertext] at hdecrypt
  -- the parsed header is authenticated by its bytes, which are those that were written
  have haad : coset.aad ⟨some (coset.headerToVec header), header⟩ =
      coset.aad { header := header } := rfl
  refine ⟨bytes, ?_, ?_⟩
  · simp only [encryptEncrypt0, hpad, bind, Except.bind, hheader, hciphertext, htoVec]
  · by_cases hreadable : format.Readable
    · rw [if_pos hreadable] at hformat ⊢
      simp only [decryptEncrypt0, hfromSlice, sealedMessage, halg, hkeyId, ne_eq, not_true_eq_false,
        if_false, bytesToArray_toList, haad, hdecrypt, hunpad, bind, Except.bind, hformat]
    · rw [if_neg hreadable] at hformat ⊢
      simp only [decryptEncrypt0, hfromSlice, sealedMessage, halg, ne_eq, not_true_eq_false,
        if_false, hformat]

/-- Both ciphers read back exactly the formats that both maps know. -/
theorem contentRoundTrip_iff (cose : LawfulCosePrimitives) (key : CoseSymmetricKey)
    (plaintext : List UInt8) (format : ContentFormat) :
    (ContentRoundTrip (encryptXChaCha20Poly1305 cose.toCosePrimitives)
      (decryptXChaCha20Poly1305 cose.toCosePrimitives) key plaintext format ↔ format.Readable) ∧
    (ContentRoundTrip (encryptXAes256Gcm cose.toCosePrimitives)
      (decryptXAes256Gcm cose.toCosePrimitives) key plaintext format ↔ format.Readable) := by
  refine ⟨contentRoundTrip_iff_of_readsBack ?_, contentRoundTrip_iff_of_readsBack ?_⟩
  · exact readsBack_encryptEncrypt0 cose.coset_lawful cose.xChaCha20Poly1305_inverts (by simp) key
      plaintext format
  · exact readsBack_encryptEncrypt0 cose.coset_lawful cose.xAes256Gcm_inverts (by simp) key
      plaintext format

/-! ## A message that cannot be read -/

/-- A cipher that leaves the plaintext as it is and appends the sum of all bytes. -/
def sumAead : AeadCipher where
  encrypt key nonce plaintext associatedData :=
    plaintext ++ [(key.toList ++ nonce.toList ++ plaintext ++ associatedData).foldl (· + ·) 0]
  decrypt key nonce ciphertext associatedData :=
    let plaintext := ciphertext.dropLast
    if ciphertext.getLast? =
        some ((key.toList ++ nonce.toList ++ plaintext ++ associatedData).foldl (· + ·) 0) then
      some plaintext
    else none

theorem sumAead_inverts : sumAead.Inverts := by
  intro key nonce plaintext associatedData
  simp [sumAead]

def plainCose : LawfulCosePrimitives where
  toCoset := plainCoset
  xChaCha20Poly1305 := sumAead
  xAes256Gcm := sumAead
  coset_lawful := plainCoset_lawful
  xChaCha20Poly1305_inverts := sumAead_inverts
  xAes256Gcm_inverts := sumAead_inverts

def zeroKey : CoseSymmetricKey where
  keyId := Vector.replicate 16 0
  encKey := Vector.replicate 32 0
  supportedOperations := [.decrypt, .encrypt, .wrapKey, .unwrapKey]

/-- An encrypted signature is lost: its format is in the header and is not recognised. -/
theorem coseSign1_lost :
    (encryptXChaCha20Poly1305 plainCose.toCosePrimitives [1, 2, 3] zeroKey .coseSign1
        (Vector.replicate 24 0)).bind
      (decryptXChaCha20Poly1305 plainCose.toCosePrimitives · zeroKey) =
        .error (.encString .coseMissingContentType) ∧
    (encryptXAes256Gcm plainCose.toCosePrimitives [1, 2, 3] zeroKey .coseEncrypt0
      (Vector.replicate 24 0)).bind (decryptXAes256Gcm plainCose.toCosePrimitives · zeroKey) =
        .error (.encString .coseMissingContentType) := by
  decide +kernel

end SdkInternal.Crypto
