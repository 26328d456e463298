import SdkInternal.Model.KeyManagement.V2UpgradeToken
import SdkInternal.Verification.Crypto.DecryptOnlyKeys

/-! # The two halves of an upgrade token

Unwrapping one half checks that the key found there decrypts the other half. It does not look at
what the other half holds, so any message under that key passes. -/

namespace SdkInternal.KeyManagement

open Crypto Crypto.KeyStoreContext Shared StreamingDecryptor SymmetricCryptoKey

/-! ## What a message holds -/

section

variable (prims : Primitives) (cose : CosePrimitives)

/-- The plaintext of a message and its format. What a legacy key reads counts as a legacy key. -/
def openWrapped : EncString → SymmetricCryptoKey → Except CryptoError (List UInt8 × ContentFormat)
  | .aes256Cbc _ _, .aes256CbcKey _ =>
    .error (.operationNotSupported .decryptionNotImplementedForKey)
  | .aes256CbcHmacSha256 iv mac data, .aes256CbcHmacKey key =>
    match Aes256CbcHmacSha256.decrypt prims iv data mac key.key with
    | .error _ => .error .decrypt
    | .ok content => .ok (content, .bitwardenLegacyKey)
  | .coseEncrypt0 data, .xChaCha20Poly1305Key key => decryptXChaCha20Poly1305 cose data key
  | .coseEncrypt0 data, .xAes256GcmKey key => decryptXAes256Gcm cose data key
  | .unparseable _, _ => .error .unparseableEncString
  | _, _ => .error .invalidKey

theorem openWrapped_spec (data : EncString) (key : SymmetricCryptoKey) :
    decryptData prims cose data key = Prod.fst <$> openWrapped prims cose data key ∧
    unwrapKey prims cose data key =
      (openWrapped prims cose data key).bind (unwrapContent cose) := by
  cases data with
  | aes256Cbc iv data | coseEncrypt0 data | unparseable raw => cases key <;> exact ⟨rfl, rfl⟩
  | aes256CbcHmacSha256 iv mac data =>
    cases key with
    | aes256CbcHmacKey key =>
      simp only [decryptData, unwrapKey, openWrapped]
      cases Aes256CbcHmacSha256.decrypt prims iv data mac key.key <;> exact ⟨rfl, rfl⟩
    | _ => exact ⟨rfl, rfl⟩

variable {prims cose} {content : List UInt8}

theorem decryptData_eq_ok_iff {data : EncString} {key : SymmetricCryptoKey} :
    decryptData prims cose data key = .ok content ↔
      ∃ format, openWrapped prims cose data key = .ok (content, format) := by
  rw [(openWrapped_spec prims cose data key).1]
  cases openWrapped prims cose data key with
  | error error => simp [Functor.map, Except.map]
  | ok plaintext =>
    obtain ⟨bytes, format⟩ := plaintext
    simp [Functor.map, Except.map]

theorem unwrapKey_eq_ok_iff {wrapped : EncString} {key inner : SymmetricCryptoKey} :
    unwrapKey prims cose wrapped key = .ok inner ↔
      ∃ plaintext, openWrapped prims cose wrapped key = .ok plaintext ∧
        unwrapContent cose plaintext = .ok inner := by
  rw [(openWrapped_spec prims cose wrapped key).2]
  cases openWrapped prims cose wrapped key with
  | error error | ok plaintext => simp [Except.bind]

theorem openWrapped_same {key key' : SymmetricCryptoKey} (h : key.Same key')
    (wrapped : EncString) :
    openWrapped prims cose wrapped key' = openWrapped prims cose wrapped key := by
  have hdecrypt : ∀ (aead : AeadCipher) (algorithm : ℤ) (data : List UInt8)
      {own other : CoseSymmetricKey}, own.Same other →
      decryptEncrypt0 cose.toCoset aead algorithm data other =
        decryptEncrypt0 cose.toCoset aead algorithm data own := by
    intro aead algorithm data own other hsame
    unfold decryptEncrypt0
    rw [hsame.keyId, hsame.encKey]
  cases h with
  | aes256CbcKey key | aes256CbcHmacKey key => rfl
  | aes256GcmKey h => cases wrapped <;> rfl
  | xChaCha20Poly1305Key h | xAes256GcmKey h =>
    cases wrapped with
    | coseEncrypt0 data => exact hdecrypt _ _ data h
    | aes256Cbc iv data | aes256CbcHmacSha256 iv mac data | unparseable raw => rfl

variable {key : Aes256CbcHmacKey}

theorem tryFromCoseKey_ne_legacy {coseKey : CoseKey} :
    tryFromCoseKey coseKey ≠ .ok (.aes256CbcHmacKey key) := by
  intro h
  unfold tryFromCoseKey at h
  split at h
  next => cases h
  next bytes _ =>
    split at h
    next => cases h
    next alg _ =>
      obtain ⟨operations, -, hkind⟩ := bind_eq_ok_iff.mp h
      split_ifs at hkind
      all_goals
        obtain ⟨fields, -, hfields⟩ := bind_eq_ok_iff.mp hkind
        cases hfields

theorem tryFromCose_ne_legacy {coset : Coset} {bytes : List UInt8} :
    tryFromCose coset bytes ≠ .ok (.aes256CbcHmacKey key) := by
  unfold tryFromCose
  split
  next => exact nofun
  next => exact tryFromCoseKey_ne_legacy

theorem eq_toList_of_tryFromLegacy {coset : Coset}
    (h : tryFromLegacy coset content = .ok (.aes256CbcHmacKey key)) :
    content = key.key.toList := by
  unfold tryFromLegacy at h
  split at h
  next =>
    unfold tryFromEncoded at h
    dsimp only at h
    split at h
    next => cases h
    next =>
      split at h
      next compositeKey hbytes =>
        cases h
        exact toList_of_bytesToArray hbytes
      next => cases h
  next =>
    split at h
    next =>
      obtain ⟨unpadded, -, hcose⟩ := bind_eq_ok_iff.mp h
      exact absurd hcose tryFromCose_ne_legacy
    next => cases h

theorem unwrapContent_eq_legacy_iff {plaintext : List UInt8 × ContentFormat} :
    unwrapContent cose plaintext = .ok (.aes256CbcHmacKey key) ↔
      plaintext = (key.key.toList, .bitwardenLegacyKey) := by
  constructor
  · intro h
    obtain ⟨content, format⟩ := plaintext
    cases format with
    | bitwardenLegacyKey => rw [eq_toList_of_tryFromLegacy h]
    | coseKey => exact absurd h tryFromCose_ne_legacy
    | _ => cases h
  · rintro rfl
    exact tryFromLegacy_aes256CbcHmac key

end

/-! ## Unwrapping -/

namespace V2UpgradeToken

section Inversion

variable {EncString SymmetricKey : Type} {reader : KeyReader EncString SymmetricKey}
  {self : V2UpgradeToken EncString} {key inner : SymmetricKey}

theorem unwrapV1_eq_ok_iff :
    self.unwrapV1 reader key = .ok inner ↔
      reader.unwrapSymmetricKey key self.wrappedUserKey1 = .ok inner ∧
        ∃ content, reader.decryptBytes inner self.wrappedUserKey2 = .ok content := by
  unfold unwrapV1
  cases reader.unwrapSymmetricKey key self.wrappedUserKey1 with
  | error error => simp
  | ok unwrapped =>
    cases hcontent : reader.decryptBytes unwrapped self.wrappedUserKey2 with
    | error error | ok content => grind

theorem unwrapV2_eq_ok_iff :
    self.unwrapV2 reader key = .ok inner ↔
      reader.unwrapSymmetricKey key self.wrappedUserKey2 = .ok inner ∧
        reader.algorithm inner = .ok .xAes256Gcm ∧
        ∃ content, reader.decryptBytes inner self.wrappedUserKey1 = .ok content := by
  unfold unwrapV2
  cases reader.unwrapSymmetricKey key self.wrappedUserKey2 with
  | error error => simp
  | ok unwrapped =>
    cases halgorithm : reader.algorithm unwrapped with
    | error error => grind
    | ok algorithm =>
      cases hcontent : reader.decryptBytes unwrapped self.wrappedUserKey1 with
      | error error | ok content => grind

end Inversion

section Binding

variable (prims : Primitives) (cose : CosePrimitives) (token : V2UpgradeToken EncString)
  (legacyKey : Aes256CbcHmacKey)

/-- Whatever the second version's key that `legacyKey` finds can read in the first half is
`legacyKey`. -/
def HoldsLegacyKey : Prop :=
  ∀ plaintext key other, openWrapped prims cose token.wrappedUserKey2
      (.aes256CbcHmacKey legacyKey) = .ok plaintext →
    unwrapContent cose plaintext = .ok (.xAes256GcmKey key) →
    openWrapped prims cose token.wrappedUserKey1 (.xAes256GcmKey key) = .ok other →
    other = (legacyKey.key.toList, .bitwardenLegacyKey)

/-- Whatever a key that `userKey` finds can read in the second half is `userKey`. -/
def HoldsUserKey (userKey : XAes256GcmKey) : Prop :=
  ∀ plaintext key other, openWrapped prims cose token.wrappedUserKey1
      (.xAes256GcmKey userKey) = .ok plaintext →
    unwrapContent cose plaintext = .ok key →
    openWrapped prims cose token.wrappedUserKey2 key = .ok other →
    ∃ found, unwrapContent cose other = .ok found ∧
      (xAes256GcmKey userKey).Same found

variable {prims cose token}

theorem algorithm_eq_xAes256Gcm_iff {key : SymmetricCryptoKey} :
    symmetricKeyAlgorithm key = .ok .xAes256Gcm ↔ ∃ inner, key = .xAes256GcmKey inner := by
  cases key <;> simp [symmetricKeyAlgorithm]

theorem unwrapV1_of_unwrapV2_iff :
    (∀ key, token.unwrapV2 (keyReader prims cose) (.aes256CbcHmacKey legacyKey) = .ok key →
      token.unwrapV1 (keyReader prims cose) key = .ok (.aes256CbcHmacKey legacyKey)) ↔
    token.HoldsLegacyKey prims cose legacyKey := by
  simp only [unwrapV1_eq_ok_iff, unwrapV2_eq_ok_iff, keyReader, unwrapKey_eq_ok_iff,
    decryptData_eq_ok_iff, algorithm_eq_xAes256Gcm_iff]
  constructor
  · intro hbound plaintext key other hopen hkey hother
    obtain ⟨⟨opened, hopened, hlegacy⟩, -⟩ := hbound (.xAes256GcmKey key)
      ⟨⟨plaintext, hopen, hkey⟩, ⟨key, rfl⟩, other.1, other.2, hother⟩
    rw [hopened] at hother
    cases hother
    exact unwrapContent_eq_legacy_iff.mp hlegacy
  · rintro hholds key ⟨⟨plaintext, hopen, hkey⟩, ⟨inner, rfl⟩, content, format, hother⟩
    have hlegacy := hholds plaintext inner (content, format) hopen hkey hother
    refine ⟨⟨_, hother, unwrapContent_eq_legacy_iff.mpr hlegacy⟩, plaintext.1, plaintext.2, hopen⟩

theorem unwrapV2_of_unwrapV1_iff (userKey : XAes256GcmKey) :
    (∀ key, token.unwrapV1 (keyReader prims cose) (.xAes256GcmKey userKey) = .ok key →
      ∃ found, token.unwrapV2 (keyReader prims cose) key = .ok found ∧
        (xAes256GcmKey userKey).Same found) ↔
    token.HoldsUserKey prims cose userKey := by
  simp only [unwrapV1_eq_ok_iff, unwrapV2_eq_ok_iff, keyReader, unwrapKey_eq_ok_iff,
    decryptData_eq_ok_iff, algorithm_eq_xAes256Gcm_iff]
  constructor
  · intro hbound plaintext key other hopen hkey hother
    obtain ⟨found, ⟨⟨opened, hopened, hfound⟩, -⟩, hsame⟩ := hbound key
      ⟨⟨plaintext, hopen, hkey⟩, other.1, other.2, hother⟩
    rw [hopened] at hother
    cases hother
    exact ⟨found, hfound, hsame⟩
  · rintro hholds key ⟨⟨plaintext, hopen, hkey⟩, content, format, hother⟩
    obtain ⟨found, hfound, hsame⟩ := hholds plaintext key (content, format) hopen hkey hother
    have hread : openWrapped prims cose token.wrappedUserKey1 found = .ok plaintext :=
      (openWrapped_same hsame _).trans hopen
    refine ⟨found, ⟨⟨_, hother, hfound⟩, ?_, plaintext.1, plaintext.2, hread⟩, hsame⟩
    cases hsame with
    | xAes256GcmKey _ => exact ⟨_, rfl⟩

variable (prims cose token) in
/-- Unwrapping one half with a key and the other half with the result leads back to that key, in
either direction, if and only if what the result can read in the other half is that key. -/
theorem halves_bound_iff (legacyKey : Aes256CbcHmacKey) (userKey : XAes256GcmKey) :
    ((∀ key, token.unwrapV2 (keyReader prims cose) (.aes256CbcHmacKey legacyKey) = .ok key →
        token.unwrapV1 (keyReader prims cose) key = .ok (.aes256CbcHmacKey legacyKey)) ↔
      token.HoldsLegacyKey prims cose legacyKey) ∧
    ((∀ key, token.unwrapV1 (keyReader prims cose) (.xAes256GcmKey userKey) = .ok key →
        ∃ found, token.unwrapV2 (keyReader prims cose) key = .ok found ∧
          (xAes256GcmKey userKey).Same found) ↔
      token.HoldsUserKey prims cose userKey) :=
  ⟨unwrapV1_of_unwrapV2_iff legacyKey, unwrapV2_of_unwrapV1_iff userKey⟩

variable {userKey : XAes256GcmKey} {found : SymmetricCryptoKey}

theorem holds_of_unwrap
    (hlegacy : unwrapKey prims cose token.wrappedUserKey1 (.xAes256GcmKey userKey) =
      .ok (.aes256CbcHmacKey legacyKey))
    (hfound : unwrapKey prims cose token.wrappedUserKey2 (.aes256CbcHmacKey legacyKey) = .ok found)
    (hsame : (xAes256GcmKey userKey).Same found) :
    token.HoldsLegacyKey prims cose legacyKey ∧ token.HoldsUserKey prims cose userKey := by
  obtain ⟨first, hfirst, hfirstKey⟩ := unwrapKey_eq_ok_iff.mp hlegacy
  obtain ⟨second, hsecond, hsecondKey⟩ := unwrapKey_eq_ok_iff.mp hfound
  constructor
  · intro plaintext key other hopen hkey hother
    rw [hsecond] at hopen
    cases hopen
    rw [hsecondKey] at hkey
    cases hkey
    rw [openWrapped_same hsame, hfirst] at hother
    cases hother
    exact unwrapContent_eq_legacy_iff.mp hfirstKey
  · intro plaintext key other hopen hkey hother
    rw [hfirst] at hopen
    cases hopen
    rw [hfirstKey] at hkey
    cases hkey
    rw [hsecond] at hother
    cases hother
    exact ⟨found, hsecondKey, hsame⟩

end Binding

theorem holds_of_wrap (prims : LawfulPrimitives) (cose : LawfulCosePrimitives) {κ : Type}
    [DecidableEq κ] [KeySlotId κ] (self : KeyStoreContext κ) {v1Slot v2Slot : κ}
    {legacyKey : Aes256CbcHmacKey} {userKey : XAes256GcmKey} {token : V2UpgradeToken EncString}
    {random random' : EncryptionRandom}
    (hlegacy : self.getSymmetricKey v1Slot = .ok (.aes256CbcHmacKey legacyKey))
    (huser : self.getSymmetricKey v2Slot = .ok (.xAes256GcmKey userKey))
    (hoperations : (xAes256GcmKey userKey).operations ⊆ knownOperations)
    (hfirst : self.wrapSymmetricKey prims.toPrimitives cose.toCosePrimitives v2Slot v1Slot random =
      .ok token.wrappedUserKey1)
    (hsecond : self.wrapSymmetricKey prims.toPrimitives cose.toCosePrimitives v1Slot v2Slot
      random' = .ok token.wrappedUserKey2) :
    token.HoldsLegacyKey prims.toPrimitives cose.toCosePrimitives legacyKey ∧
      token.HoldsUserKey prims.toPrimitives cose.toCosePrimitives userKey := by
  have hcan : (xAes256GcmKey userKey).CanWrap := by
    by_contra hcannot
    obtain ⟨error, herror⟩ := wrapSymmetricKey_error huser hcannot v1Slot random
    cases herror.symm.trans hfirst
  obtain ⟨_, _, hwrapped, hsame, hunwrap⟩ :=
    exists_wrapSymmetricKey prims cose self huser hlegacy hcan random
  obtain ⟨_, found, hwrapped', hsame', hunwrap'⟩ :=
    exists_wrapSymmetricKey prims cose self hlegacy huser trivial random'
  rw [hfirst] at hwrapped
  cases hwrapped
  rw [hsecond] at hwrapped'
  cases hwrapped'
  cases hsame with
  | aes256CbcHmacKey _ =>
    rw [if_pos hoperations] at hunwrap'
    exact holds_of_unwrap legacyKey (hunwrap.trans (if_pos (List.nil_subset _))) hunwrap' hsame'

end V2UpgradeToken

/-! ## A half that was replaced -/

def upgradeContext : KeyStoreContext UserSlot where
  globalSymmetricKeys :=
    AList.insert .user (.aes256CbcHmacKey zeroLegacyKey)
      (AList.insert .organization (.xAes256GcmKey zeroKey) ∅)
  readWrite := false
  localSymmetricKeys := ∅

/-- The first half is a message with one byte under the second version's key. The first version's
key unwraps the token, and the key it finds does not. -/
theorem replacedHalf_accepted :
    ∃ (token : V2UpgradeToken EncString) (key : SymmetricCryptoKey),
      token.unwrapV2 (keyReader StreamingDecryptor.plainPrimitives.toPrimitives
        plainCose.toCosePrimitives) (.aes256CbcHmacKey zeroLegacyKey) = .ok key ∧
      token.unwrapV1 (keyReader StreamingDecryptor.plainPrimitives.toPrimitives
        plainCose.toCosePrimitives) key = .error .decryptionFailed := by
  have huser : upgradeContext.getSymmetricKey .user = .ok (.aes256CbcHmacKey zeroLegacyKey) := by
    decide +kernel
  have hupgraded : upgradeContext.getSymmetricKey .organization = .ok (.xAes256GcmKey zeroKey) := by
    decide +kernel
  obtain ⟨wrapped, key, -, hsame, hunwrap⟩ :=
    exists_wrapSymmetricKey plainPrimitives plainCose upgradeContext huser
      hupgraded trivial ⟨Vector.replicate 16 0, Vector.replicate 24 0⟩
  rw [if_pos (by decide)] at hunwrap
  cases hsame with
  | @xAes256GcmKey _ inner _ =>
    obtain ⟨message, -, hsealed⟩ := readsBack_encryptEncrypt0 plainCoset_lawful sumAead_inverts
      (List.mem_cons_of_mem xChaCha20Poly1305Id List.mem_cons_self) inner [1] .octetStream
      (Vector.replicate 24 0)
    have hdecrypt : decryptXAes256Gcm plainCose.toCosePrimitives message inner =
        .ok ([1], .octetStream) := hsealed
    have hread : decryptData plainPrimitives.toPrimitives
        plainCose.toCosePrimitives (.coseEncrypt0 message) (.xAes256GcmKey inner) = .ok [1] := by
      simp only [decryptData, hdecrypt, bind, Except.bind, pure, Except.pure]
    refine ⟨⟨.coseEncrypt0 message, wrapped⟩, .xAes256GcmKey inner, ?_, ?_⟩
    · exact V2UpgradeToken.unwrapV2_eq_ok_iff.mpr ⟨hunwrap, rfl, [1], hread⟩
    · have hfails : unwrapKey plainPrimitives.toPrimitives
          plainCose.toCosePrimitives (.coseEncrypt0 message) (.xAes256GcmKey inner) =
            .error .invalidKey := by
        simp only [unwrapKey, hdecrypt, bind, Except.bind, unwrapContent]
      simp only [V2UpgradeToken.unwrapV1, keyReader, hfails]

end SdkInternal.KeyManagement
