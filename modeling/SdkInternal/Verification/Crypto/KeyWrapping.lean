import SdkInternal.Model.Crypto.KeyStore
import SdkInternal.Verification.Crypto.ContentEncryption
import SdkInternal.Verification.Stream.Chunking

/-! # Wrapping keys

A wrapped key is unwrapped as the key it was, for every kind of wrapping key and every kind
of wrapped key. -/

namespace SdkInternal.Crypto

open Shared Vector SymmetricCryptoKey Vector KeySlotId StreamingDecryptor

def SymmetricCryptoKey.CanWrap : SymmetricCryptoKey → Prop
  | .aes256CbcKey _ => False
  | .aes256CbcHmacKey _ => True
  | .xChaCha20Poly1305Key key => .encrypt ∈ key.supportedOperations
  | .aes256GcmKey _ => False
  | .xAes256GcmKey key => .encrypt ∈ key.supportedOperations

namespace KeyStoreContext

variable {κ : Type} [DecidableEq κ] [KeySlotId κ]

theorem exists_setSymmetricKey_newLocal (self : KeyStoreContext κ) (localId : LocalId)
    (key : SymmetricCryptoKey) :
    ∃ context, self.setSymmetricKey (newLocal localId) key = .ok context ∧
      context.getSymmetricKey (newLocal localId) = .ok key := by
  have hlocal := isLocal_newLocal (κ := κ) localId
  rw [setSymmetricKey, if_pos hlocal]
  refine ⟨_, rfl, ?_⟩
  simp only [getSymmetricKey, if_pos hlocal, AList.lookup_insert]

/-! ## Contents of messages -/

theorem exists_unwrapContent (cose : LawfulCosePrimitives) (key : SymmetricCryptoKey) :
    ∃ key', key.Same key' ∧ unwrapContent cose.toCosePrimitives
      ((key.toEncodedRaw cose.toCoset).toVec, (key.toEncodedRaw cose.toCoset).contentFormat) =
        if key.operations ⊆ knownOperations then .ok key' else .error .invalidKey := by
  cases hencoded : key.toEncodedRaw cose.toCoset with
  | bitwardenLegacyKey bytes => exact exists_tryFromLegacy_raw hencoded
  | coseKey bytes => exact exists_tryFromCose cose.coset_lawful hencoded

theorem contentFormat_readable (encoded : EncodedSymmetricKey) :
    encoded.contentFormat.Readable := by
  have hlegacy : ContentFormat.bitwardenLegacyKey.Readable := by decide
  have hcose : ContentFormat.coseKey.Readable := by decide
  cases encoded with
  | bitwardenLegacyKey key => exact hlegacy
  | coseKey key => exact hcose

/-! ## Wrapping and unwrapping -/

variable (prims : LawfulPrimitives) (cose : LawfulCosePrimitives)

/-- A wrapped key is unwrapped by the key that wrapped it, if its operations are known. -/
theorem exists_wrapSymmetricKey (self : KeyStoreContext κ) {wrappingSlot slot : κ}
    {wrappingKey key : SymmetricCryptoKey}
    (hwrapping : self.getSymmetricKey wrappingSlot = .ok wrappingKey)
    (hkey : self.getSymmetricKey slot = .ok key) (hcan : wrappingKey.CanWrap)
    (random : EncryptionRandom) :
    ∃ wrapped key', self.wrapSymmetricKey prims.toPrimitives cose.toCosePrimitives wrappingSlot
        slot random = .ok wrapped ∧ key.Same key' ∧
      unwrapKey prims.toPrimitives cose.toCosePrimitives wrapped wrappingKey =
        if key.operations ⊆ knownOperations then .ok key' else .error .invalidKey := by
  have hsealed {aead : AeadCipher} (haead : aead.Inverts) (algorithm : ℤ)
      (halgorithm : algorithm ∈ [xChaCha20Poly1305Id, xAes256GcmId]) (w : CoseSymmetricKey) :=
    readsBack_encryptEncrypt0 cose.coset_lawful haead halgorithm w
      (key.toEncodedRaw cose.toCoset).toVec (key.toEncodedRaw cose.toCoset).contentFormat
      random.nonce
  simp only [contentFormat_readable, if_true] at hsealed
  cases wrappingKey with
  | aes256CbcKey w | aes256GcmKey w => exact hcan.elim
  | aes256CbcHmacKey w =>
    obtain ⟨key', hsame, hread⟩ := exists_tryFromLegacy cose.coset_lawful key
    have hdecrypt := Aes256CbcHmacSha256.decrypt_encrypt prims random.iv
      (key.toEncoded cose.toCoset) w.key
    obtain ⟨⟨mac, data⟩, hencrypt⟩ : ∃ result, Aes256CbcHmacSha256.encrypt prims.toPrimitives
        random.iv (key.toEncoded cose.toCoset) w.key = result := ⟨_, rfl⟩
    rw [hencrypt] at hdecrypt
    refine ⟨.aes256CbcHmacSha256 random.iv mac data, key', ?_, hsame, ?_⟩
    · simp only [wrapSymmetricKey, hwrapping, hkey, encryptDataWithSymmetricKey,
        EncString.encryptAes256Hmac, hencrypt, bind, Except.bind]
    · simp only [unwrapKey, hdecrypt, hread]
  | xChaCha20Poly1305Key w =>
    have hencryptOp : .encrypt ∈ w.supportedOperations := hcan
    obtain ⟨key', hsame, hread⟩ := exists_unwrapContent cose key
    obtain ⟨message, hencrypt, hdecrypt⟩ :=
      hsealed cose.xChaCha20Poly1305_inverts xChaCha20Poly1305Id (by simp) w
    refine ⟨.coseEncrypt0 message, key', ?_, hsame, ?_⟩
    · simp only [wrapSymmetricKey, hwrapping, hkey, encryptDataWithSymmetricKey,
        EncString.encryptXChaCha20Poly1305, encryptXChaCha20Poly1305, hencrypt, bind, Except.bind]
      exact if_neg (not_not.mpr hencryptOp)
    · simp only [unwrapKey, decryptXChaCha20Poly1305, hdecrypt, bind, Except.bind, hread]
  | xAes256GcmKey w =>
    have hencryptOp : .encrypt ∈ w.supportedOperations := hcan
    obtain ⟨key', hsame, hread⟩ := exists_unwrapContent cose key
    obtain ⟨message, hencrypt, hdecrypt⟩ := hsealed cose.xAes256Gcm_inverts xAes256GcmId (by simp) w
    refine ⟨.coseEncrypt0 message, key', ?_, hsame, ?_⟩
    · simp only [wrapSymmetricKey, hwrapping, hkey, encryptDataWithSymmetricKey,
        EncString.encryptXAes256Gcm, encryptXAes256Gcm, hencrypt, bind, Except.bind]
      exact if_neg (not_not.mpr hencryptOp)
    · simp only [unwrapKey, decryptXAes256Gcm, hdecrypt, bind, Except.bind, hread]

/-- The context in which a key is unwrapped has it in a slot of its own, and it is the key
that was wrapped. The legacy encoding loses nothing either. -/
theorem unwrap_wrap (thumbprint : List UInt8 → Vector UInt8 32) (self other : KeyStoreContext κ)
    {wrappingSlot otherSlot slot : κ} {wrappingKey key : SymmetricCryptoKey}
    (hwrapping : self.getSymmetricKey wrappingSlot = .ok wrappingKey)
    (hkey : self.getSymmetricKey slot = .ok key)
    (hother : other.getSymmetricKey otherSlot = .ok wrappingKey) (hcan : wrappingKey.CanWrap)
    (hops : ∀ operation ∈ key.operations, operation ∈ knownOperations)
    (random : EncryptionRandom) (localId : LocalId) :
    (∃ wrapped context key',
      self.wrapSymmetricKey prims.toPrimitives cose.toCosePrimitives wrappingSlot slot random =
        .ok wrapped ∧
      other.unwrapSymmetricKey prims.toPrimitives cose.toCosePrimitives otherSlot wrapped
        localId = .ok (newLocal localId, context) ∧
      context.getSymmetricKey (newLocal localId) = .ok key' ∧
      key.Same key' ∧ key'.keyId thumbprint = key.keyId thumbprint) ∧
    ∃ key', tryFromLegacy cose.toCoset (key.toEncoded cose.toCoset) = .ok key' ∧
      key.Same key' ∧ key'.keyId thumbprint = key.keyId thumbprint := by
  have hknown : key.operations ⊆ knownOperations := hops
  constructor
  · obtain ⟨wrapped, key', hwrap, hsame, hunwrap⟩ :=
      exists_wrapSymmetricKey prims cose self hwrapping hkey hcan random
    rw [if_pos hknown] at hunwrap
    obtain ⟨context, hset, hget⟩ := exists_setSymmetricKey_newLocal other localId key'
    refine ⟨wrapped, context, key', hwrap, ?_, hget, hsame, hsame.keyId thumbprint⟩
    simp only [unwrapSymmetricKey, hother, hunwrap, hset, bind, Except.bind]
    rfl
  · obtain ⟨key', hsame, hread⟩ := exists_tryFromLegacy cose.coset_lawful key
    rw [if_pos hknown] at hread
    exact ⟨key', hread, hsame, hsame.keyId thumbprint⟩

end KeyStoreContext

/-! ## A wrapped legacy key -/

inductive UserSlot where
  | user
  | organization
  | newLocal (id : LocalId)
  deriving DecidableEq

instance : KeySlotId UserSlot where
  isLocal slot :=
    match slot with
    | .newLocal _ => true
    | _ => false
  newLocal := .newLocal
  debug slot :=
    match slot with
    | .user => "User"
    | .organization => "Organization"
    | .newLocal _ => "Local"
  isLocal_newLocal _ := rfl

def zeroLegacyKey : Aes256CbcHmacKey := ⟨replicate 64 0⟩

def userContext : KeyStoreContext UserSlot where
  globalSymmetricKeys :=
    AList.insert .user (.xChaCha20Poly1305Key zeroKey)
      (AList.insert .organization (.aes256CbcHmacKey zeroLegacyKey) ∅)
  readWrite := false
  localSymmetricKeys := ∅

theorem unwrap_wrap_organization :
    ∃ wrapped context key',
      userContext.wrapSymmetricKey plainPrimitives.toPrimitives
        plainCose.toCosePrimitives .user
        .organization ⟨replicate 16 0, replicate 24 0⟩ = .ok wrapped ∧
      userContext.unwrapSymmetricKey plainPrimitives.toPrimitives
        plainCose.toCosePrimitives .user
        wrapped ⟨replicate 16 0⟩ = .ok (.newLocal ⟨replicate 16 0⟩, context) ∧
      context.getSymmetricKey (.newLocal ⟨replicate 16 0⟩) = .ok key' ∧
      (aes256CbcHmacKey zeroLegacyKey).Same key' ∧
      key'.keyId (fun _ => replicate 32 0) = some (replicate 16 0) := by
  have huser : userContext.getSymmetricKey .user = .ok (.xChaCha20Poly1305Key zeroKey) := by
    decide +kernel
  have horganization : userContext.getSymmetricKey .organization =
      .ok (.aes256CbcHmacKey zeroLegacyKey) := by
    decide +kernel
  have hcan : (xChaCha20Poly1305Key zeroKey).CanWrap := by
    change KeyOperation.encrypt ∈ zeroKey.supportedOperations
    decide
  exact (KeyStoreContext.unwrap_wrap plainPrimitives plainCose
    (fun _ => replicate 32 0) userContext userContext huser horganization huser hcan
    (by simp [operations])
    ⟨replicate 16 0, replicate 24 0⟩ ⟨replicate 16 0⟩).1

end SdkInternal.Crypto
