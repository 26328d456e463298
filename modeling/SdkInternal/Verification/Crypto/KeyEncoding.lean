import SdkInternal.Model.Crypto.CoseEncryption
import SdkInternal.Verification.Crypto.EncStringFormats

/-! # Encodings of symmetric keys

Padding can be removed again, and a key that is encoded as a COSE key keeps its bytes, its id
and the set of its operations. -/

namespace SdkInternal.Crypto

open UInt8 CoseKey
open List hiding Vector

/-! ## Padding -/

variable {bytes : List UInt8} {minLength : ℕ}

theorem padBytes_eq (h : minLength - bytes.length ≤ 255) :
    padBytes bytes minLength =
      .ok (bytes ++ replicate (max (minLength - bytes.length) 1)
        (ofNat (max (minLength - bytes.length) 1))) := by
  have hcount : ¬ 255 < max (minLength - bytes.length) 1 := by omega
  have hadded : max minLength (bytes.length + 1) - bytes.length =
      max (minLength - bytes.length) 1 := by omega
  rw [padBytes]
  simp only [if_neg hcount, hadded]

theorem unpadBytes_append_replicate (bytes : List UInt8) {count : ℕ} (hpos : 0 < count)
    (hle : count ≤ 255) :
    unpadBytes (bytes ++ replicate count (ofNat count)) = .ok bytes := by
  have hlast : (bytes ++ replicate count (ofNat count)).getLast? =
      some (ofNat count) := by
    rw [getLast?_append, getLast?_replicate, if_neg (by omega)]
    rfl
  have hcount : (ofNat count).toNat = count := by
    rw [toNat_ofNat']
    omega
  have hrange : ¬ (count = 0 ∨
      (bytes ++ replicate count (ofNat count)).length < count) := by
    rw [length_append, length_replicate]
    omega
  have hlength : (bytes ++ replicate count (ofNat count)).length - count =
      bytes.length := by
    rw [length_append, length_replicate]
    omega
  rw [unpadBytes, hlast]
  simp only [hcount]
  rw [if_neg hrange, hlength, take_left]

theorem exists_padBytes (h : minLength - bytes.length ≤ 255) :
    ∃ padded, padBytes bytes minLength = .ok padded ∧ unpadBytes padded = .ok bytes ∧
      padded.length = max minLength (bytes.length + 1) := by
  refine ⟨_, padBytes_eq h, unpadBytes_append_replicate bytes (by omega) (by omega), ?_⟩
  rw [length_append, length_replicate]
  omega

/-! ## Operations of a COSE key -/

namespace CoseKey

theorem exists_addKeyOp_eq (self : CoseKey) (operation : KeyOperation) :
    ∃ keyOps, self.addKeyOp operation = { self with keyOps := keyOps } := by
  unfold addKeyOp
  split
  · exact ⟨self.keyOps, rfl⟩
  · exact ⟨_, rfl⟩

theorem exists_foldl_addKeyOp_eq (self : CoseKey) (operations : List KeyOperation) :
    ∃ keyOps, operations.foldl addKeyOp self = { self with keyOps := keyOps } := by
  induction operations generalizing self with
  | nil => exact ⟨self.keyOps, rfl⟩
  | cons operation operations ih =>
    obtain ⟨first, hfirst⟩ := exists_addKeyOp_eq self operation
    obtain ⟨keyOps, hkeyOps⟩ := ih { self with keyOps := first }
    rw [foldl_cons, hfirst]
    exact ⟨keyOps, hkeyOps⟩

variable {self : CoseKey} {label : KeyOperationLabel}

theorem mem_keyOps_addKeyOp {operation : KeyOperation} :
    label ∈ (self.addKeyOp operation).keyOps ↔
      label = .assigned operation ∨ label ∈ self.keyOps := by
  unfold addKeyOp
  split
  case isTrue hmem =>
    constructor
    · exact Or.inr
    · rintro (rfl | h)
      · exact hmem
      · exact h
  case isFalse => exact mem_orderedInsert _

theorem mem_keyOps_foldl {operations : List KeyOperation} :
    label ∈ (operations.foldl addKeyOp self).keyOps ↔
      (∃ operation ∈ operations, label = .assigned operation) ∨ label ∈ self.keyOps := by
  induction operations generalizing self with
  | nil => simp
  | cons operation operations ih =>
    rw [foldl_cons, ih, mem_keyOps_addKeyOp]
    simp only [mem_cons, exists_eq_or_imp]
    rw [or_left_comm, or_assoc]

end CoseKey

theorem exists_eq_map_assigned {labels : List KeyOperationLabel}
    (h : ∀ label ∈ labels, ∃ operation, label = .assigned operation) :
    ∃ operations : List KeyOperation, labels = operations.map .assigned := by
  induction labels with
  | nil => exact ⟨[], rfl⟩
  | cons label labels ih =>
    obtain ⟨operation, rfl⟩ := h label mem_cons_self
    obtain ⟨operations, rfl⟩ := ih fun other hmem => h other (mem_cons_of_mem _ hmem)
    exact ⟨operation :: operations, rfl⟩

/-- A key written as a COSE key lists its operations. -/
theorem CoseSymmetricKey.exists_toCoseKey_eq (self : CoseSymmetricKey) (alg : Algorithm) :
    ∃ operations : List KeyOperation,
      (∀ operation, operation ∈ operations ↔ operation ∈ self.supportedOperations) ∧
      self.toCoseKey alg = { newSymmetricKey self.encKey.toList with
        keyId := self.keyId.toList, alg := some alg, keyOps := operations.map .assigned } := by
  obtain ⟨builder, hbuilder⟩ : ∃ builder : CoseKey,
      { newSymmetricKey self.encKey.toList with keyId := self.keyId.toList } = builder :=
    ⟨_, rfl⟩
  have hempty : builder.keyOps = [] := by
    rw [← hbuilder]
    rfl
  have hmem : ∀ label, label ∈ (self.supportedOperations.foldl addKeyOp builder).keyOps ↔
      ∃ operation ∈ self.supportedOperations, label = .assigned operation := by
    intro label
    rw [mem_keyOps_foldl, hempty]
    simp
  obtain ⟨operations, hoperations⟩ := exists_eq_map_assigned fun label hlabel =>
    let ⟨operation, _, heq⟩ := (hmem label).mp hlabel
    ⟨operation, heq⟩
  refine ⟨operations, ?_, ?_⟩
  · intro operation
    have hlabel := hmem (.assigned operation)
    rw [hoperations] at hlabel
    simpa using hlabel
  · obtain ⟨keyOps, hkeyOps⟩ :=
      exists_foldl_addKeyOp_eq builder self.supportedOperations
    rw [hkeyOps] at hoperations
    rw [toCoseKey, hbuilder, hkeyOps, ← hbuilder]
    rw [hoperations]

/-! ## Reading a COSE key back -/

structure CoseSymmetricKey.Same (key key' : CoseSymmetricKey) : Prop where
  keyId : key'.keyId = key.keyId
  encKey : key'.encKey = key.encKey
  operations : ∀ operation,
    operation ∈ key'.supportedOperations ↔ operation ∈ key.supportedOperations

/-- The operations that symmetric keys are made with. -/
def knownOperations : List KeyOperation := [.encrypt, .decrypt, .wrapKey, .unwrapKey]

namespace SymmetricCryptoKey

theorem parseKeyOp_assigned (operation : KeyOperation) :
    parseKeyOp (.assigned operation) =
      if operation ∈ knownOperations then .ok operation else .error .invalidKey := by
  cases operation <;> rfl

theorem mapM_parseKeyOp (operations : List KeyOperation) :
    (operations.map .assigned).mapM parseKeyOp =
      if operations ⊆ knownOperations then .ok operations else .error .invalidKey := by
  induction operations with
  | nil => rfl
  | cons operation operations ih =>
    rw [map_cons, mapM_cons, ih, parseKeyOp_assigned]
    by_cases hhead : operation ∈ knownOperations
    · by_cases htail : operations ⊆ knownOperations <;> simp [hhead, htail] <;> rfl
    · simp [hhead]
      rfl

/-- A COSE key with known operations is read back as the kind of key that its algorithm names. -/
theorem exists_tryFromCoseKey (key : CoseSymmetricKey) (alg : Algorithm) :
    ∃ key', key.Same key' ∧ tryFromCoseKey (key.toCoseKey alg) =
      if key.supportedOperations ⊆ knownOperations then
        if alg = .privateUse xChaCha20Poly1305Id then .ok (.xChaCha20Poly1305Key key')
        else if alg = .privateUse xAes256GcmId then .ok (.xAes256GcmKey key')
        else if alg = .a256Gcm then .ok (.aes256GcmKey key')
        else .error .invalidKey
      else .error .invalidKey := by
  obtain ⟨operations, hmem, heq⟩ := key.exists_toCoseKey_eq alg
  refine ⟨{ key with supportedOperations := operations }, ⟨rfl, rfl, hmem⟩, ?_⟩
  have hbytes : keyBytes (key.toCoseKey alg) = some key.encKey.toList := by
    rw [heq]
    rfl
  have hfields : coseFields (key.toCoseKey alg) key.encKey.toList operations =
      .ok { key with supportedOperations := operations } := by
    rw [coseFields, heq, bytesToArray_toList]
    simp only [bytesToArray_toList]
  have halg : (key.toCoseKey alg).alg = some alg := rfl
  have hops : (key.toCoseKey alg).keyOps.mapM parseKeyOp =
      if key.supportedOperations ⊆ knownOperations then .ok operations else .error .invalidKey := by
    rw [heq, mapM_parseKeyOp]
    simp only [subset_def, hmem]
  rw [tryFromCoseKey, hbytes, halg, hops]
  by_cases hknown : key.supportedOperations ⊆ knownOperations
  · simp only [if_pos hknown, bind, Except.bind, hfields, pure, Except.pure]
  · simp only [if_neg hknown, bind, Except.bind]

/-! ## Reading an encoding back -/

/-- Keys of one kind with the same bytes, the same id and the same set of operations. -/
inductive Same : SymmetricCryptoKey → SymmetricCryptoKey → Prop where
  | aes256CbcKey (key : Aes256CbcKey) : Same (.aes256CbcKey key) (.aes256CbcKey key)
  | aes256CbcHmacKey (key : Aes256CbcHmacKey) :
      Same (.aes256CbcHmacKey key) (.aes256CbcHmacKey key)
  | xChaCha20Poly1305Key {key key' : XChaCha20Poly1305Key} (h : key.Same key') :
      Same (.xChaCha20Poly1305Key key) (.xChaCha20Poly1305Key key')
  | aes256GcmKey {key key' : Aes256GcmKey} (h : key.Same key') :
      Same (.aes256GcmKey key) (.aes256GcmKey key')
  | xAes256GcmKey {key key' : XAes256GcmKey} (h : key.Same key') :
      Same (.xAes256GcmKey key) (.xAes256GcmKey key')

theorem Same.keyId {key key' : SymmetricCryptoKey} (h : key.Same key')
    (thumbprint : List UInt8 → Vector UInt8 32) :
    key'.keyId thumbprint = key.keyId thumbprint := by
  cases h with
  | aes256CbcKey key | aes256CbcHmacKey key => rfl
  | xChaCha20Poly1305Key h | aes256GcmKey h | xAes256GcmKey h => exact congrArg some h.keyId

def operations : SymmetricCryptoKey → List KeyOperation
  | .aes256CbcKey _ | .aes256CbcHmacKey _ => []
  | .xChaCha20Poly1305Key key | .aes256GcmKey key | .xAes256GcmKey key => key.supportedOperations

section Encoding

variable {coset : Coset} (hcoset : coset.Lawful)

theorem tryFromLegacy_aes256Cbc (key : Aes256CbcKey) :
    tryFromLegacy coset key.encKey.toList = .ok (.aes256CbcKey key) := by
  have hlength : key.encKey.toList.length = aes256CbcKeyLen := key.encKey.length_toList
  rw [tryFromLegacy, if_pos (Or.inr hlength), tryFromEncoded, bytesToArray_toList]

theorem tryFromLegacy_aes256CbcHmac (key : Aes256CbcHmacKey) :
    tryFromLegacy coset key.key.toList = .ok (.aes256CbcHmacKey key) := by
  have hlength : key.key.toList.length = aes256CbcHmacKeyLen := key.key.length_toList
  have hne : key.key.toList.length ≠ 32 := by
    rw [hlength]
    decide
  rw [tryFromLegacy, if_pos (Or.inl hlength), tryFromEncoded, bytesToArray_of_length_ne hne]
  simp only [bytesToArray_toList]

/-- The padding makes a COSE key longer than the other keys. -/
theorem tryFromLegacy_padKey (bytes : List UInt8) :
    tryFromLegacy coset (padKey bytes (ofNat (aes256CbcHmacKeyLen + 1))) =
      tryFromCose coset bytes := by
  have hle : (ofNat (aes256CbcHmacKeyLen + 1)).toNat - bytes.length ≤ 255 := by
    have hmin : (ofNat (aes256CbcHmacKeyLen + 1)).toNat = 65 := rfl
    omega
  obtain ⟨padded, hpad, hunpad, hlength⟩ := exists_padBytes hle
  have hlong : 65 ≤ padded.length := by
    rw [hlength]
    exact le_max_left 65 _
  have hlegacy : ¬ (padded.length = aes256CbcHmacKeyLen ∨ padded.length = aes256CbcKeyLen) := by
    rw [aes256CbcHmacKeyLen, aes256CbcKeyLen]
    omega
  have hcose : aes256CbcHmacKeyLen < padded.length := hlong
  have hkey : padKey bytes (ofNat (aes256CbcHmacKeyLen + 1)) = padded := by
    rw [padKey, hpad]
  rw [hkey, tryFromLegacy, if_neg hlegacy, if_pos hcose, unpadKey, hunpad]
  rfl

include hcoset in
/-- The encoding of a COSE key is read back as the kind that wrote it. -/
theorem exists_tryFromCose {key : SymmetricCryptoKey} {bytes : List UInt8}
    (hencoded : key.toEncodedRaw coset = .coseKey bytes) :
    ∃ key', key.Same key' ∧ tryFromCose coset bytes =
      if key.operations ⊆ knownOperations then .ok key' else .error .invalidKey := by
  cases key with
  | aes256CbcKey key | aes256CbcHmacKey key => cases hencoded
  | xChaCha20Poly1305Key key =>
    cases hencoded
    obtain ⟨key', hsame, hread⟩ := exists_tryFromCoseKey key (.privateUse xChaCha20Poly1305Id)
    refine ⟨_, .xChaCha20Poly1305Key hsame, ?_⟩
    rw [tryFromCose, hcoset.keyFromSlice_keyToVec _ _ (by simp)]
    exact hread
  | aes256GcmKey key =>
    cases hencoded
    obtain ⟨key', hsame, hread⟩ := exists_tryFromCoseKey key .a256Gcm
    refine ⟨_, .aes256GcmKey hsame, ?_⟩
    rw [tryFromCose, hcoset.keyFromSlice_keyToVec _ _ (by simp)]
    exact hread
  | xAes256GcmKey key =>
    cases hencoded
    obtain ⟨key', hsame, hread⟩ := exists_tryFromCoseKey key (.privateUse xAes256GcmId)
    refine ⟨_, .xAes256GcmKey hsame, ?_⟩
    rw [tryFromCose, hcoset.keyFromSlice_keyToVec _ _ (by simp)]
    exact hread

/-- Without padding the two lengths still name the legacy keys. -/
theorem exists_tryFromLegacy_raw {key : SymmetricCryptoKey} {bytes : List UInt8}
    (hencoded : key.toEncodedRaw coset = .bitwardenLegacyKey bytes) :
    ∃ key', key.Same key' ∧ tryFromLegacy coset bytes =
      if key.operations ⊆ knownOperations then .ok key' else .error .invalidKey := by
  cases key with
  | aes256CbcKey key =>
    cases hencoded
    exact ⟨_, .aes256CbcKey key, tryFromLegacy_aes256Cbc key⟩
  | aes256CbcHmacKey key =>
    cases hencoded
    exact ⟨_, .aes256CbcHmacKey key, tryFromLegacy_aes256CbcHmac key⟩
  | xChaCha20Poly1305Key key | aes256GcmKey key | xAes256GcmKey key => cases hencoded

include hcoset in
theorem exists_tryFromLegacy (key : SymmetricCryptoKey) :
    ∃ key', key.Same key' ∧ tryFromLegacy coset (key.toEncoded coset) =
      if key.operations ⊆ knownOperations then .ok key' else .error .invalidKey := by
  unfold toEncoded
  split
  case h_1 bytes hencoded => exact exists_tryFromLegacy_raw hencoded
  case h_2 bytes hencoded =>
    rw [tryFromLegacy_padKey]
    exact exists_tryFromCose hcoset hencoded

end Encoding

end SymmetricCryptoKey

end SdkInternal.Crypto
