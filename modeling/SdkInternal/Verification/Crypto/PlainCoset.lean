import SdkInternal.Verification.Crypto.KeyEncoding

/-! # A COSE library for what the crate builds

All parts but the last are of fixed width. Algorithms, content types and operations are written as
their places in a table. -/

namespace SdkInternal.Crypto

open List

namespace PlainCoset

section Tables

variable {α : Type} [DecidableEq α] {table : List α} {value : α}

def place (table : List α) (value : α) : UInt8 := UInt8.ofNat (table.idxOf value)

def valueAt (table : List α) (place : UInt8) : Option α := table[place.toNat]?

theorem valueAt_place (hlength : table.length < 256) (h : value ∈ table) :
    valueAt table (place table value) = some value := by
  have hplace := idxOf_lt_length_of_mem h
  rw [valueAt, place, UInt8.toNat_ofNat', Nat.mod_eq_of_lt (by omega), getElem?_idxOf h]

end Tables

def algorithms : List (Option Algorithm) :=
  [some (.privateUse xChaCha20Poly1305Id), some (.privateUse xAes256GcmId), some .a256Gcm]

def contentTypes : List (Option ContentType) :=
  [.utf8, .pkcs8PrivateKey, .spkiPublicKeyDer, .coseKey, .coseSign1, .coseEncrypt0,
    .bitwardenLegacyKey, .octetStream, .cbor].map fun format : ContentFormat =>
      format.toHeader.contentType

def operations : List KeyOperationLabel :=
  [.sign, .verify, .encrypt, .decrypt, .wrapKey, .unwrapKey, .deriveKey, .deriveBits, .macCreate,
    .macVerify].map .assigned

def headerToVec (header : Header) : List UInt8 :=
  place algorithms header.alg :: place contentTypes header.contentType :: header.keyId

def headerFromSlice : List UInt8 → Option Header
  | alg :: contentType :: keyId => do
    let alg ← valueAt algorithms alg
    let contentType ← valueAt contentTypes contentType
    return { alg, contentType, keyId }
  | _ => none

theorem headerFromSlice_headerToVec {algorithm : ℤ} (format : ContentFormat) (keyId : KeyId)
    (h : algorithm ∈ [xChaCha20Poly1305Id, xAes256GcmId]) :
    headerFromSlice (headerToVec (contentHeader format keyId algorithm)) =
      some (contentHeader format keyId algorithm) := by
  have halg : some (.privateUse algorithm) ∈ algorithms := by
    simp only [mem_cons, not_mem_nil, or_false] at h
    rcases h with rfl | rfl <;> decide
  have htype : format.toHeader.contentType ∈ contentTypes := by cases format <;> decide
  simp only [headerToVec, headerFromSlice, contentHeader, valueAt_place (by decide) halg,
    valueAt_place (by decide) htype]
  cases format <;> rfl

def encrypt0ToVec (message : CoseEncrypt0) : Option (List UInt8) :=
  message.ciphertext.map fun ciphertext =>
    headerToVec message.protectedHeader.header ++ (message.unprotected.iv ++ ciphertext)

def encrypt0FromSlice (bytes : List UInt8) : Option CoseEncrypt0 := do
  let header ← headerFromSlice (bytes.take 18)
  let bodyBytes := bytes.drop 18
  return ⟨⟨some (bytes.take 18), header⟩, { iv := bodyBytes.take 24 }, some (bodyBytes.drop 24)⟩

def keyToVec (key : CoseKey) : List UInt8 :=
  place algorithms key.alg :: (key.keyId ++ ((SymmetricCryptoKey.keyBytes key).getD [] ++
    key.keyOps.map (place operations)))

def keyFromSlice : List UInt8 → Option CoseKey
  | alg :: bytes => do
    let alg ← valueAt algorithms alg
    let bodyBytes := bytes.drop 16
    let keyOps ← (bodyBytes.drop 32).mapM (valueAt operations)
    return { CoseKey.newSymmetricKey (bodyBytes.take 32) with keyId := bytes.take 16, alg, keyOps }
  | [] => none

theorem mapM_valueAt_place (labels : List KeyOperation) :
    ((labels.map .assigned).map (place operations)).mapM (valueAt operations) =
      some (labels.map .assigned) := by
  induction labels with
  | nil => rfl
  | cons label labels ih =>
    have hmem : .assigned label ∈ operations := by cases label <;> decide
    rw [map_cons, map_cons, mapM_cons, valueAt_place (by decide) hmem, ih]
    rfl

theorem keyFromSlice_keyToVec (key : CoseSymmetricKey) {alg : Algorithm}
    (h : some alg ∈ algorithms) :
    keyFromSlice (keyToVec (key.toCoseKey alg)) = some (key.toCoseKey alg) := by
  obtain ⟨labels, -, heq⟩ := key.exists_toCoseKey_eq alg
  have hbytes : SymmetricCryptoKey.keyBytes (key.toCoseKey alg) = some key.encKey.toList := by
    rw [heq]
    rfl
  rw [keyToVec, hbytes, heq]
  simp only [keyFromSlice, valueAt_place (by decide) h, Option.getD_some]
  simp [CoseKey.newSymmetricKey, mapM_valueAt_place, -map_map, -mapM_map]

end PlainCoset

open PlainCoset

def plainCoset : Coset where
  keyToVec := keyToVec
  keyFromSlice := keyFromSlice
  headerToVec := headerToVec
  encrypt0ToVec := encrypt0ToVec
  encrypt0FromSlice := encrypt0FromSlice
  encStructure protectedBytes := protectedBytes

theorem plainCoset_lawful : plainCoset.Lawful where
  keyFromSlice_keyToVec key _ h := keyFromSlice_keyToVec key (by simpa [algorithms] using h)
  encrypt0FromSlice_encrypt0ToVec format keyId algorithm nonce ciphertext h := by
    refine ⟨_, rfl, ?_⟩
    have hheader := headerFromSlice_headerToVec format keyId h
    have hlength : (headerToVec (contentHeader format keyId algorithm)).length = 18 := by
      simp [headerToVec, contentHeader]
    simp only [plainCoset, encrypt0FromSlice, sealedMessage, take_left' hlength,
      drop_left' hlength, hheader]
    simp

end SdkInternal.Crypto
