import SdkInternal.Model.Crypto.Aes256CbcHmacAead
import SdkInternal.Verification.Stream.OneShot

/-! # What the two MACs authenticate

The legacy MAC covers an IV and a ciphertext, both chosen by whoever supplies the encrypted
string. The AEAD's MAC covers a label, its own IV and framed data. -/

namespace SdkInternal.Crypto

open Shared Framing
open List hiding Vector

variable (iv : Iv)

def legacyMacInput (data : List UInt8) : List UInt8 := iv.toList ++ data

theorem calculateMac_eq (prims : Primitives) (iv : Iv) (data : List UInt8) (macKey : Subkey) :
    calculateMac prims iv.toList data macKey = prims.hmac macKey (legacyMacInput iv data) := rfl

namespace Aes256CbcHmacSha256Aead

theorem length_macDomainSeparator : macDomainSeparator.length = 40 := by decide +kernel

/-! ## Round trip -/

theorem decrypt_encrypt_eq_ok (prims : LawfulPrimitives) (key : Vector UInt8 64) (nonce : Iv)
    (plaintext associatedData : List UInt8) :
    decrypt prims.toPrimitives key nonce
      (encrypt prims.toPrimitives key nonce plaintext associatedData) associatedData =
        .ok plaintext := by
  have hpadded : decryptPadded prims.toPrimitives (splitToSubkeys key).1 nonce
      (encryptPaddedVec prims.toPrimitives (splitToSubkeys key).1 nonce plaintext) =
        some plaintext := by
    rw [encryptPaddedVec, decryptPadded_join, cbcDecrypt_cbcEncrypt, unpadBlocks_padBlocks]
  simp [decrypt, encrypt, hpadded]

/-! ## Reading a MAC input back -/

/-- What follows the label in a MAC input: an IV and two framed byte strings, and nothing
else. -/
def readBody (bytes : List UInt8) : Option (Iv × List UInt8 × List UInt8) :=
  match Blocks.first 16 bytes with
  | none => none
  | some (iv, rest) =>
    match unframe 8 rest with
    | none => none
    | some (data, rest) =>
      match unframe 8 rest with
      | some (associatedData, []) => some (iv, data, associatedData)
      | _ => none

variable {data associatedData : List UInt8}

theorem readBody_macInput (hdata : data.length < 2 ^ 64) (had : associatedData.length < 2 ^ 64) :
    readBody ((macInput iv data associatedData).drop 40) = some (iv, data, associatedData) := by
  have hdrop : (macInput iv data associatedData).drop 40 =
      iv.toList ++ (frame 8 data ++ (frame 8 associatedData ++ [])) := by
    simp [macInput, drop_left' length_macDomainSeparator]
  rw [hdrop, readBody, Blocks.first_append]
  have hdata' : data.length < 256 ^ 8 := hdata
  have had' : associatedData.length < 256 ^ 8 := had
  simp only [unframe_frame_append hdata', unframe_frame_append had']

theorem macInput_eq_iff {iv iv' : Iv} {data data' associatedData associatedData' : List UInt8}
    (hdata : data.length < 2 ^ 64) (had : associatedData.length < 2 ^ 64)
    (hdata' : data'.length < 2 ^ 64) (had' : associatedData'.length < 2 ^ 64) :
    macInput iv data associatedData = macInput iv' data' associatedData' ↔
      iv = iv' ∧ data = data' ∧ associatedData = associatedData' := by
  constructor
  · intro h
    have hread := readBody_macInput iv hdata had
    rw [h, readBody_macInput iv' hdata' had'] at hread
    cases hread
    exact ⟨rfl, rfl, rfl⟩
  · rintro ⟨rfl, rfl, rfl⟩
    rfl

/-- A byte that moves from the data to the associated data changes what the MAC covers. -/
theorem macInput_moved_byte :
    macInput (Vector.replicate 16 0) [1] [] ≠ macInput (Vector.replicate 16 0) [] [1] := by
  rw [ne_eq, macInput_eq_iff (by decide) (by decide) (by decide) (by decide)]
  decide

theorem eq_macInput_of_readBody {bytes : List UInt8} {iv : Iv}
    (h : readBody bytes = some (iv, data, associatedData)) :
    data.length < 2 ^ 64 ∧ associatedData.length < 2 ^ 64 ∧
      macDomainSeparator ++ bytes = macInput iv data associatedData := by
  unfold readBody at h
  split at h
  case h_1 => cases h
  case h_2 iv' rest hfirst =>
    split at h
    case h_1 => cases h
    case h_2 data' rest' hdata =>
      split at h
      case h_1 ad' had =>
        cases h
        obtain ⟨hlt, rfl⟩ := eq_frame_append hdata
        obtain ⟨hlt', rfl⟩ := eq_frame_append had
        refine ⟨hlt, hlt', ?_⟩
        rw [Blocks.eq_append_of_first hfirst, append_nil, macInput, append_assoc, append_assoc]
      case h_2 => cases h

/-! ## Separation from the legacy construction -/

/-- No MAC input of the AEAD is that of the given legacy message. A length that is cast to
`u64` is below 2^64. -/
def Separated (data : List UInt8) : Prop :=
  ∀ (aeadIv : Iv) (aeadData associatedData : List UInt8), aeadData.length < 2 ^ 64 →
    associatedData.length < 2 ^ 64 →
      macInput aeadIv aeadData associatedData ≠ legacyMacInput iv data

/-- The legacy message starts with the label, which takes up its IV and 24 bytes of its
ciphertext, and goes on like a MAC input of the AEAD. -/
def ReadsAsAead (data : List UInt8) : Prop :=
  iv.toList = macDomainSeparator.take 16 ∧ data.take 24 = macDomainSeparator.drop 16 ∧
    (readBody (data.drop 24)).isSome = true

instance (iv : Iv) (data : List UInt8) : Decidable (ReadsAsAead iv data) :=
  inferInstanceAs (Decidable (_ ∧ _ ∧ _))

theorem take_macInput (data associatedData : List UInt8) :
    (macInput iv data associatedData).take 40 = macDomainSeparator := by
  rw [macInput, append_assoc, append_assoc]
  exact take_left' length_macDomainSeparator

theorem readsAsAead_of_eq {iv aeadIv : Iv} {data aeadData associatedData : List UInt8}
    (hdata : aeadData.length < 2 ^ 64) (had : associatedData.length < 2 ^ 64)
    (h : macInput aeadIv aeadData associatedData = legacyMacInput iv data) :
    ReadsAsAead iv data := by
  have hiv : iv.toList.length = 16 := iv.length_toList
  have hlabel : (iv.toList ++ data).take 40 = macDomainSeparator := by
    rw [← take_macInput aeadIv aeadData associatedData, h, legacyMacInput]
  have hbody : readBody ((iv.toList ++ data).drop 40) =
      some (aeadIv, aeadData, associatedData) := by
    rw [← readBody_macInput aeadIv hdata had, h, legacyMacInput]
  have htake : (iv.toList ++ data).take 40 = iv.toList ++ data.take 24 := by
    rw [take_append, hiv, take_of_length_le (by omega)]
  have hdrop : (iv.toList ++ data).drop 40 = data.drop 24 := by
    rw [drop_append, hiv, drop_eq_nil_of_le (by omega), nil_append]
  rw [htake] at hlabel
  rw [hdrop] at hbody
  refine ⟨?_, ?_, by rw [hbody]; rfl⟩
  · rw [← hlabel, take_left' hiv]
  · rw [← hlabel, drop_left' hiv]

theorem separated_iff (iv : Iv) (data : List UInt8) :
    Separated iv data ↔ ¬ ReadsAsAead iv data := by
  constructor
  · intro hseparated hreads
    obtain ⟨hiv, htake, hsome⟩ := hreads
    obtain ⟨⟨aeadIv, aeadData, associatedData⟩, hbody⟩ := Option.isSome_iff_exists.mp hsome
    obtain ⟨hdata, had, hinput⟩ := eq_macInput_of_readBody hbody
    apply hseparated aeadIv aeadData associatedData hdata had
    calc macInput aeadIv aeadData associatedData = macDomainSeparator ++ data.drop 24 := hinput.symm
      _ = (macDomainSeparator.take 16 ++ macDomainSeparator.drop 16) ++ data.drop 24 := by
          rw [take_append_drop]
      _ = iv.toList ++ (data.take 24 ++ data.drop 24) := by
          rw [← hiv, ← htake, append_assoc]
      _ = legacyMacInput iv data := by rw [take_append_drop, legacyMacInput]
  · intro hreads aeadIv aeadData associatedData hdata had heq
    exact hreads (readsAsAead_of_eq hdata had heq)

/-- The first bytes of the label as an IV, and the rest of it before 32 zero bytes: an IV of
zeros and two empty strings. -/
theorem zero_body_not_separated :
    macInput (Vector.replicate 16 0) [] [] =
      legacyMacInput ⟨(macDomainSeparator.take 16).toArray, by decide +kernel⟩
        (macDomainSeparator.drop 16 ++ List.replicate 32 0) := by
  decide +kernel

end Aes256CbcHmacSha256Aead

end SdkInternal.Crypto
