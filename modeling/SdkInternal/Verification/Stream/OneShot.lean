import SdkInternal.Model.Crypto.LegacyStream
import SdkInternal.Model.Crypto.EncString

/-! # Padding and the one-shot cipher

The two padding checks agree, padding can be removed again, and what the one-shot cipher
encrypts it decrypts. -/

namespace SdkInternal.Crypto

open Shared Blocks UInt8
open List hiding Vector

/-! ## Padding -/

theorem exists_toList_eq_concat (block : Block) :
    ∃ (front : List UInt8) (last : UInt8), block.toList = front ++ [last] ∧ front.length = 15 := by
  have hlength : block.toList.length = 16 := block.length_toList
  have hne : block.toList ≠ [] := by
    intro h
    rw [h] at hlength
    cases hlength
  refine ⟨block.toList.dropLast, block.toList.getLast hne, ?_, by simp⟩
  exact (dropLast_append_getLast hne).symm

/-- The stream's own padding check and the library's accept the same blocks. -/
theorem isValidPkcs7Padding_eq (block : Block) :
    isValidPkcs7Padding block =
      match pkcs7Unpad block with
      | none => .invalid
      | some plaintext => .valid plaintext := by
  obtain ⟨front, last, hblock, hfront⟩ := exists_toList_eq_concat block
  have hzero : last.toNat = 0 ↔ last = 0 := by
    rw [← UInt8.toNat_inj]
    rfl
  by_cases hrange : last = 0 ∨ 16 < last.toNat
  · simp [isValidPkcs7Padding, pkcs7Unpad, hblock, hzero, hrange]
  · have hpos : last.toNat ≠ 0 := fun h => hrange (Or.inl (hzero.mp h))
    have hle : last.toNat ≤ 16 := not_lt.mp fun h => hrange (Or.inr h)
    -- both compare the bytes between the plaintext and the last byte
    have hdrop : (front ++ [last]).drop (16 - last.toNat) =
        front.drop (16 - last.toNat) ++ [last] :=
      drop_append_of_le_length (by omega)
    have htake : (front.drop (16 - last.toNat) ++ [last]).take (15 - (16 - last.toNat)) =
        front.drop (16 - last.toNat) := by
      apply take_left'
      rw [length_drop, hfront]
    have hall : ((front.drop (16 - last.toNat) ++ [last]).all fun b => b.toNat == last.toNat) =
        !(front.drop (16 - last.toNat)).any (· != last) := by
      rw [Bool.eq_iff_iff]
      simp [UInt8.toNat_inj]
    simp only [isValidPkcs7Padding, pkcs7Unpad, hblock, getLastD_concat, hzero, hrange,
      if_false, hfront, length_append, length_singleton, hdrop, htake, hall]
    rw [take_append_of_le_length (by omega)]
    cases (front.drop (16 - last.toNat)).any (· != last) with
    | false | true => simp

variable {tail : List UInt8}

theorem toList_pkcs7Pad (htail : tail.length < 16) :
    (pkcs7Pad tail).toList =
      tail ++ replicate (16 - tail.length) (ofNat (16 - tail.length)) := by
  simp only [pkcs7Pad, Vector.toList_mk]
  apply take_of_length_le
  simp
  omega

theorem pkcs7Unpad_pkcs7Pad (htail : tail.length < 16) :
    pkcs7Unpad (pkcs7Pad tail) = some tail := by
  have hbytes := toList_pkcs7Pad htail
  obtain ⟨count, hcount⟩ : ∃ count, count = 16 - tail.length := ⟨_, rfl⟩
  rw [← hcount] at hbytes
  have hnat : (ofNat count).toNat = count := by
    rw [toNat_ofNat']
    omega
  have hlast : (tail ++ replicate count (ofNat count)).getLastD 0 =
      ofNat count := by
    obtain ⟨before, rfl⟩ : ∃ before, count = before + 1 := ⟨count - 1, by omega⟩
    rw [replicate_succ', ← append_assoc, getLastD_concat]
  have hzero : ofNat count ≠ 0 := by
    intro h
    rw [h] at hnat
    change 0 = count at hnat
    omega
  have hstart : 16 - count = tail.length := by omega
  simp only [pkcs7Unpad, hbytes, hlast, hnat, hzero, hstart, drop_left, take_left]
  simp
  omega

/-! ## Chaining -/

theorem xorBlock_cancel (block mask : Block) : xorBlock (xorBlock block mask) mask = block := by
  apply Vector.toList_inj.mp
  apply ext_getElem
  · simp [xorBlock]
  · intro i hleft hright
    simp only [xorBlock, Vector.toList_mk, getElem_zipWith, UInt8.xor_assoc, UInt8.xor_self,
      UInt8.xor_zero]

variable {blocks : List Block}

theorem padBlocks_join (htail : tail.length < 16) :
    padBlocks (join blocks ++ tail) = blocks ++ [pkcs7Pad tail] := by
  rw [padBlocks, whole_join_append htail, remainder_join_append htail]

theorem unpadBlocks_padBlocks (plaintext : List UInt8) :
    unpadBlocks (padBlocks plaintext) = some plaintext := by
  obtain ⟨blocks, tail, rfl, htail⟩ := exists_whole (n := 16) (by decide) plaintext
  rw [padBlocks_join htail]
  simp [unpadBlocks, pkcs7Unpad_pkcs7Pad htail]

theorem cbcDecrypt_cbcEncrypt (prims : LawfulPrimitives) (key : Subkey) (iv : Iv)
    (blocks : List Block) :
    cbcDecrypt prims.toPrimitives key iv (cbcEncrypt prims.toPrimitives key iv blocks) = blocks :=
  Cbc.decrypt_encrypt xorBlock xorBlock_cancel (prims.decryptBlock_encryptBlock key) iv blocks

/-! ## The whole cipher -/

theorem decryptPadded_join (prims : Primitives) (key : Subkey) (iv : Iv) (blocks : List Block) :
    decryptPadded prims key iv (join blocks) =
      unpadBlocks (cbcDecrypt prims key iv blocks) := by
  have hempty : ([] : List UInt8).length < 16 := by decide
  have hwhole : whole 16 (join blocks ++ []) = blocks :=
    whole_join_append hempty
  have hremainder : remainder 16 (join blocks ++ []) = [] :=
    remainder_join_append hempty
  rw [append_nil] at hwhole hremainder
  rw [decryptPadded, if_pos hremainder, hwhole]

theorem decryptPadded_of_remainder (prims : Primitives) (key : Subkey) (iv : Iv)
    (htail : tail.length < 16) (hne : tail ≠ []) :
    decryptPadded prims key iv (join blocks ++ tail) = none := by
  rw [decryptPadded, remainder_join_append htail, if_neg hne]

theorem Aes256CbcHmacSha256.decrypt_encrypt (prims : LawfulPrimitives) (iv : Iv)
    (plaintext : List UInt8) (key : Vector UInt8 64) :
    decrypt prims.toPrimitives iv (encrypt prims.toPrimitives iv plaintext key).2
      (encrypt prims.toPrimitives iv plaintext key).1 key = .ok plaintext := by
  simp only [decrypt, encrypt, encryptPaddedVec, ne_eq, not_true_eq_false, if_false,
    decryptPadded_join, cbcDecrypt_cbcEncrypt, unpadBlocks_padBlocks]

end SdkInternal.Crypto
