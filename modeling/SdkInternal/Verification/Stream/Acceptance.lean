import SdkInternal.Verification.Stream.Chunking
import SdkInternal.Verification.Crypto.EncStringFormats

/-! # Streaming and one-shot acceptance

The one-shot decryptor authenticates every byte after the header and insists on whole
blocks. The streaming decryptor authenticates and decrypts whole blocks only. -/

namespace SdkInternal.Crypto

open Shared List EncString

namespace StreamingDecryptor

variable (prims : Primitives) (key : Aes256CbcHmacKey) (wire : List UInt8)

def decryptOneShot : Except CryptoError (List UInt8) := do
  let encString ← fromBuffer (0x02 :: wire)
  encString.decryptWithKey prims key

/-- A single call and the one-shot decryptor accept `wire` with the same plaintexts. -/
def AcceptsAlike : Prop :=
  ∀ plaintext, (update prims (fresh key) wire true).1 = .finalDecryptedChunk plaintext ↔
    decryptOneShot prims key wire = .ok plaintext

/-! ## A single call -/

variable (wire plaintext : List UInt8)

theorem update_fresh_iff :
    (update prims (fresh key) wire true).1 = .finalDecryptedChunk plaintext ↔
      wirePlaintext prims key wire = some plaintext := by
  rcases (reading_fresh prims key).last wire with
    ⟨hresult, hwhy⟩ | ⟨bytes, hresult, hplaintext, -⟩
  · rw [nil_append] at hwhy
    rw [hresult]
    constructor
    · intro hfinal
      cases hfinal
    intro hsome
    have hlength := le_length_of_wirePlaintext prims key hsome
    rcases hwhy with hnone | hblocks
    · rw [hsome] at hnone
      cases hnone
    · rw [length_nil] at hblocks
      omega
  · rw [nil_append, nil_append] at hplaintext
    rw [hresult, hplaintext]
    simp

/-! ## The one-shot decryptor -/

theorem fromBuffer_toBytes (header : StreamHeader) {data : List UInt8} (hne : data ≠ []) :
    fromBuffer (0x02 :: (header.toBytes ++ data)) =
      .ok (.aes256CbcHmacSha256 header.iv header.mac data) := by
  rw [StreamHeader.toBytes, append_assoc]
  exact fromBuffer_aes256CbcHmac header.iv header.mac hne

theorem decryptOneShot_toBytes_iff (header : StreamHeader) {data : List UInt8} (hne : data ≠ [])
    (plaintext : List UInt8) :
    decryptOneShot prims key (header.toBytes ++ data) = .ok plaintext ↔
      prims.hmac key.macKey (header.iv.toList ++ data) = header.mac ∧
        decryptPadded prims key.encKey header.iv data = some plaintext := by
  have hdecrypt : decryptOneShot prims key (header.toBytes ++ data) =
      decryptWithKey prims (.aes256CbcHmacSha256 header.iv header.mac data) key := by
    rw [decryptOneShot, fromBuffer_toBytes header hne]
    rfl
  have hsubkeys : splitToSubkeys key.key = (key.encKey, key.macKey) := rfl
  rw [hdecrypt]
  by_cases hmac : prims.hmac key.macKey (header.iv.toList ++ data) = header.mac
  · cases hdata : decryptPadded prims key.encKey header.iv data with
    | none | some bytes =>
      simp [decryptWithKey, Aes256CbcHmacSha256.decrypt, calculateMac, hsubkeys, hmac, hdata]
  · simp [decryptWithKey, Aes256CbcHmacSha256.decrypt, calculateMac, hsubkeys, hmac]

theorem decryptOneShot_ne_ok_of_length_lt {wire : List UInt8} (h : wire.length < 49)
    (plaintext : List UInt8) : decryptOneShot prims key wire ≠ .ok plaintext := by
  have hfailed : fromBuffer (0x02 :: wire) =
      .error (.encString (.invalidLength 50 (wire.length + 1))) :=
    fromBuffer_aes256CbcHmac_of_lt h
  rw [decryptOneShot, hfailed]
  intro hok
  cases hok

theorem decryptOneShot_iff :
    decryptOneShot prims key wire = .ok plaintext ↔
      (wire.length - 48) % 16 = 0 ∧ wirePlaintext prims key wire = some plaintext := by
  by_cases hshort : wire.length < 49
  · refine iff_of_false (decryptOneShot_ne_ok_of_length_lt prims key hshort plaintext) ?_
    rintro ⟨-, hsome⟩
    have hlength := le_length_of_wirePlaintext prims key hsome
    omega
  · obtain ⟨header, data, rfl⟩ := exists_header (show 48 ≤ wire.length by omega)
    have hne : data ≠ [] := by
      rintro rfl
      rw [append_nil, length_toBytes] at hshort
      omega
    rw [decryptOneShot_toBytes_iff prims key header hne]
    obtain ⟨blocks, rest, rfl, hrest⟩ := Blocks.exists_whole (n := 16) (by decide) data
    have haligned : ((header.toBytes ++ (Blocks.join blocks ++ rest)).length - 48) % 16 = 0 ↔
        rest = [] := by
      rw [← length_eq_zero_iff, length_append, length_append, length_toBytes, Blocks.length_join]
      omega
    rw [haligned, wirePlaintext_eq prims key header blocks hrest]
    by_cases hempty : rest = []
    · subst hempty
      rw [append_nil, decryptPadded_join]
      split_ifs with hmac
      · simp [hmac, plainBlocks]
      · simp [hmac]
    · rw [decryptPadded_of_remainder prims key.encKey header.iv hrest hempty]
      simp [hempty]

/-! ## Comparison -/

/-- The two accept a stream alike exactly if it ends at a block or is not valid without its
trailing bytes. -/
theorem acceptsAlike_iff (wire : List UInt8) :
    AcceptsAlike prims key wire ↔ (wire.length - 48) % 16 = 0 ∨ ¬ BlocksValid prims key wire := by
  rw [← wirePlaintext_eq_none_iff]
  unfold AcceptsAlike
  simp only [update_fresh_iff, decryptOneShot_iff]
  cases hplaintext : wirePlaintext prims key wire with
  | none => simp
  | some plaintext =>
    constructor
    · intro halike
      exact Or.inl ((halike plaintext).mp rfl).1
    · rintro (haligned | hnone)
      · intro other
        exact ⟨fun h => ⟨haligned, h⟩, fun h => h.2⟩
      · cases hnone

/-- The streaming decryptor accepts the additional byte, the one-shot decryptor does not. -/
theorem trailing_byte_accepted_by_stream_only :
    (update plainPrimitives.toPrimitives (fresh ⟨Vector.replicate 64 0⟩) trailedWire true).1 =
        .finalDecryptedChunk [] ∧
      decryptOneShot plainPrimitives.toPrimitives ⟨Vector.replicate 64 0⟩ trailedWire =
        .error .decrypt ∧
      ¬ AcceptsAlike plainPrimitives.toPrimitives ⟨Vector.replicate 64 0⟩ trailedWire := by
  have hstream : (update plainPrimitives.toPrimitives (fresh ⟨Vector.replicate 64 0⟩)
      trailedWire true).1 = .finalDecryptedChunk [] := by decide
  have hshot : decryptOneShot plainPrimitives.toPrimitives ⟨Vector.replicate 64 0⟩ trailedWire =
      .error .decrypt := by decide
  refine ⟨hstream, hshot, ?_⟩
  intro halike
  have hok := (halike []).mp hstream
  rw [hshot] at hok
  cases hok

end StreamingDecryptor

end SdkInternal.Crypto
