import SdkInternal.Verification.Stream.Decryption

/-! # Chunking of the encrypted stream

The last call drops the bytes after the last whole block, and an earlier call may already
have released every whole block. So the outcome depends on the chunking exactly if a stream
that does not end at a block has a valid plaintext without those bytes. -/

namespace SdkInternal.Crypto

open Shared List
open Blocks

namespace StreamingDecryptor

variable (prims : Primitives) (key : Aes256CbcHmacKey)

def call (self : StreamingDecryptor) (input : List UInt8 × Bool) :
    ChunkDecryptionResult × StreamingDecryptor :=
  update prims self input.1 input.2

/-- The answers to a stream in chunks, of which only the final one is marked as last. -/
def decryptAll (chunks : List (List UInt8)) (final : List UInt8) : List ChunkDecryptionResult :=
  (feed (call prims) (fresh key) (chunks.map (·, false) ++ [(final, true)])).1

variable (results : List ChunkDecryptionResult)

/-- The answers end in a final chunk and their plaintext is `plaintext`. -/
def Recovers (plaintext : List UInt8) : Prop :=
  (∃ bytes, results.getLast? = some (.finalDecryptedChunk bytes)) ∧
    (results.map ChunkDecryptionResult.released).flatten = plaintext

def Fails : Prop := results.getLast? = some .error

/-- All ways to cut `wire` have the same outcome. -/
def ChunkingIndependent (wire : List UInt8) : Prop :=
  (∃ plaintext, ∀ chunks final, chunks.flatten ++ final = wire →
      Recovers (decryptAll prims key chunks final) plaintext) ∨
    ∀ chunks final, chunks.flatten ++ final = wire → Fails (decryptAll prims key chunks final)

/-! ## Runs -/

variable {prims key}

theorem Reading.feed {wire released : List UInt8} {self : StreamingDecryptor}
    (h : Reading prims key wire released self) (chunks : List (List UInt8)) :
    Reading prims key (wire ++ chunks.flatten)
      (released ++ ((feed (call prims) self (chunks.map (·, false))).1.map
        ChunkDecryptionResult.released).flatten)
      (Shared.feed (call prims) self (chunks.map (·, false))).2 := by
  induction chunks generalizing wire released self with
  | nil => simpa using h
  | cons chunk chunks ih =>
    have hstep : Reading prims key (wire ++ chunk)
        (released ++ (call prims self (chunk, false)).1.released)
        (call prims self (chunk, false)).2 := h.update chunk
    have hrest := ih hstep
    simpa only [map_cons, feed_cons, flatten_cons, append_assoc] using hrest

variable (prims key)

theorem reading_fresh : Reading prims key [] [] (fresh key) := .header (by decide)

/-- How a run ends, by the number of blocks that are left for the last call. -/
theorem decryptAll_cases (chunks : List (List UInt8)) (final : List UInt8) :
    Fails (decryptAll prims key chunks final) ∧
        (wirePlaintext prims key (chunks.flatten ++ final) = none ∨
          ((chunks.flatten ++ final).length - 48) / 16 = (chunks.flatten.length - 49) / 16) ∨
      ∃ plaintext, Recovers (decryptAll prims key chunks final) plaintext ∧
        wirePlaintext prims key (chunks.flatten ++ final) = some plaintext ∧
        (chunks.flatten.length - 49) / 16 < ((chunks.flatten ++ final).length - 48) / 16 := by
  have hreading := (reading_fresh prims key).feed chunks
  rw [nil_append, nil_append] at hreading
  rw [decryptAll, feed_append]
  rcases hreading.last final with ⟨hlast, hwhy⟩ | ⟨bytes, hlast, hplaintext, hblocks⟩
  · refine Or.inl ⟨?_, hwhy⟩
    simp [Fails, call, hlast]
  · refine Or.inr ⟨_, ⟨⟨bytes, ?_⟩, rfl⟩, ?_, hblocks⟩
    · simp [call, hlast]
    · simp [call, hlast, hplaintext, ChunkDecryptionResult.released]

variable {plaintext : List UInt8}

section Outcome

variable {prims key} {chunks : List (List UInt8)} {final : List UInt8}

theorem fails_of_wirePlaintext_none
    (h : wirePlaintext prims key (chunks.flatten ++ final) = none) :
    Fails (decryptAll prims key chunks final) := by
  rcases decryptAll_cases prims key chunks final with
    ⟨hfails, -⟩ | ⟨plaintext, -, hsome, -⟩
  · exact hfails
  · rw [h] at hsome
    cases hsome

theorem fails_of_no_block
    (h : ((chunks.flatten ++ final).length - 48) / 16 = (chunks.flatten.length - 49) / 16) :
    Fails (decryptAll prims key chunks final) := by
  rcases decryptAll_cases prims key chunks final with
    ⟨hfails, -⟩ | ⟨plaintext, -, -, hblocks⟩
  · exact hfails
  · omega

section

variable (h : wirePlaintext prims key (chunks.flatten ++ final) = some plaintext)

include h

theorem recovers_of_block
    (hblocks : (chunks.flatten.length - 49) / 16 < ((chunks.flatten ++ final).length - 48) / 16) :
    Recovers (decryptAll prims key chunks final) plaintext := by
  rcases decryptAll_cases prims key chunks final with
    ⟨-, hnone | hblocks'⟩ | ⟨other, hrecovers, hsome, -⟩
  · rw [h] at hnone
    cases hnone
  · omega
  · rw [h, Option.some.injEq] at hsome
    exact hsome ▸ hrecovers

theorem recovers_of_aligned (haligned : ((chunks.flatten ++ final).length - 48) % 16 = 0) :
    Recovers (decryptAll prims key chunks final) plaintext := by
  have hlength := le_length_of_wirePlaintext prims key h
  apply recovers_of_block h
  rw [length_append] at hlength haligned ⊢
  omega

end

end Outcome

theorem not_recovers_and_fails {results : List ChunkDecryptionResult}
    (hrecovers : Recovers results plaintext) (hfails : Fails results) : False := by
  obtain ⟨⟨bytes, hbytes⟩, -⟩ := hrecovers
  rw [Fails, hbytes] at hfails
  cases hfails

section Independence

variable {prims key} {wire plaintext : List UInt8}

/-- One call with everything recovers the plaintext, but an empty last call finds no block
left. -/
theorem not_chunkingIndependent (hplaintext : wirePlaintext prims key wire = some plaintext)
    (hunaligned : (wire.length - 48) % 16 ≠ 0) : ¬ ChunkingIndependent prims key wire := by
  have hlength := le_length_of_wirePlaintext prims key hplaintext
  have hsingle : Recovers (decryptAll prims key [] wire) plaintext := by
    apply recovers_of_block hplaintext
    simp only [flatten_nil, nil_append, length_nil]
    omega
  have hempty : Fails (decryptAll prims key [wire] []) := by
    apply fails_of_no_block
    simp only [flatten_singleton, append_nil]
    omega
  rintro (⟨other, hrecovers⟩ | hfails)
  · exact not_recovers_and_fails (hrecovers [wire] [] (by simp)) hempty
  · exact not_recovers_and_fails hsingle (hfails [] wire rfl)

theorem chunkingIndependent_of_none (h : wirePlaintext prims key wire = none) :
    ChunkingIndependent prims key wire := by
  refine Or.inr ?_
  rintro chunks final rfl
  exact fails_of_wirePlaintext_none h

theorem chunkingIndependent_of_some (h : wirePlaintext prims key wire = some plaintext)
    (haligned : (wire.length - 48) % 16 = 0) : ChunkingIndependent prims key wire := by
  refine Or.inl ⟨plaintext, ?_⟩
  rintro chunks final rfl
  exact recovers_of_aligned h haligned

end Independence

/-- A stream is decrypted alike in all chunkings exactly if it ends at a block or is not
valid without its trailing bytes. -/
theorem chunkingIndependent_iff (wire : List UInt8) :
    ChunkingIndependent prims key wire ↔
      (wire.length - 48) % 16 = 0 ∨ ¬ BlocksValid prims key wire := by
  rw [← wirePlaintext_eq_none_iff]
  cases hplaintext : wirePlaintext prims key wire with
  | none => exact iff_of_true (chunkingIndependent_of_none hplaintext) (Or.inr rfl)
  | some plaintext =>
    by_cases haligned : (wire.length - 48) % 16 = 0
    · exact iff_of_true (chunkingIndependent_of_some hplaintext haligned) (Or.inl haligned)
    · refine iff_of_false (not_chunkingIndependent hplaintext haligned) ?_
      rintro (h | h)
      · exact haligned h
      · cases h

/-! ## Streams of the one-shot cipher -/

def oneShotWire (iv : Iv) (plaintext : List UInt8) : List UInt8 :=
  let encrypted := Aes256CbcHmacSha256.encrypt prims iv plaintext key.key
  iv.toList ++ encrypted.1.toList ++ encrypted.2

theorem length_oneShotWire (iv : Iv) (plaintext : List UInt8) :
    (oneShotWire prims key iv plaintext).length = 48 + (padBlocks plaintext).length * 16 := by
  simp only [oneShotWire, Aes256CbcHmacSha256.encrypt, encryptPaddedVec, cbcEncrypt,
    length_append, Vector.length_toList, length_join, Cbc.length_encrypt]

/-- The bytes after the last whole block of such a stream do not take part. -/
theorem wirePlaintext_oneShotWire_append (prims : LawfulPrimitives) (iv : Iv)
    (plaintext : List UInt8) {rest : List UInt8} (hrest : rest.length < 16) :
    wirePlaintext prims.toPrimitives key (oneShotWire prims.toPrimitives key iv plaintext ++ rest) =
      some plaintext := by
  let encrypted := cbcEncrypt prims.toPrimitives key.encKey iv (padBlocks plaintext)
  let header : StreamHeader :=
    ⟨iv, prims.hmac key.macKey (iv.toList ++ join encrypted)⟩
  have hwire : oneShotWire prims.toPrimitives key iv plaintext ++ rest =
      header.toBytes ++ (join encrypted ++ rest) := by
    rw [← append_assoc]
    rfl
  rw [hwire, wirePlaintext_eq prims.toPrimitives key header encrypted hrest, if_pos rfl,
    plainBlocks, cbcDecrypt_cbcEncrypt, unpadBlocks_padBlocks]

/-- Trailing bytes make every stream of the one-shot cipher depend on the chunking. -/
theorem not_chunkingIndependent_append (prims : LawfulPrimitives) (iv : Iv)
    (plaintext : List UInt8) {rest : List UInt8} (hne : rest ≠ []) (hrest : rest.length < 16) :
    ¬ ChunkingIndependent prims.toPrimitives key
      (oneShotWire prims.toPrimitives key iv plaintext ++ rest) := by
  have hpos : 0 < rest.length := length_pos_iff.mpr hne
  apply not_chunkingIndependent (wirePlaintext_oneShotWire_append key prims iv plaintext hrest)
  rw [length_append, length_oneShotWire]
  omega

def plainPrimitives : LawfulPrimitives where
  encryptBlock _ block := block
  decryptBlock _ block := block
  hmac _ _ := Vector.replicate 32 0
  decryptBlock_encryptBlock _ _ := rfl

/-- The empty plaintext as the one-shot cipher writes it, and one more byte. -/
def trailedWire : List UInt8 := List.replicate 48 0 ++ List.replicate 16 16 ++ [0]

/-- One call accepts the stream, an additional empty call rejects it. -/
theorem trailing_byte_decided_by_chunking :
    trailedWire = oneShotWire plainPrimitives.toPrimitives ⟨Vector.replicate 64 0⟩
        (Vector.replicate 16 0) [] ++ [0] ∧
      decryptAll plainPrimitives.toPrimitives ⟨Vector.replicate 64 0⟩ [] trailedWire =
        [.finalDecryptedChunk []] ∧
      decryptAll plainPrimitives.toPrimitives ⟨Vector.replicate 64 0⟩ [trailedWire] [] =
        [.decryptedChunk (List.replicate 16 16), .error] ∧
      ¬ ChunkingIndependent plainPrimitives.toPrimitives ⟨Vector.replicate 64 0⟩ trailedWire := by
  have hwire : trailedWire = oneShotWire plainPrimitives.toPrimitives ⟨Vector.replicate 64 0⟩
      (Vector.replicate 16 0) [] ++ [0] := by decide
  refine ⟨hwire, by decide, by decide, ?_⟩
  rw [hwire]
  exact not_chunkingIndependent_append _ plainPrimitives _ [] (by decide) (by decide)

end StreamingDecryptor

end SdkInternal.Crypto
