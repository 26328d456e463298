import SdkInternal.Verification.Stream.Encryption

/-! # The encrypted stream

A run of the encryptor writes the stream of the one-shot cipher if the declared size leaves
room for it, and nothing otherwise. The room is computed in 64-bit arithmetic. -/

namespace SdkInternal.Crypto

open Shared List Aes256CbcHmacSha256 ChunkEncryptionResult StreamingDecryptor CiphertextBuffer
open StreamingDecryptor (oneShotWire plainPrimitives decryptAll)

def ChunkEncryptionResult.emitted : ChunkEncryptionResult → List UInt8
  | .encryptedChunk bytes | .finalEncryptedChunk bytes => bytes
  | .needMoreData | .error | .panicked => []

namespace StreamingEncryptor

variable (prims : Primitives) (key : Aes256CbcHmacKey) (iv : Iv) (self : StreamingEncryptor)

def call (input : List UInt8 × Bool) : ChunkEncryptionResult × StreamingEncryptor :=
  update prims self input.1 input.2

/-- The answers to a plaintext in chunks, of which only the final one is marked as last, and
to the calls that follow. -/
def encryptAll (chunks : List (List UInt8)) (final : List UInt8) (more : List (List UInt8 × Bool)) :
    List ChunkEncryptionResult :=
  (feed (call prims) self (chunks.map (·, false) ++ (final, true) :: more)).1

variable (results : List ChunkEncryptionResult)

/-- The answers have no error, end in the only final chunk and emit `wire`. -/
def Emits (wire : List UInt8) : Prop :=
  (∃ before last, results = before ++ [.finalEncryptedChunk last] ∧
      ∀ result ∈ before, result = .needMoreData ∨ ∃ bytes, result = .encryptedChunk bytes) ∧
    (results.map ChunkEncryptionResult.emitted).flatten = wire

def EmitsNothing : Prop :=
  ∀ result ∈ results, result = .needMoreData ∨ result = .error

/-! ## Emission -/

section

variable {capacity : ℕ} {bytes : List UInt8} {emitted : ℕ}

theorem call_emitting_all (h : bytes.length ≤ emitted) (input : List UInt8 × Bool) :
    call prims (emitting capacity bytes emitted) input =
      (.finalEncryptedChunk [],
        { emitting capacity bytes emitted with encryptorState := .done }) := by
  simp [call, update, emitting, emitChunk_all h]

theorem call_emitting_some (hcapacity : bytes.length ≤ capacity) (h : emitted < bytes.length)
    (input : List UInt8 × Bool) :
    call prims (emitting capacity bytes emitted) input =
      (.encryptedChunk ((bytes.drop emitted).take emissionChunkSize),
        emitting capacity bytes
          (emitted + min (bytes.length - emitted) emissionChunkSize)) := by
  simp [call, update, emitting, emitChunk_some hcapacity h]

theorem feed_emitting (hcapacity : bytes.length ≤ capacity) (hemitted : emitted ≤ bytes.length) :
    ∃ calls, ∀ flags : List Bool, flags.length = calls → ∃ pieces : List (List UInt8),
      (feed (call prims) (emitting capacity bytes emitted) (flags.map ([], ·))).1 =
        pieces.map .encryptedChunk ++ [.finalEncryptedChunk []] ∧
      pieces.flatten = bytes.drop emitted := by
  -- the bytes that remain decrease with every call
  induction hremaining : bytes.length - emitted using Nat.strong_induction_on
    generalizing emitted with
  | h remaining ih =>
    by_cases hall : bytes.length ≤ emitted
    · refine ⟨1, ?_⟩
      intro flags hflags
      obtain ⟨flag, rfl⟩ := length_eq_one_iff.mp hflags
      refine ⟨[], ?_, (drop_of_length_le hall).symm⟩
      simp [call_emitting_all prims hall]
    · have hsize : 0 < emissionChunkSize := by decide
      have hsome : emitted < bytes.length := not_le.mp hall
      obtain ⟨calls, hcalls⟩ := ih
        (bytes.length - (emitted + min (bytes.length - emitted) emissionChunkSize)) (by omega)
        (by omega) rfl
      refine ⟨calls + 1, ?_⟩
      intro flags hflags
      obtain ⟨flag, flags, rfl⟩ := exists_cons_of_length_eq_add_one hflags
      obtain ⟨pieces, hpieces, hflatten⟩ := hcalls flags (by simpa using hflags)
      refine ⟨(bytes.drop emitted).take emissionChunkSize :: pieces, ?_, ?_⟩
      · simp only [map_cons, feed_cons, call_emitting_some prims hcapacity hsome, hpieces,
          cons_append]
      · rw [flatten_cons, hflatten, ← drop_drop, ← length_drop, Nat.min_comm,
          take_eq_take_min, take_append_drop]

end

/-! ## Runs with room -/

section

variable {capacity : ℕ} {plaintext : List UInt8}

theorem feed_more (chunks : List (List UInt8))
    (hroom : (plaintext ++ chunks.flatten).length / 16 * 16 ≤ capacity) :
    feed (call prims) (afterPlaintext prims key iv capacity plaintext) (chunks.map (·, false)) =
      (replicate chunks.length .needMoreData,
        afterPlaintext prims key iv capacity (plaintext ++ chunks.flatten)) := by
  induction chunks generalizing plaintext with
  | nil => simp
  | cons chunk chunks ih =>
    rw [flatten_cons, ← append_assoc] at hroom
    have hchunk : (plaintext ++ chunk).length / 16 * 16 ≤ capacity := by
      rw [length_append] at hroom
      omega
    have hcall : call prims (afterPlaintext prims key iv capacity plaintext) (chunk, false) =
        (.needMoreData, afterPlaintext prims key iv capacity (plaintext ++ chunk)) :=
      update_more prims key iv hchunk
    simp only [map_cons, feed_cons, hcall, ih hroom, flatten_cons, append_assoc,
      length_cons, replicate_succ]

theorem encrypt_length (plaintext : List UInt8) :
    (encrypt prims iv plaintext key.key).2.length =
      (plaintext.length / 16 + 1) * 16 := by
  obtain ⟨blocks, tail, rfl, htail⟩ := Blocks.exists_whole (n := 16) (by decide) plaintext
  rw [Blocks.length_div htail, encrypt]
  simp only [encryptPaddedVec, padBlocks_join htail, Blocks.length_join, cbcEncrypt,
    Cbc.length_encrypt, length_append, length_singleton]

theorem emits_pieces (waits : ℕ) (header : List UInt8) (pieces : List (List UInt8)) :
    Emits (replicate waits .needMoreData ++ .encryptedChunk header ::
        (pieces.map .encryptedChunk ++ [.finalEncryptedChunk []]))
      (header ++ pieces.flatten) := by
  have hemitted : emitted ∘ .encryptedChunk = id := rfl
  refine ⟨⟨replicate waits .needMoreData ++ .encryptedChunk header ::
    pieces.map .encryptedChunk, [], by simp, ?_⟩, ?_⟩
  · intro result hresult
    simp only [mem_append, mem_replicate, mem_cons, mem_map] at hresult
    rcases hresult with ⟨-, rfl⟩ | rfl | ⟨bytes, -, rfl⟩
    · exact Or.inl rfl
    · exact Or.inr ⟨header, rfl⟩
    · exact Or.inr ⟨bytes, rfl⟩
  · simp [emitted, hemitted]

/-- A run with enough room writes the stream of the one-shot cipher, for every cutting and
whatever the flags of the empty calls. -/
theorem emits_of_room (hroom : (plaintext.length / 16 + 1) * 16 ≤ capacity) :
    ∃ calls, ∀ (chunks : List (List UInt8)) (final : List UInt8) (flags : List Bool),
      chunks.flatten ++ final = plaintext → flags.length = calls →
      Emits (encryptAll prims (afterPlaintext prims key iv capacity []) chunks final
          (flags.map ([], ·)))
        (oneShotWire prims key iv plaintext) := by
  have hlength : (encrypt prims iv plaintext key.key).2.length ≤ capacity := by
    rw [encrypt_length]
    exact hroom
  obtain ⟨calls, hcalls⟩ := feed_emitting prims hlength (Nat.zero_le _)
  refine ⟨calls, ?_⟩
  rintro chunks final flags rfl hflags
  obtain ⟨pieces, hpieces, hflatten⟩ := hcalls flags hflags
  have hchunks : ([] ++ chunks.flatten).length / 16 * 16 ≤ capacity := by
    rw [length_append] at hroom
    rw [nil_append]
    omega
  have hmore := feed_more prims key iv chunks hchunks
  rw [nil_append] at hmore
  have hcall : call prims (afterPlaintext prims key iv capacity chunks.flatten) (final, true) =
      (.encryptedChunk (iv.toList ++
          (encrypt prims iv (chunks.flatten ++ final) key.key).1.toList),
        emitting capacity
          (encrypt prims iv (chunks.flatten ++ final) key.key).2 0) :=
    update_last prims key iv hroom
  have hemits := emits_pieces chunks.length (iv.toList ++
    (encrypt prims iv (chunks.flatten ++ final) key.key).1.toList) pieces
  rw [encryptAll, feed_append, hmore]
  simp only [feed_cons, hcall, hpieces]
  rw [hflatten, drop_zero] at hemits
  exact hemits

/-! ## Runs without room -/

theorem feed_error {self : StreamingEncryptor} (h : self.encryptorState = .error)
    (inputs : List (List UInt8 × Bool)) :
    (feed (call prims) self inputs).1 = replicate inputs.length .error := by
  have hcall : ∀ input, call prims self input = (.error, self) := by
    intro input
    simp [call, update, h]
  induction inputs with
  | nil => rfl
  | cons input inputs ih =>
    rw [feed_cons, hcall, ih, length_cons, replicate_succ]

theorem feed_of_call_error {self failed : StreamingEncryptor} {input : List UInt8 × Bool}
    (hcall : call prims self input = (.error, failed)) (hfailed : failed.encryptorState = .error)
    (inputs : List (List UInt8 × Bool)) :
    error ∈ (feed (call prims) self (input :: inputs)).1 ∧
      EmitsNothing (feed (call prims) self (input :: inputs)).1 := by
  rw [feed_cons, hcall]
  simp only [feed_error prims hfailed]
  refine ⟨mem_cons_self, ?_⟩
  intro result hresult
  rcases mem_cons.mp hresult with rfl | hresult
  · exact Or.inr rfl
  · exact Or.inr (eq_of_mem_replicate hresult)

/-- A run that exceeds the buffer fails without emitting anything. -/
theorem emitsNothing_of_full (hplaintext : plaintext.length / 16 * 16 ≤ capacity)
    (chunks : List (List UInt8)) (final : List UInt8) (more : List (List UInt8 × Bool))
    (hroom : capacity < ((plaintext ++ (chunks.flatten ++ final)).length / 16 + 1) * 16) :
    error ∈
        encryptAll prims (afterPlaintext prims key iv capacity plaintext) chunks final more ∧
      EmitsNothing
        (encryptAll prims (afterPlaintext prims key iv capacity plaintext) chunks final more) := by
  induction chunks generalizing plaintext with
  | nil =>
    obtain ⟨failed, hcall, hfailed⟩ : ∃ failed,
        call prims (afterPlaintext prims key iv capacity plaintext) (final, true) =
          (.error, failed) ∧ failed.encryptorState = .error :=
      update_full prims key iv hplaintext (Or.inr ⟨rfl, hroom⟩)
    exact feed_of_call_error prims hcall hfailed more
  | cons chunk chunks ih =>
    by_cases hchunk : (plaintext ++ chunk).length / 16 * 16 ≤ capacity
    · have hcall : call prims (afterPlaintext prims key iv capacity plaintext) (chunk, false) =
          (.needMoreData, afterPlaintext prims key iv capacity (plaintext ++ chunk)) :=
        update_more prims key iv hchunk
      rw [flatten_cons, append_assoc, ← append_assoc] at hroom
      obtain ⟨herror, hnothing⟩ := ih hchunk hroom
      rw [encryptAll, map_cons, cons_append, feed_cons, hcall]
      refine ⟨mem_cons_of_mem _ herror, ?_⟩
      intro result hresult
      rcases mem_cons.mp hresult with rfl | hresult
      · exact Or.inl rfl
      · exact hnothing result hresult
    · obtain ⟨failed, hcall, hfailed⟩ : ∃ failed,
          call prims (afterPlaintext prims key iv capacity plaintext) (chunk, false) =
            (.error, failed) ∧ failed.encryptorState = .error :=
        update_full prims key iv hplaintext (Or.inl (not_le.mp hchunk))
      exact feed_of_call_error prims hcall hfailed _

end

/-! ## The declared size -/

theorem toNat_ciphertextCapacity (plaintextSize : UInt64) :
    (ciphertextCapacity plaintextSize).toNat =
      if plaintextSize.toNat < 2 ^ 64 - 16 then (plaintextSize.toNat / 16 + 1) * 16 else 0 := by
  have hlt := plaintextSize.toNat_lt
  simp only [ciphertextCapacity, UInt64.toNat_mul, UInt64.toNat_add, UInt64.toNat_div,
    UInt64.reduceToNat]
  split_ifs with hsize
  · omega
  · omega

theorem tryNew_eq (plaintextSize : UInt64) :
    tryNew (.aes256CbcHmacKey key) iv plaintextSize =
      if (ciphertextCapacity plaintextSize).toNat < 2 ^ 63 then
        some (.ok (afterPlaintext prims key iv (ciphertextCapacity plaintextSize).toNat []))
      else none := by
  by_cases hsize : (ciphertextCapacity plaintextSize).toNat < 2 ^ 63
  · have hle : (ciphertextCapacity plaintextSize).toNat ≤ isizeMax := by
      rw [isizeMax]
      omega
    simp only [tryNew, new_eq hle, if_pos hsize, afterPlaintext_nil, Option.map_some]
  · have hlt : isizeMax < (ciphertextCapacity plaintextSize).toNat := by
      rw [isizeMax]
      omega
    simp only [tryNew, new_eq_none hlt, if_neg hsize]
    rfl

/-- An encryptor for a declared size writes the stream of the one-shot cipher if the size
leaves room for the plaintext, and fails without emitting anything if it does not. The
decryptor recovers the plaintext from the stream. Both hold for all cuttings. -/
def WritesOneShot (prims : Primitives) (key : Aes256CbcHmacKey) (iv : Iv)
    (plaintextSize : UInt64) (plaintext : List UInt8) : Prop :=
  ∃ self, tryNew (.aes256CbcHmacKey key) iv plaintextSize = some (.ok self) ∧
    (plaintext.length / 16 ≤ plaintextSize.toNat / 16 →
      ∃ calls, ∀ (chunks : List (List UInt8)) (final : List UInt8) (flags : List Bool),
        chunks.flatten ++ final = plaintext → flags.length = calls →
        Emits (encryptAll prims self chunks final (flags.map ([], ·)))
          (oneShotWire prims key iv plaintext)) ∧
    (plaintextSize.toNat / 16 < plaintext.length / 16 →
      ∀ (chunks : List (List UInt8)) (final : List UInt8),
        chunks.flatten ++ final = plaintext →
        ChunkEncryptionResult.error ∈ encryptAll prims self chunks final [] ∧
          ∀ more, EmitsNothing (encryptAll prims self chunks final more)) ∧
    ∀ (chunks : List (List UInt8)) (final : List UInt8),
      chunks.flatten ++ final = oneShotWire prims key iv plaintext →
      Recovers (decryptAll prims key chunks final) plaintext

theorem not_emits_of_error {results : List ChunkEncryptionResult} {wire : List UInt8}
    (herror : error ∈ results) : ¬ Emits results wire := by
  rintro ⟨⟨before, last, rfl, hbefore⟩, -⟩
  rcases mem_append.mp herror with hmem | hmem
  · rcases hbefore _ hmem with h | ⟨bytes, h⟩ <;> cases h
  · cases mem_singleton.mp hmem

theorem recovers_oneShotWire (prims : LawfulPrimitives) (plaintext : List UInt8)
    {chunks : List (List UInt8)} {final : List UInt8}
    (hwire : chunks.flatten ++ final =
      oneShotWire prims.toPrimitives key iv plaintext) :
    Recovers
      (decryptAll prims.toPrimitives key chunks final) plaintext := by
  have hplaintext := wirePlaintext_oneShotWire_append key prims iv plaintext
    (show ([] : List UInt8).length < 16 by decide)
  rw [append_nil, ← hwire] at hplaintext
  apply recovers_of_aligned hplaintext
  rw [hwire, length_oneShotWire]
  omega

section

variable {key iv} {plaintextSize : UInt64} {plaintext : List UInt8}

theorem writesOneShot_of_lt (prims : LawfulPrimitives)
    (hsize : (plaintextSize.toNat / 16 + 1) * 16 < 2 ^ 63) :
    WritesOneShot prims.toPrimitives key iv plaintextSize plaintext := by
  have hcapacity : (ciphertextCapacity plaintextSize).toNat =
      (plaintextSize.toNat / 16 + 1) * 16 := by
    rw [toNat_ciphertextCapacity, if_pos (by omega)]
  have hnew := tryNew_eq prims.toPrimitives key iv plaintextSize
  rw [hcapacity, if_pos hsize] at hnew
  refine ⟨_, hnew, ?_, ?_, ?_⟩
  · intro hle
    apply emits_of_room
    omega
  · rintro hlt chunks final rfl
    have hempty : ([] : List UInt8).length / 16 * 16 ≤ (plaintextSize.toNat / 16 + 1) * 16 :=
      Nat.zero_le _
    have hfull : (plaintextSize.toNat / 16 + 1) * 16 <
        (([] ++ (chunks.flatten ++ final)).length / 16 + 1) * 16 := by
      rw [nil_append]
      omega
    refine ⟨(emitsNothing_of_full _ key iv hempty chunks final [] hfull).1, ?_⟩
    intro more
    exact (emitsNothing_of_full _ key iv hempty chunks final more hfull).2
  · intro chunks final hwire
    exact recovers_oneShotWire key iv prims plaintext hwire

theorem not_writesOneShot_of_le (prims : Primitives)
    (hsize : 2 ^ 63 ≤ (plaintextSize.toNat / 16 + 1) * 16)
    (hoverflow : plaintextSize.toNat < 2 ^ 64 - 16) :
    ¬ WritesOneShot prims key iv plaintextSize plaintext := by
  rintro ⟨self, hself, -⟩
  rw [tryNew_eq prims, toNat_ciphertextCapacity, if_pos hoverflow, if_neg (not_lt.mpr hsize)]
    at hself
  cases hself

theorem tryNew_of_overflow (prims : Primitives) (hoverflow : 2 ^ 64 - 16 ≤ plaintextSize.toNat) :
    tryNew (.aes256CbcHmacKey key) iv plaintextSize =
      some (.ok (afterPlaintext prims key iv 0 [])) := by
  rw [tryNew_eq prims, toNat_ciphertextCapacity, if_neg (not_lt.mpr hoverflow)]
  rfl

theorem emitsNothing_of_overflow (prims : Primitives) (chunks : List (List UInt8))
    (final : List UInt8) (more : List (List UInt8 × Bool)) :
    error ∈
        encryptAll prims (afterPlaintext prims key iv 0 []) chunks final more ∧
      EmitsNothing (encryptAll prims (afterPlaintext prims key iv 0 []) chunks final more) :=
  emitsNothing_of_full prims key iv (Nat.zero_le 0) chunks final more (by omega)

theorem not_writesOneShot_of_overflow (prims : Primitives)
    (hoverflow : 2 ^ 64 - 16 ≤ plaintextSize.toNat)
    (hle : plaintext.length / 16 ≤ plaintextSize.toNat / 16) :
    ¬ WritesOneShot prims key iv plaintextSize plaintext := by
  rintro ⟨self, hself, hwrites, -⟩
  rw [tryNew_of_overflow prims hoverflow] at hself
  cases hself
  obtain ⟨calls, hcalls⟩ := hwrites hle
  have hemits := hcalls [] plaintext (replicate calls false) rfl length_replicate
  exact not_emits_of_error (emitsNothing_of_overflow prims [] plaintext _).1 hemits

theorem writesOneShot_of_overflow (prims : LawfulPrimitives)
    (hoverflow : 2 ^ 64 - 16 ≤ plaintextSize.toNat)
    (hlt : plaintextSize.toNat / 16 < plaintext.length / 16) :
    WritesOneShot prims.toPrimitives key iv plaintextSize plaintext := by
  refine ⟨_, tryNew_of_overflow prims.toPrimitives hoverflow, ?_, ?_, ?_⟩
  · intro hle
    omega
  · intro _ chunks final _
    refine ⟨(emitsNothing_of_overflow prims.toPrimitives chunks final []).1, ?_⟩
    intro more
    exact (emitsNothing_of_overflow prims.toPrimitives chunks final more).2
  · intro chunks final hwire
    exact recovers_oneShotWire key iv prims plaintext hwire

end

/-- Streaming encryption writes the one-shot format exactly if the padded size can be
allocated, or the size computation overflows and the plaintext is larger still. -/
theorem writesOneShot_iff (prims : LawfulPrimitives) (key : Aes256CbcHmacKey) (iv : Iv)
    (plaintextSize : UInt64) (plaintext : List UInt8) :
    WritesOneShot prims.toPrimitives key iv plaintextSize plaintext ↔
      (plaintextSize.toNat / 16 + 1) * 16 < 2 ^ 63 ∨
        2 ^ 64 - 16 ≤ plaintextSize.toNat ∧ plaintextSize.toNat / 16 < plaintext.length / 16 := by
  constructor
  · intro hwrites
    by_contra hnot
    rw [not_or, not_lt] at hnot
    by_cases hoverflow : plaintextSize.toNat < 2 ^ 64 - 16
    · exact not_writesOneShot_of_le prims.toPrimitives hnot.1 hoverflow hwrites
    · have hle : plaintext.length / 16 ≤ plaintextSize.toNat / 16 :=
        not_lt.mp fun hlt => hnot.2 ⟨not_lt.mp hoverflow, hlt⟩
      exact not_writesOneShot_of_overflow prims.toPrimitives (not_lt.mp hoverflow) hle hwrites
  · rintro (hsize | ⟨hoverflow, hlt⟩)
    · exact writesOneShot_of_lt prims hsize
    · exact writesOneShot_of_overflow prims hoverflow hlt

/-- The largest declarable size wraps the capacity around to zero. -/
theorem largest_size_leaves_no_room :
    ciphertextCapacity 0xFFFFFFFFFFFFFFFF = 0 ∧
      (∃ self, tryNew (.aes256CbcHmacKey ⟨Vector.replicate 64 0⟩) (Vector.replicate 16 0)
          0xFFFFFFFFFFFFFFFF = some (.ok self) ∧
        encryptAll plainPrimitives.toPrimitives self [] [] [] = [.error]) ∧
      ¬ WritesOneShot plainPrimitives.toPrimitives ⟨Vector.replicate 64 0⟩
        (Vector.replicate 16 0) 0xFFFFFFFFFFFFFFFF [] := by
  refine ⟨by decide, ⟨_, rfl, by decide⟩, ?_⟩
  exact not_writesOneShot_of_overflow _ (by decide) (by decide)

end StreamingEncryptor

end SdkInternal.Crypto
