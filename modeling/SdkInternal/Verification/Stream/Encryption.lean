import SdkInternal.Verification.Stream.Chunking

/-! # Streaming encryption

The state of the encryptor is a function of the plaintext it has read, as long as the
ciphertext fits its buffer. After the last chunk the ciphertext is that of the one-shot
cipher and is emitted piece by piece. -/

namespace SdkInternal.Crypto

open Shared List Aes256CbcHmacSha256 CiphertextBuffer
open Blocks

/-! ## The ciphertext buffer -/

def CiphertextBuffer.holding (capacity : ℕ) (bytes : List UInt8) (emitted : ℕ) :
    CiphertextBuffer :=
  ⟨⟨bytes ++ List.replicate (capacity - bytes.length) 0, capacity, bytes.length⟩,
    bytes.length, emitted⟩

namespace CiphertextBuffer

variable {capacity : ℕ} {bytes : List UInt8}

theorem new_eq (h : capacity ≤ isizeMax) : new capacity = some (holding capacity [] 0) := by
  simp [new, Buffer.new, h, holding]

theorem new_eq_none (h : isizeMax < capacity) : new capacity = none := by
  simp [new, Buffer.new, not_le.mpr h]

theorem append_of_le (block : Block) (h : bytes.length + 16 ≤ capacity) :
    (holding capacity bytes 0).append block =
      some (holding capacity (bytes ++ block.toList) 0) := by
  have hroom : ¬ capacity < bytes.length + 16 := not_lt.mpr h
  have hdrop : (bytes ++ replicate (capacity - bytes.length) (0 : UInt8)).drop
      (bytes.length + 16) = replicate (capacity - (bytes.length + 16)) 0 := by
    rw [drop_append, drop_of_length_le (by omega), drop_replicate, nil_append]
    congr 1
    omega
  simp [append, Buffer.append, holding, hroom, hdrop]

theorem append_of_lt (block : Block) (h : capacity < bytes.length + 16) :
    (holding capacity bytes 0).append block = none := by
  simp [append, Buffer.append, holding, h]

theorem emitChunk_all {emitted : ℕ} (h : bytes.length ≤ emitted) :
    (holding capacity bytes emitted).emitChunk = some none := by
  simp [emitChunk, holding, Nat.sub_eq_zero_of_le h]

theorem emitChunk_some {emitted : ℕ} (hcapacity : bytes.length ≤ capacity)
    (h : emitted < bytes.length) :
    (holding capacity bytes emitted).emitChunk =
      some (some ((bytes.drop emitted).take emissionChunkSize,
        holding capacity bytes (emitted + min (bytes.length - emitted) emissionChunkSize))) := by
  have hremaining : bytes.length - emitted ≠ 0 := by omega
  have hbounds : ¬ (capacity < emitted + min (bytes.length - emitted) emissionChunkSize ∨
      emitted + min (bytes.length - emitted) emissionChunkSize < emitted) := by
    omega
  have htake : ((bytes ++ replicate (capacity - bytes.length) 0).drop emitted).take
      (min (bytes.length - emitted) emissionChunkSize) =
        (bytes.drop emitted).take emissionChunkSize := by
    rw [drop_append_of_le_length h.le, take_append_of_le_length, ← length_drop,
      Nat.min_comm, ← take_eq_take_min]
    rw [length_drop]
    exact Nat.min_le_left _ _
  simp only [emitChunk, holding, Buffer.index, if_neg hremaining, if_neg hbounds,
    Nat.add_sub_cancel_left, htake, Option.map_some]

end CiphertextBuffer

namespace StreamingEncryptor

variable (prims : Primitives) (key : Aes256CbcHmacKey) (iv : Iv) (capacity : ℕ)

/-! ## One call -/

section

variable {prims} {capacity} {blocks : List Block} {rest bytes read : List UInt8}
  {subkey macKey : Subkey} {previous : Block} {rounds : ℕ}

theorem encryptBlocks_eq (hrest : rest.length < 16) (hrounds : blocks.length ≤ rounds)
    (hbytes : bytes.length ≤ capacity) :
    let result := encryptBlocks prims rounds ⟨join blocks ++ rest, .holding capacity bytes 0,
      ⟨subkey, previous⟩, ⟨macKey, read⟩⟩
    let encrypted := cbcEncrypt prims subkey previous blocks
    if bytes.length + blocks.length * 16 ≤ capacity then
      result = .ok ⟨rest, .holding capacity (bytes ++ join encrypted) 0,
        ⟨subkey, encrypted.getLastD previous⟩, ⟨macKey, read ++ join encrypted⟩⟩
    else ∃ progress, result = .error progress := by
  induction blocks generalizing bytes read previous rounds with
  | nil =>
    cases rounds with
    | zero => simp [encryptBlocks, cbcEncrypt, Cbc.encrypt, hbytes]
    | succ rounds =>
      simp [encryptBlocks, readBlock, first_eq_none hrest, cbcEncrypt, Cbc.encrypt, hbytes]
  | cons block blocks ih =>
    rw [length_cons] at hrounds
    obtain ⟨rounds, rfl⟩ : ∃ before, rounds = before + 1 := ⟨rounds - 1, by omega⟩
    simp only [encryptBlocks, join_cons, append_assoc, readBlock, first_append,
      CbcEncryptor.encryptBlock, HmacStreamValidator.readBlock, length_cons, Nat.add_mul,
      Nat.one_mul, cbcEncrypt, Cbc.encrypt, getLastD_cons]
    by_cases hfits : bytes.length + 16 ≤ capacity
    · rw [append_of_le _ hfits]
      let next := prims.encryptBlock subkey (xorBlock block previous)
      have hloop := @ih (bytes ++ next.toList) (read ++ next.toList) next rounds
        (Nat.le_of_succ_le_succ hrounds) (by simpa using hfits)
      simpa [next, cbcEncrypt, Nat.add_assoc, Nat.add_comm 16] using hloop
    · rw [append_of_lt _ (not_le.mp hfits), if_neg (by omega)]
      exact ⟨_, rfl⟩

end

def blocksAfter (plaintext : List UInt8) : EncryptedBlocks :=
  let encrypted := cbcEncrypt prims key.encKey iv (whole 16 plaintext)
  { plaintextBuffer := remainder 16 plaintext
    ciphertextBuffer := .holding capacity (join encrypted) 0
    encryptor := ⟨key.encKey, encrypted.getLastD iv⟩
    integrityValidator := ⟨key.macKey, iv.toList ++ join encrypted⟩ }

def afterPlaintext (plaintext : List UInt8) : StreamingEncryptor :=
  let progress := blocksAfter prims key iv capacity plaintext
  ⟨progress.ciphertextBuffer, progress.plaintextBuffer,
    .streaming progress.encryptor progress.integrityValidator iv⟩

variable {tail : List UInt8} {blocks : List Block}

theorem blocksAfter_join (htail : tail.length < 16) :
    blocksAfter prims key iv capacity (join blocks ++ tail) =
      ⟨tail, .holding capacity (join (cbcEncrypt prims key.encKey iv blocks)) 0,
        ⟨key.encKey, (cbcEncrypt prims key.encKey iv blocks).getLastD iv⟩,
        ⟨key.macKey, iv.toList ++ join (cbcEncrypt prims key.encKey iv blocks)⟩⟩ := by
  rw [blocksAfter, whole_join_append htail, remainder_join_append htail]

theorem afterPlaintext_nil :
    afterPlaintext prims key iv capacity [] =
      ⟨.holding capacity [] 0, [], .streaming ⟨key.encKey, iv⟩ (.new key.macKey iv) iv⟩ := by
  simp [afterPlaintext, blocksAfter, whole, initial, remainder, cbcEncrypt,
    Cbc.encrypt, HmacStreamValidator.new]

theorem cbcEncrypt_append (first second : List Block) :
    cbcEncrypt prims key.encKey iv (first ++ second) =
      cbcEncrypt prims key.encKey iv first ++
        cbcEncrypt prims key.encKey ((cbcEncrypt prims key.encKey iv first).getLastD iv) second :=
  Cbc.encrypt_append xorBlock _ iv first second

variable {capacity} {plaintext chunk : List UInt8}

theorem length_join_cbcEncrypt :
    (join (cbcEncrypt prims key.encKey iv blocks)).length = blocks.length * 16 := by
  rw [length_join, cbcEncrypt, Cbc.length_encrypt]

theorem encryptBlocks_blocksAfter (chunk : List UInt8)
    (hplaintext : plaintext.length / 16 * 16 ≤ capacity) :
    let progress := blocksAfter prims key iv capacity plaintext
    let result := encryptBlocks prims (progress.plaintextBuffer ++ chunk).length
      { progress with plaintextBuffer := progress.plaintextBuffer ++ chunk }
    ((plaintext ++ chunk).length / 16 * 16 ≤ capacity →
      result = .ok (blocksAfter prims key iv capacity (plaintext ++ chunk))) ∧
    (¬(plaintext ++ chunk).length / 16 * 16 ≤ capacity → ∃ progress, result = .error progress) := by
  refine ite_prop_iff_and.mp ?_
  obtain ⟨first, second, tail, rest, rfl, htail, hrest, hlength, hread⟩ :=
    exists_whole_append (n := 16) (by decide) plaintext chunk
  have hrounds : second.length ≤ (join second ++ rest).length := by
    rw [length_append, length_join]
    omega
  rw [length_div htail, ← length_join_cbcEncrypt prims key iv] at hplaintext
  simp only [hread, hrest, length_div hlength, blocksAfter_join prims key iv capacity hlength,
    blocksAfter_join prims key iv capacity htail]
  rw [length_append, Nat.add_mul, ← length_join_cbcEncrypt prims key iv, cbcEncrypt_append,
    join_append, Cbc.getLastD_append, ← append_assoc]
  exact encryptBlocks_eq hlength hrounds hplaintext

def emitting (capacity : ℕ) (bytes : List UInt8) (emitted : ℕ) : StreamingEncryptor :=
  ⟨.holding capacity bytes emitted, [], .emitting⟩

/-- The last block is padded like the one-shot cipher's. -/
theorem readBlock_padded (htail : tail.length < 16) :
    readBlock (tail ++ replicate (16 - tail.length) (UInt8.ofNat (16 - tail.length))) =
      some (pkcs7Pad tail, []) := by
  rw [← toList_pkcs7Pad htail, readBlock]
  simpa using first_append (pkcs7Pad tail) []

theorem encryptPaddedVec_join (htail : tail.length < 16) :
    encryptPaddedVec prims key.encKey iv (join blocks ++ tail) =
      join (cbcEncrypt prims key.encKey iv blocks) ++
        (prims.encryptBlock key.encKey (xorBlock (pkcs7Pad tail)
          ((cbcEncrypt prims key.encKey iv blocks).getLastD iv))).toList := by
  rw [encryptPaddedVec, padBlocks_join htail, cbcEncrypt_append, join_append]
  simp [cbcEncrypt, Cbc.encrypt]

/-- The header carries the MAC of the one-shot cipher, whose ciphertext is emitted next. -/
theorem finish_blocksAfter :
    let result := finish prims (blocksAfter prims key iv capacity plaintext) iv
    ((plaintext.length / 16 + 1) * 16 ≤ capacity → result =
      (.encryptedChunk (iv.toList ++ (encrypt prims iv plaintext key.key).1.toList),
        emitting capacity (encrypt prims iv plaintext key.key).2 0)) ∧
    (¬(plaintext.length / 16 + 1) * 16 ≤ capacity →
      ∃ self, result = (.error, self) ∧ self.encryptorState = .error) := by
  refine ite_prop_iff_and.mp ?_
  obtain ⟨blocks, tail, rfl, htail⟩ := exists_whole (n := 16) (by decide) plaintext
  have hsubkeys : splitToSubkeys key.key = (key.encKey, key.macKey) := rfl
  simp only [blocksAfter_join prims key iv capacity htail, finish, readBlock_padded htail,
    CbcEncryptor.encryptBlock, length_div htail, Nat.add_mul, Nat.one_mul]
  rw [← length_join_cbcEncrypt prims key iv]
  split
  next hfits =>
    simp only [append_of_le _ hfits, encrypt, hsubkeys,
      encryptPaddedVec_join prims key iv htail, calculateMac, HmacStreamValidator.readBlock,
      HmacStreamValidator.endStream, StreamHeader.toBytes, emitting, append_assoc]
  next hfull =>
    rw [append_of_lt _ (not_le.mp hfull)]
    exact ⟨_, rfl, rfl⟩

theorem update_more (hroom : (plaintext ++ chunk).length / 16 * 16 ≤ capacity) :
    update prims (afterPlaintext prims key iv capacity plaintext) chunk false =
      (.needMoreData, afterPlaintext prims key iv capacity (plaintext ++ chunk)) := by
  have hplaintext : plaintext.length / 16 * 16 ≤ capacity := by
    rw [length_append] at hroom
    omega
  have hloop := (encryptBlocks_blocksAfter prims key iv chunk hplaintext).1 hroom
  simp only [update, afterPlaintext]
  rw [hloop]
  rfl

theorem update_last (hroom : ((plaintext ++ chunk).length / 16 + 1) * 16 ≤ capacity) :
    update prims (afterPlaintext prims key iv capacity plaintext) chunk true =
      (.encryptedChunk (iv.toList ++
          (encrypt prims iv (plaintext ++ chunk) key.key).1.toList),
        emitting capacity
          (encrypt prims iv (plaintext ++ chunk) key.key).2 0) := by
  have hplaintext : plaintext.length / 16 * 16 ≤ capacity := by
    rw [length_append] at hroom
    omega
  have hblocks : (plaintext ++ chunk).length / 16 * 16 ≤ capacity := by omega
  have hloop := (encryptBlocks_blocksAfter prims key iv chunk hplaintext).1 hblocks
  rw [← (finish_blocksAfter prims key iv).1 hroom]
  simp only [update, afterPlaintext]
  rw [hloop]
  rfl

theorem update_full (hplaintext : plaintext.length / 16 * 16 ≤ capacity) {lastBlock : Bool}
    (hroom : capacity < (plaintext ++ chunk).length / 16 * 16 ∨
      lastBlock = true ∧ capacity < ((plaintext ++ chunk).length / 16 + 1) * 16) :
    ∃ self, update prims (afterPlaintext prims key iv capacity plaintext) chunk lastBlock =
      (.error, self) ∧ self.encryptorState = .error := by
  obtain ⟨hfits, hfails⟩ := encryptBlocks_blocksAfter prims key iv chunk hplaintext
  simp only [update, afterPlaintext]
  by_cases hblocks : (plaintext ++ chunk).length / 16 * 16 ≤ capacity
  · obtain ⟨rfl, hfull⟩ := hroom.resolve_left (not_lt.mpr hblocks)
    rw [hfits hblocks]
    exact (finish_blocksAfter prims key iv).2 (not_le.mpr hfull)
  · obtain ⟨progress, hloop⟩ := hfails hblocks
    rw [hloop]
    exact ⟨_, rfl, rfl⟩

end StreamingEncryptor

end SdkInternal.Crypto
