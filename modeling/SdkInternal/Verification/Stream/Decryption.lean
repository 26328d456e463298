import SdkInternal.Verification.Stream.OneShot

/-! # Streaming decryption

What the decryptor answers to a stream that arrives in chunks, against the stream as a
whole. Calls that are not the last leave at least one byte and at most one block in the
buffer once a block has been released. -/

namespace SdkInternal.Crypto

open Shared Blocks StreamingDecryptor HmacStreamValidator StreamHeader
open List hiding Vector

def ChunkDecryptionResult.released : ChunkDecryptionResult → List UInt8
  | .decryptedChunk bytes | .finalDecryptedChunk bytes => bytes
  | .needMoreData | .error | .panicked => []

namespace StreamingDecryptor

variable (prims : Primitives) (key : Aes256CbcHmacKey)

def fresh : StreamingDecryptor := ⟨[], .uninitialized key⟩

theorem tryNew_eq : tryNew (.aes256CbcHmacKey key) = .ok (fresh key) := rfl

def afterBlocks (header : StreamHeader) (blocks : List Block) : DecryptorState :=
  .streaming ⟨key.encKey, blocks.getLastD header.iv⟩
    ⟨key.macKey, header.iv.toList ++ join blocks⟩ header.mac

def plainBlocks (header : StreamHeader) (blocks : List Block) : List Block :=
  cbcDecrypt prims key.encKey header.iv blocks

theorem plainBlocks_append (header : StreamHeader) (first second : List Block) :
    plainBlocks prims key header (first ++ second) =
      plainBlocks prims key header first ++
        cbcDecrypt prims key.encKey (first.getLastD header.iv) second :=
  Cbc.decrypt_append xorBlock _ _ first second

/-! ## One call -/

theorem decryptBlocks_join (blocks : List Block) (rest : List UInt8) (decryptor : CbcDecryptor)
    (validator : HmacStreamValidator) (released : List UInt8) :
    decryptBlocks prims blocks.length ⟨join blocks ++ rest, decryptor, validator, released⟩ =
      some ⟨rest, { decryptor with previous := blocks.getLastD decryptor.previous },
        { validator with read := validator.read ++ join blocks },
        released ++ join (cbcDecrypt prims decryptor.key decryptor.previous blocks)⟩ := by
  induction blocks generalizing decryptor validator released with
  | nil => simp [decryptBlocks, cbcDecrypt, Cbc.decrypt]
  | cons block blocks ih =>
    rw [length_cons, decryptBlocks, join_cons, append_assoc]
    simp only [readBlock, first_append, ih, CbcDecryptor.decryptBlock,
      HmacStreamValidator.readBlock, cbcDecrypt, Cbc.decrypt, getLastD_cons,
      join_cons, append_assoc]

theorem readHeader_append (header : StreamHeader) (rest : List UInt8) :
    readHeader (header.toBytes ++ rest) = some (header, rest) := by
  obtain ⟨iv, mac⟩ := header
  let bytes : Vector UInt8 headerLength :=
    ⟨(iv.toList ++ mac.toList).toArray, by simp [headerLength]⟩
  have hbytes : bytes.toList = iv.toList ++ mac.toList := rfl
  have hof : StreamHeader.ofBytes bytes = ⟨iv, mac⟩ := by
    simp only [StreamHeader.ofBytes, StreamHeader.mk.injEq, ← Vector.toList_inj, Vector.toList_mk]
    exact ⟨take_left' (by simp), drop_left' (by simp)⟩
  rw [StreamHeader.toBytes, ← hbytes, readHeader, first_append]
  simp only [hof]

theorem exists_header {wire : List UInt8} (h : 48 ≤ wire.length) :
    ∃ (header : StreamHeader) (body : List UInt8), wire = header.toBytes ++ body := by
  obtain ⟨ivs, afterIv, hiv, hivs⟩ :=
    exists_join_append (n := 16) (show 1 * 16 ≤ wire.length by omega)
  obtain ⟨iv, rfl⟩ := length_eq_one_iff.mp hivs
  have hlength : wire.length = 16 + afterIv.length := by simp [hiv]
  obtain ⟨macs, body, hmac, hmacs⟩ :=
    exists_join_append (n := 32) (show 1 * 32 ≤ afterIv.length by omega)
  obtain ⟨mac, rfl⟩ := length_eq_one_iff.mp hmacs
  refine ⟨⟨iv, mac⟩, body, ?_⟩
  rw [hiv, hmac]
  simp [toBytes]

theorem length_toBytes (header : StreamHeader) : header.toBytes.length = 48 := by
  simp [toBytes]

section

variable (header : StreamHeader) (earlier : List Block) {blocks : List Block}
  {buffer rest : List UInt8}

theorem process_more (hbuffer : buffer = join blocks ++ rest)
    (hcount : blocks.length = (buffer.length - 1) / 16) :
    process prims buffer (afterBlocks key header earlier) false =
      (.decryptedChunk (join
          (cbcDecrypt prims key.encKey (earlier.getLastD header.iv) blocks)),
        ⟨rest, afterBlocks key header (earlier ++ blocks)⟩) := by
  have hloop := decryptBlocks_join prims blocks rest
    ⟨key.encKey, earlier.getLastD header.iv⟩
    ⟨key.macKey, header.iv.toList ++ join earlier⟩ []
  rw [← hbuffer, hcount] at hloop
  simp only [process, afterBlocks, Bool.false_eq_true, if_false, hloop, nil_append,
    Cbc.getLastD_append, join_append, append_assoc]

theorem finish_join (decryptor : CbcDecryptor) (validator : HmacStreamValidator)
    (plain : List Block) (mac : Mac) :
    (finish prims ⟨rest, decryptor, validator, join plain⟩ mac).1 =
      if prims.hmac validator.macKey validator.read = mac then
        match unpadBlocks plain with
        | none => .error
        | some plaintext => .finalDecryptedChunk plaintext
      else .error := by
  by_cases hmac : prims.hmac validator.macKey validator.read = mac
  case neg => simp [finish, validateStreamEnd, hmac]
  cases plain using reverseRecOn with
  | nil => simp [finish, validateStreamEnd, hmac, unpadBlocks]
  | append_singleton front last =>
    have hdata : join (front ++ [last]) = join front ++ last.toList := by simp
    have hlength : (join front ++ last.toList).length - 16 = (join front).length := by
      simp
    have hread : readBlock last.toList = some (last, []) := by
      simpa [readBlock] using first_append last []
    simp only [finish, validateStreamEnd, hmac, hdata, hlength,
      drop_left, take_left, hread, isValidPkcs7Padding_eq, unpadBlocks]
    cases hunpad : pkcs7Unpad last with
    | none | some tail => simp [hunpad]

theorem process_last (hbuffer : buffer = join blocks ++ rest) (hrest : rest.length < 16) :
    (process prims buffer (afterBlocks key header earlier) true).1 =
      if prims.hmac key.macKey (header.iv.toList ++ join (earlier ++ blocks)) =
          header.mac then
        match unpadBlocks (cbcDecrypt prims key.encKey (earlier.getLastD header.iv) blocks) with
        | none => .error
        | some plaintext => .finalDecryptedChunk plaintext
      else .error := by
  have hcount : buffer.length / 16 = blocks.length := by
    rw [hbuffer]
    exact length_div hrest
  have hloop := decryptBlocks_join prims blocks rest
    ⟨key.encKey, earlier.getLastD header.iv⟩
    ⟨key.macKey, header.iv.toList ++ join earlier⟩ []
  rw [← hbuffer] at hloop
  simp only [process, afterBlocks, if_true, hcount, hloop, nil_append, finish_join,
    join_append, append_assoc]

end

/-! ## Calls before the last -/

/-- `Reading wire released self` says that `self` has read `wire` and released `released`
in calls that are not the last. -/
inductive Reading : List UInt8 → List UInt8 → StreamingDecryptor → Prop where
  | header {wire : List UInt8} (hlength : wire.length < 48) :
      Reading wire [] ⟨wire, .uninitialized key⟩
  | body (header : StreamHeader) (blocks : List Block) {buffer : List UInt8}
      (hlength : buffer.length ≤ 16) (hheld : blocks ≠ [] → buffer ≠ []) :
      Reading (header.toBytes ++ (join blocks ++ buffer))
        (join (plainBlocks prims key header blocks))
        ⟨buffer, afterBlocks key header blocks⟩

variable {prims key} {wire released : List UInt8} {self : StreamingDecryptor}

/-- Once the header is complete, a call processes what follows the released blocks. -/
theorem Reading.update_eq (h : Reading prims key wire released self) {chunk : List UInt8}
    (hlength : 48 ≤ (wire ++ chunk).length) :
    ∃ (header : StreamHeader) (blocks : List Block) (buffer : List UInt8),
      wire ++ chunk = header.toBytes ++ (join blocks ++ buffer) ∧
      released = join (plainBlocks prims key header blocks) ∧
      (∀ lastBlock, update prims self chunk lastBlock =
        process prims buffer (afterBlocks key header blocks) lastBlock) ∧
      blocks.length = (wire.length - 49) / 16 := by
  cases h with
  | header hshort =>
    obtain ⟨header, body, hwire⟩ := exists_header hlength
    have hread := readHeader_append header body
    rw [← hwire] at hread
    refine ⟨header, [], body, hwire, rfl, ?_, ?_⟩
    · intro lastBlock
      have hlong : ¬ (wire ++ chunk).length < headerLength := not_lt.mpr hlength
      simp only [update, if_neg hlong, hread, DecryptorState.initializeWithHeader, afterBlocks,
        new, join_nil, append_nil, getLastD_nil]
    · rw [length_nil]
      omega
  | body header blocks hbuffer hheld =>
    rename_i buffer
    refine ⟨header, blocks, buffer ++ chunk, by simp, rfl, fun _ => rfl, ?_⟩
    have hpos : blocks.length = 0 ∨ 0 < buffer.length := by
      by_cases hne : blocks = []
      · exact Or.inl (length_eq_zero_iff.mpr hne)
      · exact Or.inr (length_pos_iff.mpr (hheld hne))
    rw [length_append, length_append, length_toBytes, length_join]
    omega

theorem Reading.update (h : Reading prims key wire released self) (chunk : List UInt8) :
    Reading prims key (wire ++ chunk)
      (released ++ (update prims self chunk false).1.released)
      (update prims self chunk false).2 := by
  by_cases hlength : 48 ≤ (wire ++ chunk).length
  · obtain ⟨header, earlier, buffer, hwire, hreleased, hupdate, hearlier⟩ :=
      h.update_eq hlength
    obtain ⟨blocks, rest, hbuffer, hcount⟩ := exists_join_append (n := 16)
      (show (buffer.length - 1) / 16 * 16 ≤ buffer.length by omega)
    have htotal : buffer.length = blocks.length * 16 + rest.length := by
      rw [hbuffer, length_append, length_join]
    rw [hupdate, process_more prims key header earlier hbuffer hcount, hwire, hreleased]
    have hrest : rest.length ≤ 16 := by omega
    have hkept : earlier ++ blocks ≠ [] → rest ≠ [] := by
      rintro hne rfl
      have hsum := congrArg length hwire
      rw [length_append, length_append, length_append, length_toBytes, length_join] at hsum
      rw [length_nil] at htotal
      apply hne
      rw [← length_eq_zero_iff, length_append]
      omega
    have hbody : Reading prims key (header.toBytes ++ (join (earlier ++ blocks) ++ rest))
        (join (plainBlocks prims key header (earlier ++ blocks)))
        ⟨rest, afterBlocks key header (earlier ++ blocks)⟩ :=
      .body header (earlier ++ blocks) hrest hkept
    rw [plainBlocks_append, join_append, join_append, append_assoc, ← hbuffer] at hbody
    exact hbody
  · cases h with
    | header hshort =>
      have hupdate : update prims ⟨wire, .uninitialized key⟩ chunk false =
          (.needMoreData, ⟨wire ++ chunk, .uninitialized key⟩) := by
        have hwait : (wire ++ chunk).length < headerLength := not_le.mp hlength
        simp only [update, if_pos hwait, Bool.false_eq_true, if_false]
      rw [hupdate]
      exact Reading.header (not_le.mp hlength)
    | body header blocks hbuffer hheld =>
      simp [length_toBytes] at hlength

/-! ## The whole stream -/

variable (prims key)

/-- The plaintext of a stream that is read as a whole, without what follows its last whole
block. -/
def wirePlaintext (wire : List UInt8) : Option (List UInt8) :=
  match readHeader wire with
  | none => none
  | some (header, body) =>
    if prims.hmac key.macKey (header.iv.toList ++ join (whole 16 body)) =
        header.mac then
      unpadBlocks (plainBlocks prims key header (whole 16 body))
    else none

theorem wirePlaintext_eq (header : StreamHeader) (blocks : List Block) {rest : List UInt8}
    (hrest : rest.length < 16) :
    wirePlaintext prims key (header.toBytes ++ (join blocks ++ rest)) =
      if prims.hmac key.macKey (header.iv.toList ++ join blocks) = header.mac then
        unpadBlocks (plainBlocks prims key header blocks)
      else none := by
  rw [wirePlaintext, readHeader_append]
  simp only [whole_join_append hrest]

theorem wirePlaintext_of_length_lt {wire : List UInt8} (h : wire.length < headerLength) :
    wirePlaintext prims key wire = none := by
  rw [wirePlaintext, readHeader, first_eq_none h]

theorem le_length_of_wirePlaintext {wire plaintext : List UInt8}
    (h : wirePlaintext prims key wire = some plaintext) : 64 ≤ wire.length := by
  by_cases hshort : wire.length < 48
  · rw [wirePlaintext_of_length_lt prims key hshort] at h
    cases h
  · obtain ⟨header, body, rfl⟩ := exists_header (not_lt.mp hshort)
    obtain ⟨blocks, rest, rfl, hrest⟩ := exists_whole (n := 16) (by decide) body
    rw [wirePlaintext_eq prims key header blocks hrest] at h
    split_ifs at h
    cases blocks with
    | nil => cases h
    | cons block blocks =>
      rw [length_append, length_append, length_toBytes, length_join, length_cons]
      omega

/-- The header authenticates the whole blocks that follow it, and the last of these ends in
a valid padding. -/
def BlocksValid (wire : List UInt8) : Prop :=
  ∃ (header : StreamHeader) (body : List UInt8) (last : Block),
    wire = header.toBytes ++ body ∧
    prims.hmac key.macKey (header.iv.toList ++ join (whole 16 body)) = header.mac ∧
    (plainBlocks prims key header (whole 16 body)).getLast? = some last ∧
    isValidPkcs7Padding last ≠ .invalid

theorem isValidPkcs7Padding_ne_invalid_iff (block : Block) :
    isValidPkcs7Padding block ≠ .invalid ↔ (pkcs7Unpad block).isSome := by
  rw [isValidPkcs7Padding_eq]
  cases pkcs7Unpad block <;> simp

theorem isSome_wirePlaintext_iff (wire : List UInt8) :
    (wirePlaintext prims key wire).isSome ↔ BlocksValid prims key wire := by
  constructor
  · intro hsome
    obtain ⟨plaintext, hplaintext⟩ := Option.isSome_iff_exists.mp hsome
    have hlength := le_length_of_wirePlaintext prims key hplaintext
    obtain ⟨header, body, rfl⟩ := exists_header (show 48 ≤ wire.length by omega)
    rw [wirePlaintext, readHeader_append] at hplaintext
    simp only at hplaintext
    split_ifs at hplaintext with hmac
    cases hlast : (plainBlocks prims key header (whole 16 body)).getLast? with
    | none => simp [unpadBlocks, hlast] at hplaintext
    | some last =>
      refine ⟨header, body, last, rfl, hmac, hlast, ?_⟩
      rw [isValidPkcs7Padding_ne_invalid_iff]
      simp only [unpadBlocks, hlast, Option.map_eq_some_iff] at hplaintext
      obtain ⟨tail, htail, -⟩ := hplaintext
      rw [htail]
      rfl
  · rintro ⟨header, body, last, rfl, hmac, hlast, hvalid⟩
    rw [isValidPkcs7Padding_ne_invalid_iff] at hvalid
    rw [wirePlaintext, readHeader_append]
    simpa [hmac, unpadBlocks, hlast] using hvalid

theorem wirePlaintext_eq_none_iff (wire : List UInt8) :
    wirePlaintext prims key wire = none ↔ ¬ BlocksValid prims key wire := by
  rw [← isSome_wirePlaintext_iff, Option.not_isSome_iff_eq_none]

theorem unpadBlocks_append (first : List Block) {second : List Block} (hne : second ≠ []) :
    unpadBlocks (first ++ second) = (unpadBlocks second).map (join first ++ ·) := by
  obtain ⟨front, last, rfl⟩ : ∃ front last, second = front ++ [last] :=
    ⟨second.dropLast, second.getLast hne, (dropLast_append_getLast hne).symm⟩
  simp only [unpadBlocks, ← append_assoc, getLast?_concat, dropLast_concat,
    Option.map_map, join_append]
  congr 1
  funext tail
  exact append_assoc _ _ _

variable {prims key}

/-- What the last call answers, by the number of blocks that are left for it. -/
theorem Reading.last (h : Reading prims key wire released self) (chunk : List UInt8) :
    (StreamingDecryptor.update prims self chunk true).1 = .error ∧
        (wirePlaintext prims key (wire ++ chunk) = none ∨
          ((wire ++ chunk).length - 48) / 16 = (wire.length - 49) / 16) ∨
      ∃ bytes, (StreamingDecryptor.update prims self chunk true).1 = .finalDecryptedChunk bytes ∧
        wirePlaintext prims key (wire ++ chunk) = some (released ++ bytes) ∧
        (wire.length - 49) / 16 < ((wire ++ chunk).length - 48) / 16 := by
  by_cases hlength : 48 ≤ (wire ++ chunk).length
  · obtain ⟨header, earlier, buffer, hwire, hreleased, hupdate, hearlier⟩ := h.update_eq hlength
    obtain ⟨blocks, rest, hbuffer, hrest⟩ := exists_whole (n := 16) (by decide) buffer
    have hwhole : wire ++ chunk = header.toBytes ++ (join (earlier ++ blocks) ++ rest) := by
      rw [hwire, hbuffer, join_append, append_assoc]
    have hcount : ((wire ++ chunk).length - 48) / 16 = earlier.length + blocks.length := by
      rw [hwhole, length_append, length_append, length_toBytes, length_join, length_append]
      omega
    rw [hupdate, process_last prims key header earlier hbuffer hrest, hcount, ← hearlier, hwhole,
      wirePlaintext_eq prims key header _ hrest, plainBlocks_append]
    split_ifs with hmac
    · by_cases hne : blocks = []
      · subst hne
        exact Or.inl ⟨rfl, Or.inr (by simp)⟩
      · have hpos : 0 < blocks.length := length_pos_iff.mpr hne
        have hplain : cbcDecrypt prims key.encKey (earlier.getLastD header.iv) blocks ≠ [] := by
          rw [← length_pos_iff, cbcDecrypt, Cbc.length_decrypt]
          exact hpos
        rw [unpadBlocks_append _ hplain, hreleased]
        cases unpadBlocks (cbcDecrypt prims key.encKey (earlier.getLastD header.iv) blocks) with
        | none => exact Or.inl ⟨rfl, Or.inl rfl⟩
        | some bytes => exact Or.inr ⟨bytes, rfl, rfl, by omega⟩
    · exact Or.inl ⟨rfl, Or.inl rfl⟩
  · refine Or.inl ⟨?_, Or.inl (wirePlaintext_of_length_lt prims key (not_le.mp hlength))⟩
    cases h with
    | header hshort =>
      have hwait : (wire ++ chunk).length < headerLength := not_le.mp hlength
      simp only [StreamingDecryptor.update, if_pos hwait, if_true]
    | body header blocks hbuffer hheld =>
      simp [length_toBytes] at hlength

end StreamingDecryptor

end SdkInternal.Crypto
