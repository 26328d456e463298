import SdkInternal.Model.Crypto.EncString

/-! # The two formats of encrypted strings

What is printed is parsed back, in the text and in the binary form. -/

namespace SdkInternal.Crypto

open Shared Base64
open List hiding Vector

/-! ## Arrays of bytes -/

variable {n : ℕ}

theorem bytesToArray_toList (array : Vector UInt8 n) :
    bytesToArray n array.toList = some array := by
  rw [bytesToArray, dif_pos array.length_toList]
  rfl

theorem toList_of_bytesToArray {bytes : List UInt8} {array : Vector UInt8 n}
    (h : bytesToArray n bytes = some array) : bytes = array.toList := by
  unfold bytesToArray at h
  split at h
  next =>
    cases h
    rfl
  next => cases h

theorem bytesToArray_of_length_ne {bytes : List UInt8} (h : bytes.length ≠ n) :
    bytesToArray n bytes = none := by
  rw [bytesToArray, dif_neg h]

/-! ## Parts of a text -/

variable (bytes : List UInt8)

theorem fromB64Vec_encode : fromB64Vec (encode bytes) = .ok bytes := by
  rw [fromB64Vec, decode_encode]

theorem fromB64_encode (bytes : Vector UInt8 n) : fromB64 n (encode bytes.toList) = .ok bytes := by
  rw [fromB64, fromB64Vec_encode]
  simp only [bind, Except.bind, bytesToArray_toList]

theorem dot_notMem_encode : '.' ∉ encode bytes :=
  mt mem_encode (by decide +kernel)

theorem bar_notMem_encode : '|' ∉ encode bytes :=
  mt mem_encode (by decide +kernel)

theorem dot_notMem_intercalate (parts : List (List UInt8)) :
    '.' ∉ intercalate ['|'] (parts.map encode) := by
  induction parts with
  | nil => simp
  | cons part parts ih =>
    cases parts with
    | nil => simpa using dot_notMem_encode part
    | cons next parts =>
      have hpart := dot_notMem_encode part
      simp only [map_cons, intercalate_cons_cons] at ih ⊢
      simp [hpart, ih]

variable {parts : List (List UInt8)}

theorem splitEncString_parts {header : List Char} (hheader : '.' ∉ header) (hparts : parts ≠ []) :
    splitEncString (header ++ '.' :: intercalate ['|'] (parts.map encode)) =
      (header, parts.map encode) := by
  have hdot : (header ++ '.' :: intercalate ['|'] (parts.map encode)).splitOn '.' =
      [header, intercalate ['|'] (parts.map encode)] := by
    rw [splitOn_append_cons_self, splitOn_eq_singleton hheader,
      splitOn_eq_singleton (dot_notMem_intercalate parts)]
    rfl
  have hbar : (intercalate ['|'] (parts.map encode)).splitOn '|' =
      parts.map encode := by
    apply splitOn_intercalate
    · intro part hpart
      obtain ⟨bytes, -, rfl⟩ := mem_map.mp hpart
      exact bar_notMem_encode bytes
    · simpa using hparts
  rw [splitEncString, hdot]
  simp only [hbar]

namespace EncString

/-! ## Text form -/

def isUnparseable : EncString → Bool
  | .unparseable _ => true
  | _ => false

theorem splitEncString_fmtParts {encType : UInt8} {digit : Char}
    (htype : (ToString.toString encType.toNat).toList = [digit]) (hdot : digit ≠ '.')
    (hparts : parts ≠ []) :
    splitEncString (fmtParts encType parts).toList = ([digit], parts.map encode) := by
  rw [fmtParts, String.toList_ofList, htype]
  exact splitEncString_parts (by simpa using hdot.symm) hparts

variable {self : EncString} {s : String} {buf : List UInt8}

theorem parseKnownFormat_toString (h : self.isUnparseable = false) :
    parseKnownFormat self.toString = some self := by
  have hcbc : (ToString.toString aes256CbcType.toNat).toList = ['0'] := by decide +kernel
  have hhmac : (ToString.toString aes256CbcHmacType.toNat).toList = ['2'] := by decide +kernel
  have hcose : (ToString.toString coseEncrypt0Type.toNat).toList = ['7'] := by decide +kernel
  unfold parseKnownFormat toString
  cases self with
  | aes256Cbc iv data =>
    simp [splitEncString_fmtParts hcbc, fromB64_encode, fromB64Vec_encode, Except.toOption]
  | aes256CbcHmacSha256 iv mac data =>
    simp [splitEncString_fmtParts hhmac, fromB64_encode, fromB64Vec_encode, Except.toOption]
  | coseEncrypt0 data =>
    simp [splitEncString_fmtParts hcose, fromB64Vec_encode, Except.toOption]
  | unparseable raw => cases h

theorem isUnparseable_of_parseKnownFormat (h : parseKnownFormat s = some self) :
    self.isUnparseable = false := by
  unfold parseKnownFormat at h
  split at h
  case h_4 => cases h
  all_goals simp only [Option.bind_eq_bind, Option.bind_eq_some_iff, Option.pure_def] at h
  · obtain ⟨iv, -, data, -, ⟨⟩⟩ := h
    rfl
  · obtain ⟨iv, -, data, -, mac, -, ⟨⟩⟩ := h
    rfl
  · obtain ⟨data, -, ⟨⟩⟩ := h
    rfl

theorem fromStr_of_some (h : parseKnownFormat s = some self) : fromStr s = .ok self := by
  rw [fromStr, h]
  rfl

theorem fromStr_of_none (h : parseKnownFormat s = none) : fromStr s = .ok (.unparseable s) := by
  rw [fromStr, h]
  rfl

/-- Printing and parsing again changes nothing, whatever the text was, and a text that is kept is
printed as it is. -/
theorem exists_fromStr (s : String) :
    ∃ self, fromStr s = .ok self ∧ fromStr self.toString = .ok self ∧
      (self.isUnparseable = true → self.toString = s) ∧
      ((parseStrict s).isOk = true ↔ self.isUnparseable = false) := by
  cases hparse : parseKnownFormat s with
  | none =>
    refine ⟨.unparseable s, fromStr_of_none hparse, fromStr_of_none hparse, fun _ => rfl, ?_⟩
    rw [parseStrict, hparse]
    exact iff_of_false (by simp [Except.isOk, Except.toBool]) (by simp [isUnparseable])
  | some parsed =>
    have hknown := isUnparseable_of_parseKnownFormat hparse
    refine ⟨parsed, fromStr_of_some hparse, fromStr_of_some (parseKnownFormat_toString hknown),
      by simp [hknown], ?_⟩
    rw [parseStrict, hparse]
    exact iff_of_true rfl hknown

/-! ## Binary form -/

theorem bytesAt_append {front : List UInt8} {start : ℕ} (hstart : front.length = start)
    {count : ℕ} (bytes : Vector UInt8 count) (rest : List UInt8)
    (h : start + count ≤ (front ++ (bytes.toList ++ rest)).length) :
    bytesAt (front ++ (bytes.toList ++ rest)) start count h = bytes := by
  apply Vector.toList_inj.mp
  simp [bytesAt, drop_left' hstart]

theorem checkLength_bind {α : Type} {expected : ℕ} (h : expected ≤ buf.length)
    (next : PLift (expected ≤ buf.length) → Except CryptoError α) :
    (checkLength buf expected >>= next) = next ⟨h⟩ := by
  rw [checkLength, dif_neg (not_lt.mpr h)]
  rfl

theorem checkLength_bind_of_lt {α : Type} {expected : ℕ} (h : buf.length < expected)
    (next : PLift (expected ≤ buf.length) → Except CryptoError α) :
    (checkLength buf expected >>= next) =
      .error (.encString (.invalidLength expected buf.length)) := by
  rw [checkLength, dif_pos h]
  rfl

theorem fromBuffer_aes256Cbc (iv : Iv) {data : List UInt8} (hne : data ≠ []) :
    fromBuffer (aes256CbcType :: (iv.toList ++ data)) = .ok (.aes256Cbc iv data) := by
  have hpos : 0 < data.length := length_pos_iff.mpr hne
  have hlong : 18 ≤ (aes256CbcType :: (iv.toList ++ data)).length := by
    rw [length_cons, length_append, Vector.length_toList]
    omega
  have hdata : (aes256CbcType :: (iv.toList ++ data)).drop 17 = data := by
    exact drop_left' iv.length_toList
  refine (checkLength_bind hlong _).trans ?_
  rw [hdata]
  have hfront : [aes256CbcType].length = 1 := rfl
  exact congrArg (fun iv => Except.ok (EncString.aes256Cbc iv data))
    (bytesAt_append hfront iv data _)

theorem fromBuffer_aes256CbcHmac (iv : Iv) (mac : Mac) {data : List UInt8} (hne : data ≠ []) :
    fromBuffer (aes256CbcHmacType :: (iv.toList ++ (mac.toList ++ data))) =
      .ok (.aes256CbcHmacSha256 iv mac data) := by
  have hpos : 0 < data.length := length_pos_iff.mpr hne
  have hlong : 50 ≤ (aes256CbcHmacType :: (iv.toList ++ (mac.toList ++ data))).length := by
    simp only [length_cons, length_append, Vector.length_toList]
    omega
  have hdata : (aes256CbcHmacType :: (iv.toList ++ (mac.toList ++ data))).drop 49 = data := by
    have hheader : (iv.toList ++ mac.toList).length = 48 := by simp
    rw [drop_succ_cons, ← append_assoc]
    exact drop_left' hheader
  refine (checkLength_bind hlong _).trans ?_
  rw [hdata]
  have htype : [aes256CbcHmacType].length = 1 := rfl
  have hfront : (aes256CbcHmacType :: iv.toList).length = 17 := by simp
  exact congrArg₂ (fun iv mac => Except.ok (EncString.aes256CbcHmacSha256 iv mac data))
    (bytesAt_append htype iv (mac.toList ++ data) _) (bytesAt_append hfront mac data _)

theorem fromBuffer_aes256Cbc_of_lt {rest : List UInt8} (h : rest.length < 17) :
    fromBuffer (aes256CbcType :: rest) =
      .error (.encString (.invalidLength 18 (rest.length + 1))) :=
  checkLength_bind_of_lt (by rw [length_cons]; omega) _

theorem fromBuffer_aes256CbcHmac_of_lt {rest : List UInt8} (h : rest.length < 49) :
    fromBuffer (aes256CbcHmacType :: rest) =
      .error (.encString (.invalidLength 50 (rest.length + 1))) :=
  checkLength_bind_of_lt (by rw [length_cons]; omega) _

theorem toBuffer_of_fromBuffer (h : fromBuffer buf = .ok self) : self.toBuffer = .ok buf := by
  cases buf with
  | nil => cases h
  | cons encType rest =>
    by_cases hcbc : encType = aes256CbcType
    · subst hcbc
      by_cases hlength : rest.length < 17
      · rw [fromBuffer_aes256Cbc_of_lt hlength] at h
        cases h
      · obtain ⟨iv, data, rfl⟩ := Blocks.exists_append (show 16 ≤ rest.length by omega)
        have hne : data ≠ [] := by
          rintro rfl
          simp at hlength
        rw [fromBuffer_aes256Cbc iv hne] at h
        cases h
        rfl
    by_cases hhmac : encType = aes256CbcHmacType
    · subst hhmac
      by_cases hlength : rest.length < 49
      · rw [fromBuffer_aes256CbcHmac_of_lt hlength] at h
        cases h
      · obtain ⟨iv, rest', rfl⟩ := Blocks.exists_append (show 16 ≤ rest.length by omega)
        have hrest : 33 ≤ rest'.length := by
          rw [length_append, Vector.length_toList] at hlength
          omega
        obtain ⟨mac, data, rfl⟩ := Blocks.exists_append (show 32 ≤ rest'.length by omega)
        have hne : data ≠ [] := by
          rintro rfl
          simp at hrest
        rw [fromBuffer_aes256CbcHmac iv mac hne] at h
        cases h
        rw [← append_assoc]
        rfl
    by_cases hcose : encType = coseEncrypt0Type
    · subst hcose
      cases h
      rfl
    · rw [fromBuffer, if_neg hcbc, if_neg hhmac, if_neg hcose] at h
      cases h

/-- The encrypted bytes. A text that is kept has none. -/
def data : EncString → List UInt8
  | .aes256Cbc _ data | .aes256CbcHmacSha256 _ _ data | .coseEncrypt0 data => data
  | .unparseable _ => []

theorem fromBuffer_toBuffer (hne : self.data ≠ []) :
    ∃ buf, self.toBuffer = .ok buf ∧ fromBuffer buf = .ok self := by
  cases self with
  | aes256Cbc iv data => exact ⟨_, rfl, fromBuffer_aes256Cbc iv hne⟩
  | aes256CbcHmacSha256 iv mac data =>
    refine ⟨_, rfl, ?_⟩
    rw [append_assoc]
    exact fromBuffer_aes256CbcHmac iv mac hne
  | coseEncrypt0 data => exact ⟨_, rfl, rfl⟩
  | unparseable raw => exact absurd rfl hne

/-! ## Both formats -/

theorem formats_roundTrip :
    (∀ self : EncString, self.isUnparseable = false → fromStr self.toString = .ok self) ∧
    (∀ s : String, ∃ self : EncString, fromStr s = .ok self ∧
      fromStr self.toString = .ok self ∧
      (self.isUnparseable = true → self.toString = s) ∧
      ((parseStrict s).isOk = true ↔ self.isUnparseable = false)) ∧
    (∀ (buf : List UInt8) (self : EncString), fromBuffer buf = .ok self →
      self.toBuffer = .ok buf) ∧
    (∀ self : EncString, self.data ≠ [] →
      ∃ buf, self.toBuffer = .ok buf ∧ fromBuffer buf = .ok self) := by
  refine ⟨?_, exists_fromStr, ?_, ?_⟩
  · intro self h
    exact fromStr_of_some (parseKnownFormat_toString h)
  · intro buf self h
    exact toBuffer_of_fromBuffer h
  · intro self hne
    exact fromBuffer_toBuffer hne

end EncString

end SdkInternal.Crypto
