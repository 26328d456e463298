import Mathlib.Data.List.Induction
import Mathlib.Algebra.Order.Ring.Nat

/-! # Length-prefixed byte strings

Numbers are written in a fixed number of bytes, the most significant first, or in as many as they
need. A byte string is framed by its length. -/

namespace SdkInternal.Shared.Framing

open List

/-- The last `width` digits of a number to the base 256. -/
def bigEndian : ℕ → ℕ → List UInt8
  | 0, _ => []
  | width + 1, n => bigEndian width (n / 256) ++ [UInt8.ofNat n]

def ofBigEndian (bytes : List UInt8) : ℕ :=
  bytes.foldl (fun n byte => n * 256 + byte.toNat) 0

def frame (width : ℕ) (bytes : List UInt8) : List UInt8 :=
  bigEndian width bytes.length ++ bytes

/-- The framed byte string at the front of the input, and what follows it. -/
def unframe (width : ℕ) (input : List UInt8) : Option (List UInt8 × List UInt8) :=
  let length := ofBigEndian (input.take width)
  let rest := input.drop width
  if input.length < width ∨ rest.length < length then none
  else some (rest.take length, rest.drop length)

/-! ## Numbers -/

@[simp] theorem length_bigEndian (width n : ℕ) : (bigEndian width n).length = width := by
  induction width generalizing n with
  | zero => rfl
  | succ width ih => rw [bigEndian, length_append, ih, length_singleton]

variable (bytes : List UInt8)

@[simp] theorem ofBigEndian_concat (byte : UInt8) :
    ofBigEndian (bytes ++ [byte]) = ofBigEndian bytes * 256 + byte.toNat := by
  simp [ofBigEndian]

theorem ofBigEndian_bigEndian {width n : ℕ} (h : n < 256 ^ width) :
    ofBigEndian (bigEndian width n) = n := by
  induction width generalizing n with
  | zero =>
    change 0 = n
    omega
  | succ width ih =>
    have hquotient : n / 256 < 256 ^ width := by
      rw [pow_succ] at h
      exact Nat.div_lt_of_lt_mul (by rwa [Nat.mul_comm] at h)
    rw [bigEndian, ofBigEndian_concat, ih hquotient, UInt8.toNat_ofNat']
    omega

theorem bigEndian_ofBigEndian : bigEndian bytes.length (ofBigEndian bytes) = bytes := by
  induction bytes using reverseRecOn with
  | nil => rfl
  | append_singleton bytes byte ih =>
    have hbyte := byte.toNat_lt
    have hquotient : (ofBigEndian bytes * 256 + byte.toNat) / 256 = ofBigEndian bytes := by omega
    have hdigit : UInt8.ofNat (ofBigEndian bytes * 256 + byte.toNat) = byte := by
      apply UInt8.toNat_inj.mp
      rw [UInt8.toNat_ofNat']
      omega
    rw [length_append, length_singleton, bigEndian, ofBigEndian_concat, hquotient, ih, hdigit]

theorem ofBigEndian_lt : ofBigEndian bytes < 256 ^ bytes.length := by
  induction bytes using reverseRecOn with
  | nil => exact Nat.one_pos
  | append_singleton bytes byte ih =>
    have hbyte := byte.toNat_lt
    rw [ofBigEndian_concat, length_append, length_singleton]
    omega

/-! ## Frames -/

theorem unframe_frame_append {width : ℕ} {bytes : List UInt8} (h : bytes.length < 256 ^ width)
    (rest : List UInt8) : unframe width (frame width bytes ++ rest) = some (bytes, rest) := by
  have htake : (frame width bytes ++ rest).take width = bigEndian width bytes.length := by
    rw [frame, append_assoc]
    exact take_left' (length_bigEndian width bytes.length)
  have hdrop : (frame width bytes ++ rest).drop width = bytes ++ rest := by
    rw [frame, append_assoc]
    exact drop_left' (length_bigEndian width bytes.length)
  have hlong : ¬ ((frame width bytes ++ rest).length < width ∨
      (bytes ++ rest).length < bytes.length) := by
    simp [frame]
  simp only [unframe, htake, hdrop, ofBigEndian_bigEndian h]
  rw [if_neg hlong, take_left, drop_left]

theorem eq_frame_append {width : ℕ} {input bytes rest : List UInt8}
    (h : unframe width input = some (bytes, rest)) :
    bytes.length < 256 ^ width ∧ input = frame width bytes ++ rest := by
  simp only [unframe] at h
  split at h
  case isTrue => cases h
  case isFalse hlong =>
    rw [not_or, not_lt, not_lt] at hlong
    obtain ⟨hwidth, hlength⟩ := hlong
    have htaken : (input.take width).length = width := length_take_of_le hwidth
    have hbytes : ((input.drop width).take (ofBigEndian (input.take width))).length =
        ofBigEndian (input.take width) := length_take_of_le hlength
    cases h
    have hlt := ofBigEndian_lt (input.take width)
    have hdigits := bigEndian_ofBigEndian (input.take width)
    rw [htaken] at hlt hdigits
    rw [frame, hbytes, hdigits, append_assoc, take_append_drop, take_append_drop]
    exact ⟨hlt, rfl⟩

/-! ## Lengths to the base 128 -/

/-- The digits of a number to the base 128, the least significant first. All but the last have
their high bit set. -/
def leb128 (n : ℕ) : List UInt8 :=
  if n / 128 = 0 then [UInt8.ofNat (n % 128)]
  else UInt8.ofNat (n % 128 + 128) :: leb128 (n / 128)

theorem leb128_append_inj {m n : ℕ} {rest rest' : List UInt8}
    (h : leb128 m ++ rest = leb128 n ++ rest') : m = n ∧ rest = rest' := by
  induction m using Nat.strongRecOn generalizing n with
  | ind m ih =>
    rw [leb128, leb128.eq_def n] at h
    -- whether a first byte is also the last one can be seen from it
    have hhead := congrArg (Option.map UInt8.toNat ∘ head?) h
    split_ifs at h hhead with hm hn hn
    · simp only [singleton_append, cons.injEq] at h
      simp at hhead
      exact ⟨by omega, h.2⟩
    · simp at hhead
      omega
    · simp at hhead
      omega
    · simp only [cons_append, cons.injEq] at h
      simp at hhead
      obtain ⟨hquotient, hrest⟩ := ih (m / 128) (by omega) h.2
      exact ⟨by omega, hrest⟩

theorem flatMap_leb128_append_inj {fields fields' : List (List UInt8)} {rest rest' : List UInt8}
    (hlength : fields.length = fields'.length)
    (h : fields.flatMap (fun field => leb128 field.length ++ field) ++ rest =
      fields'.flatMap (fun field => leb128 field.length ++ field) ++ rest') :
    fields = fields' ∧ rest = rest' := by
  induction fields generalizing fields' with
  | nil =>
    obtain rfl := length_eq_zero_iff.mp hlength.symm
    exact ⟨rfl, h⟩
  | cons field fields ih =>
    obtain ⟨field', fields', rfl⟩ := exists_cons_of_length_eq_add_one hlength.symm
    simp only [flatMap_cons, append_assoc] at h
    obtain ⟨hfield, hbody⟩ := leb128_append_inj h
    obtain ⟨rfl, htail⟩ := append_inj hbody hfield
    obtain ⟨rfl, hrest⟩ := ih (Nat.succ.inj hlength) htail
    exact ⟨rfl, hrest⟩

end SdkInternal.Shared.Framing
