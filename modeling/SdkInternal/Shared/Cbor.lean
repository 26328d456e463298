import SdkInternal.Shared.Framing

/-! # Integers in CBOR

The shortest CBOR form of an unsigned integer: small values are their own first byte, larger ones
follow a byte that names their width. -/

namespace SdkInternal.Shared.Cbor

open List UInt8 Framing

/-- The shortest form of an unsigned integer below `2 ^ 64`. -/
def encodeUint (n : ℕ) : List UInt8 :=
  if n < 24 then [ofNat n]
  else if n < 256 ^ 1 then 0x18 :: bigEndian 1 n
  else if n < 256 ^ 2 then 0x19 :: bigEndian 2 n
  else if n < 256 ^ 4 then 0x1A :: bigEndian 4 n
  else 0x1B :: bigEndian 8 n

def takeBigEndian (width : ℕ) (input : List UInt8) : Option (ℕ × List UInt8) :=
  if input.length < width then none
  else some (ofBigEndian (input.take width), input.drop width)

/-- Reads an unsigned integer of any width. -/
def decodeUint : List UInt8 → Option (ℕ × List UInt8)
  | [] => none
  | head :: rest =>
    if head < 24 then some (head.toNat, rest)
    else if head = 0x18 then takeBigEndian 1 rest
    else if head = 0x19 then takeBigEndian 2 rest
    else if head = 0x1A then takeBigEndian 4 rest
    else if head = 0x1B then takeBigEndian 8 rest
    else none

theorem takeBigEndian_bigEndian {width n : ℕ} (h : n < 256 ^ width) (rest : List UInt8) :
    takeBigEndian width (bigEndian width n ++ rest) = some (n, rest) := by
  have hlength := length_bigEndian width n
  simp only [takeBigEndian, length_append, hlength]
  rw [if_neg (by omega), take_left' hlength, drop_left' hlength, ofBigEndian_bigEndian h]

theorem decodeUint_encodeUint {n : ℕ} (h : n < 2 ^ 64) (rest : List UInt8) :
    decodeUint (encodeUint n ++ rest) = some (n, rest) := by
  unfold encodeUint
  split_ifs with hsmall hone htwo hfour
  · have hvalue : (ofNat n).toNat = n := by
      rw [toNat_ofNat']
      omega
    have hhead : ofNat n < 24 := by
      rw [lt_iff_toNat_lt, hvalue]
      exact hsmall
    simp only [cons_append, nil_append, decodeUint, if_pos hhead, hvalue]
  · exact takeBigEndian_bigEndian hone rest
  · exact takeBigEndian_bigEndian htwo rest
  · exact takeBigEndian_bigEndian hfour rest
  · have hlt : n < 256 ^ 8 := h
    exact takeBigEndian_bigEndian hlt rest

theorem length_encodeUint_le (n : ℕ) : (encodeUint n).length ≤ 9 := by
  unfold encodeUint
  split_ifs <;> simp

end SdkInternal.Shared.Cbor
