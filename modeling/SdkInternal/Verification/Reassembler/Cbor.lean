import SdkInternal.Model.Ipc.Fragmentation
import SdkInternal.Shared.Cbor

/-! # The CBOR form of fragment headers

A header is a map of three entries, from the names of its fields to unsigned integers in
their shortest form. The decoder here accepts the fields in that order. -/

namespace SdkInternal.Ipc

open Shared.Cbor Option

def cborText (text : String) : List UInt8 :=
  UInt8.ofNat (0x60 + text.length) :: text.toList.map fun c => UInt8.ofNat c.toNat

def cborField (name : String) (input : List UInt8) : Option (ℕ × List UInt8) :=
  (input.dropPrefix? (cborText name)).bind decodeUint

def cborHeader : HeaderCodec where
  intoWriter header :=
    0xA3 :: (cborText "message_id" ++ encodeUint header.messageId.toNat ++
      (cborText "index" ++ encodeUint header.index.toNat ++
        (cborText "total_len" ++ encodeUint header.totalLen.toNat)))
  fromReader input :=
    match input with
    | [] => none
    | head :: input =>
      if head ≠ 0xA3 then none
      else do
        let (messageId, input) ← cborField "message_id" input
        let (index, input) ← cborField "index" input
        let (totalLen, input) ← cborField "total_len" input
        if messageId < 2 ^ 64 ∧ index < 2 ^ 32 ∧ totalLen < 2 ^ 32 then
          some (⟨UInt64.ofNat messageId, UInt32.ofNat index, UInt32.ofNat totalLen⟩, input)
        else none

theorem cborField_append (name : String) {n : ℕ} (h : n < 2 ^ 64) (rest : List UInt8) :
    cborField name (cborText name ++ encodeUint n ++ rest) = some (n, rest) := by
  have hdrop : (cborText name ++ (encodeUint n ++ rest)).dropPrefix? (cborText name) =
      some (encodeUint n ++ rest) := by
    apply List.dropPrefix?_eq_some_iff.mpr
    exact ⟨cborText name, rfl, beq_self_eq_true _⟩
  rw [cborField, List.append_assoc, hdrop, bind_some, decodeUint_encodeUint h]

theorem cborHeader_lawful : cborHeader.Lawful where
  fromReader_intoWriter := by
    intro header rest
    have hid := header.messageId.toNat_lt
    have hindex := header.index.toNat_lt
    have hlen := header.totalLen.toNat_lt
    simp only [cborHeader, List.cons_append, List.append_assoc, ne_eq, not_true_eq_false, if_false]
    simp only [← List.append_assoc (cborText _) (encodeUint _)]
    rw [cborField_append _ hid]
    simp only [bind_eq_bind, bind_some]
    rw [cborField_append _ (by omega)]
    simp only [bind_some]
    rw [cborField_append _ (by omega)]
    simp only [bind_some]
    rw [if_pos ⟨hid, hindex, hlen⟩]
    simp
  length_intoWriter_le := by
    intro header
    have hid := length_encodeUint_le header.messageId.toNat
    have hindex := length_encodeUint_le header.index.toNat
    have hlen := length_encodeUint_le header.totalLen.toNat
    have htext : (cborText "message_id").length = 11 ∧ (cborText "index").length = 6 ∧
        (cborText "total_len").length = 10 := by decide
    simp only [cborHeader, List.length_cons, List.length_append, maxHeaderLen]
    omega

end SdkInternal.Ipc
