import SdkInternal.Model.Importers.CPace

/-! # The CPace transcript -/

namespace SdkInternal.Importers

open Shared Framing

theorem foldl_writeLeb128Prefixed (buffer : List UInt8) (fields : List (List UInt8)) :
    fields.foldl writeLeb128Prefixed buffer =
      buffer ++ fields.flatMap fun field => leb128 field.length ++ field := by
  induction fields generalizing buffer with
  | nil => simp
  | cons field fields ih =>
    rw [List.foldl_cons, ih, writeLeb128Prefixed, List.append_assoc, List.flatMap_cons]

theorem leb128Prefixed_append_inj {fields fields' : List (List UInt8)} {rest rest' : List UInt8}
    (hlength : fields.length = fields'.length)
    (h : leb128Prefixed fields ++ rest = leb128Prefixed fields' ++ rest') :
    fields = fields' ∧ rest = rest' := by
  simp only [leb128Prefixed, foldl_writeLeb128Prefixed, List.nil_append] at h
  exact flatMap_leb128_append_inj hlength h

section Transcript

variable {authA authA' : List UInt8} {msgA msgA' : MsgA} {msgB msgB' : Vector UInt8 32}

theorem authBInput_eq_iff :
    authBInput authA msgA msgB.toList = authBInput authA' msgA' msgB'.toList ↔
      msgA.ad.sessionId = msgA'.ad.sessionId ∧ authA = authA' ∧
        msgA.originalMessage = msgA'.originalMessage ∧ msgB = msgB' := by
  constructor
  · intro h
    simp only [authBInput, List.append_assoc] at h
    obtain ⟨hfields, hmessages⟩ := leb128Prefixed_append_inj (by rfl) h
    -- the second message has a fixed length, so the first one ends where it starts
    obtain ⟨horiginal, hmsgB⟩ := List.append_inj' hmessages (by simp)
    simp only [List.cons.injEq, true_and, and_true] at hfields
    exact ⟨hfields.1, hfields.2, horiginal, Vector.toList_inj.mp hmsgB⟩
  · rintro ⟨hsession, rfl, horiginal, rfl⟩
    rw [authBInput, authBInput, hsession, horiginal]

/-- If the two transcripts do not collide, both sides have one secret only in one session. -/
theorem calculateAuthBHash_eq_iff {sha512 : List UInt8 → Vector UInt8 64}
    (hcollision : sha512 (authBInput authA msgA msgB.toList) =
        sha512 (authBInput authA' msgA' msgB'.toList) →
      authBInput authA msgA msgB.toList = authBInput authA' msgA' msgB'.toList) :
    calculateAuthBHash sha512 authA msgA msgB.toList =
        calculateAuthBHash sha512 authA' msgA' msgB'.toList ↔
      msgA.ad.sessionId = msgA'.ad.sessionId ∧ authA = authA' ∧
        msgA.originalMessage = msgA'.originalMessage ∧ msgB = msgB' := by
  rw [← authBInput_eq_iff]
  exact ⟨hcollision, congrArg sha512⟩

end Transcript

/-- As many fields give the same bytes only if they are the same, and a transcript determines the
session id, the shared point and both messages. -/
theorem transcript_eq_iff :
    (∀ (n : ℕ) (fields fields' : Vector (List UInt8) n),
      leb128Prefixed fields.toList = leb128Prefixed fields'.toList ↔ fields = fields') ∧
    ∀ (authA authA' : List UInt8) (msgA msgA' : MsgA) (msgB msgB' : Vector UInt8 32),
      authBInput authA msgA msgB.toList = authBInput authA' msgA' msgB'.toList ↔
        msgA.ad.sessionId = msgA'.ad.sessionId ∧ authA = authA' ∧
          msgA.originalMessage = msgA'.originalMessage ∧ msgB = msgB' := by
  refine ⟨fun n fields fields' => ⟨fun h => ?_, fun h => by rw [h]⟩, ?_⟩
  · have hlength : fields.toList.length = fields'.toList.length := by simp
    rw [← List.append_nil (leb128Prefixed _), ← List.append_nil (leb128Prefixed fields'.toList)]
      at h
    exact Vector.toList_inj.mp (leb128Prefixed_append_inj hlength h).1
  · intro authA authA' msgA msgA' msgB msgB'
    exact authBInput_eq_iff

end SdkInternal.Importers
