import SdkInternal.Model.Ipc.Fragmentation

/-! # What the splitter produces

The iterator over a split message yields the frames of consecutive pieces of the payload.
No index wraps around, because each piece carries a byte of a payload below `2 ^ 32`. -/

namespace SdkInternal.Ipc

open List Fragments

variable {codec : HeaderCodec} {message : OutgoingMessage} {messageId : UInt64}
  {topic : String} {fragmentLen : ℕ} {index : UInt32}

/-! ## Splitting -/

variable {maxPayloadLen : ℕ} {fragments : Fragments}

/-- A split message does not carry a fragment topic, and it is sent whole or, if it does
not fit, in pieces. -/
theorem split_eq_ok (h : Fragments.split messageId message maxPayloadLen = .ok fragments) :
    Reassembler.originalTopic message.topic = none ∧
    message.payload.length ≤ maxPayloadSize ∧
    (message.payload.length ≤ maxPayloadLen ∧ fragments = .single (some message) ∨
      maxPayloadLen < message.payload.length ∧ maxHeaderLen < maxPayloadLen ∧
        fragments = .many message messageId (Fragments.fragmentTopic message.topic)
          (maxPayloadLen - maxHeaderLen) 0) := by
  have hpayload : ∀ {fragments},
      Fragments.split.splitPayload messageId message maxPayloadLen = .ok fragments →
      message.payload.length ≤ maxPayloadSize ∧
      (message.payload.length ≤ maxPayloadLen ∧ fragments = .single (some message) ∨
        maxPayloadLen < message.payload.length ∧ maxHeaderLen < maxPayloadLen ∧
          fragments = .many message messageId (Fragments.fragmentTopic message.topic)
            (maxPayloadLen - maxHeaderLen) 0) := by
    intro fragments h
    simp only [Fragments.split.splitPayload] at h
    split_ifs at h with hlarge hfits hroom
    · cases h
      exact ⟨by omega, .inl ⟨hfits, rfl⟩⟩
    · cases h
      exact ⟨by omega, .inr ⟨by omega, by omega, rfl⟩⟩
  cases htopic : message.topic with
  | none =>
    simp only [Fragments.split, htopic] at h
    rw [← htopic]
    exact ⟨by rw [htopic]; rfl, hpayload h⟩
  | some topic =>
    simp only [Fragments.split, htopic] at h
    split_ifs at h with hreserved
    rw [← htopic]
    exact ⟨by simpa [htopic] using hreserved, hpayload h⟩

theorem split_of_unreserved (h : Reassembler.originalTopic message.topic = none)
    (maxPayloadLen : ℕ) :
    split messageId message maxPayloadLen =
      split.splitPayload messageId message maxPayloadLen := by
  cases htopic : message.topic with
  | none => simp only [split, htopic]
  | some topic =>
    rw [htopic] at h
    simp [split, htopic, h]

/-! ## Pieces -/

def pieceFrame (message : OutgoingMessage) (messageId : UInt64) (fragmentLen : ℕ)
    (index : UInt32) : FragmentFrame where
  header := { messageId, index, totalLen := message.payload.length.toUInt32 }
  data := (message.payload.take
    (min message.payload.length (index.toNat * fragmentLen + fragmentLen))).drop
      (index.toNat * fragmentLen)

theorem length_pieceFrame_data :
    (pieceFrame message messageId fragmentLen index).data.length =
      min (message.payload.length - index.toNat * fragmentLen) fragmentLen := by
  simp only [pieceFrame, length_drop, length_take]
  omega

theorem take_append_pieceFrame (h : index.toNat * fragmentLen ≤ message.payload.length) :
    message.payload.take (index.toNat * fragmentLen) ++
        (pieceFrame message messageId fragmentLen index).data =
      message.payload.take
        (min message.payload.length (index.toNat * fragmentLen + fragmentLen)) := by
  have hle : index.toNat * fragmentLen ≤
      min message.payload.length (index.toNat * fragmentLen + fragmentLen) := by omega
  have htake : message.payload.take (index.toNat * fragmentLen) =
      (message.payload.take
        (min message.payload.length (index.toNat * fragmentLen + fragmentLen))).take
          (index.toNat * fragmentLen) := by
    rw [take_take, Nat.min_eq_left hle]
  rw [htake]
  exact take_append_drop _ _

theorem toNat_index_add_one (hlen : 0 < fragmentLen)
    (hsize : message.payload.length ≤ maxPayloadSize)
    (h : index.toNat * fragmentLen < message.payload.length) :
    (index + 1).toNat = index.toNat + 1 := by
  have hle : index.toNat ≤ index.toNat * fragmentLen := Nat.le_mul_of_pos_right _ hlen
  have hmax : maxPayloadSize < 2 ^ 32 := by decide
  apply Nat.mod_eq_of_lt
  change index.toNat + 1 < 2 ^ 32
  omega

/-! ## Iteration -/

def pieceMessage (codec : HeaderCodec) (message : OutgoingMessage) (messageId : UInt64)
    (topic : String) (fragmentLen : ℕ) (index : UInt32) : OutgoingMessage where
  payload := (pieceFrame message messageId fragmentLen index).encode codec
  destination := message.destination
  topic := some topic

theorem iterate_many_of_lt (h : index.toNat * fragmentLen < message.payload.length)
    (fuel : ℕ) :
    (Fragments.many message messageId topic fragmentLen index).iterate codec (fuel + 1) =
      pieceMessage codec message messageId topic fragmentLen index ::
        (Fragments.many message messageId topic fragmentLen (index + 1)).iterate codec fuel := by
  have hnext : (Fragments.many message messageId topic fragmentLen index).next codec =
      some (pieceMessage codec message messageId topic fragmentLen index,
        .many message messageId topic fragmentLen (index + 1)) := by
    simp only [Fragments.next, if_neg (Nat.not_le.mpr h)]
    rfl
  rw [Fragments.iterate, hnext]

theorem iterate_many_of_le (h : message.payload.length ≤ index.toNat * fragmentLen)
    (fuel : ℕ) :
    (Fragments.many message messageId topic fragmentLen index).iterate codec fuel = [] := by
  cases fuel with
  | zero => rfl
  | succ fuel =>
    have hnext : (Fragments.many message messageId topic fragmentLen index).next codec = none := by
      simp only [Fragments.next, if_pos h]
    rw [Fragments.iterate, hnext]

theorem iterate_many_add (hlen : 0 < fragmentLen)
    (hsize : message.payload.length ≤ maxPayloadSize) {fuel : ℕ}
    (hfuel : message.payload.length ≤ index.toNat * fragmentLen + fuel) (more : ℕ) :
    (many message messageId topic fragmentLen index).iterate codec (fuel + more) =
      (many message messageId topic fragmentLen index).iterate codec fuel := by
  induction fuel generalizing index with
  | zero => rw [iterate_many_of_le (by omega), iterate_many_of_le (by omega)]
  | succ fuel ih =>
    by_cases h : index.toNat * fragmentLen < message.payload.length
    · have hnext := toNat_index_add_one hlen hsize h
      rw [Nat.add_right_comm, iterate_many_of_lt h, iterate_many_of_lt h, ih]
      rw [hnext, Nat.add_mul]
      omega
    · rw [iterate_many_of_le (by omega), iterate_many_of_le (by omega)]

theorem length_iterate_many_le (hcodec : codec.Lawful) (fuel : ℕ) {f : OutgoingMessage}
    (hf : f ∈ (Fragments.many message messageId topic fragmentLen index).iterate codec fuel) :
    f.payload.length ≤ maxHeaderLen + fragmentLen := by
  induction fuel generalizing index with
  | zero => simp [Fragments.iterate] at hf
  | succ fuel ih =>
    by_cases h : index.toNat * fragmentLen < message.payload.length
    · rw [iterate_many_of_lt h] at hf
      rcases mem_cons.mp hf with rfl | hf
      · have hheader := hcodec.length_intoWriter_le
          (pieceFrame message messageId fragmentLen index).header
        have hdata := @length_pieceFrame_data message messageId fragmentLen index
        simp only [pieceMessage, FragmentFrame.encode, length_append]
        omega
      · exact ih hf
    · rw [iterate_many_of_le (by omega)] at hf
      simp at hf

theorem iterate_single (message : OutgoingMessage) (fuel : ℕ) :
    (single (some message)).iterate codec (fuel + 1) = [message] := by
  cases fuel <;> rfl

theorem iterate_eq_collect
    (hsplit : Fragments.split messageId message maxPayloadLen = .ok fragments) {fuel : ℕ}
    (hfuel : fragments.bound ≤ fuel) :
    fragments.iterate codec fuel = fragments.collect codec := by
  obtain ⟨-, hsize, ⟨-, rfl⟩ | ⟨-, hroom, rfl⟩⟩ := split_eq_ok hsplit
  · obtain ⟨more, rfl⟩ := Nat.exists_eq_add_of_le hfuel
    rw [Nat.add_comm]
    exact iterate_single message more
  · obtain ⟨more, rfl⟩ := Nat.exists_eq_add_of_le hfuel
    exact iterate_many_add (by omega) hsize (by simp [Fragments.bound]) more

theorem length_iterate_le (hcodec : codec.Lawful)
    (hsplit : Fragments.split messageId message maxPayloadLen = .ok fragments) (fuel : ℕ)
    {f : OutgoingMessage} (hf : f ∈ fragments.iterate codec fuel) :
    f.payload.length ≤ maxPayloadLen := by
  obtain ⟨-, hsize, ⟨hfits, rfl⟩ | ⟨-, hroom, rfl⟩⟩ := split_eq_ok hsplit
  · cases fuel with
    | zero => simp [Fragments.iterate] at hf
    | succ fuel =>
      rw [iterate_single, mem_singleton] at hf
      rw [hf]
      exact hfits
  · have hle := length_iterate_many_le hcodec fuel hf
    omega

end SdkInternal.Ipc
