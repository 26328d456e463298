import SdkInternal.Model.Ipc.Noise.TransportState

/-! # Delivery within a session

The payload at position `i` is encrypted under the nonce `i + 1`. A receiver only accepts
growing nonces, so whatever the network does, what it accepts is a subsequence of what was
sent. -/

namespace SdkInternal.Ipc.Noise

open Shared List

namespace PersistentTransportState

variable {aead : Aead}

/-! ## Sending -/

variable {s : PersistentTransportState} {payload : List UInt8} {frame : TransportFrame}

theorem send_eq_some {s' : PersistentTransportState} (h : s.send aead payload = some (frame, s')) :
    frame = ⟨aead.encrypt s.transportCipher s.sendKey s'.sendNonce payload, s'.sendNonce⟩ ∧
      s'.sendNonce.toNat = s.sendNonce.toNat + 1 ∧
      s' = { s with sendNonce := s'.sendNonce } := by
  simp only [send, checkedAddOne, Option.map_eq_some_iff, Option.ite_none_right_eq_some,
    Option.some.injEq, Prod.mk.injEq] at h
  obtain ⟨nonce, ⟨hlt, rfl⟩, rfl, rfl⟩ := h
  refine ⟨rfl, ?_, rfl⟩
  exact Nat.mod_eq_of_lt hlt

/-- The position of a sent payload is how far its nonce is ahead of the first one. -/
theorem mem_sendAll {payloads : List (List UInt8)}
    (h : (payload, frame) ∈ s.sendAll aead payloads) :
    s.sendNonce.toNat < frame.nonce.toNat ∧
      payloads[frame.nonce.toNat - s.sendNonce.toNat - 1]? = some payload := by
  induction payloads generalizing s with
  | nil => simp [sendAll] at h
  | cons first payloads ih =>
    unfold sendAll at h
    cases hsend : s.send aead first with
    | none => simp [hsend] at h
    | some sent =>
      obtain ⟨frame', s'⟩ := sent
      obtain ⟨hframe, hnext, -⟩ := send_eq_some hsend
      simp only [hsend] at h
      rcases mem_cons.mp h with hhead | htail
      · cases hhead
        rw [hframe, hnext]
        simp
      · obtain ⟨hlt, hpayload⟩ := ih htail
        have hposition : frame.nonce.toNat - s.sendNonce.toNat - 1 =
            frame.nonce.toNat - s'.sendNonce.toNat - 1 + 1 := by omega
        refine ⟨by omega, ?_⟩
        rw [hposition]
        exact hpayload

/-! ## Receiving -/

theorem receive_error {error : ReceiveError} (h : (s.receive aead frame).1 = .error error) :
    (s.receive aead frame).2 = s := by
  simp only [receive] at h ⊢
  split_ifs at h ⊢ with hnonce
  · split at h
    · cases h
    · rfl
  · rfl

theorem receive_ok (h : (s.receive aead frame).1 = .ok payload) :
    s.receiveNonce.toNat < frame.nonce.toNat ∧
      aead.decrypt s.transportCipher s.receiveKey frame.nonce frame.payload = some payload ∧
      (s.receive aead frame).2 = { s with receiveNonce := frame.nonce } := by
  simp only [receive] at h ⊢
  split_ifs at h ⊢ with hnonce
  split at h
  · rename_i plaintext hdecrypt
    cases h
    exact ⟨UInt64.lt_iff_toNat_lt.mp hnonce, hdecrypt, rfl⟩
  · cases h

theorem receiveAll_nonces {frames : List TransportFrame} {sent : List (List UInt8 × UInt64)}
    (hauthentic : ∀ frame ∈ frames, ∀ payload,
      aead.decrypt s.transportCipher s.receiveKey frame.nonce frame.payload = some payload →
      (payload, frame.nonce) ∈ sent) :
    ∃ accepted : List (List UInt8 × UInt64),
      (s.receiveAll aead frames).1.filterMap Except.toOption = accepted.map Prod.fst ∧
      (∀ a ∈ accepted, a ∈ sent ∧ s.receiveNonce.toNat < a.2.toNat) ∧
      accepted.Pairwise fun a b => a.2.toNat < b.2.toNat := by
  induction frames generalizing s with
  | nil => exact ⟨[], rfl, by simp, .nil⟩
  | cons frame frames ih =>
    simp only [receiveAll, feed_cons] at ih ⊢
    cases hreceive : (s.receive aead frame).1 with
    | error error =>
      rw [receive_error hreceive]
      exact ih fun f hf => hauthentic f (mem_cons_of_mem frame hf)
    | ok payload =>
      obtain ⟨hlt, hdecrypt, hstate⟩ := receive_ok hreceive
      rw [hstate]
      obtain ⟨accepted, hpayloads, hsent, hgrowing⟩ :=
        ih (s := { s with receiveNonce := frame.nonce })
          fun f hf => hauthentic f (mem_cons_of_mem frame hf)
      refine ⟨(payload, frame.nonce) :: accepted, ?_, ?_, ?_⟩
      · rw [filterMap_cons, hpayloads]
        rfl
      · intro a ha
        rcases mem_cons.mp ha with rfl | ha
        · exact ⟨hauthentic frame (by simp) payload hdecrypt, hlt⟩
        · exact ⟨(hsent a ha).1, Nat.lt_trans hlt (hsent a ha).2⟩
      · exact pairwise_cons.mpr ⟨fun a ha => (hsent a ha).2, hgrowing⟩

end PersistentTransportState

/-! ## A matching pair -/

open PersistentTransportState

/-- Whatever frames the network delivers, the payloads that the receiver accepts are those
at growing positions of what was sent, and a frame that it rejects does not change it. -/
theorem receiveAll_subsequence (aead : Aead) (sendKey receiveKey : SymmetricKey)
    (cipher : TransportCipher) (sentAt receivedAt : UInt64) (payloads : List (List UInt8))
    (frames : List TransportFrame)
    (hauthentic : ∀ frame ∈ frames, ∀ payload,
      aead.decrypt cipher sendKey frame.nonce frame.payload = some payload →
      ∃ sent ∈ (new sendKey receiveKey cipher sentAt).sendAll aead payloads,
        sent.1 = payload ∧ sent.2.nonce = frame.nonce) :
    (∃ positions : List ℕ, positions.Pairwise (· < ·) ∧
      (((new receiveKey sendKey cipher receivedAt).receiveAll aead frames).1.filterMap
        Except.toOption).map some = positions.map (payloads[·]?)) ∧
    ∀ (s : PersistentTransportState) frame error,
      (s.receive aead frame).1 = .error error → (s.receive aead frame).2 = s := by
  refine ⟨?_, fun s frame error => receive_error⟩
  let sender := new sendKey receiveKey cipher sentAt
  obtain ⟨accepted, hpayloads, hsent, hgrowing⟩ :=
    @receiveAll_nonces aead (new receiveKey sendKey cipher receivedAt) frames
      ((sender.sendAll aead payloads).map fun sent => (sent.1, sent.2.nonce))
      (by
        intro frame hframe payload hdecrypt
        obtain ⟨sent, hmem, rfl, hnonce⟩ := hauthentic frame hframe payload hdecrypt
        exact mem_map.mpr ⟨sent, hmem, by rw [hnonce]⟩)
  have hposition : ∀ a ∈ accepted, 0 < a.2.toNat ∧ payloads[a.2.toNat - 1]? = some a.1 := by
    intro a ha
    obtain ⟨sent, hmem, rfl⟩ := mem_map.mp (hsent a ha).1
    exact mem_sendAll hmem
  refine ⟨accepted.map fun a => a.2.toNat - 1, ?_, ?_⟩
  · rw [pairwise_map]
    apply hgrowing.imp_of_mem
    intro a b ha hb hlt
    have hpos := (hposition a ha).1
    omega
  · rw [hpayloads, map_map, map_map]
    apply map_congr_left
    intro a ha
    exact (hposition a ha).2.symm

/-- A cipher that tags the payload with the key and the nonce, for runs on fixed inputs. -/
def taggingAead : Aead where
  encrypt _ key nonce payload := key.bytes ++ nonce.toNat.toUInt8 :: payload
  decrypt _ key nonce payload :=
    match payload.drop keySize with
    | [] => none
    | tag :: rest =>
      if payload.take keySize = key.bytes ∧ tag = nonce.toNat.toUInt8 then some rest else none

def constantKey (b : UInt8) : SymmetricKey := ⟨List.replicate keySize b, List.length_replicate⟩

/-- Two payloads are sent. The second frame arrives first and again after the first one,
and a forged frame follows. -/
def sampleFrames : List TransportFrame :=
  [⟨(constantKey 1).bytes ++ [2, 20], 2⟩, ⟨(constantKey 1).bytes ++ [1, 10], 1⟩,
    ⟨(constantKey 1).bytes ++ [2, 20], 2⟩, ⟨[0, 0, 0], 9⟩]

theorem sampleFrames_authentic : ∀ frame ∈ sampleFrames, ∀ payload,
    taggingAead.decrypt .aes256Gcm (constantKey 1) frame.nonce frame.payload = some payload →
    ∃ sent ∈ (new (constantKey 1) (constantKey 2) .aes256Gcm 0).sendAll taggingAead [[10], [20]],
      sent.1 = payload ∧ sent.2.nonce = frame.nonce := by
  intro frame hframe payload hdecrypt
  have hcases : (payload = [20] ∧ frame.nonce = 2) ∨ (payload = [10] ∧ frame.nonce = 1) := by
    simp only [sampleFrames, mem_cons, not_mem_nil, or_false] at hframe
    rcases hframe with rfl | rfl | rfl | rfl
    · exact .inl ⟨(Option.some.inj hdecrypt).symm, rfl⟩
    · exact .inr ⟨(Option.some.inj hdecrypt).symm, rfl⟩
    · exact .inl ⟨(Option.some.inj hdecrypt).symm, rfl⟩
    · cases hdecrypt
  rcases hcases with ⟨rfl, hnonce⟩ | ⟨rfl, hnonce⟩
  · rw [hnonce]
    decide
  · rw [hnonce]
    decide

theorem receiveAll_subsequence_sample :
    ((new (constantKey 2) (constantKey 1) .aes256Gcm 0).receiveAll taggingAead
      sampleFrames).1.filterMap Except.toOption = [[20]] ∧
    ∃ positions : List ℕ, positions.Pairwise (· < ·) ∧
      (((new (constantKey 2) (constantKey 1) .aes256Gcm 0).receiveAll taggingAead
        sampleFrames).1.filterMap Except.toOption).map some =
          positions.map ([[10], [20]][·]?) :=
  ⟨by decide, (receiveAll_subsequence taggingAead (constantKey 1) (constantKey 2) .aes256Gcm 0 0
    [[10], [20]] sampleFrames sampleFrames_authentic).1⟩

end SdkInternal.Ipc.Noise
