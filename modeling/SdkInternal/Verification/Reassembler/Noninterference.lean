import SdkInternal.Verification.Reassembler.Cbor
import SdkInternal.Verification.Reassembler.Equations

/-! # Web pages cannot influence the reassembly of other peers

The part of the state that belongs to sources other than web pages evolves on its own.
Two things are shared with web pages: the map, whose quotas are counted apart, and the
sweep of expired entries, which only does early what the next fragment would do. -/

namespace SdkInternal.Ipc

open Shared Reassembler ReassemblyState Store

def MessageKey.isTrusted (key : MessageKey) : Bool := !key.1.isWeb

def ReassemblyState.trusted (state : ReassemblyState) : ReassemblyState :=
  ⟨state.partials.retain fun key _ => MessageKey.isTrusted key⟩

variable {source : Source}

theorem pool_of_eq_other (h : source.isWeb = false) : Pool.of source = .other := by
  cases source <;> first | rfl | cases h

/-! ## Sweeping -/

variable (state : ReassemblyState)

theorem removeExpired_trusted (now : ℕ) :
    state.trusted.removeExpired now = (state.removeExpired now).trusted :=
  congrArg ReassemblyState.mk
    (retain_comm (fun _ p => decide (p.expiresAt > now))
      (fun key _ => MessageKey.isTrusted key) state.partials)

theorem removeExpired_removeExpired {early late : ℕ} (h : early ≤ late) :
    (state.removeExpired early).removeExpired late = state.removeExpired late := by
  apply congrArg ReassemblyState.mk
  unfold ReassemblyState.removeExpired
  rw [retain_retain]
  congr 1
  funext _ p
  by_cases hp : p.expiresAt > late
  · have hearly : p.expiresAt > early := lt_of_le_of_lt h hp
    simp [hp, hearly]
  · simp [hp]

/-! ## Trusted fragments see only the trusted part -/

theorem usage_trusted {filter : Source → Bool} (hfilter : ∀ s, filter s = true → s.isWeb = false) :
    state.trusted.usage filter = state.usage filter := by
  unfold usage trusted
  rw [entries_retain, List.filter_filter]
  congr 1
  apply List.filter_congr
  intro e _
  cases h : filter e.1.1 with
  | false => rfl
  | true => simp [MessageKey.isTrusted, hfilter _ h]

theorem admitMessage_trusted (hsource : source.isWeb = false) (totalLen : ℕ) :
    state.trusted.admitMessage source totalLen = state.admitMessage source totalLen := by
  have hown : state.trusted.usage (fun s => decide (s = source)) =
      state.usage fun s => decide (s = source) := by
    apply usage_trusted
    intro s hs
    rw [of_decide_eq_true hs]
    exact hsource
  have hpool : state.trusted.usage (fun s => decide (Pool.of s = Pool.of source)) =
      state.usage fun s => decide (Pool.of s = Pool.of source) := by
    apply usage_trusted
    intro s hs
    rw [pool_of_eq_other hsource] at hs
    cases s <;> first | rfl | cases hs
  unfold admitMessage
  simp only [hown, hpool]

variable {key : MessageKey}

theorem lookup_trusted (hkey : key.1.isWeb = false) :
    state.trusted.partials.lookup key = state.partials.lookup key := by
  unfold trusted
  rw [lookup_retain]
  cases state.partials.lookup key with
  | none => rfl
  | some p => simp [Option.filter, MessageKey.isTrusted, hkey]

theorem erase_trusted (key : MessageKey) :
    (⟨state.trusted.partials.erase key⟩ : ReassemblyState) =
      (⟨state.partials.erase key⟩ : ReassemblyState).trusted :=
  congrArg ReassemblyState.mk (retain_key_erase MessageKey.isTrusted key state.partials).symm

theorem insert_trusted (hkey : key.1.isWeb = false) (p : PartialMessage) :
    (⟨state.trusted.partials.insert key p⟩ : ReassemblyState) =
      (⟨state.partials.insert key p⟩ : ReassemblyState).trusted := by
  have htrusted : MessageKey.isTrusted key = true := by simp [MessageKey.isTrusted, hkey]
  exact congrArg ReassemblyState.mk
    (retain_key_insert MessageKey.isTrusted htrusted p state.partials).symm

variable (r : Reassembler)

theorem findOrInsert_trusted (state : ReassemblyState) (hkey : key.1.isWeb = false)
    (header : FragmentHeader) (topic : OriginalTopic) (now : ℕ) :
    r.findOrInsert state.trusted key header topic now =
      (r.findOrInsert state key header topic now).map fun (p, s) => (p, s.trusted) := by
  unfold findOrInsert
  rw [lookup_trusted state hkey, admitMessage_trusted state hkey]
  cases state.partials.lookup key with
  | some p => rfl
  | none =>
    by_cases hindex : header.index ≠ 0
    · rw [if_pos hindex, if_pos hindex]
      rfl
    · rw [if_neg hindex, if_neg hindex]
      cases state.admitMessage key.1 header.totalLen.toNat with
      | error error => rfl
      | ok _ =>
        simp only [insert_trusted state hkey]
        rfl

variable {message : IncomingMessage} (codec : HeaderCodec)

/-- A trusted fragment is answered from the trusted part alone, which moves as the whole
state does. -/
theorem accept_trusted (state : ReassemblyState) (hsource : message.source.isWeb = false)
    (topic : OriginalTopic) (now : ℕ) :
    r.accept codec state.trusted message topic now =
      ((r.accept codec state message topic now).1,
        (r.accept codec state message topic now).2.trusted) := by
  unfold accept
  cases FragmentFrame.decode codec message.payload with
  | none => rfl
  | some frame =>
    obtain ⟨header, data⟩ := frame
    by_cases hbounds : header.totalLen.toNat > maxPayloadSize ∨ data = []
    · simp only [hbounds, if_true]
    · have hkey : (message.source, header.messageId).1.isWeb = false := hsource
      simp only [hbounds, if_false]
      rw [removeExpired_trusted, findOrInsert_trusted r _ hkey]
      cases r.findOrInsert (state.removeExpired now) (message.source, header.messageId)
          header topic now with
      | error error => rfl
      | ok found =>
        obtain ⟨p, found⟩ := found
        simp only [Except.map]
        cases p.check header topic data.length with
        | error error => simp only [erase_trusted]
        | ok _ =>
          simp only
          split
          · simp only [erase_trusted]
          · simp only [insert_trusted found hkey]

/-! ## A sweep before a fragment is unobservable -/

theorem accept_removeExpired (state : ReassemblyState) (message : IncomingMessage)
    (topic : OriginalTopic) {early now : ℕ} (h : early ≤ now) :
    (r.accept codec (state.removeExpired early) message topic now).1 =
      (r.accept codec state message topic now).1 ∧
    (r.accept codec (state.removeExpired early) message topic now).2.removeExpired now =
      (r.accept codec state message topic now).2.removeExpired now := by
  unfold accept
  cases FragmentFrame.decode codec message.payload with
  | none => exact ⟨rfl, removeExpired_removeExpired state h⟩
  | some frame =>
    obtain ⟨header, data⟩ := frame
    by_cases hbounds : header.totalLen.toNat > maxPayloadSize ∨ data = []
    · simp only [hbounds, if_true, true_and]
      exact removeExpired_removeExpired state h
    · simp only [hbounds, if_false, removeExpired_removeExpired state h, and_self]

/-- A fragment from a web page leaves the trusted part as it was, up to expiry. -/
theorem accept_web (state : ReassemblyState) (hsource : message.source.isWeb = true)
    (topic : OriginalTopic) (now : ℕ) :
    (r.accept codec state message topic now).2.trusted.removeExpired now =
      state.trusted.removeExpired now := by
  have hsweep : (state.removeExpired now).trusted.removeExpired now =
      state.trusted.removeExpired now := by
    rw [← removeExpired_trusted, removeExpired_removeExpired _ le_rfl]
  have hkey : ∀ header : FragmentHeader,
      MessageKey.isTrusted (message.source, header.messageId) = false := by
    intro header
    simp [MessageKey.isTrusted, hsource]
  have herase : ∀ header : FragmentHeader,
      (⟨(state.removeExpired now).partials.erase (message.source, header.messageId)⟩ :
        ReassemblyState).trusted = (state.removeExpired now).trusted := by
    intro header
    exact congrArg ReassemblyState.mk
      (retain_key_erase_of_neg MessageKey.isTrusted (hkey header) _)
  rcases accept_cases r codec state message topic now with
    ⟨_, -, haccept⟩ | ⟨header, data, -, -, -, hstep⟩
  · rw [haccept]
  · generalize r.accept codec state message topic now = result at hstep
    cases hstep with
    | refused => exact hsweep
    | dropped | completed => rw [herase]; exact hsweep
    | @extended p =>
      have hinsert := congrArg ReassemblyState.mk
        (retain_key_insert_of_neg MessageKey.isTrusted (hkey header)
          (r.extend p data now) (state.removeExpired now).partials)
      exact (congrArg (·.removeExpired now) hinsert).trans hsweep

/-! ## Two runs -/

/-- The trusted parts of two states agree up to expiry at a time before every call that
is still to come. -/
def Agree (calls : List AcceptCall) (left right : ReassemblyState) : Prop :=
  calls.Pairwise (fun a b => a.now ≤ b.now) ∧
  ∃ time, (∀ call ∈ calls, time ≤ call.now) ∧
    left.trusted.removeExpired time = right.trusted.removeExpired time

variable {left right : ReassemblyState} {calls : List AcceptCall} {call : AcceptCall}

theorem agree_keep (hsource : call.message.source.isWeb = false)
    (h : Agree (call :: calls) left right) :
    (r.accept codec left call.message call.topic call.now).1 =
      (r.accept codec right call.message call.topic call.now).1 ∧
    Agree calls (r.accept codec left call.message call.topic call.now).2
      (r.accept codec right call.message call.topic call.now).2 := by
  obtain ⟨hsorted, time, htime, hagree⟩ := h
  obtain ⟨hnext, hsorted⟩ := List.pairwise_cons.mp hsorted
  have hnow : time ≤ call.now := htime call (by simp)
  have hleft := accept_trusted r codec left hsource call.topic call.now
  have hright := accept_trusted r codec right hsource call.topic call.now
  obtain ⟨hsweepLeft, hstateLeft⟩ :=
    accept_removeExpired r codec left.trusted call.message call.topic hnow
  obtain ⟨hsweepRight, hstateRight⟩ :=
    accept_removeExpired r codec right.trusted call.message call.topic hnow
  rw [hleft] at hsweepLeft hstateLeft
  rw [hright] at hsweepRight hstateRight
  refine ⟨?_, hsorted, call.now, hnext, ?_⟩
  · rw [← hsweepLeft, ← hsweepRight, hagree]
  · rw [← hstateLeft, ← hstateRight, hagree]

theorem agree_delete (hsource : call.message.source.isWeb = true)
    (h : Agree (call :: calls) left right) :
    Agree calls (r.accept codec left call.message call.topic call.now).2 right := by
  obtain ⟨hsorted, time, htime, hagree⟩ := h
  obtain ⟨hnext, hsorted⟩ := List.pairwise_cons.mp hsorted
  have hnow : time ≤ call.now := htime call (by simp)
  refine ⟨hsorted, call.now, hnext, ?_⟩
  calc
    (r.accept codec left call.message call.topic call.now).2.trusted.removeExpired call.now =
        left.trusted.removeExpired call.now := accept_web r codec left hsource _ _
    _ = (left.trusted.removeExpired time).removeExpired call.now :=
        (removeExpired_removeExpired _ hnow).symm
    _ = right.trusted.removeExpired call.now := by
        rw [hagree, removeExpired_removeExpired _ hnow]

/-- Deleting every fragment from a web page from a time-ordered sequence changes no
answer to the other fragments. -/
theorem acceptAll_delete_web (r : Reassembler) (codec : HeaderCodec)
    (calls : List AcceptCall) (hsorted : calls.Pairwise fun a b => a.now ≤ b.now) :
    ((calls.zip (r.acceptAll codec default calls).1).filter
      fun p => !p.1.message.source.isWeb).map Prod.snd =
    (r.acceptAll codec default
      (calls.filter fun call => !call.message.source.isWeb)).1 := by
  apply feed_filter _ (fun call : AcceptCall => !call.message.source.isWeb) Agree
  · intro call calls left right hkeep h
    exact agree_keep r codec (by simpa using hkeep) h
  · intro call calls left right hdelete h
    exact agree_delete r codec (by simpa using hdelete) h
  · exact ⟨hsorted, 0, fun _ _ => Nat.zero_le _, rfl⟩

def sampleCalls : List AcceptCall :=
  let header : FragmentHeader := { messageId := 7, index := 0, totalLen := 2 }
  let call (source : Source) (now : ℕ) : AcceptCall :=
    { message := { payload := FragmentFrame.encode cborHeader ⟨header, [1]⟩
                   destination := .browserBackground .own, source, topic := none }
      topic := none, now }
  [call (.web 1 "doc" "https://example.com") 0, call (.browserForeground 1) 1,
    call (.web 1 "doc" "https://example.com") 2]

theorem acceptAll_delete_web_sample :
    (sampleCalls.Pairwise fun a b => a.now ≤ b.now) ∧
    ((sampleCalls.zip (Reassembler.acceptAll ⟨reassemblyTimeout, reassemblyIdleTimeout⟩
        cborHeader default sampleCalls).1).filter
      fun p => !p.1.message.source.isWeb).map Prod.snd =
    (Reassembler.acceptAll ⟨reassemblyTimeout, reassemblyIdleTimeout⟩ cborHeader default
      (sampleCalls.filter fun call => !call.message.source.isWeb)).1 :=
  ⟨by decide, acceptAll_delete_web _ _ sampleCalls (by decide)⟩

end SdkInternal.Ipc
