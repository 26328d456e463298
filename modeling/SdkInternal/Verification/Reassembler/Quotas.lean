import SdkInternal.Verification.Reassembler.Equations

/-! # Quotas on incomplete messages

Every reachable state stays within the limits for each source and each pool, and every
stored partial message is strictly between empty and complete. -/

namespace SdkInternal.Ipc

open Shared Store

/-! ## Usage under the updates of the store -/

def Fits (filter : Source → Bool) (limit : Usage) (state : ReassemblyState) : Prop :=
  (state.usage filter).messages ≤ limit.messages ∧ (state.usage filter).bytes ≤ limit.bytes

variable {filter : Source → Bool} {limit : Usage} {state : ReassemblyState} {key : MessageKey}
  {p q : PartialMessage} {r : Reassembler} {header : FragmentHeader} {topic : OriginalTopic}
  {now : ℕ}

section

variable (h : Fits filter limit state)

include h

theorem Fits.removeExpired (now : ℕ) : Fits filter limit (state.removeExpired now) := by
  unfold Fits at h ⊢
  simp only [usage_eq_weigh] at h ⊢
  exact ⟨(weigh_retain_le _ _ _).trans h.1, (weigh_retain_le _ _ _).trans h.2⟩

theorem Fits.erase (key : MessageKey) : Fits filter limit ⟨state.partials.erase key⟩ := by
  unfold Fits at h ⊢
  simp only [usage_eq_weigh] at h ⊢
  exact ⟨(weigh_erase_le _ _ _).trans h.1, (weigh_erase_le _ _ _).trans h.2⟩

theorem Fits.insert_stored (hlookup : state.partials.lookup key = some p)
    (hlen : q.totalLen = p.totalLen) : Fits filter limit ⟨state.partials.insert key q⟩ := by
  unfold Fits at h ⊢
  simp only [usage_eq_weigh] at h ⊢
  have hmessages := weigh_eq_add_weigh_erase (messageWeight filter) hlookup
  have hbytes := weigh_eq_add_weigh_erase (byteWeight filter) hlookup
  rw [hmessages, hbytes] at h
  simpa [messageWeight, byteWeight, hlen] using h

theorem Fits.insert_new (hlookup : state.partials.lookup key = none)
    (hroom : filter key.1 = true → (state.usage filter).messages < limit.messages ∧
      (state.usage filter).bytes + q.totalLen ≤ limit.bytes) :
    Fits filter limit ⟨state.partials.insert key q⟩ := by
  unfold Fits at h ⊢
  simp only [usage_eq_weigh] at h hroom ⊢
  rw [weigh_insert, weigh_insert, erase_of_lookup_eq_none hlookup]
  by_cases hfilter : filter key.1 = true
  · have hfree := hroom hfilter
    simp only [messageWeight, byteWeight, hfilter, if_true] at hfree ⊢
    omega
  · simpa [messageWeight, byteWeight, hfilter] using h

end

/-! ## The invariant -/

/-- At least one and fewer than all declared bytes have arrived, in nonempty fragments. -/
def PartialMessage.Growing (p : PartialMessage) : Prop :=
  1 ≤ p.nextIndex.toNat ∧ p.nextIndex.toNat ≤ p.payload.length ∧
    p.payload.length < p.totalLen ∧ p.totalLen ≤ maxPayloadSize

/-- The limits as the code compares them, for every source and for both pools. -/
structure QuotaInvariant (state : ReassemblyState) : Prop where
  source : ∀ source, Fits (fun s => decide (s = source)) sourceLimit state
  pool : ∀ pool : Pool, Fits (fun s => decide (Pool.of s = pool)) pool.limit state
  growing : ∀ key p, state.partials.lookup key = some p → p.Growing

theorem quotaInvariant_default : QuotaInvariant default :=
  ⟨fun _ => ⟨Nat.zero_le _, Nat.zero_le _⟩, fun _ => ⟨Nat.zero_le _, Nat.zero_le _⟩,
    fun key p h => by cases h⟩

theorem QuotaInvariant.removeExpired (h : QuotaInvariant state) (now : ℕ) :
    QuotaInvariant (state.removeExpired now) := by
  refine ⟨fun s => (h.source s).removeExpired now, fun pool => (h.pool pool).removeExpired now,
    ?_⟩
  intro key p hlookup
  exact h.growing key p (lookup_removeExpired_eq_some.mp hlookup).1

theorem QuotaInvariant.erase (h : QuotaInvariant state) (key : MessageKey) :
    QuotaInvariant ⟨state.partials.erase key⟩ := by
  refine ⟨fun s => (h.source s).erase key, fun pool => (h.pool pool).erase key, ?_⟩
  intro key' p hlookup
  exact h.growing key' p (lookup_of_erase hlookup)

theorem Continues.growing {data : List UInt8} (hp : Continues r state key header topic now p)
    (hstate : QuotaInvariant state) (hmax : header.totalLen.toNat ≤ maxPayloadSize)
    (hdata : data ≠ []) (hcheck : p.check header topic data.length = .ok ())
    (hincomplete : (r.extend p data now).isComplete = false) :
    (r.extend p data now).Growing := by
  obtain ⟨-, hlen, -, hfit⟩ := check_eq_ok.mp hcheck
  have hpos : 0 < data.length := List.length_pos_iff.mpr hdata
  have hne : p.payload.length + data.length ≠ p.totalLen := by
    intro heq
    rw [(extend_isComplete r p data now).mpr heq] at hincomplete
    cases hincomplete
  have hsize : maxPayloadSize < 2 ^ 32 := by decide
  -- The index counts fragments, each of which carried a byte, so it cannot wrap.
  have hindex : p.nextIndex.toNat ≤ p.payload.length := by
    cases hp with
    | stored hlookup => exact (hstate.growing key p hlookup).2.1
    | first => exact Nat.zero_le _
  have hsucc : (p.nextIndex + 1).toNat = p.nextIndex.toNat + 1 := by
    apply Nat.mod_eq_of_lt
    change p.nextIndex.toNat + 1 < 2 ^ 32
    omega
  simp only [PartialMessage.Growing, extend_nextIndex, extend_payload, extend_totalLen, hsucc,
    List.length_append]
  omega

theorem QuotaInvariant.insert (h : QuotaInvariant state)
    (hp : Continues r state key header topic now p) (hlen : q.totalLen = p.totalLen)
    (hq : q.Growing) : QuotaInvariant ⟨state.partials.insert key q⟩ := by
  have hgrowing : ∀ key' p', (state.partials.insert key q).lookup key' = some p' → p'.Growing := by
    intro key' p' hlookup
    by_cases hkey : key' = key
    · subst hkey
      rw [AList.lookup_insert] at hlookup
      exact Option.some.inj hlookup ▸ hq
    · rw [AList.lookup_insert_ne hkey] at hlookup
      exact h.growing key' p' hlookup
  cases hp with
  | stored hlookup =>
    exact ⟨fun s => (h.source s).insert_stored hlookup hlen,
      fun pool => (h.pool pool).insert_stored hlookup hlen, hgrowing⟩
  | first hlookup hindex hadmitted =>
    obtain ⟨hsourceMessages, hpoolMessages, hsourceBytes, hpoolBytes⟩ :=
      admitMessage_eq_ok.mp hadmitted
    refine ⟨fun s => ?_, fun pool => ?_, hgrowing⟩
    · apply (h.source s).insert_new hlookup
      intro hsource
      obtain rfl : key.1 = s := of_decide_eq_true hsource
      exact ⟨hsourceMessages, by rw [hlen]; exact hsourceBytes⟩
    · apply (h.pool pool).insert_new hlookup
      intro hpool
      obtain rfl : Pool.of key.1 = pool := of_decide_eq_true hpool
      exact ⟨hpoolMessages, by rw [hlen]; exact hpoolBytes⟩

/-- One call keeps the invariant, whatever fragment it is given. -/
theorem accept_quotaInvariant (r : Reassembler) (codec : HeaderCodec) (h : QuotaInvariant state)
    (message : IncomingMessage) (topic : OriginalTopic) (now : ℕ) :
    QuotaInvariant (r.accept codec state message topic now).2 := by
  rcases accept_cases r codec state message topic now with
    ⟨_, -, haccept⟩ | ⟨header, data, -, hmax, hdata, hstep⟩
  · rw [haccept]
    exact h
  · have hswept := h.removeExpired now
    generalize r.accept codec state message topic now = result at hstep
    cases hstep with
    | refused => exact hswept
    | dropped | completed => exact hswept.erase _
    | extended hp hcheck hincomplete =>
      exact hswept.insert hp rfl (hp.growing hswept hmax hdata hcheck hincomplete)

/-- A fragment out of order or inconsistent with its message leaves nothing stored. -/
theorem accept_error_lookup {codec : HeaderCodec} {message : IncomingMessage} {data : List UInt8}
    {error : ReassemblyError}
    (hdecode : FragmentFrame.decode codec message.payload = some ⟨header, data⟩)
    (herror : (r.accept codec state message topic now).1 = .error error)
    (hkind : error = .outOfOrder ∨ error = .inconsistent) :
    (r.accept codec state message topic now).2.partials.lookup
      (message.source, header.messageId) = none := by
  rcases accept_cases r codec state message topic now with
    ⟨other, hother, haccept⟩ | ⟨header', data', hdecode', -, -, hstep⟩
  · rw [haccept] at herror
    cases herror
    rcases hother with rfl | rfl <;> simp at hkind
  · cases hdecode.symm.trans hdecode'
    generalize r.accept codec state message topic now = result at hstep herror
    cases hstep with
    | refused hlookup => exact hlookup
    | dropped => exact AList.lookup_erase _ _
    | completed | extended => cases herror

/-! ## Reachable states -/

/-- The quotas in plain terms: entries are counted and their declared sizes added up. -/
structure WithinQuotas (state : ReassemblyState) : Prop where
  source : ∀ source : Source,
    (state.partials.entries.filter fun e => decide (e.1.1 = source)).length ≤ 4 ∧
    ((state.partials.entries.filter fun e => decide (e.1.1 = source)).map
      fun e => e.2.totalLen).sum ≤ maxPayloadSize
  web :
    (state.partials.entries.filter fun e => decide (Pool.of e.1.1 = .web)).length ≤ 4 ∧
    ((state.partials.entries.filter fun e => decide (Pool.of e.1.1 = .web)).map
      fun e => e.2.totalLen).sum ≤ maxPayloadSize
  other :
    (state.partials.entries.filter fun e => decide (Pool.of e.1.1 = .other)).length ≤ 16 ∧
    ((state.partials.entries.filter fun e => decide (Pool.of e.1.1 = .other)).map
      fun e => e.2.totalLen).sum ≤ 4 * maxPayloadSize
  received : ∀ key p, state.partials.lookup key = some p →
    1 ≤ p.payload.length ∧ p.payload.length < p.totalLen
  nextIndex : ∀ key p, state.partials.lookup key = some p →
    1 ≤ p.nextIndex.toNat ∧ p.nextIndex.toNat ≤ p.payload.length

theorem QuotaInvariant.withinQuotas (h : QuotaInvariant state) : WithinQuotas state := by
  have hplain : ∀ filter limit, Fits filter limit state →
      (state.partials.entries.filter fun e => filter e.1.1).length ≤ limit.messages ∧
      ((state.partials.entries.filter fun e => filter e.1.1).map
        fun e => e.2.totalLen).sum ≤ limit.bytes := by
    intro filter limit hfits
    simpa only [Fits, usage_eq] using hfits
  refine ⟨fun s => hplain _ _ (h.source s), hplain _ _ (h.pool .web),
    hplain _ _ (h.pool .other), ?_, ?_⟩
  · intro key p hlookup
    obtain ⟨hindex, hle, hlt, -⟩ := h.growing key p hlookup
    exact ⟨hindex.trans hle, hlt⟩
  · intro key p hlookup
    obtain ⟨hindex, hle, -⟩ := h.growing key p hlookup
    exact ⟨hindex, hle⟩

theorem acceptAll_quotaInvariant (r : Reassembler) (codec : HeaderCodec)
    (calls : List AcceptCall) : QuotaInvariant (r.acceptAll codec default calls).2 :=
  feed_invariant _ QuotaInvariant (fun _ _ h => accept_quotaInvariant r codec h _ _ _) calls
    quotaInvariant_default

/-- After every call in every sequence of calls the quotas hold, and a call that answers
`OutOfOrder` or `Inconsistent` leaves no partial message for its fragment's key. -/
theorem acceptAll_withinQuotas (r : Reassembler) (codec : HeaderCodec)
    (calls : List AcceptCall) (call : AcceptCall) :
    let before := (r.acceptAll codec default calls).2
    let after := r.accept codec before call.message call.topic call.now
    WithinQuotas after.2 ∧
    ∀ header data,
      FragmentFrame.decode codec call.message.payload = some ⟨header, data⟩ →
      after.1 = .error .outOfOrder ∨ after.1 = .error .inconsistent →
      after.2.partials.lookup (call.message.source, header.messageId) = none := by
  intro before after
  have hbefore : QuotaInvariant before := acceptAll_quotaInvariant r codec calls
  refine ⟨(accept_quotaInvariant r codec hbefore _ _ _).withinQuotas, ?_⟩
  intro header data hdecode herror
  rcases herror with herror | herror
  · exact accept_error_lookup hdecode herror (.inl rfl)
  · exact accept_error_lookup hdecode herror (.inr rfl)

end SdkInternal.Ipc
