import SdkInternal.Verification.Fragments.Splitting
import SdkInternal.Verification.Reassembler.Cbor
import SdkInternal.Verification.Reassembler.Equations
import Mathlib.Data.List.Chain

/-! # Fragments of a message come back as the message

The fragments of one message arrive in order, among arbitrary other arrivals. The partial
message they build is a front of the payload, which the other arrivals leave alone, and
the fragment that makes it the whole payload returns the message. -/

namespace SdkInternal.Ipc

open Shared List FragmentFrame Reassembler

/-! ## Schedules -/

/-- Arrivals in order: on the left those of one message, on the right all others. -/
abbrev Schedule := List (Arrival ⊕ Arrival)

def Schedule.arrivals (schedule : Schedule) : List Arrival :=
  schedule.map (Sum.elim id id)

def Schedule.own (schedule : Schedule) : List Arrival :=
  schedule.filterMap Sum.getLeft?

def Schedule.results (r : Reassembler) (codec : HeaderCodec) (state : ReassemblyState)
    (schedule : Schedule) : List (Option IncomingMessage) :=
  ((schedule.zip (r.processAll codec state schedule.arrivals).1).filter
    fun p => p.1.isLeft).map Prod.snd

section

variable (r : Reassembler) (codec : HeaderCodec) (state : ReassemblyState) (a : Arrival)
  (schedule : Schedule)

@[simp] theorem own_nil : Schedule.own [] = [] := rfl

@[simp] theorem own_inl : Schedule.own (.inl a :: schedule) = a :: schedule.own := rfl

@[simp] theorem own_inr : Schedule.own (.inr a :: schedule) = schedule.own := rfl

@[simp] theorem arrivals_inl :
    Schedule.arrivals (.inl a :: schedule) = a :: schedule.arrivals := rfl

@[simp] theorem arrivals_inr :
    Schedule.arrivals (.inr a :: schedule) = a :: schedule.arrivals := rfl

@[simp] theorem results_inl :
    Schedule.results r codec state (.inl a :: schedule) =
      (r.process codec state a.message a.now).1 ::
        schedule.results r codec (r.process codec state a.message a.now).2 := rfl

@[simp] theorem results_inr :
    Schedule.results r codec state (.inr a :: schedule) =
      schedule.results r codec (r.process codec state a.message a.now).2 := rfl

theorem length_results : (schedule.results r codec state).length = schedule.own.length := by
  induction schedule generalizing state with
  | nil => rfl
  | cons x schedule ih =>
    cases x with
    | inl a | inr a => simp [ih]

theorem results_eq_nil (h : schedule.own = []) : schedule.results r codec state = [] := by
  rw [← length_eq_zero_iff, length_results, h]
  rfl

theorem mem_arrivals_of_mem_own (h : a ∈ schedule.own) : a ∈ schedule.arrivals := by
  induction schedule with
  | nil => simp at h
  | cons x schedule ih =>
    cases x with
    | inl b =>
      rcases mem_cons.mp h with rfl | h
      · simp
      · simp [ih h]
    | inr b => simp [ih h]

end

structure Carries (source : Source) (sent : OutgoingMessage) (a : Arrival) : Prop where
  payload : a.message.payload = sent.payload
  topic : a.message.topic = sent.topic
  source : a.message.source = source

/-- The sent messages arrive in order and in time, among arrivals that are not fragments
of the same key, and the first fragment is admitted. -/
structure Delivery (r : Reassembler) (codec : HeaderCodec) (state : ReassemblyState)
    (source : Source) (sent : List OutgoingMessage) (schedule : Schedule) : Prop where
  ordered : schedule.arrivals.Pairwise fun a b => a.now ≤ b.now
  carried : List.Forall₂ (Carries source) sent schedule.own
  distinct : ∀ a b, .inl a ∈ schedule → .inr b ∈ schedule → ∀ f g,
    a.fragment? codec = some f → b.fragment? codec = some g → g.key ≠ f.key
  unused : ∀ a, .inl a ∈ schedule → ∀ f, a.fragment? codec = some f →
    state.partials.lookup f.key = none
  idle : schedule.own.IsChain fun a b => b.now < a.now + r.idleTimeout
  overall : ∀ first ∈ schedule.own.head?, ∀ a ∈ schedule.own.tail, a.now < first.now + r.timeout
  admitted : ∀ before first after, schedule = before ++ .inl first :: after →
    Schedule.own before = [] → ∀ f, first.fragment? codec = some f →
    ((r.processAll codec state (Schedule.arrivals before)).2.removeExpired first.now).admitMessage
      source f.header.totalLen.toNat = .ok ()

/-! ## One fragment -/

section

variable {r : Reassembler} {codec : HeaderCodec} {message : OutgoingMessage}
  {messageId : UInt64} {fragmentLen : ℕ} {source : Source}

structure Holds (message : OutgoingMessage) (fragmentLen : ℕ) (index : UInt32)
    (p : PartialMessage) : Prop where
  totalLen : p.totalLen = message.payload.length
  topic : p.topic = message.topic
  nextIndex : p.nextIndex = index
  payload : p.payload = message.payload.take (index.toNat * fragmentLen)

theorem toNat_totalLen (hsize : message.payload.length ≤ maxPayloadSize) :
    message.payload.length.toUInt32.toNat = message.payload.length := by
  have hmax : maxPayloadSize < 2 ^ 32 := by decide
  exact Nat.mod_eq_of_lt (by omega)

theorem decode_encode (hcodec : codec.Lawful) (frame : FragmentFrame) :
    decode codec (frame.encode codec) = some frame := by
  simp [decode, encode, hcodec.fromReader_intoWriter]

variable {a : Arrival} {state : ReassemblyState} {schedule : Schedule}

section

variable (hcodec : codec.Lawful) {index : UInt32}
  (h : Carries source (pieceMessage codec message messageId
    (Fragments.fragmentTopic message.topic) fragmentLen index) a)

include hcodec h

theorem Carries.decoded :
    originalTopic a.message.topic = some message.topic ∧
      decode codec a.message.payload =
        some (pieceFrame message messageId fragmentLen index) := by
  rw [h.topic, h.payload]
  exact ⟨originalTopic_fragmentTopic message.topic, decode_encode hcodec _⟩

theorem Carries.fragment? :
    a.fragment? codec = some
      { source, topic := message.topic
        header := (pieceFrame message messageId fragmentLen index).header
        data := (pieceFrame message messageId fragmentLen index).data, now := a.now } := by
  simp [Arrival.fragment?, h.decoded hcodec, h.source]

end

/-! ### Partial messages -/

section

variable {index : UInt32} {p : PartialMessage}

section

variable (h : Holds message fragmentLen index p)
  (hindex : index.toNat * fragmentLen < message.payload.length)

include h hindex

theorem Holds.length_payload : p.payload.length = index.toNat * fragmentLen := by
  rw [h.payload, length_take]
  omega

variable (hsize : message.payload.length ≤ maxPayloadSize)

include hsize

theorem Holds.check :
    p.check (pieceFrame message messageId fragmentLen index).header message.topic
      (pieceFrame message messageId fragmentLen index).data.length = .ok () := by
  have hdata := @length_pieceFrame_data message messageId fragmentLen index
  apply check_eq_ok.mpr
  refine ⟨h.nextIndex.symm, (toNat_totalLen hsize).trans h.totalLen.symm, h.topic.symm, ?_⟩
  rw [h.length_payload hindex, h.totalLen]
  omega

theorem Holds.extend (hlen : 0 < fragmentLen) (now : ℕ) :
    Holds message fragmentLen (index + 1)
      (r.extend p (pieceFrame message messageId fragmentLen index).data now) := by
  refine ⟨h.totalLen, h.topic, ?_, ?_⟩
  · rw [extend_nextIndex, h.nextIndex]
  · rw [extend_payload, h.payload, take_append_pieceFrame hindex.le,
      toNat_index_add_one hlen hsize hindex, Nat.succ_mul]
    rcases le_total message.payload.length (index.toNat * fragmentLen + fragmentLen) with h | h
    · rw [Nat.min_eq_left h, take_length, take_of_length_le h]
    · rw [Nat.min_eq_right h]

theorem Holds.isComplete_extend (hlen : 0 < fragmentLen) (now : ℕ) :
    (r.extend p (pieceFrame message messageId fragmentLen index).data now).isComplete = true ↔
      message.payload.length ≤ (index + 1).toNat * fragmentLen := by
  have hdata := @length_pieceFrame_data message messageId fragmentLen index
  rw [extend_isComplete, h.length_payload hindex, h.totalLen, toNat_index_add_one hlen hsize hindex,
    Nat.succ_mul]
  omega

end

end

theorem process_piece (hcodec : codec.Lawful) (hlen : 0 < fragmentLen)
    (hsize : message.payload.length ≤ maxPayloadSize) {index : UInt32}
    (hindex : index.toNat * fragmentLen < message.payload.length)
    (ha : Carries source (pieceMessage codec message messageId
      (Fragments.fragmentTopic message.topic) fragmentLen index) a) {p : PartialMessage}
    (hp : Holds message fragmentLen index p)
    (hcontinues : Continues r (state.removeExpired a.now) (source, messageId)
      (pieceFrame message messageId fragmentLen index).header message.topic a.now p) :
    ∃ q, Holds message fragmentLen (index + 1) q ∧ q.deadline = p.deadline ∧
      q.expiresAt = min p.deadline (a.now + r.idleTimeout) ∧
      r.process codec state a.message a.now =
        if message.payload.length ≤ (index + 1).toNat * fragmentLen then
          (some { payload := message.payload, destination := a.message.destination
                  source, topic := message.topic },
            ⟨(state.removeExpired a.now).partials.erase (source, messageId)⟩)
        else
          (none, ⟨(state.removeExpired a.now).partials.insert (source, messageId) q⟩) := by
  obtain ⟨htopic, hdecode⟩ := ha.decoded hcodec
  have hbound : (pieceFrame message messageId fragmentLen index).header.totalLen.toNat ≤
      maxPayloadSize := (toNat_totalLen hsize).trans_le hsize
  have hdata := @length_pieceFrame_data message messageId fragmentLen index
  have hnonempty : (pieceFrame message messageId fragmentLen index).data ≠ [] :=
    length_pos_iff.mp (by omega)
  rw [← ha.source] at hcontinues
  have haccept := accept_of_continues hdecode hbound hnonempty hcontinues (hp.check hindex hsize)
  have hnext : Holds message fragmentLen (index + 1)
      (r.extend p (pieceFrame message messageId fragmentLen index).data a.now) :=
    hp.extend hindex hsize hlen a.now
  have hcomplete : (r.extend p (pieceFrame message messageId fragmentLen index).data
      a.now).isComplete = true ↔ message.payload.length ≤ (index + 1).toNat * fragmentLen :=
    hp.isComplete_extend hindex hsize hlen a.now
  refine ⟨_, hnext, rfl, rfl, ?_⟩
  rw [process_of_fragment r codec state a.now htopic, haccept]
  by_cases hlast : message.payload.length ≤ (index + 1).toNat * fragmentLen
  · rw [if_pos (hcomplete.mpr hlast), if_pos hlast, hnext.payload,
      take_of_length_le hlast, hp.topic, ha.source]
    rfl
  · rw [if_neg (fun h => hlast (hcomplete.mp h)), if_neg hlast, ha.source]
    rfl

/-! ## The fragments after the first -/

/-- The pieces from `index` on are still to arrive, in time for the partial message that
was last extended at `last`. -/
structure Pending (r : Reassembler) (codec : HeaderCodec) (message : OutgoingMessage)
    (messageId : UInt64) (fragmentLen : ℕ) (source : Source) (index : UInt32) (fuel : ℕ)
    (p : PartialMessage) (last : ℕ) (schedule : Schedule) : Prop where
  before_end : index.toNat * fragmentLen < message.payload.length
  enough : message.payload.length ≤ index.toNat * fragmentLen + fuel
  holds : Holds message fragmentLen index p
  expiresAt : p.expiresAt = min p.deadline (last + r.idleTimeout)
  ordered : schedule.arrivals.Pairwise fun a b => a.now ≤ b.now
  carried : List.Forall₂ (Carries source)
    ((Fragments.many message messageId (Fragments.fragmentTopic message.topic) fragmentLen
      index).iterate codec fuel) schedule.own
  other : ∀ b, .inr b ∈ schedule → ∀ g, b.fragment? codec = some g → g.key ≠ (source, messageId)
  idle : (last :: schedule.own.map Arrival.now).IsChain fun s t => t < s + r.idleTimeout
  deadline : ∀ a ∈ schedule.own, a.now < p.deadline

section Pending

variable {index : UInt32} {fuel last : ℕ} {p : PartialMessage} {schedule : Schedule}

theorem Pending.exists_own (h : Pending r codec message messageId fragmentLen source index
    fuel p last schedule) : ∃ a rest n, fuel = n + 1 ∧ schedule.own = a :: rest := by
  have hbefore := h.before_end
  have henough := h.enough
  obtain ⟨n, rfl⟩ : ∃ n, fuel = n + 1 := ⟨fuel - 1, by omega⟩
  have hcarried := h.carried
  rw [iterate_many_of_lt hbefore] at hcarried
  obtain ⟨a, rest, -, -, hown⟩ := forall₂_cons_left_iff.mp hcarried
  exact ⟨a, rest, n, rfl, hown⟩

theorem Pending.skip {b : Arrival} (h : Pending r codec message messageId fragmentLen source
    index fuel p last (.inr b :: schedule)) :
    b.now < p.expiresAt ∧ Pending r codec message messageId fragmentLen source index fuel p
      last schedule := by
  obtain ⟨hfirst, hordered⟩ := pairwise_cons.mp h.ordered
  have hrest : Pending r codec message messageId fragmentLen source index fuel p last
      schedule :=
    { h with
      ordered := hordered
      other := fun c hc => h.other c (mem_cons_of_mem _ hc) }
  refine ⟨?_, hrest⟩
  obtain ⟨a, rest, n, -, hown⟩ := hrest.exists_own
  have hle : b.now ≤ a.now :=
    hfirst a (mem_arrivals_of_mem_own a schedule (by simp [hown]))
  have hbefore : a.now < p.deadline := hrest.deadline a (by simp [hown])
  have hsoon : a.now < last + r.idleTimeout := by
    have hidle := hrest.idle
    rw [hown, map_cons, isChain_cons_cons] at hidle
    exact hidle.1
  rw [h.expiresAt]
  omega

theorem Pending.take {a : Arrival} (hlen : 0 < fragmentLen)
    (hsize : message.payload.length ≤ maxPayloadSize)
    (h : Pending r codec message messageId fragmentLen source index (fuel + 1) p last
      (.inl a :: schedule)) :
    a.now < p.expiresAt ∧
    Carries source (pieceMessage codec message messageId
      (Fragments.fragmentTopic message.topic) fragmentLen index) a ∧
    (message.payload.length ≤ (index + 1).toNat * fragmentLen → schedule.own = []) ∧
    ∀ q, Holds message fragmentLen (index + 1) q → q.deadline = p.deadline →
      q.expiresAt = min p.deadline (a.now + r.idleTimeout) →
      ¬message.payload.length ≤ (index + 1).toNat * fragmentLen →
      Pending r codec message messageId fragmentLen source (index + 1) fuel q a.now
        schedule := by
  have hcarried := h.carried
  rw [iterate_many_of_lt h.before_end, own_inl, forall₂_cons] at hcarried
  have hidle := h.idle
  rw [own_inl, map_cons, isChain_cons_cons] at hidle
  refine ⟨?_, hcarried.1, ?_, ?_⟩
  · rw [h.expiresAt]
    exact lt_min (h.deadline a (by simp)) hidle.1
  · intro hlast
    have hrest := hcarried.2
    rw [iterate_many_of_le hlast] at hrest
    exact forall₂_nil_left_iff.mp hrest
  · intro q hq hdeadline hexpires hlast
    have henough := h.enough
    have hnext := toNat_index_add_one hlen hsize h.before_end
    have hmul : (index.toNat + 1) * fragmentLen =
        index.toNat * fragmentLen + fragmentLen := Nat.succ_mul _ _
    exact
      { before_end := by omega
        enough := by rw [hnext, hmul]; omega
        holds := hq
        expiresAt := by rw [hexpires, hdeadline]
        ordered := (pairwise_cons.mp h.ordered).2
        carried := hcarried.2
        other := fun c hc => h.other c (mem_cons_of_mem _ hc)
        idle := hidle.2
        deadline := fun b hb => by
          rw [hdeadline]
          exact h.deadline b (mem_cons_of_mem a hb) }

theorem Pending.results (hcodec : codec.Lawful) (hlen : 0 < fragmentLen)
    (hsize : message.payload.length ≤ maxPayloadSize)
    (h : Pending r codec message messageId fragmentLen source index fuel p last schedule)
    {state : ReassemblyState}
    (hlookup : state.partials.lookup (source, messageId) = some p) :
    ∃ returned : IncomingMessage, returned.payload = message.payload ∧
      returned.topic = message.topic ∧ returned.source = source ∧
      schedule.results r codec state =
        replicate (schedule.own.length - 1) none ++ [some returned] := by
  induction schedule generalizing state index p fuel last with
  | nil =>
    obtain ⟨a, rest, n, -, hown⟩ := h.exists_own
    cases hown
  | cons x schedule ih =>
    cases x with
    | inr b =>
      obtain ⟨hlive, hrest⟩ := h.skip
      refine ih hrest ((process_lookup_of_ne r codec (h.other b (by simp)) ?_).trans hlookup)
      simpa [hlookup] using hlive
    | inl a =>
      obtain ⟨-, -, fuel, rfl, -⟩ := h.exists_own
      obtain ⟨hlive, ha, hend, hrest⟩ := h.take hlen hsize
      obtain ⟨q, hq, hdeadline, hexpires, hprocess⟩ := process_piece hcodec hlen hsize
        h.before_end ha h.holds
        (.stored (lookup_removeExpired_eq_some.mpr ⟨hlookup, hlive⟩))
      by_cases hlast : message.payload.length ≤ (index + 1).toNat * fragmentLen
      · rw [if_pos hlast] at hprocess
        refine ⟨{ payload := message.payload, destination := a.message.destination
                  source, topic := message.topic }, rfl, rfl, rfl, ?_⟩
        rw [results_inl, results_eq_nil _ _ _ _ (hend hlast), own_inl, hend hlast, hprocess]
        rfl
      · rw [if_neg hlast] at hprocess
        have hpending := hrest q hq hdeadline hexpires hlast
        have hstored : (r.process codec state a.message a.now).2.partials.lookup
            (source, messageId) = some q := by
          rw [hprocess]
          exact AList.lookup_insert _
        obtain ⟨returned, hpayload, htopic, hsource, hresults⟩ := ih hpending hstored
        obtain ⟨b, rest, -, -, hown⟩ := hpending.exists_own
        refine ⟨returned, hpayload, htopic, hsource, ?_⟩
        rw [results_inl, hresults, own_inl, hown, hprocess]
        rfl

end Pending

/-! ## The first fragment -/

theorem Delivery.skip {sent : List OutgoingMessage} {b : Arrival}
    (h : Delivery r codec state source sent (.inr b :: schedule)) :
    Delivery r codec (r.process codec state b.message b.now).2 source sent schedule where
  ordered := (pairwise_cons.mp h.ordered).2
  carried := h.carried
  distinct := fun c d hc hd =>
    h.distinct c d (mem_cons_of_mem _ hc) (mem_cons_of_mem _ hd)
  unused := by
    intro f hf g hg
    have hunused := h.unused f (mem_cons_of_mem _ hf) g hg
    rw [process_lookup_of_ne r codec _ (by simp [hunused]), hunused]
    intro g' hg'
    exact h.distinct f b (mem_cons_of_mem _ hf) (by simp) g g' hg hg'
  idle := h.idle
  overall := h.overall
  admitted := fun before first after hsplit hnone =>
    h.admitted (.inr b :: before) first after (by rw [hsplit]; rfl) hnone

theorem Delivery.first (hcodec : codec.Lawful) (hlen : 0 < fragmentLen)
    (hsize : message.payload.length ≤ maxPayloadSize)
    (hpieces : fragmentLen < message.payload.length) {fuel : ℕ}
    (hfuel : message.payload.length ≤ fuel + 1)
    (h : Delivery r codec state source ((Fragments.many message messageId
      (Fragments.fragmentTopic message.topic) fragmentLen 0).iterate codec (fuel + 1))
      (.inl a :: schedule)) :
    ∃ q, Pending r codec message messageId fragmentLen source (0 + 1) fuel q a.now schedule ∧
      (r.process codec state a.message a.now).1 = none ∧
      (r.process codec state a.message a.now).2.partials.lookup (source, messageId) = some q := by
  have hstart : (0 : UInt32).toNat * fragmentLen < message.payload.length := by
    change 0 * fragmentLen < _
    omega
  have hcarried := h.carried
  rw [iterate_many_of_lt hstart, own_inl, forall₂_cons] at hcarried
  obtain ⟨ha, hrest⟩ := hcarried
  have hfragment := ha.fragment? hcodec
  have hunused : state.partials.lookup (source, messageId) = none :=
    h.unused a (by simp) _ hfragment
  have hcontinues : Continues r (state.removeExpired a.now) (source, messageId)
      (pieceFrame message messageId fragmentLen 0).header message.topic a.now
      (r.newPartial (pieceFrame message messageId fragmentLen 0).header message.topic
        a.now) := by
    refine .first ?_ rfl (h.admitted [] a schedule rfl rfl _ hfragment)
    rw [lookup_removeExpired, hunused]
    rfl
  have hholds : Holds message fragmentLen 0
      (r.newPartial (pieceFrame message messageId fragmentLen 0).header message.topic a.now) :=
    ⟨toNat_totalLen hsize, rfl, rfl, by simp [newPartial]⟩
  obtain ⟨q, hq, hdeadline, hexpires, hprocess⟩ := process_piece hcodec hlen hsize hstart ha
    hholds hcontinues
  have hmore : ¬message.payload.length ≤ ((0 : UInt32) + 1).toNat * fragmentLen := by
    change ¬message.payload.length ≤ 1 * fragmentLen
    omega
  rw [if_neg hmore] at hprocess
  refine ⟨q, ?_, by rw [hprocess], by rw [hprocess]; exact AList.lookup_insert _⟩
  exact
    { before_end := by omega
      enough := by change _ ≤ 1 * fragmentLen + fuel; omega
      holds := hq
      expiresAt := by rw [hexpires, hdeadline]
      ordered := (pairwise_cons.mp h.ordered).2
      carried := hrest
      other := fun c hc g hg =>
        h.distinct a c (by simp) (mem_cons_of_mem _ hc) _ g hfragment hg
      idle := by
        rw [← map_cons, isChain_map]
        exact h.idle
      deadline := fun b hb => by
        rw [hdeadline]
        exact h.overall a rfl b hb }

theorem Delivery.results_many (hcodec : codec.Lawful) (hlen : 0 < fragmentLen)
    (hsize : message.payload.length ≤ maxPayloadSize)
    (hpieces : fragmentLen < message.payload.length) {fuel : ℕ}
    (hfuel : message.payload.length ≤ fuel)
    (h : Delivery r codec state source ((Fragments.many message messageId
      (Fragments.fragmentTopic message.topic) fragmentLen 0).iterate codec fuel) schedule) :
    ∃ returned : IncomingMessage, returned.payload = message.payload ∧
      returned.topic = message.topic ∧ returned.source = source ∧
      schedule.results r codec state =
        replicate (schedule.own.length - 1) none ++ [some returned] := by
  obtain ⟨fuel, rfl⟩ : ∃ n, fuel = n + 1 := ⟨fuel - 1, by omega⟩
  induction schedule generalizing state with
  | nil =>
    have hstart : (0 : UInt32).toNat * fragmentLen < message.payload.length := by
      change 0 * fragmentLen < _
      omega
    have hcarried := h.carried
    rw [iterate_many_of_lt hstart] at hcarried
    cases hcarried
  | cons x schedule ih =>
    cases x with
    | inr b => exact ih h.skip
    | inl a =>
      obtain ⟨q, hpending, hnone, hstored⟩ := h.first hcodec hlen hsize hpieces hfuel
      obtain ⟨returned, hpayload, htopic, hsource, hresults⟩ :=
        hpending.results hcodec hlen hsize hstored
      obtain ⟨b, rest, -, -, hown⟩ := hpending.exists_own
      refine ⟨returned, hpayload, htopic, hsource, ?_⟩
      rw [results_inl, hresults, own_inl, hown, hnone]
      rfl

theorem Delivery.results_single (htopic : originalTopic message.topic = none)
    (h : Delivery r codec state source [message] schedule) :
    ∃ returned : IncomingMessage, returned.payload = message.payload ∧
      returned.topic = message.topic ∧ returned.source = source ∧
      schedule.results r codec state = [some returned] := by
  have hcarried := h.carried
  clear h
  induction schedule generalizing state with
  | nil => cases hcarried
  | cons x schedule ih =>
    cases x with
    | inr b => exact ih hcarried
    | inl a =>
      rw [own_inl, forall₂_cons] at hcarried
      obtain ⟨ha, hrest⟩ := hcarried
      refine ⟨a.message, ha.payload, ha.topic, ha.source, ?_⟩
      rw [results_inl, results_eq_nil _ _ _ _ (forall₂_nil_left_iff.mp hrest),
        process_of_no_fragment r codec state a.now (by rw [ha.topic]; exact htopic)]

end

/-- Every fragment of a split message fits the provider's limit. However they interleave
with other arrivals, the reassembler returns nothing for all fragments but the last, and
for the last one the message. -/
theorem split_process_roundTrip (r : Reassembler) (codec : HeaderCodec)
    (hcodec : codec.Lawful) (messageId : UInt64) (message : OutgoingMessage)
    (maxPayloadLen : ℕ) (fragments : Fragments)
    (hsplit : Fragments.split messageId message maxPayloadLen = .ok fragments) :
    (∀ fuel, ∀ f ∈ fragments.iterate codec fuel, f.payload.length ≤ maxPayloadLen) ∧
    (∀ fuel, fragments.bound ≤ fuel →
      fragments.iterate codec fuel = fragments.collect codec) ∧
    ∀ state source schedule,
      Delivery r codec state source (fragments.collect codec) schedule →
      ∃ returned : IncomingMessage, returned.payload = message.payload ∧
        returned.topic = message.topic ∧ returned.source = source ∧
        Schedule.results r codec state schedule =
          List.replicate ((fragments.collect codec).length - 1) none ++ [some returned] := by
  refine ⟨fun fuel f hf => length_iterate_le hcodec hsplit fuel hf,
    fun fuel hfuel => iterate_eq_collect hsplit hfuel, ?_⟩
  intro state source schedule h
  obtain ⟨htopic, hsize, ⟨-, rfl⟩ | ⟨hlong, hroom, rfl⟩⟩ := split_eq_ok hsplit
  · exact h.results_single htopic
  · rw [h.carried.length_eq]
    exact h.results_many hcodec (by omega) hsize (by omega) le_rfl

def sampleMessage : OutgoingMessage :=
  { payload := List.replicate 230 7, destination := .browserBackground .own
    topic := some "bulk" }

def sampleFragments : Fragments :=
  .many sampleMessage 7 (Fragments.fragmentTopic (some "bulk")) 101 0

def samplePiece (index : UInt32) (now : ℕ) : Arrival :=
  { message := { payload := (pieceFrame sampleMessage 7 101 index).encode cborHeader
                 destination := .browserBackground .own, source := .browserForeground 1
                 topic := some (Fragments.fragmentTopic (some "bulk")) }
    now }

/-- The pieces of the message, with one of another sender's between them. -/
def sampleSchedule : Schedule :=
  [.inl (samplePiece 0 0),
    .inr { samplePiece 0 1 with
      message := { (samplePiece 0 1).message with source := .browserForeground 2 } },
    .inl (samplePiece 1 1), .inl (samplePiece 2 3)]

theorem sampleMessage_split : Fragments.split 7 sampleMessage 229 = .ok sampleFragments := by
  have hlength : sampleMessage.payload.length = 230 := length_replicate
  have htopic : originalTopic sampleMessage.topic = none := by decide
  rw [split_of_unreserved htopic, Fragments.split.splitPayload]
  simp only [hlength]
  rfl

theorem source_of_fragment? {codec : HeaderCodec} {a : Arrival} {f : ReceivedFragment}
    (h : a.fragment? codec = some f) : f.source = a.message.source := by
  unfold Arrival.fragment? at h
  split at h
  next =>
    cases h
    rfl
  next => cases h

theorem sampleSchedule_delivery :
    Delivery ⟨reassemblyTimeout, reassemblyIdleTimeout⟩ cborHeader default
      (.browserForeground 1) (sampleFragments.collect cborHeader) sampleSchedule := by
  have hlength : sampleMessage.payload.length = 230 := length_replicate
  have hcollect : sampleFragments.collect cborHeader =
      [0, 1, 2].map
        (pieceMessage cborHeader sampleMessage 7 (Fragments.fragmentTopic (some "bulk")) 101) := by
    have hmore {n : ℕ} (h : n < 230) : n < sampleMessage.payload.length := by rwa [hlength]
    rw [Fragments.collect, sampleFragments, Fragments.bound, hlength,
      iterate_many_of_lt (hmore (by decide)), iterate_many_of_lt (hmore (by decide)),
      iterate_many_of_lt (hmore (by decide)), iterate_many_of_le (hlength.trans_le (by decide))]
    rfl
  rw [hcollect]
  refine
    { ordered := by decide
      carried := .cons ⟨rfl, rfl, rfl⟩ (.cons ⟨rfl, rfl, rfl⟩ (.cons ⟨rfl, rfl, rfl⟩ .nil))
      distinct := ?_
      unused := fun _ _ _ _ => rfl
      idle := by decide
      overall := by decide
      admitted := ?_ }
  · intro a b ha hb f g hf hg hkey
    simp only [sampleSchedule, mem_cons, Sum.inl.injEq, Sum.inr.injEq, reduceCtorEq,
      not_mem_nil, or_false, false_or] at ha hb
    have hown : a.message.source = .browserForeground 1 := by
      rcases ha with rfl | rfl | rfl
      all_goals rfl
    have hsame : g.source = f.source := congrArg Prod.fst hkey
    rw [source_of_fragment? hf, source_of_fragment? hg, hown, hb] at hsame
    revert hsame
    decide
  · intro before first after hschedule hbefore f hf
    cases before with
    | nil =>
      obtain rfl : samplePiece 0 0 = first := by
        simp only [sampleSchedule, nil_append, cons.injEq, Sum.inl.injEq] at hschedule
        exact hschedule.1
      rw [@Carries.fragment? cborHeader sampleMessage 7 101 (.browserForeground 1) (samplePiece 0 0)
        cborHeader_lawful 0 ⟨rfl, rfl, rfl⟩] at hf
      cases hf
      change ReassemblyState.admitMessage _ _ sampleMessage.payload.length.toUInt32.toNat = _
      rw [hlength]
      decide
    | cons x before =>
      simp only [sampleSchedule, cons_append, cons.injEq] at hschedule
      rw [← hschedule.1] at hbefore
      cases hbefore

theorem split_process_roundTrip_sample :
    Delivery ⟨reassemblyTimeout, reassemblyIdleTimeout⟩ cborHeader default
      (.browserForeground 1) (sampleFragments.collect cborHeader) sampleSchedule ∧
    ∃ returned : IncomingMessage, returned.payload = sampleMessage.payload ∧
      returned.topic = some "bulk" ∧ returned.source = .browserForeground 1 ∧
      sampleSchedule.results ⟨reassemblyTimeout, reassemblyIdleTimeout⟩ cborHeader default =
        List.replicate ((sampleFragments.collect cborHeader).length - 1) none ++ [some returned] :=
  ⟨sampleSchedule_delivery,
    (split_process_roundTrip _ cborHeader cborHeader_lawful 7 sampleMessage 229 sampleFragments
      sampleMessage_split).2.2 _ _ _ sampleSchedule_delivery⟩

end SdkInternal.Ipc
