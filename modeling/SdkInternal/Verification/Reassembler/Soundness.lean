import SdkInternal.Verification.Reassembler.Equations
import Mathlib.Data.List.Chain

/-! # Soundness of reassembly against arbitrary peers

Every stored partial message is the concatenation of an exact history of received
fragments. The histories are kept beside the state: they name fragments by their position
in the sequence of arrivals, so that no fragment can be counted twice. -/

namespace SdkInternal.Ipc

open Shared List Function Reassembler

/-- A fragment with its position in the sequence of arrivals. -/
abbrev PlacedFragment := ℕ × ReceivedFragment

def Recorded (codec : HeaderCodec) (arrivals : List Arrival) (f : PlacedFragment) : Prop :=
  (arrivals[f.1]?).bind (Arrival.fragment? codec) = some f.2

variable {r : Reassembler} {codec : HeaderCodec} {arrivals : List Arrival} {f g : PlacedFragment}
  {key : MessageKey} {topic : OriginalTopic} {fragments : List PlacedFragment} {p : PartialMessage}

theorem Recorded.lt_length (h : Recorded codec arrivals f) : f.1 < arrivals.length := by
  obtain ⟨a, ha, -⟩ := Option.bind_eq_some_iff.mp h
  exact (List.getElem?_eq_some_iff.mp ha).1

theorem Recorded.append (h : Recorded codec arrivals f) (more : List Arrival) :
    Recorded codec (arrivals ++ more) f := by
  unfold Recorded
  rw [getElem?_append_left h.lt_length]
  exact h

theorem Recorded.unique (hf : Recorded codec arrivals f) (hg : Recorded codec arrivals g)
    (hposition : f.1 = g.1) : f.2 = g.2 := by
  unfold Recorded at hf hg
  rw [hposition, hg] at hf
  exact (Option.some.inj hf).symm

/-! ## Histories -/

/-- The fragments are consecutive pieces of one message, each in time after the last. -/
structure Consistent (r : Reassembler) (key : MessageKey) (topic : OriginalTopic)
    (totalLen : ℕ) (fragments : List PlacedFragment) : Prop where
  increasing : (fragments.map Prod.fst).Pairwise (· < ·)
  same : ∀ f ∈ fragments, f.2.key = key ∧ f.2.topic = topic ∧
    f.2.header.totalLen.toNat = totalLen ∧ f.2.data ≠ []
  indices : fragments.map (fun f => f.2.header.index.toNat) = List.range fragments.length
  idle : fragments.IsChain fun f g => g.2.now < f.2.now + r.idleTimeout
  overall : ∀ first ∈ fragments.head?, ∀ f ∈ fragments.tail, f.2.now < first.2.now + r.timeout

theorem consistent_nil (r : Reassembler) (key : MessageKey) (topic : OriginalTopic)
    (totalLen : ℕ) : Consistent r key topic totalLen [] :=
  ⟨.nil, by simp, rfl, .nil, by simp⟩

theorem Consistent.snoc {totalLen : ℕ} (h : Consistent r key topic totalLen fragments)
    (hposition : ∀ f ∈ fragments, f.1 < g.1)
    (hsame : g.2.key = key ∧ g.2.topic = topic ∧ g.2.header.totalLen.toNat = totalLen ∧
      g.2.data ≠ []) (hindex : g.2.header.index.toNat = fragments.length)
    (hidle : ∀ last ∈ fragments.getLast?, g.2.now < last.2.now + r.idleTimeout)
    (hoverall : ∀ first ∈ fragments.head?, g.2.now < first.2.now + r.timeout) :
    Consistent r key topic totalLen (fragments ++ [g]) := by
  refine ⟨?_, ?_, ?_, ?_, ?_⟩
  · rw [map_append, pairwise_append]
    exact ⟨h.increasing, by simp, by simpa using fun n f hf => hposition (n, f) hf⟩
  · exact forall_mem_append.mpr ⟨h.same, forall_mem_singleton.mpr hsame⟩
  · rw [map_append, h.indices, length_append, length_singleton, range_succ, map_singleton, hindex]
  · apply isChain_append.mpr
    exact ⟨h.idle, .singleton _, by simpa using hidle⟩
  · intro first hfirst f hf
    cases fragments with
    | nil => simp at hf
    | cons first' rest =>
      obtain rfl : first' = first := by simpa using hfirst
      exact forall_mem_append.mpr ⟨h.overall first' rfl,
        forall_mem_singleton.mpr (hoverall first' rfl)⟩ f hf

theorem Consistent.length_le {totalLen : ℕ} (h : Consistent r key topic totalLen fragments) :
    fragments.length ≤ (fragments.flatMap fun f => f.2.data).length := by
  have hdata : ∀ f ∈ fragments, f.2.data ≠ [] := fun f hf => (h.same f hf).2.2.2
  clear h
  induction fragments with
  | nil => simp
  | cons f rest ih =>
    have hpos := length_pos_iff.mpr (hdata f (by simp))
    have hrest := ih fun g hg => hdata g (mem_cons_of_mem f hg)
    simp only [flatMap_cons, length_append, length_cons]
    omega

structure Represents (r : Reassembler) (key : MessageKey) (p : PartialMessage)
    (fragments : List PlacedFragment) : Prop where
  consistent : Consistent r key p.topic p.totalLen fragments
  payload : p.payload = fragments.flatMap fun f => f.2.data
  nextIndex : p.nextIndex.toNat = fragments.length
  deadline : ∀ first ∈ fragments.head?, p.deadline = first.2.now + r.timeout
  expiresAt : ∀ last ∈ fragments.getLast?, p.expiresAt = min p.deadline (last.2.now + r.idleTimeout)
  totalLen_le : p.totalLen ≤ maxPayloadSize

/-- The history of the partial message that an arriving fragment continues: it is empty
for a new one, and the fragment is still in time for a stored one. -/
structure Awaits (r : Reassembler) (key : MessageKey) (now : ℕ) (p : PartialMessage)
    (fragments : List PlacedFragment) : Prop where
  consistent : Consistent r key p.topic p.totalLen fragments
  payload : p.payload = fragments.flatMap fun f => f.2.data
  nextIndex : p.nextIndex.toNat = fragments.length
  deadline : ∀ first ∈ fragments.head?, p.deadline = first.2.now + r.timeout
  deadline_nil : fragments = [] → p.deadline = now + r.timeout
  idle : ∀ last ∈ fragments.getLast?, now < last.2.now + r.idleTimeout
  overall : ∀ first ∈ fragments.head?, now < first.2.now + r.timeout

variable {now : ℕ}

theorem Represents.awaits (h : Represents r key p fragments) (hne : fragments ≠ [])
    (hlive : now < p.expiresAt) : Awaits r key now p fragments := by
  obtain ⟨first, rest, rfl⟩ := exists_cons_of_ne_nil hne
  have hdeadline := h.deadline first rfl
  refine ⟨h.consistent, h.payload, h.nextIndex, h.deadline, by simp, ?_, ?_⟩
  · intro last hmem
    have hmin := h.expiresAt last hmem
    omega
  · intro first' hfirst
    obtain rfl : first = first' := by simpa using hfirst
    have hlast := getLast?_eq_some_getLast (l := first :: rest) (by simp)
    have hmin := h.expiresAt _ hlast
    omega

theorem Awaits.extend (h : Awaits r g.2.key g.2.now p fragments)
    (hposition : ∀ f ∈ fragments, f.1 < g.1) (hmax : g.2.header.totalLen.toNat ≤ maxPayloadSize)
    (hdata : g.2.data ≠ []) (hcheck : p.check g.2.header g.2.topic g.2.data.length = .ok ()) :
    Represents r g.2.key (r.extend p g.2.data g.2.now) (fragments ++ [g]) := by
  obtain ⟨hindex, hlen, htopic, hfit⟩ := check_eq_ok.mp hcheck
  have hcount := h.consistent.length_le
  rw [← h.payload] at hcount
  have hpos : 0 < g.2.data.length := length_pos_iff.mpr hdata
  have hsize : maxPayloadSize < 2 ^ 32 := by decide
  have hconsistent : Consistent r g.2.key p.topic p.totalLen (fragments ++ [g]) :=
    h.consistent.snoc hposition ⟨rfl, htopic, hlen, hdata⟩ (by rw [hindex, h.nextIndex])
      h.idle h.overall
  refine ⟨hconsistent, ?_, ?_, ?_, ?_, ?_⟩
  · simp [h.payload]
  · rw [extend_nextIndex, UInt32.toNat_add, h.nextIndex, length_append]
    apply Nat.mod_eq_of_lt
    change fragments.length + 1 < 2 ^ 32
    omega
  · intro first hfirst
    cases fragments with
    | nil =>
      obtain rfl : g = first := by simpa using hfirst
      exact h.deadline_nil rfl
    | cons first' rest => exact h.deadline first (by simpa using hfirst)
  · intro last hlast
    obtain rfl : g = last := by simpa using hlast
    rfl
  · rw [extend_totalLen, ← hlen]
    exact hmax

/-! ## Returned messages -/

/-- The message is the concatenation of received fragments of one source, message id,
topic and total length, with indices counting from zero, all in time. -/
structure Assembled (r : Reassembler) (codec : HeaderCodec) (arrivals : List Arrival)
    (message : IncomingMessage) (fragments : List PlacedFragment) : Prop where
  recorded : ∀ f ∈ fragments, Recorded codec arrivals f
  increasing : (fragments.map Prod.fst).Pairwise (· < ·)
  nonempty : fragments ≠ []
  same : ∃ messageId, ∀ f ∈ fragments,
    f.2.source = message.source ∧ f.2.header.messageId = messageId ∧
    f.2.topic = message.topic ∧ f.2.header.totalLen.toNat = message.payload.length ∧
    f.2.data ≠ []
  indices : fragments.map (fun f => f.2.header.index.toNat) = List.range fragments.length
  payload : message.payload = fragments.flatMap fun f => f.2.data
  bounded : message.payload.length ≤ maxPayloadSize
  idle : fragments.IsChain fun f g => g.2.now < f.2.now + r.idleTimeout
  overall : ∀ first ∈ fragments.head?, ∀ f ∈ fragments.tail, f.2.now < first.2.now + r.timeout
  last_in_time : 0 < r.timeout → ∀ first ∈ fragments.head?, ∀ last ∈ fragments.getLast?,
    last.2.now < first.2.now + r.timeout

theorem Assembled.append {message : IncomingMessage}
    (h : Assembled r codec arrivals message fragments) (more : List Arrival) :
    Assembled r codec (arrivals ++ more) message fragments :=
  { h with recorded := fun f hf => (h.recorded f hf).append more }

theorem Represents.assembled (h : Represents r key p fragments) (hne : fragments ≠ [])
    (hrecorded : ∀ f ∈ fragments, Recorded codec arrivals f) (hcomplete : p.isComplete = true)
    (destination : Endpoint) :
    Assembled r codec arrivals
      { payload := p.payload, destination, source := key.1, topic := p.topic } fragments := by
  have hlen : p.payload.length = p.totalLen := by
    simpa [PartialMessage.isComplete] using hcomplete
  refine ⟨hrecorded, h.consistent.increasing, hne, ⟨key.2, ?_⟩, h.consistent.indices,
    h.payload, ?_, h.consistent.idle, h.consistent.overall, ?_⟩
  · intro f hf
    obtain ⟨hkey, htopic, htotal, hdata⟩ := h.consistent.same f hf
    exact ⟨congrArg Prod.fst hkey, congrArg Prod.snd hkey, htopic, htotal.trans hlen.symm, hdata⟩
  · exact hlen.trans_le h.totalLen_le
  · intro htimeout first hfirst last hlast
    cases fragments with
    | nil => cases hfirst
    | cons first' rest =>
      obtain rfl : first' = first := by simpa using hfirst
      rcases mem_cons.mp (mem_of_getLast? hlast) with hlast | hrest
      · rw [hlast]
        omega
      · exact h.consistent.overall first' rfl last hrest

/-! ## The invariant of a run -/

/-- Histories of the stored partial messages, and the fragments that each returned
message was built from. -/
structure Traced (r : Reassembler) (codec : HeaderCodec) (arrivals : List Arrival)
    (state : ReassemblyState) (history : MessageKey → List PlacedFragment)
    (contribution : ℕ → List PlacedFragment) : Prop where
  stored : ∀ key p, state.partials.lookup key = some p →
    Represents r key p (history key) ∧ history key ≠ []
  origin : ∀ key, ∀ f ∈ history key, Recorded codec arrivals f ∧ f.2.key = key
  past : ∀ i, ∀ f ∈ contribution i, f.1 < arrivals.length
  fresh : ∀ i key, ∀ f ∈ contribution i, ∀ g ∈ history key, f.1 ≠ g.1
  disjoint : ∀ i j, i ≠ j → ∀ f ∈ contribution i, ∀ g ∈ contribution j, f.1 ≠ g.1

section

variable {state : ReassemblyState} {history : MessageKey → List PlacedFragment}
  {contribution : ℕ → List PlacedFragment} {a : Arrival}

section

variable (h : Traced r codec arrivals state history contribution)

include h

theorem Traced.shrink {state' : ReassemblyState} (a : Arrival)
    (hshrink : ∀ key p, state'.partials.lookup key = some p → state.partials.lookup key = some p) :
    Traced r codec (arrivals ++ [a]) state' history contribution := by
  refine ⟨fun key p hlookup => h.stored key p (hshrink key p hlookup), ?_, ?_, h.fresh,
    h.disjoint⟩
  · intro key f hf
    obtain ⟨hrecorded, hkey⟩ := h.origin key f hf
    exact ⟨hrecorded.append [a], hkey⟩
  · intro i f hf
    have hlt := h.past i f hf
    rw [length_append]
    omega

theorem Traced.awaits {header : FragmentHeader}
    (hp : Continues r (state.removeExpired now) key header topic now p) :
    ∃ fragments, Awaits r key now p fragments ∧ (fragments = [] ∨ fragments = history key) := by
  cases hp with
  | stored hlookup =>
    obtain ⟨hlookup, hlive⟩ := lookup_removeExpired_eq_some.mp hlookup
    obtain ⟨hrepresents, hne⟩ := h.stored key p hlookup
    exact ⟨history key, hrepresents.awaits hne hlive, .inr rfl⟩
  | first hlookup hindex hadmitted =>
    refine ⟨[], ⟨consistent_nil _ _ _ _, rfl, rfl, by simp, fun _ => rfl, by simp,
      by simp⟩, .inl rfl⟩

end

variable {g : ReceivedFragment}

section

variable (h : Traced r codec arrivals state history contribution)

include h

theorem Traced.extend (hg : a.fragment? codec = some g)
    (hmax : g.header.totalLen.toNat ≤ maxPayloadSize) (hdata : g.data ≠ []) {p : PartialMessage}
    (hp : Continues r (state.removeExpired g.now) g.key g.header g.topic g.now p)
    (hcheck : p.check g.header g.topic g.data.length = .ok ()) :
    ∃ fragments, (fragments = [] ∨ fragments = history g.key) ∧
      Represents r g.key (r.extend p g.data g.now) (fragments ++ [(arrivals.length, g)]) ∧
      ∀ f ∈ fragments ++ [(arrivals.length, g)],
        Recorded codec (arrivals ++ [a]) f ∧ f.2.key = g.key := by
  obtain ⟨fragments, hawaits, hfragments⟩ := h.awaits hp
  have horigin : ∀ f ∈ fragments, Recorded codec arrivals f ∧ f.2.key = g.key := by
    intro f hf
    rcases hfragments with rfl | rfl
    · simp at hf
    · exact h.origin g.key f hf
  refine ⟨fragments, hfragments, ?_, ?_⟩
  · exact hawaits.extend (g := (arrivals.length, g)) (fun f hf => (horigin f hf).1.lt_length)
      hmax hdata hcheck
  · refine forall_mem_append.mpr ⟨?_, forall_mem_singleton.mpr ⟨?_, rfl⟩⟩
    · exact fun f hf => ⟨(horigin f hf).1.append [a], (horigin f hf).2⟩
    · simp [Recorded, hg]

section

variable (hfragments : fragments = [] ∨ fragments = history key)

include hfragments

/-- The fragments of an extended history have not been used for a returned message. -/
theorem Traced.ne_extended (i : ℕ) :
    ∀ f ∈ contribution i, ∀ f' ∈ fragments ++ [(arrivals.length, g)], f.1 ≠ f'.1 := by
  intro f hf
  refine forall_mem_append.mpr ⟨?_, forall_mem_singleton.mpr (h.past i f hf).ne⟩
  rcases hfragments with rfl | rfl
  · simp
  · exact h.fresh i key f hf

theorem Traced.insert (now : ℕ) {q : PartialMessage}
    (hrepresents : Represents r key q (fragments ++ [(arrivals.length, g)]))
    (horigin : ∀ f ∈ fragments ++ [(arrivals.length, g)],
      Recorded codec (arrivals ++ [a]) f ∧ f.2.key = key) :
    Traced r codec (arrivals ++ [a])
      ⟨(state.removeExpired now).partials.insert key q⟩
      (update history key (fragments ++ [(arrivals.length, g)])) contribution := by
  have harrived := h.shrink a fun key p hlookup => hlookup
  refine ⟨?_, ?_, harrived.past, ?_, h.disjoint⟩
  · intro key' p hlookup
    by_cases hkey : key' = key
    · subst hkey
      rw [AList.lookup_insert] at hlookup
      obtain rfl : q = p := Option.some.inj hlookup
      rw [update_self]
      exact ⟨hrepresents, by simp⟩
    · rw [AList.lookup_insert_ne hkey] at hlookup
      rw [update_of_ne hkey]
      exact h.stored key' p (lookup_removeExpired_eq_some.mp hlookup).1
  · exact (forall_update_iff history fun key fragments => ∀ f ∈ fragments,
      Recorded codec (arrivals ++ [a]) f ∧ f.2.key = key).mpr
      ⟨horigin, fun key' _ => harrived.origin key'⟩
  · intro i
    exact (forall_update_iff history fun _ fragments =>
      ∀ f ∈ contribution i, ∀ f' ∈ fragments, f.1 ≠ f'.1).mpr
      ⟨h.ne_extended hfragments i, fun key' _ => h.fresh i key'⟩

end

theorem Traced.complete (key : MessageKey) (i : ℕ) :
    Traced r codec arrivals ⟨state.partials.erase key⟩ (update history key [])
      (update contribution i (history key)) := by
  have hkept : ∀ key', ∀ f ∈ update history key [] key', key' ≠ key ∧ f ∈ history key' := by
    intro key' f hf
    rw [update_apply] at hf
    split_ifs at hf with hkey
    · cases hf
    · exact ⟨hkey, hf⟩
  refine ⟨?_, fun key' f hf => h.origin key' f (hkept key' f hf).2, ?_, ?_, ?_⟩
  · intro key' p hlookup
    have hkey : key' ≠ key := by
      rintro rfl
      rw [AList.lookup_erase] at hlookup
      cases hlookup
    rw [update_of_ne hkey]
    exact h.stored key' p (Store.lookup_of_erase hlookup)
  · exact (forall_update_iff contribution fun _ fragments =>
      ∀ f ∈ fragments, f.1 < arrivals.length).mpr
      ⟨fun f hf => (h.origin key f hf).1.lt_length, fun j _ => h.past j⟩
  · intro j key' f hf f' hf' hsame
    obtain ⟨hkey, hf'⟩ := hkept key' f' hf'
    rw [update_apply] at hf
    split_ifs at hf with hj
    · -- Fragments of different keys cannot share a position.
      obtain ⟨hrecorded, hfkey⟩ := h.origin key f hf
      obtain ⟨hrecorded', hfkey'⟩ := h.origin key' f' hf'
      rw [← hfkey, ← hfkey', hrecorded.unique hrecorded' hsame] at hkey
      exact hkey rfl
    · exact h.fresh j key' f hf f' hf' hsame
  · intro j j' hne f hf f' hf'
    simp only [update_apply] at hf hf'
    split_ifs at hf hf' with hj hj' hj'
    · exact absurd (hj.trans hj'.symm) hne
    · exact (h.fresh j' key f' hf' f hf).symm
    · exact h.fresh j key f hf f' hf'
    · exact h.disjoint j j' hne f hf f' hf'

/-- One arrival keeps the trace, and what it returns for a fragment is assembled from
the fragments that the new trace records for it. -/
theorem Traced.process (a : Arrival) :
    ∃ history' contribution',
      Traced r codec (arrivals ++ [a]) (r.process codec state a.message a.now).2 history'
        contribution' ∧
      (∀ i, i ≠ arrivals.length → contribution' i = contribution i) ∧
      ∀ message, (originalTopic a.message.topic).isSome →
        (r.process codec state a.message a.now).1 = some message →
        Assembled r codec (arrivals ++ [a]) message (contribution' arrivals.length) := by
  cases htopic : originalTopic a.message.topic with
  | none =>
    rw [process_of_no_fragment r codec state a.now htopic]
    refine ⟨history, contribution, h.shrink a fun key p hlookup => hlookup,
      fun _ _ => rfl, ?_⟩
    intro message hsome
    cases hsome
  | some topic =>
    rw [process_of_fragment r codec state a.now htopic]
    have hswept : ∀ key p, (state.removeExpired a.now).partials.lookup key = some p →
        state.partials.lookup key = some p :=
      fun key p hlookup => (lookup_removeExpired_eq_some.mp hlookup).1
    -- A fragment that is refused returns nothing and may cost its partial message.
    have hrefused : ∀ state' : ReassemblyState,
        (∀ key p, state'.partials.lookup key = some p → state.partials.lookup key = some p) →
        ∃ history' contribution',
          Traced r codec (arrivals ++ [a]) state' history' contribution' ∧
          (∀ i, i ≠ arrivals.length → contribution' i = contribution i) ∧
          ∀ message, (some topic).isSome → none = some message →
            Assembled r codec (arrivals ++ [a]) message (contribution' arrivals.length) := by
      intro state' hshrink
      refine ⟨history, contribution, h.shrink a hshrink, fun _ _ => rfl, ?_⟩
      intro message _ hresult
      cases hresult
    rcases accept_cases r codec state a.message topic a.now with
      ⟨_, -, haccept⟩ | ⟨header, data, hdecode, hmax, hdata, hstep⟩
    · rw [haccept]
      exact hrefused state fun key p hlookup => hlookup
    · let g : ReceivedFragment :=
        { source := a.message.source, topic, header, data, now := a.now }
      have hg : a.fragment? codec = some g := by
        simp [Arrival.fragment?, htopic, hdecode, g]
      generalize r.accept codec state a.message topic a.now = result at hstep
      cases hstep with
      | refused => exact hrefused _ hswept
      | dropped =>
        exact hrefused _ fun key p hlookup => hswept key p (Store.lookup_of_erase hlookup)
      | completed hp hcheck hcomplete =>
        obtain ⟨fragments, hfragments, hrepresents, horigin⟩ :=
          h.extend hg hmax hdata hp hcheck
        have hcompleted :=
          (h.insert hfragments a.now hrepresents horigin).complete g.key arrivals.length
        rw [Store.erase_insert] at hcompleted
        refine ⟨_, _, hcompleted, fun i hi => update_of_ne hi _ _, ?_⟩
        intro message _ hresult
        obtain rfl := Option.some.inj hresult
        rw [update_self, update_self]
        exact hrepresents.assembled (by simp) (fun f hf => (horigin f hf).1) hcomplete _
      | extended hp hcheck hincomplete =>
        obtain ⟨fragments, hfragments, hrepresents, horigin⟩ :=
          h.extend hg hmax hdata hp hcheck
        refine ⟨_, contribution, h.insert hfragments a.now hrepresents horigin,
          fun _ _ => rfl, ?_⟩
        intro message _ hresult
        cases hresult

end

end

/-! ## Runs -/

theorem traced_default (r : Reassembler) (codec : HeaderCodec) :
    Traced r codec [] default (fun _ => []) (fun _ => []) := by
  refine ⟨?_, by simp, by simp, by simp, by simp⟩
  intro key p hlookup
  cases hlookup

/-- Every run has a trace, and every message it returns for a fragment is assembled from
the fragments that the trace records. -/
theorem processAll_traced (r : Reassembler) (codec : HeaderCodec) (arrivals : List Arrival) :
    ∃ history contribution,
      Traced r codec arrivals (r.processAll codec default arrivals).2 history contribution ∧
      ∀ i a message, arrivals[i]? = some a →
        (originalTopic a.message.topic).isSome →
        (r.processAll codec default arrivals).1[i]? = some (some message) →
        Assembled r codec arrivals message (contribution i) := by
  induction arrivals using reverseRecOn with
  | nil => exact ⟨_, _, traced_default r codec, by simp⟩
  | append_singleton arrivals a ih =>
    obtain ⟨history, contribution, htraced, hassembled⟩ := ih
    obtain ⟨history', contribution', htraced', hkept, hlast⟩ := htraced.process a
    have hfeed : r.processAll codec default (arrivals ++ [a]) =
        ((r.processAll codec default arrivals).1 ++
          [(r.process codec (r.processAll codec default arrivals).2 a.message a.now).1],
        (r.process codec (r.processAll codec default arrivals).2 a.message a.now).2) := by
      unfold processAll
      rw [feed_append]
      simp
    have hlength : (r.processAll codec default arrivals).1.length = arrivals.length :=
      feed_length _ _ _
    rw [hfeed]
    refine ⟨history', contribution', htraced', ?_⟩
    intro i b message hb htopic hresult
    rcases Nat.lt_trichotomy i arrivals.length with hi | hi | hi
    · rw [getElem?_append_left hi] at hb
      rw [getElem?_append_left (by omega)] at hresult
      rw [hkept i hi.ne]
      exact (hassembled i b message hb htopic hresult).append [a]
    · subst hi
      obtain rfl : a = b := by simpa using hb
      have hresult : (r.process codec (r.processAll codec default arrivals).2 a.message
          a.now).1 = some message := by
        simpa [← hlength] using hresult
      exact hlast message htopic hresult
    · rw [getElem?_eq_none (by simp; omega)] at hb
      cases hb

/-- Whatever arrives, every returned message that was not passed through is assembled from
received fragments, and no received fragment contributes to two returned messages. -/
theorem processAll_sound (r : Reassembler) (codec : HeaderCodec) (arrivals : List Arrival) :
    ∃ contribution : ℕ → List PlacedFragment,
      (∀ i a message, arrivals[i]? = some a →
        (Reassembler.originalTopic a.message.topic).isSome →
        (r.processAll codec default arrivals).1[i]? = some (some message) →
        Assembled r codec arrivals message (contribution i)) ∧
      ∀ i j, i ≠ j → ((contribution i).map Prod.fst).Disjoint ((contribution j).map Prod.fst) := by
  obtain ⟨history, contribution, htraced, hassembled⟩ := processAll_traced r codec arrivals
  refine ⟨contribution, hassembled, ?_⟩
  intro i j hij position hi hj
  obtain ⟨f, hf, rfl⟩ := mem_map.mp hi
  obtain ⟨g, hg, hsame⟩ := mem_map.mp hj
  exact htraced.disjoint i j hij f hf g hg hsame.symm

end SdkInternal.Ipc
