import SdkInternal.Model.Ipc.Fragmentation

/-! Computation rules for topics, quotas and the reassembler, and what one call of
`accept` can do. -/

namespace SdkInternal.Ipc

open Shared Reassembler FragmentFrame

/-! ## Topics -/

theorem stripPrefix_eq_some {s pattern rest : String} :
    stripPrefix s pattern = some rest ↔ s = pattern ++ rest := by
  unfold stripPrefix
  rw [Option.map_eq_some_iff]
  constructor
  · rintro ⟨chars, hdrop, rfl⟩
    obtain ⟨front, hs, hfront⟩ := List.dropPrefix?_eq_some_iff.mp hdrop
    apply String.toList_inj.mp
    rw [String.toList_append, String.toList_ofList, hs, eq_of_beq hfront]
  · rintro rfl
    refine ⟨rest.toList, ?_, String.ofList_toList⟩
    apply List.dropPrefix?_eq_some_iff.mpr
    exact ⟨pattern.toList, String.toList_append, beq_self_eq_true _⟩

@[simp] theorem stripPrefix_append (pattern rest : String) :
    stripPrefix (pattern ++ rest) pattern = some rest :=
  stripPrefix_eq_some.mpr rfl

/-- Fragments carry a topic from which the receiver recovers the original one. -/
@[simp] theorem originalTopic_fragmentTopic (topic : Option String) :
    originalTopic (some (Fragments.fragmentTopic topic)) = some topic := by
  cases topic with
  | none => decide
  | some topic =>
    have hrest : stripPrefix (fragmentTopic ++ "/" ++ topic) fragmentTopic =
        some ("/" ++ topic) := by
      rw [String.append_assoc, stripPrefix_append]
    have hne : ("/" ++ topic).isEmpty = false := by simp
    simp [originalTopic, Fragments.fragmentTopic, hrest, hne]

/-! ## Usage as a weight over the stored entries -/

def messageWeight (filter : Source → Bool) (key : MessageKey) (_ : PartialMessage) : ℕ :=
  if filter key.1 then 1 else 0

def byteWeight (filter : Source → Bool) (key : MessageKey) (p : PartialMessage) : ℕ :=
  if filter key.1 then p.totalLen else 0

theorem usage_eq (state : ReassemblyState) (filter : Source → Bool) :
    state.usage filter =
      ⟨(state.partials.entries.filter fun e => filter e.1.1).length,
        ((state.partials.entries.filter fun e => filter e.1.1).map fun e => e.2.totalLen).sum⟩ := by
  have hfold : ∀ (entries : List (Sigma fun _ : MessageKey => PartialMessage)) (start : Usage),
      entries.foldl (fun usage e => ⟨usage.messages + 1, usage.bytes + e.2.totalLen⟩) start =
        ⟨start.messages + entries.length,
          start.bytes + (entries.map fun e => e.2.totalLen).sum⟩ := by
    intro entries
    induction entries with
    | nil => exact fun _ => rfl
    | cons e entries ih => simp [ih, Nat.add_assoc, Nat.add_comm]
  simp [ReassemblyState.usage, hfold]

theorem usage_eq_weigh (state : ReassemblyState) (filter : Source → Bool) :
    state.usage filter =
      ⟨state.partials.weigh (messageWeight filter), state.partials.weigh (byteWeight filter)⟩ := by
  simp only [usage_eq, Store.weigh, messageWeight, byteWeight, Usage.mk.injEq]
  induction state.partials.entries with
  | nil => exact ⟨rfl, rfl⟩
  | cons e entries ih =>
    by_cases h : filter e.1.1 = true <;> simp [h, ih, Nat.add_comm]

/-! ## Admission -/

variable {state : ReassemblyState} {r : Reassembler} {header : FragmentHeader}
  {topic : OriginalTopic} {now : ℕ} {p : PartialMessage} {message : IncomingMessage} {a : Arrival}

theorem admitMessage_eq_ok {source : Source} {totalLen : ℕ} :
    state.admitMessage source totalLen = .ok () ↔
      (state.usage fun s => decide (s = source)).messages < sourceLimit.messages ∧
      (state.usage fun s => decide (Pool.of s = Pool.of source)).messages <
        (Pool.of source).limit.messages ∧
      (state.usage fun s => decide (s = source)).bytes + totalLen ≤ sourceLimit.bytes ∧
      (state.usage fun s => decide (Pool.of s = Pool.of source)).bytes + totalLen ≤
        (Pool.of source).limit.bytes := by
  unfold ReassemblyState.admitMessage
  simp only
  split_ifs <;> simp only [true_iff, false_iff] <;> omega

/-! ## One call of `accept` -/

def Reassembler.newPartial (r : Reassembler) (header : FragmentHeader)
    (topic : OriginalTopic) (now : ℕ) : PartialMessage :=
  { deadline := now + r.timeout, expiresAt := now + r.timeout
    totalLen := header.totalLen.toNat, topic, nextIndex := 0, payload := [] }

def Reassembler.extend (r : Reassembler) (p : PartialMessage) (data : List UInt8)
    (now : ℕ) : PartialMessage :=
  { p.append data with expiresAt := min p.deadline (now + r.idleTimeout) }

inductive Continues (r : Reassembler) (state : ReassemblyState) (key : MessageKey)
    (header : FragmentHeader) (topic : OriginalTopic) (now : ℕ) :
    PartialMessage → Prop where
  | stored {p : PartialMessage} (hlookup : state.partials.lookup key = some p) :
      Continues r state key header topic now p
  | first (hlookup : state.partials.lookup key = none) (hindex : header.index = 0)
      (hadmitted : state.admitMessage key.1 header.totalLen.toNat = .ok ()) :
      Continues r state key header topic now (r.newPartial header topic now)

/-- What `accept` does with a fragment whose header is in bounds, from the state `swept`
of expired entries. -/
inductive AcceptStep (r : Reassembler) (swept : ReassemblyState) (message : IncomingMessage)
    (header : FragmentHeader) (data : List UInt8) (topic : OriginalTopic) (now : ℕ) :
    Except ReassemblyError (Option IncomingMessage) × ReassemblyState → Prop where
  | refused {error}
      (hlookup : swept.partials.lookup (message.source, header.messageId) = none)
      (herror : error ≠ .outOfOrder → header.index = 0 ∧
        swept.admitMessage message.source header.totalLen.toNat = .error error) :
      AcceptStep r swept message header data topic now (.error error, swept)
  | dropped {p : PartialMessage} {error}
      (hp : Continues r swept (message.source, header.messageId) header topic now p)
      (hcheck : p.check header topic data.length = .error error) :
      AcceptStep r swept message header data topic now
        (.error error, ⟨swept.partials.erase (message.source, header.messageId)⟩)
  | completed {p : PartialMessage}
      (hp : Continues r swept (message.source, header.messageId) header topic now p)
      (hcheck : p.check header topic data.length = .ok ())
      (hcomplete : (r.extend p data now).isComplete = true) :
      AcceptStep r swept message header data topic now
        (.ok (some { payload := (r.extend p data now).payload
                     destination := message.destination, source := message.source
                     topic := p.topic }),
          ⟨swept.partials.erase (message.source, header.messageId)⟩)
  | extended {p : PartialMessage}
      (hp : Continues r swept (message.source, header.messageId) header topic now p)
      (hcheck : p.check header topic data.length = .ok ())
      (hincomplete : (r.extend p data now).isComplete = false) :
      AcceptStep r swept message header data topic now
        (.ok none, ⟨swept.partials.insert (message.source, header.messageId)
          (r.extend p data now)⟩)

theorem findOrInsert_ok {key : MessageKey} {state' : ReassemblyState}
    (h : r.findOrInsert state key header topic now = .ok (p, state')) :
    Continues r state key header topic now p ∧
      state'.partials.erase key = state.partials.erase key ∧
      ∀ q, state'.partials.insert key q = state.partials.insert key q := by
  unfold findOrInsert at h
  split at h
  case h_1 hlookup =>
    cases h
    exact ⟨.stored hlookup, rfl, fun q => rfl⟩
  case h_2 hlookup =>
    split_ifs at h with hindex
    split at h
    case h_1 => cases h
    case h_2 hadmitted =>
      cases h
      exact ⟨.first hlookup (not_not.mp hindex) hadmitted, Store.erase_insert _ _ _,
        fun q => AList.insert_insert _⟩

theorem findOrInsert_error {key : MessageKey} {error : ReassemblyError}
    (h : r.findOrInsert state key header topic now = .error error) :
    state.partials.lookup key = none ∧
      (error ≠ .outOfOrder → header.index = 0 ∧
        state.admitMessage key.1 header.totalLen.toNat = .error error) := by
  unfold findOrInsert at h
  split at h
  case h_1 => cases h
  case h_2 hlookup =>
    refine ⟨hlookup, ?_⟩
    intro herror
    split_ifs at h with hindex
    · cases h
      exact absurd rfl herror
    · split at h
      case h_1 hadmitted =>
        cases h
        exact ⟨not_not.mp hindex, hadmitted⟩
      case h_2 => cases h

/-- Every call of `accept` rejects the header and keeps the state, or takes one of the
four steps from the state swept of expired entries. -/
theorem accept_cases (r : Reassembler) (codec : HeaderCodec) (state : ReassemblyState)
    (message : IncomingMessage) (topic : OriginalTopic) (now : ℕ) :
    (∃ error, (error = .malformed ∨ error = .invalidHeader) ∧
      r.accept codec state message topic now = (.error error, state)) ∨
    ∃ header data, decode codec message.payload = some ⟨header, data⟩ ∧
      header.totalLen.toNat ≤ maxPayloadSize ∧ data ≠ [] ∧
        AcceptStep r (state.removeExpired now) message header data topic now
          (r.accept codec state message topic now) := by
  unfold accept
  cases hdecode : decode codec message.payload with
  | none => exact .inl ⟨_, .inl rfl, rfl⟩
  | some frame =>
    obtain ⟨header, data⟩ := frame
    by_cases hbounds : header.totalLen.toNat > maxPayloadSize ∨ data = []
    · exact .inl ⟨_, .inr rfl, by simp only [hbounds, if_true]⟩
    · refine .inr ⟨header, data, rfl, by omega, fun hdata => hbounds (.inr hdata), ?_⟩
      simp only [hbounds, if_false]
      cases hfind : r.findOrInsert (state.removeExpired now)
          (message.source, header.messageId) header topic now with
      | error error =>
        obtain ⟨hlookup, herror⟩ := findOrInsert_error hfind
        exact .refused hlookup herror
      | ok found =>
        obtain ⟨p, inserted⟩ := found
        obtain ⟨hp, herase, hinsert⟩ := findOrInsert_ok hfind
        simp only [herase, hinsert]
        cases hcheck : p.check header topic data.length with
        | error error => exact .dropped hp hcheck
        | ok _ =>
          simp only
          split
          next hcomplete => exact .completed hp hcheck hcomplete
          next hcomplete => exact .extended hp hcheck (Bool.eq_false_iff.mpr hcomplete)

theorem findOrInsert_of_continues {key : MessageKey}
    (h : Continues r state key header topic now p) :
    ∃ state', r.findOrInsert state key header topic now = .ok (p, state') := by
  cases h with
  | stored hlookup => exact ⟨state, by simp [findOrInsert, hlookup]⟩
  | first hlookup hindex hadmitted =>
    refine ⟨⟨state.partials.insert key (r.newPartial header topic now)⟩, ?_⟩
    simp [findOrInsert, hlookup, hindex, hadmitted, newPartial]

/-- A fragment that continues a partial message and passes its check is appended. -/
theorem accept_of_continues {codec : HeaderCodec} {frame : FragmentFrame}
    (hdecode : decode codec message.payload = some frame)
    (hmax : frame.header.totalLen.toNat ≤ maxPayloadSize) (hdata : frame.data ≠ [])
    (hp : Continues r (state.removeExpired now) (message.source, frame.header.messageId)
      frame.header topic now p)
    (hcheck : p.check frame.header topic frame.data.length = .ok ()) :
    r.accept codec state message topic now =
      if (r.extend p frame.data now).isComplete then
        (.ok (some { payload := (r.extend p frame.data now).payload
                     destination := message.destination, source := message.source
                     topic := p.topic }),
          ⟨(state.removeExpired now).partials.erase (message.source, frame.header.messageId)⟩)
      else
        (.ok none, ⟨(state.removeExpired now).partials.insert
          (message.source, frame.header.messageId) (r.extend p frame.data now)⟩) := by
  obtain ⟨inserted, hfind⟩ := findOrInsert_of_continues hp
  obtain ⟨-, herase, hinsert⟩ := findOrInsert_ok hfind
  have hbounds : ¬(frame.header.totalLen.toNat > maxPayloadSize ∨ frame.data = []) :=
    not_or.mpr ⟨hmax.not_gt, hdata⟩
  simp only [accept, hdecode, hbounds, if_false, hfind, hcheck, herase, hinsert]
  rfl

/-! ## `process` -/

theorem process_of_no_fragment (r : Reassembler) (codec : HeaderCodec) (state : ReassemblyState)
    (now : ℕ) (h : originalTopic message.topic = none) :
    r.process codec state message now = (some message, state) := by
  simp only [process, h]

theorem process_of_fragment (r : Reassembler) (codec : HeaderCodec) (state : ReassemblyState)
    (now : ℕ) (h : originalTopic message.topic = some topic) :
    r.process codec state message now =
      ((r.accept codec state message topic now).1.toOption.join,
        (r.accept codec state message topic now).2) := by
  simp only [process, h]
  rcases r.accept codec state message topic now with ⟨result, state'⟩
  cases result <;> rfl

/-! ## Received fragments -/

/-- What the reassembler reads of a message on a fragment topic. -/
structure ReceivedFragment where
  source : Source
  topic : OriginalTopic
  header : FragmentHeader
  data : List UInt8
  now : ℕ

def ReceivedFragment.key (f : ReceivedFragment) : MessageKey := (f.source, f.header.messageId)

def Arrival.fragment? (codec : HeaderCodec) (a : Arrival) : Option ReceivedFragment :=
  match Reassembler.originalTopic a.message.topic, decode codec a.message.payload with
  | some topic, some frame =>
    some { source := a.message.source, topic, header := frame.header, data := frame.data
           now := a.now }
  | _, _ => none

/-! ## Passing the check -/

theorem check_eq_ok {dataLen : ℕ} :
    p.check header topic dataLen = .ok () ↔
      header.index = p.nextIndex ∧ header.totalLen.toNat = p.totalLen ∧ topic = p.topic ∧
        p.payload.length + dataLen ≤ p.totalLen := by
  unfold PartialMessage.check
  split_ifs with hindex hrest
  · simp [hindex]
  · simp only [false_iff]
    rintro ⟨-, hlen, htopic, hfit⟩
    simp [hlen, htopic, hfit.not_gt] at hrest
  · simp only [not_or, not_not, not_lt] at hindex hrest
    exact iff_of_true rfl ⟨hindex, hrest⟩

section

variable (r : Reassembler) (p : PartialMessage) (data : List UInt8) (now : ℕ)

@[simp] theorem extend_payload : (r.extend p data now).payload = p.payload ++ data := rfl

@[simp] theorem extend_totalLen : (r.extend p data now).totalLen = p.totalLen := rfl

@[simp] theorem extend_nextIndex : (r.extend p data now).nextIndex = p.nextIndex + 1 := rfl

theorem extend_isComplete :
    (r.extend p data now).isComplete = true ↔ p.payload.length + data.length = p.totalLen := by
  simp [PartialMessage.isComplete]

end

/-! ## Sweeping -/

theorem lookup_removeExpired (state : ReassemblyState) (now : ℕ) (key : MessageKey) :
    (state.removeExpired now).partials.lookup key =
      (state.partials.lookup key).filter fun p => decide (p.expiresAt > now) :=
  Store.lookup_retain _ _ _

theorem lookup_removeExpired_eq_some {key : MessageKey} :
    (state.removeExpired now).partials.lookup key = some p ↔
      state.partials.lookup key = some p ∧ now < p.expiresAt := by
  rw [lookup_removeExpired]
  simp

/-! ## Other keys -/

theorem process_lookup_of_ne (r : Reassembler) (codec : HeaderCodec) {key : MessageKey}
    (h : ∀ g, a.fragment? codec = some g → g.key ≠ key)
    (hlive : ∀ p, state.partials.lookup key = some p → a.now < p.expiresAt) :
    (r.process codec state a.message a.now).2.partials.lookup key =
      state.partials.lookup key := by
  cases htopic : originalTopic a.message.topic with
  | none => rw [process_of_no_fragment r codec state a.now htopic]
  | some topic =>
    rw [process_of_fragment r codec state a.now htopic]
    rcases accept_cases r codec state a.message topic a.now with
      ⟨_, -, haccept⟩ | ⟨header, data, hdecode, -, -, hstep⟩
    · rw [haccept]
    · have hswept : (state.removeExpired a.now).partials.lookup key =
          state.partials.lookup key := by
        rw [lookup_removeExpired]
        cases hlookup : state.partials.lookup key with
        | none => rfl
        | some p => simp [hlive p hlookup]
      have hne : key ≠ (a.message.source, header.messageId) := by
        apply Ne.symm
        exact h ⟨a.message.source, topic, header, data, a.now⟩
          (by simp [Arrival.fragment?, htopic, hdecode])
      generalize r.accept codec state a.message topic a.now = result at hstep
      cases hstep with
      | refused => exact hswept
      | dropped | completed => exact (AList.lookup_erase_ne hne).trans hswept
      | extended => exact (AList.lookup_insert_ne hne).trans hswept

end SdkInternal.Ipc
