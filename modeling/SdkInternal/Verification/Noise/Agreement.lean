import SdkInternal.Model.Ipc.Noise.Peers
import SdkInternal.Verification.Noise.Custody
import SdkInternal.Verification.Noise.Keys

/-! # Do the sessions of two peers belong together?

Each side is a party of `SdkInternal.Shared.Handshake`. If the two sides never have two
handshakes open at once, and the receive loop saves the session of an answered handshake
only while no call is going to write an old one back, the stored sessions match. Two
handshakes that cross leave the sides with sessions that do not. -/

namespace SdkInternal.Ipc.Noise

open Shared List Provider OutgoingFrame Option Party Provider Node Peers Set

/-! ## The two parties -/

/-- The messages and keys of the handshake, if its two sides derive the same keys. -/
def handshakeScheme (snow : Snow) (hagrees : snow.Agrees) :
    Scheme HandshakeInitiator HandshakeStartMessage HandshakeFinishMessage Keys where
  write := HandshakeInitiator.writeStartMessage snow
  Answers start finish k := ∃ ephemeral responder,
    HandshakeResponder.respond snow start ephemeral = some (finish, responder) ∧
      k = (responder.split.r2i, responder.split.i2r)
  Reads initiator finish k := ∃ split,
    initiator.readResponseMessage snow finish = some split ∧ k = (split.i2r, split.r2i)
  Pairs k l := k.1 = l.2 ∧ k.2 = l.1
  pairs_symm := by
    rintro k l ⟨hsend, hreceive⟩
    exact ⟨hreceive.symm, hsend.symm⟩
  pairs_of_reads := by
    rintro initiator finish k l ⟨ephemeral, responder, hrespond, rfl⟩ ⟨split, hread, rfl⟩
    unfold HandshakeResponder.respond at hrespond
    rw [Option.map_eq_some_iff] at hrespond
    obtain ⟨⟨response, split'⟩, hsnow, heq⟩ := hrespond
    cases heq
    obtain rfl := hagrees _ _ _ _ _ _ hsnow hread
    exact ⟨rfl, rfl⟩

/-! ### Messages on the way -/

theorem filterMap_drop_append {α β : Type*} {g : α → Option β} {sent : List α}
    (hsent : ∀ a ∈ sent, g a = none) (l : List α) (n : ℕ) :
    ((l ++ sent).drop n).filterMap g = (l.drop n).filterMap g := by
  have hnone : (sent.drop (n - l.length)).filterMap g = [] := by
    rw [filterMap_eq_nil_iff]
    exact fun a ha => hsent a (mem_of_mem_drop ha)
  rw [drop_append, filterMap_append, hnone, append_nil]

theorem drop_of_getElem? {α : Type*} {l : List α} {n : ℕ} {a : α} (h : l[n]? = some a) :
    l.drop n = a :: l.drop (n + 1) := by
  obtain ⟨hn, rfl⟩ := List.getElem?_eq_some_iff.mp h
  exact drop_eq_getElem_cons hn

theorem filterMap_drop_subset {α β : Type*} (g : α → Option β) (l : List α) {m n : ℕ}
    (h : m ≤ n) : (l.drop n).filterMap g ⊆ (l.drop m).filterMap g := by
  intro b hb
  rw [mem_filterMap] at hb ⊢
  obtain ⟨a, ha, hab⟩ := hb
  exact ⟨a, drop_subset_drop_left l h ha, hab⟩

namespace Node

def untakenStarts (x y : Node) : List HandshakeStartMessage :=
  (x.provider.outbox.drop y.taken).filterMap OutgoingFrame.start?

def unheardFinishes (x y : Node) : List HandshakeFinishMessage :=
  (y.provider.outbox.drop x.subscription).filterMap OutgoingFrame.finish?

def party (peer : Endpoint) (x y : Node) :
    Party HandshakeInitiator HandshakeStartMessage HandshakeFinishMessage Keys where
  holds := x.provider.holds peer
  saving := x.provider.derived
  waiting := x.provider.waiting
  starts := x.untakenStarts y
  finishes := x.unheardFinishes y
  answer := x.provider.loop.answer

structure Sound (peer : Endpoint) (x : Node) : Prop where
  disciplined : x.provider.Disciplined
  addressed : x.provider.Addressed peer
  subscribed : x.subscription ≤ x.arrived

/-! ## Steps of one side -/

variable {scheme : Scheme HandshakeInitiator HandshakeStartMessage HandshakeFinishMessage Keys}
  {peer peer' : Endpoint} {x x' y : Node}

theorem agreeing_of_calm
    (h : Agreeing scheme (x.party peer y) (y.party peer' x))
    (hcalm : Calm peer x.provider x'.provider)
    (hsubscription : x.subscription ≤ x'.subscription)
    (hstarts : y.untakenStarts x' = y.untakenStarts x) :
    Agreeing scheme (x'.party peer y) (y.party peer' x') := by
  obtain ⟨sent, houtbox, hsent⟩ := hcalm.outbox
  refine h.shrink ⟨hcalm.holds, hcalm.derived, hcalm.waiting, ?_, ?_, hcalm.answer⟩
    ⟨subset_union_left, subset_rfl, subset_rfl, hstarts, ?_, rfl⟩
  · simp only [party, untakenStarts, houtbox]
    exact filterMap_drop_append (fun message hmem => (hsent message hmem).1) _ _
  · exact filterMap_drop_subset _ _ hsubscription
  · simp only [party, unheardFinishes, houtbox]
    rw [filterMap_drop_append (fun message hmem => (hsent message hmem).2)]
    exact List.Subset.refl _

variable {message : IncomingFrame} {provider : Provider} {prims : Primitives}

theorem agreeing_of_takeStart {hagrees : prims.snow.Agrees} {ephemeral : ℕ}
    {start : HandshakeStartMessage}
    (h : Agreeing (handshakeScheme prims.snow hagrees) (x.party peer y)
      (y.party peer' x)) (hframe : message.frame = some (.handshakeStart start))
    (hstarts : y.untakenStarts x =
      start :: y.untakenStarts { x with provider, taken := x.taken + 1 })
    (hstep : LoopStep prims x.provider (.receive message ephemeral) provider) :
    Agreeing (handshakeScheme prims.snow hagrees)
      (({ x with provider, taken := x.taken + 1 } : Node).party peer y)
      (y.party peer' { x with provider, taken := x.taken + 1 }) := by
  apply Agreeing.symm
  cases hstep with
  | ignored hpc =>
    exact h.symm.taken hstarts subset_rfl subset_rfl subset_rfl rfl (fun _ => .inl) rfl subset_rfl
      subset_rfl rfl
  | respond hpc hframe' hrespond =>
    rw [hframe] at hframe'
    cases hframe'
    refine h.symm.taken hstarts subset_rfl subset_rfl subset_rfl rfl ?_ rfl subset_rfl subset_rfl ?_
    · intro finish hfinish
      simp only [party, unheardFinishes, transmit, drop_append, filterMap_append, mem_append]
        at hfinish
      refine hfinish.imp_right fun hnew => ?_
      obtain ⟨out, hout, hsome⟩ := mem_filterMap.mp hnew
      rw [mem_singleton.mp (mem_of_mem_drop hout)] at hsome
      cases hsome
      exact ⟨_, ⟨ephemeral, _, hrespond, rfl⟩, rfl⟩
    · exact filterMap_drop_append (forall_mem_singleton.mpr rfl) _ _
  | toLock hpc hframe' | toRemove hpc hframe' =>
    rw [hframe] at hframe'
    cases hframe'

theorem agreeing_of_hear {hagrees : prims.snow.Agrees} {out : OutgoingFrame} {task : ℕ}
    {now : UInt64} (h : Agreeing (handshakeScheme prims.snow hagrees) (x.party peer y)
      (y.party peer' x)) (hout : y.provider.outbox[x.subscription]? = some out)
    (hmessage : message.frame = some out.frame)
    (hstep : SendStep prims x.provider task (.incoming message now) provider) :
    Agreeing (handshakeScheme prims.snow hagrees)
      (({ x with provider, subscription := x.subscription + 1 } : Node).party peer y)
      (y.party peer' { x with provider, subscription := x.subscription + 1 }) := by
  cases hstep with
  | ignored hpc =>
    exact agreeing_of_calm h (.refl peer x.provider) (Nat.le_succ _) rfl
  | failed hfails =>
    exact agreeing_of_calm h (calm_of_ended hfails.bare.2.2) (Nat.le_succ _) rfl
  | @finishRead _ initiator _ _ finish split hpc hsource hframe hread =>
    have hfinish : finish ∈ x.unheardFinishes y := by
      rw [hmessage, some.injEq] at hframe
      rw [unheardFinishes, drop_of_getElem? hout]
      simp [finish?, hframe]
    obtain ⟨hholds, hderived, hwaiting⟩ :=
      finishRead_keys peer x.provider task _ (initiator.transportState split now)
    exact h.completed ⟨task, by rw [hpc]; rfl⟩ hfinish ⟨split, hread, rfl⟩ hholds hderived
      hwaiting rfl (filterMap_drop_subset _ _ (Nat.le_succ _)) rfl (.refl _)

theorem agreeing_of_saveResponder {endpoint : Endpoint} {session : PersistentTransportState}
    (h : Agreeing scheme (x.party peer y) (y.party peer' x))
    (haddressed : x.provider.Addressed peer)
    (hpc : x.provider.loop = .savingResponder endpoint session)
    (hcopied : ¬x.provider.Copied peer)
    (hprovider : x'.provider =
      ({ x.provider with loop := .receiving } : Provider).establish endpoint session)
    (htaken : x'.taken = x.taken) :
    Agreeing scheme (x'.party peer y) (y.party peer' x') := by
  have hholds := saveResponder_holds haddressed hpc fun task copy hcopy =>
    hcopied ⟨task, copy, hcopy⟩
  apply Agreeing.symm
  refine h.symm.stored (l := session.keys) ?_ ?_ ?_ ?_ ?_ ?_ ?_
  · simp [party, hpc, LoopPc.answer]
  · refine ⟨subset_union_left, subset_rfl, subset_rfl, ?_, ?_, rfl⟩
    · simp [party, untakenStarts, htaken]
    · simp [party, unheardFinishes, hprovider, establish, saveSession]
  · simp only [party, hprovider]
    exact hholds.trans subset_union_left
  · simp only [party, hprovider]
    exact subset_rfl
  · simp only [party, hprovider]
    exact subset_rfl
  · simp [party, untakenStarts, hprovider, establish, saveSession]
  · simp [party, hprovider, establish, saveSession, LoopPc.answer]

end Node

namespace Peers

/-! ## Separate handshakes -/

/-- No handshake is open on either side, no answer of an earlier one is still to be heard
by `side`, and `side` has no session. -/
structure NoHandshake (source : Side → Source) (p : Peers) (side : Side) : Prop where
  waiting : ∀ s, (p s).provider.waiting = ∅
  derived : ∀ s, (p s).provider.derived = ∅
  answer : ∀ s, (p s).provider.loop.answer = none
  starts : ∀ s, (p s).untakenStarts (p s.other) = []
  finishes : (p side).unheardFinishes (p side.other) = []
  session : (p side).provider.sessions.lookup (peerEndpoint source side) = none

/-- A handshake is opened only while there is no other one, and the session of an answered
handshake is saved only while no call is going to write an older one back. -/
def Separate (source : Side → Source) (p : Peers) : PeerAction → Prop
  | .act side (.send _ .handStart) => p.NoHandshake source side
  | .act side (.loop .saveResponder) => ¬(p side).provider.Copied (peerEndpoint source side)
  | _ => True

/-- Every frame has arrived and has been taken, and no operation is in progress. -/
def Quiescent (p : Peers) : Prop :=
  ∀ side, (p side).taken = (p side).arrived ∧
    (p side).arrived = (p side.other).provider.outbox.length ∧
    (p side).provider.loop = .receiving ∧
    ∀ task, (p side).provider.sends task = .idle ∨ ((p side).provider.sends task).ended = true

/-- The session of `x` sends with the key that the session of `y` receives with. -/
def Matching (x y : PersistentTransportState) : Prop :=
  x.sendKey = y.receiveKey ∧ x.receiveKey = y.sendKey

/-! ## The invariant -/

variable (scheme : Scheme HandshakeInitiator HandshakeStartMessage HandshakeFinishMessage Keys)

structure Invariant (source : Side → Source) (p : Peers) : Prop where
  sound : ∀ side, (p side).Sound (peerEndpoint source side)
  agreeing : ∀ side, Agreeing scheme
    ((p side).party (peerEndpoint source side) (p side.other))
    ((p side.other).party (peerEndpoint source side.other) (p side))

@[simp] theorem other_other (side : Side) : side.other.other = side := by
  cases side <;> rfl

theorem other_ne (side : Side) : side.other ≠ side := by
  cases side <;> decide

variable {source : Side → Source} {p : Peers}

theorem Invariant.update {scheme : Scheme HandshakeInitiator HandshakeStartMessage
    HandshakeFinishMessage Keys} (h : p.Invariant scheme source) {side : Side} {node : Node}
    (hsound : node.Sound (peerEndpoint source side)) (hagreeing : Agreeing scheme
      (node.party (peerEndpoint source side) (p side.other))
      ((p side.other).party (peerEndpoint source side.other) node)) :
    Invariant scheme source (Function.update p side node) := by
  have hself : Function.update p side node side = node := Function.update_self _ _ _
  have hother : Function.update p side node side.other = p side.other :=
    Function.update_of_ne (other_ne side) _ _
  have hcases : ∀ s : Side, s = side ∨ s = side.other := by
    intro s
    cases s <;> cases side <;> simp [Side.other]
  refine ⟨?_, ?_⟩
  · intro s
    rcases hcases s with rfl | rfl
    · rw [hself]
      exact hsound
    · rw [hother]
      exact h.sound side.other
  · intro s
    rcases hcases s with rfl | rfl
    · rw [hself, hother]
      exact hagreeing
    · rw [other_other, hself, hother]
      exact hagreeing.symm

theorem invariant_initial (source : Side → Source) : Invariant scheme source initial := by
  refine ⟨?_, ?_⟩
  · intro side
    exact ⟨disciplined_start ∅, addressed_start _, le_rfl⟩
  · intro side
    have hwaiting : ∀ s, (initial s).provider.waiting = ∅ := by
      exact fun s => eq_empty_of_forall_notMem fun i ⟨task, hpc⟩ => nomatch hpc
    have hderived : ∀ s, (initial s).provider.derived = ∅ := by
      exact fun s => eq_empty_of_forall_notMem fun k ⟨task, hpc⟩ => nomatch hpc
    have hholds : ∀ s peer, (initial s).provider.holds peer = ∅ := by
      intro s peer
      rw [eq_empty_iff_forall_notMem]
      rintro k (⟨session, hlookup, -⟩ | ⟨task, endpoint, session, hpc, -⟩ |
        ⟨session, hpc, -⟩)
      · cases hlookup
      · cases hpc
      · cases hpc
    refine .inl ⟨⟨hwaiting _, hderived _, rfl, rfl⟩, ?_, ?_, ?_⟩
    · intro start rest hstarts
      cases hstarts
    · intro _ k hk
      rcases hk with hk | hk
      · exact absurd hk (by simp [party, hholds])
      · exact absurd hk (by simp [party, hderived])
    · intro _ i hi
      exact absurd hi (by simp [party, hwaiting])

/-! ## Steps -/

section

variable {prims : Primitives} {hagrees : prims.snow.Agrees} {source : Side → Source}
  {p : Peers} {side : Side} {provider : Provider} {out : OutgoingFrame}

theorem Invariant.take {ephemeral : ℕ} (h : p.Invariant (handshakeScheme prims.snow hagrees) source)
    (hout : (p side.other).provider.outbox[(p side).taken]? = some out)
    (hstep : LoopStep prims (p side).provider
      (.receive (delivered source side.other out) ephemeral) provider) :
    Invariant (handshakeScheme prims.snow hagrees) source
      (Function.update p side { p side with provider, taken := (p side).taken + 1 }) := by
  have hsound := h.sound side
  refine h.update ⟨hsound.disciplined.loopStep hstep, ?_, hsound.subscribed⟩ ?_
  · refine hsound.addressed.loopStep hstep ?_
    rintro message e ⟨⟩
    rfl
  · have hstarts : (p side.other).untakenStarts (p side) =
        (out :: (p side.other).provider.outbox.drop ((p side).taken + 1)).filterMap
          start? := by
      rw [untakenStarts, drop_of_getElem? hout]
    cases hframe : out.frame with
    | handshakeStart start =>
      refine agreeing_of_takeStart (h.agreeing side) (congrArg some hframe) ?_ hstep
      rw [hstarts]
      simp [start?, hframe, untakenStarts]
    | _ =>
      refine agreeing_of_calm (h.agreeing side) (calm_loopStep hsound.addressed
        hstep ?_ (by simp) (by simp) (by simp)) le_rfl ?_
      · rintro message e start ⟨⟩
        simp [delivered, hframe]
      · rw [hstarts]
        simp [start?, hframe, untakenStarts]

variable {task : ℕ}

section

variable (h : p.Invariant (handshakeScheme prims.snow hagrees) source)

include h

theorem Invariant.hear {now : UInt64} (harrived : (p side).subscription < (p side).arrived)
    (hout : (p side.other).provider.outbox[(p side).subscription]? = some out)
    (hstep : SendStep prims (p side).provider task
      (.incoming (delivered source side.other out) now) provider) :
    Invariant (handshakeScheme prims.snow hagrees) source
      (Function.update p side
        { p side with provider, subscription := (p side).subscription + 1 }) := by
  have hsound := h.sound side
  refine h.update ⟨hsound.disciplined.sendStep hstep, ?_, harrived⟩ ?_
  · exact hsound.addressed.sendStep hstep (by simp)
  · exact agreeing_of_hear (h.agreeing side) hout rfl hstep

theorem Invariant.opened (hfree : p.NoHandshake source side)
    (hstep : SendStep prims (p side).provider task .handStart provider) :
    Invariant (handshakeScheme prims.snow hagrees) source
      (Function.update p side { p side with provider }) := by
  have hsound := h.sound side
  refine h.update ⟨hsound.disciplined.sendStep hstep,
    hsound.addressed.sendStep hstep (by simp), hsound.subscribed⟩ ?_
  cases hstep with
  | failed hfails =>
    exact agreeing_of_calm (h.agreeing side) (calm_of_ended hfails.bare.2.2) le_rfl rfl
  | @handStart message initiator hpc =>
    have hstart : (p side.other).untakenStarts (p side) = [] := by
      have hother := hfree.starts side.other
      rwa [other_other] at hother
    refine agreeing_of_opened (i := initiator) ?_
      (handStart_holds hsound.disciplined hpc hfree.session) ?_ ?_ hfree.finishes
      ⟨hfree.waiting _, hfree.derived _, hstart, hfree.answer _⟩ (hfree.answer _)
    · have hnone : ((p side).provider.outbox.drop (p side.other).taken).filterMap
          start? = [] := hfree.starts side
      simp only [party, untakenStarts, transmit, setSend,
        drop_append, filterMap_append, hnone, nil_append]
      exact (drop_sublist _ _).filterMap _
    · rw [eq_empty_iff_forall_notMem]
      intro k hk
      rcases mem_of_setSend rfl hk with hpc | hk
      · cases hpc
      · have hnone : k ∈ (p side).provider.derived := hk
        rw [hfree.derived side] at hnone
        exact hnone
    · intro i hi
      rcases mem_of_setSend rfl hi with hpc | hi
      · exact (some.inj hpc).symm
      · have hnone : i ∈ (p side).provider.waiting := hi
        rw [hfree.waiting side] at hnone
        exact absurd hnone (notMem_empty i)

theorem Invariant.sendStep {action : SendAction}
    (hseparate : p.Separate source (.act side (.send task action)))
    (hreliable : reliable (peerEndpoint source side) (.send task action) = true)
    (hstep : SendStep prims (p side).provider task action provider) :
    Invariant (handshakeScheme prims.snow hagrees) source
      (Function.update p side
        { p side with
          provider
          subscription :=
            if subscribes (.send task action) then (p side).arrived
            else (p side).subscription }) := by
  have hsound := h.sound side
  by_cases hopen : action = .handStart
  · subst hopen
    exact h.opened hseparate hstep
  · have hsubscription : (p side).subscription ≤
        if subscribes (.send task action) then (p side).arrived else (p side).subscription := by
      split_ifs
      · exact hsound.subscribed
      · exact le_rfl
    refine h.update ⟨hsound.disciplined.sendStep hstep, ?_, ?_⟩ ?_
    · refine hsound.addressed.sendStep hstep ?_
      rintro message rfl
      simpa [reliable] using hreliable
    · split_ifs
      · exact le_rfl
      · exact hsound.subscribed
    · refine agreeing_of_calm (h.agreeing side)
        (calm_sendStep hsound.addressed hstep hopen ?_) hsubscription rfl
      rintro incoming now rfl
      simp [reliable] at hreliable

theorem Invariant.loopStep {action : LoopAction}
    (hseparate : p.Separate source (.act side (.loop action)))
    (hreliable : reliable (peerEndpoint source side) (.loop action) = true)
    (hstep : LoopStep prims (p side).provider action provider) :
    Invariant (handshakeScheme prims.snow hagrees) source
      (Function.update p side { p side with provider }) := by
  have hsound := h.sound side
  have hreceive : ∀ message ephemeral, action ≠ .receive message ephemeral := by
    rintro message ephemeral rfl
    simp [reliable] at hreliable
  refine h.update ⟨hsound.disciplined.loopStep hstep, ?_, hsound.subscribed⟩ ?_
  · exact hsound.addressed.loopStep hstep fun message e hreceived =>
      absurd hreceived (hreceive message e)
  · by_cases hsave : action = .saveResponder
    · subst hsave
      cases hstep with
      | ignored hpc => exact h.agreeing side
      | saveResponder hpc =>
        exact agreeing_of_saveResponder (h.agreeing side) hsound.addressed hpc
          hseparate rfl rfl
    · refine agreeing_of_calm (h.agreeing side) (calm_loopStep hsound.addressed
        hstep ?_ ?_ hsave ?_) le_rfl rfl
      · exact fun message e start hreceived => absurd hreceived (hreceive message e)
      · rintro kind now rfl
        simp [reliable] at hreliable
      · rintro rfl
        simp [reliable] at hreliable

end

end

variable {prims : Primitives}

theorem Invariant.step {hagrees : prims.snow.Agrees} {p p' : Peers} {action : PeerAction}
    (hseparate : p.Separate source action) (hstep : p.step prims source action = some p')
    (h : p.Invariant (handshakeScheme prims.snow hagrees) source) :
    p'.Invariant (handshakeScheme prims.snow hagrees) source := by
  cases action with
  | arrive side =>
    simp only [Peers.step] at hstep
    split_ifs at hstep
    cases hstep
    have hsound := h.sound side
    exact h.update ⟨hsound.disciplined, hsound.addressed, hsound.subscribed.trans
      (Nat.le_succ _)⟩ (h.agreeing side)
  | take side ephemeral =>
    simp only [Peers.step] at hstep
    split_ifs at hstep
    split at hstep
    · cases hstep
    · rename_i out hout
      rw [map_eq_some_iff] at hstep
      obtain ⟨provider, hprovider, rfl⟩ := hstep
      exact h.take hout (stepLoop_cases hprovider)
  | hear side task now =>
    simp only [Peers.step] at hstep
    split_ifs at hstep with harrived
    split at hstep
    · cases hstep
    · rename_i out hout
      rw [map_eq_some_iff] at hstep
      obtain ⟨provider, hprovider, rfl⟩ := hstep
      exact h.hear harrived hout (stepSend_cases hprovider)
  | act side action =>
    simp only [Peers.step] at hstep
    by_cases hreliable : reliable (peerEndpoint source side) action = true
    · rw [if_pos hreliable, map_eq_some_iff] at hstep
      obtain ⟨provider, hprovider, rfl⟩ := hstep
      cases action with
      | send task action =>
        exact h.sendStep hseparate hreliable (stepSend_cases hprovider)
      | loop action =>
        exact h.loopStep hseparate hreliable (stepLoop_cases hprovider)
    · rw [if_neg hreliable] at hstep
      cases hstep

/-! ## Agreement -/

theorem Quiescent.untakenStarts (h : p.Quiescent) (side : Side) :
    (p side).untakenStarts (p side.other) = [] := by
  obtain ⟨htaken, harrived, -⟩ := h side.other
  rw [other_other] at harrived
  rw [Node.untakenStarts, drop_of_length_le (by omega)]
  rfl

/-- In every run whose handshakes are separate, whenever nothing is on the way and both
sides have a session for the other, the two sessions match. -/
theorem separate_handshakes_match (prims : Primitives) (hagrees : prims.snow.Agrees)
    (source : Side → Source) (actions : List PeerAction) (p : Peers)
    (hseparate : Meets (step prims source) (Separate source) initial actions)
    (hrun : run (step prims source) initial actions = some p) (hquiescent : p.Quiescent)
    (x y : PersistentTransportState)
    (hx : (p .a).provider.sessions.lookup (peerEndpoint source .a) = some x)
    (hy : (p .b).provider.sessions.lookup (peerEndpoint source .b) = some y) :
    Matching x y := by
  have hinvariant := run_invariant (step prims source)
    (Invariant (handshakeScheme prims.snow hagrees) source)
    (fun _ _ _ hseparate hstep h => h.step hseparate hstep) hseparate hrun
    (invariant_initial _ source)
  have hanswer : ∀ side, (p side).provider.loop.answer = none := by
    intro side
    obtain ⟨-, -, hloop, -⟩ := hquiescent side
    rw [hloop]
    rfl
  exact (hinvariant.agreeing .a).pairs (hquiescent.untakenStarts .a)
    (hquiescent.untakenStarts .b) (hanswer .a) (hanswer .b)
    (mem_holds_of_lookup hx) (mem_holds_of_lookup hy)

/-! ## Fixed runs -/

theorem namingSnow_agrees : namingSnow.Agrees := by
  intro suite initiator responder response split split' hrespond hread
  cases hrespond
  simpa [namingSnow, eq_comm] using hread

def sampleSource : Side → Source
  | .a => .desktopMain
  | .b => .desktopRenderer

def connecting (side : Side) (ephemeral : ℕ) : List PeerAction :=
  [.act side (.send 0 (.call
      { payload := [7], destination := peerEndpoint sampleSource side, topic := none })),
    .act side (.send 0 .lock), .act side (.send 0 (.get 0)),
    .act side (.send 0 (.subscribe ephemeral))]

def handingStart (side : Side) : List PeerAction := [.act side (.send 0 .handStart)]

def responding (side : Side) (ephemeral : ℕ) : List PeerAction :=
  [.arrive side, .take side ephemeral, .act side (.loop (.finishAnswer none 0))]

def savingAnswer (side : Side) : List PeerAction := [.act side (.loop .saveResponder)]

def completing (side : Side) : List PeerAction :=
  [.hear side 0 0, .act side (.send 0 .saveHandshake), .act side (.send 0 .getAgain),
    .act side (.send 0 .handFrame), .act side (.send 0 (.frameAnswer none)),
    .act side (.send 0 .save)]

def takingFrame (side : Side) : List PeerAction :=
  [.arrive side, .take side 0, .act side (.loop .lock), .act side (.loop .get)]

/-- One side connects, the other one answers and receives its frame. -/
def separateActions : List PeerAction :=
  connecting .a 1 ++ (handingStart .a ++
    ([.act .a (.send 0 (.startAnswer none))] ++ responding .b 2 ++ (savingAnswer .b ++
      ([.arrive .a, .take .a 0] ++ completing .a ++ takingFrame .b ++
        [.act .b (.loop .saveReceived)]))))

/-- Both sides connect at once, and answer each other before they read the answers. -/
def crossingActions : List PeerAction :=
  connecting .a 1 ++ handingStart .a ++ [.act .a (.send 0 (.startAnswer none))] ++
    connecting .b 2 ++ handingStart .b ++ [.act .b (.send 0 (.startAnswer none))] ++
    responding .a 3 ++ savingAnswer .a ++ responding .b 4 ++ savingAnswer .b ++
    [.hear .a 0 0, .arrive .a, .take .a 0] ++ completing .a ++
    [.hear .b 0 0, .arrive .b, .take .b 0] ++ completing .b ++
    takingFrame .a ++ takingFrame .b

theorem quiescent_of_tasks (h : ∀ side, (p side).taken = (p side).arrived ∧
      (p side).arrived = (p side.other).provider.outbox.length ∧
      (p side).provider.loop = .receiving) (hfirst : ∀ side, (p side).provider.sends 0 = .idle ∨
      ((p side).provider.sends 0).ended = true)
    (hrest : ∀ side task, (p side).provider.sends (task + 1) = .idle) : p.Quiescent := by
  intro side
  obtain ⟨htaken, harrived, hloop⟩ := h side
  refine ⟨htaken, harrived, hloop, ?_⟩
  intro task
  cases task with
  | zero => exact hfirst side
  | succ task => exact .inl (hrest side task)

/-- Handshakes that cross leave the two sides with the sessions of different handshakes. -/
theorem crossing_handshakes_mismatch :
    namingSnow.Agrees ∧ ∃ p x y,
      run (step samplePrimitives sampleSource) initial crossingActions = some p ∧
      p.Quiescent ∧
      (p .a).provider.sessions.lookup (peerEndpoint sampleSource .a) = some x ∧
      (p .b).provider.sessions.lookup (peerEndpoint sampleSource .b) = some y ∧
      ¬Matching x y := by
  refine ⟨namingSnow_agrees, _, _, _, rfl, ?_, rfl, rfl, ?_⟩
  · apply quiescent_of_tasks
    · intro side
      cases side <;> exact ⟨rfl, rfl, rfl⟩
    · intro side
      cases side <;> exact .inr rfl
    · intro side task
      cases side <;> rfl
  · rintro ⟨hsend, -⟩
    exact absurd hsend (by decide)

/-- The actions that are separate in every state. -/
def unconditional : PeerAction → Bool
  | .act _ (.send _ .handStart) | .act _ (.loop .saveResponder) => false
  | _ => true

theorem meets_of_unconditional {actions : List PeerAction}
    (h : ∀ a ∈ actions, unconditional a = true) (p : Peers) :
    Meets (step prims source) (Separate source) p actions := by
  refine meets_of_forall _ ?_ p
  intro a ha p
  have hunconditional := h a ha
  unfold Separate
  split
  · cases hunconditional
  · cases hunconditional
  · trivial

theorem noHandshake_connecting
    (hrun : run (step samplePrimitives sampleSource) initial (connecting .a 1) = some p) :
    p.NoHandshake sampleSource .a := by
  cases hrun
  refine ⟨?_, ?_, ?_, ?_, rfl, rfl⟩
  · intro s
    rw [eq_empty_iff_forall_notMem]
    rintro i ⟨task, hpc⟩
    cases s <;> cases task <;> cases hpc
  · intro s
    rw [eq_empty_iff_forall_notMem]
    rintro k ⟨task, hpc⟩
    cases s <;> cases task <;> cases hpc
  · intro s
    cases s <;> rfl
  · intro s
    cases s <;> rfl

theorem separate_separateActions :
    Meets (step samplePrimitives sampleSource) (Separate sampleSource) initial
      separateActions := by
  refine meets_append_of_run _ (meets_of_unconditional (by decide) _) rfl ?_
  refine meets_append_of_run _ ⟨noHandshake_connecting rfl, fun _ _ => trivial⟩ rfl ?_
  refine meets_append_of_run _ (meets_of_unconditional (by decide) _) rfl ?_
  refine meets_append_of_run _ ⟨?_, fun _ _ => trivial⟩ rfl (meets_of_unconditional (by decide) _)
  rintro ⟨task, session, hcopy⟩
  cases hcopy

theorem separate_handshakes_match_sample :
    ∃ p x y,
      run (step samplePrimitives sampleSource) initial separateActions = some p ∧
      (p .a).provider.sessions.lookup (peerEndpoint sampleSource .a) = some x ∧
      (p .b).provider.sessions.lookup (peerEndpoint sampleSource .b) = some y ∧
      Matching x y := by
  refine ⟨_, _, _, rfl, rfl, rfl, ?_⟩
  refine separate_handshakes_match samplePrimitives namingSnow_agrees sampleSource
    separateActions _ separate_separateActions rfl ?_ _ _ rfl rfl
  apply quiescent_of_tasks
  · intro side
    cases side <;> exact ⟨rfl, rfl, rfl⟩
  · intro side
    cases side
    · exact .inr rfl
    · exact .inl rfl
  · intro side task
    cases side <;> rfl

end Peers

end SdkInternal.Ipc.Noise
