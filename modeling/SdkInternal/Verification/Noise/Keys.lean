import SdkInternal.Verification.Noise.Replay
import SdkInternal.Verification.Noise.Steps
import SdkInternal.Shared.Handshake

/-! # The keys a provider may come to store

The keys of the stored session for one peer, of the copies that are going to be written
back, and of handshakes on the way, and how a step of the provider changes them. -/

namespace SdkInternal.Ipc.Noise

open Shared Function OutgoingFrame

abbrev Keys := SymmetricKey × SymmetricKey

def PersistentTransportState.keys (session : PersistentTransportState) : Keys :=
  (session.sendKey, session.receiveKey)

variable {s s' : PersistentTransportState} {frame : TransportFrame} {payload : List UInt8}

theorem PersistentTransportState.keys_send {aead : Aead}
    (h : s.send aead payload = some (frame, s')) : s'.keys = s.keys := by
  obtain ⟨-, -, hstate⟩ := send_eq_some h
  rw [hstate]
  rfl

theorem PersistentTransportState.keys_receive {aead : Aead}
    (h : s.receive aead frame = (.ok payload, s')) : s'.keys = s.keys := by
  have hok : (s.receive aead frame).1 = .ok payload := by rw [h]
  obtain ⟨-, -, hstate⟩ := receive_ok hok
  rw [h] at hstate
  change s' = _ at hstate
  rw [hstate]
  rfl

/-! ## Places -/

def SendPc.message : SendPc → Option OutgoingMessage
  | .idle => none
  | .locking message | .getting message | .removing message | .subscribing message
  | .sendingStart message _ | .startHanded message _ | .awaitingFinish message _
  | .savingHandshake message _ | .gettingAgain message | .encrypting message _
  | .frameHanded message _ | .saving message _ | .clearing message _ _ => some message
  | .returned _ | .panicked => none

theorem SendPc.message_of_ended {pc : SendPc} (h : pc.ended = true) : pc.message = none := by
  cases pc <;> first | rfl | cases h

def SendPc.initiator : SendPc → Option HandshakeInitiator
  | .startHanded _ initiator | .awaitingFinish _ initiator => some initiator
  | _ => none

def SendPc.derived : SendPc → Option Keys
  | .savingHandshake _ session => some session.keys
  | _ => none

theorem SendPc.bare_of_ended {pc : SendPc} (h : pc.ended = true) :
    pc.copy = none ∧ pc.derived = none ∧ pc.initiator = none := by
  cases pc <;> first | exact ⟨rfl, rfl, rfl⟩ | cases h

def LoopPc.endpoint : LoopPc → Option Endpoint
  | .receiving => none
  | .finishHanded endpoint _ | .savingResponder endpoint _ => some endpoint
  | .locking message _ | .getting message _ => some message.source.toEndpoint
  | .invalidatedHanded => none
  | .savingReceived message _ _ => some message.source.toEndpoint
  | .removing endpoint => some endpoint

def LoopPc.copy : LoopPc → Option PersistentTransportState
  | .savingReceived _ session _ => some session
  | _ => none

def LoopPc.answer : LoopPc → Option Keys
  | .finishHanded _ responder => some (responder.split.r2i, responder.split.i2r)
  | .savingResponder _ session => some session.keys
  | _ => none

def OutgoingFrame.start? (message : OutgoingFrame) : Option HandshakeStartMessage :=
  match message.frame with
  | .handshakeStart start => some start
  | _ => none

def OutgoingFrame.finish? (message : OutgoingFrame) : Option HandshakeFinishMessage :=
  match message.frame with
  | .handshakeFinish finish => some finish
  | _ => none

namespace Provider

/-! ## One peer -/

structure Addressed (peer : Endpoint) (s : Provider) : Prop where
  send : ∀ task message, (s.sends task).message = some message → message.destination = peer
  loop : ∀ endpoint, s.loop.endpoint = some endpoint → endpoint = peer

theorem addressed_start (peer : Endpoint) : Addressed peer (start ∅) :=
  ⟨fun _ _ h => (by cases h), fun _ h => (by cases h)⟩

variable {peer : Endpoint} {s s' : Provider} {task : ℕ} {pc : SendPc} {prims : Primitives}
  {session : PersistentTransportState}

theorem Addressed.setSend (h : s.Addressed peer) (hsends : s'.sends = (s.setSend task pc).sends)
    (hpc : ∀ message, pc.message = some message → (s.sends task).message = some message)
    (hloop : s'.loop = s.loop) : s'.Addressed peer := by
  refine ⟨?_, by rw [hloop]; exact h.loop⟩
  rw [hsends]
  exact (forall_update_iff s.sends fun _ place => ∀ message,
    place.message = some message → message.destination = peer).mpr
    ⟨fun message hmessage => h.send task message (hpc message hmessage),
      fun other _ => h.send other⟩

variable {action : SendAction}

theorem Addressed.sendStep (h : s.Addressed peer) (hstep : SendStep prims s task action s')
    (hcall : ∀ message, action = .call message → message.destination = peer) :
    s'.Addressed peer := by
  -- Every transition but the first keeps the message or ends the call.
  have hkept : ∀ {old new : SendPc} {s' : Provider}, s.sends task = old →
      s'.sends = (s.setSend task new).sends → new.message = old.message →
      s'.loop = s.loop → s'.Addressed peer := by
    intro old new s' hpc hsends hmessage hloop
    exact h.setSend hsends (fun message hnew => by rw [hpc, ← hmessage, hnew]) hloop
  have hended : ∀ {new : SendPc} {s' : Provider},
      s'.sends = (s.setSend task new).sends → new.ended = true →
      s'.loop = s.loop → s'.Addressed peer := by
    intro new s' hsends hnew hloop
    refine h.setSend hsends (fun message hmessage => ?_) hloop
    rw [SendPc.message_of_ended hnew] at hmessage
    cases hmessage
  cases hstep with
  | @call message hpc =>
    refine ⟨?_, h.loop⟩
    refine (forall_update_iff s.sends fun _ place => ∀ message,
      place.message = some message → message.destination = peer).mpr
      ⟨?_, fun other _ => h.send other⟩
    intro message' hmessage
    cases hmessage
    exact hcall message rfl
  | lock hpc | remove hpc | subscribe hpc | handStart hpc | startAccepted hpc | finishRead hpc
  | saveHandshake hpc | getAgain hpc | handFrame hpc | frameKept hpc | frameRejected hpc =>
    exact hkept hpc rfl rfl rfl
  | get hpc hnew =>
    rcases hnew with rfl | rfl | rfl <;> exact hkept hpc rfl rfl rfl
  | ignored hpc => exact h
  | overflow hpc | save hpc | clear hpc => exact hended rfl rfl rfl
  | failed hfails => exact hended rfl hfails.bare.2.2 rfl

theorem Addressed.loopStep {action : LoopAction} (h : s.Addressed peer)
    (hstep : LoopStep prims s action s')
    (hreceive : ∀ message ephemeral, action = .receive message ephemeral →
      message.source.toEndpoint = peer) : s'.Addressed peer := by
  have hset : ∀ {old : LoopPc} {s' : Provider}, s.loop = old → s'.sends = s.sends →
      (∀ endpoint, s'.loop.endpoint = some endpoint → old.endpoint = some endpoint) →
      s'.Addressed peer := by
    rintro old s' rfl hsends hendpoint
    exact ⟨by rw [hsends]; exact h.send, fun endpoint he => h.loop endpoint (hendpoint _ he)⟩
  -- The loop starts to serve the peer whose frame it received.
  have htaken : ∀ {s' : Provider} {endpoint : Endpoint}, s'.sends = s.sends →
      s'.loop.endpoint = some endpoint → endpoint = peer → s'.Addressed peer := by
    rintro s' endpoint hsends hendpoint rfl
    refine ⟨by rw [hsends]; exact h.send, ?_⟩
    intro endpoint' he
    rw [hendpoint] at he
    cases he
    rfl
  cases hstep with
  | ignored hpc => exact h
  | respond hpc | toLock hpc | toRemove hpc => exact htaken rfl rfl (hreceive _ _ rfl)
  | finishAccepted hpc | lock hpc | decrypted hpc => exact hset hpc rfl fun _ he => he
  | finishRejected hpc | saveResponder hpc | invalidate hpc | undecryptable hpc
  | invalidatedAnswer hpc | saveReceived hpc | remove hpc =>
    exact hset hpc rfl fun _ he => by cases he
  | abort => exact hset rfl rfl fun _ he => by cases he

/-! ## Keys -/

def holds (s : Provider) (peer : Endpoint) : Set Keys :=
  { k | (∃ session, s.sessions.lookup peer = some session ∧ session.keys = k) ∨
    (∃ task endpoint session, (s.sends task).copy = some (endpoint, session) ∧
      session.keys = k) ∨
    ∃ session, s.loop.copy = some session ∧ session.keys = k }

def derived (s : Provider) : Set Keys := { k | ∃ task, (s.sends task).derived = some k }

def waiting (s : Provider) : Set HandshakeInitiator :=
  { i | ∃ task, (s.sends task).initiator = some i }

theorem mem_holds_of_lookup (h : s.sessions.lookup peer = some session) :
    session.keys ∈ s.holds peer :=
  .inl ⟨session, h, rfl⟩

theorem mem_holds_of_copy {s : Provider} {peer endpoint : Endpoint} {task : ℕ}
    {session : PersistentTransportState}
    (h : (s.sends task).copy = some (endpoint, session)) : session.keys ∈ s.holds peer :=
  .inr (.inl ⟨task, endpoint, session, h, rfl⟩)

/-- The messages handed over from `s` to `s'` belong to no handshake. -/
def HandsNoHandshake (s s' : Provider) : Prop :=
  ∃ sent, s'.outbox = s.outbox ++ sent ∧
    ∀ message ∈ sent, message.start? = none ∧ message.finish? = none

/-- A step that comes by no new keys, opens no handshake, answers none, and hands over no
handshake message. -/
structure Calm (peer : Endpoint) (s s' : Provider) : Prop where
  holds : s'.holds peer ⊆ s.holds peer ∪ s.derived
  derived : s'.derived ⊆ s.derived
  waiting : s'.waiting ⊆ s.waiting
  answer : s'.loop.answer = s.loop.answer
  outbox : HandsNoHandshake s s'

theorem HandsNoHandshake.of_eq (h : s'.outbox = s.outbox) : HandsNoHandshake s s' :=
  ⟨[], by simp [h], by simp⟩

theorem Calm.refl (peer : Endpoint) (s : Provider) : Calm peer s s :=
  ⟨Set.subset_union_left, subset_rfl, subset_rfl, rfl, .of_eq rfl⟩

section

variable (hsends : s'.sends = (s.setSend task pc).sends)

include hsends

theorem mem_of_setSend {α : Type} {f : SendPc → Option α} {a : α}
    (h : ∃ other, f (s'.sends other) = some a) :
    f pc = some a ∨ ∃ other, f (s.sends other) = some a := by
  rw [hsends] at h
  have hcases := (exists_update_iff s.sends fun _ place => f place = some a).mp h
  exact hcases.imp_right fun ⟨other, _, hother⟩ => ⟨other, hother⟩

/-- The call `task` moves. What it then has in its hands, and what is then stored, are
keys that were held before. -/
theorem calm_of_setSend (hloop : s'.loop = s.loop)
    (hstored : ∀ session, s'.sessions.lookup peer = some session →
      session.keys ∈ s.holds peer ∪ s.derived)
    (hcopy : ∀ endpoint session, pc.copy = some (endpoint, session) → session.keys ∈ s.holds peer)
    (hderived : pc.derived = none)
    (hinitiator : ∀ i, pc.initiator = some i → (s.sends task).initiator = some i)
    (houtbox : HandsNoHandshake s s') : Calm peer s s' := by
  refine ⟨?_, ?_, ?_, by rw [hloop], houtbox⟩
  · rintro k (⟨session, hlookup, rfl⟩ | ⟨other, endpoint, session, hplace, rfl⟩ |
      ⟨session, hplace, rfl⟩)
    · exact hstored session hlookup
    · rcases mem_of_setSend hsends ⟨other, hplace⟩ with hplace | ⟨other, hplace⟩
      · exact .inl (hcopy endpoint session hplace)
      · exact .inl (mem_holds_of_copy hplace)
    · rw [hloop] at hplace
      exact .inl (.inr (.inr ⟨session, hplace, rfl⟩))
  · intro k hk
    rcases mem_of_setSend hsends hk with hplace | hk
    · rw [hderived] at hplace
      cases hplace
    · exact hk
  · intro i hi
    rcases mem_of_setSend hsends hi with hplace | hi
    · exact ⟨task, hinitiator i hplace⟩
    · exact hi

theorem calm_of_bare (hcopy : pc.copy = none) (hderived : pc.derived = none)
    (hinitiator : pc.initiator = none) (hloop : s'.loop = s.loop) (houtbox : s'.outbox = s.outbox)
    (hstored : ∀ session, s'.sessions.lookup peer = some session →
      session.keys ∈ s.holds peer ∪ s.derived) : Calm peer s s' := by
  refine calm_of_setSend hsends hloop hstored ?_ hderived ?_ (.of_eq houtbox)
  · intro endpoint session hpc
    rw [hcopy] at hpc
    cases hpc
  · intro i hpc
    rw [hinitiator] at hpc
    cases hpc

end

theorem calm_of_ended (hpc : pc.ended = true) : Calm peer s (s.endSend task pc) := by
  obtain ⟨hcopy, hderived, hinitiator⟩ := SendPc.bare_of_ended hpc
  exact calm_of_bare rfl hcopy hderived hinitiator rfl rfl fun session hlookup =>
    .inl (mem_holds_of_lookup hlookup)

theorem calm_sendStep (h : s.Addressed peer) (hstep : SendStep prims s task action s')
    (hopen : action ≠ .handStart) (hincoming : ∀ incoming now, action ≠ .incoming incoming now) :
    Calm peer s s' := by
  have hsame : ∀ session, s.sessions.lookup peer = some session →
      session.keys ∈ s.holds peer ∪ s.derived :=
    fun session hlookup => .inl (mem_holds_of_lookup hlookup)
  -- The call keeps its copy, up to the nonces.
  have hkept : ∀ {old new : SendPc} {s' : Provider} {endpoint : Endpoint}
      {session session' : PersistentTransportState}, s.sends task = old →
      s'.sends = (s.setSend task new).sends → old.copy = some (endpoint, session) →
      new.copy = some (endpoint, session') → session'.keys = session.keys →
      new.derived = none → new.initiator = none → s'.loop = s.loop →
      s'.sessions = s.sessions →
      HandsNoHandshake s s' →
      Calm peer s s' := by
    intro old new s' endpoint session session' hpc hsends hold hnew hkeys hderived hinitiator
      hloop hsessions houtbox
    refine calm_of_setSend hsends hloop (by rw [hsessions]; exact hsame) ?_ hderived ?_ houtbox
    · intro endpoint' session'' hcopy
      rw [hnew] at hcopy
      cases hcopy
      rw [hkeys]
      exact mem_holds_of_copy (hpc ▸ hold)
    · intro i hi
      rw [hinitiator] at hi
      cases hi
  cases hstep with
  | call hpc | lock hpc | subscribe hpc | frameRejected hpc =>
    exact calm_of_bare rfl rfl rfl rfl rfl rfl hsame
  | get hpc hnew =>
    rcases hnew with rfl | rfl | rfl <;> exact calm_of_bare rfl rfl rfl rfl rfl rfl hsame
  | remove hpc | clear hpc =>
    exact calm_of_bare rfl rfl rfl rfl rfl rfl fun session hlookup =>
      hsame session (Store.lookup_of_erase hlookup)
  | handStart hpc => exact absurd rfl hopen
  | startAccepted hpc =>
    refine calm_of_setSend rfl rfl hsame (fun _ _ hcopy => by cases hcopy) rfl ?_ (.of_eq rfl)
    intro i hi
    rw [hpc]
    exact hi
  | ignored hpc => exact .refl peer s
  | finishRead hpc => exact absurd rfl (hincoming _ _)
  | saveHandshake hpc =>
    refine calm_of_bare rfl rfl rfl rfl rfl rfl ?_
    intro session hlookup
    rcases Store.lookup_of_insert hlookup with rfl | hlookup
    · exact .inr ⟨task, by rw [hpc]; rfl⟩
    · exact hsame session hlookup
  | getAgain hpc hlookup =>
    refine calm_of_setSend rfl rfl hsame ?_ rfl (fun _ hi => by cases hi) (.of_eq rfl)
    intro endpoint session hcopy
    cases hcopy
    rw [h.send task _ (by rw [hpc]; rfl)] at hlookup
    exact mem_holds_of_lookup hlookup
  | handFrame hpc hsend =>
    exact hkept hpc rfl rfl rfl (PersistentTransportState.keys_send hsend) rfl rfl rfl rfl
      ⟨_, rfl, by simp [start?, finish?]⟩
  | overflow hpc => exact calm_of_ended rfl
  | frameKept hpc => exact hkept hpc rfl rfl rfl rfl rfl rfl rfl rfl (.of_eq rfl)
  | save hpc =>
    refine calm_of_bare rfl rfl rfl rfl rfl rfl ?_
    intro session hlookup
    rcases Store.lookup_of_insert hlookup with rfl | hlookup
    · exact .inl (mem_holds_of_copy (by rw [hpc]; rfl))
    · exact hsame session hlookup
  | failed hfails => exact calm_of_ended hfails.bare.2.2

theorem calm_of_setLoop (hsends : s'.sends = s.sends)
    (hstored : ∀ session, s'.sessions.lookup peer = some session → session.keys ∈ s.holds peer)
    (hcopy : ∀ session, s'.loop.copy = some session → session.keys ∈ s.holds peer)
    (hanswer : s'.loop.answer = s.loop.answer) (houtbox : HandsNoHandshake s s') :
    Calm peer s s' := by
  refine ⟨?_, ?_, ?_, hanswer, houtbox⟩
  · rintro k (⟨session, hlookup, rfl⟩ | ⟨task, endpoint, session, hpc, rfl⟩ |
      ⟨session, hpc, rfl⟩)
    · exact .inl (hstored session hlookup)
    · rw [hsends] at hpc
      exact .inl (mem_holds_of_copy hpc)
    · exact .inl (hcopy session hpc)
  · rintro k ⟨task, hpc⟩
    rw [hsends] at hpc
    exact ⟨task, hpc⟩
  · rintro i ⟨task, hpc⟩
    rw [hsends] at hpc
    exact ⟨task, hpc⟩

/-- The steps of the receive loop, but for answering a handshake and saving its session,
or giving it up. -/
theorem calm_loopStep {action : LoopAction} (h : s.Addressed peer)
    (hstep : LoopStep prims s action s')
    (hstart : ∀ message ephemeral start, action = .receive message ephemeral →
      message.frame ≠ some (.handshakeStart start))
    (hfinish : ∀ kind now, action ≠ .finishAnswer (some kind) now) (hsave : action ≠ .saveResponder)
    (habort : action ≠ .abort) : Calm peer s s' := by
  have hsame : ∀ session, s.sessions.lookup peer = some session → session.keys ∈ s.holds peer :=
    fun session hlookup => mem_holds_of_lookup hlookup
  -- The loop moves to a place in which it has no copy.
  have hbare : ∀ {old : LoopPc} {s' : Provider}, s.loop = old → s'.sends = s.sends →
      s'.loop.copy = none → s'.loop.answer = old.answer →
      HandsNoHandshake s s' →
      (∀ session, s'.sessions.lookup peer = some session → session.keys ∈ s.holds peer) →
      Calm peer s s' := by
    rintro old s' rfl hsends hcopy hanswer houtbox hstored
    refine calm_of_setLoop hsends hstored ?_ hanswer houtbox
    intro session hpc
    rw [hcopy] at hpc
    cases hpc
  cases hstep with
  | ignored hpc => exact .refl peer s
  | respond hpc hframe => exact absurd hframe (hstart _ _ _ rfl)
  | toLock hpc | toRemove hpc | finishAccepted hpc | lock hpc | undecryptable hpc
  | invalidatedAnswer hpc => exact hbare hpc rfl rfl rfl (.of_eq rfl) hsame
  | finishRejected hpc => exact absurd rfl (hfinish _ _)
  | saveResponder hpc => exact absurd rfl hsave
  | invalidate hpc =>
    exact hbare hpc rfl rfl rfl
      ⟨_, rfl, by simp [start?, finish?]⟩ hsame
  | @decrypted message _ _ _ _ hpc hlookup hreceive =>
    refine calm_of_setLoop rfl hsame ?_ (by rw [hpc]; rfl) (.of_eq rfl)
    intro session hcopy
    cases hcopy
    rw [PersistentTransportState.keys_receive hreceive]
    rw [h.loop message.source.toEndpoint (by rw [hpc]; rfl)] at hlookup
    exact mem_holds_of_lookup hlookup
  | @saveReceived message session payload hpc =>
    refine hbare hpc rfl rfl rfl (.of_eq rfl) ?_
    intro session' hlookup
    rcases Store.lookup_of_insert hlookup with rfl | hlookup
    · exact .inr (.inr ⟨session', by rw [hpc]; rfl, rfl⟩)
    · exact hsame session' hlookup
  | remove hpc =>
    exact hbare hpc rfl rfl rfl (.of_eq rfl) fun session hlookup =>
      hsame session (Store.lookup_of_erase hlookup)
  | abort => exact absurd rfl habort

/-! ## Handshakes -/

theorem finishRead_keys (peer : Endpoint) (s : Provider) (task : ℕ)
    (message : OutgoingMessage) (session : PersistentTransportState) :
    (s.setSend task (.savingHandshake message session)).holds peer ⊆ s.holds peer ∧
    (s.setSend task (.savingHandshake message session)).derived ⊆ insert session.keys s.derived ∧
    (s.setSend task (.savingHandshake message session)).waiting ⊆ s.waiting := by
  refine ⟨?_, ?_, ?_⟩
  · rintro k (hstored | ⟨other, endpoint, session', hplace, rfl⟩ | hloop)
    · exact .inl hstored
    · rcases mem_of_setSend rfl ⟨other, hplace⟩ with hplace | ⟨other, hplace⟩
      · cases hplace
      · exact mem_holds_of_copy hplace
    · exact .inr (.inr hloop)
  · intro k hk
    rcases mem_of_setSend rfl hk with hplace | hk
    · exact .inl (Option.some.inj hplace).symm
    · exact .inr hk
  · intro i hi
    rcases mem_of_setSend rfl hi with hplace | hi
    · cases hplace
    · exact hi

/-- The receive loop saves the session of the peer's handshake. If no call has a copy of
the session it replaces, no other keys are left. -/
theorem saveResponder_holds {endpoint : Endpoint} (h : s.Addressed peer)
    (hpc : s.loop = .savingResponder endpoint session)
    (hcopied : ∀ task copy, (s.sends task).copy ≠ some (peer, copy)) :
    (({ s with loop := .receiving } : Provider).establish endpoint session).holds peer ⊆
      {session.keys} := by
  obtain rfl : endpoint = peer := h.loop endpoint (by rw [hpc]; rfl)
  rintro k (⟨session', hlookup, rfl⟩ | ⟨task, place, copy, hcopy, rfl⟩ |
    ⟨session', hloop, rfl⟩)
  · change (s.sessions.insert endpoint session).lookup endpoint = some session' at hlookup
    rw [AList.lookup_insert, Option.some.injEq] at hlookup
    rw [hlookup]
    rfl
  · change (s.sends task).copy = some (place, copy) at hcopy
    have hplace : place = endpoint := by
      cases hsend : s.sends task <;> rw [hsend] at hcopy <;> cases hcopy <;>
        exact h.send task _ (by rw [hsend]; rfl)
    rw [hplace] at hcopy
    exact absurd hcopy (hcopied task copy)
  · cases hloop

/-- A call that holds the guard and has no copy in its hands opens a handshake. If nothing
is stored, the provider then holds no keys. -/
theorem handStart_holds {message : OutgoingMessage} {initiator : HandshakeInitiator}
    (h : s.Disciplined) (hpc : s.sends task = .sendingStart message initiator)
    (hstored : s.sessions.lookup peer = none) :
    ((s.setSend task (.startHanded message initiator)).transmit message.destination none
      (.handshakeStart (initiator.writeStartMessage prims.snow))).holds peer = ∅ := by
  have hguard := h.send task (by rw [hpc]; rfl)
  rw [Set.eq_empty_iff_forall_notMem]
  rintro k (⟨session, hlookup, -⟩ | ⟨other, endpoint, session, hcopy, -⟩ |
    ⟨session, hloop, -⟩)
  · change s.sessions.lookup peer = some session at hlookup
    rw [hstored] at hlookup
    cases hlookup
  · change (update s.sends task (.startHanded message initiator) other).copy =
      some (endpoint, session) at hcopy
    by_cases hother : other = task
    · rw [hother, update_self] at hcopy
      cases hcopy
    · rw [update_of_ne hother] at hcopy
      have hlocked : (s.sends other).locked = true := by
        cases hsend : s.sends other <;> rw [hsend] at hcopy <;> first | rfl | cases hcopy
      cases hguard.symm.trans (h.send other hlocked)
      exact hother rfl
  · change s.loop.copy = some session at hloop
    have hlocked : s.loop.locked = true := by
      cases hsend : s.loop <;> rw [hsend] at hloop <;> first | rfl | cases hloop
    cases hguard.symm.trans (h.loop hlocked)

end Provider

end SdkInternal.Ipc.Noise
