import SdkInternal.Model.Ipc.Noise.Provider
import SdkInternal.Shared.Checkout

/-! # What one step of the provider can do

The transitions of the step functions, each with the conditions under which it is taken,
and the discipline of the guard: whoever is past its acquisition holds it. -/

namespace SdkInternal.Ipc.Noise

open Shared

/-! ## Places -/

def SendPc.locked : SendPc → Bool
  | .idle | .locking _ | .returned _ | .panicked => false
  | _ => true

def SendPc.ended : SendPc → Bool
  | .returned _ | .panicked => true
  | _ => false

variable {pc : SendPc}

theorem SendPc.locked_of_ended (h : pc.ended = true) : pc.locked = false := by
  cases pc <;> first | rfl | cases h

def SendPc.copy : SendPc → Option (Endpoint × PersistentTransportState)
  | .encrypting message session | .frameHanded message session | .saving message session =>
    some (message.destination, session)
  | _ => none

/-- The answer, or what is heard, makes the handshake of a call with `destination` fail. -/
def SendAction.FailsHandshake (snow : Snow) (destination : Endpoint)
    (initiator : HandshakeInitiator) : SendAction → Prop
  | .startAnswer answer => answer.isSome = true
  | .receiveError _ | .timeout => True
  | .incoming heard _ => heard.source.toEndpoint = destination ∧
      (heard.frame = none ∨ ∃ finish, heard.frame = some (.handshakeFinish finish) ∧
        initiator.readResponseMessage snow finish = none)
  | _ => False

def sessionHolding (endpoint : Endpoint) (session : PersistentTransportState)
    (drawn doomed : Bool) : Holding Endpoint SymmetricKey :=
  ⟨endpoint, session.sendKey, session.sendNonce.toNat, drawn, doomed⟩

def SendPc.holding : SendPc → Option (Holding Endpoint SymmetricKey)
  | .encrypting message session => some (sessionHolding message.destination session false false)
  | .frameHanded message session | .saving message session =>
    some (sessionHolding message.destination session true false)
  | .clearing message session _ => some (sessionHolding message.destination session true true)
  | _ => none

/-- A call that has no copy in its hands fails, or panics for want of a session. -/
inductive SendPc.Fails (snow : Snow) : SendPc → SendAction → SendPc → Prop where
  | start {message initiator kind error} :
      Fails snow (.startHanded message initiator) (.startAnswer (some kind))
        (.returned (.error error))
  | finish {message initiator action error}
      (h : action.FailsHandshake snow message.destination initiator) :
      Fails snow (.awaitingFinish message initiator) action (.returned (.error error))
  | session {message} : Fails snow (.gettingAgain message) .getAgain .panicked

theorem SendPc.Fails.bare {snow : Snow} {action : SendAction} {new : SendPc}
    (h : pc.Fails snow action new) :
    pc.locked = true ∧ pc.holding = none ∧ new.ended = true := by
  cases h <;> exact ⟨rfl, rfl, rfl⟩

def LoopPc.locked : LoopPc → Bool
  | .getting _ _ | .invalidatedHanded | .savingReceived _ _ _ => true
  | _ => false

def LoopPc.holding : LoopPc → Option (Holding Endpoint SymmetricKey)
  | .savingReceived message session _ =>
    some (sessionHolding message.source.toEndpoint session false false)
  | _ => none

namespace Provider

/-! ## Transitions of a call -/

inductive SendStep (prims : Primitives) (s : Provider) (task : ℕ) :
    SendAction → Provider → Prop where
  | call {message} (hpc : s.sends task = .idle) :
      SendStep prims s task (.call message) (s.setSend task (.locking message))
  | lock {message} (hpc : s.sends task = .locking message) (hguard : s.guard = none) :
      SendStep prims s task .lock
        { s.setSend task (.getting message) with guard := some (.send task) }
  | get {message now new} (hpc : s.sends task = .getting message)
      (hnew : new = .subscribing message ∨ new = .removing message ∨
        new = .gettingAgain message) :
      SendStep prims s task (.get now) (s.setSend task new)
  | remove {message} (hpc : s.sends task = .removing message) :
      SendStep prims s task .remove
        ((s.setSend task (.subscribing message)).removeSession message.destination)
  | subscribe {message ephemeral} (hpc : s.sends task = .subscribing message) :
      SendStep prims s task (.subscribe ephemeral)
        (s.setSend task (.sendingStart message ⟨default, ephemeral⟩))
  | handStart {message initiator} (hpc : s.sends task = .sendingStart message initiator) :
      SendStep prims s task .handStart
        ((s.setSend task (.startHanded message initiator)).transmit message.destination none
          (.handshakeStart (initiator.writeStartMessage prims.snow)))
  | startAccepted {message initiator} (hpc : s.sends task = .startHanded message initiator) :
      SendStep prims s task (.startAnswer none) (s.setSend task (.awaitingFinish message initiator))
  | ignored {message initiator incoming now}
      (hpc : s.sends task = .awaitingFinish message initiator)
      (hgood : ¬SendAction.FailsHandshake prims.snow message.destination initiator
        (.incoming incoming now)) :
      SendStep prims s task (.incoming incoming now) s
  | finishRead {message initiator incoming now finish split}
      (hpc : s.sends task = .awaitingFinish message initiator)
      (hsource : incoming.source.toEndpoint = message.destination)
      (hframe : incoming.frame = some (.handshakeFinish finish))
      (hread : initiator.readResponseMessage prims.snow finish = some split) :
      SendStep prims s task (.incoming incoming now)
        (s.setSend task (.savingHandshake message (initiator.transportState split now)))
  | saveHandshake {message session} (hpc : s.sends task = .savingHandshake message session) :
      SendStep prims s task .saveHandshake
        ((s.setSend task (.gettingAgain message)).establish message.destination session)
  | getAgain {message session} (hpc : s.sends task = .gettingAgain message)
      (hlookup : s.sessions.lookup message.destination = some session) :
      SendStep prims s task .getAgain (s.setSend task (.encrypting message session))
  | handFrame {message session frame session'}
      (hpc : s.sends task = .encrypting message session)
      (hsend : session.send prims.aead message.payload = some (frame, session')) :
      SendStep prims s task .handFrame
        { (s.setSend task (.frameHanded message session')).transmit message.destination
            message.topic (.transportFrame frame) with
          encrypted := s.encrypted ++
            [⟨session.transportCipher, session.sendKey, frame.nonce, message.payload⟩] }
  | overflow {message session} (hpc : s.sends task = .encrypting message session) :
      SendStep prims s task .handFrame (s.endSend task .panicked)
  | frameKept {message session answer} (hpc : s.sends task = .frameHanded message session)
      (hanswer : answer = none ∨ answer = some .other) :
      SendStep prims s task (.frameAnswer answer) (s.setSend task (.saving message session))
  | frameRejected {message session kind} (hpc : s.sends task = .frameHanded message session)
      (hkind : kind ≠ .other) :
      SendStep prims s task (.frameAnswer (some kind))
        (s.setSend task (.clearing message session (transportSendError kind)))
  | save {message session} (hpc : s.sends task = .saving message session) :
      SendStep prims s task .save
        ((s.endSend task (.returned (.ok ()))).saveSession message.destination session)
  | clear {message session error} (hpc : s.sends task = .clearing message session error) :
      SendStep prims s task .clear
        ((s.endSend task (.returned (.error error))).removeSession message.destination)
  | failed {action new} (hfails : (s.sends task).Fails prims.snow action new) :
      SendStep prims s task action (s.endSend task new)

variable {prims : Primitives} {s s' : Provider} {task : ℕ}

theorem stepSend_cases {action : SendAction} (h : s.stepSend prims task action = some s') :
    SendStep prims s task action s' := by
  have hfailed : ∀ {pc new}, s.sends task = pc → pc.Fails prims.snow action new →
      s.endSend task new = s' → SendStep prims s task action s' := by
    rintro pc new rfl hfails rfl
    exact .failed hfails
  cases action
  all_goals
    simp only [stepSend] at h
    split at h
  -- Elsewhere the action is not possible.
  all_goals try cases h
  next hpc => exact .call hpc
  next hpc hguard => exact .lock hpc hguard
  next hpc =>
    repeat' split at h
    all_goals cases h
    · exact .get hpc (.inl rfl)
    · exact .get hpc (.inr (.inl rfl))
    · exact .get hpc (.inr (.inr rfl))
  next hpc => exact .remove hpc
  next hpc => exact .subscribe hpc
  next hpc => exact .handStart hpc
  next answer _ _ _ hpc =>
    cases answer <;> cases h
    · exact .startAccepted hpc
    · exact hfailed hpc .start rfl
  next hpc =>
    repeat' split at h
    all_goals cases h
    next hsource => exact .ignored hpc fun hfails => hsource hfails.1
    next hsource _ hframe => exact hfailed hpc (.finish ⟨not_not.mp hsource, .inl hframe⟩) rfl
    next hsource _ finish hframe _ hread =>
      exact hfailed hpc (.finish ⟨not_not.mp hsource, .inr ⟨finish, hframe, hread⟩⟩) rfl
    next hsource _ _ hframe _ _ hread =>
      exact .finishRead hpc (not_not.mp hsource) hframe hread
    next hother hframe =>
      refine .ignored hpc ?_
      rintro ⟨-, hnone | ⟨finish, hfinish, -⟩⟩
      · simp [hframe] at hnone
      · exact hother finish (Option.some.inj (hframe.symm.trans hfinish))
  next hpc => exact hfailed hpc (.finish trivial) rfl
  next hpc => exact hfailed hpc (.finish trivial) rfl
  next hpc => exact .saveHandshake hpc
  next hpc =>
    split at h <;> cases h
    next => exact hfailed hpc .session rfl
    next hlookup => exact .getAgain hpc hlookup
  next hpc =>
    split at h <;> cases h
    next => exact .overflow hpc
    next hsend => exact .handFrame hpc hsend
  next answer _ _ _ hpc =>
    cases answer with
    | none =>
      cases h
      exact .frameKept hpc (.inl rfl)
    | some kind =>
      cases kind <;> cases h
      · exact .frameRejected hpc (by simp)
      · exact .frameRejected hpc (by simp)
      · exact .frameKept hpc (.inr rfl)
  next hpc => exact .save hpc
  next hpc => exact .clear hpc

/-! ## Transitions of the receive loop -/

inductive LoopStep (prims : Primitives) (s : Provider) : LoopAction → Provider → Prop where
  | ignored {action} (hpc : s.loop = .receiving) : LoopStep prims s action s
  | respond {message ephemeral start response responder} (hpc : s.loop = .receiving)
      (hframe : message.frame = some (.handshakeStart start))
      (hrespond : HandshakeResponder.respond prims.snow start ephemeral =
        some (response, responder)) :
      LoopStep prims s (.receive message ephemeral)
        (({ s with loop := .finishHanded message.source.toEndpoint responder } :
          Provider).transmit message.source.toEndpoint none (.handshakeFinish response))
  | toLock {message ephemeral frame} (hpc : s.loop = .receiving)
      (hframe : message.frame = some (.transportFrame frame)) :
      LoopStep prims s (.receive message ephemeral) { s with loop := .locking message frame }
  | toRemove {message ephemeral} (hpc : s.loop = .receiving)
      (hframe : message.frame = some .cryptoInvalidated) :
      LoopStep prims s (.receive message ephemeral)
        { s with loop := .removing message.source.toEndpoint }
  | finishAccepted {endpoint responder now}
      (hpc : s.loop = .finishHanded endpoint responder) :
      LoopStep prims s (.finishAnswer none now)
        { s with loop := .savingResponder endpoint (responder.transportState now) }
  | finishRejected {endpoint responder kind now}
      (hpc : s.loop = .finishHanded endpoint responder) :
      LoopStep prims s (.finishAnswer (some kind) now) { s with loop := .receiving }
  | saveResponder {endpoint session} (hpc : s.loop = .savingResponder endpoint session) :
      LoopStep prims s .saveResponder
        (({ s with loop := .receiving } : Provider).establish endpoint session)
  | lock {message frame} (hpc : s.loop = .locking message frame) (hguard : s.guard = none) :
      LoopStep prims s .lock { s with loop := .getting message frame, guard := some .loop }
  | invalidate {message frame} (hpc : s.loop = .getting message frame)
      (hlookup : s.sessions.lookup message.source.toEndpoint = none) :
      LoopStep prims s .get
        (({ s with loop := .invalidatedHanded } : Provider).transmit message.source.toEndpoint
          none .cryptoInvalidated)
  | undecryptable {message frame} (hpc : s.loop = .getting message frame) :
      LoopStep prims s .get { s with loop := .receiving, guard := none }
  | decrypted {message frame session payload session'}
      (hpc : s.loop = .getting message frame)
      (hlookup : s.sessions.lookup message.source.toEndpoint = some session)
      (hreceive : session.receive prims.aead frame = (.ok payload, session')) :
      LoopStep prims s .get { s with loop := .savingReceived message session' payload }
  | invalidatedAnswer {answer} (hpc : s.loop = .invalidatedHanded) :
      LoopStep prims s (.invalidatedAnswer answer) { s with loop := .receiving, guard := none }
  | saveReceived {message session payload}
      (hpc : s.loop = .savingReceived message session payload) :
      LoopStep prims s .saveReceived
        (({ s with
          loop := .receiving
          guard := none
          received := s.received ++
            [{ payload, destination := message.destination, source := message.source
               topic := message.topic }] } : Provider).saveSession
            message.source.toEndpoint session)
  | remove {endpoint} (hpc : s.loop = .removing endpoint) :
      LoopStep prims s .remove (({ s with loop := .receiving } : Provider).removeSession endpoint)
  | abort :
      LoopStep prims s .abort
        { s with
          loop := .receiving
          guard := if s.guard = some .loop then none else s.guard }

theorem stepLoop_cases {action : LoopAction} (h : s.stepLoop prims action = some s') :
    LoopStep prims s action s' := by
  cases action
  case abort =>
    cases h
    exact .abort
  all_goals
    simp only [stepLoop] at h
    split at h
  all_goals try cases h
  next hpc =>
    repeat' split at h
    all_goals cases h
    next => exact .ignored hpc
    next => exact .ignored hpc
    next hframe _ _ _ hrespond => exact .respond hpc hframe hrespond
    next hframe => exact .toLock hpc hframe
    next hframe => exact .toRemove hpc hframe
    next => exact .ignored hpc
  next hpc => exact .ignored hpc
  next answer _ _ _ _ hpc =>
    cases answer <;> cases h
    · exact .finishAccepted hpc
    · exact .finishRejected hpc
  next hpc => exact .saveResponder hpc
  next hpc hguard => exact .lock hpc hguard
  next hpc =>
    repeat' split at h
    all_goals cases h
    next hlookup => exact .invalidate hpc hlookup
    next => exact .undecryptable hpc
    next hlookup _ _ _ hreceive => exact .decrypted hpc hlookup hreceive
  next hpc => exact .invalidatedAnswer hpc
  next hpc => exact .saveReceived hpc
  next hpc => exact .remove hpc

/-! ## The guard -/

/-- Whoever is past the acquisition of the guard holds it. -/
structure Disciplined (s : Provider) : Prop where
  send : ∀ task, (s.sends task).locked = true → s.guard = some (.send task)
  loop : s.loop.locked = true → s.guard = some .loop

theorem disciplined_start (sessions : Store Endpoint PersistentTransportState) :
    Disciplined (start sessions) :=
  ⟨fun _ h => (by cases h), fun h => (by cases h)⟩

section

variable (h : s.Disciplined)

include h

/-- A call that does not leave or enter the guarded part keeps the discipline. -/
theorem Disciplined.setSend (hpc : pc.locked = (s.sends task).locked)
    (hsends : s'.sends = (s.setSend task pc).sends) (hloop : s'.loop = s.loop)
    (hguard : s'.guard = s.guard) : s'.Disciplined := by
  refine ⟨?_, ?_⟩
  · rw [hsends, hguard]
    refine (Function.forall_update_iff s.sends fun other place =>
      place.locked = true → s.guard = some (.send other)).mpr ⟨?_, fun other _ => h.send other⟩
    intro hlocked
    rw [hpc] at hlocked
    exact h.send task hlocked
  · rw [hloop, hguard]
    exact h.loop

theorem Disciplined.endSend (hlocked : (s.sends task).locked = true) (hpc : pc.locked = false)
    (hsends : s'.sends = (s.setSend task pc).sends) (hloop : s'.loop = s.loop) :
    s'.Disciplined := by
  have hguard := h.send task hlocked
  refine ⟨?_, ?_⟩
  · rw [hsends]
    refine (Function.forall_update_iff s.sends fun other place =>
      place.locked = true → s'.guard = some (.send other)).mpr ⟨?_, ?_⟩
    · intro hended
      rw [hpc] at hended
      cases hended
    · intro other htask hother
      cases hguard.symm.trans (h.send other hother)
      exact absurd rfl htask
  · intro hlooping
    rw [hloop] at hlooping
    cases hguard.symm.trans (h.loop hlooping)

theorem Disciplined.setLoop (hpc : s'.loop.locked = true → s.loop.locked = true)
    (hsends : s'.sends = s.sends) (hguard : s'.guard = s.guard) : s'.Disciplined := by
  refine ⟨?_, ?_⟩
  · rw [hsends, hguard]
    exact h.send
  · rw [hguard]
    exact fun hlocked => h.loop (hpc hlocked)

theorem Disciplined.endLoop (hlocked : s.loop.locked = true) (hpc : s'.loop.locked = false)
    (hsends : s'.sends = s.sends) : s'.Disciplined := by
  have hguard := h.loop hlocked
  refine ⟨?_, ?_⟩
  · intro task htask
    rw [hsends] at htask
    cases hguard.symm.trans (h.send task htask)
  · intro hlooping
    rw [hpc] at hlooping
    cases hlooping

theorem Disciplined.sendStep {action : SendAction} (hstep : SendStep prims s task action s') :
    s'.Disciplined := by
  cases hstep with
  | call hpc => exact h.setSend (by rw [hpc]; rfl) rfl rfl rfl
  | lock hpc hguard =>
    refine ⟨?_, ?_⟩
    · refine (Function.forall_update_iff s.sends fun other place =>
        place.locked = true → some (Owner.send task) = some (.send other)).mpr
        ⟨fun _ => rfl, ?_⟩
      intro other _ hlocked
      cases hguard.symm.trans (h.send other hlocked)
    · intro hlocked
      cases hguard.symm.trans (h.loop hlocked)
  | get hpc hnew =>
    apply h.setSend _ rfl rfl rfl
    rcases hnew with rfl | rfl | rfl <;> rw [hpc] <;> rfl
  | ignored hpc => exact h
  | remove hpc | subscribe hpc | handStart hpc | startAccepted hpc | finishRead hpc
  | saveHandshake hpc | getAgain hpc | handFrame hpc | frameKept hpc | frameRejected hpc =>
    exact h.setSend (by rw [hpc]; rfl) rfl rfl rfl
  | overflow hpc | save hpc | clear hpc => exact h.endSend (by rw [hpc]; rfl) rfl rfl rfl
  | failed hfails =>
    exact h.endSend hfails.bare.1 (SendPc.locked_of_ended hfails.bare.2.2) rfl rfl

theorem Disciplined.loopStep {action : LoopAction} (hstep : LoopStep prims s action s') :
    s'.Disciplined := by
  cases hstep with
  | ignored hpc => exact h
  | respond hpc | toLock hpc | toRemove hpc | finishAccepted hpc | finishRejected hpc
  | saveResponder hpc | remove hpc => exact h.setLoop (fun hlocked => by cases hlocked) rfl rfl
  | lock hpc hguard =>
    refine ⟨?_, fun _ => rfl⟩
    intro task hlocked
    cases hguard.symm.trans (h.send task hlocked)
  | invalidate hpc | decrypted hpc => exact h.setLoop (fun _ => by rw [hpc]; rfl) rfl rfl
  | undecryptable hpc | invalidatedAnswer hpc | saveReceived hpc =>
    exact h.endLoop (by rw [hpc]; rfl) rfl rfl
  | abort =>
    refine ⟨?_, fun hlocked => by cases hlocked⟩
    intro task hlocked
    have hholder := h.send task hlocked
    simp [hholder]

theorem Disciplined.step {action : Action} (hstep : s.step prims action = some s') :
    s'.Disciplined := by
  cases action with
  | send task action => exact h.sendStep (stepSend_cases hstep)
  | loop action => exact h.loopStep (stepLoop_cases hstep)

end

end Provider

end SdkInternal.Ipc.Noise
