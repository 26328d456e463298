import SdkInternal.Verification.Noise.Replay
import SdkInternal.Verification.Noise.Steps

/-! # The repository as a store of counters

The holder of the guard checks the session of one endpoint out of the repository, counts
its send nonce up and writes it back, while the receive loop saves and removes sessions
without the guard. This is the machine of `SdkInternal.Shared.Checkout`, whose rules give
the two results of this module. -/

namespace SdkInternal.Ipc.Noise

open Shared Function PersistentTransportState Checkout Provider Prod OutgoingFrame

variable {action : Action}

namespace Provider

/-! ## Abstraction -/

/-- What the holder of the guard has checked out. -/
def holding (s : Provider) : Option (Holding Endpoint SymmetricKey) :=
  match s.guard with
  | none => none
  | some (.send task) => (s.sends task).holding
  | some .loop => s.loop.holding

def checkout (s : Provider) : Checkout Endpoint SymmetricKey where
  stored endpoint := (s.sessions.lookup endpoint).map fun session =>
    (session.sendKey, session.sendNonce.toNat)
  held := s.holding
  issued := s.established
  used := s.encrypted.map fun u => (u.sendKey, u.nonce.toNat)

variable (sessions : Store Endpoint PersistentTransportState) (endpoint : Endpoint)

theorem stored_insert (session : PersistentTransportState) :
    (fun e => ((sessions.insert endpoint session).lookup e).map fun session =>
      (session.sendKey, session.sendNonce.toNat)) =
    update (fun e => (sessions.lookup e).map fun session =>
      (session.sendKey, session.sendNonce.toNat)) endpoint
      (some (session.sendKey, session.sendNonce.toNat)) := by
  funext e
  by_cases he : e = endpoint
  · subst he
    rw [AList.lookup_insert, update_self]
    rfl
  · rw [AList.lookup_insert_ne he, update_of_ne he]

theorem stored_erase :
    (fun e => ((sessions.erase endpoint).lookup e).map fun session =>
      (session.sendKey, session.sendNonce.toNat)) =
    update (fun e => (sessions.lookup e).map fun session =>
      (session.sendKey, session.sendNonce.toNat)) endpoint none := by
  funext e
  by_cases he : e = endpoint
  · subst he
    rw [AList.lookup_erase, update_self]
    rfl
  · rw [AList.lookup_erase_ne he, update_of_ne he]

/-! ## What is checked out -/

variable {s s' : Provider} {task : ℕ} {prims : Primitives}

theorem Disciplined.holding_send (h : s.Disciplined) (hlocked : (s.sends task).locked = true) :
    s.holding = (s.sends task).holding := by
  simp [holding, h.send task hlocked]

theorem Disciplined.holding_loop (h : s.Disciplined) (hlocked : s.loop.locked = true) :
    s.holding = s.loop.holding := by
  simp [holding, h.loop hlocked]

theorem holding_of_guard_none (h : s.guard = none) : s.holding = none := by
  simp [holding, h]

theorem Disciplined.holding_setSend (h : s.Disciplined) {pc : SendPc}
    (hlocked : (s.sends task).locked = true) (hguard : s'.guard = s.guard)
    (hsends : s'.sends = (s.setSend task pc).sends) : s'.holding = pc.holding := by
  simp [holding, hguard, h.send task hlocked, hsends, Provider.setSend]

theorem holding_setSend_of_none {pc : SendPc} (hold : (s.sends task).holding = none)
    (hnew : pc.holding = none) :
    (s.setSend task pc).holding = s.holding := by
  simp only [holding, setSend]
  cases s.guard with
  | none => rfl
  | some owner =>
    cases owner with
    | loop => rfl
    | send other =>
      by_cases hother : other = task
      · subst hother
        simp [hold, hnew]
      · simp [update_of_ne hother]

theorem holding_setLoop (hold : s.loop.holding = none) (hnew : s'.loop.holding = none)
    (hguard : s'.guard = s.guard) (hsends : s'.sends = s.sends) : s'.holding = s.holding := by
  unfold holding
  rw [hguard, hsends]
  cases s.guard with
  | none => rfl
  | some owner =>
    cases owner with
    | send task => rfl
    | loop => exact hnew.trans hold.symm

/-! ## Refinement -/

theorem step_of_eq {c c' d : Checkout Endpoint SymmetricKey} (h : Step c d)
    (heq : c' = d) : Step c c' := by
  rw [heq]
  exact h

theorem rest_of_eq (hsessions : s'.sessions = s.sessions) (hholding : s'.holding = s.holding)
    (hestablished : s'.established = s.established) (hencrypted : s'.encrypted = s.encrypted) :
    Step s.checkout s'.checkout := by
  refine step_of_eq (.rest _) ?_
  simp [checkout, hsessions, hholding, hestablished, hencrypted]

theorem checkout_sendStep {action : SendAction} (h : s.Disciplined)
    (hstep : SendStep prims s task action s') :
    Checkout.Step s.checkout s'.checkout := by
  have hheld : ∀ {old : SendPc}, s.sends task = old → old.locked = true →
      s.holding = old.holding := by
    rintro old rfl hlocked
    exact h.holding_send hlocked
  -- The call moves within the guarded part.
  have hmoved : ∀ {old new : SendPc} {s' : Provider}, s.sends task = old →
      s'.sends = (s.setSend task new).sends → old.locked = true → s'.guard = s.guard →
      s'.checkout.held = new.holding := by
    rintro old new s' rfl hsends hlocked hguard
    exact h.holding_setSend hlocked hguard hsends
  have hkept : ∀ {old new : SendPc} {s' : Provider}, s.sends task = old →
      s'.sends = (s.setSend task new).sends → old.locked = true → s'.guard = s.guard →
      new.holding = old.holding → s'.holding = s.holding := by
    intro old new s' hpc hsends hlocked hguard hsame
    rw [hheld hpc hlocked, ← hsame]
    exact hmoved hpc hsends hlocked hguard
  cases hstep with
  | call hpc =>
    refine rest_of_eq rfl (holding_setSend_of_none ?_ rfl) rfl rfl
    rw [hpc]
    rfl
  | lock hpc hguard =>
    refine rest_of_eq rfl ?_ rfl rfl
    rw [holding_of_guard_none hguard]
    simp [holding, setSend, SendPc.holding]
  | get hpc hnew =>
    refine rest_of_eq rfl (hkept hpc rfl rfl rfl ?_) rfl rfl
    rcases hnew with rfl | rfl | rfl <;> rfl
  | remove hpc =>
    exact step_of_eq (.clear _)
      (Checkout.ext (stored_erase _ _) (hkept hpc rfl rfl rfl rfl) rfl rfl)
  | subscribe hpc | handStart hpc | startAccepted hpc | finishRead hpc | frameKept hpc =>
    exact rest_of_eq rfl (hkept hpc rfl rfl rfl rfl) rfl rfl
  | ignored hpc => exact .rest _
  | saveHandshake hpc =>
    exact step_of_eq (.issue _ _ _)
      (Checkout.ext (stored_insert _ _ _) (hkept hpc rfl rfl rfl rfl) rfl rfl)
  | @getAgain message session hpc hlookup =>
    have hstored : s.checkout.stored message.destination =
        some (session.sendKey, session.sendNonce.toNat) := by
      simp [checkout, hlookup]
    exact step_of_eq (.take (hheld hpc rfl) hstored)
      (Checkout.ext rfl (hmoved hpc rfl rfl rfl) rfl rfl)
  | handFrame hpc hsend =>
    obtain ⟨hframe, hcount, hsession⟩ := send_eq_some hsend
    refine step_of_eq (.draw (hheld hpc rfl)) (Checkout.ext rfl ?_ rfl ?_)
    · refine (hmoved hpc rfl rfl rfl).trans ?_
      simp only [SendPc.holding, sessionHolding, hcount]
      rw [hsession]
    · simp [checkout, sessionHolding, hframe, hcount]
  | overflow hpc =>
    exact step_of_eq (.drop (hheld hpc rfl) rfl) (Checkout.ext rfl rfl rfl rfl)
  | frameRejected hpc =>
    exact step_of_eq (.doom (hheld hpc rfl)) (Checkout.ext rfl (hmoved hpc rfl rfl rfl) rfl rfl)
  | save hpc =>
    exact step_of_eq (.put (hheld hpc rfl) rfl) (Checkout.ext (stored_insert _ _ _) rfl rfl rfl)
  | clear hpc =>
    exact step_of_eq (.discard (hheld hpc rfl)) (Checkout.ext (stored_erase _ _) rfl rfl rfl)
  | failed hfails =>
    obtain ⟨hlocked, hholding, -⟩ := hfails.bare
    refine rest_of_eq rfl ?_ rfl rfl
    rw [h.holding_send hlocked, hholding]
    rfl

theorem checkout_saveResponder {endpoint : Endpoint} {session : PersistentTransportState}
    (hpc : s.loop = .savingResponder endpoint session) :
    (({ s with loop := .receiving } : Provider).establish endpoint session).checkout =
      { s.checkout with
        stored := update s.checkout.stored endpoint
          (some (session.sendKey, session.sendNonce.toNat))
        issued := s.checkout.issued ++ [(endpoint, session.sendKey)] } := by
  have hold : s.loop.holding = none := by rw [hpc]; rfl
  exact Checkout.ext (stored_insert _ _ _) (holding_setLoop hold rfl rfl rfl) rfl rfl

theorem checkout_loopRemove {endpoint : Endpoint} (hpc : s.loop = .removing endpoint) :
    (({ s with loop := .receiving } : Provider).removeSession endpoint).checkout =
      { s.checkout with stored := update s.checkout.stored endpoint none } := by
  have hold : s.loop.holding = none := by rw [hpc]; rfl
  exact Checkout.ext (stored_erase _ _) (holding_setLoop hold rfl rfl rfl) rfl rfl

theorem checkout_loopStep {action : LoopAction} (h : s.Disciplined)
    (hstep : LoopStep prims s action s') :
    Checkout.Step s.checkout s'.checkout := by
  -- The loop moves outside of the guarded part.
  have hmoved : ∀ {old : LoopPc} {s' : Provider}, s.loop = old → old.holding = none →
      s'.loop.holding = none → s'.guard = s.guard → s'.sends = s.sends →
      s'.holding = s.holding := by
    rintro old s' rfl hold hnew hguard hsends
    exact holding_setLoop hold hnew hguard hsends
  have hheld : ∀ {old : LoopPc}, s.loop = old → old.locked = true → s.holding = old.holding := by
    rintro old rfl hlocked
    exact h.holding_loop hlocked
  cases hstep with
  | ignored hpc => exact .rest _
  | respond hpc | toLock hpc | toRemove hpc | finishAccepted hpc | finishRejected hpc
  | invalidate hpc => exact rest_of_eq rfl (hmoved hpc rfl rfl rfl rfl) rfl rfl
  | saveResponder hpc => exact step_of_eq (.issue _ _ _) (checkout_saveResponder hpc)
  | lock hpc hguard =>
    refine rest_of_eq rfl ?_ rfl rfl
    rw [holding_of_guard_none hguard]
    rfl
  | undecryptable hpc | invalidatedAnswer hpc => exact rest_of_eq rfl (hheld hpc rfl).symm rfl rfl
  | @decrypted message frame session payload session' hpc hlookup hreceive =>
    have hok : (session.receive prims.aead frame).1 = .ok payload := by rw [hreceive]
    obtain ⟨-, -, hstate⟩ := receive_ok hok
    rw [hreceive] at hstate
    change session' = _ at hstate
    have hstored : s.checkout.stored message.source.toEndpoint =
        some (session.sendKey, session.sendNonce.toNat) := by
      simp [checkout, hlookup]
    refine step_of_eq (.take (hheld hpc rfl) hstored) (Checkout.ext rfl ?_ rfl rfl)
    have hguard := h.loop (by rw [hpc]; rfl)
    simp only [checkout, holding, hguard, LoopPc.holding, sessionHolding]
    rw [hstate]
  | saveReceived hpc =>
    exact step_of_eq (.put (hheld hpc rfl) rfl) (Checkout.ext (stored_insert _ _ _) rfl rfl rfl)
  | remove hpc => exact step_of_eq (.clear _) (checkout_loopRemove hpc)
  | abort =>
    by_cases hguard : s.guard = some .loop
    · have hloop : s.holding = s.loop.holding := by simp [holding, hguard]
      cases hholding : s.loop.holding with
      | none =>
        refine rest_of_eq rfl ?_ rfl rfl
        rw [hloop, hholding]
        simp [holding, hguard]
      | some out =>
        have hdrawn : out.drawn = false := by
          cases hpc : s.loop with
          | savingReceived message session payload =>
            rw [hpc] at hholding
            cases hholding
            rfl
          | _ =>
            rw [hpc] at hholding
            cases hholding
        refine step_of_eq (.drop (hloop.trans hholding) hdrawn) (Checkout.ext rfl ?_ rfl rfl)
        simp [checkout, holding, hguard]
    · refine rest_of_eq rfl ?_ rfl rfl
      simp only [holding, hguard, if_false]
      cases hother : s.guard with
      | none => rfl
      | some owner =>
        cases owner with
        | send task => rfl
        | loop => exact absurd hother hguard

theorem checkout_step (h : s.Disciplined) (hstep : s.step prims action = some s') :
    Step s.checkout s'.checkout := by
  cases action with
  | send task action => exact checkout_sendStep h (stepSend_cases hstep)
  | loop action => exact checkout_loopStep h (stepLoop_cases hstep)

/-! ## Encryptions and frames -/

end Provider

def OutgoingFrame.transportFrame? (message : OutgoingFrame) : Option TransportFrame :=
  match message.frame with
  | .transportFrame frame => some frame
  | _ => none

def Encryption.frame (aead : Aead) (u : Encryption) : TransportFrame :=
  ⟨aead.encrypt u.transportCipher u.sendKey u.nonce u.plaintext, u.nonce⟩

variable {prims : Primitives} {s s' : Provider}

namespace Provider

/-- The transport frames handed to the backend are those of the recorded encryptions. -/
def Recorded (prims : Primitives) (s : Provider) : Prop :=
  s.outbox.filterMap transportFrame? = s.encrypted.map (Encryption.frame prims.aead)

theorem Recorded.transmit (h : s.Recorded prims) {message : OutgoingFrame}
    (hmessage : message.transportFrame? = none) (houtbox : s'.outbox = s.outbox ++ [message])
    (hencrypted : s'.encrypted = s.encrypted) : s'.Recorded prims := by
  unfold Recorded
  rw [houtbox, hencrypted, ← h]
  simp [hmessage]

theorem Recorded.step (h : s.Recorded prims) (hstep : s.step prims action = some s') :
    s'.Recorded prims := by
  cases action with
  | send task action =>
    cases stepSend_cases hstep with
    | handStart hpc => exact h.transmit rfl rfl rfl
    | @handFrame message session frame session' hpc hsend =>
      obtain ⟨hframe, -⟩ := send_eq_some hsend
      have hrecord : s.outbox.filterMap transportFrame? =
          s.encrypted.map (Encryption.frame prims.aead) := h
      simp [Recorded, Provider.transmit, setSend, transportFrame?, hrecord,
        Encryption.frame, hframe]
    | _ => exact h
  | loop action =>
    cases stepLoop_cases hstep with
    | respond hpc | invalidate hpc => exact h.transmit rfl rfl rfl
    | _ => exact h

/-! ## Fixed primitives -/

end Provider

/-- Handshakes whose messages name the ephemeral numbers of both sides. -/
def namingSnow : Snow where
  writeStart _ initiator := [initiator.toUInt8]
  respond _ start responder :=
    match start with
    | [initiator] =>
      some ([initiator, responder.toUInt8],
        { i2r := constantKey (16 * initiator + responder.toUInt8)
          r2i := constantKey (16 * initiator + responder.toUInt8 + 128) })
    | _ => none
  readResponse _ initiator response :=
    match response with
    | [start, responder] =>
      if start = initiator.toUInt8 then
        some { i2r := constantKey (16 * start + responder)
               r2i := constantKey (16 * start + responder + 128) }
      else none
    | _ => none

def samplePrimitives : Primitives := ⟨taggingAead, namingSnow⟩

def sampleSessions : Store Endpoint PersistentTransportState :=
  AList.singleton .desktopMain (.new (constantKey 1) (constantKey 2) .aes256Gcm 0)

def handingOver (task : ℕ) (payload : List UInt8) : List Action :=
  [.send task (.call { payload, destination := .desktopMain, topic := none }),
    .send task .lock, .send task (.get 0), .send task .getAgain, .send task .handFrame]

def finishing (task : ℕ) : List Action :=
  [.send task (.frameAnswer none), .send task .save]

def answering : List Action :=
  [.loop (.receive
      { source := .desktopMain, destination := .desktopMain, topic := none
        frame := some (.handshakeStart ⟨default, [3]⟩) } 4),
    .loop (.finishAnswer none 0)]

namespace Provider

/-! ## No nonce is used twice -/

theorem sound_start (sessions : Store Endpoint PersistentTransportState) :
    (start sessions).checkout.Sound := by
  refine ⟨?_, ?_, by simp [checkout, start], ?_, ?_, by simp [checkout, start]⟩
  · intro endpoint key count hstored
    simp only [checkout, start, Option.map_eq_some_iff, Prod.mk.injEq] at hstored
    obtain ⟨session, hlookup, rfl, -⟩ := hstored
    exact List.mem_map_of_mem (AList.mem_lookup_iff.mp hlookup)
  · intro out hheld
    cases hheld
  · intro endpoint key count hstored n hn
    simp [checkout, start] at hn
  · intro out hheld
    cases hheld

/-- In every run, if every handshake yields a new send key, no two frames are handed over
that were encrypted under the same key and nonce. -/
theorem transportFrames_nonces_unique (prims : Primitives)
    (sessions : Store Endpoint PersistentTransportState) (actions : List Action)
    (s : Provider) (hrun : run (step prims) (start sessions) actions = some s)
    (hfresh : (s.established.map snd).Nodup) :
    s.outbox.filterMap transportFrame? =
      s.encrypted.map (Encryption.frame prims.aead) ∧
    s.encrypted.Pairwise fun u v => ¬(u.sendKey = v.sendKey ∧ u.nonce = v.nonce) := by
  obtain ⟨-, hrecorded, hsound⟩ := run_invariant (step prims)
    (fun s : Provider => s.Disciplined ∧ s.Recorded prims ∧ (s.checkout.Fresh → s.checkout.Sound))
    (by
      rintro s action s' - hstep ⟨hdisciplined, hrecorded, hsound⟩
      have habstract := checkout_step hdisciplined hstep
      refine ⟨hdisciplined.step hstep, hrecorded.step hstep, ?_⟩
      intro hfresh
      exact (hsound (habstract.fresh hfresh)).step habstract hfresh)
    (meets_true _ _ _) hrun
    ⟨disciplined_start sessions, rfl, fun _ => sound_start sessions⟩
  refine ⟨hrecorded, ?_⟩
  have hnodup := (hsound hfresh).used_nodup
  rw [List.Nodup, checkout, List.pairwise_map] at hnodup
  apply hnodup.imp
  rintro u v hne ⟨hkey, hnonce⟩
  exact hne (by rw [hkey, hnonce])

def sampleActions : List Action :=
  handingOver 0 [10] ++ finishing 0 ++ answering ++ [.loop .saveResponder] ++ handingOver 1 [20]

theorem transportFrames_nonces_unique_sample :
    ∃ s, run (step samplePrimitives) (start sampleSessions) sampleActions = some s ∧
      s.encrypted.length = 2 ∧ (s.established.map snd).Nodup ∧
      s.encrypted.Pairwise fun u v => ¬(u.sendKey = v.sendKey ∧ u.nonce = v.nonce) :=
  ⟨_, rfl, by decide, by decide,
    (transportFrames_nonces_unique samplePrimitives sampleSessions sampleActions _ rfl
      (by decide)).2⟩

/-! ## Sessions that the receive loop replaces -/

/-- A call of `send` to the endpoint holds a copy that it is going to write back. -/
def Copied (s : Provider) (endpoint : Endpoint) : Prop :=
  ∃ task session, (s.sends task).copy = some (endpoint, session)

/-- A call of `send` to the endpoint has completed a handshake and not saved its session yet. -/
def Unsaved (s : Provider) (endpoint : Endpoint) (session : PersistentTransportState) : Prop :=
  ∃ task message, s.sends task = .savingHandshake message session ∧
    message.destination = endpoint

/-- A call of `send` to the endpoint is going to write a session it has in its hands. -/
def Pending (s : Provider) (endpoint : Endpoint) : Prop :=
  s.Copied endpoint ∨ ∃ session, s.Unsaved endpoint session

end Provider

end SdkInternal.Ipc.Noise
