import SdkInternal.Model.Ipc.Noise.Send
import SdkInternal.Verification.Noise.Custody
import SdkInternal.Verification.Reassembler.Cbor

/-! # What a result of the client's `send` says about the fragments

A call over the Noise provider reports success although a frame was rejected, if the
backend classifies the rejection as `Other`. It surfaces every other rejection. -/

namespace SdkInternal.Ipc

namespace Client

variable {σ ε γ : Type} {crypto : CryptoProvider σ ε γ} {circumstances : ℕ → γ}
  {rest : List OutgoingMessage} {fragment : OutgoingMessage} {k : ℕ} {state : σ}

theorem sendFragments_cons_of_ok
    (h : (crypto.send (circumstances k) state fragment).1 = .returned (.ok ())) :
    sendFragments crypto circumstances k state (fragment :: rest) =
      sendFragments crypto circumstances (k + 1)
        (crypto.send (circumstances k) state fragment).2 rest := by
  simp [sendFragments, sendFragment, classify, h]

theorem classify_ne_ok {result : Completion ε} (h : result ≠ .returned (.ok ())) :
    (classify crypto result).result ≠ .returned (.ok ()) := by
  unfold classify
  split
  · simp
  · simp
  · exact absurd rfl h
  · simp

theorem exists_error_of_classify {result : Completion ε} {e : SendError}
    (h : (classify crypto result).result = .returned (.error e)) :
    ∃ e', result = .returned (.error e') := by
  unfold classify at h
  split at h
  · cases h
  · cases h
  · cases h
  · exact ⟨_, rfl⟩

theorem sendFragments_cons_of_ne
    (h : (crypto.send (circumstances k) state fragment).1 ≠ .returned (.ok ())) :
    sendFragments crypto circumstances k state (fragment :: rest) =
      (classify crypto (crypto.send (circumstances k) state fragment).1,
        (crypto.send (circumstances k) state fragment).2) := by
  simp only [sendFragments, sendFragment]
  split
  · rename_i hok
    exact absurd hok (classify_ne_ok h)
  · rfl

end Client

namespace Noise

open Shared Provider SendAction List Function

/-! ## One call of the provider -/

def SendAction.ephemeral? : SendAction → Option ℕ
  | .subscribe ephemeral => some ephemeral
  | _ => none

/-- One of the steps of a call has made its handshake with `destination` fail. -/
def HandshakeFails (snow : Snow) (destination : Endpoint) (own : List SendAction) : Prop :=
  ∃ ephemeral, own.findSome? ephemeral? = some ephemeral ∧
    ∃ action ∈ own, action.FailsHandshake snow destination ⟨default, ephemeral⟩

/-- The only frame that was handed over is one for the message. -/
def Carries (prims : Primitives) (message : OutgoingMessage) (handed : List OutgoingFrame) : Prop :=
  ∃ (session : PersistentTransportState) (frame : TransportFrame)
    (session' : PersistentTransportState),
    session.send prims.aead message.payload = some (frame, session') ∧
    handed = [⟨message.destination, message.topic, .transportFrame frame⟩]

def SendAction.early : SendAction → Bool
  | .lock | .get _ | .remove => true
  | _ => false

section

variable (prims : Primitives) (message : OutgoingMessage) (own : List SendAction)
  (handed : List OutgoingFrame)

structure Unsent : Prop where
  answer : own.findSome? answer? = none
  handed : handed = []
  good : ¬HandshakeFails prims.snow message.destination own

/-- A frame for the message has been handed over, and this is the backend's answer so far. -/
structure Handed (answer : Option (Option ErrorKind)) : Prop where
  answer : own.findSome? answer? = answer
  carries : Carries prims message handed
  good : ¬HandshakeFails prims.snow message.destination own

/-- What a call for `message` has done when it comes to a place. -/
def Progress : SendPc → Prop
  | .idle => False
  | .locking m | .getting m | .removing m | .subscribing m =>
    m = message ∧ own.all early = true ∧ handed = []
  | .sendingStart m initiator | .startHanded m initiator | .awaitingFinish m initiator =>
    m = message ∧ ∃ ephemeral, initiator = ⟨default, ephemeral⟩ ∧
      own.findSome? ephemeral? = some ephemeral ∧ Unsent prims message own handed
  | .savingHandshake m _ | .gettingAgain m | .encrypting m _ =>
    m = message ∧ Unsent prims message own handed
  | .frameHanded m _ => m = message ∧ Handed prims message own handed none
  | .saving _ _ | .returned (.ok _) => ∃ answer, (answer = none ∨ answer = some .other) ∧
    Handed prims message own handed (some answer)
  | .clearing _ _ _ => ∃ kind, kind ≠ .other ∧ Handed prims message own handed (some (some kind))
  | .returned (.error _) =>
    (own.findSome? answer? = none ∧ handed = [] ∧
      HandshakeFails prims.snow message.destination own) ∨
    ∃ kind, kind ≠ .other ∧ Handed prims message own handed (some (some kind))
  | .panicked => Unsent prims message own handed

end

variable {prims : Primitives} {message : OutgoingMessage} {own : List SendAction}
  {handed : List OutgoingFrame} {action : SendAction} {s s' : Provider} {task : ℕ}
  {snow : Snow} {destination : Endpoint}

theorem handshakeFails_append (hephemeral : action.ephemeral? = none)
    (hgood : ∀ ephemeral, own.findSome? ephemeral? = some ephemeral →
      ¬action.FailsHandshake snow destination ⟨default, ephemeral⟩)
    (h : HandshakeFails snow destination (own ++ [action])) :
    HandshakeFails snow destination own := by
  obtain ⟨ephemeral, hown, failing, hmem, hfails⟩ := h
  simp only [findSome?_append, findSome?_singleton, hephemeral, Option.or_none] at hown
  rcases mem_append.mp hmem with hmem | hmem
  · exact ⟨ephemeral, hown, failing, hmem, hfails⟩
  · rw [mem_singleton.mp hmem] at hfails
    exact absurd hfails (hgood ephemeral hown)

theorem Unsent.add (h : Unsent prims message own handed) (hanswer : action.answer? = none)
    (hephemeral : action.ephemeral? = none)
    (hgood : ∀ ephemeral, own.findSome? ephemeral? = some ephemeral →
      ¬action.FailsHandshake prims.snow message.destination ⟨default, ephemeral⟩) :
    Unsent prims message (own ++ [action]) handed :=
  ⟨by simp [h.answer, hanswer], h.handed, fun hfails =>
    h.good (handshakeFails_append hephemeral hgood hfails)⟩

theorem Handed.add {answer : Option (Option ErrorKind)} (h : Handed prims message own handed answer)
    (hephemeral : action.ephemeral? = none)
    (hgood : ∀ initiator, ¬action.FailsHandshake prims.snow message.destination initiator) :
    Handed prims message (own ++ [action]) handed (answer.or action.answer?) :=
  ⟨by simp [h.answer], h.carries, fun hfails =>
    h.good (handshakeFails_append hephemeral (fun _ _ => hgood _) hfails)⟩

theorem Unsent.fails {ephemeral : ℕ} {error : NoiseCryptoProviderError}
    (h : Unsent prims message own handed) (hephemeral : own.findSome? ephemeral? = some ephemeral)
    (hfails : action.FailsHandshake prims.snow message.destination ⟨default, ephemeral⟩) :
    Progress prims message (own ++ [action]) handed (.returned (.error error)) := by
  refine .inl ⟨?_, h.handed, ephemeral, by simp [hephemeral], action, by simp, hfails⟩
  have hnone : action.answer? = none := by cases action <;> first | rfl | cases hfails
  simp [h.answer, hnone]

theorem unsent_of_early (action : SendAction) (h : own.all early = true)
    (hnew : action.answer? = none)
    (hgood : ∀ initiator, ¬action.FailsHandshake prims.snow message.destination initiator) :
    Unsent prims message (own ++ [action]) [] ∧
      (own ++ [action]).findSome? ephemeral? = action.ephemeral? := by
  have hspec : ∀ action ∈ own, action.answer? = none ∧ action.ephemeral? = none ∧
      ∀ initiator, ¬action.FailsHandshake prims.snow message.destination initiator := by
    intro action hmem
    have hearly := all_eq_true.mp h action hmem
    cases action <;> first | exact ⟨rfl, rfl, fun _ hfails => hfails⟩ | cases hearly
  have hanswer : own.findSome? answer? = none :=
    findSome?_eq_none_iff.mpr fun action hmem => (hspec action hmem).1
  have hephemeral : own.findSome? ephemeral? = none :=
    findSome?_eq_none_iff.mpr fun action hmem => (hspec action hmem).2.1
  refine ⟨⟨by simp [hanswer, hnew], rfl, ?_⟩, by simp [hephemeral]⟩
  rintro ⟨ephemeral, -, failing, hmem, hfails⟩
  rcases mem_append.mp hmem with hmem | hmem
  · exact (hspec failing hmem).2.2 _ hfails
  · rw [mem_singleton.mp hmem] at hfails
    exact hgood _ hfails

theorem all_early_concat (hown : own.all early = true) (haction : action.early = true) :
    (own ++ [action]).all early = true := by
  simp only [all_append, all_cons, all_nil, hown, haction, Bool.and_self]

theorem progress_sendStep (h : Progress prims message own handed (s.sends task))
    (haction : action ≠ .handFrame) (hstep : SendStep prims s task action s') :
    Progress prims message (own ++ [action]) handed (s'.sends task) := by
  have hat : ∀ {old new : SendPc}, s.sends task = old →
      (Progress prims message own handed old →
        Progress prims message (own ++ [action]) handed new) →
      Progress prims message (own ++ [action]) handed (update s.sends task new task) := by
    rintro old new rfl hnew
    rw [update_self]
    exact hnew h
  cases hstep with
  | handFrame hpc | overflow hpc => exact absurd rfl haction
  | call hpc => exact hat hpc False.elim
  | lock hpc | remove hpc => exact hat hpc fun h => ⟨h.1, all_early_concat h.2.1 rfl, h.2.2⟩
  | @get _ now _ hpc hnew =>
    refine hat hpc ?_
    rintro ⟨rfl, hearly, rfl⟩
    rcases hnew with rfl | rfl | rfl
    · exact ⟨rfl, all_early_concat hearly rfl, rfl⟩
    · exact ⟨rfl, all_early_concat hearly rfl, rfl⟩
    · exact ⟨rfl, (unsent_of_early (.get now) hearly rfl fun _ hfails => hfails).1⟩
  | @subscribe _ ephemeral hpc =>
    refine hat hpc ?_
    rintro ⟨rfl, hearly, rfl⟩
    obtain ⟨hunsent, hephemeral⟩ :=
      unsent_of_early (.subscribe ephemeral) hearly rfl fun _ hfails => hfails
    exact ⟨rfl, ephemeral, rfl, hephemeral, hunsent⟩
  | handStart hpc | startAccepted hpc =>
    refine hat hpc ?_
    rintro ⟨rfl, ephemeral, rfl, hephemeral, hunsent⟩
    exact ⟨rfl, ephemeral, rfl, by simp [hephemeral],
      hunsent.add rfl rfl fun _ _ hfails => by cases hfails⟩
  | ignored hpc hgood =>
    rw [hpc] at h ⊢
    obtain ⟨rfl, ephemeral, rfl, hephemeral, hunsent⟩ := h
    refine ⟨rfl, ephemeral, rfl, by simp [hephemeral], hunsent.add rfl rfl ?_⟩
    intro other hother
    cases hephemeral.symm.trans hother
    exact hgood
  | finishRead hpc hsource hframe hread =>
    refine hat hpc ?_
    rintro ⟨rfl, ephemeral, rfl, hephemeral, hunsent⟩
    refine ⟨rfl, hunsent.add rfl rfl ?_⟩
    rintro other hother ⟨-, hnone | ⟨finish, hfinish, hunread⟩⟩
    · simp [hframe] at hnone
    · cases hephemeral.symm.trans hother
      cases hframe.symm.trans hfinish
      cases hread.symm.trans hunread
  | saveHandshake hpc | getAgain hpc =>
    exact hat hpc fun h => ⟨h.1, h.2.add rfl rfl fun _ _ hfails => hfails⟩
  | frameKept hpc hanswer =>
    exact hat hpc fun h => ⟨_, hanswer, h.2.add rfl fun _ hfails => hfails⟩
  | frameRejected hpc hkind =>
    exact hat hpc fun h => ⟨_, hkind, h.2.add rfl fun _ hfails => hfails⟩
  | save hpc =>
    exact hat hpc fun ⟨answer, hanswer, h⟩ => ⟨answer, hanswer, h.add rfl fun _ hfails => hfails⟩
  | clear hpc =>
    exact hat hpc fun ⟨kind, hkind, h⟩ => .inr ⟨kind, hkind, h.add rfl fun _ hfails => hfails⟩
  | failed hfails =>
    generalize hpc : s.sends task = pc at hfails
    refine hat hpc ?_
    cases hfails with
    | session => exact fun h => h.2.add rfl rfl fun _ _ hfails => hfails
    | start =>
      rintro ⟨rfl, ephemeral, rfl, hephemeral, hunsent⟩
      exact hunsent.fails hephemeral rfl
    | finish hfails =>
      rintro ⟨rfl, ephemeral, rfl, hephemeral, hunsent⟩
      exact hunsent.fails hephemeral hfails

theorem progress_handFrame (h : Progress prims message own handed (s.sends task))
    (hstep : SendStep prims s task .handFrame s') :
    Progress prims message (own ++ [.handFrame]) (handed ++ s'.outbox.drop s.outbox.length)
      (s'.sends task) := by
  have hadd (h : Unsent prims message own handed) :
      Unsent prims message (own ++ [.handFrame]) handed :=
    h.add rfl rfl fun _ _ hfails => hfails
  cases hstep with
  | @handFrame _ session frame session' hpc hsend =>
    rw [hpc] at h
    obtain ⟨rfl, hunsent⟩ := h
    obtain ⟨hanswer, rfl, hgood⟩ := hadd hunsent
    simp only [transmit, setSend, update_self, drop_left, nil_append]
    exact ⟨rfl, hanswer, ⟨session, frame, session', hsend, rfl⟩, hgood⟩
  | overflow hpc =>
    rw [hpc] at h
    obtain ⟨rfl, hunsent⟩ := h
    simp only [endSend, setSend, update_self, drop_length, append_nil]
    exact hadd hunsent
  | failed hfails =>
    generalize s.sends task = pc at hfails
    cases hfails with
    | finish hfails => cases hfails

theorem sends_of_other {action : Action} (h : action.of task = none)
    (hstep : s.step prims action = some s') : s'.sends task = s.sends task := by
  cases action with
  | loop action => cases stepLoop_cases hstep <;> rfl
  | send other action =>
    have hne : task ≠ other := by
      rintro rfl
      simp [Action.of] at h
    cases stepSend_cases hstep <;> first | rfl | exact update_of_ne hne _ _

theorem progress_run {steps : List Action} (h : Progress prims message own handed (s.sends task))
    (hrun : run (step prims) s steps = some s') :
    Progress prims message (own ++ steps.filterMap (Action.of task))
      (handed ++ handedBy prims task s steps) (s'.sends task) := by
  induction steps generalizing s own handed with
  | nil =>
    cases hrun
    simpa [handedBy] using h
  | cons action steps ih =>
    rw [run_cons, Option.bind_eq_some_iff] at hrun
    obtain ⟨next, hnext, hrest⟩ := hrun
    simp only [handedBy, hnext]
    cases hown : action.of task with
    | none =>
      rw [filterMap_cons_none hown]
      exact ih (by rwa [sends_of_other hown hnext]) hrest
    | some performed =>
      have hstep : SendStep prims s task performed next := by
        cases action with
        | loop action => cases hown
        | send other action =>
          simp only [Action.of, Option.ite_none_right_eq_some] at hown
          obtain ⟨rfl, hown⟩ := hown
          cases hown
          exact stepSend_cases hnext
      rw [filterMap_cons_some hown, append_cons, ← append_assoc]
      refine ih ?_ hrest
      by_cases hframe : performed = .handFrame
      · subst hframe
        exact progress_handFrame h hstep
      · simpa [hframe] using progress_sendStep h hframe hstep

inductive SendReport.Ends (prims : Primitives) (fragment : OutgoingMessage) (r : SendReport) :
    Prop where
  | answered {answer} (hresult : r.result = .returned (.ok ()))
      (hanswer : answer = none ∨ answer = some .other)
      (hhanded : Handed prims fragment r.call.own r.handed (some answer))
  | rejected {kind error} (hresult : r.result = .returned (.error error)) (hkind : kind ≠ .other)
      (hhanded : Handed prims fragment r.call.own r.handed (some (some kind)))
  | failed {error} (hresult : r.result = .returned (.error error)) (hanswer : r.call.answer = none)
      (hhanded : r.handed = [])
      (hfails : HandshakeFails prims.snow fragment.destination r.call.own)
  | panicked (hresult : r.result = .panicked) (hunsent : Unsent prims fragment r.call.own r.handed)

theorem ends_of_progress {r : SendReport} {pc : SendPc} (hresult : r.result = pc.completion)
    (hended : r.result ≠ .pending) (h : Progress prims message r.call.own r.handed pc) :
    r.Ends prims message := by
  cases pc with
  | returned result =>
    cases result with
    | ok value =>
      obtain ⟨answer, hanswer, hhanded⟩ := h
      exact .answered hresult hanswer hhanded
    | error error =>
      rcases h with ⟨hanswer, hhanded, hfails⟩ | ⟨kind, hkind, hhanded⟩
      · exact .failed hresult hanswer hhanded hfails
      · exact .rejected hresult hkind hhanded
  | panicked => exact .panicked hresult h
  | _ => exact absurd hresult hended

theorem send_reports (prims : Primitives) (call : Call) (log : SendLog) (fragment : OutgoingMessage)
    (hends : ((cryptoProvider prims).send call log fragment).1 ≠ .pending) :
    ∃ r : SendReport, r.call = call ∧ r.Ends prims fragment ∧
      r.result = ((cryptoProvider prims).send call log fragment).1 ∧
      ((cryptoProvider prims).send call log fragment).2.reports = log.reports ++ [r] := by
  simp only [cryptoProvider] at hends ⊢
  split at hends
  · exact absurd rfl hends
  next provider hrun =>
    refine ⟨_, rfl, ends_of_progress rfl hends ?_, rfl, rfl⟩
    rw [run_cons, Option.bind_eq_some_iff] at hrun
    obtain ⟨called, hcalled, hrun⟩ := hrun
    have hstart : called.sends call.task = .locking fragment := by
      have hstep : log.provider.stepSend prims call.task (.call fragment) = some called := hcalled
      simp only [stepSend] at hstep
      split at hstep
      · cases hstep
        exact update_self _ _ _
      · cases hstep
    have hprogress : Progress prims fragment ([] ++ call.own)
        ([] ++ handedBy prims call.task called call.steps) (provider.sends call.task) :=
      progress_run (by rw [hstart]; exact ⟨rfl, rfl, rfl⟩) hrun
    simpa [handedBy, hcalled, Action.of] using hprogress

/-! ## The loop over the fragments -/

/-- The reports of the calls for the fragments, and the result of the loop. -/
inductive Sent (prims : Primitives) (calls : ℕ → Call) :
    ℕ → List OutgoingMessage → List SendReport → Completion SendError → Prop where
  | done {k} : Sent prims calls k [] [] (.returned (.ok ()))
  | failed {k fragment rest r} (hcall : r.call = calls k) (hends : r.Ends prims fragment)
      (hresult : r.result ≠ .returned (.ok ())) :
      Sent prims calls k (fragment :: rest) [r]
        (Client.classify (cryptoProvider prims) r.result).result
  | next {k fragment rest r reports result} (hcall : r.call = calls k)
      (hends : r.Ends prims fragment) (hresult : r.result = .returned (.ok ()))
      (hrest : Sent prims calls (k + 1) rest reports result) :
      Sent prims calls k (fragment :: rest) (r :: reports) result

theorem sendFragments_sent (prims : Primitives) (calls : ℕ → Call) (k : ℕ) (log : SendLog)
    (fragments : List OutgoingMessage)
    (hends : (Client.sendFragments (cryptoProvider prims) calls k log fragments).1.result ≠
      .pending) :
    ∃ reports,
      (Client.sendFragments (cryptoProvider prims) calls k log fragments).2.reports =
        log.reports ++ reports ∧
      Sent prims calls k fragments reports
        (Client.sendFragments (cryptoProvider prims) calls k log fragments).1.result := by
  induction fragments generalizing k log with
  | nil => exact ⟨[], by simp [Client.sendFragments], .done⟩
  | cons fragment rest ih =>
    by_cases hresult : ((cryptoProvider prims).send (calls k) log fragment).1 = .returned (.ok ())
    · obtain ⟨r, hcall, hreport, hsame, hlog⟩ :=
        send_reports prims (calls k) log fragment (by simp [hresult])
      rw [Client.sendFragments_cons_of_ok hresult] at hends ⊢
      obtain ⟨reports, hreports, hsent⟩ := ih (k + 1) _ hends
      refine ⟨r :: reports, ?_, .next hcall hreport (hsame.trans hresult) hsent⟩
      rw [hreports, hlog, append_assoc]
      rfl
    · rw [Client.sendFragments_cons_of_ne hresult] at hends ⊢
      obtain ⟨r, hcall, hreport, hsame, hlog⟩ := send_reports prims (calls k) log fragment (by
        intro hpending
        rw [hpending] at hends
        exact hends rfl)
      refine ⟨[r], hlog, ?_⟩
      rw [← hsame] at hresult ⊢
      exact .failed hcall hreport hresult

/-! ## What success means -/

/-- What a call promises: success means that the backend accepted a frame for every
fragment, and after a rejected frame the call fails and sends no later fragment. -/
structure Surfaces (prims : Primitives) (fragments : List OutgoingMessage)
    (result : Completion SendError) (reports : List SendReport) : Prop where
  accepted : result = .returned (.ok ()) → Forall₂ (fun fragment r =>
    r.call.answer = some none ∧ Carries prims fragment r.handed) fragments reports
  rejected : ∀ r ∈ reports, ∀ kind, r.call.answer = some (some kind) →
    ∃ e, result = .returned (.error e)
  stopped : reports.Pairwise fun r later => (∃ kind, r.call.answer = some (some kind)) →
    later.handed = []

/-- If the backend accepts the frames up to one that it rejects with `Other`, then a fragment
follows whose handshake fails. -/
def FailsAfterOther (snow : Snow) (calls : ℕ → Call) (fragments : List OutgoingMessage) : Prop :=
  ∀ k < fragments.length, (∀ j < k, (calls j).answer = some none) →
    (calls k).answer = some (some .other) →
    ∃ next ∈ fragments[k + 1]?, HandshakeFails snow next.destination (calls (k + 1)).own

theorem failsAfterOther_cons {calls : ℕ → Call} {fragment : OutgoingMessage}
    {rest : List OutgoingMessage} : FailsAfterOther snow calls (fragment :: rest) ↔
      ((calls 0).answer = some (some .other) →
        ∃ next ∈ rest.head?, HandshakeFails snow next.destination (calls 1).own) ∧
      ((calls 0).answer = some none → FailsAfterOther snow (fun k => calls (k + 1)) rest) := by
  constructor
  · intro h
    refine ⟨fun hother => by simpa [head?_eq_getElem?] using h 0 (by simp) (by simp) hother, ?_⟩
    intro hnone k hk hbefore hother
    refine h (k + 1) (by simpa using hk) ?_ hother
    intro j hj
    cases j with
    | zero => exact hnone
    | succ j => exact hbefore j (by omega)
  · rintro ⟨hfirst, hrest⟩ k hk hbefore hother
    cases k with
    | zero => simpa [head?_eq_getElem?] using hfirst hother
    | succ k =>
      exact hrest (hbefore 0 (by omega)) k (by simpa using hk)
        (fun j hj => hbefore (j + 1) (by omega)) hother

theorem Carries.ne_nil (h : Carries prims message handed) : handed ≠ [] := by
  obtain ⟨_, _, _, -, rfl⟩ := h
  simp

/-- The handshake of a call has failed if and only if it returns an error without having handed
over a frame. -/
theorem SendReport.Ends.handshakeFails_iff {r : SendReport} (h : r.Ends prims message) :
    HandshakeFails prims.snow message.destination r.call.own ↔
      r.handed = [] ∧ ∃ e, r.result = .returned (.error e) := by
  cases h with
  | answered _ _ hhanded | rejected _ _ hhanded =>
    exact iff_of_false hhanded.good fun h => hhanded.carries.ne_nil h.1
  | failed hresult _ hhanded hfails => exact iff_of_true hfails ⟨hhanded, _, hresult⟩
  | panicked hresult hunsent =>
    exact iff_of_false hunsent.good fun ⟨_, e, herror⟩ => by simp [hresult] at herror

variable {r : SendReport} {calls : ℕ → Call} {k : ℕ} {fragments : List OutgoingMessage}
  {reports : List SendReport} {result : Completion SendError}

theorem SendReport.Ends.handed_of_ok (h : r.Ends prims message)
    (hok : r.result = .returned (.ok ())) :
    ∃ answer, (answer = none ∨ answer = some .other) ∧
      Handed prims message r.call.own r.handed (some answer) := by
  cases h with
  | answered _ hanswer hhanded => exact ⟨_, hanswer, hhanded⟩
  | rejected hother | failed hother | panicked hother =>
    rw [hok] at hother
    cases hother

theorem SendReport.Ends.rejected_of_ne_ok (h : r.Ends prims message)
    (hresult : r.result ≠ .returned (.ok ())) {answer : Option ErrorKind}
    (hanswer : r.call.answer = some answer) :
    (∃ e, r.result = .returned (.error e)) ∧ answer ≠ none ∧ answer ≠ some .other := by
  cases h with
  | answered hok => exact absurd hok hresult
  | rejected herror hkind hhanded =>
    cases hhanded.answer.symm.trans hanswer
    exact ⟨⟨_, herror⟩, by simp, by simpa using hkind⟩
  | failed _ hnone => cases hnone.symm.trans hanswer
  | panicked _ hunsent => cases hunsent.answer.symm.trans hanswer

theorem surfaces_cons_of_accepted (hanswer : r.call.answer = some none)
    (hcarries : Carries prims message r.handed) :
    Surfaces prims (message :: fragments) result (r :: reports) ↔
      Surfaces prims fragments result reports := by
  constructor
  · intro h
    exact ⟨fun hok => (forall₂_cons.mp (h.accepted hok)).2,
      fun later hlater => h.rejected later (mem_cons_of_mem _ hlater),
      (pairwise_cons.mp h.stopped).2⟩
  · intro h
    exact ⟨fun hok => .cons ⟨hanswer, hcarries⟩ (h.accepted hok),
      forall_mem_cons.mpr ⟨by simp [hanswer], h.rejected⟩,
      pairwise_cons.mpr ⟨by simp [hanswer], h.stopped⟩⟩

/-- After a frame that was rejected with `Other`, only a handshake that fails makes the call
fail. -/
theorem Sent.surfaces_cons_of_other (hrest : Sent prims calls k fragments reports result)
    (hanswer : r.call.answer = some (some .other)) :
    Surfaces prims (message :: fragments) result (r :: reports) ↔
      ∃ next ∈ fragments.head?, HandshakeFails prims.snow next.destination (calls k).own := by
  constructor
  · intro h
    obtain ⟨e, herror⟩ := h.rejected r mem_cons_self .other hanswer
    have hlater := fun later hlater =>
      (pairwise_cons.mp h.stopped).1 later hlater ⟨.other, hanswer⟩
    cases hrest with
    | done => cases herror
    | @failed _ fragment _ later hcall hends =>
      refine ⟨fragment, rfl, ?_⟩
      rw [← hcall, hends.handshakeFails_iff]
      exact ⟨hlater later mem_cons_self, Client.exists_error_of_classify herror⟩
    | @next _ _ _ later _ _ hcall hends hresult =>
      obtain ⟨_, -, hhanded⟩ := hends.handed_of_ok hresult
      exact absurd (hlater later mem_cons_self) hhanded.carries.ne_nil
  · rintro ⟨next, hnext, hfails⟩
    cases hrest with
    | done => cases hnext
    | failed hcall hends hresult =>
      cases hnext
      rw [← hcall, hends.handshakeFails_iff] at hfails
      obtain ⟨hhanded, e, herror⟩ := hfails
      refine ⟨fun hok => absurd hok (Client.classify_ne_ok hresult), ?_, by simp [hhanded]⟩
      rw [herror]
      exact fun _ _ _ _ => ⟨_, rfl⟩
    | next hcall hends hresult =>
      cases hnext
      rw [← hcall, hends.handshakeFails_iff, hresult] at hfails
      obtain ⟨-, e, herror⟩ := hfails
      cases herror

theorem Sent.surfaces_iff (h : Sent prims calls k fragments reports result) :
    Surfaces prims fragments result reports ↔
      FailsAfterOther prims.snow (fun i => calls (k + i)) fragments := by
  induction h with
  | done => exact ⟨fun _ k hk => by simp at hk, fun _ => ⟨fun _ => .nil, by simp, .nil⟩⟩
  | @failed k fragment rest r hcall hends hresult =>
    have hrejected {answer : Option ErrorKind} (hanswer : r.call.answer = some answer) :=
      hends.rejected_of_ne_ok hresult hanswer
    rw [failsAfterOther_cons, Nat.add_zero, ← hcall]
    refine iff_of_true ⟨fun hok => absurd hok (Client.classify_ne_ok hresult), ?_,
      pairwise_singleton _ _⟩
      ⟨fun hother => absurd rfl (hrejected hother).2.2,
        fun hnone => absurd rfl (hrejected hnone).2.1⟩
    intro r' hr kind hanswer
    rw [mem_singleton.mp hr] at hanswer
    obtain ⟨e, herror⟩ := (hrejected hanswer).1
    rw [herror]
    exact ⟨_, rfl⟩
  | @next k fragment rest r reports result hcall hends hresult hrest ih =>
    have hshift : (fun i => calls (k + (i + 1))) = fun i => calls (k + 1 + i) := by
      funext i
      rw [Nat.add_right_comm, Nat.add_assoc]
    rw [failsAfterOther_cons, hshift, ← ih, Nat.add_zero, ← hcall]
    obtain ⟨answer, hanswer, hhanded⟩ := hends.handed_of_ok hresult
    have hreport : r.call.answer = some answer := hhanded.answer
    rcases hanswer with rfl | rfl
    · rw [surfaces_cons_of_accepted hreport hhanded.carries]
      simp [hreport]
    · rw [hrest.surfaces_cons_of_other hreport]
      simp [hreport]

/-- Over the Noise provider, a call of the client's `send` that ends keeps its promise if and only
if the first frame that the backend rejects with `Other`, after it accepted all frames before it,
is followed by a fragment whose handshake fails. -/
theorem sendMessage_surfaces_iff (prims : Primitives) (codec : HeaderCodec)
    (debugStr : String → String) (messageId : UInt64) (calls : ℕ → Call) (provider : Provider)
    (message : OutgoingMessage)
    (hends : (Client.sendMessage (cryptoProvider prims) codec debugStr messageId calls
      ⟨provider, []⟩ message).1.result ≠ .pending) :
    Surfaces prims
        (Client.fragmentsOf codec messageId (cryptoProvider prims).maxPayloadLen message)
        (Client.sendMessage (cryptoProvider prims) codec debugStr messageId calls
          ⟨provider, []⟩ message).1.result
        (Client.sendMessage (cryptoProvider prims) codec debugStr messageId calls
          ⟨provider, []⟩ message).2.reports ↔
      FailsAfterOther prims.snow calls
        (Client.fragmentsOf codec messageId (cryptoProvider prims).maxPayloadLen message) := by
  unfold Client.sendMessage Client.fragmentsOf at *
  cases hsplit : Fragments.split messageId message (cryptoProvider prims).maxPayloadLen with
  | error e =>
    -- Nothing is sent, and the call fails.
    exact iff_of_true ⟨by simp, by simp, .nil⟩ fun k hk => by simp at hk
  | ok fragments =>
    simp only [hsplit] at hends
    obtain ⟨reports, hreports, hsent⟩ := sendFragments_sent prims calls 0 ⟨provider, []⟩
      (fragments.collect codec) hends
    simp only [hreports, nil_append]
    simpa using hsent.surfaces_iff

/-! ## A swallowed rejection -/

/-- The session is recent, nobody interferes, and this is the backend's answer to the frame. -/
def answeredCall (answer : Option ErrorKind) (task : ℕ) : Call where
  task
  steps := [.lock, .get 0, .getAgain, .handFrame, .frameAnswer answer, .save].map (.send task)

def shortMessage : OutgoingMessage :=
  { payload := [7], destination := .desktopMain, topic := none }

def answeredSend (answer : Option ErrorKind) : SendOutcome × SendLog :=
  Client.sendMessage (cryptoProvider samplePrimitives) cborHeader String.quote 0
    (answeredCall answer) ⟨start sampleSessions, []⟩ shortMessage

theorem acceptedSend_surfaces :
    (answeredSend none).1.result = .returned (.ok ()) ∧
    Surfaces samplePrimitives [shortMessage] (answeredSend none).1.result
      (answeredSend none).2.reports := by
  refine ⟨rfl, (sendMessage_surfaces_iff samplePrimitives cborHeader String.quote 0
    (answeredCall none) (start sampleSessions) shortMessage ?_).mpr ?_⟩
  · intro hpending
    cases hpending
  · intro k _ _ hother
    simp only [Call.answer, Call.own, answeredCall, Action.of, filterMap_map,
      comp_def, if_true, filterMap_some] at hother
    cases hother

/-- The only frame of the message is rejected with `Other`, and the call succeeds. -/
theorem sendMessage_swallows_rejection :
    (answeredSend (some .other)).1.result = .returned (.ok ()) ∧
    (answeredSend (some .other)).2.reports.map (·.call.answer) = [some (some .other)] ∧
    ¬Surfaces samplePrimitives [shortMessage] (answeredSend (some .other)).1.result
      (answeredSend (some .other)).2.reports := by
  refine ⟨rfl, rfl, ?_⟩
  intro hsurfaces
  obtain ⟨e, herror⟩ := hsurfaces.rejected _ mem_cons_self .other rfl
  cases herror

end Noise

end SdkInternal.Ipc
