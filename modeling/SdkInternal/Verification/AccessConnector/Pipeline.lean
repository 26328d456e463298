import SdkInternal.Verification.AccessConnector.SyncState

/-! # The order of an attempt's calls

What the history of an attempt holds when it calls the target system, writes the cipher and
reports. -/

namespace SdkInternal.AccessConnector

open Shared List Holds
open Generators (PasswordGeneratorRequest)

variable {vault : Vault} {ε τ κ : Type}

/-! ## Reports in a history -/

def Op.isFailureReport : Op vault → Bool
  | .reportFailure _ _ _ _ => true
  | _ => false

def Op.isReport : Op vault → Bool
  | .reportSuccess _ _ | .reportFailure _ _ _ _ => true
  | _ => false

def FailureReported (history : History vault) : Prop :=
  ∃ event ∈ history, event.op.isFailureReport = true

def Reported (history : History vault) : Prop := ∃ event ∈ history, event.op.isReport = true

variable {history : History vault}

theorem reported_of_failureReported (h : FailureReported history) : Reported history := by
  obtain ⟨⟨op, answer⟩, hmem, hfailure⟩ := h
  refine ⟨⟨op, answer⟩, hmem, ?_⟩
  cases op <;> first | rfl | cases hfailure

variable {event : Event (Op vault) Op.Answer}

theorem not_reported_append (h : ¬Reported history) (hevent : event.op.isReport = false) :
    ¬Reported (history ++ [event]) := by
  simp_all [Reported]

theorem not_failureReported_append (h : ¬FailureReported history)
    (hevent : event.op.isFailureReport = false) : ¬FailureReported (history ++ [event]) := by
  simp_all [FailureReported]

/-- Nothing was reported, and the answers of the pattern came in its order. -/
structure Reaches (pattern history : History vault) : Prop where
  unreported : ¬Reported history
  ordered : pattern.Sublist history

namespace Reaches

variable {pattern history : History vault} {event : Event (Op vault) Op.Answer}

theorem skip (h : Reaches pattern history) (hevent : event.op.isReport = false) :
    Reaches pattern (history ++ [event]) :=
  ⟨not_reported_append h.unreported hevent, h.ordered.trans (sublist_append_left _ _)⟩

theorem add (h : Reaches pattern history) (hevent : event.op.isReport = false) :
    Reaches (pattern ++ [event]) (history ++ [event]) :=
  ⟨not_reported_append h.unreported hevent, h.ordered.append (List.Sublist.refl _)⟩

end Reaches

/-! ## Calls and what comes before them -/

/-- The answers from which an attempt makes the context of its target-side steps. -/
def preparation (job : VerifiedJob) (request : PasswordGeneratorRequest)
    (context : RotateContext) : History vault :=
  [ ⟨.resolve job.targetSystemId job.kind, .ok context.creds⟩,
    ⟨.generatePassword request, .ok context.newPassword⟩ ]

structure Prepares (job : VerifiedJob) (ctx : ExecutionContext)
    (request : PasswordGeneratorRequest) (context : RotateContext) : Prop where
  targetSystemId : context.targetSystemId = job.targetSystemId
  accountIdentity : context.accountIdentity = job.accountIdentity
  generatorRequest : job.generatorRequest = some request
  integration : ctx.integrations job.kind = true

/-- The attempt has rotated the target and verified the new password. -/
inductive TargetRotated (job : VerifiedJob) (ctx : ExecutionContext) (context : RotateContext) :
    History vault → Prop where
  | intro {request : PasswordGeneratorRequest} {rotated verified : TargetAnswer}
      (hprepares : Prepares job ctx request context) (hrotated : rotated.result = .ok ())
      (hverified : verified.result = .ok ()) :
      TargetRotated job ctx context
        (preparation job request context ++
          [⟨.finish .rotate context, rotated⟩] ++ [⟨.finish .verify context, verified⟩])

/-- The request sets the password of a cipher that has the id of the job. -/
structure Rewrites (job : VerifiedJob) (ctx : ExecutionContext) (password : String)
    (cipher : vault.Cipher) (request : vault.CipherRequest) : Prop where
  id : vault.id cipher = some job.cipherId
  rotates : vault.rotateCipherPassword ctx.organizationId cipher password = .ok request

/-- The answers of a vault write. The server accepts the request, or rejects it and then returns
a cipher that has the id of the job and holds the password. -/
inductive VaultWrite (job : VerifiedJob) (ctx : ExecutionContext) (password : String) :
    History vault → Prop where
  | accepted {cipher : vault.Cipher} {request : vault.CipherRequest}
      (h : Rewrites job ctx password cipher request) :
      VaultWrite job ctx password
        [⟨.getCipher job.attemptId, .ok cipher⟩, ⟨.putCipher job.attemptId request, .ok ()⟩]
  | confirmed {cipher current : vault.Cipher} {request : vault.CipherRequest} {status : UInt16}
      (h : Rewrites job ctx password cipher request)
      (hid : vault.id current = some job.cipherId)
      (hcurrent : vault.cipherHasPassword current password = some true) :
      VaultWrite job ctx password
        [⟨.getCipher job.attemptId, .ok cipher⟩,
          ⟨.putCipher job.attemptId request, .error (.rejected status)⟩,
          ⟨.getCipher job.attemptId, .ok current⟩]

/-- The target was rotated and verified, and then its new password was written to the vault. -/
def CompletedRotation (job : VerifiedJob) (ctx : ExecutionContext) (history : History vault) :
    Prop :=
  ∃ context rotation write, TargetRotated job ctx context rotation ∧
    VaultWrite job ctx context.newPassword write ∧ (rotation ++ write).Sublist history

/-- What the server returns after it has rejected a write is the job's cipher. -/
def ReturnsJobCipher (job : VerifiedJob) (history : History vault) : Prop :=
  ∀ request status current,
    [⟨.putCipher job.attemptId request, .error (.rejected status)⟩,
      ⟨.getCipher job.attemptId, .ok current⟩].Sublist history →
    vault.id current = some job.cipherId

theorem ReturnsJobCipher.of_sublist {job : VerifiedJob} {part history : History vault}
    (h : ReturnsJobCipher job history) (hpart : part.Sublist history) :
    ReturnsJobCipher job part :=
  fun request status current hsub => h request status current (hsub.trans hpart)

/-- The rotation is completed if the re-read cipher, whose id is not checked, is the job's. -/
def ReportedRotation (job : VerifiedJob) (ctx : ExecutionContext) (history : History vault) :
    Prop :=
  ReturnsJobCipher job history → CompletedRotation job ctx history

/-- What an operation of an attempt comes after. -/
def ComesAfter (job : VerifiedJob) (ctx : ExecutionContext) : Op vault → History vault → Prop
  | .start _, history => ¬Reported history
  | .finish _ context, history =>
    ∃ request, Prepares job ctx request context ∧ Reaches (preparation job request context) history
  | .putCipher _ request, history =>
    ∃ context rotation cipher, TargetRotated job ctx context rotation ∧
      Rewrites job ctx context.newPassword cipher request ∧
      Reaches (rotation ++ [⟨.getCipher job.attemptId, .ok cipher⟩]) history
  | .reportSuccess _ _, history => ¬FailureReported history ∧ ReportedRotation job ctx history
  | .reportFailure _ _ _ _, history => ¬Reported history
  | _, _ => True

def InOrder (job : VerifiedJob) (ctx : ExecutionContext) : Guarantee vault :=
  fun op _ history _ => ComesAfter job ctx op history

theorem isReport_of_isPreparatory (op : Op vault) (h : op.isPreparatory = true) :
    op.isReport = false := by
  cases op <;> first | rfl | cases h

theorem comesAfter_of_isPreparatory {job : VerifiedJob} {ctx : ExecutionContext} {op : Op vault}
    (h : op.isPreparatory = true) (history : History vault) : ComesAfter job ctx op history := by
  cases op <;> trivial

/-! ## Parts that only prepare -/

section

variable {job : VerifiedJob} {ctx : ExecutionContext} {rely : Rely vault}
  {pattern : History vault} {world : World} {history : History vault} {program : Task vault τ}

theorem reaches_of_isPreparatory (huses : program.Uses fun op => op.isPreparatory = true)
    (h : Reaches pattern history) :
    Holds (host vault) rely (InOrder job ctx) (fun _ _ history => Reaches pattern history) program
      world history :=
  (holds_of_uses_of_invariant (Reaches pattern)
    (fun _ hop _ history _ _ => comesAfter_of_isPreparatory hop history)
    (fun _ hop _ hreaches => hreaches.skip (isReport_of_isPreparatory _ hop))
    huses world h).mono fun _ _ _ hpost => hpost.1

theorem reaches_of_isLocal (huses : program.Uses fun op => op.isLocal = true)
    (h : Reaches pattern history) :
    Holds (host vault) rely (InOrder job ctx) (fun _ _ history => Reaches pattern history) program
      world history :=
  reaches_of_isPreparatory (huses.mono isPreparatory_of_isLocal) h

end

/-! ## Retried calls -/

section

variable {rely : Rely vault} {guarantee : Guarantee vault} {op : Op vault}
  {classify : op.Answer → Except (Retry × ε) τ}

/-- The result of a retried call is that of its last answer. -/
theorem withRetries_ask_holds (post : Except ε τ → History vault → Prop)
    (inv : History vault → Prop)
    (hlocal : ∀ {program : Task vault Unit} {world : World} {history : History vault},
      (program.Uses fun op => op.isLocal = true) → inv history →
      Holds (host vault) rely guarantee (fun _ _ => inv) program world history)
    (hcall : ∀ world history answer, inv history → guarantee op world history answer)
    (hkept : ∀ history answer, inv history → inv (history ++ [⟨op, answer⟩]))
    (hpost : ∀ history answer, inv history →
      post ((classify answer).mapError Prod.snd) (history ++ [⟨op, answer⟩]))
    (cfg : RetryCfg) {world : World} {history : History vault} (h : inv history) :
    Holds (host vault) rely guarantee (fun result _ => post result)
      (withRetries cfg none do return classify (← ask op)) world history := by
  refine bind (retryFrom_holds (fun _ _ history => inv history)
    (fun _ _ history => inv history) ?_ ?_ ?_ _ _ _ h)
  · intro left world history hinv
    exact hinv
  · intro left world history hinv
    refine holds_perform ?_
    intro current _ answer after _ _
    refine ⟨hcall current history answer hinv, ?_⟩
    have hlast := hpost history answer hinv
    cases hresult : classify answer with
    | ok value =>
      rw [hresult] at hlast
      exact hlast
    | error failure =>
      obtain ⟨retry, e⟩ := failure
      rw [hresult] at hlast
      cases retry with
      | permanent => exact hlast
      | transient =>
        cases left with
        | zero => exact hlast
        | succ left => exact hkept history answer hinv
  · intro left duration world history hinv
    exact hlocal (sleep_uses (fun _ h => h) duration) hinv

end

/-! ## Target-side steps -/

section

/-- The part makes its calls in order and ends as `post` says, whatever the other tasks do. -/
abbrev Attempt.Ensures (attempt : Attempt) (rely : Rely vault)
    (post : τ → World → History vault → Prop) : Task vault τ → World → History vault → Prop :=
  Holds (host vault) rely (InOrder attempt.job attempt.ctx) post

variable (attempt : Attempt) {rely : Rely vault} {world : World} {history : History vault}

variable {request : PasswordGeneratorRequest} {context : RotateContext} {pattern : History vault}

section

variable (hprepares : Prepares attempt.job attempt.ctx request context)
  (hprepared : (preparation attempt.job request context).Sublist pattern)
  (h : Reaches pattern history)

include hprepares hprepared h

theorem runTargetStep_reaches (step : TargetStep) :
    attempt.Ensures rely
      (fun outcome _ history =>
        match outcome with
        | .ok _ => ∃ answer : TargetAnswer, answer.result = .ok () ∧
            Reaches (pattern ++ [⟨.finish step context, answer⟩]) history
        | _ => Reaches pattern history)
      (attempt.runTargetStep context step) world history := by
  refine retryFrom_holds (fun _ _ => Reaches pattern) (fun _ _ => Reaches pattern)
    ?_ ?_ ?_ _ _ _ h
  · intro left world history hreaches
    refine (reaches_of_isLocal (check_uses (fun _ h => h) _ _ _) hreaches).mono ?_
    rintro (abort | _) world history hkept
    · exact hkept
    · exact hkept
  · intro left world history hreaches
    refine holds_immediate rfl ?_
    intro _ after _ _
    refine ⟨hreaches.unreported, holds_perform ?_⟩
    intro current _ answer last _ _
    have hstarted : Reaches pattern (history ++ [⟨.start step, ()⟩]) := hreaches.skip rfl
    refine ⟨⟨request, hprepares, hstarted.unreported, hprepared.trans hstarted.ordered⟩, ?_⟩
    cases hresult : answer.result with
    | ok value => exact ⟨answer, hresult, hstarted.add rfl⟩
    | error e =>
      rw [mapError_error]
      cases hretry : e.retry with
      | permanent => exact hstarted.skip rfl
      | transient =>
        cases left with
        | zero | succ left => exact hstarted.skip rfl
  · intro left duration world history hreaches
    exact reaches_of_isLocal (sleep_uses (fun _ h => h) duration) hreaches

theorem runRequiredStep_reaches (step : TargetStep) :
    attempt.Ensures rely
      (ExceptPost
        (fun _ _ history => ∃ answer : TargetAnswer, answer.result = .ok () ∧
          Reaches (pattern ++ [⟨.finish step context, answer⟩]) history)
        fun _ _ history => ¬Reported history)
      (attempt.runRequiredStep context step) world history := by
  refine bind ((runTargetStep_reaches attempt hprepares hprepared h step).mono ?_)
  rintro (_ | reason | e) world history hpost
  · exact hpost
  · exact hpost.unreported
  · exact hpost.unreported

theorem terminateSessions_reaches :
    attempt.Ensures rely
      (fun _ _ history => Reaches pattern history)
      (attempt.terminateSessions context) world history := by
  unfold Attempt.terminateSessions
  split
  · refine bind
      ((runTargetStep_reaches attempt hprepares hprepared h .terminateSessions).mono ?_)
    rintro (_ | reason | e) world history hpost
    · obtain ⟨answer, -, hreaches⟩ := hpost
      exact ⟨hreaches.unreported, (sublist_append_left _ _).trans hreaches.ordered⟩
    · cases reason <;> exact hpost
    · exact hpost
  · exact h

end

/-! ## The vault write -/

theorem fetchCipher_reaches (h : Reaches pattern history) :
    attempt.Ensures rely
      (fun result _ history =>
        match result with
        | .ok cipher =>
          Reaches (pattern ++ [⟨.getCipher attempt.job.attemptId, .ok cipher⟩]) history
        | .error _ => Reaches pattern history)
      attempt.fetchCipher world history := by
  refine withRetries_ask_holds _ (Reaches pattern) reaches_of_isLocal ?_ ?_ ?_ _ h
  · exact fun _ _ _ _ => trivial
  · exact fun _ _ hreaches => hreaches.skip rfl
  · rintro history (e | cipher) hreaches
    · exact hreaches.skip rfl
    · exact hreaches.add rfl

theorem fetchCheckedCipher_reaches (h : Reaches pattern history) (stage : Stage) :
    attempt.Ensures rely
      (ExceptPost
        (fun cipher _ history => vault.id cipher = some attempt.job.cipherId ∧
          Reaches (pattern ++ [⟨.getCipher attempt.job.attemptId, .ok cipher⟩]) history)
        fun _ _ history => ¬Reported history)
      (attempt.fetchCheckedCipher stage) world history := by
  refine bind ((fetchCipher_reaches attempt h).mono ?_)
  rintro (e | cipher) world history hreaches
  · exact hreaches.unreported
  · simp only
    split
    · rename_i hid
      exact ⟨hid, hreaches⟩
    · exact hreaches.unreported

variable {rotation : History vault}

theorem putCipher_reaches {cipher : vault.Cipher} {request : vault.CipherRequest}
    (hrotation : TargetRotated attempt.job attempt.ctx context rotation)
    (hrewrites : Rewrites attempt.job attempt.ctx context.newPassword cipher request)
    (h : Reaches (rotation ++ [⟨.getCipher attempt.job.attemptId, .ok cipher⟩]) history) :
    attempt.Ensures rely
      (fun result _ history =>
        Reaches (rotation ++ [⟨.getCipher attempt.job.attemptId, .ok cipher⟩] ++
          [⟨.putCipher attempt.job.attemptId request, result⟩]) history)
      (attempt.putCipher request) world history := by
  refine withRetries_ask_holds _
    (Reaches (rotation ++ [⟨.getCipher attempt.job.attemptId, .ok cipher⟩]))
    reaches_of_isLocal ?_ ?_ ?_ _ h
  · exact fun _ _ _ hreaches => ⟨context, rotation, cipher, hrotation, hrewrites, hreaches⟩
  · exact fun _ _ hreaches => hreaches.skip rfl
  · rintro history (e | _) hreaches
    · exact hreaches.add rfl
    · exact hreaches.add rfl

theorem cipherWriteLanded_reaches (h : Reaches pattern history) (newPassword : String) :
    attempt.Ensures rely
      (ExceptPost
        (fun landed _ history =>
          if landed then ∃ current, vault.cipherHasPassword current newPassword = some true ∧
            Reaches (pattern ++ [⟨.getCipher attempt.job.attemptId, .ok current⟩]) history
          else ¬Reported history)
        fun _ _ history => ¬Reported history)
      (attempt.cipherWriteLanded newPassword) world history := by
  refine bind ((fetchCipher_reaches attempt h).mono ?_)
  rintro (e | current) world history hreaches
  · simp only
    split
    · exact hreaches.unreported
    · exact hreaches.unreported
  · change if _ then _ else _
    cases hhas : vault.cipherHasPassword current newPassword with
    | none => exact hreaches.unreported
    | some has =>
      cases has with
      | false => exact hreaches.unreported
      | true => exact ⟨current, hhas, hreaches⟩

theorem writeCipher_reaches (hrotation : TargetRotated attempt.job attempt.ctx context rotation)
    (h : Reaches rotation history) :
    attempt.Ensures rely
      (ExceptPost
        (fun _ _ history => ∃ write,
          (ReturnsJobCipher attempt.job write →
            VaultWrite attempt.job attempt.ctx context.newPassword write) ∧
          Reaches (rotation ++ write) history)
        fun _ _ history => ¬Reported history)
      (attempt.writeCipher context.newPassword) world history := by
  refine (fetchCheckedCipher_reaches attempt h .preWrite).andThen ?_
  rintro cipher world history ⟨hid, hfetched⟩
  split
  · exact hfetched.unreported
  rename_i request hresult
  have hrewrites : Rewrites attempt.job attempt.ctx context.newPassword cipher request := by
    refine ⟨hid, ?_⟩
    unfold Attempt.rotateCipher at hresult
    cases hrotate : vault.rotateCipherPassword attempt.ctx.organizationId cipher
        context.newPassword with
    | ok rotated =>
      rw [hrotate] at hresult
      cases hresult
      rfl
    | error e =>
      rw [hrotate] at hresult
      cases hresult
  refine bind ((putCipher_reaches attempt hrotation hrewrites hfetched).mono ?_)
  intro result world history hput
  rw [append_assoc] at hput
  split
  · exact ⟨_, fun _ => .accepted hrewrites, hput⟩
  · refine bind ((cipherWriteLanded_reaches attempt hput _).mono ?_)
    rintro (reason | landed) world history hlanded
    · exact hlanded
    · cases landed with
      | false => exact hlanded
      | true =>
        obtain ⟨current, hcurrent, hreaches⟩ := hlanded
        rw [append_assoc] at hreaches
        refine ⟨_, fun hreturns => .confirmed hrewrites ?_ hcurrent, hreaches⟩
        exact hreturns _ _ _ (sublist_append_right [_] _)
  · exact hput.unreported

/-! ## The pipeline -/

def HaltsUnreported : Post vault (Except Halt Unit)
  | .error (.report _ _ _), _, history => ¬Reported history
  | _, _, _ => True

theorem haltsUnreported_error {halt : Halt} {history : History vault} (h : ¬Reported history)
    (world : World) : HaltsUnreported (.error halt) world history := by
  cases halt with
  | report code detail sync => exact h
  | abort reason => trivial

theorem haltsUnreported_of_holds {program : Task vault (Except Halt τ)}
    {value : τ → World → History vault → Prop} {guarantee : Guarantee vault}
    (h : Holds (host vault) rely guarantee (ExceptPost value fun _ _ history => ¬Reported history)
      program world history) :
    Holds (host vault) rely guarantee (ExceptPost value fun halt => HaltsUnreported (.error halt))
      program world history := by
  refine h.mono ?_
  rintro (halt | _) world history hpost
  · exact haltsUnreported_error hpost world
  · exact hpost

theorem reportSuccess_reaches (hfailure : ¬FailureReported history)
    (h : ReportedRotation attempt.job attempt.ctx history)
    (termination : SessionTerminationOutcome) :
    attempt.Ensures rely HaltsUnreported
      (attempt.reportSuccess termination) world history := by
  have hkept : ∀ (event : Event (Op vault) Op.Answer) (history : History vault),
      event.op.isFailureReport = false →
      ¬FailureReported history ∧ ReportedRotation attempt.job attempt.ctx history →
      ¬FailureReported (history ++ [event]) ∧
        ReportedRotation attempt.job attempt.ctx (history ++ [event]) := by
    rintro event history hevent ⟨hfailure, hreported⟩
    refine ⟨not_failureReported_append hfailure hevent, ?_⟩
    intro hreturns
    obtain ⟨context, rotation, write, hrotation, hwrite, hordered⟩ :=
      hreported (hreturns.of_sublist (sublist_append_left _ _))
    exact ⟨context, rotation, write, hrotation, hwrite, hordered.trans (sublist_append_left _ _)⟩
  refine bind ((withRetries_ask_holds (fun _ _ => True)
    (fun history => ¬FailureReported history ∧ ReportedRotation attempt.job attempt.ctx history)
    ?_ (fun _ _ _ hinv => hinv) (fun _ _ hinv => hkept _ _ rfl hinv) (fun _ _ _ => trivial) _
    ⟨hfailure, h⟩).mono ?_)
  · intro program world history huses hinv
    refine (holds_of_uses_of_invariant _
      (fun op hop _ history _ _ =>
        comesAfter_of_isPreparatory (isPreparatory_of_isLocal op hop) history)
      (fun event hop history hinv => hkept event history ?_ hinv) huses world hinv).mono
      fun _ _ _ hpost => hpost.1
    obtain ⟨op, answer⟩ := event
    cases op <;> first | rfl | cases hop
  · intro result world history _
    split <;> trivial

theorem runTarget_reaches (hprepares : Prepares attempt.job attempt.ctx request context)
    (h : Reaches (preparation attempt.job request context) history) :
    attempt.Ensures rely HaltsUnreported
      (attempt.runTarget context) world history := by
  refine (haltsUnreported_of_holds
    (runRequiredStep_reaches attempt hprepares (List.Sublist.refl _) h .rotate)).andThen ?_
  rintro _ world history ⟨rotated, hrotated, hreaches⟩
  refine (haltsUnreported_of_holds (runRequiredStep_reaches attempt hprepares
    (sublist_append_left _ _) hreaches .verify)).andThen ?_
  rintro _ world history ⟨verified, hverified, hreaches⟩
  have hrotation := @TargetRotated.intro vault _ _ _ _ _ _ hprepares hrotated hverified
  refine (haltsUnreported_of_holds
    (writeCipher_reaches attempt hrotation hreaches)).andThen ?_
  rintro _ world history ⟨write, hwrite, hreaches⟩
  have hprepared : (preparation attempt.job request context).Sublist
      (preparation attempt.job request context ++ [⟨.finish .rotate context, rotated⟩] ++
        [⟨.finish .verify context, verified⟩] ++ write) := by
    simp only [append_assoc, sublist_append_left]
  have hterminated : attempt.Ensures rely
      (ExceptPost
        (fun _ _ history => ¬FailureReported history ∧
          ReportedRotation attempt.job attempt.ctx history)
        fun halt => HaltsUnreported (.error halt))
      (attempt.terminateSessions context) world history := by
    refine (terminateSessions_reaches attempt hprepares hprepared hreaches).mono ?_
    rintro (halt | termination) world history hreaches
    · exact haltsUnreported_error hreaches.unreported world
    · refine ⟨mt reported_of_failureReported hreaches.unreported, fun hreturns => ?_⟩
      have hreturned := hreturns.of_sublist ((sublist_append_right _ _).trans hreaches.ordered)
      exact ⟨context, _, write, hrotation, hwrite hreturned, hreaches.ordered⟩
  refine hterminated.andThen ?_
  rintro termination world history ⟨hfailure, hcompleted⟩
  exact reportSuccess_reaches attempt hfailure hcompleted termination

theorem resolveCredentials_reaches (h : ¬Reported history) :
    attempt.Ensures rely
      (ExceptPost
        (fun creds _ history =>
          Reaches [⟨.resolve attempt.job.targetSystemId attempt.job.kind, .ok creds⟩] history)
        fun halt => HaltsUnreported (.error halt))
      attempt.resolveCredentials world history := by
  have hstart : Reaches [] history := ⟨h, nil_sublist history⟩
  refine holds_perform ?_
  rintro current - (names | creds) after - -
  · exact ⟨trivial, not_reported_append h rfl⟩
  · exact ⟨trivial, hstart.add rfl⟩

theorem generatePassword_reaches (h : Reaches pattern history) :
    attempt.Ensures rely
      (ExceptPost
        (fun newPassword _ history => ∃ request, attempt.job.generatorRequest = some request ∧
          Reaches (pattern ++ [⟨.generatePassword request, .ok newPassword⟩]) history)
        fun halt => HaltsUnreported (.error halt))
      attempt.generatePassword world history := by
  unfold Attempt.generatePassword
  split
  · exact h.unreported
  · rename_i request hrequest
    refine holds_immediate rfl ?_
    rintro (e | newPassword) after - -
    · exact ⟨trivial, not_reported_append h.unreported rfl⟩
    · exact ⟨trivial, request, hrequest, h.add rfl⟩

theorem run_reaches (h : ¬Reported history) :
    attempt.Ensures rely HaltsUnreported attempt.run world
      history := by
  have hlocal : ∀ op : Op vault, op.isLocal = true → op.isPreparatory = true :=
    isPreparatory_of_isLocal
  have hpart : ∀ {α : Type} {program : Task vault (Except Halt α)} {world : World}
      {history : History vault}, (program.Uses fun op => op.isPreparatory = true) →
      ¬Reported history →
      attempt.Ensures rely
        (ExceptPost (fun _ _ history => ¬Reported history)
          fun halt => HaltsUnreported (.error halt)) program world history := by
    intro α program world history huses hunreported
    refine haltsUnreported_of_holds ((reaches_of_isPreparatory huses
      ⟨hunreported, nil_sublist history⟩).mono ?_)
    rintro (halt | value) world history hreaches
    · exact hreaches.unreported
    · exact hreaches.unreported
  refine (hpart (uses_ask_return (hlocal _ rfl) _) h).andThen ?_
  intro _ world history h
  refine (hpart (preFlight_uses hlocal attempt rfl) h).andThen ?_
  intro _ world history h
  refine (resolveCredentials_reaches attempt h).andThen ?_
  intro creds world history hresolved
  refine (generatePassword_reaches attempt hresolved).andThen ?_
  rintro newPassword world history ⟨request, hrequest, hgenerated⟩
  refine holds_immediate rfl ?_
  intro rotationStartedAt after _ _
  refine ⟨trivial, ?_⟩
  have hready : Reaches [⟨.resolve attempt.job.targetSystemId attempt.job.kind, .ok creds⟩,
      ⟨.generatePassword request, .ok newPassword⟩] (history ++ [⟨.now, rotationStartedAt⟩]) :=
    hgenerated.skip rfl
  split
  · exact haltsUnreported_error hready.unreported _
  · rename_i hlookup
    have hintegration : attempt.ctx.integrations attempt.job.kind = true := by
      unfold Attempt.lookUpIntegration at hlookup
      split at hlookup
      · assumption
      · cases hlookup
    refine runTarget_reaches attempt ?_ hready
    exact ⟨rfl, rfl, hrequest, hintegration⟩

end

theorem execute_inOrder (job : VerifiedJob) (ctx : ExecutionContext) (rounds : ℕ)
    (world : World) :
    Holds (host vault) .any (InOrder job ctx) (fun _ _ _ => True) (execute job ctx rounds) world
      [] := by
  refine bind (holds_immediate rfl ?_)
  intro now after _ _
  refine ⟨trivial, ?_⟩
  have hstart : ¬Reported ([] ++ [⟨.now, now⟩] : History vault) :=
    not_reported_append (by rintro ⟨event, hmem, -⟩; cases hmem) rfl
  refine bind ((run_reaches ⟨job, ctx, _, rounds⟩ hstart).mono ?_)
  rintro ((⟨code, detail, sync⟩ | reason) | _) world history hhalts
  · refine holds_perform ?_
    intro current _ answer last _ _
    exact ⟨hhalts, trivial⟩
  · trivial
  · trivial

/-! ## Reports -/

/-- An attempt that sends a success report has reported no failure and, if the cipher that
confirms a rejected write is the job's, completed its rotation. One that sends a failure report,
starts a target-side step or writes the cipher has reported nothing. -/
theorem reports_follow_rotation (job : VerifiedJob) (ctx : ExecutionContext) (rounds : ℕ)
    (world : World) {labels : List (HostLabel (Op vault) Op.Answer EnvironmentStep)}
    {last : Process (Op vault) Op.Answer World ExecutionResult} {op : Op vault}
    (hrun : run (host vault).step (attemptIn world job ctx rounds) labels = some last)
    (hwaits : last.program.waitsFor = some op) :
    (∀ attemptId termination, op = .reportSuccess attemptId termination →
      ¬FailureReported last.history ∧
        (ReturnsJobCipher job last.history → CompletedRotation job ctx last.history)) ∧
    (∀ attemptId code detail sync, op = .reportFailure attemptId code detail sync →
      ¬Reported last.history) ∧
    (∀ step, op = .start step → ¬Reported last.history) ∧
    ∀ attemptId request, op = .putCipher attemptId request → ¬Reported last.history := by
  have hafter : ∀ answer, (host vault).answer op last.world answer = some last.world →
      ComesAfter job ctx op last.history := fun answer hanswer =>
    guarantee_of_waitsFor (execute_inOrder job ctx rounds world) hrun hwaits hanswer
  refine ⟨?_, ?_, ?_, ?_⟩
  · rintro attemptId termination rfl
    exact hafter (.ok ()) rfl
  · rintro attemptId code detail sync rfl
    exact hafter (.ok ()) rfl
  · rintro step rfl
    exact hafter () rfl
  · rintro attemptId request rfl
    obtain ⟨context, rotation, cipher, -, -, hreaches⟩ := hafter (.ok ()) rfl
    exact hreaches.unreported

def verifiedRun : List (HostLabel (Op sampleVault) Op.Answer EnvironmentStep) :=
  samplePreparation ++ sampleGate 0 ++
    [ .answer (.finish .rotate sampleRotation) ⟨.ok (), true⟩,
      .answer .now (0 : ℕ),
      .answer .isCancelled false,
      .answer (.phase .gate) .active,
      .answer .lastOk (0 : ℕ),
      .answer .now (0 : ℕ),
      .answer (.start .verify) (),
      .answer (.finish .verify sampleRotation) ⟨.ok (), false⟩,
      .answer (.getCipher 1) (.ok (2 : ℕ)) ]

/-- The server rejects the write and then returns this cipher. -/
def confirmedRun (current : Uuid) : List (HostLabel (Op sampleVault) Op.Answer EnvironmentStep) :=
  verifiedRun ++
    [ .answer (.putCipher 1 "password") (.error (.rejected 409)),
      .answer (.getCipher 1) (.ok current) ]

def cipherAnswer : Event (Op sampleVault) Op.Answer → Option (Uuid ⊕ Bool)
  | ⟨.getCipher _, .ok cipher⟩ => some (.inl cipher)
  | ⟨.putCipher _ _, answer⟩ => some (.inr answer.toBool)
  | _ => none

theorem exists_confirmedRun (current : Uuid)
    (h : (run (host sampleVault).step (attemptIn sampleWorld sampleJob sampleContext 3)
      (confirmedRun current)).map (fun process =>
        (process.program.waitsFor, process.history.filterMap cipherAnswer)) =
      some (some (.reportSuccess 1 .notRequested), [.inl 2, .inl 2, .inr false, .inl current])) :
    ∃ last, run (host sampleVault).step (attemptIn sampleWorld sampleJob sampleContext 3)
        (confirmedRun current) = some last ∧
      last.program.waitsFor = some (.reportSuccess 1 .notRequested) ∧
      last.history.filterMap cipherAnswer = [.inl 2, .inl 2, .inr false, .inl current] := by
  obtain ⟨last, hrun, hlast⟩ := Option.map_eq_some_iff.mp h
  exact ⟨last, hrun, Prod.mk.inj hlast⟩

theorem confirmedRun_reports :
    ∃ last, run (host sampleVault).step (attemptIn sampleWorld sampleJob sampleContext 3)
        (confirmedRun 2) = some last ∧
      last.program.waitsFor = some (.reportSuccess 1 .notRequested) ∧
      CompletedRotation sampleJob sampleContext last.history := by
  obtain ⟨last, hrun, hwaits, hanswers⟩ := exists_confirmedRun 2 (by decide +kernel)
  have hreports := reports_follow_rotation sampleJob sampleContext 3 sampleWorld hrun hwaits
  refine ⟨last, hrun, hwaits, (hreports.1 1 .notRequested rfl).2 ?_⟩
  intro request status (current : Uuid) hsub
  have hread : Sum.inl current ∈ last.history.filterMap cipherAnswer :=
    (hsub.filterMap cipherAnswer).subset (mem_cons_of_mem _ mem_cons_self)
  have hjob : current = 2 := by simpa [hanswers] using hread
  exact congrArg some hjob

/-- A cipher that is not the job's holds the password, and the attempt reports success. -/
theorem foreign_cipher_confirms :
    ∃ last, run (host sampleVault).step (attemptIn sampleWorld sampleJob sampleContext 3)
        (confirmedRun 9) = some last ∧
      last.program.waitsFor = some (.reportSuccess 1 .notRequested) ∧
      ¬CompletedRotation sampleJob sampleContext last.history := by
  obtain ⟨last, hrun, hwaits, hanswers⟩ := exists_confirmedRun 9 (by decide +kernel)
  refine ⟨last, hrun, hwaits, ?_⟩
  rintro ⟨context, rotation, write, -, hwrite, hordered⟩
  have hsub := ((sublist_append_right _ _).trans hordered).filterMap cipherAnswer
  rw [hanswers] at hsub
  cases hwrite with
  | accepted h =>
    cases h.id
    exact absurd hsub (show ¬[Sum.inl 2, Sum.inr true].Sublist _ by decide)
  | confirmed h hid =>
    cases h.id
    cases hid
    exact absurd hsub (show ¬[Sum.inl 2, Sum.inr false, Sum.inl 2].Sublist _ by decide)

end SdkInternal.AccessConnector
