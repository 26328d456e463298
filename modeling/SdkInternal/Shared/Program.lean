import SdkInternal.Shared.Run

/-! # Programs with operations

A program calls operations and goes on with their answers. A host says which answers are
possible and what they do to its world, which an environment changes while the program waits.
Rules of pre- and postconditions carry what one operation does to all runs of a program. -/

namespace SdkInternal.Shared

/-- A program is suspended where one of its loops has used up the rounds it was given. -/
inductive Program (ι : Type) (ο : ι → Type) (α : Type) where
  | done (value : α)
  | call (op : ι) (next : ο op → Program ι ο α)
  | suspended

namespace Program

variable {ι : Type} {ο : ι → Type} {α β ε : Type}

def bind : Program ι ο α → (α → Program ι ο β) → Program ι ο β
  | .done value, f => f value
  | .call op next, f => .call op fun answer => (next answer).bind f
  | .suspended, _ => .suspended

instance : Monad (Program ι ο) where
  pure := .done
  bind := bind

def perform (op : ι) : Program ι ο (ο op) := .call op .done

def andThen (program : Program ι ο (Except ε α)) (next : α → Program ι ο (Except ε β)) :
    Program ι ο (Except ε β) :=
  program.bind fun result =>
    match result with
    | .ok value => next value
    | .error e => .done (.error e)

def waitsFor : Program ι ο α → Option ι
  | .call op _ => some op
  | _ => none

def Uses (allowed : ι → Prop) : Program ι ο α → Prop
  | .done _ => True
  | .call op next => allowed op ∧ ∀ answer, (next answer).Uses allowed
  | .suspended => True

variable {f : α → Program ι ο β} {allowed : ι → Prop} {program : Program ι ο α}

theorem Uses.bind (h : program.Uses allowed) (hf : ∀ value, (f value).Uses allowed) :
    (program.bind f).Uses allowed := by
  induction program with
  | done value => exact hf value
  | call op next ih => exact ⟨h.1, fun answer => ih answer (h.2 answer)⟩
  | suspended => trivial

theorem Uses.mono {allowed weaker : ι → Prop} (h : program.Uses allowed)
    (hweaker : ∀ op, allowed op → weaker op) : program.Uses weaker := by
  induction program with
  | done value | suspended => trivial
  | call op next ih => exact ⟨hweaker op h.1, fun answer => ih answer (h.2 answer)⟩

variable {next : α → Program ι ο (Except ε β)} {program : Program ι ο (Except ε α)}

theorem Uses.andThen (h : program.Uses allowed) (hnext : ∀ value, (next value).Uses allowed) :
    (program.andThen next).Uses allowed := by
  refine h.bind ?_
  intro result
  cases result with
  | ok value => exact hnext value
  | error e => trivial

/-- All results of the program have a property, whatever the answers are. -/
def Returns (result : α → Prop) : Program ι ο α → Prop
  | .done value => result value
  | .call _ next => ∀ answer, (next answer).Returns result
  | .suspended => True

theorem Returns.bind {result : β → Prop} (hf : ∀ value, (f value).Returns result)
    (program : Program ι ο α) :
    (program.bind f).Returns result := by
  induction program with
  | done value => exact hf value
  | call op next ih => exact fun answer => ih answer
  | suspended => trivial

theorem Returns.andThen {result : Except ε β → Prop} {first : Except ε α → Prop}
    (h : program.Returns first) (herror : ∀ e, first (.error e) → result (.error e))
    (hnext : ∀ value, (next value).Returns result) : (program.andThen next).Returns result := by
  induction program with
  | done outcome =>
    cases outcome with
    | ok value => exact hnext value
    | error e => exact herror e h
  | call op rest ih => exact fun answer => ih answer (h answer)
  | suspended => trivial

end Program

/-! ## Hosts -/

structure Event (ι : Type) (ο : ι → Type) where
  op : ι
  answer : ο op

structure Host (ι : Type) (ο : ι → Type) (ε σ : Type) where
  /-- Nothing else happens until the operation is answered. -/
  immediate : ι → Bool
  environment : σ → ε → Option σ
  /-- The world after an answer, if it is possible. -/
  answer : (op : ι) → σ → ο op → Option σ

inductive HostLabel (ι : Type) (ο : ι → Type) (ε : Type) where
  | environment (step : ε)
  | answer (op : ι) (answer : ο op)

structure Process (ι : Type) (ο : ι → Type) (σ α : Type) where
  world : σ
  history : List (Event ι ο)
  program : Program ι ο α

variable {ι : Type} {ο : ι → Type} {ε σ α β : Type}

namespace Host

variable (host : Host ι ο ε σ)

/-- The environment waits for the answer of an immediate operation. -/
def interruptible : Program ι ο α → Bool
  | .call op _ => !host.immediate op
  | _ => true

def step [DecidableEq ι] (process : Process ι ο σ α) : HostLabel ι ο ε → Option (Process ι ο σ α)
  | .environment e =>
    if host.interruptible process.program then
      (host.environment process.world e).map fun world => { process with world }
    else none
  | .answer op answer =>
    match process.program with
    | .call expected next =>
      if h : op = expected then
        (host.answer op process.world answer).map fun world =>
          ⟨world, process.history ++ [⟨op, answer⟩], next (h ▸ answer)⟩
      else none
    | _ => none

end Host

/-! ## Contracts -/

/-- What the steps of the environment and the answers are required to meet. A step of the
environment may depend on the operation that the program waits for. -/
structure Contract (ι : Type) (ο : ι → Type) (ε σ : Type) where
  environment : ι → σ → ε → Prop
  answer : (op : ι) → σ → List (Event ι ο) → ο op → Prop

variable (contract : Contract ι ο ε σ)

def Contract.Step (process : Process ι ο σ α) : HostLabel ι ο ε → Prop
  | .environment e =>
    match process.program with
    | .call op _ => contract.environment op process.world e
    | _ => True
  | .answer op answer => contract.answer op process.world process.history answer

def Contract.any : Contract ι ο ε σ := ⟨fun _ _ _ => True, fun _ _ _ _ => True⟩

/-- Steps of the environment while the program waits for an operation. -/
inductive Interferes (host : Host ι ο ε σ) (rely : Contract ι ο ε σ) (op : ι) : σ → σ → Prop where
  | refl (world : σ) : Interferes host rely op world world
  | step {world next last : σ} {e : ε} (himmediate : host.immediate op = false)
      (henv : host.environment world e = some next) (hrely : rely.environment op world e)
      (hrest : Interferes host rely op next last) : Interferes host rely op world last

/-- Every answer of the program meets the guarantee, as long as the environment and the answers
meet what is relied on, and its result meets the postcondition. -/
def Holds (host : Host ι ο ε σ) (rely : Contract ι ο ε σ)
    (guarantee : (op : ι) → σ → List (Event ι ο) → ο op → Prop)
    (post : α → σ → List (Event ι ο) → Prop) :
    Program ι ο α → σ → List (Event ι ο) → Prop
  | .done value, world, history => post value world history
  | .suspended, _, _ => True
  | .call op next, world, history =>
    ∀ current, Interferes host rely op world current → ∀ answer after,
      host.answer op current answer = some after → rely.answer op current history answer →
      guarantee op current history answer ∧
        Holds host rely guarantee post (next answer) after (history ++ [⟨op, answer⟩])

section

variable {host : Host ι ο ε σ} {rely : Contract ι ο ε σ}
  {guarantee : (op : ι) → σ → List (Event ι ο) → ο op → Prop}
  {post : α → σ → List (Event ι ο) → Prop} {world : σ} {history : List (Event ι ο)}

variable {op : ι} {program : Program ι ο α} {allowed : ι → Prop} {process : Process ι ο σ α}

theorem Interferes.of_immediate {current : σ} (himmediate : host.immediate op = true)
    (h : Interferes host rely op world current) : current = world := by
  cases h with
  | refl => rfl
  | step hfalse _ _ _ => simp [himmediate] at hfalse

variable (inv : σ → Prop)

theorem Interferes.invariant {current : σ}
    (hstep : ∀ world e next, host.environment world e = some next →
      rely.environment op world e → inv world → inv next)
    (h : Interferes host rely op world current) (hinv : inv world) : inv current := by
  induction h with
  | refl => exact hinv
  | step _ henv hrely _ ih => exact ih (hstep _ _ _ henv hrely hinv)

theorem Holds.mono {weaker : α → σ → List (Event ι ο) → Prop}
    (h : Holds host rely guarantee post program world history)
    (hpost : ∀ value world history, post value world history → weaker value world history) :
    Holds host rely guarantee weaker program world history := by
  induction program generalizing world history with
  | done value => exact hpost value world history h
  | suspended => trivial
  | call op next ih =>
    intro current hcurrent answer after hanswer hrely
    obtain ⟨hguarantee, hnext⟩ := h current hcurrent answer after hanswer hrely
    exact ⟨hguarantee, ih answer hnext⟩

theorem Holds.bind {program : Program ι ο β} {f : β → Program ι ο α}
    (h : Holds host rely guarantee
      (fun value world history => Holds host rely guarantee post (f value) world history)
      program world history) :
    Holds host rely guarantee post (program.bind f) world history := by
  induction program generalizing world history with
  | done value => exact h
  | suspended => trivial
  | call op next ih =>
    intro current hcurrent answer after hanswer hrely
    obtain ⟨hguarantee, hnext⟩ := h current hcurrent answer after hanswer hrely
    exact ⟨hguarantee, ih answer hnext⟩

def ExceptPost {δ : Type} (ok : α → σ → List (Event ι ο) → Prop)
    (error : δ → σ → List (Event ι ο) → Prop) : Except δ α → σ → List (Event ι ο) → Prop
  | .ok value => ok value
  | .error e => error e

theorem exceptPost_of_forall {δ : Type} {ok : α → σ → List (Event ι ο) → Prop}
    {error : δ → σ → List (Event ι ο) → Prop}
    (hok : ∀ value world history, ok value world history)
    (herror : ∀ e world history, error e world history) (result : Except δ α) (world : σ)
    (history : List (Event ι ο)) : ExceptPost ok error result world history := by
  cases result with
  | ok value => exact hok value world history
  | error e => exact herror e world history

theorem Holds.andThen {δ : Type} {program : Program ι ο (Except δ β)}
    {next : β → Program ι ο (Except δ α)} {value : β → σ → List (Event ι ο) → Prop}
    {post : Except δ α → σ → List (Event ι ο) → Prop}
    (h : Holds host rely guarantee (ExceptPost value fun e => post (.error e)) program world
      history)
    (hnext : ∀ result world history, value result world history →
      Holds host rely guarantee post (next result) world history) :
    Holds host rely guarantee post (program.andThen next) world history := by
  refine (h.mono ?_).bind
  rintro (e | result) world history hresult
  · exact hresult
  · exact hnext result world history hresult

variable {f : ο op → Program ι ο α}

theorem holds_perform (h : ∀ current, Interferes host rely op world current → ∀ answer after,
      host.answer op current answer = some after → rely.answer op current history answer →
      guarantee op current history answer ∧
        Holds host rely guarantee post (f answer) after (history ++ [⟨op, answer⟩])) :
    Holds host rely guarantee post ((Program.perform op).bind f) world history := h

theorem holds_immediate (himmediate : host.immediate op = true)
    (h : ∀ answer after, host.answer op world answer = some after →
      rely.answer op world history answer → guarantee op world history answer ∧
        Holds host rely guarantee post (f answer) after (history ++ [⟨op, answer⟩])) :
    Holds host rely guarantee post ((Program.perform op).bind f) world history := by
  refine holds_perform ?_
  intro current hcurrent answer after hanswer hrely
  obtain rfl := hcurrent.of_immediate himmediate
  exact h answer after hanswer hrely

/-- A contract together with a property of the world. -/
def Contract.under : Contract ι ο ε σ where
  environment op world e := contract.environment op world e ∧ inv world
  answer op world history answer := contract.answer op world history answer ∧ inv world

/-- A property that all steps keep can be relied on at every step. -/
theorem Holds.of_under
    (henvironment : ∀ world e next, host.environment world e = some next → inv world → inv next)
    (hanswer : ∀ op world answer next, host.answer op world answer = some next →
      inv world → inv next) (h : Holds host (rely.under inv) guarantee post program world history)
    (hinv : inv world) : Holds host rely guarantee post program world history := by
  induction program generalizing world history with
  | done value => exact h
  | suspended => trivial
  | call op next ih =>
    intro current hcurrent answer after hafter hrely
    have hinterferes : Interferes host (rely.under inv) op world current ∧ inv current := by
      clear h hafter hrely
      induction hcurrent with
      | refl => exact ⟨.refl _, hinv⟩
      | step himmediate henv hstep _ ih =>
        obtain ⟨hrest, hlast⟩ := ih (henvironment _ _ _ henv hinv)
        exact ⟨.step himmediate henv ⟨hstep, hinv⟩ hrest, hlast⟩
    obtain ⟨hguarantee, hnext⟩ :=
      h current hinterferes.1 answer after hafter ⟨hrely, hinterferes.2⟩
    exact ⟨hguarantee, ih answer hnext (hanswer _ _ _ _ hafter hinterferes.2)⟩

/-- A program adds events of its operations only. The guarantee may rest on what these keep of
the history. -/
theorem holds_of_uses_of_invariant (inv : List (Event ι ο) → Prop)
    (hallowed : ∀ op, allowed op → ∀ world history answer, inv history →
      guarantee op world history answer)
    (hevent : ∀ event : Event ι ο, allowed event.op → ∀ history, inv history →
      inv (history ++ [event])) (h : program.Uses allowed) (world : σ) {history : List (Event ι ο)}
    (hinv : inv history) :
    Holds host rely guarantee (fun _ _ after => inv after ∧ ∃ events, after = history ++ events ∧
      ∀ event ∈ events, allowed event.op) program world history := by
  have hprogram : ∀ start before : List (Event ι ο), history = start ++ before →
      (∀ event ∈ before, allowed event.op) →
      Holds host rely guarantee (fun _ _ after => inv after ∧ ∃ events, after = start ++ events ∧
        ∀ event ∈ events, allowed event.op) program world history := by
    induction program generalizing world history with
    | done value => exact fun start before heq hbefore => ⟨hinv, before, heq, hbefore⟩
    | suspended => exact fun _ _ _ _ => trivial
    | call op next ih =>
      intro start before heq hbefore current _ answer after _ _
      refine ⟨hallowed op h.1 _ _ _ hinv, ih answer (h.2 answer) after
        (hevent ⟨op, answer⟩ h.1 history hinv) start
        (before ++ [⟨op, answer⟩]) (by rw [heq, List.append_assoc]) ?_⟩
      intro event hevent
      rcases List.mem_append.mp hevent with hevent | hevent
      · exact hbefore event hevent
      · rw [List.mem_singleton.mp hevent]
        exact h.1
  exact hprogram history [] (List.append_nil history).symm (by simp)

/-- A program whose operations all meet the guarantee only adds their events. -/
theorem holds_of_uses
    (hallowed : ∀ op, allowed op → ∀ world history answer, guarantee op world history answer)
    (h : program.Uses allowed) (world : σ) (history : List (Event ι ο)) :
    Holds host rely guarantee (fun _ _ after => ∃ events, after = history ++ events ∧
      ∀ event ∈ events, allowed event.op) program world history :=
  (holds_of_uses_of_invariant (fun _ => True)
    (fun op hop world history answer _ => hallowed op hop world history answer)
    (fun _ _ _ _ => trivial) h world trivial).mono fun _ _ _ hpost => hpost.2

theorem Holds.of_returns {result : α → Prop}
    (h : Holds host rely guarantee post program world history) (hreturns : program.Returns result) :
    Holds host rely guarantee
      (fun value world history => result value ∧ post value world history) program world
      history := by
  induction program generalizing world history with
  | done value => exact ⟨hreturns, h⟩
  | suspended => trivial
  | call op next ih =>
    intro current hcurrent answer after hanswer hrely
    obtain ⟨hguarantee, hnext⟩ := h current hcurrent answer after hanswer hrely
    exact ⟨hguarantee, ih answer hnext (hreturns answer)⟩

theorem holds_of_uses_of_forall
    (hallowed : ∀ op, allowed op → ∀ world history answer, guarantee op world history answer)
    (h : program.Uses allowed) (hpost : ∀ value world history, post value world history) (world : σ)
    (history : List (Event ι ο)) :
    Holds host rely guarantee post program world history :=
  (holds_of_uses hallowed h world history).mono fun value world history _ =>
    hpost value world history

/-! ## Runs -/

def guaranteed (guarantee : (op : ι) → σ → List (Event ι ο) → ο op → Prop) :
    Contract ι ο ε σ := ⟨fun _ _ _ => True, guarantee⟩

theorem meets_any [DecidableEq ι] (process : Process ι ο σ α) (labels : List (HostLabel ι ο ε)) :
    Meets host.step (Contract.any : Contract ι ο ε σ).Step process labels := by
  refine meets_of_forall _ ?_ process
  intro label _ process
  cases label with
  | environment e =>
    simp only [Contract.Step]
    split <;> trivial
  | answer op answer => trivial

variable (host rely guarantee) in
/-- What is left of a process meets the guarantee. -/
abbrev Process.Safe (process : Process ι ο σ α) : Prop :=
  Holds host rely guarantee (fun _ _ _ => True) process.program process.world process.history

theorem step_holds [DecidableEq ι] {next : Process ι ο σ α} {label : HostLabel ι ο ε}
    (h : process.Safe host rely guarantee) (hrely : rely.Step process label)
    (hstep : host.step process label = some next) :
    (guaranteed guarantee : Contract ι ο ε σ).Step process label ∧
      next.Safe host rely guarantee := by
  obtain ⟨world, history, program⟩ := process
  cases label with
  | environment e =>
    cases program with
    | done value | suspended =>
      obtain ⟨after, hafter, rfl⟩ := Option.map_eq_some_iff.mp hstep
      exact ⟨trivial, trivial⟩
    | call op rest =>
      cases himmediate : host.immediate op with
      | true => simp [Host.step, Host.interruptible, himmediate] at hstep
      | false =>
        simp only [Host.step, Host.interruptible, himmediate, Bool.not_false, if_true] at hstep
        obtain ⟨after, hafter, rfl⟩ := Option.map_eq_some_iff.mp hstep
        refine ⟨trivial, ?_⟩
        intro current hcurrent
        exact h current (.step himmediate hafter hrely hcurrent)
  | answer op answer =>
    cases program with
    | done value | suspended => cases hstep
    | call expected rest =>
      simp only [Host.step] at hstep
      split_ifs at hstep with hop
      subst hop
      obtain ⟨after, hafter, rfl⟩ := Option.map_eq_some_iff.mp hstep
      exact h world (.refl world) answer after hafter hrely

variable {labels : List (HostLabel ι ο ε)} {last : Process ι ο σ α}

/-- In a run whose steps meet what is relied on, all answers meet the guarantee. -/
theorem run_safe [DecidableEq ι] (h : process.Safe host rely guarantee)
    (hrely : Meets host.step rely.Step process labels)
    (hrun : run host.step process labels = some last) :
    Meets host.step (guaranteed guarantee : Contract ι ο ε σ).Step process labels ∧
      last.Safe host rely guarantee :=
  meets_of_invariant host.step (Process.Safe host rely guarantee)
    (fun _ _ _ hstep hnext hsafe => step_holds hsafe hstep hnext) hrely hrun h

/-- A process that waits for an operation meets the guarantee of each of its possible answers. -/
theorem guarantee_of_waitsFor [DecidableEq ι] {answer : ο op} {after : σ}
    (h : process.Safe host .any guarantee) (hrun : run host.step process labels = some last)
    (hwaits : last.program.waitsFor = some op)
    (hanswer : host.answer op last.world answer = some after) :
    guarantee op last.world last.history answer := by
  have hlast := (run_safe h (meets_any process labels) hrun).2
  obtain ⟨world, history, program⟩ := last
  cases program with
  | done value | suspended => cases hwaits
  | call expected next =>
    obtain rfl : expected = op := Option.some.inj hwaits
    exact (hlast world (.refl world) answer after hanswer trivial).1

end

end SdkInternal.Shared
