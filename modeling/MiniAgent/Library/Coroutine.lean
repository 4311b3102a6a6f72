import Mathlib.Data.List.Basic

/-! # Coroutines over an environment

A coroutine works on a state of its own, calls an environment and either returns or raises. Nothing
is assumed of the environment: a run is one choice of all answers, and a statement about a coroutine
is a statement about every run, that is about the events the run produced, the state it left and how
it ended. The state survives a raised exception, as the attributes of an object do.
-/

/-- A call to the environment together with the answer it got. -/
structure Event {Call : Type} (Answer : Call → Type) where
  call : Call
  answer : Answer call

/-- A program returns a value, or calls the environment and goes on with the answer. -/
inductive Program {Call : Type} (Answer : Call → Type) (α : Type)
  | done (value : α)
  | ask (call : Call) (next : Answer call → Program Answer α)

namespace Program

variable {Call : Type} {Answer : Call → Type} {α β : Type}

def bind (program : Program Answer α) (next : α → Program Answer β) : Program Answer β :=
  match program with
  | .done value => next value
  | .ask call rest => .ask call fun answer => (rest answer).bind next

/-- The runs of a program: its events in order, and the value it ends with. -/
inductive Runs : Program Answer α → List (Event Answer) → α → Prop
  | done (value : α) : Runs (.done value) [] value
  | ask {call : Call} {next : Answer call → Program Answer α} {events : List (Event Answer)}
      {value : α} (answer : Answer call) (rest : Runs (next answer) events value) :
      Runs (.ask call next) (⟨call, answer⟩ :: events) value

theorem runs_done_iff {value result : α} {events : List (Event Answer)} :
    (done value : Program Answer α).Runs events result ↔ events = [] ∧ result = value := by
  constructor
  · intro run
    cases run
    exact ⟨rfl, rfl⟩
  · rintro ⟨rfl, rfl⟩
    exact .done _

theorem runs_ask_iff {call : Call} {next : Answer call → Program Answer α} {result : α}
    {events : List (Event Answer)} :
    (ask call next).Runs events result ↔
      ∃ answer rest, events = ⟨call, answer⟩ :: rest ∧ (next answer).Runs rest result := by
  constructor
  · intro run
    cases run with
    | ask answer rest => exact ⟨answer, _, rfl, rest⟩
  · rintro ⟨answer, rest, rfl, run⟩
    exact .ask answer run

/-- A run of two programs in sequence is a run of the first followed by a run of the second. -/
theorem runs_bind_iff {program : Program Answer α} {next : α → Program Answer β} {result : β}
    {events : List (Event Answer)} :
    (program.bind next).Runs events result ↔ ∃ before value after,
      events = before ++ after ∧ program.Runs before value ∧ (next value).Runs after result := by
  induction program generalizing events with
  | done value =>
    constructor
    · intro run
      exact ⟨[], value, events, rfl, .done value, run⟩
    · rintro ⟨before, middle, after, rfl, first, second⟩
      obtain ⟨rfl, rfl⟩ := runs_done_iff.mp first
      exact second
  | ask call rest ih =>
    simp only [bind, runs_ask_iff, ih]
    constructor
    · rintro ⟨answer, _, rfl, before, value, after, rfl, first, second⟩
      exact ⟨_ :: before, value, after, rfl, ⟨answer, before, rfl, first⟩, second⟩
    · rintro ⟨_, value, after, rfl, ⟨answer, before, rfl, first⟩, second⟩
      exact ⟨answer, before ++ after, rfl, before, value, after, rfl, first, second⟩

/-- The answers decide a run: of two runs along one list of events neither goes on after the other
has ended. -/
theorem Runs.unique {program : Program Answer α} {before after earlier later : List (Event Answer)}
    {value other : α} (first : program.Runs before value) (second : program.Runs earlier other)
    (same : before ++ after = earlier ++ later) : before = earlier ∧ value = other ∧
    after = later := by
  induction first generalizing earlier with
  | done value =>
    obtain ⟨rfl, rfl⟩ := runs_done_iff.mp second
    exact ⟨rfl, rfl, same⟩
  | ask answer rest ih =>
    obtain ⟨again, events, rfl, run⟩ := runs_ask_iff.mp second
    obtain ⟨head, tail⟩ := List.cons.inj same
    obtain rfl := eq_of_heq (Event.mk.inj head).2
    obtain ⟨rfl, rfl, rfl⟩ := ih run tail
    exact ⟨rfl, rfl, rfl⟩

theorem bind_done (program : Program Answer α) : program.bind .done = program := by
  induction program with
  | done value => rfl
  | ask call next ih => simp only [bind, ih]

theorem bind_assoc {γ : Type} (program : Program Answer α) (first : α → Program Answer β)
    (second : β → Program Answer γ) :
    (program.bind first).bind second = program.bind fun value => (first value).bind second := by
  induction program with
  | done value => rfl
  | ask call next ih => simp only [bind, ih]

/-- The run that an environment gives when it answers by the history of the run. -/
def simulate (environment : List (Event Answer) → (call : Call) → Answer call) :
    Program Answer α → List (Event Answer) → List (Event Answer) × α
  | .done value, _ => ([], value)
  | .ask call next, history =>
    let event : Event Answer := ⟨call, environment history call⟩
    let rest := (next event.answer).simulate environment (history ++ [event])
    (event :: rest.1, rest.2)

theorem runs_simulate (environment : List (Event Answer) → (call : Call) → Answer call)
    (program : Program Answer α) (history : List (Event Answer)) :
    program.Runs (program.simulate environment history).1
    (program.simulate environment history).2 := by
  induction program generalizing history with
  | done value => exact .done value
  | ask call next ih => exact .ask _ (ih _ _)

/-- An environment that forgets the history answers every call by the same rule. -/
theorem simulate_eq_map (answers : (call : Call) → Answer call) (program : Program Answer α)
    (history : List (Event Answer)) :
    (program.simulate (fun _ => answers) history).1 =
      ((program.simulate (fun _ => answers) history).1.map (·.call)).map fun call =>
      ⟨call, answers call⟩ := by
  induction program generalizing history with
  | done value => rfl
  | ask call next ih => exact congrArg (_ :: ·) (ih _ _)

/-- Two environments that agree on the calls a program may make give it the same run. -/
theorem simulate_congr {environment other : List (Event Answer) → (call : Call) → Answer call}
    {allowed : Call → Prop}
    (agree : ∀ history call, allowed call → environment history call = other history call)
    {program : Program Answer α}
    (keeps : ∀ events value, program.Runs events value → ∀ event ∈ events, allowed event.call)
    (history : List (Event Answer)) :
    program.simulate environment history = program.simulate other history := by
  induction program generalizing history with
  | done value => rfl
  | ask call next ih =>
    have first : allowed call :=
      keeps _ _ (.ask (environment history call) (runs_simulate environment _ [])) _
        List.mem_cons_self
    have rest (answer : Answer call) : (next answer).simulate environment
        (history ++ [⟨call, answer⟩]) =
        (next answer).simulate other (history ++ [⟨call, answer⟩]) := by
      apply ih answer
      intro events value run event member
      exact keeps _ _ (.ask answer run) event (List.mem_cons_of_mem _ member)
    simp only [simulate, agree history call first, rest]

end Program

/-- A program on a state that ends with a value or an exception. -/
def Coroutine {Call : Type} (Answer : Call → Type) (σ ε α : Type) : Type :=
  σ → Program Answer (Except ε α × σ)

namespace Coroutine

variable {Call : Type} {Answer : Call → Type} {σ ε α β : Type}

instance : Monad (Coroutine Answer σ ε) where
  pure value := fun state => .done (.ok value, state)
  bind action next := fun state => (action state).bind fun
    | (.ok value, state) => next value state
    | (.error failure, state) => .done (.error failure, state)

instance : LawfulMonad (Coroutine Answer σ ε) := by
  refine LawfulMonad.mk' _ ?_ ?_ ?_
  · intro α action
    funext state
    refine Eq.trans ?_ (Program.bind_done (action state))
    refine congrArg (action state).bind (funext ?_)
    rintro ⟨outcome | outcome, final⟩ <;> rfl
  · intro α β value next
    rfl
  · intro α β γ action first second
    funext state
    refine (Program.bind_assoc (action state) _ _).trans ?_
    refine congrArg (action state).bind (funext ?_)
    rintro ⟨outcome | outcome, final⟩ <;> rfl

instance : MonadExceptOf ε (Coroutine Answer σ ε) where
  throw failure := fun state => .done (.error failure, state)
  tryCatch action handler := fun state => (action state).bind fun
    | (.ok value, state) => .done (.ok value, state)
    | (.error failure, state) => handler failure state

/-- Call the environment. -/
def ask (call : Call) : Coroutine Answer σ ε (Answer call) :=
  fun state => .ask call fun answer => .done (.ok answer, state)

/-- Change the coroutine's own state. -/
def modify (change : σ → σ) : Coroutine Answer σ ε Unit :=
  fun state => .done (.ok (), change state)

/-- Read the coroutine's own state. -/
def read : Coroutine Answer σ ε σ := fun state => .done (.ok state, state)

/-- Return or raise what was already computed. -/
def ofExcept (outcome : Except ε α) : Coroutine Answer σ ε α := fun state => .done (outcome, state)

/-- Raise the failure unless the condition holds. -/
def require (condition : Bool) (failure : ε) : Coroutine Answer σ ε Unit :=
  if condition then pure () else throw failure

/-- Every run of the coroutine from the state meets the postcondition, which speaks of the outcome,
the state the run left and the run's events. -/
def Ensures (action : Coroutine Answer σ ε α) (state : σ)
    (post : Except ε α → σ → List (Event Answer) → Prop) : Prop :=
  ∀ events outcome final, (action state).Runs events (outcome, final) → post outcome final events

variable {state : σ} {post : Except ε α → σ → List (Event Answer) → Prop}

theorem Ensures.mono {action : Coroutine Answer σ ε α}
    {weaker : Except ε α → σ → List (Event Answer) → Prop} (ensured : action.Ensures state post)
    (implies : ∀ outcome final events, post outcome final events → weaker outcome final events) :
    action.Ensures state weaker :=
  fun events outcome final run => implies outcome final events (ensured events outcome final run)

theorem Ensures.and {action : Coroutine Answer σ ε α}
    {other : Except ε α → σ → List (Event Answer) → Prop} (ensured : action.Ensures state post)
    (also : action.Ensures state other) :
    action.Ensures state fun outcome final events => post outcome final events ∧
    other outcome final events :=
  fun events outcome final run => ⟨ensured events outcome final run, also events outcome final run⟩

/-- A coroutine that makes no call has one run. -/
theorem ensures_iff_of_done {action : Coroutine Answer σ ε α} {outcome : Except ε α} {final : σ}
    (done : action state = .done (outcome, final)) : action.Ensures state post ↔
    post outcome final [] := by
  simp only [Ensures, done]
  constructor
  · intro ensured
    exact ensured _ _ _ (.done _)
  · intro holds events result last run
    obtain ⟨rfl, same⟩ := Program.runs_done_iff.mp run
    obtain ⟨rfl, rfl⟩ := Prod.mk.inj same
    exact holds

@[simp] theorem ensures_pure_iff {value : α} :
    (pure value : Coroutine Answer σ ε α).Ensures state post ↔ post (.ok value) state [] :=
  ensures_iff_of_done rfl

@[simp] theorem ensures_throw_iff {failure : ε} :
    (throw failure : Coroutine Answer σ ε α).Ensures state post ↔ post (.error failure) state [] :=
  ensures_iff_of_done rfl

@[simp] theorem ensures_modify_iff {change : σ → σ}
    {post : Except ε Unit → σ → List (Event Answer) → Prop} :
    (modify change : Coroutine Answer σ ε Unit).Ensures state post ↔
    post (.ok ()) (change state) [] :=
  ensures_iff_of_done rfl

@[simp] theorem ensures_read_iff {post : Except ε σ → σ → List (Event Answer) → Prop} :
    (read : Coroutine Answer σ ε σ).Ensures state post ↔ post (.ok state) state [] :=
  ensures_iff_of_done rfl

@[simp] theorem ensures_ofExcept_iff {outcome : Except ε α} :
    (ofExcept outcome : Coroutine Answer σ ε α).Ensures state post ↔ post outcome state [] :=
  ensures_iff_of_done rfl

@[simp] theorem ensures_ask_iff {call : Call}
    {post : Except ε (Answer call) → σ → List (Event Answer) → Prop} :
    (ask call : Coroutine Answer σ ε (Answer call)).Ensures state post ↔
      ∀ answer, post (.ok answer) state [⟨call, answer⟩] := by
  constructor
  · intro ensured answer
    exact ensured _ _ _ (.ask answer (.done _))
  · intro holds events outcome final run
    obtain ⟨answer, rest, rfl, last⟩ := Program.runs_ask_iff.mp run
    obtain ⟨rfl, same⟩ := Program.runs_done_iff.mp last
    obtain ⟨rfl, rfl⟩ := Prod.mk.inj same
    exact holds answer

/-- In a sequence the second part runs only after the first has returned. -/
theorem ensures_bind_iff {action : Coroutine Answer σ ε α} {next : α → Coroutine Answer σ ε β}
    {post : Except ε β → σ → List (Event Answer) → Prop} :
    (action >>= next).Ensures state post ↔ action.Ensures state fun outcome middle before =>
      match outcome with
      | .ok value => (next value).Ensures middle fun outcome final after =>
        post outcome final (before ++ after)
      | .error failure => post (.error failure) middle before := by
  constructor
  · intro ensured before outcome middle first
    cases outcome with
    | ok value =>
      intro after outcome final second
      exact ensured _ _ _ (Program.runs_bind_iff.mpr ⟨before, _, after, rfl, first, second⟩)
    | error failure =>
      exact ensured _ _ _
        (Program.runs_bind_iff.mpr ⟨before, _, [], (List.append_nil _).symm, first, .done _⟩)
  · intro ensured events outcome final run
    obtain ⟨before, ⟨result, middle⟩, after, rfl, first, second⟩ := Program.runs_bind_iff.mp run
    have met := ensured before result middle first
    cases result with
    | ok value => exact met after outcome final second
    | error failure =>
      obtain ⟨rfl, same⟩ := Program.runs_done_iff.mp second
      obtain ⟨rfl, rfl⟩ := Prod.mk.inj same
      rwa [List.append_nil]

/-- The handler runs only after the action has raised, on the state that the action left. -/
theorem ensures_tryCatch_iff {action : Coroutine Answer σ ε α}
    {handler : ε → Coroutine Answer σ ε α} :
    (tryCatch action handler).Ensures state post ↔ action.Ensures state fun outcome middle before =>
      match outcome with
      | .ok value => post (.ok value) middle before
      | .error failure =>
        (handler failure).Ensures middle fun outcome final after =>
          post outcome final (before ++ after) := by
  constructor
  · intro ensured before outcome middle first
    cases outcome with
    | ok value =>
      exact ensured _ _ _
        (Program.runs_bind_iff.mpr ⟨before, _, [], (List.append_nil _).symm, first, .done _⟩)
    | error failure =>
      intro after outcome final second
      exact ensured _ _ _ (Program.runs_bind_iff.mpr ⟨before, _, after, rfl, first, second⟩)
  · intro ensured events outcome final run
    obtain ⟨before, ⟨result, middle⟩, after, rfl, first, second⟩ := Program.runs_bind_iff.mp run
    have met := ensured before result middle first
    cases result with
    | ok value =>
      obtain ⟨rfl, same⟩ := Program.runs_done_iff.mp second
      obtain ⟨rfl, rfl⟩ := Prod.mk.inj same
      rwa [List.append_nil]
    | error failure => exact met after outcome final second

/-- What was computed is returned, or raised before the rest runs. -/
theorem ensures_ofExcept_bind {outcome : Except ε α} {next : α → Coroutine Answer σ ε β}
    {post : Except ε β → σ → List (Event Answer) → Prop}
    (returned : ∀ value, outcome = .ok value → (next value).Ensures state post)
    (raised : ∀ failure, outcome = .error failure → post (.error failure) state []) :
    (ofExcept outcome >>= next).Ensures state post := by
  rw [ensures_bind_iff, ensures_ofExcept_iff]
  cases outcome with
  | ok value => exact returned value rfl
  | error failure => exact raised failure rfl

/-- The rest runs under the condition; otherwise the failure is raised. -/
theorem ensures_require_bind {condition : Bool} {failure : ε} {next : Unit → Coroutine Answer σ ε β}
    {post : Except ε β → σ → List (Event Answer) → Prop}
    (holds : condition = true → (next ()).Ensures state post)
    (fails : condition = false → post (.error failure) state []) :
    (require condition failure >>= next).Ensures state post := by
  cases condition with
  | true => exact holds rfl
  | false => exact ensures_bind_iff.mpr (ensures_throw_iff.mpr (fails rfl))

/-- A call comes first in the events of what follows it. -/
theorem ensures_ask_bind_iff {call : Call} {next : Answer call → Coroutine Answer σ ε β}
    {post : Except ε β → σ → List (Event Answer) → Prop} :
    (ask call >>= next).Ensures state post ↔
      ∀ answer, (next answer).Ensures state fun outcome final events =>
      post outcome final (⟨call, answer⟩ :: events) := by
  rw [ensures_bind_iff, ensures_ask_iff]
  exact Iff.rfl

/-- Every value that a run returns, from any state, meets the condition. -/
structure Returns (action : Coroutine Answer σ ε α) (met : α → Prop) : Prop where
  ensures : ∀ state, action.Ensures state fun outcome _ _ => ∀ value, outcome = .ok value →
    met value

section Returns

variable {met : α → Prop} {later : β → Prop} {action : Coroutine Answer σ ε α}

theorem returns_anything (action : Coroutine Answer σ ε α) : action.Returns fun _ => True :=
  ⟨fun _ _ _ _ _ _ _ => trivial⟩

theorem Returns.mono {weaker : α → Prop} (returns : action.Returns met)
    (implies : ∀ value, met value → weaker value) :
    action.Returns weaker :=
  ⟨fun state => (returns.ensures state).mono fun _ _ _ returned value same =>
    implies value (returned value same)⟩

theorem returns_pure {value : α} (holds : met value) :
    (pure value : Coroutine Answer σ ε α).Returns met := by
  constructor
  intro state
  refine ensures_pure_iff.mpr fun other same => ?_
  obtain rfl := Except.ok.inj same
  exact holds

theorem returns_throw (failure : ε) : (throw failure : Coroutine Answer σ ε α).Returns met :=
  ⟨fun _ => ensures_throw_iff.mpr fun _ => nofun⟩

theorem Returns.bind {next : α → Coroutine Answer σ ε β} (first : action.Returns met)
    (rest : ∀ value, met value → (next value).Returns later) : (action >>= next).Returns later := by
  constructor
  intro state
  refine ensures_bind_iff.mpr ((first.ensures state).mono fun outcome middle before returned => ?_)
  cases outcome with
  | error failure => exact fun _ => nofun
  | ok value => exact (rest value (returned value rfl)).ensures middle

/-- What the first part returns does not matter to the rest. -/
theorem returns_bind {next : α → Coroutine Answer σ ε β}
    (rest : ∀ value, (next value).Returns later) :
    (action >>= next).Returns later :=
  (returns_anything action).bind fun value _ => rest value

theorem returns_ofExcept (outcome : Except ε α) :
    (ofExcept outcome : Coroutine Answer σ ε α).Returns fun value => outcome = .ok value :=
  ⟨fun _ => ensures_ofExcept_iff.mpr fun _ => id⟩

theorem Returns.tryCatch {handler : ε → Coroutine Answer σ ε α} (first : action.Returns met)
    (handled : ∀ failure, (handler failure).Returns met) :
    (tryCatch action handler).Returns met := by
  constructor
  intro state
  refine ensures_tryCatch_iff.mpr
    ((first.ensures state).mono fun outcome middle before returned => ?_)
  cases outcome with
  | ok value => exact returned
  | error failure => exact (handled failure).ensures middle

end Returns

/-- Every run makes calls of one kind only and leaves the state as it was. -/
def Within (kind : Call → Prop) (action : Coroutine Answer σ ε α) : Prop :=
  ∀ state, action.Ensures state fun _ final events => final = state ∧
    ∀ event ∈ events, kind event.call

section Within

variable {kind : Call → Prop}

theorem within_pure (value : α) : (pure value : Coroutine Answer σ ε α).Within kind := by
  intro state
  rw [ensures_pure_iff]
  exact ⟨rfl, List.forall_mem_nil _⟩

theorem within_throw (failure : ε) : (throw failure : Coroutine Answer σ ε α).Within kind := by
  intro state
  rw [ensures_throw_iff]
  exact ⟨rfl, List.forall_mem_nil _⟩

theorem within_ofExcept (outcome : Except ε α) :
    (ofExcept outcome : Coroutine Answer σ ε α).Within kind := by
  intro state
  rw [ensures_ofExcept_iff]
  exact ⟨rfl, List.forall_mem_nil _⟩

theorem within_require (condition : Bool) (failure : ε) :
    (require condition failure : Coroutine Answer σ ε Unit).Within kind := by
  cases condition
  · exact within_throw failure
  · exact within_pure ()

theorem within_read : (read : Coroutine Answer σ ε σ).Within kind := by
  intro state
  rw [ensures_read_iff]
  exact ⟨rfl, List.forall_mem_nil _⟩

theorem within_ask {call : Call} (allowed : kind call) :
    (ask call : Coroutine Answer σ ε (Answer call)).Within kind := by
  intro state
  rw [ensures_ask_iff]
  intro answer
  exact ⟨rfl, List.forall_mem_singleton.mpr allowed⟩

theorem Within.bind {action : Coroutine Answer σ ε α} {next : α → Coroutine Answer σ ε β}
    (first : action.Within kind) (second : ∀ value, (next value).Within kind) :
    (action >>= next).Within kind := by
  intro state
  rw [ensures_bind_iff]
  refine (first state).mono ?_
  rintro outcome _ before ⟨rfl, kept⟩
  cases outcome with
  | error failure => exact ⟨rfl, kept⟩
  | ok value =>
    refine (second value _).mono ?_
    rintro _ _ after ⟨rfl, others⟩
    exact ⟨rfl, List.forall_mem_append.mpr ⟨kept, others⟩⟩

theorem Within.map {action : Coroutine Answer σ ε α} (f : α → β) (kept : action.Within kind) :
    (f <$> action).Within kind := kept.bind fun _ => within_pure _

theorem within_mapM {f : α → Coroutine Answer σ ε β} {items : List α}
    (each : ∀ item ∈ items, (f item).Within kind) : (items.mapM f).Within kind := by
  induction items with
  | nil => exact within_pure []
  | cons item rest ih =>
    rw [List.mapM_cons]
    refine (each item (List.mem_cons_self ..)).bind fun _ => ?_
    refine (ih fun other member => each other (List.mem_cons_of_mem _ member)).bind fun _ => ?_
    exact within_pure _

theorem Within.tryCatch {action : Coroutine Answer σ ε α} {handler : ε → Coroutine Answer σ ε α}
    (first : action.Within kind) (second : ∀ failure, (handler failure).Within kind) :
    (MonadExcept.tryCatch action handler).Within kind := by
  intro state
  rw [ensures_tryCatch_iff]
  refine (first state).mono ?_
  rintro outcome _ before ⟨rfl, kept⟩
  cases outcome with
  | ok value => exact ⟨rfl, kept⟩
  | error failure =>
    refine (second failure _).mono ?_
    rintro _ _ after ⟨rfl, others⟩
    exact ⟨rfl, List.forall_mem_append.mpr ⟨kept, others⟩⟩

theorem Within.mono {larger : Call → Prop} {action : Coroutine Answer σ ε α}
    (kept : action.Within kind) (implies : ∀ call, kind call → larger call) :
    action.Within larger :=
  fun state => (kept state).mono fun _ _ _ ⟨same, within⟩ =>
    ⟨same, fun event member => implies _ (within event member)⟩

/-- Before a coroutine that keeps to some calls, only its events have to be accounted for. -/
theorem Within.ensures_bind {action : Coroutine Answer σ ε α} {next : α → Coroutine Answer σ ε β}
    {post : Except ε β → σ → List (Event Answer) → Prop} (kept : action.Within kind)
    (raised : ∀ failure before, (∀ event ∈ before, kind event.call) →
      post (.error failure) state before)
    (returned : ∀ value before, (∀ event ∈ before, kind event.call) →
      (next value).Ensures state fun outcome final after => post outcome final (before ++ after)) :
    (action >>= next).Ensures state post := by
  rw [ensures_bind_iff]
  refine (kept state).mono ?_
  rintro outcome _ before ⟨rfl, within⟩
  cases outcome with
  | ok value => exact returned value before within
  | error failure => exact raised failure before within

end Within

/-- No run makes a call of the kind; the state may change. -/
def Avoids (kind : Call → Prop) (action : Coroutine Answer σ ε α) : Prop :=
  ∀ state, action.Ensures state fun _ _ events => ∀ event ∈ events, ¬kind event.call

section Avoids

variable {kind : Call → Prop}

theorem Within.avoids {action : Coroutine Answer σ ε α}
    (kept : action.Within fun call => ¬kind call) :
    action.Avoids kind := fun state => (kept state).mono fun _ _ _ within => within.2

theorem avoids_modify (change : σ → σ) :
    (modify change : Coroutine Answer σ ε Unit).Avoids kind := by
  intro state
  rw [ensures_modify_iff]
  exact List.forall_mem_nil _

end Avoids

/-- The labels of the calls that have one, in order. -/
def labels {Label : Type} (label : Call → Option Label) (events : List (Event Answer)) :
    List Label :=
  events.filterMap fun event => label event.call

/-- In every run the labelled calls come in the order of the shape, each as often at most as it
says. -/
def Follows {Label : Type} (label : Call → Option Label) (shape : List Label)
    (action : Coroutine Answer σ ε α) : Prop :=
  ∀ state, action.Ensures state fun _ _ events => (labels label events).Sublist shape

section Follows

variable {Label : Type} {label : Call → Option Label} {shape : List Label}

@[simp] theorem labels_append (before after : List (Event Answer)) :
    labels label (before ++ after) = labels label before ++ labels label after :=
  List.filterMap_append

theorem labels_eq_nil {events : List (Event Answer)}
    (unlabelled : ∀ event ∈ events, label event.call = none) :
    labels label events = [] := List.filterMap_eq_nil_iff.mpr unlabelled

theorem mem_labels {events : List (Event Answer)} {event : Event Answer} (member : event ∈ events)
    {value : Label} (labelled : label event.call = some value) : value ∈ labels label events :=
  List.mem_filterMap.mpr ⟨event, member, labelled⟩

theorem Follows.mono {larger : List Label} {action : Coroutine Answer σ ε α}
    (follows : action.Follows label shape) (part : shape.Sublist larger) :
    action.Follows label larger :=
  fun state => (follows state).mono fun _ _ _ ordered => ordered.trans part

/-- A coroutine without labelled calls follows every shape. -/
theorem Within.follows {action : Coroutine Answer σ ε α}
    (quiet : action.Within fun call => label call = none) :
    action.Follows label shape := fun state => (quiet state).mono fun _ _ events kept => by
  rw [labels_eq_nil kept.2]
  exact List.nil_sublist shape

theorem follows_modify (change : σ → σ) :
    (modify change : Coroutine Answer σ ε Unit).Follows label shape := by
  intro state
  exact ensures_modify_iff.mpr (List.nil_sublist shape)

theorem Follows.bind {rest : List Label} {action : Coroutine Answer σ ε α}
    {next : α → Coroutine Answer σ ε β} (first : action.Follows label shape)
    (second : ∀ value, (next value).Follows label rest) :
    (action >>= next).Follows label (shape ++ rest) := by
  intro state
  rw [ensures_bind_iff]
  refine (first state).mono fun outcome middle before ordered => ?_
  cases outcome with
  | error failure => exact ordered.trans (List.sublist_append_left _ _)
  | ok value =>
    refine (second value middle).mono fun _ _ after follows => ?_
    rw [labels_append]
    exact ordered.append follows

/-- A part without labelled calls may come first. -/
theorem Within.follows_bind {action : Coroutine Answer σ ε α} {next : α → Coroutine Answer σ ε β}
    (quiet : action.Within fun call => label call = none)
    (second : ∀ value, (next value).Follows label shape) :
    (action >>= next).Follows label shape :=
  have first : action.Follows label [] := quiet.follows
  first.bind second

theorem follows_modify_bind {change : σ → σ} {next : Unit → Coroutine Answer σ ε β}
    (second : (next ()).Follows label shape) : (modify change >>= next).Follows label shape :=
  have first : (modify change : Coroutine Answer σ ε Unit).Follows label [] := follows_modify change
  first.bind fun _ => second

/-- A part without labelled calls may come last. -/
theorem Follows.bind_within {action : Coroutine Answer σ ε α} {next : α → Coroutine Answer σ ε β}
    (first : action.Follows label shape)
    (quiet : ∀ value, (next value).Within fun call => label call = none) :
    (action >>= next).Follows label shape := by
  have both : (action >>= next).Follows label (shape ++ []) :=
    first.bind fun value => (quiet value).follows
  rwa [List.append_nil] at both

theorem Follows.tryCatch {rest : List Label} {action : Coroutine Answer σ ε α}
    {handler : ε → Coroutine Answer σ ε α} (first : action.Follows label shape)
    (second : ∀ failure, (handler failure).Follows label rest) :
    (MonadExcept.tryCatch action handler).Follows label (shape ++ rest) := by
  intro state
  rw [ensures_tryCatch_iff]
  refine (first state).mono fun outcome middle before ordered => ?_
  cases outcome with
  | ok value => exact ordered.trans (List.sublist_append_left _ _)
  | error failure =>
    refine (second failure middle).mono fun _ _ after follows => ?_
    rw [labels_append]
    exact ordered.append follows

/-- A handler without labelled calls. -/
theorem Follows.tryCatch_within {action : Coroutine Answer σ ε α}
    {handler : ε → Coroutine Answer σ ε α} (first : action.Follows label shape)
    (quiet : ∀ failure, (handler failure).Within fun call => label call = none) :
    (MonadExcept.tryCatch action handler).Follows label shape := by
  have both : (MonadExcept.tryCatch action handler).Follows label (shape ++ []) :=
    first.tryCatch fun failure => (quiet failure).follows
  rwa [List.append_nil] at both

/-- A coroutine avoids the labels that its shape does not have. -/
theorem Follows.avoids {kind : Call → Prop} {action : Coroutine Answer σ ε α}
    (follows : action.Follows label shape)
    (absent : ∀ call, kind call → ∃ value, label call = some value ∧ value ∉ shape) :
    action.Avoids kind := by
  intro state
  refine (follows state).mono fun _ _ events ordered event member called => ?_
  obtain ⟨value, labelled, missing⟩ := absent _ called
  exact missing (ordered.subset (mem_labels member labelled))

/-- A label that occurs once belongs to one event. -/
theorem eq_of_label_once [DecidableEq Label] {events : List (Event Answer)} {value : Label}
    (once : (labels label events).count value ≤ 1) {first second : Event Answer}
    (firstMember : first ∈ events) (secondMember : second ∈ events)
    (firstLabelled : label first.call = some value)
    (secondLabelled : label second.call = some value) : first = second := by
  induction events with
  | nil => cases firstMember
  | cons event rest ih =>
    have countCons : (labels label (event :: rest)).count value =
        (if label event.call = some value then 1 else 0) + (labels label rest).count value := by
      cases labelled : label event.call with
      | none => simp [labels, labelled]
      | some other =>
        simp only [labels, List.filterMap_cons, labelled, List.count_cons, Option.some.injEq,
          beq_iff_eq]
        exact Nat.add_comm _ _
    rw [countCons] at once
    have later {other : Event Answer} (member : other ∈ rest)
        (labelled : label other.call = some value) :
        0 < (labels label rest).count value := List.count_pos_iff.mpr (mem_labels member labelled)
    rcases List.mem_cons.mp firstMember with firstHead | firstRest <;>
      rcases List.mem_cons.mp secondMember with secondHead | secondRest
    · rw [firstHead, secondHead]
    · have counted := later secondRest secondLabelled
      rw [← firstHead, if_pos firstLabelled] at once
      omega
    · have counted := later firstRest firstLabelled
      rw [← secondHead, if_pos secondLabelled] at once
      omega
    · exact ih (by omega) firstRest secondRest

end Follows

/-- At most one call is of the kind, and what happened before it meets the guard. -/
def AtMostOnce (kind : Call → Prop) (guard : List (Event Answer) → Event Answer → Prop)
    (events : List (Event Answer)) : Prop :=
  (∀ event ∈ events, ¬kind event.call) ∨ ∃ before event after, events = before ++ event :: after ∧
    kind event.call ∧ guard before event ∧ ∀ other ∈ before ++ after, ¬kind other.call

section AtMostOnce

variable {kind : Call → Prop} {guard : List (Event Answer) → Event Answer → Prop}
  {events before after : List (Event Answer)}

theorem AtMostOnce.mono {weaker : List (Event Answer) → Event Answer → Prop}
    (once : AtMostOnce kind guard events)
    (implies : ∀ before event, guard before event → weaker before event) :
    AtMostOnce kind weaker events := by
  rcases once with none | ⟨before, event, after, same, called, guarded, others⟩
  · exact .inl none
  · exact .inr ⟨before, event, after, same, called, implies _ _ guarded, others⟩

/-- Events without such a call may come first: the guard then speaks of them too. -/
theorem AtMostOnce.append_left (quiet : ∀ event ∈ before, ¬kind event.call)
    (once : AtMostOnce kind (fun earlier event => guard (before ++ earlier) event) after) :
    AtMostOnce kind guard (before ++ after) := by
  rcases once with none | ⟨earlier, event, later, rfl, called, guarded, others⟩
  · exact .inl (List.forall_mem_append.mpr ⟨quiet, none⟩)
  · refine .inr ⟨before ++ earlier, event, later, by rw [List.append_assoc], called, guarded, ?_⟩
    rw [List.append_assoc]
    exact List.forall_mem_append.mpr ⟨quiet, others⟩

theorem AtMostOnce.append_right (once : AtMostOnce kind guard before)
    (quiet : ∀ event ∈ after, ¬kind event.call) : AtMostOnce kind guard (before ++ after) := by
  rcases once with none | ⟨earlier, event, later, rfl, called, guarded, others⟩
  · exact .inl (List.forall_mem_append.mpr ⟨none, quiet⟩)
  · refine .inr ⟨earlier, event, later ++ after, by rw [List.append_assoc, List.cons_append],
      called, guarded, ?_⟩
    rw [← List.append_assoc]
    exact List.forall_mem_append.mpr ⟨others, quiet⟩

/-- A call of a kind that occurs once occurs in one place. -/
theorem split_unique {first second : Event Answer} {earlier later : List (Event Answer)}
    (same : before ++ first :: after = earlier ++ second :: later) (called : kind first.call)
    (others : ∀ other ∈ earlier ++ later, ¬kind other.call) :
    before = earlier ∧ first = second ∧ after = later := by
  rcases List.append_eq_append_iff.mp same with ⟨middle, rfl, split⟩ | ⟨middle, rfl, split⟩
  · cases middle with
    | nil =>
      obtain ⟨rfl, rfl⟩ := List.cons.inj split
      exact ⟨(List.append_nil _).symm, rfl, rfl⟩
    | cons head rest =>
      obtain ⟨rfl, rfl⟩ := List.cons.inj split
      exact absurd called (others first (by simp))
  · cases middle with
    | nil =>
      obtain ⟨rfl, rfl⟩ := List.cons.inj split
      exact ⟨List.append_nil _, rfl, rfl⟩
    | cons head rest =>
      obtain ⟨rfl, rfl⟩ := List.cons.inj split
      exact absurd called (others first (by simp))

/-- Wherever such a call stands, the events before it meet the guard. -/
theorem AtMostOnce.guard_of_mem {event : Event Answer} (once : AtMostOnce kind guard events)
    (member : event ∈ events) (called : kind event.call) :
    ∃ before, before ⊆ events ∧ guard before event := by
  obtain ⟨before, after, rfl⟩ := List.append_of_mem member
  rcases once with none | ⟨earlier, only, later, same, -, guarded, others⟩
  · exact absurd called (none event member)
  · obtain ⟨rfl, rfl, rfl⟩ := split_unique same called others
    exact ⟨before, List.subset_append_left _ _, guarded⟩

variable {state : σ}

theorem Within.atMostOnce {action : Coroutine Answer σ ε α}
    (quiet : action.Within fun call => ¬kind call) :
    action.Ensures state fun _ _ events => AtMostOnce kind guard events :=
  (quiet state).mono fun _ _ _ kept => .inl kept.2

/-- Before the call: what happened first is remembered by the guard. -/
theorem atMostOnce_bind {action : Coroutine Answer σ ε α} {next : α → Coroutine Answer σ ε β}
    (first : action.Ensures state fun outcome middle before =>
      (∀ event ∈ before, ¬kind event.call) ∧
      ∀ value, outcome = .ok value → (next value).Ensures middle fun _ _ after =>
        AtMostOnce kind (fun earlier event => guard (before ++ earlier) event) after) :
    (action >>= next).Ensures state fun _ _ events => AtMostOnce kind guard events := by
  rw [ensures_bind_iff]
  refine first.mono ?_
  rintro outcome middle before ⟨quiet, second⟩
  cases outcome with
  | error failure => exact .inl quiet
  | ok value => exact (second value rfl).mono fun _ _ _ once => once.append_left quiet

/-- Before the call: a quiet part does not matter to a guard that admits earlier events. -/
theorem Within.atMostOnce_bind {action : Coroutine Answer σ ε α} {next : α → Coroutine Answer σ ε β}
    (quiet : action.Within fun call => ¬kind call)
    (admits : ∀ before earlier event, guard earlier event → guard (before ++ earlier) event)
    (second : ∀ value, (next value).Ensures state fun _ _ after => AtMostOnce kind guard after) :
    (action >>= next).Ensures state fun _ _ events => AtMostOnce kind guard events := by
  refine Coroutine.atMostOnce_bind ((quiet state).mono ?_)
  rintro outcome _ before ⟨rfl, kept⟩
  exact ⟨kept, fun value _ => (second value).mono fun _ _ _ once => once.mono (admits before)⟩

/-- Before the call, a part that avoids it may also change the state. -/
theorem Avoids.atMostOnce_bind {action : Coroutine Answer σ ε α} {next : α → Coroutine Answer σ ε β}
    (quiet : action.Avoids kind)
    (admits : ∀ before earlier event, guard earlier event → guard (before ++ earlier) event)
    (second : ∀ value middle, (next value).Ensures middle fun _ _ after =>
      AtMostOnce kind guard after) :
    (action >>= next).Ensures state fun _ _ events => AtMostOnce kind guard events := by
  refine Coroutine.atMostOnce_bind ((quiet state).mono fun outcome middle before avoided => ?_)
  exact ⟨avoided, fun value _ => (second value middle).mono fun _ _ _ once =>
    once.mono (admits before)⟩

/-- After the call: what follows makes no other. -/
theorem atMostOnce_bind_avoids {action : Coroutine Answer σ ε α} {next : α → Coroutine Answer σ ε β}
    (first : action.Ensures state fun _ _ events => AtMostOnce kind guard events)
    (rest : ∀ value, (next value).Avoids kind) :
    (action >>= next).Ensures state fun _ _ events => AtMostOnce kind guard events := by
  rw [ensures_bind_iff]
  refine first.mono fun outcome middle before once => ?_
  cases outcome with
  | error failure => exact once
  | ok value => exact (rest value middle).mono fun _ _ _ avoided => once.append_right avoided

/-- A handler that makes no other call of the kind. -/
theorem atMostOnce_tryCatch_avoids {action : Coroutine Answer σ ε α}
    {handler : ε → Coroutine Answer σ ε α}
    (first : action.Ensures state fun _ _ events => AtMostOnce kind guard events)
    (rest : ∀ failure, (handler failure).Avoids kind) :
    (tryCatch action handler).Ensures state fun _ _ events => AtMostOnce kind guard events := by
  rw [ensures_tryCatch_iff]
  refine first.mono fun outcome middle before once => ?_
  cases outcome with
  | ok value => exact once
  | error failure => exact (rest failure middle).mono fun _ _ _ avoided => once.append_right avoided

end AtMostOnce

end Coroutine
