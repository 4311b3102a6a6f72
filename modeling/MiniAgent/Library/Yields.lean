import MiniAgent.Library.Steps

/-! # What is returned under trusted answers

Where the answers of the environment can be trusted, a coroutine may return one value only from
every state of an invariant, which it keeps. The rules follow the structure of the coroutine.
-/

namespace Coroutine

variable {Call : Type} {Answer : Call → Type} {σ ε α β : Type}

/-- Every run whose answers can be trusted returns the value and keeps the invariant. -/
def Yields (invariant : σ → Prop) (trusted : Event Answer → Prop) (action : Coroutine Answer σ ε α)
    (value : α) : Prop :=
  ∀ state, invariant state → action.Ensures state fun outcome final events =>
    (∀ event ∈ events, trusted event) → outcome = .ok value ∧ invariant final

variable {invariant : σ → Prop} {trusted : Event Answer → Prop} {action : Coroutine Answer σ ε α}
  {value : α}
  {result : β}

theorem yields_pure (value : α) :
    (pure value : Coroutine Answer σ ε α).Yields invariant trusted value :=
  fun _ holds => ensures_pure_iff.mpr fun _ => ⟨rfl, holds⟩

theorem yields_ofExcept {outcome : Except ε α} (same : outcome = .ok value) :
    (ofExcept outcome : Coroutine Answer σ ε α).Yields invariant trusted value :=
  fun _ holds => ensures_ofExcept_iff.mpr fun _ => ⟨same, holds⟩

theorem yields_modify {change : σ → σ}
    (keeps : ∀ state, invariant state → invariant (change state)) :
    (modify change : Coroutine Answer σ ε Unit).Yields invariant trusted () :=
  fun state holds => ensures_modify_iff.mpr fun _ => ⟨rfl, keeps state holds⟩

theorem yields_ask {call : Call} {expected : Answer call}
    (told : ∀ answer, trusted ⟨call, answer⟩ → answer = expected) :
    (ask call : Coroutine Answer σ ε (Answer call)).Yields invariant trusted expected := by
  refine fun _ holds => ensures_ask_iff.mpr fun answer all => ⟨?_, holds⟩
  exact congrArg Except.ok (told answer (all _ List.mem_cons_self))

theorem Yields.bind {next : α → Coroutine Answer σ ε β}
    (first : action.Yields invariant trusted value)
    (rest : (next value).Yields invariant trusted result) :
    (action >>= next).Yields invariant trusted result := by
  intro state holds
  refine ensures_bind_iff.mpr ((first state holds).mono fun outcome middle before returned => ?_)
  cases outcome with
  | error failure =>
    intro all
    cases (returned all).1
  | ok other =>
    intro after outcome final ran all
    obtain ⟨early, late⟩ := List.forall_mem_append.mp all
    obtain ⟨same, kept⟩ := returned early
    obtain rfl : other = value := Except.ok.inj same
    exact rest middle kept after outcome final ran late

theorem Yields.map (f : α → β) (yields : action.Yields invariant trusted value) :
    (f <$> action).Yields invariant trusted (f value) := by
  rw [map_eq_pure_bind]
  exact yields.bind (yields_pure _)

/-- Nothing is caught where nothing is raised. -/
theorem Yields.tryCatch {handler : ε → Coroutine Answer σ ε α}
    (first : action.Yields invariant trusted value) :
    (MonadExcept.tryCatch action handler).Yields invariant trusted value := by
  intro state holds
  refine ensures_tryCatch_iff.mpr
    ((first state holds).mono fun outcome middle before returned => ?_)
  cases outcome with
  | ok other => exact returned
  | error failure =>
    intro after outcome final ran all
    cases (returned (List.forall_mem_append.mp all).1).1

/-- A first part that makes no call is over at once. -/
theorem bind_of_done {action : Coroutine Answer σ ε α} {next : α → Coroutine Answer σ ε β}
    {middle state : σ} {value : α} (done : action state = .done (.ok value, middle)) :
    (action >>= next) state = next value middle := by
  show (action state).bind _ = next value middle
  rw [done]
  rfl

end Coroutine
