import MiniAgent.Library.Meets

/-! # What a run does to the state

A relation between the state before a run, its events and the state after it composes along
sequences, so that each part of a coroutine is looked at by itself.
-/

namespace Coroutine

variable {Call : Type} {Answer : Call → Type} {σ ε α β : Type}

/-- The relation holds of no events and of one part after the other. -/
structure Composes (relates : σ → List (Event Answer) → σ → Prop) : Prop where
  refl : ∀ state, relates state [] state
  trans : ∀ {state middle final before after}, relates state before middle →
    relates middle after final → relates state (before ++ after) final

/-- Every run relates the state it starts from to the one that it leaves. -/
def Steps (relates : σ → List (Event Answer) → σ → Prop) (action : Coroutine Answer σ ε α) : Prop :=
  ∀ state, action.Ensures state fun _ final events => relates state events final

variable {relates : σ → List (Event Answer) → σ → Prop} {action : Coroutine Answer σ ε α}

theorem Composes.pure (composes : Composes relates) (value : α) :
    (pure value : Coroutine Answer σ ε α).Steps relates :=
  fun state => ensures_pure_iff.mpr (composes.refl state)

theorem Composes.throw (composes : Composes relates) (failure : ε) :
    (throw failure : Coroutine Answer σ ε α).Steps relates :=
  fun state => ensures_throw_iff.mpr (composes.refl state)

theorem Composes.ofExcept (composes : Composes relates) (outcome : Except ε α) :
    (ofExcept outcome : Coroutine Answer σ ε α).Steps relates :=
  fun state => ensures_ofExcept_iff.mpr (composes.refl state)

theorem Composes.read (composes : Composes relates) :
    (read : Coroutine Answer σ ε σ).Steps relates :=
  fun state => ensures_read_iff.mpr (composes.refl state)

theorem Steps.bind {next : α → Coroutine Answer σ ε β} (first : action.Steps relates)
    (composes : Composes relates) (rest : ∀ value, (next value).Steps relates) :
    (action >>= next).Steps relates := by
  intro state
  refine ensures_bind_iff.mpr ((first state).mono fun outcome middle before related => ?_)
  cases outcome with
  | error failure => exact related
  | ok value => exact (rest value middle).mono fun _ _ _ => composes.trans related

/-- What the first part returned is known in the second. -/
theorem Steps.bindReturned {next : α → Coroutine Answer σ ε β} {P : α → Prop}
    (first : action.Steps relates) (composes : Composes relates) (returns : action.Returns P)
    (rest : ∀ value, P value → (next value).Steps relates) :
    (action >>= next).Steps relates := by
  intro state
  refine ensures_bind_iff.mpr
    (((first state).and (returns.ensures state)).mono fun outcome middle before kept => ?_)
  obtain ⟨related, met⟩ := kept
  cases outcome with
  | error failure => exact related
  | ok value => exact (rest value (met value rfl) middle).mono fun _ _ _ => composes.trans related

theorem Steps.tryCatch {handler : ε → Coroutine Answer σ ε α} (first : action.Steps relates)
    (composes : Composes relates) (handled : ∀ failure, (handler failure).Steps relates) :
    (MonadExcept.tryCatch action handler).Steps relates := by
  intro state
  refine ensures_tryCatch_iff.mpr ((first state).mono fun outcome middle before related => ?_)
  cases outcome with
  | ok value => exact related
  | error failure => exact (handled failure middle).mono fun _ _ _ => composes.trans related

theorem Steps.map (f : α → β) (steps : action.Steps relates) (composes : Composes relates) :
    (f <$> action).Steps relates := by
  rw [map_eq_pure_bind]
  exact steps.bind composes fun _ => composes.pure _

/-- Calls of some kind alone, on a state that stays. -/
theorem Within.steps {kind : Call → Prop} (within : action.Within kind)
    (kept : ∀ state events, (∀ event ∈ events, kind event.call) → relates state events state) :
    action.Steps relates := fun state => (within state).mono fun _ _ events same => by
  obtain ⟨rfl, kinds⟩ := same
  exact kept _ events kinds

/-- What the first part returned is known in the second. -/
theorem Within.bindReturned {kind : Call → Prop} {next : α → Coroutine Answer σ ε β} {P : α → Prop}
    (first : action.Within kind) (returns : action.Returns P)
    (rest : ∀ value, P value → (next value).Within kind) :
    (action >>= next).Within kind := by
  intro state
  refine ensures_bind_iff.mpr
    (((first state).and (returns.ensures state)).mono fun outcome middle before kept => ?_)
  obtain ⟨⟨rfl, kinds⟩, met⟩ := kept
  cases outcome with
  | error failure => exact ⟨rfl, kinds⟩
  | ok value =>
    refine (rest value (met value rfl) _).mono fun outcome final after others => ?_
    exact ⟨others.1, List.forall_mem_append.mpr ⟨kinds, others.2⟩⟩

theorem Meets.returns {raised : List (Event Answer) → ε → Prop} {P : α → Prop}
    (meets : action.Meets (fun _ => True) (fun _ value => P value) raised) : action.Returns P := by
  constructor
  intro state
  refine (meets.ensures state trivial).mono ?_
  rintro outcome final events settled value rfl
  exact settled.2

end Coroutine
