import MiniAgent.Library.Coroutine

/-! # An invariant, what is returned and what is raised

Coroutines that keep an invariant of their state however they end, return values that meet a
condition and raise failures that meet another; both conditions speak of the events of the run too.
The rules follow the structure of the coroutine.
-/

namespace Coroutine

variable {Call : Type} {Answer : Call → Type} {σ ε α β : Type}

/-- The outcome of a run, judged with the run's events. -/
def Settles (met : List (Event Answer) → α → Prop) (raised : List (Event Answer) → ε → Prop)
    (events : List (Event Answer)) : Except ε α → Prop
  | .ok value => met events value
  | .error failure => raised events failure

/-- Every run from a state of the invariant leaves one, and its outcome meets its condition. -/
structure Meets (invariant : σ → Prop) (action : Coroutine Answer σ ε α)
    (met : List (Event Answer) → α → Prop) (raised : List (Event Answer) → ε → Prop) : Prop where
  ensures : ∀ state, invariant state → action.Ensures state fun outcome final events =>
    invariant final ∧ Settles met raised events outcome

variable {invariant : σ → Prop} {met : List (Event Answer) → α → Prop}
  {later : List (Event Answer) → β → Prop}
  {raised : List (Event Answer) → ε → Prop} {action : Coroutine Answer σ ε α}

theorem Meets.mono {weaker : List (Event Answer) → α → Prop}
    {milder : List (Event Answer) → ε → Prop} (meets : action.Meets invariant met raised)
    (implies : ∀ events value, met events value → weaker events value)
    (allows : ∀ events failure, raised events failure → milder events failure) :
    action.Meets invariant weaker milder := by
  constructor
  intro state holds
  refine (meets.ensures state holds).mono fun outcome final events kept => ⟨kept.1, ?_⟩
  cases outcome with
  | ok value => exact implies events value kept.2
  | error failure => exact allows events failure kept.2

theorem Meets.weaken {weaker : List (Event Answer) → α → Prop}
    (meets : action.Meets invariant met raised)
    (implies : ∀ events value, met events value → weaker events value) :
    action.Meets invariant weaker raised :=
  meets.mono implies fun _ _ => id

theorem Meets.anyValue (meets : action.Meets invariant met raised) :
    action.Meets invariant (fun _ _ => True) raised :=
  meets.weaken fun _ _ _ => trivial

theorem meets_pure {value : α} (holds : met [] value) :
    (pure value : Coroutine Answer σ ε α).Meets invariant met raised :=
  ⟨fun _ kept => ensures_pure_iff.mpr ⟨kept, holds⟩⟩

theorem meets_throw {failure : ε} (holds : raised [] failure) :
    (throw failure : Coroutine Answer σ ε α).Meets invariant met raised :=
  ⟨fun _ kept => ensures_throw_iff.mpr ⟨kept, holds⟩⟩

theorem meets_ofExcept {outcome : Except ε α} (holds : Settles met raised [] outcome) :
    (ofExcept outcome : Coroutine Answer σ ε α).Meets invariant met raised :=
  ⟨fun _ kept => ensures_ofExcept_iff.mpr ⟨kept, holds⟩⟩

theorem meets_ofExcept_anything (outcome : Except ε α) :
    (ofExcept outcome : Coroutine Answer σ ε α).Meets invariant (fun _ _ => True) fun _ _ =>
    True := by
  refine meets_ofExcept ?_
  cases outcome <;> trivial

theorem meets_ask (call : Call) : (ask call : Coroutine Answer σ ε (Answer call)).Meets invariant
    (fun events answer => events = [⟨call, answer⟩]) raised :=
  ⟨fun _ kept => ensures_ask_iff.mpr fun _ => ⟨kept, rfl⟩⟩

theorem meets_read :
    (read : Coroutine Answer σ ε σ).Meets invariant (fun _ state => invariant state) raised :=
  ⟨fun _ kept => ensures_read_iff.mpr ⟨kept, kept⟩⟩

theorem meets_modify {change : σ → σ} {met : List (Event Answer) → Unit → Prop}
    (keeps : ∀ state, invariant state → invariant (change state)) (holds : met [] ()) :
    (modify change : Coroutine Answer σ ε Unit).Meets invariant met raised :=
  ⟨fun state kept => ensures_modify_iff.mpr ⟨keeps state kept, holds⟩⟩

theorem Meets.bind {next : α → Coroutine Answer σ ε β} (first : action.Meets invariant met raised)
    (rest : ∀ value before, met before value → (next value).Meets invariant
      (fun after result => later (before ++ after) result) fun after failure => raised
      (before ++ after) failure) :
    (action >>= next).Meets invariant later raised := by
  constructor
  intro state holds
  refine ensures_bind_iff.mpr
    ((first.ensures state holds).mono fun outcome middle before kept => ?_)
  cases outcome with
  | error failure => exact kept
  | ok value =>
    refine ((rest value before kept.2).ensures middle kept.1).mono fun outcome final after
      settled => ⟨settled.1, ?_⟩
    cases outcome with
    | ok result => exact settled.2
    | error failure => exact settled.2

/-- What the first part returned and its events are used later, but not for what is raised. -/
theorem Meets.andUse {next : α → Coroutine Answer σ ε β} (first : action.Meets invariant met raised)
    (allows : ∀ before after failure, raised after failure → raised (before ++ after) failure)
    (rest : ∀ value before, met before value → (next value).Meets invariant
      (fun after result => later (before ++ after) result) raised) :
      (action >>= next).Meets invariant later raised :=
  first.bind fun value before holds =>
    (rest value before holds).mono (fun _ _ => id) (allows before)

/-- A condition that admits earlier events. -/
def Admits (judged : List (Event Answer) → α → Prop) : Prop :=
  ∀ before after value, judged after value → judged (before ++ after) value

/-- The events of the first part do not matter to conditions that admit them. -/
theorem Meets.andThen {next : α → Coroutine Answer σ ε β} {P : α → Prop}
    (first : action.Meets invariant (fun _ value => P value) raised) (admits : Admits later)
    (allows : Admits raised) (rest : ∀ value, P value → (next value).Meets invariant later raised) :
    (action >>= next).Meets invariant later raised :=
  first.bind fun value before holds => (rest value holds).mono (admits before) (allows before)

/-- Nor does a value that meets nothing. -/
theorem Meets.skip {next : α → Coroutine Answer σ ε β}
    (first : action.Meets invariant (fun _ _ => True) raised) (admits : Admits later)
    (allows : Admits raised) (rest : ∀ value, (next value).Meets invariant later raised) :
    (action >>= next).Meets invariant later raised :=
  first.andThen admits allows fun value _ => rest value

theorem Meets.discard (meets : action.Meets invariant met raised) :
    (Functor.discard action).Meets invariant (fun _ _ => True) raised := by
  have same : Functor.discard action = action >>= fun _ => pure () := rfl
  rw [same]
  exact meets.bind fun _ _ _ => meets_pure trivial

/-- A coroutine that leaves the state as it is keeps every invariant. -/
theorem Within.meets {kind : Call → Prop} (within : action.Within kind) :
    action.Meets invariant (fun events _ => ∀ event ∈ events, kind event.call)
      fun events (_ : ε) => ∀ event ∈ events, kind event.call := by
  constructor
  intro state holds
  refine (within state).mono fun outcome final events kept => ?_
  obtain ⟨rfl, kinds⟩ := kept
  cases outcome <;> exact ⟨holds, kinds⟩

theorem Meets.tryCatch {handler : ε → Coroutine Answer σ ε α} {T : List (Event Answer) → ε → Prop}
    (first : action.Meets invariant met T)
    (handled : ∀ failure before, T before failure → (handler failure).Meets invariant
      (fun after value => met (before ++ after) value) fun after failure => raised
      (before ++ after) failure) :
    (MonadExcept.tryCatch action handler).Meets invariant met raised := by
  constructor
  intro state holds
  refine ensures_tryCatch_iff.mpr
    ((first.ensures state holds).mono fun outcome middle before kept => ?_)
  cases outcome with
  | ok value => exact kept
  | error failure =>
    refine ((handled failure before kept.2).ensures middle kept.1).mono fun outcome final after
        settled =>
      ⟨settled.1, ?_⟩
    cases outcome with
    | ok value => exact settled.2
    | error other => exact settled.2

/-- One item after the other, each from a state of the invariant. -/
theorem meets_mapM {f : α → Coroutine Answer σ ε β} {items : List α} {relates : α → β → Prop}
    (allows : Admits raised)
    (each : ∀ item ∈ items, (f item).Meets invariant (fun _ result => relates item result) raised) :
    (items.mapM f).Meets invariant
    (fun _ results => List.Forall₂ relates items results) raised := by
  induction items with
  | nil => exact meets_pure .nil
  | cons item rest ih =>
    rw [List.mapM_cons]
    refine (each item List.mem_cons_self).andThen (fun _ _ _ => id) allows fun head related => ?_
    refine (ih fun other member => each other (List.mem_cons_of_mem _ member)).andThen
      (fun _ _ _ => id) allows ?_
    exact fun tail others => meets_pure (.cons related others)

end Coroutine
