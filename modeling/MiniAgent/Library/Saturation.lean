import Mathlib.Algebra.Order.Ring.Nat
import MiniAgent.Library.Outcome

/-! # Growing a selection until nothing is added

A round takes a selection and appends what it derives from it, or fails. Rounds are repeated until
one of them appends nothing. When selections are bounded this ends, and what is selected then is
closed under the rounds and contained in whatever contains the start and is kept by them.
-/

namespace Saturation

variable {α ε σ ι : Type}

section Folds

variable {step : σ → ι → Except ε σ} {items : List ι} {start final : σ}

theorem foldlM_cons_eq_ok {item : ι} :
    (item :: items).foldlM step start = .ok final ↔
      ∃ middle, step start item = .ok middle ∧ items.foldlM step middle = .ok final := by
  rw [List.foldlM_cons, Except.bind_eq_ok_iff]

/-- What every step does, a successful fold has done; what a step has achieved for its item
stays. -/
theorem foldlM_spec (grows : σ → σ → Prop) (achieved : ι → σ → Prop)
    (refl : ∀ state, grows state state)
    (trans : ∀ first second third, grows first second → grows second third → grows first third)
    (stable : ∀ item first second, achieved item first → grows first second → achieved item second)
    (each : ∀ item ∈ items, ∀ before after, step before item = .ok after → grows before after ∧
      achieved item after)
    (folded : items.foldlM step start = .ok final) :
    grows start final ∧ ∀ item ∈ items, achieved item final := by
  induction items generalizing start with
  | nil =>
    rw [List.foldlM_nil, Except.pure_eq_ok_iff] at folded
    exact folded ▸ ⟨refl start, by simp⟩
  | cons item rest ih =>
    obtain ⟨middle, stepped, folded⟩ := foldlM_cons_eq_ok.mp folded
    obtain ⟨grown, done⟩ := each item (List.mem_cons_self ..) _ _ stepped
    obtain ⟨onward, others⟩ :=
      ih (fun other member => each other (List.mem_cons_of_mem _ member)) folded
    refine ⟨trans _ _ _ grown onward, ?_⟩
    intro other member
    rcases List.mem_cons.mp member with rfl | member
    · exact stable _ _ _ done onward
    · exact others other member

/-- What every step keeps holds after a successful fold. -/
theorem foldlM_keeps (invariant : σ → Prop)
    (each : ∀ item ∈ items, ∀ before after, invariant before → step before item = .ok after →
      invariant after)
    (holds : invariant start) (folded : items.foldlM step start = .ok final) : invariant final := by
  induction items generalizing start with
  | nil =>
    rw [List.foldlM_nil, Except.pure_eq_ok_iff] at folded
    exact folded ▸ holds
  | cons item rest ih =>
    obtain ⟨middle, stepped, onward⟩ := foldlM_cons_eq_ok.mp folded
    exact ih (fun other member => each other (List.mem_cons_of_mem _ member))
      (each item List.mem_cons_self _ _ holds stepped) onward

/-- A fold succeeds when every step does, from every state that keeps an invariant. -/
theorem foldlM_succeeds {invariant : σ → Prop}
    (each : ∀ item ∈ items, ∀ before, invariant before → ∃ after, step before item = .ok after ∧
      invariant after)
    (holds : invariant start) : ∃ final, items.foldlM step start = .ok final ∧ invariant final := by
  induction items generalizing start with
  | nil => exact ⟨start, rfl, holds⟩
  | cons item rest ih =>
    obtain ⟨middle, stepped, kept⟩ := each item (List.mem_cons_self ..) start holds
    obtain ⟨final, folded, done⟩ :=
      ih (fun other member => each other (List.mem_cons_of_mem _ member)) kept
    exact ⟨final, foldlM_cons_eq_ok.mpr ⟨middle, stepped, folded⟩, done⟩

end Folds

/-- A selection is bounded by the caps of its families. -/
theorem length_le_of_capped {κ : Type} [DecidableEq κ] (family : α → κ) (cap : κ → ℕ)
    (families : List κ) (items : List α) (covers : ∀ item ∈ items, family item ∈ families)
    (capped : ∀ kind, (items.filter fun item => family item == kind).length ≤ cap kind) :
    items.length ≤ (families.map cap).sum := by
  induction families generalizing items with
  | nil =>
    obtain rfl := List.eq_nil_iff_forall_not_mem.mpr fun item member =>
      List.not_mem_nil (covers item member)
    exact Nat.le_refl _
  | cons kind rest ih =>
    have others := ih (items.filter fun item => family item != kind)
      (fun item member => by
        obtain ⟨listed, differs⟩ := List.mem_filter.mp member
        exact (List.mem_cons.mp (covers item listed)).resolve_left (by simpa using differs))
      (fun other =>
        Nat.le_trans (List.Sublist.length_le (List.Sublist.filter _ List.filter_sublist))
          (capped other))
    have split := List.length_eq_length_filter_add (l := items) fun item => family item == kind
    have here := capped kind
    simp only [bne, List.map_cons, List.sum_cons] at others ⊢
    omega

variable {round : List α → Except ε (List α)} {selected final : List α} {fuel bound : ℕ}

/-- Repeat a round until it appends nothing; `none` when the fuel is used up before. -/
def saturate (round : List α → Except ε (List α)) : ℕ → List α → Except ε (Option (List α))
  | 0, _ => .ok none
  | fuel + 1, selected => do
    let next ← round selected
    if next.length = selected.length then return some next else saturate round fuel next

theorem saturate_succ_eq_ok {outcome : Option (List α)} :
    saturate round (fuel + 1) selected = .ok outcome ↔ ∃ next, round selected = .ok next ∧
      (next.length = selected.length ∧ outcome = some next ∨
        next.length ≠ selected.length ∧ saturate round fuel next = .ok outcome) := by
  simp only [saturate, Except.bind_eq_ok_iff]
  apply exists_congr
  intro next
  apply and_congr_right
  intro
  split_ifs with same
  · rw [Except.pure_eq_ok_iff]
    simp [same, eq_comm]
  · simp [same]

/-- A saturated selection is one that a round leaves as it is. -/
theorem round_of_saturate (retains : ∀ before after, round before = .ok after → before <+: after)
    (saturated : saturate round fuel selected = .ok (some final)) : round final = .ok final := by
  induction fuel generalizing selected with
  | zero => simp [saturate] at saturated
  | succ fuel ih =>
    obtain ⟨next, done, ⟨same, equal⟩ | ⟨-, onward⟩⟩ := saturate_succ_eq_ok.mp saturated
    · have unchanged := (retains _ _ done).eq_of_length same.symm
      obtain rfl := Option.some.inj equal
      rwa [unchanged] at done
    · exact ih onward

/-- What every round keeps holds of the saturated selection. -/
theorem saturate_keeps {invariant : List α → Prop}
    (keeps : ∀ before after, invariant before → round before = .ok after → invariant after)
    (holds : invariant selected) (saturated : saturate round fuel selected = .ok (some final)) :
    invariant final := by
  induction fuel generalizing selected with
  | zero => simp [saturate] at saturated
  | succ fuel ih =>
    obtain ⟨next, done, ⟨-, equal⟩ | ⟨-, onward⟩⟩ := saturate_succ_eq_ok.mp saturated
    · obtain rfl := Option.some.inj equal
      exact keeps _ _ holds done
    · exact ih (keeps _ _ holds done) onward

/-- Enough fuel is never used up when selections are bounded. -/
theorem saturate_ends {invariant : List α → Prop}
    (keeps : ∀ before after, invariant before → round before = .ok after → invariant after)
    (retains : ∀ before after, round before = .ok after → before <+: after)
    (bounded : ∀ selection, invariant selection → selection.length ≤ bound)
    (holds : invariant selected) (enough : bound < fuel + selected.length) :
    saturate round fuel selected ≠ .ok none := by
  induction fuel generalizing selected with
  | zero =>
    have := bounded selected holds
    omega
  | succ fuel ih =>
    intro spent
    obtain ⟨next, done, ⟨-, equal⟩ | ⟨grew, onward⟩⟩ := saturate_succ_eq_ok.mp spent
    · cases equal
    · have longer := (retains _ _ done).length_le
      exact ih (keeps _ _ holds done) (by omega) onward

/-- Rounds that never fail saturate. -/
theorem saturate_succeeds {invariant : List α → Prop}
    (succeeds : ∀ before, invariant before → ∃ after, round before = .ok after ∧ invariant after)
    (holds : invariant selected) : ∃ outcome, saturate round fuel selected = .ok outcome := by
  induction fuel generalizing selected with
  | zero => exact ⟨none, rfl⟩
  | succ fuel ih =>
    obtain ⟨next, done, kept⟩ := succeeds selected holds
    by_cases same : next.length = selected.length
    · exact ⟨some next, saturate_succ_eq_ok.mpr ⟨next, done, .inl ⟨same, rfl⟩⟩⟩
    · obtain ⟨outcome, onward⟩ := ih kept
      exact ⟨outcome, saturate_succ_eq_ok.mpr ⟨next, done, .inr ⟨same, onward⟩⟩⟩

end Saturation
