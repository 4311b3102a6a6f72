import Mathlib.Data.Nat.Notation
import Mathlib.Order.Basic

/-! # A loop that runs rounds

The loop `while True` runs one round after the other until a round ends it with a verdict. It is run
with fuel, and without a result when the fuel is used up. A measure that each round lowers that goes
on bounds the number of rounds, so that from some amount of fuel on the result is always the same.
-/

namespace Rounds

variable {State Report Verdict : Type}

/-- What one round did: its report, the state that it left and, where it ends the loop, its
verdict. -/
structure Round (State Report Verdict : Type) where
  report : Report
  state : State
  verdict : Option Verdict

/-- A loop that has ended: the reports of the rounds that went on, and the round that did not. -/
structure Ended (State Report Verdict : Type) where
  continued : List Report
  last : Report
  state : State
  verdict : Verdict

/-- The reports of all rounds. -/
def Ended.reports (ended : Ended State Report Verdict) : List Report :=
  ended.continued ++ [ended.last]

/-- Run rounds, each of which knows its index. -/
def run (round : ℕ → State → Round State Report Verdict) :
    ℕ → ℕ → State → Option (Ended State Report Verdict)
  | 0, _, _ => none
  | fuel + 1, index, state =>
    match (round index state).verdict with
    | some verdict => some ⟨[], (round index state).report, (round index state).state, verdict⟩
    | none => (run round fuel (index + 1) (round index state).state).map fun ended =>
        { ended with continued := (round index state).report :: ended.continued }

variable {round : ℕ → State → Round State Report Verdict} {fuel index : ℕ} {state : State}
  {ended : Ended State Report Verdict}

/-- A result is found again with more fuel. -/
theorem run_mono {more : ℕ} (found : run round fuel index state = some ended) (le : fuel ≤ more) :
    run round more index state = some ended := by
  induction fuel generalizing more index state ended with
  | zero => cases found
  | succ fuel ih =>
    obtain ⟨more, rfl⟩ := Nat.exists_eq_add_of_le' (Nat.lt_of_lt_of_le (Nat.succ_pos fuel) le)
    rw [run] at found ⊢
    split at found
    · next verdict stops => simpa only [stops] using found
    · obtain ⟨rest, foundRest, rfl⟩ := Option.map_eq_some_iff.mp found
      simp only [ih foundRest (Nat.le_of_succ_le_succ le), Option.map_some]

/-- Each round that goes on lowers the measure. -/
def Lowers (round : ℕ → State → Round State Report Verdict) (measure : State → ℕ) : Prop :=
  ∀ index state, (round index state).verdict = none →
    measure (round index state).state < measure state

variable {measure : State → ℕ}

/-- The loop ends, after no more rounds than the measure allows. -/
theorem Lowers.exists_run (lowers : Lowers round measure) (index : ℕ)
    (enough : measure state < fuel) :
    ∃ ended, run round fuel index state = some ended ∧ ended.continued.length ≤ measure state := by
  induction fuel generalizing index state with
  | zero => cases enough
  | succ fuel ih =>
    rw [run]
    split
    · exact ⟨_, rfl, Nat.zero_le _⟩
    · next goes =>
      have less := lowers index state goes
      obtain ⟨rest, found, bounded⟩ :=
        ih (index + 1) (Nat.lt_of_lt_of_le less (Nat.le_of_lt_succ enough))
      rw [found]
      exact ⟨_, rfl, Nat.lt_of_le_of_lt bounded less⟩

/-- The loop has one result, which every sufficient amount of fuel gives. -/
theorem Lowers.exists_ended (lowers : Lowers round measure) (index : ℕ) (state : State) :
    ∃ ended : Ended State Report Verdict, ended.continued.length ≤ measure state ∧
      ∀ fuel, measure state < fuel → run round fuel index state = some ended := by
  obtain ⟨ended, found, bounded⟩ := lowers.exists_run index (Nat.lt_succ_self (measure state))
  exact ⟨ended, bounded, fun fuel enough => run_mono found enough⟩

/-- What holds of every round that goes on, and of every round that ends the loop, holds of a loop
that has ended. -/
theorem of_run (continues : Report → Prop) (stops : Report → State → Verdict → Prop)
    (goes : ∀ index state, (round index state).verdict = none →
      continues (round index state).report)
    (ends : ∀ index state verdict, (round index state).verdict = some verdict →
      stops (round index state).report (round index state).state verdict)
    (found : run round fuel index state = some ended) :
    (∀ report ∈ ended.continued, continues report) ∧
    stops ended.last ended.state ended.verdict := by
  induction fuel generalizing index state ended with
  | zero => cases found
  | succ fuel ih =>
    rw [run] at found
    split at found
    · next verdict stopped =>
      obtain rfl := Option.some.inj found
      exact ⟨List.forall_mem_nil _, ends index state verdict stopped⟩
    · next gone =>
      obtain ⟨rest, foundRest, rfl⟩ := Option.map_eq_some_iff.mp found
      obtain ⟨others, last⟩ := ih foundRest
      exact ⟨List.forall_mem_cons.mpr ⟨goes index state gone, others⟩, last⟩

end Rounds
