import Mathlib.Data.List.Sort
import Mathlib.Data.List.SplitBy
import Mathlib.Data.List.TakeWhile

/-! # Runs of equal keys

A list that is sorted by a key consists of runs: the items of the smallest key, those of the next,
and so on. What is done to such a list run by run is proved by induction on its runs.
-/

namespace KeyRuns

variable {α σ : Type*} [LinearOrder σ] {key : α → σ} {value : σ} {items run rest : List α}

/-- A run in front of a list of larger keys. -/
structure Leads (key : α → σ) (value : σ) (run rest : List α) : Prop where
  nonempty : run ≠ []
  same : ∀ item ∈ run, key item = value
  larger : ∀ item ∈ rest, value < key item

theorem lt_of_mem_dropWhile (sorted : items.Pairwise fun left right => key left ≤ key right)
    (least : ∀ item ∈ items, value ≤ key item) :
    ∀ item ∈ items.dropWhile (key · == value), value < key item := by
  induction items with
  | nil => simp
  | cons head rest ih =>
    obtain ⟨before, sorted⟩ := List.pairwise_cons.mp sorted
    obtain ⟨here, least⟩ := List.forall_mem_cons.mp least
    rw [List.dropWhile_cons]
    split_ifs with same
    · exact ih sorted least
    · have above : value < key head := lt_of_le_of_ne here fun equal => same (by simp [equal])
      exact List.forall_mem_cons.mpr ⟨above, fun item member => above.trans_le (before item member)⟩

/-- A sorted list that is not empty has a first run. -/
theorem exists_leads (sorted : items.Pairwise fun left right => key left ≤ key right)
    (nonempty : items ≠ []) :
    ∃ value run rest, items = run ++ rest ∧ Leads key value run rest ∧
      rest.Pairwise fun left right => key left ≤ key right := by
  obtain ⟨head, tail, rfl⟩ := List.exists_cons_of_ne_nil nonempty
  have least : ∀ item ∈ head :: tail, key head ≤ key item :=
    List.forall_mem_cons.mpr ⟨le_rfl, (List.pairwise_cons.mp sorted).1⟩
  refine ⟨key head, (head :: tail).takeWhile (key · == key head),
    (head :: tail).dropWhile (key · == key head), List.takeWhile_append_dropWhile.symm,
    ⟨by simp, fun item member => ?_, lt_of_mem_dropWhile sorted least⟩,
    sorted.sublist (List.dropWhile_sublist _)⟩
  simpa using List.mem_takeWhile_imp member

/-- Induction on the runs of a sorted list. -/
theorem induction {motive : List α → Prop} (nil : motive [])
    (cons : ∀ value run rest, Leads key value run rest → motive rest → motive (run ++ rest))
    (sorted : items.Pairwise fun left right => key left ≤ key right) : motive items := by
  induction size : items.length using Nat.strong_induction_on generalizing items with
  | _ size ih =>
    by_cases empty : items = []
    · exact empty ▸ nil
    · obtain ⟨value, run, rest, rfl, leads, sorted⟩ := exists_leads sorted empty
      have positive := List.length_pos_of_ne_nil leads.nonempty
      rw [List.length_append] at size
      exact cons value run rest leads (ih rest.length (by omega) sorted rfl)

variable (leads : Leads key value run rest)
include leads

/-- The first run is the first group. -/
theorem Leads.splitBy : (run ++ rest).splitBy (fun left right => key left == key right) =
    run :: rest.splitBy fun left right => key left == key right := by
  have chain : run.IsChain fun left right => (key left == key right) = true := by
    apply List.Pairwise.isChain
    apply List.pairwise_of_forall_mem_list
    intro left leftMember right rightMember
    rw [leads.same left leftMember, leads.same right rightMember, beq_self_eq_true]
  rw [List.splitBy_append, List.splitBy_of_isChain leads.nonempty chain, List.singleton_append]
  intro left leftMember right rightMember
  rw [leads.same left (List.mem_of_getLast? leftMember), beq_eq_false_iff_ne]
  exact (leads.larger right (List.mem_of_head? rightMember)).ne

/-- The items of a key are all in its run. -/
theorem Leads.filter (wanted : σ) : (run ++ rest).filter (key · == wanted) =
    if wanted = value then run else rest.filter (key · == wanted) := by
  rw [List.filter_append]
  split_ifs with this
  · subst this
    have all : run.filter (key · == wanted) = run :=
      List.filter_eq_self.mpr fun item member => by simp [leads.same item member]
    have none : rest.filter (key · == wanted) = [] :=
      List.filter_eq_nil_iff.mpr fun item member => by simpa using (leads.larger item member).ne'
    rw [all, none, List.append_nil]
  · have none : run.filter (key · == wanted) = [] :=
      List.filter_eq_nil_iff.mpr fun item member => by
        simpa [leads.same item member] using Ne.symm this
    rw [none, List.nil_append]

/-- The key of the first run is the smallest. -/
theorem Leads.le {other : σ} {otherRun otherRest : List α}
    (otherLeads : Leads key other otherRun otherRest) (within : otherRun ⊆ run ++ rest) :
    value ≤ other := by
  obtain ⟨item, member⟩ := List.exists_mem_of_ne_nil _ otherLeads.nonempty
  rw [← otherLeads.same item member]
  rcases List.mem_append.mp (within member) with here | later
  · exact (leads.same item here).ge
  · exact (leads.larger item later).le

omit leads in
/-- A sorted list is determined by the items of each key. -/
theorem eq_of_filter {others : List α}
    (sorted : items.Pairwise fun left right => key left ≤ key right)
    (otherSorted : others.Pairwise fun left right => key left ≤ key right)
    (same : ∀ value, items.filter (key · == value) = others.filter (key · == value)) :
    items = others := by
  have within : ∀ {items others : List α},
      (∀ value, items.filter (key · == value) = others.filter (key · == value)) →
      items ⊆ others := by
    intro items others same item member
    have chosen : item ∈ items.filter (key · == key item) :=
      List.mem_filter.mpr ⟨member, beq_self_eq_true _⟩
    rw [same] at chosen
    exact (List.mem_filter.mp chosen).1
  refine induction (motive := fun items => ∀ others : List α,
    (others.Pairwise fun left right => key left ≤ key right) →
      (∀ value, items.filter (key · == value) = others.filter (key · == value)) → items = others)
    ?_ ?_ sorted others otherSorted same
  · intro others _ same
    exact (List.subset_nil.mp (within fun value => (same value).symm)).symm
  · intro value run rest leads ih others sorted same
    have known : run ⊆ others := fun item member => within same (List.mem_append_left _ member)
    obtain ⟨item, member⟩ := List.exists_mem_of_ne_nil _ leads.nonempty
    obtain ⟨other, otherRun, otherRest, rfl, otherLeads, restSorted⟩ :=
      exists_leads sorted (List.ne_nil_of_mem (known member))
    have back : otherRun ⊆ run ++ rest := fun item member => within (fun value => (same value).symm)
      (List.mem_append_left _ member)
    have equal : value = other := le_antisymm (leads.le otherLeads back) (otherLeads.le leads known)
    subst equal
    have runs : run = otherRun := by
      have filtered := same value
      rwa [leads.filter, otherLeads.filter, if_pos rfl, if_pos rfl] at filtered
    subst runs
    congr 1
    refine ih otherRest restSorted fun wanted => ?_
    have filtered := same wanted
    rw [List.filter_append, List.filter_append] at filtered
    exact List.append_cancel_left filtered

end KeyRuns
