import MiniAgent.Library.Acyclic

/-! # Chains of a partial successor function

`next` knows some nodes and names the successor of those that have one. A node is grounded when its
chain ends without meeting an unknown node or itself again. What is grounded, and what a node
reaches, depends on the function only, however the chains are walked.
-/

namespace SuccessorChain

variable {α : Type} {next : α → Option (Option α)} {node other target : α}

def Follows (next : α → Option (Option α)) (node other : α) : Prop := next node = some (some other)

def Reaches (next : α → Option (Option α)) : α → α → Prop := Relation.ReflTransGen (Follows next)

/-- The chain from the node ends. -/
inductive Grounded (next : α → Option (Option α)) : α → Prop
  | last {node : α} (ends : next node = some none) : Grounded next node
  | onward {node other : α} (follows : Follows next node other)
      (rest : Grounded next other) : Grounded next node

theorem Follows.unique (follows : Follows next node other) (again : Follows next node target) :
    other = target :=
  Option.some.inj (Option.some.inj (follows.symm.trans again))

theorem reaches_of_ends (ends : next node = some none) : Reaches next node target ↔
    target = node := by
  rw [Reaches, Relation.ReflTransGen.cases_head_iff]
  constructor
  · rintro (same | ⟨_, follows, -⟩)
    · exact same.symm
    · exact absurd (ends.symm.trans follows) (by simp)
  · exact fun same => .inl same.symm

theorem reaches_of_follows (follows : Follows next node other) :
    Reaches next node target ↔ target = node ∨ Reaches next other target := by
  rw [Reaches, Relation.ReflTransGen.cases_head_iff]
  constructor
  · rintro (same | ⟨_, again, rest⟩)
    · exact .inl same.symm
    · exact .inr (follows.unique again ▸ rest)
  · rintro (same | rest)
    · exact .inl same.symm
    · exact .inr ⟨other, follows, rest⟩

theorem Grounded.exists_next (grounded : Grounded next node) :
    ∃ successor, next node = some successor ∧ ∀ other ∈ successor, Grounded next other := by
  cases grounded with
  | last ends => exact ⟨none, ends, by simp⟩
  | onward follows rest => exact ⟨_, follows, by simpa using rest⟩

theorem Grounded.of_reaches (grounded : Grounded next node) (reaches : Reaches next node target) :
    Grounded next target := by
  induction reaches with
  | refl => exact grounded
  | @tail middle _ _ follows ih =>
    obtain ⟨successor, resolved, onward⟩ := ih.exists_next
    exact onward _ (Option.some.inj (resolved.symm.trans follows))

/-- A grounded node is not met again. -/
theorem Grounded.acyclic (grounded : Grounded next node) (follows : Follows next node other) :
    ¬Reaches next other node := by
  induction grounded generalizing other with
  | last ends => exact absurd (ends.symm.trans follows) (by simp)
  | @onward node successor first rest ih =>
    obtain rfl := first.unique follows
    intro back
    rcases Relation.ReflTransGen.cases_head_iff.mp back with same | ⟨second, onward, homeward⟩
    · subst same
      exact ih first Relation.ReflTransGen.refl
    · exact ih onward (Relation.ReflTransGen.tail homeward first)

/-- With finitely many known nodes, a chain ends unless it meets an unknown node or comes back. -/
theorem grounded_iff {keys : List α} (known : ∀ node, (next node).isSome = true → node ∈ keys) :
    Grounded next node ↔ ∀ target, Reaches next node target →
      (next target).isSome = true ∧ ¬∃ other, Follows next target other ∧
      Reaches next other target := by
  constructor
  · intro grounded target reaches
    have targetGrounded := grounded.of_reaches reaches
    refine ⟨?_, fun ⟨other, follows, back⟩ => targetGrounded.acyclic follows back⟩
    obtain ⟨successor, resolved, -⟩ := targetGrounded.exists_next
    rw [resolved]
    rfl
  · intro sound
    have acyclic : Acyclic.AcyclicFrom (Follows next) node := by
      intro target reaches cycle
      obtain ⟨other, follows, back⟩ := Relation.TransGen.head'_iff.mp cycle
      exact (sound target reaches).2 ⟨other, follows, back⟩
    have finite : {other | Relation.ReflTransGen (Follows next) node other}.Finite :=
      (List.finite_toSet keys).subset fun other reaches => known other (sound other reaches).1
    have ends := acyclic.ends finite
    induction ends with
    | intro node _ ih =>
      obtain ⟨successor, resolved⟩ := Option.isSome_iff_exists.mp (sound node .refl).1
      cases successor with
      | none => exact .last resolved
      | some other =>
        have follows : Follows next node other := resolved
        refine .onward follows
          (ih other follows (fun target onward => sound target (.head follows onward)) ?_ ?_)
        · exact acyclic.of_reaches (.single follows)
        · exact finite.subset fun target onward => .head follows onward

end SuccessorChain
