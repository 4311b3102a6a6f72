import Mathlib.Data.Fintype.Card
import Mathlib.Data.Set.Finite.Basic
import Mathlib.Logic.Relation

/-! # Nodes from which no cycle can be reached

In a graph whose reachable part is finite, a node from which no cycle can be reached is accessible
along the edges, so what is below it can be shown by induction; and nothing below an accessible node
is on a cycle.
-/

namespace Acyclic

variable {α : Type} {edge : α → α → Prop} {node other : α}

/-- No node that can be reached is on a cycle. -/
def AcyclicFrom (edge : α → α → Prop) (node : α) : Prop :=
  ∀ other, Relation.ReflTransGen edge node other → ¬Relation.TransGen edge other other

/-- Every path from the node ends. -/
def Ends (edge : α → α → Prop) : α → Prop := Acc fun child parent => edge parent child

theorem AcyclicFrom.of_reaches (acyclic : AcyclicFrom edge node)
    (reaches : Relation.ReflTransGen edge node other) :
    AcyclicFrom edge other :=
  fun target onward => acyclic target (reaches.trans onward)

theorem Ends.of_reaches (ends : Ends edge node) (reaches : Relation.ReflTransGen edge node other) :
    Ends edge other := by
  induction reaches with
  | refl => exact ends
  | tail _ step ih => exact ih.inv step

theorem Ends.not_cycle (ends : Ends edge node) : ¬Relation.TransGen edge node node := by
  induction ends with
  | intro node _ ih =>
    intro cycle
    obtain ⟨child, step, back⟩ := Relation.TransGen.head'_iff.mp cycle
    exact ih child step (Relation.TransGen.tail' back step)

theorem Ends.acyclicFrom (ends : Ends edge node) : AcyclicFrom edge node :=
  fun _ reaches => (ends.of_reaches reaches).not_cycle

/-- Along finitely many nodes, a path that does not end meets one of them again. -/
theorem AcyclicFrom.ends (acyclic : AcyclicFrom edge node)
    (finite : {other | Relation.ReflTransGen edge node other}.Finite) : Ends edge node := by
  have : Finite {other // Relation.ReflTransGen edge node other} := finite
  let below (child parent : {other // Relation.ReflTransGen edge node other}) : Prop :=
    Relation.TransGen edge parent.1 child.1
  have transitive : IsTrans _ below := ⟨fun _ _ _ first second => second.trans first⟩
  have irreflexive : Std.Irrefl below := ⟨fun place cycle => acyclic place.1 place.2 cycle⟩
  have founded : WellFounded below := Finite.wellFounded_of_trans_of_irrefl below
  suffices general : ∀ place : {other // Relation.ReflTransGen edge node other},
      Ends edge place.1 from
    general ⟨node, .refl⟩
  intro place
  induction place using founded.induction with
  | _ place ih => exact ⟨_, fun child step => ih ⟨child, place.2.tail step⟩ (.single step)⟩

end Acyclic
