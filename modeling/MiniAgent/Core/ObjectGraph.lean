import MiniAgent.Library.Acyclic
import MiniAgent.Library.Keyed
import Mathlib.Data.Finset.Card
import Mathlib.Data.Rat.Defs

/-! # Graphs of objects that JSON values are read from

A mapping or a sequence is an object with an identity: several places can hold one object, and an
object can be held below itself. Where no cycle can be reached, an object stands for a finite value,
which it stores.
-/

namespace MiniAgent.Core

/-- An object that is no container. A float that is not finite has no value here; `other` is any
object that is not of an exact scalar type. -/
inductive PyLeaf
  | none
  | bool (value : Bool)
  | int (value : ℤ)
  | float (value : Option ℚ)
  | str (value : String)
  | other
deriving DecidableEq, Repr

/-- A key of a mapping: an exact string, or another object with its `str`. -/
inductive PyKey
  | str (value : String)
  | other (text : String)
deriving DecidableEq, Repr

/-- `str(key)` -/
def PyKey.text : PyKey → String
  | str value => value
  | other text => text

def PyKey.isExactStr : PyKey → Bool
  | str _ => true
  | other _ => false

/-- The types of objects that are a `Mapping`. -/
inductive MappingType
  | dict
  | frozenJsonDict
  | other
deriving DecidableEq, Repr

/-- The types of objects that are a `Sequence`, but no `Mapping` and no text. -/
inductive SequenceType
  | list
  | frozenJsonList
  | other
deriving DecidableEq, Repr

/-- An object, with references to what it holds. The entries of a mapping are its `items()`. -/
inductive HeapObject (Ref : Type)
  | leaf (value : PyLeaf)
  | mapping (type : MappingType) (entries : List (PyKey × Ref))
  | sequence (type : SequenceType) (items : List Ref)
deriving DecidableEq, Repr

namespace HeapObject

variable {Ref : Type}

def children : HeapObject Ref → List Ref
  | leaf _ => []
  | mapping _ entries => entries.map Prod.snd
  | sequence _ items => items

end HeapObject

/-- The object behind every identity. -/
abbrev ObjectGraph (Ref : Type) := Ref → HeapObject Ref

namespace ObjectGraph

variable {Ref : Type}

/-- One object holds another. -/
def Holds (graph : ObjectGraph Ref) (parent child : Ref) : Prop := child ∈ (graph parent).children

def Reaches (graph : ObjectGraph Ref) : Ref → Ref → Prop := Relation.ReflTransGen graph.Holds

/-- No object that can be reached holds itself, over any number of objects. -/
def AcyclicBelow (graph : ObjectGraph Ref) (root : Ref) : Prop :=
  Acyclic.AcyclicFrom graph.Holds root

end ObjectGraph

/-- What an object stands for: a tree, in which shared objects are repeated. The keys of a mapping
and its values are listed apart, in one order. -/
inductive PyValue
  | leaf (value : PyLeaf)
  | mapping (type : MappingType) (keys : List PyKey) (values : List PyValue)
  | sequence (type : SequenceType) (items : List PyValue)
deriving Repr

namespace PyValue

/-- The values directly inside. -/
def parts : PyValue → List PyValue
  | .leaf _ => []
  | .mapping _ _ values => values
  | .sequence _ items => items

/-- Induction from the parts of a value to the value. -/
@[elab_as_elim]
theorem parts_induction {motive : PyValue → Prop}
    (step : ∀ value, (∀ part ∈ value.parts, motive part) → motive value) (value : PyValue) :
    motive value :=
  @PyValue.rec motive (fun values => ∀ value ∈ values, motive value)
    (fun leaf => step (.leaf leaf) (by simp [parts]))
    (fun type keys values each => step (.mapping type keys values) each)
    (fun type items each => step (.sequence type items) each) (by simp)
    (fun _ _ first rest => List.forall_mem_cons.mpr ⟨first, rest⟩) value

mutual

/-- The number of containers around the innermost leaf. -/
def depth : PyValue → ℕ
  | .leaf _ => 0
  | .mapping _ _ values => depthAll values + 1
  | .sequence _ items => depthAll items + 1

def depthAll : List PyValue → ℕ
  | [] => 0
  | value :: rest => max (depth value) (depthAll rest)

end

private theorem depthAll_le_iff {values : List PyValue} {bound : ℕ} :
    depthAll values ≤ bound ↔ ∀ value ∈ values, value.depth ≤ bound := by
  induction values with
  | nil => simp [depthAll]
  | cons value rest ih => simp [depthAll, ih]

private theorem depth_le_succ_iff {value : PyValue} {bound : ℕ} :
    value.depth ≤ bound + 1 ↔ ∀ part ∈ value.parts, part.depth ≤ bound := by
  cases value with
  | leaf leaf => simp [depth, parts]
  | mapping type keys values => simp [depth, parts, depthAll_le_iff]
  | sequence type items => simp [depth, parts, depthAll_le_iff]

theorem depth_lt_of_mem_parts {value part : PyValue} (member : part ∈ value.parts) :
    part.depth < value.depth := by
  cases value with
  | leaf leaf => cases member
  | mapping type keys values => exact Nat.lt_succ_of_le (depthAll_le_iff.mp le_rfl part member)
  | sequence type items => exact Nat.lt_succ_of_le (depthAll_le_iff.mp le_rfl part member)

end PyValue

namespace ObjectGraph

variable {Ref : Type} {graph : ObjectGraph Ref} {ref child : Ref} {value part : PyValue}

variable (graph) in
/-- The value that an object stands for. -/
inductive Stores : PyValue → Ref → Prop
  | leaf {value : PyLeaf} {ref : Ref} (found : graph ref = .leaf value) : Stores (.leaf value) ref
  | mapping {type : MappingType} {entries : List (PyKey × Ref)} {values : List PyValue} {ref : Ref}
      (found : graph ref = .mapping type entries)
      (each : List.Forall₂ Stores values (entries.map Prod.snd)) :
      Stores (.mapping type (entries.map Prod.fst) values) ref
  | sequence {type : SequenceType} {items : List Ref} {values : List PyValue} {ref : Ref}
      (found : graph ref = .sequence type items) (each : List.Forall₂ Stores values items) :
      Stores (.sequence type values) ref

/-- The parts of a stored value are stored by what its object holds, in that order. -/
theorem Stores.parts (stored : graph.Stores value ref) :
    List.Forall₂ graph.Stores value.parts (graph ref).children := by
  cases stored with
  | leaf found =>
    rw [found]
    exact .nil
  | mapping found each =>
    rw [found]
    exact each
  | sequence found each =>
    rw [found]
    exact each

theorem Stores.exists_part (stored : graph.Stores value ref) (held : graph.Holds ref child) :
    ∃ part ∈ value.parts, graph.Stores part child :=
  Keyed.exists_of_forall₂_right stored.parts held

theorem Stores.exists_child (stored : graph.Stores value ref) (member : part ∈ value.parts) :
    ∃ child, graph.Holds ref child ∧ graph.Stores part child :=
  Keyed.exists_of_forall₂_left stored.parts member

private theorem exists_forall₂ {α β : Type} {related : α → β → Prop} {items : List β}
    (each : ∀ item ∈ items, ∃ value, related value item) :
    ∃ values, List.Forall₂ related values items := by
  induction items with
  | nil => exact ⟨[], .nil⟩
  | cons item rest ih =>
    obtain ⟨⟨value, found⟩, others⟩ := List.forall_mem_cons.mp each
    obtain ⟨values, founds⟩ := ih others
    exact ⟨value :: values, .cons found founds⟩

/-- An object below which every path ends stores a value. -/
theorem exists_stores (ends : Acyclic.Ends graph.Holds ref) : ∃ value, graph.Stores value ref := by
  induction ends with
  | intro ref _ ih =>
    have each : ∀ child ∈ (graph ref).children, ∃ value, graph.Stores value child :=
      fun child held => ih child held
    cases found : graph ref with
    | leaf value => exact ⟨_, .leaf found⟩
    | mapping type entries =>
      obtain ⟨values, stored⟩ := exists_forall₂ (found ▸ each)
      exact ⟨_, .mapping found stored⟩
    | sequence type items =>
      obtain ⟨values, stored⟩ := exists_forall₂ (found ▸ each)
      exact ⟨_, .sequence found stored⟩

theorem Stores.ends (stored : graph.Stores value ref) : Acyclic.Ends graph.Holds ref := by
  induction value using PyValue.parts_induction generalizing ref with
  | step value ih =>
    refine ⟨_, fun child held => ?_⟩
    obtain ⟨part, member, partStored⟩ := stored.exists_part held
    exact ih part member partStored

theorem finite_reachable [Fintype Ref] (root : Ref) : {ref | graph.Reaches root ref}.Finite :=
  Set.toFinite _

/-- In a finite graph a value is stored where no cycle can be reached. -/
theorem stores_iff_acyclicBelow [Fintype Ref] : (∃ value, graph.Stores value ref) ↔
    graph.AcyclicBelow ref :=
  ⟨fun ⟨_, stored⟩ => stored.ends.acyclicFrom,
    fun acyclic => exists_stores (acyclic.ends (finite_reachable ref))⟩

/-- The objects around an object are different from it and from each other, so that a value is no
deeper than the graph is large. -/
private theorem Stores.depth_add_card_le [Fintype Ref] [DecidableEq Ref]
    (stored : graph.Stores value ref) (around : Finset Ref)
    (above : ∀ other ∈ around, Relation.TransGen graph.Holds other ref) :
    value.depth + around.card ≤ Fintype.card Ref := by
  induction value using PyValue.parts_induction generalizing ref around with
  | step value ih =>
    have apart : ref ∉ around := fun met => stored.ends.not_cycle (above ref met)
    have room : around.card + 1 ≤ Fintype.card Ref := by
      rw [← Finset.card_insert_of_notMem apart]
      exact Finset.card_le_univ _
    have inside : ∀ part ∈ value.parts, part.depth ≤ Fintype.card Ref - around.card - 1 := by
      intro part member
      obtain ⟨child, held, partStored⟩ := stored.exists_child member
      have bound := ih part member partStored (insert ref around) fun other met => by
        rcases Finset.mem_insert.mp met with rfl | earlier
        · exact .single held
        · exact (above other earlier).tail held
      rw [Finset.card_insert_of_notMem apart] at bound
      omega
    have shallow := PyValue.depth_le_succ_iff.mpr inside
    omega

theorem Stores.depth_le [Fintype Ref] [DecidableEq Ref] (stored : graph.Stores value ref) :
    value.depth ≤ Fintype.card Ref :=
  stored.depth_add_card_le ∅ (by simp)

end ObjectGraph

end MiniAgent.Core
