import MiniAgent.Core.ObjectGraph
import Mathlib.Algebra.BigOperators.Group.Finset.Basic

/-! # The search for what is not native JSON

`_is_native_json_value` goes through an object graph with a stack of its own: a container is
entered, its children are pushed above a frame that leaves it again, and it counts as completed once
that frame is reached. Between its entry and its exit it is active, and a frame that asks for an
active container has found a cycle. A shared object is completed when it is asked for again.
-/

namespace MiniAgent.Application

open MiniAgent.Core

/-- `_is_native_json_scalar` -/
def isNativeJsonScalar : PyLeaf → Bool
  | .float value => value.isSome
  | .other => false
  | _ => true

section Search

variable {Ref : Type}

/-- The object passes as a scalar. -/
def isScalarObject : HeapObject Ref → Bool
  | .leaf value => isNativeJsonScalar value
  | _ => false

/-- The object is a container of an accepted type. -/
def isContainer (frozenContainers : Bool) : HeapObject Ref → Bool
  | .leaf _ => false
  | .mapping type _ => !frozenContainers || type == .frozenJsonDict
  | .sequence type _ => type == if frozenContainers then .frozenJsonList else .list

/-- All keys of a mapping are exact strings, and none comes up twice. -/
def hasNativeKeys : HeapObject Ref → Bool
  | .mapping _ entries => (entries.map Prod.fst).all (·.isExactStr) &&
      decide (entries.map Prod.fst).Nodup
  | _ => true

/-- The variables of the loop, with the last pending frame first. -/
structure NativeSearch (Ref : Type) where
  pending : List (Ref × Bool)
  activeContainerIds : Finset Ref
  completedContainerIds : Finset Ref

/-- How one round of the loop goes on. -/
inductive SearchRound (Ref : Type)
  | returned (answer : Bool)
  | keyError
  | again (search : NativeSearch Ref)

variable [DecidableEq Ref] (graph : ObjectGraph Ref) (frozenContainers : Bool)

/-- The body of `while pending`. -/
def searchRound (search : NativeSearch Ref) : SearchRound Ref :=
  match search.pending with
  | [] => .returned true
  | (current, exiting) :: pending =>
    if isScalarObject (graph current) then .again { search with pending }
    else if !isContainer frozenContainers (graph current) then .returned false
    else if exiting then
      if current ∈ search.activeContainerIds then
        .again { pending, activeContainerIds := search.activeContainerIds.erase current
                 completedContainerIds := insert current search.completedContainerIds }
      else .keyError
    else if current ∈ search.activeContainerIds then .returned false
    else if current ∈ search.completedContainerIds then .again { search with pending }
    else if !hasNativeKeys (graph current) then .returned false
    else .again { search with
      pending := ((graph current).children.reverse.map fun child => (child, false)) ++
        (current, true) :: pending
      activeContainerIds := insert current search.activeContainerIds }

/-- Some rounds of the loop. There is no answer after too few of them, or where `remove` fails. -/
def searchRounds : ℕ → NativeSearch Ref → Option Bool
  | 0, _ => none
  | rounds + 1, search =>
    match searchRound graph frozenContainers search with
    | .returned answer => some answer
    | .keyError => none
    | .again next => searchRounds rounds next

/-- `_is_native_json_value` -/
def isNativeJsonValue (rounds : ℕ) (value : Ref) : Option Bool :=
  searchRounds graph frozenContainers rounds ⟨[(value, false)], ∅, ∅⟩

end Search

section Native

variable {Ref : Type} (graph : ObjectGraph Ref) (frozenContainers : Bool)

/-- The object itself is a native scalar, or a container with native keys. -/
def isNativeObject (object : HeapObject Ref) : Bool :=
  isScalarObject object || (isContainer frozenContainers object && hasNativeKeys object)

/-- The recursive definition: the object is native, and so is all that it holds. -/
inductive IsNative : Ref → Prop
  | intro {ref : Ref} (native : isNativeObject frozenContainers (graph ref) = true)
      (each : ∀ child, graph.Holds ref child → IsNative child) : IsNative ref

variable {graph frozenContainers} {ref root : Ref}

theorem IsNative.object (native : IsNative graph frozenContainers ref) :
    isNativeObject frozenContainers (graph ref) = true := by
  cases native with
  | intro object _ => exact object

theorem IsNative.of_reaches {other : Ref} (native : IsNative graph frozenContainers ref)
    (reaches : graph.Reaches ref other) : IsNative graph frozenContainers other := by
  induction reaches with
  | refl => exact native
  | tail _ held ih =>
    cases ih with
    | intro _ each => exact each _ held

theorem IsNative.ends (native : IsNative graph frozenContainers ref) :
    Acyclic.Ends graph.Holds ref := by
  induction native with
  | intro _ _ ih => exact ⟨_, ih⟩

private theorem IsNative.of_ends (ends : Acyclic.Ends graph.Holds ref)
    (each : ∀ other, graph.Reaches ref other →
      isNativeObject frozenContainers (graph other) = true) :
    IsNative graph frozenContainers ref := by
  induction ends with
  | intro ref _ ih =>
    refine ⟨each ref .refl, fun child held => ih child held fun other reaches => ?_⟩
    exact each other (.head held reaches)

/-- Native is what is free of cycles and native object by object. -/
private theorem isNative_iff [Fintype Ref] : IsNative graph frozenContainers root ↔
    graph.AcyclicBelow root ∧
    ∀ ref, graph.Reaches root ref → isNativeObject frozenContainers (graph ref) = true := by
  constructor
  · intro native
    exact ⟨native.ends.acyclicFrom, fun ref reaches => (native.of_reaches reaches).object⟩
  · rintro ⟨acyclic, each⟩
    exact .of_ends (acyclic.ends (ObjectGraph.finite_reachable root)) each

end Native

section Invariant

variable {Ref : Type} (graph : ObjectGraph Ref) (frozenContainers : Bool) (root : Ref)

/-- What the pending frames are good for: once all frames above are done, an exit frame finds the
children of its container done; and when none is left, the root is. -/
def Justified (done : Ref → Prop) : List (Ref × Bool) → Prop
  | [] => done root
  | (ref, false) :: pending => Justified (fun other => done other ∨ other = ref) pending
  | (ref, true) :: pending =>
    (isContainer frozenContainers (graph ref) = true ∧ hasNativeKeys (graph ref) = true ∧
      ∀ child, graph.Holds ref child → done child) ∧ Justified (fun other => done other ∨
      other = ref) pending

structure SearchInvariant (search : NativeSearch Ref) : Prop where
  reached : ∀ frame ∈ search.pending, graph.Reaches root frame.1
  below : search.pending.Pairwise fun upper lower => lower.2 = true →
    Relation.TransGen graph.Holds lower.1 upper.1 ∧ (upper.2 = true → upper.1 ≠ lower.1)
  active : ∀ ref, ref ∈ search.activeContainerIds ↔ (ref, true) ∈ search.pending
  completed : ∀ ref ∈ search.completedContainerIds, IsNative graph frozenContainers ref
  justified : Justified graph frozenContainers root (IsNative graph frozenContainers) search.pending

variable {graph frozenContainers root}

theorem Justified.mono {done more : Ref → Prop} {pending : List (Ref × Bool)}
    (justified : Justified graph frozenContainers root done pending)
    (weaker : ∀ ref, done ref → more ref) :
    Justified graph frozenContainers root more pending := by
  induction pending generalizing done more with
  | nil => exact weaker root justified
  | cons frame pending ih =>
    obtain ⟨ref, exiting⟩ := frame
    have extended : ∀ other, done other ∨ other = ref → more other ∨ other = ref :=
      fun other => Or.imp_left (weaker other)
    cases exiting with
    | false => exact ih justified extended
    | true =>
      obtain ⟨⟨container, keys, each⟩, rest⟩ := justified
      exact ⟨⟨container, keys, fun child held => weaker child (each child held)⟩, ih rest extended⟩

/-- What is already done need not wait for its frame. -/
theorem Justified.tail {done : Ref → Prop} {ref : Ref} {exiting : Bool}
    {pending : List (Ref × Bool)}
    (justified : Justified graph frozenContainers root done ((ref, exiting) :: pending))
    (already : done ref) :
    Justified graph frozenContainers root done pending := by
  have absorb : ∀ other, done other ∨ other = ref → done other := by
    rintro other (before | rfl)
    · exact before
    · exact already
  cases exiting with
  | false => exact Justified.mono justified absorb
  | true => exact justified.2.mono absorb

private theorem justified_entries {done : Ref → Prop} {children : List Ref}
    {pending : List (Ref × Bool)} :
    Justified graph frozenContainers root done
    ((children.map fun child => (child, false)) ++ pending) ↔
      Justified graph frozenContainers root
      (fun other => done other ∨ other ∈ children) pending := by
  induction children generalizing done with
  | nil => simp
  | cons child rest ih =>
    rw [List.map_cons, List.cons_append, Justified, ih]
    simp only [List.mem_cons, or_assoc]

private theorem searchInvariant_initial :
    SearchInvariant graph frozenContainers root ⟨[(root, false)], ∅, ∅⟩ where
  reached frame member := by
    rw [List.mem_singleton.mp member]
    exact .refl
  below := List.pairwise_singleton _ _
  active ref := by simp
  completed ref member := by simp at member
  justified := by simp [Justified]

/-- A scalar is native as it is. -/
private theorem isNative_of_isScalarObject {ref : Ref}
    (scalar : isScalarObject (graph ref) = true) :
    IsNative graph frozenContainers ref := by
  refine ⟨by simp [isNativeObject, scalar], fun child held => ?_⟩
  cases found : graph ref with
  | leaf value => simp [ObjectGraph.Holds, found, HeapObject.children] at held
  | mapping type entries => simp [found, isScalarObject] at scalar
  | sequence type items => simp [found, isScalarObject] at scalar

variable [DecidableEq Ref] {search next : NativeSearch Ref}

/-- An answer of the loop is right, and `remove` never fails. -/
theorem SearchInvariant.returned (invariant : SearchInvariant graph frozenContainers root search) :
    (∀ answer, searchRound graph frozenContainers search = .returned answer →
      (answer = true ↔ IsNative graph frozenContainers root)) ∧
    searchRound graph frozenContainers search ≠ .keyError := by
  obtain ⟨pending, active, completed⟩ := search
  cases pending with
  | nil =>
    refine ⟨fun answer same => ?_, by simp [searchRound]⟩
    obtain rfl : true = answer := SearchRound.returned.inj same
    exact iff_of_true rfl invariant.justified
  | cons frame pending =>
    obtain ⟨current, exiting⟩ := frame
    have reached : graph.Reaches root current := invariant.reached _ List.mem_cons_self
    simp only [searchRound]
    split_ifs with scalar foreign leaving entered opened finished keys
    all_goals simp only [reduceCtorEq, IsEmpty.forall_iff, implies_true, ne_eq, not_false_eq_true,
      and_self, SearchRound.returned.injEq, forall_eq', Bool.false_eq_true, false_iff, and_true]
    · -- an object that is neither a scalar nor a container
      intro native
      have object := (native.of_reaches reached).object
      simp only [isNativeObject, Bool.or_eq_true, Bool.and_eq_true] at object
      rcases object with fine | ⟨fine, -⟩
      · exact scalar fine
      · simp [fine] at foreign
    · exact absurd ((invariant.active current).mpr (leaving ▸ List.mem_cons_self)) entered
    · -- the frame of an active container lies below, so that the container holds itself
      intro native
      have listed := (invariant.active current).mp opened
      have lower : (current, true) ∈ pending := by
        rcases List.mem_cons.mp listed with same | later
        · exact absurd (Prod.mk.inj same).2.symm (by simpa using leaving)
        · exact later
      have cycle := ((List.pairwise_cons.mp invariant.below).1 _ lower rfl).1
      exact (native.of_reaches reached).ends.not_cycle cycle
    · intro native
      have object := (native.of_reaches reached).object
      simp only [isNativeObject, Bool.or_eq_true, Bool.and_eq_true] at object
      rcases object with fine | ⟨-, fine⟩
      · exact scalar fine
      · simp [fine] at keys

omit [DecidableEq Ref] in
/-- A frame that asks for nothing new is dropped. -/
theorem SearchInvariant.drop {current : Ref} {pending : List (Ref × Bool)}
    {active completed : Finset Ref}
    (invariant : SearchInvariant graph frozenContainers root ⟨(current, false) :: pending, active,
      completed⟩)
    (already : IsNative graph frozenContainers current) :
    SearchInvariant graph frozenContainers root ⟨pending, active, completed⟩ where
  reached frame member := invariant.reached frame (List.mem_cons_of_mem _ member)
  below := (List.pairwise_cons.mp invariant.below).2
  active ref := by
    rw [invariant.active ref]
    simp
  completed := invariant.completed
  justified := invariant.justified.tail already

/-- The children of a container are pushed above its exit frame. -/
theorem SearchInvariant.enter {current : Ref} {pending : List (Ref × Bool)}
    {active completed : Finset Ref}
    (invariant : SearchInvariant graph frozenContainers root ⟨(current, false) :: pending, active,
      completed⟩)
    (container : isContainer frozenContainers (graph current) = true)
    (keys : hasNativeKeys (graph current) = true) (inactive : current ∉ active) :
    SearchInvariant graph frozenContainers root
      ⟨((graph current).children.reverse.map fun child => (child, false)) ++
        (current, true) :: pending, insert current active, completed⟩ := by
  have reached : graph.Reaches root current := invariant.reached _ List.mem_cons_self
  obtain ⟨below, lower⟩ := List.pairwise_cons.mp invariant.below
  have outside : (current, true) ∉ pending := fun met =>
    inactive ((invariant.active current).mpr (List.mem_cons_of_mem _ met))
  refine ⟨?_, ?_, ?_, invariant.completed, ?_⟩
  · intro frame member
    rcases List.mem_append.mp member with pushed | rest
    · obtain ⟨child, held, rfl⟩ := List.mem_map.mp pushed
      exact reached.tail (List.mem_reverse.mp held)
    · rcases List.mem_cons.mp rest with rfl | later
      · exact reached
      · exact invariant.reached frame (List.mem_cons_of_mem _ later)
  · rw [List.pairwise_append]
    refine ⟨?_, List.pairwise_cons.mpr ⟨?_, lower⟩, ?_⟩
    · refine List.pairwise_map.mpr (List.pairwise_of_forall fun _ _ exits => ?_)
      cases exits
    · intro frame member exits
      refine ⟨(below frame member exits).1, fun _ same => outside ?_⟩
      obtain ⟨ref, exiting⟩ := frame
      obtain rfl : exiting = true := exits
      obtain rfl : current = ref := same
      exact member
    · intro upper pushed frame rest exits
      obtain ⟨child, held, rfl⟩ := List.mem_map.mp pushed
      have step : graph.Holds current child := List.mem_reverse.mp held
      refine ⟨?_, fun entering => by cases entering⟩
      rcases List.mem_cons.mp rest with rfl | later
      · exact .single step
      · exact (below frame later exits).1.tail step
  · intro ref
    simp [invariant.active ref]
  · rw [justified_entries]
    refine ⟨⟨container, keys, fun child held => .inr (List.mem_reverse.mpr held)⟩, ?_⟩
    exact Justified.mono invariant.justified fun ref => Or.imp_left .inl

/-- At its exit frame all that a container holds is done. -/
private theorem SearchInvariant.leave {current : Ref} {pending : List (Ref × Bool)}
    {active completed : Finset Ref}
    (invariant : SearchInvariant graph frozenContainers root ⟨(current, true) :: pending, active,
      completed⟩) :
    SearchInvariant graph frozenContainers root
    ⟨pending, active.erase current, insert current completed⟩ := by
  obtain ⟨below, lower⟩ := List.pairwise_cons.mp invariant.below
  obtain ⟨container, keys, each⟩ := invariant.justified.1
  have native : IsNative graph frozenContainers current :=
    ⟨by simp [isNativeObject, container, keys], each⟩
  refine ⟨fun frame member => invariant.reached frame (List.mem_cons_of_mem _ member),
    lower, ?_, ?_, invariant.justified.tail native⟩
  · intro ref
    rw [Finset.mem_erase, invariant.active ref, List.mem_cons]
    constructor
    · rintro ⟨other, same | later⟩
      · exact absurd (Prod.mk.inj same).1 other
      · exact later
    · intro member
      exact ⟨fun same => (below _ member rfl).2 rfl same.symm, .inr member⟩
  · intro ref member
    rcases Finset.mem_insert.mp member with rfl | earlier
    · exact native
    · exact invariant.completed ref earlier

variable [Fintype Ref]

/-- The containers that have not been entered. -/
def unentered (active completed : Finset Ref) : Finset Ref :=
  Finset.univ.filter fun ref => ref ∉ active ∧ ref ∉ completed

private theorem unentered_leave {current : Ref} {active completed : Finset Ref}
    (entered : current ∈ active) :
    unentered (active.erase current) (insert current completed) = unentered active completed := by
  ext ref
  by_cases same : ref = current
  · simp [unentered, same, entered]
  · simp [unentered, same]

private theorem unentered_enter {current : Ref} {active completed : Finset Ref}
    (inactive : current ∉ active) (unfinished : current ∉ completed) :
    unentered active completed = insert current (unentered (insert current active) completed) ∧
      current ∉ unentered (insert current active) completed := by
  refine ⟨?_, by simp [unentered]⟩
  ext ref
  by_cases same : ref = current
  · simp [unentered, same, inactive, unfinished]
  · simp [unentered, same]

variable (graph) in
/-- The rounds that are left at most: a frame takes one, and a container that has not been entered
brings one frame for itself and one for each of its children. -/
def roundsLeft (search : NativeSearch Ref) : ℕ :=
  search.pending.length + ∑ ref ∈ unentered search.activeContainerIds search.completedContainerIds,
    ((graph ref).children.length + 1)

private theorem searchRound_again (invariant : SearchInvariant graph frozenContainers root search)
    (onward : searchRound graph frozenContainers search = .again next) :
    SearchInvariant graph frozenContainers root next ∧
    roundsLeft graph next < roundsLeft graph search := by
  obtain ⟨pending, active, completed⟩ := search
  cases pending with
  | nil => cases onward
  | cons frame pending =>
    obtain ⟨current, exiting⟩ := frame
    simp only [searchRound] at onward
    split_ifs at onward with scalar foreign leaving entered opened finished keys
    all_goals obtain rfl := SearchRound.again.inj onward
    · -- no scalar has an exit frame
      cases exiting with
      | true =>
        have container := invariant.justified.1.1
        cases found : graph current <;>
          simp [found, isScalarObject, isContainer] at scalar container
      | false => exact ⟨invariant.drop (isNative_of_isScalarObject scalar), by simp [roundsLeft]⟩
    · subst leaving
      refine ⟨invariant.leave, ?_⟩
      simp [roundsLeft, unentered_leave entered]
    · obtain rfl : exiting = false := by simpa using leaving
      exact ⟨invariant.drop (invariant.completed current finished), by simp [roundsLeft]⟩
    · obtain rfl : exiting = false := by simpa using leaving
      refine ⟨invariant.enter (by simpa using foreign) (by simpa using keys) opened, ?_⟩
      obtain ⟨split, apart⟩ := unentered_enter opened finished
      simp only [roundsLeft, split, Finset.sum_insert apart, List.length_append, List.length_map,
        List.length_reverse, List.length_cons]
      omega

/-- As many rounds as are left at most give the right answer. -/
private theorem searchRounds_eq_some
    (invariant : SearchInvariant graph frozenContainers root search) {rounds : ℕ}
    (enough : roundsLeft graph search < rounds) : ∃ answer,
      searchRounds graph frozenContainers rounds search = some answer ∧
        (answer = true ↔ IsNative graph frozenContainers root) := by
  induction rounds generalizing search with
  | zero => exact absurd enough (Nat.not_lt_zero _)
  | succ rounds ih =>
    obtain ⟨right, safe⟩ := invariant.returned
    rw [searchRounds]
    cases round : searchRound graph frozenContainers search with
    | returned answer => exact ⟨answer, rfl, right answer round⟩
    | keyError => exact absurd round safe
    | again next =>
      obtain ⟨kept, fewer⟩ := searchRound_again invariant round
      exact ih kept (by omega)

end Invariant

mutual

/-- The recursive definition on values: native scalars at the leaves, accepted containers, and exact
strings as distinct keys. -/
def PyValue.isNativeJson (frozenContainers : Bool) : PyValue → Bool
  | .leaf value => isNativeJsonScalar value
  | .mapping type keys values =>
    (!frozenContainers || type == .frozenJsonDict) && keys.all (·.isExactStr) &&
      decide keys.Nodup &&
      areNativeJson frozenContainers values
  | .sequence type items =>
    (type == if frozenContainers then .frozenJsonList else .list) &&
      areNativeJson frozenContainers items

def PyValue.areNativeJson (frozenContainers : Bool) : List PyValue → Bool
  | [] => true
  | value :: rest => PyValue.isNativeJson frozenContainers value &&
      PyValue.areNativeJson frozenContainers rest

end

section Answer

variable {Ref : Type} {graph : ObjectGraph Ref} {frozenContainers : Bool} {ref : Ref}
  {value : PyValue}

private theorem areNativeJson_iff {values : List PyValue} :
    PyValue.areNativeJson frozenContainers values = true ↔
    ∀ value ∈ values, PyValue.isNativeJson frozenContainers value = true := by
  induction values with
  | nil => simp [PyValue.areNativeJson]
  | cons value rest ih => simp [PyValue.areNativeJson, ih]

/-- A value is native when its object is, and its parts are. -/
private theorem isNativeJson_iff (stored : graph.Stores value ref) :
    PyValue.isNativeJson frozenContainers value = true ↔
    isNativeObject frozenContainers (graph ref) = true ∧
      ∀ part ∈ value.parts, PyValue.isNativeJson frozenContainers part = true := by
  cases stored with
  | leaf found =>
    simp [PyValue.isNativeJson, PyValue.parts, isNativeObject, isScalarObject, isContainer, found]
  | mapping found each =>
    simp only [PyValue.isNativeJson, PyValue.parts, isNativeObject, isScalarObject, isContainer,
      hasNativeKeys, found, Bool.and_eq_true, Bool.false_or, areNativeJson_iff]
    tauto
  | sequence found each =>
    simp only [PyValue.isNativeJson, PyValue.parts, isNativeObject, isScalarObject, isContainer,
      hasNativeKeys, found, Bool.and_eq_true, Bool.false_or, areNativeJson_iff, and_true]

/-- On a value without cycles the definition on objects is the definition on values. -/
private theorem isNative_iff_isNativeJson (stored : graph.Stores value ref) :
    IsNative graph frozenContainers ref ↔ PyValue.isNativeJson frozenContainers value = true := by
  induction value using PyValue.parts_induction generalizing ref with
  | step value ih =>
    rw [isNativeJson_iff stored]
    constructor
    · rintro ⟨native, each⟩
      refine ⟨native, fun part member => ?_⟩
      obtain ⟨child, held, partStored⟩ := stored.exists_child member
      exact (ih part member partStored).mp (each child held)
    · rintro ⟨native, each⟩
      refine ⟨native, fun child held => ?_⟩
      obtain ⟨part, member, partStored⟩ := stored.exists_part held
      exact (ih part member partStored).mpr (each part member)

variable (graph frozenContainers) in
/-- The search ends on every finite graph, with or without cycles. It finds the graph native when no
cycle can be reached, every leaf is a native scalar, and every container is accepted and has
distinct strings as keys; so on a value without cycles it computes the recursive definition. -/
theorem isNativeJsonValue_spec [Fintype Ref] [DecidableEq Ref] (root : Ref) :
    ∃ enough answer, (∀ rounds, enough ≤ rounds →
      isNativeJsonValue graph frozenContainers rounds root = some answer) ∧
      (answer = true ↔ graph.AcyclicBelow root ∧ ∀ ref, graph.Reaches root ref →
        isScalarObject (graph ref) = true ∨
          (isContainer frozenContainers (graph ref) = true ∧ hasNativeKeys (graph ref) = true)) ∧
      ∀ value, graph.Stores value root → answer = PyValue.isNativeJson frozenContainers value := by
  have start : SearchInvariant graph frozenContainers root ⟨[(root, false)], ∅, ∅⟩ :=
    searchInvariant_initial
  obtain ⟨answer, -, right⟩ := searchRounds_eq_some start (Nat.lt_succ_self _)
  refine ⟨roundsLeft graph ⟨[(root, false)], ∅, ∅⟩ + 1, answer, ?_, ?_, ?_⟩
  · intro rounds enough
    obtain ⟨other, found, again⟩ := searchRounds_eq_some start enough
    rw [isNativeJsonValue, found, Bool.eq_iff_iff.mpr (again.trans right.symm)]
  · simp only [right, isNative_iff, isNativeObject, Bool.or_eq_true, Bool.and_eq_true]
  · intro value stored
    exact Bool.eq_iff_iff.mpr (right.trans (isNative_iff_isNativeJson stored))

end Answer

end MiniAgent.Application
