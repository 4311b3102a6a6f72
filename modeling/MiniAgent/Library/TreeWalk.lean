import Mathlib.Data.Finset.Basic
import Mathlib.Data.Finset.Dedup
import Mathlib.Data.Finset.Lattice.Lemmas
import Mathlib.Data.List.Nodup
import Mathlib.Data.Option.Basic

/-! # Walking an object graph that has to be a tree

A depth-first walk over objects with an identity: the identities of the containers that are open and
of those that are finished are kept, a container that comes up again is refused, and every step to a
child is paid for from one budget. A walk is a function on this state that gives no state when it
refuses. `Accepts` says which unfolded trees a walk accepts and in what state it then ends; the
rules below give it for a walk from the walks it is made of.
-/

namespace TreeWalk

variable {κ α : Type}

mutual

/-- What a graph unfolds to below one object: a leaf, or a container with its children. -/
inductive WalkTree (κ : Type) : Type
  | leaf
  | node (id : κ) (children : Forest κ)

inductive Forest (κ : Type) : Type
  | nil
  | cons (first : WalkTree κ) (rest : Forest κ)

end

mutual

def WalkTree.height : WalkTree κ → ℕ
  | .leaf => 0
  | .node _ children => children.height

/-- The height below the parent: a single leaf has height one. -/
def Forest.height : Forest κ → ℕ
  | .nil => 0
  | .cons first rest => max (first.height + 1) rest.height

end

mutual

def WalkTree.edges : WalkTree κ → ℕ
  | .leaf => 0
  | .node _ children => children.edges

def Forest.edges : Forest κ → ℕ
  | .nil => 0
  | .cons first rest => 1 + first.edges + rest.edges

end

mutual

/-- The containers in the order in which they are entered. -/
def WalkTree.containers : WalkTree κ → List κ
  | .leaf => []
  | .node id children => id :: children.containers

def Forest.containers : Forest κ → List κ
  | .nil => []
  | .cons first rest => first.containers ++ rest.containers

end

attribute [simp] WalkTree.height Forest.height WalkTree.edges Forest.edges WalkTree.containers
  Forest.containers

@[ext]
structure State (κ : Type) where
  active : Finset κ
  completed : Finset κ
  visited : ℕ

/-- The state in which a walk starts. -/
def State.initial : State κ := ⟨∅, ∅, 0⟩

variable [DecidableEq κ]

section Steps

/-- Pay for some edges. No edge leaves an object on the last level. -/
def consume (limit levels count : ℕ) (s : State κ) : Option (State κ) :=
  if levels = 0 then none
  else if limit < s.visited + count then none
  else some { s with visited := s.visited + count }

/-- Enter a container. One that is finished passes a second time only where it may repeat. -/
def validateNode (mayRepeat : κ → Bool) (id : κ) (validator : State κ → Option (State κ))
    (s : State κ) :
    Option (State κ) :=
  if id ∈ s.completed then if mayRepeat id then some s else none
  else if id ∈ s.active then none
  else do
    let inside ← validator { s with active := insert id s.active }
    return { inside with active := inside.active.erase id, completed := insert id inside.completed }

/-- Visit the children of one container from left to right, one edge for each. -/
def visitAll (limit levels : ℕ) (visit : α → State κ → Option (State κ)) :
    List α → State κ → Option (State κ)
  | [], s => some s
  | item :: rest, s => do
      visitAll limit levels visit rest (← visit item (← consume limit levels 1 s))

omit [DecidableEq κ] in
theorem consume_eq_some_iff {limit levels count : ℕ} {s final : State κ} :
    consume limit levels count s = some final ↔
      0 < levels ∧ s.visited + count ≤ limit ∧ final = { s with visited := s.visited + count } := by
  unfold consume
  split_ifs with last excess
  · simp [last]
  · simp [excess]
  · have bound : s.visited + count ≤ limit := Nat.not_lt.mp excess
    simp [Nat.pos_of_ne_zero last, bound, eq_comm]

omit [DecidableEq κ] in
/-- Paying at once is paying one after the other. -/
theorem consume_add (limit levels first second : ℕ) (s : State κ) :
    consume limit levels (first + second) s =
      (consume limit levels first s).bind (consume limit levels second) := by
  ext final
  simp only [Option.bind_eq_some_iff, consume_eq_some_iff]
  constructor
  · rintro ⟨room, bound, rfl⟩
    exact ⟨_, ⟨room, by omega, rfl⟩, room, by simpa [Nat.add_assoc] using bound, by
      simp [Nat.add_assoc]⟩
  · rintro ⟨middle, ⟨room, _, rfl⟩, _, bound, rfl⟩
    exact ⟨room, by simpa [Nat.add_assoc] using bound, by simp [Nat.add_assoc]⟩

end Steps

section Marks

variable (mayRepeat : κ → Bool)

/-- The containers among these that may come up only once. -/
def singles (ids : List κ) : List κ := ids.filter (! mayRepeat ·)

/-- These containers can be entered: none that has to be new comes up twice or has been seen. -/
def State.Clear (s : State κ) (ids : List κ) : Prop :=
  (singles mayRepeat ids).Nodup ∧ ∀ id ∈ singles mayRepeat ids, id ∉ s.active ∧ id ∉ s.completed

/-- The state after these containers have been finished for this number of edges. -/
def State.mark (s : State κ) (ids : List κ) (edges : ℕ) : State κ :=
  { s with completed := s.completed ∪ ids.toFinset, visited := s.visited + edges }

/-- Nothing that may repeat is open, and the budget has not been overdrawn. -/
structure State.Steady (limit : ℕ) (s : State κ) : Prop where
  open_once : ∀ id ∈ s.active, mayRepeat id = false
  within : s.visited ≤ limit

variable {mayRepeat} {s : State κ} {ids others : List κ} {id : κ} {edges : ℕ}

omit [DecidableEq κ] in
theorem mem_singles : id ∈ singles mayRepeat ids ↔ id ∈ ids ∧ mayRepeat id = false := by
  simp [singles]

omit [DecidableEq κ] in
@[simp] theorem clear_nil : s.Clear mayRepeat [] := by simp [State.Clear, singles]

@[simp] theorem mark_nil : s.mark [] 0 = s := by
  obtain ⟨active, completed, visited⟩ := s
  simp [State.mark]

/-- What comes later has to be clear after what comes first is marked. -/
theorem clear_append (edges : ℕ) :
    s.Clear mayRepeat (ids ++ others) ↔ s.Clear mayRepeat ids ∧
    (s.mark ids edges).Clear mayRepeat others := by
  have split : singles mayRepeat (ids ++ others) = singles mayRepeat ids ++
      singles mayRepeat others :=
    List.filter_append ..
  have apart : (∀ a ∈ singles mayRepeat ids, ∀ b ∈ singles mayRepeat others, a ≠ b) ↔
      ∀ b ∈ singles mayRepeat others, b ∉ ids := by
    constructor
    · intro differ b later member
      have once : mayRepeat b = false := (mem_singles.mp later).2
      exact differ b (mem_singles.mpr ⟨member, once⟩) b later rfl
    · rintro absent a member b later rfl
      exact absent a later (mem_singles.mp member).1
  simp only [State.Clear, split, List.nodup_append, List.forall_mem_append, apart, State.mark,
    Finset.mem_union, List.mem_toFinset, not_or]
  constructor
  · rintro ⟨⟨first, second, absent⟩, early, late⟩
    exact ⟨⟨first, early⟩, second,
      fun b later => ⟨(late b later).1, (late b later).2, absent b later⟩⟩
  · rintro ⟨⟨first, early⟩, second, late⟩
    exact ⟨⟨first, second, fun b later => (late b later).2.2⟩, early,
      fun b later => ⟨(late b later).1, (late b later).2.1⟩⟩

/-- Entering a container that may come up only once. -/
theorem clear_cons (once : mayRepeat id = false) :
    s.Clear mayRepeat (id :: ids) ↔
      (id ∉ s.active ∧ id ∉ s.completed) ∧ { s with active := insert id s.active }.Clear mayRepeat
      ids := by
  have split : singles mayRepeat (id :: ids) = id :: singles mayRepeat ids := by
    simp [singles, once]
  simp only [State.Clear, split, List.nodup_cons, List.forall_mem_cons, Finset.mem_insert, not_or]
  constructor
  · rintro ⟨⟨absent, rest⟩, new, late⟩
    refine ⟨new, rest, fun b later => ⟨⟨?_, (late b later).1⟩, (late b later).2⟩⟩
    rintro rfl
    exact absent later
  · rintro ⟨new, rest, late⟩
    exact ⟨⟨fun later => (late id later).1.1 rfl, rest⟩, new,
      fun b later => ⟨(late b later).1.2, (late b later).2⟩⟩

end Marks

variable (mayRepeat : κ → Bool) (limit : ℕ)

/-- From every steady state the walk accepts one object exactly where that unfolds to one of these
trees, which ends above the last level, is clear, and is within the budget; all of it is marked
then. -/
def Accepts (levels : ℕ) (visit : State κ → Option (State κ)) (admits : WalkTree κ → Prop) : Prop :=
  ∀ s final, s.Steady mayRepeat limit → (visit s = some final ↔
    ∃ tree, admits tree ∧ tree.height < levels ∧ s.Clear mayRepeat tree.containers ∧
      s.visited + tree.edges ≤ limit ∧ final = s.mark tree.containers tree.edges)

/-- The same for the children of one container. -/
def AcceptsAll (levels : ℕ) (visit : State κ → Option (State κ))
    (admits : Forest κ → Prop) : Prop :=
  ∀ s final, s.Steady mayRepeat limit → (visit s = some final ↔
    ∃ forest, admits forest ∧ forest.height ≤ levels ∧ s.Clear mayRepeat forest.containers ∧
      s.visited + forest.edges ≤ limit ∧ final = s.mark forest.containers forest.edges)

variable {mayRepeat limit} {levels : ℕ} {visit rest : State κ → Option (State κ)} {s : State κ}
  {admits : WalkTree κ → Prop} {admitsAll : Forest κ → Prop}

theorem State.Steady.mark (steady : s.Steady mayRepeat limit) {ids : List κ} {edges : ℕ}
    (within : s.visited + edges ≤ limit) : (s.mark ids edges).Steady mayRepeat limit :=
  ⟨steady.open_once, within⟩

omit [DecidableEq κ] in
theorem State.Steady.paid (steady : s.Steady mayRepeat limit) {visited : ℕ}
    (within : visited ≤ limit) :
    { s with visited := visited }.Steady mayRepeat limit :=
  ⟨steady.open_once, within⟩

omit [DecidableEq κ] in
theorem State.steady_initial : (State.initial : State κ).Steady mayRepeat limit :=
  ⟨fun id member => absurd member (Finset.notMem_empty id), Nat.zero_le limit⟩

theorem Accepts.congr {others : WalkTree κ → Prop}
    (accepts : Accepts mayRepeat limit levels visit admits)
    (same : ∀ tree, admits tree ↔ others tree) : Accepts mayRepeat limit levels visit others := by
  intro s final steady
  rw [accepts s final steady]
  simp only [same]

theorem AcceptsAll.congr {others : Forest κ → Prop}
    (accepts : AcceptsAll mayRepeat limit levels visit admitsAll)
    (same : ∀ forest, admitsAll forest ↔ others forest) :
    AcceptsAll mayRepeat limit levels visit others := by
  intro s final steady
  rw [accepts s final steady]
  simp only [same]

/-- A walk that always refuses. -/
theorem accepts_none (empty : ∀ tree, ¬ admits tree) :
    Accepts mayRepeat limit levels (fun _ => none) admits := by
  intro s final _
  simp [empty]

/-- On the level below the last one nothing is accepted. -/
theorem accepts_zero : Accepts mayRepeat limit 0 (fun _ => none) admits := by
  intro s final _
  simp

theorem acceptsAll_none (empty : ∀ forest, ¬ admitsAll forest) :
    AcceptsAll mayRepeat limit levels (fun _ => none) admitsAll := by
  intro s final _
  simp [empty]

theorem accepts_leaf (room : 0 < levels) (same : ∀ tree, admits tree ↔ tree = .leaf) :
    Accepts mayRepeat limit levels some admits := by
  intro s final steady
  simp [same, room, steady.within, eq_comm]

theorem acceptsAll_nil (same : ∀ forest, admitsAll forest ↔ forest = .nil) :
    AcceptsAll mayRepeat limit levels some admitsAll := by
  intro s final steady
  simp [same, steady.within, eq_comm]

/-- A child that costs one edge, and the children after it. -/
theorem acceptsAll_cons (first : Accepts mayRepeat limit levels visit admits)
    (later : AcceptsAll mayRepeat limit levels rest admitsAll) :
    AcceptsAll mayRepeat limit levels
    (fun s => ((consume limit levels 1 s).bind visit).bind rest) fun forest =>
      ∃ tree others, forest = .cons tree others ∧ admits tree ∧ admitsAll others := by
  intro s final steady
  simp only [Option.bind_eq_some_iff, consume_eq_some_iff]
  constructor
  · rintro ⟨middle, ⟨_, ⟨room, bound, rfl⟩, visited⟩, ended⟩
    obtain ⟨tree, admitted, low, clear, within, rfl⟩ := (first _ _ (steady.paid bound)).mp visited
    obtain ⟨others, allowed, shallow, apart, inside, rfl⟩ :=
      (later _ _ ((steady.paid bound).mark within)).mp ended
    refine ⟨.cons tree others, ⟨tree, others, rfl, admitted, allowed⟩, ?_, ?_, ?_, ?_⟩
    · exact Nat.max_le.mpr ⟨low, shallow⟩
    · exact (clear_append 0).mpr ⟨clear, apart⟩
    · simp only [State.mark] at inside
      simp only [Forest.edges]
      omega
    · simp [State.mark, Finset.union_assoc, Nat.add_assoc, List.toFinset_append]
  · rintro ⟨_, ⟨tree, others, rfl, admitted, allowed⟩, height, clear, within, rfl⟩
    obtain ⟨low, shallow⟩ := Nat.max_le.mp height
    obtain ⟨early, late⟩ := (clear_append (1 + tree.edges)).mp clear
    simp only [Forest.edges] at within
    have paid := steady.paid (show s.visited + 1 ≤ limit by omega)
    have bound : s.visited + 1 + tree.edges ≤ limit := by omega
    refine ⟨_, ⟨_, ⟨by omega, by omega, rfl⟩,
      (first _ _ paid).mpr ⟨tree, admitted, low, early, bound, rfl⟩⟩, ?_⟩
    refine (later _ _ (paid.mark bound)).mpr ⟨others, allowed, shallow, late, ?_, ?_⟩
    · simp only [State.mark]
      omega
    · simp [State.mark, Finset.union_assoc, Nat.add_assoc, List.toFinset_append]

/-- A child that costs two edges, of which the first leads to a leaf, and the children after it. -/
theorem acceptsAll_pair (first : Accepts mayRepeat limit levels visit admits)
    (later : AcceptsAll mayRepeat limit levels rest admitsAll) :
    AcceptsAll mayRepeat limit levels
    (fun s => ((consume limit levels 2 s).bind visit).bind rest) fun forest =>
      ∃ tree others, forest = .cons .leaf (.cons tree others) ∧ admits tree ∧ admitsAll others := by
  have unfolds : (fun s => ((consume limit levels 2 s).bind visit).bind rest) = fun s =>
      ((consume limit levels 1 s).bind some).bind fun s =>
        ((consume limit levels 1 s).bind visit).bind rest := by
    funext s
    rw [consume_add limit levels 1 1]
    cases consume limit levels 1 s <;> rfl
  rw [unfolds]
  intro s final steady
  by_cases room : 0 < levels
  · have leaf : Accepts mayRepeat limit levels some (fun tree => tree = .leaf) :=
      accepts_leaf room fun _ => Iff.rfl
    rw [acceptsAll_cons leaf (acceptsAll_cons first later) s final steady]
    constructor
    · rintro ⟨_, ⟨_, _, rfl, rfl, tree, others, rfl, admitted, allowed⟩, fits⟩
      exact ⟨_, ⟨tree, others, rfl, admitted, allowed⟩, fits⟩
    · rintro ⟨_, ⟨tree, others, rfl, admitted, allowed⟩, fits⟩
      exact ⟨_, ⟨.leaf, _, rfl, rfl, tree, others, rfl, admitted, allowed⟩, fits⟩
  · obtain rfl : levels = 0 := Nat.eq_zero_of_not_pos room
    constructor
    · simp [consume]
    · rintro ⟨_, ⟨tree, others, rfl, _⟩, height, _⟩
      simp at height

/-- These trees in this order are what the children unfold to. -/
inductive AllOf (admits : α → WalkTree κ → Prop) : List α → Forest κ → Prop
  | nil : AllOf admits [] .nil
  | cons {item : α} {items : List α} {tree : WalkTree κ} {forest : Forest κ}
      (first : admits item tree)
      (rest : AllOf admits items forest) : AllOf admits (item :: items) (.cons tree forest)

/-- The same for the children of a mapping, each with a leaf before it. -/
inductive PairsOf (admits : α → WalkTree κ → Prop) : List α → Forest κ → Prop
  | nil : PairsOf admits [] .nil
  | cons {item : α} {items : List α} {tree : WalkTree κ} {forest : Forest κ}
      (first : admits item tree)
      (rest : PairsOf admits items forest) :
        PairsOf admits (item :: items) (.cons .leaf (.cons tree forest))

omit [DecidableEq κ] in
theorem AllOf.exists_of_mem {admitsItem : α → WalkTree κ → Prop} {items : List α}
    {forest : Forest κ} {item : α} (all : AllOf admitsItem items forest) (member : item ∈ items) :
    ∃ tree, admitsItem item tree := by
  induction all with
  | nil => cases member
  | cons first _ ih =>
    obtain rfl | later := List.mem_cons.mp member
    · exact ⟨_, first⟩
    · exact ih later

omit [DecidableEq κ] in
theorem PairsOf.exists_of_mem {admitsItem : α → WalkTree κ → Prop} {items : List α}
    {forest : Forest κ} {item : α} (all : PairsOf admitsItem items forest) (member : item ∈ items) :
    ∃ tree, admitsItem item tree := by
  induction all with
  | nil => cases member
  | cons first _ ih =>
    obtain rfl | later := List.mem_cons.mp member
    · exact ⟨_, first⟩
    · exact ih later

theorem acceptsAll_visitAll {item : α → State κ → Option (State κ)}
    {admitsItem : α → WalkTree κ → Prop}
    (each : ∀ child, Accepts mayRepeat limit levels (item child) (admitsItem child))
    (children : List α) :
    AcceptsAll mayRepeat limit levels (visitAll limit levels item children)
    (AllOf admitsItem children) := by
  induction children with
  | nil =>
    refine acceptsAll_nil fun forest => ⟨fun all => ?_, ?_⟩
    · cases all
      rfl
    · rintro rfl
      exact .nil
  | cons child others ih =>
    have unfolds : visitAll limit levels item (child :: others) =
        fun s => ((consume limit levels 1 s).bind (item child)).bind
            (visitAll limit levels item others) := by
      funext s
      simp only [visitAll]
      cases consume limit levels 1 s <;> rfl
    rw [unfolds]
    refine (acceptsAll_cons (each child) ih).congr fun forest => ⟨?_, fun all => ?_⟩
    · rintro ⟨tree, after, rfl, first, rest⟩
      exact .cons first rest
    · cases all with
      | cons first rest => exact ⟨_, _, rfl, first, rest⟩

/-- A container that may come up only once. -/
theorem accepts_node {id : κ} (once : mayRepeat id = false)
    (children : AcceptsAll mayRepeat limit levels visit admitsAll) :
    Accepts mayRepeat limit (levels + 1) (validateNode mayRepeat id visit) fun tree =>
      ∃ forest, tree = .node id forest ∧ admitsAll forest := by
  intro s final steady
  have entered : ({ s with active := insert id s.active } : State κ).Steady mayRepeat limit := by
    refine ⟨fun other member => ?_, steady.within⟩
    obtain rfl | before := Finset.mem_insert.mp member
    · exact once
    · exact steady.open_once other before
  have walked : validateNode mayRepeat id visit s = some final ↔
      (id ∉ s.active ∧ id ∉ s.completed) ∧ ∃ inside, visit { s with active := insert id s.active } =
        some inside ∧
        final = { inside with active :=
            inside.active.erase id, completed := insert id inside.completed } := by
    unfold validateNode
    split_ifs with finished repeats running
    · simp [once] at repeats
    · simp [finished]
    · simp [running]
    · simp [finished, running, Option.bind_eq_some_iff, eq_comm (a := final)]
  rw [walked]
  constructor
  · rintro ⟨new, inside, visited, rfl⟩
    obtain ⟨forest, admitted, low, clear, within, rfl⟩ := (children _ _ entered).mp visited
    refine ⟨.node id forest, ⟨forest, rfl, admitted⟩, Nat.lt_succ_of_le low,
      (clear_cons once).mpr ⟨new, clear⟩, within, ?_⟩
    simp [State.mark, Finset.erase_insert new.1, List.toFinset_cons, Finset.union_insert]
  · rintro ⟨_, ⟨forest, rfl, admitted⟩, low, clear, within, rfl⟩
    obtain ⟨new, apart⟩ := (clear_cons once).mp clear
    refine ⟨new, _, (children _ _ entered).mpr ⟨forest, admitted, Nat.le_of_lt_succ low, apart,
      within, rfl⟩, ?_⟩
    simp [State.mark, Finset.erase_insert new.1, List.toFinset_cons, Finset.union_insert]

/-- A container without children that may repeat. -/
theorem accepts_repeated {id : κ} (repeats : mayRepeat id = true) (room : 0 < levels) :
    Accepts mayRepeat limit levels (validateNode mayRepeat id some) fun tree =>
    tree = .node id .nil := by
  intro s final steady
  have closed : id ∉ s.active := fun member => by simp [steady.open_once id member] at repeats
  have clear : s.Clear mayRepeat [id] := by simp [State.Clear, singles, repeats]
  have walked : validateNode mayRepeat id some s = some (s.mark [id] 0) := by
    unfold validateNode
    split_ifs with finished
    · obtain ⟨active, completed, visited⟩ := s
      simp [State.mark, Finset.insert_eq_of_mem finished]
    · simp [State.mark, Finset.erase_insert closed]
  simp [walked, room, clear, steady.within, eq_comm]

/-- A walk from the start accepts an object exactly where that is a tree within the limits: no
container that may come up only once does so twice. -/
theorem accepts_initial (accepts : Accepts mayRepeat limit levels visit admits) :
    (visit State.initial).isSome = true ↔
      ∃ tree, admits tree ∧ tree.height < levels ∧ tree.edges ≤ limit ∧
      (singles mayRepeat tree.containers).Nodup := by
  rw [Option.isSome_iff_exists]
  constructor
  · rintro ⟨final, visited⟩
    obtain ⟨tree, admitted, low, clear, within, _⟩ := (accepts _ _ State.steady_initial).mp visited
    exact ⟨tree, admitted, low, by simpa [State.initial] using within, clear.1⟩
  · rintro ⟨tree, admitted, low, within, nodup⟩
    have clear : State.initial.Clear mayRepeat tree.containers :=
      ⟨nodup, fun id _ => ⟨Finset.notMem_empty id, Finset.notMem_empty id⟩⟩
    exact ⟨_, (accepts _ _ State.steady_initial).mpr
      ⟨tree, admitted, low, clear, by simpa [State.initial] using within, rfl⟩⟩

end TreeWalk
