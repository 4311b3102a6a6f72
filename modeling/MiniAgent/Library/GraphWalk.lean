import Mathlib.Data.List.Nodup
import Mathlib.Logic.Relation
import MiniAgent.Library.Outcome

/-! # Walking a graph whose nodes may fail to open

A depth-first walk with a set of seen keys. Opening a node yields its successors or a failure, and
the walk fails with the first node that does not open. On a finite set of keys the walk ends,
however the edges run; when it succeeds it has visited exactly what can be reached, and it fails
exactly when something that can be reached does not open.
-/

namespace GraphWalk

variable {α β κ ε : Type}

/-- One step along an edge of a node that opens. -/
def Edge (successors : α → Except ε (List α)) (source target : α) : Prop :=
  ∃ next, successors source = .ok next ∧ target ∈ next

/-- Reachability along such edges. -/
def Reaches (successors : α → Except ε (List α)) : α → α → Prop :=
  Relation.ReflTransGen (Edge successors)

variable [DecidableEq κ]

section Termination

/-- The keys that the walk may still see. -/
def unseen (keys seen : List κ) : List κ := keys.filter (· ∉ seen)

theorem unseen_cons_lt {keys seen : List κ} {new : κ} (known : new ∈ keys) (fresh : new ∉ seen) :
    (unseen keys (new :: seen)).length < (unseen keys seen).length := by
  have sublist : (unseen keys (new :: seen)).Sublist (unseen keys seen) := by
    apply List.monotone_filter_right
    intro other kept
    simp only [List.mem_cons, not_or, decide_eq_true_eq] at kept ⊢
    exact kept.2
  apply Nat.lt_of_le_of_ne sublist.length_le
  intro same
  have member : new ∈ unseen keys seen := List.mem_filter.mpr ⟨known, by simpa using fresh⟩
  rw [← sublist.eq_of_length same] at member
  simp [unseen] at member

theorem not_mem_of_dropWhile {key : α → κ} {seen : List κ} {stack rest : List α} {node : α}
    (first : stack.dropWhile (key · ∈ seen) = node :: rest) : key node ∉ seen := by
  simpa [first] using List.head?_dropWhile_not (key · ∈ seen) stack

end Termination

variable (key : α → κ) (successors : α → Except ε (List α)) {keys : List κ}

/-- Visit the first node of the stack whose key has not been seen, and push what it opens to. The
last successor is visited first. -/
def walk (covers : ∀ node, key node ∈ keys) (stack : List α) (seen : List κ) : Except ε (List α) :=
  match _ : stack.dropWhile (key · ∈ seen) with
  | [] => .ok []
  | node :: rest => do
    let next ← successors node
    let visited ← walk covers (next.reverse ++ rest) (key node :: seen)
    return node :: visited
termination_by (unseen keys seen).length
decreasing_by exact unseen_cons_lt (covers node) (not_mem_of_dropWhile ‹_›)

variable {key successors} {covers : ∀ node, key node ∈ keys} {stack : List α} {seen : List κ}
  {visited : List α}

theorem walk_nil : walk key successors covers [] seen = .ok [] := by
  rw [walk]
  rfl

/-- A node that has been seen is passed over. -/
theorem walk_seen {node : α} (known : key node ∈ seen) :
    walk key successors covers (node :: stack) seen = walk key successors covers stack seen := by
  have passed : (node :: stack).dropWhile (key · ∈ seen) = stack.dropWhile (key · ∈ seen) :=
    List.dropWhile_cons_of_pos (by simpa using known)
  rw [walk, walk, passed]

theorem walk_fresh {node : α} (fresh : key node ∉ seen) :
    walk key successors covers (node :: stack) seen = do
      let next ← successors node
      let visited ← walk key successors covers (next.reverse ++ stack) (key node :: seen)
      return node :: visited := by
  have first : (node :: stack).dropWhile (key · ∈ seen) = node :: stack :=
    List.dropWhile_cons_of_neg (by simpa using fresh)
  rw [walk]
  split
  · next empty => cases first.symm.trans empty
  · next top rest found =>
    obtain ⟨rfl, rfl⟩ := List.cons.inj (first.symm.trans found)
    rfl

/-- The induction along a walk: every node of the stack is passed over, or seen from then on. -/
@[elab_as_elim]
theorem walk_induct (covers : ∀ node, key node ∈ keys) {motive : List α → List κ → Prop}
    (nil : ∀ seen, motive [] seen)
    (known : ∀ node stack seen, key node ∈ seen → motive stack seen → motive (node :: stack) seen)
    (fresh : ∀ node stack seen, key node ∉ seen →
      (∀ next : List α, motive (next.reverse ++ stack) (key node :: seen)) → motive
      (node :: stack) seen)
    (stack : List α) (seen : List κ) : motive stack seen := by
  induction measured : (unseen keys seen).length using Nat.strongRecOn generalizing stack seen with
  | ind size less =>
    subst measured
    induction stack with
    | nil => exact nil seen
    | cons node stack ih =>
      by_cases old : key node ∈ seen
      · exact known node stack seen old ih
      · exact fresh node stack seen old fun next =>
          less _ (unseen_cons_lt (covers node) old) _ _ rfl

theorem walk_cons_eq_ok {node : α} (fresh : key node ∉ seen) :
    walk key successors covers (node :: stack) seen = .ok visited ↔
      ∃ next rest, successors node = .ok next ∧
        walk key successors covers (next.reverse ++ stack) (key node :: seen) = .ok rest ∧
        visited = node :: rest := by
  rw [walk_fresh fresh]
  simp only [Except.bind_eq_ok_iff, Except.pure_eq_ok_iff]
  constructor
  · rintro ⟨next, opened, rest, walked, rfl⟩
    exact ⟨next, rest, opened, walked, rfl⟩
  · rintro ⟨next, rest, opened, walked, rfl⟩
    exact ⟨next, opened, rest, walked, rfl⟩

/-- What a walk visits, node by node: it opens, it was reached, and it is new. -/
theorem walk_visits (walked : walk key successors covers stack seen = .ok visited) :
    ∀ node ∈ visited, (∃ next, successors node = .ok next) ∧ key node ∉ seen ∧
      ∃ start ∈ stack, Reaches successors start node := by
  induction stack, seen using walk_induct covers generalizing visited with
  | nil seen =>
    rw [walk_nil, Except.ok.injEq] at walked
    simp [← walked]
  | known top stack seen known ih =>
    rw [walk_seen known] at walked
    intro node member
    obtain ⟨opens, new, start, present, reached⟩ := ih walked node member
    exact ⟨opens, new, start, List.mem_cons_of_mem _ present, reached⟩
  | fresh top stack seen fresh ih =>
    obtain ⟨next, rest, opened, onward, rfl⟩ := (walk_cons_eq_ok fresh).mp walked
    intro node member
    rcases List.mem_cons.mp member with rfl | member
    · exact ⟨⟨next, opened⟩, fresh, node, List.mem_cons_self .., .refl⟩
    · obtain ⟨opens, new, start, present, reached⟩ := ih next onward node member
      refine ⟨opens, fun old => new (List.mem_cons_of_mem _ old), ?_⟩
      rcases List.mem_append.mp present with pushed | waiting
      · exact ⟨top, List.mem_cons_self .., reached.head ⟨next, opened, List.mem_reverse.mp pushed⟩⟩
      · exact ⟨start, List.mem_cons_of_mem _ waiting, reached⟩

/-- Nothing is left behind: what stands on the stack and what a visited node opens to has been
seen. -/
theorem walk_closed (injective : Function.Injective key)
    (walked : walk key successors covers stack seen = .ok visited) :
    (∀ node ∈ stack, key node ∈ seen ∨ node ∈ visited) ∧
      ∀ node ∈ visited, ∀ target, Edge successors node target → key target ∈ seen ∨
      target ∈ visited := by
  induction stack, seen using walk_induct covers generalizing visited with
  | nil seen =>
    rw [walk_nil, Except.ok.injEq] at walked
    simp [← walked]
  | known top stack seen known ih =>
    rw [walk_seen known] at walked
    obtain ⟨onStack, edges⟩ := ih walked
    refine ⟨?_, edges⟩
    intro node member
    rcases List.mem_cons.mp member with rfl | member
    · exact .inl known
    · exact onStack node member
  | fresh top stack seen fresh ih =>
    obtain ⟨next, rest, opened, onward, rfl⟩ := (walk_cons_eq_ok fresh).mp walked
    obtain ⟨onStack, edges⟩ := ih next onward
    -- a key that the rest of the walk had seen is the top's, or was seen before
    have settle : ∀ node, key node ∈ key top :: seen ∨ node ∈ rest → key node ∈ seen ∨
        node ∈ top :: rest := by
      rintro node (known | member)
      · rcases List.mem_cons.mp known with same | known
        · exact .inr (injective same ▸ List.mem_cons_self ..)
        · exact .inl known
      · exact .inr (List.mem_cons_of_mem _ member)
    constructor
    · intro node member
      rcases List.mem_cons.mp member with rfl | member
      · exact .inr (List.mem_cons_self ..)
      · exact settle node (onStack node (List.mem_append_right _ member))
    · intro node member target edge
      rcases List.mem_cons.mp member with rfl | member
      · obtain ⟨targets, found, present⟩ := edge
        obtain rfl := Except.ok.inj (opened.symm.trans found)
        exact settle target (onStack target (List.mem_append_left _ (List.mem_reverse.mpr present)))
      · exact settle target (edges node member target edge)

/-- A walk that fails has met a node that does not open. -/
theorem walk_fails {failure : ε} (walked : walk key successors covers stack seen = .error failure) :
    ∃ start ∈ stack, ∃ node, Reaches successors start node ∧ successors node = .error failure := by
  induction stack, seen using walk_induct covers with
  | nil seen => simp [walk_nil] at walked
  | known top stack seen known ih =>
    rw [walk_seen known] at walked
    obtain ⟨start, present, found⟩ := ih walked
    exact ⟨start, List.mem_cons_of_mem _ present, found⟩
  | fresh top stack seen fresh ih =>
    rw [walk_fresh fresh] at walked
    cases opened : successors top with
    | error raised =>
      rw [opened] at walked
      obtain rfl := Except.error.inj walked
      exact ⟨top, List.mem_cons_self .., top, .refl, opened⟩
    | ok next =>
      rw [opened, Except.bind_ok] at walked
      cases rest : walk key successors covers (next.reverse ++ stack) (key top :: seen) with
      | ok visited => simp [rest] at walked
      | error raised =>
        rw [rest] at walked
        obtain rfl := Except.error.inj walked
        obtain ⟨start, present, node, reached, closed⟩ := ih next rest
        rcases List.mem_append.mp present with pushed | waiting
        · exact ⟨top, List.mem_cons_self .., node,
            reached.head ⟨next, opened, List.mem_reverse.mp pushed⟩, closed⟩
        · exact ⟨start, List.mem_cons_of_mem _ waiting, node, reached, closed⟩

variable {root : α}

/-- A successful walk has visited exactly what its root reaches. -/
theorem mem_walk_iff (injective : Function.Injective key)
    (walked : walk key successors covers [root] [] = .ok visited) {node : α} :
    node ∈ visited ↔ Reaches successors root node := by
  constructor
  · intro member
    obtain ⟨-, -, start, present, reached⟩ := walk_visits walked node member
    rwa [List.mem_singleton.mp present] at reached
  · intro reached
    obtain ⟨onStack, edges⟩ := walk_closed injective walked
    induction reached with
    | refl => simpa using onStack root (List.mem_singleton_self _)
    | tail _ edge ih => simpa using edges _ ih _ edge

/-- A walk succeeds exactly when everything that its root reaches opens. -/
theorem walk_succeeds_iff (injective : Function.Injective key) :
    (∃ visited, walk key successors covers [root] [] = .ok visited) ↔
      ∀ node, Reaches successors root node → ∃ next, successors node = .ok next := by
  constructor
  · rintro ⟨visited, walked⟩ node reached
    exact (walk_visits walked node ((mem_walk_iff injective walked).mpr reached)).1
  · intro opens
    cases walked : walk key successors covers [root] [] with
    | ok visited => exact ⟨visited, rfl⟩
    | error failure =>
      obtain ⟨start, present, node, reached, closed⟩ := walk_fails walked
      rw [List.mem_singleton.mp present] at reached
      obtain ⟨next, opened⟩ := opens node reached
      exact nomatch closed.symm.trans opened

/-- Walks over two graphs with related nodes visit related nodes, or fail alike. -/
theorem walk_related (related : α → β → Prop) {otherKey : β → κ}
    {otherSuccessors : β → Except ε (List β)} {otherKeys : List κ}
    {otherCovers : ∀ node, otherKey node ∈ otherKeys}
    (sameKey : ∀ left right, related left right → key left = otherKey right)
    (sameEdges : ∀ left right, related left right →
      Except.Alike (List.Forall₂ related) (successors left) (otherSuccessors right))
    {otherStack : List β} (aligned : List.Forall₂ related stack otherStack) :
    Except.Alike (List.Forall₂ related) (walk key successors covers stack seen)
      (walk otherKey otherSuccessors otherCovers otherStack seen) := by
  induction stack, seen using walk_induct covers generalizing otherStack with
  | nil seen =>
    cases aligned
    simp [walk_nil, Except.Alike]
  | known top stack seen known ih =>
    obtain _ | ⟨same, aligned⟩ := aligned
    rw [walk_seen known, walk_seen (sameKey _ _ same ▸ known)]
    exact ih aligned
  | fresh top stack seen fresh ih =>
    obtain _ | ⟨same, aligned⟩ := aligned
    rename_i other otherStack
    rw [walk_fresh fresh, walk_fresh (sameKey _ _ same ▸ fresh)]
    apply (sameEdges _ _ same).bind
    intro next otherNext edges
    have rest := ih next (List.rel_append (List.rel_reverse edges) aligned)
    rw [← sameKey _ _ same]
    apply rest.bind
    intro visited otherVisited pairs
    exact List.Forall₂.cons same pairs

/-- A walk that succeeds also succeeds in a graph that has every node of the first one with its
edges. -/
theorem walk_lift (lift : α → β) {otherKey : β → κ} {otherSuccessors : β → Except ε (List β)}
    {otherKeys : List κ} {otherCovers : ∀ node, otherKey node ∈ otherKeys}
    (sameKey : ∀ node, otherKey (lift node) = key node)
    (sameEdges : ∀ node next, successors node = .ok next →
      otherSuccessors (lift node) = .ok (next.map lift))
    (walked : walk key successors covers stack seen = .ok visited) :
    walk otherKey otherSuccessors otherCovers (stack.map lift) seen = .ok (visited.map lift) := by
  induction stack, seen using walk_induct covers generalizing visited with
  | nil seen =>
    rw [walk_nil, Except.ok.injEq] at walked
    rw [← walked, List.map_nil, walk_nil]
  | known top stack seen known ih =>
    rw [walk_seen known] at walked
    rw [List.map_cons, walk_seen (by rwa [sameKey])]
    exact ih walked
  | fresh top stack seen fresh ih =>
    obtain ⟨next, rest, opened, onward, rfl⟩ := (walk_cons_eq_ok fresh).mp walked
    apply (walk_cons_eq_ok (by rwa [sameKey])).mpr
    have later := ih next onward
    rw [List.map_append, List.map_reverse, ← sameKey] at later
    exact ⟨next.map lift, rest.map lift, sameEdges top next opened, later, rfl⟩

end GraphWalk
