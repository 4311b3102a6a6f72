import MiniAgent.Application.BindingProvenance
import MiniAgent.Library.Saturation
import MiniAgent.Library.SuccessorChain

/-! # Chains of supersedes links

References are expanded one after the other, and a chain stops at what an earlier one has collected.
What was collected is closed under the links and free of cycles, so nothing is missed behind a
shared tail: the references, as a set, decide what is found and whether the expansion fails.
-/

namespace MiniAgent.Application

open MiniAgent.Core ContractModel Keyed

open SuccessorChain

variable {supersedes : Uuid → Option (Option Uuid)} {familyName : String}
  {reachable path found references : List Uuid}
  {fuel : ℕ}

/-- What was reached is grounded and closed under the chain. -/
def ReachedWhole (supersedes : Uuid → Option (Option Uuid)) (reachable : List Uuid) : Prop :=
  ∀ node ∈ reachable, Grounded supersedes node ∧ ∀ target, Reaches supersedes node target →
    target ∈ reachable

private theorem followSupersedes_spec {current : Option Uuid}
    (whole : ReachedWhole supersedes reachable)
    (success : followSupersedes supersedes familyName reachable fuel path current = .ok found) :
    (∀ node ∈ current, Grounded supersedes node) ∧ ∀ target,
      target ∈ found ↔ target ∈ reachable ∨ target ∈ path ∨
      ∃ node ∈ current, Reaches supersedes node target := by
  induction fuel generalizing path current with
  | zero =>
    cases current with
    | none =>
      obtain rfl := Except.pure_eq_ok_iff.mp success
      simp
    | some node => cases success
  | succ fuel ih =>
    cases current with
    | none =>
      obtain rfl := Except.pure_eq_ok_iff.mp success
      simp
    | some node =>
      simp only [followSupersedes] at success
      split_ifs at success with reached
      · obtain rfl := Except.pure_eq_ok_iff.mp success
        obtain ⟨grounded, closed⟩ := whole node reached
        refine ⟨by simpa using grounded, fun target => ?_⟩
        simp only [List.mem_append, Option.mem_some_iff, exists_eq_left']
        have inside := closed target
        tauto
      · obtain ⟨-, -, success⟩ := Except.bind_eq_ok_iff.mp success
        cases known : supersedes node with
        | none => simp [known, throw, throwThe, MonadExceptOf.throw] at success
        | some successor =>
          simp only [known] at success
          obtain ⟨grounded, members⟩ := ih success
          simp only [Option.mem_some_iff, forall_eq', exists_eq_left', members, List.mem_append,
            List.mem_singleton]
          cases successor with
          | none =>
            refine ⟨.last known, fun target => ?_⟩
            simp only [reaches_of_ends known, Option.not_mem_none, false_and, exists_false]
            tauto
          | some other =>
            have follows : Follows supersedes node other := known
            refine ⟨.onward follows (grounded other rfl), fun target => ?_⟩
            simp only [reaches_of_follows follows, Option.mem_some_iff, exists_eq_left']
            tauto

/-- A grounded chain is followed to its end: no node is met twice, so the records are enough
steps. -/
private theorem followSupersedes_succeeds {current : Option Uuid} {keys : List Uuid}
    (known : ∀ node, (supersedes node).isSome = true → node ∈ keys)
    (grounded : ∀ node ∈ current, Grounded supersedes node)
    (fresh : ∀ node ∈ current, ∀ earlier ∈ path, ¬Reaches supersedes node earlier)
    (distinct : path.Nodup) (listed : path ⊆ keys) (enough : keys.length < path.length + fuel) :
    ∃ found, followSupersedes supersedes familyName reachable fuel path current = .ok found := by
  induction fuel generalizing path current with
  | zero =>
    have bounded := (List.subperm_of_subset distinct listed).length_le
    omega
  | succ fuel ih =>
    cases current with
    | none => exact ⟨_, rfl⟩
    | some node =>
      simp only [followSupersedes]
      split_ifs with reached
      · exact ⟨_, rfl⟩
      · obtain ⟨successor, resolved, onward⟩ := (grounded node rfl).exists_next
        have apart : node ∉ path := fun met => fresh node rfl node met Relation.ReflTransGen.refl
        have unmet : expect (decide (node ∉ path))
            (familyName ++ " supersedes graph must be acyclic") = .ok () :=
          expect_eq_ok_iff.mpr (decide_eq_true apart)
        rw [unmet, Except.bind_ok, resolved]
        apply ih onward
        · intro other member earlier met back
          obtain rfl : successor = some other := member
          have follows : Follows supersedes node other := resolved
          rcases List.mem_append.mp met with before | last
          · exact fresh node rfl earlier before ((reaches_of_follows follows).mpr (.inr back))
          · obtain rfl := List.mem_singleton.mp last
            exact (grounded earlier rfl).acyclic follows back
        · rw [List.nodup_append']
          exact ⟨distinct, List.nodup_singleton _, by simpa [List.disjoint_singleton] using apart⟩
        · intro earlier met
          rcases List.mem_append.mp met with before | last
          · exact listed before
          · obtain rfl := List.mem_singleton.mp last
            exact known earlier (by rw [resolved]; rfl)
        · rw [List.length_append, List.length_singleton]
          omega

/-- Expanding references finds what their chains reach, whatever the order of the references. -/
private theorem exactEvidenceExpandSupersedes_spec {count : ℕ}
    (success : exactEvidenceExpandSupersedes references supersedes count familyName = .ok found) :
    (∀ reference ∈ references, Grounded supersedes reference) ∧
      ∀ target, target ∈ found ↔ ∃ reference ∈ references, Reaches supersedes reference target := by
  suffices general : ∀ (references start : List Uuid), ReachedWhole supersedes start →
      references.foldlM (fun reachable reference =>
        followSupersedes supersedes familyName reachable (count + 1) [] (some reference)) start =
          .ok found →
      (∀ reference ∈ references, Grounded supersedes reference) ∧ ∀ target,
        target ∈ found ↔ target ∈ start ∨ ∃ reference ∈ references,
            Reaches supersedes reference target by
    simpa using general references [] (by simp [ReachedWhole]) success
  intro references
  induction references with
  | nil =>
    intro start _ success
    obtain rfl := Except.pure_eq_ok_iff.mp success
    simp
  | cons reference rest ih =>
    intro start whole success
    obtain ⟨middle, followed, success⟩ := Saturation.foldlM_cons_eq_ok.mp success
    obtain ⟨grounded, members⟩ := followSupersedes_spec whole followed
    simp only [Option.mem_some_iff, forall_eq', List.not_mem_nil, false_or, exists_eq_left']
      at grounded members
    have middleWhole : ReachedWhole supersedes middle := by
      intro node member
      rcases (members node).mp member with before | reaches
      · obtain ⟨nodeGrounded, closed⟩ := whole node before
        exact ⟨nodeGrounded, fun target onward =>
          (members target).mpr (.inl (closed target onward))⟩
      · refine ⟨grounded.of_reaches reaches, fun target onward => (members target).mpr (.inr ?_)⟩
        exact Relation.ReflTransGen.trans reaches onward
    obtain ⟨others, targets⟩ := ih middle middleWhole success
    refine ⟨List.forall_mem_cons.mpr ⟨grounded, others⟩, fun target => ?_⟩
    simp only [targets, members, List.mem_cons, exists_eq_or_imp]
    tauto

private theorem exactEvidenceExpandSupersedes_succeeds {keys : List Uuid} (familyName : String)
    (known : ∀ node, (supersedes node).isSome = true → node ∈ keys)
    (grounded : ∀ reference ∈ references, Grounded supersedes reference) :
    ∃ found, exactEvidenceExpandSupersedes references supersedes keys.length familyName =
    .ok found := by
  have each : ∀ reference ∈ references, ∀ reachable, True →
      ∃ found, followSupersedes supersedes familyName reachable
      (keys.length + 1) [] (some reference) = .ok found ∧ True := by
    intro reference member reachable _
    have followed : ∃ found,
        followSupersedes supersedes familyName reachable (keys.length + 1) [] (some reference) =
        .ok found :=
      followSupersedes_succeeds known (by simpa using grounded reference member)
        (by simp) List.nodup_nil
        (List.nil_subset _) (by simp)
    simpa using followed
  obtain ⟨found, success, -⟩ := Saturation.foldlM_succeeds each trivial
  exact ⟨found, success⟩

/-- Two arrangements of references are expanded to one set. -/
theorem exactEvidenceExpandSupersedes_of_perm {keys others : List Uuid}
    (known : ∀ node, (supersedes node).isSome = true → node ∈ keys) (same : references.Perm others)
    (success : exactEvidenceExpandSupersedes references supersedes keys.length familyName =
      .ok found) :
    ∃ otherFound, exactEvidenceExpandSupersedes others supersedes keys.length familyName =
    .ok otherFound ∧ ∀ target, target ∈ found ↔ target ∈ otherFound := by
  obtain ⟨grounded, members⟩ := exactEvidenceExpandSupersedes_spec success
  obtain ⟨otherFound, expanded⟩ := exactEvidenceExpandSupersedes_succeeds familyName known
    fun reference member => grounded reference (same.mem_iff.mpr member)
  refine ⟨otherFound, expanded, fun target => ?_⟩
  simp only [members, (exactEvidenceExpandSupersedes_spec expanded).2, same.mem_iff]

/-- With as many steps as there are records the chain is never given up: it fails for a reason of
its own. -/
private theorem followSupersedes_error {current : Option Uuid} {keys : List Uuid}
    {failure : EvidenceFailure} (known : ∀ node, (supersedes node).isSome = true → node ∈ keys)
    (distinct : path.Nodup) (listed : path ⊆ keys) (enough : keys.length < path.length + fuel)
    (failed : followSupersedes supersedes familyName reachable fuel path current = .error failure) :
    ∃ message, failure = .valueError message := by
  induction fuel generalizing path current with
  | zero =>
    have bounded := (List.subperm_of_subset distinct listed).length_le
    omega
  | succ fuel ih =>
    cases current with
    | none => cases failed
    | some node =>
      simp only [followSupersedes] at failed
      split_ifs at failed with reached
      · cases failed
      · by_cases met : node ∈ path
        · simp only [expect, Except.require, met, not_true_eq_false, decide_false] at failed
          exact ⟨_, (Except.error.inj failed).symm⟩
        · have unmet : expect (decide (node ∉ path))
              (familyName ++ " supersedes graph must be acyclic") = .ok () :=
            expect_eq_ok_iff.mpr (decide_eq_true met)
          rw [unmet, Except.bind_ok] at failed
          cases resolved : supersedes node with
          | none =>
            simp only [resolved] at failed
            exact ⟨_, (Except.error.inj failed).symm⟩
          | some successor =>
            simp only [resolved] at failed
            apply ih _ _ _ failed
            · rw [List.nodup_append']
              exact ⟨distinct, List.nodup_singleton _, by simpa [List.disjoint_singleton] using met⟩
            · intro earlier member
              rcases List.mem_append.mp member with before | last
              · exact listed before
              · obtain rfl := List.mem_singleton.mp last
                exact known earlier (by rw [resolved]; rfl)
            · rw [List.length_append, List.length_singleton]
              omega

private theorem exactEvidenceExpandSupersedes_error {keys : List Uuid} {failure : EvidenceFailure}
    (known : ∀ node, (supersedes node).isSome = true → node ∈ keys)
    (failed : exactEvidenceExpandSupersedes references supersedes keys.length familyName =
      .error failure) :
    ∃ message, failure = .valueError message := by
  suffices general : ∀ (references start : List Uuid), references.foldlM (fun reachable reference =>
      followSupersedes supersedes familyName reachable (keys.length + 1) []
        (some reference)) start = .error failure →
      ∃ message, failure = .valueError message from general references [] failed
  intro references
  induction references with
  | nil =>
    intro start failed
    cases failed
  | cons reference rest ih =>
    intro start failed
    rw [List.foldlM_cons] at failed
    cases followed : followSupersedes supersedes familyName start (keys.length + 1) []
        (some reference) with
    | error reason =>
      rw [followed] at failed
      obtain rfl : reason = failure := Except.error.inj failed
      exact followSupersedes_error known List.nodup_nil (List.nil_subset _) (by simp) followed
    | ok reached =>
      rw [followed, Except.bind_ok] at failed
      exact ih _ failed

private theorem exactEvidenceExpandSupersedes_succeeds_iff {keys : List Uuid}
    (known : ∀ node, (supersedes node).isSome = true → node ∈ keys) :
    (∃ found, exactEvidenceExpandSupersedes references supersedes keys.length familyName =
      .ok found) ↔
      ∀ reference ∈ references, Grounded supersedes reference :=
  ⟨fun ⟨_, success⟩ => (exactEvidenceExpandSupersedes_spec success).1,
    exactEvidenceExpandSupersedes_succeeds familyName known⟩

section Expansion

variable {Record : Type} (records : List Record) (identity : Record → Uuid)
  (link : Record → Option Uuid)

/-- `records_by_id.get(ref)`, with the link of the record. -/
def supersedesIn (ref : Uuid) : Option (Option Uuid) := (lastByKey identity records ref).map link

/-- The references expanded along the links of a family of records. -/
def expandSupersedes (familyName : String) (initialRefs : List Uuid) : Evidence (List Uuid) :=
  exactEvidenceExpandSupersedes initialRefs
    (supersedesIn records identity link) records.length familyName

/-- The links lead to an id without a record, or round a cycle. -/
def LeadsAstray (supersedes : Uuid → Option (Option Uuid)) (ref : Uuid) : Prop :=
  ∃ target, Reaches supersedes ref target ∧
    (supersedes target = none ∨ ∃ next, Follows supersedes target next ∧
      Reaches supersedes next target)

variable {records identity link}

private theorem supersedesIn_known (ref : Uuid)
    (known : (supersedesIn records identity link ref).isSome = true) :
    ref ∈ records.map identity := by
  obtain ⟨record, found⟩ := Option.isSome_iff_exists.mp (Option.isSome_map ▸ known)
  obtain ⟨member, rfl⟩ := mem_of_lastByKey found
  exact List.mem_map_of_mem member

private theorem grounded_iff_not_leadsAstray {ref : Uuid} :
    Grounded (supersedesIn records identity link) ref ↔
    ¬LeadsAstray (supersedesIn records identity link) ref := by
  rw [grounded_iff supersedesIn_known]
  constructor
  · rintro sound ⟨target, reaches, dangling | cycle⟩
    · have resolved := (sound target reaches).1
      rw [dangling] at resolved
      cases resolved
    · exact (sound target reaches).2 cycle
  · intro straight target reaches
    refine ⟨?_, fun cycle => straight ⟨target, reaches, .inr cycle⟩⟩
    by_contra dangling
    exact straight ⟨target, reaches, .inl (by simpa using dangling)⟩

private theorem expandSupersedes_succeeds_iff {familyName : String} {initialRefs : List Uuid} :
    (∃ found, expandSupersedes records identity link familyName initialRefs = .ok found) ↔
      ¬∃ ref ∈ initialRefs, LeadsAstray (supersedesIn records identity link) ref := by
  have succeeds : (∃ found,
    exactEvidenceExpandSupersedes initialRefs (supersedesIn records identity link)
      (records.map identity).length familyName = .ok found) ↔
        ∀ ref ∈ initialRefs, Grounded (supersedesIn records identity link) ref :=
    exactEvidenceExpandSupersedes_succeeds_iff supersedesIn_known
  rw [List.length_map] at succeeds
  rw [expandSupersedes, succeeds]
  simp only [grounded_iff_not_leadsAstray, not_exists, not_and]

private theorem expandSupersedes_fails_iff {familyName : String} {initialRefs : List Uuid} :
    (∃ failure, expandSupersedes records identity link familyName initialRefs = .error failure) ↔
      ∃ ref ∈ initialRefs, LeadsAstray (supersedesIn records identity link) ref := by
  rw [← not_iff_not, ← expandSupersedes_succeeds_iff]
  cases expandSupersedes records identity link familyName initialRefs <;> simp

variable (records identity link)

/-- The expansion ends for every family: it fails where the links of some reference lead astray, and
finds what they reach otherwise. Only the set of the references counts. -/
theorem supersedes_expansion (familyName : String) (initialRefs : List Uuid) :
    (∀ failure, expandSupersedes records identity link familyName initialRefs = .error failure →
      ∃ message, failure = .valueError message) ∧
    ((∃ failure, expandSupersedes records identity link familyName initialRefs = .error failure) ↔
      ∃ ref ∈ initialRefs, LeadsAstray (supersedesIn records identity link) ref) ∧
    (∀ found, expandSupersedes records identity link familyName initialRefs = .ok found → ∀ target,
      target ∈ found ↔ ∃ ref ∈ initialRefs,
      Reaches (supersedesIn records identity link) ref target) ∧
    ∀ others : List Uuid, (∀ ref, ref ∈ others ↔ ref ∈ initialRefs) →
      ((∃ failure, expandSupersedes records identity link familyName others = .error failure) ↔
        ∃ failure, expandSupersedes records identity link familyName initialRefs = .error failure) ∧
      ∀ found otherFound,
      expandSupersedes records identity link familyName initialRefs = .ok found →
        expandSupersedes records identity link familyName others = .ok otherFound →
        ∀ target, target ∈ found ↔ target ∈ otherFound := by
  refine ⟨?_, expandSupersedes_fails_iff, ?_, ?_⟩
  · intro failure failed
    rw [expandSupersedes, ← List.length_map identity] at failed
    exact exactEvidenceExpandSupersedes_error supersedesIn_known failed
  · intro found success
    exact (exactEvidenceExpandSupersedes_spec success).2
  · intro others same
    refine ⟨by simp only [expandSupersedes_fails_iff, same], ?_⟩
    intro found otherFound success otherSuccess target
    rw [(exactEvidenceExpandSupersedes_spec success).2,
      (exactEvidenceExpandSupersedes_spec otherSuccess).2]
    simp only [same]

/-- A tail that two chains share is collected once, and a chain that comes back to itself is
refused. -/
example : expandSupersedes [(1, some 3), (2, some 3), (3, none),
      (4, some 4)] Prod.fst Prod.snd "InputBinding" [1, 2] =
      .ok [1, 3, 2] ∧
    expandSupersedes [(1, some 3), (2, some 3), (3, none),
      (4, some 4)] Prod.fst Prod.snd "InputBinding" [1, 4] =
      .error (.valueError "InputBinding supersedes graph must be acyclic") := by
  decide

end Expansion

end MiniAgent.Application
