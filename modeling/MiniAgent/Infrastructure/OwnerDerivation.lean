import MiniAgent.Application.CodecRoundTrip
import MiniAgent.Infrastructure.RecordRows

/-! # What the walk along the references derives

The walk that derives an owner visits every row that the references lead to, once. So it succeeds
only when none of them dangles, and the owner that it returns is the owner of all that it met.
-/

namespace MiniAgent.Infrastructure

open MiniAgent.Core MiniAgent.Application

variable {library : ModelLibrary} {table : RecordTable} {expectedOwner : Option Text}
  {root row target : table.Row}

section References

variable (library) (table)

/-- A reference in the envelope of a row. -/
def HoldsReference (row : table.Row) (reference : P0RecordReference) : Prop :=
  ∃ envelope, parseEnvelope library row.1.envelope = .ok envelope ∧
    reference ∈ envelope.recordReferences

/-- The target of a reference. -/
def IsTarget (reference : P0RecordReference) (row : P0RecordModel) : Prop :=
  hasIdentity reference.targetRecordCode reference.targetLogicalIdentity.toJson row = true

/-- A reference leads from one row to another. -/
def Refers (row target : table.Row) : Prop :=
  ∃ reference, HoldsReference library table row reference ∧ IsTarget reference target.1

/-- References lead from one row to another, over any number of rows. -/
def Leads : table.Row → table.Row → Prop := Relation.ReflTransGen (Refers library table)

/-- A row has a reference without a target. -/
def Dangles (row : table.Row) : Prop :=
  ∃ reference, HoldsReference library table row reference ∧
    ∀ target ∈ table.rows, ¬IsTarget reference target

/-- The owner that the envelope of a row names itself. -/
def OwnedBy (row : table.Row) (owner : Text) : Prop :=
  ∃ envelope, parseEnvelope library row.1.envelope = .ok envelope ∧
    envelope.directOwnerCustomerId = some owner

end References

/-- Opening a row: it decodes, and every reference has a target in scope. -/
theorem openRow_eq_ok {targets : List table.Row}
    (opened : openRow library table expectedOwner row = .ok targets) :
    (∃ decoded, decodeRow library row.1 = .ok decoded) ∧
      ∃ envelope, parseEnvelope library row.1.envelope = .ok envelope ∧
        List.Forall₂ (fun reference target => table.selectOne (fun target =>
          hasIdentity reference.targetRecordCode reference.targetLogicalIdentity.toJson target &&
            inScope expectedOwner target) = some target) envelope.recordReferences targets := by
  simp only [openRow, Except.bind_eq_ok_iff, Except.discard_eq_ok_iff, Except.mapM_eq_ok_iff,
    orIntegrity_eq_ok] at opened
  obtain ⟨-, ⟨decoded, decodes⟩, envelope, parsed, targets⟩ := opened
  exact ⟨⟨decoded, decodes⟩, envelope, parsed, targets⟩

/-- The edges of the walk are references, and lead to rows in scope. -/
private theorem refers_of_edge
    (edge : GraphWalk.Edge (openRow library table expectedOwner) row target) :
    Refers library table row target ∧ inScope expectedOwner target.1 = true := by
  obtain ⟨targets, opened, member⟩ := edge
  obtain ⟨-, envelope, parsed, selected⟩ := openRow_eq_ok opened
  obtain ⟨reference, held, found⟩ := Keyed.exists_of_forall₂_right selected member
  have both := RecordTable.selectOne_eq_some found
  rw [Bool.and_eq_true] at both
  exact ⟨⟨reference, ⟨envelope, parsed, held⟩, both.1⟩, both.2⟩

/-- Every reference of a row that opens is an edge of the walk. -/
private theorem edge_of_refers {targets : List table.Row}
    (opened : openRow library table expectedOwner row = .ok targets)
    (refers : Refers library table row target) :
    GraphWalk.Edge (openRow library table expectedOwner) row target := by
  obtain ⟨-, envelope, parsed, selected⟩ := openRow_eq_ok opened
  obtain ⟨reference, ⟨held, again, member⟩, isTarget⟩ := refers
  obtain rfl := Except.ok.inj (parsed.symm.trans again)
  obtain ⟨other, present, found⟩ := Keyed.exists_of_forall₂_left selected member
  have both := RecordTable.selectOne_eq_some found
  rw [Bool.and_eq_true, hasIdentity_iff] at both
  have same : target = other :=
    RecordTable.key_injective ((hasIdentity_iff.mp isTarget).trans both.1.symm)
  exact ⟨targets, opened, same ▸ present⟩

private theorem not_dangles_of_opens {targets : List table.Row}
    (opened : openRow library table expectedOwner row = .ok targets) :
    ¬Dangles library table row := by
  rintro ⟨reference, ⟨held, again, member⟩, missing⟩
  obtain ⟨-, envelope, parsed, selected⟩ := openRow_eq_ok opened
  obtain rfl := Except.ok.inj (parsed.symm.trans again)
  obtain ⟨other, -, found⟩ := Keyed.exists_of_forall₂_left selected member
  have both := RecordTable.selectOne_eq_some found
  rw [Bool.and_eq_true] at both
  exact missing other.1 other.2 both.1

variable {visited : List table.Row}

private theorem mem_visitRows (walked : visitRows library table expectedOwner root = .ok visited) :
    row ∈ visited ↔ GraphWalk.Reaches (openRow library table expectedOwner) root row :=
  GraphWalk.mem_walk_iff RecordTable.key_injective walked

/-- A walk that succeeds has visited exactly the rows that the references lead to. -/
theorem mem_visitRows_iff (walked : visitRows library table expectedOwner root = .ok visited) :
    row ∈ visited ↔ Leads library table root row := by
  rw [mem_visitRows walked]
  constructor
  · intro reached
    exact reached.lift id fun source target edge => (refers_of_edge edge).1
  · intro leads
    have opens := (GraphWalk.walk_succeeds_iff RecordTable.key_injective).mp ⟨visited, walked⟩
    induction leads with
    | refl => exact .refl
    | tail _ refers ih =>
      obtain ⟨targets, opened⟩ := opens _ ih
      exact ih.tail (edge_of_refers opened refers)

/-- Every visited row opens. -/
theorem visitRows_opens (walked : visitRows library table expectedOwner root = .ok visited)
    (leads : Leads library table root row) :
    ∃ targets, openRow library table expectedOwner row = .ok targets := by
  have opens := (GraphWalk.walk_succeeds_iff RecordTable.key_injective).mp ⟨visited, walked⟩
  exact opens row ((mem_visitRows walked).mp ((mem_visitRows_iff walked).mpr leads))

/-- The owners that the envelopes of some rows name. -/
private theorem mem_owners {rows : List table.Row} {envelopes : List P0PersistenceEnvelope}
    (owner : Text) (parsed :
      List.Forall₂ (fun row envelope => parseEnvelope library row.1.envelope = .ok envelope)
      rows envelopes) :
    owner ∈ (envelopes.filterMap (·.directOwnerCustomerId)).dedup ↔
      ∃ row ∈ rows, OwnedBy library table row owner := by
  rw [List.mem_dedup, List.mem_filterMap]
  constructor
  · rintro ⟨envelope, member, owned⟩
    obtain ⟨row, present, found⟩ := Keyed.exists_of_forall₂_right parsed member
    exact ⟨row, present, envelope, found, owned⟩
  · rintro ⟨row, present, envelope, found, owned⟩
    obtain ⟨other, member, again⟩ := Keyed.exists_of_forall₂_left parsed present
    obtain rfl := Except.ok.inj (found.symm.trans again)
    exact ⟨envelope, member, owned⟩

theorem deriveOwner_eq_ok {validated : Bool} {derived : Option Text}
    (success : deriveOwnerFromGraph library table expectedOwner validated root = .ok derived) :
    ∃ visited, visitRows library table expectedOwner root = .ok visited ∧
      (∀ owner, derived = some owner ↔ ∃ row ∈ visited, OwnedBy library table row owner) ∧
      (expectedOwner = none ∨ derived = expectedOwner) ∧
      (validated = true → ∀ row ∈ visited,
        validateColumns library (if isPrivate row.1.recordCode then derived else none) row.1 =
        .ok ()) := by
  simp only [deriveOwnerFromGraph, Except.bind_eq_ok_iff, Except.mapM_eq_ok_iff,
    requireIntegrity_eq_ok_iff, decide_eq_true_eq, Bool.or_eq_true, Option.isNone_iff_eq_none,
    beq_iff_eq] at success
  obtain ⟨visited, walked, envelopes, parsed, -, single, -, expected, success⟩ := success
  have owners := fun owner => mem_owners owner parsed
  generalize (envelopes.filterMap (·.directOwnerCustomerId)).dedup = distinct
    at single expected success owners
  -- at most one owner is left, so that the first is the only one
  have named : ∀ owner, distinct.head? = some owner ↔ owner ∈ distinct := by
    intro owner
    rcases distinct with _ | ⟨only, _ | ⟨second, rest⟩⟩
    · simp
    · simp [eq_comm]
    · simp at single
  have same : derived = distinct.head? ∧ (validated = true → ∀ row ∈ visited,
      validateColumns library (if isPrivate row.1.recordCode then distinct.head? else none) row.1 =
          .ok ()) := by
    cases validated with
    | false =>
      simp only [Bool.false_eq_true, if_false, Except.pure_eq_ok_iff] at success
      exact ⟨success.symm, by simp⟩
    | true =>
      simp only [if_true, Except.bind_eq_ok_iff, Except.forM_eq_ok_iff, Except.pure_eq_ok_iff]
        at success
      obtain ⟨-, checked, rfl⟩ := success
      exact ⟨rfl, fun _ => checked⟩
  obtain ⟨rfl, projections⟩ := same
  exact ⟨visited, walked, fun owner => (named owner).trans (owners owner), expected, projections⟩

theorem decodeRow_of_valid {decoded : DecodedP0PersistenceRecord}
    (valid : validatePhysicalProjection library table expectedOwner row = .ok decoded) :
    decodeRow library row.1 = .ok decoded := by
  simp only [validatePhysicalProjection, Except.bind_eq_ok_iff] at valid
  obtain ⟨_, -, _, -, _, -, -, -, decodes⟩ := valid
  exact decodes

/-- The scope owner of a row is the one that its columns were compared with. -/
theorem scopeOwner_of_validateColumns {row : P0RecordModel} {owner : Option Text}
    (checked : validateColumns library owner row = .ok ()) : row.scopeOwnerCustomerId = owner := by
  simp only [validateColumns, projectionValues, requireProjection, Except.bind_eq_ok_iff,
    Except.pure_eq_ok_iff, requireIntegrity_eq_ok_iff, beq_iff_eq] at checked
  obtain ⟨envelope, -, expected, ⟨_, -, rfl⟩, -, -, -, same, -⟩ := checked
  exact same

variable (library) (table) in
/-- What the references from a row say of its owner. -/
structure OwnerOf (root : table.Row) (derived : Option Text) : Prop where
  /-- Whatever the references lead to decodes. -/
  decodes : ∀ row, Leads library table root row → ∃ decoded, decodeRow library row.1 = .ok decoded
  /-- No reference is without its target. -/
  complete : ∀ row, Leads library table root row → ¬Dangles library table row
  /-- The owner is the only one that any of these rows names. -/
  owner : ∀ owner, derived = some owner ↔ ∃ row, Leads library table root row ∧
    OwnedBy library table row owner

/-- A row opens when it decodes and its references have targets, all in scope. -/
private theorem openRow_of_complete {decoded : DecodedP0PersistenceRecord}
    (decodes : decodeRow library row.1 = .ok decoded) (complete : ¬Dangles library table row)
    (inside : ∀ target, Refers library table row target → inScope expectedOwner target.1 = true) :
    ∃ targets, openRow library table expectedOwner row = .ok targets := by
  have parses := decodes
  simp only [decodeRow, Except.bind_eq_ok_iff] at parses
  obtain ⟨_, -, envelope, parsed, -⟩ := parses
  have targets : ∀ reference ∈ envelope.recordReferences, ∃ target,
      orIntegrity .linkProjectionMismatch
      (table.selectOne fun target =>
        hasIdentity reference.targetRecordCode reference.targetLogicalIdentity.toJson target &&
          inScope expectedOwner target) = .ok target := by
    intro reference held
    cases selected : table.selectOne fun target =>
        hasIdentity reference.targetRecordCode reference.targetLogicalIdentity.toJson target &&
          inScope expectedOwner target with
    | some target => exact ⟨target, rfl⟩
    | none =>
      refine absurd ⟨reference, ⟨envelope, parsed, held⟩,
        fun target present isTarget => ?_⟩ complete
      have absent := RecordTable.selectOne_eq_none.mp selected target present
      have within := inside ⟨target, present⟩ ⟨reference, ⟨envelope, parsed, held⟩, isTarget⟩
      rw [show hasIdentity _ _ target = true from isTarget, within] at absent
      cases absent
  obtain ⟨selected, found⟩ := Except.exists_mapM_eq_ok targets
  refine ⟨selected, ?_⟩
  rw [openRow, decodes, parsed]
  exact found

/-- Whatever scope was expected, an owner that was derived is the owner. -/
theorem ownerOf_of_deriveOwner {validated : Bool} {derived : Option Text}
    (success : deriveOwnerFromGraph library table expectedOwner validated root = .ok derived) :
    OwnerOf library table root derived := by
  obtain ⟨visited, walked, owners, -⟩ := deriveOwner_eq_ok success
  constructor
  · intro row leads
    obtain ⟨targets, opened⟩ := visitRows_opens walked leads
    exact (openRow_eq_ok opened).1
  · intro row leads
    obtain ⟨targets, opened⟩ := visitRows_opens walked leads
    exact not_dangles_of_opens opened
  · intro owner
    rw [owners owner]
    simp only [mem_visitRows_iff walked]

variable (library) (table) in
/-- What the derivation demands of the graph besides its owner: that this is the expected one, that
no reference leaves the scope of that, and, where the columns are validated, that every row has its
own. -/
structure MeetsExpectation (expectedOwner : Option Text) (validated : Bool) (root : table.Row)
    (derived : Option Text) : Prop where
  expected : expectedOwner = none ∨ derived = expectedOwner
  inside : ∀ row target, Leads library table root row → Refers library table row target →
    inScope expectedOwner target.1 = true
  columns : validated = true → ∀ row, Leads library table root row →
    validateColumns library (if isPrivate row.1.recordCode then derived else none) row.1 = .ok ()

theorem meetsExpectation_of_deriveOwner {validated : Bool} {derived : Option Text}
    (success : deriveOwnerFromGraph library table expectedOwner validated root = .ok derived) :
    MeetsExpectation library table expectedOwner validated root derived := by
  obtain ⟨visited, walked, -, expected, columns⟩ := deriveOwner_eq_ok success
  refine ⟨expected, fun row target leads refers => ?_, fun validates row leads => ?_⟩
  · obtain ⟨targets, opened⟩ := visitRows_opens walked leads
    exact (refers_of_edge (edge_of_refers opened refers)).2
  · exact columns validates row ((mem_visitRows_iff walked).mpr leads)

/-- Where the graph has an owner, or has none, and meets what is expected, the derivation finds
that. -/
theorem deriveOwner_of_ownerOf {validated : Bool} {derived : Option Text}
    (owned : OwnerOf library table root derived)
    (meets : MeetsExpectation library table expectedOwner validated root derived) :
    deriveOwnerFromGraph library table expectedOwner validated root = .ok derived := by
  have opens : ∀ row, Leads library table root row →
      ∃ targets, openRow library table expectedOwner row = .ok targets := by
    intro row leads
    obtain ⟨decoded, decodes⟩ := owned.decodes row leads
    exact openRow_of_complete decodes (owned.complete row leads) fun target =>
      meets.inside row target leads
  obtain ⟨visited, walked⟩ : ∃ visited,
      visitRows library table expectedOwner root = .ok visited := by
    apply (GraphWalk.walk_succeeds_iff RecordTable.key_injective).mpr
    intro row reached
    exact opens row (reached.lift id fun source target edge => (refers_of_edge edge).1)
  have parses : ∀ row ∈ visited, ∃ envelope,
      parseEnvelope library row.1.envelope = .ok envelope := by
    intro row member
    obtain ⟨targets, opened⟩ := opens row ((mem_visitRows_iff walked).mp member)
    obtain ⟨-, envelope, parsed, -⟩ := openRow_eq_ok opened
    exact ⟨envelope, parsed⟩
  obtain ⟨envelopes, parsed⟩ := Except.exists_mapM_eq_ok parses
  have owners : ∀ owner, owner ∈ (envelopes.filterMap (·.directOwnerCustomerId)).dedup ↔
      derived = some owner := by
    intro owner
    rw [mem_owners owner (Except.mapM_eq_ok_iff.mp parsed), owned.owner owner]
    simp only [mem_visitRows_iff walked]
  have single : (envelopes.filterMap (·.directOwnerCustomerId)).dedup = derived.toList := by
    have same :=
      (List.perm_ext_iff_of_nodup (List.nodup_dedup _) derived.toList_nodup).mpr fun owner => by
      rw [owners owner, Option.mem_toList]
    cases derived with
    | none => exact List.perm_nil.mp same
    | some owner => exact List.perm_singleton.mp same
  have one : decide (derived.toList.length ≤ 1) = true := by cases derived <;> rfl
  have first : derived.toList.head? = derived := by cases derived <;> rfl
  have expected : (expectedOwner.isNone || derived == expectedOwner) = true := by
    rw [Bool.or_eq_true, Option.isNone_iff_eq_none, beq_iff_eq]
    exact meets.expected
  simp only [deriveOwnerFromGraph, walked, Except.bind_ok, parsed, single, one, first, expected,
    requireIntegrity]
  cases validated with
  | false => rfl
  | true =>
    have columns : (visited.forM fun row =>
        validateColumns library (if isPrivate row.1.recordCode then derived else none) row.1) =
            .ok () :=
      Except.forM_eq_ok_iff.mpr fun row member =>
        meets.columns rfl row ((mem_visitRows_iff walked).mp member)
    rw [if_pos rfl, columns]
    rfl

/-- The derivation ends with an owner, or with none, exactly where the references lead to that and
nothing else and the graph meets what was expected of it; so an owner that was expected is the one
found. -/
theorem derived_owner_is_the_owner (library : ModelLibrary) (table : RecordTable) (root : table.Row)
    (expectedOwner : Option Text) (validated : Bool) (derived : Option Text) :
    deriveOwnerFromGraph library table expectedOwner validated root = .ok derived ↔
      OwnerOf library table root derived ∧
      MeetsExpectation library table expectedOwner validated root derived := by
  constructor
  · exact fun success => ⟨ownerOf_of_deriveOwner success, meetsExpectation_of_deriveOwner success⟩
  · rintro ⟨owned, meets⟩
    exact deriveOwner_of_ownerOf owned meets

end MiniAgent.Infrastructure
