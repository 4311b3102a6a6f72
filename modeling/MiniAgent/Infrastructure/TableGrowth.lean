import MiniAgent.Infrastructure.OwnerDerivation

/-! # Reading a table that has grown

A row that reads well reads the same once other rows have joined the table: its references find the
rows that they found before, so that the walk along them and the owner that it derives stay what
they were.
-/

namespace MiniAgent.Infrastructure

open MiniAgent.Core MiniAgent.Application

variable {library : ModelLibrary} {table grown : RecordTable} (within : table.rows ⊆ grown.rows)
  {expectedOwner : Option Text} {row : table.Row}

/-- A row of a table, in the table that it has grown to. -/
def RecordTable.lift (row : table.Row) : grown.Row := ⟨row.1, within row.2⟩

/-- A selection by identity finds the same row. -/
private theorem selectOne_lift {condition : P0RecordModel → Bool} {key : RecordKey}
    (byKey : ∀ row, condition row = true → row.key = key)
    (found : table.selectOne condition = some row) :
    grown.selectOne condition = some (RecordTable.lift within row) := by
  have holds := RecordTable.selectOne_eq_some found
  cases again : grown.selectOne condition with
  | none =>
    rw [RecordTable.selectOne_eq_none.mp again row.1 (within row.2)] at holds
    cases holds
  | some other =>
    have otherKey := byKey other.1 (RecordTable.selectOne_eq_some again)
    have same : other = RecordTable.lift within row :=
      RecordTable.key_injective (otherKey.trans (byKey row.1 holds).symm)
    rw [same]

theorem rowForIdentity_lift {code : P0RecordCode} {identity : Json}
    (found : rowForIdentity table code identity = some row) :
    rowForIdentity grown code identity = some (RecordTable.lift within row) :=
  selectOne_lift within (fun _ => hasIdentity_iff.mp) found

theorem scopedRowForIdentity_lift {owner : Text} {code : P0RecordCode} {identity : Json}
    (found : scopedRowForIdentity table owner code identity = some row) :
    scopedRowForIdentity grown owner code identity = some (RecordTable.lift within row) := by
  have byKey : ∀ other : P0RecordModel, (hasIdentity code identity other &&
      other.scopeOwnerCustomerId == some owner) = true → other.key = (code, identity.norm) := by
    intro other both
    rw [Bool.and_eq_true] at both
    exact hasIdentity_iff.mp both.1
  exact selectOne_lift within byKey found

private theorem openRow_lift {targets : List table.Row}
    (opened : openRow library table expectedOwner row = .ok targets) :
    openRow library grown expectedOwner (RecordTable.lift within row) =
      .ok (targets.map (RecordTable.lift within)) := by
  simp only [openRow, Except.bind_eq_ok_iff, Except.discard_eq_ok_iff, Except.mapM_eq_ok_iff,
    orIntegrity_eq_ok] at opened ⊢
  obtain ⟨decoded, decodes, envelope, parsed, selected⟩ := opened
  refine ⟨decoded, decodes, envelope, parsed, List.forall₂_map_right_iff.mpr ?_⟩
  refine selected.imp fun reference target found => ?_
  have byKey : ∀ other : P0RecordModel, (hasIdentity reference.targetRecordCode
      reference.targetLogicalIdentity.toJson other && inScope expectedOwner other) = true →
        other.key = (reference.targetRecordCode, reference.targetLogicalIdentity.toJson.norm) := by
    intro other both
    rw [Bool.and_eq_true] at both
    exact hasIdentity_iff.mp both.1
  exact selectOne_lift within byKey found

private theorem visitRows_lift {visited : List table.Row}
    (walked : visitRows library table expectedOwner row = .ok visited) :
    visitRows library grown expectedOwner (RecordTable.lift within row) =
      .ok (visited.map (RecordTable.lift within)) := by
  unfold visitRows at walked ⊢
  refine GraphWalk.walk_lift (RecordTable.lift within) ?_ ?_ walked
  · exact fun node => rfl
  · exact fun node targets opened => openRow_lift within opened

/-- The owner that a walk derives, and the check of the rows that it has met. -/
private theorem deriveOwnerFromGraph_lift {validated : Bool} {derived : Option Text}
    (success : deriveOwnerFromGraph library table expectedOwner validated row = .ok derived) :
    deriveOwnerFromGraph library grown expectedOwner validated (RecordTable.lift within row) =
    .ok derived := by
  simp only [deriveOwnerFromGraph, Except.bind_eq_ok_iff, Except.mapM_eq_ok_iff] at success ⊢
  obtain ⟨visited, walked, envelopes, parsed, single, one, expected, holds, rest⟩ := success
  refine ⟨_, visitRows_lift within walked, envelopes, List.forall₂_map_left_iff.mpr parsed, single,
    one, expected, holds, ?_⟩
  cases validated with
  | false => exact rest
  | true =>
    simp only [if_true, Except.bind_eq_ok_iff, Except.forM_eq_ok_iff, List.forall_mem_map] at rest ⊢
    exact rest

theorem validatePhysicalProjection_lift {decoded : DecodedP0PersistenceRecord}
    (success : validatePhysicalProjection library table expectedOwner row = .ok decoded) :
    validatePhysicalProjection library grown expectedOwner (RecordTable.lift within row) =
    .ok decoded := by
  simp only [validatePhysicalProjection, Except.bind_eq_ok_iff] at success ⊢
  obtain ⟨envelope, parsed, derived, derives, rest⟩ := success
  exact ⟨envelope, parsed, derived, deriveOwnerFromGraph_lift within derives, rest⟩

/-- The owner is the same when the rows are not checked on the way. -/
theorem deriveOwner_unchecked {derived : Option Text}
    (success : deriveOwnerFromGraph library table expectedOwner true row = .ok derived) :
    deriveOwnerFromGraph library table expectedOwner false row = .ok derived := by
  simp only [deriveOwnerFromGraph, Except.bind_eq_ok_iff, if_true] at success ⊢
  obtain ⟨visited, walked, envelopes, parsed, single, one, expected, holds, checked, -, same⟩ :=
    success
  exact ⟨visited, walked, envelopes, parsed, single, one, expected, holds, by simpa using same⟩

end MiniAgent.Infrastructure
