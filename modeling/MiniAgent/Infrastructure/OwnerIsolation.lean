import MiniAgent.Infrastructure.OwnerDerivation

/-! # An owner sees no one else's records

An owner-scoped load starts from a row in the owner's scope and never selects a row outside of it.
So two tables that differ only in the rows of other customers answer alike: with the same record,
with nothing, or with the same failure.
-/

namespace MiniAgent.Infrastructure

open MiniAgent.Core MiniAgent.Application
open Except (Alike)

/-- A row that no other customer owns: it is the owner's, or it has no owner. -/
def visibleTo (owner : Text) (row : P0RecordModel) : Bool :=
  row.scopeOwnerCustomerId == some owner || row.scopeOwnerCustomerId.isNone

/-- Two tables differ only in rows of other customers. -/
def SameVisible (owner : Text) (table other : RecordTable) : Prop :=
  ∀ row, visibleTo owner row = true → (row ∈ table.rows ↔ row ∈ other.rows)

variable {library : ModelLibrary} {table other : RecordTable} {owner : Text}

private theorem visibleTo_of_inScope {row : P0RecordModel}
    (within : inScope (some owner) row = true) :
    visibleTo owner row = true := by
  unfold inScope at within
  unfold visibleTo
  simp only at within
  split_ifs at within <;> simp_all

/-- A selection of at most one visible row. -/
private theorem selectOne_congr (same : SameVisible owner table other)
    {condition : P0RecordModel → Bool}
    (visible : ∀ row, condition row = true → visibleTo owner row = true)
    (single : ∀ left right, condition left = true → condition right = true → left.key = right.key) :
    (table.selectOne condition).map Subtype.val = (other.selectOne condition).map Subtype.val := by
  cases found : table.selectOne condition with
  | none =>
    have missing : other.selectOne condition = none := by
      rw [RecordTable.selectOne_eq_none] at found ⊢
      intro row member
      by_contra holds
      have seen := visible row (by simpa using holds)
      exact holds (found row ((same row seen).mpr member))
    rw [missing]
    rfl
  | some row =>
    have chosen := RecordTable.selectOne_eq_some found
    have present := (same row.1 (visible row.1 chosen)).mp row.2
    cases again : other.selectOne condition with
    | none =>
      have absent := RecordTable.selectOne_eq_none.mp again row.1 present
      exact nomatch absent.symm.trans chosen
    | some twin =>
      have twinChosen := RecordTable.selectOne_eq_some again
      have sameRow : (⟨row.1, present⟩ : other.Row) = twin :=
        RecordTable.key_injective (single row.1 twin.1 chosen twinChosen)
      simp [← sameRow]

/-- A list of visible rows, in their stored order. -/
private theorem scopedRows_congr (same : SameVisible owner table other) (code : P0RecordCode)
    (filter : P0RecordModel → Bool) :
    (scopedRows table owner code filter).map Subtype.val =
    (scopedRows other owner code filter).map Subtype.val := by
  have rows : ∀ table : RecordTable, (scopedRows table owner code filter).map Subtype.val =
      Keyed.sortByKey storedOrder (table.rows.filter fun row =>
        row.recordCode == code && row.scopeOwnerCustomerId == some owner && filter row) := by
    intro table
    rw [scopedRows, Keyed.map_sortByKey, RecordTable.map_select]
  rw [rows, rows]
  have distinct : ∀ table : RecordTable, (table.rows.filter fun row =>
      row.recordCode == code && row.scopeOwnerCustomerId == some owner && filter row).Nodup := by
    intro table
    exact table.uniqueRecordIds.of_map.filter _
  apply Keyed.sortByKey_eq_of_perm
  · apply (List.perm_ext_iff_of_nodup (distinct table) (distinct other)).mpr
    intro row
    simp only [List.mem_filter, Bool.and_eq_true, beq_iff_eq]
    constructor <;> rintro ⟨member, ⟨sameCode, owned⟩, kept⟩
    · exact ⟨(same row (by simp [visibleTo, owned])).mp member, ⟨sameCode, owned⟩, kept⟩
    · exact ⟨(same row (by simp [visibleTo, owned])).mpr member, ⟨sameCode, owned⟩, kept⟩
  · apply List.Nodup.of_map (fun order : ℤ ×ₗ Uuid => (ofLex order).2)
    rw [List.map_map]
    exact table.uniqueRecordIds.sublist (List.filter_sublist.map _)

/-- Two rows of two tables are one row. -/
def SameRow (left : table.Row) (right : other.Row) : Prop := left.1 = right.1

/-- What is selected in one table is selected in the other. -/
private theorem alike_orIntegrity {left : Option table.Row} {right : Option other.Row}
    (same : left.map Subtype.val = right.map Subtype.val)
    (category : P0PersistenceIntegrityCategory) :
    Alike SameRow (orIntegrity category left) (orIntegrity category right) := by
  cases left <;> cases right <;>
    simp only [Option.map_some, Option.map_none, reduceCtorEq, Option.some.injEq] at same
  · exact (rfl : PersistenceFailure.integrity category = _)
  · exact same

private theorem openRow_congr (same : SameVisible owner table other) {left : table.Row}
    {right : other.Row} (twins : SameRow left right) :
    Alike (List.Forall₂ SameRow) (openRow library table (some owner) left)
      (openRow library other (some owner) right) := by
  unfold openRow
  rw [show left.1 = right.1 from twins]
  apply (Except.alike_eq_iff.mpr rfl).bind
  rintro - - -
  apply (Except.alike_eq_iff.mpr rfl).bind
  rintro envelope - rfl
  have references : List.Forall₂ (· = ·) envelope.recordReferences envelope.recordReferences :=
    List.forall₂_refl _
  apply Except.Alike.mapM references
  rintro reference - rfl
  apply alike_orIntegrity
  apply selectOne_congr same
  · intro row chosen
    exact visibleTo_of_inScope (Bool.and_eq_true _ _ ▸ chosen).2
  · intro first second chosen otherChosen
    rw [Bool.and_eq_true] at chosen otherChosen
    exact (hasIdentity_iff.mp chosen.1).trans (hasIdentity_iff.mp otherChosen.1).symm

private theorem visitRows_congr (same : SameVisible owner table other) {left : table.Row}
    {right : other.Row} (twins : SameRow left right) :
    Alike (List.Forall₂ SameRow) (visitRows library table (some owner) left)
      (visitRows library other (some owner) right) := by
  apply GraphWalk.walk_related SameRow
  · intro first second same
    rw [show first.1 = second.1 from same]
  · intro first second
    exact openRow_congr same
  · exact .cons twins .nil

/-- The derived owner of a row is the same in both tables. -/
private theorem deriveOwner_congr (same : SameVisible owner table other) {left : table.Row}
    {right : other.Row} (twins : SameRow left right) (validated : Bool) :
    deriveOwnerFromGraph library table (some owner) validated left =
      deriveOwnerFromGraph library other (some owner) validated right := by
  apply Except.alike_eq_iff.mp
  unfold deriveOwnerFromGraph
  apply (visitRows_congr same twins).bind
  intro visited otherVisited pairs
  apply (Except.Alike.mapM_eq pairs ?_).bind
  · intro envelopes otherEnvelopes aligned
    rw [List.forall₂_eq_eq_eq] at aligned
    subst aligned
    have checked : ∀ derivedOwner : Option Text,
        (visited.forM fun row =>
          validateColumns library (if isPrivate row.1.recordCode then derivedOwner
            else none) row.1) =
        (otherVisited.forM fun row =>
          validateColumns library (if isPrivate row.1.recordCode then derivedOwner
              else none) row.1) := by
      intro derivedOwner
      apply Except.Alike.forM pairs
      intro row twin same
      rw [show row.1 = twin.1 from same]
    simp only [checked]
    exact Except.alike_eq_iff.mpr rfl
  · intro row twin same
    rw [show row.1 = twin.1 from same]
    exact Except.alike_eq_iff.mpr rfl

/-- Validating a row gives the same record, or the same failure, in both tables. -/
private theorem validatePhysicalProjection_congr (same : SameVisible owner table other)
    {left : table.Row} {right : other.Row} (twins : SameRow left right) :
    validatePhysicalProjection library table (some owner) left =
      validatePhysicalProjection library other (some owner) right := by
  unfold validatePhysicalProjection
  rw [deriveOwner_congr same twins, show left.1 = right.1 from twins]

private theorem ownerScopedRow_congr (same : SameVisible owner table other) (code : P0RecordCode)
    (identity : Json) :
    Alike (Option.Rel SameRow) (ownerScopedRow library table owner code identity)
      (ownerScopedRow library other owner code identity) := by
  have selected : (scopedRowForIdentity table owner code identity).map Subtype.val =
      (scopedRowForIdentity other owner code identity).map Subtype.val := by
    apply selectOne_congr same
    · intro row chosen
      rw [Bool.and_eq_true] at chosen
      simp [visibleTo, chosen.2]
    · intro first second chosen otherChosen
      rw [Bool.and_eq_true] at chosen otherChosen
      exact (hasIdentity_iff.mp chosen.1).trans (hasIdentity_iff.mp otherChosen.1).symm
  unfold ownerScopedRow
  cases found : scopedRowForIdentity table owner code identity <;>
    cases again : scopedRowForIdentity other owner code identity <;>
    simp only [found, again, Option.map_some, Option.map_none, reduceCtorEq, Option.some.injEq]
      at selected
  · exact Option.Rel.none
  · rename_i row twin
    simp only [validatePhysicalProjection_congr same (show SameRow row twin from selected)]
    apply (Except.alike_eq_iff.mpr rfl).bind
    rintro - - -
    exact Option.Rel.some selected

theorem loadForOwner_congr (same : SameVisible owner table other) (code : P0RecordCode)
    (identity : Json) (expectedType : SourceModel) :
    loadForOwner library table owner code identity expectedType =
      loadForOwner library other owner code identity expectedType := by
  apply Except.alike_eq_iff.mp
  apply (ownerScopedRow_congr same code identity).bind
  rintro - - (⟨twins⟩ | -)
  · rename_i row twin
    simp only [show row.1 = twin.1 from twins]
    exact Except.alike_eq_iff.mpr rfl
  · exact Except.alike_eq_iff.mpr rfl

private theorem scopedRows_alike (same : SameVisible owner table other) (code : P0RecordCode)
    (filter : P0RecordModel → Bool) :
    List.Forall₂ SameRow (scopedRows table owner code filter)
    (scopedRows other owner code filter) := by
  have rows := scopedRows_congr same code filter
  rw [← List.forall₂_eq_eq_eq, List.forall₂_map_left_iff, List.forall₂_map_right_iff] at rows
  exact rows

private theorem listedRecord_congr (same : SameVisible owner table other) {left : table.Row}
    {right : other.Row} (twins : SameRow left right) (expectedType : SourceModel) :
    listedRecord library table owner expectedType left =
    listedRecord library other owner expectedType right := by
  unfold listedRecord
  rw [validatePhysicalProjection_congr same twins]

theorem listForOwner_congr (same : SameVisible owner table other) (code : P0RecordCode)
    (filter : P0RecordModel → Bool) (expectedType : SourceModel) :
    listForOwner library table owner code filter expectedType =
      listForOwner library other owner code filter expectedType := by
  apply Except.alike_eq_iff.mp
  rw [← List.forall₂_eq_eq_eq]
  apply Except.Alike.mapM (scopedRows_alike same code filter)
  intro row twin twins
  exact Except.alike_eq_iff.mpr (listedRecord_congr same twins expectedType)

theorem listMessagesForOwner_congr (same : SameVisible owner table other) (conversationId : Uuid)
    (limit : ℕ) :
    listMessagesForOwner library table owner conversationId limit =
      listMessagesForOwner library other owner conversationId limit := by
  apply Except.alike_eq_iff.mp
  rw [← List.forall₂_eq_eq_eq]
  apply Except.Alike.mapM (List.forall₂_take limit (scopedRows_alike same _ _))
  intro row twin twins
  rw [validatePhysicalProjection_congr same twins]
  exact Except.alike_eq_iff.mpr rfl

theorem listTraceEventsForOwner_congr (same : SameVisible owner table other) (runId : Uuid) :
    listTraceEventsForOwner library table owner runId =
    listTraceEventsForOwner library other owner runId := by
  apply Except.alike_eq_iff.mp
  apply (Except.Alike.mapM_eq (scopedRows_alike same _ _) ?_).bind
  · intro history otherHistory entries
    rw [List.forall₂_eq_eq_eq] at entries
    subst entries
    exact Except.alike_eq_iff.mpr rfl
  · intro row twin twins
    rw [listedRecord_congr same twins, show row.1 = twin.1 from twins]
    exact Except.alike_eq_iff.mpr rfl

end MiniAgent.Infrastructure
