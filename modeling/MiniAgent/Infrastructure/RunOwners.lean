import MiniAgent.Infrastructure.OwnerDerivation
import MiniAgent.Infrastructure.TableEffects

/-! # Owners of what belongs to a Run

A record that belongs to a Run refers to it. So when its row is valid, the walk along the references
has met the row of the Run, and both have the owner that the walk has derived.
-/

namespace MiniAgent.Infrastructure

open MiniAgent.Core MiniAgent.Application KeyedStore

variable {library : ModelLibrary} {table written : RecordTable} {row : P0RecordModel}
  {entry : Entry} {runId : Uuid}

/-- The row under a key has the owner of a Run that is there. -/
def OwnedLikeRun (table : RecordTable) (key : RecordKey) (runId : Uuid) : Prop :=
  ∃ owner, table.ownerAt (runKey runId) = some owner ∧ table.ownerAt key = some owner

/-- Whatever belongs to a Run has the owner of the Run. -/
def OwnedWithRuns (library : ModelLibrary) (table : RecordTable) : Prop :=
  ∀ key entry runId, contents library table key = some entry → ofRun entry.record = some runId →
    OwnedLikeRun table key runId

/-- Whatever a valid row leads to has the owner that is derived, if it is private. -/
private theorem scopeOwner_of_valid {expectedOwner : Option Text} {root : table.Row}
    {decoded : DecodedP0PersistenceRecord}
    (valid : validatePhysicalProjection library table expectedOwner root = .ok decoded) :
    (∃ targets, openRow library table expectedOwner root = .ok targets) ∧ ∃ derived : Option Text,
      ∀ row : table.Row, Leads library table root row → isPrivate row.1.recordCode = true →
        row.1.scopeOwnerCustomerId = derived := by
  simp only [validatePhysicalProjection, Except.bind_eq_ok_iff] at valid
  obtain ⟨_, -, derived, derives, -⟩ := valid
  obtain ⟨visited, walked, -, -, checked⟩ := deriveOwner_eq_ok derives
  refine ⟨visitRows_opens walked .refl, derived, fun row leads owned => ?_⟩
  have same :=
    scopeOwner_of_validateColumns (checked rfl row ((mem_visitRows_iff walked).mpr leads))
  rwa [if_pos owned] at same

/-- A valid row of a sound table is read as the envelope that it was written with. -/
private theorem parseEnvelope_of_sound (laws : StoreLaws library) {envelope : P0PersistenceEnvelope}
    {owner : Option Text} (columns : row.toProjection = projectionOf envelope entry.record owner)
    {decoded : DecodedP0PersistenceRecord} (decodes : decodeRow library row = .ok decoded) :
    parseEnvelope library row.envelope = .ok envelope := by
  simp only [decodeRow, Except.bind_eq_ok_iff] at decodes
  obtain ⟨found, decodes, -⟩ := decodes
  rw [show row.envelope = envelope.modelDump from congrArg Projection.envelope columns,
    show row.recordCode = envelope.recordCode from
      congrArg Projection.recordCode columns] at decodes
  rw [show row.envelope = envelope.modelDump from congrArg Projection.envelope columns]
  have projected : projectionValues library envelope owner =
      .ok (projectionOf envelope found.sourceRecord owner) := by
    rw [projectionValues, decodes]
    rfl
  exact parseEnvelope_modelDump laws.texts projected

private theorem isPrivate_of_ofRun {code : P0RecordCode} {record : SourceRecord}
    (belongs : ofRun record = some runId)
    (model : record.sourceModel = (persistenceRegistry code).sourceModel) :
    isPrivate code = true := by
  cases record <;> simp only [ofRun, Option.some.injEq, reduceCtorEq] at belongs
  case toolCallRecord call =>
    obtain rfl : P0RecordCode.toolCallRecord = code := sourceModel_injective model
    rfl
  case runTaskLinkRecord link =>
    obtain rfl : P0RecordCode.runTaskLinkRecord = code := sourceModel_injective model
    rfl

/-- A valid row that belongs to a Run has the owner of the Run. -/
theorem ownedLikeRun_of_valid (laws : StoreLaws library) (sound : Sound library table)
    {expectedOwner : Option Text} {row : table.Row} {decoded : DecodedP0PersistenceRecord}
    (valid : validatePhysicalProjection library table expectedOwner row = .ok decoded)
    (belongs : ofRun decoded.sourceRecord = some runId) : OwnedLikeRun table row.1.key runId := by
  obtain ⟨entry, soundRow⟩ := sound row.1 row.2
  obtain rfl := Option.some.inj (soundRow.reads.symm.trans (readEntry_of_valid valid))
  have private_ := isPrivate_of_ofRun belongs soundRow.model
  obtain ⟨envelope, encodes, columns⟩ := soundRow
  have parses := parseEnvelope_of_sound laws columns (decodeRow_of_valid valid)
  obtain ⟨⟨targets, opened⟩, derived, owners⟩ := scopeOwner_of_valid valid
  obtain ⟨reference, named, code, identity⟩ := encodes.refers runId belongs
  obtain ⟨-, again, parsed, selected⟩ := openRow_eq_ok opened
  obtain rfl := Except.ok.inj (parses.symm.trans parsed)
  obtain ⟨run, -, found⟩ := Keyed.exists_of_forall₂_left selected named
  have target := RecordTable.selectOne_eq_some found
  rw [Bool.and_eq_true] at target
  have runAt : run.1.key = runKey runId := by
    rw [hasIdentity_iff.mp target.1, code, identity, runKey]
  have refers : Refers library table row run := ⟨reference, ⟨envelope, parses, named⟩, target.1⟩
  have runPrivate : isPrivate run.1.recordCode = true := by
    rw [show run.1.recordCode = .agentRunRecord from congrArg Prod.fst runAt]
    rfl
  exact ⟨derived, ownerAt_eq_some.mpr ⟨run.1, run.2, runAt, owners run (.single refers) runPrivate⟩,
    ownerAt_eq_some.mpr ⟨row.1, row.2, rfl, owners row .refl private_⟩⟩

end MiniAgent.Infrastructure
