import MiniAgent.Infrastructure.InsertOnly
import MiniAgent.Infrastructure.RecoveryApply

/-! # A recovery that is applied removes one active Run

Replacing the Run takes it off the active ones. Whatever else a recovery replaces is not a Run, and
what it appends is Trace, so that the other active Runs stay.
-/

namespace MiniAgent.Application

/-- Strict validation of a dumped Run gives nothing but this Run. -/
def ModelLibrary.KeepsRuns (library : ModelLibrary) : Prop :=
  ∀ run loaded, reload library .agentRunRecord (.agentRunRecord run) = some loaded →
    loaded = .agentRunRecord run

/-- A table of dumps that are all different keeps what it knows. -/
theorem tableLibrary_keepsRuns {entries : List (SourceRecord × Fields)}
    (native : ∀ entry ∈ entries, (Json.object entry.2).isNative = true)
    (apart : (entries.map (·.2)).Nodup) (spelled : [] ∉ entries.map (·.2)) :
    (tableLibrary entries).KeepsRuns := by
  intro run loaded reloaded
  have known : ∃ data, (tableLibrary entries).modelDump (.agentRunRecord run) = data ∧
      (Json.object data).isNative = true ∧ ∀ entry ∈ entries, entry.2 = data →
      entry.1 = .agentRunRecord run := by
    cases found : entries.find? (·.1 == .agentRunRecord run) with
    | none =>
      refine ⟨[], by simp [tableLibrary, found], rfl, fun entry member same => ?_⟩
      exact absurd (List.mem_map.mpr ⟨entry, member, same⟩) spelled
    | some first =>
      have member := List.mem_of_find?_eq_some found
      refine ⟨first.2, by simp [tableLibrary, found], native first member,
        fun entry listed same => ?_⟩
      rw [List.inj_on_of_nodup_map apart listed member same]
      simpa using List.find?_some found
  obtain ⟨data, dumped, isNative, only⟩ := known
  have read : (tableLibrary entries).readText ((tableLibrary entries).writeText (.object data)) =
      some (.object data) :=
    Json.loads_compact isNative
  rw [reload, dumped, read, Option.bind_some] at reloaded
  obtain ⟨entry, found, rfl⟩ := Option.map_eq_some_iff.mp reloaded
  have accepted := List.find?_some found
  simp only [Bool.and_eq_true, beq_iff_eq, Json.object.injEq] at accepted
  exact only entry (List.mem_of_find?_eq_some found) accepted.2

end MiniAgent.Application

namespace MiniAgent.Infrastructure

open MiniAgent.Core MiniAgent.Application

variable {library : ModelLibrary} {table written : RecordTable} {code : P0RecordCode}
  {envelope : P0PersistenceEnvelope} {row : table.Row}

/-- A row as its replacement leaves it. -/
def replacedRow (values : Projection) (nextEnvelope : P0PersistenceEnvelope) (row : P0RecordModel) :
    P0RecordModel :=
  { toProjection := values, toRowStamp := row.toRowStamp,
    references := referenceModels nextEnvelope }

/-- What a replacement that was made has done. -/
structure Replaces (library : ModelLibrary) (table written : RecordTable) (row : table.Row)
    (expected : SourceRecord) (children : List SourceRecord) (nextEnvelope : P0PersistenceEnvelope)
    (values : Projection) : Prop where
  valid : ∃ decoded, validatePhysicalProjection library table none row = .ok decoded ∧
    decoded.sourceRecord = expected ∧ decoded.logicalChildren = children
  projects : projectionValues library nextEnvelope row.1.scopeOwnerCustomerId = .ok values
  rows : written.rows = table.rows.map fun other =>
    if other.recordId = row.1.recordId then replacedRow values nextEnvelope other else other

theorem replaceRowEnvelope_eq_ok {expected : SourceRecord} {children : List SourceRecord}
    (success : replaceRowEnvelope library table row expected children envelope =
      .ok (some written)) :
    ∃ values, Replaces library table written row expected children envelope values := by
  simp only [replaceRowEnvelope, Except.bind_eq_ok_iff] at success
  obtain ⟨decoded, valid, success⟩ := success
  split at success
  · cases Except.ok.inj success
  · next differs =>
    simp only [Bool.or_eq_true, bne_iff_ne, ne_eq, not_or, Decidable.not_not] at differs
    rw [Except.bind_eq_ok_iff] at success
    obtain ⟨values, projects, success⟩ := success
    split at success
    · cases success
    · simp only [Except.bind_eq_ok_iff, ofRows_eq_ok_iff, Except.pure_eq_ok_iff, Option.some.injEq]
        at success
      obtain ⟨nextTable, rows, -, -, -, -, rfl⟩ := success
      exact ⟨values, ⟨decoded, valid, differs⟩, projects, rows⟩

/-- The record of a row is the one that its envelope loads as, and its data is native. -/
private theorem decodePersistenceRecord_loads {raw : Fields} {decoded : DecodedP0PersistenceRecord}
    (parsed : parseEnvelope library raw = .ok envelope)
    (decodes : decodePersistenceRecord library raw code = .ok decoded) :
    (Json.object raw).isNative = true ∧
      loadData library (persistenceRegistry code).sourceModel envelope.payload.data =
      some decoded.sourceRecord := by
  unfold decodePersistenceRecord at decodes
  split_ifs at decodes with understanding
  have registered : nonRuPersistenceRegistry code = some (persistenceRegistry code) :=
    nonRuPersistenceRegistry_eq_some.mpr ⟨understanding, rfl⟩
  simp only [jsonInput, decode, classifyOuter, registered, validateEnvelope, Except.bind_eq_ok_iff,
    requireIntegrity_eq_ok_iff, Except.pure_eq_ok_iff, orIntegrity_eq_ok] at decodes
  obtain ⟨_, ⟨-, native, rfl⟩, _, ⟨_, -, _, -, -, -, rfl⟩, -, -, read,
    ⟨value, spelled, _, envelopeRead, -, -, rfl⟩, record, loaded, _, -, _, -, -, -, -, -,
    rfl⟩ := decodes
  rw [parseEnvelope, orIntegrity_eq_ok, spelled, Option.bind_some, envelopeRead] at parsed
  obtain rfl := Option.some.inj parsed
  exact ⟨native, loaded⟩

/-- The lifecycle column of a valid row is that of its record. -/
private theorem lifecycleStatus_of_valid (laws : library.TextLaws) {expectedOwner : Option Text}
    {decoded : DecodedP0PersistenceRecord}
    (valid : validatePhysicalProjection library table expectedOwner row = .ok decoded) :
    row.1.lifecycleStatus = decoded.sourceRecord.lifecycleStatus := by
  simp only [validatePhysicalProjection, decodeRow, requireProjection, Except.bind_eq_ok_iff,
    requireIntegrity_eq_ok_iff] at valid
  obtain ⟨envelope, parsed, owner, -, values, projects, -, ⟨-, sameMeta, -, -, samePayload⟩, _,
    decodes, _, -, -, -, _, -, -, -, same⟩ := valid
  obtain rfl := Except.ok.inj same
  obtain ⟨again, decodesAgain, rfl⟩ := projectionValues_eq_ok projects
  have sameCode : row.1.recordCode = envelope.recordCode := by
    simp only [sameMetadata, Bool.and_eq_true, beq_iff_eq] at sameMeta
    exact sameMeta.1.1.1
  have loads := (decodePersistenceRecord_loads parsed decodes).2
  rw [sameCode, (decodePersistenceRecord_loads (parseEnvelope_modelDump laws projects)
    decodesAgain).2] at loads
  rw [← Option.some.inj loads]
  simp only [Infrastructure.samePayload, Bool.and_eq_true, beq_iff_eq] at samePayload
  exact samePayload.1.1.1.1.2

/-- The envelope of a record carries the dump of the record that strict validation makes of it. -/
private theorem encoded_data {record : SourceRecord} {externals : List P0RecordReference}
    {children : List SourceRecord}
    (encoded : encodePersistenceRecord library code record externals children = .ok envelope) :
    envelope.recordCode = code ∧ ∃ validated,
    reload library (persistenceRegistry code).sourceModel record = some validated ∧
      envelope.payload.data = library.modelDump validated := by
  simp only [encodePersistenceRecord, buildEnvelope] at encoded
  split at encoded
  · cases encoded
  · next spec registered =>
    obtain ⟨-, rfl⟩ := nonRuPersistenceRegistry_eq_some.mp registered
    simp only [Except.bind_eq_ok_iff, strictRecord, requireIntegrity_eq_ok_iff, orIntegrity_eq_ok,
      Prod.exists] at encoded
    obtain ⟨_, ⟨-, -, -, -, validated, reloaded, -, -, same⟩, _, -, _, _, -, _, -, _, _, -, _, -,
      assembled⟩ := encoded
    obtain rfl := Except.ok.inj same
    obtain ⟨⟨sameCode, -⟩, -, data, -⟩ := assembleEnvelope_spec assembled
    exact ⟨sameCode.trans (recordCode_persistenceRegistry code), _, reloaded, data⟩

private theorem data_isNative (native : (Json.object envelope.modelDump).isNative = true) :
    (Json.object envelope.payload.data).isNative = true := by
  have outer := (Json.isNative_object.mp native).2
  simp only [P0PersistenceEnvelope.modelDump, Json.isNativeFields, Bool.and_eq_true] at outer
  have inner := (Json.isNative_object.mp outer.2.2.2.2.2.1).2
  rw [Json.isNativeFields, Bool.and_eq_true] at inner
  exact inner.1

/-- The row of an encoded Run has the status of the Run. -/
private theorem lifecycleStatus_of_encoded (laws : library.TextLaws) (keeps : library.KeepsRuns)
    {run : AgentRunRecord} {owner : Option Text} {values : Projection}
    (encoded : encodePersistenceRecord library .agentRunRecord (.agentRunRecord run) = .ok envelope)
    (projects : projectionValues library envelope owner = .ok values) :
    values.lifecycleStatus = some run.status.value := by
  obtain ⟨sameCode, validated, reloaded, data⟩ := encoded_data encoded
  obtain rfl := keeps _ _ reloaded
  obtain ⟨decoded, decodes, rfl⟩ := projectionValues_eq_ok projects
  obtain ⟨native, loaded⟩ :=
    decodePersistenceRecord_loads (parseEnvelope_modelDump laws projects) decodes
  have dumped : (Json.object (library.modelDump (.agentRunRecord run))).isNative = true :=
    data ▸ data_isNative native
  rw [sameCode, data, loadData, laws.readText_compact _ dumped, ← laws.readText_writeText _ dumped]
    at loaded
  change decoded.sourceRecord.lifecycleStatus = _
  rw [keeps _ _ loaded]
  rfl

theorem activeRuns_nodup (table : RecordTable) : (activeRuns table).Nodup :=
  table.uniqueIdentities.sublist (List.filter_sublist.map _)

private theorem mem_activeRuns {key : RecordKey} : key ∈ activeRuns table ↔
    ∃ row ∈ table.rows, isActiveRun row = true ∧ row.key = key := by
  simp [activeRuns, List.mem_filter, and_assoc]

/-- Rows that are no Runs come and go without a mark on the active ones. -/
private theorem filter_map_of_others {change : P0RecordModel → P0RecordModel}
    {rows : List P0RecordModel} (others : ∀ row ∈ rows, change row = row ∨
      (isActiveRun row = false ∧ isActiveRun (change row) = false)) :
    (rows.map change).filter isActiveRun = rows.filter isActiveRun := by
  induction rows with
  | nil => rfl
  | cons row rest ih =>
    obtain ⟨here, later⟩ := List.forall_mem_cons.mp others
    rw [List.map_cons, List.filter_cons, List.filter_cons, ih later]
    rcases here with same | ⟨before, after⟩
    · rw [same]
    · simp [before, after]

private theorem isActiveRun_eq_false {row : P0RecordModel}
    (other : row.recordCode ≠ .agentRunRecord) :
    isActiveRun row = false := by
  simp [isActiveRun, other]

namespace Replaces

variable {expected : SourceRecord} {children : List SourceRecord} {values : Projection}

/-- Replacing what is no Run keeps the active Runs. -/
private theorem activeRuns_eq
    (replaces : Replaces library table written row expected children envelope values)
    (before : row.1.recordCode ≠ .agentRunRecord) (after : envelope.recordCode ≠ .agentRunRecord) :
    activeRuns written = activeRuns table := by
  rw [activeRuns, replaces.rows, filter_map_of_others, activeRuns]
  intro other member
  by_cases same : other.recordId = row.1.recordId
  · rw [if_pos same]
    obtain rfl : other = row.1 := List.inj_on_of_nodup_map table.uniqueRecordIds member row.2 same
    obtain ⟨_, -, rfl⟩ := projectionValues_eq_ok replaces.projects
    exact .inr ⟨isActiveRun_eq_false before, isActiveRun_eq_false after⟩
  · rw [if_neg same]
    exact .inl rfl

/-- Replacing an active Run by one that is not takes it off the active ones. -/
private theorem activeRuns_erase
    (replaces : Replaces library table written row expected children envelope values)
    (before : isActiveRun row.1 = true)
    (after : isActiveRun (replacedRow values envelope row.1) = false) :
    row.1.key ∈ activeRuns table ∧ activeRuns written = (activeRuns table).erase row.1.key := by
  refine ⟨mem_activeRuns.mpr ⟨row.1, row.2, before, rfl⟩, ?_⟩
  have distinct : ∀ other ∈ table.rows, other.recordId = row.1.recordId ↔
      other.key = row.1.key := by
    intro other member
    constructor
    · intro same
      rw [List.inj_on_of_nodup_map table.uniqueRecordIds member row.2 same]
    · intro same
      rw [List.inj_on_of_nodup_map table.uniqueIdentities member row.2 same]
  rw [(activeRuns_nodup table).erase_eq_filter, activeRuns, activeRuns, replaces.rows,
    List.filter_map, List.filter_map, List.filter_filter, List.map_map]
  have selected : table.rows.filter (isActiveRun ∘ fun other =>
        if other.recordId = row.1.recordId then replacedRow values envelope other else other) =
      table.rows.filter fun other => ((· != row.1.key) ∘ P0RecordModel.key) other &&
          isActiveRun other := by
    refine List.filter_congr fun other member => ?_
    by_cases same : other.recordId = row.1.recordId
    · obtain rfl : other = row.1 := List.inj_on_of_nodup_map table.uniqueRecordIds member row.2 same
      simp [after]
    · have apart : other.key ≠ row.1.key := fun clash => same ((distinct other member).mpr clash)
      simp [same, apart]
  rw [selected]
  refine List.map_congr_left fun other member => ?_
  obtain ⟨stored, chosen⟩ := List.mem_filter.mp member
  simp only [Function.comp_apply, Bool.and_eq_true, bne_iff_ne] at chosen
  have apart : other.recordId ≠ row.1.recordId :=
    fun same => chosen.1 ((distinct other stored).mp same)
  rw [Function.comp_apply, if_neg apart]

end Replaces

/-- A replacement of records of another family keeps the active Runs. -/
private theorem activeRuns_replaceRecord {identity : Json} {expected next : SourceRecord}
    {children nextChildren : List SourceRecord} (other : code ≠ .agentRunRecord)
    (success : replaceRecord library code identity expected next children nextChildren table =
      .ok (some written)) :
    activeRuns written = activeRuns table := by
  unfold replaceRecord at success
  split at success
  · cases Except.ok.inj success
  · next row found =>
    rw [Except.bind_eq_ok_iff] at success
    obtain ⟨envelope, encoded, replaced⟩ := success
    obtain ⟨values, replaces⟩ := replaceRowEnvelope_eq_ok replaced
    have before : row.1.recordCode = code :=
      congrArg Prod.fst (hasIdentity_iff.mp (RecordTable.selectOne_eq_some found))
    exact replaces.activeRuns_eq (before ▸ other) ((encoded_data encoded).1 ▸ other)

/-- The key that a Run is stored under. -/
def runKey (runId : Uuid) : RecordKey := (.agentRunRecord, (uuidIdentity "run_id" runId).norm)

private theorem isActiveRun_iff {row : P0RecordModel} {record : AgentRunRecord}
    (isRun : row.recordCode = .agentRunRecord)
    (status : row.lifecycleStatus = some record.status.value) :
    isActiveRun row = record.status.isActive := by
  rw [isActiveRun, hasActiveStatus, isRun, status]
  cases record.status <;> decide

/-- Replacing the Run of a closure takes it off the active ones. -/
private theorem activeRuns_replaceRun (laws : library.TextLaws) (keeps : library.KeepsRuns)
    {current : RestartRecoveryClosure} {transition : MarkRunIncompleteForRecoveryCommand}
    (valid : ContractModel.validates transition = true)
    (success : replaceRun library current transition table = .ok (some written)) :
    runKey current.activeRunRecord.runId ∈ activeRuns table ∧
      activeRuns written = (activeRuns table).erase (runKey current.activeRunRecord.runId) := by
  unfold replaceRun replaceRecord at success
  split at success
  · cases Except.ok.inj success
  · next row found =>
    rw [Except.bind_eq_ok_iff] at success
    obtain ⟨envelope, encoded, replaced⟩ := success
    obtain ⟨values, replaces⟩ := replaceRowEnvelope_eq_ok replaced
    have key : row.1.key = runKey current.activeRunRecord.runId :=
      hasIdentity_iff.mp (RecordTable.selectOne_eq_some found)
    have statuses := MarkRunIncompleteForRecoveryCommand.statuses valid
    obtain ⟨decoded, decodes, same, -⟩ := replaces.valid
    have before : isActiveRun row.1 = true := by
      have status := lifecycleStatus_of_valid laws decodes
      rw [same] at status
      rw [isActiveRun_iff (congrArg Prod.fst key) status]
      exact statuses.1
    have after : isActiveRun (replacedRow values envelope row.1) = false := by
      obtain ⟨_, -, rfl⟩ := projectionValues_eq_ok replaces.projects
      rw [isActiveRun_iff (encoded_data encoded).1
        (lifecycleStatus_of_encoded laws keeps encoded replaces.projects)]
      exact statuses.2
    rw [← key]
    exact replaces.activeRuns_erase before after

/-- Replacements that keep the active Runs one by one keep them together. -/
private theorem activeRuns_replaceEach {steps : List (RecordTable → Codec (Option RecordTable))}
    (keep : ∀ step ∈ steps, ∀ table written, step table = .ok (some written) →
      activeRuns written = activeRuns table)
    (success : replaceEach steps table = .ok (some written)) :
    activeRuns written = activeRuns table := by
  induction steps generalizing table with
  | nil =>
    rw [← Option.some.inj (Except.ok.inj success)]
  | cons step rest ih =>
    obtain ⟨here, later⟩ := List.forall_mem_cons.mp keep
    rw [replaceEach, Except.bind_eq_ok_iff] at success
    obtain ⟨_ | middle, first, success⟩ := success
    · cases Except.ok.inj success
    · exact (ih later success).trans (here table middle first)

private theorem activeRuns_replaceTask {current : RestartRecoveryClosure}
    {transition : ApplyTaskTransitionCommand}
    (success : replaceTask library current transition table = .ok (some written)) :
    activeRuns written = activeRuns table := by
  simp only [replaceTask, Except.bind_eq_ok_iff] at success
  obtain ⟨aggregate, -, success⟩ := success
  split at success
  · cases Except.ok.inj success
  · refine activeRuns_replaceEach (fun step member table written success => ?_) success
    simp only [List.mem_cons, List.not_mem_nil, or_false] at member
    rcases member with rfl | rfl
    · exact activeRuns_replaceRecord (by decide) success
    · exact activeRuns_replaceRecord (by decide) success

/-- Of the replacements of a recovery only that of the Run changes the active ones. -/
private theorem activeRuns_replacements (laws : library.TextLaws) (keeps : library.KeepsRuns)
    {current : RestartRecoveryClosure} {command : ApplyRestartRecoveryCommand}
    (valid : ContractModel.validates command.runTransition = true)
    (success : replaceEach (replacements library current command) table = .ok (some written)) :
    runKey current.activeRunRecord.runId ∈ activeRuns table ∧
      activeRuns written = (activeRuns table).erase (runKey current.activeRunRecord.runId) := by
  rw [replacements, List.cons_append, List.cons_append, replaceEach, Except.bind_eq_ok_iff]
    at success
  obtain ⟨_ | middle, first, success⟩ := success
  · cases Except.ok.inj success
  · obtain ⟨member, erased⟩ := activeRuns_replaceRun laws keeps valid first
    refine ⟨member, (activeRuns_replaceEach (fun step listed table written success => ?_)
      success).trans erased⟩
    simp only [List.mem_append, List.mem_map] at listed
    rcases listed with (⟨transition, -, rfl⟩ | ⟨transition, -, rfl⟩) | ⟨link, -, rfl⟩
    · obtain ⟨aggregate, -, replaced⟩ := Except.bind_eq_ok_iff.mp success
      exact activeRuns_replaceRecord (by decide) replaced
    · exact activeRuns_replaceTask success
    · obtain ⟨expected, -, replaced⟩ := Except.bind_eq_ok_iff.mp success
      exact activeRuns_replaceRecord (by decide) replaced

private theorem activeRuns_appendTraceEvent {stamps : ℕ → RowStamp} {record : TraceEvent}
    {done : Unit} (success : appendTraceEvent library stamps table record = .ok (written, done)) :
    activeRuns written = activeRuns table := by
  simp only [appendTraceEvent, Except.bind_eq_ok_iff, Prod.exists, Except.pure_eq_ok_iff,
    Prod.mk.injEq] at success
  obtain ⟨envelope, encoded, written, inserted, persisted, rfl, -⟩ := success
  obtain ⟨entries, entered, linked, added, spec, -⟩ := persistEnvelopes_eq_ok persisted
  obtain ⟨appended, rows, given⟩ := spec.appends
  have others : ∀ row ∈ appended, isActiveRun row = false := by
    intro row member
    obtain ⟨entry, chosen, key, -⟩ := Keyed.exists_of_forall₂_right given member
    have listed :=
      List.mem_map_of_mem (f := fun entry => (entry.envelope, entry.index))
        (List.mem_filter.mp chosen).1
    rw [spec.first.given] at listed
    obtain rfl := List.mem_singleton.mp (List.mem_of_getElem? (mem_orderedEnvelopes.mp listed))
    refine isActiveRun_eq_false fun isRun => ?_
    have code := congrArg Prod.fst key
    rw [show row.key.1 = row.recordCode from rfl, isRun, recordKey, (encoded_data encoded).1]
      at code
    cases code
  have noRun : appended.filter isActiveRun = [] := List.filter_eq_nil_iff.mpr fun row member => by
    simp [others row member]
  rw [activeRuns, rows, List.filter_append, noRun, List.append_nil, activeRuns]

private theorem activeRuns_persistRecoveryTrace {stamps : ℕ → RowStamp} {events : List TraceEvent}
    (success : persistRecoveryTrace library stamps table events = .ok written) :
    activeRuns written = activeRuns table := by
  unfold persistRecoveryTrace at success
  generalize events.zipIdx = items at success
  induction items generalizing table with
  | nil => rw [Except.ok.inj success]
  | cons item rest ih =>
    rw [List.foldlM_cons, Except.bind_eq_ok_iff] at success
    obtain ⟨middle, first, later⟩ := success
    simp only [Except.bind_eq_ok_iff, Prod.exists, Except.pure_eq_ok_iff] at first
    obtain ⟨_, _, appended, rfl⟩ := first
    exact (ih later).trans (activeRuns_appendTraceEvent appended)

/-- A claim has committed a recovery, which took one Run off the active ones. -/
structure RemovesRun (before after : RecordTable) (runId : Uuid) : Prop where
  present : runKey runId ∈ activeRuns before
  removed : activeRuns after = (activeRuns before).erase (runKey runId)

theorem RemovesRun.length {before after : RecordTable} {runId : Uuid}
    (removes : RemovesRun before after runId) :
    (activeRuns after).length + 1 = (activeRuns before).length := by
  rw [removes.removed]
  exact List.length_erase_add_one removes.present

private theorem applyRecovery_removesRun (laws : library.TextLaws) (keeps : library.KeepsRuns)
    {stamps : ℕ → RowStamp} {command : ApplyRestartRecoveryCommand}
    (valid : ContractModel.validates command.runTransition = true)
    (success : applyRecoveryInTransaction library stamps table command = .ok (written, .applied)) :
    RemovesRun table written command.expectedClosure.activeRunRecord.runId := by
  simp only [applyRecoveryInTransaction, Except.bind_eq_ok_iff] at success
  obtain ⟨_ | current, -, success⟩ := success
  · cases Except.ok.inj success
  · dsimp only at success
    split at success
    · cases Except.ok.inj success
    · next same =>
      rw [ne_eq, Decidable.not_not] at same
      split at success
      · cases Except.ok.inj success
      · rw [Except.bind_eq_ok_iff] at success
        obtain ⟨_ | replaced, replaces, success⟩ := success
        · cases Except.ok.inj success
        · simp only [Except.bind_eq_ok_iff, Except.pure_eq_ok_iff, Prod.mk.injEq, and_true]
            at success
          obtain ⟨final, traced, rfl⟩ := success
          obtain ⟨member, erased⟩ := activeRuns_replacements laws keeps valid replaces
          rw [same] at member erased
          exact ⟨member, (activeRuns_persistRecoveryTrace traced).trans erased⟩

variable {fault : Option ClaimFault} {stamps : ℕ → RowStamp} {command : ApplyRestartRecoveryCommand}

/-- A claim that reports APPLIED has committed. -/
theorem claim_removesRun (laws : library.TextLaws) (keeps : library.KeepsRuns)
    (valid : ContractModel.validates command.runTransition = true)
    (claims : claimAndApplyRestartRecovery library fault stamps table command =
      (written, .ok .applied)) :
    RemovesRun table written command.expectedClosure.activeRunRecord.runId := by
  unfold claimAndApplyRestartRecovery at claims
  split at claims
  case h_4 applies =>
    rw [← (Prod.mk.inj claims).1]
    exact applyRecovery_removesRun laws keeps valid applies
  case h_5 result differs applies =>
    obtain ⟨-, answer⟩ := Prod.mk.inj claims
    obtain rfl := Except.ok.inj answer
    exact absurd rfl differs
  all_goals cases (Prod.mk.inj claims).2

end MiniAgent.Infrastructure
