import MiniAgent.Infrastructure.InsertProgress

/-! # The ports that only insert

Each of these commands encodes one envelope and hands it to the writer, some after a look at the
rows that it depends on. So each of them stores its record once, finds it when it is called again,
and changes nothing where the identity has other content. A result of an evaluation is no exception:
a second result of its identity is reported as existing only when it is the same, and is refused
otherwise.
-/

namespace MiniAgent.Infrastructure

open MiniAgent.Core MiniAgent.Application

variable {library : ModelLibrary} {table written grown : RecordTable} {stamps : ℕ → RowStamp}
  {envelope : P0PersistenceEnvelope} {inserted : List Bool}

private theorem RecordTable.ext_rows {left right : RecordTable} (same : left.rows = right.rows) :
    left = right := by
  cases left
  cases right
  cases same
  rfl

/-- A row that a table has gained over another one has a key that is new. -/
private theorem fresh_of_appended {extra : List P0RecordModel}
    (rows : written.rows = table.rows ++ extra) {row : P0RecordModel} (member : row ∈ extra) :
    row.key ∉ table.keys := by
  have distinct := written.uniqueIdentities
  rw [rows, List.map_append] at distinct
  exact fun known => (List.nodup_append.mp distinct).2.2 _ known _ (List.mem_map_of_mem member) rfl

private theorem persist_single (laws : library.TextLaws)
    (success : persistEnvelopes library stamps table [envelope] = .ok (written, inserted)) :
    (inserted = [true] ∧ recordKey envelope ∉ table.keys ∧
        ∃ row, written.rows = table.rows ++ [row] ∧ Holds library envelope row) ∨
      (inserted = [false] ∧ written = table ∧ ∃ row ∈ table.rows, Holds library envelope row) := by
  have spec := insertsOnly_of_persistEnvelopes laws success
  obtain ⟨extra, rows⟩ := spec.keeps
  obtain ⟨answer, rfl⟩ := List.length_eq_one_iff.mp spec.answers
  obtain ⟨row, stored, holds, only⟩ := spec.stores envelope (List.mem_singleton_self _)
  -- every row that was added holds the envelope, so that there is at most one
  have added : ∀ other ∈ extra, other = row := by
    intro other member
    have present : other ∈ written.rows := rows ▸ List.mem_append_right _ member
    obtain ⟨source, given, held⟩ := spec.adds other present (fresh_of_appended rows.symm member)
    rw [List.mem_singleton.mp given] at held
    exact only other present held.1
  by_cases known : recordKey envelope ∈ table.keys
  · right
    have answered := spec.existing 0 envelope rfl known
    have none_ : extra = [] := by
      rw [List.eq_nil_iff_forall_not_mem]
      intro other member
      refine fresh_of_appended rows.symm member ?_
      rw [added other member, holds.1]
      exact known
    subst none_
    rw [List.append_nil] at rows
    refine ⟨by simpa using answered, RecordTable.ext_rows rows.symm, row, ?_, holds⟩
    rw [rows]
    exact stored
  · left
    obtain ⟨index, ⟨answered, -⟩, -⟩ := spec.isNew envelope (List.mem_singleton_self _) known
    have appended : row ∈ extra := by
      rw [← rows] at stored
      rcases List.mem_append.mp stored with old | appended
      · exact absurd (holds.1 ▸ List.mem_map_of_mem old) known
      · exact appended
    have one : extra = [row] := by
      have distinct : (extra.map P0RecordModel.key).Nodup := by
        have all := written.uniqueIdentities
        rw [← rows, List.map_append] at all
        exact (List.nodup_append.mp all).2.1
      obtain _ | ⟨first, _ | ⟨second, rest⟩⟩ := extra
      · cases appended
      · rw [added first (List.mem_singleton_self _)]
      · obtain rfl := added first List.mem_cons_self
        obtain rfl := added second (List.mem_cons_of_mem _ List.mem_cons_self)
        simp at distinct
    have isNew : true = answer := List.mem_singleton.mp (List.mem_of_getElem? answered)
    exact ⟨by rw [← isNew], known, row, one ▸ rows.symm, holds⟩

variable (library) in
/-- What a command does that inserts one envelope: it inserts it, it finds it, or it declines to.
Where the command may write, it does insert an envelope that can be taken in, and finds one that is
there. -/
structure InsertsOnce {α : Type} (may : RecordTable → Prop)
    (command : (ℕ → RowStamp) → RecordTable → Codec (RecordTable × α))
    (envelope : P0PersistenceEnvelope) (isNew known : α) (declines : α → Prop) : Prop where
  stores : ∀ stamps table owner, may table → Insertable library table (stamps 0) envelope owner →
    ∃ written, command stamps table = .ok (written, isNew)
  finds : ∀ stamps table, may table → Known library table envelope →
    command stamps table = .ok (table, known)
  writes : ∀ stamps table written answer, command stamps table = .ok (written, answer) →
    (answer = isNew ∧ recordKey envelope ∉ table.keys ∧
        ∃ row, written.rows = table.rows ++ [row] ∧ Holds library envelope row) ∨
      (answer = known ∧ written = table ∧ ∃ row ∈ table.rows, Holds library envelope row) ∨
      (declines answer ∧ written = table)
  /-- The same command again finds what the first one has stored, also when other rows have
  joined. -/
  replays : ∀ stamps later table written grown answer,
    command stamps table = .ok (written, answer) →
    ¬declines answer → written.rows ⊆ grown.rows → command later grown = .ok (grown, known)
  /-- Where the identity has other content, nothing changes. -/
  conflicts : ∀ stamps table row, row ∈ table.rows → row.key = recordKey envelope →
    ¬Holds library envelope row → table.afterTransaction (command stamps table) = table ∧
      ∀ written answer, command stamps table = .ok (written, answer) → declines answer

/-- A command that hands its envelope to the writer when it may, and otherwise declines or fails. -/
private theorem insertsOnce_of_guard {α : Type}
    {command : (ℕ → RowStamp) → RecordTable → Codec (RecordTable × α)} {isNew known : α}
    {declines : α → Prop} (guard : RecordTable → Prop) (laws : library.TextLaws)
    (grows : ∀ table grown, table.rows ⊆ grown.rows → guard table → guard grown)
    (accepts : ∀ stamps table, guard table → command stamps table =
      (do let result ← persistEnvelopes library stamps table [envelope]
          return (result.1, if result.2 = [true] then isNew else known)))
    (refuses : ∀ stamps table written answer, ¬guard table →
      command stamps table = .ok (written, answer) →
      declines answer ∧ written = table) :
      InsertsOnce library guard command envelope isNew known declines := by
  have writes : ∀ stamps table written answer, command stamps table = .ok (written, answer) →
      (answer = isNew ∧ recordKey envelope ∉ table.keys ∧
          ∃ row, written.rows = table.rows ++ [row] ∧ Holds library envelope row) ∨
        (answer = known ∧ written = table ∧ ∃ row ∈ table.rows, Holds library envelope row) ∨
        (declines answer ∧ written = table) := by
    intro stamps table written answer success
    by_cases may : guard table
    · rw [accepts stamps table may] at success
      obtain ⟨⟨next, inserted⟩, persisted, same⟩ := Except.bind_eq_ok_iff.mp success
      obtain ⟨rfl, rfl⟩ := Prod.mk.inj (Except.pure_eq_ok_iff.mp same)
      obtain ⟨rfl, fresh, stored⟩ | ⟨rfl, unchanged, stored⟩ := persist_single laws persisted
      · exact .inl ⟨rfl, fresh, stored⟩
      · exact .inr (.inl ⟨rfl, unchanged, stored⟩)
    · exact .inr (.inr (refuses stamps table written answer may success))
  refine ⟨?_, ?_, writes, ?_, ?_⟩
  · intro stamps table owner allowed insertable
    obtain ⟨written, inserted⟩ := persistEnvelopes_of_insertable laws insertable
    refine ⟨written, ?_⟩
    rw [accepts stamps table allowed, inserted]
    rfl
  · intro stamps table allowed known
    rw [accepts stamps table allowed,
      persistEnvelopes_of_known (List.forall_mem_singleton.mpr known)]
    rfl
  · intro stamps later table written grown answer success goesOn within
    have may : guard table := by
      by_contra other
      exact goesOn (refuses stamps table written answer other success).1
    rw [accepts stamps table may] at success
    obtain ⟨⟨next, inserted⟩, persisted, same⟩ := Except.bind_eq_ok_iff.mp success
    obtain ⟨rfl, rfl⟩ := Prod.mk.inj (Except.pure_eq_ok_iff.mp same)
    have kept := (insertsOnly_of_persistEnvelopes laws persisted).keeps.subset
    have still : guard grown := grows table grown (fun row member => within (kept member)) may
    rw [accepts later grown still, persistEnvelopes_again laws persisted within]
    rfl
  · intro stamps table row stored same differs
    have declined : ∀ written answer, command stamps table = .ok (written, answer) →
        declines answer ∧ written = table := by
      intro written answer success
      obtain ⟨-, fresh, -⟩ | ⟨-, -, other, present, holds⟩ | declined :=
        writes stamps table written answer success
      · exact absurd (same ▸ List.mem_map_of_mem stored) fresh
      · have one : row = other :=
          List.inj_on_of_nodup_map table.uniqueIdentities stored present (same.trans holds.1.symm)
        exact absurd (one ▸ holds) differs
      · exact declined
    refine ⟨?_, fun written answer success => (declined written answer success).1⟩
    cases success : command stamps table with
    | error failure => rfl
    | ok result => exact (declined result.1 result.2 success).2

/-- A command that only encodes and writes. -/
private theorem insertsOnce_always {α : Type}
    {command : (ℕ → RowStamp) → RecordTable → Codec (RecordTable × α)} {isNew known : α}
    {declines : α → Prop} (laws : library.TextLaws)
    (writes : ∀ stamps table, command stamps table = (do
      let result ← persistEnvelopes library stamps table [envelope]
      return (result.1, if result.2 = [true] then isNew else known))) :
    InsertsOnce library (fun _ => True) command envelope isNew known declines :=
  insertsOnce_of_guard (fun _ => True) laws (fun _ _ _ _ => trivial)
    (fun stamps table _ => writes stamps table)
    fun _ _ _ _ other => absurd trivial other

private theorem insertsOnce_insertRun (laws : library.TextLaws) {command : CreateRunCommand}
    (encoded : encodePersistenceRecord library .agentRunRecord
      (.agentRunRecord command.createdRecord) = .ok envelope) :
    InsertsOnce library (fun _ => True)
    (fun stamps table => insertRun library stamps table command) envelope .inserted .alreadyExists
      fun _ => False := by
  refine insertsOnce_always laws fun stamps table => ?_
  rw [insertRun, encoded]
  rfl

private theorem insertsOnce_appendTraceEvent (laws : library.TextLaws) {record : TraceEvent}
    (encoded : encodePersistenceRecord library .traceEventRecord (.traceEvent record) =
      .ok envelope) :
    InsertsOnce library (fun _ => True)
    (fun stamps table => appendTraceEvent library stamps table record) envelope () ()
      fun _ => False := by
  refine insertsOnce_always laws fun stamps table => ?_
  rw [appendTraceEvent, encoded]
  rfl

private theorem insertsOnce_appendEvalResult (laws : library.TextLaws) {record : EvalResultRecord}
    (encoded : encodePersistenceRecord library .evalResultRecord (.evalResultRecord record) =
      .ok envelope) :
    InsertsOnce library (fun _ => True)
    (fun stamps table => appendEvalResult library stamps table record) envelope .inserted
      .alreadyExists fun _ => False := by
  refine insertsOnce_always laws fun stamps table => ?_
  rw [appendEvalResult, encoded]
  rfl

variable (library) in
/-- The Run of a ToolCall is stored, valid and RUNNING. -/
def RunIsRunning (record : ToolCallRecord) (table : RecordTable) : Prop :=
  ∃ runRow, rowForIdentity table .agentRunRecord (uuidIdentity "run_id" record.runId) =
    some runRow ∧ ∃ decoded, validatePhysicalProjection library table none runRow = .ok decoded ∧
      ∃ run, decoded.sourceRecord = .agentRunRecord run ∧ run.runId = record.runId ∧
      run.status = .running

private theorem insertsOnce_insertToolCall (laws : library.TextLaws)
    {command : CreateToolCallCommand} (encoded : encodePersistenceRecord library .toolCallRecord
      (.toolCallRecord command.createdRecord) = .ok envelope) :
    InsertsOnce library (RunIsRunning library command.createdRecord)
      (fun stamps table => insertToolCall library stamps table command) envelope .inserted
      .alreadyExists
      fun _ => False := by
  refine insertsOnce_of_guard (RunIsRunning library command.createdRecord) laws ?_ ?_ ?_
  · rintro table grown within ⟨runRow, found, decoded, valid, running⟩
    exact ⟨_, rowForIdentity_lift within found, decoded,
      validatePhysicalProjection_lift within valid, running⟩
  · rintro stamps table ⟨runRow, found, decoded, valid, run, isRun, same, running⟩
    simp only [insertToolCall, encoded, Except.bind_ok, found, orIntegrity, valid, isRun, same,
      running, beq_self_eq_true, Bool.and_self]
    rfl
  · intro stamps table written answer other success
    simp only [insertToolCall, encoded, Except.bind_ok, Except.bind_eq_ok_iff, orIntegrity_eq_ok,
      requireIntegrity_eq_ok_iff] at success
    obtain ⟨runRow, found, decoded, valid, -, running, -⟩ := success
    refine absurd ⟨runRow, found, decoded, valid, ?_⟩ other
    split at running
    · rename_i run isRun
      simp only [Bool.and_eq_true, beq_iff_eq] at running
      exact ⟨run, isRun, running⟩
    · cases running

variable (library) in
/-- The source of an observation is stored in the owner's scope, valid and as expected. -/
def SourceIsExpected (command : SaveObservationCommand) (table : RecordTable) : Prop :=
  ∃ sourceRow, scopedRowForIdentity table command.ownerScope.customerId.toList .toolCallRecord
      (uuidIdentity "tool_call_id" command.sourceToolCallRecord.toolCallId) = some sourceRow ∧
    ∃ decoded, validatePhysicalProjection library table
      (some command.ownerScope.customerId.toList) sourceRow = .ok decoded ∧
      decoded.sourceRecord = .toolCallRecord command.sourceToolCallRecord

private theorem insertsOnce_saveObservation (laws : library.TextLaws)
    {command : SaveObservationCommand}
    (encoded : observationEnvelope library command = .ok envelope) :
    InsertsOnce library (SourceIsExpected library command)
      (fun stamps table => saveObservation library stamps table command) envelope .inserted
      .alreadyApplied
      (· = .sourceProjectionConflict) := by
  refine insertsOnce_of_guard (SourceIsExpected library command) laws ?_ ?_ ?_
  · rintro table grown within ⟨sourceRow, found, decoded, valid, expected⟩
    exact ⟨_, scopedRowForIdentity_lift within found, decoded,
      validatePhysicalProjection_lift within valid, expected⟩
  · rintro stamps table ⟨sourceRow, found, decoded, valid, expected⟩
    simp only [saveObservation, encoded, Except.bind_ok, found, valid, expected, bne_self_eq_false,
      Bool.false_eq_true, if_false]
  · intro stamps table written answer other success
    simp only [saveObservation, encoded, Except.bind_ok] at success
    split at success
    · simp only [Except.pure_eq_ok_iff, Prod.mk.injEq] at success
      exact ⟨success.2.symm, success.1.symm⟩
    · rename_i sourceRow found
      obtain ⟨decoded, valid, success⟩ := Except.bind_eq_ok_iff.mp success
      split_ifs at success with differs
      · simp only [Except.pure_eq_ok_iff, Prod.mk.injEq] at success
        exact ⟨success.2.symm, success.1.symm⟩
      · rw [Bool.not_eq_true, bne_eq_false_iff_eq] at differs
        exact absurd ⟨sourceRow, found, decoded, valid, differs⟩ other

/-- What the encoder makes of a record that it can read back has columns. -/
private theorem projects_of_encoded (laws : library.TextLaws) {code : P0RecordCode}
    {record : SourceRecord} (undoes : library.RoundTrips record)
    (generic : code ≠ .requestUnderstandingRecord)
    (encoded : encodePersistenceRecord library code record = .ok envelope) :
    envelope.recordCode = code ∧
      ∃ values, projectionValues library envelope envelope.directOwnerCustomerId = .ok values := by
  have all : ∀ model ∈ [record], library.RoundTrips model := by
    intro model member
    rw [List.mem_singleton.mp member]
    exact undoes
  obtain ⟨facts, loads, again⟩ := buildEnvelope_again laws all encoded
  have form : EnvelopeInput.mapping envelope.modelDump ∈ formsOf library envelope := by
    simp [formsOf]
  obtain ⟨raw, given, spells⟩ := jsonInput_spells laws facts.native form
  have sameCode : envelope.recordCode = code :=
    facts.codes.1.trans (recordCode_persistenceRegistry code)
  have decodes := decode_of_again laws undoes generic spells facts loads again
  refine ⟨sameCode, projectionOf envelope record envelope.directOwnerCustomerId, ?_⟩
  simp only [projectionValues, decodePersistenceRecord, sameCode, generic, if_false, given,
    Except.bind_ok, decodes]
  rfl

/-- A result has no owner and refers to nothing. -/
private theorem encoded_result (laws : library.TextLaws) {record : EvalResultRecord}
    (encoded : encodePersistenceRecord library .evalResultRecord (.evalResultRecord record) =
      .ok envelope) :
    envelope.directOwnerCustomerId = none ∧ envelope.recordReferences = [] := by
  have registered : nonRuPersistenceRegistry .evalResultRecord =
    some (persistenceRegistry .evalResultRecord) := rfl
  simp only [encodePersistenceRecord, buildEnvelope, registered, Except.bind_eq_ok_iff, Prod.exists]
    at encoded
  obtain ⟨validated, -, identity, -, owner, sources, projected, external, accepted, children,
    childReferences, payloads, references, normalized, assembled⟩ := encoded
  have noOwner : owner = none ∧ sources = [] := by
    simp only [topLevelProjection, Except.bind_eq_ok_iff, Except.mapM_eq_ok_iff,
      Except.pure_eq_ok_iff, Prod.mk.injEq] at projected
    obtain ⟨found, each, normalized, listed, rfl, rfl⟩ := projected
    -- the one rule of the family is a correlation, which projects nothing
    obtain _ | ⟨first, _ | _⟩ := each
    obtain ⟨values, -, same⟩ := Except.bind_eq_ok_iff.mp first
    obtain rfl := Except.ok.inj same
    exact ⟨rfl, (Except.ok.inj listed).symm⟩
  have noExternal : external = [] := by
    have noRules : externalRules (persistenceRegistry .evalResultRecord) = [] := by decide
    have accepts := (validateExternalReferences_spec laws accepted).1
    rwa [AcceptsExternal, noRules, List.forall₂_nil_left_iff] at accepts
  have noChildren : childReferences = [] := by
    simp only [childPayloads, arrangedPayloads, List.mapM_nil, Except.bind_eq_ok_iff,
      Except.pure_eq_ok_iff] at payloads
    obtain ⟨_, rfl, _, -, _, -, _, mapped, _, listed, same⟩ := payloads
    obtain rfl : [] = _ := Except.ok.inj mapped
    rw [← (Prod.mk.inj same).2]
    exact (Except.ok.inj listed).symm
  obtain ⟨rfl, rfl⟩ := noOwner
  subst noExternal noChildren
  obtain rfl := Except.ok.inj normalized
  obtain ⟨scalars, -, same⟩ := Except.bind_eq_ok_iff.mp assembled
  rw [← Except.pure_eq_ok_iff.mp same]
  exact ⟨rfl, rfl⟩

/-- A result whose identity is new is stored, in one row that is appended. -/
private theorem appendEvalResult_of_absent (laws : library.TextLaws) {record : EvalResultRecord}
    (undoes : library.RoundTrips (.evalResultRecord record))
    (encoded : encodePersistenceRecord library .evalResultRecord (.evalResultRecord record) =
      .ok envelope)
    (absent : recordKey envelope ∉ table.keys)
    (freshId : (stamps 0).recordId ∉ table.rows.map (·.recordId)) :
    ∃ written, appendEvalResult library stamps table record = .ok (written, .inserted) := by
  have generic : P0RecordCode.evalResultRecord ≠ .requestUnderstandingRecord := by decide
  obtain ⟨code, values, projects⟩ := projects_of_encoded laws undoes generic encoded
  obtain ⟨noOwner, leaf⟩ := encoded_result laws encoded
  rw [noOwner] at projects
  have insertable : Insertable library table (stamps 0) envelope none := by
    refine ⟨⟨values, projects⟩, absent, freshId, ?_, ?_, fun name => ?_, ?_⟩
    · rw [referenceModels, leaf]
      rfl
    · simp [leaf]
    · simp [noOwner, leaf]
    · rw [code]
      rfl
  exact (insertsOnce_appendEvalResult laws encoded).stores stamps table none trivial insertable

section Results

variable (library) (stamps) (table) (record : EvalResultRecord)

/-- A result whose identity is stored is reported as existing, and nothing changes. -/
def ReportsDuplicate : Prop := ∀ envelope,
  encodePersistenceRecord library .evalResultRecord (.evalResultRecord record) = .ok envelope →
    recordKey envelope ∈ table.keys →
    appendEvalResult library stamps table record = .ok (table, .alreadyExists)

/-- Whatever row has the identity of a result holds this very result, and passes the checks of the
store. -/
def IsStoredAlike : Prop := ∀ envelope,
  encodePersistenceRecord library .evalResultRecord (.evalResultRecord record) = .ok envelope →
    ∀ row : table.Row, row.1.key = recordKey envelope →
      Holds library envelope row.1 ∧ ∃ decoded,
        validatePhysicalProjection library table none row = .ok decoded

end Results

private theorem reportsDuplicate_iff (laws : library.TextLaws) {record : EvalResultRecord}
    (undoes : library.RoundTrips (.evalResultRecord record)) :
    ReportsDuplicate library table stamps record ↔ IsStoredAlike library table record := by
  constructor
  · intro reports envelope encoded row key
    have success := reports envelope encoded (key ▸ row_covered table row)
    simp only [appendEvalResult, encoded, Except.bind_ok, Except.bind_eq_ok_iff] at success
    obtain ⟨⟨written, inserted⟩, persisted, same⟩ := success
    simp only [Except.pure_eq_ok_iff, Prod.mk.injEq] at same
    obtain ⟨rfl, -⟩ := same
    obtain ⟨-, other, settled⟩ :=
      known_of_persistEnvelopes laws persisted envelope (List.mem_singleton_self _)
    obtain rfl : other = row := RecordTable.key_injective (settled.holds.1.trans key.symm)
    exact ⟨settled.holds, settled.valid⟩
  · intro alike envelope encoded known
    obtain ⟨row, stored, key⟩ := List.mem_map.mp known
    obtain ⟨holds, valid⟩ := alike envelope encoded ⟨row, stored⟩ key
    have generic : P0RecordCode.evalResultRecord ≠ .requestUnderstandingRecord := by decide
    obtain ⟨code, projects⟩ := projects_of_encoded laws undoes generic encoded
    have isPublic : isPrivate envelope.recordCode = false := by rw [code, isPrivate]
    have settled : Settled library table envelope ⟨row, stored⟩ :=
      ⟨holds, valid, by simp [isPublic]⟩
    have again : ∀ other ∈ [envelope], Known library table other := by
      intro other member
      rw [List.mem_singleton.mp member]
      exact ⟨projects, _, settled⟩
    rw [appendEvalResult, encoded, Except.bind_ok, persistEnvelopes_of_known again]
    rfl

variable (library) in
/-- Inserting never overwrites, what can be taken in is stored, and repeating an insert changes
nothing: of the writer, on any list of envelopes, and of the commands that insert one. -/
structure InsertOnlyWrites : Prop where
  stores : ∀ stamps table envelope owner, Insertable library table (stamps 0) envelope owner →
    ∃ written, persistEnvelopes library stamps table [envelope] = .ok (written, [true])
  finds : ∀ stamps table envelopes, (∀ envelope ∈ envelopes, Known library table envelope) →
    persistEnvelopes library stamps table envelopes =
      .ok (table, List.replicate envelopes.length false)
  inserts : ∀ stamps table envelopes written inserted,
    persistEnvelopes library stamps table envelopes = .ok (written, inserted) →
      InsertsOnly library table written envelopes inserted
  replays : ∀ stamps later table envelopes written inserted grown,
    persistEnvelopes library stamps table envelopes = .ok (written, inserted) →
      written.rows ⊆ grown.rows →
      persistEnvelopes library later grown envelopes =
        .ok (grown, List.replicate envelopes.length false)
  conflicts : ∀ stamps table envelopes envelope row, envelope ∈ envelopes → row ∈ table.rows →
    row.key = recordKey envelope → ¬Holds library envelope row →
      (∃ failure, persistEnvelopes library stamps table envelopes = .error failure) ∧
        table.afterTransaction (persistEnvelopes library stamps table envelopes) = table
  runs : ∀ (command : CreateRunCommand) envelope,
    encodePersistenceRecord library .agentRunRecord (.agentRunRecord command.createdRecord) =
      .ok envelope →
      InsertsOnce library (fun _ => True)
        (fun stamps table => insertRun library stamps table command) envelope .inserted
        .alreadyExists fun _ => False
  toolCalls : ∀ (command : CreateToolCallCommand) envelope,
    encodePersistenceRecord library .toolCallRecord (.toolCallRecord command.createdRecord) =
      .ok envelope → InsertsOnce library (RunIsRunning library command.createdRecord)
        (fun stamps table => insertToolCall library stamps table command) envelope .inserted
          .alreadyExists
        fun _ => False
  observations : ∀ (command : SaveObservationCommand) envelope,
    observationEnvelope library command = .ok envelope →
    InsertsOnce library (SourceIsExpected library command)
      (fun stamps table => saveObservation library stamps table command) envelope .inserted
        .alreadyApplied
      (· = .sourceProjectionConflict)
  traceEvents : ∀ (record : TraceEvent) envelope,
    encodePersistenceRecord library .traceEventRecord (.traceEvent record) = .ok envelope →
      InsertsOnce library (fun _ => True)
        (fun stamps table => appendTraceEvent library stamps table record) envelope () ()
        fun _ => False
  evalResults : ∀ (record : EvalResultRecord) envelope,
    encodePersistenceRecord library .evalResultRecord (.evalResultRecord record) = .ok envelope →
      InsertsOnce library (fun _ => True)
        (fun stamps table => appendEvalResult library stamps table record) envelope .inserted
        .alreadyExists fun _ => False
  newResults : ∀ stamps table (record : EvalResultRecord) envelope,
    library.RoundTrips (.evalResultRecord record) →
    encodePersistenceRecord library .evalResultRecord (.evalResultRecord record) = .ok envelope →
      recordKey envelope ∉ table.keys → (stamps 0).recordId ∉ table.rows.map (·.recordId) →
        ∃ written, appendEvalResult library stamps table record = .ok (written, .inserted)

private theorem insertOnlyWrites (laws : library.TextLaws) : InsertOnlyWrites library where
  stores _ _ _ _ insertable := persistEnvelopes_of_insertable laws insertable
  finds _ _ _ known := persistEnvelopes_of_known known
  inserts _ _ _ _ _ success := insertsOnly_of_persistEnvelopes laws success
  replays _ _ _ _ _ _ _ success within := persistEnvelopes_again laws success within
  conflicts stamps table envelopes envelope row member stored same differs := by
    cases success : persistEnvelopes library stamps table envelopes with
    | error failure => exact ⟨⟨failure, rfl⟩, rfl⟩
    | ok result => exact absurd success (persistEnvelopes_conflict laws member stored same differs)
  runs _ _ encoded := insertsOnce_insertRun laws encoded
  toolCalls _ _ encoded := insertsOnce_insertToolCall laws encoded
  observations _ _ encoded := insertsOnce_saveObservation laws encoded
  traceEvents _ _ encoded := insertsOnce_appendTraceEvent laws encoded
  evalResults _ _ encoded := insertsOnce_appendEvalResult laws encoded
  newResults _ _ _ _ undoes encoded absent freshId :=
    appendEvalResult_of_absent laws undoes encoded absent freshId

/-- A case that was not run, as it is reported at some second of one day. -/
def sampleResult (second : ℤ) : EvalResultRecord where
  schemaVersion := "eval_result_record.p0.v1"
  evalRunId := 1
  caseId := "CASE-1"
  lane := "qwen_baseline"
  attempt := 1
  status := .notRun
  versionManifest := { datasetVersion := "dataset-1", candidateVersion := "candidate-1" }
  completedAt := .utc (1735689600000000 + second * 1000000)

def sampleResultDump (completedAt : String) : Fields :=
  [("schema_version", ownText "eval_result_record.p0.v1"),
    ("eval_run_id", ownText "00000000-0000-0000-0000-000000000001"), ("case_id", ownText "CASE-1"),
    ("lane", ownText "qwen_baseline"), ("attempt", .int 1), ("status", ownText "NOT_RUN"),
    ("grader_results", .array []),
    ("critical_failures", .array []), ("observed_outcome", .null), ("trace_ref", .null),
    ("version_manifest", .object
      [("dataset_version", ownText "dataset-1"), ("candidate_version", ownText "candidate-1"),
        ("baseline_version", .null), ("fixture_versions", .array []),
        ("model_config_version", .null),
        ("prompt_version", .null), ("tool_registry_version", .null), ("corpus_version", .null),
        ("runtime_version", .null)]),
    ("latency_summary", .null), ("usage_summary", .null), ("completed_at", ownText completedAt)]

/-- A library of two results that differ in the time at which they were completed. -/
def resultLibrary : ModelLibrary := tableLibrary
  [(.evalResultRecord (sampleResult 0), sampleResultDump "2025-01-01T00:00:00Z"),
    (.evalResultRecord (sampleResult 1), sampleResultDump "2025-01-01T00:00:01Z")]

def sampleStamps (index : ℕ) : RowStamp := ⟨index + 1, .utc 1735689600000000⟩

private theorem resultLibrary_textLaws : resultLibrary.TextLaws := tableLibrary_textLaws _

private theorem sampleResult_roundTrips :
    resultLibrary.RoundTrips (.evalResultRecord (sampleResult 0)) ∧
      resultLibrary.RoundTrips (.evalResultRecord (sampleResult 1)) :=
  ⟨⟨by decide, by decide⟩, by decide, by decide⟩

/-- The first result is stored in an empty table. -/
private theorem sampleResult_stored : ∃ envelope table,
    encodePersistenceRecord resultLibrary .evalResultRecord (.evalResultRecord (sampleResult 0)) =
    .ok envelope ∧
      appendEvalResult resultLibrary sampleStamps .empty (sampleResult 0) = .ok (table, .inserted) ∧
      ∃ row ∈ table.rows, Holds resultLibrary envelope row := by
  obtain ⟨envelope, encoded⟩ :=
    Except.exists_ok_of_isOk (show (encodePersistenceRecord resultLibrary
    .evalResultRecord (.evalResultRecord (sampleResult 0))).isOk = true by decide +kernel)
  obtain ⟨table, first⟩ : ∃ table,
      appendEvalResult resultLibrary sampleStamps .empty (sampleResult 0) =
          .ok (table, .inserted) :=
    appendEvalResult_of_absent resultLibrary_textLaws sampleResult_roundTrips.1 encoded
      List.not_mem_nil
      List.not_mem_nil
  refine ⟨envelope, table, encoded, first, ?_⟩
  have written :=
    (insertsOnce_appendEvalResult resultLibrary_textLaws encoded).writes sampleStamps .empty table
    .inserted first
  obtain ⟨-, -, row, rows, holds⟩ | ⟨unlike, -⟩ | ⟨declined, -⟩ := written
  · exact ⟨row, by simp [rows], holds⟩
  · cases unlike
  · exact absurd declined not_false

end MiniAgent.Infrastructure
