import MiniAgent.Application.CommandSteps
import MiniAgent.Infrastructure.StoreCommands
import MiniAgent.Infrastructure.ClosureCompleteness

/-! # What the write ports do

A port that says that it has applied its command has made the writes of the command, and a port that
says anything else has made none. The port that ends a Run has seen everything of the Run that is
active.
-/

namespace MiniAgent.Infrastructure

open MiniAgent.Core MiniAgent.Application KeyedStore

variable {library : ModelLibrary} {table written : RecordTable} {stamps : ℕ → RowStamp}

theorem key_of_rowForIdentity {code : P0RecordCode} {identity : Json} {row : table.Row}
    (found : rowForIdentity table code identity = some row) : row.1.key = (code, identity.norm) :=
  hasIdentity_iff.mp (RecordTable.selectOne_eq_some found)

/-- What is read again is the row as it has become. -/
private theorem key_of_refreshRow {writes : List (Write RecordKey Entry)} (row : table.Row)
    {again : written.Row} (effects : Effects library table written writes)
    (refreshed : refreshRow written row.1.recordId = .ok again) :
    again.1.key = row.1.key := by
  obtain ⟨after, present, sameId, sameKey, -⟩ := effects.keeps row.1 row.2
  have found : written.selectOne (·.recordId == row.1.recordId) = some again := by
    unfold refreshRow at refreshed
    split at refreshed
    · next other selected => rw [selected, Except.ok.inj refreshed]
    · cases refreshed
  have chosen := RecordTable.selectOne_eq_some found
  rw [beq_iff_eq] at chosen
  rw [← sameKey, List.inj_on_of_nodup_map written.uniqueRecordIds again.2 present
    (chosen.trans sameId.symm)]

theorem effects_ensuring (laws : StoreLaws library) (sound : Sound library table)
    {code : P0RecordCode} {record : SourceRecord} {externals : List P0RecordReference}
    {envelope : P0PersistenceEnvelope} {inserted : List Bool}
    (encoded : encodePersistenceRecord library code record externals = .ok envelope)
    (success : persistEnvelopes library stamps table [envelope] = .ok (written, inserted)) :
    Effects library table written [ensuring library code record] := by
  obtain ⟨rfl, encodes⟩ := encodes_of_encode laws encoded
  have effects := (effects_persistOne sound encodes success).1
  rwa [encodes.recordKey_eq] at effects

/-- A port that replaces one row. -/
theorem effects_replaceIfCurrent (laws : StoreLaws library) (sound : Sound library table)
    {code : P0RecordCode} {identity : Json} {expected next : SourceRecord}
    {children nextChildren : List SourceRecord} {result : ConditionalWriteResult}
    (sameKey : replacedKey next = some (code, identity.norm))
    (success : replaceIfCurrent library table code identity expected next children nextChildren =
      .ok (written, result)) :
    if result = .applied then
      Effects library table written
      [replacing (code, identity.norm) expected next children nextChildren]
    else written = table := by
  unfold replaceIfCurrent at success
  split at success
  · obtain ⟨rfl, rfl⟩ := Prod.mk.inj (Except.pure_eq_ok_iff.mp success)
    rfl
  · next row found =>
    have key := key_of_rowForIdentity found
    obtain ⟨envelope, encoded, success⟩ := Except.bind_eq_ok_iff.mp success
    obtain ⟨outcome, replaced, success⟩ := Except.bind_eq_ok_iff.mp success
    cases outcome with
    | none =>
      obtain ⟨rfl, rfl⟩ := Prod.mk.inj (Except.pure_eq_ok_iff.mp success)
      rfl
    | some after =>
      obtain ⟨rfl, rfl⟩ := Prod.mk.inj (Except.pure_eq_ok_iff.mp success)
      have effects := effects_replaceRowEnvelope laws sound encoded (key ▸ sameKey) replaced
      rwa [key] at effects

private theorem childrenAt_eq {held : Held} {key : RecordKey} {record : SourceRecord}
    {children : List SourceRecord} (found : held key = some ⟨record, children⟩) :
    childrenAt held key = children := by
  rw [childrenAt, found]
  rfl

/-- A valid row under a key holds what it decodes as. -/
theorem contents_of_valid {expectedOwner : Option Text} {row : table.Row}
    {decoded : DecodedP0PersistenceRecord}
    (valid : validatePhysicalProjection library table expectedOwner row = .ok decoded) :
    contents library table row.1.key = some (entryOf decoded) :=
  contents_eq_some.mpr ⟨row.1, row.2, rfl, readEntry_of_valid valid⟩

theorem effects_applyTaskTransition (laws : StoreLaws library) (sound : Sound library table)
    {command : ApplyTaskTransitionCommand} {result : ConditionalWriteResult}
    (steps : TaskStep command)
    (success : applyTaskTransitionIfCurrent library table command = .ok (written, result)) :
    if result = .applied then Effects library table written
      (transitionWrites (childrenAt (contents library table)
        (taskKey command.expectedTaskRecord.taskId)) command)
    else written = table := by
  unfold applyTaskTransitionIfCurrent at success
  split at success
  · next taskRow unitRow taskFound unitFound =>
    have taskAt := key_of_rowForIdentity taskFound
    have unitAt := key_of_rowForIdentity unitFound
    simp only [Except.bind_eq_ok_iff] at success
    obtain ⟨taskDecoded, taskValid, unitDecoded, -, success⟩ := success
    split_ifs at success with differs
    · obtain ⟨rfl, rfl⟩ := Prod.mk.inj (Except.pure_eq_ok_iff.mp success)
      rfl
    · simp only [Except.bind_eq_ok_iff] at success
      obtain ⟨nextTask, taskEncoded, nextUnit, unitEncoded, outcome, replaced, success⟩ := success
      cases outcome with
      | none =>
        obtain ⟨rfl, rfl⟩ := Prod.mk.inj (Except.pure_eq_ok_iff.mp success)
        rfl
      | some middle =>
        simp only [Except.bind_eq_ok_iff] at success
        obtain ⟨again, refreshed, last, unitReplaced, success⟩ := success
        cases last with
        | none => cases success
        | some final =>
          obtain ⟨rfl, rfl⟩ := Prod.mk.inj (Except.pure_eq_ok_iff.mp success)
          have history := childrenAt_eq (taskAt ▸ contents_of_valid taskValid)
          have first := effects_replaceRowEnvelope laws sound taskEncoded
            (by rw [taskAt, replacedKey, steps.sameTask]; rfl) replaced
          have unitAgain := (key_of_refreshRow _ first refreshed).trans unitAt
          have second := effects_replaceRowEnvelope laws first.sound unitEncoded
            (by rw [unitAgain, replacedKey, steps.sameUnit]; rfl) unitReplaced
          rw [taskAt] at first
          rw [unitAgain] at second
          rw [if_pos rfl, transitionWrites, show childrenAt (contents library table)
            (taskKey command.expectedTaskRecord.taskId) = taskDecoded.logicalChildren from history]
          exact first.append second
  · obtain ⟨rfl, rfl⟩ := Prod.mk.inj (Except.pure_eq_ok_iff.mp success)
    rfl

theorem SoundRow.recordCode_eq {row : P0RecordModel} {entry : Entry}
    (sound : SoundRow library row entry) {code : P0RecordCode}
    (same : entry.record.sourceModel = (persistenceRegistry code).sourceModel) :
    row.recordCode = code :=
  sourceModel_injective (sound.model.symm.trans same)

/-- The row of an active ToolCall is active by its columns. -/
theorem exists_activeToolCall (sound : Sound library table) {key : RecordKey}
    {call : ToolCallRecord} {children : List SourceRecord}
    (held : contents library table key = some ⟨.toolCallRecord call, children⟩)
    (active : call.status.isTerminal = false) : ∃ row ∈ table.rows, row.key = key ∧
    row.recordCode = .toolCallRecord ∧
      row.runId = some call.runId ∧ hasActiveStatus row = true := by
  obtain ⟨row, member, same, soundRow⟩ := sound.exists_row held
  refine ⟨row, member, same, soundRow.recordCode_eq rfl, soundRow.runId, ?_⟩
  rw [hasActiveStatus, soundRow.lifecycleStatus]
  change (some call.status.value == _ || some call.status.value == _) = true
  revert active
  cases call.status <;> decide

/-- The row of a link, by its columns. -/
theorem exists_linkRow (sound : Sound library table) {key : RecordKey} {link : RunTaskLinkRecord}
    {children : List SourceRecord}
    (held : contents library table key = some ⟨.runTaskLinkRecord link, children⟩) :
    ∃ row ∈ table.rows, row.key = key ∧ row.recordCode = .runTaskLinkRecord ∧
    row.runId = some link.runId := by
  obtain ⟨row, member, same, soundRow⟩ := sound.exists_row held
  exact ⟨row, member, same, soundRow.recordCode_eq rfl, soundRow.runId⟩

/-- Replacing a row that has been found before. -/
private theorem effects_replaceCurrent (laws : StoreLaws library) (sound : Sound library table)
    {recordId : Uuid} {code : P0RecordCode} {expected next : SourceRecord}
    {children nextChildren : List SourceRecord} {key : RecordKey}
    (present : ∃ row ∈ table.rows, row.recordId = recordId ∧ row.key = key)
    (sameKey : replacedKey next = some key)
    (success : replaceCurrent library recordId code expected next children nextChildren table =
      .ok written) :
    Effects library table written [replacing key expected next children nextChildren] := by
  obtain ⟨before, member, rfl, rfl⟩ := present
  simp only [replaceCurrent, Except.bind_eq_ok_iff] at success
  obtain ⟨envelope, encoded, row, refreshed, outcome, replaced, success⟩ := success
  have same : row.1.key = before.key := key_of_refreshRow ⟨before, member⟩ (.refl sound) refreshed
  cases outcome with
  | none => cases success
  | some after =>
    obtain rfl := Except.pure_eq_ok_iff.mp success
    have effects := effects_replaceRowEnvelope laws sound encoded (same ▸ sameKey) replaced
    rwa [same] at effects

theorem Effects.present {writes : List (Write RecordKey Entry)}
    (effects : Effects library table written writes) (row : table.Row) :
    ∃ after ∈ written.rows, after.recordId = row.1.recordId ∧ after.key = row.1.key := by
  obtain ⟨after, member, sameId, sameKey, -⟩ := effects.keeps row.1 row.2
  exact ⟨after, member, sameId, sameKey⟩

/-- What has been read of a Run that is to end. -/
structure ReadsFinal (library : ModelLibrary) (table : RecordTable) (command : FinalizeRunCommand)
    (rows : FinalizeRows table) : Prop where
  run : rows.run.1.key = runKey command.expectedActiveRecord.runId
  calls : ActiveToolCallsAt (contents library table) command.expectedActiveRecord.runId []
  links : rows.links.map (·.1) = command.expectedActiveLinks
  linkKeys : ∀ link ∈ rows.links, link.2.1.key = linkKey link.1.runId link.1.taskId
  allLinks : LinksAt (contents library table) command.expectedActiveRecord.runId
    (command.expectedActiveLinks.map fun link => linkKey link.runId link.taskId)
  task : ∀ row, rows.task = some row → ∃ task, expectedTask command = some task ∧
    row.1.key = taskKey task.taskId ∧
    rows.taskChildren = childrenAt (contents library table) (taskKey task.taskId)
  unit : ∀ row transition, rows.unit = some row → command.taskTransition = some transition →
    row.1.key = unitKey transition.expectedRequestUnitRecord.requestUnitId

private theorem requireCurrent_eq_ok {condition : Bool} {done : Unit} :
    requireCurrent condition = .ok done ↔ condition = true :=
  Except.require_eq_ok_iff

private theorem runRowToEnd_eq_ok {runId : Uuid} {row : table.Row} :
    runRowToEnd table runId = .ok row ↔
    rowForIdentity table .agentRunRecord (uuidIdentity "run_id" runId) = some row := by
  unfold runRowToEnd
  split <;> simp [*]

theorem requireKey_eq_ok {α : Type} {candidate : Option α} {found : α} :
    requireKey candidate = .ok found ↔ candidate = some found := by
  cases candidate <;> simp [requireKey]

private theorem orConflict_eq_ok {α : Type} {candidate : Option α} {found : α} :
    orConflict candidate = .ok found ↔ candidate = some found := by
  cases candidate <;> simp [orConflict]

private theorem mapM_some_eq_ok {α β : Type} {f : α → Codec β} {item : α} {found : Option β} :
    (some item).mapM f = .ok found ↔ ∃ value, f item = .ok value ∧ some value = found := by
  rw [Option.mapM_some]
  cases f item <;> simp [Functor.map, Except.map]

/-- Where one row at most was taken, all were. -/
theorem take_two_of_short {α : Type} {items : List α} (short : (items.take 2).length ≤ 1) :
    items.take 2 = items := by
  rw [List.length_take] at short
  exact List.take_of_length_le (by omega)

private theorem dictValues_of_short {α κ : Type} [DecidableEq κ] {key : α → κ} {items : List α}
    (short : items.length ≤ 1) :
    Keyed.dictValues key items = items := by
  match items, short with
  | [], _ => rfl
  | [only], _ => simp [Keyed.dictValues, Keyed.lastByKey]

/-- One item at most, which is the expected one. -/
private theorem map_eq_of_short {α β : Type} {f : α → β} {items : List α} {others : List β}
    (lengths : items.length = others.length) (short : others.length ≤ 1)
    (listed : ∀ item ∈ items, f item ∈ others) : items.map f = others := by
  match items, others, lengths, short with
  | [], [], _, _ => rfl
  | [item], [only], _, _ => simpa using listed item List.mem_cons_self
  | _ :: _ :: _, [_], lengths, _ => simp at lengths

/-- The links of a Run with one link at most are those that are expected. -/
private theorem linkByTask_eq_ok (laws : StoreLaws library) (sound : Sound library table)
    {runId : Uuid} {expected : List RunTaskLinkRecord}
    {links : List (RunTaskLinkRecord × table.Row)}
    (count : (linkClosureRows table runId).length = expected.length) (short : expected.length ≤ 1)
    (read : linkByTask library table runId = .ok links)
    (current : ∀ link ∈ links, Keyed.lastByKey (·.taskId) expected link.1.taskId = some link.1) :
    links.map (·.1) = expected ∧
    (∀ link ∈ links, link.2.1.key = linkKey link.1.runId link.1.taskId) ∧
      LinksAt (contents library table) runId
      (expected.map fun link => linkKey link.runId link.taskId) := by
  simp only [linkByTask, Except.bind_eq_ok_iff, Except.mapM_eq_ok_iff, Except.pure_eq_ok_iff]
    at read
  obtain ⟨decoded, each, rfl⟩ := read
  have lengths : decoded.length = expected.length := each.length_eq.symm.trans count
  rw [dictValues_of_short (lengths ▸ short)] at current ⊢
  have listed : ∀ link ∈ decoded, link.1 ∈ expected :=
    fun link member => (Keyed.mem_of_lastByKey (current link member)).1
  have same : decoded.map (·.1) = expected := map_eq_of_short lengths short listed
  have keys : ∀ link ∈ decoded, link.2.1.key = linkKey link.1.runId link.1.taskId := by
    intro link member
    obtain ⟨row, -, reads⟩ := Keyed.exists_of_forall₂_right each member
    simp only [decodeLink, Except.bind_eq_ok_iff, orIntegrity_eq_ok,
      SourceRecord.asRunTaskLinkRecord_eq_some, Except.pure_eq_ok_iff] at reads
    obtain ⟨found, valid, record, isLink, rfl⟩ := reads
    obtain ⟨entry, soundRow⟩ := sound row.1 row.2
    obtain rfl := Option.some.inj (soundRow.reads.symm.trans (readEntry_of_valid valid))
    exact soundRow.key_of_replacedKey laws (by rw [entryOf, isLink]; rfl)
  refine ⟨same, keys, fun key link children held ofRun => ?_⟩
  obtain ⟨row, present, rfl, isLink, column⟩ := exists_linkRow sound held
  have selected : (⟨row, present⟩ : table.Row) ∈ linkClosureRows table runId := by
    rw [linkClosureRows, take_two_of_short (le_of_eq_of_le count short), RecordTable.mem_select]
    simp [isLink, column, ofRun]
  obtain ⟨found, member, reads⟩ := Keyed.exists_of_forall₂_left each selected
  simp only [decodeLink, Except.bind_eq_ok_iff, Except.pure_eq_ok_iff] at reads
  obtain ⟨_, -, record, -, rfl⟩ := reads
  rw [keys _ member]
  exact List.mem_map_of_mem (f := fun link : RunTaskLinkRecord => linkKey link.runId link.taskId)
    (listed _ member)

private theorem finalizeRows_eq_ok (laws : StoreLaws library) (sound : Sound library table)
    {command : FinalizeRunCommand} {rows : FinalizeRows table}
    (short : command.expectedActiveLinks.length ≤ 1)
    (read : finalizeRows library table command = .ok rows) :
    ReadsFinal library table command rows := by
  simp only [finalizeRows, Except.bind_eq_ok_iff, requireCurrent_eq_ok, runRowToEnd_eq_ok,
    beq_iff_eq, Except.forM_eq_ok_iff, Except.pure_eq_ok_iff, List.isEmpty_iff,
    Bool.and_eq_true] at read
  obtain ⟨run, runAt, -, count, _, -, -, -, -, -, -, idle, task, taskFound, unit, unitFound, links,
    linksRead, -, -, -, current, taskDecoded, taskValid, -, sameTask, unitDecoded, -, -, -,
    rfl⟩ := read
  obtain ⟨sameLinks, linkKeys, allLinks⟩ :=
    linkByTask_eq_ok laws sound count short linksRead current
  refine ⟨key_of_rowForIdentity runAt, ?_, sameLinks, linkKeys, allLinks, ?_, ?_⟩
  · intro key call children held ofRun active
    obtain ⟨row, present, -, isCall, column, activeRow⟩ := exists_activeToolCall sound held active
    have selected : (⟨row, present⟩ : table.Row) ∈ table.select fun row =>
      row.recordCode == .toolCallRecord &&
        row.runId == some command.expectedActiveRecord.runId && hasActiveStatus row := by
      rw [RecordTable.mem_select]
      simp [isCall, column, ofRun, activeRow]
    rw [activeToolCallRows, List.take_eq_nil_iff] at idle
    have none_ := (idle.resolve_left (by decide) ▸ Keyed.sortByKey_perm _ _).symm.eq_nil
    rw [none_] at selected
    cases selected
  · rintro row rfl
    cases chosen : expectedTask command with
    | none =>
      rw [chosen] at taskFound
      cases Except.ok.inj taskFound
    | some expected =>
      rw [chosen, mapM_some_eq_ok] at taskFound
      obtain ⟨_, found, same⟩ := taskFound
      obtain rfl := Option.some.inj same
      obtain ⟨decoded, valid, rfl⟩ := mapM_some_eq_ok.mp taskValid
      have key := key_of_rowForIdentity (orConflict_eq_ok.mp found)
      exact ⟨expected, rfl, key, (childrenAt_eq (key ▸ contents_of_valid valid)).symm⟩
  · rintro row transition rfl chosen
    rw [chosen, mapM_some_eq_ok] at unitFound
    obtain ⟨_, found, same⟩ := unitFound
    obtain rfl := Option.some.inj same
    exact key_of_rowForIdentity (orConflict_eq_ok.mp found)

/-- An envelope encodes what a write inserts. -/
def InsertsEnvelope (library : ModelLibrary) (envelope : P0PersistenceEnvelope)
    (write : Write RecordKey Entry) : Prop :=
  ∃ entry, Encodes library envelope entry ∧ write = .insert (recordKey envelope) entry

theorem insertsEnvelope_rightUnique : Relator.RightUnique (InsertsEnvelope library) := by
  rintro envelope _ _ ⟨entry, encodes, rfl⟩ ⟨other, again, rfl⟩
  rw [encodes.unique again]

private theorem insertsEnvelope_of_encode (laws : StoreLaws library) {code : P0RecordCode}
    {record : SourceRecord} {envelope : P0PersistenceEnvelope}
    (encoded : encodePersistenceRecord library code record = .ok envelope) :
    InsertsEnvelope library envelope (inserting library code record) := by
  obtain ⟨rfl, encodes⟩ := encodes_of_encode laws encoded
  exact ⟨_, encodes, by rw [encodes.recordKey_eq]; rfl⟩

/-- Every envelope of a call was inserted, if the answer says so. -/
private theorem Persists.all_inserted {envelopes : List P0PersistenceEnvelope}
    {persisted : List PersistedEnvelope} {entered linked : RecordTable} {rows : List P0RecordModel}
    (spec : Persists library stamps envelopes table written persisted entered linked rows)
    (all : ((List.range envelopes.length).map fun index =>
      persisted.any fun entry => entry.index == index && entry.wasInserted).all id = true) :
    persisted.filter (·.wasInserted) = persisted := by
  have given := spec.first.given
  have distinct : (persisted.map (·.index)).Nodup := by
    have indexes : persisted.map (·.index) = (orderedEnvelopes envelopes).map (·.2) := by
      rw [← given, List.map_map]
      rfl
    rw [indexes, orderedEnvelopes, ((Keyed.sortByKey_perm _ _).map _).nodup_iff,
      List.zipIdx_map_snd]
    exact List.nodup_range'
  refine List.filter_eq_self.mpr fun entry member => ?_
  have listed : (entry.envelope, entry.index) ∈ orderedEnvelopes envelopes :=
    given ▸ List.mem_map_of_mem member
  rw [mem_orderedEnvelopes] at listed
  have bound := (List.getElem?_eq_some_iff.mp listed).1
  have found := List.all_eq_true.mp all _ (List.mem_map_of_mem (List.mem_range.mpr bound))
  simp only [id_eq, List.any_eq_true, Bool.and_eq_true, beq_iff_eq] at found
  obtain ⟨other, present, same, inserted⟩ := found
  rwa [List.inj_on_of_nodup_map distinct present member same] at inserted

/-- A call that has inserted all of its envelopes has made one write for each. -/
private theorem effects_persistAll (sound : Sound library table)
    {envelopes : List P0PersistenceEnvelope} {inserted : List Bool}
    {writes : List (Write RecordKey Entry)}
    (inserts : List.Forall₂ (InsertsEnvelope library) envelopes writes)
    (success : persistEnvelopes library stamps table envelopes = .ok (written, inserted))
    (all : inserted.all id = true) : ∃ journal, journal.Perm writes ∧
    Effects library table written journal := by
  obtain ⟨persisted, entered, linked, rows, spec, rfl⟩ := persistEnvelopes_eq_ok success
  have encodes : ∀ envelope ∈ envelopes, ∃ entry, Encodes library envelope entry := by
    intro envelope member
    obtain ⟨_, -, entry, encodes, -⟩ := Keyed.exists_of_forall₂_left inserts member
    exact ⟨entry, encodes⟩
  obtain ⟨added, asInserted, effects⟩ := effects_persists sound encodes spec
  rw [spec.all_inserted all] at asInserted
  have made : List.Forall₂ (InsertsEnvelope library) (persisted.map (·.envelope))
      (added.map fun item => .insert item.1 item.2) := by
    rw [List.forall₂_map_left_iff, List.forall₂_map_right_iff]
    exact asInserted.imp fun entry item facts => ⟨item.2, facts.2, by rw [facts.1]⟩
  have same : (persisted.map (·.envelope)).Perm envelopes := by
    have given : persisted.map (·.envelope) = (orderedEnvelopes envelopes).map (·.1) := by
      rw [← spec.first.given, List.map_map]
      rfl
    rw [given, orderedEnvelopes]
    exact ((Keyed.sortByKey_perm _ _).map _).trans (by rw [List.zipIdx_map_fst])
  exact ⟨_, List.rel_perm_imp insertsEnvelope_rightUnique made inserts same, effects⟩

/-- The envelopes of what a Run says encode the writes that insert them. -/
private theorem outputEnvelopes_eq_ok (laws : StoreLaws library) {command : FinalizeRunCommand}
    {envelopes : List P0PersistenceEnvelope}
    (read : outputEnvelopes library table command = .ok envelopes) :
    List.Forall₂ (InsertsEnvelope library) envelopes
      ((command.assistantMessage.toList.map fun message =>
        inserting library .messageRecord (.messageRecord message)) ++
        command.terminalTraceEvents.map fun event =>
        inserting library .traceEventRecord (.traceEvent event)) := by
  simp only [outputEnvelopes, Except.bind_eq_ok_iff, Except.mapM_eq_ok_iff, Except.pure_eq_ok_iff]
    at read
  obtain ⟨messages, messagesEncoded, events, eventsEncoded, -, -, rfl⟩ := read
  refine List.rel_append ?_ ?_
  · rw [List.forall₂_map_right_iff]
    exact messagesEncoded.flip.imp fun message envelope encoded =>
      insertsEnvelope_of_encode laws encoded
  · rw [List.forall₂_map_right_iff]
    exact eventsEncoded.flip.imp fun event envelope encoded =>
      insertsEnvelope_of_encode laws encoded

/-- The writes of the last step of a Task. -/
def finalTaskWrites (held : Held) (command : FinalizeRunCommand) : List (Write RecordKey Entry) :=
  command.taskTransition.toList.flatMap fun transition =>
    transitionWrites (childrenAt held (taskKey transition.expectedTaskRecord.taskId)) transition

private theorem effects_finalTask (laws : StoreLaws library) (sound : Sound library table)
    {command : FinalizeRunCommand} {rows : FinalizeRows table}
    (reads : ReadsFinal library table command rows) (valid : ContractModel.validates command = true)
    (success : replaceFinalTask library table rows table command.taskTransition = .ok written) :
    Effects library table written (finalTaskWrites (contents library table) command) := by
  rw [finalTaskWrites]
  cases chosen : command.taskTransition with
  | none =>
    rw [chosen] at success
    obtain rfl := Except.pure_eq_ok_iff.mp success
    exact .refl sound
  | some transition =>
    rw [chosen] at success
    simp only [replaceFinalTask, Except.bind_eq_ok_iff, orConflict_eq_ok] at success
    obtain ⟨taskRow, isTask, unitRow, isUnit, middle, taskReplaced, unitReplaced⟩ := success
    have steps := ApplyTaskTransitionCommand.step (command.transition_valid valid chosen)
    obtain ⟨task, expected, taskAt, history⟩ := reads.task taskRow isTask
    obtain rfl : transition.expectedTaskRecord = task := by
      rw [expectedTask, chosen] at expected
      obtain ⟨_, -, same⟩ := Option.map_eq_some_iff.mp expected
      exact same
    have unitAt := reads.unit unitRow transition isUnit chosen
    have first := effects_replaceCurrent laws sound ⟨taskRow.1, taskRow.2, rfl, taskAt⟩
      (by rw [replacedKey, steps.sameTask]) taskReplaced
    obtain ⟨after, member, sameId, sameKey⟩ := first.present unitRow
    have second :=
      effects_replaceCurrent laws first.sound ⟨after, member, sameId, sameKey.trans unitAt⟩
      (by rw [replacedKey, steps.sameUnit]) unitReplaced
    rw [history] at first
    simpa [transitionWrites] using first.append second

/-- The link of the Run is closed; there is one at most, so that their order does not matter. -/
private theorem effects_finalLinks (laws : StoreLaws library) {start : RecordTable}
    (sound : Sound library table) {command : FinalizeRunCommand} {rows : FinalizeRows start}
    (reads : ReadsFinal library start command rows) (valid : ContractModel.validates command = true)
    (present : ∀ row : start.Row, ∃ after ∈ table.rows, after.recordId = row.1.recordId ∧
      after.key = row.1.key)
    (success : (Keyed.sortByKey (fun link => uuidText link.1.taskId) rows.links).foldlM
      (replaceFinalLink library start command) table = .ok written) :
    Effects library table written (command.expectedActiveLinks.filterMap fun expected =>
      (Keyed.lastByKey (·.taskId) command.terminalLinks expected.taskId).map
      (linkWrite expected)) := by
  have short := (command.oneLink valid).1
  have links := reads.links
  have linkKeys := reads.linkKeys
  cases found : rows.links with
  | nil =>
    rw [found, List.map_nil] at links
    rw [found] at success
    obtain rfl := Except.pure_eq_ok_iff.mp success
    rw [← links]
    exact .refl sound
  | cons link rest =>
    rw [← links, found, List.map_cons, List.length_cons, List.length_map] at short
    obtain rfl : rest = [] := List.length_eq_zero_iff.mp (by omega)
    rw [found] at success linkKeys
    rw [found, List.map_cons, List.map_nil] at links
    have key := linkKeys link List.mem_cons_self
    simp only [Keyed.sortByKey, List.insertionSort_cons, List.insertionSort_nil,
      List.orderedInsert_nil, List.foldlM_cons, List.foldlM_nil, replaceFinalLink,
      Except.bind_eq_ok_iff, requireKey_eq_ok, Except.pure_eq_ok_iff] at success
    obtain ⟨_, ⟨expected, isExpected, terminal, isTerminal, replaced⟩, rfl⟩ := success
    obtain ⟨listed, sameTask⟩ := Keyed.mem_of_lastByKey isExpected
    obtain ⟨ends, endsTask⟩ := Keyed.mem_of_lastByKey isTerminal
    obtain rfl : expected = link.1 := by simpa [← links] using listed
    obtain ⟨closed, closedListed, -, closesTask, closesRun, -⟩ :=
      (FinalizeRunCommand.ends valid).closes terminal ends
    obtain rfl : closed = link.1 := by simpa [← links] using closedListed
    obtain ⟨after, member, sameId, sameKey⟩ := present link.2
    have effects := effects_replaceCurrent laws sound ⟨after, member, sameId, sameKey.trans key⟩
      (by rw [replacedKey, closesTask, closesRun]) replaced
    simpa [← links, isTerminal, linkWrite] using effects

theorem performs_finalizeRun (laws : StoreLaws library) (sound : Sound library table)
    {command : FinalizeRunCommand} (valid : ContractModel.validates command = true)
    (success : finalizeRunInTransaction library stamps table command = .ok written) :
    (StoreCommand.finalizeRunIfActive command).Performs library table written := by
  unfold finalizeRunInTransaction at success
  simp only [Except.bind_eq_ok_iff] at success
  obtain ⟨rows, rowsRead, outputs, outputsRead, advanced, taskReplaced, ended, runReplaced, closed,
    linksReplaced, success⟩ := success
  have ends := FinalizeRunCommand.ends valid
  have reads := finalizeRows_eq_ok laws sound (command.oneLink valid).1 rowsRead
  have inserts := outputEnvelopes_eq_ok laws outputsRead
  have taskEffects := effects_finalTask laws sound reads valid taskReplaced
  obtain ⟨after, member, sameId, sameKey⟩ := taskEffects.present rows.run
  have runEffects :=
    effects_replaceCurrent laws taskEffects.sound ⟨after, member, sameId, sameKey.trans reads.run⟩
    (by rw [replacedKey, ends.sameRun]) runReplaced
  have both := taskEffects.append runEffects
  have linkEffects := effects_finalLinks laws both.sound reads valid both.present linksReplaced
  have all := both.append linkEffects
  obtain ⟨journal, same, outputEffects⟩ : ∃ journal, journal.Perm
      ((command.assistantMessage.toList.map fun message =>
        inserting library .messageRecord (.messageRecord message)) ++
        command.terminalTraceEvents.map fun event =>
          inserting library .traceEventRecord (.traceEvent event)) ∧
      Effects library closed written journal := by
    split_ifs at success with nothing
    · obtain rfl := Except.pure_eq_ok_iff.mp success
      rw [List.isEmpty_iff.mp nothing, List.forall₂_nil_left_iff] at inserts
      exact ⟨[], by rw [inserts], .refl all.sound⟩
    · simp only [Except.bind_eq_ok_iff, requireCurrent_eq_ok, Except.pure_eq_ok_iff] at success
      obtain ⟨⟨final, inserted⟩, persisted, -, everyOne, rfl⟩ := success
      exact effects_persistAll all.sound inserts persisted everyOne
  refine .makes _ ⟨reads.calls, reads.allLinks⟩ ?_ (all.append outputEffects)
  have writes : StoreCommand.writes library (contents library table)
      (.finalizeRunIfActive command) =
      finalTaskWrites (contents library table) command ++
        [replacing (runKey command.expectedActiveRecord.runId)
          (.agentRunRecord command.expectedActiveRecord)
          (.agentRunRecord command.terminalRecord)] ++
        (command.expectedActiveLinks.filterMap fun expected =>
          (Keyed.lastByKey (·.taskId) command.terminalLinks expected.taskId).map
            (linkWrite expected)) ++
        ((command.assistantMessage.toList.map fun message =>
          inserting library .messageRecord (.messageRecord message)) ++
          command.terminalTraceEvents.map fun event =>
            inserting library .traceEventRecord (.traceEvent event)) := by
    simp only [StoreCommand.writes, finalizeWrites, finalTaskWrites, List.append_assoc,
      List.cons_append, List.nil_append]
  rw [writes]
  exact same.append_left _

end MiniAgent.Infrastructure
