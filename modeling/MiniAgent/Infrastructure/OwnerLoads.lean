import MiniAgent.Infrastructure.EnvelopeWrites
import MiniAgent.Infrastructure.OwnerIsolation
import MiniAgent.Infrastructure.TraceListing

/-! # The owner-scoped loads of the record adapter

Each port loads one record by its identity, or lists the rows of one family. What any of them gives
to a customer is the customer's own, and does not depend on what others have stored.
-/

namespace MiniAgent.Infrastructure

open MiniAgent.Core MiniAgent.Application

section Ports

variable (library : ModelLibrary) (table : RecordTable) (owner : Text)

/-- `load_conversation_for_owner` -/
def loadConversationForOwner (conversationId : Uuid) : Codec (Option SourceRecord) :=
  loadForOwner library table owner .conversationRecord
    (uuidIdentity "conversation_id" conversationId) .conversationRecord

/-- `load_run_for_owner` -/
def loadRunForOwner (runId : Uuid) : Codec (Option SourceRecord) :=
  loadForOwner library table owner .agentRunRecord (uuidIdentity "run_id" runId) .agentRunRecord

/-- `load_task_for_owner` -/
def loadTaskForOwner (taskId : Uuid) : Codec (Option SourceRecord) :=
  loadForOwner library table owner .taskRecord (uuidIdentity "task_id" taskId) .taskRecord

/-- `load_request_unit_for_owner` -/
def loadRequestUnitForOwner (requestUnitId : Uuid) : Codec (Option SourceRecord) :=
  loadForOwner library table owner .requestUnitRecord
    (uuidIdentity "request_unit_id" requestUnitId) .requestUnitRecord

/-- `load_input_binding_for_owner` -/
def loadInputBindingForOwner (bindingId : Uuid) : Codec (Option SourceRecord) :=
  loadForOwner library table owner .inputBindingRecord
    (uuidIdentity "binding_id" bindingId) .inputBinding

/-- `load_context_manifest_for_owner` -/
def loadContextManifestForOwner (contextManifestId : Uuid) : Codec (Option SourceRecord) :=
  loadForOwner library table owner .contextManifestRecord
    (uuidIdentity "context_manifest_id" contextManifestId)
    .contextManifest

/-- `load_gate_decision_for_owner` -/
def loadGateDecisionForOwner (gateDecisionId : Uuid) : Codec (Option SourceRecord) :=
  loadForOwner library table owner .gateDecisionRecord
    (uuidIdentity "gate_decision_id" gateDecisionId) .gateDecision

/-- `load_tool_call_for_owner` -/
def loadToolCallForOwner (toolCallId : Uuid) : Codec (Option SourceRecord) :=
  loadForOwner library table owner .toolCallRecord
    (uuidIdentity "tool_call_id" toolCallId) .toolCallRecord

/-- `load_observation_for_owner` -/
def loadObservationForOwner (observationId : Uuid) : Codec (Option SourceRecord) :=
  loadForOwner library table owner .observationRecord
    (uuidIdentity "observation_id" observationId) .orderObservation

/-- `list_conversation_task_links_for_owner` -/
def listConversationTaskLinksForOwner (conversationId : Uuid) : Codec (List SourceRecord) :=
  listForOwner library table owner .conversationTaskLinkRecord
    (·.conversationId == some conversationId)
    .conversationTaskLinkRecord

/-- `list_run_task_links_for_owner` -/
def listRunTaskLinksForOwner (runId : Uuid) : Codec (List SourceRecord) :=
  listForOwner library table owner .runTaskLinkRecord (·.runId == some runId) .runTaskLinkRecord

end Ports

/-- A request for what one customer has stored. -/
inductive OwnerLoad
  | conversation (conversationId : Uuid)
  | run (runId : Uuid)
  | task (taskId : Uuid)
  | requestUnit (requestUnitId : Uuid)
  | inputBinding (bindingId : Uuid)
  | contextManifest (contextManifestId : Uuid)
  | gateDecision (gateDecisionId : Uuid)
  | toolCall (toolCallId : Uuid)
  | observation (observationId : Uuid)
  | conversationTaskLinks (conversationId : Uuid)
  | runTaskLinks (runId : Uuid)
  | messages (conversationId : Uuid) (limit : ℕ)
  | traceEvents (runId : Uuid)

/-- The records that a port returns; a load that finds nothing returns none. -/
def OwnerLoad.answer (library : ModelLibrary) (table : RecordTable) (owner : Text) :
    OwnerLoad → Codec (List SourceRecord)
  | conversation id => do return (← loadConversationForOwner library table owner id).toList
  | run id => do return (← loadRunForOwner library table owner id).toList
  | task id => do return (← loadTaskForOwner library table owner id).toList
  | requestUnit id => do return (← loadRequestUnitForOwner library table owner id).toList
  | inputBinding id => do return (← loadInputBindingForOwner library table owner id).toList
  | contextManifest id => do return (← loadContextManifestForOwner library table owner id).toList
  | gateDecision id => do return (← loadGateDecisionForOwner library table owner id).toList
  | toolCall id => do return (← loadToolCallForOwner library table owner id).toList
  | observation id => do return (← loadObservationForOwner library table owner id).toList
  | conversationTaskLinks id => listConversationTaskLinksForOwner library table owner id
  | runTaskLinks id => listRunTaskLinksForOwner library table owner id
  | messages id limit => listMessagesForOwner library table owner id limit
  | traceEvents id => do
    return (← listTraceEventsForOwner library table owner id).map SourceRecord.traceEvent

variable {library : ModelLibrary} {table other : RecordTable} {owner : Text}

/-- Rows of others change no answer. -/
private theorem answer_congr (same : SameVisible owner table other) (load : OwnerLoad) :
    load.answer library table owner = load.answer library other owner := by
  cases load with
  | conversationTaskLinks id => exact listForOwner_congr same _ _ _
  | runTaskLinks id => exact listForOwner_congr same _ _ _
  | messages id limit => exact listMessagesForOwner_congr same id limit
  | traceEvents id =>
    exact congrArg (· >>= fun events => pure (events.map SourceRecord.traceEvent))
      (listTraceEventsForOwner_congr same id)
  | _ => exact congrArg (· >>= fun found => pure found.toList) (loadForOwner_congr same _ _ _)

variable (library) (table) (owner) in
/-- A record is held by a row of the owner, and all that the row refers to has this one owner. -/
def OwnRecord (record : SourceRecord) : Prop :=
  ∃ row : table.Row, row.1.scopeOwnerCustomerId = some owner ∧
    OwnerOf library table row (some owner) ∧
    ∃ decoded, decodeRow library row.1 = .ok decoded ∧ decoded.sourceRecord = record

/-- A row of the owner that is valid for the owner. -/
private theorem ownRecord_of_valid {row : table.Row} {decoded : DecodedP0PersistenceRecord}
    (scope : row.1.scopeOwnerCustomerId = some owner)
    (valid : validatePhysicalProjection library table (some owner) row = .ok decoded) :
    OwnRecord library table owner decoded.sourceRecord := by
  have decodes := decodeRow_of_valid valid
  simp only [validatePhysicalProjection, Except.bind_eq_ok_iff] at valid
  obtain ⟨_, -, derived, derives, -⟩ := valid
  obtain ⟨_, -, -, named, -⟩ := deriveOwner_eq_ok derives
  have owned := ownerOf_of_deriveOwner derives
  obtain rfl : derived = some owner := named.resolve_left (by simp)
  exact ⟨row, scope, owned, decoded, decodes, rfl⟩

private theorem scope_of_mem_scopedRows {code : P0RecordCode} {filter : P0RecordModel → Bool}
    {row : table.Row} (member : row ∈ scopedRows table owner code filter) :
    row.1.scopeOwnerCustomerId = some owner := by
  have selected := RecordTable.mem_select.mp ((Keyed.sortByKey_perm _ _).mem_iff.mp member)
  simp only [Bool.and_eq_true, beq_iff_eq] at selected
  exact selected.1.2

private theorem loadForOwner_own {code : P0RecordCode} {identity : Json}
    {expectedType : SourceModel} {found : Option SourceRecord}
    (success : loadForOwner library table owner code identity expectedType = .ok found) :
    ∀ record ∈ found, OwnRecord library table owner record := by
  simp only [loadForOwner, ownerScopedRow, Except.bind_eq_ok_iff] at success
  obtain ⟨selected, inScope, success⟩ := success
  split at inScope
  · obtain rfl := Except.ok.inj inScope
    obtain rfl : none = found := by simpa only [Except.pure_eq_ok_iff] using success
    simp
  · next row chosen =>
    simp only [Except.bind_eq_ok_iff, Except.discard_eq_ok_iff, Except.pure_eq_ok_iff] at inScope
    obtain ⟨-, ⟨validated, valid⟩, rfl⟩ := inScope
    simp only [Except.bind_eq_ok_iff, Except.pure_eq_ok_iff] at success
    obtain ⟨decoded, decodes, -, -, rfl⟩ := success
    have scope := RecordTable.selectOne_eq_some chosen
    rw [Bool.and_eq_true, beq_iff_eq] at scope
    obtain rfl := Except.ok.inj ((decodeRow_of_valid valid).symm.trans decodes)
    simpa using ownRecord_of_valid scope.2 valid

private theorem listedRecord_own {expectedType : SourceModel} {row : table.Row}
    {record : SourceRecord} (scope : row.1.scopeOwnerCustomerId = some owner)
    (success : listedRecord library table owner expectedType row = .ok record) :
    OwnRecord library table owner record := by
  simp only [listedRecord, Except.bind_eq_ok_iff, Except.pure_eq_ok_iff] at success
  obtain ⟨decoded, valid, -, -, rfl⟩ := success
  exact ownRecord_of_valid scope valid

private theorem listForOwner_own {code : P0RecordCode} {filter : P0RecordModel → Bool}
    {expectedType : SourceModel} {records : List SourceRecord}
    (success : listForOwner library table owner code filter expectedType = .ok records) :
    ∀ record ∈ records, OwnRecord library table owner record := by
  intro record member
  obtain ⟨row, listed, found⟩ :=
    Keyed.exists_of_forall₂_right (Except.mapM_eq_ok_iff.mp success) member
  exact listedRecord_own (scope_of_mem_scopedRows listed) found

private theorem listMessagesForOwner_own {conversationId : Uuid} {limit : ℕ}
    {records : List SourceRecord}
    (success : listMessagesForOwner library table owner conversationId limit = .ok records) :
    ∀ record ∈ records, OwnRecord library table owner record := by
  intro record member
  obtain ⟨row, listed, found⟩ :=
    Keyed.exists_of_forall₂_right (Except.mapM_eq_ok_iff.mp success) member
  simp only [Except.bind_eq_ok_iff, Except.pure_eq_ok_iff] at found
  obtain ⟨decoded, valid, rfl⟩ := found
  exact ownRecord_of_valid (scope_of_mem_scopedRows (List.mem_of_mem_take listed)) valid

private theorem listTraceEventsForOwner_own {runId : Uuid} {events : List TraceEvent}
    (success : listTraceEventsForOwner library table owner runId = .ok events) :
    ∀ event ∈ events, OwnRecord library table owner (.traceEvent event) := by
  obtain ⟨history, stored, rfl⟩ := listTraceEventsForOwner_eq_ok_iff.mp success
  obtain ⟨listed, arranges, same⟩ := exists_arranges stored.sorted
  intro event member
  rw [← same] at member
  obtain ⟨entry, present, rfl⟩ := List.mem_map.mp member
  obtain ⟨row, selected, -, decoded, valid, record⟩ :=
    Keyed.exists_of_forall₂_right stored (arranges.permuted.mem_iff.mp present)
  exact record ▸ ownRecord_of_valid (scope_of_mem_scopedRows selected) valid

/-- Every record of an answer is the owner's own. -/
private theorem answer_own {load : OwnerLoad} {records : List SourceRecord}
    (success : load.answer library table owner = .ok records) :
    ∀ record ∈ records, OwnRecord library table owner record := by
  have one : ∀ {code : P0RecordCode} {identity : Json} {expectedType : SourceModel},
      (do return (← loadForOwner library table owner code identity expectedType).toList) =
        .ok records → ∀ record ∈ records, OwnRecord library table owner record := by
    intro code identity expectedType success
    simp only [Except.bind_eq_ok_iff, Except.pure_eq_ok_iff] at success
    obtain ⟨found, loaded, rfl⟩ := success
    simpa using loadForOwner_own loaded
  cases load with
  | conversationTaskLinks id => exact listForOwner_own success
  | runTaskLinks id => exact listForOwner_own success
  | messages id limit => exact listMessagesForOwner_own success
  | traceEvents id =>
    simp only [OwnerLoad.answer, Except.bind_eq_ok_iff, Except.pure_eq_ok_iff] at success
    obtain ⟨events, listed, rfl⟩ := success
    exact List.forall_mem_map.mpr (listTraceEventsForOwner_own listed)
  | _ => exact one success

/-- Whatever a table holds, a customer is given own records only, and the rows of other customers
change nothing of any answer: what belongs to another is as if it were not there. -/
theorem owner_sees_only_own (library : ModelLibrary) (table : RecordTable) (owner : Text)
    (load : OwnerLoad) :
    (∀ records, load.answer library table owner = .ok records →
      ∀ record ∈ records, OwnRecord library table owner record) ∧
    ∀ other, SameVisible owner table other →
    load.answer library other owner = load.answer library table owner :=
  ⟨fun _ => answer_own, fun _ same => (answer_congr same load).symm⟩

end MiniAgent.Infrastructure
