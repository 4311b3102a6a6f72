import MiniAgent.Library.Spelling
import MiniAgent.Application.PersistenceDecode

/-! # How persisted records spell their data

Strict validation lets a payload leave out members that have a default and spell an identifier or a
timestamp in several ways; a dump does neither. The members of each persisted model, and which of
them are identifiers and timestamps, decide which data is spelled as a dump spells it.
-/

namespace MiniAgent.Application

open MiniAgent.Core Json.Spelling

private def isLowerHexDigit (c : Char) : Bool := c.isDigit || ('a' ≤ c && c ≤ 'f')

/-- The text has a digit where the template has a `9`, a hexadecimal digit where it has an `x`, and
the template's own character elsewhere. -/
def fits (template : String) (text : Text) : Bool :=
  template.toList.length == text.length && (template.toList.zip text).all fun (slot, c) =>
    if slot = '9' then c.isDigit else if slot = 'x' then isLowerHexDigit c else slot == c

/-- `str(value)` of some `UUID` -/
def isUuidText (text : Text) : Bool := fits "xxxxxxxx-xxxx-xxxx-xxxx-xxxxxxxxxxxx" text

/-- The dump of some UTC `datetime`: whole seconds, or six decimal places of which one is not
zero. -/
def isTimestampText (text : Text) : Bool :=
  fits "9999-99-99T99:99:99Z" text ||
    (fits "9999-99-99T99:99:99.999999Z" text && !fits "9999-99-99T99:99:99.000000Z" text)

abbrev Spelling := Json.Spelling

/-- A `UUID` -/
def uuidSpelling : Spelling := .text isUuidText

/-- A `datetime` -/
def timestampSpelling : Spelling := .text isTimestampText

namespace SourceModel

def orderSummaryProjection : Spelling := .members
  [("order_number", .kept), ("status", .kept),
    ("line_items", .items (.members [("product_name", .kept), ("quantity", .kept)])),
    ("ordered_at", timestampSpelling), ("status_updated_at", timestampSpelling)]

def toolSpec : Spelling := .members
  [("name", .kept), ("description", .kept), ("input_schema", .kept), ("output_schema", .kept)]

def versionedRecordRef : Spelling := .members [("record_ref", uuidSpelling), ("version", .kept)]

def evalVersionManifest : Spelling := .members
  [("dataset_version", .kept), ("candidate_version", .kept), ("baseline_version", .kept),
    ("fixture_versions", .kept), ("model_config_version", .kept), ("prompt_version", .kept),
    ("tool_registry_version", .kept), ("corpus_version", .kept), ("runtime_version", .kept)]

def durableInputCandidateV2 : Spelling := .members
  [("name", .kept), ("candidate_value", .kept), ("semantic_role", .kept), ("authority", .kept),
    ("source_kind", .kept), ("source_ref", uuidSpelling), ("source_span_start", .kept),
    ("source_span_end_exclusive", .kept), ("source_quote_sha256", .kept), ("confidence", .kept)]

def durableResolvedReferenceCandidateV2 : Spelling := .members
  [("name", .kept), ("candidate_value", .kept), ("source_kind", .kept),
    ("source_ref", uuidSpelling), ("source_span_start", .kept),
    ("source_span_end_exclusive", .kept), ("source_quote_sha256", .kept),
    ("confidence", .kept)]

def uncertaintyV2 : Spelling := .members
  [("name", .kept), ("candidate_values", .kept), ("reason_code", .kept),
    ("source_message_refs", .items uuidSpelling)]

/-- How the data of a model is spelled, member by member in the order of their declaration. -/
def spelling : SourceModel → Spelling
  | conversationRecord => .members
    [("schema_version", .kept), ("conversation_id", uuidSpelling), ("owner_customer_id", .kept),
      ("created_at", timestampSpelling)]
  | messageRecord => .members
    [("schema_version", .kept), ("message_id", uuidSpelling), ("conversation_id", uuidSpelling),
      ("direction", .kept), ("content", .kept), ("received_at", timestampSpelling)]
  | taskRecord => .members
    [("task_id", uuidSpelling), ("owner_customer_id", .kept), ("status", .kept),
      ("state_version", .kept), ("created_at", timestampSpelling),
      ("updated_at", timestampSpelling),
      ("last_outcome_ref", .optional uuidSpelling)]
  | requestUnitRecord => .members
    [("request_unit_id", uuidSpelling), ("task_id", uuidSpelling), ("goal_text", .kept),
      ("goal_source_refs", .items uuidSpelling), ("contextualization_ref", .optional uuidSpelling),
      ("constraint_refs", .items uuidSpelling), ("dependency_refs", .items uuidSpelling),
      ("input_binding_refs", .items uuidSpelling), ("open_questions", .kept),
      ("observation_refs", .items uuidSpelling), ("evidence_binding_refs", .items uuidSpelling),
      ("pending_action_ref", .optional uuidSpelling), ("result_refs", .items uuidSpelling),
      ("status", .kept),
      ("state_version", .kept), ("created_at", timestampSpelling),
      ("updated_at", timestampSpelling)]
  | conversationTaskLinkRecord => .members
    [("schema_version", .kept), ("conversation_id", uuidSpelling), ("task_id", uuidSpelling),
      ("link_reason", .kept), ("linked_at", timestampSpelling),
      ("ended_at", .optional timestampSpelling)]
  | runTaskLinkRecord => .members
    [("schema_version", .kept), ("run_id", uuidSpelling), ("task_id", uuidSpelling),
      ("base_task_state_version", .kept), ("result_task_state_version", .kept)]
  | inputBinding => .members
    [("binding_id", uuidSpelling), ("name", .kept), ("normalized_value", .kept),
      ("authority", .kept), ("source_refs", .items uuidSpelling), ("validation_status", .kept),
      ("confirmed_by_user", .kept),
      ("created_at", timestampSpelling), ("updated_at", timestampSpelling),
      ("supersedes", .optional uuidSpelling)]
  | modelVisibleToolsetArtifact => .members
    [("artifact_schema_version", .kept), ("model_visible_toolset_hash", .kept),
      ("provider_visible_tool_specs", .items toolSpec)]
  | agentRunRecord => .members
    [("run_id", uuidSpelling), ("conversation_id", .optional uuidSpelling), ("status", .kept),
      ("provider_lane", .kept), ("started_at", timestampSpelling),
      ("completed_at", .optional timestampSpelling), ("stop_reason", .kept),
      ("incomplete_reason", .kept)]
  | gateDecision => .members
    [("gate_decision_id", uuidSpelling), ("model_call_id", uuidSpelling),
      ("context_manifest_id", uuidSpelling), ("provider_tool_call_id", .kept),
      ("requested_provider_tool_name", .kept), ("resolved_canonical_tool_name", .kept),
      ("snapshot_match", .kept), ("registration_valid", .kept), ("schema_valid", .kept),
      ("trusted_field_valid", .kept), ("argument_binding_valid", .kept),
      ("argument_binding_refs", .items uuidSpelling), ("budget_valid", .kept),
      ("progress_valid", .kept),
      ("proposed_base_task_state_version", .kept), ("validated_task_state_version", .kept),
      ("state_version_valid", .kept), ("action_boundary_valid", .kept), ("decision", .kept),
      ("reason_code", .kept), ("decided_at", timestampSpelling)]
  | toolCallRecord => .members
    [("tool_call_id", uuidSpelling), ("run_id", uuidSpelling), ("task_id", uuidSpelling),
      ("request_unit_id", uuidSpelling), ("model_call_id", uuidSpelling),
      ("context_manifest_id", uuidSpelling), ("gate_decision_id", uuidSpelling),
      ("provider_tool_call_id", .kept), ("canonical_tool_name", .kept),
      ("tool_registry_version", .kept),
      ("validated_task_state_version", .kept), ("argument_binding_refs", .items uuidSpelling),
      ("effect", .kept), ("attempt_count", .kept), ("status", .kept),
      ("started_at", timestampSpelling),
      ("finished_at", .optional timestampSpelling), ("failure_code", .kept),
      ("timeout_phase", .kept),
      ("interruption_reason", .kept), ("result_ref", .optional uuidSpelling)]
  | orderObservation => .members
    [("observation_id", uuidSpelling), ("source_tool", .kept), ("source_resource_ref", .kept),
      ("source_version", .kept), ("normalized_type", .kept),
      ("normalized_value", orderSummaryProjection),
      ("observed_at", timestampSpelling), ("recorded_at", timestampSpelling),
      ("valid_until", .optional timestampSpelling), ("supersedes", .optional uuidSpelling),
      ("raw_result_ref", .kept), ("visibility", .kept)]
  | contextManifest => .members
    [("context_manifest_id", uuidSpelling), ("run_id", uuidSpelling),
      ("model_call_id", uuidSpelling), ("tool_registry_version", .kept),
      ("model_visible_toolset_hash", .kept),
      ("selected_message_refs", .items uuidSpelling),
      ("task_state_ref_and_version",
        .optional (.members [("task_id", uuidSpelling), ("state_version", .kept)])),
      ("observation_refs_and_versions", .items versionedRecordRef),
      ("evidence_refs_and_versions", .items versionedRecordRef),
      ("action_record_refs", .items uuidSpelling), ("redaction_policy_version", .kept),
      ("truncation_decisions",
        .items (.members [("source_ref", uuidSpelling), ("reason_code", .kept)])),
      ("token_counts", .members [("input_tokens", .kept), ("output_tokens", .kept)]),
      ("assembled_at", timestampSpelling)]
  | traceEvent => .members
    [("trace_event_id", uuidSpelling), ("event_type", .kept), ("occurred_at", timestampSpelling),
      ("run_id", uuidSpelling), ("case_id", .kept), ("message_ref", .optional uuidSpelling),
      ("accepted_delta_ref", .optional uuidSpelling), ("task_id", .optional uuidSpelling),
      ("request_unit_id", .optional uuidSpelling), ("input_binding_ref", .optional uuidSpelling),
      ("model_call_id", .optional uuidSpelling), ("model_call_purpose", .kept),
      ("context_manifest_id", .optional uuidSpelling), ("provider_name", .kept),
      ("model_snapshot", .kept),
      ("tool_registry_version", .kept), ("model_visible_toolset_hash", .kept),
      ("next_move_kind", .kept),
      ("requested_tool_name", .kept), ("proposed_base_task_state_version", .kept),
      ("validated_task_state_version", .kept), ("argument_binding_refs", .items uuidSpelling),
      ("gate_decision", .kept), ("gate_reason_code", .kept),
      ("tool_call_id", .optional uuidSpelling),
      ("tool_call_terminal_status", .kept), ("safe_tool_outcome", .kept),
      ("observation_ref", .optional uuidSpelling),
      ("presentation_plan_ref", .optional uuidSpelling),
      ("user_outcome", .kept), ("stop_reason", .kept),
      ("timing_and_usage_summary", .optional (.members
        [("duration_ms", .kept), ("input_tokens", .kept), ("output_tokens", .kept)]))]
  | evalResultRecord => .members
    [("schema_version", .kept), ("eval_run_id", uuidSpelling), ("case_id", .kept), ("lane", .kept),
      ("attempt", .kept), ("status", .kept),
      ("grader_results",
        .items (.members [("grader_name", .kept), ("status", .kept), ("reason_code", .kept)])),
      ("critical_failures", .kept), ("observed_outcome", .kept),
      ("trace_ref", .optional uuidSpelling),
      ("version_manifest", evalVersionManifest),
      ("latency_summary", .optional (.members [("total_duration_ms", .kept)])),
      ("usage_summary", .optional (.members [("input_tokens", .kept), ("output_tokens", .kept)])),
      ("completed_at", timestampSpelling)]
  | evalExecutionFailureRecord => .members
    [("schema_version", .kept), ("eval_run_id", uuidSpelling), ("case_id", .kept), ("lane", .kept),
      ("attempt", .kept), ("failure_phase", .kept), ("safe_error_code", .kept),
      ("diagnostic_ref", .optional uuidSpelling), ("trace_ref", .optional uuidSpelling),
      ("version_manifest", evalVersionManifest), ("occurred_at", timestampSpelling)]
  | requestUnderstandingRecordV2 => .members
    [("request_understanding_record_id", uuidSpelling), ("run_id", uuidSpelling),
      ("message_ref", uuidSpelling), ("schema_version", .kept),
      ("model_input_schema_version", .kept), ("model_output_schema_version", .kept),
      ("contextualization", .members
        [("text", .kept), ("resolved_reference_candidates",
          .items durableResolvedReferenceCandidateV2), ("uncertainties", .items uncertaintyV2),
          ("source_message_refs", .items uuidSpelling)]),
      ("task_delta_candidates", .items (.members
        [("candidate_id", uuidSpelling), ("operation", .kept), ("goal_patch", .kept),
          ("input_candidates", .items durableInputCandidateV2), ("confidence", .kept)])),
      ("candidate_validation", .items (.members
        [("candidate_ref", uuidSpelling), ("decision", .kept), ("reason_code", .kept)])),
      ("accepted_delta_refs", .items uuidSpelling), ("proposed_base_task_state_version", .kept),
      ("validated_task_state_version", .kept), ("next_move_candidate_ref", .optional uuidSpelling),
      ("created_at", timestampSpelling)]
  | acceptedTaskDeltaV2 => .members
    [("accepted_delta_id", uuidSpelling), ("candidate_ref", uuidSpelling),
      ("message_ref", uuidSpelling), ("operation", .kept), ("goal_text", .kept),
      ("input_binding_refs", .items uuidSpelling),
      ("accepted_at", timestampSpelling), ("task_id", uuidSpelling),
      ("base_task_state_version", .kept),
      ("result_task_state_version", .kept)]
  | taskStateTransition => .members
    [("task_id", uuidSpelling), ("request_unit_id", uuidSpelling), ("from_status", .kept),
      ("to_status", .kept), ("base_state_version", .kept), ("result_state_version", .kept),
      ("reason_ref", uuidSpelling), ("changed_at", timestampSpelling)]
  | toolAttemptRecord => .members
    [("tool_call_id", uuidSpelling), ("attempt_no", .kept), ("started_at", timestampSpelling),
      ("finished_at", .optional timestampSpelling), ("outcome", .kept), ("failure_code", .kept)]

end SourceModel

/-- The data leaves out no member of its model and spells each identifier and timestamp as a dump
does. -/
def SpelledOut (model : SourceModel) (data : Fields) : Prop :=
  model.spelling.isDumped (.object data) = true

instance (model : SourceModel) (data : Fields) : Decidable (SpelledOut model data) :=
  inferInstanceAs (Decidable (_ = true))

end MiniAgent.Application
