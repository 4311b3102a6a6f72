import MiniAgent.Core.Identity
import MiniAgent.Core.TaskState
import MiniAgent.Library.Keyed
import MiniAgent.Library.Outcome

/-! # Validation of a v2 candidate output and its durable closure

Everything up to the complete, quote-free durable record: the canonical re-validation of the
model's input and output, the exact source spans, the projections and the closure builder. A
failure carries only a stable reason code. `uncaught` stands for any other exception that would
leave the function; it is an outcome of the model so that its absence can be proved.
-/

namespace MiniAgent.Core

open ContractModel Keyed
open Except (require require_eq_ok_iff require_of require_errorsIn)

/-- What can leave a v2 function instead of its value. -/
inductive RequestUnderstandingV2Failure
  | aggregate (reasonCode : RequestUnderstandingAggregateFailureCodeV2)
  | atomic (reasonCode : RequestUnderstandingAtomicFailureCodeV2)
  | uncaught (exception : String)
deriving DecidableEq, Repr

abbrev V2 := Except RequestUnderstandingV2Failure

/-- A constructor call whose `ValidationError` becomes a bounded failure. -/
def constructOr {Model : Type} [ContractModel Model] (fields : Model)
    (failure : RequestUnderstandingV2Failure) : V2 Model :=
  match construct fields with
  | some model => .ok model
  | none => .error failure

theorem constructOr_eq_ok_iff {Model : Type} [ContractModel Model] {fields model : Model}
    {failure : RequestUnderstandingV2Failure} :
    constructOr fields failure = .ok model ↔ validates fields = true ∧ model = fields := by
  unfold constructOr construct
  cases validates fields <;> simp [eq_comm]

theorem constructOr_of_validates {Model : Type} [ContractModel Model] {fields : Model}
    (valid : validates fields = true) (failure : RequestUnderstandingV2Failure) :
    constructOr fields failure = .ok fields := constructOr_eq_ok_iff.mpr ⟨valid, rfl⟩

/-- A failure that `AgentRunService` turns into a graceful stop. -/
def RequestUnderstandingV2Failure.IsAggregate (failure : RequestUnderstandingV2Failure) : Prop :=
  ∃ reasonCode, failure = .aggregate reasonCode

theorem isAggregate_aggregate (reasonCode : RequestUnderstandingAggregateFailureCodeV2) :
    (RequestUnderstandingV2Failure.aggregate reasonCode).IsAggregate := ⟨reasonCode, rfl⟩

private theorem constructOr_errorsIn {Model : Type} [ContractModel Model] {fields : Model}
    {errors : RequestUnderstandingV2Failure → Prop} {failure : RequestUnderstandingV2Failure}
    (bounded : errors failure) : Except.ErrorsIn errors (constructOr fields failure) := by
  unfold constructOr
  split <;> simp [bounded]

abbrev durableClosureCommitFailed : RequestUnderstandingV2Failure :=
  .atomic .durableClosureCommitFailed
abbrev sourceProvenanceInvalid : RequestUnderstandingV2Failure :=
  .aggregate .sourceProvenanceInvalid
abbrev modelOutputSchemaInvalid : RequestUnderstandingV2Failure :=
  .aggregate .modelOutputSchemaInvalid
abbrev modelInputSchemaInvalid : RequestUnderstandingV2Failure :=
  .aggregate .modelInputSchemaInvalid

def canonicalRequestInputV2 (value : RequestUnderstandingInput) : V2 RequestUnderstandingInput := do
  require (decide ("schema_version" ∈ value.modelFieldsSet)) modelInputSchemaInvalid
  require (value.schemaVersion == "e2e01-thin-v1") (.aggregate .modelSchemaVersionInvalid)
  require (isExactCanonicalModelV2 value) modelInputSchemaInvalid
  return value

/-- The dumped output's own keys are field names; only the arguments carry keys of the model. -/
def canonicalRequestOutputV2 (value : RequestUnderstandingOutputV2) :
    V2 RequestUnderstandingOutputV2 := do
  require (value.schemaVersion == "e2e01-thin-v2") (.aggregate .modelSchemaVersionInvalid)
  require (value.nextMoveCandidate.arguments.all fun arguments =>
    (findTrustedArgumentField (.object arguments)).isNone)
      (.aggregate .trustedOrPrivateFieldPresent)
  require (isExactCanonicalModelV2 value) modelOutputSchemaInvalid
  return value

/-- Trusted records are re-validated one by one; a mismatch is an internal failure. -/
def canonicalTrustedRecordsV2 {Model : Type} [ContractModel Model] [DecidableEq Model]
    (values : List Model) : V2 (List Model) := do
  require (values.all isExactCanonicalModelV2) durableClosureCommitFailed
  return values

def canonicalCandidateValidationV2 (values : List CandidateValidationRecordV2) :
    V2 (List CandidateValidationRecordV2) := canonicalTrustedRecordsV2 values

def canonicalAcceptedTaskDeltasV2 (values : List AcceptedTaskDeltaV2) :
    V2 (List AcceptedTaskDeltaV2) := canonicalTrustedRecordsV2 values

theorem canonicalRequestInputV2_eq_ok_iff {value result : RequestUnderstandingInput} :
    canonicalRequestInputV2 value = .ok result ↔
      "schema_version" ∈ value.modelFieldsSet ∧ value.schemaVersion = "e2e01-thin-v1" ∧
        validates value = true ∧ result = value := by
  simp only [canonicalRequestInputV2, Except.bind_eq_ok_iff, require_eq_ok_iff, exists_const,
    decide_eq_true_eq, beq_iff_eq, isExactCanonicalModelV2_eq, Except.pure_eq_ok_iff,
    eq_comm (a := value)]

theorem canonicalRequestOutputV2_eq_ok_iff {value result : RequestUnderstandingOutputV2} :
    canonicalRequestOutputV2 value = .ok result ↔ validates value = true ∧ result = value := by
  simp only [canonicalRequestOutputV2, Except.bind_eq_ok_iff, require_eq_ok_iff, exists_const,
    beq_iff_eq, isExactCanonicalModelV2_eq, Except.pure_eq_ok_iff, eq_comm (a := value)]
  constructor
  · exact fun ⟨_, _, valid⟩ => valid
  · rintro ⟨valid, same⟩
    refine ⟨?_, ?_, valid, same⟩ <;> simp_all [validates]

theorem canonicalTrustedRecordsV2_eq_ok_iff {Model : Type} [ContractModel Model] [DecidableEq Model]
    {values result : List Model} : canonicalTrustedRecordsV2 values = .ok result ↔
      (∀ value ∈ values, validates value = true) ∧ result = values := by
  simp only [canonicalTrustedRecordsV2, Except.bind_eq_ok_iff, require_eq_ok_iff, exists_const,
    List.all_eq_true, isExactCanonicalModelV2_eq, Except.pure_eq_ok_iff, eq_comm (a := values)]

theorem canonicalRequestInputV2_errorsIn (value : RequestUnderstandingInput) :
    Except.ErrorsIn (·.IsAggregate) (canonicalRequestInputV2 value) :=
  (require_errorsIn (isAggregate_aggregate _)).bind fun _ _ =>
    (require_errorsIn (isAggregate_aggregate _)).bind fun _ _ =>
      (require_errorsIn (isAggregate_aggregate _)).bind fun _ _ => Except.errorsIn_pure _

theorem canonicalRequestOutputV2_errorsIn (value : RequestUnderstandingOutputV2) :
    Except.ErrorsIn (·.IsAggregate) (canonicalRequestOutputV2 value) :=
  (require_errorsIn (isAggregate_aggregate _)).bind fun _ _ =>
    (require_errorsIn (isAggregate_aggregate _)).bind fun _ _ =>
      (require_errorsIn (isAggregate_aggregate _)).bind fun _ _ => Except.errorsIn_pure _

/-- The Conversation Store's immutable originals, by message reference. -/
abbrev AuthoritativeMessages := Uuid → Option Text

def authoritativeMessageV2 (authoritativeMessages : AuthoritativeMessages) (sourceRef : Uuid) :
    V2 Text :=
  match authoritativeMessages sourceRef with
  | some message => if message.isEmpty then .error sourceProvenanceInvalid else .ok message
  | none => .error sourceProvenanceInvalid

/-- `text.find(part, start)`; `none` is a negative position. -/
def findText (text part : Text) (start : ℕ) : Option ℕ :=
  (List.range' start (text.length + 1 - start)).find? fun position =>
    part.isPrefixOf (text.drop position)

/-- The search loop: it stops at the second occurrence. -/
def firstOccurrences (text part : Text) : List ℕ :=
  match findText text part 0 with
  | none => []
  | some first =>
    match findText text part (first + 1) with
    | none => [first]
    | some second => [first, second]

/-- The quote must prove the candidate value it was given for. -/
def quoteProvesCandidate (sourceQuote candidateValue : Text) : Bool :=
  match normalizeOrderId candidateValue with
  | none => !candidateValue.isEmpty && decide (candidateValue <:+: sourceQuote)
  | some normalizedCandidate => sourceQuoteContainsExactOrderId sourceQuote normalizedCandidate

/-- The unique proper span of a quote in its message, and the hash of that slice. -/
def exactSourceSpanV2 (authoritativeMessage sourceQuote candidateValue : Text) :
    V2 (ℕ × ℕ × Text) := do
  require (!sourceQuote.isEmpty) sourceProvenanceInvalid
  require (sourceQuote != authoritativeMessage) sourceProvenanceInvalid
  match firstOccurrences authoritativeMessage sourceQuote with
  | [start] =>
    require (quoteProvesCandidate sourceQuote candidateValue) sourceProvenanceInvalid
    let stop := start + sourceQuote.length
    let exactSlice := (authoritativeMessage.take stop).drop start
    return (start, stop, sha256Hexdigest exactSlice)
  | _ => throw sourceProvenanceInvalid

theorem authoritativeMessageV2_eq_ok_iff {messages : AuthoritativeMessages} {sourceRef : Uuid}
    {message : Text} : authoritativeMessageV2 messages sourceRef = .ok message ↔
      messages sourceRef = some message ∧ message ≠ [] := by
  unfold authoritativeMessageV2
  cases stored : messages sourceRef with
  | none => simp
  | some text =>
    cases text with
    | nil =>
      simp only [List.isEmpty_nil, ↓reduceIte, reduceCtorEq, Option.some.injEq, false_iff]; grind
    | cons c rest => simp only [List.isEmpty_cons, Bool.false_eq_true, ↓reduceIte]; grind

theorem authoritativeMessageV2_errorsIn (messages : AuthoritativeMessages) (sourceRef : Uuid) :
    Except.ErrorsIn (·.IsAggregate) (authoritativeMessageV2 messages sourceRef) := by
  unfold authoritativeMessageV2
  split
  · split <;> simp [isAggregate_aggregate]
  · simp [isAggregate_aggregate]

private theorem exactSourceSpanV2_errorsIn (message quote value : Text) :
    Except.ErrorsIn (·.IsAggregate) (exactSourceSpanV2 message quote value) := by
  refine (require_errorsIn (isAggregate_aggregate _)).bind fun _ _ =>
    (require_errorsIn (isAggregate_aggregate _)).bind fun _ _ => ?_
  split
  · exact (require_errorsIn (isAggregate_aggregate _)).bind fun _ _ => Except.errorsIn_pure _
  · exact (Except.errorsIn_error _).mpr (isAggregate_aggregate _)

def projectResolvedReferenceV2 (authoritativeMessages : AuthoritativeMessages)
    (candidate : ResolvedReferenceCandidateV2) : V2 DurableResolvedReferenceCandidateV2 := do
  let message ← authoritativeMessageV2 authoritativeMessages candidate.sourceRef
  let (start, stop, quoteHash) ← exactSourceSpanV2 message candidate.sourceQuote
    candidate.candidateValue
  constructOr
    { name := candidate.name
      candidateValue := candidate.candidateValue
      sourceKind := candidate.sourceKind
      sourceRef := candidate.sourceRef
      sourceSpanStart := start
      sourceSpanEndExclusive := stop
      sourceQuoteSha256 := quoteHash
      confidence := candidate.confidence } modelOutputSchemaInvalid

def projectInputCandidateV2 (authoritativeMessages : AuthoritativeMessages)
    (candidate : InputCandidate) : V2 DurableInputCandidateV2 := do
  let message ← authoritativeMessageV2 authoritativeMessages candidate.sourceRef
  let (start, stop, quoteHash) ← exactSourceSpanV2 message candidate.sourceQuote
    candidate.candidateValue
  constructOr
    { name := candidate.name
      candidateValue := candidate.candidateValue
      semanticRole := candidate.semanticRole
      authority := candidate.authority
      sourceKind := candidate.sourceKind
      sourceRef := candidate.sourceRef
      sourceSpanStart := start
      sourceSpanEndExclusive := stop
      sourceQuoteSha256 := quoteHash
      confidence := candidate.confidence } modelOutputSchemaInvalid

def projectContextualizationV2 (authoritativeMessages : AuthoritativeMessages)
    (contextualization : QueryContextualizationCandidateV2) :
    V2 DurableQueryContextualizationCandidateV2 := do
  contextualization.sourceMessageRefs.forM fun sourceRef =>
    discard (authoritativeMessageV2 authoritativeMessages sourceRef)
  let projectedReferences ← contextualization.resolvedReferenceCandidates.mapM
    (projectResolvedReferenceV2 authoritativeMessages)
  constructOr
    { text := contextualization.text
      resolvedReferenceCandidates := projectedReferences
      uncertainties := contextualization.uncertainties
      sourceMessageRefs := contextualization.sourceMessageRefs } modelOutputSchemaInvalid

def projectTaskDeltaV2 (authoritativeMessages : AuthoritativeMessages)
    (candidate : TaskDeltaCandidate) : V2 DurableTaskDeltaCandidateV2 := do
  let projectedInputs ← candidate.inputCandidates.mapM
    (projectInputCandidateV2 authoritativeMessages)
  constructOr
    { candidateId := candidate.candidateId
      operation := candidate.operation
      goalPatch := candidate.goalPatch
      inputCandidates := projectedInputs
      confidence := candidate.confidence } modelOutputSchemaInvalid

def isReferenceInVisibleScopeV2 (currentRef : Uuid) (recentRefs : List Uuid)
    (resolved : ResolvedReferenceCandidateV2) : Bool :=
  match resolved.sourceKind with
  | .currentMessage => resolved.sourceRef == currentRef
  | .recentMessage => resolved.sourceRef != currentRef && decide (resolved.sourceRef ∈ recentRefs)

def validateInputVisibleSourceScopeV2 (requestInput : RequestUnderstandingInput)
    (output : RequestUnderstandingOutputV2) : V2 Unit := do
  let currentRef := requestInput.messageRef
  let recentRefs := requestInput.recentMessageRefs
  require (output.contextualization.sourceMessageRefs.all (· ∈ currentRef :: recentRefs))
    sourceProvenanceInvalid
  require (output.contextualization.resolvedReferenceCandidates.all
    (isReferenceInVisibleScopeV2 currentRef recentRefs)) sourceProvenanceInvalid

private theorem projectInputCandidateV2_spec {messages : AuthoritativeMessages}
    {candidate : InputCandidate} {durable : DurableInputCandidateV2}
    (success : projectInputCandidateV2 messages candidate = .ok durable) :
    validates durable = true ∧ durable.name = candidate.name ∧
      durable.candidateValue = candidate.candidateValue ∧ durable.authority = candidate.authority ∧
      durable.sourceRef = candidate.sourceRef := by
  simp only [projectInputCandidateV2, Except.bind_eq_ok_iff] at success
  obtain ⟨message, -, ⟨start, stop, quoteHash⟩, -, success⟩ := success
  obtain ⟨valid, rfl⟩ := constructOr_eq_ok_iff.mp success
  exact ⟨valid, rfl, rfl, rfl, rfl⟩

private theorem projectInputCandidateV2_errorsIn (messages : AuthoritativeMessages)
    (candidate : InputCandidate) :
    Except.ErrorsIn (·.IsAggregate) (projectInputCandidateV2 messages candidate) :=
  (authoritativeMessageV2_errorsIn _ _).bind fun _ _ => (exactSourceSpanV2_errorsIn _ _ _).bind
    fun _ _ => constructOr_errorsIn (isAggregate_aggregate _)

private theorem projectResolvedReferenceV2_errorsIn (messages : AuthoritativeMessages)
    (candidate : ResolvedReferenceCandidateV2) :
    Except.ErrorsIn (·.IsAggregate) (projectResolvedReferenceV2 messages candidate) :=
  (authoritativeMessageV2_errorsIn _ _).bind fun _ _ => (exactSourceSpanV2_errorsIn _ _ _).bind
    fun _ _ => constructOr_errorsIn (isAggregate_aggregate _)

theorem projectContextualizationV2_spec {messages : AuthoritativeMessages}
    {contextualization : QueryContextualizationCandidateV2}
    {durable : DurableQueryContextualizationCandidateV2}
    (success : projectContextualizationV2 messages contextualization = .ok durable) :
    validates durable = true ∧ durable.sourceMessageRefs = contextualization.sourceMessageRefs := by
  simp only [projectContextualizationV2, Except.bind_eq_ok_iff] at success
  obtain ⟨-, -, references, -, success⟩ := success
  obtain ⟨valid, rfl⟩ := constructOr_eq_ok_iff.mp success
  exact ⟨valid, rfl⟩

theorem projectContextualizationV2_errorsIn (messages : AuthoritativeMessages)
    (contextualization : QueryContextualizationCandidateV2) :
    Except.ErrorsIn (·.IsAggregate) (projectContextualizationV2 messages contextualization) := by
  refine Except.ErrorsIn.bind (.forM fun sourceRef _ => ?_) fun _ _ =>
    Except.ErrorsIn.bind (.mapM fun candidate _ => projectResolvedReferenceV2_errorsIn _ candidate)
      fun _ _ => constructOr_errorsIn (isAggregate_aggregate _)
  exact (authoritativeMessageV2_errorsIn _ _).map _

/-- What the durable Candidate keeps of the emitted one. -/
structure ProjectsTaskDelta (candidate : TaskDeltaCandidate)
    (durable : DurableTaskDeltaCandidateV2) :
    Prop where
  valid : validates durable = true
  candidateId : durable.candidateId = candidate.candidateId
  operation : durable.operation = candidate.operation
  goalPatch : durable.goalPatch = candidate.goalPatch
  inputs : List.Forall₂ (fun (input : InputCandidate) (projected : DurableInputCandidateV2) =>
    projected.name = input.name ∧ projected.candidateValue = input.candidateValue ∧
      projected.authority = input.authority ∧ projected.sourceRef = input.sourceRef)
    candidate.inputCandidates durable.inputCandidates

theorem projectTaskDeltaV2_spec {messages : AuthoritativeMessages} {candidate : TaskDeltaCandidate}
    {durable : DurableTaskDeltaCandidateV2}
    (success : projectTaskDeltaV2 messages candidate = .ok durable) :
    ProjectsTaskDelta candidate durable := by
  simp only [projectTaskDeltaV2, Except.bind_eq_ok_iff, Except.mapM_eq_ok_iff] at success
  obtain ⟨inputs, projected, success⟩ := success
  obtain ⟨valid, rfl⟩ := constructOr_eq_ok_iff.mp success
  exact ⟨valid, rfl, rfl, rfl, projected.imp fun _ _ kept => (projectInputCandidateV2_spec kept).2⟩

theorem projectTaskDeltaV2_errorsIn (messages : AuthoritativeMessages)
    (candidate : TaskDeltaCandidate) :
    Except.ErrorsIn (·.IsAggregate) (projectTaskDeltaV2 messages candidate) :=
  Except.ErrorsIn.bind (.mapM fun input _ => projectInputCandidateV2_errorsIn _ input)
    fun _ _ => constructOr_errorsIn (isAggregate_aggregate _)

theorem validateInputVisibleSourceScopeV2_errorsIn (requestInput : RequestUnderstandingInput)
    (output : RequestUnderstandingOutputV2) :
    Except.ErrorsIn (·.IsAggregate) (validateInputVisibleSourceScopeV2 requestInput output) :=
  (require_errorsIn (isAggregate_aggregate _)).bind fun _ _ =>
    require_errorsIn (isAggregate_aggregate _)

/-- The version chain of the accepted children, in the order their Candidates were emitted. -/
def versionChainFrom (childByCandidate : Uuid → Option AcceptedTaskDeltaV2) :
    (lastVersionByTask : Uuid → Option ℕ) → List TaskDeltaCandidate → Bool
  | _, [] => true
  | lastVersionByTask, candidate :: rest =>
    match childByCandidate candidate.candidateId with
    | none => versionChainFrom childByCandidate lastVersionByTask rest
    | some child =>
      (match lastVersionByTask child.taskId with
        | none => child.baseTaskStateVersion.isNone
        | some previousVersion => child.baseTaskStateVersion == some previousVersion &&
            child.resultTaskStateVersion == previousVersion + 1) &&
      versionChainFrom childByCandidate
        (fun taskId => if taskId = child.taskId then some child.resultTaskStateVersion
          else lastVersionByTask taskId) rest

/-- The candidate references of the ACCEPT decisions. -/
def acceptedCandidateRefs (validations : List CandidateValidationRecordV2) : List Uuid :=
  (validations.filter (·.decision == .accept)).map (·.candidateRef)

/-- An accepted child repeats its emitted Candidate and the one trusted timestamp. -/
def childMatchesEmitted (output : RequestUnderstandingOutputV2) (now : Datetime)
    (child : AcceptedTaskDeltaV2) : Bool :=
  match lastByKey (·.candidateId) output.taskDeltaCandidates child.candidateRef with
  | none => false
  | some emitted => child.messageRef == output.messageRef && child.acceptedAt == now &&
      child.operation == emitted.operation && allDistinct child.inputBindingRefs

def validateDurableClosureV2 (output : RequestUnderstandingOutputV2)
    (candidateValidation : List CandidateValidationRecordV2)
    (acceptedTaskDeltas : List AcceptedTaskDeltaV2) (now : Datetime) : V2 Unit := do
  let emittedIds := output.taskDeltaCandidates.map (·.candidateId)
  let validationRefs := candidateValidation.map (·.candidateRef)
  require (allDistinct validationRefs && sameSet validationRefs emittedIds)
    durableClosureCommitFailed
  let childCandidateRefs := acceptedTaskDeltas.map (·.candidateRef)
  require (allDistinct childCandidateRefs &&
    sameSet childCandidateRefs (acceptedCandidateRefs candidateValidation) &&
    allDistinct (acceptedTaskDeltas.map (·.acceptedDeltaId)) &&
    allDistinct (acceptedTaskDeltas.map fun child => (child.acceptedDeltaId, child.taskId)))
    durableClosureCommitFailed
  require (acceptedTaskDeltas.all (childMatchesEmitted output now)) durableClosureCommitFailed
  require (versionChainFrom (lastByKey (·.candidateRef) acceptedTaskDeltas) (fun _ => none)
    output.taskDeltaCandidates) durableClosureCommitFailed

structure RequestUnderstandingClosureV2 where
  record : RequestUnderstandingRecordV2
  acceptedTaskDeltas : List AcceptedTaskDeltaV2
deriving DecidableEq, Repr

/-- The accepted child keeps the projection of its durable Candidate. -/
def childMatchesDurable (record : RequestUnderstandingRecordV2)
    (child : AcceptedTaskDeltaV2) : Bool :=
  (match lastByKey (·.candidateId) record.taskDeltaCandidates child.candidateRef with
    | none => false
    | some candidate => child.messageRef == record.messageRef &&
        child.operation == candidate.operation && child.goalText == candidate.goalPatch) &&
  allDistinct child.inputBindingRefs && child.acceptedAt == record.createdAt

instance : ContractModel RequestUnderstandingClosureV2 where
  validates closure :=
    let record := closure.record
    let childCandidateRefs := closure.acceptedTaskDeltas.map (·.candidateRef)
    let childIds := closure.acceptedTaskDeltas.map (·.acceptedDeltaId)
    isExactCanonicalModelV2 record &&
    closure.acceptedTaskDeltas.all isExactCanonicalModelV2 &&
    allDistinct childCandidateRefs && allDistinct childIds &&
    sameSet childCandidateRefs (acceptedCandidateRefs record.candidateValidation) &&
    sameSet childIds record.acceptedDeltaRefs &&
    closure.acceptedTaskDeltas.all (childMatchesDurable record)

/-- The fields of the durable record. -/
def durableRecordV2 (requestInput : RequestUnderstandingInput)
    (output : RequestUnderstandingOutputV2) (requestUnderstandingRecordId : Uuid)
    (contextualization : DurableQueryContextualizationCandidateV2)
    (candidates : List DurableTaskDeltaCandidateV2)
    (candidateValidation : List CandidateValidationRecordV2)
    (acceptedTaskDeltas : List AcceptedTaskDeltaV2)
    (proposedBaseTaskStateVersion validatedTaskStateVersion : Option ℕ)
    (nextMoveCandidateRef : Option Uuid) (now : Datetime) : RequestUnderstandingRecordV2 where
  requestUnderstandingRecordId := requestUnderstandingRecordId
  runId := requestInput.runId
  messageRef := output.messageRef
  schemaVersion := "request_understanding_record.p0.v2"
  modelInputSchemaVersion := requestInput.schemaVersion
  modelOutputSchemaVersion := output.schemaVersion
  contextualization := contextualization
  taskDeltaCandidates := candidates
  candidateValidation := candidateValidation
  acceptedDeltaRefs := acceptedTaskDeltas.map (·.acceptedDeltaId)
  proposedBaseTaskStateVersion := proposedBaseTaskStateVersion
  validatedTaskStateVersion := validatedTaskStateVersion
  nextMoveCandidateRef := nextMoveCandidateRef
  createdAt := now

/-- Build one complete, quote-free v2 durable closure or fail bounded. -/
def buildRequestUnderstandingClosureV2 (requestInput : RequestUnderstandingInput)
    (output : RequestUnderstandingOutputV2) (authoritativeMessages : AuthoritativeMessages)
    (requestUnderstandingRecordId : Uuid) (candidateValidation : List CandidateValidationRecordV2)
    (acceptedTaskDeltas : List AcceptedTaskDeltaV2)
    (proposedBaseTaskStateVersion validatedTaskStateVersion : Option ℕ)
    (nextMoveCandidateRef : Option Uuid) (now : Datetime) : V2 RequestUnderstandingClosureV2 := do
  let canonicalInput ← canonicalRequestInputV2 requestInput
  let canonicalOutput ← canonicalRequestOutputV2 output
  let canonicalValidation ← canonicalCandidateValidationV2 candidateValidation
  let canonicalChildren ← canonicalAcceptedTaskDeltasV2 acceptedTaskDeltas
  require now.requireUtc durableClosureCommitFailed
  require (canonicalInput.messageRef == canonicalOutput.messageRef) sourceProvenanceInvalid
  validateInputVisibleSourceScopeV2 canonicalInput canonicalOutput
  let currentMessage ← authoritativeMessageV2 authoritativeMessages canonicalInput.messageRef
  require (currentMessage == canonicalInput.originalQuery) sourceProvenanceInvalid
  require (proposedBaseTaskStateVersion == canonicalOutput.nextMoveCandidate.baseTaskStateVersion)
    durableClosureCommitFailed
  require (nextMoveCandidateRef.isSome ||
    (proposedBaseTaskStateVersion.isNone && validatedTaskStateVersion.isNone))
      durableClosureCommitFailed
  let projectedContextualization ←
    projectContextualizationV2 authoritativeMessages canonicalOutput.contextualization
  let projectedCandidates ←
    canonicalOutput.taskDeltaCandidates.mapM (projectTaskDeltaV2 authoritativeMessages)
  validateDurableClosureV2 canonicalOutput canonicalValidation canonicalChildren now
  let record ← constructOr
    (durableRecordV2 canonicalInput canonicalOutput requestUnderstandingRecordId
    projectedContextualization projectedCandidates canonicalValidation canonicalChildren
    proposedBaseTaskStateVersion validatedTaskStateVersion nextMoveCandidateRef now)
    durableClosureCommitFailed
  constructOr { record := record, acceptedTaskDeltas := canonicalChildren }
    durableClosureCommitFailed

/-- What a built closure keeps of its arguments. -/
structure ClosesRequest (output : RequestUnderstandingOutputV2) (recordId : Uuid)
    (validations : List CandidateValidationRecordV2) (children : List AcceptedTaskDeltaV2)
    (proposed validated : Option ℕ) (moveRef : Option Uuid)
    (closure : RequestUnderstandingClosureV2) : Prop where
  valid : validates closure = true
  recordId : closure.record.requestUnderstandingRecordId = recordId
  acceptedTaskDeltas : closure.acceptedTaskDeltas = children
  candidateValidation : closure.record.candidateValidation = validations
  acceptedDeltaRefs : closure.record.acceptedDeltaRefs = children.map (·.acceptedDeltaId)
  proposedVersion : closure.record.proposedBaseTaskStateVersion = proposed
  validatedVersion : closure.record.validatedTaskStateVersion = validated
  nextMoveCandidateRef : closure.record.nextMoveCandidateRef = moveRef
  messageRef : closure.record.messageRef = output.messageRef
  candidates : List.Forall₂ ProjectsTaskDelta output.taskDeltaCandidates
    closure.record.taskDeltaCandidates

theorem RequestUnderstandingClosureV2.validates_iff (closure : RequestUnderstandingClosureV2) :
    validates closure = true ↔ validates closure.record = true ∧
      (∀ child ∈ closure.acceptedTaskDeltas, validates child = true) ∧
      (closure.acceptedTaskDeltas.map (·.candidateRef)).Nodup ∧
      (closure.acceptedTaskDeltas.map (·.acceptedDeltaId)).Nodup ∧
      (∀ ref, ref ∈ closure.acceptedTaskDeltas.map (·.candidateRef) ↔
        ref ∈ acceptedCandidateRefs closure.record.candidateValidation) ∧
      (∀ childId, childId ∈ closure.acceptedTaskDeltas.map (·.acceptedDeltaId) ↔
        childId ∈ closure.record.acceptedDeltaRefs) ∧
      ∀ child ∈ closure.acceptedTaskDeltas, childMatchesDurable closure.record child = true := by
  change (_ && _) = true ↔ _
  simp only [Bool.and_eq_true, List.all_eq_true, allDistinct_iff, sameSet_iff,
    isExactCanonicalModelV2_eq, and_assoc]

theorem buildRequestUnderstandingClosureV2_spec {requestInput : RequestUnderstandingInput}
    {output : RequestUnderstandingOutputV2} {messages : AuthoritativeMessages} {recordId : Uuid}
    {validations : List CandidateValidationRecordV2} {children : List AcceptedTaskDeltaV2}
    {proposed validated : Option ℕ} {moveRef : Option Uuid} {now : Datetime}
    {closure : RequestUnderstandingClosureV2}
    (success : buildRequestUnderstandingClosureV2 requestInput output messages recordId validations
      children
      proposed validated moveRef now = .ok closure) :
    ClosesRequest output recordId validations children proposed validated moveRef closure := by
  simp only [buildRequestUnderstandingClosureV2, Except.bind_eq_ok_iff, require_eq_ok_iff,
    exists_const, canonicalRequestOutputV2_eq_ok_iff, canonicalCandidateValidationV2,
    canonicalAcceptedTaskDeltasV2,
    canonicalTrustedRecordsV2_eq_ok_iff, Except.mapM_eq_ok_iff, constructOr_eq_ok_iff] at success
  obtain ⟨_, -, _, ⟨-, rfl⟩, _, ⟨-, rfl⟩, _, ⟨-, rfl⟩, -, -, _, -, _, -, -, -, -, _, -, _,
    candidates, _, -, _, ⟨-, rfl⟩, valid, rfl⟩ := success
  exact ⟨valid, rfl, rfl, rfl, rfl, rfl, rfl, rfl, rfl,
    candidates.imp fun _ _ kept => projectTaskDeltaV2_spec kept⟩

/-- Children that each start their own Task satisfy the version chain. -/
theorem versionChainFrom_of_fresh {childByCandidate : Uuid → Option AcceptedTaskDeltaV2}
    {lastVersionByTask : Uuid → Option ℕ} {candidates : List TaskDeltaCandidate}
    (base : ∀ candidateId child, childByCandidate candidateId = some child →
      child.baseTaskStateVersion = none)
    (distinct : ((candidates.filterMap fun candidate => childByCandidate candidate.candidateId).map
      (·.taskId)).Nodup)
    (fresh : ∀ candidate ∈ candidates, ∀ child,
      childByCandidate candidate.candidateId = some child → lastVersionByTask child.taskId = none) :
    versionChainFrom childByCandidate lastVersionByTask candidates = true := by
  induction candidates generalizing lastVersionByTask with
  | nil => rfl
  | cons candidate rest ih =>
    have later := fun other member => fresh other (List.mem_cons_of_mem _ member)
    cases found : childByCandidate candidate.candidateId with
    | none =>
      simp only [List.filterMap_cons, found] at distinct
      simp only [versionChainFrom, found]
      exact ih distinct later
    | some child =>
      simp only [List.filterMap_cons, found, List.map_cons, List.nodup_cons] at distinct
      simp only [versionChainFrom, found, fresh candidate (List.mem_cons_self ..) child found,
        base _ child found, Option.isNone_none, Bool.true_and]
      refine ih distinct.2 fun other member sibling stored => ?_
      have different : sibling.taskId ≠ child.taskId := by
        intro same
        refine distinct.1 (same ▸ List.mem_map_of_mem ?_)
        exact List.mem_filterMap.mpr ⟨other, member, stored⟩
      rw [if_neg different]
      exact later other member sibling stored

end MiniAgent.Core
