import MiniAgent.Application.AgentRunService

/-! # Which calls the stages of a Run make

The milestones of a Run are its start, the commit of its Task graph, the loads of the current graph,
the dispatch of the order lookup, the Observation it leads to and the finalization. Every other
stage is quiet: it makes none of them and leaves the failure cursor as it was.
-/

namespace MiniAgent.Application

open MiniAgent.Core ContractModel
open Coroutine

inductive Milestone
  | startRun
  | commitGraph
  | loadGraph
  | getOrder
  | saveObservation
  | finalizeRun
deriving DecidableEq, Repr

/-- The milestone that a call is, if it is one. -/
def Call.milestone : Call → Option Milestone
  | .port (.startRunIfCreated _) => some .startRun
  | .port (.createInitialTaskGraphV2IfCurrent _) => some .commitGraph
  | .port (.loadTaskForOwner ..) | .port (.loadRequestUnitForOwner ..) => some .loadGraph
  | .port (.getOrder ..) => some .getOrder
  | .port (.saveObservation _) => some .saveObservation
  | .port (.finalizeRunIfActive _) => some .finalizeRun
  | _ => none

def Call.Quiet (call : Call) : Prop := call.milestone = none

section Calls

variable {σ : Type} {kind : Call → Prop}

private theorem clock_within (allowed : kind .clock) : (clock : Runtime σ Datetime).Within kind :=
  within_ask allowed

private theorem uuidFactory_within (allowed : kind .uuidFactory) :
    (uuidFactory : Runtime σ Uuid).Within kind :=
  within_ask allowed

private theorem request_within {awaited : PortRequest} (allowed : kind (.port awaited)) :
    (request awaited : Runtime σ awaited.Reply).Within kind :=
  (within_ask allowed).bind fun _ => within_ofExcept _

theorem constructed_within {Model : Type} [ContractModel Model] (fields : Model) :
    (constructed fields : Runtime σ Model).Within kind := by
  unfold constructed
  split
  · exact within_pure _
  · exact within_throw _

/-- The rest runs on the constructed model; otherwise its `ValidationError` is raised. -/
theorem constructed_bind {Model α : Type} [ContractModel Model] {fields : Model}
    {next : Model → Runtime σ α} {state : σ}
    {post : Except Raised α → σ → List (Event Answer) → Prop}
    (valid : validates fields = true → (next fields).Ensures state post)
    (invalid : validates fields = false → post (.error .validationError) state []) :
    (constructed fields >>= next).Ensures state post := by
  unfold constructed construct
  cases checked : validates fields
  · exact ensures_bind_iff.mpr (ensures_throw_iff.mpr (invalid checked))
  · exact valid checked

private theorem constructed_bind_within {Model α : Type} [ContractModel Model] {fields : Model}
    {next : Model → Runtime σ α} (valid : validates fields = true → (next fields).Within kind) :
    (constructed fields >>= next).Within kind := by
  intro state
  exact constructed_bind (fun checked => valid checked state) fun _ => ⟨rfl, List.forall_mem_nil _⟩

/-- A request makes one call and passes on what it was answered. -/
theorem request_ensures_iff {awaited : PortRequest} {state : σ}
    {post : Except Raised awaited.Reply → σ → List (Event Answer) → Prop} :
    (request awaited : Runtime σ awaited.Reply).Ensures state post ↔
      ∀ answer, post answer state [⟨.port awaited, answer⟩] := by
  unfold request
  simp only [ensures_bind_iff, ensures_ask_iff, ensures_ofExcept_iff, List.append_nil]

/-- The rest runs on the reply; an exception of the port is raised. -/
theorem request_bind {α : Type} {awaited : PortRequest} {next : awaited.Reply → Runtime σ α}
    {state : σ} {post : Except Raised α → σ → List (Event Answer) → Prop}
    (replied : ∀ reply, (next reply).Ensures state fun outcome final events =>
      post outcome final (⟨.port awaited, .ok reply⟩ :: events))
    (raised : ∀ failure, post (.error failure) state [⟨.port awaited, .error failure⟩]) :
    (request awaited >>= next).Ensures state post := by
  rw [ensures_bind_iff, request_ensures_iff]
  rintro (failure | reply)
  · exact raised failure
  · exact replied reply

end Calls

section Quiet

variable {σ : Type}

theorem clock_quiet : (clock : Runtime σ Datetime).Within Call.Quiet := clock_within rfl

theorem uuidFactory_quiet : (uuidFactory : Runtime σ Uuid).Within Call.Quiet :=
  uuidFactory_within rfl

theorem request_quiet {awaited : PortRequest} (quiet : (Call.port awaited).milestone = none) :
    (request awaited : Runtime σ awaited.Reply).Within Call.Quiet := request_within quiet

private theorem orClock_quiet (occurredAt : Option Datetime) :
    (orClock occurredAt : Runtime σ Datetime).Within Call.Quiet := by
  cases occurredAt with
  | none => exact clock_quiet
  | some known => exact within_pure known

theorem appendTrace_quiet (eventType : TraceEventType) (runId : Uuid)
    (fields : TraceEvent → TraceEvent) (occurredAt : Option Datetime) :
    (appendTrace eventType runId fields occurredAt : Runtime σ Unit).Within Call.Quiet := by
  refine uuidFactory_quiet.bind fun traceEventId => ?_
  refine (orClock_quiet occurredAt).bind fun occurred => ?_
  exact (constructed_within _).bind fun event => request_quiet rfl

theorem saveManifest_quiet (service : AgentRunService) (runId modelCallId : Uuid) (purpose : String)
    (messageId : Uuid) (task : Option TaskRecord) (observationRef : Option VersionedRecordRef) :
    (saveManifest service runId modelCallId purpose messageId task observationRef :
      Runtime σ ContextManifest).Within Call.Quiet := by
  refine uuidFactory_quiet.bind fun contextManifestId => ?_
  refine clock_quiet.bind fun assembledAt => ?_
  refine (constructed_within _).bind fun manifest => ?_
  refine (request_quiet rfl).bind fun saved => ?_
  exact (appendTrace_quiet _ _ _ _).bind fun appended => within_pure _

theorem appendInitialDecisionTrace_quiet (runId modelCallId contextManifestId : Uuid)
    (decision : InitialRequestRoutableTaskGraphDecisionV2) :
    (appendInitialDecisionTrace runId modelCallId contextManifestId decision :
      Runtime σ Unit).Within Call.Quiet :=
  (appendTrace_quiet _ _ _ _).bind fun _ => (appendTrace_quiet _ _ _ _).bind fun _ =>
    (appendTrace_quiet _ _ _ _).bind fun _ => (appendTrace_quiet _ _ _ _).bind fun _ =>
      appendTrace_quiet _ _ _ _

theorem appendToolTrace_quiet (created terminal : ToolCallRecord) (attempt : ToolAttemptRecord) :
    (appendToolTrace created terminal attempt : Runtime σ Unit).Within Call.Quiet := by
  refine (appendTrace_quiet _ _ _ _).bind fun createdTrace => ?_
  refine (appendTrace_quiet _ _ _ _).bind fun startedTrace => ?_
  split
  · exact within_throw _
  · exact (appendTrace_quiet _ _ _ _).bind fun terminalTrace => appendTrace_quiet _ _ _ _

end Quiet

theorem resolveArtifact_quiet (service : AgentRunService) :
    (resolveArtifact service).Within Call.Quiet := by
  refine (constructed_within _).bind fun artifact => ?_
  refine (request_quiet rfl).bind fun stored => ?_
  refine (request_quiet rfl).bind fun resolved => ?_
  split
  · exact (within_require _ _).bind fun same => within_pure _
  · exact within_throw _

theorem openTurn_quiet (service : AgentRunService) (command : AgentRunCommand)
    (ownerScope : TrustedOwnerScope) :
    (openTurn service command ownerScope).Within Call.Quiet := by
  refine (resolveArtifact_quiet service).bind fun resolvedArtifact => ?_
  refine clock_quiet.bind fun now => ?_
  refine uuidFactory_quiet.bind fun conversationId => ?_
  refine (constructed_within _).bind fun conversation => ?_
  refine uuidFactory_quiet.bind fun messageId => ?_
  refine (constructed_within _).bind fun userMessage => ?_
  refine (request_quiet rfl).bind fun conversationSaved => ?_
  refine (request_quiet rfl).bind fun messageAppended => ?_
  refine (request_quiet rfl).bind fun messages => ?_
  exact (within_ofExcept _).bind fun authoritative => within_pure _

theorem beginUnderstanding_quiet (service : AgentRunService) (turn : RunningTurn) :
    (beginUnderstanding service turn).Within Call.Quiet := by
  refine (appendTrace_quiet _ _ _ _).bind fun accepted => ?_
  refine (appendTrace_quiet _ _ _ _).bind fun started => ?_
  refine uuidFactory_quiet.bind fun modelCallId => ?_
  refine (appendTrace_quiet _ _ _ _).bind fun understanding => ?_
  exact (saveManifest_quiet _ _ _ _ _ _ _).bind fun manifest => within_pure _

theorem awaitProposal_quiet (modelRequest : RequestUnderstandingInput) :
    (awaitProposal modelRequest).Within Call.Quiet := by
  refine ((request_quiet rfl).map Sum.inr).tryCatch fun raised => ?_
  split
  · exact within_pure _
  · exact within_pure _
  · exact within_throw _
  · exact within_throw _
  · exact within_throw _

theorem allocateIdentities_quiet (candidate : TaskDeltaCandidate) :
    (allocateIdentities candidate).Within Call.Quiet := by
  refine uuidFactory_quiet.bind fun acceptedDeltaId => ?_
  refine uuidFactory_quiet.bind fun taskId => ?_
  refine uuidFactory_quiet.bind fun requestUnitId => ?_
  refine uuidFactory_quiet.bind fun bindingId => ?_
  exact constructed_within _

theorem reduceProposal_quiet (turn : RunningTurn) (modelRequest : RequestUnderstandingInput)
    (output : Option RequestUnderstandingOutputV2) :
    (reduceProposal turn modelRequest output).Within Call.Quiet := by
  refine clock_quiet.bind fun reducedAt => ?_
  refine uuidFactory_quiet.bind fun recordId => ?_
  cases output with
  | none => exact within_throw _
  | some output =>
    refine (within_mapM fun candidate _ => allocateIdentities_quiet candidate).bind
      fun allocations => ?_
    refine uuidFactory_quiet.bind fun nextMoveCandidateRef => ?_
    dsimp only
    split
    · exact within_pure _
    · exact within_pure _
    · exact within_throw _
    · exact within_throw _

theorem revalidateMove_quiet (turn : RunningTurn) (modelCallId : Uuid)
    (decision : InitialRequestRoutableTaskGraphDecisionV2) :
    (revalidateMove turn modelCallId decision).Within Call.Quiet := by
  refine (within_ofExcept _).bind fun move => ?_
  exact (appendTrace_quiet _ _ _ _).bind fun appended => within_pure _

theorem decideGate_quiet (service : AgentRunService) (turn : RunningTurn)
    (move : RevalidatedNextMove) (current : CurrentGraph) (inputBinding : InputBinding)
    (manifest : ContextManifest) (modelCallId : Uuid) :
    (decideGate service turn move current inputBinding manifest modelCallId).Within Call.Quiet := by
  refine uuidFactory_quiet.bind fun gateDecisionId => ?_
  refine clock_quiet.bind fun decidedAt => ?_
  dsimp only
  split
  · exact within_throw _
  · refine (request_quiet rfl).bind fun saved => ?_
    exact (appendTrace_quiet _ _ _ _).bind fun appended => within_pure _

theorem remainingRunTimeBudgetMs_quiet (service : AgentRunService) (runningRun : AgentRunRecord) :
    (remainingRunTimeBudgetMs service runningRun).Within Call.Quiet := by
  refine clock_quiet.bind fun current => ?_
  refine (within_require _ _).bind fun comparable => ?_
  refine (within_ofExcept _).bind fun remainingMs => ?_
  exact (within_require _ _).bind fun positive => within_pure _

theorem awaitPlan_quiet (summary : OrderSummaryProjection) :
    (awaitPlan summary).Within Call.Quiet := by
  refine Within.tryCatch ?_ fun raised => ?_
  · refine (constructed_within _).bind fun input => ?_
    exact (request_quiet rfl).bind fun plan => within_pure _
  · split
    · exact within_pure _
    · exact within_throw _
    · exact within_throw _

/-- The committed graph is in the cursor; without an APPLIED commit the cursor is as before. -/
theorem commitInitialGraph_spec (turn : RunningTurn) (reducedAt : Datetime)
    (decision : InitialRequestRoutableTaskGraphDecisionV2) (state : RunFailureState) :
    (commitInitialGraph turn reducedAt decision).Ensures state fun outcome final events =>
      let command := initialGraphCommand turn reducedAt decision
      match outcome with
      | .ok _ => validates command = true ∧
          events = [⟨.port (.createInitialTaskGraphV2IfCurrent command), .ok .applied⟩] ∧
          final = { state with
            activeLink := some (initialRunTaskLink turn decision.taskGraph.task)
            resultTask := some decision.taskGraph.task }
      | .error _ => final = state ∧ (events = [] ∨ ∃ answer, answer ≠ .ok .applied ∧
          events = [⟨.port (.createInitialTaskGraphV2IfCurrent command), answer⟩]) := by
  unfold commitInitialGraph
  refine constructed_bind (fun valid => ?_) fun _ => ⟨rfl, .inl rfl⟩
  refine request_bind (fun result => ?_) fun raised => ⟨rfl, .inr ⟨.error raised, nofun, rfl⟩⟩
  refine ensures_require_bind (fun applied => ?_) fun refused => ?_
  · obtain rfl : result = .applied := by simpa using applied
    exact ensures_modify_iff.mpr ⟨valid, rfl, rfl⟩
  · exact ⟨rfl, .inr ⟨.ok result, by simpa using refused, rfl⟩⟩

private theorem insertCreatedRun_quiet (service : AgentRunService) (turn : OpenedTurn) :
    (insertCreatedRun service turn).Within Call.Quiet := by
  refine uuidFactory_quiet.bind fun runId => ?_
  refine (constructed_within _).bind fun createdRun => ?_
  refine (constructed_within _).bind fun creation => ?_
  refine (request_quiet rfl).bind fun insertResult => ?_
  refine (within_require _ _).bind fun inserted => ?_
  refine (constructed_within _).bind fun runningRun => ?_
  exact constructed_within _

/-- The started Run is in the cursor; without an APPLIED start the cursor is as before. The start
request is the last event. -/
theorem startRun_spec (service : AgentRunService) (turn : OpenedTurn) (state : RunFailureState) :
    (startRun service turn).Ensures state fun outcome final events =>
      ∃ before, (∀ event ∈ before, event.call.Quiet) ∧
        match outcome with
        | .ok running => ∃ start : TransitionRunCommand,
            running = { turn with runningRun := start.nextRecord } ∧
            final = { state with runningRun := some start.nextRecord } ∧
            events = before ++ [⟨.port (.startRunIfCreated start), .ok .applied⟩]
        | .error _ => final = state ∧ (events = before ∨ ∃ start answer, answer ≠ .ok .applied ∧
            events = before ++ [⟨.port (.startRunIfCreated start), answer⟩]) := by
  refine (insertCreatedRun_quiet service turn).ensures_bind ?_ ?_
  · intro failure before quiet
    exact ⟨before, quiet, rfl, .inl rfl⟩
  · intro start before quiet
    refine request_bind (fun result => ?_) fun raised => ?_
    · refine ensures_require_bind (fun applied => ?_) fun refused => ?_
      · obtain rfl : result = .applied := by simpa using applied
        refine ensures_bind_iff.mpr (ensures_modify_iff.mpr (ensures_pure_iff.mpr ?_))
        exact ⟨before, quiet, start, rfl, rfl, rfl⟩
      · exact ⟨before, quiet, rfl, .inr ⟨start, .ok result, by simpa using refused, rfl⟩⟩
    · exact ⟨before, quiet, rfl, .inr ⟨start, .error raised, nofun, rfl⟩⟩

/-- The three requests that load the current graph, as far as they got. -/
theorem loadCurrentGraph_spec (turn : RunningTurn) (graph : InitialAcceptedTaskGraphV2)
    (state : RunFailureState) :
    (loadCurrentGraph turn graph).Ensures state fun outcome final events =>
      ∃ hooked : Event Answer, hooked.call.Quiet ∧
        match outcome with
        | .ok current => ∃ task unit,
            current = ⟨task.value, unit.value, initialRunTaskLink turn graph.task⟩ ∧
            final = { state with resultTask := some task.value } ∧
            events = [hooked, ⟨.port (.loadTaskForOwner turn.ownerScope graph.task.taskId),
              .ok (some task)⟩, ⟨.port
                (.loadRequestUnitForOwner turn.ownerScope graph.requestUnit.requestUnitId),
                .ok (some unit)⟩]
        | .error _ => final = state ∧ (events = [hooked] ∨ ∃ taskAnswer,
            events = [hooked, ⟨.port (.loadTaskForOwner turn.ownerScope graph.task.taskId),
              taskAnswer⟩] ∨
            ∃ unitAnswer, events = [hooked,
              ⟨.port (.loadTaskForOwner turn.ownerScope graph.task.taskId), taskAnswer⟩,
              ⟨.port (.loadRequestUnitForOwner turn.ownerScope graph.requestUnit.requestUnitId),
                unitAnswer⟩] ∧
              ∀ task unit, taskAnswer = .ok (some task) → unitAnswer ≠ .ok (some unit)) := by
  let hooked (answer : Except Raised Unit) : Event Answer :=
    ⟨.port (.afterRevalidation turn.runId graph.task graph.requestUnit), answer⟩
  unfold loadCurrentGraph
  refine request_bind (fun done => ?_) fun raised => ⟨hooked (.error raised), rfl, rfl, .inl rfl⟩
  refine request_bind (fun loadedTask => ?_) fun raised =>
    ⟨hooked (.ok done), rfl, rfl, .inr ⟨_, .inl rfl⟩⟩
  refine request_bind (fun loadedUnit => ?_) fun raised =>
    ⟨hooked (.ok done), rfl, rfl, .inr ⟨_, .inr ⟨_, rfl, fun _ _ _ => nofun⟩⟩⟩
  rcases loadedTask with _ | task
  · exact ensures_throw_iff.mpr ⟨hooked (.ok done), rfl, rfl,
      .inr ⟨_, .inr ⟨_, rfl, fun _ _ => nofun⟩⟩⟩
  rcases loadedUnit with _ | unit
  · exact ensures_throw_iff.mpr ⟨hooked (.ok done), rfl, rfl,
      .inr ⟨_, .inr ⟨_, rfl, fun _ _ _ => nofun⟩⟩⟩
  refine ensures_bind_iff.mpr (ensures_modify_iff.mpr (ensures_pure_iff.mpr ?_))
  exact ⟨hooked (.ok done), rfl, task, unit, rfl, rfl, rfl⟩

theorem prepareStopWithoutTask_quiet (turn : RunningTurn) (stopReason : StopReason) :
    (prepareStopWithoutTask turn stopReason).Within Call.Quiet := by
  refine (within_ofExcept _).bind fun result => ?_
  refine (appendTrace_quiet _ _ _ _).bind fun rendered => ?_
  refine clock_quiet.bind fun completedAt => ?_
  refine (constructed_within _).bind fun terminalRun => ?_
  refine uuidFactory_quiet.bind fun messageId => ?_
  refine (constructed_within _).bind fun message => ?_
  refine uuidFactory_quiet.bind fun traceEventId => ?_
  refine (constructed_within _).bind fun runStopped => ?_
  exact (constructed_within _).bind fun command => within_pure _

theorem prepareStopWithTask_quiet (turn : RunningTurn) (graph : CurrentGraph) (stop : TaskStop) :
    (prepareStopWithTask turn graph stop).Within Call.Quiet := by
  refine (within_ofExcept _).bind fun result => ?_
  refine (appendTrace_quiet _ _ _ _).bind fun rendered => ?_
  refine clock_quiet.bind fun changedAt => ?_
  refine (constructed_within _).bind fun transition => ?_
  refine (constructed_within _).bind fun link => ?_
  refine clock_quiet.bind fun completedAt => ?_
  refine (constructed_within _).bind fun terminalRun => ?_
  refine uuidFactory_quiet.bind fun messageId => ?_
  refine (constructed_within _).bind fun message => ?_
  refine uuidFactory_quiet.bind fun taskChangedId => ?_
  refine (constructed_within _).bind fun taskStateChanged => ?_
  refine uuidFactory_quiet.bind fun traceEventId => ?_
  refine (constructed_within _).bind fun runStopped => ?_
  exact (constructed_within _).bind fun command => within_pure _

/-- What a prepared stop commits: a COMPLETED Run with the result of its stop reason. -/
structure PreparedStop.Stops (prepared : PreparedStop) (turn : RunningTurn)
    (stopReason : StopReason) (renderedMessage : Option Text) : Prop where
  valid : validates prepared.command = true
  mapped : mapResult turn.runId stopReason renderedMessage = .ok prepared.result
  carries : prepared.command.terminalResult = some prepared.result
  closes : prepared.command.expectedActiveRecord = turn.runningRun
  completed : prepared.command.terminalRecord.status = .completed
  stopped : prepared.command.terminalRecord.stopReason = some stopReason

theorem mapResult_eq_ok {outcome : Except MappingFailure AgentRunResult} {result : AgentRunResult}
    (mapped : outcome.mapError MappingFailure.raised = .ok result) : outcome = .ok result := by
  cases outcome with
  | error failure => cases mapped
  | ok value => exact congrArg _ (Except.ok.inj mapped)

theorem prepareStopWithoutTask_spec (turn : RunningTurn) (stopReason : StopReason)
    (state : RunFailureState) :
    (prepareStopWithoutTask turn stopReason).Ensures state fun outcome _ _ =>
      ∀ prepared, outcome = .ok prepared → prepared.Stops turn stopReason none := by
  refine ensures_ofExcept_bind (fun result mapped => ?_) fun _ _ _ => nofun
  refine (appendTrace_quiet _ _ _ _).ensures_bind (fun _ _ _ _ => nofun) fun rendered _ _ => ?_
  refine clock_quiet.ensures_bind (fun _ _ _ _ => nofun) fun completedAt _ _ => ?_
  refine constructed_bind (fun _ => ?_) fun _ _ => nofun
  refine uuidFactory_quiet.ensures_bind (fun _ _ _ _ => nofun) fun messageId _ _ => ?_
  refine constructed_bind (fun _ => ?_) fun _ _ => nofun
  refine uuidFactory_quiet.ensures_bind (fun _ _ _ _ => nofun) fun traceEventId _ _ => ?_
  refine constructed_bind (fun _ => ?_) fun _ _ => nofun
  refine constructed_bind (fun valid => ?_) fun _ _ => nofun
  refine ensures_pure_iff.mpr fun prepared same => ?_
  obtain rfl := Except.ok.inj same
  exact ⟨valid, mapResult_eq_ok mapped, rfl, rfl, rfl, rfl⟩

theorem prepareStopWithTask_spec (turn : RunningTurn) (graph : CurrentGraph) (stop : TaskStop)
    (state : RunFailureState) :
    (prepareStopWithTask turn graph stop).Ensures state fun outcome _ _ =>
      ∀ prepared, outcome = .ok prepared →
      prepared.Stops turn stop.stopReason stop.renderedMessage := by
  refine ensures_ofExcept_bind (fun result mapped => ?_) fun _ _ _ => nofun
  refine (appendTrace_quiet _ _ _ _).ensures_bind (fun _ _ _ _ => nofun) fun rendered _ _ => ?_
  refine clock_quiet.ensures_bind (fun _ _ _ _ => nofun) fun changedAt _ _ => ?_
  refine constructed_bind (fun _ => ?_) fun _ _ => nofun
  refine constructed_bind (fun _ => ?_) fun _ _ => nofun
  refine clock_quiet.ensures_bind (fun _ _ _ _ => nofun) fun completedAt _ _ => ?_
  refine constructed_bind (fun _ => ?_) fun _ _ => nofun
  refine uuidFactory_quiet.ensures_bind (fun _ _ _ _ => nofun) fun messageId _ _ => ?_
  refine constructed_bind (fun _ => ?_) fun _ _ => nofun
  refine uuidFactory_quiet.ensures_bind (fun _ _ _ _ => nofun) fun taskChangedId _ _ => ?_
  refine constructed_bind (fun _ => ?_) fun _ _ => nofun
  refine uuidFactory_quiet.ensures_bind (fun _ _ _ _ => nofun) fun traceEventId _ _ => ?_
  refine constructed_bind (fun _ => ?_) fun _ _ => nofun
  refine constructed_bind (fun valid => ?_) fun _ _ => nofun
  refine ensures_pure_iff.mpr fun prepared same => ?_
  obtain rfl := Except.ok.inj same
  exact ⟨valid, mapResult_eq_ok mapped, rfl, rfl, rfl, rfl⟩

/-- One finalization request; only its APPLIED answer moves the cursor and returns the result. -/
theorem commitRun_spec (prepared : PreparedStop) (state : RunFailureState) :
    (commitRun prepared).Ensures state fun outcome final events =>
      match outcome with
      | .ok result => result = prepared.result ∧ final.committedResult = some prepared.result ∧
          events = [⟨.port (.finalizeRunIfActive prepared.command), .ok .applied⟩]
      | .error _ => final = state ∧ ∃ answer, answer ≠ .ok .applied ∧
          events = [⟨.port (.finalizeRunIfActive prepared.command), answer⟩] := by
  unfold commitRun
  refine request_bind (fun result => ?_) fun raised => ⟨rfl, .error raised, nofun, rfl⟩
  refine ensures_require_bind (fun applied => ?_) fun refused =>
    ⟨rfl, .ok result, by simpa using refused, rfl⟩
  obtain rfl : result = .applied := by simpa using applied
  exact ensures_bind_iff.mpr (ensures_modify_iff.mpr (ensures_pure_iff.mpr ⟨rfl, rfl, rfl⟩))

/-- The order lookup and the Observation it leads to. -/
def Call.OfLookUp : Call → Prop
  | .port (.getOrder ..) | .port (.saveObservation _) => True
  | _ => False

/-- A call that the executor may make: a lookup, but no other milestone. -/
def Call.OfExecutor (call : Call) : Prop := call.Quiet ∨ call.OfLookUp

/-- A call that finalizes a started attempt, or traces that. -/
def Call.Finalizing (running : ToolCallRecord) (attempt : ToolAttemptRecord) : Call → Prop
  | .port (.finalizeToolCallAttemptIfRunning command) => validates command = true ∧
      command.expectedRunningRecord = running ∧ command.expectedStartedAttempt = attempt
  | .clock | .uuidFactory | .port (.appendTraceEvent _) => True
  | _ => False

/-- A call that closes a started attempt: it is finalized, traced and observed. -/
def Call.Closing (running : ToolCallRecord) (attempt : ToolAttemptRecord) : Call → Prop
  | .port (.saveObservation _) => True
  | call => call.Finalizing running attempt

section Kinds

variable {running : ToolCallRecord} {attempt : ToolAttemptRecord} {call : Call}

theorem Call.Finalizing.quiet (finalizing : call.Finalizing running attempt) : call.Quiet := by
  unfold Finalizing at finalizing
  split at finalizing
  all_goals first | rfl | exact finalizing.elim

theorem Call.Finalizing.closing (finalizing : call.Finalizing running attempt) :
    call.Closing running attempt := by
  unfold Closing
  split
  · trivial
  · exact finalizing

theorem Call.Closing.ofExecutor (closing : call.Closing running attempt) : call.OfExecutor := by
  unfold Closing at closing
  split at closing
  · exact .inr trivial
  · exact .inl closing.quiet

end Kinds

section Executor

variable {σ : Type}

private theorem finalizeRunningAttempt_within (running : ToolCallRecord)
    (attempt : ToolAttemptRecord) (projection : TerminalProjection) :
    (finalizeRunningAttempt running attempt projection : Runtime σ _).Within
    (Call.Finalizing running attempt) := by
  refine (clock_within trivial).bind fun finishedAt => ?_
  refine (constructed_within _).bind fun terminal => ?_
  refine (constructed_within _).bind fun finalized => ?_
  refine constructed_bind_within fun valid => ?_
  refine (request_within ⟨valid, rfl, rfl⟩).bind fun finalizeResult => ?_
  exact (within_require _ _).bind fun applied => within_pure _

theorem appendInterruptedTrace_within (running : ToolCallRecord) (attempt : ToolAttemptRecord)
    (terminal : ToolCallRecord) :
    (appendInterruptedTrace terminal : Runtime σ Unit).Within
    (Call.Finalizing running attempt) := by
  refine (uuidFactory_within trivial).bind fun traceEventId => ?_
  split
  · exact within_throw _
  · exact (constructed_within _).bind fun event => request_within trivial

theorem finalizeRunningAttempt_quiet (running : ToolCallRecord) (attempt : ToolAttemptRecord)
    (projection : TerminalProjection) :
    (finalizeRunningAttempt running attempt projection : Runtime σ _).Within Call.Quiet :=
  (finalizeRunningAttempt_within running attempt projection).mono fun _ => Call.Finalizing.quiet

namespace StartedAttempt

variable (started : StartedAttempt)

/-- The query of a started attempt. -/
def query : GetOrderQuery := ⟨started.ownerScope.customerId, started.orderId⟩

theorem saveOrderObservation_within (result : GetOrderResult) (terminal : ToolCallRecord) :
    (started.saveOrderObservation result terminal : Runtime σ _).Within
    (Call.Closing started.running started.attempt) := by
  unfold saveOrderObservation
  split
  · refine (uuidFactory_within trivial).bind fun observationId => ?_
    refine (constructed_within _).bind fun observation => ?_
    refine (constructed_within _).bind fun command => ?_
    refine (request_within trivial).bind fun observationResult => ?_
    exact (within_require _ _).bind fun saved => within_pure _
  · exact within_throw _

private theorem finishLookUp_within (candidateResult : Option GetOrderResult) :
    (started.finishLookUp candidateResult : Runtime σ _).Within
    (Call.Closing started.running started.attempt) := by
  unfold finishLookUp
  dsimp only
  split
  · refine (within_require _ _).bind fun projected => ?_
    refine (uuidFactory_within trivial).bind fun resultRef => ?_
    refine ((finalizeRunningAttempt_within _ _ _).mono fun _ => Call.Finalizing.closing).bind
      fun finalized => ?_
    exact (started.saveOrderObservation_within _ _).bind fun observation => within_pure _
  · exact ((finalizeRunningAttempt_within _ _ _).bind fun finalized => within_pure _).mono fun _ =>
      Call.Finalizing.closing

theorem interrupt_within (cancellation : Raised) :
    (started.interrupt cancellation : Runtime σ _).Within
    (Call.Finalizing started.running started.attempt) := by
  have finalizing : (tryCatch (Except.ok <$> started.finalize interruptedProjection)
      fun finalizationError => return .error finalizationError :
          Runtime σ _).Within (Call.Finalizing started.running started.attempt) :=
    ((finalizeRunningAttempt_within _ _ _).map _).tryCatch fun _ => within_pure _
  refine finalizing.bind fun finalized => ?_
  split
  · exact within_throw _
  · next terminal _ =>
    have tracing : (tryCatch (Except.ok <$> appendInterruptedTrace terminal)
        fun traceError => return .error traceError :
            Runtime σ _).Within (Call.Finalizing started.running started.attempt) :=
      ((appendInterruptedTrace_within _ _ terminal).map _).tryCatch fun _ => within_pure _
    refine tracing.bind fun appended => ?_
    split <;> exact within_throw _

private theorem lookUpOrder_within :
    (started.lookUpOrder : Runtime σ _).Within Call.OfExecutor := by
  refine Within.tryCatch ?_ fun raised => ?_
  · refine (constructed_within _).bind fun query => ?_
    exact (request_within (.inr trivial)).bind fun candidateResult => within_pure _
  · split
    · exact within_pure _
    · exact within_throw _

private theorem dispatch_within : (started.dispatch : Runtime σ _).Within Call.OfExecutor := by
  refine started.lookUpOrder_within.bind fun candidateResult => ?_
  split
  · exact ((finalizeRunningAttempt_within _ _ _).bind fun finalized => within_pure _).mono fun _
        finalizing =>
      finalizing.closing.ofExecutor
  · exact (started.finishLookUp_within _).mono fun _ => Call.Closing.ofExecutor

private theorem run_within : (started.run : Runtime σ _).Within Call.OfExecutor := by
  refine started.dispatch_within.tryCatch fun raised => ?_
  split
  · exact (started.interrupt_within raised).mono fun _ finalizing => finalizing.closing.ofExecutor
  · exact within_throw _

end StartedAttempt

private theorem fenceAndRun_within (arguments : GetOrderExecution) (orderId : Text)
    (created : ToolCallRecord) :
    (fenceAndRun arguments orderId created : Runtime σ _).Within Call.OfExecutor := by
  refine (clock_within (.inl rfl)).bind fun attemptStartedAt => ?_
  refine (constructed_within _).bind fun attempt => ?_
  refine (constructed_within _).bind fun running => ?_
  refine (constructed_within _).bind fun fence => ?_
  refine (request_within (.inl rfl)).bind fun fenceResult => ?_
  split
  · exact StartedAttempt.run_within _
  · exact within_pure _

theorem executeGetOrder_within (arguments : GetOrderExecution) :
    (executeGetOrder arguments : Runtime σ _).Within Call.OfExecutor := by
  refine (within_ofExcept _).bind fun orderId => ?_
  refine (clock_within (.inl rfl)).bind fun startedAt => ?_
  refine (uuidFactory_within (.inl rfl)).bind fun toolCallId => ?_
  refine (constructed_within _).bind fun created => ?_
  refine (constructed_within _).bind fun creation => ?_
  refine (request_within (.inl rfl)).bind fun insertResult => ?_
  refine (within_require _ _).bind fun inserted => ?_
  exact fenceAndRun_within arguments orderId created

end Executor

section Milestones

variable {σ : Type}

private theorem request_follows {awaited : PortRequest} {milestone : Milestone}
    (reached : (Call.port awaited).milestone = some milestone) :
    (request awaited : Runtime σ awaited.Reply).Follows Call.milestone [milestone] := by
  intro state
  rw [request_ensures_iff]
  intro answer
  simp [labels, reached]

namespace StartedAttempt

variable (started : StartedAttempt)

private theorem lookUpOrder_follows :
    (started.lookUpOrder : Runtime σ _).Follows Call.milestone [.getOrder] := by
  refine Follows.tryCatch_within ?_ fun raised => ?_
  · refine Within.follows_bind (constructed_within _) fun query => ?_
    exact (request_follows rfl).bind_within fun candidateResult => within_pure _
  · split
    · exact within_pure _
    · exact within_throw _

private theorem saveOrderObservation_follows (result : GetOrderResult) (terminal : ToolCallRecord) :
    (started.saveOrderObservation result terminal : Runtime σ _).Follows Call.milestone
    [.saveObservation] := by
  unfold saveOrderObservation
  split
  · refine uuidFactory_quiet.follows_bind fun observationId => ?_
    refine Within.follows_bind (constructed_within _) fun observation => ?_
    refine Within.follows_bind (constructed_within _) fun command => ?_
    refine (request_follows rfl).bind_within fun observationResult => ?_
    exact (within_require _ _).bind fun saved => within_pure _
  · exact (within_throw _).follows

theorem finishLookUp_follows (candidateResult : Option GetOrderResult) :
    (started.finishLookUp candidateResult : Runtime σ _).Follows Call.milestone
    [.saveObservation] := by
  unfold finishLookUp
  dsimp only
  split
  · refine Within.follows_bind (within_require _ _) fun projected => ?_
    refine uuidFactory_quiet.follows_bind fun resultRef => ?_
    refine Within.follows_bind (finalizeRunningAttempt_quiet _ _ _) fun finalized => ?_
    exact (started.saveOrderObservation_follows _ _).bind_within fun observation => within_pure _
  · exact ((finalizeRunningAttempt_quiet _ _ _).bind fun finalized => within_pure _).follows

private theorem run_follows :
    (started.run : Runtime σ _).Follows Call.milestone [.getOrder, .saveObservation] := by
  refine Follows.tryCatch_within ?_ fun raised => ?_
  · have dispatched : (started.dispatch : Runtime σ _).Follows Call.milestone
        ([.getOrder] ++ [.saveObservation]) := by
      refine started.lookUpOrder_follows.bind fun candidateResult => ?_
      split
      · exact ((finalizeRunningAttempt_quiet _ _ _).bind fun finalized => within_pure _).follows
      · exact started.finishLookUp_follows _
    exact dispatched
  · split
    · exact (started.interrupt_within raised).mono fun _ => Call.Finalizing.quiet
    · exact within_throw _

end StartedAttempt

private theorem executeGetOrder_follows (arguments : GetOrderExecution) :
    (executeGetOrder arguments : Runtime σ _).Follows Call.milestone
    [.getOrder, .saveObservation] := by
  refine Within.follows_bind (within_ofExcept _) fun orderId => ?_
  refine clock_quiet.follows_bind fun startedAt => ?_
  refine uuidFactory_quiet.follows_bind fun toolCallId => ?_
  refine Within.follows_bind (constructed_within _) fun created => ?_
  refine Within.follows_bind (constructed_within _) fun creation => ?_
  refine Within.follows_bind (request_quiet rfl) fun insertResult => ?_
  refine Within.follows_bind (within_require _ _) fun inserted => ?_
  refine clock_quiet.follows_bind fun attemptStartedAt => ?_
  refine Within.follows_bind (constructed_within _) fun attempt => ?_
  refine Within.follows_bind (constructed_within _) fun running => ?_
  refine Within.follows_bind (constructed_within _) fun fence => ?_
  refine Within.follows_bind (request_quiet rfl) fun fenceResult => ?_
  split
  · exact StartedAttempt.run_follows _
  · exact (within_pure _).follows

end Milestones

private theorem commitRun_follows (prepared : PreparedStop) :
    (commitRun prepared).Follows Call.milestone [.finalizeRun] := by
  have recorded (finalizeResult : ConditionalWriteResult) : (do
      require (finalizeResult == .applied) (.agentRunExecution "Run finalization conflict")
      Coroutine.modify fun state : RunFailureState =>
        { state with
          resultTask := (prepared.command.taskTransition.map (·.nextTaskRecord)).or state.resultTask
          committedResult := some prepared.result
          runningRun := none }
      return prepared.result : Service AgentRunResult).Follows Call.milestone [] :=
    Within.follows_bind (within_require _ _) fun _ => (follows_modify _).bind_within fun _ =>
      within_pure _
  have committed : (commitRun prepared).Follows Call.milestone ([.finalizeRun] ++ []) :=
    (request_follows rfl).bind recorded
  exact committed

theorem finishWithoutTask_follows (turn : RunningTurn) (stopReason : StopReason) :
    (finishWithoutTask turn stopReason).Follows Call.milestone [.finalizeRun] :=
  (prepareStopWithoutTask_quiet turn stopReason).follows_bind commitRun_follows

theorem finishWithTask_follows (turn : RunningTurn) (graph : CurrentGraph) (stop : TaskStop) :
    (finishWithTask turn graph stop).Follows Call.milestone [.finalizeRun] :=
  (prepareStopWithTask_quiet turn graph stop).follows_bind commitRun_follows

private theorem presentOrder_follows (service : AgentRunService) (turn : RunningTurn)
    (current : CurrentGraph) (terminal : ToolCallRecord) (observation : OrderObservation)
    (sourceVersion : String) :
    (presentOrder service turn current terminal observation sourceVersion).Follows Call.milestone
    [.finalizeRun] := by
  refine (appendTrace_quiet _ _ _ _).follows_bind fun observed => ?_
  refine uuidFactory_quiet.follows_bind fun modelCallId => ?_
  refine (saveManifest_quiet _ _ _ _ _ _ _).follows_bind fun manifest => ?_
  refine (awaitPlan_quiet _).follows_bind fun planned => ?_
  split
  · exact uuidFactory_quiet.follows_bind fun reasonRef => finishWithTask_follows _ _ _
  refine uuidFactory_quiet.follows_bind fun presentationPlanRef => ?_
  refine (appendTrace_quiet _ _ _ _).follows_bind fun proposed => ?_
  refine Within.follows_bind (within_ofExcept _) fun rendered => ?_
  split
  · exact finishWithTask_follows _ _ _
  · exact uuidFactory_quiet.follows_bind fun reasonRef => finishWithTask_follows _ _ _

theorem finishExecution_follows (service : AgentRunService) (turn : RunningTurn)
    (current : CurrentGraph) (execution : ReadToolExecution) :
    (finishExecution service turn current execution).Follows Call.milestone [.finalizeRun] := by
  unfold finishExecution
  split
  · refine (appendToolTrace_quiet _ _ _).follows_bind fun traced => ?_
    split
    · exact uuidFactory_quiet.follows_bind fun reasonRef => finishWithTask_follows _ _ _
    · exact presentOrder_follows _ _ _ _ _ _
    · exact uuidFactory_quiet.follows_bind fun reasonRef => finishWithTask_follows _ _ _
  · exact (within_throw _).follows

theorem loadCurrentGraph_follows (turn : RunningTurn) (graph : InitialAcceptedTaskGraphV2) :
    (loadCurrentGraph turn graph).Follows Call.milestone [.loadGraph, .loadGraph] := by
  refine Within.follows_bind (request_quiet rfl) fun hooked => ?_
  have shape : ([.loadGraph] ++ ([.loadGraph] ++ []) : List Milestone).Sublist
    [.loadGraph, .loadGraph] := .refl _
  refine Follows.mono ((request_follows rfl).bind fun currentTask =>
    (request_follows rfl).bind fun currentUnit => ?_)
    shape
  split
  · exact (follows_modify _).bind_within fun _ => within_pure _
  · exact (within_throw _).follows

theorem startRun_follows (service : AgentRunService) (turn : OpenedTurn) :
    (startRun service turn).Follows Call.milestone [.startRun] := by
  refine (insertCreatedRun_quiet service turn).follows_bind fun start => ?_
  have started : (do
      let startResult ← request (.startRunIfCreated start)
      require (startResult == .applied) (.agentRunExecution "Run start conflict")
      Coroutine.modify fun state : RunFailureState =>
        { state with runningRun := some start.nextRecord }
      return { turn with runningRun := start.nextRecord } :
      Service RunningTurn).Follows Call.milestone ([.startRun] ++ []) :=
    (request_follows rfl).bind fun _ => Within.follows_bind (within_require _ _) fun _ =>
      (follows_modify _).bind_within fun _ => within_pure _
  exact started

theorem commitInitialGraph_follows (turn : RunningTurn) (reducedAt : Datetime)
    (decision : InitialRequestRoutableTaskGraphDecisionV2) :
    (commitInitialGraph turn reducedAt decision).Follows Call.milestone [.commitGraph] := by
  refine Within.follows_bind (constructed_within _) fun command => ?_
  have committed : (do
      let graphResult ← request (.createInitialTaskGraphV2IfCurrent command)
      require (graphResult == .applied) (.agentRunExecution "initial Task graph conflict")
      Coroutine.modify fun state : RunFailureState =>
        { state with
          activeLink := some (initialRunTaskLink turn decision.taskGraph.task)
          resultTask := some decision.taskGraph.task } :
      Service Unit).Follows Call.milestone ([.commitGraph] ++ []) :=
    (request_follows rfl).bind fun _ => Within.follows_bind (within_require _ _) fun _ =>
      follows_modify _
  exact committed

theorem reloadResultTask_follows (ownerScope : Option TrustedOwnerScope) (resultTask : TaskRecord)
    (original : Raised) :
    (reloadResultTask ownerScope resultTask original).Follows Call.milestone [.loadGraph] := by
  cases ownerScope with
  | none => exact (within_pure _).follows
  | some ownerScope =>
    have reloads : (tryCatch
      (Except.ok <$> request (.loadTaskForOwner ownerScope resultTask.taskId))
        fun reloadError => return .error reloadError :
            Service _).Follows Call.milestone [.loadGraph] :=
      Follows.tryCatch_within ((request_follows rfl).bind_within fun _ => within_pure _) fun _ =>
        within_pure _
    have whole : (reloadResultTask (some ownerScope) resultTask original).Follows Call.milestone
        ([.loadGraph] ++ []) := by
      refine reloads.bind fun reloaded => ?_
      split
      · exact (within_pure _).follows
      · exact (within_pure _).follows
      · exact (follows_modify _).bind_within fun _ => within_pure _
    exact whole

private theorem attemptFailure_follows (runningRun : AgentRunRecord)
    (links : Option (RunTaskLinkRecord × RunTaskLinkRecord × TaskRecord)) (original : Raised) :
    (attemptFailure runningRun links original).Follows Call.milestone [.finalizeRun] := by
  refine clock_quiet.follows_bind fun completedAt => ?_
  refine Within.follows_bind (constructed_within _) fun terminalRun => ?_
  refine Follows.bind_within ?_ fun attempted => ?_
  · refine Follows.tryCatch_within ?_ fun _ => within_pure _
    refine Within.follows_bind (constructed_within _) fun command => ?_
    exact (request_follows rfl).bind_within fun result => within_pure _
  · split <;> exact within_pure _

private theorem finalizeFailedRunAfterError_follows (original : Raised) :
    (finalizeFailedRunAfterError original).Follows Call.milestone [.loadGraph, .finalizeRun] := by
  refine Within.follows_bind within_read fun failureState => ?_
  split
  · exact (within_pure _).follows
  · refine (reloadResultTask_follows _ _ _).bind fun reloaded => ?_
    exact Within.follows_bind (constructed_within _) fun link => attemptFailure_follows _ _ _
  · exact (attemptFailure_follows _ _ _).mono (List.sublist_cons_self _ _)
  · exact (within_pure _).follows

theorem closeAfterError_follows (error : Raised) :
    (closeAfterError error).Follows Call.milestone [.loadGraph, .finalizeRun] := by
  refine Within.follows_bind within_read fun failureState => ?_
  split
  · split
    · exact (within_throw _).follows
    · exact (within_pure _).follows
  · exact (finalizeFailedRunAfterError_follows error).bind_within fun _ => within_throw _

theorem executeAuthorized_follows (service : AgentRunService) (turn : RunningTurn)
    (current : CurrentGraph) (gate : GateDecision) (inputBinding : InputBinding)
    (manifest : ContextManifest) (modelCallId : Uuid) :
    (executeAuthorized service turn current gate inputBinding manifest modelCallId).Follows
    Call.milestone
      [.getOrder, .saveObservation] := by
  unfold executeAuthorized
  split
  · exact (within_throw _).follows
  refine uuidFactory_quiet.follows_bind fun contextId => ?_
  split
  · exact (within_throw _).follows
  refine Within.follows_bind (constructed_within _) fun authorized => ?_
  exact (remainingRunTimeBudgetMs_quiet _ _).follows_bind fun remainingMs =>
    executeGetOrder_follows _

/-- The milestones of a turn, once its Task graph is committed. -/
def dispatchMilestones : List Milestone :=
  [.loadGraph, .loadGraph] ++ ([.getOrder, .saveObservation] ++ [.finalizeRun])

private theorem gateAndExecute_follows (service : AgentRunService) (turn : RunningTurn)
    (decision : InitialRequestRoutableTaskGraphDecisionV2) (manifest : ContextManifest)
    (modelCallId : Uuid) :
    (gateAndExecute service turn decision manifest modelCallId).Follows Call.milestone
    dispatchMilestones := by
  refine (revalidateMove_quiet _ _ _).follows_bind fun move => ?_
  refine (loadCurrentGraph_follows _ _).bind fun current => ?_
  refine (decideGate_quiet _ _ _ _ _ _ _).follows_bind fun gate => ?_
  split
  · exact (finishWithTask_follows _ _ _).mono (List.sublist_append_right _ _)
  · exact (executeAuthorized_follows _ _ _ _ _ _ _).bind fun execution =>
      finishExecution_follows _ _ _ _

private theorem routeDecision_follows (service : AgentRunService) (turn : RunningTurn)
    (reducedAt : Datetime) (decision : InitialRequestDecisionV2) (manifest : ContextManifest)
    (modelCallId : Uuid) :
    (routeDecision service turn reducedAt decision manifest modelCallId).Follows Call.milestone
      ([.commitGraph] ++ dispatchMilestones) := by
  cases decision with
  | noTask decision => exact (within_throw _).follows
  | unrouted decision => exact (within_throw _).follows
  | routable decision =>
    refine (commitInitialGraph_follows _ _ _).bind fun committed => ?_
    exact (appendInitialDecisionTrace_quiet _ _ _ _).follows_bind fun traced =>
      gateAndExecute_follows _ _ _ _ _

private theorem runTurn_follows (service : AgentRunService) (turn : RunningTurn) :
    (runTurn service turn).Follows Call.milestone ([.commitGraph] ++ dispatchMilestones) := by
  have stops :
      ([.finalizeRun] : List Milestone).Sublist ([.commitGraph] ++ dispatchMilestones) := by decide
  refine (beginUnderstanding_quiet _ _).follows_bind fun begun => ?_
  refine Within.follows_bind (constructed_within _) fun modelRequest => ?_
  refine (awaitProposal_quiet _).follows_bind fun proposed => ?_
  split
  · exact (finishWithoutTask_follows _ _).mono stops
  refine (reduceProposal_quiet _ _ _).follows_bind fun reduced => ?_
  split
  · exact (finishWithoutTask_follows _ _).mono stops
  · exact routeDecision_follows _ _ _ _ _ _

private theorem handleTurn_follows (service : AgentRunService) (command : AgentRunCommand) :
    (handleTurn service command).Follows Call.milestone
      ([.startRun] ++ ([.commitGraph] ++ dispatchMilestones)) := by
  refine Within.follows_bind (constructed_within _) fun ownerScope => ?_
  refine follows_modify_bind ?_
  refine (openTurn_quiet service command ownerScope).follows_bind fun opened => ?_
  exact (startRun_follows service opened).bind fun turn => runTurn_follows service turn

/-- The milestones of every run come in this order, each of the first four at most once. -/
theorem handle_follows (service : AgentRunService) (command : AgentRunCommand) :
    (handle service command).Follows Call.milestone
      [.startRun, .commitGraph, .loadGraph, .loadGraph, .getOrder, .saveObservation, .finalizeRun,
        .loadGraph, .finalizeRun] := by
  have closed : (handle service command).Follows Call.milestone
      (([.startRun] ++ ([.commitGraph] ++ dispatchMilestones)) ++ [.loadGraph, .finalizeRun]) :=
    (handleTurn_follows service command).tryCatch closeAfterError_follows
  exact closed

end MiniAgent.Application
