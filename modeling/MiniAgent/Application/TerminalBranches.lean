import MiniAgent.Application.RunCommit

/-! # The terminal branches of a turn

A turn ends in one of eight branches: two without a Task and six with one. Here the turn is cut at
these branches: `terminalBranch` runs everything before and returns which branch is taken, with the
records and the stop it is taken with, and `TerminalBranch.finish` is what the branch then does. The
turn of the service is the one followed by the other.
-/

namespace MiniAgent.Application

open MiniAgent.Core ContractModel
open Coroutine

/-- A branch that ends a turn. -/
inductive TerminalBranch
  | withTask (turn : RunningTurn) (graph : CurrentGraph) (stop : TaskStop)
  | withoutTask (turn : RunningTurn) (stopReason : StopReason)

namespace TerminalBranch

def turn : TerminalBranch → RunningTurn
  | .withTask turn _ _ => turn
  | .withoutTask turn _ => turn

/-- Build the commands of the branch. -/
def prepare : TerminalBranch → Service PreparedStop
  | .withTask turn graph stop => prepareStopWithTask turn graph stop
  | .withoutTask turn stopReason => prepareStopWithoutTask turn stopReason

def finish (branch : TerminalBranch) : Service AgentRunResult := branch.prepare >>= commitRun

end TerminalBranch

/-- `presentOrder` up to its branch. -/
def presentationBranch (service : AgentRunService) (turn : RunningTurn) (current : CurrentGraph)
    (terminal : ToolCallRecord) (observation : OrderObservation) (sourceVersion : String) :
    Service TerminalBranch := do
  appendTrace .observationRecorded turn.runId (fun event =>
    { event with
      taskId := some current.task.taskId
      requestUnitId := some current.unit.requestUnitId
      toolCallId := some terminal.toolCallId
      observationRef := some observation.observationId }) (some observation.recordedAt)
  let modelCallId ← uuidFactory
  let manifest ← saveManifest service turn.runId modelCallId "PRESENTATION"
    turn.userMessage.messageId
    (some current.task) (some ⟨observation.observationId, sourceVersion⟩)
  match ← awaitPlan observation.normalizedValue with
  | .inl stopReason =>
    let reasonRef ← uuidFactory
    return .withTask turn current
      { stopReason := stopReason
        targetStatus := .blocked
        reasonRef := reasonRef
        observationRef := some observation.observationId }
  | .inr plan =>
    let presentationPlanRef ← uuidFactory
    appendTrace .presentationPlanProposed turn.runId fun event =>
      { event with
        taskId := some current.task.taskId
        requestUnitId := some current.unit.requestUnitId
        modelCallId := some modelCallId
        contextManifestId := some manifest.contextManifestId
        observationRef := some observation.observationId
        presentationPlanRef := some presentationPlanRef }
    match ← Coroutine.ofExcept (renderPlan observation plan) with
    | .inl stopReason =>
      return .withTask turn current
        { stopReason := stopReason
          targetStatus := .blocked
          reasonRef := presentationPlanRef
          observationRef := some observation.observationId
          presentationPlanRef := some presentationPlanRef }
    | .inr renderedMessage =>
      let reasonRef ← uuidFactory
      return .withTask turn current
        { stopReason := .goalCompleted
          targetStatus := .completed
          reasonRef := reasonRef
          observationRef := some observation.observationId
          presentationPlanRef := some presentationPlanRef
          renderedMessage := some renderedMessage }

/-- `finishExecution` up to its branch. -/
def executionBranch (service : AgentRunService) (turn : RunningTurn) (current : CurrentGraph)
    (execution : ReadToolExecution) : Service TerminalBranch := do
  match execution.terminalToolCall, execution.finalizedAttempt, execution.getOrderOutcome with
  | some terminal, some attempt, some outcome =>
    appendToolTrace execution.createdToolCall terminal attempt
    match outcome, canonicalSourceVersion execution.observation with
    | .notFoundOrNotAccessible, _ =>
      let reasonRef ← uuidFactory
      return .withTask turn current
        { stopReason := .notFoundOrNotAccessible, targetStatus := .completed,
          reasonRef := reasonRef }
    | .found, some (observation, sourceVersion) =>
      presentationBranch service turn current terminal observation sourceVersion
    | _, _ =>
      let reasonRef ← uuidFactory
      return .withTask turn current
        { stopReason := .orderServiceUnavailable, targetStatus := .blocked, reasonRef := reasonRef }
  | _, _, _ => throw (.agentRunExecution "Read Tool dispatch was not applied")

/-- `gateAndExecute` up to its branch. -/
def gateBranch (service : AgentRunService) (turn : RunningTurn)
    (decision : InitialRequestRoutableTaskGraphDecisionV2) (manifest : ContextManifest)
    (modelCallId : Uuid) :
    Service TerminalBranch := do
  let move ← revalidateMove turn modelCallId decision
  let current ← loadCurrentGraph turn decision.taskGraph
  let gate ← decideGate service turn move current decision.taskGraph.inputBinding manifest
    modelCallId
  if gate.decision = .reject then
    return .withTask turn current
      { stopReason := .gateRejected, targetStatus := .blocked, reasonRef := gate.gateDecisionId }
  else
    let execution ← executeAuthorized service turn current gate decision.taskGraph.inputBinding
      manifest
      modelCallId
    executionBranch service turn current execution

/-- `routeDecision` up to its branch. -/
def routedBranch (service : AgentRunService) (turn : RunningTurn) (reducedAt : Datetime)
    (decision : InitialRequestDecisionV2) (manifest : ContextManifest) (modelCallId : Uuid) :
    Service TerminalBranch := do
  match decision with
  | .routable decision =>
    commitInitialGraph turn reducedAt decision
    appendInitialDecisionTrace turn.runId modelCallId manifest.contextManifestId decision
    gateBranch service turn decision manifest modelCallId
  | .noTask _ | .unrouted _ =>
    throw (.agentRunExecution "scoped Request Understanding outcome is not routable")

/-- `runTurn` up to its branch. -/
def startedBranch (service : AgentRunService) (turn : RunningTurn) : Service TerminalBranch := do
  let (modelCallId, manifest) ← beginUnderstanding service turn
  let modelRequest ← constructed (requestUnderstandingInput turn)
  match ← awaitProposal modelRequest with
  | .inl stopReason => return .withoutTask turn stopReason
  | .inr output =>
    match ← reduceProposal turn modelRequest output with
    | .inl stopReason => return .withoutTask turn stopReason
    | .inr (reducedAt, decision) =>
      routedBranch service turn reducedAt decision manifest modelCallId

/-- `_handle` up to its branch. -/
def terminalBranch (service : AgentRunService) (command : AgentRunCommand) :
    Service TerminalBranch := do
  let ownerScope ← constructed (TrustedOwnerScope.fromCustomerContext command.customerContext)
  Coroutine.modify fun state => { state with ownerScope := some ownerScope }
  let opened ← openTurn service command ownerScope
  let turn ← startRun service opened
  startedBranch service turn

private theorem presentOrder_eq (service : AgentRunService) (turn : RunningTurn)
    (current : CurrentGraph) (terminal : ToolCallRecord) (observation : OrderObservation)
    (sourceVersion : String) :
    presentOrder service turn current terminal observation sourceVersion =
      presentationBranch service turn current terminal observation sourceVersion >>=
      TerminalBranch.finish := by
  unfold presentOrder presentationBranch
  simp only [bind_assoc]
  apply bind_congr
  intro observed
  apply bind_congr
  intro modelCallId
  apply bind_congr
  intro manifest
  apply bind_congr
  intro planned
  cases planned with
  | inl stopReason =>
    simp only [bind_assoc, pure_bind, TerminalBranch.finish, TerminalBranch.prepare, finishWithTask]
  | inr plan =>
    simp only [bind_assoc]
    apply bind_congr
    intro presentationPlanRef
    apply bind_congr
    intro proposed
    apply bind_congr
    intro rendered
    cases rendered <;>
      simp only [bind_assoc, pure_bind, TerminalBranch.finish, TerminalBranch.prepare,
        finishWithTask]

private theorem finishExecution_eq (service : AgentRunService) (turn : RunningTurn)
    (current : CurrentGraph) (execution : ReadToolExecution) :
    finishExecution service turn current execution =
      executionBranch service turn current execution >>= TerminalBranch.finish := by
  unfold finishExecution executionBranch
  rcases execution.terminalToolCall with _ | terminal
  · rfl
  rcases execution.finalizedAttempt with _ | attempt
  · rfl
  rcases execution.getOrderOutcome with _ | outcome
  · rfl
  simp only [bind_assoc]
  apply bind_congr
  intro traced
  cases outcome with
  | notFoundOrNotAccessible =>
    simp only [bind_assoc, pure_bind, TerminalBranch.finish, TerminalBranch.prepare, finishWithTask]
  | found =>
    cases canonicalSourceVersion execution.observation with
    | none =>
      simp only [bind_assoc, pure_bind, TerminalBranch.finish, TerminalBranch.prepare,
        finishWithTask]
    | some canonical => exact presentOrder_eq _ _ _ _ _ _
  | _ =>
    simp only [bind_assoc, pure_bind, TerminalBranch.finish, TerminalBranch.prepare, finishWithTask]

private theorem gateAndExecute_eq (service : AgentRunService) (turn : RunningTurn)
    (decision : InitialRequestRoutableTaskGraphDecisionV2) (manifest : ContextManifest)
    (modelCallId : Uuid) :
    gateAndExecute service turn decision manifest modelCallId =
      gateBranch service turn decision manifest modelCallId >>= TerminalBranch.finish := by
  unfold gateAndExecute gateBranch
  simp only [bind_assoc]
  apply bind_congr
  intro move
  apply bind_congr
  intro current
  apply bind_congr
  intro gate
  split
  · simp only [pure_bind, TerminalBranch.finish, TerminalBranch.prepare, finishWithTask]
  · rw [bind_assoc]
    exact bind_congr fun execution => finishExecution_eq service turn current execution

private theorem routeDecision_eq (service : AgentRunService) (turn : RunningTurn)
    (reducedAt : Datetime) (decision : InitialRequestDecisionV2) (manifest : ContextManifest)
    (modelCallId : Uuid) :
    routeDecision service turn reducedAt decision manifest modelCallId =
      routedBranch service turn reducedAt decision manifest modelCallId >>=
      TerminalBranch.finish := by
  cases decision with
  | routable decision =>
    simp only [routeDecision, routedBranch, bind_assoc, gateAndExecute_eq]
  | noTask decision => rfl
  | unrouted decision => rfl

private theorem runTurn_eq (service : AgentRunService) (turn : RunningTurn) :
    runTurn service turn = startedBranch service turn >>= TerminalBranch.finish := by
  unfold runTurn startedBranch
  rw [bind_assoc]
  apply bind_congr
  rintro ⟨modelCallId, manifest⟩
  simp only [bind_assoc]
  apply bind_congr
  intro modelRequest
  apply bind_congr
  intro proposed
  cases proposed with
  | inl stopReason =>
    simp only [pure_bind, TerminalBranch.finish, TerminalBranch.prepare, finishWithoutTask]
  | inr output =>
    simp only [bind_assoc]
    apply bind_congr
    intro reduced
    cases reduced with
    | inl stopReason =>
      simp only [pure_bind, TerminalBranch.finish, TerminalBranch.prepare, finishWithoutTask]
    | inr reduction => exact routeDecision_eq service turn _ _ _ _

/-- The turn of the service finds its branch and finishes it. -/
theorem handleTurn_eq (service : AgentRunService) (command : AgentRunCommand) :
    handleTurn service command = terminalBranch service command >>= TerminalBranch.finish := by
  simp only [handleTurn, terminalBranch, bind_assoc, runTurn_eq]

/-- The outcome that a stop reason maps to. -/
def mappedOutcome (stopReason : StopReason) : AgentOutcome := (mappedResult 0 stopReason []).outcome

/-- The stop is a row of the closed matrix. -/
def TaskStop.Listed (stop : TaskStop) : Prop :=
  (stop.stopReason, true, mappedOutcome stop.stopReason, some stop.targetStatus) ∈
    completedFinalizationRows

/-- The stop of a turn without a Task is a row of the closed matrix. -/
abbrev StopReason.ListedWithoutTask (stopReason : StopReason) : Prop :=
  (stopReason, false, mappedOutcome stopReason, none) ∈ completedFinalizationRows

/-- The Run of the turn is RUNNING and belongs to its Conversation. -/
structure RunningTurn.Started (turn : RunningTurn) : Prop where
  valid : validates turn.runningRun = true
  running : IsRunning turn.runningRun
  ofConversation : turn.runningRun.conversationId = some turn.conversation.conversationId

/-- The loaded records are valid models, and the link is an open one of the Run. -/
structure CurrentGraph.Loaded (graph : CurrentGraph) (turn : RunningTurn) : Prop where
  task : validates graph.task = true
  unit : validates graph.unit = true
  link : validates graph.activeLink = true
  base : graph.activeLink.baseTaskStateVersion = none
  unclosed : graph.activeLink.resultTaskStateVersion = none
  ofRun : graph.activeLink.runId = turn.runId

/-- What is true of every branch that a turn can take. -/
def TerminalBranch.Admissible : TerminalBranch → Prop
  | .withTask turn graph stop => turn.Started ∧ graph.Loaded turn ∧ stop.Listed
  | .withoutTask turn stopReason => turn.Started ∧ StopReason.ListedWithoutTask stopReason

/-- The branch ends this turn. -/
structure TerminalBranch.Ends (branch : TerminalBranch) (turn : RunningTurn) : Prop where
  admissible : branch.Admissible
  ofTurn : branch.turn = turn

section Facts

variable {turn : RunningTurn} {current : CurrentGraph}

/-- The branch finishes the current graph with a listed stop. -/
def FinishesCurrent (turn : RunningTurn) (current : CurrentGraph)
    (branch : TerminalBranch) : Prop :=
  ∃ stop, branch = .withTask turn current stop ∧ stop.Listed

/-- A row of the matrix lists every stop with its reason and target. -/
theorem listed {stopReason : StopReason} {targetStatus : TaskStatus} {reasonRef : Uuid}
    {observationRef presentationPlanRef : Option Uuid} {renderedMessage : Option Text}
    (row : (stopReason, true, mappedOutcome stopReason, some targetStatus) ∈
      completedFinalizationRows) :
    TaskStop.Listed ⟨stopReason, targetStatus, reasonRef, observationRef, presentationPlanRef,
      renderedMessage⟩ := row

private theorem returns_stop {stop : TaskStop} (listed : stop.Listed) :
    (pure (.withTask turn current stop) : Service TerminalBranch).Returns
    (FinishesCurrent turn current) :=
  returns_pure ⟨stop, rfl, listed⟩

private theorem awaitPlan_returns (summary : OrderSummaryProjection) :
    (awaitPlan summary).Returns fun planned => ∀ stopReason, planned = .inl stopReason →
      stopReason = .providerProtocolError := by
  apply Returns.tryCatch
  · apply returns_bind
    intro input
    apply returns_bind
    intro plan
    exact returns_pure fun _ => nofun
  · intro raised
    split
    · apply returns_pure
      intro stopReason same
      exact (Sum.inl.inj same).symm
    · exact returns_throw _
    · exact returns_throw _

private theorem renderPlan_eq_inl {observation : OrderObservation} {plan : Option PresentationPlan}
    {stopReason : StopReason} (rendered : renderPlan observation plan = .ok (.inl stopReason)) :
    stopReason = .presentationPlanRejected ∨ stopReason = .rendererInvariantFailed := by
  unfold renderPlan at rendered
  split at rendered
  · exact .inl (Sum.inl.inj (Except.ok.inj rendered)).symm
  · split at rendered
    · cases rendered
    · exact .inr (Sum.inl.inj (Except.ok.inj rendered)).symm
    · cases rendered

private theorem presentationBranch_returns (service : AgentRunService) (terminal : ToolCallRecord)
    (observation : OrderObservation) (sourceVersion : String) :
    (presentationBranch service turn current terminal observation sourceVersion).Returns
      (FinishesCurrent turn current) := by
  apply returns_bind
  intro observed
  apply returns_bind
  intro modelCallId
  apply returns_bind
  intro manifest
  apply (awaitPlan_returns observation.normalizedValue).bind
  intro planned stops
  cases planned with
  | inl stopReason =>
    obtain rfl := stops stopReason rfl
    apply returns_bind
    intro reasonRef
    exact returns_stop (listed (by decide))
  | inr plan =>
    apply returns_bind
    intro presentationPlanRef
    apply returns_bind
    intro proposed
    apply (returns_ofExcept _).bind
    intro rendered renders
    cases rendered with
    | inl stopReason =>
      rcases renderPlan_eq_inl renders with rfl | rfl
      · exact returns_stop (listed (by decide))
      · exact returns_stop (listed (by decide))
    | inr message =>
      apply returns_bind
      intro reasonRef
      exact returns_stop (listed (by decide))

private theorem executionBranch_returns (service : AgentRunService)
    (execution : ReadToolExecution) :
    (executionBranch service turn current execution).Returns (FinishesCurrent turn current) := by
  unfold executionBranch
  split
  · apply returns_bind
    intro traced
    split
    · apply returns_bind
      intro reasonRef
      exact returns_stop (listed (by decide))
    · exact presentationBranch_returns _ _ _ _
    · apply returns_bind
      intro reasonRef
      exact returns_stop (listed (by decide))
  · exact returns_throw _

private theorem loadCurrentGraph_returns (turn : RunningTurn) (graph : InitialAcceptedTaskGraphV2) :
    (loadCurrentGraph turn graph).Returns fun current => validates current.task = true ∧
      validates current.unit = true ∧ current.activeLink = initialRunTaskLink turn graph.task := by
  constructor
  intro state
  refine (loadCurrentGraph_spec turn graph state).mono ?_
  rintro outcome _ _ ⟨hooked, -, spec⟩ current rfl
  obtain ⟨task, unit, rfl, -, -⟩ := spec
  exact ⟨task.valid, unit.valid, rfl⟩

private theorem gateBranch_returns (service : AgentRunService)
    (decision : InitialRequestRoutableTaskGraphDecisionV2) (manifest : ContextManifest)
    (modelCallId : Uuid) (started : turn.Started)
    (linked : validates (initialRunTaskLink turn decision.taskGraph.task) = true) :
    (gateBranch service turn decision manifest modelCallId).Returns (·.Ends turn) := by
  apply returns_bind
  intro move
  apply (loadCurrentGraph_returns turn decision.taskGraph).bind
  rintro current ⟨task, unit, link⟩
  have loaded : current.Loaded turn := by
    refine ⟨task, unit, ?_, ?_, ?_, ?_⟩
    · rw [link]
      exact linked
    all_goals rw [link]; rfl
  have ends : ∀ branch, FinishesCurrent turn current branch → branch.Ends turn := by
    rintro _ ⟨stop, rfl, listed⟩
    exact ⟨⟨started, loaded, listed⟩, rfl⟩
  apply returns_bind
  intro gate
  split
  · exact (returns_stop (listed (by decide))).mono ends
  · apply returns_bind
    intro execution
    exact (executionBranch_returns service execution).mono ends

private theorem routedBranch_returns (service : AgentRunService) (reducedAt : Datetime)
    (decision : InitialRequestDecisionV2) (manifest : ContextManifest) (modelCallId : Uuid)
    (started : turn.Started) :
    (routedBranch service turn reducedAt decision manifest modelCallId).Returns (·.Ends turn) := by
  cases decision with
  | routable decision =>
    have commits : (commitInitialGraph turn reducedAt decision).Returns fun _ =>
        validates (initialRunTaskLink turn decision.taskGraph.task) = true := by
      constructor
      intro state
      refine (commitInitialGraph_spec turn reducedAt decision state).mono ?_
      rintro outcome _ _ spec value rfl
      exact (initialRecords_valid spec.1).2
    apply commits.bind
    intro committed linked
    apply returns_bind
    intro traced
    exact gateBranch_returns service decision manifest modelCallId started linked
  | noTask decision => exact returns_throw _
  | unrouted decision => exact returns_throw _

private theorem awaitProposal_returns (modelRequest : RequestUnderstandingInput) :
    (awaitProposal modelRequest).Returns fun proposed => ∀ stopReason, proposed = .inl stopReason →
      StopReason.ListedWithoutTask stopReason := by
  apply Returns.tryCatch
  · exact returns_bind fun output => returns_pure fun _ => nofun
  · intro raised
    split
    · refine returns_pure fun stopReason same => ?_
      obtain rfl := Sum.inl.inj same
      decide
    · refine returns_pure fun stopReason same => ?_
      obtain rfl := Sum.inl.inj same
      decide
    all_goals exact returns_throw _

private theorem reduceProposal_returns (turn : RunningTurn)
    (modelRequest : RequestUnderstandingInput) (output : Option RequestUnderstandingOutputV2) :
    (reduceProposal turn modelRequest output).Returns fun reduced =>
    ∀ stopReason, reduced = .inl stopReason → StopReason.ListedWithoutTask stopReason := by
  apply returns_bind
  intro reducedAt
  apply returns_bind
  intro recordId
  cases output with
  | none => exact returns_throw _
  | some output =>
    apply returns_bind
    intro allocations
    apply returns_bind
    intro nextMoveCandidateRef
    dsimp only
    split
    · exact returns_pure fun _ => nofun
    · refine returns_pure fun stopReason same => ?_
      obtain rfl := Sum.inl.inj same
      decide
    · exact returns_throw _
    · exact returns_throw _

private theorem startedBranch_returns (service : AgentRunService) (started : turn.Started) :
    (startedBranch service turn).Returns (·.Ends turn) := by
  apply returns_bind
  rintro ⟨modelCallId, manifest⟩
  apply returns_bind
  intro modelRequest
  apply (awaitProposal_returns modelRequest).bind
  intro proposed stops
  cases proposed with
  | inl stopReason => exact returns_pure ⟨⟨started, stops stopReason rfl⟩, rfl⟩
  | inr output =>
    apply (reduceProposal_returns turn modelRequest output).bind
    intro reduced reduces
    cases reduced with
    | inl stopReason => exact returns_pure ⟨⟨started, reduces stopReason rfl⟩, rfl⟩
    | inr reduction => exact routedBranch_returns service _ _ _ _ started

private theorem returns_constructed {Model : Type} [ContractModel Model] (fields : Model) :
    (constructed fields : Service Model).Returns fun model => model = fields ∧
    validates fields = true := by
  unfold constructed
  split
  · next model constructs =>
    obtain ⟨valid, rfl⟩ := construct_eq_some.mp constructs
    exact returns_pure ⟨rfl, valid⟩
  · exact returns_throw _

/-- The Run starts at the instant that the turn was opened at, in its Conversation. -/
private theorem startRun_returns (service : AgentRunService) (opened : OpenedTurn) :
    (startRun service opened).Returns fun turn => turn.Started ∧
    turn.runningRun.startedAt = opened.now := by
  have inserts : (insertCreatedRun service opened).Returns fun start => validates start = true ∧
      start.nextRecord.conversationId = some opened.conversation.conversationId ∧
        start.nextRecord.startedAt = opened.now := by
    apply returns_bind
    intro runId
    apply (returns_constructed _).bind
    rintro _ ⟨rfl, -⟩
    apply returns_bind
    intro creation
    apply returns_bind
    intro insertResult
    apply returns_bind
    intro inserted
    apply (returns_constructed _).bind
    rintro _ ⟨rfl, -⟩
    apply (returns_constructed _).mono
    rintro _ ⟨rfl, valid⟩
    exact ⟨valid, rfl, rfl⟩
  apply inserts.bind
  rintro start ⟨valid, ofConversation, startedAt⟩
  apply returns_bind
  intro startResult
  apply returns_bind
  intro applied
  apply returns_bind
  intro remembered
  obtain ⟨running, status, reason⟩ := startedRun_valid valid
  exact returns_pure ⟨⟨running, ⟨status, reason⟩, ofConversation⟩, startedAt⟩

private theorem openTurn_reads (service : AgentRunService) (command : AgentRunCommand)
    (ownerScope : TrustedOwnerScope) (state : RunFailureState) :
    (openTurn service command ownerScope).Ensures state fun outcome _ events =>
      ∀ opened, outcome = .ok opened → ⟨.clock, opened.now⟩ ∈ events := by
  refine (resolveArtifact_quiet service).ensures_bind
    (fun _ _ _ _ => nofun) fun resolvedArtifact _ _ => ?_
  refine ensures_ask_bind_iff.mpr fun now => ?_
  suffices opens : Returns _ fun opened : OpenedTurn => opened.now = now from
    (opens.ensures state).mono fun outcome _ events opens opened same => by
      rw [opens opened same]
      exact List.mem_append_right _ List.mem_cons_self
  apply returns_bind
  intro conversationId
  apply returns_bind
  intro conversation
  apply returns_bind
  intro messageId
  apply returns_bind
  intro userMessage
  apply returns_bind
  intro conversationSaved
  apply returns_bind
  intro messageAppended
  apply returns_bind
  intro messages
  apply returns_bind
  intro authoritative
  exact returns_pure rfl

/-- Every branch that a turn takes is admissible, and its Run started at a reading of the turn. -/
theorem terminalBranch_spec (service : AgentRunService) (command : AgentRunCommand) :
    (terminalBranch service command).Ensures {} fun outcome _ before =>
    ∀ branch, outcome = .ok branch →
      branch.Admissible ∧ ⟨.clock, branch.turn.runningRun.startedAt⟩ ∈ before := by
  apply constructed_bind
  · intro _
    rw [ensures_bind_iff, ensures_modify_iff]
    dsimp only
    rw [ensures_bind_iff]
    refine (openTurn_reads service command _ _).mono ?_
    intro outcome middle before opens
    cases outcome with
    | error raised => exact fun _ => nofun
    | ok opened =>
      have read := opens opened rfl
      have ends : (startRun service opened >>= startedBranch service).Returns fun branch =>
          branch.Admissible ∧ branch.turn.runningRun.startedAt = opened.now := by
        apply (startRun_returns service opened).bind
        rintro turn ⟨started, startedAt⟩
        apply (startedBranch_returns service started).mono
        rintro branch ⟨admissible, rfl⟩
        exact ⟨admissible, startedAt⟩
      refine (ends.ensures middle).mono fun outcome _ after ended branch same => ?_
      obtain ⟨admissible, startedAt⟩ := ended branch same
      rw [startedAt]
      exact ⟨admissible, List.mem_append_right _ (List.mem_append_left _ read)⟩
  · exact fun _ _ => nofun

end Facts

end MiniAgent.Application
