import MiniAgent.Application.OrderIdentity

/-! # One commit for each Run

A result is returned only after its finalization was applied, and nothing is finalized after that.
When a turn raises instead, the exceptional closure attempts one FAILED finalization from what it
knows of the Run. That knowledge is a view of the port calls: the failure cursor of the service is
shown to agree with it, whatever the ports answer.
-/

namespace MiniAgent.Application

open MiniAgent.Core ContractModel
open Coroutine

/-- The open Run, its active link and its Task, with a Task that was loaded last without a
RequestUnit. -/
structure RunView where
  run : Option AgentRunRecord := none
  link : Option RunTaskLinkRecord := none
  task : Option TaskRecord := none
  loaded : Option TaskRecord := none

namespace RunView

/-- The Task that a load returned. -/
def loadedTask : Except Raised (Option (Validated TaskRecord)) → Option TaskRecord
  | .ok (some task) => some task.value
  | _ => none

def observe (view : RunView) : Event Answer → RunView
  | ⟨.port (.startRunIfCreated start), .ok .applied⟩ => { view with run := some start.nextRecord }
  | ⟨.port (.createInitialTaskGraphV2IfCurrent graph), .ok .applied⟩ =>
    { view with link := some graph.runLink, task := some graph.task }
  | ⟨.port (.loadTaskForOwner ..), answer⟩ => { view with loaded := loadedTask answer }
  | ⟨.port (.loadRequestUnitForOwner ..), .ok (some _)⟩ =>
    { view with task := view.loaded.or view.task, loaded := none }
  | ⟨.port (.loadRequestUnitForOwner ..), _⟩ => { view with loaded := none }
  | _ => view

/-- The view after some events. -/
def observeAll (view : RunView) (events : List (Event Answer)) : RunView :=
  events.foldl observe view

/-- The freshest Task: one that was just loaded, else the last of a complete graph. -/
def freshestTask (view : RunView) : Option TaskRecord := view.loaded.or view.task

variable {view : RunView} {events before after : List (Event Answer)}

private theorem observeAll_append :
    view.observeAll (before ++ after) = (view.observeAll before).observeAll after :=
  List.foldl_append

/-- Only a start, a commit of the graph and a load are observed. -/
private theorem observe_other {event : Event Answer} (start : event.call.milestone ≠ some .startRun)
    (graph : event.call.milestone ≠ some .commitGraph)
    (load : event.call.milestone ≠ some .loadGraph) :
    view.observe event = view := by
  unfold observe
  split
  · exact absurd rfl start
  · exact absurd rfl graph
  · exact absurd rfl load
  · exact absurd rfl load
  · exact absurd rfl load
  · rfl

private theorem observeAll_other (other : ∀ event ∈ events, event.call.milestone ≠ some .startRun ∧
    event.call.milestone ≠ some .commitGraph ∧ event.call.milestone ≠ some .loadGraph) :
    view.observeAll events = view := by
  induction events with
  | nil => rfl
  | cons event rest ih =>
    obtain ⟨start, graph, load⟩ := other event List.mem_cons_self
    have same := ih fun event member => other event (List.mem_cons_of_mem _ member)
    rwa [observeAll, List.foldl_cons, observe_other start graph load]

private theorem observeAll_quiet (quiet : ∀ event ∈ events, event.call.Quiet) :
    view.observeAll events = view := by
  apply observeAll_other
  intro event member
  have none : event.call.milestone = none := quiet event member
  simp [none]

/-- A view whose records fit together: the Run runs, and the link is an open link of the Run. -/
structure Sound (view : RunView) : Prop where
  run : ∀ run, view.run = some run → validates run = true ∧ run.status = .running ∧
    run.incompleteReason = none
  link : ∀ link, view.link = some link → validates link = true ∧ link.baseTaskStateVersion = none ∧
    link.resultTaskStateVersion = none ∧ ∃ run, view.run = some run ∧ link.runId = run.runId
  fresh : ∀ task, view.freshestTask = some task → validates task = true
  complete : view.link.isSome = view.freshestTask.isSome

private theorem sound_empty : Sound {} where
  run _ same := nomatch same
  link _ same := nomatch same
  fresh _ same := nomatch same
  complete := rfl

end RunView

/-- The failure cursor says what the port calls told, and nothing is committed. -/
structure Tracks (state : RunFailureState) (view : RunView) : Prop where
  sound : view.Sound
  run : state.runningRun = view.run
  link : state.activeLink = view.link
  task : state.resultTask = view.task
  unloaded : view.loaded = none
  owner : view.run.isSome = true → state.ownerScope.isSome = true
  uncommitted : state.committedResult = none

/-- A finalization was to complete the Run and was not applied. -/
def Refused (event : Event Answer) : Prop :=
  ∀ command answer, event = ⟨.port (.finalizeRunIfActive command), answer⟩ →
    validates command = true ∧ command.terminalRecord.status = .completed ∧ answer ≠ .ok .applied

private theorem refused_other {event : Event Answer}
    (other : event.call.milestone ≠ some .finalizeRun) :
    Refused event := by
  rintro command answer rfl
  exact absurd rfl other

/-- A stage that commits nothing: the cursor still tracks the view, and what is known of the view
when the stage returns is known to the next one. -/
def Advances {α : Type} (known later : RunView → Prop) (action : Service α) : Prop :=
  ∀ view state, Tracks state view → known view → action.Ensures state fun outcome final events =>
    Tracks final (view.observeAll events) ∧
      (∀ value, outcome = .ok value → later (view.observeAll events)) ∧
      ∀ event ∈ events, Refused event

/-- A turn returns a result right after the APPLIED finalization that carries it; when it raises,
nothing is committed and the cursor tracks the view. -/
def TurnEnds (view : RunView) (outcome : Except Raised AgentRunResult) (final : RunFailureState)
    (events : List (Event Answer)) : Prop :=
  match outcome with
  | .ok result => ∃ before command,
      events = before ++ [⟨.port (.finalizeRunIfActive command), .ok .applied⟩] ∧
      (∀ event ∈ before, Refused event) ∧ validates command = true ∧
      command.terminalResult = some result
  | .error _ => Tracks final (view.observeAll events) ∧ ∀ event ∈ events, Refused event

def EndsTurn (known : RunView → Prop) (action : Service AgentRunResult) : Prop :=
  ∀ view state, Tracks state view → known view → action.Ensures state fun outcome final events =>
    TurnEnds view outcome final events

section Stages

variable {known later : RunView → Prop} {view : RunView} {state final : RunFailureState}
  {before after : List (Event Answer)}

theorem TurnEnds.append {outcome : Except Raised AgentRunResult}
    (refused : ∀ event ∈ before, Refused event)
    (ends : TurnEnds (view.observeAll before) outcome final after) :
    TurnEnds view outcome final (before ++ after) := by
  cases outcome with
  | ok result =>
    obtain ⟨earlier, command, rfl, earlierRefused, valid, carries⟩ := ends
    refine ⟨before ++ earlier, command, (List.append_assoc _ _ _).symm, ?_, valid, carries⟩
    exact List.forall_mem_append.mpr ⟨refused, earlierRefused⟩
  | error raised =>
    obtain ⟨tracks, later⟩ := ends
    refine ⟨?_, List.forall_mem_append.mpr ⟨refused, later⟩⟩
    rwa [RunView.observeAll_append]

/-- A stage before the end of the turn. -/
private theorem Advances.endsTurn {α : Type} {action : Service α}
    {next : α → Service AgentRunResult} (advances : Advances known later action)
    (rest : ∀ value, EndsTurn later (next value)) :
    EndsTurn known (action >>= next) := by
  intro view state tracks knows
  rw [ensures_bind_iff]
  refine (advances view state tracks knows).mono ?_
  rintro outcome middle before ⟨middleTracks, knowsLater, refused⟩
  cases outcome with
  | error raised => exact ⟨middleTracks, refused⟩
  | ok value =>
    refine (rest value _ middle middleTracks (knowsLater value rfl)).mono ?_
    intro outcome final after ends
    exact ends.append refused

theorem Advances.bind {α β : Type} {between : RunView → Prop} {action : Service α}
    {next : α → Service β} (advances : Advances known between action)
    (rest : ∀ value, Advances between later (next value)) :
    Advances known later (action >>= next) := by
  intro view state tracks knows
  rw [ensures_bind_iff]
  refine (advances view state tracks knows).mono ?_
  rintro outcome middle before ⟨middleTracks, knowsMore, refused⟩
  cases outcome with
  | error raised => exact ⟨middleTracks, by simp, refused⟩
  | ok value =>
    refine (rest value _ middle middleTracks (knowsMore value rfl)).mono ?_
    rintro outcome final after ⟨finalTracks, knowsLater, laterRefused⟩
    rw [RunView.observeAll_append]
    exact ⟨finalTracks, knowsLater, List.forall_mem_append.mpr ⟨refused, laterRefused⟩⟩

/-- A call that neither moves the cursor nor finalizes the Run. -/
def Call.Aside (call : Call) : Prop :=
  (call.milestone ≠ some .startRun ∧ call.milestone ≠ some .commitGraph ∧
    call.milestone ≠ some .loadGraph) ∧ call.milestone ≠ some .finalizeRun

theorem Call.Quiet.aside {call : Call} (quiet : call.Quiet) : call.Aside := by
  have none : call.milestone = none := quiet
  simp [Aside, none]

theorem Call.OfExecutor.aside {call : Call} (ofExecutor : call.OfExecutor) : call.Aside := by
  rcases ofExecutor with quiet | lookUp
  · exact quiet.aside
  · unfold OfLookUp at lookUp
    split at lookUp
    · simp [Aside, milestone]
    · simp [Aside, milestone]
    · exact lookUp.elim

private theorem aside_advances {α : Type} {action : Service α} (aside : action.Within Call.Aside) :
    Advances known known action := by
  intro view state tracks knows
  refine (aside state).mono ?_
  rintro outcome final events ⟨rfl, kept⟩
  have same : view.observeAll events = view :=
    RunView.observeAll_other fun event member => (kept event member).1
  rw [same]
  exact ⟨tracks, fun _ _ => knows, fun event member => refused_other (kept event member).2⟩

private theorem quiet_advances {α : Type} {action : Service α} (quiet : action.Within Call.Quiet) :
    Advances known known action :=
  aside_advances (quiet.mono fun _ => Call.Quiet.aside)

/-- A quiet stage before the end of the turn. -/
private theorem quiet_endsTurn {α : Type} {action : Service α} {next : α → Service AgentRunResult}
    (quiet : action.Within Call.Quiet) (rest : ∀ value, EndsTurn known (next value)) :
    EndsTurn known (action >>= next) :=
  (quiet_advances quiet).endsTurn rest

private theorem throw_endsTurn (raised : Raised) : EndsTurn known (throw raised) := by
  intro view state tracks running
  rw [ensures_throw_iff]
  exact ⟨tracks, List.forall_mem_nil _⟩

private theorem commitRun_endsTurn {prepared : PreparedStop} {turn : RunningTurn}
    {stopReason : StopReason} {renderedMessage : Option Text}
    (stops : prepared.Stops turn stopReason renderedMessage) :
    EndsTurn known (commitRun prepared) := by
  intro view state tracks running
  refine (commitRun_spec prepared state).mono ?_
  intro outcome final events spec
  cases outcome with
  | ok result =>
    obtain ⟨rfl, -, rfl⟩ := spec
    exact ⟨[], prepared.command, rfl, List.forall_mem_nil _, stops.valid, stops.carries⟩
  | error raised =>
    obtain ⟨rfl, answer, refused, rfl⟩ := spec
    have same : view.observe ⟨.port (.finalizeRunIfActive prepared.command), answer⟩ = view := rfl
    refine ⟨?_, List.forall_mem_singleton.mpr ?_⟩
    · rwa [RunView.observeAll, List.foldl_cons, List.foldl_nil, same]
    · intro command other event
      cases event
      exact ⟨stops.valid, stops.completed, refused⟩

/-- A quiet preparation and the commit of what it prepared. -/
private theorem stop_endsTurn {prepare : Service PreparedStop} {turn : RunningTurn}
    {stopReason : StopReason} {renderedMessage : Option Text} (quiet : prepare.Within Call.Quiet)
    (stops : ∀ state, prepare.Ensures state fun outcome _ _ =>
      ∀ prepared, outcome = .ok prepared → prepared.Stops turn stopReason renderedMessage) :
    EndsTurn known (prepare >>= commitRun) := by
  intro view state tracks knows
  rw [ensures_bind_iff]
  refine ((quiet_advances quiet view state tracks knows).and (stops state)).mono ?_
  rintro outcome middle before ⟨⟨middleTracks, knowsLater, refused⟩, stops⟩
  cases outcome with
  | error raised => exact ⟨middleTracks, refused⟩
  | ok prepared =>
    refine (commitRun_endsTurn (stops prepared rfl) _ middle middleTracks
      (knowsLater _ rfl)).mono ?_
    intro outcome final after ends
    exact ends.append refused

private theorem finishWithoutTask_endsTurn (turn : RunningTurn) (stopReason : StopReason) :
    EndsTurn known (finishWithoutTask turn stopReason) :=
  stop_endsTurn (prepareStopWithoutTask_quiet turn stopReason)
    (prepareStopWithoutTask_spec turn stopReason)

private theorem finishWithTask_endsTurn (turn : RunningTurn) (graph : CurrentGraph)
    (stop : TaskStop) :
    EndsTurn known (finishWithTask turn graph stop) :=
  stop_endsTurn (prepareStopWithTask_quiet turn graph stop)
    (prepareStopWithTask_spec turn graph stop)

private theorem presentOrder_endsTurn (service : AgentRunService) (turn : RunningTurn)
    (current : CurrentGraph) (terminal : ToolCallRecord) (observation : OrderObservation)
    (sourceVersion : String) :
    EndsTurn known (presentOrder service turn current terminal observation sourceVersion) := by
  apply quiet_endsTurn (appendTrace_quiet _ _ _ _)
  intro observed
  apply quiet_endsTurn uuidFactory_quiet
  intro modelCallId
  apply quiet_endsTurn (saveManifest_quiet _ _ _ _ _ _ _)
  intro manifest
  apply quiet_endsTurn (awaitPlan_quiet _)
  intro planned
  cases planned with
  | inl stopReason => exact quiet_endsTurn uuidFactory_quiet fun _ => finishWithTask_endsTurn _ _ _
  | inr plan =>
    apply quiet_endsTurn uuidFactory_quiet
    intro presentationPlanRef
    apply quiet_endsTurn (appendTrace_quiet _ _ _ _)
    intro proposed
    apply quiet_endsTurn (within_ofExcept _)
    intro rendered
    cases rendered with
    | inl stopReason => exact finishWithTask_endsTurn _ _ _
    | inr message => exact quiet_endsTurn uuidFactory_quiet fun _ => finishWithTask_endsTurn _ _ _

private theorem finishExecution_endsTurn (service : AgentRunService) (turn : RunningTurn)
    (current : CurrentGraph) (execution : ReadToolExecution) :
    EndsTurn known (finishExecution service turn current execution) := by
  unfold finishExecution
  split
  · apply quiet_endsTurn (appendToolTrace_quiet _ _ _)
    intro traced
    split
    · exact quiet_endsTurn uuidFactory_quiet fun _ => finishWithTask_endsTurn _ _ _
    · exact presentOrder_endsTurn _ _ _ _ _ _
    · exact quiet_endsTurn uuidFactory_quiet fun _ => finishWithTask_endsTurn _ _ _
  · exact throw_endsTurn _

private theorem executeAuthorized_advances (service : AgentRunService) (turn : RunningTurn)
    (current : CurrentGraph) (gate : GateDecision) (inputBinding : InputBinding)
    (manifest : ContextManifest) (modelCallId : Uuid) :
    Advances known known
    (executeAuthorized service turn current gate inputBinding manifest modelCallId) := by
  unfold executeAuthorized
  split
  · exact quiet_advances (within_throw _)
  apply (quiet_advances uuidFactory_quiet).bind
  intro contextId
  split
  · exact quiet_advances (within_throw _)
  apply (quiet_advances (constructed_within _)).bind
  intro authorized
  apply (quiet_advances (remainingRunTimeBudgetMs_quiet _ _)).bind
  intro remainingMs
  exact aside_advances ((executeGetOrder_within _).mono fun _ => Call.OfExecutor.aside)

/-- A valid graph command creates a valid Task and a valid link. -/
theorem initialRecords_valid {command : CreateInitialTaskGraphV2Command}
    (valid : validates command = true) :
    validates command.task = true ∧ validates command.runLink = true := by
  unfold validates at valid
  simp only [CreateInitialTaskGraphV2Command.instContractModel, Bool.and_eq_true, and_assoc]
    at valid
  obtain ⟨-, -, -, task, -, -, -, link, -⟩ := valid
  unfold validates at task link
  simp only [instContractModelCreateTaskCommand, instContractModelCreateRunTaskLinkCommand,
    Bool.and_eq_true] at task link
  exact ⟨task.1, link.1⟩

/-- The view knows the Run as it was started. -/
def Started (run : AgentRunRecord) (view : RunView) : Prop := view.run = some run

/-- The Task graph of the Run is committed. -/
def Linked (run : AgentRunRecord) (view : RunView) : Prop :=
  view.run = some run ∧ view.link.isSome = true

private theorem commitInitialGraph_advances (turn : RunningTurn) (reducedAt : Datetime)
    (decision : InitialRequestRoutableTaskGraphDecisionV2) :
    Advances (Started turn.runningRun) (Linked turn.runningRun)
    (commitInitialGraph turn reducedAt decision) := by
  intro view state tracks running
  refine (commitInitialGraph_spec turn reducedAt decision state).mono ?_
  intro outcome final events spec
  cases outcome with
  | error raised =>
    obtain ⟨rfl, rfl | ⟨answer, refused, rfl⟩⟩ := spec
    · exact ⟨tracks, by simp, List.forall_mem_nil _⟩
    · have same : view.observe ⟨.port (.createInitialTaskGraphV2IfCurrent
          (initialGraphCommand turn reducedAt decision)), answer⟩ = view := by
        unfold RunView.observe
        split <;> simp_all
      rw [RunView.observeAll, List.foldl_cons, List.foldl_nil, same]
      exact ⟨tracks, by simp, List.forall_mem_singleton.mpr (refused_other nofun)⟩
  | ok committed =>
    obtain ⟨valid, rfl, rfl⟩ := spec
    obtain ⟨created, linked⟩ := initialRecords_valid valid
    have fresh : (view.observeAll [⟨.port (.createInitialTaskGraphV2IfCurrent
        (initialGraphCommand turn reducedAt decision)),
        .ok .applied⟩]).freshestTask = some decision.taskGraph.task :=
      congrArg (Option.or · (some decision.taskGraph.task)) tracks.unloaded
    refine ⟨⟨⟨tracks.sound.run, ?_, ?_, ?_⟩, tracks.run, rfl, rfl, tracks.unloaded, tracks.owner,
      tracks.uncommitted⟩, fun _ _ => ⟨running, rfl⟩,
      List.forall_mem_singleton.mpr (refused_other nofun)⟩
    · intro link same
      obtain rfl := Option.some.inj same
      exact ⟨linked, rfl, rfl, turn.runningRun, running, rfl⟩
    · intro task same
      obtain rfl := Option.some.inj (fresh.symm.trans same)
      exact created
    · rw [fresh]
      rfl

/-- A Task and a RequestUnit that were both loaded are the current graph. -/
theorem Tracks.reload {state : RunFailureState} {view : RunView} (tracks : Tracks state view)
    (linked : view.link.isSome = true) (task : Validated TaskRecord) :
    Tracks { state with resultTask := some task.value } { view with task := some task.value } where
  sound :=
    { run := tracks.sound.run
      link := tracks.sound.link
      fresh := by
        rw [RunView.freshestTask, tracks.unloaded]
        intro other same
        obtain rfl := Option.some.inj same
        exact task.valid
      complete := by
        rw [RunView.freshestTask, tracks.unloaded]
        exact linked }
  run := tracks.run
  link := tracks.link
  task := rfl
  unloaded := tracks.unloaded
  owner := tracks.owner
  uncommitted := tracks.uncommitted

private theorem loadCurrentGraph_advances (turn : RunningTurn) (graph : InitialAcceptedTaskGraphV2)
    (run : AgentRunRecord) : Advances (Linked run) (Linked run) (loadCurrentGraph turn graph) := by
  rintro view state tracks ⟨running, linked⟩
  have keeps {raised : Raised} {events : List (Event Answer)} (same : view.observeAll events = view)
      (other : ∀ event ∈ events, event.call.milestone ≠ some .finalizeRun) :
      Tracks state (view.observeAll events) ∧
        (∀ value : CurrentGraph, .error raised = Except.ok value →
          Linked run (view.observeAll events)) ∧
        ∀ event ∈ events, Refused event := by
    rw [same]
    exact ⟨tracks, by simp, fun event member => refused_other (other event member)⟩
  have forgets : { view with loaded := none } = view := by rw [← tracks.unloaded]
  unfold loadCurrentGraph
  refine request_bind (fun hooked => ?_) fun raised => keeps rfl (by simp [Call.milestone])
  refine request_bind (fun loadedTask => ?_) fun raised => keeps forgets (by simp [Call.milestone])
  refine request_bind (fun loadedUnit => ?_) fun raised => keeps forgets (by simp [Call.milestone])
  rcases loadedTask with _ | task
  · rcases loadedUnit with _ | unit
    · exact ensures_throw_iff.mpr (keeps forgets (by simp [Call.milestone]))
    · exact ensures_throw_iff.mpr (keeps forgets (by simp [Call.milestone]))
  rcases loadedUnit with _ | unit
  · exact ensures_throw_iff.mpr (keeps forgets (by simp [Call.milestone]))
  have loads : view.observeAll
      [⟨.port (.afterRevalidation turn.runId graph.task graph.requestUnit), .ok hooked⟩,
        ⟨.port (.loadTaskForOwner turn.ownerScope graph.task.taskId), .ok (some task)⟩,
      ⟨.port (.loadRequestUnitForOwner turn.ownerScope graph.requestUnit.requestUnitId),
        .ok (some unit)⟩] =
      { view with task := some task.value } := by
    have forgetsAfter : { view with task := some task.value, loaded := none } =
      { view with task := some task.value } := by rw [← tracks.unloaded]
    exact forgetsAfter
  rw [ensures_bind_iff, ensures_modify_iff]
  refine ensures_pure_iff.mpr ?_
  rw [List.nil_append, loads]
  refine ⟨tracks.reload linked task, fun _ _ => ⟨running, linked⟩,
    fun event member => refused_other ?_⟩
  rcases List.mem_cons.mp member with rfl | member
  · exact nofun
  rcases List.mem_cons.mp member with rfl | member
  · exact nofun
  · obtain rfl := List.mem_singleton.mp member
    exact nofun

private theorem gateAndExecute_endsTurn (service : AgentRunService) (turn : RunningTurn)
    (decision : InitialRequestRoutableTaskGraphDecisionV2) (manifest : ContextManifest)
    (modelCallId : Uuid) (run : AgentRunRecord) :
    EndsTurn (Linked run) (gateAndExecute service turn decision manifest modelCallId) := by
  apply quiet_endsTurn (revalidateMove_quiet _ _ _)
  intro move
  apply (loadCurrentGraph_advances _ _ run).endsTurn
  intro current
  apply quiet_endsTurn (decideGate_quiet _ _ _ _ _ _ _)
  intro gate
  split
  · exact finishWithTask_endsTurn _ _ _
  apply (executeAuthorized_advances _ _ _ _ _ _ _).endsTurn
  intro execution
  exact finishExecution_endsTurn _ _ _ _

private theorem routeDecision_endsTurn (service : AgentRunService) (turn : RunningTurn)
    (reducedAt : Datetime) (decision : InitialRequestDecisionV2) (manifest : ContextManifest)
    (modelCallId : Uuid) :
    EndsTurn (Started turn.runningRun)
    (routeDecision service turn reducedAt decision manifest modelCallId) := by
  cases decision with
  | noTask decision => exact throw_endsTurn _
  | unrouted decision => exact throw_endsTurn _
  | routable decision =>
    apply (commitInitialGraph_advances turn reducedAt decision).endsTurn
    intro committed
    apply quiet_endsTurn (appendInitialDecisionTrace_quiet _ _ _ _)
    intro traced
    exact gateAndExecute_endsTurn _ _ _ _ _ _

private theorem runTurn_endsTurn (service : AgentRunService) (turn : RunningTurn) :
    EndsTurn (Started turn.runningRun) (runTurn service turn) := by
  apply quiet_endsTurn (beginUnderstanding_quiet _ _)
  intro begun
  apply quiet_endsTurn (constructed_within _)
  intro modelRequest
  apply quiet_endsTurn (awaitProposal_quiet _)
  intro proposed
  cases proposed with
  | inl stopReason => exact finishWithoutTask_endsTurn _ _
  | inr output =>
    apply quiet_endsTurn (reduceProposal_quiet _ _ _)
    intro reduced
    cases reduced with
    | inl stopReason => exact finishWithoutTask_endsTurn _ _
    | inr reduction => exact routeDecision_endsTurn _ _ _ _ _ _

end Stages

/-- The active link, closed at the freshest Task. -/
def RunView.closingLinks (view : RunView) :
    Option (RunTaskLinkRecord × RunTaskLinkRecord × TaskRecord) :=
  view.link.bind fun link => view.freshestTask.map fun task => (link, terminalLink link task, task)

/-- A FAILED Run can be projected: the reading is UTC and not before the start of the Run. -/
structure Projectable (run : AgentRunRecord) (completedAt : Datetime) : Prop where
  utc : completedAt.requireUtc = true
  later : run.startedAt.instant ≤ completedAt.instant

/-- The freshest Task is the Task of the link. -/
def RunView.Fits (view : RunView) : Prop :=
  ∀ link task, view.link = some link → view.freshestTask = some task → task.taskId = link.taskId

section Failure

variable {run : AgentRunRecord} {completedAt : Datetime}

theorem failedRun_valid_iff (valid : validates run = true) :
    validates (failedRun run completedAt) = true ↔ Projectable run completedAt := by
  unfold validates at valid ⊢
  simp only [AgentRunRecord.instContractModel, AgentRunRecord.lifecycleIsConsistent,
    Bool.and_eq_true] at valid
  obtain ⟨⟨⟨⟨lane, reason⟩, started⟩, -⟩, -⟩ := valid
  simp only [failedRun, AgentRunRecord.instContractModel, AgentRunRecord.lifecycleIsConsistent,
    lane, started, reason, AgentRunStatus.isActive, Option.all_some, Option.any_some]
  constructor
  · intro checked
    simp at checked
    exact ⟨checked.1, checked.2⟩
  · rintro ⟨utc, later⟩
    simp [utc, later]

/-- A link can be closed at a valid Task that is not behind its base version. -/
theorem terminalLink_valid_iff {link : RunTaskLinkRecord} {task : TaskRecord}
    (valid : validates link = true) (task_valid : validates task = true) :
    validates (terminalLink link task) = true ↔
    ∀ base ∈ link.baseTaskStateVersion, base ≤ task.stateVersion := by
  have version : 1 ≤ task.stateVersion := by
    unfold validates at task_valid
    simp only [instContractModelTaskRecord, Bool.and_eq_true, decide_eq_true_eq] at task_valid
    exact task_valid.1.1.1.2
  unfold validates at valid ⊢
  simp only [terminalLink, instContractModelRunTaskLinkRecord, Bool.and_eq_true] at valid ⊢
  obtain ⟨⟨⟨schema, known⟩, -⟩, -⟩ := valid
  cases base : link.baseTaskStateVersion with
  | none => simp [schema, version]
  | some base =>
    simp only [base] at known
    simp [schema, version, known]

theorem terminalLink_valid {link : RunTaskLinkRecord} {task : TaskRecord}
    (valid : validates link = true) (base : link.baseTaskStateVersion = none)
    (task_valid : validates task = true) :
    validates (terminalLink link task) = true :=
  (terminalLink_valid_iff valid task_valid).mpr (by simp [base])

/-- The Run of a finalization runs. -/
def IsRunning (run : AgentRunRecord) : Prop := run.status = .running ∧ run.incompleteReason = none

theorem unlinkedFailure_valid_iff (valid : validates run = true)
    (projected : validates (failedRun run completedAt) = true) :
    validates (failureCommand run (failedRun run completedAt) none) = true ↔ IsRunning run := by
  have nested :
      (failureCommand run (failedRun run completedAt) none).nestedModelsValidate = true := by
    simp [failureCommand, FinalizeRunCommand.nestedModelsValidate, valid, projected]
  have consistent : (failureCommand run (failedRun run completedAt) none).terminalRunIsConsistent =
      true ↔ IsRunning run := by
    simp [failureCommand, FinalizeRunCommand.terminalRunIsConsistent, failedRun,
      sameRunStableFields, IsRunning]
  have bounds : (failureCommand run (failedRun run completedAt) none).boundsHold = true := rfl
  have links : (failureCommand run (failedRun run completedAt) none).linksAreClosed = true := rfl
  have empty : (failureCommand run (failedRun run completedAt) none).carriesNoResult = true := rfl
  have failed : (failureCommand run (failedRun run completedAt) none).terminalRecord.status =
    .failed := rfl
  unfold validates
  simp only [FinalizeRunCommand.instContractModel, nested, bounds, links, empty, failed,
    Bool.true_and, BEq.rfl, if_true, Bool.and_true, consistent]

/-- The link is an open one of the Run, and the Task is its Task. -/
structure LinkFits (run : AgentRunRecord) (link : RunTaskLinkRecord) (task : TaskRecord) :
    Prop where
  ofRun : link.runId = run.runId
  unclosed : link.resultTaskStateVersion = none
  sameTask : task.taskId = link.taskId

theorem linkedFailure_valid_iff {link : RunTaskLinkRecord} {task : TaskRecord}
    (valid : validates run = true) (projected : validates (failedRun run completedAt) = true)
    (link_valid : validates link = true) (closed : validates (terminalLink link task) = true)
    (task_valid : validates task = true) :
    validates (failureCommand run (failedRun run completedAt)
      (some (link, terminalLink link task, task))) = true ↔
      IsRunning run ∧ LinkFits run link task := by
  have nested : (failureCommand run (failedRun run completedAt)
      (some (link, terminalLink link task, task))).nestedModelsValidate = true := by
    simp [failureCommand, FinalizeRunCommand.nestedModelsValidate, valid, projected, link_valid,
      closed, task_valid]
  have consistent : (failureCommand run (failedRun run completedAt)
      (some (link, terminalLink link task, task))).terminalRunIsConsistent = true ↔
          IsRunning run := by
    simp [failureCommand, FinalizeRunCommand.terminalRunIsConsistent, failedRun,
      sameRunStableFields, IsRunning]
  have links : (failureCommand run (failedRun run completedAt)
      (some (link, terminalLink link task, task))).linksAreClosed = true ↔
          LinkFits run link task := by
    simp only [failureCommand, FinalizeRunCommand.linksAreClosed, terminalLink, Keyed.lastByKey,
      sameSet, allDistinct, Option.toList_some, List.map_cons, List.map_nil]
    constructor
    · intro checked
      simp at checked
      exact ⟨checked.1.1.1.1, checked.1.1.1.2, checked.1.2.1⟩
    · rintro ⟨ofRun, unclosed, same⟩
      simp [ofRun, unclosed, same]
  have bounds : (failureCommand run (failedRun run completedAt)
      (some (link, terminalLink link task, task))).boundsHold = true := rfl
  have empty : (failureCommand run (failedRun run completedAt)
      (some (link, terminalLink link task, task))).carriesNoResult = true := rfl
  have failed : (failureCommand run (failedRun run completedAt)
      (some (link, terminalLink link task, task))).terminalRecord.status = .failed := rfl
  unfold validates
  simp only [FinalizeRunCommand.instContractModel, nested, bounds, empty, failed, Bool.true_and,
    Bool.and_eq_true, consistent, links, BEq.rfl, if_true, and_true]

/-- The command of the closure validates exactly if the freshest Task is the Task of the link. -/
private theorem failureCommand_valid_iff {view : RunView} (sound : view.Sound)
    (opened : view.run = some run) (projected : validates (failedRun run completedAt) = true) :
    validates (failureCommand run (failedRun run completedAt) view.closingLinks) = true ↔
    view.Fits := by
  obtain ⟨valid, running⟩ := sound.run run opened
  rcases linked : view.link with _ | link
  · have none : view.closingLinks = none := by rw [RunView.closingLinks, linked]; rfl
    rw [none, unlinkedFailure_valid_iff valid projected]
    refine iff_of_true running ?_
    intro link task same
    rw [linked] at same
    cases same
  · obtain ⟨task, fresh⟩ :=
      Option.isSome_iff_exists.mp (sound.complete.symm.trans (congrArg Option.isSome linked))
    have some_ : view.closingLinks = some (link, terminalLink link task, task) := by
      rw [RunView.closingLinks, linked, fresh]; rfl
    obtain ⟨link_valid, base, open_, owner, sameRun, ofRun⟩ := sound.link link linked
    obtain rfl := Option.some.inj (opened.symm.trans sameRun)
    have task_valid := sound.fresh task fresh
    rw [some_, linkedFailure_valid_iff valid projected link_valid
      (terminalLink_valid link_valid base task_valid) task_valid]
    constructor
    · intro closes other otherTask otherLinked otherFresh
      rw [linked] at otherLinked
      rw [fresh] at otherFresh
      cases otherLinked
      cases otherFresh
      exact closes.2.sameTask
    · exact fun fits => ⟨running, ofRun, open_, fits link task linked fresh⟩

end Failure

/-- The Task of a load that returned one is valid. -/
theorem loadedTask_valid {answer : Except Raised (Option (Validated TaskRecord))}
    {task : TaskRecord} (loaded : RunView.loadedTask answer = some task) :
    validates task = true := by
  unfold RunView.loadedTask at loaded
  split at loaded
  · next found =>
    obtain rfl := Option.some.inj loaded
    exact found.valid
  · cases loaded

section Closure

variable {state : RunFailureState} {view : RunView}

theorem Tracks.complete (tracks : Tracks state view) : view.link.isSome = view.task.isSome := by
  have complete := tracks.sound.complete
  rwa [RunView.freshestTask, tracks.unloaded] at complete

/-- The freshest Task after the closure loaded the Task of the cursor again. -/
private theorem freshestTask_reloaded {task : TaskRecord} (created : view.task = some task)
    (ownerScope : TrustedOwnerScope) (answer : Except Raised (Option (Validated TaskRecord))) :
    (view.observeAll [⟨.port (.loadTaskForOwner ownerScope task.taskId), answer⟩]).freshestTask =
      some ((RunView.loadedTask answer).getD task) := by
  show (RunView.loadedTask answer).or view.task = _
  rw [created]
  cases RunView.loadedTask answer <;> rfl

private theorem Tracks.sound_reloaded (tracks : Tracks state view) {task : TaskRecord}
    (created : view.task = some task) (ownerScope : TrustedOwnerScope)
    (answer : Except Raised (Option (Validated TaskRecord))) :
    (view.observeAll [⟨.port (.loadTaskForOwner ownerScope task.taskId), answer⟩]).Sound where
  run := tracks.sound.run
  link := tracks.sound.link
  fresh := by
    rw [freshestTask_reloaded created]
    intro fresh same
    obtain rfl := Option.some.inj same
    cases loaded : RunView.loadedTask answer with
    | none =>
      apply tracks.sound.fresh
      rw [RunView.freshestTask, tracks.unloaded, created]
      rfl
    | some other => exact loadedTask_valid loaded
  complete := by
    rw [freshestTask_reloaded created]
    show view.link.isSome = true
    rw [tracks.complete, created]
    rfl

/-- The closure reads the clock, and requests the finalization if its command validates. -/
structure FinalizesFailure (run : AgentRunRecord)
    (links : Option (RunTaskLinkRecord × RunTaskLinkRecord × TaskRecord)) (completedAt : Datetime)
    (rest : List (Event Answer)) : Prop where
  valid : validates (failedRun run completedAt) = true →
    validates (failureCommand run (failedRun run completedAt) links) = true →
      ∃ answer, rest = [⟨.port
        (.finalizeRunIfActive (failureCommand run (failedRun run completedAt) links)), answer⟩]
  invalid : ¬(validates (failedRun run completedAt) = true ∧
    validates (failureCommand run (failedRun run completedAt) links) = true) → rest = []

theorem attemptFailure_spec (run : AgentRunRecord)
    (links : Option (RunTaskLinkRecord × RunTaskLinkRecord × TaskRecord)) (original : Raised) :
    (attemptFailure run links original).Ensures state fun _ _ events =>
      ∃ completedAt rest, events = ⟨.clock, completedAt⟩ :: rest ∧
      FinalizesFailure run links completedAt rest := by
  refine ensures_ask_bind_iff.mpr fun completedAt => ?_
  suffices finalizes : Ensures _ state fun _ _ rest =>
    FinalizesFailure run links completedAt rest from
    finalizes.mono fun _ _ rest finalized => ⟨completedAt, rest, rfl, finalized⟩
  refine constructed_bind (fun projected => ?_) fun unprojected => ?_
  · rw [ensures_bind_iff, ensures_tryCatch_iff]
    refine constructed_bind (fun valid => ?_) fun invalid => ?_
    · have requested {answer : Except Raised ConditionalWriteResult} : FinalizesFailure run links
          completedAt
          [⟨.port (.finalizeRunIfActive (failureCommand run (failedRun run completedAt) links)),
              answer⟩] :=
        ⟨fun _ _ => ⟨answer, rfl⟩, fun neither => absurd ⟨projected, valid⟩ neither⟩
      refine request_bind (fun result => ensures_pure_iff.mpr ?_) fun raised =>
        ensures_pure_iff.mpr ?_
      · cases result <;> exact ensures_pure_iff.mpr requested
      · exact ensures_pure_iff.mpr requested
    · have refused : FinalizesFailure run links completedAt [] :=
        ⟨fun _ valid => absurd (valid.symm.trans invalid) nofun, fun _ => rfl⟩
      exact ensures_pure_iff.mpr (ensures_pure_iff.mpr refused)
  · exact ⟨fun valid => absurd (valid.symm.trans unprojected) nofun, fun _ => rfl⟩

/-- The closure loads the Task of the cursor again; a Task it gets is the freshest one. -/
private theorem reloadResultTask_spec (ownerScope : TrustedOwnerScope) (resultTask : TaskRecord)
    (original : Raised) :
    (reloadResultTask (some ownerScope) resultTask original).Ensures state fun outcome _ events =>
      ∃ answer note, events = [⟨.port (.loadTaskForOwner ownerScope resultTask.taskId), answer⟩] ∧
        outcome = .ok ((RunView.loadedTask answer).getD resultTask, note) := by
  refine ensures_bind_iff.mpr
    (ensures_tryCatch_iff.mpr (request_bind (fun reply => ensures_pure_iff.mpr ?_)
    fun raised => ensures_pure_iff.mpr ?_))
  · cases reply with
    | none => exact ensures_pure_iff.mpr ⟨.ok none, original, rfl, rfl⟩
    | some task =>
      exact ensures_bind_iff.mpr
        (ensures_modify_iff.mpr (ensures_pure_iff.mpr ⟨.ok (some task), original, rfl, rfl⟩))
  · exact ensures_pure_iff.mpr ⟨.error raised, _, rfl, rfl⟩

/-- The Task of an active link is loaded again. -/
def RunView.Reloads (view : RunView) (reload : List (Event Answer)) : Prop :=
  match view.task with
  | none => reload = []
  | some task => ∃ ownerScope answer,
      reload = [⟨.port (.loadTaskForOwner ownerScope task.taskId), answer⟩]

/-- What the closure does with an open Run: it loads the Task of an active link again, reads the
clock, and requests the FAILED finalization if the Run can be projected and the Task fits the
link. -/
structure ClosesRun (view : RunView) (run : AgentRunRecord) (reload : List (Event Answer))
    (completedAt : Datetime) (rest : List (Event Answer)) : Prop where
  reloads : view.Reloads reload
  sound : (view.observeAll reload).Sound
  opened : (view.observeAll reload).run = some run
  finalizes : FinalizesFailure run (view.observeAll reload).closingLinks completedAt rest

/-- The events of a closure. -/
def ClosesWith (view : RunView) (events : List (Event Answer)) : Prop :=
  match view.run with
  | none => events = []
  | some run => ∃ reload completedAt rest, events = reload ++ ⟨.clock, completedAt⟩ :: rest ∧
      ClosesRun view run reload completedAt rest

private theorem finalizeFailedRunAfterError_spec (tracks : Tracks state view) (original : Raised) :
    (finalizeFailedRunAfterError original).Ensures state fun _ _ events =>
    ClosesWith view events := by
  unfold finalizeFailedRunAfterError ClosesWith
  rw [ensures_bind_iff, ensures_read_iff]
  dsimp only
  rw [tracks.run, tracks.link, tracks.task]
  have complete := tracks.complete
  rcases opened : view.run with _ | run
  · exact ensures_pure_iff.mpr rfl
  rcases linked : view.link with _ | link <;> rcases created : view.task with _ | task
  · refine (attemptFailure_spec run none original).mono ?_
    rintro _ _ _ ⟨completedAt, rest, rfl, finalizes⟩
    have none : view.closingLinks = none := by rw [RunView.closingLinks, linked]; rfl
    exact ⟨[], completedAt, rest, rfl, by rw [RunView.Reloads, created], tracks.sound, opened,
      none ▸ finalizes⟩
  · rw [linked, created] at complete
    cases complete
  · rw [linked, created] at complete
    cases complete
  · obtain ⟨ownerScope, owned⟩ :=
      Option.isSome_iff_exists.mp (tracks.owner (congrArg Option.isSome opened))
    dsimp only
    rw [owned, ensures_bind_iff]
    refine (reloadResultTask_spec ownerScope task original).mono ?_
    rintro _ _ _ ⟨answer, note, rfl, rfl⟩
    have sound := tracks.sound_reloaded created ownerScope answer
    have loaded := freshestTask_reloaded created ownerScope answer
    have closing : (view.observeAll
      [⟨.port (.loadTaskForOwner ownerScope task.taskId), answer⟩]).closingLinks =
        some (link, terminalLink link ((RunView.loadedTask answer).getD task),
            (RunView.loadedTask answer).getD task) := by
      rw [RunView.closingLinks, loaded]
      show view.link.bind _ = _
      rw [linked]
      rfl
    refine constructed_bind (fun _ => ?_) fun invalid => ?_
    · refine (attemptFailure_spec run _ note).mono ?_
      rintro _ _ _ ⟨completedAt, rest, rfl, finalizes⟩
      have reloads : view.Reloads [⟨.port (.loadTaskForOwner ownerScope task.taskId), answer⟩] := by
        rw [RunView.Reloads, created]
        exact ⟨ownerScope, answer, rfl⟩
      exact ⟨_, completedAt, rest, rfl, reloads, sound, opened, closing ▸ finalizes⟩
    · obtain ⟨link_valid, base, -⟩ := sound.link link linked
      have valid := terminalLink_valid link_valid base (sound.fresh _ loaded)
      exact absurd (valid.symm.trans invalid) nofun

private theorem closeAfterError_spec (tracks : Tracks state view) (error : Raised) :
    (closeAfterError error).Ensures state fun outcome _ events =>
      (∃ raised, outcome = .error raised) ∧ ClosesWith view events := by
  unfold closeAfterError
  rw [ensures_bind_iff, ensures_read_iff]
  dsimp only
  rw [tracks.uncommitted]
  dsimp only
  rw [ensures_bind_iff]
  refine (finalizeFailedRunAfterError_spec tracks error).mono ?_
  intro outcome final events closes
  cases outcome with
  | error raised => exact ⟨⟨raised, rfl⟩, closes⟩
  | ok raised =>
    refine ensures_throw_iff.mpr ⟨⟨raised, rfl⟩, ?_⟩
    rwa [List.nil_append, List.append_nil]

end Closure

section Handle

variable {state : RunFailureState}

/-- The command that starts a Run is valid. -/
private theorem insertCreatedRun_spec (service : AgentRunService) (turn : OpenedTurn) :
    (insertCreatedRun service turn).Ensures state fun outcome _ _ =>
      ∀ start, outcome = .ok start → validates start = true := by
  refine uuidFactory_quiet.ensures_bind (fun _ _ _ => by simp) fun runId _ _ => ?_
  refine constructed_bind (fun _ => ?_) fun _ => by simp
  refine constructed_bind (fun _ => ?_) fun _ => by simp
  refine request_bind (fun insertResult => ?_) fun raised => by simp
  refine ensures_require_bind (fun inserted => ?_) fun _ => by simp
  refine constructed_bind (fun _ => ?_) fun _ => by simp
  unfold constructed
  split
  · next model constructs =>
    obtain ⟨valid, rfl⟩ := construct_eq_some.mp constructs
    refine ensures_pure_iff.mpr fun start same => ?_
    obtain rfl := Except.ok.inj same
    exact valid
  · exact ensures_throw_iff.mpr (by simp)

/-- A started Run is valid and runs. -/
theorem startedRun_valid {start : TransitionRunCommand} (valid : validates start = true) :
    validates start.nextRecord = true ∧ start.nextRecord.status = .running ∧
    start.nextRecord.incompleteReason = none := by
  unfold validates at valid
  simp only [instContractModelTransitionRunCommand, Bool.and_eq_true, beq_iff_eq,
    Option.isNone_iff_eq_none] at valid
  obtain ⟨⟨⟨⟨⟨⟨-, next⟩, -⟩, -⟩, running⟩, reason⟩, -⟩ := valid
  exact ⟨next, running, reason⟩

private theorem startRun_valid (service : AgentRunService) (turn : OpenedTurn) :
    (startRun service turn).Ensures state fun outcome _ _ => ∀ running, outcome = .ok running →
      validates running.runningRun = true ∧ running.runningRun.status = .running ∧
        running.runningRun.incompleteReason = none := by
  unfold startRun
  rw [ensures_bind_iff]
  refine (insertCreatedRun_spec service turn).mono ?_
  intro outcome middle before created
  cases outcome with
  | error raised => exact fun _ => by simp
  | ok start =>
    refine request_bind (fun startResult => ?_) fun raised => by simp
    refine ensures_require_bind (fun applied => ?_) fun _ => by simp
    refine ensures_bind_iff.mpr
      (ensures_modify_iff.mpr (ensures_pure_iff.mpr fun running same => ?_))
    obtain rfl := Except.ok.inj same
    exact startedRun_valid (created start rfl)

private theorem startedTurn_ends (service : AgentRunService) (turn : OpenedTurn)
    (ownerScope : TrustedOwnerScope) :
    (startRun service turn >>= runTurn service).Ensures
    { ownerScope := some ownerScope } fun outcome final events =>
      TurnEnds {} outcome final events := by
  have empty : Tracks { ownerScope := some ownerScope } {} :=
    ⟨RunView.sound_empty, rfl, rfl, rfl, rfl, fun _ => rfl, rfl⟩
  rw [ensures_bind_iff]
  refine ((startRun_spec service turn _).and (startRun_valid service turn)).mono ?_
  rintro outcome middle events ⟨⟨before, quiet, spec⟩, valid⟩
  have refused : ∀ event ∈ before, Refused event :=
    fun event member => refused_other (quiet event member).aside.2
  have unseen : RunView.observeAll {} before = {} := RunView.observeAll_quiet quiet
  have unstarted {answer : Except Raised ConditionalWriteResult} {start : TransitionRunCommand} :
      Refused ⟨.port (.startRunIfCreated start), answer⟩ := refused_other nofun
  cases outcome with
  | error raised =>
    obtain ⟨rfl, rfl | ⟨start, answer, notApplied, rfl⟩⟩ := spec
    · refine ⟨?_, refused⟩
      rw [unseen]
      exact empty
    · have same : RunView.observe {} ⟨.port (.startRunIfCreated start), answer⟩ = {} := by
        unfold RunView.observe
        split <;> simp_all
      refine ⟨?_, List.forall_mem_append.mpr ⟨refused, List.forall_mem_singleton.mpr unstarted⟩⟩
      rw [RunView.observeAll_append, unseen, RunView.observeAll, List.foldl_cons,
        List.foldl_nil, same]
      exact empty
  | ok running =>
    obtain ⟨start, rfl, rfl, rfl⟩ := spec
    have started : Tracks { ownerScope := some ownerScope, runningRun := some start.nextRecord }
        { run := some start.nextRecord } := by
      refine ⟨⟨fun run same => ?_, by simp, by simp [RunView.freshestTask], rfl⟩, rfl, rfl, rfl,
        rfl, fun _ => rfl, rfl⟩
      obtain rfl := Option.some.inj same
      exact valid _ rfl
    refine (runTurn_endsTurn service { turn with runningRun := start.nextRecord } _ _ started
      rfl).mono ?_
    intro outcome final after ends
    refine TurnEnds.append
      (List.forall_mem_append.mpr ⟨refused, List.forall_mem_singleton.mpr unstarted⟩) ?_
    rw [RunView.observeAll_append, unseen]
    exact ends

theorem handleTurn_ends (service : AgentRunService) (command : AgentRunCommand) :
    (handleTurn service command).Ensures {} fun outcome final events => TurnEnds
    {} outcome final events := by
  have empty : Tracks {} {} := ⟨RunView.sound_empty, rfl, rfl, rfl, rfl, by simp, rfl⟩
  refine constructed_bind (fun _ => ?_) fun _ => ⟨empty, List.forall_mem_nil _⟩
  rw [ensures_bind_iff, ensures_modify_iff]
  have refused {before : List (Event Answer)} (quiet : ∀ event ∈ before, event.call.Quiet) :
      ∀ event ∈ before, Refused event := fun event member =>
        refused_other (quiet event member).aside.2
  refine (openTurn_quiet service command _).ensures_bind (fun raised before quiet => ?_) fun opened
    before quiet => ?_
  · have ends : Tracks
        { ownerScope := some (TrustedOwnerScope.fromCustomerContext command.customerContext) }
        (RunView.observeAll {} before) := by
      rw [RunView.observeAll_quiet quiet]
      exact ⟨RunView.sound_empty, rfl, rfl, rfl, rfl, by simp, rfl⟩
    exact ⟨ends, refused quiet⟩
  · refine (startedTurn_ends service opened _).mono ?_
    intro outcome final after ends
    have whole : TurnEnds {} outcome final (before ++ after) := by
      apply TurnEnds.append (refused quiet)
      rw [RunView.observeAll_quiet quiet]
      exact ends
    exact whole

/-- How a run of the service ends: with the result of its last finalization, which was applied, or
with an exception after a closure. -/
inductive RunEnds : Except Raised AgentRunResult → List (Event Answer) → Prop
  | returns (result : AgentRunResult) (before : List (Event Answer)) (command : FinalizeRunCommand)
      (refused : ∀ event ∈ before, Refused event) (valid : validates command = true)
      (carries : command.terminalResult = some result) :
      RunEnds (.ok result) (before ++ [⟨.port (.finalizeRunIfActive command), .ok .applied⟩])
  | raises (raised : Raised) (before closing : List (Event Answer))
      (refused : ∀ event ∈ before, Refused event)
      (closes : ClosesWith (RunView.observeAll {} before) closing) :
        RunEnds (.error raised) (before ++ closing)

theorem handle_ends (service : AgentRunService) (command : AgentRunCommand) :
    (handle service command).Ensures {} fun outcome _ events => RunEnds outcome events := by
  unfold handle
  rw [ensures_tryCatch_iff]
  refine (handleTurn_ends service command).mono ?_
  intro outcome middle before ends
  cases outcome with
  | ok result =>
    obtain ⟨earlier, finalization, rfl, refused, valid, carries⟩ := ends
    exact .returns result earlier finalization refused valid carries
  | error raised =>
    obtain ⟨tracks, refused⟩ := ends
    refine (closeAfterError_spec tracks raised).mono ?_
    rintro _ _ closing ⟨⟨last, rfl⟩, closes⟩
    exact .raises last before closing refused closes

end Handle

/-- What the port calls of a run told about its Run. -/
def viewOf (events : List (Event Answer)) : RunView := RunView.observeAll {} events

/-- The finalization was requested. -/
def Attempted (command : FinalizeRunCommand) (events : List (Event Answer)) : Prop :=
  ∃ answer, ⟨.port (.finalizeRunIfActive command), answer⟩ ∈ events

/-- The store's compare-and-set: the terminal record replaces exactly the expected one. -/
def compareAndSet (stored : AgentRunRecord) (command : FinalizeRunCommand) : AgentRunRecord :=
  if stored = command.expectedActiveRecord then command.terminalRecord else stored

/-- How many terminal records a stored Run receives when the store carries out some requests. -/
def terminalWrites : AgentRunRecord → List FinalizeRunCommand → ℕ
  | _, [] => 0
  | stored, command :: rest =>
    (if stored = command.expectedActiveRecord then 1 else 0) +
      terminalWrites (compareAndSet stored command) rest

/-- The FAILED finalization of an open Run: it has the active link and the freshest Task, the Task
of the link was loaded again just before, and no FAILED finalization was requested earlier. -/
structure FailsOnce (before : List (Event Answer)) (command : FinalizeRunCommand) : Prop where
  opened : (viewOf before).run = some command.expectedActiveRecord
  failed : command.terminalRecord.status = .failed
  links : command.expectedActiveLinks = (viewOf before).link.toList
  tasks : command.resultTaskRecords = (viewOf before).freshestTask.toList
  reloaded : ∃ earlier reload completedAt, before = earlier ++ reload ++ [⟨.clock, completedAt⟩] ∧
    (viewOf earlier).Reloads reload
  first : ∀ other, Attempted other before → other.terminalRecord.status ≠ .failed

/-- A result is durable, nothing is finalized after an APPLIED finalization, an open Run that ends
with an exception is finalized as FAILED once, and no stored Run receives two terminal records. -/
structure CommitsOnce (outcome : Except Raised AgentRunResult) (events : List (Event Answer)) :
    Prop where
  durable : ∀ result, outcome = .ok result → ∃ command, command.terminalResult = some result ∧
    ⟨.port (.finalizeRunIfActive command), .ok .applied⟩ ∈ events
  last : ∀ before command after,
    events = before ++ ⟨.port (.finalizeRunIfActive command), .ok .applied⟩ :: after →
    ∀ event ∈ after, event.call.milestone ≠ some .finalizeRun
  failed : ∀ raised, outcome = .error raised → (viewOf events).run.isSome = true →
    ∃ before command answer, events = before ++ [⟨.port (.finalizeRunIfActive command), answer⟩] ∧
      FailsOnce before command
  single : ∀ stored requests, (∀ command ∈ requests, Attempted command events) →
    terminalWrites stored requests ≤ 1

/-- The last clock reading is UTC and not before the start of the open Run, and the freshest Task is
the Task of the active link. -/
def ClosureFits (events : List (Event Answer)) : Prop :=
  ∀ run completedAt, (viewOf events).run = some run →
    events.reverse.findSome? reading = some completedAt →
    Projectable run completedAt ∧ (viewOf events).Fits

section OneCommit

variable {events before after : List (Event Answer)} {outcome : Except Raised AgentRunResult}

/-- A finalization expects a RUNNING Run and leaves a terminal one. -/
private theorem finalization_statuses {command : FinalizeRunCommand}
    (valid : validates command = true) :
    command.expectedActiveRecord.status = .running ∧ command.terminalRecord.status ≠ .running := by
  unfold validates at valid
  simp only [FinalizeRunCommand.instContractModel, FinalizeRunCommand.terminalRunIsConsistent,
    Bool.and_eq_true, beq_iff_eq, Bool.or_eq_true] at valid
  obtain ⟨⟨⟨-, ⟨⟨⟨⟨⟨⟨⟨running, -⟩, terminal⟩, -⟩, -⟩, -⟩, -⟩, -⟩⟩, -⟩, -⟩ := valid
  refine ⟨running, fun same => ?_⟩
  rcases terminal with terminal | terminal
  · cases same.symm.trans terminal
  · cases same.symm.trans terminal

private theorem terminalWrites_closed {requests : List FinalizeRunCommand}
    (valid : ∀ command ∈ requests, validates command = true) {stored : AgentRunRecord}
    (closed : stored.status ≠ .running) : terminalWrites stored requests = 0 := by
  induction requests with
  | nil => rfl
  | cons command rest ih =>
    have expected := (finalization_statuses (valid command List.mem_cons_self)).1
    have other : stored ≠ command.expectedActiveRecord := by
      rintro rfl
      exact closed expected
    rw [terminalWrites, compareAndSet, if_neg other, if_neg other, Nat.zero_add]
    exact ih fun command member => valid command (List.mem_cons_of_mem _ member)

/-- The compare-and-set lets at most one valid finalization write a terminal record. -/
private theorem terminalWrites_le_one {requests : List FinalizeRunCommand}
    (valid : ∀ command ∈ requests, validates command = true) (stored : AgentRunRecord) :
    terminalWrites stored requests ≤ 1 := by
  induction requests generalizing stored with
  | nil => exact Nat.zero_le 1
  | cons command rest ih =>
    have restValid : ∀ command ∈ rest, validates command = true :=
      fun command member => valid command (List.mem_cons_of_mem _ member)
    rw [terminalWrites, compareAndSet]
    split
    · rw [terminalWrites_closed restValid
        (finalization_statuses (valid command List.mem_cons_self)).2]
    · rw [Nat.zero_add]
      exact ih restValid stored

/-- Every finalization among the events validates. -/
def FinalizesValidly (events : List (Event Answer)) : Prop :=
  ∀ command, Attempted command events → validates command = true

/-- No finalization among the events was applied. -/
def NothingApplied (events : List (Event Answer)) : Prop :=
  ∀ command, ⟨.port (.finalizeRunIfActive command), .ok .applied⟩ ∉ events

private theorem refused_finalizesValidly (refused : ∀ event ∈ events, Refused event) :
    FinalizesValidly events :=
  fun _ ⟨answer, member⟩ => (refused _ member _ answer rfl).1

private theorem refused_nothingApplied (refused : ∀ event ∈ events, Refused event) :
    NothingApplied events :=
  fun _ member => (refused _ member _ _ rfl).2.2 rfl

theorem FinalizesValidly.append (first : FinalizesValidly before)
    (second : FinalizesValidly after) :
    FinalizesValidly (before ++ after) := by
  rintro command ⟨answer, member⟩
  rcases List.mem_append.mp member with member | member
  · exact first command ⟨answer, member⟩
  · exact second command ⟨answer, member⟩

theorem FinalizesValidly.single (valid : FinalizesValidly events) (stored : AgentRunRecord)
    (requests : List FinalizeRunCommand)
    (attempted : ∀ command ∈ requests, Attempted command events) :
    terminalWrites stored requests ≤ 1 :=
  terminalWrites_le_one (fun command member => valid command (attempted command member)) stored

/-- Where only the last event may be an APPLIED finalization, nothing is finalized after one. -/
private theorem last_of_nothingApplied (nothing : NothingApplied before) {final : Event Answer}
    {earlier : List (Event Answer)} {command : FinalizeRunCommand}
    (split : before ++ [final] = earlier ++
      ⟨.port (.finalizeRunIfActive command), .ok .applied⟩ :: after) :
    after = [] := by
  rcases List.eq_nil_or_concat after with rfl | ⟨rest, last, rfl⟩
  · rfl
  · rw [List.concat_eq_append, ← List.cons_append, ← List.append_assoc] at split
    obtain ⟨rfl, -⟩ := List.append_inj' split rfl
    exact absurd (List.mem_append_right _ List.mem_cons_self) (nothing command)

private theorem not_split_of_nothingApplied (nothing : NothingApplied events)
    {earlier : List (Event Answer)} {command : FinalizeRunCommand} :
    events ≠ earlier ++ ⟨.port (.finalizeRunIfActive command), .ok .applied⟩ :: after := by
  rintro rfl
  exact nothing command (List.mem_append_right _ List.mem_cons_self)

private theorem viewOf_append : viewOf (before ++ after) = (viewOf before).observeAll after :=
  RunView.observeAll_append

/-- The run returned: everything holds, whatever the clock said. -/
private theorem commitsOnce_of_returns {result : AgentRunResult} {command : FinalizeRunCommand}
    (refused : ∀ event ∈ before, Refused event) (valid : validates command = true)
    (carries : command.terminalResult = some result) :
    CommitsOnce (.ok result)
    (before ++ [⟨.port (.finalizeRunIfActive command), .ok .applied⟩]) where
  durable other same := by
    obtain rfl := Except.ok.inj same
    exact ⟨command, carries, List.mem_append_right _ List.mem_cons_self⟩
  last earlier other after split := by
    rw [last_of_nothingApplied (refused_nothingApplied refused) split]
    exact List.forall_mem_nil _
  failed raised same := nomatch same
  single stored requests attempted := by
    refine ((refused_finalizesValidly refused).append ?_).single stored requests attempted
    rintro other ⟨answer, member⟩
    cases List.mem_singleton.mp member
    exact valid

/-- A run that raised and has no open Run has nothing to finalize. -/
private theorem commitsOnce_of_unopened {raised : Raised}
    (refused : ∀ event ∈ events, Refused event) (unopened : (viewOf events).run = none) :
    CommitsOnce (.error raised) events where
  durable _ same := nomatch same
  last earlier command after split :=
    absurd split (not_split_of_nothingApplied (refused_nothingApplied refused))
  failed _ _ opened := by
    rw [unopened] at opened
    cases opened
  single := (refused_finalizesValidly refused).single

private theorem closingLinks_toList {view : RunView} (sound : view.Sound) :
    view.closingLinks.toList.map (·.1) = view.link.toList ∧
      view.closingLinks.toList.map (·.2.2) = view.freshestTask.toList := by
  have complete := sound.complete
  rw [RunView.closingLinks]
  rcases linked : view.link with _ | link <;> rcases fresh : view.freshestTask with _ | task
  · exact ⟨rfl, rfl⟩
  · rw [linked, fresh] at complete
    cases complete
  · rw [linked, fresh] at complete
    cases complete
  · exact ⟨rfl, rfl⟩

variable {run : AgentRunRecord} {reload rest : List (Event Answer)} {completedAt : Datetime}
  {raised : Raised}

private theorem reload_other {view : RunView} (reloads : view.Reloads reload) :
    ∀ event ∈ reload, event.call.milestone ≠ some .finalizeRun := by
  unfold RunView.Reloads at reloads
  split at reloads
  · rw [reloads]
    exact List.forall_mem_nil _
  · obtain ⟨ownerScope, answer, rfl⟩ := reloads
    exact List.forall_mem_singleton.mpr nofun

/-- The events before the closure's finalization. -/
def closurePrefix (before reload : List (Event Answer)) (completedAt : Datetime) :
    List (Event Answer) :=
  before ++ reload ++ [⟨.clock, completedAt⟩]

private theorem closurePrefix_refused (refused : ∀ event ∈ before, Refused event)
    (closes : ClosesRun (viewOf before) run reload completedAt rest) :
    ∀ event ∈ closurePrefix before reload completedAt, Refused event := by
  intro event member
  rcases List.mem_append.mp member with member | member
  · rcases List.mem_append.mp member with member | member
    · exact refused event member
    · exact refused_other (reload_other closes.reloads event member)
  · obtain rfl := List.mem_singleton.mp member
    exact refused_other nofun

private theorem viewOf_closurePrefix :
    viewOf (closurePrefix before reload completedAt) = (viewOf before).observeAll reload := by
  rw [closurePrefix, viewOf_append, viewOf_append]
  rfl

/-- The command of the closure. -/
def closureCommand (run : AgentRunRecord) (completedAt : Datetime) (view : RunView) :
    FinalizeRunCommand :=
  failureCommand run (failedRun run completedAt) view.closingLinks

/-- The finalization is requested exactly if the Run can be projected and the Task fits. -/
private theorem ClosesRun.rest_cases {view : RunView}
    (closes : ClosesRun view run reload completedAt rest) :
    ((Projectable run completedAt ∧ (view.observeAll reload).Fits) ∧
        validates (closureCommand run completedAt (view.observeAll reload)) = true ∧ ∃ answer,
          rest = [⟨.port (.finalizeRunIfActive
            (closureCommand run completedAt (view.observeAll reload))), answer⟩]) ∨
      (¬(Projectable run completedAt ∧ (view.observeAll reload).Fits) ∧ rest = []) := by
  obtain ⟨valid, -⟩ := closes.sound.run run closes.opened
  have projects : validates (failedRun run completedAt) = true ↔ Projectable run completedAt :=
    failedRun_valid_iff valid
  by_cases projectable : Projectable run completedAt
  · have projected := projects.mpr projectable
    have fits := failureCommand_valid_iff closes.sound closes.opened projected
    by_cases fit : (view.observeAll reload).Fits
    · exact .inl ⟨⟨projectable, fit⟩, fits.mpr fit, closes.finalizes.valid projected (fits.mpr fit)⟩
    · exact .inr ⟨fun both => fit both.2, closes.finalizes.invalid fun both => fit (fits.mp both.2)⟩
  · exact .inr ⟨fun both => projectable both.1,
      closes.finalizes.invalid fun both => projectable (projects.mp both.1)⟩

private theorem failsOnce_of_closes (refused : ∀ event ∈ before, Refused event)
    (closes : ClosesRun (viewOf before) run reload completedAt rest) :
    FailsOnce (closurePrefix before reload completedAt)
      (closureCommand run completedAt ((viewOf before).observeAll reload)) := by
  obtain ⟨links, tasks⟩ := closingLinks_toList closes.sound
  refine ⟨?_, rfl, ?_, ?_, ⟨before, reload, completedAt, rfl, closes.reloads⟩, ?_⟩
  · rw [viewOf_closurePrefix]
    exact closes.opened
  · rw [viewOf_closurePrefix]
    exact links
  · rw [viewOf_closurePrefix]
    exact tasks
  · rintro other ⟨answer, member⟩ failed
    have completed := (closurePrefix_refused refused closes _ member _ _ rfl).2.1
    cases failed.symm.trans completed

/-- The last reading is the one of the closure. -/
private theorem lastReading_eq (finalizes : ∀ event ∈ rest, reading event = none) :
    (closurePrefix before reload completedAt ++ rest).reverse.findSome? reading =
    some completedAt := by
  have silent : rest.reverse.findSome? reading = none := by
    rw [List.findSome?_eq_none_iff]
    exact fun event member => finalizes event (List.mem_reverse.mp member)
  rw [List.reverse_append, List.findSome?_append, silent, closurePrefix, List.reverse_append]
  rfl

/-- The run that closes an open Run commits once exactly if the closure's command validates. -/
private theorem commitsOnce_of_closes_iff (refused : ∀ event ∈ before, Refused event)
    (closes : ClosesRun (viewOf before) run reload completedAt rest) :
    CommitsOnce (.error raised) (closurePrefix before reload completedAt ++ rest) ↔
      ClosureFits (closurePrefix before reload completedAt ++ rest) := by
  have prefixRefused := closurePrefix_refused refused closes
  rcases closes.rest_cases with ⟨fits, valid, answer, rfl⟩ | ⟨misfits, rfl⟩
  · have view : viewOf (closurePrefix before reload completedAt ++ [⟨.port (.finalizeRunIfActive
        (closureCommand run completedAt ((viewOf before).observeAll reload))), answer⟩]) =
        (viewOf before).observeAll reload := by
      rw [viewOf_append, viewOf_closurePrefix]
      rfl
    refine iff_of_true ⟨by simp, ?_, ?_, ?_⟩ ?_
    · intro earlier command after split
      rw [last_of_nothingApplied (refused_nothingApplied prefixRefused) split]
      exact List.forall_mem_nil _
    · exact fun _ _ _ => ⟨_, _, answer, rfl, failsOnce_of_closes refused closes⟩
    · refine ((refused_finalizesValidly prefixRefused).append ?_).single
      rintro other ⟨otherAnswer, member⟩
      cases List.mem_singleton.mp member
      exact valid
    · intro other otherCompletedAt opened last
      rw [lastReading_eq (List.forall_mem_singleton.mpr rfl)] at last
      rw [view] at opened ⊢
      obtain rfl := Option.some.inj (closes.opened.symm.trans opened)
      obtain rfl := Option.some.inj last
      exact fits
  · have view : viewOf (closurePrefix before reload completedAt ++ []) =
        (viewOf before).observeAll reload := by
      rw [List.append_nil, viewOf_closurePrefix]
    refine iff_of_false (fun commits => ?_) fun fits => misfits ?_
    · obtain ⟨earlier, command, answer, split, -⟩ :=
        commits.failed raised rfl (by rw [view, closes.opened]; rfl)
      rw [List.append_nil, closurePrefix] at split
      cases (List.append_inj' split rfl).2
    · have both :=
        fits run completedAt (view ▸ closes.opened) (lastReading_eq (List.forall_mem_nil _))
      rwa [view] at both

/-- In every run of the service, a result is returned only after its finalization was applied,
nothing is finalized after that, and an open Run that ends with an exception is finalized as FAILED
once, if and only if the closure's clock reading is UTC and not before the start of the Run and the
freshest Task is the linked one. -/
theorem one_commit_per_run_iff (service : AgentRunService) (command : AgentRunCommand) :
    (handle service command).Ensures {} fun outcome _ events =>
      CommitsOnce outcome events ↔ ∀ raised, outcome = .error raised → ClosureFits events := by
  refine (handle_ends service command).mono ?_
  intro outcome _ events ends
  cases ends with
  | returns result before finalization refused valid carries =>
    exact iff_of_true (commitsOnce_of_returns refused valid carries) fun _ same => nomatch same
  | raises raised before closing refused closes =>
    unfold ClosesWith at closes
    split at closes
    · next unopened =>
      rw [closes, List.append_nil]
      refine iff_of_true
        (commitsOnce_of_unopened refused unopened) fun _ _ run completedAt opened => ?_
      cases unopened.symm.trans opened
    · next run opened =>
      obtain ⟨reload, completedAt, rest, rfl, closes⟩ := closes
      have split : before ++ (reload ++ ⟨.clock, completedAt⟩ :: rest) =
          closurePrefix before reload completedAt ++ rest := by
        simp [closurePrefix]
      rw [split, commitsOnce_of_closes_iff refused closes]
      exact ⟨fun fits _ _ => fits, fun fits => fits raised rfl⟩

end OneCommit

/-- The order port raises, and from then on the clock is behind the start of the Run. -/
def clockBehindRun : List (Event Answer) × Except Raised AgentRunResult × RunFailureState :=
  exampleRun (fun history => if history.any (·.call.milestone == some .getOrder) then .utc 0
    else .utc 1)
    fun _ => .error runtimeError

private theorem clockBehindRun_runs :
    (handle exampleService exampleCommand {}).Runs clockBehindRun.1 clockBehindRun.2 := by
  unfold clockBehindRun
  exact exampleRun_runs _ _

/-- A clock that went back makes the closure itself raise, before it attempts a finalization. -/
theorem clock_behind_leaves_run_open : ∃ events outcome,
    (handle exampleService exampleCommand {}).Runs events outcome ∧
    (viewOf events).run.isSome = true ∧ ¬CommitsOnce outcome.1 events := by
  have evaluated : clockBehindRun.2.1.toOption = none ∧
      (viewOf clockBehindRun.1).run.isSome = true ∧
      ∀ milestone ∈ clockBehindRun.1.map (·.call.milestone), milestone ≠ some .finalizeRun := by
    simp only [clockBehindRun, exampleRun, handle, handleTurn, openTurn,
      resolveArtifact, runTurn, reduceProposal, validateAndReduceInitialRequestV2,
      preflightInitialRequestProjectionV2, buildRequestUnderstandingClosureV2,
      canonicalRequestInputV2, isExactCanonicalModelV2_eq, constructed_eq,
      validates_modelVisibleToolsetArtifact, validates_requestUnderstandingInput]
    decide +kernel
  obtain ⟨raises, opened, unfinished⟩ := evaluated
  refine ⟨clockBehindRun.1, clockBehindRun.2, clockBehindRun_runs, opened, fun commits => ?_⟩
  cases outcome : clockBehindRun.2.1 with
  | ok result =>
    rw [outcome] at raises
    cases raises
  | error raised =>
    obtain ⟨before, command, answer, split, -⟩ := commits.failed raised outcome opened
    have member : (some Milestone.finalizeRun) ∈ clockBehindRun.1.map (·.call.milestone) := by
      rw [split, List.map_append]
      exact List.mem_append_right _ List.mem_cons_self
    exact unfinished _ member rfl

end MiniAgent.Application
