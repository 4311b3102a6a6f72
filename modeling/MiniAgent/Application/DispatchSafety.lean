import MiniAgent.Application.RunStages

/-! # The order lookup is dispatched at most once, and only after its fence

Every run of the service calls the order port at most once. Before that call the Task graph was
committed, an accepting Gate decision was saved, the ToolCall was inserted as CREATED and its fence
was applied; the query asks for the bound order of the authenticated customer.
-/

namespace MiniAgent.Application

open MiniAgent.Core ContractModel
open Coroutine

/-- A call of the order port. -/
def Call.IsGetOrder : Call → Prop
  | .port (.getOrder ..) => True
  | _ => False

theorem Call.IsGetOrder.milestone {call : Call} (dispatches : call.IsGetOrder) :
    call.milestone = some .getOrder := by
  unfold IsGetOrder at dispatches
  split at dispatches
  · rfl
  · exact dispatches.elim

private theorem Call.Quiet.not_isGetOrder {call : Call} (quiet : call.Quiet) : ¬call.IsGetOrder :=
  fun dispatches =>
  nomatch quiet.symm.trans dispatches.milestone

/-- A quiet stage does not call the order port. -/
private theorem without_getOrder {σ α : Type} {action : Runtime σ α}
    (quiet : action.Within Call.Quiet) :
    action.Within fun call => ¬call.IsGetOrder := quiet.mono fun _ => Call.Quiet.not_isGetOrder

/-- A stage whose milestones are others does not call the order port. -/
private theorem avoids_getOrder {σ α : Type} {action : Runtime σ α} {shape : List Milestone}
    (follows : action.Follows Call.milestone shape) (absent : .getOrder ∉ shape) :
    action.Avoids Call.IsGetOrder :=
  follows.avoids fun _ dispatches => ⟨.getOrder, dispatches.milestone, absent⟩

section Executor

variable {σ : Type}

/-- The event asks the order port this query. -/
def Asks (query : GetOrderQuery) (event : Event Answer) : Prop :=
  ∃ timeoutMs, event.call = .port (.getOrder timeoutMs query)

private theorem StartedAttempt.lookUpOrder_once (started : StartedAttempt) (state : σ) :
    started.lookUpOrder.Ensures state fun _ _ events =>
      AtMostOnce Call.IsGetOrder (fun _ => Asks started.query) events := by
  refine atMostOnce_tryCatch_avoids ?_ fun raised => Within.avoids ?_
  · refine constructed_bind (fun _ => ?_) fun _ => .inl (List.forall_mem_nil _)
    refine atMostOnce_bind_avoids ?_ fun _ => (within_pure _).avoids
    rw [request_ensures_iff]
    intro answer
    exact .inr ⟨[], _, [], rfl, trivial, ⟨_, rfl⟩, List.forall_mem_nil _⟩
  · split
    · exact within_pure _
    · exact within_throw _

private theorem StartedAttempt.run_once (started : StartedAttempt) (state : σ) :
    started.run.Ensures state fun _ _ events =>
      AtMostOnce Call.IsGetOrder (fun _ => Asks started.query) events := by
  refine atMostOnce_tryCatch_avoids ?_ fun raised => ?_
  · refine atMostOnce_bind_avoids (started.lookUpOrder_once state) fun candidateResult => ?_
    split
    · exact (without_getOrder ((finalizeRunningAttempt_quiet _ _ _).bind fun finalized =>
        within_pure _)).avoids
    · exact avoids_getOrder (started.finishLookUp_follows _) (by decide)
  · split
    · exact (without_getOrder ((started.interrupt_within raised).mono fun _ =>
        Call.Finalizing.quiet)).avoids
    · exact (within_throw _).avoids

/-- A request other than the lookup is remembered by the guard. -/
private theorem request_once {α : Type} {awaited : PortRequest} {next : awaited.Reply → Runtime σ α}
    {state : σ} {guard : List (Event Answer) → Event Answer → Prop}
    (other : ¬(Call.port awaited).IsGetOrder)
    (replied : ∀ reply, (next reply).Ensures state fun _ _ events =>
      AtMostOnce Call.IsGetOrder
      (fun earlier event => guard (⟨.port awaited, .ok reply⟩ :: earlier) event) events) :
    (request awaited >>= next).Ensures state fun _ _ events =>
    AtMostOnce Call.IsGetOrder guard events := by
  refine request_bind (fun reply => ?_) fun failure => .inl (List.forall_mem_singleton.mpr other)
  refine (replied reply).mono fun _ _ events once => ?_
  let asked : List (Event Answer) := [⟨.port awaited, .ok reply⟩]
  have quiet : ∀ event ∈ asked, ¬event.call.IsGetOrder := List.forall_mem_singleton.mpr other
  exact once.append_left quiet

/-- An applied fence of a ToolCall came before the lookup of this query. -/
def FencedBy (created : ToolCallRecord) (query : GetOrderQuery) (before : List (Event Answer))
    (event : Event Answer) : Prop :=
  ∃ fence, fence.expectedCreatedRecord = created ∧
    ⟨.port (.startToolCallIfCreated fence), .ok .applied⟩ ∈ before ∧ Asks query event

theorem FencedBy.admits {created : ToolCallRecord} {query : GetOrderQuery}
    (before earlier : List (Event Answer))
    (event : Event Answer) (fenced : FencedBy created query earlier event) :
    FencedBy created query (before ++ earlier) event := by
  obtain ⟨fence, same, member, asks⟩ := fenced
  exact ⟨fence, same, List.mem_append_right _ member, asks⟩

theorem silent {guard : List (Event Answer) → Event Answer → Prop} :
    AtMostOnce Call.IsGetOrder guard [] :=
  .inl (List.forall_mem_nil _)

private theorem fenceAndRun_once (arguments : GetOrderExecution) (orderId : Text)
    (created : ToolCallRecord) (state : σ) :
    (fenceAndRun arguments orderId created).Ensures state fun _ _ events =>
      AtMostOnce Call.IsGetOrder
      (FencedBy created ⟨arguments.ownerScope.customerId, orderId⟩) events := by
  refine Within.atMostOnce_bind
    (without_getOrder clock_quiet) FencedBy.admits fun attemptStartedAt => ?_
  refine constructed_bind (fun _ => ?_) fun _ => silent
  refine constructed_bind (fun _ => ?_) fun _ => silent
  refine constructed_bind (fun _ => ?_) fun _ => silent
  refine request_once id fun fenceResult => ?_
  split
  · next applied =>
    subst applied
    refine (StartedAttempt.run_once _ state).mono fun _ _ _ once =>
      once.mono fun earlier event asks => ?_
    exact ⟨_, rfl, List.mem_cons_self .., asks⟩
  · exact (within_pure _).atMostOnce

/-- The two writes that fence a dispatch, in their order. -/
def fenceEvents (creation : CreateToolCallCommand) (fence : DispatchToolCallCommand) :
    List (Event Answer) :=
  [⟨.port (.insertToolCall creation), .ok .inserted⟩,
    ⟨.port (.startToolCallIfCreated fence), .ok .applied⟩]

/-- The dispatch of an execution: the ToolCall of its authorised command was inserted as CREATED,
then its fence was applied, and the query is the owner's for the bound order id. -/
structure FencedExecution (arguments : GetOrderExecution) (before : List (Event Answer))
    (event : Event Answer) (orderId : Text) (creation : CreateToolCallCommand)
    (fence : DispatchToolCallCommand) : Prop where
  bound : arguments.boundOrderId = .ok orderId
  created : ∃ toolCallId startedAt,
    creation.createdRecord = arguments.createdToolCall toolCallId startedAt
  fenced : fence.expectedCreatedRecord = creation.createdRecord
  inOrder : (fenceEvents creation fence).Sublist before
  asks : Asks ⟨arguments.ownerScope.customerId, orderId⟩ event

private theorem executeGetOrder_once (arguments : GetOrderExecution) (state : σ) :
    (executeGetOrder arguments).Ensures state fun _ _ events => AtMostOnce Call.IsGetOrder
      (fun before event => ∃ orderId creation fence,
        FencedExecution arguments before event orderId creation fence) events := by
  have admits : ∀ before earlier event,
      (∃ orderId creation fence, FencedExecution arguments earlier event orderId creation fence) →
      ∃ orderId creation fence,
          FencedExecution arguments (before ++ earlier) event orderId creation fence := by
    rintro before earlier event ⟨orderId, creation, fence, guarded⟩
    exact ⟨orderId, creation, fence, { guarded with
      inOrder := guarded.inOrder.trans (List.sublist_append_right ..) }⟩
  refine ensures_ofExcept_bind (fun orderId bound => ?_) fun _ _ => silent
  refine Within.atMostOnce_bind (without_getOrder clock_quiet) admits fun startedAt => ?_
  refine Within.atMostOnce_bind (without_getOrder uuidFactory_quiet) admits fun toolCallId => ?_
  refine constructed_bind (fun _ => ?_) fun _ => silent
  refine constructed_bind (fun _ => ?_) fun _ => silent
  refine request_once id fun insertResult => ?_
  refine ensures_require_bind (fun applied => ?_) fun _ => silent
  obtain rfl : insertResult = .inserted := by simpa using applied
  refine (fenceAndRun_once arguments orderId _ state).mono fun _ _ _ once => once.mono ?_
  rintro earlier event ⟨fence, same, started, asks⟩
  exact ⟨orderId, _, fence, bound, ⟨toolCallId, startedAt, rfl⟩, same,
    (List.singleton_sublist.mpr started).cons_cons _, asks⟩

end Executor

/-- The bound order id of a command that the Gate authorised is the binding's value. -/
theorem boundOrderId_eq {arguments : GetOrderExecution} {orderId value : Text}
    (bound : arguments.boundOrderId = .ok orderId)
    (authorised : arguments.authorizedCommand.validatedArguments = [("order_id", .string value)]) :
    orderId = value := by
  simp only [GetOrderExecution.boundOrderId, authorised, Except.bind_eq_ok_iff] at bound
  obtain ⟨_, _, _, _, _, _, found⟩ := bound
  exact (Except.pure_eq_ok_iff.mp found).symm

/-- The dispatch that a Gate decision authorises for a bound input: the required events, the
inserted CREATED ToolCall of this decision and its applied fence came before, in this order. -/
structure AuthorisedBy (turn : RunningTurn) (gate : GateDecision) (inputBinding : InputBinding)
    (required before : List (Event Answer)) (event : Event Answer)
    (creation : CreateToolCallCommand) (fence : DispatchToolCallCommand) : Prop where
  ofRun : creation.createdRecord.runId = turn.runId
  ofGate : creation.createdRecord.gateDecisionId = gate.gateDecisionId
  created : creation.createdRecord.status = .created
  fenced : fence.expectedCreatedRecord = creation.createdRecord
  inOrder : (required ++ fenceEvents creation fence).Sublist before
  asks : Asks ⟨turn.ownerScope.customerId, inputBinding.normalizedValue⟩ event

namespace AuthorisedBy

variable {turn : RunningTurn} {gate : GateDecision} {inputBinding : InputBinding}
  {required before : List (Event Answer)} {event : Event Answer} {creation : CreateToolCallCommand}
  {fence : DispatchToolCallCommand}

theorem append_left
    (authorised : AuthorisedBy turn gate inputBinding required before event creation fence)
    (earlier : List (Event Answer)) :
    AuthorisedBy turn gate inputBinding required (earlier ++ before) event creation fence :=
  { authorised with inOrder := authorised.inOrder.trans (List.sublist_append_right ..) }

/-- An event that came before joins the required ones. -/
theorem require (authorised :
      AuthorisedBy turn gate inputBinding required before event creation fence)
    {first : Event Answer} {earlier : List (Event Answer)} (member : first ∈ earlier) :
    AuthorisedBy turn gate inputBinding (first :: required)
    (earlier ++ before) event creation fence :=
  { authorised with inOrder := (List.singleton_sublist.mpr member).append authorised.inOrder }

end AuthorisedBy

private theorem executeAuthorized_once (service : AgentRunService) (turn : RunningTurn)
    (current : CurrentGraph) (gate : GateDecision) (inputBinding : InputBinding)
    (manifest : ContextManifest) (modelCallId : Uuid) (state : RunFailureState) :
    (executeAuthorized service turn current gate inputBinding manifest modelCallId).Ensures state
      fun _ _ events => AtMostOnce Call.IsGetOrder (fun before event => ∃ creation fence,
        AuthorisedBy turn gate inputBinding [] before event creation fence) events := by
  have admits : ∀ before earlier event,
      (∃ creation fence, AuthorisedBy turn gate inputBinding [] earlier event creation fence) →
      ∃ creation fence, AuthorisedBy turn gate inputBinding []
          (before ++ earlier) event creation fence :=
    fun before _ _ ⟨creation, fence, authorised⟩ => ⟨creation, fence, authorised.append_left before⟩
  unfold executeAuthorized
  split
  · exact (within_throw _).atMostOnce
  refine Within.atMostOnce_bind (without_getOrder uuidFactory_quiet) admits fun contextId => ?_
  split
  · exact (within_throw _).atMostOnce
  refine constructed_bind (fun _ => ?_) fun _ => silent
  refine Within.atMostOnce_bind
    (without_getOrder (remainingRunTimeBudgetMs_quiet _ _)) admits fun remainingMs => ?_
  refine (executeGetOrder_once _ state).mono fun _ _ _ once => once.mono ?_
  rintro before event ⟨orderId, creation, fence, bound, ⟨toolCallId, startedAt, created⟩, fenced,
    inOrder, asks⟩
  obtain rfl := boundOrderId_eq bound rfl
  exact ⟨creation, fence, by rw [created]; rfl, by rw [created]; rfl, by rw [created]; rfl, fenced,
    inOrder, asks⟩

/-- A Gate decision that comes back was saved, and judges the move in this manifest. -/
private theorem decideGate_spec (service : AgentRunService) (turn : RunningTurn)
    (move : RevalidatedNextMove) (current : CurrentGraph) (inputBinding : InputBinding)
    (manifest : ContextManifest) (modelCallId : Uuid) (state : RunFailureState) :
    (decideGate service turn move current inputBinding manifest modelCallId).Ensures state
    fun outcome _ events =>
      ∀ gate, outcome = .ok gate → gate.contextManifestId = manifest.contextManifestId ∧
        ⟨.port (.saveGateDecision gate), .ok ()⟩ ∈ events := by
  refine uuidFactory_quiet.ensures_bind (fun _ _ _ _ => nofun) fun gateDecisionId _ _ => ?_
  refine clock_quiet.ensures_bind (fun _ _ _ _ => nofun) fun decidedAt _ _ => ?_
  dsimp only
  split
  · exact ensures_throw_iff.mpr fun _ => nofun
  · next gate evaluated =>
    obtain ⟨_, rfl⟩ := construct_eq_some.mp evaluated
    refine request_bind (fun saved => ?_) fun _ _ => nofun
    refine (appendTrace_quiet _ _ _ _).ensures_bind (fun _ _ _ _ => nofun) fun _ _ _ => ?_
    refine ensures_pure_iff.mpr fun gate same => ?_
    obtain rfl := Except.ok.inj same
    exact ⟨rfl, by simp⟩

/-- A saved manifest of this Run comes back. -/
private theorem saveManifest_spec {σ : Type} (service : AgentRunService) (runId modelCallId : Uuid)
    (purpose : String) (messageId : Uuid) (task : Option TaskRecord)
    (observationRef : Option VersionedRecordRef) (state : σ) :
    (saveManifest service runId modelCallId purpose messageId task observationRef).Ensures state
      fun outcome _ events => ∀ manifest, outcome = .ok manifest → manifest.runId = runId ∧
        ⟨.port (.saveContextManifest manifest), .ok ()⟩ ∈ events := by
  refine uuidFactory_quiet.ensures_bind (fun _ _ _ _ => nofun) fun contextManifestId _ _ => ?_
  refine clock_quiet.ensures_bind (fun _ _ _ _ => nofun) fun assembledAt _ _ => ?_
  refine constructed_bind (fun _ => ?_) fun _ _ => nofun
  refine request_bind (fun saved => ?_) fun _ _ => nofun
  refine (appendTrace_quiet _ _ _ _).ensures_bind (fun _ _ _ _ => nofun) fun _ _ _ => ?_
  refine ensures_pure_iff.mpr fun manifest same => ?_
  obtain rfl := Except.ok.inj same
  exact ⟨rfl, by simp⟩

private theorem beginUnderstanding_spec (service : AgentRunService) (turn : RunningTurn)
    (state : RunFailureState) :
    (beginUnderstanding service turn).Ensures state fun outcome _ events =>
      ∀ modelCallId manifest, outcome = .ok (modelCallId, manifest) → manifest.runId = turn.runId ∧
        ⟨.port (.saveContextManifest manifest), .ok ()⟩ ∈ events := by
  refine (appendTrace_quiet _ _ _ _).ensures_bind (fun _ _ _ _ _ => nofun) fun _ _ _ => ?_
  refine (appendTrace_quiet _ _ _ _).ensures_bind (fun _ _ _ _ _ => nofun) fun _ _ _ => ?_
  refine uuidFactory_quiet.ensures_bind (fun _ _ _ _ _ => nofun) fun _ _ _ => ?_
  refine (appendTrace_quiet _ _ _ _).ensures_bind (fun _ _ _ _ _ => nofun) fun _ _ _ => ?_
  rw [ensures_bind_iff]
  refine (saveManifest_spec _ _ _ _ _ _ _ state).mono fun outcome _ events saved => ?_
  cases outcome with
  | error raised => exact fun _ _ => nofun
  | ok manifest =>
    refine ensures_pure_iff.mpr fun modelCallId manifest same => ?_
    obtain ⟨-, rfl⟩ := Prod.mk.inj (Except.ok.inj same)
    obtain ⟨ofRun, member⟩ := saved manifest rfl
    exact ⟨ofRun, by simp [member]⟩

/-- What a saved Gate decision has to say of the dispatch it authorises. -/
def GateAuthorises (turn : RunningTurn) (inputBinding : InputBinding) (manifest : ContextManifest)
    (required : GateDecision → List (Event Answer)) (before : List (Event Answer))
    (event : Event Answer) : Prop :=
  ∃ gate creation fence, gate.decision = .accept ∧
    gate.contextManifestId = manifest.contextManifestId ∧
    AuthorisedBy turn gate inputBinding (required gate) before event creation fence

def manifestSaved (manifest : ContextManifest) : Event Answer :=
  ⟨.port (.saveContextManifest manifest), .ok ()⟩

def graphCommitted (graph : CreateInitialTaskGraphV2Command) : Event Answer :=
  ⟨.port (.createInitialTaskGraphV2IfCurrent graph), .ok .applied⟩

def gateSaved (gate : GateDecision) : Event Answer := ⟨.port (.saveGateDecision gate), .ok ()⟩

theorem GateAuthorises.append_left {turn : RunningTurn} {inputBinding : InputBinding}
    {manifest : ContextManifest} {required : GateDecision → List (Event Answer)}
    (before earlier : List (Event Answer))
    (event : Event Answer)
    (authorised : GateAuthorises turn inputBinding manifest required earlier event) :
    GateAuthorises turn inputBinding manifest required (before ++ earlier) event := by
  obtain ⟨gate, creation, fence, accepted, ofManifest, authorised⟩ := authorised
  exact ⟨gate, creation, fence, accepted, ofManifest, authorised.append_left before⟩

theorem GateAuthorises.require {turn : RunningTurn} {inputBinding : InputBinding}
    {manifest : ContextManifest} {required : GateDecision → List (Event Answer)}
    {before earlier : List (Event Answer)} {event : Event Answer}
    (authorised : GateAuthorises turn inputBinding manifest required earlier event)
    {first : Event Answer} (member : first ∈ before) :
    GateAuthorises turn inputBinding manifest (fun gate => first :: required gate)
    (before ++ earlier) event := by
  obtain ⟨gate, creation, fence, accepted, ofManifest, authorised⟩ := authorised
  exact ⟨gate, creation, fence, accepted, ofManifest, authorised.require member⟩

private theorem gateAndExecute_once (service : AgentRunService) (turn : RunningTurn)
    (decision : InitialRequestRoutableTaskGraphDecisionV2) (manifest : ContextManifest)
    (modelCallId : Uuid) (state : RunFailureState) :
    (gateAndExecute service turn decision manifest modelCallId).Ensures state fun _ _ events =>
      AtMostOnce Call.IsGetOrder (GateAuthorises turn decision.taskGraph.inputBinding manifest
        fun gate => [gateSaved gate]) events := by
  refine Within.atMostOnce_bind
    (without_getOrder (revalidateMove_quiet _ _ _)) GateAuthorises.append_left fun move => ?_
  refine (avoids_getOrder (loadCurrentGraph_follows turn decision.taskGraph)
    (by decide)).atMostOnce_bind GateAuthorises.append_left
    fun current middle => ?_
  refine atMostOnce_bind (Ensures.mono ((decideGate_quiet service turn move current
    decision.taskGraph.inputBinding manifest modelCallId middle).and
    (decideGate_spec service turn move current decision.taskGraph.inputBinding manifest modelCallId
      middle)) ?_)
  rintro outcome _ judged ⟨⟨rfl, quiet⟩, saved⟩
  refine ⟨fun event member => (quiet event member).not_isGetOrder, fun gate same => ?_⟩
  obtain ⟨ofManifest, member⟩ := saved gate same
  split
  · exact (avoids_getOrder (finishWithTask_follows _ _ _) (by decide) _).mono fun _ _ _ avoided =>
      .inl avoided
  · next accepted =>
    refine Ensures.mono (atMostOnce_bind_avoids (executeAuthorized_once service turn current gate
      decision.taskGraph.inputBinding manifest modelCallId _) fun execution =>
      avoids_getOrder (finishExecution_follows _ _ _ _) (by decide)) ?_
    refine fun _ _ _ once => once.mono ?_
    rintro earlier event ⟨creation, fence, authorised⟩
    refine ⟨gate, creation, fence, ?_, ofManifest, authorised.require member⟩
    cases decided : gate.decision with
    | accept => rfl
    | reject => exact absurd decided accepted

/-- A Task graph of this Run was committed, then a Gate decision authorised the dispatch for its
binding. -/
def GraphAuthorises (turn : RunningTurn) (manifest : ContextManifest)
    (required : CreateInitialTaskGraphV2Command → GateDecision → List (Event Answer))
    (before : List (Event Answer)) (event : Event Answer) : Prop :=
  ∃ graph : CreateInitialTaskGraphV2Command, graph.expectedActiveRunRecord = turn.runningRun ∧
    GateAuthorises turn graph.binding manifest (required graph) before event

def committed (graph : CreateInitialTaskGraphV2Command) (gate : GateDecision) :
    List (Event Answer) :=
  [graphCommitted graph, gateSaved gate]

theorem GraphAuthorises.append_left {turn : RunningTurn} {manifest : ContextManifest}
    {required : CreateInitialTaskGraphV2Command → GateDecision → List (Event Answer)}
    (before earlier : List (Event Answer)) (event : Event Answer)
    (authorised : GraphAuthorises turn manifest required earlier event) :
    GraphAuthorises turn manifest required (before ++ earlier) event := by
  obtain ⟨graph, ofRun, authorised⟩ := authorised
  exact ⟨graph, ofRun, authorised.append_left before⟩

theorem GraphAuthorises.require {turn : RunningTurn} {manifest : ContextManifest}
    {required : CreateInitialTaskGraphV2Command → GateDecision → List (Event Answer)}
    {before earlier : List (Event Answer)} {event : Event Answer}
    (authorised : GraphAuthorises turn manifest required earlier event)
    {first : Event Answer} (member : first ∈ before) :
    GraphAuthorises turn manifest (fun graph gate => first :: required graph gate)
    (before ++ earlier) event := by
  obtain ⟨graph, ofRun, authorised⟩ := authorised
  exact ⟨graph, ofRun, authorised.require member⟩

private theorem routeDecision_once (service : AgentRunService) (turn : RunningTurn)
    (reducedAt : Datetime) (decision : InitialRequestDecisionV2) (manifest : ContextManifest)
    (modelCallId : Uuid) (state : RunFailureState) :
    (routeDecision service turn reducedAt decision manifest modelCallId).Ensures state fun _ _
    events =>
      AtMostOnce Call.IsGetOrder (GraphAuthorises turn manifest committed) events := by
  cases decision with
  | noTask decision => exact (within_throw _).atMostOnce
  | unrouted decision => exact (within_throw _).atMostOnce
  | routable decision =>
    refine atMostOnce_bind ((commitInitialGraph_spec turn reducedAt decision state).mono ?_)
    intro outcome middle before spec
    cases outcome with
    | error raised =>
      refine ⟨?_, nofun⟩
      rcases spec with ⟨-, rfl | ⟨answer, -, rfl⟩⟩
      · exact List.forall_mem_nil _
      · exact List.forall_mem_singleton.mpr id
    | ok committed =>
      obtain ⟨-, rfl, -⟩ := spec
      refine ⟨List.forall_mem_singleton.mpr id, fun _ _ => ?_⟩
      refine Ensures.mono (Within.atMostOnce_bind
        (without_getOrder (appendInitialDecisionTrace_quiet _ _ _ _)) GateAuthorises.append_left
        fun traced => gateAndExecute_once service turn decision manifest modelCallId _) ?_
      refine fun _ _ _ once => once.mono fun earlier event authorised => ?_
      exact ⟨initialGraphCommand turn reducedAt decision, rfl,
        authorised.require (List.mem_singleton_self _)⟩

private theorem runTurn_once (service : AgentRunService) (turn : RunningTurn)
    (state : RunFailureState) :
    (runTurn service turn).Ensures state fun _ _ events =>
    AtMostOnce Call.IsGetOrder (fun before event =>
      ∃ manifest, manifest.runId = turn.runId ∧
        GraphAuthorises turn manifest
        (fun graph gate => [manifestSaved manifest, graphCommitted graph, gateSaved gate])
          before event) events := by
  refine atMostOnce_bind (Ensures.mono ((beginUnderstanding_quiet service turn state).and
    (beginUnderstanding_spec service turn state)) ?_)
  rintro outcome final before ⟨⟨same, quiet⟩, saved⟩
  refine ⟨fun event member => (quiet event member).not_isGetOrder, ?_⟩
  rintro ⟨modelCallId, manifest⟩ same
  obtain ⟨ofRun, member⟩ := saved modelCallId manifest same
  have admits : ∀ earlier later event, GraphAuthorises turn manifest committed later event →
      GraphAuthorises turn manifest committed (earlier ++ later) event :=
        GraphAuthorises.append_left
  suffices once : Ensures _ final fun _ _ events =>
      AtMostOnce Call.IsGetOrder (GraphAuthorises turn manifest committed) events by
    refine once.mono fun _ _ _ once => once.mono fun earlier event authorised => ?_
    exact ⟨manifest, ofRun, authorised.require member⟩
  refine Within.atMostOnce_bind (constructed_within _) admits fun modelRequest => ?_
  refine Within.atMostOnce_bind (without_getOrder (awaitProposal_quiet _)) admits fun proposed => ?_
  split
  · exact (avoids_getOrder (finishWithoutTask_follows turn _) (by decide) _).mono fun _ _ _
      avoided => .inl avoided
  refine Within.atMostOnce_bind
    (without_getOrder (reduceProposal_quiet _ _ _)) admits fun reduced => ?_
  split
  · exact (avoids_getOrder (finishWithoutTask_follows turn _) (by decide) _).mono fun _ _ _
      avoided => .inl avoided
  · exact routeDecision_once service turn _ _ manifest modelCallId _

/-- The writes that a dispatch rests on. -/
structure DispatchEvidence where
  start : TransitionRunCommand
  manifest : ContextManifest
  graph : CreateInitialTaskGraphV2Command
  gate : GateDecision
  creation : CreateToolCallCommand
  fence : DispatchToolCallCommand

namespace DispatchEvidence

variable (evidence : DispatchEvidence)

def runStarted : Event Answer := ⟨.port (.startRunIfCreated evidence.start), .ok .applied⟩

/-- The Run was started, its manifest saved, its Task graph committed, its Gate decision saved, its
ToolCall inserted and the ToolCall's fence applied. -/
def events : List (Event Answer) :=
  [evidence.runStarted, manifestSaved evidence.manifest, graphCommitted evidence.graph,
    gateSaved evidence.gate] ++
    fenceEvents evidence.creation evidence.fence

/-- The writes came before the dispatch, belong to one Run and one accepting Gate decision, and the
query asks for the committed binding of the command's customer. -/
structure Authorises (command : AgentRunCommand) (before : List (Event Answer))
    (event : Event Answer) : Prop where
  inOrder : evidence.events.Sublist before
  graphOfRun : evidence.graph.expectedActiveRunRecord = evidence.start.nextRecord
  manifestOfRun : evidence.manifest.runId = evidence.start.nextRecord.runId
  gateOfManifest : evidence.gate.contextManifestId = evidence.manifest.contextManifestId
  accepted : evidence.gate.decision = .accept
  callOfRun : evidence.creation.createdRecord.runId = evidence.start.nextRecord.runId
  callOfGate : evidence.creation.createdRecord.gateDecisionId = evidence.gate.gateDecisionId
  created : evidence.creation.createdRecord.status = .created
  fenced : evidence.fence.expectedCreatedRecord = evidence.creation.createdRecord
  asks : Asks ⟨command.customerContext.customerId, evidence.graph.binding.normalizedValue⟩ event

end DispatchEvidence

/-- The guard of every dispatch of a command. -/
def AgentRunCommand.Authorised (command : AgentRunCommand) (before : List (Event Answer))
    (event : Event Answer) :
    Prop := ∃ evidence : DispatchEvidence, evidence.Authorises command before event

/-- An opened turn keeps the owner it was opened for. -/
private theorem openTurn_spec {service : AgentRunService} {command : AgentRunCommand}
    {ownerScope : TrustedOwnerScope} {state : RunFailureState} :
    (openTurn service command ownerScope).Ensures state fun outcome _ _ =>
      ∀ opened, outcome = .ok opened → opened.ownerScope = ownerScope := by
  refine (resolveArtifact_quiet service).ensures_bind
    (fun _ _ _ _ => nofun) fun resolvedArtifact _ _ => ?_
  refine clock_quiet.ensures_bind (fun _ _ _ _ => nofun) fun now _ _ => ?_
  refine uuidFactory_quiet.ensures_bind (fun _ _ _ _ => nofun) fun conversationId _ _ => ?_
  refine constructed_bind (fun _ => ?_) fun _ _ => nofun
  refine uuidFactory_quiet.ensures_bind (fun _ _ _ _ => nofun) fun messageId _ _ => ?_
  refine constructed_bind (fun _ => ?_) fun _ _ => nofun
  refine request_bind (fun conversationSaved => ?_) fun _ _ => nofun
  refine request_bind (fun messageAppended => ?_) fun _ _ => nofun
  refine request_bind (fun messages => ?_) fun _ _ => nofun
  refine ensures_ofExcept_bind (fun authoritative _ => ?_) fun _ _ _ => nofun
  refine ensures_pure_iff.mpr fun opened same => ?_
  obtain rfl := Except.ok.inj same
  rfl

theorem AgentRunCommand.Authorised.append_left {command : AgentRunCommand}
    (before earlier : List (Event Answer))
    (event : Event Answer) (authorised : command.Authorised earlier event) :
    command.Authorised (before ++ earlier) event := by
  obtain ⟨evidence, authorised⟩ := authorised
  exact ⟨evidence, {
    authorised with inOrder := authorised.inOrder.trans (List.sublist_append_right ..) }⟩

/-- A turn that was opened for the command dispatches on its evidence only. -/
private theorem startedTurn_once {service : AgentRunService} {command : AgentRunCommand}
    {opened : OpenedTurn}
    (ofOwner : opened.ownerScope = .fromCustomerContext command.customerContext)
    (state : RunFailureState) :
    (startRun service opened >>= runTurn service).Ensures state fun _ _ events =>
      AtMostOnce Call.IsGetOrder command.Authorised events := by
  refine atMostOnce_bind ((startRun_spec service opened _).mono ?_)
  rintro outcome final events ⟨starting, quiet, spec⟩
  have starts : ∀ event ∈ starting, ¬event.call.IsGetOrder := fun event member =>
    (quiet event member).not_isGetOrder
  cases outcome with
  | error raised =>
    refine ⟨?_, fun turn same => absurd same nofun⟩
    rcases spec with ⟨-, rfl | ⟨start, answer, -, rfl⟩⟩
    · exact starts
    · exact List.forall_mem_append.mpr ⟨starts, List.forall_mem_singleton.mpr id⟩
  | ok turn =>
    obtain ⟨start, rfl, -, rfl⟩ := spec
    refine ⟨List.forall_mem_append.mpr ⟨starts, List.forall_mem_singleton.mpr id⟩,
      fun turn same => ?_⟩
    obtain rfl := Except.ok.inj same
    refine (runTurn_once service _ final).mono fun _ _ _ once => once.mono ?_
    rintro earlier event ⟨manifest, manifestOfRun, graph, graphOfRun, gate, creation, fence,
      accepted, ofManifest, authorised⟩
    have dispatched := authorised.require (List.mem_append_right starting (List.mem_singleton_self
      (⟨.port (.startRunIfCreated start), .ok .applied⟩ : Event Answer)))
    exact ⟨⟨start, manifest, graph, gate, creation, fence⟩,
      { inOrder := dispatched.inOrder
        graphOfRun := graphOfRun
        manifestOfRun := manifestOfRun
        gateOfManifest := ofManifest
        accepted := accepted
        callOfRun := dispatched.ofRun
        callOfGate := dispatched.ofGate
        created := dispatched.created
        fenced := dispatched.fenced
        asks := by
          simpa only [ofOwner, TrustedOwnerScope.fromCustomerContext] using dispatched.asks }⟩

private theorem handleTurn_once (service : AgentRunService) (command : AgentRunCommand)
    (state : RunFailureState) :
    (handleTurn service command).Ensures state fun _ _ events =>
      AtMostOnce Call.IsGetOrder command.Authorised events := by
  refine constructed_bind (fun _ => ?_) fun _ => silent
  refine (avoids_modify _).atMostOnce_bind AgentRunCommand.Authorised.append_left fun _ middle => ?_
  refine atMostOnce_bind (((openTurn_quiet service command _ middle).and openTurn_spec).mono ?_)
  rintro outcome _ before ⟨⟨rfl, quiet⟩, opens⟩
  refine ⟨fun event member => (quiet event member).not_isGetOrder, fun opened same => ?_⟩
  refine (startedTurn_once (opens opened same) _).mono fun _ _ _ once => once.mono ?_
  exact AgentRunCommand.Authorised.append_left before

theorem handle_once (service : AgentRunService) (command : AgentRunCommand) :
    (handle service command).Ensures {} fun _ _ events =>
      AtMostOnce Call.IsGetOrder command.Authorised events :=
  atMostOnce_tryCatch_avoids (handleTurn_once service command {}) fun error =>
    avoids_getOrder (closeAfterError_follows error) (by decide)

/-- In every run the order port is called at most once, and only on the evidence of an authorised
dispatch. -/
theorem dispatch_is_safe (service : AgentRunService) (command : AgentRunCommand) :
    (handle service command).Ensures {} fun _ _ events =>
      AtMostOnce Call.IsGetOrder command.Authorised events := handle_once service command

end MiniAgent.Application
