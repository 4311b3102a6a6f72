import MiniAgent.Application.RunCommit
import MiniAgent.Application.EnumValues
import MiniAgent.Infrastructure.MockOrders

/-! # What an evaluation may observe of a run

The safe observable of a case is the HTTP status, the outcome, the response policy, the shape of the
ordinary trace and the number of model calls. A case about another customer's order and a case about
an order that does not exist have to agree on it.
-/

namespace MiniAgent.Evaluation

open MiniAgent.Core MiniAgent.Application MiniAgent.Infrastructure

structure SafeTraceShapeEntry where
  eventType : TraceEventType
  count : ℕ
  status : Option String := none
  reason : Option String := none
deriving DecidableEq, Repr

/-- `"|".join(values) or None` -/
def joined (values : List String) : Option String :=
  let text := "|".intercalate values
  if text = "" then none else some text

def statusValues (event : TraceEvent) : List String :=
  (event.gateDecision.map (·.value)).toList ++
    (event.toolCallTerminalStatus.map (·.value)).toList ++
    (event.safeToolOutcome.map (·.value)).toList ++ (event.userOutcome.map (·.value)).toList

def reasonValues (event : TraceEvent) : List String :=
  (event.gateReasonCode.map (·.value)).toList ++ (event.stopReason.map (·.value)).toList

/-- The shape of the events after those that were counted already. -/
def shapeAfter (counted : List TraceEvent) : List TraceEvent → List SafeTraceShapeEntry
  | [] => []
  | event :: rest =>
    let seen := counted ++ [event]
    { eventType := event.eventType
      count := seen.countP (·.eventType == event.eventType)
      status := joined (statusValues event)
      reason := joined (reasonValues event) } :: shapeAfter seen rest

def ordinaryTraceShape (traceEvents : List TraceEvent) : List SafeTraceShapeEntry :=
  shapeAfter [] traceEvents

structure SafeCaseObservable where
  caseId : String
  httpStatus : ℕ
  userOutcome : AgentOutcome
  responsePolicy : String
  ordinaryTraceShape : List SafeTraceShapeEntry
  modelCalls : ℕ
deriving DecidableEq, Repr

/-- `e2e01_04_safe_observables_match` -/
def safeObservablesMatch (observablesByCase : List (String × SafeCaseObservable)) : Bool :=
  sameSet (observablesByCase.map (·.1)) ["E2E01-04-A", "E2E01-04-B"] &&
  match observablesByCase.lookup "E2E01-04-A", observablesByCase.lookup "E2E01-04-B" with
  | some foreign, some nonexistent =>
    foreign.caseId == "E2E01-04-A" && nonexistent.caseId == "E2E01-04-B" &&
      foreign.httpStatus == nonexistent.httpStatus &&
        foreign.userOutcome == nonexistent.userOutcome &&
      foreign.responsePolicy == nonexistent.responsePolicy &&
      foreign.ordinaryTraceShape == nonexistent.ordinaryTraceShape &&
      foreign.modelCalls == nonexistent.modelCalls
  | _, _ => false

/-- Two observables that differ in their case only match. -/
private theorem safeObservablesMatch_of_same {foreign nonexistent : SafeCaseObservable}
    (caseA : foreign.caseId = "E2E01-04-A")
    (same : nonexistent = { foreign with caseId := "E2E01-04-B" }) :
    safeObservablesMatch [("E2E01-04-A", foreign), ("E2E01-04-B", nonexistent)] = true := by
  have keys : sameSet ["E2E01-04-A", "E2E01-04-B"] ["E2E01-04-A", "E2E01-04-B"] = true := by decide
  have first : List.lookup "E2E01-04-A" [("E2E01-04-A", foreign), ("E2E01-04-B", nonexistent)] =
    some foreign := rfl
  have second : List.lookup "E2E01-04-B" [("E2E01-04-A", foreign), ("E2E01-04-B", nonexistent)] =
    some nonexistent := rfl
  subst same
  simp [safeObservablesMatch, keys, first, second, caseA]

/-- `_exact_run_eval_response_policy` -/
def responsePolicy : StopReason → Option String
  | .goalCompleted => some "DETERMINISTIC_ORDER_SUMMARY_V1"
  | .notFoundOrNotAccessible => some "FIXED_NOT_FOUND_OR_NOT_ACCESSIBLE"
  | .orderServiceUnavailable => some "FIXED_ORDER_SERVICE_UNAVAILABLE"
  | .inputInvalid | .gateRejected | .providerProtocolError | .presentationPlanRejected
  | .rendererInvariantFailed => some "FIXED_SAFE_PROCESSING_ERROR"
  | .processRestartDetected => none

/-- The Trace events that a run stored. -/
def storedTrace (events : List (Event Answer)) : List TraceEvent :=
  events.flatMap fun
    | ⟨.port (.appendTraceEvent event), .ok ()⟩ => [event]
    | ⟨.port (.finalizeRunIfActive command), .ok .applied⟩ => command.terminalTraceEvents
    | _ => []

/-- The context manifests that a run stored: one for each model call. -/
def storedManifests (events : List (Event Answer)) : List ContextManifest :=
  events.flatMap fun
    | ⟨.port (.saveContextManifest manifest), .ok ()⟩ => [manifest]
    | _ => []

/-- The stop reason of the terminal Run that a run stored. -/
def storedStopReason (events : List (Event Answer)) : Option StopReason :=
  events.findSome? fun
    | ⟨.port (.finalizeRunIfActive command), .ok .applied⟩ => command.terminalRecord.stopReason
    | _ => none

/-- The observable that the exact-run mapping gives a run that returned the result over HTTP. -/
def safeObservable (caseId : String) (result : AgentRunResult) (events : List (Event Answer)) :
    Option SafeCaseObservable := do
  let policy ← responsePolicy (← storedStopReason events)
  return {
    caseId := caseId
    httpStatus := 200
    userOutcome := result.outcome
    responsePolicy := policy
    ordinaryTraceShape := ordinaryTraceShape (storedTrace events)
    modelCalls := (storedManifests events).length }

section Returned

variable {events : List (Event Answer)}

private theorem storedStopReason_refused {before : List (Event Answer)}
    (refused : ∀ event ∈ before, Refused event) :
    storedStopReason before = none := by
  apply List.findSome?_eq_none_iff.mpr
  intro event member
  split
  · next command => exact absurd rfl (refused _ member _ _ rfl).2.2
  · rfl

/-- A finalization with a result stops for a reason that has a response policy. -/
private theorem responsePolicy_of_valid {command : FinalizeRunCommand} {result : AgentRunResult}
    (valid : ContractModel.validates command = true)
    (carries : command.terminalResult = some result) :
    ∃ stopReason policy, command.terminalRecord.stopReason = some stopReason ∧
    responsePolicy stopReason = some policy := by
  unfold ContractModel.validates at valid
  simp only [FinalizeRunCommand.instContractModel, Bool.and_eq_true] at valid
  obtain ⟨-, ending⟩ := valid
  split at ending
  · simp [FinalizeRunCommand.carriesNoResult, carries] at ending
  · simp only [FinalizeRunCommand.completionIsExact, carries, Bool.and_eq_true] at ending
    obtain ⟨-, exact_⟩ := ending
    split at exact_
    · next carried message stopReason _ _ stopped =>
      simp only [Bool.and_eq_true] at exact_
      obtain ⟨⟨⟨⟨-, row⟩, -⟩, -⟩, -⟩ := exact_
      refine ⟨stopReason, ?_⟩
      cases stopReason with
      | processRestartDetected => simp [completedFinalizationRows] at row
      | _ => exact ⟨_, stopped, rfl⟩
    · cases exact_

private theorem safeObservable_of_returns {before : List (Event Answer)}
    {command : FinalizeRunCommand} {result : AgentRunResult}
    (refused : ∀ event ∈ before, Refused event) (valid : ContractModel.validates command = true)
    (carries : command.terminalResult = some result) :
    ∃ policy, ∀ caseId, safeObservable caseId result
        (before ++ [⟨.port (.finalizeRunIfActive command), .ok .applied⟩]) = some
      { caseId := caseId
        httpStatus := 200
        userOutcome := result.outcome
        responsePolicy := policy
        ordinaryTraceShape := ordinaryTraceShape
          (storedTrace (before ++ [⟨.port (.finalizeRunIfActive command), .ok .applied⟩]))
        modelCalls :=
        (storedManifests (before ++ [⟨.port (.finalizeRunIfActive command), .ok .applied⟩])).length
        } := by
  obtain ⟨stopReason, policy, stopped, policed⟩ := responsePolicy_of_valid valid carries
  refine ⟨policy, fun caseId => ?_⟩
  have stored : storedStopReason
      (before ++ [⟨.port (.finalizeRunIfActive command), .ok .applied⟩]) =
      some stopReason := by
    rw [storedStopReason, List.findSome?_append, show before.findSome? _ = none from
      storedStopReason_refused refused, Option.none_or]
    simp only [List.findSome?_cons, stopped]
  rw [safeObservable, stored, Option.bind_eq_bind, Option.bind_some, policed]
  rfl

/-- Two worlds that differ only in the orders of other customers give the authenticated customer the
same run: the same calls with the same arguments and answers, and the same end. In particular a
request for an order that only another customer has is observed like one for an order that nobody
has. -/
theorem foreign_orders_are_indistinguishable (world : World) (service : AgentRunService)
    {command : AgentRunCommand} {orders other : List (Event Answer) → MockOrders}
    (same : ∀ history,
      SameRowsOf command.customerContext.customerId (orders history) (other history)) :
    world.run orders service command = world.run other service command ∧
      ∀ result, (world.run orders service command).2.1 = .ok result → ∃ foreign nonexistent,
        safeObservable "E2E01-04-A" result (world.run orders service command).1 = some foreign ∧
        safeObservable "E2E01-04-B" result (world.run other service command).1 = some nonexistent ∧
        safeObservablesMatch [("E2E01-04-A", foreign), ("E2E01-04-B", nonexistent)] = true := by
  have sameRun := world.run_congr service same
  refine ⟨sameRun, fun result returned => ?_⟩
  rw [← sameRun]
  have ends := handle_ends service command _ _ _ (world.run_runs orders service command)
  rw [returned] at ends
  generalize (world.run orders service command).1 = events at ends
  cases ends with
  | returns _ before finalization refused valid carries =>
    obtain ⟨policy, observed⟩ := safeObservable_of_returns refused valid carries
    exact ⟨_, _, observed _, observed _, safeObservablesMatch_of_same rfl rfl⟩

/-- A world in which every other port answers as the store would and no payload can be loaded. -/
def exampleOrderWorld : World where
  library := { modelValidate := fun _ => none, modelDump := fun _ => .null }
  answers := exampleWorld (fun _ => .utc 0) fun _ => .ok none
  interrupted := fun _ => none
  databaseFails := fun _ => false

/-- Order O-1001 belongs to another customer. -/
def foreignOrder (_ : List (Event Answer)) : MockOrders := fun customerId orderId =>
  if customerId = "other" ∧ orderId = "O-1001".toList then some (.object []) else none

def noOrder (_ : List (Event Answer)) : MockOrders := fun _ _ => none

/-- The run that asks for another customer's order is the run that asks for an order nobody has. -/
theorem foreign_orders_are_indistinguishable_O1001 :
    exampleOrderWorld.run foreignOrder exampleService exampleCommand =
      exampleOrderWorld.run noOrder exampleService exampleCommand := by
  have same (history : List (Event Answer)) : SameRowsOf exampleCommand.customerContext.customerId
      (foreignOrder history) (noOrder history) := by
    intro orderId
    simp [foreignOrder, noOrder, exampleCommand]
  exact (foreign_orders_are_indistinguishable exampleOrderWorld exampleService same).1

end Returned

end MiniAgent.Evaluation
