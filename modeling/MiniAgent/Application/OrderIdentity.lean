import MiniAgent.Application.DispatchSafety
import MiniAgent.Application.ToolCallClosure

/-! # The order that is shown and the order that was asked for

The Observation of a Run states the order of the result the port returned, and a completed goal is
rendered from a saved Observation. Whether it is the order that was asked for depends on the port:
the executor validates the returned object again, but does not compare its order number with the
query.
-/

namespace MiniAgent.Application

open MiniAgent.Core ContractModel
open Coroutine

/-- The Observation was saved. -/
def SavedIn (events : List (Event Answer)) (observation : OrderObservation) : Prop :=
  ∃ command result, ⟨.port (.saveObservation command), .ok result⟩ ∈ events ∧
    (result = .inserted ∨ result = .alreadyApplied) ∧ command.observationRecord = observation

/-- The order port returned a valid FOUND result with this order for the query. -/
def ReturnedIn (events : List (Event Answer)) (query : GetOrderQuery)
    (order : OrderSummaryProjection) : Prop :=
  ∃ timeoutMs result canonical, ⟨.port (.getOrder timeoutMs query), .ok result⟩ ∈ events ∧
    canonicalGetOrderResult result = some canonical ∧ canonical.outcome = .found ∧
    canonical.orderSummary = some order

/-- The Observation is about this order. -/
structure StatesOrder (observation : OrderObservation) (order : OrderSummaryProjection) : Prop where
  resource : observation.sourceResourceRef = order.orderNumber
  value : observation.normalizedValue = order

section Membership

variable {events before after : List (Event Answer)} {observation : OrderObservation}

private theorem savedIn_append : SavedIn (before ++ after) observation ↔
    SavedIn before observation ∨ SavedIn after observation := by
  constructor
  · rintro ⟨command, result, member, saved⟩
    rcases List.mem_append.mp member with member | member
    · exact .inl ⟨command, result, member, saved⟩
    · exact .inr ⟨command, result, member, saved⟩
  · rintro (⟨command, result, member, saved⟩ | ⟨command, result, member, saved⟩)
    · exact ⟨command, result, List.mem_append_left _ member, saved⟩
    · exact ⟨command, result, List.mem_append_right _ member, saved⟩

/-- Where nothing is saved there is no saved Observation. -/
private theorem not_savedIn
    (quiet : ∀ event ∈ events, event.call.milestone ≠ some .saveObservation) :
    ¬SavedIn events observation := fun ⟨_, _, member, _⟩ => quiet _ member rfl

theorem ReturnedIn.mono {query : GetOrderQuery} {order : OrderSummaryProjection}
    (returned : ReturnedIn before query order) (part : before ⊆ after) :
    ReturnedIn after query order := by
  obtain ⟨timeoutMs, result, canonical, member, found⟩ := returned
  exact ⟨timeoutMs, result, canonical, part member, found⟩

end Membership

/-- Every saved Observation states an order of the source, and the one that is shown was saved. -/
structure Observes (source : OrderSummaryProjection → Prop) (events : List (Event Answer))
    (shown : Option OrderObservation) : Prop where
  fromSource : ∀ observation, SavedIn events observation → ∃ order, source order ∧
    StatesOrder observation order
  saved : ∀ observation, shown = some observation → SavedIn events observation

section Observes

variable {source : OrderSummaryProjection → Prop} {events before after : List (Event Answer)}
  {shown : Option OrderObservation}

/-- The events save no Observation. -/
def SavesNothing (events : List (Event Answer)) : Prop :=
  ∀ event ∈ events, event.call.milestone ≠ some .saveObservation

private theorem savesNothing_of_quiet (quiet : ∀ event ∈ events, event.call.Quiet) :
    SavesNothing events := by
  intro event member
  rw [show event.call.milestone = none from quiet event member]
  exact nofun

private theorem SavesNothing.observes (nothing : SavesNothing events) :
    Observes source events none :=
  ⟨fun _ saved => absurd saved (not_savedIn nothing), by simp⟩

theorem Observes.append_left (observes : Observes source after shown)
    (nothing : SavesNothing before) :
    Observes source (before ++ after) shown := by
  refine ⟨fun observation saved => ?_, fun observation same =>
    savedIn_append.mpr (.inr (observes.saved _ same))⟩
  rcases savedIn_append.mp saved with saved | saved
  · exact absurd saved (not_savedIn nothing)
  · exact observes.fromSource _ saved

theorem Observes.append_right (observes : Observes source before shown)
    (nothing : SavesNothing after) :
    Observes source (before ++ after) shown := by
  refine ⟨fun observation saved => ?_, fun observation same =>
    savedIn_append.mpr (.inl (observes.saved _ same))⟩
  rcases savedIn_append.mp saved with saved | saved
  · exact observes.fromSource _ saved
  · exact absurd saved (not_savedIn nothing)

theorem Observes.mono {larger : OrderSummaryProjection → Prop}
    (observes : Observes source events shown) (implies : ∀ order, source order → larger order) :
    Observes larger events shown := by
  refine ⟨fun observation saved => ?_, observes.saved⟩
  obtain ⟨order, fromSource, states⟩ := observes.fromSource observation saved
  exact ⟨order, implies order fromSource, states⟩

end Observes

/-- The order of a returned object that the executor accepts. -/
def AcceptedOrder (candidateResult : Option GetOrderResult)
    (order : OrderSummaryProjection) : Prop :=
  ∃ canonical, canonicalGetOrderResult candidateResult = some canonical ∧
    canonical.outcome = .found ∧ canonical.orderSummary = some order

/-- The Observation that an execution shows. -/
def shownBy (outcome : Except Raised ReadToolExecution) : Option OrderObservation :=
  outcome.toOption.bind (·.observation)

section Executor

variable {σ : Type} {state : σ}

namespace StartedAttempt

variable (started : StartedAttempt)

private theorem saveOrderObservation_spec (result : GetOrderResult) (terminal : ToolCallRecord) :
    (started.saveOrderObservation result terminal : Runtime σ _).Ensures state fun outcome _
    events =>
      Observes (fun order => result.orderSummary = some order) events outcome.toOption := by
  have silent {source : OrderSummaryProjection → Prop} : Observes source [] none :=
    SavesNothing.observes (List.forall_mem_nil _)
  unfold saveOrderObservation
  split
  · next summary finishedAt summarised finished =>
    refine uuidFactory_quiet.ensures_bind
      (fun _ before quiet => (savesNothing_of_quiet quiet).observes) fun observationId before
        quiet => ?_
    refine Ensures.mono ?_ fun _ _ _ (observes : Observes _ _ _) =>
      observes.append_left (savesNothing_of_quiet quiet)
    refine constructed_bind (fun _ => ?_) fun _ => silent
    refine constructed_bind (fun _ => ?_) fun _ => silent
    have states {answer : Except Raised ObservationWriteResult} {observation : OrderObservation}
        (saved : SavedIn [⟨.port
          (.saveObservation ⟨started.ownerScope, orderObservation summary result.sourceVersion
          observationId finishedAt, terminal⟩), answer⟩] observation) :
        ∃ order, result.orderSummary = some order ∧ StatesOrder observation order := by
      obtain ⟨command, accepted, member, -, rfl⟩ := saved
      cases List.mem_singleton.mp member
      exact ⟨summary, summarised, rfl, rfl⟩
    refine request_bind (fun observationResult => ?_) fun raised =>
      ⟨fun _ => states, by simp [Except.toOption]⟩
    refine ensures_require_bind (fun accepted => ?_) fun _ =>
      ⟨fun _ => states, by simp [Except.toOption]⟩
    refine ensures_pure_iff.mpr ⟨fun _ => states, fun observation same => ?_⟩
    obtain rfl := Option.some.inj same
    exact ⟨_, observationResult, List.mem_singleton_self _, by simpa using accepted, rfl⟩
  · exact ensures_throw_iff.mpr silent

private theorem acceptedOrder {candidateResult : Option GetOrderResult}
    {order : OrderSummaryProjection}
    (found : ((canonicalGetOrderResult candidateResult).getD unavailableResult).outcome = .found)
    (summarised : ((canonicalGetOrderResult candidateResult).getD unavailableResult).orderSummary =
      some order) :
    AcceptedOrder candidateResult order := by
  cases canonical : canonicalGetOrderResult candidateResult with
  | none =>
    rw [canonical] at found
    cases found
  | some result =>
    rw [canonical] at found summarised
    exact ⟨result, canonical, found, summarised⟩

private theorem finishLookUp_observes (candidateResult : Option GetOrderResult) :
    (started.finishLookUp candidateResult : Runtime σ _).Ensures state fun outcome _ events =>
      Observes (AcceptedOrder candidateResult) events (shownBy outcome) := by
  have quietly {source : OrderSummaryProjection → Prop} {before : List (Event Answer)}
      (quiet : ∀ event ∈ before, event.call.Quiet) : Observes source before none :=
    (savesNothing_of_quiet quiet).observes
  unfold finishLookUp
  dsimp only
  split
  · next found =>
    refine ensures_require_bind (fun _ => ?_) fun _ => quietly (List.forall_mem_nil _)
    refine uuidFactory_quiet.ensures_bind
      (fun _ before quiet => quietly quiet) fun resultRef before quiet => ?_
    refine Ensures.mono ?_ fun _ _ _ (observes : Observes _ _ _) =>
      observes.append_left (savesNothing_of_quiet quiet)
    refine (finalizeRunningAttempt_quiet _ _ _).ensures_bind (fun _ before quiet => quietly quiet)
      fun finalized before quiet => ?_
    refine Ensures.mono ?_ fun _ _ _ (observes : Observes _ _ _) =>
      observes.append_left (savesNothing_of_quiet quiet)
    refine ensures_bind_iff.mpr
      ((started.saveOrderObservation_spec _ _).mono fun outcome middle events observes => ?_)
    have accepted := observes.mono fun order => acceptedOrder found
    cases outcome with
    | error raised => exact accepted
    | ok observation =>
      refine ensures_pure_iff.mpr ?_
      rw [List.append_nil]
      exact accepted
  · refine (finalizeRunningAttempt_quiet _ _ _).ensures_bind (fun _ before quiet => quietly quiet)
      fun finalized before quiet => ensures_pure_iff.mpr ?_
    rw [List.append_nil]
    exact quietly quiet

/-- A cancellation is always raised again. -/
private theorem interrupt_raises (cancellation : Raised) :
    (started.interrupt cancellation : Runtime σ _).Ensures state fun outcome _ events =>
      shownBy outcome = none ∧ SavesNothing events := by
  refine (((started.interrupt_within cancellation _).mono fun _ _ _ kept => kept.2).and ?_).mono
    (fun outcome _ events both =>
      ⟨both.2, savesNothing_of_quiet fun event member => (both.1 event member).quiet⟩)
  refine ensures_bind_iff.mpr (Ensures.mono (fun _ _ _ _ => trivial) fun finalized middle _ _ => ?_)
  rcases finalized with raised | finalizationError | ⟨terminal, attempt⟩
  · rfl
  · exact ensures_throw_iff.mpr rfl
  · refine ensures_bind_iff.mpr
      (Ensures.mono (fun _ _ _ _ => trivial) fun appended middle _ _ => ?_)
    rcases appended with raised | traceError | done
    · rfl
    · exact ensures_throw_iff.mpr rfl
    · exact ensures_throw_iff.mpr rfl

/-- An Observation is saved only of the order that the port returned for the query. -/
private theorem run_observes : (started.run : Runtime σ _).Ensures state fun outcome _ events =>
    Observes (ReturnedIn events started.query) events (shownBy outcome) := by
  have handled {reached : σ} {before : List (Event Answer)} {raised : Raised}
      (observes : Observes (ReturnedIn before started.query) before none) :
      (if raised.kind = .cancelledError then started.interrupt raised else throw raised :
        Runtime σ ReadToolExecution).Ensures reached fun outcome _ after =>
          Observes (ReturnedIn (before ++ after) started.query) (before ++ after)
              (shownBy outcome) := by
    split
    · refine (started.interrupt_raises raised).mono fun outcome _ after spec => ?_
      rw [spec.1]
      exact (observes.append_right spec.2).mono fun order returned =>
        returned.mono (List.subset_append_left _ _)
    · refine ensures_throw_iff.mpr ?_
      rw [List.append_nil]
      exact observes
  have askedOnly (answer : Except Raised (Option GetOrderResult)) :
      SavesNothing [started.asked answer] :=
    List.forall_mem_singleton.mpr nofun
  refine ensures_tryCatch_iff.mpr (ensures_bind_iff.mpr (lookUpOrder_spec.mono ?_))
  rintro outcome _ events ⟨rfl, ⟨invalid, rfl, rfl⟩ | ⟨valid, answer, rfl, rfl⟩⟩
  · exact handled (SavesNothing.observes (List.forall_mem_nil _))
  rcases answer with raised | candidateResult
  · by_cases timeout : raised.kind = .timeoutError
    · rw [show lookedUp (.error raised) = .ok none from if_pos timeout]
      refine (finalizeRunningAttempt_quiet _ _ _).ensures_bind (fun failure before quiet => ?_)
        fun finalized before quiet => ensures_pure_iff.mpr ?_
      · exact handled ((savesNothing_of_quiet quiet).observes.append_left (askedOnly _))
      · rw [List.append_nil]
        exact (savesNothing_of_quiet quiet).observes.append_left (askedOnly _)
    · rw [show lookedUp (.error raised) = .error raised from if_neg timeout]
      exact handled (askedOnly _).observes
  · refine (started.finishLookUp_observes candidateResult).mono fun outcome middle after
      observes => ?_
    have returned : Observes
        (ReturnedIn ([started.asked (.ok candidateResult)] ++ after) started.query)
        ([started.asked (.ok candidateResult)] ++ after) (shownBy outcome) := by
      refine (observes.mono ?_).append_left (askedOnly _)
      rintro order ⟨canonical, accepted, found, summarised⟩
      exact ⟨_, candidateResult, canonical, List.mem_cons_self .., accepted, found, summarised⟩
    cases outcome with
    | ok execution => exact returned
    | error raised => exact handled returned

end StartedAttempt

/-- The saved Observations state what the port returned for a query, and a shown one was saved. -/
def ObservesQuery (query : GetOrderQuery) (outcome : Except Raised ReadToolExecution)
    (events : List (Event Answer)) :
    Prop := Observes (ReturnedIn events query) events (shownBy outcome)

theorem ObservesQuery.append_left {query : GetOrderQuery}
    {outcome : Except Raised ReadToolExecution} {before after : List (Event Answer)}
    (observes : ObservesQuery query outcome after) (quiet : ∀ event ∈ before, event.call.Quiet) :
    ObservesQuery query outcome (before ++ after) :=
  (observes.mono fun _ returned => returned.mono (List.subset_append_right _ _)).append_left
    (savesNothing_of_quiet quiet)

private theorem observesQuery_of_quiet {query : GetOrderQuery} {raised : Raised}
    {before : List (Event Answer)} (quiet : ∀ event ∈ before, event.call.Quiet) :
    ObservesQuery query (.error raised) before :=
  (savesNothing_of_quiet quiet).observes

/-- A quiet stage before the lookup. -/
private theorem quiet_observes {α : Type} {query : GetOrderQuery} {action : Runtime σ α}
    {next : α → Runtime σ ReadToolExecution} (quiet : action.Within Call.Quiet)
    (rest : ∀ value, (next value).Ensures state fun outcome _ events =>
      ObservesQuery query outcome events) :
    (action >>= next).Ensures state fun outcome _ events => ObservesQuery query outcome events :=
  quiet.ensures_bind (fun _ _ kept => observesQuery_of_quiet kept) fun value _ kept =>
    (rest value).mono fun _ _ _ observes => observes.append_left kept

/-- The executor saves an Observation only of the order that the port returned for the bound
query. -/
private theorem executeGetOrder_observes (arguments : GetOrderExecution) (orderId : Text)
    (bound : ∀ other, arguments.boundOrderId = .ok other → other = orderId) :
    (executeGetOrder arguments : Runtime σ _).Ensures state fun outcome _ events =>
      ObservesQuery ⟨arguments.ownerScope.customerId, orderId⟩ outcome events := by
  refine ensures_ofExcept_bind (fun other same => ?_) fun _ _ =>
    observesQuery_of_quiet (List.forall_mem_nil _)
  obtain rfl := bound other same
  refine quiet_observes clock_quiet fun startedAt => ?_
  refine quiet_observes uuidFactory_quiet fun toolCallId => ?_
  refine quiet_observes (constructed_within _) fun created => ?_
  refine quiet_observes (constructed_within _) fun creation => ?_
  refine quiet_observes (request_quiet rfl) fun insertResult => ?_
  refine quiet_observes (within_require _ _) fun inserted => ?_
  refine quiet_observes clock_quiet fun attemptStartedAt => ?_
  refine quiet_observes (constructed_within _) fun attempt => ?_
  refine quiet_observes (constructed_within _) fun running => ?_
  refine quiet_observes (constructed_within _) fun fence => ?_
  refine quiet_observes (request_quiet rfl) fun fenceResult => ?_
  split
  · exact StartedAttempt.run_observes _
  · exact ensures_pure_iff.mpr (SavesNothing.observes (List.forall_mem_nil _))

end Executor

/-- A completed goal is rendered from the Observation that is shown. -/
def RendersOnly (shown : Option OrderObservation) (events : List (Event Answer)) : Prop :=
  ∀ command answer, ⟨.port (.finalizeRunIfActive command), answer⟩ ∈ events →
    command.terminalRecord.stopReason = some .goalCompleted → ∃ observation plan message,
      shown = some observation ∧ renderOrderSummary observation plan = .ok message ∧
        command.terminalResult.map (·.message) = some message

section Stops

variable {shown : Option OrderObservation} {before after : List (Event Answer)}
  {state : RunFailureState}

private theorem rendersOnly_of_quiet (quiet : ∀ event ∈ before, event.call.Quiet) :
    RendersOnly shown before :=
  fun _ _ member => nomatch quiet _ member

theorem RendersOnly.append (first : RendersOnly shown before) (second : RendersOnly shown after) :
    RendersOnly shown (before ++ after) := by
  intro command answer member
  rcases List.mem_append.mp member with member | member
  · exact first command answer member
  · exact second command answer member

/-- A quiet stage before a stop. -/
private theorem quiet_renders {α β : Type} {action : Service α} {next : α → Service β}
    (quiet : action.Within Call.Quiet)
    (rest : ∀ value, (next value).Ensures state fun _ _ events => RendersOnly shown events) :
    (action >>= next).Ensures state fun _ _ events => RendersOnly shown events :=
  quiet.ensures_bind (fun _ _ kept => rendersOnly_of_quiet kept) fun value _ kept =>
    (rest value).mono fun _ _ _ renders => (rendersOnly_of_quiet kept).append renders

/-- The result of a completed goal is its rendered message. -/
private theorem mapResult_goalCompleted {runId : Uuid} {message : Text} {result : AgentRunResult}
    (mapped : mapResult runId .goalCompleted (some message) = .ok result) :
    result.message = message := by
  unfold mapResult at mapped
  split at mapped
  · next model constructs =>
    split at mapped
    · cases mapped
    · obtain rfl := Except.ok.inj mapped
      obtain ⟨-, rfl⟩ := construct_eq_some.mp constructs
      rfl
  · split at mapped <;> cases mapped

/-- A commit requests one finalization, which carries the prepared result. -/
private theorem commitRun_renders {prepared : PreparedStop} {turn : RunningTurn}
    {stopReason : StopReason} {renderedMessage : Option Text}
    (stops : prepared.Stops turn stopReason renderedMessage)
    (rendered : stopReason = .goalCompleted → ∃ observation plan message, shown = some observation ∧
      renderOrderSummary observation plan = .ok message ∧ renderedMessage = some message) :
    (commitRun prepared).Ensures state fun _ _ events => RendersOnly shown events := by
  have only {given : Except Raised ConditionalWriteResult} :
      RendersOnly shown [⟨.port (.finalizeRunIfActive prepared.command), given⟩] := by
    intro command answer member completes
    cases List.mem_singleton.mp member
    rw [stops.stopped] at completes
    obtain ⟨observation, plan, message, showsIt, rendering, carried⟩ :=
      rendered (Option.some.inj completes)
    refine ⟨observation, plan, message, showsIt, rendering, ?_⟩
    have mapped := stops.mapped
    rw [Option.some.inj completes, carried] at mapped
    rw [stops.carries, Option.map_some, mapResult_goalCompleted mapped]
  refine (commitRun_spec prepared state).mono fun outcome final events spec => ?_
  cases outcome with
  | ok result =>
    obtain ⟨-, -, rfl⟩ := spec
    exact only
  | error raised =>
    obtain ⟨-, answer, -, rfl⟩ := spec
    exact only

/-- Without a committed goal nothing has to be shown. -/
private theorem finishWithTask_renders (turn : RunningTurn) (graph : CurrentGraph) (stop : TaskStop)
    (rendered : stop.stopReason = .goalCompleted → ∃ observation plan message,
      shown = some observation ∧
      renderOrderSummary observation plan = .ok message ∧ stop.renderedMessage = some message) :
    (finishWithTask turn graph stop).Ensures state fun _ _ events => RendersOnly shown events := by
  refine ensures_bind_iff.mpr (((prepareStopWithTask_quiet turn graph stop state).and
    (prepareStopWithTask_spec turn graph stop state)).mono ?_)
  rintro outcome _ before ⟨⟨rfl, quiet⟩, stops⟩
  cases outcome with
  | error raised => exact rendersOnly_of_quiet quiet
  | ok prepared =>
    refine (commitRun_renders (stops prepared rfl) rendered).mono fun _ _ _ renders => ?_
    exact (rendersOnly_of_quiet quiet).append renders

private theorem finishWithoutTask_renders (turn : RunningTurn) (stopReason : StopReason)
    (other : stopReason ≠ .goalCompleted) :
    (finishWithoutTask turn stopReason).Ensures state fun _ _ events =>
    RendersOnly shown events := by
  refine ensures_bind_iff.mpr (((prepareStopWithoutTask_quiet turn stopReason state).and
    (prepareStopWithoutTask_spec turn stopReason state)).mono ?_)
  rintro outcome _ before ⟨⟨rfl, quiet⟩, stops⟩
  cases outcome with
  | error raised => exact rendersOnly_of_quiet quiet
  | ok prepared =>
    refine Ensures.mono (commitRun_renders (stops prepared rfl) fun same => absurd same other)
      fun _ _ _ (renders : RendersOnly shown _) => ?_
    exact (rendersOnly_of_quiet quiet).append renders

/-- What the presentation renders is the Observation it was given. -/
private theorem renderPlan_eq_inr {observation : OrderObservation} {plan : Option PresentationPlan}
    {message : Text} (rendered : renderPlan observation plan = .ok (.inr message)) :
    ∃ validated, renderOrderSummary observation validated = .ok message := by
  unfold renderPlan at rendered
  split at rendered
  · cases rendered
  · next validated _ =>
    split at rendered
    · next text renders =>
      obtain rfl : text = message := Sum.inr.inj (Except.ok.inj rendered)
      exact ⟨validated, renders⟩
    · cases rendered
    · cases rendered

private theorem renderPlan_ne_goalCompleted {observation : OrderObservation}
    {plan : Option PresentationPlan} {stopReason : StopReason}
    (rendered : renderPlan observation plan = .ok (.inl stopReason)) :
    stopReason ≠ .goalCompleted := by
  unfold renderPlan at rendered
  split at rendered
  · obtain rfl := Sum.inl.inj (Except.ok.inj rendered)
    exact nofun
  · split at rendered
    · cases rendered
    · obtain rfl := Sum.inl.inj (Except.ok.inj rendered)
      exact nofun
    · cases rendered

/-- The stop of a bounded provider error is no completed goal. -/
private theorem awaitPlan_spec (summary : OrderSummaryProjection) :
    (awaitPlan summary).Ensures state fun outcome _ _ =>
    ∀ stopReason, outcome = .ok (.inl stopReason) → stopReason ≠ .goalCompleted := by
  refine ensures_tryCatch_iff.mpr (constructed_bind (fun _ => ?_) fun _ => ?_)
  · refine request_bind (fun plan => ensures_pure_iff.mpr fun _ same => ?_) fun raised => ?_
    · cases same
    · dsimp only
      split
      · refine ensures_pure_iff.mpr fun stopReason same => ?_
        obtain rfl := Sum.inl.inj (Except.ok.inj same)
        exact nofun
      · exact ensures_throw_iff.mpr fun _ same => nomatch same
      · exact ensures_throw_iff.mpr fun _ same => nomatch same
  · exact ensures_throw_iff.mpr fun _ same => nomatch same

private theorem presentOrder_renders (service : AgentRunService) (turn : RunningTurn)
    (current : CurrentGraph) (terminal : ToolCallRecord) (observation : OrderObservation)
    (sourceVersion : String) :
    (presentOrder service turn current terminal observation sourceVersion).Ensures state fun _ _
    events =>
      RendersOnly (some observation) events := by
  refine quiet_renders (appendTrace_quiet _ _ _ _) fun observed => ?_
  refine quiet_renders uuidFactory_quiet fun modelCallId => ?_
  refine quiet_renders (saveManifest_quiet _ _ _ _ _ _ _) fun manifest => ?_
  refine ensures_bind_iff.mpr (((awaitPlan_quiet _ state).and (awaitPlan_spec _)).mono ?_)
  rintro outcome _ before ⟨⟨rfl, quiet⟩, stops⟩
  rcases outcome with raised | stopReason | plan
  · exact rendersOnly_of_quiet quiet
  · refine Ensures.mono ?_ fun _ _ _ (renders : RendersOnly (some observation) _) =>
      (rendersOnly_of_quiet quiet).append renders
    refine quiet_renders uuidFactory_quiet fun reasonRef => ?_
    exact finishWithTask_renders _ _ _ fun same => absurd same (stops stopReason rfl)
  · refine Ensures.mono ?_ fun _ _ _ (renders : RendersOnly (some observation) _) =>
      (rendersOnly_of_quiet quiet).append renders
    refine quiet_renders uuidFactory_quiet fun presentationPlanRef => ?_
    refine quiet_renders (appendTrace_quiet _ _ _ _) fun proposed => ?_
    refine ensures_ofExcept_bind (fun rendered same => ?_) fun _ _ =>
      rendersOnly_of_quiet (List.forall_mem_nil _)
    rcases rendered with stopReason | message
    · exact finishWithTask_renders _ _ _ fun completed =>
        absurd completed (renderPlan_ne_goalCompleted same)
    · obtain ⟨validated, renders⟩ := renderPlan_eq_inr same
      refine quiet_renders uuidFactory_quiet fun reasonRef => ?_
      exact finishWithTask_renders _ _ _ fun _ =>
        ⟨observation, validated, message, rfl, renders, rfl⟩

private theorem observation_of_canonical {shown : Option OrderObservation}
    {observation : OrderObservation} {sourceVersion : String}
    (canonical : canonicalSourceVersion shown = some (observation, sourceVersion)) :
    shown = some observation := by
  obtain ⟨inner, rfl, canonical⟩ := Option.bind_eq_some_iff.mp canonical
  obtain ⟨version, _, canonical⟩ := Option.bind_eq_some_iff.mp canonical
  split at canonical
  · obtain ⟨rfl, -⟩ := Prod.mk.inj (Option.some.inj canonical)
    rfl
  · cases canonical

private theorem finishExecution_renders (service : AgentRunService) (turn : RunningTurn)
    (current : CurrentGraph) (execution : ReadToolExecution) :
    (finishExecution service turn current execution).Ensures state fun _ _ events =>
      RendersOnly execution.observation events := by
  unfold finishExecution
  split
  · refine quiet_renders (appendToolTrace_quiet _ _ _) fun traced => ?_
    split
    · exact quiet_renders uuidFactory_quiet fun reasonRef => finishWithTask_renders _ _ _ nofun
    · next observation sourceVersion canonical _ =>
      have same := observation_of_canonical canonical
      rw [same]
      exact presentOrder_renders _ _ _ _ _ _
    · exact quiet_renders uuidFactory_quiet fun reasonRef => finishWithTask_renders _ _ _ nofun
  · exact ensures_throw_iff.mpr (rendersOnly_of_quiet (List.forall_mem_nil _))

end Stops

/-- A run is faithful to what the port returned: saved Observations state a returned order, and a
completed goal is rendered from a saved Observation. -/
structure Faithful (events : List (Event Answer)) : Prop where
  observed : ∀ observation, SavedIn events observation → ∃ query order,
    ReturnedIn events query order ∧ StatesOrder observation order
  completed : ∀ command answer, ⟨.port (.finalizeRunIfActive command), answer⟩ ∈ events →
    command.terminalRecord.stopReason = some .goalCompleted → ∃ observation plan message,
      SavedIn events observation ∧ renderOrderSummary observation plan = .ok message ∧
        command.terminalResult.map (·.message) = some message

section Faithful

variable {before after : List (Event Answer)} {state : RunFailureState}

theorem Faithful.append (first : Faithful before) (second : Faithful after) :
    Faithful (before ++ after) where
  observed observation saved := by
    rcases savedIn_append.mp saved with saved | saved
    · obtain ⟨query, order, returned, states⟩ := first.observed observation saved
      exact ⟨query, order, returned.mono (List.subset_append_left _ _), states⟩
    · obtain ⟨query, order, returned, states⟩ := second.observed observation saved
      exact ⟨query, order, returned.mono (List.subset_append_right _ _), states⟩
  completed command answer member completes := by
    rcases List.mem_append.mp member with member | member
    · obtain ⟨observation, plan, message, saved, rendered⟩ :=
        first.completed command answer member completes
      exact ⟨observation, plan, message, savedIn_append.mpr (.inl saved), rendered⟩
    · obtain ⟨observation, plan, message, saved, rendered⟩ :=
        second.completed command answer member completes
      exact ⟨observation, plan, message, savedIn_append.mpr (.inr saved), rendered⟩

/-- Events that save nothing and complete no goal. -/
private theorem faithful_of_rendersNone (nothing : SavesNothing before)
    (renders : RendersOnly none before) :
    Faithful before where
  observed _ saved := absurd saved (not_savedIn nothing)
  completed command answer member completes := by
    obtain ⟨_, _, _, same, _⟩ := renders command answer member completes
    cases same

private theorem faithful_of_quiet (quiet : ∀ event ∈ before, event.call.Quiet) : Faithful before :=
  faithful_of_rendersNone (savesNothing_of_quiet quiet) (rendersOnly_of_quiet quiet)

/-- Every run of the action is faithful. -/
def IsFaithful {α : Type} (action : Service α) : Prop :=
  ∀ state, action.Ensures state fun _ _ events => Faithful events

private theorem quiet_isFaithful {α : Type} {action : Service α}
    (quiet : action.Within Call.Quiet) :
    IsFaithful action :=
  fun state => (quiet state).mono fun _ _ _ kept => faithful_of_quiet kept.2

theorem IsFaithful.bind {α β : Type} {action : Service α} {next : α → Service β}
    (first : IsFaithful action) (second : ∀ value, IsFaithful (next value)) :
    IsFaithful (action >>= next) := by
  intro state
  refine ensures_bind_iff.mpr ((first state).mono fun outcome middle before faithful => ?_)
  cases outcome with
  | error raised => exact faithful
  | ok value => exact (second value middle).mono fun _ _ _ later => faithful.append later

/-- A stage without a lookup that completes no goal. -/
private theorem isFaithful_of_stop {α : Type} {action : Service α} {shape : List Milestone}
    (follows : action.Follows Call.milestone shape) (absent : .saveObservation ∉ shape)
    (renders : ∀ state, action.Ensures state fun _ _ events => RendersOnly none events) :
    IsFaithful action := by
  intro state
  refine ((follows state).and (renders state)).mono fun _ _ events both => ?_
  refine faithful_of_rendersNone (fun event member saves => absent ?_) both.2
  exact both.1.subset (mem_labels member saves)

/-- A stage without a lookup and without a finalization. -/
private theorem isFaithful_of_follows {α : Type} {action : Service α} {shape : List Milestone}
    (follows : action.Follows Call.milestone shape) (absent : .saveObservation ∉ shape)
    (open_ : .finalizeRun ∉ shape) : IsFaithful action := by
  refine isFaithful_of_stop follows absent fun state =>
    (follows state).mono fun _ _ events ordered => ?_
  intro command answer member
  exact absurd (ordered.subset (mem_labels member rfl)) open_

/-- What an execution observed, and what is rendered from it. -/
private theorem faithful_of_execution {query : GetOrderQuery} {execution : ReadToolExecution}
    (observes : ObservesQuery query (.ok execution) before)
    (unfinished : ∀ event ∈ before, event.call.milestone ≠ some .finalizeRun)
    (nothing : SavesNothing after) (renders : RendersOnly execution.observation after) :
    Faithful (before ++ after) where
  observed observation saved := by
    rcases savedIn_append.mp saved with saved | saved
    · obtain ⟨order, returned, states⟩ := observes.fromSource observation saved
      exact ⟨query, order, returned.mono (List.subset_append_left _ _), states⟩
    · exact absurd saved (not_savedIn nothing)
  completed command answer member completes := by
    rcases List.mem_append.mp member with member | member
    · exact absurd rfl (unfinished _ member)
    · obtain ⟨observation, plan, message, shown, rendered⟩ :=
        renders command answer member completes
      exact ⟨observation, plan, message, savedIn_append.mpr (.inl (observes.saved _ shown)),
        rendered⟩

private theorem executeAuthorized_observes (service : AgentRunService) (turn : RunningTurn)
    (current : CurrentGraph) (gate : GateDecision) (inputBinding : InputBinding)
    (manifest : ContextManifest) (modelCallId : Uuid) :
    (executeAuthorized service turn current gate inputBinding manifest modelCallId).Ensures state
      fun outcome _ events =>
      ObservesQuery ⟨turn.ownerScope.customerId, inputBinding.normalizedValue⟩ outcome events := by
  have silent {raised : Raised} {query : GetOrderQuery} : ObservesQuery query (.error raised) [] :=
    observesQuery_of_quiet (List.forall_mem_nil _)
  unfold executeAuthorized
  split
  · exact ensures_throw_iff.mpr silent
  refine quiet_observes uuidFactory_quiet fun contextId => ?_
  split
  · exact ensures_throw_iff.mpr silent
  refine constructed_bind (fun _ => ?_) fun _ => silent
  refine quiet_observes (remainingRunTimeBudgetMs_quiet _ _) fun remainingMs => ?_
  exact executeGetOrder_observes _ _ fun other bound => boundOrderId_eq bound rfl

/-- The events of these labels have no other milestone. -/
private theorem milestone_ne_of_labels {shape : List Milestone} {milestone : Milestone}
    {events : List (Event Answer)} (ordered : (labels Call.milestone events).Sublist shape)
    (absent : milestone ∉ shape) :
    ∀ event ∈ events, event.call.milestone ≠ some milestone :=
  fun _ member reached => absent (ordered.subset (mem_labels member reached))

private theorem gateAndExecute_isFaithful (service : AgentRunService) (turn : RunningTurn)
    (decision : InitialRequestRoutableTaskGraphDecisionV2) (manifest : ContextManifest)
    (modelCallId : Uuid) :
    IsFaithful (gateAndExecute service turn decision manifest modelCallId) := by
  refine (quiet_isFaithful (revalidateMove_quiet _ _ _)).bind fun move => ?_
  refine (isFaithful_of_follows (loadCurrentGraph_follows _ _) (by decide) (by decide)).bind
    fun current => ?_
  refine (quiet_isFaithful (decideGate_quiet _ _ _ _ _ _ _)).bind fun gate => ?_
  split
  · exact isFaithful_of_stop (finishWithTask_follows _ _ _) (by decide) fun state =>
      finishWithTask_renders _ _ _ nofun
  intro state
  refine ensures_bind_iff.mpr (((executeAuthorized_observes service turn current gate
    decision.taskGraph.inputBinding manifest modelCallId).and
      (executeAuthorized_follows service turn current gate decision.taskGraph.inputBinding manifest
        modelCallId
        state)).mono ?_)
  rintro outcome middle before ⟨observes, ordered⟩
  have unfinished := milestone_ne_of_labels ordered (show .finalizeRun ∉ _ by decide)
  cases outcome with
  | error raised =>
    refine ⟨fun observation saved => ?_, fun _ _ member => absurd rfl (unfinished _ member)⟩
    obtain ⟨order, returned, states⟩ := observes.fromSource observation saved
    exact ⟨_, order, returned, states⟩
  | ok execution =>
    refine ((finishExecution_renders service turn current execution).and
      (finishExecution_follows service turn current execution middle)).mono ?_
    rintro _ _ after ⟨renders, later⟩
    exact faithful_of_execution observes unfinished
      (milestone_ne_of_labels later (by decide)) renders

private theorem routeDecision_isFaithful (service : AgentRunService) (turn : RunningTurn)
    (reducedAt : Datetime) (decision : InitialRequestDecisionV2) (manifest : ContextManifest)
    (modelCallId : Uuid) :
    IsFaithful (routeDecision service turn reducedAt decision manifest modelCallId) := by
  cases decision with
  | noTask decision => exact quiet_isFaithful (within_throw _)
  | unrouted decision => exact quiet_isFaithful (within_throw _)
  | routable decision =>
    refine (isFaithful_of_follows (commitInitialGraph_follows _ _ _) (by decide) (by decide)).bind
      fun _ => ?_
    exact (quiet_isFaithful (appendInitialDecisionTrace_quiet _ _ _ _)).bind fun _ =>
      gateAndExecute_isFaithful _ _ _ _ _

/-- A stop that is returned completes no goal. -/
def StopsShort {α : Type} (value : StopReason ⊕ α) : Prop :=
  ∀ stopReason, value = .inl stopReason → stopReason ≠ .goalCompleted

private theorem awaitProposal_spec (modelRequest : RequestUnderstandingInput) :
    (awaitProposal modelRequest).Ensures state fun outcome _ _ => ∀ value, outcome = .ok value →
    StopsShort value := by
  refine ensures_tryCatch_iff.mpr (request_bind (fun output =>
    ensures_pure_iff.mpr fun value same => ?_)
    fun raised => ?_)
  · obtain rfl := Except.ok.inj same
    exact fun _ => nofun
  · dsimp only
    split
    · refine ensures_pure_iff.mpr fun value same stopReason stopped => ?_
      obtain rfl := Except.ok.inj same
      obtain rfl := Sum.inl.inj stopped
      exact nofun
    · refine ensures_pure_iff.mpr fun value same stopReason stopped => ?_
      obtain rfl := Except.ok.inj same
      obtain rfl := Sum.inl.inj stopped
      exact nofun
    · exact ensures_throw_iff.mpr fun _ same => nomatch same
    · exact ensures_throw_iff.mpr fun _ same => nomatch same
    · exact ensures_throw_iff.mpr fun _ same => nomatch same

private theorem reduceProposal_spec (turn : RunningTurn) (modelRequest : RequestUnderstandingInput)
    (output : Option RequestUnderstandingOutputV2) :
    (reduceProposal turn modelRequest output).Ensures state fun outcome _ _ =>
      ∀ value, outcome = .ok value → StopsShort value := by
  refine clock_quiet.ensures_bind (fun _ _ _ _ same => nomatch same) fun reducedAt _ _ => ?_
  refine uuidFactory_quiet.ensures_bind (fun _ _ _ _ same => nomatch same) fun recordId _ _ => ?_
  cases output with
  | none => exact ensures_throw_iff.mpr fun _ same => nomatch same
  | some output =>
    refine (within_mapM fun candidate _ => allocateIdentities_quiet candidate).ensures_bind
      (fun _ _ _ _ same => nomatch same) fun allocations _ _ => ?_
    refine uuidFactory_quiet.ensures_bind
      (fun _ _ _ _ same => nomatch same) fun nextMoveCandidateRef _ _ => ?_
    dsimp only
    split
    · refine ensures_pure_iff.mpr fun value same => ?_
      obtain rfl := Except.ok.inj same
      exact fun _ => nofun
    · refine ensures_pure_iff.mpr fun value same stopReason stopped => ?_
      obtain rfl := Except.ok.inj same
      obtain rfl := Sum.inl.inj stopped
      exact nofun
    · exact ensures_throw_iff.mpr fun _ same => nomatch same
    · exact ensures_throw_iff.mpr fun _ same => nomatch same

/-- A quiet stage whose stops complete no goal. -/
private theorem isFaithful_of_stopsShort {α β : Type} {action : Service (StopReason ⊕ α)}
    {next : StopReason ⊕ α → Service β} (quiet : action.Within Call.Quiet)
    (short : ∀ state, action.Ensures state fun outcome _ _ => ∀ value, outcome = .ok value →
      StopsShort value)
    (rest : ∀ value, StopsShort value → IsFaithful (next value)) :
    IsFaithful (action >>= next) := by
  intro state
  refine ensures_bind_iff.mpr (((quiet state).and (short state)).mono ?_)
  rintro outcome middle before ⟨⟨-, kept⟩, stops⟩
  cases outcome with
  | error raised => exact faithful_of_quiet kept
  | ok value =>
    refine (rest value (stops value rfl) middle).mono fun _ _ _ later => ?_
    exact (faithful_of_quiet kept).append later

private theorem finishWithoutTask_isFaithful (turn : RunningTurn) {stopReason : StopReason}
    (other : stopReason ≠ .goalCompleted) : IsFaithful (finishWithoutTask turn stopReason) :=
  isFaithful_of_stop (finishWithoutTask_follows _ _) (by decide) fun _ =>
    finishWithoutTask_renders turn stopReason other

private theorem runTurn_isFaithful (service : AgentRunService) (turn : RunningTurn) :
    IsFaithful (runTurn service turn) := by
  refine (quiet_isFaithful (beginUnderstanding_quiet _ _)).bind fun begun => ?_
  refine (quiet_isFaithful (constructed_within _)).bind fun modelRequest => ?_
  refine isFaithful_of_stopsShort (awaitProposal_quiet _)
    (fun _ => awaitProposal_spec _) fun proposed short => ?_
  cases proposed with
  | inl stopReason => exact finishWithoutTask_isFaithful turn (short stopReason rfl)
  | inr output =>
    refine isFaithful_of_stopsShort (reduceProposal_quiet _ _ _)
      (fun _ => reduceProposal_spec _ _ _) fun reduced short => ?_
    cases reduced with
    | inl stopReason => exact finishWithoutTask_isFaithful turn (short stopReason rfl)
    | inr reduction => exact routeDecision_isFaithful _ _ _ _ _ _

private theorem handleTurn_isFaithful (service : AgentRunService) (command : AgentRunCommand) :
    IsFaithful (handleTurn service command) := by
  refine (quiet_isFaithful (constructed_within _)).bind fun ownerScope => ?_
  refine (isFaithful_of_follows (follows_modify _) (List.not_mem_nil) List.not_mem_nil).bind
    fun _ => ?_
  refine (quiet_isFaithful (openTurn_quiet _ _ _)).bind fun opened => ?_
  refine (isFaithful_of_follows (startRun_follows _ _) (by decide) (by decide)).bind fun turn => ?_
  exact runTurn_isFaithful _ _

/-- The exceptional closure finalizes a FAILED Run, so that it completes no goal. -/
private theorem attemptFailure_isFaithful (runningRun : AgentRunRecord)
    (links : Option (RunTaskLinkRecord × RunTaskLinkRecord × TaskRecord)) (original : Raised) :
    IsFaithful (attemptFailure runningRun links original) := by
  have silent : Faithful [] := faithful_of_quiet (List.forall_mem_nil _)
  refine (quiet_isFaithful clock_quiet).bind fun completedAt => fun state => ?_
  refine constructed_bind (fun _ => ?_) fun _ => silent
  have attempted : IsFaithful (tryCatch (do
      let command ← constructed (failureCommand runningRun (failedRun runningRun completedAt) links)
      return Except.ok (← request (.finalizeRunIfActive command)))
      fun finalizationError => return .error finalizationError :
          Service (Except Raised ConditionalWriteResult)) := by
    intro state
    refine ensures_tryCatch_iff.mpr (constructed_bind (fun _ => ?_) fun _ =>
      ensures_pure_iff.mpr silent)
    have failed {answer : Except Raised ConditionalWriteResult} : Faithful
        [⟨.port (.finalizeRunIfActive
        (failureCommand runningRun (failedRun runningRun completedAt) links)), answer⟩] := by
      refine faithful_of_rendersNone
        (List.forall_mem_singleton.mpr nofun) fun command _ member completes => ?_
      cases List.mem_singleton.mp member
      cases completes
    refine request_bind (fun result => ensures_pure_iff.mpr failed) fun raised =>
      ensures_pure_iff.mpr ?_
    rw [List.append_nil]
    exact failed
  refine attempted.bind (fun result => ?_) state
  split <;> exact quiet_isFaithful (within_pure _)

private theorem finalizeFailedRunAfterError_isFaithful (original : Raised) :
    IsFaithful (finalizeFailedRunAfterError original) := by
  refine (quiet_isFaithful within_read).bind fun failureState => ?_
  split
  · exact quiet_isFaithful (within_pure _)
  · refine (isFaithful_of_follows (reloadResultTask_follows _ _ _) (by decide) (by decide)).bind
      fun reloaded => ?_
    exact (quiet_isFaithful (constructed_within _)).bind fun link => attemptFailure_isFaithful _ _ _
  · exact attemptFailure_isFaithful _ _ _
  · exact quiet_isFaithful (within_pure _)

private theorem closeAfterError_isFaithful (error : Raised) :
    IsFaithful (closeAfterError error) := by
  refine (quiet_isFaithful within_read).bind fun failureState => ?_
  split
  · split
    · exact quiet_isFaithful (within_throw _)
    · exact quiet_isFaithful (within_pure _)
  · exact (finalizeFailedRunAfterError_isFaithful error).bind fun _ =>
      quiet_isFaithful (within_throw _)

private theorem handle_isFaithful (service : AgentRunService) (command : AgentRunCommand) :
    IsFaithful (handle service command) := by
  intro state
  refine ensures_tryCatch_iff.mpr ((handleTurn_isFaithful service command state).mono fun outcome
    middle before faithful => ?_)
  cases outcome with
  | ok result => exact faithful
  | error raised =>
    exact (closeAfterError_isFaithful raised middle).mono fun _ _ _ later => faithful.append later

end Faithful

/-- Saved Observations, and the messages of completed goals, are about the order whose id was bound
when the Task graph was committed. -/
structure ShowsBoundOrder (events : List (Event Answer)) : Prop where
  observed : ∀ graph observation, graphCommitted graph ∈ events → SavedIn events observation →
    observation.sourceResourceRef = graph.binding.normalizedValue ∧
      observation.normalizedValue.orderNumber = graph.binding.normalizedValue
  completed : ∀ graph command, graphCommitted graph ∈ events →
    ⟨.port (.finalizeRunIfActive command), .ok .applied⟩ ∈ events →
    command.terminalRecord.stopReason = some .goalCompleted → ∃ observation plan message,
      SavedIn events observation ∧ renderOrderSummary observation plan = .ok message ∧
        command.terminalResult.map (·.message) = some message ∧
        (findText message graph.binding.normalizedValue 0).isSome = true

/-- If an Observation is saved at all, the order that the port returned is the one it was asked
for. -/
def ReturnsAskedOrder (events : List (Event Answer)) : Prop :=
  ∀ query order, ReturnedIn events query order → (∃ observation, SavedIn events observation) →
    order.orderNumber = query.orderId

/-- A rendered message contains the order number. -/
private theorem rendered_orderNumber {observation : OrderObservation} {plan : PresentationPlan}
    {message : Text} (rendered : renderOrderSummary observation plan = .ok message) :
    (findText message observation.normalizedValue.orderNumber 0).isSome = true := by
  unfold renderOrderSummary at rendered
  split at rendered
  · split at rendered <;> cases rendered
  · split at rendered
    · cases rendered
    · dsimp only [pure_bind] at rendered
      split at rendered
      · cases rendered
      · next complete =>
        obtain rfl := Except.ok.inj rendered
        simp only [requiredFacts, List.any_cons, Bool.or_eq_true, not_or] at complete
        simpa [Option.isNone_iff_eq_none, Option.isSome_iff_ne_none] using complete.1

section Identity

variable {service : AgentRunService} {command : AgentRunCommand} {events : List (Event Answer)}

/-- What is true of the events of every run. -/
structure RunFacts (command : AgentRunCommand) (events : List (Event Answer)) : Prop where
  faithful : Faithful events
  once : AtMostOnce Call.IsGetOrder command.Authorised events
  ordered : (labels Call.milestone events).Sublist
    [.startRun, .commitGraph, .loadGraph, .loadGraph, .getOrder, .saveObservation, .finalizeRun,
      .loadGraph, .finalizeRun]

private theorem handle_facts (service : AgentRunService) (command : AgentRunCommand) :
    (handle service command).Ensures {} fun _ _ events => RunFacts command events :=
  (((handle_isFaithful service command {}).and (handle_once service command)).and
    (handle_follows service command {})).mono fun _ _ _ facts => ⟨facts.1.1, facts.1.2, facts.2⟩

/-- A milestone that occurs once belongs to one event. -/
theorem RunFacts.unique (facts : RunFacts command events) {milestone : Milestone}
    {first second : Event Answer} (single : milestone = .commitGraph ∨ milestone = .getOrder)
    (firstMember : first ∈ events) (secondMember : second ∈ events)
    (firstReached : first.call.milestone = some milestone)
    (secondReached : second.call.milestone = some milestone) : first = second := by
  refine eq_of_label_once
    (facts.ordered.count_le milestone |>.trans ?_) firstMember secondMember firstReached
    secondReached
  rcases single with rfl | rfl <;> decide

/-- The query asks for the binding that was committed. -/
private theorem RunFacts.query_eq (facts : RunFacts command events) {query : GetOrderQuery}
    {order : OrderSummaryProjection} (returned : ReturnedIn events query order) :
    ∃ graph, graphCommitted graph ∈ events ∧ query.orderId = graph.binding.normalizedValue := by
  obtain ⟨timeoutMs, result, canonical, member, -⟩ := returned
  obtain ⟨before, part, evidence, authorised⟩ := facts.once.guard_of_mem member trivial
  obtain ⟨otherTimeoutMs, asks⟩ := authorised.asks
  have committed : graphCommitted evidence.graph ∈ evidence.events := by
    simp [DispatchEvidence.events]
  refine ⟨evidence.graph, part (authorised.inOrder.subset committed), ?_⟩
  injection asks with sameRequest
  injection sameRequest with _ sameQuery
  rw [sameQuery]

/-- Two orders that were returned are the same. -/
private theorem RunFacts.returned_unique (facts : RunFacts command events)
    {query other : GetOrderQuery} {order later : OrderSummaryProjection}
    (returned : ReturnedIn events query order) (again : ReturnedIn events other later) :
    query = other ∧ order = later := by
  obtain ⟨timeoutMs, result, canonical, member, accepted, -, summarised⟩ := returned
  obtain ⟨otherTimeoutMs, otherResult, otherCanonical, otherMember, otherAccepted, -,
    otherSummarised⟩ := again
  cases facts.unique (.inr rfl) member otherMember rfl rfl
  obtain rfl := Option.some.inj (accepted.symm.trans otherAccepted)
  exact ⟨rfl, Option.some.inj (summarised.symm.trans otherSummarised)⟩

private theorem RunFacts.shows_iff (facts : RunFacts command events) :
    ShowsBoundOrder events ↔ ReturnsAskedOrder events := by
  constructor
  · rintro shows_ query order returned ⟨observation, saved⟩
    obtain ⟨savedQuery, savedOrder, savedReturned, states⟩ :=
      facts.faithful.observed observation saved
    obtain ⟨rfl, rfl⟩ := facts.returned_unique savedReturned returned
    obtain ⟨graph, committed, bound⟩ := facts.query_eq returned
    rw [bound, ← (shows_.observed graph observation committed saved).1, states.resource]
  · intro returns
    have observed (graph : CreateInitialTaskGraphV2Command) (observation : OrderObservation)
        (committed : graphCommitted graph ∈ events) (saved : SavedIn events observation) :
        observation.sourceResourceRef = graph.binding.normalizedValue ∧
          observation.normalizedValue.orderNumber = graph.binding.normalizedValue := by
      obtain ⟨query, order, returned, states⟩ := facts.faithful.observed observation saved
      obtain ⟨other, otherCommitted, bound⟩ := facts.query_eq returned
      cases facts.unique (.inl rfl) committed otherCommitted rfl rfl
      have asked := returns query order returned ⟨observation, saved⟩
      rw [states.resource, states.value, asked, bound]
      exact ⟨rfl, rfl⟩
    refine ⟨observed, fun graph command committed applied completes => ?_⟩
    obtain ⟨observation, plan, message, saved, rendered, carried⟩ :=
      facts.faithful.completed _ _ applied completes
    refine ⟨observation, plan, message, saved, rendered, carried, ?_⟩
    rw [← (observed graph observation committed saved).2]
    exact rendered_orderNumber rendered

/-- The order that a run shows is the order that was asked for if and only if the order port
returned the order it was asked for. -/
theorem shown_order_is_bound_iff (service : AgentRunService) (command : AgentRunCommand) :
    (handle service command).Ensures {} fun _ _ events => ShowsBoundOrder events ↔
    ReturnsAskedOrder events :=
  (handle_facts service command).mono fun _ _ _ facts => facts.shows_iff

end Identity

/-- The writes of a run that the identity of the order depends on. -/
def committedGraphs (events : List (Event Answer)) : List CreateInitialTaskGraphV2Command :=
  events.filterMap fun
    | ⟨.port (.createInitialTaskGraphV2IfCurrent graph), .ok .applied⟩ => some graph
    | _ => none

def savedObservations (events : List (Event Answer)) : List OrderObservation :=
  events.filterMap fun
    | ⟨.port (.saveObservation command), .ok .inserted⟩ => some command.observationRecord
    | _ => none

private theorem graphCommitted_mem {events : List (Event Answer)}
    {graph : CreateInitialTaskGraphV2Command} (member : graph ∈ committedGraphs events) :
    graphCommitted graph ∈ events := by
  obtain ⟨event, present, found⟩ := List.mem_filterMap.mp member
  split at found
  · obtain rfl := Option.some.inj found
    exact present
  · cases found

private theorem savedIn_of_mem {events : List (Event Answer)} {observation : OrderObservation}
    (member : observation ∈ savedObservations events) : SavedIn events observation := by
  obtain ⟨event, present, found⟩ := List.mem_filterMap.mp member
  split at found
  · next command =>
    obtain rfl := Option.some.inj found
    exact ⟨command, .inserted, present, .inl rfl, rfl⟩
  · cases found

/-- The run in which the port answers the query for O-1001 with order O-9999. -/
def otherOrderRun : List (Event Answer) × Except Raised AgentRunResult × RunFailureState :=
  exampleRun (fun _ => .utc 0) fun _ => .ok (some (exampleFound "O-9999".toList))

private theorem otherOrderRun_runs :
    (handle exampleService exampleCommand {}).Runs otherOrderRun.1 otherOrderRun.2 := by
  unfold otherOrderRun
  exact exampleRun_runs _ _

/-- An order port that returns another order has it observed, rendered and committed. -/
theorem other_order_is_shown : ∃ events outcome,
    (handle exampleService exampleCommand {}).Runs events outcome ∧
    outcome.1.isOk = true ∧ ¬ShowsBoundOrder events := by
  have evaluated : otherOrderRun.2.1.isOk = true ∧ ∃ graph ∈ committedGraphs otherOrderRun.1,
      ∃ observation ∈ savedObservations otherOrderRun.1,
        observation.normalizedValue.orderNumber ≠ graph.binding.normalizedValue := by
    simp only [otherOrderRun, exampleRun, handle, handleTurn, openTurn,
      resolveArtifact, runTurn, reduceProposal, validateAndReduceInitialRequestV2,
      preflightInitialRequestProjectionV2, buildRequestUnderstandingClosureV2,
      canonicalRequestInputV2, isExactCanonicalModelV2_eq, constructed_eq,
      validates_modelVisibleToolsetArtifact, validates_requestUnderstandingInput]
    decide +kernel
  obtain ⟨returned, graph, committed, observation, saved, differs⟩ := evaluated
  refine ⟨otherOrderRun.1, otherOrderRun.2, otherOrderRun_runs, returned, fun shows_ => differs ?_⟩
  exact (shows_.observed graph observation (graphCommitted_mem committed) (savedIn_of_mem saved)).2

end MiniAgent.Application
