import MiniAgent.Application.RunStages

/-! # A dispatched ToolCall is closed before the executor returns or raises

After an applied fence the attempt is open. The executor finalizes it for whatever object the order
port returns, for its timeout and for a cancellation, but not for any other exception of the port:
that one leaves the ToolCall RUNNING, and its Run cannot be finalized either.
-/

namespace MiniAgent.Application

open MiniAgent.Core ContractModel
open Coroutine

/-- A terminal status with an outcome it allows and the fields that the status asks for. -/
def TerminalProjection.wellFormed (projection : TerminalProjection) : Bool :=
  projection.toolOutcome ∈ (terminalToolOutcomes projection.terminalStatus).getD [] &&
    projection.safeFailureCode.all (· != "") &&
      projection.interruptionReason.all isSafeReasonCode &&
    !(projection.terminalStatus == .succeeded && projection.safeFailureCode.isSome) &&
    (projection.terminalStatus == .timedOut) == projection.timeoutPhase.isSome &&
    (projection.terminalStatus == .interrupted) == projection.interruptionReason.isSome

private theorem timedOutProjection_wellFormed : timedOutProjection.wellFormed = true := by decide

private theorem interruptedProjection_wellFormed :
    interruptedProjection.wellFormed = true := by decide

private theorem resultProjection_wellFormed (outcome : GetOrderOutcome) (resultRef : Option Uuid) :
    (resultProjection outcome resultRef).wellFormed = true := by
  cases outcome <;> rfl

namespace StartedAttempt

variable (started : StartedAttempt)

/-- The fence that started the attempt. -/
def fence : DispatchToolCallCommand := ⟨started.created, started.running, started.attempt⟩

/-- A reading at which the attempt can be finished: UTC, and not before the call or the attempt. -/
def Timely (finishedAt : Datetime) : Prop :=
  finishedAt.requireUtc = true ∧ started.running.startedAt.instant ≤ finishedAt.instant ∧
    started.attempt.startedAt.instant ≤ finishedAt.instant

instance (finishedAt : Datetime) : Decidable (started.Timely finishedAt) :=
  inferInstanceAs (Decidable (_ ∧ _ ∧ _))

/-- The command that a finalization sends. -/
def finalization (projection : TerminalProjection) (finishedAt : Datetime) :
    FinalizeToolCallCommand where
  expectedRunningRecord := started.running
  expectedStartedAttempt := started.attempt
  terminalRecord := terminalToolCall started.running projection finishedAt
  finalizedAttempt := finalizedAttempt started.running started.attempt projection finishedAt

end StartedAttempt

section Validity

variable {started : StartedAttempt} {projection : TerminalProjection} {finishedAt : Datetime}

/-- What the fence says of the RUNNING ToolCall and its attempt. -/
private theorem running_of_fence (fenced : validates started.fence = true) :
    validates started.running = true ∧ validates started.attempt = true ∧
    started.running.status = .running ∧
      started.running.attemptCount = 1 ∧ started.attempt.attemptNo = 1 ∧
      started.running.toolCallId = started.attempt.toolCallId ∧
      isCleanToolCall started.running = true ∧ isUnfinishedAttempt started.attempt = true := by
  simp only [StartedAttempt.fence, validates, Bool.and_eq_true, beq_iff_eq, isCleanToolCall,
    ToolCallRecord.lifecycleIsConsistent] at fenced ⊢
  obtain ⟨⟨⟨⟨⟨⟨⟨⟨⟨⟨⟨⟨⟨-, running⟩, attempt⟩, -⟩, -⟩, status⟩, count⟩, number⟩, -⟩, sameCall⟩, -⟩,
    unfinished⟩, failure⟩, result⟩ := fenced
  have unset : started.running.finishedAt = none ∧ started.running.timeoutPhase = none ∧
      started.running.interruptionReason = none := by
    have timedOut : (ToolCallStatus.running == .timedOut) = false := rfl
    have interrupted : (ToolCallStatus.running == .interrupted) = false := rfl
    simp_all [ToolCallStatus.isTerminal]
  obtain ⟨finished, phase, reason⟩ := unset
  refine ⟨running, attempt, status, count, number, sameCall, ?_, unfinished⟩
  simp [finished, phase, reason, failure, result]

private theorem terminalToolCall_valid (fenced : validates started.fence = true)
    (wellFormed : projection.wellFormed = true) (timely : started.Timely finishedAt) :
    validates (terminalToolCall started.running projection finishedAt) = true := by
  obtain ⟨running, -, -, count, -, -, -, -⟩ := running_of_fence fenced
  obtain ⟨utc, notBefore, -⟩ := timely
  simp only [validates, terminalToolCall, ToolCallRecord.lifecycleIsConsistent, count] at running ⊢
  cases status : projection.terminalStatus <;>
    simp_all [TerminalProjection.wellFormed, terminalToolOutcomes, ToolCallStatus.isTerminal,
      ToolCallStatus.requiresAttempt]

private theorem finalizedAttempt_valid (fenced : validates started.fence = true)
    (wellFormed : projection.wellFormed = true) (timely : started.Timely finishedAt) :
    validates (finalizedAttempt started.running started.attempt projection finishedAt) = true := by
  obtain ⟨-, attempt, -, -, number, -, -, -⟩ := running_of_fence fenced
  obtain ⟨utc, -, notBefore⟩ := timely
  simp only [validates, finalizedAttempt, ToolAttemptRecord.lifecycleIsConsistent] at attempt ⊢
  cases status : projection.terminalStatus <;>
    simp_all [TerminalProjection.wellFormed, terminalToolOutcomes]
  all_goals grind

private theorem finalization_valid (fenced : validates started.fence = true)
    (wellFormed : projection.wellFormed = true) (timely : started.Timely finishedAt) :
    validates (started.finalization projection finishedAt) = true := by
  have terminal := terminalToolCall_valid fenced wellFormed timely
  have finalized := finalizedAttempt_valid fenced wellFormed timely
  obtain ⟨running, attempt, status, count, number, sameCall, clean, unfinished⟩ :=
    running_of_fence fenced
  unfold ContractModel.validates instContractModelFinalizeToolCallCommand
    StartedAttempt.finalization
  simp only [terminal, finalized, running, attempt, status, count, number, sameCall, clean,
    unfinished]
  cases same : projection.terminalStatus <;>
    simp_all [terminalToolCall, finalizedAttempt, sameToolImmutableFields,
      TerminalProjection.wellFormed, terminalToolOutcomes]

/-- An untimely reading is refused by the terminal ToolCall or by the finalized attempt. -/
private theorem timely_of_valid
    (terminal : validates (terminalToolCall started.running projection finishedAt) = true)
    (finalized : validates
      (finalizedAttempt started.running started.attempt projection finishedAt) = true) :
    started.Timely finishedAt := by
  simp only [validates, terminalToolCall, finalizedAttempt, ToolCallRecord.lifecycleIsConsistent,
    ToolAttemptRecord.lifecycleIsConsistent, Bool.and_eq_true,
    Option.all_some] at terminal finalized
  grind [StartedAttempt.Timely]

end Validity

/-- The command closes this ToolCall and this attempt, in a terminal status that allows the
outcome. -/
structure FinalizeToolCallCommand.Closes (command : FinalizeToolCallCommand)
    (fence : DispatchToolCallCommand) :
    Prop where
  valid : validates command = true
  ofRunning : command.expectedRunningRecord = fence.runningRecord
  ofAttempt : command.expectedStartedAttempt = fence.startedAttempt
  sameCall : command.terminalRecord.toolCallId = fence.runningRecord.toolCallId
  sameAttempt : command.finalizedAttempt.toolCallId = fence.runningRecord.toolCallId ∧
    command.finalizedAttempt.attemptNo = fence.startedAttempt.attemptNo
  allowed : ∃ outcomes outcome, terminalToolOutcomes command.terminalRecord.status = some outcomes ∧
    command.finalizedAttempt.outcome = some outcome ∧ outcome ∈ outcomes

/-- Every finalization command of the attempt that validates closes it. -/
private theorem closes_of_valid {command : FinalizeToolCallCommand}
    {fence : DispatchToolCallCommand} (valid : validates command = true)
    (ofRunning : command.expectedRunningRecord = fence.runningRecord)
    (ofAttempt : command.expectedStartedAttempt = fence.startedAttempt) : command.Closes fence := by
  have checked := valid
  unfold ContractModel.validates instContractModelFinalizeToolCallCommand at checked
  simp only [Bool.and_eq_true, beq_iff_eq, ofRunning, ofAttempt, sameToolImmutableFields,
    Option.any_eq_true, decide_eq_true_eq] at checked
  obtain ⟨⟨⟨⟨⟨⟨⟨⟨⟨⟨⟨⟨⟨⟨⟨⟨-, terminal⟩, -⟩, -⟩, -⟩, -⟩, -⟩, immutable⟩, sameCall⟩, -⟩, sameNumber⟩,
    -⟩, -⟩, -⟩, outcome, finalized, allowed⟩, -⟩, -⟩ := checked
  obtain ⟨outcomes, terminal⟩ := Option.isSome_iff_exists.mp terminal
  have sameId : command.terminalRecord.toolCallId = fence.runningRecord.toolCallId := by
    grind
  exact ⟨valid, ofRunning, ofAttempt, sameId, ⟨sameCall.symm.trans sameId, sameNumber⟩, outcomes,
    outcome, terminal, finalized, by simpa [terminal] using allowed⟩

/-- A finalization of a ToolCall was requested. -/
def FinalizationRequested (events : List (Event Answer)) : Prop :=
  ∃ command answer, ⟨.port (.finalizeToolCallAttemptIfRunning command), answer⟩ ∈ events

/-- The attempt is finalized at the first reading of the clock; an untimely reading ends the
events. -/
def StartedAttempt.FinalizesFirst (started : StartedAttempt) (events : List (Event Answer))
    (untimely : Prop) :
    Prop :=
  ∃ earlier finishedAt rest, events = earlier ++ ⟨.clock, finishedAt⟩ :: rest ∧
    (∀ event ∈ earlier, event.call = .uuidFactory) ∧
    (∀ event ∈ rest, event.call.Closing started.running started.attempt) ∧
    (started.Timely finishedAt → FinalizationRequested rest) ∧
    (¬started.Timely finishedAt → rest = [] ∧ untimely)

namespace StartedAttempt

variable {σ : Type} {started : StartedAttempt} {events more : List (Event Answer)} {untimely : Prop}

theorem FinalizesFirst.mono (finalizes : started.FinalizesFirst events untimely) {other : Prop}
    (implies : untimely → other) : started.FinalizesFirst events other := by
  obtain ⟨earlier, finishedAt, rest, rfl, uuids, closing, timely, ends⟩ := finalizes
  exact ⟨earlier, finishedAt, rest, rfl, uuids, closing, timely,
    fun late => ⟨(ends late).1, implies (ends late).2⟩⟩

/-- More of the closure may follow a finalization that was timely. -/
theorem FinalizesFirst.append (finalizes : started.FinalizesFirst events untimely)
    (onTime : ¬untimely)
    (within : ∀ event ∈ more, event.call.Closing started.running started.attempt) {other : Prop} :
    started.FinalizesFirst (events ++ more) other := by
  obtain ⟨earlier, finishedAt, rest, rfl, uuids, closing, timely, ends⟩ := finalizes
  have reached : started.Timely finishedAt := by
    by_contra late
    exact onTime (ends late).2
  obtain ⟨command, answer, member⟩ := timely reached
  refine ⟨earlier, finishedAt, rest ++ more, by simp, uuids,
    List.forall_mem_append.mpr ⟨closing, within⟩, ?_, ?_⟩
  · exact fun _ => ⟨command, answer, List.mem_append_left _ member⟩
  · exact fun late => absurd reached late

theorem FinalizesFirst.cons (finalizes : started.FinalizesFirst events untimely)
    {event : Event Answer} (drawn : event.call = .uuidFactory) :
    started.FinalizesFirst (event :: events) untimely := by
  obtain ⟨earlier, finishedAt, rest, rfl, uuids, spec⟩ := finalizes
  exact ⟨event :: earlier, finishedAt, rest, rfl, List.forall_mem_cons.mpr ⟨drawn, uuids⟩, spec⟩

variable {state : σ} {projection : TerminalProjection}

/-- What a finalization does after its clock reading: a timely one is requested, another is
refused. -/
structure FinalizedAt (started : StartedAttempt) (projection : TerminalProjection)
    (finishedAt : Datetime) (outcome : Except Raised (ToolCallRecord × ToolAttemptRecord))
    (rest : List (Event Answer)) : Prop where
  timely : started.Timely finishedAt → ∃ answer, rest =
    [⟨.port (.finalizeToolCallAttemptIfRunning (started.finalization projection finishedAt)),
      answer⟩]
  untimely : ¬started.Timely finishedAt → rest = [] ∧ outcome = .error .validationError

private theorem finalize_spec (fenced : validates started.fence = true)
    (wellFormed : projection.wellFormed = true) :
    (started.finalize projection : Runtime σ _).Ensures state fun outcome final events =>
    final = state ∧ ∃ finishedAt rest, events = ⟨.clock, finishedAt⟩ :: rest ∧
        started.FinalizedAt projection finishedAt outcome rest := by
  refine ensures_ask_bind_iff.mpr fun finishedAt => ?_
  suffices finalizes : Ensures _ state fun outcome final rest =>
      final = state ∧ started.FinalizedAt projection finishedAt outcome rest from
    finalizes.mono fun _ _ rest finalized => ⟨finalized.1, finishedAt, rest, rfl, finalized.2⟩
  by_cases timely : started.Timely finishedAt
  · have terminal := terminalToolCall_valid fenced wellFormed timely
    have finalized := finalizedAttempt_valid fenced wellFormed timely
    have command := finalization_valid fenced wellFormed timely
    refine constructed_bind (fun _ => ?_) fun invalid => absurd (terminal.symm.trans invalid) nofun
    refine constructed_bind (fun _ => ?_) fun invalid => absurd (finalized.symm.trans invalid) nofun
    refine constructed_bind (fun _ => ?_) fun invalid => absurd (command.symm.trans invalid) nofun
    refine request_bind (fun result => ?_) fun raised =>
      ⟨rfl, fun _ => ⟨_, rfl⟩, fun late => absurd timely late⟩
    refine ensures_require_bind (fun _ => ensures_pure_iff.mpr ?_) fun _ => ?_
    · exact ⟨rfl, fun _ => ⟨_, rfl⟩, fun late => absurd timely late⟩
    · exact ⟨rfl, fun _ => ⟨_, rfl⟩, fun late => absurd timely late⟩
  · have refused : started.FinalizedAt projection finishedAt (.error .validationError) [] :=
      ⟨fun onTime => absurd onTime timely, fun _ => ⟨rfl, rfl⟩⟩
    refine constructed_bind (fun terminal => ?_) fun _ => ⟨rfl, refused⟩
    refine constructed_bind (fun finalized => ?_) fun _ => ⟨rfl, refused⟩
    exact absurd (timely_of_valid terminal finalized) timely

/-- A finalization may be followed by the rest of the closure. -/
private theorem finalize_bind {α : Type} {next : ToolCallRecord × ToolAttemptRecord → Runtime σ α}
    (fenced : validates started.fence = true) (wellFormed : projection.wellFormed = true)
    (closing : ∀ finalized,
      (next finalized).Within (Call.Closing started.running started.attempt)) :
    (started.finalize projection >>= next).Ensures state fun outcome final events => final = state ∧
      started.FinalizesFirst events (outcome = .error .validationError) := by
  rw [ensures_bind_iff]
  refine (finalize_spec fenced wellFormed).mono ?_
  rintro outcome _ _ ⟨rfl, finishedAt, rest, rfl, timely, untimely⟩
  have first : started.FinalizesFirst (⟨.clock, finishedAt⟩ :: rest)
      (outcome = .error .validationError) := by
    refine ⟨[], finishedAt, rest, rfl, List.forall_mem_nil _, ?_, ?_, untimely⟩
    · by_cases reached : started.Timely finishedAt
      · obtain ⟨answer, rfl⟩ := timely reached
        exact List.forall_mem_singleton.mpr ⟨finalization_valid fenced wellFormed reached, rfl, rfl⟩
      · rw [(untimely reached).1]
        exact List.forall_mem_nil _
    · intro reached
      obtain ⟨answer, rfl⟩ := timely reached
      exact ⟨_, answer, List.mem_singleton_self _⟩
  cases outcome with
  | error raised =>
    exact ⟨rfl, first.mono fun same => congrArg Except.error (Except.error.inj same)⟩
  | ok finalized =>
    refine (closing finalized _).mono ?_
    rintro outcome _ after ⟨rfl, within⟩
    exact ⟨rfl, first.append nofun within⟩

/-- The result that is finalized is a validated one. -/
private theorem canonicalResult_valid (candidateResult : Option GetOrderResult) :
    validates ((canonicalGetOrderResult candidateResult).getD unavailableResult) = true := by
  cases canonical : canonicalGetOrderResult candidateResult with
  | none => rfl
  | some result =>
    obtain ⟨rebuilt, -⟩ := Option.filter_eq_some_iff.mp canonical
    obtain ⟨value, -, constructed⟩ := Option.bind_eq_some_iff.mp rebuilt
    obtain ⟨valid, rfl⟩ := construct_eq_some.mp constructed
    exact valid

/-- A validated FOUND result carries its order. -/
private theorem orderSummary_of_found {result : GetOrderResult} (valid : validates result = true)
    (found : result.outcome = .found) : result.orderSummary.isSome = true := by
  simp only [validates, found, Bool.and_eq_true] at valid
  exact valid.2.1.1

private theorem finishLookUp_finalizes (fenced : validates started.fence = true)
    (candidateResult : Option GetOrderResult) :
    (started.finishLookUp candidateResult : Runtime σ _).Ensures state fun outcome final events =>
    final = state ∧ started.FinalizesFirst events (outcome = .error .validationError) := by
  unfold finishLookUp
  dsimp only
  split
  · next found =>
    refine ensures_require_bind (fun _ => ?_) fun missing => ?_
    · refine ensures_ask_bind_iff.mpr fun resultRef => ?_
      refine (finalize_bind fenced (resultProjection_wellFormed ..) fun finalized => ?_).mono ?_
      · exact (started.saveOrderObservation_within _ _).bind fun observation => within_pure _
      · exact fun _ _ _ finalized => ⟨finalized.1, finalized.2.cons rfl⟩
    · rw [orderSummary_of_found (canonicalResult_valid candidateResult) found] at missing
      contradiction
  · exact finalize_bind fenced (resultProjection_wellFormed ..) fun finalized => within_pure _

/-- A cancelled attempt is finalized before the cancellation is raised again. -/
private theorem interrupt_finalizes (fenced : validates started.fence = true)
    (cancellation : Raised) :
    (started.interrupt cancellation : Runtime σ _).Ensures state fun _ final events =>
    final = state ∧ started.FinalizesFirst events True := by
  refine ensures_bind_iff.mpr (ensures_tryCatch_iff.mpr ((finalize_bind fenced
    interruptedProjection_wellFormed fun _ => within_pure _).mono ?_))
  rintro outcome _ events ⟨rfl, first⟩
  cases outcome with
  | error finalizationError =>
    refine ensures_pure_iff.mpr (ensures_throw_iff.mpr ⟨rfl, ?_⟩)
    simpa only [List.append_nil] using first.mono fun _ => trivial
  | ok finalized =>
    rcases finalized with finalizationError | ⟨terminal, attempt⟩
    · refine ensures_throw_iff.mpr ⟨rfl, ?_⟩
      exact first.append nofun (List.forall_mem_nil _)
    · have tracing : (tryCatch (Except.ok <$> appendInterruptedTrace terminal)
          fun traceError => return .error traceError : Runtime σ _).Within
            (Call.Finalizing started.running started.attempt) :=
        ((appendInterruptedTrace_within _ _ terminal).map _).tryCatch fun _ => within_pure _
      refine Ensures.mono ((tracing.bind fun appended => ?_) _) ?_
      · split <;> exact within_throw _
      · rintro _ _ after ⟨rfl, within⟩
        exact ⟨rfl, first.append nofun fun event member => (within event member).closing⟩

/-- The event asks the order port for the attempt's query. -/
def asked (started : StartedAttempt) (answer : Except Raised (Option GetOrderResult)) :
    Event Answer :=
  ⟨.port (.getOrder started.effectiveTimeoutMs started.query), answer⟩

/-- What the lookup returns or raises for an answer of the port; `none` is the timeout. -/
def lookedUp : Except Raised (Option GetOrderResult) →
    Except Raised (Option (Option GetOrderResult))
  | .ok candidateResult => .ok (some candidateResult)
  | .error raised => if raised.kind = .timeoutError then .ok none else .error raised

/-- The lookup asks once, if its query validates. -/
theorem lookUpOrder_spec :
    (started.lookUpOrder : Runtime σ _).Ensures state fun outcome final events =>
    final = state ∧ ((validates started.query = false ∧ events = [] ∧
      outcome = .error .validationError) ∨
      validates started.query = true ∧ ∃ answer, events = [started.asked answer] ∧
      outcome = lookedUp answer) := by
  refine ensures_tryCatch_iff.mpr (constructed_bind (fun valid => ?_) fun invalid => ?_)
  · refine request_bind (fun candidateResult => ensures_pure_iff.mpr ?_) fun raised => ?_
    · exact ⟨rfl, .inr ⟨valid, .ok candidateResult, rfl, rfl⟩⟩
    · dsimp only
      split
      · next timeout =>
        exact ensures_pure_iff.mpr ⟨rfl, .inr ⟨valid, .error raised, rfl, (if_pos timeout).symm⟩⟩
      · next other =>
          exact ensures_throw_iff.mpr ⟨rfl, .inr ⟨valid, .error raised, rfl, (if_neg other).symm⟩⟩
  · exact ensures_throw_iff.mpr ⟨rfl, .inl ⟨invalid, rfl, rfl⟩⟩

/-- The answer of the order port is an exception that the executor does not handle. -/
def Unhandled (answer : Except Raised (Option GetOrderResult)) : Prop :=
  ∃ raised, answer = .error raised ∧ raised.kind ≠ .timeoutError ∧ raised.kind ≠ .cancelledError

/-- The order port is asked if the query validates; every answer but an unhandled exception is
followed by the finalization. -/
def RunEvents (started : StartedAttempt) (events : List (Event Answer)) : Prop :=
  (validates started.query = false ∧ events = []) ∨ validates started.query = true ∧
    ∃ answer rest, events = started.asked answer :: rest ∧ (Unhandled answer → rest = []) ∧
      (¬Unhandled answer → started.FinalizesFirst rest True)

/-- The executor's handler: a cancellation is raised again only after the attempt was finalized. -/
private theorem run_answered {action : Runtime σ ReadToolExecution}
    (answer : Except Raised (Option GetOrderResult)) (valid : validates started.query = true)
    (answered : ¬Unhandled answer)
    (dispatched : action.Ensures state fun outcome final events => final = state ∧
      started.FinalizesFirst events (outcome = .error .validationError)) :
    action.Ensures state fun outcome middle before => match outcome with
      | .ok _ => middle = state ∧ started.RunEvents (started.asked answer :: before)
      | .error raised =>
        (if raised.kind = .cancelledError then started.interrupt raised else throw raised :
          Runtime σ ReadToolExecution).Ensures middle fun _ final after =>
            final = state ∧ started.RunEvents (started.asked answer :: (before ++ after)) := by
  have follows {rest : List (Event Answer)} (finalizes : started.FinalizesFirst rest True) :
      started.RunEvents (started.asked answer :: rest) :=
    .inr ⟨valid, answer, rest, rfl, fun unhandled => absurd unhandled answered, fun _ => finalizes⟩
  refine dispatched.mono ?_
  rintro outcome _ before ⟨rfl, first⟩
  cases outcome with
  | ok execution => exact ⟨rfl, follows (first.mono fun _ => trivial)⟩
  | error raised =>
    dsimp only
    split
    · next cancelled =>
      have onTime : ¬(Except.error raised : Except Raised ReadToolExecution) =
          .error .validationError := by
        rintro ⟨⟩
        contradiction
      refine (started.interrupt_within raised _).mono ?_
      rintro _ _ after ⟨rfl, within⟩
      exact ⟨rfl, follows (first.append onTime fun event member => (within event member).closing)⟩
    · refine ensures_throw_iff.mpr ⟨rfl, follows ?_⟩
      simpa only [List.append_nil] using first.mono fun _ => trivial

private theorem run_spec (fenced : validates started.fence = true) :
    (started.run : Runtime σ _).Ensures state fun _ final events => final = state ∧
    started.RunEvents events := by
  refine ensures_tryCatch_iff.mpr (ensures_bind_iff.mpr (lookUpOrder_spec.mono ?_))
  rintro outcome _ events ⟨rfl, ⟨invalid, rfl, rfl⟩ | ⟨valid, answer, rfl, rfl⟩⟩
  · exact ensures_throw_iff.mpr ⟨rfl, .inl ⟨invalid, rfl⟩⟩
  rcases answer with raised | candidateResult
  · by_cases timeout : raised.kind = .timeoutError
    · rw [show lookedUp (.error raised) = .ok none from if_pos timeout]
      have answered : ¬Unhandled (.error raised) := by
        rintro ⟨_, ⟨⟩, other, -⟩
        exact other timeout
      refine (run_answered _ valid answered (finalize_bind fenced timedOutProjection_wellFormed
        fun _ => within_pure _)).mono ?_
      rintro (raised | execution) middle before closed <;> exact closed
    · rw [show lookedUp (.error raised) = .error raised from if_neg timeout]
      dsimp only
      split
      · next cancelled =>
        refine (interrupt_finalizes fenced raised).mono ?_
        rintro _ _ rest ⟨rfl, finalizes⟩
        refine ⟨rfl, .inr ⟨valid, _, rest, rfl, ?_, fun _ => finalizes⟩⟩
        rintro ⟨_, ⟨⟩, -, other⟩
        exact absurd cancelled other
      · next other =>
        refine ensures_throw_iff.mpr
          ⟨rfl, .inr ⟨valid, _, [], rfl, fun _ => rfl, fun handled => ?_⟩⟩
        exact absurd ⟨raised, rfl, timeout, other⟩ handled
  · have answered : ¬Unhandled (.ok candidateResult) := by
      rintro ⟨_, ⟨⟩, -⟩
    refine (run_answered _ valid answered (finishLookUp_finalizes fenced candidateResult)).mono ?_
    rintro (raised | execution) middle before closed <;> exact closed

end StartedAttempt

/-- An applied fence of a ToolCall. -/
def fenceApplied (fence : DispatchToolCallCommand) : Event Answer :=
  ⟨.port (.startToolCallIfCreated fence), .ok .applied⟩

/-- A call of the fence. -/
def Call.IsFence : Call → Prop
  | .port (.startToolCallIfCreated _) => True
  | _ => False

private theorem Call.Closing.not_isFence {running : ToolCallRecord} {attempt : ToolAttemptRecord}
    {call : Call} (closing : call.Closing running attempt) : ¬call.IsFence := by
  unfold IsFence
  split
  · exact fun _ => closing
  · exact id

/-- Wherever a fence was applied, what follows it has the property. -/
def AfterFence (property : DispatchToolCallCommand → List (Event Answer) → Prop)
    (events : List (Event Answer)) :
    Prop :=
  ∀ before fence after, events = before ++ fenceApplied fence :: after → property fence after

section AfterFence

variable {property : DispatchToolCallCommand → List (Event Answer) → Prop} {event : Event Answer}
  {events after : List (Event Answer)} {fence : DispatchToolCallCommand}

theorem AfterFence.cons (other : ¬event.call.IsFence) (rest : AfterFence property events) :
    AfterFence property (event :: events) := by
  rintro (_ | ⟨first, before⟩) fence after same
  · obtain ⟨rfl, -⟩ := List.cons.inj same
    exact absurd trivial other
  · exact rest before fence after (List.cons.inj same).2

private theorem afterFence_of_none (none : ∀ event ∈ events, ¬event.call.IsFence) :
    AfterFence property events := by
  rintro before fence after rfl
  exact (none (fenceApplied fence) (by simp) trivial).elim

private theorem afterFence_applied (holds : property fence after)
    (none : ∀ event ∈ after, ¬event.call.IsFence) :
    AfterFence property (fenceApplied fence :: after) := by
  rintro (_ | ⟨first, before⟩) other rest same
  · obtain ⟨same, rfl⟩ := List.cons.inj same
    obtain rfl : fence = other := by simpa [fenceApplied] using same
    exact holds
  · exact afterFence_of_none none before other rest (List.cons.inj same).2

private theorem afterFence_refused {answer : Except Raised ToolDispatchFenceWriteResult}
    (refused : answer ≠ .ok .applied) :
    AfterFence property [⟨.port (.startToolCallIfCreated fence), answer⟩] := by
  rintro before other after same
  have member : fenceApplied other ∈ before ++ fenceApplied other :: after := by simp
  rw [← same] at member
  cases List.mem_singleton.mp member
  exact absurd rfl refused

end AfterFence

/-- The clock reading of an event. -/
def reading : Event Answer → Option Datetime
  | ⟨.clock, value⟩ => some value
  | _ => none

/-- The finalization port call succeeds: if the finalization is requested at all, it is applied. -/
def FinalizationSucceeds (events : List (Event Answer)) : Prop :=
  FinalizationRequested events →
    ∃ command, ⟨.port (.finalizeToolCallAttemptIfRunning command), .ok .applied⟩ ∈ events

/-- The fenced ToolCall was finalized with its attempt. -/
def Closed (fence : DispatchToolCallCommand) (events : List (Event Answer)) : Prop :=
  ∃ command, command.Closes fence ∧
    ⟨.port (.finalizeToolCallAttemptIfRunning command), .ok .applied⟩ ∈ events

/-- What the environment has to do after the fence: the query validates, the order port raises
nothing but a timeout or a cancellation, and the first clock reading is UTC and not before the
start. -/
structure Closable (query : GetOrderQuery) (fence : DispatchToolCallCommand)
    (events : List (Event Answer)) :
    Prop where
  queryValid : validates query = true
  answered : ∀ timeoutMs answer, ⟨.port (.getOrder timeoutMs query), answer⟩ ∈ events →
    ¬StartedAttempt.Unhandled answer
  timely : ∀ finishedAt, events.findSome? reading = some finishedAt → finishedAt.requireUtc = true ∧
    fence.runningRecord.startedAt.instant ≤ finishedAt.instant ∧
    fence.startedAttempt.startedAt.instant ≤ finishedAt.instant

namespace StartedAttempt

variable {started : StartedAttempt} {events earlier rest : List (Event Answer)}
  {finishedAt : Datetime}

private theorem firstReading_eq (answer : Except Raised (Option GetOrderResult))
    (uuids : ∀ event ∈ earlier, event.call = .uuidFactory) :
    (started.asked answer :: (earlier ++ ⟨.clock, finishedAt⟩ :: rest)).findSome? reading =
    some finishedAt := by
  have none : earlier.findSome? reading = none := by
    rw [List.findSome?_eq_none_iff]
    rintro ⟨call, answer⟩ member
    obtain rfl : call = .uuidFactory := uuids _ member
    rfl
  rw [List.findSome?_cons, show reading (started.asked answer) = Option.none from rfl]
  dsimp only
  rw [List.findSome?_append, none]
  rfl

/-- A finalization among these events comes after the clock reading. -/
private theorem finalization_mem {command : FinalizeToolCallCommand}
    {answer : Except Raised (Option GetOrderResult)}
    {finalized : Except Raised ConditionalWriteResult}
    (uuids : ∀ event ∈ earlier, event.call = .uuidFactory)
    (member : ⟨.port (.finalizeToolCallAttemptIfRunning command), finalized⟩ ∈
      started.asked answer :: (earlier ++ ⟨.clock, finishedAt⟩ :: rest)) :
    ⟨.port (.finalizeToolCallAttemptIfRunning command), finalized⟩ ∈ rest := by
  rcases List.mem_cons.mp member with same | member
  · cases same
  rcases List.mem_append.mp member with member | member
  · exact absurd (uuids _ member) nofun
  · rcases List.mem_cons.mp member with same | member
    · cases same
    · exact member

/-- The order port was asked once. -/
private theorem asked_mem {answer other : Except Raised (Option GetOrderResult)} {timeoutMs : ℕ}
    (uuids : ∀ event ∈ earlier, event.call = .uuidFactory)
    (closing : ∀ event ∈ rest, event.call.Closing started.running started.attempt)
    (member : ⟨.port (.getOrder timeoutMs started.query), other⟩ ∈
      started.asked answer :: (earlier ++ ⟨.clock, finishedAt⟩ :: rest)) : other = answer := by
  rcases List.mem_cons.mp member with same | member
  · cases same
    rfl
  rcases List.mem_append.mp member with member | member
  · exact absurd (uuids _ member) nofun
  · rcases List.mem_cons.mp member with same | member
    · cases same
    · exact (closing _ member).elim

/-- Once the fence is applied, the call is closed exactly if the environment let it be. -/
private theorem closed_iff_closable (run : started.RunEvents events)
    (succeeds : FinalizationSucceeds events) :
    Closed started.fence events ↔ Closable started.query started.fence events := by
  rcases run with ⟨invalid, rfl⟩ | ⟨valid, answer, rest, rfl, ends, follows⟩
  · refine iff_of_false (fun ⟨_, _, member⟩ => List.not_mem_nil member) fun closable => ?_
    rw [closable.queryValid] at invalid
    contradiction
  by_cases unhandled : Unhandled answer
  · obtain rfl := ends unhandled
    refine iff_of_false (fun ⟨_, _, member⟩ => ?_) fun closable => ?_
    · cases List.mem_singleton.mp member
    · exact closable.answered _ _ (List.mem_singleton_self _) unhandled
  obtain ⟨earlier, finishedAt, rest, rfl, uuids, closing, timely, untimely⟩ := follows unhandled
  by_cases reached : started.Timely finishedAt
  · refine iff_of_true ?_ ⟨valid, fun _ _ member => ?_, fun first same => ?_⟩
    · obtain ⟨command, finalized, member⟩ := timely reached
      obtain ⟨command, applied⟩ := succeeds ⟨command, finalized, by simp [member]⟩
      obtain ⟨validCommand, ofRunning, ofAttempt⟩ := closing _ (finalization_mem uuids applied)
      exact ⟨command, closes_of_valid validCommand ofRunning ofAttempt, applied⟩
    · rwa [asked_mem uuids closing member]
    · obtain rfl := Option.some.inj ((firstReading_eq answer uuids).symm.trans same)
      exact reached
  · obtain ⟨rfl, -⟩ := untimely reached
    refine iff_of_false (fun ⟨_, _, member⟩ => ?_) fun closable => ?_
    · exact absurd (finalization_mem uuids member) List.not_mem_nil
    · exact reached (closable.timely finishedAt (firstReading_eq answer uuids))

private theorem RunEvents.without_fence (run : started.RunEvents events) :
    ∀ event ∈ events, ¬event.call.IsFence := by
  rcases run with ⟨-, rfl⟩ | ⟨-, answer, rest, rfl, ends, follows⟩
  · exact List.forall_mem_nil _
  refine List.forall_mem_cons.mpr ⟨id, ?_⟩
  by_cases unhandled : Unhandled answer
  · rw [ends unhandled]
    exact List.forall_mem_nil _
  obtain ⟨earlier, finishedAt, rest, rfl, uuids, closing, -⟩ := follows unhandled
  refine List.forall_mem_append.mpr ⟨fun event member => ?_,
    List.forall_mem_cons.mpr ⟨id, fun event member => ?_⟩⟩
  · rw [uuids event member]
    exact id
  · exact (closing event member).not_isFence

end StartedAttempt

section ExecutorRuns

variable {σ : Type} {state : σ}

/-- After an applied fence, a finalization that succeeds closes the call exactly if it can be
closed. -/
def ClosesWhenClosable (query : GetOrderQuery) : List (Event Answer) → Prop :=
  AfterFence fun fence after => FinalizationSucceeds after →
    (Closed fence after ↔ Closable query fence after)

private theorem silent_closes {query : GetOrderQuery} : ClosesWhenClosable query [] :=
  afterFence_of_none (List.forall_mem_nil _)

private theorem fenceAndRun_closes (arguments : GetOrderExecution) (orderId : Text)
    (created : ToolCallRecord) :
    (fenceAndRun arguments orderId created).Ensures state fun _ _ events =>
      ClosesWhenClosable ⟨arguments.ownerScope.customerId, orderId⟩ events := by
  refine ensures_ask_bind_iff.mpr fun attemptStartedAt => ?_
  refine Ensures.mono ?_ fun _ _ _ => AfterFence.cons id
  refine constructed_bind (fun _ => ?_) fun _ => silent_closes
  refine constructed_bind (fun _ => ?_) fun _ => silent_closes
  refine constructed_bind (fun fenced => ?_) fun _ => silent_closes
  refine request_bind (fun fenceResult => ?_) fun raised => afterFence_refused (by simp)
  split
  · next applied =>
    subst applied
    refine Ensures.mono (StartedAttempt.run_spec ?_) ?_
    · exact fenced
    rintro _ _ after ⟨-, run⟩
    exact afterFence_applied (StartedAttempt.closed_iff_closable run) run.without_fence
  · next refused => exact ensures_pure_iff.mpr (afterFence_refused (by simpa using refused))

/-- After an applied fence the dispatched ToolCall is closed before control leaves the executor if
and only if its query validates, the order port raised no other exception than a timeout or a
cancellation, and the clock was not behind the start of the call. -/
theorem dispatched_call_closed_iff (arguments : GetOrderExecution) (state : σ) :
    (executeGetOrder arguments).Ensures state fun _ _ events =>
    ∀ orderId, arguments.boundOrderId = .ok orderId →
      ClosesWhenClosable ⟨arguments.ownerScope.customerId, orderId⟩ events := by
  refine ensures_ofExcept_bind (fun orderId bound => ?_) fun _ _ _ _ => silent_closes
  suffices closes : Ensures _ state fun _ _ events =>
      ClosesWhenClosable ⟨arguments.ownerScope.customerId, orderId⟩ events by
    refine closes.mono fun _ _ events closes other same => ?_
    obtain rfl := Except.ok.inj (bound.symm.trans same)
    exact closes
  refine ensures_ask_bind_iff.mpr fun startedAt => ?_
  refine Ensures.mono ?_ fun _ _ _ => AfterFence.cons id
  refine ensures_ask_bind_iff.mpr fun toolCallId => ?_
  refine Ensures.mono ?_ fun _ _ _ => AfterFence.cons id
  refine constructed_bind (fun _ => ?_) fun _ => silent_closes
  refine constructed_bind (fun _ => ?_) fun _ => silent_closes
  refine request_bind (fun insertResult => ?_) fun _ => silent_closes.cons id
  refine Ensures.mono ?_ fun _ _ _ => AfterFence.cons id
  exact ensures_require_bind (fun inserted => fenceAndRun_closes arguments orderId _) fun _ =>
    silent_closes

end ExecutorRuns

/-- An environment in which every write of the executor succeeds and the order port gives one
answer. -/
def steadyWorld (order : Except Raised (Option GetOrderResult)) : (call : Call) → Answer call
  | .clock => .utc 0
  | .uuidFactory => 7
  | .port (.insertToolCall _) => .ok .inserted
  | .port (.startToolCallIfCreated _) => .ok .applied
  | .port (.finalizeToolCallAttemptIfRunning _) => .ok .applied
  | .port (.saveObservation _) => .ok .inserted
  | .port (.getOrder ..) => order
  | .port _ => .error { kind := .other "RuntimeError" }

def orderLookUp : GetOrderExecution where
  ownerScope := ⟨"customer-a"⟩
  authorizedCommand :=
    { gateDecisionId := 1
      canonicalToolName := "get_order"
      validatedArguments := [("order_id", .string "O-1001".toList)]
      argumentBindingRefs := [2]
      validatedTaskStateVersion := 1
      registrySnapshotRef := "tool-registry.p0.v1"
      trustedContextRef := "trusted-context:3" }
  runId := 4
  taskId := 5
  requestUnitId := 6
  modelCallId := 8
  contextManifestId := 9
  providerToolCallId := none
  toolRegistryVersion := "tool-registry.p0.v1"
  executionPolicy :=
    { timeoutMs := 1000, maxAttempts := 1, interruptBehavior := "MARK_INTERRUPTED" }
  remainingRunTimeBudgetMs := 30000

def lookUpRun (order : Except Raised (Option GetOrderResult)) :=
  (executeGetOrder orderLookUp ()).simulate (fun _ => steadyWorld order) []

/-- The attempt that the runs start. -/
def lookUpAttempt : StartedAttempt where
  ownerScope := orderLookUp.ownerScope
  orderId := "O-1001".toList
  effectiveTimeoutMs := 1000
  created := orderLookUp.createdToolCall 7 (.utc 0)
  running := { orderLookUp.createdToolCall 7 (.utc 0) with status := .running, attemptCount := 1 }
  attempt := { toolCallId := 7, attemptNo := 1, startedAt := .utc 0 }

/-- The calls up to the lookup. -/
def lookUpCalls : List Call :=
  [.clock, .uuidFactory, .port (.insertToolCall ⟨lookUpAttempt.created⟩), .clock,
    .port (.startToolCallIfCreated lookUpAttempt.fence), .port (.getOrder 1000 lookUpAttempt.query)]

def runtimeError : Raised := { kind := .other "RuntimeError" }

private theorem lookUpRun_events {order : Except Raised (Option GetOrderResult)} {calls : List Call}
    (same : (lookUpRun order).1.map (·.call) = calls) :
    (lookUpRun order).1 = calls.map fun call => ⟨call, steadyWorld order call⟩ := by
  rw [← same]
  exact Program.simulate_eq_map _ _ _

private theorem lookUpRun_runs (order : Except Raised (Option GetOrderResult)) :
    (executeGetOrder orderLookUp ()).Runs (lookUpRun order).1 (lookUpRun order).2 :=
  Program.runs_simulate _ _ _

/-- An order port that raises any other exception leaves the fenced ToolCall and its attempt
open. -/
theorem runtime_error_leaves_call_running :
    ∃ events outcome, (executeGetOrder orderLookUp ()).Runs events outcome ∧
      fenceApplied lookUpAttempt.fence ∈ events ∧ FinalizationSucceeds events ∧
      ¬Closed lookUpAttempt.fence events := by
  have events :=
    lookUpRun_events (show (lookUpRun (.error runtimeError)).1.map (·.call) = lookUpCalls by
    decide)
  have silent : ∀ command answer,
      (⟨.port (.finalizeToolCallAttemptIfRunning command), answer⟩ : Event Answer) ∉
      (lookUpRun (.error runtimeError)).1 := by
    rw [events]
    simp [lookUpCalls]
  refine ⟨_, _, lookUpRun_runs (.error runtimeError), ?_, ?_, ?_⟩
  · rw [events]
    simp [lookUpCalls, fenceApplied, steadyWorld]
  · exact fun ⟨command, answer, member⟩ => absurd member (silent command answer)
  · exact fun ⟨command, _, member⟩ => silent command _ member

/-- An order port that returns a foreign object does not. -/
theorem dispatched_call_closed_iff_foreign_object :
    Closed lookUpAttempt.fence ((lookUpRun (.ok none)).1.drop 5) := by
  have calls : (lookUpRun (.ok none)).1.map (·.call) = lookUpCalls ++ [.clock, .port
      (.finalizeToolCallAttemptIfRunning
          (lookUpAttempt.finalization (resultProjection .systemFailure none) (.utc 0)))] := by
    decide
  have events := lookUpRun_events calls
  rw [events]
  refine (dispatched_call_closed_iff orderLookUp () _ _ _ (lookUpRun_runs (.ok none))
    "O-1001".toList
    (by decide) ((lookUpRun (.ok none)).1.take 4) lookUpAttempt.fence _ ?_ ?_).mpr ⟨?_, ?_,
    ?_⟩
  · rw [events]
    rfl
  · intro requested
    exact ⟨_, by simp [lookUpCalls, steadyWorld]; rfl⟩
  · decide
  · intro timeoutMs answer member
    simp [lookUpCalls, steadyWorld] at member
    obtain ⟨-, rfl⟩ := member
    rintro ⟨_, ⟨⟩, -⟩
  · intro finishedAt first
    obtain rfl : Datetime.utc 0 = finishedAt := Option.some.inj first
    decide

end MiniAgent.Application
