import MiniAgent.Infrastructure.StoreRuns

/-! # Runs that have ended

When a Run ends, nothing of it is active any more, and so it stays: its record, its ToolCalls, its
links and its Request Understanding are never written again, and nothing new joins it. Before that,
a Run never gets a second link or a second Request Understanding.
-/

namespace MiniAgent.Infrastructure

open MiniAgent.Core MiniAgent.Application KeyedStore

variable {library : ModelLibrary} {held after : Held} {runId : Uuid}
  {journal : List (Write RecordKey Entry)}

/-- The Run is there, and has ended. -/
def RunHasEnded (held : Held) (runId : Uuid) : Prop :=
  ∃ run children, held (runKey runId) = some ⟨.agentRunRecord run, children⟩ ∧ run.runId = runId ∧
    run.status.isActive = false

/-- Nothing of a Run is active. -/
structure RunClosed (held : Held) (runId : Uuid) : Prop where
  calls : ∀ key call children, held key = some ⟨.toolCallRecord call, children⟩ →
    call.runId = runId → call.status.isTerminal = true
  links : ∀ key link children, held key = some ⟨.runTaskLinkRecord link, children⟩ →
    link.runId = runId → link.resultTaskStateVersion.isSome = true

def EndedRunsAreClosed (held : Held) : Prop :=
  ∀ runId, RunHasEnded held runId → RunClosed held runId

/-- Nothing joins a Run that has ended. -/
private theorem not_joins_of_ended (transaction : Transaction library held journal)
    (ended : RunHasEnded held runId) {write : Write RecordKey Entry} (member : write ∈ journal)
    {entry : Entry} (entered : write.entered = some entry) :
    inRun entry.record ≠ some runId := by
  intro joined
  obtain ⟨running, _, stands, isRunning⟩ :=
    transaction.joins write member entry runId entered joined
  obtain ⟨run, _, there, -, inactive⟩ := ended
  obtain ⟨rfl, -⟩ : running = run ∧ _ = _ := by simpa using stands.symm.trans there
  rw [isRunning] at inactive
  cases inactive

/-- The Run ends in this transaction, or it had ended before. -/
private theorem ended_cases (transaction : Transaction library held journal)
    (commits : Commits held journal after) (ended : RunHasEnded after runId) :
    RunHasEnded held runId ∨ EndsRun held journal runId := by
  obtain ⟨run, children, there, rfl, inactive⟩ := ended
  rcases commits.keeps_or_writes there with ⟨before, -⟩ | ⟨write, member, -, value⟩
  · exact .inl ⟨run, children, before, rfl, inactive⟩
  · refine .inr ?_
    cases transaction.legal write member with
    | @enters _ entry entered initial =>
      rcases write.enters_or_swaps with same | ⟨_, swaps⟩
      · obtain rfl := Option.some.inj (entered.symm.trans same)
        rw [value] at initial
        rw [show run.status = .created from initial] at inactive
        cases inactive
      · rw [swaps] at entered
        cases entered
    | swaps step keyed =>
      obtain rfl : _ = (⟨.agentRunRecord run, children⟩ : Entry) := value
      exact transaction.ends _ _ run children member inactive

private theorem runClosed_of_ended (transaction : Transaction library held journal)
    (commits : Commits held journal after) (ended : RunHasEnded held runId)
    (closed : RunClosed held runId) : RunClosed after runId := by
  constructor
  · intro key call children there
    refine commits.forall_of_each (fun _ entry => ∀ call children,
      entry = ⟨.toolCallRecord call, children⟩ →
      call.runId = runId → call.status.isTerminal = true) ?_ ?_ ?_ key _ there call children rfl
    · rintro key _ before call children rfl
      exact closed.calls key call children before
    · rintro write member _ entered call children rfl rfl
      exact absurd rfl (not_joins_of_ended transaction ended member entered)
    · rintro key expected next member terminal call children rfl belongs
      cases transaction.legal _ member with
      | enters entered => cases entered
      | swaps step =>
        cases step with
        | toolCall step =>
          have before := terminal _ _ rfl (step.sameRun.symm.trans belongs)
          cases before.symm.trans step.active
  · intro key link children there
    refine commits.forall_of_each (fun _ entry => ∀ link children,
      entry = ⟨.runTaskLinkRecord link, children⟩ →
      link.runId = runId →
      link.resultTaskStateVersion.isSome = true) ?_ ?_ ?_ key _ there link children rfl
    · rintro key _ before link children rfl
      exact closed.links key link children before
    · rintro write member _ entered link children rfl rfl
      exact absurd rfl (not_joins_of_ended transaction ended member entered)
    · rintro key expected next member _ link children rfl -
      cases transaction.legal _ member with
      | enters entered => cases entered
      | swaps step =>
        cases step with
        | link _ _ closed => exact closed

/-- A transaction that ends a Run closes it. -/
private theorem runClosed_of_ends (transaction : Transaction library held journal)
    (commits : Commits held journal after) (ends : EndsRun held journal runId) :
    RunClosed after runId := by
  constructor
  · rintro key call children there rfl
    rcases commits.keeps_or_writes there with ⟨before, unwritten⟩ | ⟨write, member, -, value⟩
    · by_contra active
      obtain ⟨expected, next, swapped⟩ :=
        ends.calls key call children before rfl (Bool.eq_false_iff.mpr active)
      exact unwritten expected next swapped
    · rcases write.enters_or_swaps with entered | ⟨expected, swaps⟩
      · have joins := ends.closed write member _ entered
        rw [value] at joins
        cases joins
      · rw [swaps, value] at member
        exact ends.interrupts _ expected call children member
  · rintro key link children there rfl
    rcases commits.keeps_or_writes there with ⟨before, unwritten⟩ | ⟨write, member, -, value⟩
    · obtain ⟨expected, next, swapped⟩ := ends.links key link children before rfl
      exact absurd swapped (unwritten expected next)
    · rcases write.enters_or_swaps with entered | ⟨expected, swaps⟩
      · have joins := ends.closed write member _ entered
        rw [value] at joins
        cases joins
      · rw [swaps, value] at member
        cases transaction.legal _ member with
        | enters entered => cases entered
        | swaps step =>
          cases step with
          | link _ _ closed => exact closed

theorem EndedRunsAreClosed.step (step : HeldStep library held after)
    (closed : EndedRunsAreClosed held) :
    EndedRunsAreClosed after := by
  intro runId ended
  obtain ⟨journal, transaction, commits⟩ := step.made
  rcases ended_cases transaction commits ended with before | ends
  · exact runClosed_of_ended transaction commits before (closed runId before)
  · exact runClosed_of_ends transaction commits ends

/-- A Run has no two links, and no two Request Understandings. -/
def OncePerRun (held : Held) : Prop :=
  ∀ key entry otherKey other slot, held key = some entry → held otherKey = some other →
    onceInRun entry.record = some slot → onceInRun other.record = some slot → key = otherKey

private theorem EntryStep.onceInRun_eq {expected next : Entry} (step : EntryStep expected next) :
    onceInRun next.record = onceInRun expected.record := by
  cases step with
  | run => rfl
  | toolCall => rfl
  | link same => exact congrArg (fun runId => some (P0RecordCode.runTaskLinkRecord, runId)) same.1
  | task => rfl
  | unit => rfl

/-- What is held once was held before, or is entered under its key. -/
private theorem once_cases (transaction : Transaction library held journal)
    (commits : Commits held journal after) {key : RecordKey} {entry : Entry}
    {slot : P0RecordCode × Uuid} (there : after key = some entry)
    (single : onceInRun entry.record = some slot) :
    (∃ before, held key = some before ∧ onceInRun before.record = some slot) ∨
      ∃ write ∈ journal, write.key = key ∧ ∃ value, write.entered = some value ∧
      onceInRun value.record = some slot := by
  refine commits.forall_of_each (fun key entry => onceInRun entry.record = some slot →
    (∃ before, held key = some before ∧ onceInRun before.record = some slot) ∨
      ∃ write ∈ journal, write.key = key ∧ ∃ value, write.entered = some value ∧
      onceInRun value.record = some slot)
    ?_ ?_ ?_ key entry there single
  · exact fun key entry before single => .inl ⟨entry, before, single⟩
  · exact fun write member value entered single => .inr ⟨write, member, rfl, value, entered, single⟩
  · intro key expected next member origin single
    cases transaction.legal _ member with
    | enters entered => cases entered
    | swaps step => exact origin (step.onceInRun_eq ▸ single)

theorem OncePerRun.step (step : HeldStep library held after) (once : OncePerRun held) :
    OncePerRun after := by
  intro key entry otherKey other slot there otherThere single otherSingle
  obtain ⟨journal, transaction, commits⟩ := step.made
  rcases once_cases transaction commits there single with ⟨before, found, same⟩
    | ⟨write, member, rfl, value, entered, same⟩
  · rcases once_cases transaction commits otherThere otherSingle with
      ⟨otherBefore, otherFound, otherSame⟩ | ⟨write, member, rfl, value, entered, otherSame⟩
    · exact once key before otherKey otherBefore slot found otherFound same otherSame
    · exact (transaction.once write member value slot entered otherSame).1 key before found same
  · obtain ⟨before, within⟩ := transaction.once write member value slot entered same
    rcases once_cases transaction commits otherThere otherSingle with
      ⟨otherBefore, otherFound, otherSame⟩ | ⟨another, listed, rfl, again, enteredAgain, otherSame⟩
    · exact (before otherKey otherBefore otherFound otherSame).symm
    · exact (within another listed again enteredAgain otherSame).symm

/-- What has ended takes no step. -/
private theorem not_step_of_closed {entry next : Entry} (joined : inRun entry.record = some runId)
    {key : RecordKey} (there : held key = some entry) (closed : RunClosed held runId) :
    ¬EntryStep entry next := by
  intro step
  cases step with
  | run => cases joined
  | toolCall step =>
    obtain rfl := Option.some.inj joined
    cases (closed.calls key _ _ there rfl).symm.trans step.active
  | link _ opened =>
    obtain rfl := Option.some.inj joined
    have ended := closed.links key _ _ there rfl
    rw [opened] at ended
    cases ended
  | task => cases joined
  | unit => cases joined

/-- A Run that has ended, with all that has joined it, is as it was. -/
def RunUnchanged (held after : Held) (runId : Uuid) : Prop :=
  after (runKey runId) = held (runKey runId) ∧
    ∀ key entry, inRun entry.record = some runId → (after key = some entry ↔ held key = some entry)

theorem RunUnchanged.trans {between : Held} (first : RunUnchanged held between runId)
    (second : RunUnchanged between after runId) : RunUnchanged held after runId :=
  ⟨second.1.trans first.1, fun key entry joined =>
    (second.2 key entry joined).trans (first.2 key entry joined)⟩

private theorem EntryStep.inRun_eq {expected next : Entry} (step : EntryStep expected next) :
    inRun next.record = inRun expected.record := by
  cases step with
  | run => rfl
  | toolCall step => exact congrArg some step.sameRun
  | link same => exact congrArg some same.1
  | task => rfl
  | unit => rfl

private theorem runUnchanged_of_step (step : HeldStep library held after)
    (closed : EndedRunsAreClosed held) (ended : RunHasEnded held runId) :
    RunUnchanged held after runId := by
  obtain ⟨journal, transaction, commits⟩ := step.made
  have runClosed := closed runId ended
  have legal : ∀ {key expected next}, .swap key expected next ∈ journal →
      EntryStep expected next := by
    intro key expected next member
    cases transaction.legal _ member with
    | enters entered => cases entered
    | swaps step => exact step
  refine ⟨?_, fun key entry joined => ⟨fun there => ?_, fun there => ?_⟩⟩
  · obtain ⟨run, children, there, -, inactive⟩ := ended
    rw [there]
    refine commits.kept there fun next member => ?_
    cases legal member with
    | run _ active => cases inactive.symm.trans active
  · refine commits.forall_of_each (fun key entry => inRun entry.record = some runId →
      held key = some entry)
      (fun _ _ before _ => before) (fun write member value entered joined => ?_)
        (fun key expected next member before joined => ?_)
      key entry there joined
    · exact absurd joined (not_joins_of_ended transaction ended member entered)
    · have joinedBefore := (legal member).inRun_eq ▸ joined
      exact absurd (legal member) (not_step_of_closed joinedBefore (before joinedBefore) runClosed)
  · exact commits.kept there fun next member =>
      not_step_of_closed joined there runClosed (legal member)

private theorem runUnchanged_of_steps (steps : Relation.ReflTransGen (HeldStep library) held after)
    (closed : EndedRunsAreClosed held) (ended : RunHasEnded held runId) :
    RunUnchanged held after runId := by
  have both : EndedRunsAreClosed after ∧ RunUnchanged held after runId := by
    induction steps with
    | refl => exact ⟨closed, rfl, fun _ _ _ => Iff.rfl⟩
    | tail _ step ih =>
      obtain ⟨closed, unchanged⟩ := ih
      refine ⟨closed.step step, unchanged.trans (runUnchanged_of_step step closed ?_)⟩
      obtain ⟨run, children, there, same, inactive⟩ := ended
      exact ⟨run, children, unchanged.1.trans there, same, inactive⟩
  exact both.2

private theorem endedRunsAreClosed_of_calls (laws : StoreLaws library) (calls : List StoreCall) :
    EndedRunsAreClosed (contents library (tableAfter library .empty calls)) := by
  refine held_of_calls laws ?_ (fun _ _ step closed => closed.step step) calls
  rintro runId ⟨_, _, there, -⟩
  cases there

/-- Whatever has been executed, in a Run that has ended no ToolCall is active and no link is open;
and whatever is executed later, the Run, its ToolCalls, its links and its Request Understanding stay
as they are and nothing joins them. -/
theorem ended_runs_stay_closed (library : ModelLibrary) (laws : StoreLaws library)
    (calls later : List StoreCall) :
    EndedRunsAreClosed (contents library (tableAfter library .empty calls)) ∧
      ∀ runId, RunHasEnded (contents library (tableAfter library .empty calls)) runId →
        RunUnchanged (contents library (tableAfter library .empty calls))
          (contents library (tableAfter library .empty (calls ++ later))) runId := by
  have closed := endedRunsAreClosed_of_calls laws calls
  refine ⟨closed, fun runId ended => ?_⟩
  rw [tableAfter_append]
  exact runUnchanged_of_steps
    (steps_of_calls laws (tableAfter_keeps laws storeInvariant_empty calls) later) closed ended

/-- Whatever has been executed, and in whatever order, no Run has two links or two Request
Understandings. -/
theorem runs_have_one_link_and_understanding (library : ModelLibrary) (laws : StoreLaws library)
    (calls : List StoreCall) :
    OncePerRun (contents library (tableAfter library .empty calls)) := by
  refine held_of_calls laws ?_ (fun _ _ step once => once.step step) calls
  intro key entry otherKey other slot there
  cases there

/-- A Run with its Task, its link and its Request Understanding ends, and two more commands are
executed. -/
theorem ended_runs_stay_closed_end :
    let calls := storedCalls ++ startCall :: taskCalls ++ [endCall]
    EndedRunsAreClosed (contents storeLibrary (tableAfter storeLibrary .empty calls)) ∧
      ∀ runId, RunHasEnded (contents storeLibrary (tableAfter storeLibrary .empty calls)) runId →
        RunUnchanged (contents storeLibrary (tableAfter storeLibrary .empty calls))
          (contents storeLibrary (tableAfter storeLibrary .empty (calls ++ laterCalls))) runId :=
  ended_runs_stay_closed storeLibrary storeLibrary_storeLaws _ laterCalls

/-- The link and the Request Understanding of that Run are stored when its Task is created. -/
theorem runs_have_one_link_and_understanding_end :
    OncePerRun (contents storeLibrary
      (tableAfter storeLibrary .empty (storedCalls ++ startCall :: taskCalls ++
        endCall :: laterCalls))) :=
  runs_have_one_link_and_understanding storeLibrary storeLibrary_storeLaws _

end MiniAgent.Infrastructure
