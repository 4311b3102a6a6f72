import MiniAgent.Application.CommandSteps
import MiniAgent.Infrastructure.StoreCommands

/-! # What a transaction may write

A command that is valid and admitted makes only writes that keep the lifecycles: a record is entered
as its lifecycle starts, and replaced by its next step. Nothing joins a Run that is not running,
nothing active is left in a Run that ends, and a Task never takes a step without its RequestUnit.
-/

namespace MiniAgent.Infrastructure

open MiniAgent.Core MiniAgent.Application KeyedStore

variable {library : ModelLibrary} {held : Held} {journal writes : List (Write RecordKey Entry)}

/-- How a record is when it is entered. -/
def EntersAs : Entry → Prop
  | ⟨.agentRunRecord run, _⟩ => run.status = .created
  | ⟨.toolCallRecord call, _⟩ => call.status = .created
  | ⟨.runTaskLinkRecord link, _⟩ => link.resultTaskStateVersion = none
  | ⟨.taskRecord task, children⟩ => (task.stateVersion = 1 ∧ task.status = .active) ∧ children = []
  | ⟨.requestUnitRecord unit, _⟩ => unit.stateVersion = 1 ∧ unit.status = .active
  | _ => True

/-- One step of a record that is replaced. -/
inductive EntryStep : Entry → Entry → Prop
  | run {expected next : AgentRunRecord} (sameRun : next.runId = expected.runId)
      (active : expected.status.isActive = true)
      (advances : expected.status = .created ∧ next.status = .running ∨
        next.status.isActive = false) :
      EntryStep ⟨.agentRunRecord expected, []⟩ ⟨.agentRunRecord next, []⟩
  | toolCall {expected next : ToolCallRecord} {children nextChildren : List SourceRecord}
      (step : ToolCallStep expected next) :
      EntryStep ⟨.toolCallRecord expected, children⟩ ⟨.toolCallRecord next, nextChildren⟩
  | link {expected terminal : RunTaskLinkRecord}
      (same : terminal.runId = expected.runId ∧ terminal.taskId = expected.taskId)
      (opened : expected.resultTaskStateVersion = none)
      (closed : terminal.resultTaskStateVersion.isSome = true) :
      EntryStep ⟨.runTaskLinkRecord expected, []⟩ ⟨.runTaskLinkRecord terminal, []⟩
  | task {command : ApplyTaskTransitionCommand} {history : List SourceRecord}
      (step : TaskStep command) :
      EntryStep ⟨.taskRecord command.expectedTaskRecord, history⟩
        ⟨.taskRecord command.nextTaskRecord,
          canonicalChildren (history ++ [.taskStateTransition command.taskStateTransition])⟩
  | unit {command : ApplyTaskTransitionCommand} (step : TaskStep command) :
      EntryStep ⟨.requestUnitRecord command.expectedRequestUnitRecord, []⟩
        ⟨.requestUnitRecord command.nextRequestUnitRecord, []⟩

/-- A write that keeps the lifecycle of its record. -/
inductive LegalWrite : Write RecordKey Entry → Prop
  | enters {write : Write RecordKey Entry} {entry : Entry} (entered : write.entered = some entry)
      (initial : EntersAs entry) : LegalWrite write
  | swaps {key : RecordKey} {expected next : Entry} (step : EntryStep expected next)
      (keyed : replacedKey expected.record = some key) : LegalWrite (.swap key expected next)

/-- The Run that a record joins when it is entered. -/
def inRun : SourceRecord → Option Uuid
  | .toolCallRecord call => some call.runId
  | .runTaskLinkRecord link => some link.runId
  | .requestUnderstandingRecordV2 record => some record.runId
  | _ => none

/-- What a Run has once: its link and its Request Understanding. -/
def onceInRun : SourceRecord → Option (P0RecordCode × Uuid)
  | .runTaskLinkRecord link => some (.runTaskLinkRecord, link.runId)
  | .requestUnderstandingRecordV2 record => some (.requestUnderstandingRecord, record.runId)
  | _ => none

/-- A Run ends with everything of it that is active, and nothing joins it any more. -/
structure EndsRun (held : Held) (journal : List (Write RecordKey Entry)) (runId : Uuid) : Prop where
  calls : ∀ key call children, held key = some ⟨.toolCallRecord call, children⟩ →
    call.runId = runId →
    call.status.isTerminal = false → ∃ expected next, .swap key expected next ∈ journal
  interrupts : ∀ key expected call children,
    .swap key expected ⟨.toolCallRecord call, children⟩ ∈ journal → call.status.isTerminal = true
  links : ∀ key link children, held key = some ⟨.runTaskLinkRecord link, children⟩ →
    link.runId = runId → ∃ expected next, .swap key expected next ∈ journal
  closed : ∀ write ∈ journal, ∀ entry, write.entered = some entry → inRun entry.record = none

def isTaskFamily : P0RecordCode → Bool
  | .taskRecord | .requestUnitRecord => true
  | _ => false

/-- What is written to Tasks and RequestUnits: nothing, one step of both, or the start of both. -/
inductive TaskWrites (library : ModelLibrary) (journal : List (Write RecordKey Entry)) : Prop
  | none (others : ∀ write ∈ journal, isTaskFamily write.key.1 = false)
  | steps (command : ApplyTaskTransitionCommand) (history : List SourceRecord)
      (step : TaskStep command)
      (made : ∀ write ∈ transitionWrites history command, write ∈ journal)
      (only : ∀ write ∈ journal, isTaskFamily write.key.1 = true →
        write ∈ transitionWrites history command)
  | starts (command : CreateInitialTaskGraphV2Command) (start : GraphStarts command)
      (made : ∀ write ∈ taskGraphWrites library command, write ∈ journal)
      (only : ∀ write ∈ journal, isTaskFamily write.key.1 = true →
        write ∈ taskGraphWrites library command)

/-- What the writes of one transaction keep. -/
structure Transaction (library : ModelLibrary) (held : Held)
    (journal : List (Write RecordKey Entry)) : Prop where
  legal : ∀ write ∈ journal, LegalWrite write
  joins : ∀ write ∈ journal, ∀ entry runId, write.entered = some entry →
    inRun entry.record = some runId → RunStandsRunning held runId
  once : ∀ write ∈ journal, ∀ entry slot, write.entered = some entry →
    onceInRun entry.record = some slot →
    (∀ key other, held key = some other → onceInRun other.record = some slot → key = write.key) ∧
      ∀ other ∈ journal, ∀ again, other.entered = some again → onceInRun again.record = some slot →
      other.key = write.key
  ends : ∀ key expected next children,
    .swap key expected ⟨.agentRunRecord next, children⟩ ∈ journal →
    next.status.isActive = false → EndsRun held journal next.runId
  tasks : TaskWrites library journal

/-- The order of the writes does not matter. -/
theorem Transaction.perm (transaction : Transaction library held writes)
    (same : journal.Perm writes) :
    Transaction library held journal := by
  have listed : ∀ {write}, write ∈ journal ↔ write ∈ writes := same.mem_iff
  constructor
  · exact fun write member => transaction.legal write (listed.mp member)
  · exact fun write member => transaction.joins write (listed.mp member)
  · intro write member entry slot entered single
    obtain ⟨before, within⟩ := transaction.once write (listed.mp member) entry slot entered single
    exact ⟨before, fun other present => within other (listed.mp present)⟩
  · intro key expected next children member ended
    obtain ⟨calls, interrupts, links, closed⟩ :=
      transaction.ends key expected next children (listed.mp member) ended
    constructor
    · intro key call children stored belongs active
      obtain ⟨expected, next, swapped⟩ := calls key call children stored belongs active
      exact ⟨expected, next, listed.mpr swapped⟩
    · exact fun key expected call children present =>
        interrupts key expected call children (listed.mp present)
    · intro key link children stored belongs
      obtain ⟨expected, next, swapped⟩ := links key link children stored belongs
      exact ⟨expected, next, listed.mpr swapped⟩
    · exact fun write present => closed write (listed.mp present)
  · cases transaction.tasks with
    | none others => exact .none fun write member => others write (listed.mp member)
    | steps command history step made only =>
      exact .steps command history step (fun write member => listed.mpr (made write member))
        fun write member => only write (listed.mp member)
    | starts command start made only =>
      exact .starts command start (fun write member => listed.mpr (made write member))
        fun write member => only write (listed.mp member)

private theorem inRun_of_onceInRun {record : SourceRecord} {slot : P0RecordCode × Uuid}
    (single : onceInRun record = some slot) :
    inRun record = some slot.2 := by
  cases record <;> simp only [onceInRun, Option.some.injEq, reduceCtorEq] at single
  all_goals
    obtain rfl := single
    rfl

/-- Entering records that join no Run. -/
structure Aside (write : Write RecordKey Entry) : Prop where
  enters : ∃ entry, write.entered = some entry ∧ EntersAs entry ∧ inRun entry.record = none
  other : isTaskFamily write.key.1 = false

private theorem Aside.inRun_eq_none {write : Write RecordKey Entry} (aside : Aside write)
    {entry : Entry} (entered : write.entered = some entry) : inRun entry.record = none := by
  obtain ⟨found, same, -, none_⟩ := aside.enters
  obtain rfl := Option.some.inj (same.symm.trans entered)
  exact none_

private theorem transaction_of_aside (each : ∀ write ∈ journal, Aside write) :
    Transaction library held journal := by
  constructor
  · intro write member
    obtain ⟨entry, entered, initial, -⟩ := (each write member).enters
    exact .enters entered initial
  · intro write member entry runId entered joined
    rw [(each write member).inRun_eq_none entered] at joined
    cases joined
  · intro write member entry slot entered single
    have joined := inRun_of_onceInRun single
    rw [(each write member).inRun_eq_none entered] at joined
    cases joined
  · intro key expected next children member
    obtain ⟨_, entered, -⟩ := (each _ member).enters
    cases entered
  · exact .none fun write member => (each write member).other

theorem legal_transitionWrites {command : ApplyTaskTransitionCommand} (step : TaskStep command)
    {history : List SourceRecord} {write : Write RecordKey Entry}
    (member : write ∈ transitionWrites history command) :
    LegalWrite write ∧ write.entered = none ∧ isTaskFamily write.key.1 = true := by
  rcases List.mem_cons.mp member with rfl | last
  · exact ⟨.swaps (.task step) rfl, rfl, rfl⟩
  · obtain rfl := List.mem_singleton.mp last
    exact ⟨.swaps (.unit step) rfl, rfl, rfl⟩

/-- A record of a Run takes one step, which does not end the Run. -/
private theorem transaction_of_swap {key : RecordKey} {expected next : Entry}
    (step : EntryStep expected next) (keyed : replacedKey expected.record = some key)
    (other : isTaskFamily key.1 = false)
    (goesOn : ∀ run, next.record = .agentRunRecord run → run.status.isActive = true) :
    Transaction library held [.swap key expected next] := by
  constructor
  · intro write member
    obtain rfl := List.mem_singleton.mp member
    exact .swaps step keyed
  · intro write member entry runId entered
    obtain rfl := List.mem_singleton.mp member
    cases entered
  · intro write member entry slot entered
    obtain rfl := List.mem_singleton.mp member
    cases entered
  · intro key' expected' run children member ended
    have same := List.mem_singleton.mp member
    obtain ⟨-, -, rfl⟩ := Write.swap.inj same
    rw [goesOn run rfl] at ended
    cases ended
  · refine .none fun write member => ?_
    obtain rfl := List.mem_singleton.mp member
    exact other

private theorem transaction_of_transition {command : ApplyTaskTransitionCommand}
    (step : TaskStep command) (history : List SourceRecord) :
    Transaction library held (transitionWrites history command) := by
  constructor
  · exact fun write member => (legal_transitionWrites step member).1
  · intro write member entry runId entered
    rw [(legal_transitionWrites step member).2.1] at entered
    cases entered
  · intro write member entry slot entered
    rw [(legal_transitionWrites step member).2.1] at entered
    cases entered
  · intro key expected run children member
    rcases List.mem_cons.mp member with same | last
    · cases (Write.swap.inj same).2.2
    · cases (Write.swap.inj (List.mem_singleton.mp last)).2.2
  · exact .steps command history step (fun _ member => member) fun _ member _ => member

/-- A write of a command that ends a Run. -/
inductive EndingWrite (expected terminal : AgentRunRecord)
    (transition : Option (ApplyTaskTransitionCommand × List SourceRecord)) :
    Write RecordKey Entry → Prop
  | run : EndingWrite expected terminal transition
      (replacing (runKey expected.runId) (.agentRunRecord expected) (.agentRunRecord terminal))
  | call {before after : ToolCallRecord} {children nextChildren : List SourceRecord}
      (step : ToolCallStep before after)
      (ended : after.status.isTerminal = true) : EndingWrite expected terminal transition
      (replacing (toolCallKey before.toolCallId) (.toolCallRecord before) (.toolCallRecord after)
        children nextChildren)
  | link {before after : RunTaskLinkRecord}
      (same : after.runId = before.runId ∧ after.taskId = before.taskId)
      (opened : before.resultTaskStateVersion = none)
      (closed : after.resultTaskStateVersion.isSome = true) :
      EndingWrite expected terminal transition (linkWrite before after)
  | transition {command : ApplyTaskTransitionCommand} {history : List SourceRecord}
      {write : Write RecordKey Entry}
      (chosen : transition = some (command, history))
      (member : write ∈ transitionWrites history command) :
      EndingWrite expected terminal transition write
  | aside {write : Write RecordKey Entry}
      (aside : Aside write) : EndingWrite expected terminal transition write

section Ending

variable {expected terminal : AgentRunRecord}
  {transition : Option (ApplyTaskTransitionCommand × List SourceRecord)}

/-- What is entered at the end joins no Run. -/
private theorem EndingWrite.inRun_eq_none
    (step : ∀ command history, transition = some (command, history) → TaskStep command)
    {write : Write RecordKey Entry} (ending : EndingWrite expected terminal transition write)
    {entry : Entry} (entered : write.entered = some entry) : inRun entry.record = none := by
  cases ending with
  | run => cases entered
  | call => cases entered
  | link => cases entered
  | transition chosen member =>
    rw [(legal_transitionWrites (step _ _ chosen) member).2.1] at entered
    cases entered
  | aside aside => exact aside.inRun_eq_none entered

/-- The Run and a ToolCall end. -/
private theorem EndingWrite.swap_eq {key : RecordKey} {before after : Entry}
    (ending : EndingWrite expected terminal transition (.swap key before after)) :
    (∀ run, after.record = .agentRunRecord run → run = terminal) ∧
      ∀ call, after.record = .toolCallRecord call → call.status.isTerminal = true := by
  generalize same : Write.swap key before after = write at ending
  cases ending with
  | run =>
    obtain rfl := (Write.swap.inj same).2.2
    refine ⟨fun run found => ?_, fun call found => ?_⟩
    · simpa using found.symm
    · simp at found
  | call step ended =>
    obtain rfl := (Write.swap.inj same).2.2
    refine ⟨fun run found => ?_, fun call found => ?_⟩
    · simp at found
    · obtain rfl := SourceRecord.toolCallRecord.inj found
      exact ended
  | link =>
    obtain rfl := (Write.swap.inj same).2.2
    refine ⟨fun run found => ?_, fun call found => ?_⟩ <;> simp at found
  | transition chosen member =>
    subst same
    rcases List.mem_cons.mp member with first | last
    · obtain rfl := (Write.swap.inj first).2.2
      refine ⟨fun run found => ?_, fun call found => ?_⟩ <;> simp at found
    · obtain rfl := (Write.swap.inj (List.mem_singleton.mp last)).2.2
      refine ⟨fun run found => ?_, fun call found => ?_⟩ <;> simp at found
  | aside aside =>
    subst same
    obtain ⟨_, entered, -⟩ := aside.enters
    cases entered

private theorem transaction_of_ending (expected terminal : AgentRunRecord)
    (transition : Option (ApplyTaskTransitionCommand × List SourceRecord))
    (sameRun : terminal.runId = expected.runId) (active : expected.status.isActive = true)
    (ended : terminal.status.isActive = false)
    (each : ∀ write ∈ journal, EndingWrite expected terminal transition write)
    (step : ∀ command history, transition = some (command, history) → TaskStep command)
    (steps : ∀ command history, transition = some (command, history) →
      ∀ write ∈ transitionWrites history command, write ∈ journal)
    (calls : ∀ key call children, held key = some ⟨.toolCallRecord call, children⟩ →
      call.runId = expected.runId →
      call.status.isTerminal = false → ∃ before after, .swap key before after ∈ journal)
    (links : ∀ key link children, held key = some ⟨.runTaskLinkRecord link, children⟩ →
      link.runId = expected.runId →
      ∃ before after, .swap key before after ∈ journal) : Transaction library held journal := by
  constructor
  · intro write member
    cases each write member with
    | run => exact .swaps (.run sameRun active (.inr ended)) rfl
    | call step => exact .swaps (.toolCall step) rfl
    | link same opened closed => exact .swaps (.link same opened closed) rfl
    | transition chosen within => exact (legal_transitionWrites (step _ _ chosen) within).1
    | aside aside =>
      obtain ⟨entry, entered, initial, -⟩ := aside.enters
      exact .enters entered initial
  · intro write member entry runId entered joined
    rw [(each write member).inRun_eq_none step entered] at joined
    cases joined
  · intro write member entry slot entered single
    have joined := inRun_of_onceInRun single
    rw [(each write member).inRun_eq_none step entered] at joined
    cases joined
  · intro key before run children member _
    obtain rfl := (each _ member).swap_eq.1 run rfl
    rw [sameRun]
    exact ⟨calls, fun key before call children member => (each _ member).swap_eq.2 call rfl, links,
      fun write member entry entered => (each write member).inRun_eq_none step entered⟩
  · cases chosen : transition with
    | none =>
      refine .none fun write member => ?_
      cases each write member with
      | run => rfl
      | call => rfl
      | link => rfl
      | transition some_ => cases chosen.symm.trans some_
      | aside aside => exact aside.other
    | some pair =>
      refine .steps pair.1 pair.2 (step _ _ chosen) (steps _ _ chosen) fun write member family => ?_
      cases each write member with
      | run => cases family
      | call => cases family
      | link => cases family
      | transition some_ within =>
        obtain rfl := Option.some.inj (chosen.symm.trans some_)
        exact within
      | aside aside => cases aside.other.symm.trans family

end Ending

private theorem understanding_of_once {record : SourceRecord} {runId : Uuid}
    (single : onceInRun record = some (.requestUnderstandingRecord, runId)) :
    ∃ understanding, record = .requestUnderstandingRecordV2 understanding ∧
    understanding.runId = runId := by
  cases record <;> simp only [onceInRun, Option.some.injEq, Prod.mk.injEq, reduceCtorEq, false_and,
    true_and] at single
  exact ⟨_, rfl, single⟩

private theorem link_of_once {record : SourceRecord} {runId : Uuid}
    (single : onceInRun record = some (.runTaskLinkRecord, runId)) :
    ∃ link, record = .runTaskLinkRecord link ∧ link.runId = runId := by
  cases record <;> simp only [onceInRun, Option.some.injEq, Prod.mk.injEq, reduceCtorEq, false_and,
    true_and] at single
  exact ⟨_, rfl, single⟩

private theorem transaction_of_toolCall {call : ToolCallRecord} (created : call.status = .created)
    (running : RunStandsRunning held call.runId) :
    Transaction library held [ensuring library .toolCallRecord (.toolCallRecord call)] := by
  constructor
  · intro write member
    obtain rfl := List.mem_singleton.mp member
    exact .enters rfl created
  · intro write member entry runId entered joined
    obtain rfl := List.mem_singleton.mp member
    obtain rfl := Option.some.inj entered
    obtain rfl := Option.some.inj joined
    exact running
  · intro write member entry slot entered single
    obtain rfl := List.mem_singleton.mp member
    obtain rfl := Option.some.inj entered
    cases single
  · intro key expected next children member
    cases List.mem_singleton.mp member
  · refine .none fun write member => ?_
    obtain rfl := List.mem_singleton.mp member
    rfl

/-- Whatever is the only Request Understanding of its Run. -/
private theorem once_of_understanding {record : RequestUnderstandingRecordV2} {key : RecordKey}
    {slot : P0RecordCode × Uuid} (only : UnderstandingAt held record.runId key)
    (single : onceInRun (.requestUnderstandingRecordV2 record) = some slot) {at_ : RecordKey}
    {other : Entry} (stored : held at_ = some other) (same : onceInRun other.record = some slot) :
    at_ = key := by
  obtain rfl := Option.some.inj single
  obtain ⟨understanding, found, belongs⟩ := understanding_of_once same
  obtain ⟨record', children'⟩ := other
  obtain rfl : record' = _ := found
  exact only at_ understanding children' stored belongs

private theorem transaction_of_understanding {record : RequestUnderstandingRecordV2}
    {links : List RecordKey} (admitted : AdmitsUnderstanding library held record links) :
    Transaction library held
      [inserting library .requestUnderstandingRecord (.requestUnderstandingRecordV2 record)] := by
  obtain ⟨running, only, -⟩ := admitted
  constructor
  · intro write member
    obtain rfl := List.mem_singleton.mp member
    exact .enters rfl trivial
  · intro write member entry runId entered joined
    obtain rfl := List.mem_singleton.mp member
    obtain rfl := Option.some.inj entered
    obtain rfl := Option.some.inj joined
    exact running
  · intro write member entry slot entered single
    obtain rfl := List.mem_singleton.mp member
    obtain rfl := Option.some.inj entered
    refine ⟨fun key other stored same => once_of_understanding only single stored same,
      fun other member _ _ _ => ?_⟩
    rw [List.mem_singleton.mp member]
  · intro key expected next children member
    cases List.mem_singleton.mp member
  · refine .none fun write member => ?_
    obtain rfl := List.mem_singleton.mp member
    rfl

private theorem once_of_link {link : RunTaskLinkRecord} {key : RecordKey}
    {slot : P0RecordCode × Uuid} (only : LinksAt held link.runId [key])
    (single : onceInRun (.runTaskLinkRecord link) = some slot) {at_ : RecordKey} {other : Entry}
    (stored : held at_ = some other) (same : onceInRun other.record = some slot) : at_ = key := by
  obtain rfl := Option.some.inj single
  obtain ⟨found, isLink, belongs⟩ := link_of_once same
  obtain ⟨record, children⟩ := other
  obtain rfl : record = _ := isLink
  exact List.mem_singleton.mp (only at_ found children stored belongs)

/-- The initial graph of a Task only enters records. -/
theorem taskGraphWrites_enter {command : CreateInitialTaskGraphV2Command}
    {write : Write RecordKey Entry} (member : write ∈ taskGraphWrites library command) :
    write.entered = some write.value := by
  simp only [taskGraphWrites, List.mem_cons, List.not_mem_nil, or_false] at member
  rcases member with rfl | rfl | rfl | rfl | rfl | rfl <;> rfl

/-- What the initial graph of a Task joins to its Run. -/
theorem mem_taskGraphWrites {command : CreateInitialTaskGraphV2Command}
    (start : GraphStarts command) {write : Write RecordKey Entry}
    (member : write ∈ taskGraphWrites library command) :
    (∃ entry, write.entered = some entry ∧ EntersAs entry ∧ inRun entry.record = none) ∨
      write = inserting library .requestUnderstandingRecord
        (.requestUnderstandingRecordV2 command.requestUnderstanding.record)
        [.acceptedTaskDeltaV2 command.requestUnderstanding.acceptedDelta] ∨
      write = inserting library .runTaskLinkRecord
      (.runTaskLinkRecord command.runTaskLink.activeRecord) := by
  simp only [taskGraphWrites, List.mem_cons, List.not_mem_nil, or_false] at member
  rcases member with rfl | rfl | rfl | rfl | rfl | rfl
  · exact .inl ⟨_, rfl, ⟨start.task, rfl⟩, rfl⟩
  · exact .inl ⟨_, rfl, start.unit, rfl⟩
  · exact .inl ⟨_, rfl, trivial, rfl⟩
  · exact .inr (.inl rfl)
  · exact .inl ⟨_, rfl, trivial, rfl⟩
  · exact .inr (.inr rfl)

theorem transaction_of_taskGraph {command : CreateInitialTaskGraphV2Command}
    (start : GraphStarts command)
    (admitted : AdmitsUnderstanding library held command.requestUnderstanding.record
      [entryKey library .runTaskLinkRecord (.runTaskLinkRecord command.runTaskLink.activeRecord)]) :
    Transaction library held (taskGraphWrites library command) := by
  obtain ⟨running, only, onlyLink⟩ := admitted
  have ofRun : command.runTaskLink.activeRecord.runId = command.requestUnderstanding.record.runId :=
    start.links.trans start.understands.symm
  constructor
  · intro write member
    rcases mem_taskGraphWrites start member with ⟨entry, entered, initial, -⟩ | rfl | rfl
    · exact .enters entered initial
    · exact .enters rfl trivial
    · exact .enters rfl start.opens
  · intro write member entry runId entered joined
    rcases mem_taskGraphWrites start member with ⟨found, same, -, aside⟩ | rfl | rfl
    · obtain rfl := Option.some.inj (same.symm.trans entered)
      cases aside.symm.trans joined
    · obtain rfl := Option.some.inj entered
      obtain rfl := Option.some.inj joined
      exact running
    · obtain rfl := Option.some.inj entered
      obtain rfl := Option.some.inj joined
      exact ofRun ▸ running
  · intro write member entry slot entered single
    rcases mem_taskGraphWrites start member with ⟨found, same, -, aside⟩ | rfl | rfl
    · obtain rfl := Option.some.inj (same.symm.trans entered)
      cases aside.symm.trans (inRun_of_onceInRun single)
    · obtain rfl := Option.some.inj entered
      refine ⟨fun key other stored same => once_of_understanding only single stored same,
        fun other present again enters twice => ?_⟩
      rcases mem_taskGraphWrites start present with ⟨found, same, -, aside⟩ | rfl | rfl
      · obtain rfl := Option.some.inj (same.symm.trans enters)
        cases aside.symm.trans (inRun_of_onceInRun twice)
      · rfl
      · obtain rfl := Option.some.inj enters
        cases single.trans twice.symm
    · obtain rfl := Option.some.inj entered
      refine ⟨fun key other stored same => once_of_link (ofRun ▸ onlyLink) single stored same,
        fun other present again enters twice => ?_⟩
      rcases mem_taskGraphWrites start present with ⟨found, same, -, aside⟩ | rfl | rfl
      · obtain rfl := Option.some.inj (same.symm.trans enters)
        cases aside.symm.trans (inRun_of_onceInRun twice)
      · obtain rfl := Option.some.inj enters
        cases single.trans twice.symm
      · rfl
  · intro key expected next children member
    cases taskGraphWrites_enter member
  · exact .starts command start (fun _ member => member) fun _ member _ => member

private theorem aside_inserting {code : P0RecordCode} {record : SourceRecord}
    (initial : EntersAs ⟨record, []⟩) (joins : inRun record = none)
    (other : isTaskFamily code = false) : Aside (inserting library code record) :=
  ⟨⟨_, rfl, initial, joins⟩, other⟩

private theorem aside_ensuring {code : P0RecordCode} {record : SourceRecord}
    (initial : EntersAs ⟨record, []⟩) (joins : inRun record = none)
    (other : isTaskFamily code = false) : Aside (ensuring library code record) :=
  ⟨⟨_, rfl, initial, joins⟩, other⟩

private theorem transaction_of_ensuring {code : P0RecordCode} {record : SourceRecord}
    (initial : EntersAs ⟨record, []⟩) (joins : inRun record = none)
    (other : isTaskFamily code = false) :
    Transaction library held [ensuring library code record] :=
  transaction_of_aside fun _ member =>
    List.mem_singleton.mp member ▸ aside_ensuring initial joins other

/-- Whatever key is there is found. -/
private theorem exists_found {α κ : Type} [DecidableEq κ] {key : α → κ} {items : List α}
    {wanted : κ} (member : wanted ∈ items.map key) :
    ∃ item, Keyed.lastByKey key items wanted = some item :=
  Option.ne_none_iff_exists'.mp fun absent => Keyed.lastByKey_eq_none.mp absent member

private theorem transaction_of_finalizeRun {command : FinalizeRunCommand}
    (valid : ContractModel.validates command = true)
    (calls : ActiveToolCallsAt held command.expectedActiveRecord.runId [])
    (links : LinksAt held command.expectedActiveRecord.runId
      (command.expectedActiveLinks.map fun link => linkKey link.runId link.taskId)) :
    Transaction library held (finalizeWrites library held command) := by
  have ends := FinalizeRunCommand.ends valid
  refine transaction_of_ending command.expectedActiveRecord command.terminalRecord
    (command.taskTransition.map fun transition =>
      (transition, childrenAt held (taskKey transition.expectedTaskRecord.taskId)))
    ends.sameRun ends.active ends.ended (fun write member => ?_)
      (fun transition history chosen => ?_)
    (fun transition history chosen write member => ?_)
      (fun key call children stored belongs active => ?_)
    (fun key link children stored belongs => ?_)
  · simp only [finalizeWrites, List.mem_append, List.mem_cons, List.mem_flatMap, Option.mem_toList,
      List.mem_filterMap, List.mem_map, Option.map_eq_some_iff] at member
    rcases member with ((⟨transition, chosen, within⟩ | rfl | ⟨link, listed, terminal,
      found, rfl⟩) |
      ⟨message, -, rfl⟩) | ⟨event, -, rfl⟩
    · exact .transition (congrArg (Option.map _) chosen) within
    · exact .run
    · obtain ⟨closing, sameTask⟩ := Keyed.mem_of_lastByKey found
      obtain ⟨closed, -, isLink, closesTask, closesRun, result⟩ := ends.closes terminal closing
      rw [sameTask, Keyed.lastByKey_of_mem ends.distinct listed] at isLink
      obtain rfl := Option.some.inj isLink
      exact .link ⟨closesRun, closesTask⟩ (ends.ofRun link listed).2 result
    · exact .aside (aside_inserting trivial rfl rfl)
    · exact .aside (aside_inserting trivial rfl rfl)
  · obtain ⟨found, isTransition, same⟩ := Option.map_eq_some_iff.mp chosen
    obtain ⟨rfl, -⟩ := Prod.mk.inj same
    exact ApplyTaskTransitionCommand.step (command.transition_valid valid isTransition)
  · obtain ⟨found, isTransition, same⟩ := Option.map_eq_some_iff.mp chosen
    obtain ⟨rfl, rfl⟩ := Prod.mk.inj same
    simp only [finalizeWrites, List.mem_append, List.mem_cons, List.mem_flatMap, Option.mem_toList]
    exact .inl (.inl (.inl ⟨found, isTransition, member⟩))
  · cases calls key call children stored belongs active
  · obtain ⟨expected, listed, rfl⟩ := List.mem_map.mp (links key link children stored belongs)
    obtain ⟨terminal, found⟩ := exists_found (ends.all expected listed)
    have member : linkWrite expected terminal ∈ finalizeWrites library held command := by
      simp only [finalizeWrites, List.mem_append, List.mem_cons, List.mem_filterMap,
        Option.map_eq_some_iff]
      exact .inl (.inl (.inr (.inr ⟨expected, listed, terminal, found, rfl⟩)))
    exact ⟨_, _, member⟩

private theorem head?_of_short {α : Type} {items : List α} {item : α} (short : items.length ≤ 1)
    (member : item ∈ items) :
    items.head? = some item := by
  match items, short with
  | [only], _ => exact congrArg some (List.mem_singleton.mp member).symm

private theorem transaction_of_recovery {command : ApplyRestartRecoveryCommand}
    (valid : ContractModel.validates command = true)
    (calls : ActiveToolCallsAt held command.expectedClosure.activeRunRecord.runId
      (command.toolCallTransitions.map (toolCallKey ·.activeRecord.toolCallId)))
    (links : LinksAt held command.expectedClosure.activeRunRecord.runId
      (command.terminalRunTaskLinks.map fun link => linkKey link.runId link.taskId)) :
    Transaction library held (recoveryWrites library command) := by
  have facts := ApplyRestartRecoveryCommand.recoveryEnds valid
  have ends := facts.ends
  refine transaction_of_ending command.expectedClosure.activeRunRecord
    command.runTransition.incompleteRecord
    (command.taskTransitions.head?.map fun transition =>
      (transition, historyIn command.expectedClosure transition.expectedTaskRecord.taskId))
    ends.sameRun ends.active ends.ended (fun write member => ?_)
      (fun transition history chosen => ?_)
    (fun transition history chosen write member => ?_)
      (fun key call children stored belongs active => ?_)
    (fun key link children stored belongs => ?_)
  · simp only [recoveryWrites, facts.expects, List.mem_append, List.mem_cons, List.mem_flatMap,
      List.mem_filterMap, List.mem_map, Option.map_eq_some_iff] at member
    rcases member with (((rfl | ⟨transition, listed, rfl⟩) | ⟨transition, listed, within⟩) |
      ⟨terminal, listed, link, found, rfl⟩) | ⟨event, -, rfl⟩
    · exact .run
    · exact .call (facts.calls transition listed) (by rw [facts.interrupted transition listed]; rfl)
    · exact .transition (congrArg (Option.map _) (head?_of_short facts.oneTask listed)) within
    · obtain ⟨closed, -, isLink, closesTask, closesRun, result⟩ := ends.closes terminal listed
      obtain rfl := Option.some.inj (found.symm.trans isLink)
      exact .link ⟨closesRun, closesTask⟩
        (ends.ofRun link (Keyed.mem_of_lastByKey found).1).2 result
    · exact .aside (aside_ensuring trivial rfl rfl)
  · obtain ⟨found, isTransition, same⟩ := Option.map_eq_some_iff.mp chosen
    obtain ⟨rfl, -⟩ := Prod.mk.inj same
    exact ApplyTaskTransitionCommand.step (facts.tasks found (List.mem_of_mem_head? isTransition))
  · obtain ⟨found, isTransition, same⟩ := Option.map_eq_some_iff.mp chosen
    obtain ⟨rfl, rfl⟩ := Prod.mk.inj same
    simp only [recoveryWrites, List.mem_append, List.mem_cons, List.mem_flatMap]
    exact .inl (.inl (.inr ⟨found, List.mem_of_mem_head? isTransition, member⟩))
  · obtain ⟨transition, listed, rfl⟩ :=
      List.mem_map.mp (calls key call children stored belongs active)
    have member : replacing (toolCallKey transition.activeRecord.toolCallId)
        (.toolCallRecord transition.activeRecord)
        (.toolCallRecord transition.interruptedRecord)
        (attemptsIn command.expectedClosure transition.activeRecord.toolCallId)
        (attemptsIn command.expectedClosure transition.activeRecord.toolCallId) ∈
            recoveryWrites library command := by
      simp only [recoveryWrites, List.mem_append, List.mem_cons, List.mem_map]
      exact .inl (.inl (.inl (.inr ⟨transition, listed, rfl⟩)))
    exact ⟨_, _, member⟩
  · obtain ⟨terminal, listed, rfl⟩ := List.mem_map.mp (links key link children stored belongs)
    obtain ⟨closed, -, isLink, closesTask, closesRun, -⟩ := ends.closes terminal listed
    have member : linkWrite closed terminal ∈ recoveryWrites library command := by
      simp only [recoveryWrites, List.mem_append, List.mem_cons, List.mem_filterMap,
        Option.map_eq_some_iff]
      exact .inl (.inr ⟨terminal, listed, closed, isLink, rfl⟩)
    rw [closesRun, closesTask]
    exact ⟨_, _, member⟩

/-- What an admitted command writes is a transaction. -/
theorem transaction_of_admits {command : StoreCommand} (valid : command.IsValid)
    (admitted : command.Admits library held) :
    Transaction library held (command.writes library held) := by
  cases command with
  | putToolsetArtifact => exact transaction_of_ensuring trivial rfl rfl
  | saveConversation => exact transaction_of_ensuring trivial rfl rfl
  | appendMessage => exact transaction_of_ensuring trivial rfl rfl
  | saveContextManifest => exact transaction_of_ensuring trivial rfl rfl
  | saveGateDecision => exact transaction_of_ensuring trivial rfl rfl
  | appendTraceEvent => exact transaction_of_ensuring trivial rfl rfl
  | appendEvalResult => exact transaction_of_ensuring trivial rfl rfl
  | appendEvalExecutionFailure => exact transaction_of_ensuring trivial rfl rfl
  | saveObservation => exact transaction_of_ensuring trivial rfl rfl
  | insertRun command => exact transaction_of_ensuring (CreateRunCommand.created valid) rfl rfl
  | startRunIfCreated command =>
    obtain ⟨sameRun, created, running⟩ := TransitionRunCommand.step valid
    refine transaction_of_swap
      (.run sameRun (by rw [created]; rfl) (.inl ⟨created, running⟩)) rfl rfl fun run found => ?_
    obtain rfl := SourceRecord.agentRunRecord.inj found
    rw [running]
    rfl
  | finalizeRunIfActive command => exact transaction_of_finalizeRun valid admitted.1 admitted.2
  | saveRequestUnderstandingV2NoTaskIfCurrent command => exact transaction_of_understanding admitted
  | createInitialTaskGraphV2IfCurrent command =>
    exact transaction_of_taskGraph (CreateInitialTaskGraphV2Command.starts valid) admitted
  | applyTaskTransitionIfCurrent command =>
    exact transaction_of_transition (ApplyTaskTransitionCommand.step valid) _
  | insertToolCall command =>
    exact transaction_of_toolCall (CreateToolCallCommand.created valid) admitted
  | startToolCallIfCreated command =>
    exact transaction_of_swap
      (.toolCall (DispatchToolCallCommand.step valid)) rfl rfl fun run found => by simp at found
  | finalizeToolCallAttemptIfRunning command =>
    exact transaction_of_swap
      (.toolCall (FinalizeToolCallCommand.step valid)) rfl rfl fun run found => by simp at found
  | claimAndApplyRestartRecovery command =>
    exact transaction_of_recovery valid admitted.1 admitted.2

end MiniAgent.Infrastructure
