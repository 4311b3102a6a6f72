import MiniAgent.Infrastructure.StoreRuns

/-! # No update is lost

Every step of a lifecycle raises the rank of its record, so that what has been replaced never comes
back, and a command that expects it changes nothing. Two commands that have read the same record can
therefore not both replace it, whatever comes between them.
-/

namespace MiniAgent.Infrastructure

open MiniAgent.Core MiniAgent.Application KeyedStore

variable {library : ModelLibrary} {table : RecordTable} {held after : Held} {key : RecordKey}
  {entry : Entry}

def runRank : AgentRunStatus → ℕ
  | .created => 0
  | .running => 1
  | _ => 2

def toolCallRank : ToolCallStatus → ℕ
  | .created => 0
  | .running => 1
  | _ => 2

/-- How far a record is in its lifecycle. -/
def Entry.rank (entry : Entry) : ℕ :=
  match entry.record with
  | .agentRunRecord run => runRank run.status
  | .toolCallRecord call => toolCallRank call.status
  | .runTaskLinkRecord link => link.resultTaskStateVersion.isSome.toNat
  | .taskRecord task => task.stateVersion
  | .requestUnitRecord unit => unit.stateVersion
  | _ => 0

private theorem runRank_lt {first second : AgentRunStatus} (active : first.isActive = true)
    (advances : first = .created ∧ second = .running ∨ second.isActive = false) :
    runRank first < runRank second := by
  rcases advances with ⟨rfl, rfl⟩ | ended
  · decide
  · revert active ended
    cases first <;> cases second <;> simp [AgentRunStatus.isActive, runRank]

private theorem toolCallRank_lt {first second : ToolCallStatus} (active : first.isTerminal = false)
    (advances : second = .running ∧ first = .created ∨ second.isTerminal = true) :
    toolCallRank first < toolCallRank second := by
  rcases advances with ⟨rfl, rfl⟩ | ended
  · decide
  · revert active ended
    cases first <;> cases second <;> simp [ToolCallStatus.isTerminal, toolCallRank]

theorem EntryStep.raises {expected next : Entry} (step : EntryStep expected next) :
    expected.rank < next.rank := by
  cases step with
  | run _ active advances => exact runRank_lt active advances
  | toolCall step => exact toolCallRank_lt step.active step.advances
  | @link expected terminal _ opened closed =>
    show expected.resultTaskStateVersion.isSome.toNat < terminal.resultTaskStateVersion.isSome.toNat
    rw [opened, closed]
    decide
  | @task command _ step =>
    show command.expectedTaskRecord.stateVersion < command.nextTaskRecord.stateVersion
    rw [step.bases.1, step.results.1, step.advances]
    omega
  | @unit command step =>
    show command.expectedRequestUnitRecord.stateVersion < command.nextRequestUnitRecord.stateVersion
    rw [step.bases.2, step.results.2, step.advances]
    omega

theorem Transaction.raises {journal : List (Write RecordKey Entry)}
    (transaction : Transaction library held journal) (key : RecordKey) (expected next : Entry)
    (member : .swap key expected next ∈ journal) : expected.rank < next.rank := by
  cases transaction.legal _ member with
  | enters entered => cases entered
  | swaps step => exact step.raises

/-- The record under a key is as it was, or further in its lifecycle. -/
def Advances (held after : Held) : Prop :=
  ∀ key entry, held key = some entry → ∃ later, after key = some later ∧
    (later = entry ∨ entry.rank < later.rank)

theorem Advances.refl : Advances held held := fun _ entry there => ⟨entry, there, .inl rfl⟩

theorem Advances.trans {between : Held} (first : Advances held between)
    (second : Advances between after) :
    Advances held after := by
  intro key entry there
  obtain ⟨middle, found, above⟩ := first key entry there
  obtain ⟨last, final, further⟩ := second key middle found
  refine ⟨last, final, ?_⟩
  rcases above with rfl | less
  · exact further
  · rcases further with rfl | more
    · exact .inr less
    · exact .inr (less.trans more)

private theorem advances_of_step (step : HeldStep library held after) : Advances held after := by
  obtain ⟨journal, transaction, commits⟩ := step.made
  exact fun key entry there => commits.kept_or_above transaction.raises there

private theorem advances_of_steps (steps : Relation.ReflTransGen (HeldStep library) held after) :
    Advances held after := by
  induction steps with
  | refl => exact .refl
  | tail _ step ih => exact ih.trans (advances_of_step step)

private theorem advances_of_calls (laws : StoreLaws library) (calls later : List StoreCall) :
    Advances (contents library (tableAfter library .empty calls))
      (contents library (tableAfter library .empty (calls ++ later))) := by
  rw [tableAfter_append]
  exact advances_of_steps
    (steps_of_calls laws (tableAfter_keeps laws storeInvariant_empty calls) later)

/-- What was there and has been replaced is not there later. -/
def ReplacedForGood (held between after : Held) : Prop :=
  ∀ key entry, held key = some entry → between key ≠ some entry → after key ≠ some entry

private theorem Advances.replacedForGood {between : Held} (first : Advances held between)
    (second : Advances between after) :
    ReplacedForGood held between after := by
  intro key entry there replaced back
  obtain ⟨middle, found, above⟩ := first key entry there
  obtain ⟨last, final, further⟩ := second key middle found
  obtain rfl := Option.some.inj (back.symm.trans final)
  have raised : entry.rank < middle.rank := above.resolve_left fun same => replaced (same ▸ found)
  rcases further with rfl | more
  · exact lt_irrefl _ raised
  · exact lt_asymm raised more

/-- Whatever is executed, a record that is stored is never removed: it stays as it is or is further
in its lifecycle, and once it has been replaced it never comes back. -/
theorem replaced_records_never_return (library : ModelLibrary) (laws : StoreLaws library)
    (calls between later : List StoreCall) :
    Advances (contents library (tableAfter library .empty calls))
        (contents library (tableAfter library .empty (calls ++ between))) ∧
      ReplacedForGood (contents library (tableAfter library .empty calls))
        (contents library (tableAfter library .empty (calls ++ between)))
        (contents library (tableAfter library .empty (calls ++ between ++ later))) := by
  have first := advances_of_calls laws calls between
  exact ⟨first, first.replacedForGood (advances_of_calls laws (calls ++ between) later)⟩

theorem replaced_records_never_return_start :
    Advances (contents storeLibrary (tableAfter storeLibrary .empty storedCalls))
        (contents storeLibrary (tableAfter storeLibrary .empty (storedCalls ++ [startCall]))) ∧
      ReplacedForGood (contents storeLibrary (tableAfter storeLibrary .empty storedCalls))
        (contents storeLibrary (tableAfter storeLibrary .empty (storedCalls ++ [startCall])))
        (contents storeLibrary
          (tableAfter storeLibrary .empty (storedCalls ++ [startCall] ++ storedCalls))) :=
  replaced_records_never_return storeLibrary storeLibrary_storeLaws storedCalls
    [startCall] storedCalls

variable (library) in
/-- The command replaces the record that it expects under a key. -/
def ReplacesAt (table : RecordTable) (command : StoreCommand) (key : RecordKey)
    (expected : Entry) : Prop :=
  ∃ next, .swap key expected next ∈ command.writes library (contents library table)

variable (library) in
/-- The call has been executed, and its answer does not decline. -/
def Applies (table : RecordTable) (call : StoreCall) : Prop :=
  ∃ answer, (call.command.execute library call.stamps table).2 = .ok answer ∧
    answer.declines = false

/-- Where a call that replaces a record is applied, the record is further afterwards. -/
private theorem raised_of_applies (laws : StoreLaws library)
    (invariant : StoreInvariant library table) {call : StoreCall}
    (applies : Applies library table call)
    (replaces : ReplacesAt library table call.command key entry) :
    ∃ later, contents library (tableAfter library table [call]) key = some later ∧
    entry.rank < later.rank := by
  obtain ⟨answer, told, applied⟩ := applies
  obtain ⟨next, member⟩ := replaces
  rcases execute_executed call.stamps laws invariant call.valid with ⟨_, -, -, executed⟩
    | ⟨-, declines⟩
  · cases executed.performs with
    | makes journal admitted all effects =>
      exact effects.commits.expected_lt
        ((transaction_of_admits call.valid admitted).perm all).raises (all.mem_iff.mpr member)
    | finds _ _ there => cases (there _ member).1
  · cases applied.symm.trans (declines answer told)

/-- Where the record that a call replaces is further than it expects, the call changes nothing, and
says so. -/
private theorem declines_of_raised (laws : StoreLaws library)
    (invariant : StoreInvariant library table) {call : StoreCall} {later : Entry}
    (found : contents library table key = some later) (above : entry.rank < later.rank)
    (replaces : ReplacesAt library table call.command key entry) :
    tableAfter library table [call] = table ∧ ¬Applies library table call := by
  obtain ⟨next, member⟩ := replaces
  rcases execute_executed call.stamps laws invariant call.valid with ⟨_, -, -, executed⟩
    | ⟨same, declines⟩
  · cases executed.performs with
    | makes journal admitted all effects =>
      have transaction := (transaction_of_admits call.valid admitted).perm all
      have notBelow := effects.commits.le_expected transaction.raises found (all.mem_iff.mpr member)
      exact absurd above (not_lt.mpr notBelow)
    | finds _ _ there => cases (there _ member).1
  · refine ⟨same, fun ⟨answer, told, applied⟩ => ?_⟩
    cases applied.symm.trans (declines answer told)

/-- Of two calls that replace the same record at most the first is applied, whatever is executed
before, between and by whom: then the second changes nothing, and its answer does not say that it is
applied. -/
theorem no_update_is_lost (library : ModelLibrary) (laws : StoreLaws library)
    (calls between : List StoreCall) (first second : StoreCall) (key : RecordKey) (expected : Entry)
    (replaces : ReplacesAt library (tableAfter library .empty calls) first.command key expected)
    (again : ReplacesAt library (tableAfter library .empty (calls ++ first :: between))
      second.command key expected) :
    ¬Applies library (tableAfter library .empty calls) first ∨
      tableAfter library .empty (calls ++ first :: between ++ [second]) =
          tableAfter library .empty (calls ++ first :: between) ∧
        ¬Applies library (tableAfter library .empty (calls ++ first :: between)) second := by
  refine or_iff_not_imp_left.mpr fun applied => ?_
  have invariant := fun calls => tableAfter_keeps laws storeInvariant_empty calls
  obtain ⟨middle, found, raised⟩ :=
    raised_of_applies laws (invariant calls) (not_not.mp applied) replaces
  rw [← tableAfter_append] at found
  obtain ⟨later, there, further⟩ :=
    advances_of_calls laws (calls ++ [first]) between key middle found
  rw [List.append_assoc, List.singleton_append] at there
  have above : expected.rank < later.rank := by
    rcases further with rfl | more
    · exact raised
    · exact raised.trans more
  rw [tableAfter_append (calls ++ first :: between) [second]]
  exact declines_of_raised laws (invariant (calls ++ first :: between)) there above again

/-- Of two calls that start the same Run at most one is applied. -/
theorem no_update_is_lost_start :
    ¬Applies storeLibrary (tableAfter storeLibrary .empty storedCalls) startCall ∨
      tableAfter storeLibrary .empty (storedCalls ++ startCall :: storedCalls ++ [startCall]) =
          tableAfter storeLibrary .empty (storedCalls ++ startCall :: storedCalls) ∧
        ¬Applies storeLibrary
        (tableAfter storeLibrary .empty (storedCalls ++ startCall :: storedCalls)) startCall :=
  no_update_is_lost storeLibrary storeLibrary_storeLaws storedCalls storedCalls startCall startCall
    (runKey 1)
    ⟨.agentRunRecord storedRun, []⟩ ⟨_, List.mem_singleton_self _⟩ ⟨_, List.mem_singleton_self _⟩

end MiniAgent.Infrastructure
