import MiniAgent.Infrastructure.RunOwners
import MiniAgent.Infrastructure.WriteEffects

/-! # What a recovery does

A recovery loads the closure of a Run and replaces all of it that is active. It has seen all that
belongs to the Run, since that has the owner of the Run.
-/

namespace MiniAgent.Infrastructure

open MiniAgent.Core MiniAgent.Application KeyedStore

variable {library : ModelLibrary} {table written : RecordTable} {stamps : ℕ → RowStamp}

/-- Whenever a replacement goes through, it has made these writes. -/
def Makes (library : ModelLibrary) (replace : RecordTable → Codec (Option RecordTable))
    (writes : List (Write RecordKey Entry)) : Prop :=
  ∀ table written, Sound library table → replace table = .ok (some written) →
    Effects library table written writes

private theorem makes_replaceRecord (laws : StoreLaws library) {code : P0RecordCode}
    {identity : Json} {expected next : SourceRecord} {children nextChildren : List SourceRecord}
    (sameKey : replacedKey next = some (code, identity.norm)) :
    Makes library (replaceRecord library code identity expected next children nextChildren)
      [replacing (code, identity.norm) expected next children nextChildren] := by
  intro table written sound success
  unfold replaceRecord at success
  split at success
  · cases Except.ok.inj success
  · next row found =>
    have key := key_of_rowForIdentity found
    obtain ⟨envelope, encoded, replaced⟩ := Except.bind_eq_ok_iff.mp success
    have effects := effects_replaceRowEnvelope laws sound encoded (key ▸ sameKey) replaced
    rwa [key] at effects

private theorem makes_replaceEach {replaces : List (RecordTable → Codec (Option RecordTable))}
    {writes : List (List (Write RecordKey Entry))}
    (each : List.Forall₂ (Makes library) replaces writes) :
    Makes library (replaceEach replaces) writes.flatten := by
  intro table written sound success
  induction each generalizing table with
  | nil =>
    rw [replaceEach, Except.pure_eq_ok_iff, Option.some.injEq] at success
    exact success ▸ .refl sound
  | cons makes _ ih =>
    rw [replaceEach, Except.bind_eq_ok_iff] at success
    obtain ⟨outcome, replaced, success⟩ := success
    cases outcome with
    | none => cases Except.ok.inj success
    | some middle =>
      have first := makes table middle sound replaced
      rw [List.flatten_cons]
      exact first.append (ih middle first.sound success)

variable {current : RestartRecoveryClosure}

private theorem makes_replaceToolCall (laws : StoreLaws library)
    {transition : InterruptToolCallForRecoveryCommand}
    (steps : ToolCallStep transition.activeRecord transition.interruptedRecord) :
    Makes library (replaceToolCall library current transition)
      [replacing (toolCallKey transition.activeRecord.toolCallId)
        (.toolCallRecord transition.activeRecord)
        (.toolCallRecord transition.interruptedRecord)
        (attemptsIn current transition.activeRecord.toolCallId)
        (attemptsIn current transition.activeRecord.toolCallId)] := by
  intro table written sound success
  simp only [replaceToolCall, Except.bind_eq_ok_iff, requireKey_eq_ok] at success
  obtain ⟨aggregate, found, replaced⟩ := success
  rw [attemptsIn, found]
  exact makes_replaceRecord laws
    (by rw [replacedKey, steps.sameCall]; rfl) table written sound replaced

private theorem makes_replaceTask (laws : StoreLaws library)
    {transition : ApplyTaskTransitionCommand} (steps : TaskStep transition) :
    Makes library (replaceTask library current transition)
      (transitionWrites (historyIn current transition.expectedTaskRecord.taskId) transition) := by
  intro table written sound success
  simp only [replaceTask, Except.bind_eq_ok_iff, requireKey_eq_ok] at success
  obtain ⟨aggregate, found, success⟩ := success
  split_ifs at success
  · cases Except.ok.inj success
  · rw [historyIn, found]
    exact makes_replaceEach
      (.cons (makes_replaceRecord laws (by rw [replacedKey, steps.sameTask]; rfl))
      (.cons (makes_replaceRecord laws (by rw [replacedKey, steps.sameUnit]; rfl)) .nil)) table
        written sound success

private theorem makes_replaceLink (laws : StoreLaws library) {terminal : RunTaskLinkRecord}
    (same : ∀ expected,
      Keyed.lastByKey (·.taskId) current.runTaskLinks terminal.taskId = some expected →
      terminal.runId = expected.runId ∧ terminal.taskId = expected.taskId) :
    Makes library (replaceLink library current terminal)
      ((Keyed.lastByKey (·.taskId) current.runTaskLinks terminal.taskId).map fun expected =>
        linkWrite expected terminal).toList := by
  intro table written sound success
  simp only [replaceLink, Except.bind_eq_ok_iff, requireKey_eq_ok] at success
  obtain ⟨expected, found, replaced⟩ := success
  obtain ⟨sameRun, sameTask⟩ := same expected found
  rw [found]
  exact makes_replaceRecord laws
    (by rw [replacedKey, sameRun, sameTask]; rfl) table written sound replaced

/-- The events of a recovery are entered one after the other. -/
private theorem effects_recoveryTrace (laws : StoreLaws library) (sound : Sound library table)
    {events : List TraceEvent}
    (success : persistRecoveryTrace library stamps table events = .ok written) :
    Effects library table written
    (events.map fun event => ensuring library .traceEventRecord (.traceEvent event)) := by
  unfold persistRecoveryTrace at success
  generalize 0 = start at success
  induction events generalizing table start with
  | nil =>
    obtain rfl := Except.pure_eq_ok_iff.mp success
    exact .refl sound
  | cons event rest ih =>
    rw [List.zipIdx_cons, List.foldlM_cons, Except.bind_eq_ok_iff] at success
    obtain ⟨middle, first, later⟩ := success
    simp only [appendTraceEvent, Except.bind_eq_ok_iff, Except.pure_eq_ok_iff, Prod.exists,
      Prod.mk.injEq] at first
    obtain ⟨_, _, ⟨envelope, encoded, _, _, persisted, rfl, -⟩, rfl⟩ := first
    have here := effects_ensuring laws sound encoded persisted
    exact here.append (ih here.sound _ later)

/-- What is loaded for an update was loaded. -/
private theorem load_of_loadForUpdate {runId : Uuid}
    (success : loadClosureForUpdate library table runId = .ok (some current)) :
    ∃ wanted, loadClosureInTransaction library table wanted = .ok (some current) := by
  simp only [loadClosureForUpdate, Except.bind_eq_ok_iff] at success
  obtain ⟨first, loaded, success⟩ := success
  cases first with
  | none => cases Except.ok.inj success
  | some closure =>
    obtain ⟨reread, again, success⟩ := Except.bind_eq_ok_iff.mp success
    split_ifs at success
    · obtain rfl := Option.some.inj (Except.pure_eq_ok_iff.mp success)
      exact ⟨_, loaded⟩
    · obtain rfl := Except.pure_eq_ok_iff.mp success
      exact ⟨_, again⟩

/-- A Run that is loaded is loaded with all that belongs to it. -/
private theorem admits_of_load (laws : StoreLaws library) (sound : Sound library table)
    (owned : OwnedWithRuns library table) {wanted : Option Uuid}
    (loaded : loadClosureInTransaction library table wanted = .ok (some current)) :
    ActiveToolCallsAt (contents library table) current.activeRunRecord.runId
        (current.toolCallAggregates.map (toolCallKey ·.toolCallRecord.toolCallId)) ∧
      LinksAt (contents library table) current.activeRunRecord.runId
        (current.runTaskLinks.map fun link => linkKey link.runId link.taskId) := by
  obtain ⟨runRow, owner, rows, -, scope, holds, complete⟩ := rows_of_load loaded
  have keyOf : ∀ {row : table.Row} {record children key},
      ReadsAs library table owner row record children →
      replacedKey record = some key → row.1.key = key := by
    rintro row record children key ⟨decoded, valid, rfl, rfl⟩ same
    obtain ⟨entry, soundRow⟩ := sound row.1 row.2
    obtain rfl := Option.some.inj (soundRow.reads.symm.trans (readEntry_of_valid valid))
    exact soundRow.key_of_replacedKey laws same
  obtain ⟨_, runReads⟩ := holds.run
  have runAt : runRow.1.key = runKey current.activeRunRecord.runId := keyOf runReads rfl
  -- what belongs to the Run is in the scope that was loaded
  have inScope : ∀ (row : table.Row) entry, contents library table row.1.key = some entry →
      ofRun entry.record = some current.activeRunRecord.runId →
      row.1.scopeOwnerCustomerId = some owner := by
    intro row entry held belongs
    obtain ⟨runOwner, ofTheRun, ofTheRow⟩ := owned _ _ _ held belongs
    have runOwned : table.ownerAt (runKey current.activeRunRecord.runId) = some (some owner) :=
      ownerAt_eq_some.mpr ⟨runRow.1, runRow.2, runAt, scope⟩
    obtain rfl := Option.some.inj (runOwned.symm.trans ofTheRun)
    obtain ⟨other, member, sameKey, same⟩ := ownerAt_eq_some.mp ofTheRow
    rwa [List.inj_on_of_nodup_map table.uniqueIdentities member row.2 sameKey] at same
  constructor
  · intro key call children held belongs active
    obtain ⟨row, present, rfl, isCall, column, activeRow⟩ := exists_activeToolCall sound held active
    have listed :=
      (complete.toolCalls.all ⟨row, present⟩).mpr ⟨isCall, ⟨belongs ▸ column, activeRow⟩,
        inScope ⟨row, present⟩ _ held (congrArg some belongs)⟩
    obtain ⟨aggregate, member, reads⟩ := Keyed.exists_of_forall₂_left holds.toolCalls listed
    rw [show row.key = _ from keyOf reads rfl]
    exact List.mem_map_of_mem (f := fun aggregate : ToolCallRecoveryAggregate =>
      toolCallKey aggregate.toolCallRecord.toolCallId) member
  · intro key link children held belongs
    obtain ⟨row, present, rfl, isLink, column⟩ := exists_linkRow sound held
    have listed := (complete.runLinks.all ⟨row, present⟩).mpr ⟨isLink, belongs ▸ column,
      inScope ⟨row, present⟩ _ held (congrArg some belongs)⟩
    obtain ⟨record, member, _, reads⟩ := Keyed.exists_of_forall₂_left holds.runLinks listed
    rw [show row.key = _ from keyOf reads rfl]
    exact List.mem_map_of_mem
      (f := fun link : RunTaskLinkRecord => linkKey link.runId link.taskId) member

/-- The writes of each replacement of a recovery. -/
def replacementWrites (command : ApplyRestartRecoveryCommand) :
    List (List (Write RecordKey Entry)) :=
  let closure := command.expectedClosure
  [replacing (runKey closure.activeRunRecord.runId)
    (.agentRunRecord command.runTransition.expectedActiveRecord)
      (.agentRunRecord command.runTransition.incompleteRecord)] ::
    (command.toolCallTransitions.map fun transition =>
      [replacing (toolCallKey transition.activeRecord.toolCallId)
        (.toolCallRecord transition.activeRecord)
        (.toolCallRecord transition.interruptedRecord)
          (attemptsIn closure transition.activeRecord.toolCallId)
        (attemptsIn closure transition.activeRecord.toolCallId)]) ++
    (command.taskTransitions.map fun transition =>
      transitionWrites (historyIn closure transition.expectedTaskRecord.taskId) transition) ++
    (command.terminalRunTaskLinks.map fun terminal =>
      ((Keyed.lastByKey (·.taskId) closure.runTaskLinks terminal.taskId).map fun expected =>
        linkWrite expected terminal).toList)

private theorem makes_replacements (laws : StoreLaws library)
    {command : ApplyRestartRecoveryCommand}
    (facts : ApplyRestartRecoveryCommand.RecoveryEnds command) :
    List.Forall₂ (Makes library) (replacements library command.expectedClosure command)
    (replacementWrites command) := by
  have run : Makes library (replaceRun library command.expectedClosure command.runTransition)
      [replacing (runKey command.expectedClosure.activeRunRecord.runId)
        (.agentRunRecord command.runTransition.expectedActiveRecord)
        (.agentRunRecord command.runTransition.incompleteRecord)] :=
    makes_replaceRecord laws (by rw [replacedKey, facts.ends.sameRun]; rfl)
  refine List.rel_append (List.rel_append (.cons run ?_) ?_) ?_
  · rw [List.forall₂_map_left_iff, List.forall₂_map_right_iff, List.forall₂_same]
    exact fun transition member => makes_replaceToolCall laws (facts.calls transition member)
  · rw [List.forall₂_map_left_iff, List.forall₂_map_right_iff, List.forall₂_same]
    exact fun transition member =>
      makes_replaceTask laws (ApplyTaskTransitionCommand.step (facts.tasks transition member))
  · rw [List.forall₂_map_left_iff, List.forall₂_map_right_iff, List.forall₂_same]
    intro terminal member
    obtain ⟨link, -, found, sameTask, sameRun, -⟩ := facts.ends.closes terminal member
    refine makes_replaceLink laws fun expected isExpected => ?_
    obtain rfl := Option.some.inj (found.symm.trans isExpected)
    exact ⟨sameRun, sameTask⟩

private theorem flatten_replacementWrites (command : ApplyRestartRecoveryCommand) :
    recoveryWrites library command =
    (replacementWrites command).flatten ++
      command.recoveryTraceEvents.map fun event =>
      ensuring library .traceEventRecord (.traceEvent event) := by
  have singles : ∀ {α : Type} (items : List α) (write : α → Write RecordKey Entry),
      (items.map fun item => [write item]).flatten = items.map write := by
    intro α items write
    induction items with
    | nil => rfl
    | cons item rest ih => rw [List.map_cons, List.flatten_cons, ih]; rfl
  have options : ∀ {α : Type} (items : List α) (write : α → Option (Write RecordKey Entry)),
      (items.map fun item => (write item).toList).flatten = items.filterMap write := by
    intro α items write
    induction items with
    | nil => rfl
    | cons item rest ih => cases found : write item <;> simp [found, ih]
  simp only [recoveryWrites, replacementWrites, List.flatten_append, List.flatten_cons, singles,
    options, List.flatMap_def]
  rfl

theorem performs_recovery (laws : StoreLaws library) (sound : Sound library table)
    (owned : OwnedWithRuns library table) {command : ApplyRestartRecoveryCommand}
    (valid : ContractModel.validates command = true)
    (success : applyRecoveryInTransaction library stamps table command = .ok (written, .applied)) :
    (StoreCommand.claimAndApplyRestartRecovery command).Performs library table written := by
  have facts := ApplyRestartRecoveryCommand.recoveryEnds valid
  unfold applyRecoveryInTransaction at success
  obtain ⟨loaded, forUpdate, success⟩ := Except.bind_eq_ok_iff.mp success
  cases loaded with
  | none => cases Except.ok.inj success
  | some current =>
    dsimp only at success
    split_ifs at success with differs acting
    · cases Except.ok.inj success
    · cases Except.ok.inj success
    · rw [ne_eq, Decidable.not_not] at differs
      subst differs
      obtain ⟨outcome, replaced, success⟩ := Except.bind_eq_ok_iff.mp success
      cases outcome with
      | none => cases Except.ok.inj success
      | some middle =>
        obtain ⟨final, traced, same⟩ := Except.bind_eq_ok_iff.mp success
        obtain ⟨rfl, -⟩ := Prod.mk.inj (Except.pure_eq_ok_iff.mp same)
        obtain ⟨_, wasLoaded⟩ := load_of_loadForUpdate forUpdate
        obtain ⟨calls, links⟩ := admits_of_load laws sound owned wasLoaded
        have makes : List.Forall₂ (Makes library)
            (replacements library command.expectedClosure command)
            (replacementWrites command) := makes_replacements laws facts
        have effects := makes_replaceEach makes table middle sound replaced
        refine .makes _ ⟨?_, ?_⟩ (List.Perm.of_eq ?_)
          (effects.append (effects_recoveryTrace laws effects.sound traced))
        · intro key call children held belongs active
          obtain ⟨aggregate, member, rfl⟩ :=
            List.mem_map.mp (calls key call children held belongs active)
          obtain ⟨transition, listed, same⟩ := List.mem_map.mp (facts.allCalls aggregate member)
          exact List.mem_map.mpr ⟨transition, listed, congrArg toolCallKey same⟩
        · intro key link children held belongs
          obtain ⟨expected, member, rfl⟩ := List.mem_map.mp (links key link children held belongs)
          obtain ⟨terminal, listed, same⟩ := List.mem_map.mp (facts.ends.all expected member)
          obtain ⟨closed, present, -, sameTask, sameRun, -⟩ := facts.ends.closes terminal listed
          refine List.mem_map.mpr ⟨terminal, listed, ?_⟩
          rw [sameRun, (facts.ends.ofRun closed present).1,
            ← (facts.ends.ofRun expected member).1, same]
        · exact (flatten_replacementWrites command).symm

end MiniAgent.Infrastructure
