import MiniAgent.Infrastructure.GraphEffects
import MiniAgent.Infrastructure.RecoveryEffects
import MiniAgent.Infrastructure.StoreTransactions

/-! # The record store refines a keyed store

Executing a command does all of it or nothing, and the answer tells which: where the command is
applied, its writes are made to what the table holds, and nothing else changes. This needs that the
table is sound and that what belongs to a Run has the owner of the Run, which every command keeps.
-/

namespace MiniAgent.Infrastructure

open MiniAgent.Core MiniAgent.Application KeyedStore

variable {library : ModelLibrary} {table written : RecordTable} {stamps : ℕ → RowStamp}
  {command : StoreCommand}
  {journal : List (Write RecordKey Entry)}

variable (library) in
/-- What every command keeps of a table. -/
structure StoreInvariant (table : RecordTable) : Prop where
  sound : Sound library table
  owned : OwnedWithRuns library table

theorem storeInvariant_empty : StoreInvariant library .empty := by
  constructor
  · exact fun row member => absurd member List.not_mem_nil
  · intro key entry runId held
    obtain ⟨row, member, -⟩ := contents_eq_some.mp held
    exact absurd member List.not_mem_nil

private theorem EntryStep.ofRun_eq {expected next : Entry} (step : EntryStep expected next) :
    ofRun next.record = ofRun expected.record := by
  cases step with
  | run => rfl
  | toolCall step => exact congrArg some step.sameRun
  | link same => exact congrArg some same.1
  | task => rfl
  | unit => rfl

/-- The owner of what belongs to a Run is kept where what is entered has it. -/
private theorem owned_of_effects (owned : OwnedWithRuns library table)
    (effects : Effects library table written journal) (legal : ∀ write ∈ journal, LegalWrite write)
    (enters : ∀ write ∈ journal, ∀ entry runId, write.entered = some entry →
      ofRun entry.record = some runId →
      OwnedLikeRun written write.key runId) : OwnedWithRuns library written := by
  have each := effects.commits.forall_of_each
    (fun key entry => ∀ runId, ofRun entry.record = some runId → OwnedLikeRun written key runId)
    (fun key entry held runId belongs => ?_)
      (fun write member entry entered runId => enters write member entry runId entered)
    (fun key expected next member holds runId belongs => ?_)
  · exact fun key entry runId held => each key entry held runId
  · obtain ⟨owner, ofTheRun, ofTheRow⟩ := owned key entry runId held belongs
    exact ⟨owner, effects.ownerAt_eq ofTheRun, effects.ownerAt_eq ofTheRow⟩
  · cases legal _ member with
    | enters entered => cases entered
    | swaps step => exact holds runId (step.ofRun_eq ▸ belongs)

private theorem inRun_of_ofRun {record : SourceRecord} {runId : Uuid}
    (belongs : ofRun record = some runId) :
    inRun record = some runId := by
  cases record <;> simp only [ofRun, reduceCtorEq] at belongs
  all_goals exact belongs

/-- Where a command enters nothing that belongs to a Run, owners are kept. -/
private theorem owned_of_performs (owned : OwnedWithRuns library table) (valid : command.IsValid)
    (aside : ∀ held, command.Admits library held → ∀ write ∈ command.writes library held, ∀ entry,
      write.entered = some entry → ofRun entry.record = none)
    (performs : command.Performs library table written) : OwnedWithRuns library written := by
  cases performs with
  | finds _ same => exact same ▸ owned
  | makes journal admitted all effects =>
    have transaction := (transaction_of_admits valid admitted).perm all
    refine owned_of_effects owned effects transaction.legal fun write member entry runId entered
      belongs => ?_
    rw [aside _ admitted write (all.mem_iff.mp member) entry entered] at belongs
    cases belongs

/-- What is entered at the end of a Run belongs to no Run. -/
private theorem ofRun_of_ending {held : Held} {writes : List (Write RecordKey Entry)}
    (transaction : Transaction library held writes) {key : RecordKey} {expected : Entry}
    {terminal : AgentRunRecord} {children : List SourceRecord}
    (ends : .swap key expected ⟨.agentRunRecord terminal, children⟩ ∈ writes)
    (ended : terminal.status.isActive = false) {write : Write RecordKey Entry}
    (member : write ∈ writes) {entry : Entry} (entered : write.entered = some entry) :
    ofRun entry.record = none := by
  have joins :=
    (transaction.ends key expected terminal children ends ended).closed write member entry entered
  cases belongs : ofRun entry.record with
  | none => rfl
  | some runId => cases joins.symm.trans (inRun_of_ofRun belongs)

private theorem ofRun_of_singleton {code : P0RecordCode} {record : SourceRecord}
    (none_ : ofRun record = none) {write : Write RecordKey Entry}
    (member : write ∈ [ensuring library code record]) {entry : Entry}
    (entered : write.entered = some entry) : ofRun entry.record = none := by
  obtain rfl := List.mem_singleton.mp member
  obtain rfl := Option.some.inj entered
  exact none_

variable (library) in
/-- A command that has been executed, with the owners kept. -/
structure StoreCommand.Executed (command : StoreCommand) (table written : RecordTable) : Prop where
  performs : command.Performs library table written
  owned : OwnedWithRuns library written

/-- The answer tells what was done: all, or nothing. -/
def AllOrNothing (done : RecordTable → Prop) (table : RecordTable)
    (outcome : RecordTable × Codec StoreAnswer) : Prop :=
  (∃ answer, outcome.2 = .ok answer ∧ answer.declines = false ∧ done outcome.1) ∨
    outcome.1 = table ∧ ∀ answer, outcome.2 = .ok answer → answer.declines = true

private theorem allOrNothing_of_transaction {α : Type} {answer : α → StoreAnswer}
    {outcome : Codec (RecordTable × α)} {done : RecordTable → Prop}
    (spec : ∀ written result, outcome = .ok (written, result) →
      if (answer result).declines then written = table else done written) :
    AllOrNothing done table (inTransaction table answer outcome) := by
  cases outcome with
  | error failure => exact .inr ⟨rfl, fun answer told => nomatch told⟩
  | ok pair =>
    obtain ⟨written, result⟩ := pair
    have facts := spec written result rfl
    cases declined : (answer result).declines with
    | true =>
      rw [declined, if_pos rfl] at facts
      exact .inr ⟨facts, fun told same => Except.ok.inj same ▸ declined⟩
    | false =>
      rw [declined, if_neg Bool.false_ne_true] at facts
      exact .inl ⟨_, rfl, declined, facts⟩

private theorem executed_of_effects (invariant : StoreInvariant library table)
    (valid : command.IsValid) (admitted : command.Admits library (contents library table))
    (aside : ∀ held, ∀ write ∈ command.writes library held, ∀ entry, write.entered = some entry →
      ofRun entry.record = none)
    (effects : Effects library table written (command.writes library (contents library table))) :
    command.Executed library table written := by
  have performs : command.Performs library table written := .makes _ admitted (.refl _) effects
  exact ⟨performs, owned_of_performs invariant.owned valid (fun held _ => aside held) performs⟩

/-- A write of Request Understanding makes its writes, or finds them made. -/
private theorem performs_of_understanding {run : AgentRunRecord} {only : RecordKey}
    {links : List RecordKey} {writes : List (Write RecordKey Entry)}
    (spec : UnderstandingWrite library table written run only links writes)
    (understanding : command.writesUnderstanding = true)
    (same : command.writes library (contents library table) = writes)
    (enters : ∀ write ∈ writes, write.entered = some write.value)
    (admitted : command.Admits library (contents library table)) :
    command.Performs library table written := by
  rcases spec.makes with ⟨⟨journal, all, effects⟩, -⟩ | ⟨unchanged, there⟩
  · exact .makes journal admitted (same ▸ all) effects
  · exact .finds understanding unchanged
      (same ▸ fun write member => ⟨enters write member, there write member⟩)

section Ports

variable (laws : StoreLaws library) (invariant : StoreInvariant library table)
include laws invariant

/-- A port that enters one record, and answers that it has. -/
private theorem executed_of_ensuring {code : P0RecordCode} {record : SourceRecord}
    {externals : List P0RecordReference} {envelope : P0PersistenceEnvelope} {inserted : List Bool}
    (valid : command.IsValid)
    (writes : ∀ held, command.writes library held = [ensuring library code record])
    (admits : ∀ held, command.Admits library held) (none_ : ofRun record = none)
    (encoded : encodePersistenceRecord library code record externals = .ok envelope)
    (success : persistEnvelopes library stamps table [envelope] = .ok (written, inserted)) :
    command.Executed library table written := by
  refine executed_of_effects invariant valid (admits _)
    (fun held write member entry entered => ?_) ?_
  · rw [writes held] at member
    exact ofRun_of_singleton none_ member entered
  · rw [writes]
    exact effects_ensuring laws invariant.sound encoded success

private theorem executed_of_persistRecord {code : P0RecordCode} {record : SourceRecord}
    (valid : command.IsValid)
    (writes : ∀ held, command.writes library held = [ensuring library code record])
    (admits : ∀ held, command.Admits library held) (none_ : ofRun record = none) :
    AllOrNothing (command.Executed library table) table
      (inTransaction table (fun _ => .done) (persistRecord library stamps table code record)) := by
  refine allOrNothing_of_transaction fun written result success => ?_
  simp only [persistRecord, Except.bind_eq_ok_iff, Except.pure_eq_ok_iff, Prod.exists,
    Prod.mk.injEq] at success
  obtain ⟨envelope, encoded, _, inserted, persisted, rfl, -⟩ := success
  exact executed_of_ensuring laws invariant valid writes admits none_ encoded persisted

/-- A ToolCall is entered with the owner of its Run. -/
private theorem owned_of_toolCall {call : ToolCallRecord} {envelope : P0PersistenceEnvelope}
    {inserted : List Bool}
    (encoded : encodePersistenceRecord library .toolCallRecord (.toolCallRecord call) =
      .ok envelope)
    (success : persistEnvelopes library stamps table [envelope] = .ok (written, inserted)) :
    OwnedWithRuns library written := by
  have effects := effects_ensuring laws invariant.sound encoded success
  obtain ⟨sameCode, encodes⟩ := encodes_of_encode laws encoded
  intro key entry runId held belongs
  rcases effects.commits.origin held with before | ⟨write, member, sameKey, sameValue⟩
  · obtain ⟨owner, ofTheRun, ofTheRow⟩ := invariant.owned key entry runId before belongs
    exact ⟨owner, effects.ownerAt_eq ofTheRun, effects.ownerAt_eq ofTheRow⟩
  · obtain rfl := List.mem_singleton.mp member
    obtain ⟨persisted, entered, linked, rows, spec, -⟩ := persistEnvelopes_eq_ok success
    have given := spec.first.given
    rw [show orderedEnvelopes [envelope] = [(envelope, 0)] from rfl] at given
    obtain ⟨only, rest, rfl, same, -⟩ := List.map_eq_cons_iff.mp given
    have listed : only ∈ only :: rest := List.mem_cons_self
    obtain ⟨row, settled⟩ := spec.settled_of_mem laws.texts listed
    obtain ⟨decoded, valid⟩ := settled.valid
    have rowKey : row.1.key = key := by
      rw [settled.holds.1, (Prod.mk.inj same).1, encodes.recordKey_eq, sameCode]
      exact sameKey
    have stored := contents_of_valid valid
    rw [rowKey, held] at stored
    obtain rfl := Option.some.inj stored
    exact rowKey ▸ ownedLikeRun_of_valid laws effects.sound valid belongs

private theorem executed_insertToolCall {command : CreateToolCallCommand}
    {result : InsertOnlyWriteResult}
    (success : insertToolCall library stamps table command = .ok (written, result)) :
    (StoreCommand.insertToolCall command).Executed library table written := by
  simp only [insertToolCall, Except.bind_eq_ok_iff, orIntegrity_eq_ok, requireIntegrity_eq_ok_iff,
    Prod.exists, Except.pure_eq_ok_iff, Prod.mk.injEq] at success
  obtain ⟨envelope, encoded, runRow, found, decoded, valid, -, isRunning, _, inserted, persisted,
    rfl, -⟩ := success
  have running : RunStandsRunning (contents library table) command.createdRecord.runId := by
    have stored := contents_of_valid valid
    rw [key_of_rowForIdentity found, entryOf] at stored
    split at isRunning
    · next run isRun =>
      rw [isRun] at stored
      simp only [Bool.and_eq_true, beq_iff_eq] at isRunning
      exact ⟨run, _, stored, isRunning.2⟩
    · cases isRunning
  exact ⟨.makes _ running (.refl _) (effects_ensuring laws invariant.sound encoded persisted),
    owned_of_toolCall laws invariant encoded persisted⟩

private theorem executed_saveObservation {command : SaveObservationCommand}
    {result : ObservationWriteResult} (valid : ContractModel.validates command = true)
    (success : saveObservation library stamps table command = .ok (written, result)) :
    if result = .sourceProjectionConflict then written = table
    else (StoreCommand.saveObservation command).Executed library table written := by
  obtain ⟨envelope, encoded, success⟩ := Except.bind_eq_ok_iff.mp success
  simp only [observationEnvelope, Except.bind_eq_ok_iff] at encoded
  obtain ⟨references, -, encoded⟩ := encoded
  split at success
  · obtain ⟨rfl, rfl⟩ := Prod.mk.inj (Except.pure_eq_ok_iff.mp success)
    rw [if_pos rfl]
  · obtain ⟨decoded, -, success⟩ := Except.bind_eq_ok_iff.mp success
    split_ifs at success
    · obtain ⟨rfl, rfl⟩ := Prod.mk.inj (Except.pure_eq_ok_iff.mp success)
      rw [if_pos rfl]
    · obtain ⟨⟨final, inserted⟩, persisted, success⟩ := Except.bind_eq_ok_iff.mp success
      obtain ⟨rfl, rfl⟩ := Prod.mk.inj (Except.pure_eq_ok_iff.mp success)
      rw [if_neg (by split_ifs <;> simp)]
      exact executed_of_ensuring laws invariant valid (fun _ => rfl)
        (fun _ => trivial) rfl encoded persisted

/-- A port that replaces one row. -/
private theorem executed_replaceIfCurrent (command : StoreCommand) {code : P0RecordCode}
    {identity : Json} {expected next : SourceRecord} {children nextChildren : List SourceRecord}
    {result : ConditionalWriteResult} (valid : command.IsValid)
    (writes : ∀ held, command.writes library held =
      [replacing (code, identity.norm) expected next children nextChildren])
    (admits : ∀ held, command.Admits library held)
    (sameKey : replacedKey next = some (code, identity.norm))
    (success : replaceIfCurrent library table code identity expected next children nextChildren =
      .ok (written, result)) :
    if result = .applied then command.Executed library table written else written = table := by
  have effects := effects_replaceIfCurrent laws invariant.sound sameKey success
  split_ifs at effects ⊢
  · refine executed_of_effects invariant valid (admits _)
      (fun held write member entry entered => ?_) (writes _ ▸ effects)
    rw [writes held] at member
    obtain rfl := List.mem_singleton.mp member
    cases entered
  · exact effects

private theorem executed_startToolCall {command : DispatchToolCallCommand}
    {result : ToolDispatchFenceWriteResult} (valid : ContractModel.validates command = true)
    (success : startToolCallIfCreated library table command = .ok (written, result)) :
    if result = .applied then
    (StoreCommand.startToolCallIfCreated command).Executed library table written
    else written = table := by
  unfold startToolCallIfCreated at success
  split_ifs at success
  · obtain ⟨rfl, rfl⟩ := Prod.mk.inj (Except.pure_eq_ok_iff.mp success)
    rfl
  · obtain ⟨⟨after, outcome⟩, replaced, success⟩ := Except.bind_eq_ok_iff.mp success
    obtain ⟨rfl, rfl⟩ := Prod.mk.inj (Except.pure_eq_ok_iff.mp success)
    have executed :=
      executed_replaceIfCurrent laws invariant (.startToolCallIfCreated command) valid
      (fun _ => rfl) (fun _ => trivial)
        (by rw [replacedKey, (DispatchToolCallCommand.step valid).sameCall]; rfl) replaced
    cases outcome with
    | applied => exact executed
    | projectionConflict => exact executed
    | notApplicable => exact executed

private theorem executed_applyTaskTransition {command : ApplyTaskTransitionCommand}
    {result : ConditionalWriteResult} (valid : ContractModel.validates command = true)
    (success : applyTaskTransitionIfCurrent library table command = .ok (written, result)) :
    if result = .applied then
    (StoreCommand.applyTaskTransitionIfCurrent command).Executed library table written
    else written = table := by
  have step := ApplyTaskTransitionCommand.step valid
  have effects := effects_applyTaskTransition laws invariant.sound step success
  split_ifs at effects ⊢
  · refine executed_of_effects invariant valid trivial
      (fun held write member entry entered => ?_) effects
    rw [(legal_transitionWrites step member).2.1] at entered
    cases entered
  · exact effects

private theorem executed_finalizeRun {command : FinalizeRunCommand}
    {result : ConditionalWriteResult} (valid : ContractModel.validates command = true)
    (success : finalizeRunIfActive library stamps table command = .ok (written, result)) :
    if result = .applied then
    (StoreCommand.finalizeRunIfActive command).Executed library table written
    else written = table := by
  unfold finalizeRunIfActive at success
  cases done : finalizeRunInTransaction library stamps table command with
  | ok after =>
    rw [done] at success
    obtain ⟨rfl, rfl⟩ := Prod.mk.inj (Except.ok.inj success)
    rw [if_pos rfl]
    have performs := performs_finalizeRun laws invariant.sound valid done
    have isValid : (StoreCommand.finalizeRunIfActive command).IsValid := valid
    refine ⟨performs, owned_of_performs invariant.owned isValid
      (fun held admitted write member entry entered => ?_) performs⟩
    have ends : replacing (runKey command.expectedActiveRecord.runId)
        (.agentRunRecord command.expectedActiveRecord)
        (.agentRunRecord command.terminalRecord) ∈ finalizeWrites library held command := by
      simp [finalizeWrites]
    exact ofRun_of_ending (transaction_of_admits isValid admitted) ends
      (FinalizeRunCommand.ends valid).ended member entered
  | error failure =>
    rw [done] at success
    dsimp only at success
    split_ifs at success
    · obtain ⟨rfl, rfl⟩ := Prod.mk.inj (Except.ok.inj success)
      rfl
    · obtain ⟨rfl, rfl⟩ := Prod.mk.inj (Except.ok.inj success)
      rfl
    · unfold boundedDatabaseFailures at success
      split at success
      · cases success
      · cases success

private theorem executed_noTask {command : SaveRequestUnderstandingV2NoTaskCommand}
    (valid : ContractModel.validates command = true)
    (success : saveRequestUnderstandingV2NoTaskIfCurrent library stamps table command =
      .ok (written, .applied)) :
    (StoreCommand.saveRequestUnderstandingV2NoTaskIfCurrent command).Executed library table
    written := by
  obtain ⟨running, ofTheRun⟩ := SaveRequestUnderstandingV2NoTaskCommand.runs valid
  have isValid : (StoreCommand.saveRequestUnderstandingV2NoTaskIfCurrent command).IsValid := valid
  have spec := noTask_eq_ok laws invariant.sound success
  have performs := performs_of_understanding spec rfl rfl
    (fun write member => by obtain rfl := List.mem_singleton.mp member; rfl)
      (spec.admits running ofTheRun)
  refine ⟨performs, owned_of_performs invariant.owned isValid
    (fun held _ write member entry entered => ?_) performs⟩
  obtain rfl := List.mem_singleton.mp member
  obtain rfl := Option.some.inj entered
  rfl

private theorem executed_taskGraph {command : CreateInitialTaskGraphV2Command}
    (valid : ContractModel.validates command = true)
    (success : createInitialTaskGraphV2IfCurrent library stamps table command =
      .ok (written, .applied)) :
    (StoreCommand.createInitialTaskGraphV2IfCurrent command).Executed library table written := by
  have start := CreateInitialTaskGraphV2Command.starts valid
  have spec := taskGraph_eq_ok laws invariant.sound success
  have admitted := spec.admits start.running start.understands
  refine ⟨performs_of_understanding spec rfl rfl (fun write => taskGraphWrites_enter) admitted, ?_⟩
  rcases spec.makes with ⟨⟨journal, all, effects⟩, owned⟩ | ⟨rfl, -⟩
  · have transaction := (transaction_of_taskGraph start admitted).perm all
    refine owned_of_effects invariant.owned effects transaction.legal fun write member entry runId
      entered belongs => ?_
    have listed := all.mem_iff.mp member
    have like := owned write listed
    rcases mem_taskGraphWrites start listed with ⟨found, same, -, aside⟩ | rfl | rfl
    · obtain rfl := Option.some.inj (same.symm.trans entered)
      cases aside.symm.trans (inRun_of_ofRun belongs)
    · obtain rfl := Option.some.inj entered
      cases belongs
    · obtain rfl := Option.some.inj entered
      obtain rfl := Option.some.inj belongs
      exact start.links ▸ like
  · exact invariant.owned

private theorem executed_recovery {command : ApplyRestartRecoveryCommand}
    (valid : ContractModel.validates command = true)
    (success : applyRecoveryInTransaction library stamps table command = .ok (written, .applied)) :
    (StoreCommand.claimAndApplyRestartRecovery command).Executed library table written := by
  have facts := ApplyRestartRecoveryCommand.recoveryEnds valid
  have isValid : (StoreCommand.claimAndApplyRestartRecovery command).IsValid := valid
  have performs := performs_recovery laws invariant.sound invariant.owned valid success
  refine ⟨performs, owned_of_performs invariant.owned isValid
    (fun held admitted write member entry entered => ?_) performs⟩
  have ends : replacing (runKey command.expectedClosure.activeRunRecord.runId)
      (.agentRunRecord command.runTransition.expectedActiveRecord)
        (.agentRunRecord command.runTransition.incompleteRecord) ∈
        recoveryWrites library command := by
    simp [recoveryWrites]
  exact ofRun_of_ending
    (transaction_of_admits isValid admitted) ends facts.ends.ended member entered

end Ports

private theorem allOrNothing_of_conditional {outcome : Codec (RecordTable × ConditionalWriteResult)}
    {done : RecordTable → Prop}
    (spec : ∀ written result, outcome = .ok (written, result) →
      if result = .applied then done written else written = table) :
    AllOrNothing done table (inTransaction table .conditional outcome) := by
  refine allOrNothing_of_transaction fun written result success => ?_
  have facts := spec written result success
  cases result <;> exact facts

variable (stamps) in
/-- Every port does all of its command, or nothing. -/
theorem execute_executed (laws : StoreLaws library) (invariant : StoreInvariant library table)
    (valid : command.IsValid) :
    AllOrNothing (command.Executed library table) table (command.execute library stamps table) := by
  cases command with
  | putToolsetArtifact =>
    exact executed_of_persistRecord laws invariant valid (fun _ => rfl) (fun _ => trivial) rfl
  | saveConversation =>
    exact executed_of_persistRecord laws invariant valid (fun _ => rfl) (fun _ => trivial) rfl
  | appendMessage =>
    exact executed_of_persistRecord laws invariant valid (fun _ => rfl) (fun _ => trivial) rfl
  | saveContextManifest =>
    exact executed_of_persistRecord laws invariant valid (fun _ => rfl) (fun _ => trivial) rfl
  | saveGateDecision =>
    exact executed_of_persistRecord laws invariant valid (fun _ => rfl) (fun _ => trivial) rfl
  | appendTraceEvent =>
    exact executed_of_persistRecord laws invariant valid (fun _ => rfl) (fun _ => trivial) rfl
  | appendEvalExecutionFailure =>
    exact executed_of_persistRecord laws invariant valid (fun _ => rfl) (fun _ => trivial) rfl
  | appendEvalResult record =>
    refine allOrNothing_of_transaction fun written result success => ?_
    simp only [appendEvalResult, Except.bind_eq_ok_iff, Except.pure_eq_ok_iff, Prod.exists,
      Prod.mk.injEq] at success
    obtain ⟨envelope, encoded, _, inserted, persisted, rfl, -⟩ := success
    exact executed_of_ensuring laws invariant valid (fun _ => rfl)
      (fun _ => trivial) rfl encoded persisted
  | insertRun command =>
    refine allOrNothing_of_transaction fun written result success => ?_
    simp only [insertRun, Except.bind_eq_ok_iff, Except.pure_eq_ok_iff, Prod.exists, Prod.mk.injEq]
      at success
    obtain ⟨envelope, encoded, _, inserted, persisted, rfl, -⟩ := success
    exact executed_of_ensuring laws invariant valid (fun _ => rfl)
      (fun _ => trivial) rfl encoded persisted
  | saveObservation command =>
    refine allOrNothing_of_transaction fun written result success => ?_
    have facts := executed_saveObservation laws invariant valid success
    cases result <;> exact facts
  | startRunIfCreated command =>
    refine allOrNothing_of_conditional fun written result success => ?_
    exact executed_replaceIfCurrent laws invariant _ valid (fun _ => rfl) (fun _ => trivial)
      (by rw [replacedKey, (TransitionRunCommand.step valid).1]; rfl) success
  | finalizeRunIfActive command =>
    exact allOrNothing_of_conditional fun written result success =>
      executed_finalizeRun laws invariant valid success
  | saveRequestUnderstandingV2NoTaskIfCurrent command =>
    refine allOrNothing_of_conditional fun written result success => ?_
    have applied := inRuV2Transaction_eq_ok success
    split_ifs at applied ⊢ with isApplied
    · exact executed_noTask laws invariant valid (isApplied ▸ success)
    · exact applied
  | createInitialTaskGraphV2IfCurrent command =>
    refine allOrNothing_of_conditional fun written result success => ?_
    have applied := inRuV2Transaction_eq_ok success
    split_ifs at applied ⊢ with isApplied
    · exact executed_taskGraph laws invariant valid (isApplied ▸ success)
    · exact applied
  | applyTaskTransitionIfCurrent command =>
    exact allOrNothing_of_conditional fun written result success =>
      executed_applyTaskTransition laws invariant valid success
  | insertToolCall command =>
    exact allOrNothing_of_transaction fun written result success =>
      executed_insertToolCall laws invariant success
  | startToolCallIfCreated command =>
    refine allOrNothing_of_transaction fun written result success => ?_
    have facts := executed_startToolCall laws invariant valid success
    cases result <;> exact facts
  | finalizeToolCallAttemptIfRunning command =>
    refine allOrNothing_of_conditional fun written result success => ?_
    exact executed_replaceIfCurrent laws invariant _ valid (fun _ => rfl) (fun _ => trivial)
      (by rw [replacedKey, (FinalizeToolCallCommand.step valid).sameCall]; rfl) success
  | claimAndApplyRestartRecovery command =>
    change AllOrNothing _ table ((claimAndApplyRestartRecovery library none stamps table command).1,
      do return .recovery (← (claimAndApplyRestartRecovery library none stamps table command).2))
    unfold claimAndApplyRestartRecovery
    cases done : applyRecoveryInTransaction library stamps table command with
    | error failure => exact .inr ⟨rfl, fun answer told => by cases told⟩
    | ok pair =>
      obtain ⟨written, result⟩ := pair
      cases result with
      | applied => exact .inl ⟨_, rfl, rfl, executed_recovery laws invariant valid done⟩
      | _ => exact .inr ⟨rfl, fun answer told => Except.ok.inj told ▸ rfl⟩

variable (stamps) in
/-- Every command keeps the invariant. -/
theorem execute_keeps (laws : StoreLaws library) (invariant : StoreInvariant library table)
    (valid : command.IsValid) :
    StoreInvariant library (command.execute library stamps table).1 := by
  rcases execute_executed stamps laws invariant valid with ⟨_, -, -, executed⟩ | ⟨same, -⟩
  · refine ⟨?_, executed.owned⟩
    cases executed.performs with
    | makes _ _ _ effects => exact effects.sound
    | finds _ same =>
      rw [same]
      exact invariant.sound
  · rw [same]
    exact invariant

/-- A command that is executed, with the stamps that the database gives. -/
structure StoreCall where
  command : StoreCommand
  stamps : ℕ → RowStamp
  valid : command.IsValid

variable (library) in
/-- The table after some calls, one after the other. -/
def tableAfter (table : RecordTable) (calls : List StoreCall) : RecordTable :=
  calls.foldl (fun table call => (call.command.execute library call.stamps table).1) table

theorem tableAfter_append (calls later : List StoreCall) :
    tableAfter library table (calls ++ later) = tableAfter library
    (tableAfter library table calls) later :=
  List.foldl_append

theorem tableAfter_keeps (laws : StoreLaws library) (invariant : StoreInvariant library table)
    (calls : List StoreCall) :
    StoreInvariant library (tableAfter library table calls) := by
  induction calls generalizing table with
  | nil => exact invariant
  | cons call rest ih => exact ih (execute_keeps call.stamps laws invariant call.valid)

/-- Whatever has been executed before, the store invariant holds and a call keeps it. The call does
all of its command or nothing, and its answer tells which. What it does are the writes of the
command to what the table holds, where the command is admitted, and nothing else; or it replays a
Request Understanding write that finds all of them made. -/
theorem calls_are_atomic (library : ModelLibrary) (laws : StoreLaws library)
    (calls : List StoreCall) (call : StoreCall) :
    StoreInvariant library (tableAfter library .empty calls) ∧
      StoreInvariant library
      (call.command.execute library call.stamps (tableAfter library .empty calls)).1 ∧
      AllOrNothing (call.command.Performs library (tableAfter library .empty calls))
      (tableAfter library .empty calls)
        (call.command.execute library call.stamps (tableAfter library .empty calls)) := by
  have invariant := tableAfter_keeps laws storeInvariant_empty calls
  refine ⟨invariant, execute_keeps call.stamps laws invariant call.valid, ?_⟩
  rcases execute_executed call.stamps laws invariant call.valid
    with ⟨answer, told, applied, executed⟩ | nothing
  · exact .inl ⟨answer, told, applied, executed.performs⟩
  · exact .inr nothing

/-- A library of native dumps that are all different and name their identifiers satisfies the
laws. -/
private theorem tableLibrary_storeLaws {entries : List (SourceRecord × Fields)}
    (native : ∀ entry ∈ entries, (Json.object entry.2).isNative = true)
    (apart : (entries.map (·.2)).Nodup) (spelled : [] ∉ entries.map (·.2))
    (named : ∀ entry ∈ entries, ∀ member ∈ uuidMembers entry.1,
      Json.lookup entry.2 member.1 = some (uuidJson member.2)) :
    StoreLaws (tableLibrary entries) := by
  have known : ∀ record,
      (∃ entry ∈ entries, entry.1 = record ∧ (tableLibrary entries).modelDump record = entry.2) ∨
      (tableLibrary entries).modelDump record = [] := by
    intro record
    cases found : entries.find? (·.1 == record) with
    | none => exact .inr (by simp [tableLibrary, found])
    | some entry =>
      exact .inl ⟨entry, List.mem_of_find?_eq_some found, by simpa using List.find?_some found, by
        simp [tableLibrary, found]⟩
  have nativeDump : ∀ record,
      (Json.object ((tableLibrary entries).modelDump record)).isNative = true := by
    intro record
    rcases known record with ⟨entry, member, -, dumped⟩ | dumped
    · exact dumped ▸ native entry member
    · rw [dumped]
      rfl
  have loads : ∀ record loaded,
      reload (tableLibrary entries) record.sourceModel record = some loaded →
      ∃ entry ∈ entries, entry.1 = loaded ∧ entry.2 = (tableLibrary entries).modelDump record := by
    intro record loaded reloaded
    have read : (tableLibrary entries).readText ((tableLibrary entries).writeText
        (.object ((tableLibrary entries).modelDump record))) =
            some (.object ((tableLibrary entries).modelDump record)) :=
      Json.loads_compact (nativeDump record)
    rw [reload, read, Option.bind_some] at reloaded
    obtain ⟨entry, found, rfl⟩ := Option.map_eq_some_iff.mp reloaded
    have accepted := List.find?_some found
    simp only [Bool.and_eq_true, beq_iff_eq, Json.object.injEq] at accepted
    exact ⟨entry, List.mem_of_find?_eq_some found, rfl, accepted.2⟩
  refine ⟨tableLibrary_textLaws _, nativeDump, fun record loaded reloaded => ?_,
    fun record accepted member listed => ?_⟩
  · obtain ⟨entry, member, rfl, same⟩ := loads record loaded reloaded
    rcases known record with ⟨first, listed, rfl, dumped⟩ | dumped
    · rw [List.inj_on_of_nodup_map apart member listed (same.trans dumped)]
    · exact absurd (List.mem_map.mpr ⟨entry, member, same.trans dumped⟩) spelled
  · obtain ⟨loaded, reloaded⟩ := Option.isSome_iff_exists.mp accepted
    obtain ⟨entry, present, rfl, same⟩ := loads record loaded reloaded
    rcases known record with ⟨first, firstListed, rfl, dumped⟩ | dumped
    · exact dumped ▸ named first firstListed member listed
    · exact absurd (List.mem_map.mpr ⟨entry, present, same.trans dumped⟩) spelled

def storedConversation : ConversationRecord where
  schemaVersion := "conversation_record.p0.v1"
  conversationId := 2
  ownerCustomerId := "customer-1"
  createdAt := .utc 1735689600000000

def storedRun : AgentRunRecord where
  runId := 1
  conversationId := some 2
  status := .created
  providerLane := "scripted"
  startedAt := .utc 1735689600000000

def storedMessage (messageId : Uuid) (direction : MessageDirection) (content : String) :
    MessageRecord where
  schemaVersion := "message_record.p0.v1"
  messageId := messageId
  conversationId := 2
  direction := direction
  content := content.toList
  receivedAt := .utc 1735689600000000

def storedRunning : AgentRunRecord := { storedRun with status := .running }

def storedFailed : AgentRunRecord :=
  { storedRun with status := .failed, completedAt := some (.utc 1735689603000000) }

def storedUnderstanding : RequestUnderstandingRecordV2 where
  requestUnderstandingRecordId := 5
  runId := 1
  messageRef := 3
  schemaVersion := "request_understanding_record.p0.v2"
  modelInputSchemaVersion := "e2e01-thin-v1"
  modelOutputSchemaVersion := "e2e01-thin-v2"
  contextualization :=
    { text := "order lookup", resolvedReferenceCandidates := [], uncertainties := [],
      sourceMessageRefs := [3] }
  taskDeltaCandidates :=
    [{ candidateId := 10, operation := .addGoal, goalPatch := "show the order", confidence := 1,
       inputCandidates :=
        [{ name := "order_id", candidateValue := "O-1001".toList, semanticRole :=
          "TARGET_RESOURCE_IDENTIFIER",
           authority := .userClaim, sourceKind := .currentMessage, sourceRef :=
             3, sourceSpanStart := 5,
           sourceSpanEndExclusive := 11, confidence := 1,
           sourceQuoteSha256 :=
             "6b2d27e6813f395f2e78d1db48d492907b8c0c7e379aabd0124bc8b73eeef3ff".toList }] }]
  candidateValidation := [{ candidateRef := 10, decision := .accept }]
  acceptedDeltaRefs := [20]
  validatedTaskStateVersion := some 1
  nextMoveCandidateRef := some 6
  createdAt := .utc 1735689601000000

def storedDelta : AcceptedTaskDeltaV2 where
  acceptedDeltaId := 20
  candidateRef := 10
  messageRef := 3
  operation := .addGoal
  goalText := "show the order"
  inputBindingRefs := [30]
  acceptedAt := .utc 1735689601000000
  taskId := 40
  baseTaskStateVersion := none
  resultTaskStateVersion := 1

def storedBinding : InputBinding where
  bindingId := 30
  name := "order_id"
  normalizedValue := "O-1001".toList
  authority := .userClaim
  sourceRefs := [3]
  validationStatus := .accepted
  confirmedByUser := true
  createdAt := .utc 1735689601000000
  updatedAt := .utc 1735689601000000

def storedTask : TaskRecord where
  taskId := 40
  ownerCustomerId := "customer-1"
  status := .active
  stateVersion := 1
  createdAt := .utc 1735689601000000
  updatedAt := .utc 1735689601000000

def storedUnit : RequestUnitRecord where
  requestUnitId := 50
  taskId := 40
  goalText := "show the order"
  goalSourceRefs := [3]
  inputBindingRefs := [30]
  status := .active
  stateVersion := 1
  createdAt := .utc 1735689601000000
  updatedAt := .utc 1735689601000000

def storedConversationLink : ConversationTaskLinkRecord where
  schemaVersion := "conversation_task_link_record.p0.v1"
  conversationId := 2
  taskId := 40
  linkReason := "INITIAL"
  linkedAt := .utc 1735689601000000

def storedLink : RunTaskLinkRecord where
  schemaVersion := "run_task_link_record.p0.v1"
  runId := 1
  taskId := 40

def storedClosedLink : RunTaskLinkRecord := { storedLink with resultTaskStateVersion := some 2 }

def storedTransition : TaskStateTransition where
  taskId := 40
  requestUnitId := 50
  fromStatus := .active
  toStatus := .blocked
  baseStateVersion := 1
  resultStateVersion := 2
  reasonRef := 7
  changedAt := .utc 1735689602000000

def storedBlockedTask : TaskRecord :=
  { storedTask with status := .blocked, stateVersion := 2, updatedAt := .utc 1735689602000000 }

def storedBlockedUnit : RequestUnitRecord :=
  { storedUnit with status := .blocked, stateVersion := 2, updatedAt := .utc 1735689602000000 }

/-- The data of a Run, a message, a Task, a RequestUnit and a link, with what differs between two
versions. -/
def storedRunData (status : String) (completedAt : Json) : Fields :=
  [("run_id", uuidJson 1), ("conversation_id", uuidJson 2), ("status", ownText status),
    ("provider_lane", ownText "scripted"), ("started_at", ownText "2025-01-01T00:00:00Z"),
    ("completed_at", completedAt), ("stop_reason", .null), ("incomplete_reason", .null)]

def storedMessageData (messageId : Uuid) (direction content : String) : Fields :=
  [("schema_version", ownText "message_record.p0.v1"), ("message_id", uuidJson messageId),
    ("conversation_id", uuidJson 2), ("direction", ownText direction), ("content", ownText content),
    ("received_at", ownText "2025-01-01T00:00:00Z")]

def storedTaskData (status : String) (version : ℤ) (updatedAt : String) : Fields :=
  [("task_id", uuidJson 40), ("owner_customer_id", ownText "customer-1"),
    ("status", ownText status), ("state_version", .int version),
    ("created_at", ownText "2025-01-01T00:00:01Z"),
    ("updated_at", ownText updatedAt), ("last_outcome_ref", .null)]

def storedUnitData (status : String) (version : ℤ) (updatedAt : String) : Fields :=
  [("request_unit_id", uuidJson 50), ("task_id", uuidJson 40),
    ("goal_text", ownText "show the order"), ("goal_source_refs", .array [uuidJson 3]),
    ("contextualization_ref", .null), ("constraint_refs", .array []),
    ("dependency_refs", .array []), ("input_binding_refs", .array [uuidJson 30]),
    ("open_questions", .array []),
    ("observation_refs", .array []), ("evidence_binding_refs", .array []),
    ("pending_action_ref", .null),
    ("result_refs", .array []), ("status", ownText status), ("state_version", .int version),
    ("created_at", ownText "2025-01-01T00:00:01Z"), ("updated_at", ownText updatedAt)]

def storedLinkData (result : Json) : Fields :=
  [("schema_version", ownText "run_task_link_record.p0.v1"), ("run_id", uuidJson 1),
    ("task_id", uuidJson 40), ("base_task_state_version", .null),
    ("result_task_state_version", result)]

def storedUnderstandingData : Fields :=
  [("request_understanding_record_id", uuidJson 5), ("run_id", uuidJson 1),
    ("message_ref", uuidJson 3), ("schema_version", ownText "request_understanding_record.p0.v2"),
    ("model_input_schema_version", ownText "e2e01-thin-v1"),
    ("model_output_schema_version", ownText "e2e01-thin-v2"),
    ("contextualization", .object [("text", ownText "order lookup"),
      ("resolved_reference_candidates", .array []), ("uncertainties", .array []),
      ("source_message_refs", .array [uuidJson 3])]),
    ("task_delta_candidates",
      .array [.object [("candidate_id", uuidJson 10), ("operation", ownText "ADD_GOAL"),
        ("goal_patch", ownText "show the order"), ("input_candidates", .array [.object
        [("name", ownText "order_id"), ("candidate_value", ownText "O-1001"),
          ("semantic_role", ownText "TARGET_RESOURCE_IDENTIFIER"),
          ("authority", ownText "USER_CLAIM"),
          ("source_kind", ownText "CURRENT_MESSAGE"), ("source_ref", uuidJson 3),
          ("source_span_start", .int 5),
          ("source_span_end_exclusive", .int 11), ("source_quote_sha256",
            ownText "6b2d27e6813f395f2e78d1db48d492907b8c0c7e379aabd0124bc8b73eeef3ff"),
          ("confidence", .float 1 "1.0")]]), ("confidence", .float 1 "1.0")]]),
    ("candidate_validation",
      .array [.object [("candidate_ref", uuidJson 10), ("decision", ownText "ACCEPT"),
        ("reason_code", .null)]]),
    ("accepted_delta_refs", .array [uuidJson 20]), ("proposed_base_task_state_version", .null),
    ("validated_task_state_version", .int 1), ("next_move_candidate_ref", uuidJson 6),
    ("created_at", ownText "2025-01-01T00:00:01Z")]

/-- A library of a Conversation with its messages and of a Run with its Task, in each of their
versions. -/
def storeLibrary : ModelLibrary := tableLibrary
  [(.conversationRecord storedConversation,
      [("schema_version", ownText "conversation_record.p0.v1"), ("conversation_id", uuidJson 2),
        ("owner_customer_id", ownText "customer-1"),
        ("created_at", ownText "2025-01-01T00:00:00Z")]),
    (.agentRunRecord storedRun, storedRunData "CREATED" .null),
    (.agentRunRecord storedRunning, storedRunData "RUNNING" .null),
    (.agentRunRecord storedFailed, storedRunData "FAILED" (ownText "2025-01-01T00:00:03Z")),
    (.messageRecord (storedMessage 3 .user "show O-1001"),
      storedMessageData 3 "USER" "show O-1001"),
    (.messageRecord (storedMessage 4 .assistant "not found"),
      storedMessageData 4 "ASSISTANT" "not found"),
    (.requestUnderstandingRecordV2 storedUnderstanding, storedUnderstandingData),
    (.acceptedTaskDeltaV2 storedDelta,
      [("accepted_delta_id", uuidJson 20), ("candidate_ref", uuidJson 10),
        ("message_ref", uuidJson 3), ("operation", ownText "ADD_GOAL"),
        ("goal_text", ownText "show the order"),
        ("input_binding_refs", .array [uuidJson 30]),
        ("accepted_at", ownText "2025-01-01T00:00:01Z"),
        ("task_id", uuidJson 40), ("base_task_state_version", .null),
        ("result_task_state_version", .int 1)]),
    (.inputBinding storedBinding,
      [("binding_id", uuidJson 30), ("name", ownText "order_id"),
        ("normalized_value", ownText "O-1001"), ("authority", ownText "USER_CLAIM"),
        ("source_refs", .array [uuidJson 3]),
        ("validation_status", ownText "ACCEPTED"), ("confirmed_by_user", .bool true),
        ("created_at", ownText "2025-01-01T00:00:01Z"),
        ("updated_at", ownText "2025-01-01T00:00:01Z"),
        ("supersedes", .null)]),
    (.taskRecord storedTask, storedTaskData "ACTIVE" 1 "2025-01-01T00:00:01Z"),
    (.taskRecord storedBlockedTask, storedTaskData "BLOCKED" 2 "2025-01-01T00:00:02Z"),
    (.taskStateTransition storedTransition,
      [("task_id", uuidJson 40), ("request_unit_id", uuidJson 50),
        ("from_status", ownText "ACTIVE"), ("to_status", ownText "BLOCKED"),
        ("base_state_version", .int 1), ("result_state_version", .int 2),
        ("reason_ref", uuidJson 7), ("changed_at", ownText "2025-01-01T00:00:02Z")]),
    (.requestUnitRecord storedUnit, storedUnitData "ACTIVE" 1 "2025-01-01T00:00:01Z"),
    (.requestUnitRecord storedBlockedUnit, storedUnitData "BLOCKED" 2 "2025-01-01T00:00:02Z"),
    (.conversationTaskLinkRecord storedConversationLink,
      [("schema_version", ownText "conversation_task_link_record.p0.v1"),
        ("conversation_id", uuidJson 2), ("task_id", uuidJson 40),
        ("link_reason", ownText "INITIAL"),
        ("linked_at", ownText "2025-01-01T00:00:01Z"), ("ended_at", .null)]),
    (.runTaskLinkRecord storedLink, storedLinkData .null),
    (.runTaskLinkRecord storedClosedLink, storedLinkData (.int 2))]

theorem storeLibrary_storeLaws : StoreLaws storeLibrary :=
  tableLibrary_storeLaws (by decide +kernel) (by decide +kernel) (by decide +kernel)
    (by decide)

/-- A call whose rows are numbered from a place on. -/
def storedCall (place : ℕ) (command : StoreCommand) (valid : command.IsValid) : StoreCall :=
  ⟨command, fun index => ⟨index + place, .utc 1735689600000000⟩, valid⟩

/-- The Conversation is saved, the Run is inserted, and it starts. -/
def storedCalls : List StoreCall :=
  [storedCall 1 (.saveConversation storedConversation) trivial,
    storedCall 2 (.insertRun ⟨storedRun⟩)
      (show ContractModel.validates (CreateRunCommand.mk storedRun) = true by decide)]

def startCall : StoreCall :=
  storedCall 3 (.startRunIfCreated ⟨storedRun, storedRunning⟩)
    (show ContractModel.validates (TransitionRunCommand.mk storedRun storedRunning) = true by
      decide)

def storedGraph : CreateInitialTaskGraphV2Command where
  ownerScope := ⟨"customer-1"⟩
  expectedConversationRecord := storedConversation
  expectedMessageRecords := [storedMessage 3 .user "show O-1001"]
  expectedActiveRunRecord := storedRunning
  requestUnderstanding := ⟨storedUnderstanding, storedDelta⟩
  initialTask := ⟨storedTask⟩
  initialRequestUnit := ⟨storedUnit⟩
  inputBinding := { requestUnitId := 50, record := storedBinding }
  conversationTaskLink := storedConversationLink
  runTaskLink := ⟨storedLink⟩

def storedBlocking : ApplyTaskTransitionCommand where
  expectedTaskRecord := storedTask
  nextTaskRecord := storedBlockedTask
  expectedRequestUnitRecord := storedUnit
  nextRequestUnitRecord := storedBlockedUnit
  taskStateTransition := storedTransition

/-- The Task of the started Run is created with its link and its Request Understanding, and it is
blocked. -/
def taskCalls : List StoreCall :=
  [storedCall 4 (.appendMessage (storedMessage 3 .user "show O-1001")) trivial,
    storedCall 5 (.createInitialTaskGraphV2IfCurrent storedGraph)
      (show ContractModel.validates storedGraph = true by decide),
    storedCall 11 (.applyTaskTransitionIfCurrent storedBlocking)
      (show ContractModel.validates storedBlocking = true by decide)]

def storedFinalization : FinalizeRunCommand where
  expectedActiveRecord := storedRunning
  terminalRecord := storedFailed
  expectedActiveLinks := [storedLink]
  terminalLinks := [storedClosedLink]
  resultTaskRecords := [storedBlockedTask]

/-- The Run ends. -/
def endCall : StoreCall :=
  storedCall 12 (.finalizeRunIfActive storedFinalization)
    (show ContractModel.validates storedFinalization = true by decide)

/-- After the end the Run is to be ended again, which is declined, and a message is added, which is
not. -/
def laterCalls : List StoreCall :=
  [endCall, storedCall 13 (.appendMessage (storedMessage 4 .assistant "not found")) trivial]

theorem calls_are_atomic_start :
    StoreInvariant storeLibrary (tableAfter storeLibrary .empty storedCalls) ∧
      StoreInvariant storeLibrary
        (startCall.command.execute storeLibrary startCall.stamps
          (tableAfter storeLibrary .empty storedCalls)).1 ∧
      AllOrNothing (startCall.command.Performs storeLibrary
        (tableAfter storeLibrary .empty storedCalls)) (tableAfter storeLibrary .empty storedCalls)
        (startCall.command.execute storeLibrary startCall.stamps
          (tableAfter storeLibrary .empty storedCalls)) :=
  calls_are_atomic storeLibrary storeLibrary_storeLaws storedCalls startCall

end MiniAgent.Infrastructure
