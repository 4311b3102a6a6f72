import MiniAgent.Infrastructure.ActiveRuns
import MiniAgent.Infrastructure.MockOrders
import MiniAgent.Library.Rounds

/-! # Starting the offline composition

Before the composition is ready, every Run that a former process has left active is recovered, one
round after the other, and then the orders of the fixture are seeded. Whatever goes wrong on the way
ends in one composition error, and the flag of the composition is only set when nothing did.
-/

namespace MiniAgent.Bootstrap

open MiniAgent.Core MiniAgent.Application MiniAgent.Infrastructure

/-- An order of the fixture, with its owner. -/
structure FixtureOrder where
  ownerCustomerId : String
  safeProjection : OrderSummaryProjection

/-- `_FixtureConfig`, as far as startup reads it. -/
structure FixtureConfig where
  orders : List FixtureOrder

/-- The composition object, with the flag that its methods check first. -/
structure OfflineE2E01Composition where
  fixture : FixtureConfig
  ready : Bool := false

/-- The two tables that startup works on. -/
structure Store where
  records : RecordTable
  orders : MockOrders

/-- Everything that startup meets. -/
structure Environment where
  /-- The fixture, unless the dependencies or the artifacts are refused. -/
  fixture : Option FixtureConfig
  /-- The composition and the service are built. -/
  constructs : Bool
  rounds : ℕ → RecoveryRound
  seedFails : ℕ → Bool

/-- A start that has ended: its recoveries, its tables, the composition as it was left, and what was
returned. No composition that is returned stands for the composition error. -/
structure Startup where
  loop : Option (Rounds.Ended RecordTable (Recovery RecordTable) Bool)
  store : Store
  composition : Option OfflineE2E01Composition
  returned : Option OfflineE2E01Composition

section Starting

variable (library : ModelLibrary) (projections : ProjectionLibrary) (environment : Environment)

/-- What the loop makes of a result: it goes on, or it ends with the flag `startup_failed`. -/
def startupFailed (result : Codec RestartRecoveryResult) : Option Bool :=
  match result with
  | .error _ => some true
  | .ok result =>
    if !result.ready then some true
    else if !result.closureFound then some result.writeResult.isSome
    else if result.writeResult ≠ some .applied then some true
    else none

/-- The service of one round. -/
def recoveryService (index : ℕ) : RestartRecoveryService RecordTable where
  restartRecoveryPort := postgresRestartRecoveryAdapter library (environment.rounds index)
  clock := (environment.rounds index).clock
  uuidFactory := (environment.rounds index).uuidFactory

/-- One round of the recovery loop. -/
def recoveryRound (index : ℕ) (table : RecordTable) :
    Rounds.Round RecordTable (Recovery RecordTable) Bool :=
  let recovery := (recoveryService library environment index).recoverPending table
  { report := recovery, state := recovery.store, verdict := startupFailed recovery.result }

/-- Seed the orders until one fails; the second part tells that one did. -/
def seedOrders : List FixtureOrder → ℕ → MockOrders → MockOrders × Bool
  | [], _, orders => (orders, false)
  | order :: rest, index, orders =>
    if environment.seedFails index then (orders, true)
    else seedOrders rest (index + 1)
      (seedMockOrder projections orders order.ownerCustomerId order.safeProjection)

/-- What follows the recovery loop. -/
def afterRecovery (fixture : FixtureConfig) (store : Store)
    (ended : Rounds.Ended RecordTable (Recovery RecordTable) Bool) : Startup :=
  let seeded := seedOrders projections environment fixture.orders 0 store.orders
  if ended.verdict then
    { loop := some ended
      store := { store with records := ended.state }
      composition := some { fixture }
      returned := none }
  else if seeded.2 then
    { loop := some ended
      store := { records := ended.state, orders := seeded.1 }
      composition := some { fixture }
      returned := none }
  else
    { loop := some ended
      store := { records := ended.state, orders := seeded.1 }
      composition := some { fixture, ready := true }
      returned := some { fixture, ready := true } }

/-- A start that was refused before it looked at the tables. -/
def refused (store : Store) : Startup :=
  { loop := none, store, composition := none, returned := none }

/-- `OfflineE2E01Composition.start` -/
def start (fuel : ℕ) (store : Store) : Option Startup :=
  match environment.fixture with
  | none => some (refused store)
  | some fixture =>
    if environment.constructs then
      (Rounds.run (recoveryRound library environment) fuel 0 store.records).map
        (afterRecovery projections environment fixture store)
    else some (refused store)

end Starting

/-- A recovery has committed one claim, which removed the Run of the closure that it loaded. -/
def AppliesOne (recovery : Recovery RecordTable) : Prop :=
  ∃ seen closure command before,
    recovery.calls = [.loaded seen (.ok (some closure)),
      .claimed command before recovery.store (.ok .applied)] ∧
      recovery.result = .ok { ready := true, closureFound := true, writeResult := some .applied } ∧
      RemovesRun before recovery.store closure.activeRunRecord.runId

/-- A recovery has loaded once and seen no active Run. -/
def SeesNone (recovery : Recovery RecordTable) : Prop :=
  recovery.calls = [.loaded recovery.store (.ok none)] ∧ activeRuns recovery.store = []

/-- A call of the port that raised, or a claim that was not applied. -/
def CallFails : RecoveryCall RecordTable → Prop
  | .loaded _ answer => ∃ failure, answer = .error failure
  | .claimed _ _ _ answer => answer ≠ .ok .applied

/-- A recovery in which something raised or a claim was not applied. -/
def Fails (recovery : Recovery RecordTable) : Prop :=
  (∃ failure, recovery.result = .error failure) ∨ ∃ call ∈ recovery.calls, CallFails call

variable {library : ModelLibrary} {projections : ProjectionLibrary} {environment : Environment}

/-- Other sessions only ever lower the number of active Runs. -/
private theorem length_activeRuns_write (sessions : OtherSessions) (table : RecordTable) :
    (activeRuns (sessions.write table)).length ≤ (activeRuns table).length :=
  (List.subperm_of_subset (activeRuns_nodup _) (sessions.startNoRun table)).length_le

/-- A load that answers with no closure has seen no active Run. -/
private theorem activeRuns_of_load {round : RecoveryRound} {table seen : RecordTable}
    (loads : (postgresRestartRecoveryAdapter library round).loadNextRestartRecoveryClosure table =
      (seen, .ok none)) :
    activeRuns seen = [] := by
  simp only [postgresRestartRecoveryAdapter, Prod.mk.injEq] at loads
  obtain ⟨rfl, answer⟩ := loads
  split at answer
  · cases answer
  · exact loadClosure_eq_none_iff.mp answer

/-- The two ends of a round that was claimed and applied. -/
private theorem removesRun_of_claim (laws : library.TextLaws) (keeps : library.KeepsRuns)
    {round : RecoveryRound} {command : ApplyRestartRecoveryCommand}
    {table before after : RecordTable} (valid : ContractModel.validates command = true)
    (claims : (postgresRestartRecoveryAdapter library round).claimAndApplyRestartRecovery
      command table =
      (before, after, .ok .applied)) :
    before = round.beforeClaim.write table ∧
    RemovesRun before after command.expectedClosure.activeRunRecord.runId := by
  simp only [postgresRestartRecoveryAdapter, Prod.mk.injEq] at claims
  obtain ⟨rfl, claims⟩ := claims
  exact ⟨rfl, claim_removesRun laws keeps
    (ApplyRestartRecoveryCommand.validates_runTransition valid) claims⟩

/-- A round that goes on has applied one recovery and left fewer active Runs. -/
private theorem round_continues (laws : library.TextLaws) (keeps : library.KeepsRuns) (index : ℕ)
    (table : RecordTable) (goes : (recoveryRound library environment index table).verdict = none) :
    AppliesOne (recoveryRound library environment index table).report ∧
      (activeRuns (recoveryRound library environment index table).state).length <
      (activeRuns table).length := by
  have recovers := (recoveryService library environment index).recoverPending_recovers table
  simp only [recoveryRound] at goes ⊢
  generalize (recoveryService library environment index).recoverPending table = recovery
    at recovers goes ⊢
  cases recovers with
  | nothing loads => simp [startupFailed] at goes
  | raised loads found => simp [startupFailed] at goes
  | claimed loads valid same claims =>
    rename_i seen before after closure command answer
    cases answer with
    | error failure => simp [startupFailed, bind, Except.bind] at goes
    | ok writeResult =>
      cases writeResult
      case applied =>
        obtain ⟨rfl, removes⟩ := removesRun_of_claim laws keeps valid claims
        refine ⟨⟨seen, closure, command, _, rfl, rfl, same ▸ removes⟩, ?_⟩
        have left := removes.length
        have claimed := length_activeRuns_write (environment.rounds index).beforeClaim seen
        have loaded := length_activeRuns_write (environment.rounds index).beforeLoad table
        have met : (environment.rounds index).beforeLoad.write table = seen := (Prod.mk.inj loads).1
        rw [met] at loaded
        dsimp only
        omega
      all_goals simp [startupFailed, bind, Except.bind, pure, Except.pure] at goes

/-- A round that ends the loop with success has seen no active Run, and one that fails ends it with
the flag. -/
private theorem round_stops (index : ℕ) (table : RecordTable) (failed : Bool)
    (ends : (recoveryRound library environment index table).verdict = some failed) :
    (failed = false → SeesNone (recoveryRound library environment index table).report) ∧
      (Fails (recoveryRound library environment index table).report → failed = true) := by
  have recovers := (recoveryService library environment index).recoverPending_recovers table
  simp only [recoveryRound] at ends ⊢
  generalize (recoveryService library environment index).recoverPending table = recovery
    at recovers ends ⊢
  cases recovers with
  | nothing loads =>
    refine ⟨fun _ => ⟨rfl, activeRuns_of_load loads⟩, ?_⟩
    rintro (⟨failure, raised⟩ | ⟨call, member, fails⟩)
    · cases raised
    · obtain rfl := List.mem_singleton.mp member
      obtain ⟨failure, raised⟩ := fails
      cases raised
  | raised loads found =>
    obtain rfl := Option.some.inj ends
    exact ⟨fun success => absurd success (by decide), fun _ => rfl⟩
  | claimed loads valid same claims =>
    rename_i seen before after closure command answer
    cases answer with
    | error failure =>
      obtain rfl := Option.some.inj ends
      exact ⟨fun success => absurd success (by decide), fun _ => rfl⟩
    | ok writeResult =>
      cases writeResult
      case applied => cases ends
      all_goals
        obtain rfl := Option.some.inj ends
        exact ⟨fun success => absurd success (by decide), fun _ => rfl⟩

/-- A round that goes on has not failed. -/
private theorem AppliesOne.not_fails {recovery : Recovery RecordTable}
    (applies : AppliesOne recovery) :
    ¬Fails recovery := by
  obtain ⟨seen, closure, command, before, calls, result, -⟩ := applies
  rintro (⟨failure, raised⟩ | ⟨call, member, fails⟩)
  · rw [result] at raised
    cases raised
  · rw [calls] at member
    simp only [List.mem_cons, List.not_mem_nil, or_false] at member
    rcases member with rfl | rfl
    · obtain ⟨failure, raised⟩ := fails
      cases raised
    · exact fails rfl

variable {ended : Rounds.Ended RecordTable (Recovery RecordTable) Bool}

private theorem recoveryRound_lowers (laws : library.TextLaws) (keeps : library.KeepsRuns) :
    Rounds.Lowers (recoveryRound library environment) fun table => (activeRuns table).length :=
  fun index table goes => (round_continues laws keeps index table goes).2

/-- A loop that has ended: every round but the last one applied a recovery, and only a loop whose
last round saw no active Run ends with success. -/
structure LoopEnds (ended : Rounds.Ended RecordTable (Recovery RecordTable) Bool) : Prop where
  continued : ∀ recovery ∈ ended.continued, AppliesOne recovery
  store : ended.state = ended.last.store
  success : ended.verdict = false → SeesNone ended.last
  failure : (∃ recovery ∈ ended.reports, Fails recovery) → ended.verdict = true

private theorem loopEnds_of_run (laws : library.TextLaws) (keeps : library.KeepsRuns)
    {fuel index : ℕ} {table : RecordTable}
    (found : Rounds.run (recoveryRound library environment) fuel index table = some ended) :
    LoopEnds ended := by
  obtain ⟨continued, last⟩ := Rounds.of_run AppliesOne
    (fun recovery state failed =>
      state = recovery.store ∧ (failed = false → SeesNone recovery) ∧
        (Fails recovery → failed = true))
    (fun index table goes => (round_continues laws keeps index table goes).1)
    (fun index table failed ends => ⟨rfl, round_stops index table failed ends⟩) found
  refine ⟨continued, last.1, last.2.1, ?_⟩
  rintro ⟨recovery, member, fails⟩
  rcases List.mem_append.mp member with before | atLast
  · exact absurd fails (continued recovery before).not_fails
  · rw [List.mem_singleton.mp atLast] at fails
    exact last.2.2 fails

/-- Seeding fails when one of the orders does. -/
private theorem seedOrders_failed {orders : List FixtureOrder} {index : ℕ} {seeded : MockOrders}
    {position : ℕ} (within : position < orders.length)
    (fails : environment.seedFails (index + position) = true) :
    (seedOrders projections environment orders index seeded).2 = true := by
  induction orders generalizing index seeded position with
  | nil => cases within
  | cons order rest ih =>
    rw [seedOrders]
    split_ifs with first
    · rfl
    · cases position with
      | zero => exact absurd fails first
      | succ position =>
        refine ih (Nat.lt_of_succ_lt_succ within) ?_
        rwa [Nat.add_right_comm, Nat.add_assoc]

/-- Something that startup cannot recover from. -/
inductive Obstructed (environment : Environment) (startup : Startup) : Prop
  | refused (missing : environment.fixture = none)
  | unbuilt (missing : environment.constructs = false)
  | recovery (ended : Rounds.Ended RecordTable (Recovery RecordTable) Bool)
      (looped : startup.loop = some ended)
      (fails : ∃ recovery ∈ ended.reports, Fails recovery)
  | seeding (fixture : FixtureConfig) (given : environment.fixture = some fixture) (index : ℕ)
      (within : index < fixture.orders.length) (fails : environment.seedFails index = true)

/-- Readiness means recovered. -/
structure ReadyMeansRecovered (environment : Environment) (store : Store) (startup : Startup) :
    Prop where
  /-- There are no more rounds than Runs to recover, and the last one. -/
  bounded : ∀ ended, startup.loop = some ended →
    ended.continued.length ≤ (activeRuns store.records).length
  /-- A round that the loop went on after has committed one recovery, which removed one active
  Run. -/
  continued : ∀ ended, startup.loop = some ended → ∀ recovery ∈ ended.continued, AppliesOne recovery
  /-- A composition is returned ready, and after a last load that saw no active Run. -/
  ready : ∀ composition, startup.returned = some composition → composition.ready = true ∧
    (∃ ended, startup.loop = some ended ∧ SeesNone ended.last) ∧
    activeRuns startup.store.records = []
  /-- A composition that is not returned is not ready. -/
  unready : startup.returned = none → ∀ composition, startup.composition = some composition →
    composition.ready = false
  /-- Conflicts, required reconciliations and exceptions end in the composition error. -/
  obstructed : Obstructed environment startup → startup.returned = none

private theorem refused_readyMeansRecovered (store : Store) :
    ReadyMeansRecovered environment store (refused store) :=
  ⟨nofun, nofun, nofun, fun _ => nofun, fun _ => rfl⟩

/-- What follows a loop that has ended keeps what the loop has shown. -/
private theorem afterRecovery_readyMeansRecovered {fixture : FixtureConfig} {store : Store}
    (given : environment.fixture = some fixture) (built : environment.constructs = true)
    (ends : LoopEnds ended) (bounded : ended.continued.length ≤ (activeRuns store.records).length) :
    ReadyMeansRecovered environment store
    (afterRecovery projections environment fixture store ended) := by
  have looped : (afterRecovery projections environment fixture store ended).loop = some ended := by
    unfold afterRecovery
    dsimp only
    split_ifs <;> rfl
  refine ⟨?_, ?_, ?_, ?_, ?_⟩
  · intro other found
    rw [← Option.some.inj (looped.symm.trans found)]
    exact bounded
  · intro other found
    rw [← Option.some.inj (looped.symm.trans found)]
    exact ends.continued
  · intro composition returned
    unfold afterRecovery at returned ⊢
    dsimp only at returned ⊢
    split_ifs at returned ⊢ with failed unseeded
    · obtain rfl := Option.some.inj returned
      have sees := ends.success (Bool.eq_false_iff.mpr failed)
      exact ⟨rfl, ⟨ended, rfl, sees⟩, by rw [ends.store, sees.2]⟩
  · intro returned composition left
    unfold afterRecovery at returned left
    dsimp only at returned left
    split_ifs at returned left with failed unseeded
    · rw [← Option.some.inj left]
    · rw [← Option.some.inj left]
  · intro obstructed
    unfold afterRecovery
    dsimp only
    split_ifs with failed unseeded
    · rfl
    · rfl
    · exfalso
      cases obstructed with
      | refused missing => cases given.symm.trans missing
      | unbuilt missing => cases built.symm.trans missing
      | recovery other found fails =>
        obtain rfl := Option.some.inj (looped.symm.trans found)
        exact failed (ends.failure fails)
      | seeding other also index within fails =>
        obtain rfl := Option.some.inj (given.symm.trans also)
        exact unseeded (seedOrders_failed within (by rwa [Nat.zero_add]))

/-- For every store, the start ends; and a ready composition means that no active Run is left. -/
theorem ready_means_recovered (laws : library.TextLaws) (keeps : library.KeepsRuns)
    (projections : ProjectionLibrary) (environment : Environment) (store : Store) : ∃ startup,
    (∀ fuel, (activeRuns store.records).length < fuel →
      start library projections environment fuel store = some startup) ∧
      ReadyMeansRecovered environment store startup := by
  cases given : environment.fixture with
  | none =>
    refine ⟨refused store, fun fuel _ => ?_, refused_readyMeansRecovered store⟩
    rw [start, given]
  | some fixture =>
    cases built : environment.constructs with
    | false =>
      refine ⟨refused store, fun fuel _ => ?_, refused_readyMeansRecovered store⟩
      simp only [start, given, built, Bool.false_eq_true, if_false]
    | true =>
      have lowers : Rounds.Lowers (recoveryRound library environment) _ :=
        recoveryRound_lowers laws keeps
      obtain ⟨ended, bounded, found⟩ := lowers.exists_ended 0 store.records
      have ends := loopEnds_of_run laws keeps (found _ (Nat.lt_succ_self _))
      refine ⟨afterRecovery projections environment fixture store ended, fun fuel enough => ?_,
        afterRecovery_readyMeansRecovered given built ends bounded⟩
      simp only [start, given, built, if_true, found fuel enough, Option.map_some]

/-- A Run that a former process has left running. -/
def sampleRun : AgentRunRecord where
  runId := 1
  status := .running
  providerLane := "scripted"
  startedAt := .utc 1735689600000000

def sampleRunData (status : String) (completedAt stopReason incompleteReason : Json) : Fields :=
  [("run_id", ownText "00000000-0000-0000-0000-000000000001"), ("conversation_id", .null),
    ("status", ownText status), ("provider_lane", ownText "scripted"),
    ("started_at", ownText "2025-01-01T00:00:00Z"), ("completed_at", completedAt),
    ("stop_reason", stopReason), ("incomplete_reason", incompleteReason)]

/-- A library of the Run as it is left and as it ends. -/
def runLibrary : ModelLibrary := tableLibrary
  [(.agentRunRecord sampleRun, sampleRunData "RUNNING" .null .null .null),
    (.agentRunRecord
      { sampleRun with
        status := .incomplete
        completedAt := some (.utc 1735689601000000)
        stopReason := some .processRestartDetected
        incompleteReason := some processRestartDetected },
      sampleRunData "INCOMPLETE" (ownText "2025-01-01T00:00:01Z")
        (ownText "PROCESS_RESTART_DETECTED")
        (ownText "PROCESS_RESTART_DETECTED"))]

private theorem sampleRunId_isScalar :
    (ownText "00000000-0000-0000-0000-000000000001").isNativeScalar = true := rfl

/-- The row of the Run. -/
def sampleRunRow : P0RecordModel where
  toProjection := projectionOf
    { recordCode := .agentRunRecord
      recordSchemaVersion := "agent_run_record.p0.v1"
      logicalIdentity := [("run_id", ⟨_, sampleRunId_isScalar⟩)]
      payload :=
        { data := sampleRunData "RUNNING" .null .null .null
          recordCode := .agentRunRecord
          recordSchemaVersion := "agent_run_record.p0.v1" } } (.agentRunRecord sampleRun) none
  toRowStamp := ⟨1, .utc 1735689600000000⟩
  references := []

def sampleStore : Store where
  records := ⟨[sampleRunRow], List.nodup_singleton _, List.nodup_singleton _⟩
  orders := fun _ _ => none

/-- A start without faults and with nothing to seed. -/
def sampleEnvironment : Environment where
  fixture := some { orders := [] }
  constructs := true
  rounds _ :=
    { clock := .ok (.utc 1735689601000000)
      uuidFactory := fun index => .ok (index + 2)
      stamps := fun index => ⟨index + 2, .utc 1735689601000000⟩ }
  seedFails _ := false

def sampleProjections : ProjectionLibrary where
  modelValidate _ := none
  modelDump projection := .object [("order_number", .string projection.orderNumber)]

theorem ready_means_recovered_sample : ∃ startup,
    (∀ fuel, 1 < fuel →
      start runLibrary sampleProjections sampleEnvironment fuel sampleStore = some startup) ∧
      ReadyMeansRecovered sampleEnvironment sampleStore startup := by
  have laws : runLibrary.TextLaws := tableLibrary_textLaws _
  have keeps : runLibrary.KeepsRuns :=
    tableLibrary_keepsRuns (by decide) (by decide) (by decide)
  have one : (activeRuns sampleStore.records).length = 1 := by decide
  rw [← one]
  exact ready_means_recovered laws keeps sampleProjections sampleEnvironment sampleStore

end MiniAgent.Bootstrap
