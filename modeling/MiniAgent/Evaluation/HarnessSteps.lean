import MiniAgent.Evaluation.RunLane
import MiniAgent.Library.Meets

/-! # The steps of the harness

What the small steps of the harness return and raise, for any answers of the environment. Failures
are judged by a condition that is left open: it has to admit the failures that a run may end with by
design, the command error and what no `except Exception` catches.
-/

namespace MiniAgent.Evaluation

open MiniAgent.Core MiniAgent.Application ContractModel Coroutine

abbrev HarnessEvent := Event HarnessAnswer

/-- The command error, or a failure that is no `Exception`. -/
def Bounded (failure : EvalException) : Prop :=
  failure = .commandError ∨ failure.isException = false

/-- Which failures a part of the harness may raise after some events. -/
structure Lenient (raised : List HarnessEvent → EvalException → Prop) : Prop where
  admits : Admits raised
  bounded : ∀ events failure, Bounded failure → raised events failure

theorem lenient_anything : Lenient fun _ _ => True := ⟨fun _ _ _ => id, fun _ _ _ => trivial⟩

theorem Lenient.commandError {raised : List HarnessEvent → EvalException → Prop}
    (lenient : Lenient raised) (events : List HarnessEvent) : raised events .commandError :=
  lenient.bounded _ _ (.inl rfl)

variable {invariant : HarnessState → Prop} {raised : List HarnessEvent → EvalException → Prop}
  {α : Type}

theorem admits_constant (held : α → Prop) : Admits fun (_ : List HarnessEvent) value =>
    held value :=
  fun _ _ _ => id

theorem meets_isClosed (object : CheckedObject) :
    (isClosed object).Meets invariant (fun _ _ => True) raised :=
  (meets_ask _).weaken fun _ _ _ => trivial

theorem meets_singletonStateIsClosed :
    singletonStateIsClosed.Meets invariant (fun _ _ => True) raised :=
  (meets_ask _).weaken fun _ _ _ => trivial

theorem meets_restoreSingletonState :
    restoreSingletonState.Meets invariant (fun _ _ => True) raised :=
  (meets_ask _).weaken fun _ _ _ => trivial

/-- A copy is equal to the value. -/
theorem meets_detached (admits : Admits raised) (object : CheckedObject) (value : α) :
    (detached object value).Meets invariant
    (fun _ copy => ∀ found, copy = some found → found = value) raised := by
  refine (meets_isClosed object).andThen (admits_constant _) admits fun closed _ =>
    meets_pure fun found same => ?_
  split at same
  · exact (Option.some.inj same).symm
  · cases same

/-- What is caught is a failure that `except Exception` catches. -/
theorem meets_caught {action : Harness α} {met : List HarnessEvent → α → Prop}
    {thrown : List HarnessEvent → EvalException → Prop} (lenient : Lenient raised)
    (meets : action.Meets invariant met thrown) :
    (caught action).Meets invariant (fun events value => ∀ result, value = some result →
      met events result) raised := by
  unfold caught
  refine Meets.tryCatch (T := thrown) ?_ ?_
  · rw [map_eq_pure_bind]
    refine meets.bind fun value before holds => meets_pure fun result same => ?_
    rw [List.append_nil, ← Option.some.inj same]
    exact holds
  · intro failure before _
    split
    · exact meets_pure fun result => nofun
    · next other =>
      rw [Bool.not_eq_true] at other
      exact meets_throw (lenient.bounded _ _ (.inr other))

/-- The environment's reply, with the event that brought it. -/
theorem meets_reply (call : HarnessCall) (reply : HarnessAnswer call → Except EvalException α) :
    ((Coroutine.ask call : Harness (HarnessAnswer call)) >>= fun answer =>
      Coroutine.ofExcept (reply answer)).Meets
      invariant (fun events value => ∃ answer, reply answer = .ok value ∧ events = [⟨call, answer⟩])
      fun _ _ => True := by
  refine (meets_ask call).bind fun answer before called => meets_ofExcept ?_
  cases replied : reply answer with
  | ok value => exact ⟨answer, replied, by rw [called, List.append_nil]⟩
  | error failure => exact trivial

private theorem meets_writeFailure (lenient : Lenient raised)
    (failure : EvalExecutionFailureRecord) :
    (writeFailure failure).Meets invariant (fun _ _ => True) raised := by
  have admits := admits_constant fun _ : Bool => True
  unfold writeFailure
  refine (meets_isClosed _).skip admits lenient.admits fun closed => ?_
  split
  · exact meets_pure trivial
  refine (meets_caught lenient (meets_reply (.appendEvalExecutionFailure failure) id)).anyValue.skip
    admits
    lenient.admits fun appended => ?_
  extract_lets answered
  have answers (intact : Bool) : (answered intact).Meets invariant (fun _ _ => True) raised := by
    refine meets_singletonStateIsClosed.skip admits lenient.admits fun closed => ?_
    split
    · exact meets_restoreSingletonState.discard.skip admits lenient.admits fun restored =>
        meets_pure trivial
    · exact meets_pure trivial
  split
  · exact (meets_isClosed _).skip admits lenient.admits answers
  · exact answers false

/-- What a failure record needs, apart from the time. -/
structure FailureScope.WellFormed (scope : FailureScope) (harness : OfflineEvalHarness) : Prop where
  lane : scope.lane ≠ ""
  evalCase : ∀ evalCase, scope.evalCase = some evalCase → evalCase.caseId ≠ "" ∧ 1 ≤ scope.attempt
  versions : ∃ manifest, versionManifest harness.artifacts scope.evalCase scope.laneArtifact =
    .ok manifest

/-- The safe error code of a failure belongs to its phase. -/
def phaseHasCode (phase : EvalExecutionFailurePhase)
    (safeErrorCode : Option EvalExecutionSafeErrorCode) : Prop :=
  ∃ code, safeErrorCode.elim (failureCodeByPhase phase) .ok = .ok code ∧ evalErrorPhase code = phase

/-- A valid failure record under the identity. -/
def FailureOf (caseId : Option String) (failure : EvalExecutionFailureRecord) : Prop :=
  failure.caseId = caseId ∧ validates failure = true

private theorem failureOf_failureRecord {harness : OfflineEvalHarness} {scope : FailureScope}
    {phase : EvalExecutionFailurePhase} {traceRef : Option Uuid}
    {safeErrorCode : Option EvalExecutionSafeErrorCode} {occurredAt : Datetime}
    {failure : EvalExecutionFailureRecord}
    (built : failureRecord harness scope phase traceRef safeErrorCode occurredAt = .ok failure) :
    FailureOf (scope.evalCase.map (·.caseId)) failure := by
  simp only [failureRecord, Except.bind_eq_ok_iff, constructed_eq_ok_iff] at built
  obtain ⟨code, -, manifest, -, valid, rfl⟩ := built
  exact ⟨rfl, valid⟩

theorem versionManifest_validates {artifacts : LoadedE2E01Artifacts}
    {evalCase : Option EvalCaseArtifact} {lane : Option EvalLaneArtifact}
    {manifest : EvalVersionManifest}
    (built : versionManifest artifacts evalCase lane = .ok manifest) :
    validates manifest = true := by
  simp only [versionManifest, Except.bind_eq_ok_iff, constructed_eq_ok_iff] at built
  grind

private theorem failureRecord_total {harness : OfflineEvalHarness} {scope : FailureScope}
    {phase : EvalExecutionFailurePhase} {safeErrorCode : Option EvalExecutionSafeErrorCode}
    {occurredAt : Datetime} (wellFormed : scope.WellFormed harness)
    (coded : phaseHasCode phase safeErrorCode) (utc : occurredAt.requireUtc = true)
    (traceRef : Option Uuid) :
    ∃ failure, failureRecord harness scope phase traceRef safeErrorCode occurredAt =
    .ok failure := by
  obtain ⟨code, chosen, phased⟩ := coded
  obtain ⟨manifest, built⟩ := wellFormed.versions
  have valid := versionManifest_validates built
  simp only [failureRecord, chosen, built, Except.bind_eq_ok_iff, constructed_eq_ok_iff]
  refine ⟨_, code, rfl, manifest, rfl, ?_, rfl⟩
  have checks (failure : EvalExecutionFailureRecord) : validates failure =
    (failure.schemaVersion != "" &&
    failure.caseId.all (· != "") && failure.lane != "" && failure.attempt.all (1 ≤ ·) &&
    validates failure.versionManifest && failure.occurredAt.requireUtc &&
    !(failure.attempt.isSome && failure.caseId.isNone) &&
    evalErrorPhase failure.safeErrorCode == failure.failurePhase) := rfl
  have named : (scope.evalCase.map (·.caseId)).all (· != "") = true := by
    cases found : scope.evalCase with
    | none => rfl
    | some evalCase => simpa using (wellFormed.evalCase evalCase found).1
  have attempted : (scope.evalCase.map fun _ => scope.attempt).all (1 ≤ ·) = true := by
    cases found : scope.evalCase with
    | none => rfl
    | some evalCase => simpa using (wellFormed.evalCase evalCase found).2
  have lane : (scope.lane != "") = true := bne_iff_ne.mpr wellFormed.lane
  rw [checks, named, attempted, lane, valid, utc, phased]
  cases scope.evalCase <;> simp

/-- A failure is appended under the case of its scope; it is always built where the scope is well
formed. -/
theorem meets_appendFailure (lenient : Lenient raised) (harness : OfflineEvalHarness)
    (scope : FailureScope) (phase : EvalExecutionFailurePhase) (traceRef : Option Uuid)
    (safeErrorCode : Option EvalExecutionSafeErrorCode) (coded : phaseHasCode phase safeErrorCode)
    (malformed : ¬scope.WellFormed harness → ∀ events failure, raised events failure) :
    (appendFailure harness scope phase traceRef safeErrorCode).Meets invariant
      (fun _ failure => FailureOf (scope.evalCase.map (·.caseId)) failure) raised := by
  have admits := admits_constant (FailureOf (scope.evalCase.map (·.caseId)))
  unfold appendFailure
  refine meets_singletonStateIsClosed.skip admits lenient.admits fun closed => ?_
  extract_lets goOn
  have goesOn (unit_ : Unit) : (goOn unit_).Meets invariant
      (fun _ failure => FailureOf (scope.evalCase.map (·.caseId)) failure) raised := by
    refine (meets_caught lenient (meets_reply .clock id)).anyValue.skip admits lenient.admits
      fun reading => ?_
    split
    · next occurredAt detached =>
      have utc : occurredAt.requireUtc = true := by
        unfold detachedClosedDatetime at detached
        exact (Option.filter_eq_some_iff.mp detached).2
      refine meets_singletonStateIsClosed.skip admits lenient.admits fun closed => ?_
      have records : (do
          let failure ← Coroutine.ofExcept
            (failureRecord harness scope phase traceRef safeErrorCode occurredAt)
          if !(← writeFailure failure) then throw .commandError
          return failure : Harness EvalExecutionFailureRecord).Meets invariant
            (fun _ failure => FailureOf (scope.evalCase.map (·.caseId)) failure) raised := by
        refine Meets.andThen (P := FailureOf (scope.evalCase.map (·.caseId)))
          (meets_ofExcept ?_) admits lenient.admits fun failure named => ?_
        · cases built : failureRecord harness scope phase traceRef safeErrorCode occurredAt with
          | ok failure => exact failureOf_failureRecord built
          | error failure =>
            by_cases wellFormed : scope.WellFormed harness
            · obtain ⟨record, total⟩ := failureRecord_total wellFormed coded utc traceRef
              cases built.symm.trans total
            · exact malformed wellFormed _ _
        · refine (meets_writeFailure lenient failure).skip admits lenient.admits fun written => ?_
          split
          · exact meets_throw (lenient.commandError _)
          · exact meets_pure named
      split
      · exact meets_throw (lenient.commandError _)
      · exact records
    · exact meets_throw (lenient.commandError _)
  split
  · refine meets_restoreSingletonState.skip admits lenient.admits fun restored => ?_
    split
    · exact meets_throw (lenient.commandError _)
    · exact goesOn ()
  · exact goesOn ()

private theorem meets_writeResult (lenient : Lenient raised) (record : EvalResultRecord) :
    (writeResult record).Meets invariant (fun events reply => ∀ result, reply = some result →
      ⟨.appendEvalResult record, .ok (some result)⟩ ∈ events) raised := by
  unfold writeResult
  refine (meets_isClosed _).skip ?_ lenient.admits fun closed => ?_
  · exact fun before after reply member result same => List.mem_append_right _ (member result same)
  split
  · exact meets_pure fun result => nofun
  refine (meets_caught lenient (meets_reply (.appendEvalResult record) id)).andUse lenient.admits
    fun reply before replied => ?_
  have written (result : InsertOnlyWriteResult) (same : reply.join = some result) :
      (⟨.appendEvalResult record, .ok (some result)⟩ : HarnessEvent) ∈ before := by
    obtain ⟨answer, rfl, rfl⟩ := replied (some result) (Option.join_eq_some_iff.mp same)
    exact List.mem_singleton_self _
  have held : Admits fun (_ : List HarnessEvent) (answer : Option InsertOnlyWriteResult) =>
      answer = none ∨ answer = reply.join := admits_constant _
  suffices answers : Meets invariant _
      (fun _ answer => answer = none ∨ answer = reply.join) raised by
    refine answers.weaken fun after answer chosen result same =>
      List.mem_append_left _ (written result ?_)
    rcases chosen with rfl | rfl
    · cases same
    · exact same
  extract_lets answered
  have answers (intact : Bool) : (answered intact).Meets invariant
      (fun _ answer => answer = none ∨ answer = reply.join) raised := by
    refine meets_singletonStateIsClosed.skip held lenient.admits fun closed => ?_
    extract_lets settle
    have settles (unit_ : Unit) : (settle unit_).Meets invariant
        (fun _ answer => answer = none ∨ answer = reply.join) raised := by
      dsimp only [settle]
      split
      · exact meets_pure (.inr rfl)
      · exact meets_pure (.inl rfl)
    split
    · exact meets_restoreSingletonState.discard.skip held lenient.admits fun _ => settles ()
    · exact settles ()
  split
  · exact (meets_isClosed _).skip held lenient.admits answers
  · exact answers false

/-- Whether the stored record is loaded back equal. -/
private theorem meets_loadedEqual (lenient : Lenient raised) (record : EvalResultRecord) :
    (loadedEqual record).Meets invariant (fun events same => same = true →
      ⟨.loadEvalResult record.evalRunId record.caseId record.lane record.attempt,
        .ok (some record)⟩ ∈ events)
      raised := by
  unfold loadedEqual
  refine (meets_caught lenient
    (show Meets invariant _ (fun events existing => existing = some record →
      ⟨.loadEvalResult record.evalRunId record.caseId record.lane record.attempt,
        .ok (some record)⟩ ∈ events)
      (fun _ _ => True) from ?_)).andUse lenient.admits fun existing before loaded => ?_
  · refine (meets_detached (fun _ _ _ => id) (.uuid record.evalRunId) record.evalRunId).andThen ?_
      (fun _ _ _ => id)
      fun copy equal => ?_
    · exact fun before after existing member same => List.mem_append_right _ (member same)
    cases copy with
    | none => exact meets_throw trivial
    | some evalRunId =>
      obtain rfl := equal evalRunId rfl
      refine (meets_reply
        (.loadEvalResult record.evalRunId record.caseId record.lane record.attempt) id).weaken ?_
      rintro events existing ⟨answer, rfl, rfl⟩ same
      rw [same]
      exact List.mem_singleton_self _
  suffices answers : Meets invariant _
      (fun _ same => same = true → existing.join = some record) raised by
    refine answers.weaken fun after same equal holds => List.mem_append_left _ ?_
    exact loaded (some record) (Option.join_eq_some_iff.mp (equal holds)) rfl
  have held : Admits fun (_ : List HarnessEvent) (same : Bool) => same = true →
      existing.join = some record :=
    admits_constant _
  refine meets_singletonStateIsClosed.skip held lenient.admits fun closed => ?_
  extract_lets answered
  have answers (unit_ : Unit) : (answered unit_).Meets invariant
      (fun _ same => same = true → existing.join = some record) raised := by
    dsimp only [answered]
    split
    · next both =>
      simp only [Bool.and_eq_true, beq_iff_eq] at both
      exact (meets_isClosed _).weaken fun _ _ _ _ => both.2
    · exact meets_pure nofun
  split
  · exact meets_restoreSingletonState.discard.skip held lenient.admits fun _ => answers ()
  · exact answers ()

/-- The result port took the record, or has it. -/
def Acknowledged (events : List HarnessEvent) (record : EvalResultRecord) : Prop :=
  ⟨.appendEvalResult record, .ok (some .inserted)⟩ ∈ events ∨
    (⟨.appendEvalResult record, .ok (some .alreadyExists)⟩ ∈ events ∧
      ⟨.loadEvalResult record.evalRunId record.caseId record.lane record.attempt,
        .ok (some record)⟩ ∈ events)

theorem Acknowledged.mono {before after : List HarnessEvent} {record : EvalResultRecord}
    (acknowledged : Acknowledged before record) (part : before ⊆ after) :
    Acknowledged after record := by
  rcases acknowledged with inserted | ⟨exists_, loaded⟩
  · exact .inl (part inserted)
  · exact .inr ⟨part exists_, part loaded⟩

/-- What became of a record that was to be persisted. -/
def Persisted (record : EvalResultRecord) (caseId : String) (events : List HarnessEvent) :
    Except EvalExecutionFailureRecord EvalResultRecord → Prop
  | .ok result => result = record ∧ Acknowledged events record
  | .error failure => FailureOf (some caseId) failure

theorem Persisted.mono {record : EvalResultRecord} {caseId : String}
    {before after : List HarnessEvent}
    {outcome : Except EvalExecutionFailureRecord EvalResultRecord}
    (persisted : Persisted record caseId before outcome) (part : before ⊆ after) :
    Persisted record caseId after outcome := by
  cases outcome with
  | ok result => exact ⟨persisted.1, persisted.2.mono part⟩
  | error failure => exact persisted

/-- More events in front, whatever the events before them. -/
theorem admits_persisted (record : EvalResultRecord) (caseId : String)
    (earlier : List HarnessEvent := []) :
    Admits fun events outcome => Persisted record caseId (earlier ++ events) outcome := by
  intro before after outcome persisted
  refine persisted.mono (List.append_subset.mpr ⟨List.subset_append_left _ _, ?_⟩)
  exact List.subset_append_of_subset_right _ (List.subset_append_right _ _)

/-- The scope of a failure to persist a record. -/
def recordScope (record : EvalResultRecord) (evalCase : EvalCaseArtifact)
    (laneArtifact : EvalLaneArtifact) :
    FailureScope :=
  { evalRunId := record.evalRunId, lane := record.lane, evalCase := some evalCase,
    attempt := record.attempt
    laneArtifact := some laneArtifact }

theorem meets_appendResult (lenient : Lenient raised) (harness : OfflineEvalHarness)
    (record : EvalResultRecord) (evalCase : EvalCaseArtifact) (laneArtifact : EvalLaneArtifact)
    (malformed : ¬(recordScope record evalCase laneArtifact).WellFormed harness →
      ∀ events failure, raised events failure) :
    (appendResult harness record evalCase laneArtifact).Meets invariant
    (Persisted record evalCase.caseId) raised := by
  unfold appendResult
  refine (meets_writeResult lenient record).andUse lenient.admits fun written before replied => ?_
  have appends : Meets invariant (do
      return .error (← appendFailure harness (recordScope record evalCase laneArtifact)
        .resultPersistence
        record.traceRef) : Harness (Except EvalExecutionFailureRecord EvalResultRecord))
      (Persisted record evalCase.caseId) raised := by
    refine (meets_appendFailure lenient harness _ .resultPersistence record.traceRef none
      ⟨.resultPersistenceFailed, rfl, rfl⟩ malformed).andThen (admits_persisted _ _) lenient.admits
      fun failure named => meets_pure ?_
    exact named
  extract_lets scope decide_
  have decides (acknowledged : Bool) (earlier : List HarnessEvent)
      (holds : acknowledged = true → Acknowledged earlier record) :
      (decide_ acknowledged).Meets invariant
        (fun after outcome => Persisted record evalCase.caseId (earlier ++ after) outcome)
            raised := by
    dsimp only [decide_]
    split
    · next acknowledged =>
      refine meets_pure ⟨rfl, ?_⟩
      rw [List.append_nil]
      exact holds acknowledged
    · exact appends.weaken fun after outcome persisted =>
        persisted.mono (List.subset_append_right _ _)
  rcases written with _ | _ | _
  · exact decides false before nofun
  · exact decides true before fun _ => .inl (replied _ rfl)
  · refine (meets_loadedEqual lenient record).andUse lenient.admits fun same middle loaded => ?_
    simp only [← List.append_assoc]
    refine decides same (before ++ middle) fun equal => .inr ⟨?_, ?_⟩
    · exact List.mem_append_left _ (replied _ rfl)
    · exact List.mem_append_right _ (loaded equal)

end MiniAgent.Evaluation
