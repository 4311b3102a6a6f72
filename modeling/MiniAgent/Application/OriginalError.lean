import MiniAgent.Application.RunCommit

/-! # The original error of a failed Run

The exceptional closure runs while an exception is already raised. It may add notes to that
exception, and it attempts one FAILED finalization of a started Run. Two of its constructions stand
outside the guarded part, the terminal link and the terminal Run; they and the finalization command
decide whether the original error survives. The condition is on the failure cursor, the Task that
was loaded again and the clock reading.
-/

namespace MiniAgent.Application

open MiniAgent.Core ContractModel
open Coroutine

namespace RunFailureState

variable (state : RunFailureState)

/-- The records of a cursor are validated models. -/
structure WellFormed : Prop where
  run : ∀ run, state.runningRun = some run → validates run = true
  link : ∀ link, state.activeLink = some link → validates link = true
  task : ∀ task, state.resultTask = some task → validates task = true

/-- The Run was started, and the cursor has the active link and its Task or neither. -/
structure Complete (run : AgentRunRecord) : Prop where
  started : state.runningRun = some run
  graph : state.activeLink.isSome = state.resultTask.isSome

end RunFailureState

/-- The Task that a load of the closure returned. -/
def reloadedTask : Event Answer → Option TaskRecord
  | ⟨.port (.loadTaskForOwner ..), answer⟩ => RunView.loadedTask answer
  | _ => none

/-- The Task at which the closure closes the active link. -/
def closingTask (state : RunFailureState) (events : List (Event Answer)) : Option TaskRecord :=
  (events.findSome? reloadedTask).or state.resultTask

/-- What a closure needs: a RUNNING Run, a reading that is UTC and not before its start, and a Task
at which the active link can be closed. -/
structure ClosureNeeds (state : RunFailureState) (run : AgentRunRecord)
    (events : List (Event Answer)) : Prop where
  running : IsRunning run
  reading : ∀ completedAt, events.findSome? reading = some completedAt → Projectable run completedAt
  link : ∀ link task, state.activeLink = some link → closingTask state events = some task →
    LinkFits run link task ∧ ∀ base ∈ link.baseTaskStateVersion, base ≤ task.stateVersion

/-- The original exception, with notes added to it at most. -/
structure Raised.Noted (original noted : Raised) : Prop where
  kind : noted.kind = original.kind
  notes : original.notes <+: noted.notes

/-- The closure returned the original exception. -/
def Survives (original : Raised) (outcome : Except Raised Raised) : Prop :=
  ∃ noted, outcome = .ok noted ∧ original.Noted noted

/-- A FAILED finalization of the Run was requested. -/
def AttemptsFailure (run : AgentRunRecord) (events : List (Event Answer)) : Prop :=
  ∃ command, Attempted command events ∧ command.expectedActiveRecord = run ∧
    command.terminalRecord.status = .failed

theorem Raised.Noted.refl (original : Raised) : original.Noted original := ⟨rfl, List.prefix_rfl⟩

theorem Raised.Noted.addNote {original noted : Raised} (same : original.Noted noted)
    (note : String) :
    original.Noted (noted.addNote note) := ⟨same.kind, same.notes.trans (List.prefix_append _ _)⟩

section Attempt

variable {state : RunFailureState} {run : AgentRunRecord} {original noted : Raised}
  {links : Option (RunTaskLinkRecord × RunTaskLinkRecord × TaskRecord)}

/-- The attempt keeps the error exactly if the terminal Run can be projected. -/
structure AttemptEnds (run : AgentRunRecord)
    (links : Option (RunTaskLinkRecord × RunTaskLinkRecord × TaskRecord)) (original : Raised)
    (completedAt : Datetime) (outcome : Except Raised Raised) (rest : List (Event Answer)) :
    Prop where
  finalizes : FinalizesFailure run links completedAt rest
  survives : Survives original outcome ↔ validates (failedRun run completedAt) = true

private theorem attemptFailure_ends (same : original.Noted noted) :
    (attemptFailure run links noted).Ensures state fun outcome _ events =>
      ∃ completedAt rest, events = ⟨.clock, completedAt⟩ :: rest ∧
        AttemptEnds run links original completedAt outcome rest := by
  have survives : (attemptFailure run links noted).Ensures state fun outcome _ events =>
      ∀ completedAt rest, events = ⟨.clock, completedAt⟩ :: rest →
        (Survives original outcome ↔ validates (failedRun run completedAt) = true) := by
    refine ensures_ask_bind_iff.mpr fun completedAt => ?_
    suffices kept : Ensures _ state fun outcome _ _ =>
        (Survives original outcome ↔ validates (failedRun run completedAt) = true) from
      kept.mono fun outcome _ rest survives other otherRest equal => by
        obtain ⟨read, -⟩ := List.cons.inj equal
        cases read
        exact survives
    apply constructed_bind
    · intro projected
      have returned {kept : Raised} (noted : original.Noted kept) :
          Survives original (.ok kept) ↔ validates (failedRun run completedAt) = true :=
        iff_of_true ⟨kept, rfl, noted⟩ projected
      rw [ensures_bind_iff, ensures_tryCatch_iff]
      apply constructed_bind
      · intro valid
        apply request_bind
        · intro result
          rw [ensures_pure_iff]
          cases result with
          | applied => exact ensures_pure_iff.mpr (returned same)
          | _ => exact ensures_pure_iff.mpr (returned (same.addNote _))
        · intro raised
          exact ensures_pure_iff.mpr (ensures_pure_iff.mpr (returned (same.addNote _)))
      · intro invalid
        exact ensures_pure_iff.mpr (ensures_pure_iff.mpr (returned (same.addNote _)))
    · intro unprojected
      apply iff_of_false
      · rintro ⟨kept, failed, -⟩
        cases failed
      · rw [unprojected]
        exact Bool.false_ne_true
  refine ((attemptFailure_spec run links noted).and survives).mono ?_
  rintro outcome _ events ⟨⟨completedAt, rest, rfl, finalizes⟩, survives⟩
  exact ⟨completedAt, rest, rfl, finalizes, survives completedAt rest rfl⟩

/-- The attempt keeps the error and requests the finalization exactly if the terminal Run can be
projected and the command validates; it loads no Task. -/
private theorem attemptFailure_iff (valid : validates run = true) (same : original.Noted noted) :
    (attemptFailure run links noted).Ensures state fun outcome _ events =>
      (∀ event ∈ events, reloadedTask event = none) ∧
        ((Survives original outcome ∧ AttemptsFailure run events) ↔
          ∃ completedAt, events.findSome? reading = some completedAt ∧ Projectable run completedAt ∧
            validates (failureCommand run (failedRun run completedAt) links) = true) := by
  refine (attemptFailure_ends same).mono ?_
  rintro outcome _ events ⟨completedAt, rest, rfl, finalizes, survives⟩
  have projects : validates (failedRun run completedAt) = true ↔ Projectable run completedAt :=
    failedRun_valid_iff valid
  have refused (rest_nil : rest = []) (needs : ¬(Projectable run completedAt ∧
      validates (failureCommand run (failedRun run completedAt) links) = true)) :
      (∀ event ∈ ⟨.clock, completedAt⟩ :: rest, reloadedTask event = none) ∧
        ((Survives original outcome ∧ AttemptsFailure run (⟨.clock, completedAt⟩ :: rest)) ↔
          ∃ read, (⟨.clock, completedAt⟩ :: rest).findSome? reading = some read ∧
          Projectable run read ∧
            validates (failureCommand run (failedRun run read) links) = true) := by
    subst rest_nil
    refine ⟨List.forall_mem_singleton.mpr rfl, iff_of_false ?_ ?_⟩
    · rintro ⟨-, command, ⟨answer, member⟩, -⟩
      cases List.mem_singleton.mp member
    · rintro ⟨read, found, projectable, checked⟩
      obtain rfl := Option.some.inj found
      exact needs ⟨projectable, checked⟩
  by_cases projected : validates (failedRun run completedAt) = true
  · by_cases checked : validates (failureCommand run (failedRun run completedAt) links) = true
    · obtain ⟨answer, rfl⟩ := finalizes.valid projected checked
      constructor
      · intro event member
        rcases List.mem_cons.mp member with rfl | member
        · rfl
        · obtain rfl := List.mem_singleton.mp member
          rfl
      · apply iff_of_true
        · exact ⟨survives.mpr projected, _, ⟨answer, List.mem_cons_of_mem _ List.mem_cons_self⟩,
            rfl, rfl⟩
        · exact ⟨completedAt, rfl, projects.mp projected, checked⟩
    · apply refused
      · exact finalizes.invalid fun both => checked both.2
      · exact fun both => checked both.2
  · apply refused
    · exact finalizes.invalid fun both => projected both.1
    · exact fun both => projected (projects.mpr both.1)

end Attempt

section Closure

variable {state : RunFailureState} {run : AgentRunRecord} {original noted : Raised}
  {link : RunTaskLinkRecord}
  {task : TaskRecord}

/-- Without a link the closure needs a RUNNING Run and a fitting reading. -/
private theorem attemptUnlinked_iff (valid : validates run = true) (same : original.Noted noted)
    (unlinked : state.activeLink = none) :
    (attemptFailure run none noted).Ensures state fun outcome _ events =>
      (Survives original outcome ∧ AttemptsFailure run events) ↔ ClosureNeeds state run events := by
  refine ((attemptFailure_ends same).and (attemptFailure_iff valid same)).mono ?_
  rintro outcome _ events ⟨⟨completedAt, rest, rfl, -⟩, -, attempts⟩
  rw [attempts]
  constructor
  · rintro ⟨read, found, projectable, checked⟩
    have projected := (failedRun_valid_iff valid).mpr projectable
    refine ⟨(unlinkedFailure_valid_iff valid projected).mp checked, ?_, by simp [unlinked]⟩
    intro other otherFound
    obtain rfl := Option.some.inj (found.symm.trans otherFound)
    exact projectable
  · intro needs
    have projectable := needs.reading completedAt rfl
    exact ⟨completedAt, rfl, projectable,
      (unlinkedFailure_valid_iff valid ((failedRun_valid_iff valid).mpr projectable)).mpr
        needs.running⟩

/-- The rest of a closure with a link, after its Task was loaded again. -/
def closeLink (run : AgentRunRecord) (link : RunTaskLinkRecord) (task : TaskRecord)
    (noted : Raised) : Service Raised := do
  let closed ← constructed (terminalLink link task)
  attemptFailure run (some (link, closed, task)) noted

private theorem closeLink_iff (valid : validates run = true) (link_valid : validates link = true)
    (task_valid : validates task = true) (same : original.Noted noted) :
    (closeLink run link task noted).Ensures state fun outcome _ events =>
      (∀ event ∈ events, reloadedTask event = none) ∧
        ((Survives original outcome ∧ AttemptsFailure run events) ↔
          IsRunning run ∧ (∀ completedAt, events.findSome? reading = some completedAt →
            Projectable run completedAt) ∧
            LinkFits run link task ∧ ∀ base ∈ link.baseTaskStateVersion,
            base ≤ task.stateVersion) := by
  apply constructed_bind
  · intro closed
    refine ((attemptFailure_ends same).and (attemptFailure_iff valid same)).mono ?_
    rintro outcome _ events ⟨⟨completedAt, rest, rfl, -⟩, silent, attempts⟩
    refine ⟨silent, attempts.trans ?_⟩
    constructor
    · rintro ⟨read, found, projectable, checked⟩
      have projected := (failedRun_valid_iff valid).mpr projectable
      obtain ⟨running, fits⟩ :=
        (linkedFailure_valid_iff valid projected link_valid closed task_valid).mp checked
      refine ⟨running, ?_, fits, (terminalLink_valid_iff link_valid task_valid).mp closed⟩
      intro other otherFound
      obtain rfl := Option.some.inj (found.symm.trans otherFound)
      exact projectable
    · rintro ⟨running, projects, fits, -⟩
      have projectable := projects completedAt rfl
      exact ⟨completedAt, rfl, projectable,
        (linkedFailure_valid_iff valid ((failedRun_valid_iff valid).mpr projectable)
        link_valid closed task_valid).mpr ⟨running, fits⟩⟩
  · intro unclosed
    refine ⟨List.forall_mem_nil _, iff_of_false ?_ ?_⟩
    · rintro ⟨⟨kept, failed, -⟩, -⟩
      cases failed
    · rintro ⟨-, -, -, notBehind⟩
      exact absurd ((terminalLink_valid_iff link_valid task_valid).mpr notBehind)
        (by simp [unclosed])

/-- What is true of a closure after the Task of the link was loaded again. -/
private theorem needs_after_reload {outcome : Except Raised Raised}
    {before after : List (Event Answer)} (linked : state.activeLink = some link)
    (loaded : closingTask state before = some task)
    (before_silent : ∀ event ∈ before, reading event = none ∧
      event.call.milestone ≠ some .finalizeRun)
    (after_silent : ∀ event ∈ after, reloadedTask event = none)
    (ends : (Survives original outcome ∧ AttemptsFailure run after) ↔
      IsRunning run ∧ (∀ completedAt, after.findSome? reading = some completedAt →
        Projectable run completedAt) ∧
        LinkFits run link task ∧ ∀ base ∈ link.baseTaskStateVersion, base ≤ task.stateVersion) :
    (Survives original outcome ∧ AttemptsFailure run (before ++ after)) ↔
    ClosureNeeds state run (before ++ after) := by
  have attempts : AttemptsFailure run (before ++ after) ↔ AttemptsFailure run after := by
    constructor
    · rintro ⟨command, ⟨answer, member⟩, expected, failed⟩
      rcases List.mem_append.mp member with member | member
      · exact absurd rfl (before_silent _ member).2
      · exact ⟨command, ⟨answer, member⟩, expected, failed⟩
    · rintro ⟨command, ⟨answer, member⟩, expected, failed⟩
      exact ⟨command, ⟨answer, List.mem_append_right _ member⟩, expected, failed⟩
  have read : (before ++ after).findSome? reading = after.findSome? reading := by
    rw [List.findSome?_append, List.findSome?_eq_none_iff.mpr fun event member =>
      (before_silent event member).1]
    rfl
  have task_same : closingTask state (before ++ after) = some task := by
    rw [closingTask, List.findSome?_append, List.findSome?_eq_none_iff.mpr after_silent,
      Option.or_none]
    exact loaded
  rw [attempts, ends]
  constructor
  · rintro ⟨running, projects, fits⟩
    refine ⟨running, read ▸ projects, ?_⟩
    intro other otherTask otherLinked otherLoaded
    obtain rfl := Option.some.inj (linked.symm.trans otherLinked)
    obtain rfl := Option.some.inj (task_same.symm.trans otherLoaded)
    exact fits
  · intro needs
    exact ⟨needs.running, read ▸ needs.reading, needs.link link task linked task_same⟩

/-- The Task of the cursor is loaded again; a failed load is a note. -/
private theorem reloadResultTask_noted (ownerScope : TrustedOwnerScope) (task : TaskRecord)
    (original : Raised) :
    (reloadResultTask (some ownerScope) task original).Ensures state fun outcome _ events =>
      ∃ answer noted, original.Noted noted ∧
      events = [⟨.port (.loadTaskForOwner ownerScope task.taskId), answer⟩] ∧
        outcome = .ok ((RunView.loadedTask answer).getD task, noted) := by
  refine ensures_bind_iff.mpr
    (ensures_tryCatch_iff.mpr (request_bind (fun reply => ensures_pure_iff.mpr ?_)
    fun raised => ensures_pure_iff.mpr ?_))
  · cases reply with
    | none => exact ensures_pure_iff.mpr ⟨.ok none, original, .refl original, rfl, rfl⟩
    | some found =>
      exact ensures_bind_iff.mpr (ensures_modify_iff.mpr
        (ensures_pure_iff.mpr ⟨.ok (some found), original, .refl original, rfl, rfl⟩))
  · exact ensures_pure_iff.mpr ⟨.error raised, _, (Raised.Noted.refl original).addNote _, rfl, rfl⟩

private theorem closeLinked_iff (wellFormed : state.WellFormed)
    (started : state.runningRun = some run) (linked : state.activeLink = some link)
    (cached : state.resultTask = some task) (original : Raised) :
    (do
      let (resultTask, noted) ← reloadResultTask state.ownerScope task original
      closeLink run link resultTask noted).Ensures state fun outcome _ events =>
        (Survives original outcome ∧ AttemptsFailure run events) ↔
        ClosureNeeds state run events := by
  have valid := wellFormed.run run started
  have link_valid := wellFormed.link link linked
  have task_valid := wellFormed.task task cached
  cases owner : state.ownerScope with
  | none =>
    refine (closeLink_iff valid link_valid task_valid (.refl original)).mono ?_
    rintro outcome _ events ⟨silent, ends⟩
    have loaded : closingTask state [] = some task := cached
    exact needs_after_reload linked loaded (List.forall_mem_nil _) silent ends
  | some ownerScope =>
    rw [ensures_bind_iff]
    refine (reloadResultTask_noted ownerScope task original).mono ?_
    rintro _ middle _ ⟨answer, noted, same, rfl, rfl⟩
    have loaded : closingTask state [⟨.port (.loadTaskForOwner ownerScope task.taskId), answer⟩] =
        some ((RunView.loadedTask answer).getD task) := by
      have found : reloadedTask ⟨.port (.loadTaskForOwner ownerScope task.taskId), answer⟩ =
        RunView.loadedTask answer := rfl
      rw [closingTask, cached, List.findSome?_cons, found]
      cases RunView.loadedTask answer <;> rfl
    have fresh_valid : validates ((RunView.loadedTask answer).getD task) = true := by
      cases found : RunView.loadedTask answer with
      | none => exact task_valid
      | some other => exact loadedTask_valid found
    refine (closeLink_iff valid link_valid fresh_valid same).mono ?_
    rintro outcome _ events ⟨silent, ends⟩
    exact needs_after_reload linked loaded (List.forall_mem_singleton.mpr ⟨rfl, nofun⟩) silent ends

/-- From a failure cursor with a Run, the closure keeps the original error, and requests the FAILED
finalization of a complete cursor, exactly if it has what it needs. -/
private theorem finalizeFailedRunAfterError_survives_iff (wellFormed : state.WellFormed)
    (original : Raised) :
    (finalizeFailedRunAfterError original).Ensures state fun outcome _ events =>
      (Survives original outcome ∧ ∀ run, state.Complete run → AttemptsFailure run events) ↔
        ∀ run, state.Complete run → ClosureNeeds state run events := by
  unfold finalizeFailedRunAfterError
  rw [ensures_bind_iff, ensures_read_iff]
  dsimp only
  have kept : Survives original (.ok original) := ⟨original, rfl, .refl original⟩
  have withRun {action : Service Raised} {run : AgentRunRecord} (complete : state.Complete run)
      (ends : action.Ensures state fun outcome _ events =>
        (Survives original outcome ∧ AttemptsFailure run events) ↔ ClosureNeeds state run events) :
      action.Ensures state fun outcome _ events =>
        (Survives original outcome ∧ ∀ run, state.Complete run → AttemptsFailure run events) ↔
          ∀ run, state.Complete run → ClosureNeeds state run events := by
    have only : ∀ other, state.Complete other → other = run := fun other otherComplete =>
      Option.some.inj (otherComplete.started.symm.trans complete.started)
    refine ends.mono fun outcome _ events survives => ?_
    constructor
    · rintro ⟨survived, attempts⟩ other otherComplete
      obtain rfl := only other otherComplete
      exact survives.mp ⟨survived, attempts other otherComplete⟩
    · intro needs
      obtain ⟨survived, attempted⟩ := survives.mpr (needs run complete)
      refine ⟨survived, fun other otherComplete => ?_⟩
      obtain rfl := only other otherComplete
      exact attempted
  cases started : state.runningRun with
  | none =>
    have unstarted : ∀ run, ¬state.Complete run := fun run complete => by
      cases started.symm.trans complete.started
    exact ensures_pure_iff.mpr
      (iff_of_true ⟨kept, fun run complete => absurd complete (unstarted run)⟩
      fun run complete => absurd complete (unstarted run))
  | some run =>
    cases linked : state.activeLink with
    | none =>
      cases cached : state.resultTask with
      | none =>
        apply withRun ⟨started, by rw [linked, cached]; rfl⟩
        exact attemptUnlinked_iff (wellFormed.run run started) (.refl original) linked
      | some task =>
        have incomplete : ∀ run, ¬state.Complete run := fun run complete => by
          have graph := complete.graph
          rw [linked, cached] at graph
          cases graph
        exact ensures_pure_iff.mpr (iff_of_true
          ⟨⟨_, rfl, (Raised.Noted.refl original).addNote _⟩,
            fun run complete => absurd complete (incomplete run)⟩
          fun run complete => absurd complete (incomplete run))
    | some link =>
      cases cached : state.resultTask with
      | none =>
        have incomplete : ∀ run, ¬state.Complete run := fun run complete => by
          have graph := complete.graph
          rw [linked, cached] at graph
          cases graph
        exact ensures_pure_iff.mpr (iff_of_true
          ⟨⟨_, rfl, (Raised.Noted.refl original).addNote _⟩,
            fun run complete => absurd complete (incomplete run)⟩
          fun run complete => absurd complete (incomplete run))
      | some task =>
        apply withRun ⟨started, by rw [linked, cached]; rfl⟩
        exact closeLinked_iff wellFormed started linked cached original

theorem Tracks.wellFormed {view : RunView} (tracks : Tracks state view) : state.WellFormed where
  run run started := (tracks.sound.run run (tracks.run ▸ started)).1
  link link linked := (tracks.sound.link link (tracks.link ▸ linked)).1
  task task cached := by
    apply tracks.sound.fresh
    rw [RunView.freshestTask, tracks.unloaded, ← tracks.task, cached]
    rfl

/-- What a run of the service that raised says of the error of its turn. -/
def ReraisesOriginal (service : AgentRunService) (command : AgentRunCommand) (raised : Raised)
    (events : List (Event Answer)) : Prop :=
  ∃ original state before closing, events = before ++ closing ∧
    (handleTurn service command {}).Runs before (.error original, state) ∧ state.WellFormed ∧
      ((∀ run, state.Complete run → ClosureNeeds state run closing) →
        original.Noted raised ∧ ∀ run, state.Complete run → AttemptsFailure run closing)

private theorem closeAfterError_reraises (wellFormed : state.WellFormed)
    (uncommitted : state.committedResult = none) (original : Raised) :
    (closeAfterError original).Ensures state fun outcome _ events =>
    ∀ raised, outcome = .error raised →
      (∀ run, state.Complete run → ClosureNeeds state run events) →
        original.Noted raised ∧ ∀ run, state.Complete run → AttemptsFailure run events := by
  unfold closeAfterError
  rw [ensures_bind_iff, ensures_read_iff]
  dsimp only
  rw [uncommitted]
  dsimp only
  rw [ensures_bind_iff]
  refine (finalizeFailedRunAfterError_survives_iff wellFormed original).mono ?_
  intro outcome final events survives
  cases outcome with
  | error failure =>
    intro raised _ needs
    obtain ⟨⟨kept, failed, -⟩, -⟩ := survives.mpr needs
    cases failed
  | ok noted =>
    refine ensures_throw_iff.mpr fun raised same needs => ?_
    obtain rfl := Except.error.inj same
    rw [List.nil_append, List.append_nil] at needs ⊢
    obtain ⟨⟨kept, returned, onlyNotes⟩, attempts⟩ := survives.mpr needs
    obtain rfl := Except.ok.inj returned
    exact ⟨onlyNotes, attempts⟩

/-- From every failure cursor the closure returns the original error with notes at most, and
requests the FAILED finalization of a complete cursor, exactly if it has what it needs; the service
then raises that error again. -/
theorem original_error_survives_iff (service : AgentRunService) (command : AgentRunCommand)
    (state : RunFailureState) (original : Raised) (wellFormed : state.WellFormed) :
    ((finalizeFailedRunAfterError original).Ensures state fun outcome _ events =>
      (Survives original outcome ∧ ∀ run, state.Complete run → AttemptsFailure run events) ↔
        ∀ run, state.Complete run → ClosureNeeds state run events) ∧
    (handle service command).Ensures {} fun outcome _ events =>
      ∀ raised, outcome = .error raised → ReraisesOriginal service command raised events := by
  constructor
  · exact finalizeFailedRunAfterError_survives_iff wellFormed original
  · unfold handle
    rw [ensures_tryCatch_iff]
    have ran : (handleTurn service command).Ensures {} fun outcome final events =>
        (handleTurn service command {}).Runs events (outcome, final) := fun _ _ _ run => run
    refine ((handleTurn_ends service command).and ran).mono ?_
    rintro outcome state before ⟨ends, run⟩
    cases outcome with
    | ok result => exact fun _ => nofun
    | error original =>
      obtain ⟨tracks, -⟩ := ends
      refine (closeAfterError_reraises tracks.wellFormed tracks.uncommitted original).mono ?_
      intro outcome _ closing reraises raised same
      exact ⟨original, state, before, closing, rfl, run, tracks.wellFormed, reraises raised same⟩

end Closure

/-- The cursor of a Run that was started at the first microsecond. -/
def startedState : RunFailureState where
  runningRun := some
    { runId := 1, conversationId := some 2, status := .running, providerLane := "lane",
      startedAt := .utc 1 }

private theorem startedState_wellFormed : startedState.WellFormed where
  run run started := by
    obtain rfl := Option.some.inj started
    decide
  link _ linked := nomatch linked
  task _ cached := nomatch cached

/-- The closure of that cursor, with every write applied, at a clock reading. -/
def closureAt (completedAt : Datetime) :
    List (Event Answer) × Except Raised Raised × RunFailureState :=
  (finalizeFailedRunAfterError runtimeError startedState).simulate
    (exampleWorld (fun _ => completedAt) fun _ => .error runtimeError) []

private theorem closureAt_runs (completedAt : Datetime) :
    (finalizeFailedRunAfterError runtimeError startedState).Runs (closureAt completedAt).1
    (closureAt completedAt).2 :=
  Program.runs_simulate _ _ _

/-- The cursor of the same Run with a link that is open and its Task, as it was when it was
created. -/
def linkedState : RunFailureState where
  runningRun := startedState.runningRun
  activeLink := some { schemaVersion := runTaskLinkSchemaVersion, runId := 1, taskId := 3 }
  resultTask := some
    { taskId := 3, ownerCustomerId := "customer-1", status := .active, stateVersion := 1,
      createdAt := .utc 1, updatedAt := .utc 1 }
  ownerScope := some ⟨"customer-1"⟩

private theorem linkedState_wellFormed : linkedState.WellFormed where
  run := startedState_wellFormed.run
  link link linked := by
    obtain rfl := Option.some.inj linked
    decide
  task task cached := by
    obtain rfl := Option.some.inj cached
    decide

/-- The closure of that cursor at a later reading, where the Task has moved on since. -/
def linkedClosure : List (Event Answer) × Except Raised Raised × RunFailureState :=
  (finalizeFailedRunAfterError runtimeError linkedState).simulate
    (fun history call => match call with
      | .port (.loadTaskForOwner ..) => .ok (some
        ⟨{ taskId := 3, ownerCustomerId := "customer-1", status := .blocked, stateVersion := 2,
           createdAt := .utc 1, updatedAt := .utc 2 }, by decide⟩)
      | call => exampleWorld (fun _ => .utc 2) (fun _ => .error runtimeError) history call) []

private theorem linkedClosure_runs :
    (finalizeFailedRunAfterError runtimeError linkedState).Runs linkedClosure.1 linkedClosure.2 :=
  Program.runs_simulate _ _ _

/-- At a later reading the original error survives, also where a link has to be closed at a Task. -/
theorem original_error_survives_later :
    Survives runtimeError (closureAt (.utc 2)).2.1 ∧ Survives runtimeError linkedClosure.2.1 := by
  constructor
  · have survives :=
      (original_error_survives_iff exampleService exampleCommand startedState runtimeError
      startedState_wellFormed).1 _ _ _ (closureAt_runs (.utc 2))
    refine (survives.mpr fun run complete => ?_).1
    obtain rfl := Option.some.inj complete.started
    refine ⟨⟨rfl, rfl⟩, fun completedAt read => ?_, fun link task linked => nomatch linked⟩
    obtain rfl := Option.some.inj read
    exact ⟨rfl, by decide⟩
  · have survives :=
      (original_error_survives_iff exampleService exampleCommand linkedState runtimeError
      linkedState_wellFormed).1 _ _ _ linkedClosure_runs
    refine (survives.mpr fun run complete => ?_).1
    obtain rfl := Option.some.inj complete.started
    refine ⟨⟨rfl, rfl⟩, fun completedAt read => ?_, fun link task linked closing => ?_⟩
    · obtain rfl := Option.some.inj read
      exact ⟨rfl, by decide⟩
    · obtain rfl := Option.some.inj linked
      obtain rfl := Option.some.inj closing
      exact ⟨⟨rfl, rfl, rfl⟩, by simp⟩

/-- At an earlier reading the closure of a started Run raises a validation error in place of the
original one, and requests no finalization. -/
theorem clock_behind_masks_error : startedState.WellFormed ∧ (∃ run, startedState.Complete run) ∧
    (finalizeFailedRunAfterError runtimeError startedState).Runs (closureAt (.utc 0)).1
    (closureAt (.utc 0)).2 ∧
    (closureAt (.utc 0)).2.1 = .error .validationError ∧
    ¬Survives runtimeError (closureAt (.utc 0)).2.1 ∧
    ∀ run, ¬AttemptsFailure run (closureAt (.utc 0)).1 := by
  have masked : (closureAt (.utc 0)).2.1 = .error .validationError := rfl
  refine ⟨startedState_wellFormed, ⟨_, rfl, rfl⟩, closureAt_runs _, masked, ?_, ?_⟩
  · rintro ⟨noted, returned, -⟩
    cases masked.symm.trans returned
  · rintro run ⟨command, ⟨answer, member⟩, -⟩
    have only : (closureAt (.utc 0)).1 = [⟨.clock, .utc 0⟩] := rfl
    rw [only] at member
    cases List.mem_singleton.mp member

end MiniAgent.Application
