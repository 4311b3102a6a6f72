import Mathlib.Data.List.Permutation
import MiniAgent.Infrastructure.RecordRows
import MiniAgent.Library.KeyRuns

/-! # The order in which a Trace is listed

The rows of a Run's Trace are read in the order of their times. Where two events have one time, that
order falls back on the identifiers of the rows, which are random; so the terminal pair of a turn,
which one transaction stores at one time, is put into its own order.
-/

namespace MiniAgent.Infrastructure

open MiniAgent.Core MiniAgent.Application

/-- What makes two events the terminal pair of a normal turn. -/
structure TerminalPair (first second : TraceEvent) : Prop where
  changes : first.eventType = .taskStateChanged
  stops : second.eventType = .runStopped
  ordered : first.occurredAt.instant ≤ second.occurredAt.instant
  normal : second.stopReason ≠ some .processRestartDetected

variable {first second : TraceEvent} {group : List TraceEvent}

theorem TerminalPair.ne (pair : TerminalPair first second) : first ≠ second := by
  rintro rfl
  exact absurd (pair.changes.symm.trans pair.stops) (by decide)

/-- The events of one stored time, in the order in which they are listed. -/
def listedGroup (group : List TraceEvent) : List TraceEvent := (normalTerminalTie group).getD group

/-- The tie is that of the terminal pair, whatever its order. -/
private theorem normalTerminalTie_eq_some_iff {listed : List TraceEvent} :
    normalTerminalTie group = some listed ↔
      ∃ first second, TerminalPair first second ∧ listed = [first, second] ∧
      [first, second].Perm group := by
  simp only [normalTerminalTie, Option.bind_eq_bind, Option.bind_eq_some_iff,
    Option.ite_none_right_eq_some, Option.pure_def, Option.some.injEq, Bool.and_eq_true, beq_iff_eq,
    decide_eq_true_eq, bne_iff_ne, ne_eq]
  constructor
  · rintro ⟨first, found, second, alsoFound, ⟨⟨two, ordered⟩, normal⟩, rfl⟩
    have pair : TerminalPair first second :=
      ⟨by simpa using List.find?_some found, by simpa using List.find?_some alsoFound,
        ordered, normal⟩
    have within : [first, second].Subperm group := by
      apply List.subperm_of_subset (by simpa using pair.ne)
      simp [List.mem_of_find?_eq_some found, List.mem_of_find?_eq_some alsoFound]
    exact ⟨first, second, pair, rfl, within.perm_of_length_le (by simp [two])⟩
  · rintro ⟨first, second, pair, rfl, same⟩
    refine ⟨first, ?_, second, ?_, ⟨⟨same.length_eq.symm, pair.ordered⟩, pair.normal⟩, rfl⟩
    all_goals
      rcases List.perm_pair.mp same.symm with rfl | rfl <;>
      simp [pair.changes, pair.stops]

private theorem listedGroup_perm : (listedGroup group).Perm group := by
  unfold listedGroup
  cases tie : normalTerminalTie group with
  | none => exact .refl _
  | some listed =>
    obtain ⟨first, second, -, rfl, same⟩ := normalTerminalTie_eq_some_iff.mp tie
    exact same

/-- A terminal pair is listed in its order. -/
private theorem listedGroup_of_pair (pair : TerminalPair first second)
    (same : [first, second].Perm group) :
    listedGroup group = [first, second] := by
  rw [listedGroup, normalTerminalTie_eq_some_iff.mpr ⟨first, second, pair, rfl, same⟩,
    Option.getD_some]

/-- How the events of one stored time are listed: the terminal pair in its order, all else in that
of the rows. -/
def GroupOrder (group listed : List TraceEvent) : Prop :=
  (∃ first second, TerminalPair first second ∧ [first, second].Perm group ∧
    listed = [first, second]) ∨
    (∀ first second, TerminalPair first second → ¬[first, second].Perm group) ∧ listed = group

private theorem groupOrder_listedGroup (group : List TraceEvent) :
    GroupOrder group (listedGroup group) := by
  cases tie : normalTerminalTie group with
  | some listed =>
    obtain ⟨first, second, pair, rfl, same⟩ := normalTerminalTie_eq_some_iff.mp tie
    exact .inl ⟨first, second, pair, same, listedGroup_of_pair pair same⟩
  | none =>
    refine .inr ⟨fun first second pair same => ?_, by rw [listedGroup, tie, Option.getD_none]⟩
    rw [normalTerminalTie_eq_some_iff.mpr ⟨first, second, pair, rfl, same⟩] at tie
    cases tie

private theorem GroupOrder.eq {listed : List TraceEvent} (ordered : GroupOrder group listed) :
    listed = listedGroup group := by
  rcases ordered with ⟨first, second, pair, same, rfl⟩ | ⟨none, rfl⟩
  · exact (listedGroup_of_pair pair same).symm
  · rcases groupOrder_listedGroup listed with ⟨first, second, pair, same, -⟩ | ⟨-, same⟩
    · exact absurd same (none first second pair)
    · exact same.symm

/-- An event and the time at which its row was stored. -/
abbrev StoredEvent := ℤ × TraceEvent

/-- The events of one stored time. -/
def eventsAt (history : List StoredEvent) (time : ℤ) : List TraceEvent :=
  (history.filter (·.1 == time)).map Prod.snd

/-- What a listing does with the events of a history. -/
structure Arranges (history listed : List StoredEvent) : Prop where
  permuted : listed.Perm history
  sorted : listed.Pairwise fun earlier later => earlier.1 ≤ later.1
  groups : ∀ time, GroupOrder (eventsAt history time) (eventsAt listed time)

/-- No stored time leaves the order of its events to the rows. -/
def Resolved (history : List StoredEvent) : Prop := ∀ time, (eventsAt history time).length ≤ 1 ∨
  ∃ first second, TerminalPair first second ∧ [first, second].Perm (eventsAt history time)

/-- The entry of a history as it is read from its row. -/
def historyEntry (event : StoredEvent) : ℤ × SourceRecord := (event.1, .traceEvent event.2)

/-- The second half of `list_trace_events_for_owner`. -/
def listedEvents (history : List (ℤ × SourceRecord)) : List TraceEvent :=
  (history.splitBy fun left right => left.1 == right.1).flatMap fun group =>
    listedGroup (group.filterMap fun entry => entry.2.asTraceEvent)

variable {history run rest listed : List StoredEvent} {time : ℤ}

private theorem listedEvents_append (leads : KeyRuns.Leads Prod.fst time run rest) :
    listedEvents ((run ++ rest).map historyEntry) =
      listedGroup (run.map Prod.snd) ++ listedEvents (rest.map historyEntry) := by
  have mapped : KeyRuns.Leads Prod.fst time (run.map historyEntry) (rest.map historyEntry) := by
    refine ⟨by simpa using leads.nonempty, ?_, ?_⟩
    · exact List.forall_mem_map.mpr leads.same
    · exact List.forall_mem_map.mpr leads.larger
  have events : (run.map historyEntry).filterMap (fun entry => entry.2.asTraceEvent) =
      run.map Prod.snd := by
    rw [List.filterMap_map, ← List.filterMap_eq_map]
    rfl
  rw [listedEvents, List.map_append, mapped.splitBy, List.flatMap_cons, events]
  rfl

private theorem eventsAt_append (leads : KeyRuns.Leads Prod.fst time run rest) (wanted : ℤ) :
    eventsAt (run ++ rest) wanted = if wanted = time then run.map Prod.snd
    else eventsAt rest wanted := by
  rw [eventsAt, leads.filter]
  split_ifs <;> rfl

private theorem map_time (same : ∀ event ∈ run, event.1 = time) :
    (run.map Prod.snd).map (Prod.mk time) = run := by
  rw [List.map_map]
  conv_rhs => rw [← List.map_id run]
  exact List.map_congr_left fun event member => Prod.ext (same event member).symm rfl

/-- The listing arranges what it lists. -/
theorem exists_arranges (sorted : history.Pairwise fun earlier later => earlier.1 ≤ later.1) :
    ∃ listed, Arranges history listed ∧
    listed.map Prod.snd = listedEvents (history.map historyEntry) := by
  refine KeyRuns.induction (motive := fun history => ∃ listed, Arranges history listed ∧
    listed.map Prod.snd = listedEvents (history.map historyEntry)) ?_ ?_ sorted
  · exact ⟨[], ⟨.refl _, .nil, fun time => groupOrder_listedGroup []⟩, rfl⟩
  · rintro time run rest leads ⟨listed, arranges, events⟩
    have group : ((listedGroup (run.map Prod.snd)).map (Prod.mk time)).Perm run :=
      (listedGroup_perm.map (Prod.mk time)).trans (.of_eq (map_time leads.same))
    have front : KeyRuns.Leads Prod.fst time
        ((listedGroup (run.map Prod.snd)).map (Prod.mk time)) listed := by
      refine ⟨fun empty => leads.nonempty (List.nil_perm.mp (empty ▸ group)), ?_, ?_⟩
      · exact fun item member => leads.same item (group.mem_iff.mp member)
      · exact fun item member => leads.larger item (arranges.permuted.mem_iff.mp member)
    refine ⟨_, ⟨group.append arranges.permuted, ?_, fun wanted => ?_⟩, ?_⟩
    · refine List.pairwise_append.mpr ⟨?_, arranges.sorted, fun item member later present => ?_⟩
      · apply List.pairwise_of_forall_mem_list
        intro left leftMember right rightMember
        rw [front.same left leftMember, front.same right rightMember]
      · rw [front.same item member]
        exact (front.larger later present).le
    · rw [eventsAt_append leads, eventsAt_append front]
      split_ifs
      · rw [List.map_map]
        simpa using groupOrder_listedGroup (run.map Prod.snd)
      · exact arranges.groups wanted
    · rw [List.map_append, events, listedEvents_append leads, List.map_map]
      simp

/-- Two arrangements are one where each stored time leaves only one order. -/
private theorem Arranges.eq {other otherListed : List StoredEvent}
    (arranges : Arranges history listed) (others : Arranges other otherListed)
    (same : ∀ time, listedGroup (eventsAt history time) = listedGroup (eventsAt other time)) :
    listed = otherListed := by
  refine KeyRuns.eq_of_filter arranges.sorted others.sorted fun time => ?_
  have known : ∀ history : List StoredEvent,
      (eventsAt history time).map (Prod.mk time) = history.filter (·.1 == time) :=
    fun history => map_time fun event member => by simpa using (List.mem_filter.mp member).2
  rw [← known, ← known, (arranges.groups time).eq, (others.groups time).eq, same time]

/-- Where every tie is resolved, the order of the rows does not matter. -/
private theorem Resolved.listedGroup_eq {other : List StoredEvent} (resolved : Resolved history)
    (same : history.Perm other) :
    listedGroup (eventsAt history time) = listedGroup (eventsAt other time) := by
  have tied : (eventsAt history time).Perm (eventsAt other time) := (same.filter _).map _
  rcases resolved time with short | ⟨first, second, pair, found⟩
  · obtain ⟨event, one⟩ | none : (∃ event, eventsAt history time = [event]) ∨
        eventsAt history time = [] := by
      rcases events : eventsAt history time with _ | ⟨event, _ | ⟨later, rest⟩⟩
      · exact .inr rfl
      · exact .inl ⟨event, rfl⟩
      · simp [events] at short
    · rw [one] at tied ⊢
      rw [List.singleton_perm.mp tied]
    · rw [none] at tied ⊢
      rw [List.nil_perm.mp tied]
  · rw [listedGroup_of_pair pair found, listedGroup_of_pair pair (found.trans tied)]

variable (library : ModelLibrary) (table : RecordTable) (owner : Text) (runId : Uuid)

/-- The Trace of a Run as its rows hold it, in the order in which they are read. -/
def StoredTrace (history : List StoredEvent) : Prop :=
  List.Forall₂ (fun row event => event.1 = row.1.storedAt.instant ∧ ∃ decoded,
    validatePhysicalProjection library table (some owner) row = .ok decoded ∧
      decoded.sourceRecord = .traceEvent event.2)
    (scopedRows table owner .traceEventRecord (·.runId == some runId)) history

variable {library table owner runId}

/-- The rows are read in the order of their times. -/
theorem StoredTrace.sorted (stored : StoredTrace library table owner runId history) :
    history.Pairwise fun earlier later => earlier.1 ≤ later.1 := by
  have rows : (scopedRows table owner .traceEventRecord (·.runId == some runId)).Pairwise
      fun earlier later =>
      earlier.1.storedAt.instant ≤ later.1.storedAt.instant := by
    unfold scopedRows
    refine (Keyed.sortByKey_pairwise _ _).imp fun {earlier later} ordered => ?_
    rcases Prod.Lex.toLex_le_toLex.mp ordered with before | ⟨tie, -⟩
    · exact before.le
    · exact tie.le
  have times : history.map Prod.fst =
      (scopedRows table owner .traceEventRecord (·.runId == some runId)).map
      fun row => row.1.storedAt.instant :=
    (Keyed.map_eq_map_of_forall₂ stored fun row event entry => entry.1.symm).symm
  rw [← List.pairwise_map (f := Prod.fst) (R := fun earlier later : ℤ => earlier ≤ later), times,
    List.pairwise_map]
  exact rows

private theorem listedRecord_eq_traceEvent {row : table.Row} {record : SourceRecord} :
    listedRecord library table owner .traceEvent row = .ok record ↔
    ∃ event, record = .traceEvent event ∧ ∃ decoded,
      validatePhysicalProjection library table (some owner) row = .ok decoded ∧
      decoded.sourceRecord = .traceEvent event := by
  simp only [listedRecord, Except.bind_eq_ok_iff, requireIntegrity_eq_ok_iff, beq_iff_eq,
    Except.pure_eq_ok_iff]
  constructor
  · rintro ⟨decoded, valid, -, isTrace, rfl⟩
    cases same : decoded.sourceRecord with
    | traceEvent event => exact ⟨event, rfl, decoded, valid, same⟩
    | _ => rw [same] at isTrace; cases isTrace
  · rintro ⟨event, rfl, decoded, valid, same⟩
    exact ⟨decoded, valid, (), by rw [same]; rfl, same⟩

theorem listTraceEventsForOwner_eq_ok_iff {events : List TraceEvent} :
    listTraceEventsForOwner library table owner runId = .ok events ↔
      ∃ history, StoredTrace library table owner runId history ∧
      listedEvents (history.map historyEntry) = events := by
  simp only [listTraceEventsForOwner, Except.bind_eq_ok_iff, Except.mapM_eq_ok_iff,
    Except.pure_eq_ok_iff, listedRecord_eq_traceEvent]
  constructor
  · rintro ⟨entries, read, rfl⟩
    obtain ⟨history, stored, rfl⟩ : ∃ history, StoredTrace library table owner runId history ∧
        entries = history.map historyEntry := by
      unfold StoredTrace
      generalize scopedRows table owner .traceEventRecord (·.runId == some runId) = rows at read
      induction read with
      | nil => exact ⟨[], .nil, rfl⟩
      | cons entry _ ih =>
        obtain ⟨history, stored, rfl⟩ := ih
        obtain ⟨_, ⟨event, rfl, valid⟩, rfl⟩ := entry
        exact ⟨(_, event) :: history, .cons ⟨rfl, valid⟩ stored, rfl⟩
    exact ⟨history, stored, rfl⟩
  · rintro ⟨history, stored, rfl⟩
    refine ⟨_, List.forall₂_map_right_iff.mpr (stored.imp fun row event entry => ?_), rfl⟩
    exact ⟨_, ⟨event.2, rfl, entry.2⟩, by rw [historyEntry, entry.1]⟩

variable (library table owner runId)

/-- A Trace is listed exactly when each of its rows is valid and holds an event. The listing is a
rearrangement of these, ordered by their stored times, with the terminal pair of a turn in its own
order; and where no other time is shared, it does not depend on the identifiers of the rows. -/
theorem trace_is_listed_in_order (events : List TraceEvent) :
    (listTraceEventsForOwner library table owner runId = .ok events ↔
      ∃ history listed, StoredTrace library table owner runId history ∧ Arranges history listed ∧
        listed.map Prod.snd = events) ∧
      ∀ history other listed otherListed, history.Perm other → Resolved history →
      Arranges history listed → Arranges other otherListed → listed = otherListed := by
  refine ⟨⟨fun success => ?_, ?_⟩,
      fun history other listed otherListed same resolved arranges others =>
    arranges.eq others fun time => resolved.listedGroup_eq same⟩
  · obtain ⟨history, stored, same⟩ := listTraceEventsForOwner_eq_ok_iff.mp success
    obtain ⟨listed, arranges, events⟩ := exists_arranges stored.sorted
    exact ⟨history, listed, stored, arranges, events.trans same⟩
  · rintro ⟨history, listed, stored, arranges, rfl⟩
    obtain ⟨other, others, events⟩ := exists_arranges stored.sorted
    rw [arranges.eq others fun _ => rfl]
    exact listTraceEventsForOwner_eq_ok_iff.mpr ⟨history, stored, events.symm⟩

end MiniAgent.Infrastructure
