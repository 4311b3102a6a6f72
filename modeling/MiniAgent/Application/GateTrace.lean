import MiniAgent.Application.BindingProvenance
import MiniAgent.Library.Matching

/-! # Gate decisions and their trace events

The validator compares, for each projection, how many events and how many GateDecisions have it, and
how many events have bindings that are not in their RequestUnit with how many of the decisions found
the bindings invalid. That is all that an assignment of the events to the decisions needs.
-/

namespace MiniAgent.Application

open MiniAgent.Core ContractModel

namespace ExactRunEvidenceClosure

variable (closure : ExactRunEvidenceClosure)

/-- The bindings of an event are not all in its RequestUnit. -/
def crossesUnit (event : TraceEvent) : Bool :=
  !(event.requestUnitId.bind closure.unitById).any fun unit =>
    event.argumentBindingRefs.all (· ∈ unit.inputBindingRefs)

/-- Both comparisons of counts, for every projection of an event. -/
def gateCountsAccept : Bool :=
  (closure.gateEvents.map eventProjection).dedup.all fun projection =>
    decide ((closure.eventsOfProjection projection).length ≤
      (closure.ownersOfProjection projection).length) &&
      decide ((closure.eventsOfProjection projection).countP closure.crossesUnit ≤
        (closure.ownersOfProjection projection).countP (!·.argumentBindingValid))

variable {closure}

private theorem mem_eventsOfProjection {projection : GateProjection} {event : TraceEvent} :
    event ∈ closure.eventsOfProjection projection ↔
    event ∈ closure.gateEvents ∧ eventProjection event = projection := by
  rw [eventsOfProjection, List.mem_filter, beq_iff_eq]

/-- The events of one projection have its bindings. -/
private theorem countP_crossesUnit (projection : GateProjection) :
    (closure.eventsOfProjection projection).countP closure.crossesUnit =
      (closure.eventsOfProjection projection).countP fun event =>
        !(event.requestUnitId.bind closure.unitById).any fun unit =>
          projection.argumentBindingRefs.all (· ∈ unit.inputBindingRefs) := by
  refine List.countP_congr fun event member => ?_
  obtain ⟨-, rfl⟩ := mem_eventsOfProjection.mp member
  rfl

private theorem checkGateProjection_eq_ok_iff {projection : GateProjection} :
    closure.checkGateProjection projection = .ok () ↔
      (∀ event ∈ closure.eventsOfProjection projection, closure.checkGateEvent event = .ok ()) ∧
        (closure.eventsOfProjection projection).countP closure.crossesUnit ≤
          (closure.ownersOfProjection projection).countP (!·.argumentBindingValid) := by
  simp only [checkGateProjection, Except.bind_eq_ok_iff, Except.forM_eq_ok_iff, expect_eq_ok_iff,
    decide_eq_true_eq, exists_const, countP_crossesUnit]

/-- The check accepts when every event passes its own check and the counts agree. -/
private theorem checkGateTrace_eq_ok_iff : closure.checkGateTrace = .ok () ↔
    (∀ event ∈ closure.gateEvents, closure.checkGateEvent event = .ok ()) ∧
    closure.gateCountsAccept = true := by
  simp only [checkGateTrace, Except.bind_eq_ok_iff, Except.forM_eq_ok_iff, expect_eq_ok_iff,
    List.all_eq_true, decide_eq_true_eq, exists_const, checkGateProjection_eq_ok_iff,
    gateCountsAccept, Bool.and_eq_true]
  constructor
  · rintro ⟨counts, each⟩
    refine ⟨fun event member => ?_, fun projection listed =>
      ⟨counts projection listed, (each projection listed).2⟩⟩
    have listed : eventProjection event ∈ (closure.gateEvents.map eventProjection).dedup :=
      List.mem_dedup.mpr (List.mem_map_of_mem member)
    exact (each _ listed).1 event (mem_eventsOfProjection.mpr ⟨member, rfl⟩)
  · rintro ⟨events, counts⟩
    refine ⟨fun projection listed => (counts projection listed).1,
      fun projection listed => ⟨?_, (counts projection listed).2⟩⟩
    exact fun event member => events event (mem_eventsOfProjection.mp member).1

/-- A projection that no event has needs no decision. -/
private theorem gateCountsAccept_iff : closure.gateCountsAccept = true ↔ ∀ projection,
    (closure.gateEvents.countP fun event => eventProjection event = projection) ≤
        (closure.gateDecisions.countP fun gate => gateProjection gate = projection) ∧
      (closure.gateEvents.countP fun event => eventProjection event = projection ∧
        closure.crossesUnit event = true) ≤
        closure.gateDecisions.countP fun gate =>
          gateProjection gate = projection ∧ (!gate.argumentBindingValid) = true := by
  have events : ∀ projection, (closure.eventsOfProjection projection).length =
      closure.gateEvents.countP fun event => eventProjection event = projection := by
    intro projection
    rw [eventsOfProjection, ← List.countP_eq_length_filter]
    exact List.countP_congr fun event _ => by simp
  have owners : ∀ projection, (closure.ownersOfProjection projection).length =
      closure.gateDecisions.countP fun gate => gateProjection gate = projection := by
    intro projection
    rw [ownersOfProjection, ← List.countP_eq_length_filter]
    exact List.countP_congr fun gate _ => by simp
  have crossing : ∀ projection, (closure.eventsOfProjection projection).countP closure.crossesUnit =
      closure.gateEvents.countP fun event => eventProjection event = projection ∧
          closure.crossesUnit event = true := by
    intro projection
    rw [eventsOfProjection, List.countP_filter]
    exact List.countP_congr fun event _ => by simp [and_comm]
  have invalid : ∀ projection,
      (closure.ownersOfProjection projection).countP (!·.argumentBindingValid) =
      closure.gateDecisions.countP fun gate =>
        gateProjection gate = projection ∧ (!gate.argumentBindingValid) = true := by
    intro projection
    rw [ownersOfProjection, List.countP_filter]
    exact List.countP_congr fun gate _ => by simp [and_comm]
  simp only [gateCountsAccept, List.all_eq_true, Bool.and_eq_true, decide_eq_true_eq,
    List.mem_dedup, events, owners, crossing, invalid]
  refine ⟨fun counts projection => ?_, fun counts projection _ => counts projection⟩
  by_cases listed : projection ∈ closure.gateEvents.map eventProjection
  · exact counts projection listed
  · -- no event has this projection
    have absent : ∀ event ∈ closure.gateEvents, eventProjection event ≠ projection :=
      fun event member same => listed (same ▸ List.mem_map_of_mem member)
    have none : (closure.gateEvents.countP fun event => eventProjection event = projection) = 0 :=
      List.countP_eq_zero.mpr fun event member => by simpa using absent event member
    have noCrossing : (closure.gateEvents.countP fun event =>
        eventProjection event = projection ∧ closure.crossesUnit event = true) = 0 :=
      List.countP_eq_zero.mpr fun event member => by simp [absent event member]
    rw [none, noCrossing]
    exact ⟨Nat.zero_le _, Nat.zero_le _⟩

variable (closure)

/-- The counting checks accept exactly when the recorded events can be assigned to decisions of
their own, with the same projection, and those with bindings of another RequestUnit to decisions
that found the bindings invalid. -/
theorem gate_trace_matching :
    (closure.gateCountsAccept = true ↔
      ∃ assign : Fin closure.gateEvents.length → Fin closure.gateDecisions.length,
      Function.Injective assign ∧
        ∀ index, gateProjection (closure.gateDecisions.get (assign index)) =
            eventProjection (closure.gateEvents.get index) ∧
          (closure.crossesUnit (closure.gateEvents.get index) = true →
            (closure.gateDecisions.get (assign index)).argumentBindingValid = false)) ∧
    (closure.checkGateTrace = .ok () ↔
      (∀ event ∈ closure.gateEvents, closure.checkGateEvent event = .ok ()) ∧
      closure.gateCountsAccept = true) := by
  refine ⟨?_, checkGateTrace_eq_ok_iff⟩
  rw [gateCountsAccept_iff,
    ← Matching.assignable_lists_iff closure.gateEvents closure.gateDecisions eventProjection
    gateProjection closure.crossesUnit fun gate => !gate.argumentBindingValid]
  simp only [Matching.Assignable, Bool.not_eq_true']

end ExactRunEvidenceClosure

end MiniAgent.Application
