import MiniAgent.Evaluation.HarnessSteps

/-! # Result stores

A result port that stores immutably keeps the first record under each key: a later record under the
same key is answered as already stored and changes nothing, and what is loaded is what was stored.
-/

namespace MiniAgent.Evaluation

open MiniAgent.Core MiniAgent.Application ContractModel

/-- The key of a stored result. -/
structure ResultKey where
  evalRunId : Uuid
  caseId : String
  lane : String
  attempt : ℕ
deriving DecidableEq, Repr

/-- The key under which the record is stored. -/
def resultKeyOf (record : EvalResultRecord) : ResultKey :=
  { evalRunId := record.evalRunId, caseId := record.caseId, lane := record.lane,
    attempt := record.attempt }

abbrev ResultStore : Type := ResultKey → Option EvalResultRecord

namespace ResultStore

variable {store : ResultStore} {record : EvalResultRecord} {key : ResultKey}
  {events before after : List HarnessEvent}

/-- What the port may answer while it stores this. -/
def Answers (store : ResultStore) : HarnessEvent → Prop
  | ⟨.appendEvalResult record, answer⟩ =>
    answer = .ok (some (if (store (resultKeyOf record)).isSome then .alreadyExists else .inserted))
  | ⟨.loadEvalResult evalRunId caseId lane attempt, answer⟩ =>
    answer.toOption.join = store ⟨evalRunId, caseId, lane, attempt⟩
  | _ => True

/-- What is stored after the event. -/
def next (store : ResultStore) : HarnessEvent → ResultStore
  | ⟨.appendEvalResult record, _⟩ => fun key =>
    (store key).or (if key = resultKeyOf record then some record else none)
  | _ => store

/-- What is stored after the events. -/
def afterwards (store : ResultStore) (events : List HarnessEvent) : ResultStore :=
  events.foldl next store

/-- Every answer of the port is one that it may give then. -/
def Lawful : ResultStore → List HarnessEvent → Prop
  | _, [] => True
  | store, event :: rest => store.Answers event ∧ (store.next event).Lawful rest

instance decidableAnswers (store : ResultStore) : DecidablePred store.Answers
  | ⟨.appendEvalResult _, _⟩ => inferInstanceAs (Decidable (_ = _))
  | ⟨.loadEvalResult .., _⟩ => inferInstanceAs (Decidable (_ = _))
  | ⟨.nonceFactory, _⟩ | ⟨.clock, _⟩ | ⟨.executeCase .., _⟩ | ⟨.executeQwenCase _, _⟩
      | ⟨.appendEvalCaseGraded _, _⟩
  | ⟨.reloadTrace _, _⟩ | ⟨.graderRunner .., _⟩ | ⟨.appendEvalExecutionFailure _, _⟩
      | ⟨.singletonStateIsClosed, _⟩
  | ⟨.restoreSingletonState, _⟩ | ⟨.isClosed _, _⟩ => isTrue trivial

instance decidableLawful : (store : ResultStore) → (events : List HarnessEvent) →
    Decidable (store.Lawful events)
  | _, [] => isTrue trivial
  | store, event :: rest =>
    have := decidableLawful (store.next event) rest
    inferInstanceAs (Decidable (store.Answers event ∧ (store.next event).Lawful rest))

private theorem afterwards_append :
    store.afterwards (before ++ after) = (store.afterwards before).afterwards after :=
  List.foldl_append

private theorem lawful_append : store.Lawful (before ++ after) ↔
    store.Lawful before ∧ (store.afterwards before).Lawful after := by
  induction before generalizing store with
  | nil => exact Iff.of_eq (true_and _).symm
  | cons event rest ih => exact Iff.trans (and_congr_right fun _ => ih) and_assoc.symm

/-- What is stored stays stored. -/
private theorem next_of_stored (event : HarnessEvent) (stored : store key = some record) :
    store.next event key = some record := by
  obtain ⟨call, answer⟩ := event
  cases call with
  | appendEvalResult other => exact (congrArg (Option.or · _) stored).trans Option.some_or
  | _ => exact stored

private theorem afterwards_of_stored (stored : store key = some record) :
    store.afterwards events key = some record := by
  induction events generalizing store with
  | nil => exact stored
  | cons event rest ih => exact ih (next_of_stored event stored)

/-- What the port acknowledged is stored. -/
theorem stored_of_acknowledged (lawful : store.Lawful events)
    (acknowledged : Acknowledged events record) :
    store.afterwards events (resultKeyOf record) = some record := by
  rcases acknowledged with inserted | ⟨-, loaded⟩
  · obtain ⟨before, after, rfl⟩ := List.append_of_mem inserted
    obtain ⟨-, answers, -⟩ := lawful_append.mp lawful
    rw [afterwards_append]
    refine @afterwards_of_stored ((store.afterwards before).next _) _ _ after ?_
    have absent : (store.afterwards before (resultKeyOf record)) = none := by
      have told : InsertOnlyWriteResult.inserted =
          if (store.afterwards before (resultKeyOf record)).isSome then
          .alreadyExists else .inserted := Option.some.inj (Except.ok.inj answers)
      split at told
      · cases told
      · next unstored => exact Option.not_isSome_iff_eq_none.mp unstored
    show (store.afterwards before (resultKeyOf record)).or
      (if resultKeyOf record = resultKeyOf record then some record
      else none) = some record
    rw [absent, if_pos rfl, Option.none_or]
  · obtain ⟨before, after, rfl⟩ := List.append_of_mem loaded
    obtain ⟨-, answers, -⟩ := lawful_append.mp lawful
    rw [afterwards_append]
    exact @afterwards_of_stored ((store.afterwards before).next _) _ _ after
      (next_of_stored _ answers.symm)

/-- Appending what is stored already. -/
def Repeats (store : ResultStore) : HarnessCall → Prop
  | .appendEvalResult record => store (resultKeyOf record) = some record
  | _ => True

private theorem next_of_repeats {event : HarnessEvent} (repeats : store.Repeats event.call) :
    store.next event = store := by
  obtain ⟨call, answer⟩ := event
  cases call with
  | appendEvalResult record =>
    funext key
    show (store key).or (if key = resultKeyOf record then some record else none) = store key
    by_cases same : key = resultKeyOf record
    · have stored : store (resultKeyOf record) = some record := repeats
      rw [same, stored, Option.some_or]
    · rw [if_neg same, Option.or_none]
  | _ => rfl

/-- If nothing but stored records is appended, the store stays, and every answer is one that it
gives. -/
theorem unchanged (repeats : ∀ event ∈ events, store.Repeats event.call) :
    store.afterwards events = store ∧
    (store.Lawful events → ∀ event ∈ events, store.Answers event) := by
  induction events with
  | nil => exact ⟨rfl, fun _ => List.forall_mem_nil _⟩
  | cons event rest ih =>
    obtain ⟨first, others⟩ := List.forall_mem_cons.mp repeats
    have same := next_of_repeats first
    obtain ⟨kept, answered⟩ := ih others
    refine ⟨?_, fun lawful => List.forall_mem_cons.mpr ⟨lawful.1, answered ?_⟩⟩
    · show (store.next event).afterwards rest = store
      rw [same, kept]
    · exact same ▸ lawful.2

end ResultStore

end MiniAgent.Evaluation
