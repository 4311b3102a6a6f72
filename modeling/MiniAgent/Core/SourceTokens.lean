import MiniAgent.Core.SourceSpans

/-! # Whole tokens of the message behind an accepted binding

The token boundaries of an accepted order id are only checked inside the model-chosen quote. An
order id that touches an edge of the quote can therefore go on in the message. Where the message
does not go on at such an edge, the bound value is a whole token of the message; where it does, it
is not, unless the message spells the order id a second time.
-/

namespace MiniAgent.Core

open ContractModel Keyed

/-- The token is a spelling of the order id. -/
def Spells (token normalized : Text) : Prop :=
  IsOrderIdToken token ∧ normalizeOrderId token = some normalized

/-- The order id is spelled as a whole token of the message. -/
def IsWholeOrderIdOf (message normalized : Text) : Prop :=
  ∃ token, WholeTokenIn none message token ∧ normalizeOrderId token = some normalized

/-- The message goes on with an ASCII letter or digit at an edge of the quote at which the order id
stands. -/
def CutAtEdge (message quote normalized : Text) : Prop :=
  ∃ before after, message = before ++ quote ++ after ∧
    ((isAlnumNeighbour before.getLast? = true ∧ ∃ token, token <+: quote ∧
      Spells token normalized) ∨
      (isAlnumNeighbour after.head? = true ∧ ∃ token, token <:+ quote ∧ Spells token normalized))

/-- The order id has one place in the message. -/
def SpelledOnce (message normalized : Text) : Prop :=
  ∀ before token after earlier other later, message = before ++ token ++ after →
    message = earlier ++ other ++ later →
    Spells token normalized → Spells other normalized → before = earlier ∧ after = later

/-- The quote of the input does not cut the order id that it proposes. -/
def QuoteUncut (message : Text) (input : InputCandidate) : Prop :=
  ∀ normalized, normalizeOrderId input.candidateValue = some normalized →
    ¬CutAtEdge message input.sourceQuote normalized

/-- A whole token of a quote that is not cut is a whole token of the message. -/
private theorem isWholeOrderIdOf_of_uncut {before quote after normalized : Text}
    (whole : IsWholeOrderIdOf quote normalized)
    (uncut : ¬CutAtEdge (before ++ quote ++ after) quote normalized) :
    IsWholeOrderIdOf (before ++ quote ++ after) normalized := by
  obtain ⟨token, ⟨spelled, left, right, rfl, leftBoundary, rightBoundary⟩, normal⟩ := whole
  rw [Option.or_none] at leftBoundary
  refine ⟨token, ⟨spelled, before ++ left, right ++ after, by simp, ?_, ?_⟩, normal⟩
  · rw [Option.or_none, List.getLast?_append]
    cases left with
    | cons first rest => simpa [List.getLast?_cons] using leftBoundary
    | nil =>
      by_contra goesOn
      refine uncut ⟨before, after, rfl, .inl ⟨by simpa using goesOn, token, ?_, spelled, normal⟩⟩
      exact List.prefix_append token right
  · rw [List.head?_append]
    cases right with
    | cons first rest => simpa using rightBoundary
    | nil =>
      by_contra goesOn
      refine uncut ⟨before, after, rfl, .inr ⟨by simpa using goesOn, token, ?_, spelled, normal⟩⟩
      rw [List.append_nil]
      exact List.suffix_append left token

/-- An order id with one place in the message is no whole token of it if a quote cuts it there. -/
private theorem not_isWholeOrderIdOf_of_cut {message quote normalized : Text}
    (once : SpelledOnce message normalized) (cut : CutAtEdge message quote normalized) :
    ¬IsWholeOrderIdOf message normalized := by
  rintro ⟨token, ⟨spelled, left, right, split, leftBoundary, rightBoundary⟩, normal⟩
  rw [Option.or_none] at leftBoundary
  obtain ⟨before, after, split',
    ⟨goesOn, other, ⟨rest, rfl⟩, spells⟩ | ⟨goesOn, other, ⟨rest, rfl⟩, spells⟩⟩ := cut
  · obtain ⟨rfl, -⟩ :=
      once left token right before other (rest ++ after) split (by simp [split'])
        ⟨spelled, normal⟩ spells
    exact Bool.false_ne_true (leftBoundary.symm.trans goesOn)
  · obtain ⟨-, rfl⟩ :=
      once left token right (before ++ rest) other after split (by simp [split'])
        ⟨spelled, normal⟩ spells
    exact Bool.false_ne_true (rightBoundary.symm.trans goesOn)

/-- The preflight has located the quote of every emitted input in its message, and found the order
id in the quote. -/
private theorem PassesPreflight.quoted {requestInput : RequestUnderstandingInput}
    {output : RequestUnderstandingOutputV2} {messages : AuthoritativeMessages}
    (passes : PassesPreflight requestInput output messages) {candidate : TaskDeltaCandidate}
    (emitted : candidate ∈ output.taskDeltaCandidates) {input : InputCandidate}
    (member : input ∈ candidate.inputCandidates) (current : input.sourceRef = output.messageRef)
    {normalized : Text} (normal : normalizeOrderId input.candidateValue = some normalized) :
    IsWholeOrderIdOf input.sourceQuote normalized ∧
      ∃ before after, requestInput.originalQuery = before ++ input.sourceQuote ++ after := by
  obtain ⟨durable, projected⟩ := passes.candidates
  obtain ⟨_, _, success⟩ := exists_of_forall₂_left (Except.mapM_eq_ok_iff.mp projected) emitted
  simp only [projectTaskDeltaV2, Except.bind_eq_ok_iff] at success
  obtain ⟨inputs, projectedInputs, -⟩ := success
  obtain ⟨_, _, success⟩ := exists_of_forall₂_left (Except.mapM_eq_ok_iff.mp projectedInputs) member
  simp only [projectInputCandidateV2, Except.bind_eq_ok_iff] at success
  obtain ⟨message, authoritative, ⟨start, stop, quoteHash⟩, located, -⟩ := success
  rw [current, ← passes.sameMessage, passes.currentMessage] at authoritative
  obtain rfl := Except.ok.inj authoritative
  obtain ⟨-, -, unique, proves, -, -⟩ := exactSourceSpanV2_eq_ok_iff.mp located
  simp only [quoteProvesCandidate, normal] at proves
  obtain ⟨after, rest⟩ := (unique start).mpr rfl
  exact ⟨sourceQuoteContainsExactOrderId_iff.mp proves, _, after,
    by rw [List.append_assoc, rest, List.take_append_drop]⟩

section Bound

variable {requestInput : RequestUnderstandingInput} {output : RequestUnderstandingOutputV2}
  {messages : AuthoritativeMessages} {candidate : TaskDeltaCandidate}
  {graph : InitialAcceptedTaskGraphV2}
  {allocations : Uuid → Option InitialTaskIdentityAllocationV2} {customerContext : CustomerContext}
  {messageRef : Uuid} {now : Datetime}

/-- The bound value of an accepted Candidate is the order id that its only input proposes, and
stands in its quote. -/
private theorem BuiltFor.quoted (passes : PassesPreflight requestInput output messages)
    (emitted : candidate ∈ output.taskDeltaCandidates)
    (accepted : candidateRejectionReasonV2 candidate output = none)
    (built : BuiltFor allocations customerContext messageRef now candidate graph) :
    ∃ input, candidate.inputCandidates = [input] ∧
      normalizeOrderId input.candidateValue = some graph.inputBinding.normalizedValue ∧
      IsWholeOrderIdOf input.sourceQuote graph.inputBinding.normalizedValue ∧
      ∃ before after, requestInput.originalQuery = before ++ input.sourceQuote ++ after := by
  obtain ⟨⟨input, allocation, normalized, single, normal, -, rfl⟩, -⟩ := built
  obtain ⟨only, -, same, current, -⟩ := input_of_accepted accepted
  obtain rfl : input = only := by simpa using single.symm.trans same
  exact ⟨input, single, normal, passes.quoted emitted (by simp [single]) current normal⟩

end Bound

end MiniAgent.Core
