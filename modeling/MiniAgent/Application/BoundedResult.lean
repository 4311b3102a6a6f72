import MiniAgent.Application.Rendering

/-! # A rendered order ends in a bounded result

The service turns a failure of the renderer into a safe stop, but maps the rendered message to the
outward result outside of that handler. The result type bounds its message, the renderer does not.
-/

namespace MiniAgent.Application

open MiniAgent.Core ContractModel

/-- Rendering and mapping end in a result that states every required fact, or in a renderer
failure. -/
def RendersBounded (observation : OrderObservation) (plan : PresentationPlan)
    (runId : Uuid) : Prop :=
  (∃ message result, renderOrderSummary observation plan = .ok message ∧
    mapResult runId .goalCompleted (some message) = .ok result ∧
    ∀ fact ∈ requiredFacts observation.normalizedValue, fact <:+: result.message) ∨
  (∃ failure, renderOrderSummary observation plan = .error (.rendererInvariant failure)) ∨
  ∃ message failure, renderOrderSummary observation plan = .ok message ∧
    mapResult runId .goalCompleted (some message) = .error (.rendererInvariant failure)

private theorem mapResult_goalCompleted_eq {message : Text} (stated : message ≠ []) (runId : Uuid) :
    mapResult runId .goalCompleted (some message) =
      if message.length ≤ 4000 then .ok ⟨runId, .completed, message⟩ else .error .validation := by
  have some_message : message.isEmpty = false := by simpa using stated
  have bounded : validates (⟨runId, .completed, message⟩ : AgentRunResult) =
      decide (message.length ≤ 4000) := by
    simp only [validates, isMessageContent, some_message, Bool.not_false, Bool.true_and]
  by_cases short : message.length ≤ 4000
  · have result := construct_of_validates (bounded.trans (decide_eq_true short))
    simp only [mapResult, some_message, Option.all_some, Bool.and_false, Bool.false_eq_true,
      ↓reduceIte, mappedResult, Option.getD_some, result, short]
    rfl
  · have refused : construct (⟨runId, .completed, message⟩ : AgentRunResult) = none := by
      apply if_neg
      rw [bounded, decide_eq_false short]
      exact Bool.false_ne_true
    simp only [mapResult, some_message, Option.all_some, Bool.and_false, Bool.false_eq_true,
      ↓reduceIte, mappedResult, Option.getD_some, refused, short]
    rfl

/-- Mapping what an accepted plan renders. -/
private theorem mapResult_renderedMessage {observation : OrderObservation} {plan : PresentationPlan}
    (canonical : validates observation = true) (valid : validates plan = true) (runId : Uuid) :
    mapResult runId .goalCompleted (some (renderedMessage observation.normalizedValue plan)) =
      if presentationLength observation.normalizedValue plan ≤ 4000 then
        .ok ⟨runId, .completed, renderedMessage observation.normalizedValue plan⟩
      else .error .validation := by
  have listed : observation.normalizedValue.lineItems ≠ [] := by
    simp only [validates, Bool.and_eq_true, Bool.not_eq_true', List.isEmpty_eq_false_iff]
      at canonical
    exact canonical.1.1.1.1.1.1.2.1.1.1.1.2
  rw [← length_renderedMessage valid listed]
  apply mapResult_goalCompleted_eq
  intro empty
  have length := length_renderedMessage valid listed
  rw [empty] at length
  unfold presentationLength at length
  simp only [List.length_nil] at length
  omega

/-- The outcome is bounded exactly when the message has at most 4000 characters. -/
theorem rendering_is_bounded_iff {observation : OrderObservation} {plan accepted : PresentationPlan}
    (canonical : validates observation = true)
    (accepts : validatePresentationPlan (some plan) observation = .ok accepted) (runId : Uuid) :
    RendersBounded observation plan runId ↔
    presentationLength observation.normalizedValue plan ≤ 4000 := by
  obtain ⟨valid, -⟩ := validatePresentationPlan_eq_ok_iff.mp accepts
  have rendered := renderOrderSummary_of_accepted canonical accepts
  have mapped := mapResult_renderedMessage canonical valid runId
  constructor
  · rintro (⟨message, result, same, success, -⟩ | ⟨failure, impossible⟩ | ⟨message, failure, same,
      failed⟩)
    · obtain rfl := Except.ok.inj (rendered.symm.trans same)
      rw [mapped] at success
      by_contra long
      rw [if_neg long] at success
      cases success
    · exact nomatch rendered.symm.trans impossible
    · obtain rfl := Except.ok.inj (rendered.symm.trans same)
      rw [mapped] at failed
      split_ifs at failed
      cases failed
  · intro short
    rw [if_pos short] at mapped
    exact .inl ⟨_, _, rendered, mapped, requiredFacts_infix valid observation.normalizedValue⟩

def orderOf (items : List OrderLineSummary) : OrderSummaryProjection where
  orderNumber := "O-1001".toList
  status := .paid
  lineItems := items
  orderedAt := .utc 0
  statusUpdatedAt := .utc 0

def observationOf (items : List OrderLineSummary) : OrderObservation where
  observationId := 1
  sourceTool := "get_order"
  sourceResourceRef := "O-1001".toList
  normalizedType := "ORDER_SUMMARY"
  normalizedValue := orderOf items
  observedAt := .utc 0
  recordedAt := .utc 0
  visibility := .modelVisible

private theorem observationOf_canonical {items : List OrderLineSummary}
    (listed : items.isEmpty = false) (canonical : items.all validates = true) :
    validates (observationOf items) = true := by
  have summary : validates (orderOf items) = true := by
    change (isOrderId "O-1001".toList && !items.isEmpty && items.all validates &&
      (Datetime.utc 0).requireUtc &&
      (Datetime.utc 0).requireUtc && decide ((0 : ℤ) ≤ 0)) = true
    rw [listed, canonical]
    decide
  change (true && validates (orderOf items) && _ && _ && _ && _ && _ && _) = true
  rw [summary]
  rfl

def directPlan : PresentationPlan where
  templateId := "ORDER_STATUS_SUMMARY_V1"
  tone := .neutral
  openingVariant := .direct
  fieldOrder := PresentationField.all
  closingVariant := .none

private theorem directPlan_accepted (items : List OrderLineSummary) :
    validatePresentationPlan (some directPlan) (observationOf items) = .ok directPlan :=
  validatePresentationPlan_eq_ok_iff.mpr ⟨by decide, rfl, rfl, rfl, rfl⟩

theorem rendering_is_bounded_iff_short : RendersBounded (observationOf [⟨"pen", 2⟩]) directPlan 7 :=
  (rendering_is_bounded_iff (by decide) (directPlan_accepted _) 7).mpr (by decide)

/-- An item whose product name has the given number of characters. -/
def longItem (characters : ℕ) : OrderLineSummary :=
  ⟨String.ofList (List.replicate characters 'x'), 1⟩

private theorem longItem_length (characters : ℕ) :
    (longItem characters).productName.toList.length = characters := by
  simp [longItem]

private theorem longItem_canonical {characters : ℕ} (positive : 0 < characters) :
    validates (observationOf [longItem characters]) = true := by
  have named : (longItem characters).productName ≠ "" := by
    intro empty
    have length := longItem_length characters
    rw [empty] at length
    exact absurd length positive.ne
  have item : validates (longItem characters) = true := by
    change ((longItem characters).productName != "" && true) = true
    rw [bne_iff_ne.mpr named]
    rfl
  apply observationOf_canonical
  · rfl
  · rw [List.all_cons, item]
    rfl

private theorem longItem_exceeds {characters : ℕ} (long : 4000 ≤ characters) :
    ¬presentationLength (observationOf [longItem characters]).normalizedValue directPlan ≤
    4000 := by
  have counted : characters ≤
      lineItemsLength (observationOf [longItem characters]).normalizedValue.lineItems := by
    simp only [observationOf, orderOf, lineItemsLength, longItem_length]
    omega
  unfold presentationLength
  omega

/-- A canonical order whose rendered message fits no result: mapping it raises a validation
error. -/
theorem long_order_has_no_result : validates (observationOf [longItem 4000]) = true ∧
    validatePresentationPlan (some directPlan) (observationOf [longItem 4000]) = .ok directPlan ∧
    (∃ message, renderOrderSummary (observationOf [longItem 4000]) directPlan = .ok message ∧
      mapResult 7 .goalCompleted (some message) = .error .validation) ∧
    ¬RendersBounded (observationOf [longItem 4000]) directPlan 7 := by
  have canonical := longItem_canonical (show 0 < 4000 by decide)
  have accepts := directPlan_accepted [longItem 4000]
  have rendered := renderOrderSummary_of_accepted canonical accepts
  have mapped := mapResult_renderedMessage canonical (show validates directPlan = true by decide) 7
  rw [if_neg (longItem_exceeds le_rfl)] at mapped
  refine ⟨canonical, accepts, ⟨_, rendered, mapped⟩, ?_⟩
  rintro (⟨message, result, same, success, -⟩ | ⟨failure, impossible⟩ | ⟨message, failure, same,
    failed⟩)
  · obtain rfl := Except.ok.inj (rendered.symm.trans same)
    exact nomatch mapped.symm.trans success
  · exact nomatch rendered.symm.trans impossible
  · obtain rfl := Except.ok.inj (rendered.symm.trans same)
    exact nomatch mapped.symm.trans failed

end MiniAgent.Application
