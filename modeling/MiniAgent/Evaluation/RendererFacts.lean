import MiniAgent.Application.Rendering
import Mathlib.Data.List.Permutation

/-! # The renderer's messages and those the fact grader approves

The grader has its own list of approved messages: both openings, every order of the five lines, with
and without the closing. For a model-visible Observation these are the messages that accepted plans
render; no plan is accepted for another Observation.
-/

namespace MiniAgent.Evaluation

open MiniAgent.Core MiniAgent.Application ContractModel

/-- `_RENDERER_STATUS_LABELS` -/
def rendererStatusLabels : OrderStatus → String
  | .created => "已创建"
  | .paid => "已支付"
  | .fulfilling => "履约中"
  | .shipped => "已发货"
  | .delivered => "已送达"
  | .cancelled => "已取消"

def approvedFields (summary : OrderSummaryProjection) : List Text :=
  ["订单号：".toList ++ summary.orderNumber,
    "状态：".toList ++ (rendererStatusLabels summary.status).toList,
    "商品：".toList ++ "、".toList.intercalate (summary.lineItems.map fun item =>
      item.productName.toList ++ " × ".toList ++ (toString item.quantity).toList),
    "下单时间：".toList ++ strftime summary.orderedAt,
    "状态更新时间：".toList ++ strftime summary.statusUpdatedAt]

/-- `_approved_renderer_messages` -/
def approvedRendererMessages (observation : OrderObservation) : List Text :=
  ["已为你查到订单信息：", "订单信息如下："].flatMap fun opening =>
    (approvedFields observation.normalizedValue).permutations.flatMap fun orderedFields =>
      let base := opening.toList :: orderedFields
      [['\n'].intercalate base, ['\n'].intercalate (base ++ ["如需继续查询配送信息，请告诉我。".toList])]

/-- The branch of `RendererFactGrader.grade` for a rendered order summary, with its reasons. -/
inductive FactVerdict
  | passed
  | missingRecord
  | assertionFailed
deriving DecidableEq, Repr

def gradeRenderedFacts (observations : List OrderObservation) (message : Text) : FactVerdict :=
  match observations with
  | [] => .missingRecord
  | [observation] =>
    if observation.visibility == .auditOnly || message ∉ approvedRendererMessages observation then
      .assertionFailed
    else .passed
  | _ => .assertionFailed

variable {observation : OrderObservation} {message : Text}

/-- An accepted plan renders the message. -/
def Renders (observation : OrderObservation) (message : Text) : Prop :=
  ∃ plan accepted, validatePresentationPlan (some plan) observation = .ok accepted ∧
    renderOrderSummary observation plan = .ok message

private theorem approvedFields_eq (summary : OrderSummaryProjection) :
    approvedFields summary = PresentationField.all.map (fieldLine summary) := rfl

/-- The plan with the given variants and order. -/
def planOf (opening : OpeningVariant) (fieldOrder : List PresentationField)
    (closing : ClosingVariant) :
    PresentationPlan where
  templateId := "ORDER_STATUS_SUMMARY_V1"
  tone := .neutral
  openingVariant := opening
  fieldOrder := fieldOrder
  closingVariant := closing

private theorem planOf_valid {fieldOrder : List PresentationField}
    (ordered : fieldOrder.Perm PresentationField.all) (opening : OpeningVariant)
    (closing : ClosingVariant) : validates (planOf opening fieldOrder closing) = true := by
  have five : fieldOrder.length = 5 := ordered.length_eq
  have same : sameSet fieldOrder PresentationField.all = true :=
    (sameSet_iff _ _).mpr fun field => ordered.mem_iff
  simp [validates, planOf, five, same]

private theorem mem_approvedRendererMessages : message ∈ approvedRendererMessages observation ↔
    ∃ opening closing, ∃ fieldOrder : List PresentationField,
    fieldOrder.Perm PresentationField.all ∧
      message = renderedMessage observation.normalizedValue
      (planOf opening fieldOrder closing) := by
  unfold approvedRendererMessages
  simp only [approvedFields_eq, ← List.map_permutations, List.flatMap_map, List.mem_flatMap,
    List.mem_permutations]
  constructor
  · rintro ⟨opening, listed, fieldOrder, ordered, written⟩
    simp only [List.mem_cons, List.not_mem_nil, or_false] at listed written
    rcases listed with rfl | rfl <;> rcases written with rfl | rfl
    · exact ⟨.acknowledge, .none, fieldOrder, ordered, by
        simp [renderedMessage, renderedLines, planOf]⟩
    · exact ⟨.acknowledge, .offerFollowUp, fieldOrder,
        ordered, by simp [renderedMessage, renderedLines, planOf]⟩
    · exact ⟨.direct, .none, fieldOrder, ordered, by simp [renderedMessage, renderedLines, planOf]⟩
    · exact ⟨.direct, .offerFollowUp, fieldOrder, ordered, by
        simp [renderedMessage, renderedLines, planOf]⟩
  · rintro ⟨opening, closing, fieldOrder, ordered, rfl⟩
    cases opening with
    | direct =>
      refine ⟨"订单信息如下：", by simp, fieldOrder, ordered, ?_⟩
      cases closing <;> simp [renderedMessage, renderedLines, planOf]
    | acknowledge =>
      refine ⟨"已为你查到订单信息：", by simp, fieldOrder, ordered, ?_⟩
      cases closing <;> simp [renderedMessage, renderedLines, planOf]

/-- For a model-visible Observation the grader approves exactly what accepted plans render. -/
private theorem renders_iff_mem_approved (canonical : validates observation = true)
    (visible : observation.visibility = .modelVisible) :
    Renders observation message ↔ message ∈ approvedRendererMessages observation := by
  rw [mem_approvedRendererMessages]
  constructor
  · rintro ⟨plan, accepted, accepts, rendered⟩
    obtain ⟨valid, -⟩ := validatePresentationPlan_eq_ok_iff.mp accepts
    rw [renderOrderSummary_of_accepted canonical accepts] at rendered
    exact ⟨plan.openingVariant, plan.closingVariant, plan.fieldOrder, fieldOrder_perm valid,
      (Except.ok.inj rendered).symm⟩
  · rintro ⟨opening, closing, fieldOrder, ordered, rfl⟩
    have source := canonical
    simp only [validates, Bool.and_eq_true, beq_iff_eq] at source
    have accepts : validatePresentationPlan (some (planOf opening fieldOrder closing)) observation =
        .ok (planOf opening fieldOrder closing) :=
      validatePresentationPlan_eq_ok_iff.mpr
        ⟨planOf_valid ordered opening closing, rfl, source.1.1.1.1.1.1.1.1.1.1,
          source.1.1.1.1.1.1.1.2, visible⟩
    exact ⟨_, _, accepts, renderOrderSummary_of_accepted canonical accepts⟩

private theorem not_renders_of_not_visible (hidden : observation.visibility ≠ .modelVisible) :
    ¬Renders observation message := by
  rintro ⟨plan, accepted, accepts, -⟩
  exact hidden (validatePresentationPlan_eq_ok_iff.mp accepts).2.2.2.2

private theorem gradeRenderedFacts_eq_passed (shown : observation.visibility ≠ .auditOnly) :
    gradeRenderedFacts [observation] message = .passed ↔
    message ∈ approvedRendererMessages observation := by
  simp [gradeRenderedFacts, shown]

/-- For a model-visible Observation the messages of accepted plans are the approved ones, and the
grader passes these and no other; for any other Observation no plan is accepted. -/
theorem renderer_and_grader_agree (canonical : validates observation = true) :
    (observation.visibility = .modelVisible → ∀ message,
      (Renders observation message ↔ message ∈ approvedRendererMessages observation) ∧
        (gradeRenderedFacts [observation] message = .passed ↔ Renders observation message)) ∧
      (observation.visibility ≠ .modelVisible → ∀ message, ¬Renders observation message) := by
  constructor
  · intro visible message
    have agree : Renders observation message ↔ message ∈ approvedRendererMessages observation :=
      renders_iff_mem_approved canonical visible
    exact ⟨agree, (gradeRenderedFacts_eq_passed (by rw [visible]; decide)).trans agree.symm⟩
  · intro hidden message
    exact not_renders_of_not_visible hidden

def penObservation (visibility : ObservationVisibility) : OrderObservation where
  observationId := 1
  sourceTool := "get_order"
  sourceResourceRef := "O-1001".toList
  normalizedType := "ORDER_SUMMARY"
  normalizedValue :=
    { orderNumber := "O-1001".toList, status := .paid, lineItems := [⟨"pen", 2⟩],
      orderedAt := .utc 0
      statusUpdatedAt := .utc 0 }
  observedAt := .utc 0
  recordedAt := .utc 0
  visibility := visibility

theorem renderer_and_grader_agree_pen :
    gradeRenderedFacts [penObservation .modelVisible]
    (renderedMessage (penObservation .modelVisible).normalizedValue
      (planOf .direct PresentationField.all .none)) = .passed := by
  have canonical : validates (penObservation .modelVisible) = true := by decide
  have agree := (renderer_and_grader_agree canonical).1 rfl
  apply (agree _).2.mpr
  exact (agree _).1.mpr (mem_approvedRendererMessages.mpr ⟨_, _, _, List.Perm.refl _, rfl⟩)

/-- A user-visible Observation is canonical and has approved messages, but no plan is accepted for
it. -/
theorem user_visible_is_not_rendered : ∃ observation message, validates observation = true ∧
    message ∈ approvedRendererMessages observation ∧
    gradeRenderedFacts [observation] message = .passed ∧ ¬Renders observation message := by
  have approved : renderedMessage (penObservation .userVisible).normalizedValue
      (planOf .direct PresentationField.all .none) ∈
      approvedRendererMessages (penObservation .userVisible) :=
    mem_approvedRendererMessages.mpr ⟨_, _, _, List.Perm.refl _, rfl⟩
  refine ⟨penObservation .userVisible, _, by decide, approved,
    (gradeRenderedFacts_eq_passed (by decide)).mpr approved, not_renders_of_not_visible (by decide)⟩

end MiniAgent.Evaluation
