import MiniAgent.Application.DeterministicRenderer
import MiniAgent.Core.SourceSpans

/-! # What the renderer writes

An accepted plan always renders: its message is the opening, the five approved lines in the order of
the plan and the closing, and states every required fact. The outward result bounds its message, so
that the mapping of what was rendered succeeds up to 4000 characters and not beyond.
-/

namespace MiniAgent.Application

open MiniAgent.Core ContractModel

section Joined

variable {α : Type} {separator part : List α} {parts : List (List α)}

/-- Every part of a joined text stands in it. -/
private theorem infix_intercalate (member : part ∈ parts) :
    part <:+: separator.intercalate parts := by
  induction parts with
  | nil => exact absurd member List.not_mem_nil
  | cons first rest ih =>
    cases rest with
    | nil =>
      obtain rfl := List.mem_singleton.mp member
      rw [List.intercalate_singleton]
    | cons second rest =>
      rw [List.intercalate_cons_cons]
      rcases List.mem_cons.mp member with rfl | later
      · exact ⟨[], separator ++ separator.intercalate (second :: rest), by simp⟩
      · exact (ih later).trans (List.suffix_append _ _).isInfix

/-- A joined text with one more separator is every part with its separator. -/
private theorem intercalate_append (separator : List α) (parts : List (List α))
    (nonempty : parts ≠ []) :
    separator.intercalate parts ++ separator = parts.flatMap (· ++ separator) := by
  induction parts with
  | nil => exact absurd rfl nonempty
  | cons first rest ih =>
    cases rest with
    | nil => simp
    | cons second rest =>
      rw [List.intercalate_cons_cons, List.flatMap_cons, ← ih (List.cons_ne_nil _ _)]
      simp only [List.append_assoc]

end Joined

variable {observation : OrderObservation} {plan : PresentationPlan} {message : Text}

/-- The policy accepts a canonical plan next to a model-visible Observation, and no other. -/
theorem validatePresentationPlan_eq_ok_iff {accepted : PresentationPlan} :
    validatePresentationPlan (some plan) observation = .ok accepted ↔
      validates plan = true ∧ accepted = plan ∧ observation.sourceTool = "get_order" ∧
        observation.normalizedType = "ORDER_SUMMARY" ∧ observation.visibility = .modelVisible := by
  by_cases valid : validates plan = true
  · simp only [validatePresentationPlan, construct_of_validates valid]
    split_ifs with safe
    · simp only [Bool.and_eq_true, beq_iff_eq, and_assoc] at safe
      rw [Except.pure_eq_ok_iff]
      simp [valid, safe, eq_comm]
    · simp only [Bool.and_eq_true, beq_iff_eq, and_assoc] at safe
      simp [safe]
  · have refused : construct plan = none := if_neg valid
    simp only [validatePresentationPlan, refused, valid, Bool.false_eq_true, false_and, iff_false]
    exact Except.throw_ne_ok

/-- A canonical plan orders the five approved fields. -/
theorem fieldOrder_perm (canonical : validates plan = true) :
    plan.fieldOrder.Perm PresentationField.all := by
  simp only [validates, Bool.and_eq_true, beq_iff_eq, sameSet_iff] at canonical
  obtain ⟨⟨-, five⟩, same⟩ := canonical
  have covered : PresentationField.all ⊆ plan.fieldOrder :=
    fun field member => (same field).mpr member
  have subperm := List.subperm_of_subset (by decide : PresentationField.all.Nodup) covered
  exact (subperm.perm_of_length_le (by rw [five]; rfl)).symm

/-- The message of an accepted plan. -/
def renderedMessage (summary : OrderSummaryProjection) (plan : PresentationPlan) : Text :=
  ['\n'].intercalate (renderedLines summary plan)

private theorem fieldLine_mem (canonical : validates plan = true) (summary : OrderSummaryProjection)
    (field : PresentationField) : fieldLine summary field ∈ renderedLines summary plan := by
  have ordered : field ∈ plan.fieldOrder := by
    apply (fieldOrder_perm canonical).mem_iff.mpr
    cases field <;> decide
  apply List.mem_append_left
  exact List.mem_cons_of_mem _ (List.mem_map_of_mem ordered)

/-- Every required fact stands in one of the approved lines. -/
theorem requiredFacts_infix (canonical : validates plan = true) (summary : OrderSummaryProjection) :
    ∀ fact ∈ requiredFacts summary, fact <:+: renderedMessage summary plan := by
  have within : ∀ field, fieldLine summary field <:+: renderedMessage summary plan := fun field =>
    infix_intercalate (fieldLine_mem canonical summary field)
  intro fact member
  simp only [requiredFacts, List.mem_cons, List.mem_map] at member
  rcases member with rfl | rfl | ⟨item, listed, rfl⟩
  · exact (List.suffix_append _ _).isInfix.trans (within .orderNumber)
  · exact (List.suffix_append _ _).isInfix.trans (within .status)
  · have listedLine : item.productName.toList ++ " × ".toList ++
        (toString item.quantity).toList <:+:
        "、".toList.intercalate (summary.lineItems.map fun item =>
          item.productName.toList ++ " × ".toList ++ (toString item.quantity).toList) :=
      infix_intercalate (List.mem_map_of_mem listed)
    have named : item.productName.toList <:+:
        item.productName.toList ++ " × ".toList ++ (toString item.quantity).toList := by
      rw [List.append_assoc]
      exact (List.prefix_append _ _).isInfix
    exact (named.trans listedLine).trans ((List.suffix_append _ _).isInfix.trans (within .items))

private theorem requiredFacts_nonempty (canonical : validates observation = true) :
    ∀ fact ∈ requiredFacts observation.normalizedValue, fact ≠ [] := by
  simp only [validates, Bool.and_eq_true, List.all_eq_true, bne_iff_ne] at canonical
  obtain ⟨⟨⟨⟨⟨⟨⟨-, summary⟩, -⟩, -⟩, -⟩, -⟩, -⟩, -⟩ := canonical
  obtain ⟨⟨⟨⟨⟨number, -⟩, items⟩, -⟩, -⟩, -⟩ := summary
  intro fact member
  simp only [requiredFacts, List.mem_cons, List.mem_map] at member
  rcases member with rfl | rfl | ⟨item, listed, rfl⟩
  · intro empty
    rw [empty] at number
    exact absurd number (by decide)
  · cases observation.normalizedValue.status <;> decide
  · intro empty
    exact (items item listed).1 (String.toList_eq_nil_iff.mp empty)

/-- An accepted plan always renders. -/
theorem renderOrderSummary_of_accepted (canonical : validates observation = true)
    {accepted : PresentationPlan}
    (accepts : validatePresentationPlan (some plan) observation = .ok accepted) :
    renderOrderSummary observation plan =
    .ok (renderedMessage observation.normalizedValue plan) := by
  obtain ⟨valid, -⟩ := validatePresentationPlan_eq_ok_iff.mp accepts
  have fields : sameSet plan.fieldOrder PresentationField.all = true :=
    (sameSet_iff _ _).mpr fun field => (fieldOrder_perm valid).mem_iff
  have stated : ((requiredFacts observation.normalizedValue).any fun fact =>
      (findText (renderedMessage observation.normalizedValue plan) fact 0).isNone) = false := by
    simp only [List.any_eq_false, Option.isNone_iff_eq_none]
    intro fact member missing
    obtain ⟨before, after, split⟩ :=
      requiredFacts_infix valid observation.normalizedValue fact member
    have absent := (findText_eq_none_iff (requiredFacts_nonempty canonical fact member)).mp missing
    apply absent before.length (Nat.zero_le _)
    exact ⟨after, by rw [← split]; simp⟩
  unfold renderedMessage at stated ⊢
  simp only [renderOrderSummary, accepts, fields, stated]
  rfl

/-- The characters that the line items take, each with the separator after it. -/
def lineItemsLength : List OrderLineSummary → ℕ
  | [] => 0
  | item :: rest =>
    item.productName.toList.length + (toString item.quantity).toList.length + 4 +
      lineItemsLength rest

/-- The characters of the message, counted on the order and the two variants of the plan. -/
def presentationLength (summary : OrderSummaryProjection) (plan : PresentationPlan) : ℕ :=
  (if plan.openingVariant == .acknowledge then 10 else 7) +
    (if plan.closingVariant == .offerFollowUp then 17 else 0) +
    summary.orderNumber.length + (statusLabel summary.status).toList.length +
      lineItemsLength summary.lineItems +
    (strftime summary.orderedAt).length + (strftime summary.statusUpdatedAt).length + 26

/-- The value that a line states after its label. -/
def fieldValue (summary : OrderSummaryProjection) : PresentationField → Text
  | .orderNumber => summary.orderNumber
  | .status => (statusLabel summary.status).toList
  | .items => "、".toList.intercalate (summary.lineItems.map fun item =>
      item.productName.toList ++ " × ".toList ++ (toString item.quantity).toList)
  | .orderedAt => strftime summary.orderedAt
  | .statusUpdatedAt => strftime summary.statusUpdatedAt

def fieldLabel : PresentationField → String
  | .orderNumber => "订单号："
  | .status => "状态："
  | .items => "商品："
  | .orderedAt => "下单时间："
  | .statusUpdatedAt => "状态更新时间："

private theorem fieldLine_eq (summary : OrderSummaryProjection) (field : PresentationField) :
    fieldLine summary field = (fieldLabel field).toList ++ fieldValue summary field := by
  cases field <;> rfl

def fieldLabelLength : PresentationField → ℕ
  | .orderNumber => 4
  | .status | .items => 3
  | .orderedAt => 5
  | .statusUpdatedAt => 7

private theorem length_fieldLine (summary : OrderSummaryProjection) (field : PresentationField) :
    (fieldLine summary field).length = fieldLabelLength field +
    (fieldValue summary field).length := by
  have label : (fieldLabel field).toList.length = fieldLabelLength field := by
    cases field <;> decide
  rw [fieldLine_eq, List.length_append, label]

/-- The line items are joined by one character each. -/
private theorem length_renderedItems {items : List OrderLineSummary} (listed : items ≠ []) :
    ("、".toList.intercalate (items.map fun item =>
      item.productName.toList ++ " × ".toList ++ (toString item.quantity).toList)).length +
      ("、".toList).length =
        lineItemsLength items := by
  rw [← List.length_append, intercalate_append _ _ (by simpa using listed)]
  clear listed
  induction items with
  | nil => rfl
  | cons item rest ih =>
    rw [List.map_cons, List.flatMap_cons, List.length_append, ih]
    simp only [lineItemsLength, List.length_append, show " × ".toList.length = 3 from rfl,
      show "、".toList.length = 1 from rfl]
    omega

theorem length_renderedMessage (canonical : validates plan = true)
    {summary : OrderSummaryProjection} (listed : summary.lineItems ≠ []) :
    (renderedMessage summary plan).length = presentationLength summary plan := by
  have joined := congrArg List.length
    (intercalate_append ['\n'] (renderedLines summary plan) (List.cons_ne_nil _ _))
  rw [List.length_append, List.length_flatMap] at joined
  -- the order of the plan does not change the sum of the lines
  have ordered :=
    ((fieldOrder_perm canonical).map fun field => (fieldLine summary field).length + 1).sum_nat
  have itemLines := length_renderedItems listed
  have separated : ("、".toList).length = 1 := rfl
  have opening : (if plan.openingVariant == .acknowledge then "已为你查到订单信息："
    else "订单信息如下：").toList.length =
      if plan.openingVariant == .acknowledge then 10 else 7 := by
    cases plan.openingVariant <;> decide
  have closing : ((if plan.closingVariant == .offerFollowUp then ["如需继续查询配送信息，请告诉我。".toList]
    else []).map
      fun part => part.length + 1).sum = if plan.closingVariant == .offerFollowUp then 17
          else 0 := by
    cases plan.closingVariant <;> decide
  have fields : (PresentationField.all.map fun field => (fieldLine summary field).length + 1).sum +
      1 =
      summary.orderNumber.length + (statusLabel summary.status).toList.length +
        lineItemsLength summary.lineItems +
        (strftime summary.orderedAt).length + (strftime summary.statusUpdatedAt).length + 27 := by
    simp only [PresentationField.all, List.map_cons, List.map_nil, List.sum_cons, List.sum_nil,
      length_fieldLine, fieldLabelLength, fieldValue]
    rw [separated] at itemLines
    generalize ("、".toList.intercalate _).length = listedItems at itemLines ⊢
    generalize lineItemsLength summary.lineItems = counted at itemLines ⊢
    omega
  have total : ((renderedLines summary plan).map fun part => part.length + 1).sum =
      (if plan.openingVariant == .acknowledge then 10 else 7) + 1 +
        (PresentationField.all.map fun field => (fieldLine summary field).length + 1).sum +
          if plan.closingVariant == .offerFollowUp then 17 else 0 := by
    simp only [renderedLines, List.map_append, List.map_cons, List.sum_append, List.sum_cons,
      List.map_map, Function.comp_def, closing, opening, ordered, List.cons_append, Nat.add_assoc]
  simp only [List.length_append, List.length_singleton, total] at joined
  unfold renderedMessage presentationLength
  omega

end MiniAgent.Application
