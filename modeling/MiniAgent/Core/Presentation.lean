import MiniAgent.Core.Memory

/-! # Model-safe presentation planning and its policy gate

A plan carries style only: an opening, an order of the approved fields and a closing. The policy
accepts it again in canonical form, next to an Observation of safe provenance.
-/

namespace MiniAgent.Core

open ContractModel

inductive PresentationPurpose
  | orderStatusSummary
deriving DecidableEq, Repr

def presentationPlanSchemaVersion : String := "presentation-plan-v1"

structure PresentationInput where
  purpose : PresentationPurpose
  orderSummary : OrderSummaryProjection
  allowedPlanSchemaVersion : String := presentationPlanSchemaVersion
deriving DecidableEq, Repr

instance : ContractModel PresentationInput where
  validates input := ContractModel.validates input.orderSummary &&
    input.allowedPlanSchemaVersion == presentationPlanSchemaVersion

inductive PresentationTone
  | neutral
  | warm
deriving DecidableEq, Repr

inductive OpeningVariant
  | direct
  | acknowledge
deriving DecidableEq, Repr

inductive PresentationField
  | orderNumber
  | status
  | items
  | orderedAt
  | statusUpdatedAt
deriving DecidableEq, Repr

/-- `set(PresentationField)` -/
def PresentationField.all : List PresentationField :=
  [orderNumber, status, items, orderedAt, statusUpdatedAt]

inductive ClosingVariant
  | none
  | offerFollowUp
deriving DecidableEq, Repr

/-- Style-only model output; all factual values stay in the safe projection. -/
structure PresentationPlan where
  schemaVersion : String := presentationPlanSchemaVersion
  templateId : String
  tone : PresentationTone
  openingVariant : OpeningVariant
  fieldOrder : List PresentationField
  closingVariant : ClosingVariant
deriving DecidableEq, Repr

instance : ContractModel PresentationPlan where
  validates plan := plan.schemaVersion == presentationPlanSchemaVersion &&
    plan.templateId == "ORDER_STATUS_SUMMARY_V1" && plan.fieldOrder.length == 5 &&
    sameSet plan.fieldOrder PresentationField.all

/-- Accept only the canonical style plan and safe `get_order` provenance. `none` is a plan of
another type; the error is the message of its `PresentationPolicyError`. -/
def validatePresentationPlan (plan : Option PresentationPlan) (observation : OrderObservation) :
    Except String PresentationPlan := do
  let some plan := plan | throw "canonical PresentationPlan required"
  let some canonicalPlan :=
    construct plan | throw "PresentationPlan must remain fact-free and canonical"
  if observation.sourceTool == "get_order" && observation.normalizedType == "ORDER_SUMMARY" &&
      observation.visibility == .modelVisible then
    return canonicalPlan
  throw "safe Observation provenance required"

end MiniAgent.Core
