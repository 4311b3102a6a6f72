import MiniAgent.Core.OrderId
import MiniAgent.Library.Sha256

/-! # Scoped `get_order` business port value objects -/

namespace MiniAgent.Core

inductive OrderStatus
  | created
  | paid
  | fulfilling
  | shipped
  | delivered
  | cancelled
deriving DecidableEq, Repr

structure OrderLineSummary where
  productName : String
  quantity : ℕ
deriving DecidableEq, Repr

instance : ContractModel OrderLineSummary where
  validates line := line.productName != "" && 1 ≤ line.quantity

/-- Minimum-disclosure order facts approved for model/user projection. -/
structure OrderSummaryProjection where
  orderNumber : Text
  status : OrderStatus
  lineItems : List OrderLineSummary
  orderedAt : Datetime
  statusUpdatedAt : Datetime
deriving DecidableEq, Repr

instance : ContractModel OrderSummaryProjection where
  validates summary := isOrderId summary.orderNumber && !summary.lineItems.isEmpty &&
    summary.lineItems.all ContractModel.validates && summary.orderedAt.requireUtc &&
    summary.statusUpdatedAt.requireUtc &&
    decide (summary.orderedAt.instant ≤ summary.statusUpdatedAt.instant)

/-- Outbound query combining trusted identity and a validated business input. -/
structure GetOrderQuery where
  customerId : String
  orderId : Text
deriving DecidableEq, Repr

instance : ContractModel GetOrderQuery where
  validates query := query.customerId != "" && isOrderId query.orderId

inductive GetOrderOutcome
  | found
  | notFoundOrNotAccessible
  | systemFailure
deriving DecidableEq, Repr

/-- `^mock-order-source-version\.p0\.v1:sha256:[0-9a-f]{64}$` -/
def isGetOrderSourceVersion (version : Text) : Bool :=
  let stem := "mock-order-source-version.p0.v1:sha256:".toList
  version.take stem.length == stem && (version.drop stem.length).length == 64 &&
    (version.drop stem.length).all Sha256.isHexDigit

structure GetOrderResult where
  outcome : GetOrderOutcome
  orderSummary : Option OrderSummaryProjection := none
  sourceVersion : Option Text := none
  failureCode : Option String := none
deriving DecidableEq, Repr

instance : ContractModel GetOrderResult where
  validates result := result.orderSummary.all ContractModel.validates &&
    result.sourceVersion.all isGetOrderSourceVersion && result.failureCode.all (· != "") &&
    match result.outcome with
    | .found => result.orderSummary.isSome && result.failureCode.isNone &&
        result.sourceVersion.isSome
    | .notFoundOrNotAccessible =>
      result.orderSummary.isNone && result.sourceVersion.isNone && result.failureCode.isNone
    | .systemFailure => result.orderSummary.isNone && result.sourceVersion.isNone

end MiniAgent.Core
