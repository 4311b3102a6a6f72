import MiniAgent.Application.Records
import MiniAgent.Core.Presentation
import MiniAgent.Core.RequestProcessing

/-! # Deterministic safe rendering and bounded outward result mapping -/

namespace MiniAgent.Application

open MiniAgent.Core ContractModel

def safeGenericMessage : Text := "当前无法安全处理该请求，请稍后重试。".toList

def safeNotFoundMessage : Text := "未找到可访问的订单，请核对订单号后重试。".toList

def safeOrderUnavailableMessage : Text := "订单服务暂时不可用，请稍后重试。".toList

def statusLabel : OrderStatus → String
  | .created => "已创建"
  | .paid => "已支付"
  | .fulfilling => "履约中"
  | .shipped => "已发货"
  | .delivered => "已送达"
  | .cancelled => "已取消"

/-- A decimal number, filled up with zeros on the left. -/
def zeroPadded (width value : ℕ) : Text :=
  let digits := (toString value).toList
  List.replicate (width - digits.length) '0' ++ digits

/-- The proleptic Gregorian date of a day, counted from 1970-01-01: years start in March, so that
the leap day is the last one. -/
def civilDate (day : ℤ) : ℤ × ℕ × ℕ :=
  let shifted := day + 719468
  let era := shifted / 146097
  let dayOfEra := (shifted % 146097).toNat
  let yearOfEra := (dayOfEra - dayOfEra / 1460 + dayOfEra / 36524 - dayOfEra / 146096) / 365
  let dayOfYear := dayOfEra - (365 * yearOfEra + yearOfEra / 4 - yearOfEra / 100)
  let shiftedMonth := (5 * dayOfYear + 2) / 153
  let month := if shiftedMonth < 10 then shiftedMonth + 3 else shiftedMonth - 9
  let year := yearOfEra + era * 400
  (if month ≤ 2 then year + 1 else year, month, dayOfYear - (153 * shiftedMonth + 2) / 5 + 1)

/-- `strftime("%Y-%m-%d %H:%M UTC")` of an instant in microseconds since 1970-01-01. -/
def strftime (value : Datetime) : Text :=
  let minutes := value.instant / 60000000
  let (year, month, day) := civilDate (minutes / 1440)
  let minuteOfDay := (minutes % 1440).toNat
  zeroPadded 4 year.toNat ++ '-' :: zeroPadded 2 month ++ '-' :: zeroPadded 2 day ++
    ' ' :: zeroPadded 2 (minuteOfDay / 60) ++ ':' :: zeroPadded 2 (minuteOfDay % 60) ++
      " UTC".toList

example : strftime (.utc 1709251199000000) = "2024-02-29 23:59 UTC".toList := by decide

/-- The two bounded errors of the renderer, with their messages. -/
inductive RenderingFailure
  | presentationPolicy (message : String)
  | rendererInvariant (message : String)
deriving DecidableEq, Repr

/-- The line that states one approved field. A quantity is written in full: the interpreter's limit
on the digits of an integer is left out, since a quantity beyond it fits no result anyway. -/
def fieldLine (summary : OrderSummaryProjection) : PresentationField → Text
  | .orderNumber => "订单号：".toList ++ summary.orderNumber
  | .status => "状态：".toList ++ (statusLabel summary.status).toList
  | .items => "商品：".toList ++ "、".toList.intercalate (summary.lineItems.map fun item =>
      item.productName.toList ++ " × ".toList ++ (toString item.quantity).toList)
  | .orderedAt => "下单时间：".toList ++ strftime summary.orderedAt
  | .statusUpdatedAt => "状态更新时间：".toList ++ strftime summary.statusUpdatedAt

def renderedLines (summary : OrderSummaryProjection) (plan : PresentationPlan) : List Text :=
  let opening := if plan.openingVariant == .acknowledge then "已为你查到订单信息：" else "订单信息如下："
  let closing := if plan.closingVariant == .offerFollowUp then ["如需继续查询配送信息，请告诉我。".toList] else []
  opening.toList :: plan.fieldOrder.map (fieldLine summary) ++ closing

/-- The facts that the rendered message must contain. -/
def requiredFacts (summary : OrderSummaryProjection) : List Text :=
  summary.orderNumber :: (statusLabel summary.status).toList :: summary.lineItems.map
    (·.productName.toList)

def renderOrderSummary (observation : OrderObservation) (plan : PresentationPlan) :
    Except RenderingFailure Text := do
  if let .error message := validatePresentationPlan (some plan) observation then
    throw (.presentationPolicy message)
  let summary := observation.normalizedValue
  if !sameSet plan.fieldOrder PresentationField.all then
    throw (.rendererInvariant "presentation field set mismatch")
  let message := ['\n'].intercalate (renderedLines summary plan)
  if (requiredFacts summary).any fun fact => (findText message fact 0).isNone then
    throw (.rendererInvariant "rendered fact consistency failure")
  return message

/-- What can leave `map_result` instead of the result. -/
inductive MappingFailure
  | rendererInvariant (message : String)
  | validation
deriving DecidableEq, Repr

/-- The fields of the outward result. -/
def mappedResult (runId : Uuid) (stopReason : StopReason) (renderedMessage : Text) :
    AgentRunResult :=
  match stopReason with
  | .goalCompleted => ⟨runId, .completed, renderedMessage⟩
  | .notFoundOrNotAccessible => ⟨runId, .notFoundOrNotAccessible, safeNotFoundMessage⟩
  | .orderServiceUnavailable => ⟨runId, .blocked, safeOrderUnavailableMessage⟩
  | _ => ⟨runId, .blocked, safeGenericMessage⟩

def mapResult (runId : Uuid) (stopReason : StopReason) (renderedMessage : Option Text) :
    Except MappingFailure AgentRunResult := do
  if stopReason == .goalCompleted && renderedMessage.all (·.isEmpty) then
    throw (.rendererInvariant "GOAL_COMPLETED requires rendered message")
  match construct (mappedResult runId stopReason (renderedMessage.getD [])) with
  | some result => return result
  | none => throw .validation

end MiniAgent.Application
