import MiniAgent.Application.OrderIdentity

/-! # The mock orders and the lookup that is scoped to their owner

The table has one payload for each customer and order id. The adapter selects by both, so that a row
of another customer is as if it were not there. Loading a payload and dumping a projection is the
library's work and a parameter here.
-/

namespace MiniAgent.Infrastructure

open MiniAgent.Core MiniAgent.Application ContractModel
open Coroutine

/-- `mock_orders`: the payload of a row by its primary key. -/
abbrev MockOrders := String → Text → Option Json

/-- Strict loading and dumping of an order projection. -/
structure ProjectionLibrary where
  modelValidate : Json → Option OrderSummaryProjection
  modelDump : OrderSummaryProjection → Json

section Adapter

variable (library : ProjectionLibrary)

/-- `_mock_order_source_version` -/
def mockOrderSourceVersion (ownerCustomerId : String) (orderId : Text)
    (safeProjection : OrderSummaryProjection) :
    Text :=
  let canonicalPayload : Json := .object
    [("source_version_schema", .string "mock-order-source-version.p0.v1".toList),
      ("owner_customer_id", .string ownerCustomerId.toList), ("order_id", .string orderId),
      ("safe_projection", library.modelDump safeProjection)]
  "mock-order-source-version.p0.v1:sha256:".toList ++ sha256Hexdigest canonicalPayload.dumps

/-- `PostgresGetOrderAdapter.seed_mock_order` -/
def seedMockOrder (orders : MockOrders) (customerId : String)
    (orderSummary : OrderSummaryProjection) : MockOrders :=
  fun otherCustomerId orderId =>
    if otherCustomerId = customerId ∧ orderId = orderSummary.orderNumber then
      some (library.modelDump orderSummary)
    else orders otherCustomerId orderId

def orderStoreUnavailable : GetOrderResult where
  outcome := .systemFailure
  failureCode := some "ORDER_STORE_UNAVAILABLE"

/-- `PostgresGetOrderAdapter.get_order`; no orders at all is an error of the database. -/
def getOrder (orders : Option MockOrders) (query : GetOrderQuery) : GetOrderResult :=
  match orders with
  | none => orderStoreUnavailable
  | some orders =>
    match orders query.customerId query.orderId with
    | none | some .null => { outcome := .notFoundOrNotAccessible }
    | some payload =>
      match library.modelValidate payload with
      | none => orderStoreUnavailable
      | some projection =>
        if projection.orderNumber = query.orderId then
          (construct
            { outcome := .found
              orderSummary := some projection
              sourceVersion :=
                some (mockOrderSourceVersion library query.customerId query.orderId projection)
                  }).getD
            orderStoreUnavailable
        else orderStoreUnavailable

/-- Two tables hold the same rows of a customer. -/
def SameRowsOf (customerId : String) (orders other : MockOrders) : Prop :=
  ∀ orderId, orders customerId orderId = other customerId orderId

/-- The adapter reads no row of another customer. -/
private theorem getOrder_congr {customerId : String} {orders other : MockOrders}
    (same : SameRowsOf customerId orders other) {query : GetOrderQuery}
    (owned : query.customerId = customerId) :
    getOrder library (some orders) query = getOrder library (some other) query := by
  subst owned
  unfold getOrder
  dsimp only
  rw [same query.orderId]

end Adapter

/-- Everything around a run but the orders: the answers of all other calls, by the history of the
run, and the lookups that are interrupted or fail in the database. -/
structure World where
  library : ProjectionLibrary
  answers : List (Event Answer) → (call : Call) → Answer call
  interrupted : List (Event Answer) → Option Raised
  databaseFails : List (Event Answer) → Bool

namespace World

variable (world : World)

/-- The world with a table of orders, which may change in the course of the run. -/
def environment (orders : List (Event Answer) → MockOrders) (history : List (Event Answer)) :
    (call : Call) → Answer call
  | .port (.getOrder _ query) =>
    match world.interrupted history with
    | some raised => .error raised
    | none => .ok (some (getOrder world.library
        (if world.databaseFails history then none else some (orders history)) query))
  | call => world.answers history call

/-- The run of the service in the world. -/
def run (orders : List (Event Answer) → MockOrders) (service : AgentRunService)
    (command : AgentRunCommand) :
    List (Event Answer) × Except Raised AgentRunResult × RunFailureState :=
  (handle service command {}).simulate (world.environment orders) []

theorem run_runs (orders : List (Event Answer) → MockOrders) (service : AgentRunService)
    (command : AgentRunCommand) :
    (handle service command {}).Runs (world.run orders service command).1
    (world.run orders service command).2 :=
  Program.runs_simulate _ _ _

/-- A call that asks for no order of another customer. -/
def AsksOwnOrders (customerId : String) (call : Call) : Prop :=
  ∀ timeoutMs query, call = .port (.getOrder timeoutMs query) → query.customerId = customerId

private theorem environment_congr {customerId : String}
    {orders other : List (Event Answer) → MockOrders}
    (same : ∀ history, SameRowsOf customerId (orders history) (other history))
    (history : List (Event Answer)) (call : Call) (own : AsksOwnOrders customerId call) :
    world.environment orders history call = world.environment other history call := by
  unfold environment
  split
  · next timeoutMs query =>
    have answers := getOrder_congr world.library (same history) (own timeoutMs query rfl)
    cases world.interrupted history with
    | some raised => rfl
    | none =>
      cases world.databaseFails history with
      | true => rfl
      | false => exact congrArg (fun result => Except.ok (some result)) answers
  · rfl

/-- The service asks for orders of the authenticated customer only. -/
private theorem handle_asksOwnOrders (service : AgentRunService) (command : AgentRunCommand)
    (events : List (Event Answer)) (value : Except Raised AgentRunResult × RunFailureState)
    (runs : (handle service command {}).Runs events value) :
    ∀ event ∈ events, AsksOwnOrders command.customerContext.customerId event.call := by
  rintro ⟨call, answer⟩ member timeoutMs query rfl
  obtain ⟨before, -, evidence, authorised⟩ :=
    (handle_once service command _ _ _ runs).guard_of_mem member trivial
  obtain ⟨otherTimeoutMs, asks⟩ := authorised.asks
  injection asks with sameRequest
  injection sameRequest with _ sameQuery
  rw [sameQuery]

/-- Orders of other customers leave no mark on a run. -/
theorem run_congr {orders other : List (Event Answer) → MockOrders} (service : AgentRunService)
    {command : AgentRunCommand}
    (same : ∀ history,
      SameRowsOf command.customerContext.customerId (orders history) (other history)) :
    world.run orders service command = world.run other service command :=
  Program.simulate_congr (world.environment_congr same) (handle_asksOwnOrders service command) []

end World

end MiniAgent.Infrastructure
