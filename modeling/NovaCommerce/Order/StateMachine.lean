import NovaCommerce.Schema

/-!
# The order status machine

The transition table and its guard. The error class belongs to the operation, so the guard takes it.
-/

namespace NovaCommerce

/-- `ORDER_STATUS_TRANSITIONS`. -/
def OrderStatus.transitions : OrderStatus → List OrderStatus
  | .pendingPayment => [.processing, .cancelled, .closed]
  | .processing => [.completed, .closed]
  | .completed => [.closed]
  | .cancelled => []
  | .closed => []

def OrderStatus.canTransition (current target : OrderStatus) : Bool := target ∈ current.transitions

/-- Guard a transition; a refusal names the legal targets in alphabetical order. -/
def assertTransition (current target : OrderStatus) (error : ErrorKind) : Except AppError OrderStatus :=
  if current.canTransition target then .ok target
  else .error {
    kind := error
    message := s!"order_status cannot move from {current.value} to {target.value}"
    context := [("from_status", .str current.value), ("to_status", .str target.value),
      ("allowed", .strs ((current.transitions.map OrderStatus.value).mergeSort fun a b => decide (a ≤ b)))] }

/-- Guard a cancellation. -/
def transitionToCancelled (current : OrderStatus) : Except AppError OrderStatus :=
  assertTransition current .cancelled .orderNotCancellable

/-- Guard a receipt. -/
def transitionToCompleted (current : OrderStatus) : Except AppError OrderStatus :=
  assertTransition current .completed .orderNotConfirmable

theorem assertTransition_eq_ok {current target result : OrderStatus} {error : ErrorKind} :
    assertTransition current target error = .ok result ↔
      target ∈ current.transitions ∧ result = target := by
  unfold assertTransition OrderStatus.canTransition
  by_cases h : target ∈ current.transitions
  · simp [h, eq_comm]
  · simp [h]

/-- Only a pending order can be cancelled. -/
theorem transitionToCancelled_eq_ok {current result : OrderStatus} :
    transitionToCancelled current = .ok result ↔ current = .pendingPayment ∧ result = .cancelled := by
  rw [transitionToCancelled, assertTransition_eq_ok]
  cases current <;> simp [OrderStatus.transitions]

/-- Only an order in processing can be completed. -/
theorem transitionToCompleted_eq_ok {current result : OrderStatus} :
    transitionToCompleted current = .ok result ↔ current = .processing ∧ result = .completed := by
  rw [transitionToCompleted, assertTransition_eq_ok]
  cases current <;> simp [OrderStatus.transitions]

/-- No transition leads back to a pending order. -/
theorem pendingPayment_not_mem_transitions (current : OrderStatus) :
    .pendingPayment ∉ current.transitions := by
  cases current <;> decide

end NovaCommerce
