import Mathlib.Data.Nat.Basic

namespace DyunGu
namespace Backend

/-!
# Backend metrics

The counters of `dg-runtime/src/metrics.rs` that take part in the in-flight
accounting.  They are `u64` atomics: an addition saturates and counts an
overflow, a subtraction stops at zero and counts an underflow.  One metrics
value may be shared by all the runtimes of a pool, so the operations of a
runtime take it as an argument and return it.
-/

def u64Max : Nat := UInt64.size - 1

/-- The new value of a counter and of the overflow counter. -/
def saturatingFetchAdd (current value overflow : Nat) : Nat × Nat :=
  if current + value <= u64Max then (current + value, overflow) else (u64Max, overflow + 1)

/-- The new value of a counter and of the underflow counter. -/
def checkedFetchSub (current value underflow : Nat) : Nat × Nat :=
  if value <= current then (current - value, underflow) else (0, underflow + 1)

structure BackendMetrics where
  submissions : Nat
  inFlight : Nat
  pollPending : Nat
  backendErrors : Nat
  cancelled : Nat
  overflow : Nat
  underflow : Nat
deriving DecidableEq, Repr

namespace BackendMetrics

def fresh : BackendMetrics where
  submissions := 0
  inFlight := 0
  pollPending := 0
  backendErrors := 0
  cancelled := 0
  overflow := 0
  underflow := 0

def recordSubmission (metrics : BackendMetrics) : BackendMetrics :=
  let (submissions, overflow) := saturatingFetchAdd metrics.submissions 1 metrics.overflow
  let (inFlight, overflow) := saturatingFetchAdd metrics.inFlight 1 overflow
  { metrics with submissions := submissions, inFlight := inFlight, overflow := overflow }

def recordPollPending (metrics : BackendMetrics) : BackendMetrics :=
  let (pollPending, overflow) := saturatingFetchAdd metrics.pollPending 1 metrics.overflow
  { metrics with pollPending := pollPending, overflow := overflow }

def recordBackendError (metrics : BackendMetrics) : BackendMetrics :=
  let (backendErrors, overflow) := saturatingFetchAdd metrics.backendErrors 1 metrics.overflow
  { metrics with backendErrors := backendErrors, overflow := overflow }

def recordCancel (metrics : BackendMetrics) : BackendMetrics :=
  let (cancelled, overflow) := saturatingFetchAdd metrics.cancelled 1 metrics.overflow
  { metrics with cancelled := cancelled, overflow := overflow }

def finishInFlight (metrics : BackendMetrics) : BackendMetrics :=
  let (inFlight, underflow) := checkedFetchSub metrics.inFlight 1 metrics.underflow
  { metrics with inFlight := inFlight, underflow := underflow }

/-- The loop of `cancel` that performs one operation for each released or
failed submission. -/
def times : Nat -> (BackendMetrics -> BackendMetrics) -> BackendMetrics -> BackendMetrics
  | 0, _, metrics => metrics
  | count + 1, operation, metrics => times count operation (operation metrics)

/-! ## The in-flight counter under each operation -/

theorem recordSubmission_inFlight (metrics : BackendMetrics)
    (room : metrics.inFlight < u64Max) :
    metrics.recordSubmission.inFlight = metrics.inFlight + 1 := by
  simp only [recordSubmission, saturatingFetchAdd]
  rw [if_pos (show metrics.inFlight + 1 <= u64Max by omega)]

@[simp] theorem recordPollPending_inFlight (metrics : BackendMetrics) :
    metrics.recordPollPending.inFlight = metrics.inFlight := rfl

@[simp] theorem recordBackendError_inFlight (metrics : BackendMetrics) :
    metrics.recordBackendError.inFlight = metrics.inFlight := rfl

@[simp] theorem recordCancel_inFlight (metrics : BackendMetrics) :
    metrics.recordCancel.inFlight = metrics.inFlight := rfl

@[simp] theorem finishInFlight_inFlight (metrics : BackendMetrics) :
    metrics.finishInFlight.inFlight = metrics.inFlight - 1 := by
  simp only [finishInFlight, checkedFetchSub]
  split
  · rfl
  · dsimp only
    omega

@[simp] theorem times_finishInFlight_inFlight (count : Nat) (metrics : BackendMetrics) :
    (times count finishInFlight metrics).inFlight = metrics.inFlight - count := by
  induction count generalizing metrics with
  | zero => rfl
  | succ count ih =>
      change (times count finishInFlight metrics.finishInFlight).inFlight = _
      rw [ih, finishInFlight_inFlight]
      omega

@[simp] theorem times_recordBackendError_inFlight (count : Nat) (metrics : BackendMetrics) :
    (times count recordBackendError metrics).inFlight = metrics.inFlight := by
  induction count generalizing metrics with
  | zero => rfl
  | succ count ih =>
      change (times count recordBackendError metrics.recordBackendError).inFlight = _
      rw [ih, recordBackendError_inFlight]

/-! ## The underflow counter -/

/-- A release of something that was counted is no underflow. -/
theorem finishInFlight_underflow {metrics : BackendMetrics} (counted : 0 < metrics.inFlight) :
    metrics.finishInFlight.underflow = metrics.underflow := by
  simp only [finishInFlight, checkedFetchSub]
  rw [if_pos (show 1 <= metrics.inFlight by omega)]

theorem times_finishInFlight_underflow {count : Nat} {metrics : BackendMetrics}
    (counted : count <= metrics.inFlight) :
    (times count finishInFlight metrics).underflow = metrics.underflow := by
  induction count generalizing metrics with
  | zero => rfl
  | succ count ih =>
      change (times count finishInFlight metrics.finishInFlight).underflow = _
      rw [ih (by rw [finishInFlight_inFlight]; omega), finishInFlight_underflow (by omega)]

@[simp] theorem times_recordBackendError_underflow (count : Nat) (metrics : BackendMetrics) :
    (times count recordBackendError metrics).underflow = metrics.underflow := by
  induction count generalizing metrics with
  | zero => rfl
  | succ count ih =>
      change (times count recordBackendError metrics.recordBackendError).underflow = _
      rw [ih]
      rfl

end BackendMetrics
end Backend
end DyunGu
