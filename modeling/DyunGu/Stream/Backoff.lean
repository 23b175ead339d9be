import DyunGu.Core.Resource
import DyunGu.Lib.Saturation
import DyunGu.Stream.Reconnect

namespace DyunGu
namespace Stream

open Saturation

/-!
# Backoff between reconnections

The delay before an attempt grows by a constant factor up to a limit, and gets a
random part on top.  All of it is saturating arithmetic on machine words, with
the exponent in a word of half the size.
-/

/-- One day. -/
def maxRetryBackoffMs : Nat := 24 * 60 * 60 * 1000

def u64Max : Nat := UInt64.size - 1

namespace RetryConfig

variable (retry : RetryConfig)

/-- What is larger than the type of the exponent becomes its largest number. -/
def exponent (attempt : Nat) : Nat :=
  if attempt - 1 <= Core.u32Max then attempt - 1 else Core.u32Max

/-- The delay before jitter. -/
def clamped (attempt : Nat) : Nat :=
  let initialBackoffMs := min retry.initialBackoffMs maxRetryBackoffMs
  let maxBackoffMs := min retry.maxBackoffMs maxRetryBackoffMs
  let base := satMul u64Max initialBackoffMs (satPow u64Max retry.multiplier (exponent attempt))
  min base maxBackoffMs

/-- The random part of the delay, from a random number. -/
def jitter (delay draw : Nat) : Nat :=
  if retry.jitterPercent = 0 then 0
  else
    let maxDelta := satMul u64Max delay retry.jitterPercent / 100
    if maxDelta = 0 then 0 else draw % maxDelta

def backoff (attempt draw : Nat) : Nat :=
  min (satAdd u64Max (retry.clamped attempt) (retry.jitter (retry.clamped attempt) draw))
    maxRetryBackoffMs

/-- The delay before jitter over unbounded numbers. -/
def exactDelay (attempt : Nat) : Nat :=
  min (min retry.initialBackoffMs maxRetryBackoffMs * retry.multiplier ^ (max attempt 1 - 1))
    (min retry.maxBackoffMs maxRetryBackoffMs)

theorem exponent_eq (attempt : Nat) : exponent attempt = min (max attempt 1 - 1) Core.u32Max := by
  have first : max attempt 1 - 1 = attempt - 1 := by omega
  rw [exponent, first]
  split
  · rename_i small
    exact (Nat.min_eq_left small).symm
  · rename_i large
    exact (Nat.min_eq_right (Nat.le_of_not_le large)).symm

/-- Nothing wraps, and what saturates is above the limit anyway. -/
theorem clamped_eq (attempt : Nat) : retry.clamped attempt = retry.exactDelay attempt := by
  have fits : min retry.maxBackoffMs maxRetryBackoffMs <= u64Max :=
    (Nat.min_le_right _ _).trans (by decide)
  have wide : u64Max <= 2 ^ Core.u32Max :=
    (show u64Max <= 2 ^ 64 by decide).trans (Nat.pow_le_pow_right (by decide) (by decide))
  rw [clamped, exponent_eq]
  exact min_satMul_satPow fits (by decide) wide _ _ _

theorem clamped_le (attempt : Nat) : retry.clamped attempt <= maxRetryBackoffMs :=
  (Nat.min_le_right _ _).trans (Nat.min_le_right _ _)

/-- With a factor of at least one the delay does not decrease. -/
theorem clamped_mono (grows : 1 <= retry.multiplier) {attempt later : Nat}
    (after : attempt <= later) : retry.clamped attempt <= retry.clamped later := by
  have longer : max attempt 1 - 1 <= max later 1 - 1 := by omega
  rw [clamped_eq, clamped_eq, exactDelay, exactDelay]
  exact min_le_min_right _ (Nat.mul_le_mul_left _ (Nat.pow_le_pow_right grows longer))

theorem jitter_le (delay draw : Nat) :
    retry.jitter delay draw <= delay * retry.jitterPercent / 100 := by
  rw [jitter]
  split
  · exact Nat.zero_le _
  · dsimp only
    split
    · exact Nat.zero_le _
    · rename_i positive
      have below := Nat.mod_lt draw (Nat.pos_of_ne_zero positive)
      exact below.le.trans (Nat.div_le_div_right (Nat.min_le_left _ _))

theorem le_backoff (attempt draw : Nat) : retry.clamped attempt <= retry.backoff attempt draw := by
  have small := retry.clamped_le attempt
  refine Nat.le_min.mpr ⟨Nat.le_min.mpr ⟨Nat.le_add_right _ _, ?_⟩, small⟩
  exact small.trans (by decide)

theorem backoff_le (attempt draw : Nat) : retry.backoff attempt draw <=
    retry.clamped attempt + retry.clamped attempt * retry.jitterPercent / 100 := by
  refine (Nat.min_le_left _ _).trans ((Nat.min_le_left _ _).trans ?_)
  exact Nat.add_le_add_left (retry.jitter_le _ draw) _

/-- The delay is the exact one, and jitter only adds its share. -/
theorem backoff_exact (attempt draw : Nat) :
    retry.clamped attempt = retry.exactDelay attempt ∧
      (1 <= retry.multiplier -> forall later, attempt <= later ->
        retry.clamped attempt <= retry.clamped later) ∧
      retry.clamped attempt <= retry.backoff attempt draw ∧
      retry.backoff attempt draw <=
        retry.clamped attempt + retry.clamped attempt * retry.jitterPercent / 100 ∧
      retry.backoff attempt draw <= maxRetryBackoffMs :=
  ⟨retry.clamped_eq attempt, fun grows _ after => retry.clamped_mono grows after,
    retry.le_backoff attempt draw, retry.backoff_le attempt draw, Nat.min_le_right _ _⟩

example : (RetryConfig.mk 100 10000 2 0 0).backoff 8 0 = 10000 := by decide

end RetryConfig

end Stream
end DyunGu
