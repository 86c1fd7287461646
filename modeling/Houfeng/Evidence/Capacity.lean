import Houfeng.Foundation.Guarded

/-!
# Capacity of evidence and the attachment quota

Sizes of evidence are `uint64`; those of attachments are `int64` and not negative.
-/

namespace Houfeng

open Guarded

def Attachments.quotaWarningThreshold (limit warningPercent : Nat) : Run Unit Nat := do
  let whole ← toInt (limit / 100 * warningPercent)
  let product ← toInt (limit % 100 * warningPercent)
  let remainder ← toInt (product + 99)
  toInt (whole + remainder / 100)

namespace Evidence

inductive CapacityError
  | invalidCapacityPolicy
  | capacityArithmetic

structure CapacityPolicy where
  projectLimitBytes : Nat
  warningPercent : Nat

inductive QuotaStatus
  | allowed
  | warning
  | exceeded

structure QuotaOutcome where
  status : QuotaStatus
  reason : String := ""

structure CapacityEvaluation where
  usedBytes : Nat
  additionalBytes : Nat
  projectedBytes : Nat
  limitBytes : Nat
  warningThresholdBytes : Nat
  outcome : QuotaOutcome

namespace CapacityPolicy

variable (policy : CapacityPolicy)

def validate : Run CapacityError Unit :=
  require (policy.projectLimitBytes ≠ 0 ∧ policy.projectLimitBytes < intSize ∧
    policy.warningPercent ≠ 0 ∧ policy.warningPercent ≤ 100) .invalidCapacityPolicy

def warningThresholdBytes : Run CapacityError Nat := do
  policy.validate
  let percent := policy.warningPercent
  let whole ← mul64 (policy.projectLimitBytes / 100) percent
  let product ← mul64 (policy.projectLimitBytes % 100) percent
  let remainder ← add64 product 99
  let threshold ← add64 whole (remainder / 100)
  require (threshold ≠ 0 ∧ threshold ≤ policy.projectLimitBytes) .invalidCapacityPolicy
  pure threshold

def evaluate (usedBytes additionalBytes : Nat) : Run CapacityError CapacityEvaluation := do
  let warningThresholdBytes ← policy.warningThresholdBytes
  let limitBytes := policy.projectLimitBytes
  require (additionalBytes ≤ uint64Size - 1 - usedBytes) .capacityArithmetic
  let projectedBytes ← add64 usedBytes additionalBytes
  let outcome :=
    if projectedBytes > limitBytes then ⟨.exceeded, "project evidence quota exceeded"⟩
    else if projectedBytes ≥ warningThresholdBytes then
      ⟨.warning, "project evidence quota warning threshold reached"⟩
    else { status := .allowed }
  pure { usedBytes, additionalBytes, projectedBytes, limitBytes, warningThresholdBytes, outcome }

end CapacityPolicy

end Evidence

end Houfeng
