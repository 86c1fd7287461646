import Houfeng.Evidence.Capacity
import Mathlib.Algebra.Order.Floor.Div
import Mathlib.GroupTheory.GroupAction.Ring

/-!
# The thresholds of a capacity

The threshold of a limit is the ceiling of its percentage, computed without overflow, and the
evaluation of a capacity changes at the threshold and at the limit.
-/

namespace Houfeng.Evidence

open Attachments Guarded

variable {limit percent : Nat}

theorem whole_add_remainder (limit percent : Nat) :
    limit / 100 * percent + (limit % 100 * percent + 99) / 100 = limit * percent ⌈/⌉ 100 := by
  have hsplit : limit * percent = 100 * (limit / 100 * percent) + limit % 100 * percent := by
    conv_lhs => rw [← Nat.div_add_mod limit 100, Nat.add_mul, Nat.mul_assoc]
  rw [Nat.ceilDiv_eq_add_pred_div, hsplit]
  omega

theorem ceilDiv_le_limit (limit : Nat) (hpercent : percent ≤ 100) :
    limit * percent ⌈/⌉ 100 ≤ limit := by
  rw [ceilDiv_le_iff_le_mul (by decide), Nat.mul_comm 100]
  exact Nat.mul_le_mul_left limit hpercent

/-- The numbers that the computation of a threshold meets. -/
theorem parts_lt {size : Nat} (hsize : 10000 ≤ size) (hlimit : limit < size)
    (hpercent : percent ≤ 100) :
    limit / 100 * percent < size ∧ limit % 100 * percent < size ∧
      limit % 100 * percent + 99 < size ∧ limit * percent ⌈/⌉ 100 < size := by
  have hsum := whole_add_remainder limit percent
  have hceil := ceilDiv_le_limit limit hpercent
  have hremainder : limit % 100 * percent ≤ 99 * 100 :=
    Nat.mul_le_mul (Nat.le_of_lt_succ (Nat.mod_lt limit (by decide))) hpercent
  omega

def QuotaStatus.rank : QuotaStatus → Nat
  | .allowed => 0
  | .warning => 1
  | .exceeded => 2

/-- The status of a projected size. -/
def statusAt (limit threshold projected : Nat) : QuotaStatus :=
  if limit < projected then .exceeded
  else if threshold ≤ projected then .warning
  else .allowed

theorem statusAt_mono (limit threshold : Nat) :
    Monotone fun projected => (statusAt limit threshold projected).rank := by
  intro a b hle
  simp only [statusAt]
  split_ifs <;> simp [QuotaStatus.rank] <;> omega

section Thresholds

variable (hlimit : limit < intSize) (hpercent : percent ≤ 100)

include hlimit hpercent

theorem quotaWarningThreshold_eq_ok :
    quotaWarningThreshold limit percent = .ok (limit * percent ⌈/⌉ 100) := by
  obtain ⟨hwhole, hproduct, hremainder, hresult⟩ := parts_lt (by decide) hlimit hpercent
  simp only [quotaWarningThreshold, toInt, bind, Except.bind, if_pos hwhole, if_pos hproduct,
    if_pos hremainder, whole_add_remainder, if_pos hresult]

variable (hpos : limit ≠ 0) (hone : percent ≠ 0)

include hpos hone

theorem warningThresholdBytes_eq_ok :
    CapacityPolicy.warningThresholdBytes ⟨limit, percent⟩ = .ok (limit * percent ⌈/⌉ 100) := by
  have hleast : limit * percent ⌈/⌉ 100 ≠ 0 := by
    rw [ne_eq, ← Nat.le_zero, ceilDiv_le_iff_le_mul (by decide)]
    simp [hpos, hone]
  have hvalid : limit ≠ 0 ∧ limit < intSize ∧ percent ≠ 0 ∧ percent ≤ 100 :=
    ⟨hpos, hlimit, hone, hpercent⟩
  have hsmall : limit < uint64Size := hlimit.trans (by decide)
  obtain ⟨hwhole, hproduct, hremainder, hresult⟩ := parts_lt (by decide) hsmall hpercent
  simp only [CapacityPolicy.warningThresholdBytes, CapacityPolicy.validate, require, mul64, add64,
    bind, Except.bind, if_pos hvalid, if_pos hwhole, if_pos hproduct, if_pos hremainder,
    whole_add_remainder, if_pos hresult,
    if_pos (And.intro hleast (ceilDiv_le_limit limit hpercent))]
  rfl

theorem evaluate_eq_ok {used additional : Nat} (hsum : used + additional < uint64Size) :
    ∃ e, CapacityPolicy.evaluate ⟨limit, percent⟩ used additional = .ok e ∧
      e.projectedBytes = used + additional ∧
      e.outcome.status = statusAt limit (limit * percent ⌈/⌉ 100) (used + additional) := by
  have hroom : additional ≤ uint64Size - 1 - used := by omega
  simp only [CapacityPolicy.evaluate, require, add64, bind, Except.bind, if_pos hroom, if_pos hsum,
    warningThresholdBytes_eq_ok hlimit hpercent hpos hone]
  refine ⟨_, rfl, rfl, ?_⟩
  simp only [statusAt]
  split_ifs <;> rfl

theorem evaluate_eq_rejected {used additional : Nat} (hused : used < uint64Size)
    (hsum : uint64Size ≤ used + additional) :
    CapacityPolicy.evaluate ⟨limit, percent⟩ used additional =
      .error (.rejected .capacityArithmetic) := by
  have hroom : ¬ additional ≤ uint64Size - 1 - used := by omega
  simp only [CapacityPolicy.evaluate, require, bind, Except.bind, if_neg hroom,
    warningThresholdBytes_eq_ok hlimit hpercent hpos hone]

end Thresholds

/-- A limit of zero fails the check of the policy, so nothing is computed. -/
theorem zero_limit_rejected (percent used additional : Nat) :
    CapacityPolicy.warningThresholdBytes ⟨0, percent⟩ = .error (.rejected .invalidCapacityPolicy) ∧
      CapacityPolicy.evaluate ⟨0, percent⟩ used additional =
        .error (.rejected .invalidCapacityPolicy) := by
  simp [CapacityPolicy.evaluate, CapacityPolicy.warningThresholdBytes, CapacityPolicy.validate,
    require, bind, Except.bind]

/-- Every threshold is the ceiling, a sum that would wrap is refused, and so is a limit of zero. -/
theorem capacity_thresholds_exact (hlimit : limit < intSize) (hone : percent ≠ 0)
    (hpercent : percent ≤ 100) :
    quotaWarningThreshold limit percent = .ok (limit * percent ⌈/⌉ 100) ∧
    (limit ≠ 0 →
      CapacityPolicy.warningThresholdBytes ⟨limit, percent⟩ = .ok (limit * percent ⌈/⌉ 100) ∧
      ∀ used additional,
        (used + additional < uint64Size →
          ∃ e, CapacityPolicy.evaluate ⟨limit, percent⟩ used additional = .ok e ∧
            e.projectedBytes = used + additional ∧
            e.outcome.status = statusAt limit (limit * percent ⌈/⌉ 100) (used + additional)) ∧
        (used < uint64Size → uint64Size ≤ used + additional →
          CapacityPolicy.evaluate ⟨limit, percent⟩ used additional =
            .error (.rejected .capacityArithmetic))) ∧
    (limit = 0 → ∀ used additional,
      CapacityPolicy.warningThresholdBytes ⟨limit, percent⟩ =
          .error (.rejected .invalidCapacityPolicy) ∧
        CapacityPolicy.evaluate ⟨limit, percent⟩ used additional =
          .error (.rejected .invalidCapacityPolicy)) ∧
    Monotone fun projected => (statusAt limit (limit * percent ⌈/⌉ 100) projected).rank :=
  ⟨quotaWarningThreshold_eq_ok hlimit hpercent,
    fun hpos => ⟨warningThresholdBytes_eq_ok hlimit hpercent hpos hone, fun _ _ =>
      ⟨evaluate_eq_ok hlimit hpercent hpos hone, evaluate_eq_rejected hlimit hpercent hpos hone⟩⟩,
    fun hzero used additional => hzero ▸ zero_limit_rejected percent used additional,
    statusAt_mono _ _⟩

/-- The default capacity of ten gibibytes at eighty percent. -/
theorem capacity_thresholds_exact_default :
    CapacityPolicy.warningThresholdBytes ⟨10737418240, 80⟩ = .ok 8589934592 ∧
      CapacityPolicy.evaluate ⟨10737418240, 80⟩ (uint64Size - 1) 1 =
        .error (.rejected .capacityArithmetic) := by
  have hlimit : 10737418240 < intSize := by decide
  have hpercent : 80 ≤ 100 := by decide
  obtain ⟨-, hlimited, -, -⟩ := capacity_thresholds_exact hlimit (by decide) hpercent
  obtain ⟨hthreshold, hevaluate⟩ := hlimited (by decide)
  refine ⟨hthreshold.trans (congrArg _ ?_), (hevaluate _ _).2 (by decide) (by decide)⟩
  rw [Nat.ceilDiv_eq_add_pred_div]

/-- No threshold is computed for a limit of zero and nothing is classified, although the percentage
of zero is zero. -/
theorem zero_limit_refused :
    CapacityPolicy.warningThresholdBytes ⟨0, 80⟩ = .error (.rejected .invalidCapacityPolicy) ∧
      CapacityPolicy.evaluate ⟨0, 80⟩ 0 0 = .error (.rejected .invalidCapacityPolicy) ∧
      0 * 80 ⌈/⌉ 100 = 0 := by
  simpa using zero_limit_rejected 80 0 0

end Houfeng.Evidence
