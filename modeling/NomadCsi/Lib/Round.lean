import Mathlib.Algebra.Order.Ring.Int
import Mathlib.Order.Bounds.Basic
import NomadCsi.Lib.Go

/-!
# Rounding up to a multiple

`roundUp b n` is the least multiple of `b` that is not below `n`, for a positive `b`.
`((n + b - 1) / b) * b` on `int64` (`roundUp64`) agrees with it while `n + b - 1` does not
overflow, and is not positive otherwise.
-/

namespace NomadCsi.Lib

open Go

variable {b m n : Int}

/-- The largest multiple of `b` that is not above `n + b - 1`. -/
def roundUp (b n : Int) : Int := (n + b - 1) / b * b

theorem dvd_roundUp (b n : Int) : b ∣ roundUp b n := dvd_mul_left _ _

theorem roundUp_le_add (hb : b ≠ 0) (n : Int) : roundUp b n ≤ n + b - 1 := Int.ediv_mul_le _ hb

theorem le_roundUp (hb : 0 < b) (n : Int) : n ≤ roundUp b n := by
  have h := Int.lt_ediv_add_one_mul_self (n + b - 1) hb
  rw [Int.add_mul, Int.one_mul] at h
  unfold roundUp
  omega

theorem le_of_dvd_of_lt_add (hb : 0 < b) {x y : Int} (hx : b ∣ x) (hy : b ∣ y) (h : x < y + b) :
    x ≤ y := by
  obtain ⟨p, rfl⟩ := hx
  obtain ⟨q, rfl⟩ := hy
  have hmul : b * p < b * (q + 1) := by
    rw [Int.mul_add, Int.mul_one]
    exact h
  have hpq : p < q + 1 := Int.lt_of_mul_lt_mul_left hmul hb.le
  exact Int.mul_le_mul_of_nonneg_left (Int.lt_add_one_iff.1 hpq) hb.le

theorem roundUp_le (hb : 0 < b) (h : n ≤ m) (hd : b ∣ m) : roundUp b n ≤ m := by
  refine le_of_dvd_of_lt_add hb (dvd_roundUp b n) hd ?_
  have hle := roundUp_le_add hb.ne' n
  omega

theorem eq_roundUp (hb : 0 < b) (h : n ≤ m) (hd : b ∣ m) (hlt : m < n + b) : m = roundUp b n := by
  refine le_antisymm (le_of_dvd_of_lt_add hb hd (dvd_roundUp b n) ?_) (roundUp_le hb h hd)
  have hle := le_roundUp hb n
  omega

theorem isLeast_roundUp (hb : 0 < b) (n : Int) :
    IsLeast {m : Int | b ∣ m ∧ n ≤ m} (roundUp b n) := by
  refine ⟨⟨dvd_roundUp b n, le_roundUp hb n⟩, ?_⟩
  rintro m ⟨hd, hle⟩
  exact roundUp_le hb hle hd

/-- If the range ends on a multiple, the sum fits in it just when the rounding does. -/
theorem add_le_iff_roundUp_lt (hb : 0 < b) {top : Int} (hd : b ∣ top) :
    n + b ≤ top ↔ roundUp b n < top := by
  have hle := roundUp_le_add hb.ne' n
  constructor
  · intro h
    omega
  · intro h
    have hgap : roundUp b n + b ≤ top :=
      le_of_dvd_of_lt_add hb (Int.dvd_add (dvd_roundUp b n) dvd_rfl) hd (by omega)
    have hn := le_roundUp hb n
    omega

/-! ### On `int64` -/

/-- `((n + b - 1) / b) * b` with every operation wrapped; `b` is not zero. -/
def roundUp64 (b n : Int) : Int :=
  wrap64 (wrap64 ((wrap64 (wrap64 (n + b) - 1)).tdiv b) * b)

theorem roundUp64_lt (b n : Int) : roundUp64 b n < 2 ^ 63 := by
  unfold roundUp64
  generalize wrap64 _ * b = x
  unfold wrap64
  omega

theorem wrap64_wrap64_sub_one (x : Int) : wrap64 (wrap64 x - 1) = wrap64 (x - 1) := by
  unfold wrap64
  omega

/-- Truncated division and the product that undoes it come out between zero and the dividend. -/
theorem tdiv_mul_le {s : Int} (h : 0 ≤ s) (b : Int) : 0 ≤ s.tdiv b * b ∧ s.tdiv b * b ≤ s := by
  have hrem : (s.tmod b).natAbs ≤ s.natAbs := by
    rw [Int.natAbs_tmod]
    exact Nat.mod_le _ _
  have hsign := Int.tmod_nonneg b h
  have hsum := Int.tdiv_mul_add_tmod s b
  omega

theorem le_tdiv_mul {s : Int} (h : s ≤ 0) (b : Int) : s ≤ s.tdiv b * b ∧ s.tdiv b * b ≤ 0 := by
  have hneg := tdiv_mul_le (s := -s) (by omega) b
  rw [Int.neg_tdiv, Int.neg_mul] at hneg
  omega

theorem roundUp64_eq (h0 : 0 ≤ n + b - 1) (h : n + b - 1 < 2 ^ 63) :
    roundUp64 b n = roundUp b n := by
  have hs : wrap64 (n + b - 1) = n + b - 1 := wrap64_eq ⟨by omega, h⟩
  have hquot := Int.natAbs_tdiv_le_natAbs (n + b - 1) b
  have hmul := tdiv_mul_le h0 b
  have hq : wrap64 ((n + b - 1).tdiv b) = (n + b - 1).tdiv b := wrap64_eq (by omega)
  unfold roundUp64 roundUp
  rw [wrap64_wrap64_sub_one, hs, hq, wrap64_eq (by omega), Int.tdiv_eq_ediv_of_nonneg h0]

theorem roundUp64_nonpos {s : Int} (hs : wrap64 (n + b - 1) = s) (hneg : s < 0)
    (hb : s ≠ -2 ^ 63 ∨ b ≠ -1) : roundUp64 b n ≤ 0 := by
  have hlow : -2 ^ 63 ≤ s := by
    rw [← hs]
    unfold wrap64
    omega
  have hquot : wrap64 (s.tdiv b) = s.tdiv b := by
    have hle : (s.tdiv b).natAbs ≤ s.natAbs := Int.natAbs_tdiv_le_natAbs s b
    refine wrap64_eq ?_
    by_cases hone : b = 1
    · rw [hone, Int.tdiv_one]
      omega
    · by_cases hmin : s = -2 ^ 63
      · -- only a divisor of -1 would overflow
        have hhalf : s.natAbs / b.natAbs ≤ s.natAbs / 2 := by
          by_cases hzero : b.natAbs = 0
          · rw [hzero, Nat.div_zero]
            exact Nat.zero_le _
          · exact Nat.div_le_div_left (by omega) (by omega)
        have hnat : (s.tdiv b).natAbs = s.natAbs / b.natAbs := Int.natAbs_tdiv s b
        omega
      · omega
  have hmul := le_tdiv_mul hneg.le b
  unfold roundUp64
  rw [wrap64_wrap64_sub_one, hs, hquot, wrap64_eq (by omega)]
  exact hmul.2

/-- A bound is passed exactly if the sum does not overflow and the rounding passes it. -/
theorem lt_roundUp64_iff {bound : Int} (hbound : 0 ≤ bound) (hn : 0 < n ∧ n < 2 ^ 63)
    (hb : b ≠ 0 ∧ -2 ^ 63 ≤ b ∧ b < 2 ^ 63) :
    bound < roundUp64 b n ↔ n + b ≤ 2 ^ 63 ∧ bound < roundUp b n := by
  have hle := roundUp_le_add hb.1 n
  by_cases hover : 2 ^ 63 < n + b
  · have hs : wrap64 (n + b - 1) = n + b - 1 - 2 ^ 64 := by
      unfold wrap64
      omega
    have hnon := roundUp64_nonpos hs (by omega) (.inr (by omega))
    omega
  · by_cases hneg : n + b - 1 < 0
    · have hs : wrap64 (n + b - 1) = n + b - 1 := wrap64_eq (by omega)
      have hnon := roundUp64_nonpos hs hneg (by omega)
      omega
    · rw [roundUp64_eq (by omega) (by omega)]
      omega

end NomadCsi.Lib
