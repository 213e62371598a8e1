import Mathlib.Data.Nat.Log
import Mathlib.Data.Nat.Size
import Mathlib.Algebra.Order.Group.Unbundled.Int
import Mathlib.Data.Int.Basic
import Mathlib.Tactic.Ring

set_option relaxedAutoImplicit false
set_option autoImplicit false

/-!
# Whole numbers through a double

A whole number that is stored in a double and read back is rounded to 53 binary digits, a tie to the
even neighbour.

## Main definitions

* `Proxor.ulp` — the distance of the doubles at a number.
* `Proxor.toDouble` — the whole number that comes back.

## Main results

* `Proxor.toDouble_eq_self` — exactly the multiples of their `ulp` come back as they were.
* `Proxor.toDouble_of_natAbs_le` — so do all up to `2 ^ 53`.
* `Proxor.toDouble_toDouble` — what came back comes back as it is.
-/

namespace Proxor

/-- The distance of the doubles at `n`. -/
def ulp (n : ℕ) : ℕ := 2 ^ (n.log2 - 52)

/-- Round to a multiple of `ulp n`, a tie to the even one. -/
def roundDouble (n : ℕ) : ℕ :=
  let q := n / ulp n
  let r := n % ulp n
  if 2 * r < ulp n ∨ 2 * r = ulp n ∧ q % 2 = 0 then q * ulp n else (q + 1) * ulp n

/-- A whole number after it was a double. -/
def toDouble (z : ℤ) : ℤ := z.sign * roundDouble z.natAbs

lemma ulp_pos (n : ℕ) : 0 < ulp n := Nat.two_pow_pos _

/-- A multiple of a power of two that has at most 53 digits before it. -/
lemma ulp_dvd {e n : ℕ} (hdvd : 2 ^ e ∣ n) (hle : n ≤ 2 ^ (e + 53)) : ulp n ∣ n := by
  unfold ulp
  by_cases hn : n = 0
  · rw [hn]
    exact dvd_zero _
  · by_cases hlt : n < 2 ^ (e + 53)
    · have hlog : n.log2 < e + 53 := (Nat.log2_lt hn).2 hlt
      exact (Nat.pow_dvd_pow 2 (by omega)).trans hdvd
    · have heq : n = 2 ^ (e + 53) := le_antisymm hle (not_lt.1 hlt)
      rw [heq, Nat.log2_two_pow]
      exact Nat.pow_dvd_pow 2 (by omega)

lemma roundDouble_eq_self {n : ℕ} : roundDouble n = n ↔ ulp n ∣ n := by
  have hpos := ulp_pos n
  have hdiv := Nat.div_add_mod n (ulp n)
  constructor
  · intro h
    unfold roundDouble at h
    dsimp only at h
    split_ifs at h
    · exact ⟨_, h.symm.trans (Nat.mul_comm _ _)⟩
    · exact ⟨_, h.symm.trans (Nat.mul_comm _ _)⟩
  · intro h
    have hmod : n % ulp n = 0 := Nat.mod_eq_zero_of_dvd h
    unfold roundDouble
    dsimp only
    rw [hmod, if_pos (.inl (by omega))]
    exact Nat.div_mul_cancel h

/-- **Exactly the multiples of their `ulp` come back as they were.** -/
theorem toDouble_eq_self {z : ℤ} : toDouble z = z ↔ ulp z.natAbs ∣ z.natAbs := by
  rw [← roundDouble_eq_self]
  unfold toDouble
  constructor
  · intro h
    by_cases hz : z = 0
    · subst hz
      rfl
    · have hsign : (z.sign).natAbs = 1 := Int.natAbs_sign_of_ne_zero hz
      have habs := congrArg Int.natAbs h
      rw [Int.natAbs_mul, hsign, one_mul, Int.natAbs_natCast] at habs
      exact habs
  · intro h
    rw [h]
    exact Int.sign_mul_natAbs z

/-- What is rounded has at most 53 digits. -/
lemma roundDouble_roundDouble (n : ℕ) : roundDouble (roundDouble n) = roundDouble n := by
  rw [roundDouble_eq_self]
  have hlt : n / ulp n < 2 ^ 53 := by
    rw [Nat.div_lt_iff_lt_mul (ulp_pos n), ulp, ← Nat.pow_add]
    exact Nat.lt_of_lt_of_le Nat.lt_log2_self (Nat.pow_le_pow_right (by omega) (by omega))
  have hround : ∃ q, q ≤ 2 ^ 53 ∧ roundDouble n = q * ulp n := by
    unfold roundDouble
    dsimp only
    split_ifs
    · exact ⟨_, hlt.le, rfl⟩
    · exact ⟨_, hlt, rfl⟩
  obtain ⟨q, hq, heq⟩ := hround
  rw [heq]
  refine @ulp_dvd (n.log2 - 52) _ (Nat.dvd_mul_left _ q) ?_
  rw [Nat.pow_add, Nat.mul_comm]
  exact Nat.mul_le_mul_left _ hq

/-- What came back comes back as it is. -/
theorem toDouble_toDouble (z : ℤ) : toDouble (toDouble z) = toDouble z := by
  rw [toDouble_eq_self]
  by_cases hz : z = 0
  · subst hz
    exact dvd_zero _
  · have habs : (toDouble z).natAbs = roundDouble z.natAbs := by
      rw [toDouble, Int.natAbs_mul, Int.natAbs_sign_of_ne_zero hz, one_mul, Int.natAbs_natCast]
    rw [habs, ← roundDouble_eq_self]
    exact roundDouble_roundDouble _

/-- All numbers up to `2 ^ 53` come back as they were. -/
theorem toDouble_of_natAbs_le {z : ℤ} (h : z.natAbs ≤ 2 ^ 53) : toDouble z = z :=
  toDouble_eq_self.2 (@ulp_dvd 0 _ (one_dvd _) (by simpa using h))

@[simp] lemma toDouble_zero : toDouble 0 = 0 := toDouble_of_natAbs_le (by decide)

end Proxor
