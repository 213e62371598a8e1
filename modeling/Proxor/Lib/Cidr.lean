import Mathlib.Data.Set.Basic
import Mathlib.Tactic.Ring

set_option relaxedAutoImplicit false
set_option autoImplicit false

/-!
# Networks of IPv4 addresses

A network is the set of the addresses whose first bits are those of its start. One network lies in another
exactly if it has at least as many fixed bits and begins with those of the other.

## Main definitions

* `Cidr.mask`, `Cidr.network` — the fixed bits, and the addresses of a network.

## Main results

* `Cidr.toNat_and_mask` — what a mask does to a number.
* `Cidr.network_subset_iff` — when one network lies in another.
-/

namespace Cidr

/-- An address. -/
abbrev Address : Type := BitVec 32

/-- The first `p` bits. -/
def mask (p : ℕ) : Address := BitVec.allOnes 32 <<< (32 - p)

/-- The addresses whose first `p` bits are those of `start`. -/
def network (start : Address) (p : ℕ) : Set Address := {a | a &&& mask p = start}

lemma mem_network {start a : Address} {p : ℕ} : a ∈ network start p ↔ a &&& mask p = start := Iff.rfl

/-- The bits of a mask, from the last one. -/
lemma getElem_mask (p : ℕ) {i : ℕ} (hi : i < 32) : (mask p)[i] = !decide (i < 32 - p) := by
  rw [mask, BitVec.getElem_shiftLeft, BitVec.getElem_allOnes, Bool.and_true]

/-- A mask keeps the first bits and clears the others. -/
lemma toNat_and_mask (a : Address) (p : ℕ) :
    (a &&& mask p).toNat = a.toNat / 2 ^ (32 - p) * 2 ^ (32 - p) := by
  have hshift : a &&& mask p = (a >>> (32 - p)) <<< (32 - p) := by
    ext i hi
    rw [BitVec.getElem_and, getElem_mask, BitVec.getElem_shiftLeft]
    by_cases hlow : i < 32 - p
    · simp [hlow]
    · have hadd : 32 - p + (i - (32 - p)) = i := by omega
      simp [hlow, BitVec.getLsbD_eq_getElem hi, hadd]
  rw [hshift, BitVec.toNat_shiftLeft, BitVec.toNat_ushiftRight, Nat.shiftRight_eq_div_pow,
    Nat.shiftLeft_eq, Nat.mod_eq_of_lt]
  exact (Nat.div_mul_le_self _ _).trans_lt a.isLt

/-- A shorter mask clears more. -/
lemma and_mask_and_mask (a : Address) {p q : ℕ} (h : q ≤ p) : a &&& mask p &&& mask q = a &&& mask q := by
  have hmask : mask p &&& mask q = mask q := by
    ext i hi
    rw [BitVec.getElem_and, getElem_mask, getElem_mask]
    by_cases hlow : i < 32 - q
    · simp [hlow]
    · have hlow' : ¬ i < 32 - p := by omega
      simp [hlow, hlow']
  rw [BitVec.and_assoc, hmask]

lemma and_mask_self (a : Address) (p : ℕ) : a &&& mask p &&& mask p = a &&& mask p :=
  and_mask_and_mask a le_rfl

/-- The network of an address has it. -/
lemma mem_network_self (a : Address) (p : ℕ) : a ∈ network (a &&& mask p) p := rfl

/-- **When one network lies in another.**

**Proof sketch.** The start of the first is in the second. If the second has more fixed bits, the start with
the last of these changed is in the first and not in the second. -/
theorem network_subset_iff {s s' : Address} {p p' : ℕ} (hp' : p' ≤ 32) (hs : s &&& mask p = s) :
    network s p ⊆ network s' p' ↔ p' ≤ p ∧ s &&& mask p' = s' := by
  constructor
  · intro h
    have hstart : s &&& mask p' = s' := h hs
    refine ⟨?_, hstart⟩
    by_contra hlt
    push Not at hlt
    -- The first free bit of the second network is a free bit of the first.
    have hfixed : s.toNat = s.toNat / 2 ^ (32 - p) * 2 ^ (32 - p) := by
      rw [← toNat_and_mask, hs]
    have hpow : 2 ^ (32 - p') < 2 ^ (32 - p) := Nat.pow_lt_pow_right (by decide) (by omega)
    have hall : 2 ^ 32 = 2 ^ p * 2 ^ (32 - p) := by
      rw [← pow_add]
      congr 1
      omega
    have hfit : s.toNat + 2 ^ (32 - p') < 2 ^ 32 := by
      have hlt : s.toNat / 2 ^ (32 - p) < 2 ^ p := by
        rw [Nat.div_lt_iff_lt_mul (Nat.two_pow_pos _), ← hall]
        exact s.isLt
      have hle : (s.toNat / 2 ^ (32 - p) + 1) * 2 ^ (32 - p) ≤ 2 ^ p * 2 ^ (32 - p) :=
        Nat.mul_le_mul_right _ hlt
      rw [Nat.add_mul, one_mul, ← hfixed, ← hall] at hle
      omega
    have hval : (BitVec.ofNat 32 (s.toNat + 2 ^ (32 - p'))).toNat = s.toNat + 2 ^ (32 - p') := by
      rw [BitVec.toNat_ofNat, Nat.mod_eq_of_lt hfit]
    have hmem : BitVec.ofNat 32 (s.toNat + 2 ^ (32 - p')) ∈ network s p := by
      rw [mem_network]
      apply BitVec.eq_of_toNat_eq
      rw [toNat_and_mask, hval]
      have hdiv : (s.toNat + 2 ^ (32 - p')) / 2 ^ (32 - p) = s.toNat / 2 ^ (32 - p) := by
        rw [hfixed, Nat.mul_comm, Nat.mul_add_div (Nat.two_pow_pos _), Nat.div_eq_of_lt hpow,
          Nat.mul_div_cancel_left _ (Nat.two_pow_pos _), Nat.add_zero]
      rw [hdiv, ← hfixed]
    have hmem' := h hmem
    rw [mem_network] at hmem'
    have heq := congrArg BitVec.toNat (hmem'.trans hstart.symm)
    rw [toNat_and_mask, toNat_and_mask, hval, Nat.add_div_right _ (Nat.two_pow_pos _)] at heq
    have hpos := Nat.two_pow_pos (32 - p')
    rw [Nat.succ_mul] at heq
    omega
  · rintro ⟨hle, hstart⟩ a ha
    rw [mem_network] at ha ⊢
    rw [← and_mask_and_mask a hle, ha, hstart]

end Cidr
