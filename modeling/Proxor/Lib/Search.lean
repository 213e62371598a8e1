import Proxor.Lib.Bytes
import Mathlib.Data.List.Infix

set_option relaxedAutoImplicit false
set_option autoImplicit false

/-!
# Searching in bytes

Where a list of bytes occurs first in another, and whether it does.

## Main definitions

* `Bytes.index`, `Bytes.contains` — the first occurrence.

## Main results

* `Bytes.index_eq_some` — what is at the first occurrence.
* `Bytes.contains_iff` — whether there is one.
-/

namespace Bytes

/-- Where the first occurrence of `sub` begins. -/
def index (sub : Bytes) : Bytes → Option ℕ
  | [] => if sub = [] then some 0 else none
  | b :: text => if sub.isPrefixOf (b :: text) then some 0 else (index sub text).map (· + 1)

/-- Some bytes occur in a text. -/
def contains (text sub : Bytes) : Bool := (index sub text).isSome

variable {sub text : Bytes}

/-- **The first occurrence** is one, and none begins before it. -/
theorem index_eq_some {n : ℕ} (h : index sub text = some n) :
    n ≤ text.length ∧ sub <+: text.drop n ∧ ∀ k, sub <+: text.drop k → n ≤ k := by
  induction text generalizing n with
  | nil =>
    rw [index] at h
    split at h
    · next hsub =>
      obtain rfl := Option.some.inj h
      exact ⟨Nat.le_refl _, hsub ▸ List.nil_prefix, fun _ _ => Nat.zero_le _⟩
    · exact absurd h.symm (Option.some_ne_none n)
  | cons b text ih =>
    rw [index] at h
    split at h
    · next hpre =>
      obtain rfl := Option.some.inj h
      exact ⟨Nat.zero_le _, List.isPrefixOf_iff_prefix.1 hpre, fun _ _ => Nat.zero_le _⟩
    · next hpre =>
      obtain ⟨m, hm, rfl⟩ := Option.map_eq_some_iff.1 h
      obtain ⟨hle, hat, hfirst⟩ := ih hm
      refine ⟨Nat.succ_le_succ hle, hat, fun k hk => ?_⟩
      cases k with
      | zero => exact absurd (List.isPrefixOf_iff_prefix.2 hk) hpre
      | succ k => exact Nat.succ_le_succ (hfirst k hk)

/-- Where there is an occurrence, there is a first one. -/
lemma index_isSome_of_prefix {k : ℕ} (h : sub <+: text.drop k) : (index sub text).isSome := by
  induction text generalizing k with
  | nil =>
    rw [List.drop_nil] at h
    rw [index, if_pos (List.prefix_nil.1 h)]
    rfl
  | cons b text ih =>
    rw [index]
    split
    · rfl
    · next hpre =>
      cases k with
      | zero => exact absurd (List.isPrefixOf_iff_prefix.2 h) hpre
      | succ k =>
        rw [Option.isSome_map]
        exact ih h

/-- **Bytes occur in a text** exactly if there is a first occurrence. -/
theorem contains_iff : contains text sub = true ↔ sub <:+: text := by
  constructor
  · rintro h
    obtain ⟨n, hn⟩ := Option.isSome_iff_exists.1 h
    obtain ⟨-, hat, -⟩ := index_eq_some hn
    exact hat.isInfix.trans (List.drop_suffix n text).isInfix
  · rintro ⟨front, back, rfl⟩
    refine index_isSome_of_prefix (k := front.length) ?_
    rw [List.append_assoc, List.drop_left]
    exact List.prefix_append _ _

lemma index_eq_none_iff : index sub text = none ↔ ¬ sub <:+: text := by
  rw [← contains_iff, contains, Option.isSome_iff_ne_none, not_not]

/-- The bytes before the first occurrence of one byte, or all if it does not occur. -/
lemma index_singleton (b : UInt8) (text : Bytes) :
    (index [b] text).getD text.length = (text.takeWhile (· != b)).length := by
  induction text with
  | nil => rfl
  | cons c text ih =>
    by_cases hc : c = b
    · subst hc
      rw [index, if_pos (by simp), List.takeWhile_cons_of_neg (by simp)]
      rfl
    · have hpre : ¬ [b].isPrefixOf (c :: text) = true := by
        simp [Ne.symm hc]
      rw [index, if_neg hpre, List.takeWhile_cons_of_pos (by simp [hc]), List.length_cons, List.length_cons, ← ih]
      cases index [b] text <;> rfl

end Bytes
