import Mathlib.Algebra.Order.Group.Int
import Mathlib.Data.List.Chain
import Mathlib.Data.List.Induction

set_option relaxedAutoImplicit false
set_option autoImplicit false

/-!
# Counting events that are apart

Of events that come in order, one is counted if it is far enough from the last one counted. However the events lie,
no choice of events that are far enough from each other is larger.

## Main definitions

* `Spacing.Apart` — each time is far enough behind the one before.
* `Spacing.count` — counting as the events come.

## Main results

* `Spacing.le_count_iff` — how many are counted, by the choices there are.
-/

namespace Spacing

variable {gap : ℤ} {times picked : List ℤ} {t : ℤ}

/-- Each time is at least `gap` behind the one before. -/
def Apart (gap : ℤ) (times : List ℤ) : Prop := times.IsChain fun a b => a + gap ≤ b

/-- How many events were counted, and when the last of them was. -/
structure Count where
  number : ℕ := 0
  last : ℤ := 0
deriving DecidableEq

/-- An event is counted if it is the first one, or far enough behind the last one counted. -/
def Count.add (gap : ℤ) (c : Count) (now : ℤ) : Count :=
  if c.number = 0 ∨ gap ≤ now - c.last then { number := c.number + 1, last := now } else c

/-- The events are counted as they come. -/
def count (gap : ℤ) (times : List ℤ) : Count := times.foldl (Count.add gap) {}

/-- One event more. -/
lemma count_concat : count gap (times ++ [t]) = (count gap times).add gap t := by
  rw [count, List.foldl_append]
  rfl

/-- What is counted are events that are apart, the last of them the last one. -/
lemma exists_picked (gap : ℤ) (times : List ℤ) :
    ∃ picked, picked.Sublist times ∧ Apart gap picked ∧ picked.length = (count gap times).number ∧
      ∀ last ∈ picked.getLast?, last = (count gap times).last := by
  induction times using List.reverseRecOn with
  | nil => exact ⟨[], List.Sublist.refl _, List.isChain_nil, rfl, by simp⟩
  | append_singleton times t ih =>
    obtain ⟨picked, hsub, hapart, hlength, hlast⟩ := ih
    rw [count_concat, Count.add]
    split
    · next hfar =>
      refine ⟨picked ++ [t], hsub.append (List.Sublist.refl _), ?_, by simp [hlength], by simp⟩
      refine List.isChain_append.2 ⟨hapart, List.isChain_singleton _, fun last hmem now hnow => ?_⟩
      obtain rfl : t = now := by simpa using hnow
      rw [hlast last hmem]
      rcases hfar with hnone | hfar
      · rw [← hlength, List.length_eq_zero_iff] at hnone
        rw [hnone] at hmem
        exact absurd hmem (by simp)
      · omega
    · exact ⟨picked, hsub.trans (List.sublist_append_left _ _), hapart, hlength, hlast⟩

/-- No choice of events that are apart is larger than what is counted, and one that is as large does not end sooner.

**Proof sketch.** By induction on the events: a choice that ends with a new event is one of the events before, which
ends at least `gap` sooner. -/
lemma count_stays_ahead (hsorted : times.Pairwise (· ≤ ·)) (hsub : picked.Sublist times) (hapart : Apart gap picked) :
    picked.length ≤ (count gap times).number ∧
      (picked.length = (count gap times).number → ∀ last ∈ picked.getLast?, (count gap times).last ≤ last) := by
  induction times using List.reverseRecOn generalizing picked with
  | nil =>
    rw [List.sublist_nil.1 hsub]
    exact ⟨Nat.le_refl _, fun _ last hlast => absurd hlast (by simp)⟩
  | append_singleton times t ih =>
    obtain ⟨hsorted, -, hle⟩ := List.pairwise_append.1 hsorted
    -- what a choice among the events before can be, and one that ends with the new event
    have hcases : picked.Sublist times ∨
        ∃ before, picked = before ++ [t] ∧ before.Sublist times ∧ Apart gap before ∧
          ∀ last ∈ before.getLast?, last + gap ≤ t := by
      obtain ⟨before, after, rfl, hbefore, hafter⟩ := List.sublist_append_iff.1 hsub
      rcases List.sublist_singleton.1 hafter with rfl | rfl
      · rw [List.append_nil]
        exact Or.inl hbefore
      · obtain ⟨hchain, -, hgap⟩ := List.isChain_append.1 hapart
        exact Or.inr ⟨before, rfl, hbefore, hchain, fun last hmem => hgap last hmem t rfl⟩
    have hlast : (count gap times).number ≠ 0 → (count gap times).last ≤ t := by
      intro hne
      obtain ⟨counted, hsub', -, hlength, hlast⟩ := exists_picked gap times
      obtain ⟨last, hmem⟩ : ∃ last, last ∈ counted.getLast? := by
        cases hget : counted.getLast? with
        | none =>
          rw [List.getLast?_eq_none_iff.1 hget] at hlength
          exact absurd hlength.symm hne
        | some last => exact ⟨last, rfl⟩
      rw [← hlast last hmem]
      exact hle last (hsub'.subset (List.mem_of_getLast? hmem)) t (List.mem_singleton_self t)
    rw [count_concat, Count.add]
    split
    · next hfar =>
      dsimp only
      rcases hcases with hsub | ⟨before, rfl, hsub, hchain, -⟩
      · obtain ⟨hlength, -⟩ := ih hsorted hsub hapart
        exact ⟨by omega, fun heq => by omega⟩
      · obtain ⟨hlength, -⟩ := ih hsorted hsub hchain
        rw [List.length_append, List.length_singleton]
        exact ⟨by omega, fun _ last hmem => by simp_all⟩
    · next hnear =>
      rw [not_or, not_le] at hnear
      rcases hcases with hsub | ⟨before, rfl, hsub, hchain, hgap⟩
      · exact ih hsorted hsub hapart
      · obtain ⟨hlength, hahead⟩ := ih hsorted hsub hchain
        have hless : before.length < (count gap times).number := by
          rcases Nat.lt_or_ge before.length (count gap times).number with hlt | hge
          · exact hlt
          · -- a choice as large would end too close to the new event
            have heq : before.length = (count gap times).number := by omega
            obtain ⟨last, hmem⟩ : ∃ last, last ∈ before.getLast? := by
              cases hget : before.getLast? with
              | none =>
                rw [List.getLast?_eq_none_iff.1 hget] at heq
                exact absurd heq.symm hnear.1
              | some last => exact ⟨last, rfl⟩
            have hfirst := hahead heq last hmem
            have hsecond := hgap last hmem
            omega
        rw [List.length_append, List.length_singleton]
        refine ⟨by omega, fun _ last hmem => ?_⟩
        obtain rfl : t = last := by simpa using hmem
        exact hlast hnear.1

/-- **Counting as the events come** counts as many as there can be: a number is reached exactly if so many of the
events are apart from each other. -/
theorem le_count_iff (hsorted : times.Pairwise (· ≤ ·)) {n : ℕ} :
    n ≤ (count gap times).number ↔ ∃ picked, picked.Sublist times ∧ Apart gap picked ∧ picked.length = n := by
  constructor
  · intro hn
    obtain ⟨picked, hsub, hapart, hlength, -⟩ := exists_picked gap times
    refine ⟨picked.take n, (List.take_sublist _ _).trans hsub, ?_, ?_⟩
    · rw [← List.take_append_drop n picked] at hapart
      exact (List.isChain_append.1 hapart).1
    · rw [List.length_take]
      omega
  · intro h
    obtain ⟨picked, hsub, hapart, rfl⟩ := h
    exact (count_stays_ahead hsorted hsub hapart).1

end Spacing
