import Mathlib.Data.List.Basic
import Mathlib.Data.List.Induction
import Mathlib.Order.Lattice
import Mathlib.Tactic.Lemma

set_option relaxedAutoImplicit false
set_option autoImplicit false

/-!
# The first greatest element

A loop that keeps an element and replaces it by every greater one ends with the first of the greatest
elements.

## Main definitions

* `Proxor.FirstMax` — the first of the greatest elements of a list.
* `Proxor.keepMax` — one step of the loop.

## Main results

* `Proxor.foldl_keepMax_eq_some` — what the loop ends with.
-/

namespace Proxor

universe u v

variable {α : Type u} {κ : Type v} [LinearOrder κ] {key : α → κ}

/-- `a` is in the list, those before it are less and those after it are not greater. -/
def FirstMax (key : α → κ) (l : List α) (a : α) : Prop :=
  ∃ before after, l = before ++ a :: after ∧ (∀ b ∈ before, key b < key a) ∧
    ∀ b ∈ after, key b ≤ key a

/-- The greater of an element and the one that was kept. -/
def keepMax (key : α → κ) : Option α → α → Option α
  | none, a => some a
  | some b, a => if key b < key a then some a else some b

namespace FirstMax

variable {l : List α} {a b : α}

lemma mem (h : FirstMax key l a) : a ∈ l := by
  obtain ⟨before, after, rfl, -, -⟩ := h
  exact List.mem_append_right _ List.mem_cons_self

lemma le (h : FirstMax key l a) (hb : b ∈ l) : key b ≤ key a := by
  obtain ⟨before, after, rfl, hbefore, hafter⟩ := h
  rcases List.mem_append.1 hb with hb | hb
  · exact (hbefore b hb).le
  · rcases List.mem_cons.1 hb with rfl | hb
    · exact le_rfl
    · exact hafter b hb

/-- There is one first greatest element.

**Proof sketch.** Of two at different places the first is less than the second, which is not greater. -/
lemma unique (h : FirstMax key l a) (h' : FirstMax key l b) : a = b := by
  have hab : key a ≤ key b := h'.le h.mem
  have hba : key b ≤ key a := h.le h'.mem
  obtain ⟨before, after, rfl, hbefore, -⟩ := h
  obtain ⟨before', after', hsplit, hbefore', -⟩ := h'
  rcases List.append_eq_append_iff.1 hsplit with ⟨mid, hmid, htail⟩ | ⟨mid, hmid, htail⟩
  · cases mid with
    | nil => exact (List.cons.inj htail).1
    | cons c mid =>
      have hmem : a ∈ before' := by
        rw [hmid, (List.cons.inj htail).1]
        exact List.mem_append_right _ List.mem_cons_self
      exact absurd (hbefore' a hmem) hba.not_gt
  · cases mid with
    | nil => exact (List.cons.inj htail).1.symm
    | cons c mid =>
      have hmem : b ∈ before := by
        rw [hmid, (List.cons.inj htail).1]
        exact List.mem_append_right _ List.mem_cons_self
      exact absurd (hbefore b hmem) hab.not_gt

/-- An element at the end that is not greater changes nothing. -/
lemma concat (h : FirstMax key l a) (hb : key b ≤ key a) : FirstMax key (l ++ [b]) a := by
  obtain ⟨before, after, rfl, hbefore, hafter⟩ := h
  refine ⟨before, after ++ [b], by simp, hbefore, fun c hc => ?_⟩
  rcases List.mem_append.1 hc with hc | hc
  · exact hafter c hc
  · rw [List.mem_singleton.1 hc]
    exact hb

/-- An element at the end that is greater takes the place. -/
lemma replace (h : FirstMax key l a) (hb : key a < key b) : FirstMax key (l ++ [b]) b :=
  ⟨l, [], rfl, fun _ hc => (h.le hc).trans_lt hb, fun _ hc => absurd hc List.not_mem_nil⟩

end FirstMax

/-- The loop ends with nothing exactly if there was nothing, and else with the first of the greatest
elements.

**Proof sketch.** By induction on the list, from the last element. -/
lemma foldl_keepMax (key : α → κ) (l : List α) :
    (l = [] ∧ l.foldl (keepMax key) none = none) ∨
      ∃ a, l.foldl (keepMax key) none = some a ∧ FirstMax key l a := by
  induction l using List.reverseRecOn with
  | nil => exact .inl ⟨rfl, rfl⟩
  | append_singleton l b ih =>
    right
    rw [List.foldl_concat]
    rcases ih with ⟨rfl, hfold⟩ | ⟨a, hfold, ha⟩
    · rw [hfold]
      exact ⟨b, rfl, [], [], rfl, fun _ hc => absurd hc List.not_mem_nil,
        fun _ hc => absurd hc List.not_mem_nil⟩
    · rw [hfold, keepMax]
      split_ifs with hlt
      · exact ⟨b, rfl, ha.replace hlt⟩
      · exact ⟨a, rfl, ha.concat (not_lt.1 hlt)⟩

end Proxor
