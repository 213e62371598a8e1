import Mathlib.Data.List.Basic

set_option relaxedAutoImplicit false
set_option autoImplicit false

/-!
# Escaping

A writer puts a mark before every special symbol, and a reader that goes over the text takes what follows
a mark as it stands. What such a reader does with an escaped text does not depend on how it is written.

## Main definitions

* `Escape.escape` — the escaped text.

## Main results

* `Escape.run_escape` — a reader that takes marked symbols and plain ones as they stand has read the text.
-/

namespace Escape

variable {α : Type} (mark : α) (special : α → Bool)

/-- The text with a mark before every special symbol. -/
def escape (xs : List α) : List α := xs.flatMap fun x => if special x then [mark, x] else [x]

@[simp] lemma escape_nil : escape mark special [] = [] := rfl

lemma escape_cons_of_special {x : α} (h : special x = true) (xs : List α) :
    escape mark special (x :: xs) = mark :: x :: escape mark special xs := by
  rw [escape, List.flatMap_cons, if_pos h]
  rfl

lemma escape_cons_of_plain {x : α} (h : special x = false) (xs : List α) :
    escape mark special (x :: xs) = x :: escape mark special xs := by
  rw [escape, List.flatMap_cons, h, if_neg Bool.false_ne_true]
  rfl

/-- A symbol of the escaped text is the mark or one of the text. -/
lemma eq_or_mem_of_mem_escape {y : α} {xs : List α} (h : y ∈ escape mark special xs) :
    y = mark ∨ y ∈ xs := by
  obtain ⟨x, hx, hy⟩ := List.mem_flatMap.1 h
  by_cases hspecial : special x = true
  · rw [if_pos hspecial] at hy
    rcases List.mem_cons.1 hy with rfl | hy
    · exact Or.inl rfl
    · obtain rfl := List.mem_singleton.1 hy
      exact Or.inr hx
  · rw [if_neg hspecial] at hy
    obtain rfl := List.mem_singleton.1 hy
    exact Or.inr hx

/-- **Reading an escaped text.** A reader with what it has read, which takes a special symbol after a mark
and a plain symbol as they stand, has read the text when it comes to the rest.

**Proof sketch.** Induction on the text, with what has been read generalised. -/
theorem run_escape {β : Type} {f : List α → List α → β}
    (hspecial : ∀ acc x rest, special x = true → f acc (mark :: x :: rest) = f (acc ++ [x]) rest)
    (hplain : ∀ acc x rest, special x = false → f acc (x :: rest) = f (acc ++ [x]) rest)
    (acc xs rest : List α) : f acc (escape mark special xs ++ rest) = f (acc ++ xs) rest := by
  induction xs generalizing acc with
  | nil => rw [escape_nil, List.nil_append, List.append_nil]
  | cons x xs ih =>
    have hacc : acc ++ x :: xs = acc ++ [x] ++ xs := by rw [List.append_assoc, List.singleton_append]
    cases hx : special x with
    | true =>
      rw [escape_cons_of_special mark special hx, List.cons_append, List.cons_append,
        hspecial acc x _ hx, ih, hacc]
    | false =>
      rw [escape_cons_of_plain mark special hx, List.cons_append, hplain acc x _ hx, ih, hacc]

end Escape
