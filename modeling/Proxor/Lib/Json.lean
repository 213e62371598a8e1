import Mathlib.Algebra.Ring.Int.Defs
import Mathlib.Data.List.Basic
import Mathlib.Tactic.Lemma

set_option relaxedAutoImplicit false
set_option autoImplicit false

/-!
# JSON values

Values with integer numbers, and objects as lists of fields of which the first with a key counts.

## Main definitions

* `Json` — the values.
* `JsonObject` — objects, with `JsonObject.get?` and `JsonObject.set`.

## Main results

* `JsonObject.get?_set` — what an object has after a field was set.
* `JsonObject.get?_foldl_set` — setting fields one after the other, the last one of a key counts.
-/

/-- A JSON value. -/
inductive Json
  | null
  | bool (b : Bool)
  | num (n : ℤ)
  | str (s : String)
  | arr (items : List Json)
  | obj (fields : List (String × Json))

/-- The fields of an object. -/
abbrev JsonObject := List (String × Json)

namespace JsonObject

/-- The value of a key. -/
def get? : JsonObject → String → Option Json
  | [], _ => none
  | (k, v) :: fields, key => if k = key then some v else get? fields key

/-- The object with a value for a key, in the place of the old one. -/
def set : JsonObject → String → Json → JsonObject
  | [], key, v => [(key, v)]
  | (k, w) :: fields, key, v =>
    if k = key then (key, v) :: fields else (k, w) :: set fields key v

@[simp] lemma get?_nil (key : String) : get? [] key = none := rfl

lemma set_ne_nil (o : JsonObject) (k : String) (v : Json) : o.set k v ≠ [] := by
  cases o with
  | nil => exact List.cons_ne_nil _ _
  | cons field fields =>
    rw [set]
    split_ifs <;> exact List.cons_ne_nil _ _

/-- What an object has after a field was set. -/
theorem get?_set (o : JsonObject) (k key : String) (v : Json) :
    (o.set k v).get? key = if k = key then some v else o.get? key := by
  induction o with
  | nil => rfl
  | cons field fields ih =>
    obtain ⟨k', w⟩ := field
    by_cases hk : k' = k
    · subst hk
      rw [set, if_pos rfl, get?, get?]
      split_ifs <;> rfl
    · rw [set, if_neg hk, get?, get?, ih]
      by_cases hkey : k' = key
      · subst hkey
        rw [if_pos rfl, if_pos rfl, if_neg (Ne.symm hk)]
      · rw [if_neg hkey, if_neg hkey]

/-- An object in which fields were set is not empty. -/
lemma foldl_set_ne_nil {fields : List (String × Json)} {o : JsonObject}
    (h : o ≠ [] ∨ fields ≠ []) :
    fields.foldl (fun o field => o.set field.1 field.2) o ≠ [] := by
  induction fields generalizing o with
  | nil => exact h.resolve_right fun hnil => hnil rfl
  | cons field fields ih => exact ih (.inl (set_ne_nil _ _ _))

/-- Setting fields one after the other, the last one of a key counts. -/
theorem get?_foldl_set (fields : List (String × Json)) (o : JsonObject) (key : String) :
    (fields.foldl (fun o field => o.set field.1 field.2) o).get? key =
      ((fields.filter fun field => field.1 = key).getLast?.map Prod.snd).or (o.get? key) := by
  induction fields generalizing o with
  | nil => rfl
  | cons field fields ih =>
    rw [List.foldl_cons, ih, get?_set]
    by_cases hkey : field.1 = key
    · rw [if_pos hkey, List.filter_cons_of_pos (by simpa using hkey), List.getLast?_cons]
      cases (fields.filter fun field => field.1 = key).getLast? <;> rfl
    · rw [if_neg hkey, List.filter_cons_of_neg (by simpa using hkey)]

end JsonObject
