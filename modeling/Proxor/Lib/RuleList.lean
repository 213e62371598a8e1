import Mathlib.Data.List.Basic
import Mathlib.Tactic.Lemma

set_option relaxedAutoImplicit false
set_option autoImplicit false

/-!
# Lists of rules

What a list of rules makes of a subject: the rules are tried in their order, and one that fits decides, or changes the
subject and lets it go on. The conditions of a rule are in groups, of each of which one must hold.

## Main definitions

* `RuleList.Rule` — conditions in groups, and an effect: a verdict, or the subject as it goes on.
* `RuleList.Rule.fits` — one condition of every group holds.
* `RuleList.run` — the rules in their order.
* `RuleList.decides`, `RuleList.otherwise` — a verdict if something holds, and one if there is none.

## Main results

* `RuleList.Rule.fits_iff_of_group` — a rule with one group.
* `RuleList.run_append` — rules one after the other.
-/

namespace RuleList

variable {G C V : Type}

/-- A rule: its conditions, each with its group, and what it does to a subject that fits. -/
structure Rule (G C V : Type) where
  conditions : List (G × (C → Bool))
  effect : C → Except V C

/-- One condition of every group holds. A rule without conditions fits everything. -/
def Rule.fits [DecidableEq G] (r : Rule G C V) (c : C) : Bool :=
  r.conditions.all fun x => r.conditions.any fun y => decide (y.1 = x.1) && y.2 c

/-- What a rule does to a subject. -/
def Rule.step [DecidableEq G] (r : Rule G C V) (c : C) : Except V C := if r.fits c then r.effect c else .ok c

/-- What rules do to a subject: the verdict of the first that has one, or the subject as it goes on. -/
def run [DecidableEq G] (rules : List (Rule G C V)) (c : C) : Except V C := rules.foldlM (fun c r => r.step c) c

/-- A verdict if something holds. -/
def decides (b : Bool) (v : V) : Except V Unit := if b then .error v else .ok ()

/-- The verdict, or another one about what goes on. -/
def otherwise (v : V) : Except V C → V
  | .error v' => v'
  | .ok _ => v

variable [DecidableEq G]

/-- A rule with one group fits what one of its conditions holds of, and everything if it has none. -/
lemma Rule.fits_iff_of_group {r : Rule G C V} {g : G} (h : ∀ x ∈ r.conditions, x.1 = g) (c : C) :
    r.fits c = true ↔ r.conditions = [] ∨ ∃ x ∈ r.conditions, x.2 c = true := by
  rw [Rule.fits, List.all_eq_true]
  constructor
  · intro hall
    cases hconditions : r.conditions with
    | nil => exact Or.inl rfl
    | cons x rest =>
      rw [hconditions] at hall
      obtain ⟨y, hy, hfits⟩ := List.any_eq_true.1 (hall x List.mem_cons_self)
      exact Or.inr ⟨y, hy, (Bool.and_eq_true_iff.1 hfits).2⟩
  · intro hor x hx
    rcases hor with hnil | ⟨y, hy, hfits⟩
    · rw [hnil] at hx
      exact absurd hx List.not_mem_nil
    · refine List.any_eq_true.2 ⟨y, hy, ?_⟩
      rw [h x hx, h y hy, hfits]
      simp

/-- A rule with two groups of one condition each. -/
lemma Rule.fits_pair {r : Rule G C V} {g g' : G} {p q : C → Bool} (h : r.conditions = [(g, p), (g', q)])
    (hne : g ≠ g') (c : C) : r.fits c = (p c && q c) := by
  simp [Rule.fits, h, hne, hne.symm]

@[simp] lemma run_nil (c : C) : run ([] : List (Rule G C V)) c = .ok c := rfl

lemma run_cons (r : Rule G C V) (rules : List (Rule G C V)) (c : C) :
    run (r :: rules) c = (r.step c).bind (run rules) := by
  rw [run, List.foldlM_cons]
  rfl

/-- **Rules one after the other**: what goes on is what the later ones see. -/
theorem run_append (rules rules' : List (Rule G C V)) (c : C) :
    run (rules ++ rules') c = (run rules c).bind (run rules') := by
  rw [run, List.foldlM_append]
  rfl

/-- A rule with a verdict. -/
lemma run_verdict {r : Rule G C V} {v : V} (h : ∀ c, r.effect c = .error v) (c : C) :
    run [r] c = (decides (r.fits c) v).map fun _ => c := by
  rw [run_cons, Rule.step, decides]
  cases r.fits c with
  | true =>
    rw [if_pos rfl, h]
    rfl
  | false => rfl

end RuleList
