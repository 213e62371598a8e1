import Mathlib.Data.List.Basic
import Mathlib.Data.List.Infix
import Mathlib.Tactic.Lemma

set_option relaxedAutoImplicit false
set_option autoImplicit false

/-!
# Templates

A template is a text with holes, each of which has a mark in the text. Filling it replaces one mark after the
other, wherever it occurs, so that a value may itself have a mark that is replaced later.

## Main definitions

* `Template` — texts and holes in turn, with `Template.render`.
* `Template.replaceAll` — replacing all occurrences of a text.
* `Template.fill` — replacing the marks one after the other.
* `Template.Separate` — no mark can begin in one part of the template and end in another.

## Main results

* `Template.replaceAll_render` — replacing in a template replaces in the holes.
* `Template.fill_render` — filling a template fills its holes.
* `Template.fill_mark` — what comes in the place of a mark.
-/

/-- A text with holes: what is before the first, and every hole with what is behind it. -/
structure Template (Hole : Type) where
  first : List Char
  rest : List (Hole × List Char)
deriving DecidableEq

namespace Template

variable {Hole : Type}

/-- The holes with the texts behind them. -/
def renderRest (f : Hole → List Char) : List (Hole × List Char) → List Char
  | [] => []
  | (h, text) :: rest => f h ++ (text ++ renderRest f rest)

/-- The text of a template, with a text for every hole. -/
def render (f : Hole → List Char) (t : Template Hole) : List Char := t.first ++ renderRest f t.rest

/-- A text with all occurrences of another replaced, after `skip` characters of one. -/
def replaceAll (sub new : List Char) : ℕ → List Char → List Char
  | _, [] => []
  | skip + 1, _ :: cs => replaceAll sub new skip cs
  | 0, c :: cs =>
    if sub.isPrefixOf (c :: cs) then new ++ replaceAll sub new (sub.length - 1) cs
    else c :: replaceAll sub new 0 cs

/-- The text when the marks of the holes are replaced one after the other. -/
def fill (mark value : Hole → List Char) (order : List Hole) (text : List Char) : List Char :=
  order.foldl (fun text h => replaceAll (mark h) (value h) 0 text) text

/-! ### Replacing -/

/-- Nothing is replaced where the text does not occur. -/
lemma replaceAll_eq_self {sub : List Char} (new : List Char) {l : List Char} (h : ¬ sub <:+: l) :
    replaceAll sub new 0 l = l := by
  induction l with
  | nil => rw [replaceAll]
  | cons c l ih =>
    rw [replaceAll, if_neg fun hpre => h (List.isPrefixOf_iff_prefix.1 hpre).isInfix,
      ih fun hmem => h (List.infix_cons hmem)]

/-- The characters of an occurrence are left out. -/
lemma replaceAll_skip (sub new front l : List Char) :
    replaceAll sub new front.length (front ++ l) = replaceAll sub new 0 l := by
  induction front with
  | nil => rfl
  | cons c front ih => rw [List.length_cons, List.cons_append, replaceAll, ih]

/-- The text itself is replaced where it is at the front. -/
lemma replaceAll_append_self {sub : List Char} (hsub : sub ≠ []) (new l : List Char) :
    replaceAll sub new 0 (sub ++ l) = new ++ replaceAll sub new 0 l := by
  obtain ⟨c, front, rfl⟩ := List.exists_cons_of_ne_nil hsub
  rw [List.cons_append, replaceAll, ← List.cons_append, if_pos (List.isPrefixOf_iff_prefix.2 (List.prefix_append _ _))]
  change new ++ replaceAll (c :: front) new front.length (front ++ l) = _
  rw [replaceAll_skip]

lemma replaceAll_self {sub : List Char} (hsub : sub ≠ []) (new : List Char) :
    replaceAll sub new 0 sub = new := by
  have hself := replaceAll_append_self hsub new []
  rwa [List.append_nil, replaceAll, List.append_nil] at hself

/-- An occurrence does not go over a character that the text does not have. -/
lemma prefix_of_prefix_append {sub x y : List Char} {c : Char} (hc : c ∉ sub) (h : sub <+: x ++ c :: y) :
    sub <+: x := by
  have hx : x ++ [c] <+: x ++ c :: y := ⟨y, by rw [List.append_assoc, List.singleton_append]⟩
  rcases List.prefix_or_prefix_of_prefix h hx with hsub | hsub
  · rcases List.prefix_concat_iff.1 hsub with rfl | hsub
    · exact absurd (List.mem_append_right x (List.mem_singleton_self c)) hc
    · exact hsub
  · exact absurd (hsub.subset (List.mem_append_right x (List.mem_singleton_self c))) hc

/-- An occurrence is before such a character or behind it. -/
lemma infix_of_infix_append_cons {sub x y : List Char} {c : Char} (hsub : sub ≠ []) (hc : c ∉ sub)
    (h : sub <:+: x ++ c :: y) : sub <:+: x ∨ sub <:+: y := by
  induction x with
  | nil =>
    rcases List.infix_cons_iff.1 h with hpre | hinfix
    · exact absurd (List.prefix_nil.1 (prefix_of_prefix_append (x := []) hc hpre)) hsub
    · exact Or.inr hinfix
  | cons d x ih =>
    rcases List.infix_cons_iff.1 h with hpre | hinfix
    · exact Or.inl (prefix_of_prefix_append (x := d :: x) hc hpre).isInfix
    · exact (ih hinfix).imp_left List.infix_cons

/-- **Replacing goes on behind such a character** as if it was the front of the text. -/
lemma replaceAll_append_cons {sub : List Char} (hsub : sub ≠ []) (new : List Char) {c : Char} (hc : c ∉ sub)
    (y x : List Char) {skip : ℕ} (hskip : skip ≤ x.length) :
    replaceAll sub new skip (x ++ c :: y) = replaceAll sub new skip x ++ c :: replaceAll sub new 0 y := by
  induction x generalizing skip with
  | nil =>
    obtain rfl := Nat.le_zero.1 hskip
    rw [List.nil_append, replaceAll, replaceAll, List.nil_append, if_neg]
    rintro hpre
    exact hsub (List.prefix_nil.1 (prefix_of_prefix_append hc (List.isPrefixOf_iff_prefix.1 hpre)))
  | cons d x ih =>
    cases skip with
    | succ skip =>
      rw [List.cons_append, replaceAll, replaceAll]
      exact ih (Nat.le_of_succ_le_succ hskip)
    | zero =>
      rw [List.cons_append, replaceAll, replaceAll]
      by_cases hpre : sub <+: d :: x
      · have hpre' : sub <+: d :: (x ++ c :: y) := hpre.trans ⟨c :: y, rfl⟩
        rw [if_pos (List.isPrefixOf_iff_prefix.2 hpre), if_pos (List.isPrefixOf_iff_prefix.2 hpre'),
          ih (Nat.sub_le_of_le_add hpre.length_le), List.append_assoc]
      · have hpre' : ¬ sub <+: d :: (x ++ c :: y) := fun h => hpre (prefix_of_prefix_append (x := d :: x) hc h)
        rw [if_neg fun h => hpre (List.isPrefixOf_iff_prefix.1 h),
          if_neg fun h => hpre' (List.isPrefixOf_iff_prefix.1 h), ih (Nat.zero_le _)]
        rfl

/-- A part of a template that no mark begins or ends in. -/
structure Separate (sub text : List Char) : Prop where
  first : ∀ c, text.head? = some c → c ∉ sub
  last : ∀ c, text.getLast? = some c → c ∉ sub
  ne_nil : text ≠ []
  inside : ¬ sub <:+: text

/-- Such a part stays as it is, and replacing goes on behind it. -/
lemma replaceAll_separate {sub text : List Char} (hsub : sub ≠ []) (h : Separate sub text)
    (new x y : List Char) :
    replaceAll sub new 0 (x ++ (text ++ y)) =
      replaceAll sub new 0 x ++ (text ++ replaceAll sub new 0 y) := by
  obtain ⟨c, m, rfl⟩ := List.exists_cons_of_ne_nil h.ne_nil
  rw [List.cons_append, replaceAll_append_cons hsub new (h.first c rfl) _ x (Nat.zero_le _)]
  rcases List.eq_nil_or_concat' m with rfl | ⟨m, d, rfl⟩
  · rfl
  · have hd : d ∉ sub := h.last d (by rw [← List.cons_append, List.getLast?_concat])
    have hm : ¬ sub <:+: m := fun hm => h.inside (hm.trans ⟨[c], [d], rfl⟩)
    rw [List.append_assoc, List.singleton_append, replaceAll_append_cons hsub new hd y m (Nat.zero_le _),
      replaceAll_eq_self new hm]
    simp

/-- **Replacing in a template** replaces in its holes. -/
theorem replaceAll_render {sub : List Char} (hsub : sub ≠ []) (new : List Char) {t : Template Hole}
    (hfirst : Separate sub t.first) (hrest : ∀ p ∈ t.rest, Separate sub p.2) (f : Hole → List Char) :
    replaceAll sub new 0 (t.render f) = t.render fun h => replaceAll sub new 0 (f h) := by
  have hholes : ∀ rest : List (Hole × List Char), (∀ p ∈ rest, Separate sub p.2) →
      replaceAll sub new 0 (renderRest f rest) = renderRest (fun h => replaceAll sub new 0 (f h)) rest := by
    rintro rest h
    induction rest with
    | nil => rw [renderRest, renderRest, replaceAll]
    | cons p rest ih =>
      rw [List.forall_mem_cons] at h
      rw [renderRest, replaceAll_separate hsub h.1, ih h.2]
      rfl
  have hall := replaceAll_separate hsub hfirst new [] (renderRest f t.rest)
  rw [List.nil_append, replaceAll, List.nil_append, hholes _ hrest] at hall
  exact hall

/-! ### Filling -/

/-- The marks of a template: none is empty or in another, and none can begin or end in a text of the
template. -/
structure WellMarked (mark : Hole → List Char) (t : Template Hole) : Prop where
  ne_nil : ∀ h, mark h ≠ []
  apart : ∀ h h', h ≠ h' → ¬ mark h <:+: mark h'
  first : ∀ h, Separate (mark h) t.first
  rest : ∀ h, ∀ p ∈ t.rest, Separate (mark h) p.2

/-- Nothing is filled in where there is no mark. -/
lemma fill_eq_self (mark value : Hole → List Char) {order : List Hole} {l : List Char}
    (h : ∀ g ∈ order, ¬ mark g <:+: l) : fill mark value order l = l := by
  induction order with
  | nil => rfl
  | cons g order ih =>
    rw [List.forall_mem_cons] at h
    rw [fill, List.foldl_cons, replaceAll_eq_self _ h.1]
    exact ih h.2

/-- Filling goes on behind a character that no mark has. -/
lemma fill_append_cons (mark value : Hole → List Char) {order : List Hole} {c : Char}
    (hc : ∀ g ∈ order, mark g ≠ [] ∧ c ∉ mark g) (x y : List Char) :
    fill mark value order (x ++ c :: y) = fill mark value order x ++ c :: fill mark value order y := by
  induction order generalizing x y with
  | nil => rfl
  | cons g order ih =>
    rw [List.forall_mem_cons] at hc
    rw [fill, List.foldl_cons, replaceAll_append_cons hc.1.1 _ hc.1.2 y x (Nat.zero_le _)]
    exact ih hc.2 _ _

/-- What is filled in for a mark has the marks filled in that are replaced later. -/
lemma fill_mark {mark value : Hole → List Char} {t : Template Hole} (hmark : WellMarked mark t) {h : Hole}
    {front back : List Hole} (hfront : h ∉ front) :
    fill mark value (front ++ h :: back) (mark h) = fill mark value back (value h) := by
  have hself : fill mark value front (mark h) = mark h := by
    refine fill_eq_self mark value fun g hg => hmark.apart g h ?_
    rintro rfl
    exact hfront hg
  rw [fill, List.foldl_append, List.foldl_cons]
  change fill mark value back (replaceAll (mark h) (value h) 0 (fill mark value front (mark h))) = _
  rw [hself, replaceAll_self (hmark.ne_nil h)]

/-- **Filling a template** fills its holes. -/
theorem fill_render {mark : Hole → List Char} (value : Hole → List Char) {t : Template Hole}
    (hmark : WellMarked mark t) (order : List Hole) (f : Hole → List Char) :
    fill mark value order (t.render f) = t.render fun h => fill mark value order (f h) := by
  induction order generalizing f with
  | nil => rfl
  | cons g order ih =>
    rw [fill, List.foldl_cons, replaceAll_render (hmark.ne_nil g) _ (hmark.first g) (hmark.rest g)]
    exact ih _

end Template
