import Proxor.Lib.Template

set_option relaxedAutoImplicit false
set_option autoImplicit false

/-!
# Texts in which marks were replaced

What a text becomes when words of it are replaced, one kind of word after the other. A word that is replaced has
only letters of marks, and what comes in its place has none up to a character at which readers of the text stop.

## Main definitions

* `Edits.Letters` — the letters of marks, of the texts in their places, and of what stops a reader.
* `Edits.Edited` — a text and what it becomes, with a flag for whether anything was replaced.

## Main results

* `Edits.Edited.trans` — replacing in what a text became.
* `Edits.edited_fill` — marks that are replaced one after the other.
* `Edits.not_suffix_replaced` — a text is no end of another in which a word of it was replaced.
-/

namespace Edits

/-- The letters of marks, the characters of the texts in their places, those of them that no reader takes as
part of something else, and the characters at which readers stop. -/
structure Letters where
  mark : Char → Prop
  plain : Char → Prop
  inert : Char → Prop
  stop : Char → Prop
  not_mark_of_plain : ∀ c, plain c → ¬ mark c
  plain_of_inert : ∀ c, inert c → plain c
  not_mark_of_stop : ∀ c, stop c → ¬ mark c

/-- A text may come in the place of a mark. -/
def Letters.Value (L : Letters) (new : List Char) : Prop :=
  (∀ c ∈ new, L.plain c) ∨
    ∃ front d back, new = front ++ d :: back ∧ front ≠ [] ∧ (∀ c ∈ front, L.inert c) ∧ L.stop d

/-- A text and what it becomes. The flag tells whether a word was replaced. -/
inductive Edited (L : Letters) : Bool → List Char → List Char → Prop
  | nil : Edited L false [] []
  | keep (c : Char) {b : Bool} {t x : List Char} : Edited L b t x → Edited L b (c :: t) (c :: x)
  | change {b : Bool} {word new t x : List Char} (hne : word ≠ []) (hword : ∀ c ∈ word, L.mark c)
      (hnew : ∀ c ∈ new, L.plain c) : Edited L b t x → Edited L true (word ++ t) (new ++ x)
  | stop {word front t back : List Char} {d : Char} (hne : word ≠ []) (hword : ∀ c ∈ word, L.mark c)
      (hfront : front ≠ []) (hinert : ∀ c ∈ front, L.inert c) (hstop : L.stop d) :
      Edited L true (word ++ t) (front ++ d :: back)

variable {L : Letters}

lemma Edited.refl (t : List Char) : Edited L false t t := by
  induction t with
  | nil => exact .nil
  | cons c t ih => exact .keep c ih

/-- A text in the place of a mark. -/
lemma Edited.value {b : Bool} {word new t x : List Char} (hne : word ≠ []) (hword : ∀ c ∈ word, L.mark c)
    (hnew : L.Value new) (h : Edited L b t x) : Edited L true (word ++ t) (new ++ x) := by
  rcases hnew with hnew | ⟨front, d, back, rfl, hfront, hinert, hstop⟩
  · exact .change hne hword hnew h
  · rw [List.append_assoc, List.cons_append]
    exact .stop hne hword hfront hinert hstop

/-! ### Replacing again -/

/-- A character that is no letter of a mark stays. -/
lemma Edited.of_cons {b : Bool} {c : Char} {t y : List Char} (hc : ¬ L.mark c) (h : Edited L b (c :: t) y) :
    ∃ x, y = c :: x ∧ Edited L b t x := by
  generalize htext : c :: t = text at h
  cases h with
  | nil => exact absurd htext (List.cons_ne_nil _ _)
  | keep d h =>
    obtain ⟨rfl, rfl⟩ := List.cons.inj htext
    exact ⟨_, rfl, h⟩
  | change hne hword hnew h =>
    obtain ⟨d, word, rfl⟩ := List.exists_cons_of_ne_nil hne
    rw [List.cons_append] at htext
    obtain ⟨rfl, -⟩ := List.cons.inj htext
    exact absurd (hword c List.mem_cons_self) hc
  | stop hne hword hfront hinert hstop =>
    obtain ⟨d, word, rfl⟩ := List.exists_cons_of_ne_nil hne
    rw [List.cons_append] at htext
    obtain ⟨rfl, -⟩ := List.cons.inj htext
    exact absurd (hword c List.mem_cons_self) hc

lemma Edited.of_append {b : Bool} {front t y : List Char} (hfront : ∀ c ∈ front, ¬ L.mark c)
    (h : Edited L b (front ++ t) y) : ∃ x, y = front ++ x ∧ Edited L b t x := by
  induction front generalizing y with
  | nil => exact ⟨y, rfl, h⟩
  | cons c front ih =>
    rw [List.forall_mem_cons] at hfront
    obtain ⟨y', rfl, htail⟩ := h.of_cons hfront.1
    obtain ⟨x, rfl, hrest⟩ := ih hfront.2 htail
    exact ⟨x, rfl, hrest⟩

/-- **What a text became becomes something else.**

**Proof sketch.** Induction on the first change. A word that is replaced later and has characters that were kept
and places of words that were left out is a word of the first text, whose letters are left out one after the
other. -/
theorem Edited.trans {b b' : Bool} {t x y : List Char} (h : Edited L b t x) (h' : Edited L b' x y) :
    Edited L (b || b') t y := by
  induction h generalizing b' y with
  | nil =>
    generalize htext : ([] : List Char) = text at h'
    cases h' with
    | nil => exact .nil
    | keep c h => exact absurd htext.symm (List.cons_ne_nil _ _)
    | change hne hword hnew h => exact absurd (List.append_eq_nil_iff.1 htext.symm).1 hne
    | stop hne hword hfront hinert hstop => exact absurd (List.append_eq_nil_iff.1 htext.symm).1 hne
  | @keep c b t x h ih =>
    generalize htext : c :: x = text at h'
    cases h' with
    | nil => exact absurd htext (List.cons_ne_nil _ _)
    | keep d h' =>
      obtain ⟨rfl, rfl⟩ := List.cons.inj htext
      exact .keep c (ih h')
    | @change b' word new t' x' hne hword hnew h' =>
      obtain ⟨d, word, rfl⟩ := List.exists_cons_of_ne_nil hne
      rw [List.cons_append] at htext
      obtain ⟨rfl, rfl⟩ := List.cons.inj htext
      rw [List.forall_mem_cons] at hword
      have hsingle : ∀ e ∈ [c], L.mark e := List.forall_mem_singleton.2 hword.1
      rw [Bool.or_true]
      cases word with
      | nil => exact .change (List.cons_ne_nil _ _) hsingle hnew (ih h')
      | cons d word =>
        have hrest := ih (.change (List.cons_ne_nil d word) hword.2 hnew h')
        have hall : Edited L true ([c] ++ t) ([] ++ (new ++ x')) :=
          .change (List.cons_ne_nil _ _) hsingle (fun _ hmem => absurd hmem List.not_mem_nil) hrest
        exact hall
    | @stop word front t' back d hne hword hfront hinert hstop =>
      obtain ⟨e, word, rfl⟩ := List.exists_cons_of_ne_nil hne
      rw [List.cons_append] at htext
      obtain ⟨rfl, rfl⟩ := List.cons.inj htext
      rw [List.forall_mem_cons] at hword
      have hsingle : ∀ e ∈ [c], L.mark e := List.forall_mem_singleton.2 hword.1
      rw [Bool.or_true]
      exact .stop (List.cons_ne_nil c []) hsingle hfront hinert hstop
  | @change b word new t x hne hword hnew h ih =>
    obtain ⟨z, rfl, hrest⟩ := h'.of_append fun c hc => L.not_mark_of_plain c (hnew c hc)
    exact .change hne hword hnew (ih hrest)
  | @stop word front t back d hne hword hfront hinert hstop =>
    obtain ⟨z, rfl, hrest⟩ := h'.of_append fun c hc => L.not_mark_of_plain c (L.plain_of_inert c (hinert c hc))
    obtain ⟨z, rfl, -⟩ := hrest.of_cons (L.not_mark_of_stop d hstop)
    exact .stop hne hword hfront hinert hstop

/-! ### Replacing marks -/

/-- A mark is replaced wherever it is. -/
lemma edited_replaceAll {sub new : List Char} (hne : sub ≠ []) (hsub : ∀ c ∈ sub, L.mark c) (hnew : L.Value new)
    (t : List Char) :
    ∃ b, Edited L b t (Template.replaceAll sub new 0 t) ∧ (sub <:+: t → b = true) := by
  induction hlen : t.length using Nat.strongRecOn generalizing t with
  | ind n ih =>
    cases t with
    | nil => exact ⟨false, .nil, fun h => absurd (List.infix_nil.1 h) hne⟩
    | cons c t =>
      by_cases hpre : sub <+: c :: t
      · obtain ⟨rest, hrest⟩ := hpre
        have hlt : rest.length < n := by
          have hpos := List.length_pos_of_ne_nil hne
          rw [← hlen, ← hrest, List.length_append]
          omega
        obtain ⟨b, hb, -⟩ := ih _ hlt rest rfl
        rw [← hrest, Template.replaceAll_append_self hne]
        exact ⟨true, hb.value hne hsub hnew, fun _ => rfl⟩
      · obtain ⟨b, hb, hinfix⟩ := ih t.length (by rw [← hlen]; exact Nat.lt_succ_self _) t rfl
        refine ⟨b, ?_, fun h => hinfix ((List.infix_cons_iff.1 h).resolve_left hpre)⟩
        rw [Template.replaceAll, if_neg fun h => hpre (List.isPrefixOf_iff_prefix.1 h)]
        exact hb.keep c

/-- **Marks that are replaced one after the other.** Something is replaced if a mark is in the text. -/
theorem edited_fill {Hole : Type} {mark value : Hole → List Char} {order : List Hole}
    (hmark : ∀ h ∈ order, mark h ≠ [] ∧ ∀ c ∈ mark h, L.mark c) (hvalue : ∀ h ∈ order, L.Value (value h))
    (t : List Char) :
    ∃ b, Edited L b t (Template.fill mark value order t) ∧ ((∃ h ∈ order, mark h <:+: t) → b = true) := by
  induction order generalizing t with
  | nil => exact ⟨false, .refl t, fun ⟨h, hmem, _⟩ => absurd hmem List.not_mem_nil⟩
  | cons h order ih =>
    rw [List.forall_mem_cons] at hmark hvalue
    obtain ⟨b, hb, hfirst⟩ := edited_replaceAll (L := L) hmark.1.1 hmark.1.2 hvalue.1 t
    obtain ⟨b', hb', hlater⟩ := ih hmark.2 hvalue.2 (Template.replaceAll (mark h) (value h) 0 t)
    refine ⟨b || b', hb.trans hb', ?_⟩
    rintro ⟨g, hg, hinfix⟩
    by_cases hh : mark h <:+: t
    · rw [hfirst hh, Bool.true_or]
    · rcases List.mem_cons.1 hg with rfl | hg
      · exact absurd hinfix hh
      · rw [hlater ⟨g, hg, by rwa [Template.replaceAll_eq_self _ hh]⟩, Bool.or_true]

/-! ### Ends of texts -/

/-- What is kept does not make a text the end of another. -/
lemma not_suffix_keep {t y : List Char} (c : Char) (h : ¬ t <:+ y) : ¬ c :: t <:+ c :: y := by
  rintro hsuffix
  rcases List.suffix_cons_iff.1 hsuffix with heq | hsuffix
  · exact h ((List.cons.inj heq).2 ▸ List.suffix_refl _)
  · exact h ((List.suffix_cons c t).trans hsuffix)

/-- **A text is no end of another** that begins with something in the place of a word of it, as long as its rest
is an end of the rest only if they are the same. -/
theorem not_suffix_replaced {word new t y : List Char} (hword : ¬ word <:+: new) (h : t <:+ y → t = y) :
    ¬ word ++ t <:+ new ++ y := by
  rintro ⟨front, hfront⟩
  rw [← List.append_assoc] at hfront
  rcases List.append_eq_append_iff.1 hfront with ⟨m, hnew, rfl⟩ | ⟨m, hnew, rfl⟩
  · exact hword ⟨front, m, hnew.symm⟩
  · have hm := h ⟨m, rfl⟩
    obtain rfl : m = [] := List.append_left_eq_self.1 hm.symm
    rw [List.append_nil] at hnew
    exact hword ⟨front, [], by rw [List.append_nil, hnew]⟩

lemma not_suffix_stopped {word new t : List Char} (hword : ¬ word <:+: new) : ¬ word ++ t <:+ new := by
  rintro ⟨front, hfront⟩
  exact hword ⟨front, t, by rw [List.append_assoc, hfront]⟩

end Edits
