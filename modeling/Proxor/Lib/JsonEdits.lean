import Proxor.Lib.JsonText
import Proxor.Lib.Edits

set_option relaxedAutoImplicit false
set_option autoImplicit false

/-!
# Strings in which marks were replaced

What is read of a string of a JSON text when marks were replaced in it. It is not the string that was meant if
anything was replaced, and neither if a string that was not escaped has a character that does not stand for
itself.

## Main definitions

* `JsonText.IsPlain` — a character stands for itself in a string.
* `JsonText.letters` — the characters of the texts in the places of marks.

## Main results

* `JsonText.eq_or_not_suffix` — what is read of a string that was not escaped.
* `JsonText.eq_or_not_suffix_escaped` — what is read of a string that was.
-/

namespace JsonText

open Edits

/-! ### Characters -/

/-- A character stands for itself in a string. -/
def IsPlain (c : Char) : Prop := c ≠ '"' ∧ c ≠ '\\' ∧ ¬ c.toNat < 32

/-- A character may be part of an escape sequence behind the backslash. -/
def InEscape (c : Char) : Prop := (shortEscape c).isSome ∨ (hexValue c).isSome ∨ c = 'u'

/-- The characters of the texts in the places of marks: those that stand for themselves are no letters of marks,
and a string may end at a quotation mark or a control character. -/
def letters (mark : Char → Prop) : Letters where
  mark := mark
  plain c := IsPlain c ∧ ¬ mark c
  inert c := IsPlain c ∧ ¬ mark c ∧ ¬ InEscape c
  stop c := ¬ mark c ∧ (c = '"' ∨ c.toNat < 32)
  not_mark_of_plain _ h := h.2
  plain_of_inert _ h := ⟨h.1, h.2.1⟩
  not_mark_of_stop _ h := h.1

variable {mark : Char → Prop}

/-- Characters that stand for themselves. -/
lemma readString_append {front : List Char} (h : ∀ c ∈ front, IsPlain c) (rest : List Char) :
    readString (front ++ rest) = (readString rest).map fun p => (front ++ p.1, p.2) := by
  induction front with
  | nil => exact Option.map_id'.symm
  | cons c front ih =>
    rw [List.forall_mem_cons] at h
    rw [List.cons_append, readString_plain h.1.1 h.1.2.1 h.1.2.2, ih h.2, Option.map_map]
    rfl

/-- No string has a control character. -/
lemma readString_control {c : Char} (hcontrol : c.toNat < 32) (rest : List Char) :
    readString (c :: rest) = none := by
  have hne : ∀ d : Char, ¬ d.toNat < 32 → c ≠ d := by
    rintro d hd rfl
    exact hd hcontrol
  rw [readString.eq_def]
  split
  all_goals
    next h =>
      first
      | exact absurd h (List.cons_ne_nil _ _)
      | exact absurd (List.cons.inj h).1 (hne _ (by decide))
      | (obtain ⟨rfl, rfl⟩ := List.cons.inj h; exact if_pos hcontrol)

/-- What is behind a backslash: one character or five, of which only one can be a quotation mark. -/
lemma readString_backslash {text y r : List Char} (h : readString ('\\' :: text) = some (y, r)) :
    ∃ es d text' y', text = es ++ text' ∧ es ≠ [] ∧ y = d :: y' ∧ readString text' = some (y', r) ∧
      (∀ e ∈ es, InEscape e) ∧ ('"' ∈ es → es = ['"'] ∧ d = '"') := by
  rw [readString.eq_def] at h
  split at h
  · next heq => exact absurd heq (List.cons_ne_nil _ _)
  · next heq => exact absurd (List.cons.inj heq).1 (by decide)
  · next a b c d rest heq =>
    obtain rfl := (List.cons.inj heq).2
    obtain ⟨x, hx, h⟩ := Option.bind_eq_some_iff.1 h
    obtain ⟨p, hp, hy⟩ := Option.map_eq_some_iff.1 h
    obtain ⟨rfl, rfl⟩ := Prod.mk.inj hy
    obtain ⟨m, hm, hx⟩ := Option.bind_eq_some_iff.1 hx
    obtain ⟨n, hn, hx⟩ := Option.bind_eq_some_iff.1 hx
    obtain ⟨k, hk, hx⟩ := Option.bind_eq_some_iff.1 hx
    obtain ⟨l, hl, -⟩ := Option.bind_eq_some_iff.1 hx
    have hhex : ∀ e ∈ [a, b, c, d], (hexValue e).isSome := by
      simp only [List.forall_mem_cons, hm, hn, hk, hl, Option.isSome_some, true_and]
      exact fun _ h => absurd h List.not_mem_nil
    refine ⟨['u', a, b, c, d], x, rest, p.1, rfl, List.cons_ne_nil _ _, rfl, hp, fun e he => ?_, fun he => ?_⟩
    · rcases List.mem_cons.1 he with rfl | he
      · exact Or.inr (Or.inr rfl)
      · exact Or.inr (Or.inl (hhex e he))
    · rcases List.mem_cons.1 he with he | he
      · exact absurd he (by decide)
      · exact absurd (hhex _ he) (by decide)
  · next e rest hu heq =>
    obtain rfl := (List.cons.inj heq).2
    obtain ⟨x, hx, h⟩ := Option.bind_eq_some_iff.1 h
    obtain ⟨p, hp, hy⟩ := Option.map_eq_some_iff.1 h
    obtain ⟨rfl, rfl⟩ := Prod.mk.inj hy
    refine ⟨[e], x, rest, p.1, rfl, List.cons_ne_nil _ _, rfl, hp, fun e' he => ?_, fun he => ?_⟩
    · obtain rfl := List.mem_singleton.1 he
      exact Or.inl (by rw [hx]; rfl)
    · obtain rfl := List.mem_singleton.1 he
      exact ⟨rfl, (Option.some.inj (hx.symm.trans rfl))⟩
  · next c rest hquote hu hshort heq =>
    obtain ⟨rfl, rfl⟩ := List.cons.inj heq
    cases text with
    | nil => exact absurd h.symm (by rw [if_neg (by decide)]; exact Option.some_ne_none _)
    | cons e rest => exact (hshort e rest rfl rfl).elim

/-! ### Strings that were not escaped -/

/-- Where characters that may be in an escape sequence come from. -/
lemma split_edited {b : Bool} {t es m : List Char} (h : Edited (letters mark) b t (es ++ m))
    (hes : ∀ e ∈ es, InEscape e) :
    ∃ b' word t' new x, t = word ++ t' ∧ m = new ++ x ∧ Edited (letters mark) b' t' x ∧
      (∀ c ∈ new, IsPlain c ∧ ¬ mark c) ∧ (es ≠ [] → word ≠ []) ∧ (new = [] ∨ ∃ c ∈ word, mark c) := by
  generalize htext : es ++ m = text at h
  induction h generalizing es with
  | nil =>
    obtain ⟨rfl, rfl⟩ := List.append_eq_nil_iff.1 htext
    exact ⟨false, [], [], [], [], rfl, rfl, .nil, fun _ h => absurd h List.not_mem_nil, id, Or.inl rfl⟩
  | @keep c b t x h ih =>
    cases es with
    | nil =>
      exact ⟨b, [], c :: t, [], c :: x, rfl, htext, h.keep c, fun _ h => absurd h List.not_mem_nil, id, Or.inl rfl⟩
    | cons e es =>
      obtain ⟨rfl, hx⟩ := List.cons.inj htext
      rw [List.forall_mem_cons] at hes
      obtain ⟨b', word, t', new, x', rfl, hm, hedited, hnew, -, hmark⟩ := ih hes.2 hx
      refine ⟨b', e :: word, t', new, x', rfl, hm, hedited, hnew, fun _ => List.cons_ne_nil _ _, ?_⟩
      exact hmark.imp_right fun ⟨c, hc, hmark⟩ => ⟨c, List.mem_cons_of_mem e hc, hmark⟩
  | @change b word new t x hne hword hnew h ih =>
    obtain ⟨c, hc⟩ := List.exists_mem_of_ne_nil word hne
    rcases List.append_eq_append_iff.1 htext with ⟨o, hnew', hm⟩ | ⟨es', rfl, hx⟩
    · refine ⟨b, word, t, o, x, rfl, hm, h, fun d hd => hnew d ?_, fun _ => hne, Or.inr ⟨c, hc, hword c hc⟩⟩
      rw [hnew']
      exact List.mem_append_right es hd
    · obtain ⟨b', word', t', new', x', rfl, hm, hedited, hnew'', -, -⟩ :=
        ih (fun e he => hes e (List.mem_append_right new he)) hx.symm
      refine ⟨b', word ++ word', t', new', x', (List.append_assoc _ _ _).symm, hm, hedited, hnew'', fun _ => ?_,
        Or.inr ⟨c, List.mem_append_left _ hc, hword c hc⟩⟩
      exact fun hnil => hne (List.append_eq_nil_iff.1 hnil).1
  | @stop word front t back d hne hword hfront hinert hstop =>
    cases es with
    | nil =>
      exact ⟨true, [], word ++ t, [], front ++ d :: back, rfl, htext, .stop hne hword hfront hinert hstop,
        fun _ h => absurd h List.not_mem_nil, id, Or.inl rfl⟩
    | cons e es =>
      obtain ⟨e', front, rfl⟩ := List.exists_cons_of_ne_nil hfront
      obtain rfl := (List.cons.inj htext).1
      exact absurd (hes e List.mem_cons_self) (hinert e List.mem_cons_self).2.2

/-- A backslash does not stand for itself. -/
lemma not_suffix_backslash {b : Bool} {t x y r rest : List Char} (h : Edited (letters mark) b t x)
    (hrest : ∀ y r, readString rest = some (y, r) → '\\' ∉ y)
    (ih : ∀ {b' : Bool} {t' x' y' : List Char}, t'.length ≤ t.length → Edited (letters mark) b' t' x' →
      readString (x' ++ '"' :: rest) = some (y', r) → t' <:+ y' → t' = y')
    (hread : readString ('\\' :: (x ++ '"' :: rest)) = some (y, r)) : ¬ '\\' :: t <:+ y := by
  obtain ⟨es, d, text, y, htext, hne, rfl, htail, hes, hquote⟩ := readString_backslash hread
  have hsplit : ∀ {m : List Char}, x = es ++ m → text = m ++ '"' :: rest → ¬ '\\' :: t <:+ d :: y := by
    rintro m rfl rfl
    obtain ⟨b', word, t', new, x', rfl, rfl, hedited, hnew, hword, hmark⟩ := split_edited h hes
    rw [List.append_assoc, readString_append fun c hc => (hnew c hc).1] at htail
    obtain ⟨p, hp, hy⟩ := Option.map_eq_some_iff.1 htail
    obtain ⟨rfl, rfl⟩ := Prod.mk.inj hy
    have hlen : t'.length ≤ (word ++ t').length := by
      rw [List.length_append]
      omega
    have hwithin : ¬ '\\' :: word <:+: d :: new := by
      rintro hwithin
      rcases List.infix_cons_iff.1 hwithin with hpre | hwithin
      · have hsub := (List.cons_prefix_cons.1 hpre).2
        rcases hmark with rfl | ⟨c, hc, hmark⟩
        · exact hword hne (List.prefix_nil.1 hsub)
        · exact (hnew c (hsub.subset hc)).2 hmark
      · exact (hnew _ (hwithin.subset List.mem_cons_self)).1.2.1 rfl
    exact not_suffix_replaced hwithin (ih hlen hedited hp)
  rcases List.append_eq_append_iff.1 htext with ⟨m, rfl, hm⟩ | ⟨m, hx, htext⟩
  · cases m with
    | nil =>
      have hx : x = (x ++ []) ++ [] := by rw [List.append_nil, List.append_nil]
      have htext' : text = [] ++ '"' :: rest := hm.symm
      exact hsplit hx htext'
    | cons e m =>
      -- The quotation mark at the end of the string is behind the backslash.
      obtain ⟨rfl, hrest'⟩ := List.cons.inj hm
      obtain ⟨hes', rfl⟩ := hquote (List.mem_append_right x List.mem_cons_self)
      have hm' : m = [] := by
        cases x with
        | nil => exact (List.cons.inj hes').2
        | cons c x => exact absurd (List.append_eq_nil_iff.1 (List.cons.inj hes').2).2 (List.cons_ne_nil _ _)
      rw [hm'] at hrest'
      rw [hrest'] at hrest
      rintro hsuffix
      rcases List.mem_cons.1 (hsuffix.subset List.mem_cons_self) with hback | hback
      · exact absurd hback (by decide)
      · exact hrest _ _ htail hback
  · exact hsplit hx htext

/-- No word of marks is in a text that has no letter of one. -/
lemma not_infix_plain {word new : List Char} (hne : word ≠ []) (hword : ∀ c ∈ word, mark c)
    (hnew : ∀ c ∈ new, ¬ mark c) : ¬ word <:+: new := by
  obtain ⟨c, hc⟩ := List.exists_mem_of_ne_nil word hne
  exact fun h => hnew c (h.subset hc) (hword c hc)

/-- Nothing is read behind a character at which strings stop. -/
lemma eq_of_readString_stop {d : Char} (hd : d = '"' ∨ d.toNat < 32) {front rest y r : List Char}
    (hfront : ∀ c ∈ front, IsPlain c) (h : readString (front ++ d :: rest) = some (y, r)) : y = front := by
  rw [readString_append hfront] at h
  rcases hd with rfl | hd
  · rw [readString] at h
    rw [← (Prod.mk.inj (Option.some.inj h)).1]
    exact List.append_nil front
  · rw [readString_control hd] at h
    exact absurd h.symm (Option.some_ne_none _)

/-- **What is read of a string that was not escaped.** It is the string if nothing was replaced and every
character stands for itself, and otherwise the string is not even an end of it.

**Proof sketch.** Induction on the string. What was replaced, and an escape sequence with what was replaced in it,
has something in its place that the replaced word is no part of. -/
theorem eq_or_not_suffix {b : Bool} {t x y r rest : List Char} (h : Edited (letters mark) b t x)
    (hrest : ∀ y r, readString rest = some (y, r) → '\\' ∉ y)
    (hread : readString (x ++ '"' :: rest) = some (y, r)) :
    (b = false ∧ (∀ c ∈ t, IsPlain c) ∧ y = t) ∨ ¬ t <:+ y := by
  induction hlen : t.length using Nat.strongRecOn generalizing b t x y with
  | ind n ih =>
    have hshort : ∀ {b' : Bool} {t' x' y' : List Char}, t'.length < n → Edited (letters mark) b' t' x' →
        readString (x' ++ '"' :: rest) = some (y', r) → t' <:+ y' → t' = y' := by
      rintro b' t' x' y' hlt hedited hread hsuffix
      rcases ih t'.length hlt hedited hread rfl with ⟨-, -, rfl⟩ | hnot
      · rfl
      · exact absurd hsuffix hnot
    cases h with
    | nil =>
      have hy : some (([] : List Char), rest) = some (y, r) := hread
      obtain ⟨rfl, -⟩ := Prod.mk.inj (Option.some.inj hy)
      exact Or.inl ⟨rfl, fun c h => absurd h List.not_mem_nil, rfl⟩
    | @keep c b t x h =>
      have hlt : t.length < n := by rw [← hlen]; exact Nat.lt_succ_self _
      by_cases hquote : c = '"'
      · subst hquote
        rw [List.cons_append, readString] at hread
        obtain ⟨rfl, -⟩ := Prod.mk.inj (Option.some.inj hread)
        exact Or.inr fun hsuffix => absurd (List.suffix_nil.1 hsuffix) (List.cons_ne_nil _ _)
      by_cases hback : c = '\\'
      · subst hback
        exact Or.inr (not_suffix_backslash h hrest (fun hle => hshort (Nat.lt_of_le_of_lt hle hlt)) hread)
      by_cases hcontrol : c.toNat < 32
      · rw [List.cons_append, readString_control hcontrol] at hread
        exact absurd hread.symm (Option.some_ne_none _)
      rw [List.cons_append, readString_plain hquote hback hcontrol] at hread
      obtain ⟨p, hp, hy⟩ := Option.map_eq_some_iff.1 hread
      obtain ⟨rfl, rfl⟩ := Prod.mk.inj hy
      rcases ih t.length hlt h hp rfl with ⟨rfl, hplain, hpt⟩ | hnot
      · exact Or.inl ⟨rfl, List.forall_mem_cons.2 ⟨⟨hquote, hback, hcontrol⟩, hplain⟩, by rw [hpt]⟩
      · exact Or.inr (not_suffix_keep c hnot)
    | @change b word new t x hne hword hnew h =>
      have hlt : t.length < n := by
        have hpos := List.length_pos_of_ne_nil hne
        rw [← hlen, List.length_append]
        omega
      rw [List.append_assoc, readString_append fun c hc => (hnew c hc).1] at hread
      obtain ⟨p, hp, hy⟩ := Option.map_eq_some_iff.1 hread
      obtain ⟨rfl, rfl⟩ := Prod.mk.inj hy
      exact Or.inr (not_suffix_replaced (not_infix_plain hne hword fun c hc => (hnew c hc).2) (hshort hlt h hp))
    | @stop word front t back d hne hword hfront hinert hstop =>
      rw [List.append_assoc, List.cons_append] at hread
      rw [eq_of_readString_stop hstop.2 (fun c hc => (hinert c hc).1) hread]
      exact Or.inr (not_suffix_stopped (not_infix_plain hne hword fun c hc => (hinert c hc).2.1))

/-! ### Strings that were escaped -/

/-- No letter of a mark is in an escape sequence. -/
def Unescaped (mark : Char → Prop) : Prop := ∀ c d, escapeChar c ≠ [c] → d ∈ escapeChar c → ¬ mark d

lemma escapeChar_ne_nil (c : Char) : escapeChar c ≠ [] := by
  rw [escapeChar]
  split_ifs <;> exact List.cons_ne_nil _ _

lemma isPlain_of_escapeChar {c : Char} (h : escapeChar c = [c]) : IsPlain c := by
  refine ⟨?_, ?_, fun hcontrol => ?_⟩
  · rintro rfl
    exact absurd h (by decide)
  · rintro rfl
    exact absurd h (by decide)
  · have hall : ∀ n < 32, escapeChar (Char.ofNat n) ≠ [Char.ofNat n] := by decide
    have hne := hall _ hcontrol
    rw [Char.ofNat_toNat] at hne
    exact hne h

/-- A word of marks at the front of an escaped string is at the front of the string. -/
lemma exists_of_escaped (hmark : Unescaped mark) {word t s : List Char} (hword : ∀ c ∈ word, mark c)
    (h : word ++ t = s.flatMap escapeChar) : ∃ s', s = word ++ s' ∧ t = s'.flatMap escapeChar := by
  induction word generalizing s with
  | nil => exact ⟨s, rfl, h⟩
  | cons d word ih =>
    rw [List.forall_mem_cons] at hword
    cases s with
    | nil => exact absurd h (List.cons_ne_nil _ _)
    | cons c s =>
      rw [List.flatMap_cons] at h
      by_cases hc : escapeChar c = [c]
      · rw [hc, List.cons_append, List.singleton_append] at h
        obtain ⟨rfl, hrest⟩ := List.cons.inj h
        obtain ⟨s', rfl, rfl⟩ := ih hword.2 hrest
        exact ⟨s', rfl, rfl⟩
      · obtain ⟨e, es, hes⟩ := List.exists_cons_of_ne_nil (escapeChar_ne_nil c)
        rw [hes, List.cons_append, List.cons_append] at h
        obtain ⟨rfl, -⟩ := List.cons.inj h
        exact absurd hword.1 (hmark c d hc (by rw [hes]; exact List.mem_cons_self))

/-- A word of marks is in an escaped string if and only if it is in the string. -/
lemma infix_escaped_iff (hmark : Unescaped mark) {word s : List Char} (hne : word ≠ [])
    (hword : ∀ c ∈ word, mark c ∧ escapeChar c = [c]) : word <:+: s.flatMap escapeChar ↔ word <:+: s := by
  have hself : ∀ w : List Char, (∀ c ∈ w, escapeChar c = [c]) → w.flatMap escapeChar = w := by
    intro w hw
    induction w with
    | nil => rfl
    | cons c w ih =>
      rw [List.forall_mem_cons] at hw
      rw [List.flatMap_cons, hw.1, ih hw.2]
      rfl
  have hskip : ∀ {front rest : List Char}, (∀ c ∈ front, ¬ mark c) → word <:+: front ++ rest → word <:+: rest := by
    intro front rest hfront h
    induction front with
    | nil => exact h
    | cons c front ih =>
      rw [List.forall_mem_cons] at hfront
      rcases List.infix_cons_iff.1 h with hpre | hwithin
      · obtain ⟨d, w, rfl⟩ := List.exists_cons_of_ne_nil hne
        obtain ⟨rfl, -⟩ := List.cons_prefix_cons.1 hpre
        exact absurd (hword d List.mem_cons_self).1 hfront.1
      · exact ih hfront.2 hwithin
  constructor
  · intro h
    induction s with
    | nil => exact h
    | cons c s ih =>
      by_cases hc : escapeChar c = [c]
      · rw [List.flatMap_cons, hc, List.singleton_append] at h
        rcases List.infix_cons_iff.1 h with ⟨t, ht⟩ | hwithin
        · have hall : word ++ t = (c :: s).flatMap escapeChar := by
            rw [ht, List.flatMap_cons, hc, List.singleton_append]
          obtain ⟨s', hs, -⟩ := exists_of_escaped hmark (fun d hd => (hword d hd).1) hall
          rw [hs]
          exact (List.prefix_append word s').isInfix
        · exact List.infix_cons (ih hwithin)
      · rw [List.flatMap_cons] at h
        exact List.infix_cons (ih (hskip (fun d hd => hmark c d hc hd) h))
  · rintro ⟨a, b, rfl⟩
    rw [List.flatMap_append, List.flatMap_append, hself word fun c hc => (hword c hc).2]
    exact ⟨_, _, rfl⟩

/-- **What is read of a string that was escaped.** It is the string if nothing was replaced, and otherwise the
string is not even an end of it. -/
theorem eq_or_not_suffix_escaped (hmark : Unescaped mark) {b : Bool} {s x y r rest : List Char}
    (h : Edited (letters mark) b (s.flatMap escapeChar) x)
    (hread : readString (x ++ '"' :: rest) = some (y, r)) : (b = false ∧ y = s) ∨ ¬ s <:+ y := by
  induction hlen : s.length using Nat.strongRecOn generalizing b s x y with
  | ind n ih =>
    cases s with
    | nil =>
      generalize htext : ([] : List Char).flatMap escapeChar = text at h
      cases h with
      | nil =>
        have hy : some (([] : List Char), rest) = some (y, r) := hread
        obtain ⟨rfl, -⟩ := Prod.mk.inj (Option.some.inj hy)
        exact Or.inl ⟨rfl, rfl⟩
      | keep c h => exact absurd htext.symm (List.cons_ne_nil _ _)
      | change hne hword hnew h => exact absurd (List.append_eq_nil_iff.1 htext.symm).1 hne
      | stop hne hword hfront hinert hstop => exact absurd (List.append_eq_nil_iff.1 htext.symm).1 hne
    | cons c s =>
      have hlt : s.length < n := by rw [← hlen]; exact Nat.lt_succ_self _
      -- A character that is read back is kept.
      have hkeep : ∀ {b' : Bool} {x' : List Char}, Edited (letters mark) b' (s.flatMap escapeChar) x' →
          readString (escapeChar c ++ (x' ++ '"' :: rest)) = some (y, r) →
          (b' = false ∧ y = c :: s) ∨ ¬ c :: s <:+ y := by
        rintro b' x' h hread
        rw [readString_escapeChar] at hread
        obtain ⟨p, hp, hy⟩ := Option.map_eq_some_iff.1 hread
        obtain ⟨rfl, rfl⟩ := Prod.mk.inj hy
        rcases ih s.length hlt h hp rfl with ⟨hb, hps⟩ | hnot
        · exact Or.inl ⟨hb, by rw [hps]⟩
        · exact Or.inr (not_suffix_keep c hnot)
      rw [List.flatMap_cons] at h
      by_cases hc : escapeChar c = [c]
      · rw [hc, List.singleton_append] at h
        have hall : c :: s.flatMap escapeChar = (c :: s).flatMap escapeChar := by
          rw [List.flatMap_cons, hc, List.singleton_append]
        generalize htext : c :: s.flatMap escapeChar = text at h
        rw [htext] at hall
        cases h with
        | nil => exact absurd htext (List.cons_ne_nil _ _)
        | @keep d b t x h =>
          obtain ⟨rfl, rfl⟩ := List.cons.inj htext
          exact hkeep h (by rw [hc]; exact hread)
        | @change b word new t x hne hword hnew h =>
          obtain ⟨s', hs, rfl⟩ := exists_of_escaped hmark hword hall
          have hlt' : s'.length < n := by
            have hpos := List.length_pos_of_ne_nil hne
            rw [← hlen, hs, List.length_append]
            omega
          rw [List.append_assoc, readString_append fun d hd => (hnew d hd).1] at hread
          obtain ⟨p, hp, hy⟩ := Option.map_eq_some_iff.1 hread
          obtain ⟨rfl, rfl⟩ := Prod.mk.inj hy
          rw [hs]
          refine Or.inr (not_suffix_replaced (not_infix_plain hne hword fun d hd => (hnew d hd).2) fun hsuffix => ?_)
          rcases ih s'.length hlt' h hp rfl with ⟨-, hps⟩ | hnot
          · exact hps.symm
          · exact absurd hsuffix hnot
        | @stop word front t back d hne hword hfront hinert hstop =>
          obtain ⟨s', hs, -⟩ := exists_of_escaped hmark hword hall
          rw [List.append_assoc, List.cons_append] at hread
          rw [hs, eq_of_readString_stop hstop.2 (fun e he => (hinert e he).1) hread]
          exact Or.inr (not_suffix_stopped (not_infix_plain hne hword fun e he => (hinert e he).2.1))
      · obtain ⟨x', rfl, htail⟩ := h.of_append fun d hd => hmark c d hc hd
        rw [List.append_assoc] at hread
        exact hkeep htail hread

end JsonText
