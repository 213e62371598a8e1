import Mathlib.Algebra.Group.Nat.Defs
import Mathlib.Algebra.Ring.Int.Defs
import Mathlib.Data.List.Basic
import Mathlib.Data.List.Infix
import Mathlib.Data.List.DropRight
import Mathlib.Data.List.Forall2
import Mathlib.Data.Nat.Notation
import Mathlib.Tactic.Lemma

set_option relaxedAutoImplicit false
set_option autoImplicit false

/-!
# Text: lines, blanks, key-value lines, numbers

The string operations a line-oriented parser is written with (splitting into lines, trimming
blanks, cutting at a separator, reading a decimal number), and what they return on text that was
printed line by line.

## Main definitions

* `Text.splitLines`, `Text.unlines`, `Text.joinLines` — lines of a text and back.
* `Text.splitAt` — the pieces of a text between separators.
* `Text.trimSpace`, `Text.trimRight` — trimming Unicode white space, or a set of characters.
* `Text.words` — the words of a text.
* `Text.cut` — the parts before and after a separator.
* `Text.erased` — a text without the occurrences of another.
* `Text.atoi` — a signed decimal number.

## Main results

* `Text.splitLines_unlines`, `Text.splitLines_joinLines` — the lines of a printed text.
* `Text.contains_joinLines` — what occurs in such a text occurs in a line.
* `Text.trimSpace_cons_space` — a leading blank does not survive trimming.
* `Text.words_trimSpace` — trimming leaves the words.
* `Text.cut_append` — cutting a printed `key: value` line.
* `Text.eq_of_atoi_toString` — reading back a printed number.
-/

namespace Text

/-! ### Lines -/

/-- The pieces of `s` between newlines. -/
def splitLines (s : String) : List String := (s.toList.splitOn '\n').map String.ofList

/-- The pieces of `s` between occurrences of `sep`. -/
def splitAt (s : String) (sep : Char) : List String := (s.toList.splitOn sep).map String.ofList

/-- Every line followed by a newline. -/
def unlines : List String → String
  | [] => ""
  | l :: ls => l ++ ("\n" ++ unlines ls)

@[simp] lemma unlines_nil : unlines [] = "" := rfl

@[simp] lemma unlines_cons (l : String) (ls : List String) :
    unlines (l :: ls) = l ++ ("\n" ++ unlines ls) := rfl

/-- The lines of a text printed line by line are those lines and a last, empty one. -/
lemma splitLines_unlines {ls : List String} (hls : ∀ l ∈ ls, '\n' ∉ l.toList) :
    splitLines (unlines ls) = ls ++ [""] := by
  induction ls with
  | nil => rfl
  | cons l ls ih =>
    have h₁ := ih fun l' hl' => hls l' (by simp [hl'])
    unfold splitLines at h₁ ⊢
    have hcons : (unlines (l :: ls)).toList = l.toList ++ '\n' :: (unlines ls).toList := by simp
    rw [hcons, List.splitOn_append_cons_self_of_not_mem (hls l (by simp)), List.map_cons, h₁]
    simp

/-! ### Blanks -/

/-- Unicode white space. -/
def isSpace (c : Char) : Bool :=
  let n := c.toNat
  n = 0x20 || (0x9 ≤ n && n ≤ 0xd) || n = 0x85 || n = 0xA0 || n = 0x1680 ||
    (0x2000 ≤ n && n ≤ 0x200a) || n = 0x2028 || n = 0x2029 || n = 0x202f || n = 0x205f || n = 0x3000

/-- `s` without leading and trailing white space. -/
def trimSpace (s : String) : String :=
  String.ofList ((s.toList.dropWhile isSpace).rdropWhile isSpace)

/-- `s` without trailing characters of `cutset`. -/
def trimRight (cutset : List Char) (s : String) : String :=
  String.ofList (s.toList.rdropWhile (cutset.contains ·))

/-- A piece of a list is not longer than the list.

**Proof sketch.** By induction on the list: an element starts a piece, or is put in front of one. -/
lemma length_le_of_mem_splitOn {α : Type} [BEq α] {a : α} {l piece : List α}
    (h : piece ∈ l.splitOn a) : piece.length ≤ l.length := by
  induction l generalizing piece with
  | nil =>
    obtain rfl := List.mem_singleton.1 h
    exact Nat.le_refl _
  | cons x l ih =>
    rw [List.splitOn_cons_eq_if_modifyHead] at h
    split_ifs at h with hx
    · rcases List.mem_cons.1 h with rfl | h
      · exact Nat.zero_le _
      · exact Nat.le_succ_of_le (ih h)
    · obtain ⟨first, rest, hsplit⟩ := List.exists_cons_of_ne_nil (List.splitOn_ne_nil a l)
      rw [hsplit, List.modifyHead_cons] at h
      rcases List.mem_cons.1 h with rfl | h
      · exact Nat.succ_le_succ (ih (hsplit ▸ List.mem_cons_self))
      · exact Nat.le_succ_of_le (ih (hsplit ▸ List.mem_cons_of_mem _ h))

/-- The pieces between separators have no separator. -/
lemma not_mem_of_mem_splitOn {α : Type} [BEq α] [LawfulBEq α] {a : α} {l piece : List α}
    (h : piece ∈ l.splitOn a) : a ∉ piece := by
  induction l generalizing piece with
  | nil =>
    obtain rfl := List.mem_singleton.1 h
    exact List.not_mem_nil
  | cons x l ih =>
    rw [List.splitOn_cons_eq_if_modifyHead] at h
    split_ifs at h with hx
    · rcases List.mem_cons.1 h with rfl | h
      · exact List.not_mem_nil
      · exact ih h
    · obtain ⟨first, rest, hsplit⟩ := List.exists_cons_of_ne_nil (List.splitOn_ne_nil a l)
      rw [hsplit, List.modifyHead_cons] at h
      rcases List.mem_cons.1 h with rfl | h
      · rw [List.mem_cons]
        rintro (rfl | hmem)
        · exact hx (beq_self_eq_true a)
        · exact ih (hsplit ▸ List.mem_cons_self) hmem
      · exact ih (hsplit ▸ List.mem_cons_of_mem _ h)

/-- A line has no newline. -/
lemma newline_not_mem_of_mem_splitLines {s line : String} (h : line ∈ splitLines s) :
    '\n' ∉ line.toList := by
  obtain ⟨piece, hpiece, rfl⟩ := List.mem_map.1 h
  rw [String.toList_ofList]
  exact not_mem_of_mem_splitOn hpiece

/-- Trimming leaves no more than there was. -/
lemma length_trimSpace_le (s : String) : (trimSpace s).length ≤ s.length := by
  rw [trimSpace, ← String.length_toList, ← String.length_toList, String.toList_ofList]
  exact ((List.rdropWhile_prefix ..).length_le).trans (List.dropWhile_suffix _).length_le

/-- A line is shorter than a text of several lines. -/
lemma length_lt_of_mem_splitLines {s line : String} (hs : '\n' ∈ s.toList)
    (hline : line ∈ splitLines s) : line.length < s.length := by
  obtain ⟨piece, hpiece, rfl⟩ := List.mem_map.1 hline
  obtain ⟨before, after, hsplit⟩ := List.append_of_mem hs
  rw [hsplit, List.splitOn_append_cons_self, List.mem_append] at hpiece
  have hlength : s.length = before.length + (after.length + 1) := by
    rw [← String.length_toList, hsplit, List.length_append, List.length_cons]
  rw [hlength, String.length_ofList]
  rcases hpiece with hpiece | hpiece
  · have hle := length_le_of_mem_splitOn hpiece
    omega
  · have hle := length_le_of_mem_splitOn hpiece
    omega

/-- A leading blank does not survive trimming. -/
lemma trimSpace_cons_space (s : String) : trimSpace (" " ++ s) = trimSpace s := by
  have : (" " ++ s).toList = ' ' :: s.toList := by simp
  simp [trimSpace, this, isSpace]

/-- Trimming leaves a text without blanks as it is. -/
lemma trimSpace_eq_self {s : String} (h : ∀ c ∈ s.toList, isSpace c = false) :
    trimSpace s = s := by
  have hd : s.toList.dropWhile isSpace = s.toList := by
    rw [List.dropWhile_eq_self_iff]
    intro hlen
    simp [h _ (List.getElem_mem hlen)]
  have hr : s.toList.rdropWhile isSpace = s.toList := by
    rw [List.rdropWhile_eq_self_iff]
    intro hne
    simp [h _ (List.getLast_mem hne)]
  rw [trimSpace, hd, hr, String.ofList_toList]

/-- Trimming goes on before a text that is left out as a whole. -/
lemma trimRight_append (cutset : List Char) (a b : String) :
    trimRight cutset (a ++ b) =
      if trimRight cutset b = "" then trimRight cutset a else a ++ trimRight cutset b := by
  have hlist : ∀ (p : Char → Bool) (x y : List Char),
      (x ++ y).rdropWhile p = if y.rdropWhile p = [] then x.rdropWhile p else x ++ y.rdropWhile p := by
    intro p x y
    rw [List.rdropWhile, List.rdropWhile, List.reverse_append, List.dropWhile_append]
    by_cases h : (y.reverse.dropWhile p).isEmpty
    · have hnil : y.reverse.dropWhile p = [] := List.isEmpty_iff.1 h
      rw [if_pos h, hnil, List.reverse_nil, if_pos rfl]
      rfl
    · have hne : y.reverse.dropWhile p ≠ [] := fun hnil => h (List.isEmpty_iff.2 hnil)
      rw [if_neg h, if_neg fun hnil => hne (List.reverse_eq_nil_iff.1 hnil), List.reverse_append,
        List.reverse_reverse]
  rw [trimRight, trimRight, trimRight, String.toList_append, hlist]
  by_cases h : b.toList.rdropWhile (cutset.contains ·) = []
  · rw [if_pos h, if_pos (String.ofList_eq_empty_iff.2 h)]
  · rw [if_neg h, if_neg fun hempty => h (String.ofList_eq_empty_iff.1 hempty), String.ofList_append,
      String.ofList_toList]

lemma trimRight_trimRight (cutset : List Char) (s : String) :
    trimRight cutset (trimRight cutset s) = trimRight cutset s := by
  rw [trimRight, trimRight, String.toList_ofList, List.rdropWhile_idempotent]

/-- Trimming leaves a text that does not end in the cut set as it is. -/
lemma trimRight_eq_self {cutset : List Char} {s : String}
    (h : ∀ c, s.toList.getLast? = some c → c ∉ cutset) : trimRight cutset s = s := by
  have : s.toList.rdropWhile (cutset.contains ·) = s.toList := by
    rw [List.rdropWhile_eq_self_iff]
    intro hne
    simpa using h _ (List.getLast?_eq_getLast_of_ne_nil hne)
  rw [trimRight, this, String.ofList_toList]

/-! ### Words -/

/-- The words of a text, between runs of white space. -/
def words (s : String) : List String :=
  ((s.toList.splitOnP isSpace).filter fun word => word ≠ []).map String.ofList

/-- White space at the start makes no word. -/
lemma words_dropWhile (cs : List Char) :
    words (String.ofList (cs.dropWhile isSpace)) = words (String.ofList cs) := by
  induction cs with
  | nil => rfl
  | cons c cs ih =>
    by_cases hc : isSpace c = true
    · rw [List.dropWhile_cons_of_pos hc, ih]
      simp only [words, String.toList_ofList, List.splitOnP_cons_eq_if_modifyHead, if_pos hc]
      rw [List.filter_cons_of_neg (by simp)]
    · rw [List.dropWhile_cons_of_neg hc]

/-- White space at the end makes no word. -/
lemma words_rdropWhile (cs : List Char) :
    words (String.ofList (cs.rdropWhile isSpace)) = words (String.ofList cs) := by
  induction cs using List.reverseRecOn with
  | nil => rfl
  | append_singleton cs c ih =>
    by_cases hc : isSpace c = true
    · rw [List.rdropWhile_concat_pos _ _ _ hc, ih]
      simp only [words, String.toList_ofList]
      rw [List.splitOnP_append_cons _ _ hc, List.splitOnP_nil, List.filter_append,
        List.filter_cons_of_neg (by simp), List.filter_nil, List.append_nil]
    · rw [List.rdropWhile_concat_neg _ _ _ hc]

/-- Trimming a text leaves its words. -/
theorem words_trimSpace (s : String) : words (trimSpace s) = words s := by
  rw [trimSpace, words_rdropWhile, words_dropWhile, String.ofList_toList]

/-! ### Prefixes, suffixes and separators -/

/-- A letter without its case, where it is compared with an ASCII letter: the long s and the sign for
Kelvin fold to one too. -/
def foldCase (c : Char) : Char :=
  if c.toNat = 0x17F then 's' else if c.toNat = 0x212A then 'k' else c.toLower

/-- `s` starts with `p`. -/
def hasPrefix (s p : String) : Bool := p.toList.isPrefixOf s.toList

/-- `s` ends with `p`. -/
def hasSuffix (s p : String) : Bool := p.toList.isSuffixOf s.toList

/-- `s` without the prefix `p`, if it has it. -/
def trimPrefix (s p : String) : String :=
  if hasPrefix s p then String.ofList (s.toList.drop p.length) else s

/-- `s` without the suffix `p`, if it has it. -/
def trimSuffix (s p : String) : String :=
  if hasSuffix s p then String.ofList (s.toList.take (s.length - p.length)) else s

/-- The parts of a character list before and after the first occurrence of `sub`. -/
def cutFirst (sub : List Char) : List Char → Option (List Char × List Char)
  | [] => if sub = [] then some ([], []) else none
  | c :: cs =>
    if sub.isPrefixOf (c :: cs) then some ([], (c :: cs).drop sub.length)
    else (cutFirst sub cs).map fun p => (c :: p.1, p.2)

/-- The parts of a character list before and after the last occurrence of `sub`. -/
def cutLast (sub : List Char) : List Char → Option (List Char × List Char)
  | [] => if sub = [] then some ([], []) else none
  | c :: cs =>
    match cutLast sub cs with
    | some p => some (c :: p.1, p.2)
    | none => if sub.isPrefixOf (c :: cs) then some ([], (c :: cs).drop sub.length) else none

/-- The parts of `s` before and after the first occurrence of `sep`. -/
def cut (s sep : String) : Option (String × String) :=
  (cutFirst sep.toList s.toList).map fun p => (String.ofList p.1, String.ofList p.2)

/-- The parts of `s` before and after the last occurrence of `sep`. -/
def cutAtLast (s sep : String) : Option (String × String) :=
  (cutLast sep.toList s.toList).map fun p => (String.ofList p.1, String.ofList p.2)

/-- `sub` occurs in `s`. -/
def contains (s sub : String) : Bool := (cut s sub).isSome

/-- A text without the occurrences of another, after `skip` characters of one. -/
def dropAll (sub : List Char) : ℕ → List Char → List Char
  | _, [] => []
  | skip + 1, _ :: cs => dropAll sub skip cs
  | 0, c :: cs =>
    if sub.isPrefixOf (c :: cs) then dropAll sub (sub.length - 1) cs else c :: dropAll sub 0 cs

/-- `s` without the occurrences of `sub`, which is not empty. -/
def erased (s sub : String) : String := String.ofList (dropAll sub.toList 0 s.toList)

/-- What is left of a text is a part of it. -/
lemma dropAll_sublist (sub : List Char) (skip : ℕ) (l : List Char) : (dropAll sub skip l).Sublist l := by
  induction l generalizing skip with
  | nil => rw [dropAll]
  | cons c l ih =>
    cases skip with
    | succ skip =>
      rw [dropAll]
      exact (ih skip).cons c
    | zero =>
      rw [dropAll]
      split
      · exact (ih _).cons c
      · exact (ih 0).cons_cons c

/-- The characters of an occurrence are left out. -/
lemma dropAll_append_skip (sub front l : List Char) :
    dropAll sub front.length (front ++ l) = dropAll sub 0 l := by
  induction front with
  | nil => rfl
  | cons c front ih =>
    rw [List.length_cons, List.cons_append, dropAll, ih]

/-- The first occurrence is left out. -/
lemma dropAll_append {sub : List Char} (hsub : sub ≠ []) (l : List Char) :
    dropAll sub 0 (sub ++ l) = dropAll sub 0 l := by
  obtain ⟨c, front, rfl⟩ := List.exists_cons_of_ne_nil hsub
  have hpre : (c :: front).isPrefixOf (c :: (front ++ l)) = true :=
    List.isPrefixOf_iff_prefix.2 ⟨l, rfl⟩
  rw [List.cons_append, dropAll, if_pos hpre]
  exact dropAll_append_skip (c :: front) front l

/-- A text in which another occurs gets shorter without it. -/
lemma length_dropAll_lt {sub l : List Char} (hsub : sub ≠ []) (h : sub <:+: l) :
    (dropAll sub 0 l).length < l.length := by
  induction l with
  | nil => exact absurd (List.infix_nil.1 h) hsub
  | cons c l ih =>
    rw [dropAll]
    split
    · exact Nat.lt_succ_of_le (dropAll_sublist sub _ l).length_le
    · next hpre =>
      rcases List.infix_cons_iff.1 h with hfront | htail
      · exact absurd (List.isPrefixOf_iff_prefix.2 hfront) hpre
      · exact Nat.succ_lt_succ (ih htail)

/-- **Nothing is left out** of a text in which the other does not occur, and only of one. -/
lemma dropAll_eq_self_iff {sub l : List Char} (hsub : sub ≠ []) : dropAll sub 0 l = l ↔ ¬ sub <:+: l := by
  constructor
  · rintro h hmem
    exact absurd (congrArg List.length h) (Nat.ne_of_lt (length_dropAll_lt hsub hmem))
  · rintro h
    induction l with
    | nil => rw [dropAll]
    | cons c l ih =>
      rw [dropAll, if_neg fun hpre => h (List.isPrefixOf_iff_prefix.1 hpre).isInfix,
        ih fun hmem => h (List.infix_cons hmem)]

/-- Only a character that does not occur does not cut. -/
lemma cutLast_eq_none {c : Char} {l : List Char} : cutLast [c] l = none ↔ c ∉ l := by
  induction l with
  | nil => exact ⟨fun _ => List.not_mem_nil, fun _ => rfl⟩
  | cons d l ih =>
    rw [cutLast, List.mem_cons, not_or, ← ih]
    cases cutLast [c] l with
    | some p => exact ⟨nofun, fun h => absurd h.2 nofun⟩
    | none =>
      by_cases h : c = d <;> simp [h]

/-- The last occurrence of a character is the one after which it does not occur. -/
lemma cutLast_append {c : Char} {b : List Char} (hb : c ∉ b) (a : List Char) :
    cutLast [c] (a ++ c :: b) = some (a, b) := by
  induction a with
  | nil =>
    rw [List.nil_append, cutLast, cutLast_eq_none.2 hb]
    exact if_pos (by simp)
  | cons d a ih => rw [List.cons_append, cutLast, ih]

/-- The character does not occur after its last occurrence. -/
lemma not_mem_of_cutLast {c : Char} {l : List Char} {p : List Char × List Char}
    (h : cutLast [c] l = some p) : c ∉ p.2 := by
  induction l generalizing p with
  | nil => exact absurd h nofun
  | cons d l ih =>
    rw [cutLast] at h
    cases hl : cutLast [c] l with
    | some q =>
      rw [hl] at h
      rw [← Option.some.inj h]
      have hq : c ∉ q.2 := ih hl
      exact hq
    | none =>
      rw [hl] at h
      dsimp only at h
      split_ifs at h
      rw [← Option.some.inj h]
      exact cutLast_eq_none.1 hl

/-- The last occurrence of a separator whose first character does not occur after its start. -/
lemma cutLast_append_sep {c : Char} {sep b : List Char} (hc : c ∉ sep ++ b) (a : List Char) :
    cutLast (c :: sep) (a ++ (c :: sep) ++ b) = some (a, b) := by
  have hnone : ∀ l : List Char, c ∉ l → cutLast (c :: sep) l = none := by
    intro l hl
    induction l with
    | nil => rfl
    | cons d l ih =>
      rw [List.mem_cons, not_or] at hl
      obtain ⟨hd, hl⟩ := hl
      have hpre : ¬(c :: sep).isPrefixOf (d :: l) = true := by
        intro h
        exact hd (List.cons_prefix_cons.1 (List.isPrefixOf_iff_prefix.1 h)).1
      rw [cutLast, ih hl]
      exact if_neg hpre
  induction a with
  | nil =>
    have hpre : (c :: sep).isPrefixOf (c :: (sep ++ b)) = true :=
      List.isPrefixOf_iff_prefix.2 (List.prefix_append (c :: sep) b)
    rw [List.nil_append, List.cons_append, cutLast, hnone _ hc]
    dsimp only
    rw [if_pos hpre, ← List.cons_append, List.drop_left]
  | cons d a ih => rw [List.cons_append, List.cons_append, cutLast, ih]

/-- The last occurrence of a text that does not begin again in it or behind it. -/
lemma cutLast_append_of_not_infix {sub b : List Char} (hsub : sub ≠ []) (h : ¬ sub <:+: sub.tail ++ b)
    (a : List Char) : cutLast sub (a ++ (sub ++ b)) = some (a, b) := by
  have hnone : ∀ l : List Char, ¬ sub <:+: l → cutLast sub l = none := by
    intro l hl
    induction l with
    | nil => rw [cutLast, if_neg hsub]
    | cons d l ih =>
      rw [List.infix_cons_iff, not_or] at hl
      rw [cutLast, ih hl.2]
      exact if_neg fun hpre => hl.1 (List.isPrefixOf_iff_prefix.1 hpre)
  induction a with
  | nil =>
    obtain ⟨c, cs, rfl⟩ := List.exists_cons_of_ne_nil hsub
    have hpre : (c :: cs).isPrefixOf (c :: (cs ++ b)) = true :=
      List.isPrefixOf_iff_prefix.2 (List.prefix_append (c :: cs) b)
    have htail : cutLast (c :: cs) (cs ++ b) = none := hnone _ h
    rw [List.nil_append, List.cons_append, cutLast, htail]
    dsimp only
    rw [if_pos hpre, ← List.cons_append, List.drop_left]
  | cons d a ih => rw [List.cons_append, cutLast, ih]

/-- Cutting at a separator that does not begin again in it or behind it. -/
lemma cutAtLast_append {sep b : String} (hsep : sep ≠ "") (h : ¬ sep.toList <:+: sep.toList.tail ++ b.toList)
    (a : String) : cutAtLast (a ++ (sep ++ b)) sep = some (a, b) := by
  have hne : sep.toList ≠ [] := by simpa using hsep
  rw [cutAtLast, String.toList_append, String.toList_append, cutLast_append_of_not_infix hne h, Option.map_some,
    String.ofList_toList, String.ofList_toList]

/-- The suffix of a text that is put together. -/
lemma trimSuffix_append (a b : String) : trimSuffix (a ++ b) b = a := by
  have hsuffix : hasSuffix (a ++ b) b = true := by
    rw [hasSuffix, List.isSuffixOf_iff_suffix, String.toList_append]
    exact List.suffix_append _ _
  have hlength : (a ++ b).length - b.length = a.toList.length := by
    rw [String.length_append, Nat.add_sub_cancel, String.length_toList]
  rw [trimSuffix, if_pos hsuffix, hlength, String.toList_append, List.take_left, String.ofList_toList]

lemma cutAtLast_ofList {sep : String} {c : Char} {cs b : List Char} (hsep : sep.toList = c :: cs)
    (hc : c ∉ cs ++ b) (a : List Char) :
    cutAtLast (String.ofList (a ++ (c :: cs) ++ b)) sep = some (String.ofList a, String.ofList b) := by
  rw [cutAtLast, hsep, String.toList_ofList, cutLast_append_sep hc, Option.map_some]

/-- The first occurrence of a separator whose first character does not occur before it. -/
lemma cutFirst_append {c : Char} {sep : List Char} {a : List Char} (ha : c ∉ a) (b : List Char) :
    cutFirst (c :: sep) (a ++ (c :: sep) ++ b) = some (a, b) := by
  induction a with
  | nil =>
    have : (c :: sep).isPrefixOf (c :: sep ++ b) = true := by
      rw [List.isPrefixOf_iff_prefix]
      exact List.prefix_append _ _
    simp only [List.nil_append, List.cons_append] at this ⊢
    rw [cutFirst, if_pos this]
    simp
  | cons d a ih =>
    have hd : ¬ c = d := fun h => ha (by simp [h])
    have hpre : ¬ (c :: sep).isPrefixOf (d :: (a ++ (c :: sep) ++ b)) = true := by
      simp [List.isPrefixOf, hd]
    rw [List.cons_append, List.cons_append, cutFirst, if_neg hpre, ih fun h => ha (by simp [h])]
    rfl

/-- Cutting a printed `key: value` line at the first colon. -/
lemma cut_append {k v : String} (hk : ':' ∉ k.toList) : cut (k ++ (":" ++ v)) ":" = some (k, v) := by
  have hl : (k ++ (":" ++ v)).toList = k.toList ++ [':'] ++ v.toList := by simp
  have hs : (":" : String).toList = [':'] := rfl
  rw [cut, hl, hs, cutFirst_append hk]
  simp

/-- A prefix is found. -/
lemma contains_append (sub s : String) : contains (sub ++ s) sub = true := by
  have hpre : sub.toList.isPrefixOf (sub.toList ++ s.toList) = true :=
    List.isPrefixOf_iff_prefix.2 (List.prefix_append _ _)
  rw [contains, cut, Option.isSome_map, String.toList_append]
  cases h : sub.toList ++ s.toList with
  | nil =>
    have hsub : sub.toList = [] := (List.append_eq_nil_iff.1 h).1
    simp [cutFirst, hsub]
  | cons c cs => rw [cutFirst, if_pos (h ▸ hpre), Option.isSome_some]

/-- A text is put together again from the parts around an occurrence. -/
lemma eq_of_cutFirst {sub s : List Char} {p : List Char × List Char} (h : cutFirst sub s = some p) :
    s = p.1 ++ sub ++ p.2 := by
  induction s generalizing p with
  | nil =>
    rw [cutFirst] at h
    split_ifs at h with hs
    rw [← Option.some.inj h, hs]
    rfl
  | cons c cs ih =>
    rw [cutFirst] at h
    split_ifs at h with hpre
    · obtain ⟨rest, hrest⟩ := List.isPrefixOf_iff_prefix.1 hpre
      obtain rfl := Option.some.inj h
      rw [← hrest, List.nil_append, List.drop_left]
    · obtain ⟨q, hq, rfl⟩ := Option.map_eq_some_iff.1 h
      have hcs := ih hq
      rw [List.cons_append, List.cons_append, ← hcs]

/-- What is cut out occurs. -/
lemma infix_of_cutFirst {sub s : List Char} {p : List Char × List Char}
    (h : cutFirst sub s = some p) : sub <:+: s := ⟨p.1, p.2, (eq_of_cutFirst h).symm⟩

/-- A piece without newline that occurs in a printed text occurs in one of its lines. -/
lemma infix_unlines {w : List Char} (hw : '\n' ∉ w) {ls : List String}
    (h : w <:+: (unlines ls).toList) : w = [] ∨ ∃ l ∈ ls, w <:+: l.toList := by
  induction ls with
  | nil => exact Or.inl (by simpa using h)
  | cons l ls ih =>
    have hl : (unlines (l :: ls)).toList = l.toList ++ '\n' :: (unlines ls).toList := by simp
    rw [hl] at h
    obtain ⟨a, b, hab⟩ := h
    -- the newline after `l` lies before, inside or after the occurrence
    rw [List.append_assoc] at hab
    rcases List.append_eq_append_iff.1 hab with ⟨c, hc, hc'⟩ | ⟨c, hc, hc'⟩
    · -- the occurrence starts inside `l`
      rcases List.append_eq_append_iff.1 hc' with ⟨d, hd, hd'⟩ | ⟨d, hd, hd'⟩
      · refine Or.inr ⟨l, by simp, a, d, ?_⟩
        rw [hc, hd, List.append_assoc]
      · cases d with
        | nil => exact Or.inr ⟨l, by simp, a, [], by simp [hc, hd]⟩
        | cons e d =>
          have he : e = '\n' := by
            have := congrArg List.head? hd'
            simpa using this.symm
          exact absurd (by simp [hd, he]) hw
    · -- it starts after `l`
      cases c with
      | nil =>
        cases w with
        | nil => exact Or.inl rfl
        | cons e w =>
          have he : '\n' = e := by
            have := congrArg List.head? hc'
            simpa using this
          exact absurd (by rw [he]; exact List.mem_cons_self) hw
      | cons e c =>
        have htail : (unlines ls).toList = c ++ (w ++ b) := by
          have := congrArg List.tail hc'
          simpa using this
        rcases ih ⟨c, b, by rw [htail, List.append_assoc]⟩ with h | ⟨l', hl', h⟩
        · exact Or.inl h
        · exact Or.inr ⟨l', by simp [hl'], h⟩

/-- An occurrence is found. -/
lemma isSome_cutFirst {sub s : List Char} (h : sub <:+: s) : (cutFirst sub s).isSome = true := by
  induction s with
  | nil =>
    rw [cutFirst, if_pos (List.infix_nil.1 h)]
    rfl
  | cons c cs ih =>
    rw [cutFirst]
    split_ifs with hpre
    · rfl
    · rw [Option.isSome_map]
      exact ih ((List.infix_cons_iff.1 h).resolve_left fun h => hpre (List.isPrefixOf_iff_prefix.2 h))

lemma contains_iff {s sub : String} : contains s sub = true ↔ sub.toList <:+: s.toList := by
  rw [contains, cut, Option.isSome_map]
  constructor
  · intro h
    obtain ⟨p, hp⟩ := Option.isSome_iff_exists.1 h
    exact infix_of_cutFirst hp
  · exact isSome_cutFirst

/-! ### Lines without a last newline -/

/-- Lines with newlines between them. -/
def joinLines (ls : List String) : String := String.ofList (['\n'].intercalate (ls.map String.toList))

/-- The lines are found again. -/
lemma splitLines_joinLines {ls : List String} (hls : ∀ l ∈ ls, '\n' ∉ l.toList) (hne : ls ≠ []) :
    splitLines (joinLines ls) = ls := by
  rw [splitLines, joinLines, String.toList_ofList, List.splitOn_intercalate]
  · rw [List.map_map]
    exact List.map_id'' (fun l => String.ofList_toList) ls
  · rintro _ hl
    obtain ⟨l, hmem, rfl⟩ := List.mem_map.1 hl
    exact hls l hmem
  · exact fun h => hne (List.map_eq_nil_iff.1 h)

lemma joinLines_singleton (l : String) : joinLines [l] = l := by
  rw [joinLines, List.map_singleton, List.intercalate_singleton, String.ofList_toList]

lemma toList_joinLines_cons (l : String) {ls : List String} (hne : ls ≠ []) :
    (joinLines (l :: ls)).toList = l.toList ++ '\n' :: (joinLines ls).toList := by
  rw [joinLines, joinLines, String.toList_ofList, String.toList_ofList, List.map_cons,
    List.intercalate_cons_of_ne_nil fun h => hne (List.map_eq_nil_iff.1 h), List.append_assoc]
  rfl

/-- A last newline makes a printed text. -/
lemma toList_unlines {ls : List String} (hne : ls ≠ []) :
    (unlines ls).toList = (joinLines ls).toList ++ ['\n'] := by
  induction ls with
  | nil => exact absurd rfl hne
  | cons l ls ih =>
    rw [unlines_cons, String.toList_append, String.toList_append]
    cases ls with
    | nil => rw [joinLines_singleton]; rfl
    | cons l' ls' =>
      rw [ih (List.cons_ne_nil _ _), toList_joinLines_cons l (List.cons_ne_nil _ _), List.append_assoc]
      rfl

/-- A line is a part of the text. -/
lemma infix_joinLines {l : String} {ls : List String} (h : l ∈ ls) : l.toList <:+: (joinLines ls).toList := by
  induction ls with
  | nil => cases h
  | cons l' ls ih =>
    by_cases hne : ls = []
    · subst hne
      rw [List.mem_singleton.1 h, joinLines_singleton]
    · rw [toList_joinLines_cons l' hne]
      rcases List.mem_cons.1 h with rfl | h
      · exact (List.prefix_append _ _).isInfix
      · exact (ih h).trans ((List.suffix_cons _ _).trans (List.suffix_append _ _)).isInfix

/-- A text without newline occurs if it occurs in a line. -/
lemma contains_joinLines {sub : String} (hsub : '\n' ∉ sub.toList) (hne : sub ≠ "") {ls : List String} :
    contains (joinLines ls) sub = true ↔ ∃ l ∈ ls, contains l sub = true := by
  rw [contains_iff]
  constructor
  · intro h
    have hunlines : sub.toList <:+: (unlines ls).toList := by
      by_cases hls : ls = []
      · subst hls
        exact h
      · rw [toList_unlines hls]
        exact h.trans (List.prefix_append _ _).isInfix
    obtain ⟨l, hl, hinfix⟩ := (infix_unlines hsub hunlines).resolve_left fun hnil =>
      hne (String.toList_inj.1 hnil)
    exact ⟨l, hl, contains_iff.2 hinfix⟩
  · rintro ⟨l, hl, h⟩
    exact (contains_iff.1 h).trans (infix_joinLines hl)

/-! ### Sequenced parsers -/

section Except

variable {ε : Type} {α β : Type}

/-- A sequence of parsers succeeds when its first part does and the rest does on its result. -/
lemma bind_eq_ok {p : Except ε α} {f : α → Except ε β} {b : β} :
    (p >>= f) = .ok b ↔ ∃ a, p = .ok a ∧ f a = .ok b := by
  cases p <;> simp [bind, Except.bind]

@[simp] lemma pure_eq_ok {a b : α} : (pure a : Except ε α) = .ok b ↔ a = b := by
  simp [pure, Except.pure]

@[simp] lemma mapError_eq_ok {ε' : Type} {p : Except ε α} {f : ε → ε'} {b : α} :
    p.mapError f = .ok b ↔ p = .ok b := by
  cases p <;> simp [Except.mapError]

/-- What is behind a check succeeds if the check lets it, and it does. -/
lemma guard_eq_ok {c : Prop} [Decidable c] {e : ε} {p : Except ε α} {a : α} :
    (if c then .error e else p) = .ok a ↔ ¬ c ∧ p = .ok a := by
  split <;> simp_all

/-- A parser of each element succeeds on a list with the list of its results. -/
lemma mapM_eq_ok {f : α → Except ε β} {as : List α} {bs : List β} :
    as.mapM f = .ok bs ↔ List.Forall₂ (fun a b => f a = .ok b) as bs := by
  induction as generalizing bs with
  | nil =>
    rw [List.mapM_nil, pure_eq_ok, List.forall₂_nil_left_iff]
    exact eq_comm
  | cons a as ih =>
    simp only [List.mapM_cons, bind_eq_ok, pure_eq_ok, ih, List.forall₂_cons_left_iff]
    constructor
    · intro h
      obtain ⟨b, hb, bs', hbs, rfl⟩ := h
      exact ⟨b, bs', hb, hbs, rfl⟩
    · intro h
      obtain ⟨b, bs', hb, hbs, rfl⟩ := h
      exact ⟨b, hb, bs', hbs, rfl⟩

end Except

/-! ### Numbers -/

/-- The value of a nonempty list of decimal digits. -/
def parseDigits (cs : List Char) : Option ℕ :=
  if cs ≠ [] ∧ cs.all Char.isDigit then some (Nat.ofDigitChars 10 cs 0) else none

/-- A decimal number with an optional sign that fits 64 bits. -/
def atoi (s : String) : Option ℤ :=
  let n : Option ℤ := match s.toList with
    | '-' :: cs => (parseDigits cs).map fun n : ℕ => -(n : ℤ)
    | '+' :: cs => (parseDigits cs).map Int.ofNat
    | cs => (parseDigits cs).map Int.ofNat
  n.filter fun n => -2 ^ 63 ≤ n ∧ n < 2 ^ 63

/-- Reading back the digits of a printed number. -/
lemma parseDigits_repr (n : ℕ) : parseDigits (Nat.repr n).toList = some n := by
  have hdig : ∀ c ∈ Nat.toDigits 10 n, c.isDigit :=
    fun c hc => Nat.isDigit_of_mem_toDigits (by omega) (by omega) hc
  rw [Nat.toList_repr, parseDigits, if_pos]
  · simp [Nat.ofDigitChars_toDigits]
  · exact ⟨Nat.toDigits_ne_nil, by simpa using hdig⟩

/-- A printed number consists of digits and signs. -/
lemma isDigit_or_of_mem_toString {p : ℤ} {c : Char} (h : c ∈ (toString p).toList) :
    c.isDigit = true ∨ c = '-' := by
  have hdig : ∀ n : ℕ, c ∈ (Nat.repr n).toList → c.isDigit = true := by
    intro n hn
    rw [Nat.toList_repr] at hn
    exact Nat.isDigit_of_mem_toDigits (by omega) (by omega) hn
  cases p with
  | ofNat n => exact Or.inl (hdig n h)
  | negSucc n =>
    have hs : toString (Int.negSucc n) = "-" ++ Nat.repr (n + 1) := rfl
    rw [hs, String.toList_append, List.mem_append] at h
    rcases h with h | h
    · exact Or.inr (by simpa using h)
    · exact Or.inl (hdig _ h)

/-- A printed number has no blanks. -/
lemma isSpace_of_mem_toString {p : ℤ} {c : Char} (h : c ∈ (toString p).toList) :
    isSpace c = false := by
  rcases isDigit_or_of_mem_toString h with h | rfl
  · have hc : 48 ≤ c.toNat ∧ c.toNat ≤ 57 := by
      simp only [Char.isDigit, Bool.and_eq_true, decide_eq_true_eq] at h
      exact ⟨UInt32.le_iff_toNat_le.1 h.1, UInt32.le_iff_toNat_le.1 h.2⟩
    simp only [isSpace, Bool.or_eq_false_iff, Bool.and_eq_false_iff, decide_eq_false_iff_not]
    omega
  · decide

/-- A number that fits is read back. -/
lemma atoi_toString {n : ℕ} (h : n < 2 ^ 63) : atoi (toString (n : ℤ)) = some (n : ℤ) := by
  have hd : parseDigits (toString (n : ℤ)).toList = some n := parseDigits_repr n
  have hfits : (decide (-2 ^ 63 ≤ (n : ℤ) ∧ (n : ℤ) < 2 ^ 63)) = true := by
    rw [decide_eq_true_eq]
    omega
  unfold atoi
  rcases hcs : (toString (n : ℤ)).toList with _ | ⟨c, cs⟩
  · rw [hcs] at hd
    simp [parseDigits] at hd
  · rw [hcs] at hd
    have hc : c.isDigit = true := by
      by_contra hc
      simp [parseDigits, hc] at hd
    have hminus : c ≠ '-' := by
      rintro rfl
      exact absurd hc (by decide)
    have hplus : c ≠ '+' := by
      rintro rfl
      exact absurd hc (by decide)
    dsimp only
    split
    · simp_all
    · simp_all
    · rw [hd, Option.map_some]
      exact Option.filter_some_pos hfits

/-- Reading back a printed number gives that number, if it gives one at all. -/
lemma eq_of_atoi_toString {p q : ℤ} (h : atoi (toString p) = some q) : q = p := by
  obtain ⟨hm, -⟩ := Option.filter_eq_some_iff.1 h
  cases p with
  | ofNat n =>
    have hd : parseDigits (toString (Int.ofNat n)).toList = some n := parseDigits_repr n
    rcases hcs : (toString (Int.ofNat n)).toList with _ | ⟨c, cs⟩
    · rw [hcs] at hd
      simp [parseDigits] at hd
    · rw [hcs] at hm hd
      have hc : c.isDigit = true := by
        by_contra hc
        simp [parseDigits, hc] at hd
      split at hm
      · exact absurd hc (by simp_all)
      · exact absurd hc (by simp_all)
      · rw [hd] at hm
        simpa using hm.symm
  | negSucc n =>
    have hcs : (toString (Int.negSucc n)).toList = '-' :: (Nat.repr (n + 1)).toList := by
      have : toString (Int.negSucc n) = "-" ++ Nat.repr (n + 1) := rfl
      simp [this]
    rw [hcs] at hm
    have hq : -((n + 1 : ℕ) : ℤ) = q := by
      simp only [parseDigits_repr, Option.map_some] at hm
      exact Option.some.inj hm
    omega

end Text
