import Mathlib.Data.List.TakeWhile
import Proxor.Lib.Bytes

set_option relaxedAutoImplicit false
set_option autoImplicit false

/-!
# Lines of a stream

A stream of bytes is read in parts. Its lines are complete with their newline, and a line that is longer
than a limit ends the reading, whether it is complete or not. Where the parts end does not matter.

## Main definitions

* `Framing.joined` — lines, each with its newline.
* `Framing.goodLines`, `Framing.unread` — the complete lines up to one that is too long, and what is behind
  them.
* `Framing.overlong` — a line is too long.

## Main results

* `Framing.joined_goodLines_append` — a stream is its lines and what is behind them.
* `Framing.goodLines_append` — the lines of a stream that is read in two parts.
-/

namespace Framing

/-- Lines, each with its newline. -/
def joined (ls : List Bytes) : Bytes := ls.flatMap fun l => l ++ [10]

/-- A complete line that is not too long. -/
def Good (limit : ℕ) (l : Bytes) : Prop := 10 ∉ l ∧ l.length ≤ limit

/-- The complete lines of a stream, up to one that is too long. -/
def goodLines (limit : ℕ) (s : Bytes) : List Bytes := (Bytes.lines s).dropLast.takeWhile (·.length ≤ limit)

/-- What is behind these lines. -/
def unread (limit : ℕ) (s : Bytes) : Bytes := s.drop (joined (goodLines limit s)).length

/-- A line is too long, whether it is complete or not. -/
def overlong (limit : ℕ) (s : Bytes) : Bool := (Bytes.lines s).any fun l => limit < l.length

variable {limit : ℕ}

@[simp] lemma joined_nil : joined [] = [] := rfl

lemma joined_cons (l : Bytes) (ls : List Bytes) : joined (l :: ls) = l ++ 10 :: joined ls := by
  rw [joined, List.flatMap_cons, List.append_assoc]
  rfl

lemma joined_append (ls ls' : List Bytes) : joined (ls ++ ls') = joined ls ++ joined ls' :=
  List.flatMap_append

/-! ### The first line -/

lemma lines_ne_nil (s : Bytes) : Bytes.lines s ≠ [] := List.splitOn_ne_nil _ _

lemma lines_of_not_mem {s : Bytes} (h : 10 ∉ s) : Bytes.lines s = [s] := List.splitOn_eq_singleton h

lemma lines_line {l : Bytes} (h : 10 ∉ l) (s : Bytes) : Bytes.lines (l ++ 10 :: s) = l :: Bytes.lines s :=
  List.splitOn_append_cons_self_of_not_mem h s

lemma goodLines_of_not_mem {s : Bytes} (h : 10 ∉ s) : goodLines limit s = [] := by
  rw [goodLines, lines_of_not_mem h]
  rfl

lemma overlong_of_not_mem {s : Bytes} (h : 10 ∉ s) : overlong limit s = decide (limit < s.length) := by
  rw [overlong, lines_of_not_mem h, List.any_cons, List.any_nil, Bool.or_false]

lemma goodLines_line {l : Bytes} (h : Good limit l) (s : Bytes) :
    goodLines limit (l ++ 10 :: s) = l :: goodLines limit s := by
  rw [goodLines, lines_line h.1, List.dropLast_cons_of_ne_nil (lines_ne_nil s),
    List.takeWhile_cons_of_pos (by simpa using h.2), goodLines]

lemma overlong_line {l : Bytes} (h : Good limit l) (s : Bytes) :
    overlong limit (l ++ 10 :: s) = overlong limit s := by
  rw [overlong, lines_line h.1, List.any_cons, decide_eq_false (by have := h.2; omega), Bool.false_or, overlong]

lemma goodLines_long {l : Bytes} (hline : 10 ∉ l) (hlong : limit < l.length) (s : Bytes) :
    goodLines limit (l ++ 10 :: s) = [] := by
  rw [goodLines, lines_line hline, List.dropLast_cons_of_ne_nil (lines_ne_nil s),
    List.takeWhile_cons_of_neg (by simpa using hlong)]

lemma overlong_long {l : Bytes} (hline : 10 ∉ l) (hlong : limit < l.length) (s : Bytes) :
    overlong limit (l ++ 10 :: s) = true := by
  rw [overlong, lines_line hline, List.any_cons, decide_eq_true hlong, Bool.true_or]

/-! ### Several lines -/

lemma goodLines_joined {ls : List Bytes} (h : ∀ l ∈ ls, Good limit l) (s : Bytes) :
    goodLines limit (joined ls ++ s) = ls ++ goodLines limit s := by
  induction ls with
  | nil => rfl
  | cons l ls ih =>
    rw [joined_cons, List.append_assoc, List.cons_append, goodLines_line (h l List.mem_cons_self),
      ih fun l hl => h l (List.mem_cons_of_mem _ hl), List.cons_append]

lemma overlong_joined {ls : List Bytes} (h : ∀ l ∈ ls, Good limit l) (s : Bytes) :
    overlong limit (joined ls ++ s) = overlong limit s := by
  induction ls with
  | nil => rfl
  | cons l ls ih =>
    rw [joined_cons, List.append_assoc, List.cons_append, overlong_line (h l List.mem_cons_self),
      ih fun l hl => h l (List.mem_cons_of_mem _ hl)]

/-- **A stream is its lines and what is behind them.**

**Proof sketch.** By induction on the length: the first line is read, or is too long. -/
theorem exists_eq_joined (limit : ℕ) (s : Bytes) :
    ∃ ls rest, s = joined ls ++ rest ∧ (∀ l ∈ ls, Good limit l) ∧ goodLines limit rest = [] := by
  induction hn : s.length using Nat.strong_induction_on generalizing s with
  | _ n ih =>
    by_cases hmem : 10 ∈ s
    · obtain ⟨l, s', rfl, hl⟩ := List.eq_append_cons_of_mem hmem
      by_cases hlong : limit < l.length
      · exact ⟨[], _, rfl, fun _ h => absurd h List.not_mem_nil, goodLines_long hl hlong s'⟩
      · obtain ⟨ls, rest, rfl, hls, hrest⟩ := ih s'.length
          (by rw [← hn, List.length_append, List.length_cons]; omega) s' rfl
        refine ⟨l :: ls, rest, ?_, List.forall_mem_cons.2 ⟨⟨hl, by omega⟩, hls⟩, hrest⟩
        rw [joined_cons, List.append_assoc, List.cons_append]
    · exact ⟨[], s, rfl, fun _ h => absurd h List.not_mem_nil, goodLines_of_not_mem hmem⟩

/-- The lines that were read, from what is left. -/
lemma eq_goodLines {ls : List Bytes} {rest : Bytes} (h : ∀ l ∈ ls, Good limit l)
    (hrest : goodLines limit rest = []) :
    goodLines limit (joined ls ++ rest) = ls ∧ unread limit (joined ls ++ rest) = rest := by
  have hls : goodLines limit (joined ls ++ rest) = ls := by
    rw [goodLines_joined h, hrest, List.append_nil]
  exact ⟨hls, by rw [unread, hls, List.drop_left]⟩

lemma good_of_mem_goodLines {s l : Bytes} (h : l ∈ goodLines limit s) : Good limit l := by
  obtain ⟨ls, rest, rfl, hls, hrest⟩ := exists_eq_joined limit s
  rw [(eq_goodLines hls hrest).1] at h
  exact hls l h

/-- **A stream is its lines and what is behind them.** -/
theorem joined_goodLines_append (limit : ℕ) (s : Bytes) :
    joined (goodLines limit s) ++ unread limit s = s := by
  obtain ⟨ls, rest, rfl, hls, hrest⟩ := exists_eq_joined limit s
  rw [(eq_goodLines hls hrest).1, (eq_goodLines hls hrest).2]

lemma goodLines_unread (limit : ℕ) (s : Bytes) : goodLines limit (unread limit s) = [] := by
  obtain ⟨ls, rest, rfl, hls, hrest⟩ := exists_eq_joined limit s
  rw [(eq_goodLines hls hrest).2, hrest]

/-- **Reading in two parts.** The lines are those of the first part, and those of what it leaves with the
second. -/
theorem goodLines_append (s t : Bytes) :
    goodLines limit (s ++ t) = goodLines limit s ++ goodLines limit (unread limit s ++ t) := by
  rw [← goodLines_joined (fun _ => good_of_mem_goodLines) (unread limit s ++ t), ← List.append_assoc,
    joined_goodLines_append]

lemma unread_joined {ls : List Bytes} (h : ∀ l ∈ ls, Good limit l) (s : Bytes) :
    unread limit (joined ls ++ s) = unread limit s := by
  obtain ⟨ls', rest, rfl, hls', hrest⟩ := exists_eq_joined limit s
  rw [(eq_goodLines hls' hrest).2, ← List.append_assoc, ← joined_append]
  exact (eq_goodLines (List.forall_mem_append.2 ⟨h, hls'⟩) hrest).2

lemma unread_append (s t : Bytes) : unread limit (s ++ t) = unread limit (unread limit s ++ t) := by
  have hsplit : s ++ t = joined (goodLines limit s) ++ (unread limit s ++ t) := by
    rw [← List.append_assoc, joined_goodLines_append]
  rw [hsplit, unread_joined fun _ => good_of_mem_goodLines]

lemma overlong_append (s t : Bytes) : overlong limit (s ++ t) = overlong limit (unread limit s ++ t) := by
  have hsplit : s ++ t = joined (goodLines limit s) ++ (unread limit s ++ t) := by
    rw [← List.append_assoc, joined_goodLines_append]
  rw [hsplit, overlong_joined fun _ => good_of_mem_goodLines]

end Framing
