import Mathlib.Data.List.Basic
import Mathlib.Data.Nat.Notation
import Mathlib.Tactic.Lemma

set_option relaxedAutoImplicit false
set_option autoImplicit false

/-!
# Command lines

How a POSIX shell and a Windows program split a command line into words. Both read it character by
character, quotation marks changing what the next characters mean.

## Main definitions

* `CommandLine.substitute` — a character replaced by a text.
* `CommandLine.Shell.split` — the words of a simple command, each character with whether it is quoted.
* `CommandLine.Argv.split` — the arguments of a Windows command line.

## Main results

* `CommandLine.Shell.split_flatMap`, `CommandLine.Argv.split_flatMap` — a command line of parts,
  each of which is read as one word.
-/

namespace CommandLine

/-- Each occurrence of `c` replaced by a text. -/
def substitute (c : Char) (by' : List Char) (text : List Char) : List Char :=
  text.flatMap fun d => if d = c then by' else [d]

section Substitute

variable (c : Char) (by' : List Char)

@[simp] lemma substitute_cons_self (text : List Char) :
    substitute c by' (c :: text) = by' ++ substitute c by' text := by
  rw [substitute, List.flatMap_cons, if_pos rfl, substitute]

variable {c}

lemma substitute_cons_of_ne {d : Char} (h : d ≠ c) (text : List Char) :
    substitute c by' (d :: text) = d :: substitute c by' text := by
  rw [substitute, List.flatMap_cons, if_neg h, substitute, List.singleton_append]

end Substitute

/-! ### The shell -/

namespace Shell

/-- A word: its characters, and which of them are quoted. -/
abbrev Word : Type := List (Char × Bool)

/-- A word all of which is quoted, so that nothing in it has a meaning to the shell. -/
def quoted (text : List Char) : Word := text.map fun c => (c, true)

/-- Where the reader is. -/
inductive Mode
  | between
  | word
  | escape
  | single
  | double
  | doubleEscape
  deriving DecidableEq

/-- The words that were read, the one that is being read, and where the reader is. -/
structure State where
  words : List Word
  current : Word
  mode : Mode

namespace State

/-- One more character of the current word. -/
def push (s : State) (c : Char) (quoted : Bool) (mode : Mode) : State :=
  { s with current := s.current ++ [(c, quoted)], mode := mode }

/-- The reader goes on elsewhere. -/
def goto (s : State) (mode : Mode) : State := { s with mode := mode }

/-- The current word has ended. -/
def close (s : State) : State := ⟨s.words ++ [s.current], [], .between⟩

end State

/-- Characters that are operators, expansions or patterns, unless they are quoted. -/
def special : List Char :=
  ['\n', '|', '&', ';', '<', '>', '(', ')', '$', '\x60', '*', '?', '[', '#', '~', '=', '%', '!', '{', '}']

/-- An unquoted character: `none` where it is more than a part of a word. -/
def unquoted (s : State) (c : Char) : Option State :=
  if c = '\'' then some (s.goto .single)
  else if c = '"' then some (s.goto .double)
  else if c = '\\' then some (s.goto .escape)
  else if c ∈ special then none
  else some (s.push c false .word)

/-- What a character does: `none` where the text is no simple command without expansions. -/
def step (s : State) (c : Char) : Option State :=
  match s.mode with
  | .between => if c = ' ' ∨ c = '\t' then some s else unquoted s c
  | .word => if c = ' ' ∨ c = '\t' then some s.close else unquoted s c
  | .escape => if c = '\n' then none else some (s.push c true .word)
  | .single => if c = '\'' then some (s.goto .word) else some (s.push c true .single)
  | .double =>
    if c = '"' then some (s.goto .word)
    else if c = '\\' then some (s.goto .doubleEscape)
    else if c = '$' ∨ c = '\x60' then none
    else some (s.push c true .double)
  | .doubleEscape =>
    if c = '\n' then some (s.goto .double)
    else if c = '$' ∨ c = '\x60' ∨ c = '"' ∨ c = '\\' then some (s.push c true .double)
    else some ((s.push '\\' true .double).push c true .double)

/-- The words at the end of the text: `none` within a quotation. -/
def finish (s : State) : Option (List Word) :=
  match s.mode with
  | .between => some s.words
  | .word => some (s.words ++ [s.current])
  | _ => none

/-- The words of a simple command without expansions; `none` for any other text. -/
def split (text : List Char) : Option (List Word) :=
  (text.foldlM step ⟨[], [], .between⟩).bind finish

/-- A text that is read as one word. -/
def Reads (text : List Char) (w : Word) : Prop :=
  ∀ words, text.foldlM step ⟨words, [], .between⟩ = some ⟨words, w, .word⟩

/-- Parts that are each read as one word. -/
lemma foldlM_flatMap {text : List Char} {w : Word} {texts : List (List Char)} {ws : List Word}
    (h : Reads text w) (hs : List.Forall₂ Reads texts ws) : ∀ words,
      ∃ s, (text ++ texts.flatMap (' ' :: ·)).foldlM step ⟨words, [], .between⟩ = some s ∧
        finish s = some (words ++ w :: ws) := by
  induction hs generalizing text w with
  | nil =>
    intro words
    refine ⟨⟨words, w, .word⟩, ?_, rfl⟩
    rw [List.flatMap_nil, List.append_nil]
    exact h words
  | cons hhead _ ih =>
    intro words
    obtain ⟨s, hs, hfinish⟩ := ih hhead (words ++ [w])
    refine ⟨s, ?_, ?_⟩
    · rw [List.flatMap_cons, List.foldlM_append, h words]
      exact hs
    · rw [hfinish, List.append_assoc, List.singleton_append]

/-- **Parts between spaces**, each of which is read as one word. -/
theorem split_flatMap {text : List Char} {w : Word} {texts : List (List Char)} {ws : List Word}
    (h : Reads text w) (hs : List.Forall₂ Reads texts ws) :
    split (text ++ texts.flatMap (' ' :: ·)) = some (w :: ws) := by
  obtain ⟨s, hs, hfinish⟩ := foldlM_flatMap h hs []
  rw [split, hs]
  exact hfinish

end Shell

/-! ### Windows -/

namespace Argv

/-- The arguments that were read, what is read of the next one, whether one has begun, whether the reader
is in quotes, and the backslashes it has just passed. -/
structure State where
  args : List (List Char)
  current : List Char
  begun : Bool
  inQuotes : Bool
  backslashes : ℕ

namespace State

/-- The reader between two arguments. -/
def start (args : List (List Char)) : State := ⟨args, [], false, false, 0⟩

/-- What is read of the argument, with the backslashes. -/
def text (s : State) : List Char := s.current ++ List.replicate s.backslashes '\\'

/-- The argument goes on. -/
def go (s : State) (current : List Char) (inQuotes : Bool) : State := ⟨s.args, current, true, inQuotes, 0⟩

/-- The current argument has ended, if one has begun. -/
def close (s : State) : State := if s.begun then start (s.args ++ [s.text]) else s

end State

/-- What a character does. Backslashes are ordinary but before a quotation mark, where two of them make
one: after an even number of them it begins or ends quotes, after an odd number it is ordinary. -/
def step (s : State) (c : Char) : State :=
  if c = '\\' then { s with begun := true, backslashes := s.backslashes + 1 }
  else if c = '"' then
    let current := s.current ++ List.replicate (s.backslashes / 2) '\\'
    if s.backslashes % 2 = 0 then s.go current (!s.inQuotes) else s.go (current ++ ['"']) s.inQuotes
  else if s.inQuotes = false ∧ (c = ' ' ∨ c = '\t') then s.close
  else s.go (s.text ++ [c]) s.inQuotes

/-- The arguments of a command line. -/
def split (text : List Char) : List (List Char) := (text.foldl step (.start [])).close.args

/-- The reader outside of quotes, with an argument. -/
structure Holds (args : List (List Char)) (arg : List Char) (s : State) : Prop where
  args : s.args = args
  text : s.text = arg
  begun : s.begun = true
  outside : s.inQuotes = false

/-- A text that is read as one argument. -/
def Reads (text arg : List Char) : Prop := ∀ args, Holds args arg (text.foldl step (.start args))

lemma Holds.close {args : List (List Char)} {arg : List Char} {s : State} (h : Holds args arg s) :
    s.close = .start (args ++ [arg]) := by
  rw [State.close, if_pos h.begun, h.args, h.text]

lemma Holds.space {args : List (List Char)} {arg : List Char} {s : State} (h : Holds args arg s) :
    step s ' ' = .start (args ++ [arg]) := by
  rw [step, if_neg (by decide), if_neg (by decide), if_pos ⟨h.outside, .inl rfl⟩, h.close]

/-- Parts that are each read as one argument. -/
lemma foldl_flatMap {text arg : List Char} {texts args : List (List Char)} (h : Reads text arg)
    (hs : List.Forall₂ Reads texts args) : ∀ before,
      ((text ++ texts.flatMap (' ' :: ·)).foldl step (.start before)).close.args =
        before ++ arg :: args := by
  induction hs generalizing text arg with
  | nil =>
    intro before
    rw [List.flatMap_nil, List.append_nil, (h before).close, State.start]
  | cons hhead _ ih =>
    intro before
    rw [List.flatMap_cons, List.foldl_append, List.cons_append, List.foldl_cons, (h before).space,
      ih hhead, List.append_assoc, List.singleton_append]

/-- **Parts between spaces**, each of which is read as one argument. -/
theorem split_flatMap {text arg : List Char} {texts args : List (List Char)} (h : Reads text arg)
    (hs : List.Forall₂ Reads texts args) :
    split (text ++ texts.flatMap (' ' :: ·)) = arg :: args := by
  rw [split, foldl_flatMap h hs, List.nil_append]

/-- Backslashes are counted. -/
lemma foldl_backslashes (n : ℕ) : ∀ s : State, s.begun = true →
    (List.replicate n '\\').foldl step s = { s with backslashes := s.backslashes + n } := by
  induction n with
  | zero => exact fun _ _ => rfl
  | succ n ih =>
    intro s hs
    rw [List.replicate_succ, List.foldl_cons, step, if_pos rfl, ih _ rfl]
    simp only [Nat.add_assoc, Nat.add_comm 1 n, hs]

/-- Backslashes after backslashes. -/
lemma text_backslashes (s : State) (n : ℕ) :
    State.text { s with backslashes := s.backslashes + n } = s.text ++ List.replicate n '\\' := by
  simp only [State.text, List.append_assoc, List.replicate_add]

/-- A character without a meaning of its own. -/
lemma step_plain {s : State} {c : Char} (hquote : c ≠ '"')
    (hblank : s.inQuotes = true ∨ (c ≠ ' ' ∧ c ≠ '\t')) :
    (step s c).args = s.args ∧ (step s c).text = s.text ++ [c] ∧ (step s c).begun = true ∧
      (step s c).inQuotes = s.inQuotes := by
  unfold step
  by_cases hback : c = '\\'
  · rw [if_pos hback, hback]
    exact ⟨rfl, text_backslashes s 1, rfl, rfl⟩
  · have hstay : ¬ (s.inQuotes = false ∧ (c = ' ' ∨ c = '\t')) := by
      rintro ⟨hout, hc⟩
      rcases hblank with hin | ⟨hspace, htab⟩
      · cases hin.symm.trans hout
      · exact hc.elim hspace htab
    rw [if_neg hback, if_neg hquote, if_neg hstay]
    exact ⟨rfl, List.append_nil _, rfl, rfl⟩

/-- A text without quotation marks and blanks is read as it is. -/
lemma reads_plain {arg : List Char} (hne : arg ≠ []) (hquote : '"' ∉ arg)
    (hblank : ' ' ∉ arg ∧ '\t' ∉ arg) : Reads arg arg := by
  intro args
  -- what was read so far, after each character
  have hread : ∀ (cs before : List Char) (s : State), '"' ∉ cs → ' ' ∉ cs → '\t' ∉ cs →
      Holds args before s → Holds args (before ++ cs) (cs.foldl step s) := by
    intro cs
    induction cs with
    | nil =>
      intro before s _ _ _ h
      rwa [List.append_nil]
    | cons c cs ih =>
      intro before s hq hs ht h
      rw [List.mem_cons, not_or] at hq hs ht
      obtain ⟨hargs, htext, hbegun, hout⟩ := step_plain (s := s) (Ne.symm hq.1)
        (.inr ⟨Ne.symm hs.1, Ne.symm ht.1⟩)
      rw [← List.singleton_append, ← List.append_assoc]
      exact ih _ _ hq.2 hs.2 ht.2 ⟨hargs.trans h.args, by rw [htext, h.text], hbegun, hout.trans h.outside⟩
  obtain ⟨c, cs, rfl⟩ := List.exists_cons_of_ne_nil hne
  rw [List.mem_cons, not_or] at hquote
  have hspace := hblank.1
  have htab := hblank.2
  rw [List.mem_cons, not_or] at hspace htab
  obtain ⟨hargs, htext, hbegun, hout⟩ := step_plain (s := .start args) (Ne.symm hquote.1)
    (.inr ⟨Ne.symm hspace.1, Ne.symm htab.1⟩)
  exact hread cs [c] _ hquote.2 hspace.2 htab.2 ⟨hargs, htext, hbegun, hout⟩

/-- An even number of backslashes before a quotation mark. -/
lemma step_quote_even {s : State} (n : ℕ) (h : s.backslashes = 2 * n) :
    step s '"' = s.go (s.current ++ List.replicate n '\\') (!s.inQuotes) := by
  rw [step, if_neg (by decide), if_pos rfl, h]
  simp

/-- An odd number of backslashes before a quotation mark. -/
lemma step_quote_odd {s : State} (n : ℕ) (h : s.backslashes = 2 * n + 1) :
    step s '"' = s.go (s.current ++ List.replicate n '\\' ++ ['"']) s.inQuotes := by
  have hdiv : (2 * n + 1) / 2 = n := by omega
  rw [step, if_neg (by decide), if_pos rfl, h, hdiv]
  exact if_neg (by omega)

end Argv

end CommandLine
