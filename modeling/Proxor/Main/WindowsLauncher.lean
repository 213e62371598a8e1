import Mathlib.Data.List.Forall2
import Mathlib.Data.String.Basic
import Proxor.Lib.CommandLine

set_option relaxedAutoImplicit false
set_option autoImplicit false

/-!
# The Windows launcher

The launcher starts the program with the arguments it was started with, which it has to put into one
command line.

## Main definitions

* `Proxor.quoteArgument`, `Proxor.buildForwardedCommandLine`.

## Main results

* `Proxor.split_buildForwardedCommandLine` — the program reads the arguments the launcher has read.
-/

namespace Proxor

open CommandLine CommandLine.Argv

/-- The loop of `QuoteArgument`, which holds back backslashes: what it appends from some character on. -/
def quoteLoop : (backslashes : ℕ) → List Char → List Char
  | backslashes, [] => List.replicate (backslashes * 2) '\\' ++ ['"']
  | backslashes, c :: cs =>
    if c = '\\' then quoteLoop (backslashes + 1) cs
    else if c = '"' then List.replicate (backslashes * 2 + 1) '\\' ++ '"' :: quoteLoop 0 cs
    else List.replicate backslashes '\\' ++ c :: quoteLoop 0 cs

/-- `QuoteArgument`. -/
def quoteArgument (arg : String) : String :=
  if arg = "" then "\"\""
  else
    let needsQuotes := arg.toList.any fun c => c = ' ' ∨ c = '\t' ∨ c = '"'
    if needsQuotes then String.ofList ('"' :: quoteLoop 0 arg.toList) else arg

/-- `BuildForwardedCommandLine`, with what `CommandLineToArgvW` has returned for the launcher's own
command line, if it has not failed. -/
def buildForwardedCommandLine (programPath : String) (argv : Option (List String)) : String :=
  match argv with
  | none => quoteArgument programPath
  | some argv => (argv.drop 1).foldl (fun line arg => line ++ " " ++ quoteArgument arg)
      (quoteArgument programPath)

/-- What the loop appends closes the quotes, with the rest of the argument read.

**Proof sketch.** Induction on the rest. The backslashes that are held back are doubled where a quotation
mark follows them, the closing one included; elsewhere they are read as they are. -/
lemma holds_quoteLoop {args : List (List Char)} (cs : List Char) : ∀ (backslashes : ℕ) (s : State),
    s.args = args → s.begun = true → s.inQuotes = true → s.backslashes = 0 →
      Holds args (s.current ++ List.replicate backslashes '\\' ++ cs)
        ((quoteLoop backslashes cs).foldl step s) := by
  induction cs with
  | nil =>
    intro n s hargs hbegun hin hzero
    have hcount : s.backslashes + n * 2 = 2 * n := by omega
    rw [quoteLoop, List.foldl_append, foldl_backslashes _ s hbegun, List.foldl_cons, List.foldl_nil,
      step_quote_even n hcount]
    refine ⟨hargs, ?_, rfl, by simp only [State.go, hin, Bool.not_true]⟩
    simp [State.text, State.go]
  | cons c cs ih =>
    intro n s hargs hbegun hin hzero
    rw [quoteLoop]
    by_cases hback : c = '\\'
    · subst hback
      rw [if_pos rfl]
      have hread := ih (n + 1) s hargs hbegun hin hzero
      rwa [List.replicate_succ', ← List.append_assoc, List.append_assoc,
        List.singleton_append] at hread
    · rw [if_neg hback]
      by_cases hquote : c = '"'
      · subst hquote
        have hcount : s.backslashes + (n * 2 + 1) = 2 * n + 1 := by omega
        rw [if_pos rfl, List.foldl_append, foldl_backslashes _ s hbegun, List.foldl_cons,
          step_quote_odd n hcount]
        have hread := ih 0 (s.go (s.current ++ List.replicate n '\\' ++ ['"']) s.inQuotes) hargs rfl hin rfl
        rwa [List.replicate_zero, List.append_nil, State.go, List.append_assoc,
          List.singleton_append] at hread
      · rw [if_neg hquote, List.foldl_append, foldl_backslashes _ s hbegun, List.foldl_cons]
        have hplain : step { s with backslashes := s.backslashes + n } c =
            s.go (s.current ++ List.replicate n '\\' ++ [c]) s.inQuotes := by
          have hstay : ¬ (s.inQuotes = false ∧ (c = ' ' ∨ c = '\t')) := by simp [hin]
          rw [step, if_neg hback, if_neg hquote, if_neg hstay]
          simp [State.go, State.text, hzero]
        rw [hplain]
        have hread := ih 0 (s.go (s.current ++ List.replicate n '\\' ++ [c]) s.inQuotes) hargs rfl hin rfl
        rwa [List.replicate_zero, List.append_nil, State.go, List.append_assoc,
          List.singleton_append] at hread

/-- A quoted argument is read as it was. -/
lemma reads_quoteArgument (arg : String) : Reads (quoteArgument arg).toList arg.toList := by
  have hopen : ∀ args, step (.start args) '"' = (State.start args).go [] true := fun args =>
    step_quote_even 0 rfl
  unfold quoteArgument
  dsimp only
  split_ifs with hempty hneeds
  · intro args
    have hread : "\"\"".toList.foldl step (.start args) =
        step ((State.start args).go [] true) '"' := by
      rw [← hopen args]
      rfl
    rw [hempty, hread, step_quote_even 0 rfl]
    exact ⟨rfl, rfl, rfl, rfl⟩
  · intro args
    rw [String.toList_ofList, List.foldl_cons, hopen]
    exact holds_quoteLoop arg.toList 0 ((State.start args).go [] true) rfl rfl rfl rfl
  · rw [Bool.not_eq_true, List.any_eq_false] at hneeds
    have hne : arg.toList ≠ [] := fun h => hempty (String.toList_eq_nil_iff.1 h)
    refine reads_plain hne (fun h => ?_) ⟨fun h => ?_, fun h => ?_⟩ <;>
      exact absurd (hneeds _ h) (by simp)

lemma toList_foldl_quoteArgument (args : List String) : ∀ line : String,
    (args.foldl (fun line arg => line ++ " " ++ quoteArgument arg) line).toList =
      line.toList ++ args.flatMap fun arg => ' ' :: (quoteArgument arg).toList := by
  induction args with
  | nil =>
    intro line
    rw [List.flatMap_nil, List.append_nil, List.foldl_nil]
  | cons arg args ih =>
    intro line
    rw [List.foldl_cons, ih, String.toList_append, String.toList_append, List.flatMap_cons,
      List.append_assoc, List.append_assoc]
    rfl

/-- **Forwarding.** The command line is split into the path of the program and the arguments after the
launcher's own name. -/
theorem split_buildForwardedCommandLine (programPath : String) (argv : Option (List String)) :
    Argv.split (buildForwardedCommandLine programPath argv).toList =
      programPath.toList :: ((argv.getD []).drop 1).map String.toList := by
  have hargs : ∀ args : List String, List.Forall₂ Reads (args.map fun arg => (quoteArgument arg).toList)
      (args.map String.toList) := by
    intro args
    rw [List.forall₂_map_left_iff, List.forall₂_map_right_iff]
    exact List.forall₂_same.2 fun arg _ => reads_quoteArgument arg
  have hsplit : ∀ args : List String, Argv.split ((quoteArgument programPath).toList ++
      args.flatMap fun arg => ' ' :: (quoteArgument arg).toList) =
        programPath.toList :: args.map String.toList := by
    intro args
    rw [← split_flatMap (reads_quoteArgument programPath) (hargs args), List.flatMap_map]
  cases argv with
  | none =>
    have hnone := hsplit []
    rwa [List.flatMap_nil, List.append_nil] at hnone
  | some argv =>
    rw [buildForwardedCommandLine, toList_foldl_quoteArgument]
    exact hsplit (argv.drop 1)

end Proxor
