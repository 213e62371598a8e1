import Mathlib.Data.List.Forall2
import Mathlib.Data.String.Basic
import Proxor.Lib.CommandLine

set_option relaxedAutoImplicit false
set_option autoImplicit false

/-!
# The administrator command

The helper is installed by a command that runs as root: each of its words is quoted for the shell, and the
command line and the prompt are literals of an AppleScript.

## Main definitions

* `Proxor.Sys.macShellQuote`, `Proxor.Sys.macAdminAppleScript`.
* `Proxor.Sys.readScript` — the language: `do shell script` with two literals.

## Main results

* `Proxor.Sys.readScript_macAdminAppleScript` — the script runs exactly the command and shows exactly the
  prompt.
-/

namespace Proxor.Sys

open CommandLine

/-! ### The program -/

/-- `MacShellQuote`. -/
def macShellQuote (value : String) : String :=
  "'" ++ String.ofList (substitute '\'' "'\"'\"'".toList value.toList) ++ "'"

/-- The text of an AppleScript literal: backslashes are escaped first, then quotation marks. -/
def literalText (text : String) : String :=
  String.ofList (substitute '"' "\\\"".toList (substitute '\\' "\\\\".toList text.toList))

/-- `MacAdminAppleScript`. -/
def macAdminAppleScript (program : String) (args : List String) (prompt : String) : String :=
  let command := " ".intercalate ((program :: args).map macShellQuote)
  let withPrompt := if prompt = "" then "" else " with prompt \"" ++ literalText prompt ++ "\""
  "do shell script \"" ++ literalText command ++ "\"" ++ withPrompt ++
    " with administrator privileges"

/-! ### The language -/

/-- A literal up to its closing quotation mark, and what follows it: a backslash escapes a backslash or a
quotation mark, and nothing else. -/
def readLiteral : List Char → Option (List Char × List Char)
  | [] => none
  | '"' :: rest => some ([], rest)
  | '\\' :: '\\' :: rest => (readLiteral rest).map fun p => ('\\' :: p.1, p.2)
  | '\\' :: '"' :: rest => (readLiteral rest).map fun p => ('"' :: p.1, p.2)
  | '\\' :: _ => none
  | c :: rest => (readLiteral rest).map fun p => (c :: p.1, p.2)

/-- What follows a text that is expected. -/
def expect (expected text : List Char) : Option (List Char) :=
  if expected.isPrefixOf text then some (text.drop expected.length) else none

/-- The words at the end of a script. -/
def privileges : List Char := " with administrator privileges".toList

/-- A script: the command line and the prompt. -/
structure Script where
  command : List Char
  prompt : Option (List Char)

/-- A script that is `do shell script`, a literal, maybe `with prompt` and another one, and
`with administrator privileges`. -/
def readScript (text : List Char) : Option Script := do
  let text ← expect "do shell script \"".toList text
  let (command, text) ← readLiteral text
  if text = privileges then return ⟨command, none⟩
  let text ← expect " with prompt \"".toList text
  let (prompt, text) ← readLiteral text
  if text = privileges then return ⟨command, some prompt⟩ else none

lemma expect_append (expected rest : List Char) : expect expected (expected ++ rest) = some rest := by
  rw [expect, if_pos (List.isPrefixOf_iff_prefix.2 (List.prefix_append _ _)), List.drop_left]

/-- A character that is neither a quotation mark nor a backslash stands for itself. -/
lemma readLiteral_cons {c : Char} (hquote : c ≠ '"') (hback : c ≠ '\\') (rest : List Char) :
    readLiteral (c :: rest) = (readLiteral rest).map fun p => (c :: p.1, p.2) := by
  rw [readLiteral.eq_def]
  split
  · next h => cases h
  · next h => exact absurd (List.cons.inj h).1 hquote
  · next h => exact absurd (List.cons.inj h).1 hback
  · next h => exact absurd (List.cons.inj h).1 hback
  · next h => exact absurd (List.cons.inj h).1 hback
  · next h =>
    obtain ⟨rfl, rfl⟩ := List.cons.inj h
    rfl

/-- The text of a literal is read back.

**Proof sketch.** Induction on the text. A quotation mark becomes one behind a backslash, and a backslash
becomes two of them, which the second replacement leaves alone. -/
lemma readLiteral_literalText (text : String) (rest : List Char) :
    readLiteral ((literalText text).toList ++ '"' :: rest) = some (text.toList, rest) := by
  rw [literalText, String.toList_ofList]
  induction text.toList with
  | nil => rfl
  | cons c cs ih =>
    by_cases hback : c = '\\'
    · subst hback
      rw [substitute_cons_self]
      exact congrArg (Option.map fun p => ('\\' :: p.1, p.2)) ih
    · rw [substitute_cons_of_ne _ hback]
      by_cases hquote : c = '"'
      · subst hquote
        rw [substitute_cons_self]
        exact congrArg (Option.map fun p => ('"' :: p.1, p.2)) ih
      · rw [substitute_cons_of_ne _ hquote, List.cons_append, readLiteral_cons hquote hback, ih]
        rfl

/-! ### The shell words -/

/-- A quoted word is read as one word, all of it quoted.

**Proof sketch.** Within single quotes every character but `'` stands for itself. That one ends them,
follows in double quotes, and single quotes begin again, all within the same word. -/
lemma reads_macShellQuote (value : String) :
    Shell.Reads (macShellQuote value).toList (Shell.quoted value.toList) := by
  intro words
  have hbody : ∀ (cs : List Char) (current : Shell.Word),
      (substitute '\'' "'\"'\"'".toList cs ++ ['\'']).foldlM Shell.step ⟨words, current, .single⟩ =
        some ⟨words, current ++ Shell.quoted cs, .word⟩ := by
    intro cs
    induction cs with
    | nil =>
      intro current
      rw [Shell.quoted, List.map_nil, List.append_nil]
      rfl
    | cons c cs ih =>
      intro current
      have hsplit : current ++ Shell.quoted (c :: cs) = current ++ [(c, true)] ++ Shell.quoted cs := by
        rw [List.append_assoc]
        rfl
      rw [hsplit, ← ih]
      by_cases hc : c = '\''
      · subst hc
        rw [substitute_cons_self]
        rfl
      · rw [substitute_cons_of_ne _ hc, List.cons_append, List.foldlM_cons, Shell.step]
        exact congrArg (· >>= _) (if_neg hc)
  have hquote : (macShellQuote value).toList =
      '\'' :: (substitute '\'' "'\"'\"'".toList value.toList ++ ['\'']) := by
    simp only [macShellQuote, String.toList_append, String.toList_ofList]
    rfl
  rw [hquote, List.foldlM_cons]
  exact hbody value.toList []

lemma toList_intercalate (s : String) : ∀ l : List String,
    (" ".intercalate (s :: l)).toList = s.toList ++ l.flatMap fun t => ' ' :: t.toList := by
  intro l
  induction l generalizing s with
  | nil => rw [String.intercalate_singleton, List.flatMap_nil, List.append_nil]
  | cons t l ih =>
    rw [String.intercalate_cons_cons, String.toList_append, String.toList_append, ih,
      List.flatMap_cons, List.append_assoc]
    rfl

/-- **The script.** It runs exactly the program with exactly the arguments, every character of which is
quoted, and shows exactly the prompt, if there is one. -/
theorem readScript_macAdminAppleScript (program : String) (args : List String) (prompt : String) :
    ∃ command, readScript (macAdminAppleScript program args prompt).toList =
        some ⟨command, if prompt = "" then none else some prompt.toList⟩ ∧
      Shell.split command = some ((program :: args).map fun word => Shell.quoted word.toList) := by
  refine ⟨(" ".intercalate ((program :: args).map macShellQuote)).toList, ?_, ?_⟩
  · unfold macAdminAppleScript
    generalize " ".intercalate ((program :: args).map macShellQuote) = command
    by_cases hprompt : prompt = ""
    · have htext : ("do shell script \"" ++ literalText command ++ "\"" ++ "" ++
          " with administrator privileges").toList =
          "do shell script \"".toList ++ ((literalText command).toList ++ '"' :: privileges) := by
        simp only [String.toList_append, List.append_assoc]
        rfl
      dsimp only
      rw [if_pos hprompt, if_pos hprompt, htext, readScript, expect_append]
      dsimp only [bind, Option.bind]
      rw [readLiteral_literalText]
      exact if_pos rfl
    · have htext : ("do shell script \"" ++ literalText command ++ "\"" ++
          (" with prompt \"" ++ literalText prompt ++ "\"") ++ " with administrator privileges").toList =
          "do shell script \"".toList ++ ((literalText command).toList ++ '"' ::
            (" with prompt \"".toList ++ ((literalText prompt).toList ++ '"' :: privileges))) := by
        simp only [String.toList_append, List.append_assoc]
        rfl
      have hmore : " with prompt \"".toList ++ ((literalText prompt).toList ++ '"' :: privileges) ≠
          privileges := by
        have hlength : privileges.length < (" with prompt \"".toList ++
            ((literalText prompt).toList ++ '"' :: privileges)).length := by
          simp only [List.length_append, List.length_cons]
          omega
        exact fun h => absurd hlength (by rw [h]; exact lt_irrefl _)
      dsimp only
      rw [if_neg hprompt, if_neg hprompt, htext, readScript, expect_append]
      dsimp only [bind, Option.bind]
      rw [readLiteral_literalText]
      dsimp only
      rw [if_neg hmore, expect_append]
      dsimp only
      rw [readLiteral_literalText]
      exact if_pos rfl
  · have hargs : List.Forall₂ Shell.Reads (args.map fun arg => (macShellQuote arg).toList)
        (args.map fun arg => Shell.quoted arg.toList) := by
      rw [List.forall₂_map_left_iff, List.forall₂_map_right_iff]
      exact List.forall₂_same.2 fun arg _ => reads_macShellQuote arg
    rw [List.map_cons, toList_intercalate, List.flatMap_map, List.map_cons,
      ← Shell.split_flatMap (reads_macShellQuote program) hargs, List.flatMap_map]

end Proxor.Sys
