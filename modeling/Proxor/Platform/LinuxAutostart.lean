import Mathlib.Data.List.Basic
import Mathlib.Data.String.Basic
import Proxor.Lib.CommandLine
import Proxor.Lib.Escape
import Proxor.Lib.Text

set_option relaxedAutoImplicit false
set_option autoImplicit false

/-!
# The autostart entry of Linux

The entry is a text of lines, one of which has the command: every argument in double quotes, with a
backslash before a backslash or a double quote. An entry that an older version has written is read back,
compared with the command of this one and repaired.

## Main definitions

* `Proxor.Platform.quote`, `Proxor.Platform.execLine` — the command as it is written.
* `Proxor.Platform.linuxAutostartDesktopEntry`, `Proxor.Platform.replaceDesktopEntryExec` — the entry.
* `Proxor.Platform.splitExec`, `Proxor.Platform.parseDesktopEntryExec` — the command as it is read.
* `Proxor.Platform.shouldRefreshAutostart`.

## Main results

* `Proxor.Platform.splitExec_execLine` — the command is found again.
* `Proxor.Platform.autostart_round_trip` — in a new entry and in one that is repaired.
-/

namespace Proxor.Platform

open Text CommandLine

/-! ### Writing -/

/-- `Quote`: the two replacements one after the other. -/
def quote (value : String) : String :=
  "\"" ++ String.ofList (substitute '"' ['\\', '"'] (substitute '\\' ['\\', '\\'] value.toList)) ++ "\""

/-- `ExecLine`. -/
def execLine (command : List String) : String := " ".intercalate (command.map quote)

/-- `LinuxAutostartDesktopEntry`: every line with a newline behind it. -/
def linuxAutostartDesktopEntry (appName : String) (command : List String) : String :=
  unlines
    ["[Desktop Entry]", "Name=" ++ appName, "Exec=" ++ execLine command, "Terminal=false",
      "Categories=Network", "Type=Application", "StartupNotify=false", "X-GNOME-Autostart-enabled=true"]

/-- The loop of `ReplaceDesktopEntryExec` over the lines. -/
def replaceExec (command : List String) : List String → List String
  | [] => []
  | line :: lines =>
    if hasPrefix line "Exec=" then ("Exec=" ++ execLine command) :: lines
    else line :: replaceExec command lines

/-- `ReplaceDesktopEntryExec`. -/
def replaceDesktopEntryExec (entryText : String) (command : List String) : String :=
  joinLines (replaceExec command (splitLines entryText))

/-! ### Reading -/

/-- The loop of `ParseDesktopEntryExec` over the value: the arguments that were read, what is read of the
next one and whether one has begun, and whether the loop is within quotes. A backslash in quotes goes with
the character behind it if that is one of four. -/
def splitExec (out : List String) : (cur : List Char) → (begun inQuote : Bool) → List Char → List String
  | cur, begun, _, [] => if begun then out ++ [String.ofList cur] else out
  | cur, begun, true, '\\' :: d :: value =>
    if d ∈ ['\\', '"', '\x60', '$'] then splitExec out (cur ++ [d]) begun true value
    else splitExec out (cur ++ ['\\']) begun true (d :: value)
  | cur, begun, true, c :: value =>
    if c = '"' then splitExec out cur begun false value else splitExec out (cur ++ [c]) begun true value
  | cur, begun, false, c :: value =>
    if c = '"' then splitExec out cur true true value
    else if c = ' ' then splitExec (if begun then out ++ [String.ofList cur] else out) [] false false value
    else splitExec out (cur ++ [c]) true false value

/-- `ParseDesktopEntryExec`. -/
def parseDesktopEntryExec (entryText : String) : List String :=
  match (splitLines entryText).find? (hasPrefix · "Exec=") with
  | none => []
  | some line => splitExec [] [] false false (line.toList.drop 5)

/-- `ShouldRefreshAutostart`. -/
def shouldRefreshAutostart (existing expected : List String) (ownBinaryPath : String) : Bool :=
  if existing.isEmpty || existing = expected then false else existing.head? = some ownBinaryPath

/-! ### An argument -/

/-- A backslash or a double quote. -/
def quoteEscapes (c : Char) : Bool := c = '\\' || c = '"'

/-- The two replacements are one escaping. -/
lemma substitute_substitute (cs : List Char) :
    substitute '"' ['\\', '"'] (substitute '\\' ['\\', '\\'] cs) = Escape.escape '\\' quoteEscapes cs := by
  induction cs with
  | nil => rfl
  | cons c cs ih =>
    by_cases hslash : c = '\\'
    · rw [hslash, substitute_cons_self, Escape.escape_cons_of_special '\\' quoteEscapes rfl, ← ih]
      rw [List.cons_append, List.cons_append, List.nil_append]
      rw [substitute_cons_of_ne _ (by decide), substitute_cons_of_ne _ (by decide)]
    · rw [substitute_cons_of_ne _ hslash]
      by_cases hquote : c = '"'
      · rw [hquote, substitute_cons_self, ih, Escape.escape_cons_of_special '\\' quoteEscapes rfl]
        rfl
      · have hplain : quoteEscapes c = false := by
          rw [quoteEscapes, decide_eq_false hslash, decide_eq_false hquote]
          rfl
        rw [substitute_cons_of_ne _ hquote, ih, Escape.escape_cons_of_plain '\\' quoteEscapes hplain]

lemma toList_enclosed (mark : String) (cs : List Char) :
    (mark ++ String.ofList cs ++ mark).toList = mark.toList ++ cs ++ mark.toList := by
  rw [String.toList_append, String.toList_append, String.toList_ofList]

lemma toList_quote (value : String) :
    (quote value).toList = '"' :: Escape.escape '\\' quoteEscapes value.toList ++ ['"'] := by
  rw [quote, toList_enclosed, substitute_substitute]
  rfl

/-- In quotes, a character that is neither is kept. -/
lemma splitExec_plain (out : List String) (cur : List Char) (begun : Bool) {c : Char}
    (hc : quoteEscapes c = false) (value : List Char) :
    splitExec out cur begun true (c :: value) = splitExec out (cur ++ [c]) begun true value := by
  obtain ⟨hslash, hquote⟩ := Bool.or_eq_false_iff.1 hc
  rw [splitExec]
  · exact if_neg (of_decide_eq_false hquote)
  · rintro d value' rfl
    exact absurd rfl (of_decide_eq_false hslash)

/-- **An argument in quotes** is read as it is, whatever is behind it. -/
lemma splitExec_quote (out : List String) (value : String) (rest : List Char) :
    splitExec out [] false false ((quote value).toList ++ rest) =
      splitExec out value.toList true false rest := by
  have hread := Escape.run_escape '\\' quoteEscapes (f := fun cur => splitExec out cur true true)
    (fun cur c value hc => by
      rw [splitExec, if_pos]
      rcases Bool.or_eq_true_iff.1 hc with h | h
      · rw [of_decide_eq_true h]
        decide
      · rw [of_decide_eq_true h]
        decide)
    (fun cur c value hc => splitExec_plain out cur true hc value) [] value.toList ('"' :: rest)
  rw [toList_quote, List.append_assoc, List.cons_append, List.singleton_append]
  rw [splitExec, if_pos rfl, hread, List.nil_append, splitExec, if_pos rfl]
  rintro d value' h -
  exact absurd h (by decide)

/-! ### A command -/

lemma execLine_cons (a : String) {command : List String} (h : command ≠ []) :
    (execLine (a :: command)).toList = (quote a).toList ++ ' ' :: (execLine command).toList := by
  have hne : command.map quote ≠ [] := fun hnil => h (List.map_eq_nil_iff.1 hnil)
  rw [execLine, List.map_cons, String.intercalate_cons_of_ne_nil hne, String.toList_append,
    String.toList_append, List.append_assoc]
  rfl

/-- **The command is found again.**

**Proof sketch.** Induction on the command. An argument ends at the space behind its quotes, or with the
value. -/
theorem splitExec_execLine (out command : List String) :
    splitExec out [] false false (execLine command).toList = out ++ command := by
  induction command generalizing out with
  | nil => rw [List.append_nil]; rfl
  | cons a command ih =>
    by_cases hnil : command = []
    · have hline : (execLine [a]).toList = (quote a).toList ++ [] := by rw [List.append_nil]; rfl
      rw [hnil, hline, splitExec_quote, splitExec, if_pos rfl, String.ofList_toList]
    · rw [execLine_cons a hnil, splitExec_quote, splitExec, if_neg (by decide), if_pos rfl, if_pos rfl,
        String.ofList_toList, ih, List.append_assoc, List.singleton_append]

/-! ### Lines -/

lemma newline_not_mem_quote {value : String} (h : '\n' ∉ value.toList) : '\n' ∉ (quote value).toList := by
  rw [toList_quote, List.cons_append, List.mem_cons, List.mem_append, List.mem_singleton]
  rintro (hmem | hmem | hmem)
  · exact absurd hmem (by decide)
  · rcases Escape.eq_or_mem_of_mem_escape '\\' quoteEscapes hmem with hmem | hmem
    · exact absurd hmem (by decide)
    · exact h hmem
  · exact absurd hmem (by decide)

lemma newline_not_mem_execLine {command : List String} (h : ∀ a ∈ command, '\n' ∉ a.toList) :
    '\n' ∉ (execLine command).toList := by
  induction command with
  | nil => exact List.not_mem_nil
  | cons a command ih =>
    obtain ⟨ha, hcommand⟩ := List.forall_mem_cons.1 h
    by_cases hnil : command = []
    · rw [hnil]
      exact newline_not_mem_quote ha
    · rw [execLine_cons a hnil, List.mem_append, List.mem_cons]
      rintro (hmem | hmem | hmem)
      · exact newline_not_mem_quote ha hmem
      · exact absurd hmem (by decide)
      · exact ih hcommand hmem

/-- The line of the command. -/
def execEntry (command : List String) : String := "Exec=" ++ execLine command

lemma newline_not_mem_execEntry {command : List String} (h : ∀ a ∈ command, '\n' ∉ a.toList) :
    '\n' ∉ (execEntry command).toList := by
  rw [execEntry, String.toList_append, List.mem_append]
  rintro (hmem | hmem)
  · exact absurd hmem (by decide)
  · exact newline_not_mem_execLine h hmem

lemma hasPrefix_execEntry (command : List String) : hasPrefix (execEntry command) "Exec=" = true := by
  rw [hasPrefix, execEntry, String.toList_append]
  exact List.isPrefixOf_iff_prefix.2 (List.prefix_append _ _)

/-- The lines of a new entry. -/
lemma splitLines_linuxAutostartDesktopEntry {appName : String} {command : List String}
    (hname : '\n' ∉ appName.toList) (hcommand : ∀ a ∈ command, '\n' ∉ a.toList) :
    splitLines (linuxAutostartDesktopEntry appName command) =
      ["[Desktop Entry]", "Name=" ++ appName, execEntry command, "Terminal=false", "Categories=Network",
        "Type=Application", "StartupNotify=false", "X-GNOME-Autostart-enabled=true", ""] := by
  rw [linuxAutostartDesktopEntry, splitLines_unlines]
  · rfl
  · have hlist : '\n' ∉ ("Name=" ++ appName).toList := by
      rw [String.toList_append, List.mem_append]
      rintro (hmem | hmem)
      · exact absurd hmem (by decide)
      · exact hname hmem
    simp only [List.forall_mem_cons]
    exact ⟨by decide, hlist, newline_not_mem_execEntry hcommand, by decide, by decide, by decide,
      by decide, by decide, fun _ h => absurd h List.not_mem_nil⟩

/-- What a repair does to the lines: the first one with a command is replaced, and no other. -/
lemma replaceExec_eq (command : List String) {lines : List String}
    (h : ∃ line ∈ lines, hasPrefix line "Exec=" = true) :
    ∃ before line after, lines = before ++ line :: after ∧
      (∀ l ∈ before, hasPrefix l "Exec=" = false) ∧ hasPrefix line "Exec=" = true ∧
      replaceExec command lines = before ++ execEntry command :: after := by
  induction lines with
  | nil =>
    obtain ⟨line, hmem, -⟩ := h
    exact absurd hmem List.not_mem_nil
  | cons line lines ih =>
    rw [replaceExec]
    cases hline : hasPrefix line "Exec=" with
    | true => exact ⟨[], line, lines, rfl, fun _ h => absurd h List.not_mem_nil, hline, rfl⟩
    | false =>
      obtain ⟨l, hmem, hl⟩ := h
      have hmem' : l ∈ lines := (List.mem_cons.1 hmem).resolve_left (by
        rintro rfl
        exact absurd (hl.symm.trans hline) (by decide))
      obtain ⟨before, first, after, rfl, hbefore, hfirst, hreplace⟩ := ih ⟨l, hmem', hl⟩
      refine ⟨line :: before, first, after, rfl, List.forall_mem_cons.2 ⟨hline, hbefore⟩, hfirst, ?_⟩
      rw [if_neg Bool.false_ne_true, hreplace]
      rfl

/-- The value of the line of a command is read as that command. -/
lemma splitExec_execEntry (command : List String) :
    splitExec [] [] false false ((execEntry command).toList.drop 5) = command := by
  rw [execEntry, String.toList_append]
  exact splitExec_execLine [] command

/-- Behind lines without a command, the line of a command is read. -/
lemma find_execEntry {before : List String} (after : List String)
    (h : ∀ l ∈ before, hasPrefix l "Exec=" = false) (command : List String) :
    (before ++ execEntry command :: after).find? (hasPrefix · "Exec=") = some (execEntry command) := by
  rw [List.find?_append, List.find?_eq_none.2 fun l hl => by rw [h l hl]; exact Bool.false_ne_true,
    List.find?_cons, hasPrefix_execEntry]
  rfl

/-! ### Entries -/

/-- The line of the command in a new entry. -/
lemma find_linuxAutostartDesktopEntry {appName : String} {command : List String}
    (hname : '\n' ∉ appName.toList) (hcommand : ∀ a ∈ command, '\n' ∉ a.toList) :
    (splitLines (linuxAutostartDesktopEntry appName command)).find? (hasPrefix · "Exec=") =
      some (execEntry command) := by
  have hname' : hasPrefix ("Name=" ++ appName) "Exec=" = false := by
    rw [hasPrefix, String.toList_append]
    rfl
  have hbefore : ∀ l ∈ ["[Desktop Entry]", "Name=" ++ appName], hasPrefix l "Exec=" = false := by
    simp only [List.forall_mem_cons]
    exact ⟨by decide, hname', fun _ h => absurd h List.not_mem_nil⟩
  rw [splitLines_linuxAutostartDesktopEntry hname hcommand]
  exact find_execEntry ["Terminal=false", "Categories=Network", "Type=Application",
    "StartupNotify=false", "X-GNOME-Autostart-enabled=true", ""] hbefore command

/-- **Round trip of the autostart entry.** A new entry is read as its command. In a text with a line of a
command a repair changes the first such line and no other, the text is then read as the command it was
repaired with, and it needs no further repair. -/
theorem autostart_round_trip {appName : String} {command : List String} (hname : '\n' ∉ appName.toList)
    (hcommand : ∀ a ∈ command, '\n' ∉ a.toList) :
    parseDesktopEntryExec (linuxAutostartDesktopEntry appName command) = command ∧
      ∀ entryText, (∃ line ∈ splitLines entryText, hasPrefix line "Exec=" = true) →
        (∃ before line after, splitLines entryText = before ++ line :: after ∧
          (∀ l ∈ before, hasPrefix l "Exec=" = false) ∧ hasPrefix line "Exec=" = true ∧
          splitLines (replaceDesktopEntryExec entryText command) =
            before ++ ("Exec=" ++ execLine command) :: after) ∧
        parseDesktopEntryExec (replaceDesktopEntryExec entryText command) = command ∧
        ∀ ownBinaryPath, shouldRefreshAutostart
          (parseDesktopEntryExec (replaceDesktopEntryExec entryText command)) command ownBinaryPath =
            false := by
  constructor
  · rw [parseDesktopEntryExec, find_linuxAutostartDesktopEntry hname hcommand]
    exact splitExec_execEntry command
  · rintro entryText hexec
    obtain ⟨before, line, after, hlines, hbefore, hline, hreplace⟩ := replaceExec_eq command hexec
    have hnewline : ∀ l ∈ before ++ execEntry command :: after, '\n' ∉ l.toList := by
      rintro l hl
      have hmem : l = execEntry command ∨ l ∈ splitLines entryText := by
        rw [hlines]
        rcases List.mem_append.1 hl with hl | hl
        · exact Or.inr (List.mem_append_left _ hl)
        · rcases List.mem_cons.1 hl with hl | hl
          · exact Or.inl hl
          · exact Or.inr (List.mem_append_right _ (List.mem_cons_of_mem _ hl))
      rcases hmem with rfl | hmem
      · exact newline_not_mem_execEntry hcommand
      · exact newline_not_mem_of_mem_splitLines hmem
    have hresult : splitLines (replaceDesktopEntryExec entryText command) =
        before ++ execEntry command :: after := by
      rw [replaceDesktopEntryExec, hreplace]
      exact splitLines_joinLines hnewline (by simp)
    have hparse : parseDesktopEntryExec (replaceDesktopEntryExec entryText command) = command := by
      rw [parseDesktopEntryExec, hresult, find_execEntry _ hbefore command]
      exact splitExec_execEntry command
    refine ⟨⟨before, line, after, hlines, hbefore, hline, hresult⟩, hparse, fun ownBinaryPath => ?_⟩
    rw [hparse, shouldRefreshAutostart, if_pos]
    simp

/-- A path with a double quote and a backslash at its end, an empty argument, and one with a dollar sign. -/
theorem autostart_round_trip_quotes :
    parseDesktopEntryExec (linuxAutostartDesktopEntry "proxor" ["/opt/\"p\\", "", "-appdata", "$x\\$"]) =
      ["/opt/\"p\\", "", "-appdata", "$x\\$"] :=
  (autostart_round_trip (by decide) (by decide)).1

end Proxor.Platform
