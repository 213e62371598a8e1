import Mathlib.Data.Bool.AllAny
import Proxor.Lib.DesktopEntry
import Proxor.Platform.LinuxAutostart

set_option relaxedAutoImplicit false
set_option autoImplicit false

/-!
# The autostart entry and the desktop

The program reads its entry back with its own reader. The desktop reads it as the Desktop Entry
Specification says: escape sequences first, then quotes, then field codes. The writer escapes once, for the
quotes only, and neither the dollar sign nor the backquote nor the percent sign.

## Main definitions

* `Proxor.Platform.execValue` — the value of `Exec` in an entry.
* `Proxor.Platform.Plain` — an argument the desktop reads as it is.

## Main results

* `Proxor.Platform.unescape_execLine` — the string value of a command.
* `Proxor.Platform.unquote_iff` — the argument in its quotes.
* `Proxor.Platform.read_linuxAutostartDesktopEntry_iff` — the desktop runs the command exactly if all of its
  arguments are plain.
-/

namespace Proxor.Platform

open Text DesktopEntry

/-- The value of `Exec` in an entry. -/
def execValue (entryText : String) : Option (List Char) :=
  ((splitLines entryText).find? (hasPrefix · "Exec=")).map fun line => line.toList.drop 5

/-- An argument the desktop reads as it is: no character that has to be escaped for it and is not. Where a
backslash before another character is an error, no double quote either. -/
def Plain (keep : Bool) (a : List Char) : Prop :=
  (∀ c ∈ a, c ∉ ['\\', '$', '\x60', '%']) ∧ (keep = false → '"' ∉ a)

/-! ### The string value -/

/-- What is between the quotes of an argument. -/
def written (a : List Char) : List Char := Escape.escape '\\' quoteEscapes a

def isQuote (c : Char) : Bool := c = '"'

/-- What is between the quotes in the string value. -/
def inQuotes (a : List Char) : List Char := Escape.escape '\\' isQuote a

lemma guarded_inQuotes (a : List Char) : Guarded (inQuotes a) := by
  induction a with
  | nil => exact Guarded.nil
  | cons c a ih =>
    by_cases hc : c = '"'
    · rw [inQuotes, Escape.escape_cons_of_special '\\' isQuote (decide_eq_true hc), hc]
      exact Guarded.quote ih
    · rw [inQuotes, Escape.escape_cons_of_plain '\\' isQuote (decide_eq_false hc)]
      exact Guarded.cons hc ih

/-- The escape sequences of an argument: two backslashes are one, and a backslash stays before a double
quote. -/
lemma unescape_written {keep : Bool} {a : List Char} (h : keep = true ∨ '"' ∉ a) (rest : List Char) :
    unescape keep (written a ++ rest) = (unescape keep rest).map (inQuotes a ++ ·) := by
  induction a with
  | nil => exact Option.map_id'.symm
  | cons c a ih =>
    have ih' := ih (h.imp_right fun h hmem => h (List.mem_cons_of_mem _ hmem))
    by_cases hslash : c = '\\'
    · subst hslash
      rw [written, Escape.escape_cons_of_special '\\' quoteEscapes rfl, inQuotes,
        Escape.escape_cons_of_plain '\\' isQuote rfl]
      change unescape keep ('\\' :: '\\' :: (written a ++ rest)) = _
      rw [unescape_backslash, ih', Option.map_map]
      rfl
    · by_cases hquote : c = '"'
      · subst hquote
        obtain rfl := h.resolve_right (not_not.2 List.mem_cons_self)
        rw [written, Escape.escape_cons_of_special '\\' quoteEscapes rfl, inQuotes,
          Escape.escape_cons_of_special '\\' isQuote rfl]
        change unescape true ('\\' :: '"' :: (written a ++ rest)) = _
        rw [unescape_quote, if_pos rfl, ih', Option.map_map]
        rfl
      · have hplain : quoteEscapes c = false :=
          Bool.or_eq_false_iff.2 ⟨decide_eq_false hslash, decide_eq_false hquote⟩
        rw [written, Escape.escape_cons_of_plain '\\' quoteEscapes hplain, inQuotes,
          Escape.escape_cons_of_plain '\\' isQuote (decide_eq_false hquote), List.cons_append,
          unescape_plain keep hslash]
        change (unescape keep (written a ++ rest)).map _ = _
        rw [ih', Option.map_map]
        rfl

/-- Where a backslash before a double quote is an error, an argument with one cannot be read. -/
lemma unescape_written_eq_none {a : List Char} (h : '"' ∈ a) (rest : List Char) :
    unescape false (written a ++ rest) = none := by
  obtain ⟨a, b, rfl, ha⟩ := List.eq_append_cons_of_mem h
  have hsplit : written (a ++ '"' :: b) ++ rest = written a ++ ('\\' :: '"' :: (written b ++ rest)) := by
    rw [written, Escape.escape, List.flatMap_append, List.append_assoc]
    rfl
  rw [hsplit, unescape_written (Or.inr ha), unescape_quote]
  rfl

/-- The string value of arguments behind another one. -/
lemma unescape_tail {keep : Bool} (as : List (List Char)) (h : keep = true ∨ ∀ a ∈ as, '"' ∉ a) :
    unescape keep (tail (as.map written)) = some (tail (as.map inQuotes)) := by
  induction as with
  | nil => rfl
  | cons a as ih =>
    have ih' := ih (h.imp_right fun h b hb => h b (List.mem_cons_of_mem _ hb))
    rw [List.map_cons, List.map_cons, tail, tail, unescape_plain keep (by decide),
      unescape_plain keep (by decide), unescape_written (h.imp_right fun h => h a List.mem_cons_self),
      unescape_plain keep (by decide), ih']
    rfl

/-- The value is a line of arguments in quotes. -/
lemma toList_execLine (command : List String) :
    (execLine command).toList = line (command.map fun a => written a.toList) := by
  induction command with
  | nil => rfl
  | cons a command ih =>
    cases command with
    | nil =>
      have hline : (execLine [a]).toList = (quote a).toList := rfl
      rw [hline, toList_quote]
      rfl
    | cons b command =>
      rw [execLine_cons a (List.cons_ne_nil _ _), toList_quote, ih, List.map_cons, List.cons_append,
        List.cons_append, List.append_assoc]
      rfl

/-- **The string value of a command**: every backslash is as it was, and a double quote has one before
it. -/
theorem unescape_execLine {keep : Bool} {command : List String}
    (h : keep = true ∨ ∀ a ∈ command, '"' ∉ a.toList) :
    unescape keep (execLine command).toList = some (line (command.map fun a => inQuotes a.toList)) := by
  rw [toList_execLine]
  cases command with
  | nil => rfl
  | cons a command =>
    have htail := unescape_tail (command.map String.toList)
      (h.imp_right fun h b hb => by
        obtain ⟨c, hc, rfl⟩ := List.mem_map.1 hb
        exact h c (List.mem_cons_of_mem _ hc))
    rw [List.map_map, List.map_map] at htail
    rw [List.map_cons, List.map_cons, line, line, unescape_plain keep (by decide),
      unescape_written (h.imp_right fun h => h a List.mem_cons_self), unescape_plain keep (by decide)]
    change ((((unescape keep (tail (command.map (written ∘ String.toList)))).map _).map _).map _) = _
    rw [htail]
    rfl

lemma unescape_tail_eq_none {as : List (List Char)} (h : ∃ a ∈ as, '"' ∈ a) :
    unescape false (tail (as.map written)) = none := by
  induction as with
  | nil =>
    obtain ⟨a, ha, -⟩ := h
    exact absurd ha List.not_mem_nil
  | cons a as ih =>
    rw [List.map_cons, tail, unescape_plain false (by decide), unescape_plain false (by decide)]
    by_cases ha : '"' ∈ a
    · rw [unescape_written_eq_none ha]
      rfl
    · obtain ⟨b, hb, hmem⟩ := h
      have hb' : b ∈ as := (List.mem_cons.1 hb).resolve_left (by
        rintro rfl
        exact ha hmem)
      rw [unescape_written (Or.inr ha), unescape_plain false (by decide), ih ⟨b, hb', hmem⟩]
      rfl

/-- Where a backslash before a double quote is an error, a command with one in an argument cannot be
read. -/
lemma unescape_execLine_eq_none {command : List String} (h : ∃ a ∈ command, '"' ∈ a.toList) :
    unescape false (execLine command).toList = none := by
  -- A space before the line makes it the tail of one.
  have htail : unescape false (' ' :: (execLine command).toList) = none := by
    have hmem : ∃ a ∈ command.map String.toList, '"' ∈ a := by
      obtain ⟨a, ha, hquote⟩ := h
      exact ⟨_, List.mem_map_of_mem ha, hquote⟩
    have hnone := unescape_tail_eq_none hmem
    rw [List.map_map] at hnone
    rw [toList_execLine]
    cases command with
    | nil =>
      obtain ⟨a, ha, -⟩ := h
      exact absurd ha List.not_mem_nil
    | cons a command => exact hnone
  rw [unescape_plain false (by decide)] at htail
  exact Option.map_eq_none_iff.1 htail

/-! ### An argument -/

lemma inQuotes_quote (a : List Char) : inQuotes ('"' :: a) = '\\' :: '"' :: inQuotes a :=
  Escape.escape_cons_of_special '\\' isQuote rfl a

lemma inQuotes_plain {c : Char} (hc : c ≠ '"') (a : List Char) : inQuotes (c :: a) = c :: inQuotes a :=
  Escape.escape_cons_of_plain '\\' isQuote (decide_eq_false hc) a

/-- Without a backslash, a dollar sign or a backquote the quotes are undone. -/
lemma unquote_inQuotes {a : List Char} (h : ∀ c ∈ a, c ∉ ['\\', '$', '\x60']) :
    unquote (inQuotes a) = some a := by
  induction a with
  | nil => rfl
  | cons c a ih =>
    obtain ⟨hc, ha⟩ := List.forall_mem_cons.1 h
    by_cases hquote : c = '"'
    · subst hquote
      rw [inQuotes_quote, unquote_escape, if_pos (by decide), ih ha]
      rfl
    · have hslash : c ≠ '\\' := by
        rintro rfl
        exact hc (by decide)
      have hplain : c ∉ escapable := by
        rw [escapable]
        simp only [List.mem_cons, List.not_mem_nil, or_false, not_or] at hc ⊢
        exact ⟨hquote, hc.2.2, hc.2.1, hc.1⟩
      rw [inQuotes_plain hquote, unquote_plain hslash, if_neg hplain, ih ha]
      rfl

/-- Undoing the quotes makes no argument longer, and leaves its length only without those characters.

**Proof sketch.** Strong induction, since a backslash is read with the character behind it, and one of the
two is lost. -/
lemma length_unquote_le (a : List Char) : ∀ {x : List Char}, unquote (inQuotes a) = some x →
    x.length ≤ a.length ∧ (x.length = a.length → ∀ c ∈ a, c ∉ ['\\', '$', '\x60']) := by
  induction hlen : a.length using Nat.strong_induction_on generalizing a with
  | _ n ih =>
    subst hlen
    rintro x hx
    cases a with
    | nil =>
      obtain rfl := Option.some.inj hx
      exact ⟨Nat.le_refl _, fun _ c hc => absurd hc List.not_mem_nil⟩
    | cons c a =>
      by_cases hquote : c = '"'
      · subst hquote
        rw [inQuotes_quote, unquote_escape, if_pos (by decide)] at hx
        obtain ⟨y, hy, rfl⟩ := Option.map_eq_some_iff.1 hx
        obtain ⟨hle, hmem⟩ := ih a.length (Nat.lt_succ_self _) a rfl hy
        refine ⟨Nat.succ_le_succ hle, fun heq => List.forall_mem_cons.2 ⟨by decide, ?_⟩⟩
        exact hmem (Nat.succ.inj heq)
      · rw [inQuotes_plain hquote] at hx
        by_cases hslash : c = '\\'
        · subst hslash
          cases a with
          | nil => exact absurd hx (Option.some_ne_none x).symm
          | cons d a =>
            by_cases hd : d = '"'
            · subst hd
              rw [inQuotes_quote, unquote_escape, if_pos (by decide), unquote_plain (by decide),
                if_pos (by decide)] at hx
              exact absurd hx (Option.some_ne_none x).symm
            · rw [inQuotes_plain hd, unquote_escape] at hx
              split at hx
              · obtain ⟨y, hy, rfl⟩ := Option.map_eq_some_iff.1 hx
                obtain ⟨hle, -⟩ := ih a.length (by simp only [List.length_cons]; omega) a rfl hy
                simp only [List.length_cons]
                exact ⟨by omega, fun heq => by omega⟩
              · exact absurd hx (Option.some_ne_none x).symm
        · rw [unquote_plain hslash] at hx
          split at hx
          · exact absurd hx (Option.some_ne_none x).symm
          · next hplain =>
            obtain ⟨y, hy, rfl⟩ := Option.map_eq_some_iff.1 hx
            obtain ⟨hle, hmem⟩ := ih a.length (Nat.lt_succ_self _) a rfl hy
            refine ⟨Nat.succ_le_succ hle, fun heq => List.forall_mem_cons.2 ⟨?_, ?_⟩⟩
            · rw [escapable] at hplain
              simp only [List.mem_cons, List.not_mem_nil, or_false, not_or] at hplain ⊢
              exact ⟨hplain.2.2.2, hplain.2.2.1, hplain.2.1⟩
            · exact hmem (Nat.succ.inj heq)

/-- **An argument in its quotes** is read as it is exactly if none of its characters means something to
the desktop.

**Proof sketch.** Neither undoing the quotes nor expanding field codes makes the argument longer, so that
what is read has its length only if nothing is undone or expanded. -/
theorem unquote_iff (a : List Char) :
    (unquote (inQuotes a)).bind percent = some a ↔ ∀ c ∈ a, c ∉ ['\\', '$', '\x60', '%'] := by
  have hmem : ∀ c : Char, c ∉ ['\\', '$', '\x60', '%'] ↔ c ∉ ['\\', '$', '\x60'] ∧ c ≠ '%' := by
    intro c
    simp only [List.mem_cons, List.not_mem_nil, or_false, not_or, and_assoc]
  constructor
  · rintro h c hc
    obtain ⟨x, hx, hpercent⟩ := Option.bind_eq_some_iff.1 h
    obtain ⟨hle, hplain⟩ := length_unquote_le a hx
    obtain ⟨hle', hnone⟩ := length_percent_le hpercent
    have hpercents := hnone (Nat.le_antisymm hle' hle)
    rw [percent_eq_self hpercents] at hpercent
    obtain rfl := Option.some.inj hpercent
    refine (hmem c).2 ⟨hplain rfl c hc, ?_⟩
    rintro rfl
    exact hpercents hc
  · rintro h
    rw [unquote_inQuotes fun c hc => ((hmem c).1 (h c hc)).1, Option.bind_some]
    exact percent_eq_self fun hc => ((hmem '%').1 (h '%' hc)).2 rfl

/-! ### The entry -/

/-- The value of `Exec` in a new entry. -/
lemma execValue_linuxAutostartDesktopEntry {appName : String} {command : List String}
    (hname : '\n' ∉ appName.toList) (hcommand : ∀ a ∈ command, '\n' ∉ a.toList) :
    execValue (linuxAutostartDesktopEntry appName command) = some (execLine command).toList := by
  rw [execValue, find_linuxAutostartDesktopEntry hname hcommand, Option.map_some, execEntry,
    String.toList_append]
  rfl

/-- **What the desktop runs.** The desktop reads the value of `Exec` as the command exactly if all of its
arguments are plain, whatever it does with other sequences of a string value and with arguments that are
not in quotes. It never finds a reserved character outside of quotes, or one in them without a backslash,
where it does: such a value is an error.

**Proof sketch.** The string value is a line of arguments in quotes, with a backslash before every double
quote in them. Such a line is read argument by argument or not at all, and an argument is read as it is
exactly if it is plain. -/
theorem read_linuxAutostartDesktopEntry_iff (keep : Bool)
    (launcher : List Char → Option (List (List Char))) {appName : String} {command : List String}
    (hname : '\n' ∉ appName.toList) (hcommand : ∀ a ∈ command, '\n' ∉ a.toList) :
    ((execValue (linuxAutostartDesktopEntry appName command)).bind fun value =>
        DesktopEntry.read keep launcher value) = some (command.map String.toList) ↔
      ∀ a ∈ command, Plain keep a.toList := by
  rw [execValue_linuxAutostartDesktopEntry hname hcommand, Option.bind_some]
  by_cases hkeep : keep = true ∨ ∀ a ∈ command, '"' ∉ a.toList
  · rw [read_line (fun t ht => by
      obtain ⟨a, -, rfl⟩ := List.mem_map.1 ht
      exact guarded_inQuotes _) (unescape_execLine hkeep), List.forall₂_map_left_iff,
      List.forall₂_map_right_iff, List.forall₂_same]
    refine forall₂_congr fun a ha => ?_
    rw [unquote_iff, Plain]
    refine (and_iff_left fun hfalse => ?_).symm
    rcases hkeep with hkeep | hnone
    · exact absurd (hfalse.symm.trans hkeep) Bool.false_ne_true
    · exact hnone a ha
  · obtain ⟨hfalse, hexists⟩ := not_or.1 hkeep
    obtain rfl := (Bool.not_eq_true _).mp hfalse
    simp only [not_forall, not_not] at hexists
    obtain ⟨a, ha, hquote⟩ := hexists
    refine iff_of_false ?_ fun h => (h a ha).2 rfl hquote
    rw [DesktopEntry.read, unescape_execLine_eq_none ⟨a, ha, hquote⟩]
    exact (Option.some_ne_none _).symm

/-- A path the desktop reads as it is, with a space and a double quote in it. -/
theorem read_linuxAutostartDesktopEntry_plain :
    ((execValue (linuxAutostartDesktopEntry "proxor" ["/opt/my \"app\"/proxor", "-tray"])).bind fun value =>
        DesktopEntry.read true (fun text => some [text]) value) =
      some (["/opt/my \"app\"/proxor", "-tray"].map String.toList) :=
  (read_linuxAutostartDesktopEntry_iff true (fun text => some [text]) (by decide) (by decide)).2 (by
    rintro a ha
    refine ⟨?_, fun h => absurd h (by decide)⟩
    rcases List.mem_cons.1 ha with rfl | ha
    · exact List.all_iff_forall_prop.1 (by decide)
    · obtain rfl := List.mem_singleton.1 ha
      exact List.all_iff_forall_prop.1 (by decide))

/-- **A path the desktop does not read.** In a directory whose name has a percent sign the desktop finds a
field code, and in one with a dollar sign a character that should have a backslash before it. -/
theorem not_read_linuxAutostartDesktopEntry :
    ¬ ∀ command : List String, command ≠ [] → (∀ a ∈ command, '\n' ∉ a.toList) →
      ((execValue (linuxAutostartDesktopEntry "proxor" command)).bind fun value =>
        DesktopEntry.read true (fun text => some [text]) value) = some (command.map String.toList) := by
  intro hall
  have h := hall ["/opt/100%/proxor", "-tray"] (List.cons_ne_nil _ _) (by decide)
  rw [execValue_linuxAutostartDesktopEntry (by decide) (by decide), Option.bind_some] at h
  exact absurd h (by decide +kernel)

end Proxor.Platform
