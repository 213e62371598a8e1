import Mathlib.Data.List.DropRight
import Proxor.Lib.Utf8

set_option relaxedAutoImplicit false
set_option autoImplicit false

/-!
# The log lines of the Tun

The log stream comes in pieces of any size; every complete line becomes one event.

## Main definitions

* `Proxor.MacHelper.LineWriter` — the buffer, with `write` and `flush`.
* `Proxor.MacHelper.lineText` — the text of a line, as a function of that line alone.

## Main results

* `Proxor.MacHelper.lineWriter_events` — the events are those of the lines, however the stream is cut.
-/

namespace Proxor.MacHelper

open Utf8

/-- `maxLogLine`. -/
def maxLogLine : ℕ := 4096

/-- `lineWriter`. -/
structure LineWriter where
  buf : Bytes := []
  truncated : Bool := false

/-- The loop of `flush`: the last byte is dropped, at most so often, while the line is not valid. -/
def trimInvalid : ℕ → Bytes → Bytes
  | 0, line => line
  | n + 1, line => if 0 < line.length ∧ valid line = false then trimInvalid n line.dropLast else line

/-- `strings.TrimRight` of carriage returns. -/
def trimReturns (line : Bytes) : Bytes := line.rdropWhile (· = 13)

namespace LineWriter

/-- The text of the line in the buffer. -/
def text (w : LineWriter) : Bytes := trimReturns (if w.truncated then trimInvalid 3 w.buf else w.buf)

/-- `flush`: the texts of the events. -/
def flush (w : LineWriter) : LineWriter × List Bytes :=
  ({}, if w.text = [] then [] else [w.text])

/-- One byte of `Write`. -/
def writeByte (w : LineWriter) (b : UInt8) : LineWriter × List Bytes :=
  if b = 10 then w.flush
  else if w.buf.length < maxLogLine then ({ w with buf := w.buf ++ [b] }, [])
  else ({ w with truncated := true }, [])

/-- `Write`: the texts of the events. -/
def write (w : LineWriter) : Bytes → LineWriter × List Bytes
  | [] => (w, [])
  | b :: p => (((w.writeByte b).1.write p).1, (w.writeByte b).2 ++ ((w.writeByte b).1.write p).2)

/-- Several calls of `Write`. -/
def writes (w : LineWriter) : List Bytes → LineWriter × List Bytes
  | [] => (w, [])
  | p :: ps => (((w.write p).1.writes ps).1, (w.write p).2 ++ ((w.write p).1.writes ps).2)

end LineWriter

/-- The text of a line. -/
def lineText (line : Bytes) : Bytes :=
  trimReturns (if maxLogLine < line.length then trimInvalid 3 (line.take maxLogLine) else line)

/-! ### Pieces -/

section Pieces

variable (w : LineWriter)

lemma write_append (p q : Bytes) : w.write (p ++ q) =
    (((w.write p).1.write q).1, (w.write p).2 ++ ((w.write p).1.write q).2) := by
  induction p generalizing w with
  | nil => rfl
  | cons b p ih =>
    rw [List.cons_append, LineWriter.write, ih, LineWriter.write, List.append_assoc]

/-- The pieces are written as one. -/
lemma writes_eq (ps : List Bytes) : w.writes ps = w.write ps.flatten := by
  induction ps generalizing w with
  | nil => rfl
  | cons p ps ih => rw [LineWriter.writes, ih, List.flatten_cons, write_append]

end Pieces

/-! ### Lines -/

/-- The writer that holds the start of a line. -/
def holding (line : Bytes) : LineWriter where
  buf := line.take maxLogLine
  truncated := maxLogLine < line.length

lemma text_holding (line : Bytes) : (holding line).text = lineText line := by
  rw [LineWriter.text, lineText, holding]
  by_cases hlong : maxLogLine < line.length
  · rw [if_pos (decide_eq_true hlong), if_pos hlong]
  · rw [if_neg (by simpa using hlong), if_neg hlong, List.take_of_length_le (not_lt.1 hlong)]

/-- What is in the buffer depends on the line only. -/
lemma write_line {p : Bytes} (hp : 10 ∉ p) : ∀ line : Bytes,
    (holding line).write p = (holding (line ++ p), []) := by
  induction p with
  | nil =>
    intro line
    rw [List.append_nil]
    rfl
  | cons b p ih =>
    intro line
    rw [List.mem_cons, not_or] at hp
    have hbyte : (holding line).writeByte b = (holding (line ++ [b]), []) := by
      rw [LineWriter.writeByte, if_neg (Ne.symm hp.1)]
      by_cases hlong : maxLogLine ≤ line.length
      · have hfull : ¬ (holding line).buf.length < maxLogLine := by
          rw [holding, List.length_take, Nat.min_eq_left hlong]
          exact lt_irrefl _
        rw [if_neg hfull, holding, holding, List.take_append_of_le_length hlong]
        simp
        omega
      · have hroom : (holding line).buf.length < maxLogLine := by
          rw [holding, List.length_take]
          omega
        rw [if_pos hroom, holding, holding, List.take_of_length_le (not_le.1 hlong).le,
          List.take_of_length_le (by rw [List.length_append, List.length_singleton]; omega)]
        simp
        omega
    rw [LineWriter.write, hbyte]
    dsimp only
    rw [ih hp.2, List.append_assoc, List.singleton_append, List.append_nil]

/-- **A stream.** The writer emits the texts of the complete lines that are not empty, and holds the start
of the last one.

**Proof sketch.** Induction on the length of the stream, which has no newline or begins with a line. -/
lemma write_stream (stream : Bytes) : ∃ line, (holding []).write stream =
    (holding line, ((Bytes.lines stream).dropLast.map lineText).filter (· ≠ [])) := by
  induction hlen : stream.length using Nat.strong_induction_on generalizing stream with
  | _ n ih =>
    rw [Bytes.lines]
    by_cases hmem : 10 ∈ stream
    · obtain ⟨line, rest, rfl, hline⟩ := List.eq_append_cons_of_mem hmem
      obtain ⟨last, hrest⟩ := ih rest.length
        (by rw [← hlen, List.length_append, List.length_cons]; omega) rest rfl
      refine ⟨last, ?_⟩
      have hflush : (holding line).writeByte 10 =
          (holding [], if lineText line = [] then [] else [lineText line]) := by
        rw [LineWriter.writeByte, if_pos rfl, LineWriter.flush, text_holding]
        rfl
      rw [write_append, write_line hline, List.nil_append, List.nil_append, LineWriter.write, hflush]
      dsimp only
      rw [hrest, List.splitOn_append_cons_self_of_not_mem hline,
        List.dropLast_cons_of_ne_nil (List.splitOn_ne_nil _ _), List.map_cons, List.filter_cons]
      by_cases hempty : lineText line = []
      · rw [if_pos hempty, if_neg (by simpa using hempty)]
        rfl
      · rw [if_neg hempty, if_pos (by simpa using hempty)]
        rfl
    · refine ⟨stream, ?_⟩
      rw [write_line hmem, List.nil_append, List.splitOn_eq_singleton hmem]
      rfl

/-! ### Valid text -/

/-- The loop of `flush` drops a part of a character. -/
lemma trimInvalid_append {ds : List Char} (n : ℕ) : ∀ part : Bytes, part.length ≤ n →
    (∀ p, p ≠ [] → p <+: part → valid (encode ds ++ p) = false) →
    trimInvalid n (encode ds ++ part) = encode ds := by
  have hvalid : valid (encode ds) = true := valid_iff.2 ⟨ds, rfl⟩
  induction n with
  | zero =>
    intro part hlen _
    rw [List.length_eq_zero_iff.1 (Nat.le_zero.1 hlen), List.append_nil]
    rfl
  | succ n ih =>
    intro part hlen hpart
    rw [trimInvalid]
    rcases List.eq_nil_or_concat part with rfl | ⟨p, b, rfl⟩
    · rw [List.append_nil, if_neg]
      rw [hvalid]
      simp
    · rw [List.concat_eq_append] at hlen hpart ⊢
      have hne : p ++ [b] ≠ [] := List.concat_ne_nil b p
      have hinvalid := hpart _ hne (List.prefix_refl _)
      have hpos : 0 < (encode ds ++ (p ++ [b])).length :=
        List.length_pos_of_ne_nil (List.append_ne_nil_of_right_ne_nil _ hne)
      rw [List.length_append, List.length_singleton] at hlen
      rw [if_pos ⟨hpos, hinvalid⟩, ← List.append_assoc, List.dropLast_concat]
      exact ih p (by omega) fun q hq hpre => hpart q hq (hpre.trans (List.prefix_append _ _))

/-- Trailing carriage returns of a text and of its bytes. -/
lemma trimReturns_encode (cs : List Char) :
    trimReturns (encode cs) = encode (cs.rdropWhile (· = '\r')) := by
  induction cs using List.reverseRecOn with
  | nil => rfl
  | append_singleton cs c ih =>
    rw [encode_append, trimReturns]
    by_cases hc : c = '\r'
    · subst hc
      have hreturn : encode ['\r'] = [13] := rfl
      rw [hreturn, List.rdropWhile_concat_pos _ _ _ (by simp), List.rdropWhile_concat_pos _ _ _ (by simp)]
      exact ih
    · -- the last byte of another character is no carriage return
      have hlast : ∀ b, b ∈ encode [c] → b ≠ 13 := by
        rintro b hb rfl
        rw [encode_cons, encode_nil, List.append_nil] at hb
        exact hc (Char.toNat_inj.1 (eq_of_mem_encodeChar (by decide) hb))
      have hne : encode [c] ≠ [] := by
        rw [encode_cons, encode_nil, List.append_nil]
        exact String.utf8EncodeChar_ne_nil
      rw [List.rdropWhile_concat_neg _ _ _ (by simpa using hc), encode_append,
        ← List.dropLast_append_getLast hne, ← List.append_assoc]
      exact List.rdropWhile_concat_neg _ _ _ (by simpa using hlast _ (List.getLast_mem hne))

/-- The text of a line that is valid: as many of its characters as fit, without carriage returns at the
end. -/
lemma lineText_encode (cs : List Char) :
    lineText (encode cs) = encode ((fit maxLogLine cs).rdropWhile (· = '\r')) := by
  rw [lineText]
  split_ifs with hlong
  · obtain ⟨part, htake, hlen⟩ := take_encode cs maxLogLine
    have htrim : trimInvalid 3 ((encode cs).take maxLogLine) = encode (fit maxLogLine cs) := by
      rw [htake]
      refine trimInvalid_append 3 part hlen fun p hne hpre => not_valid_of_part hne ?_
      rw [htake]
      exact (List.prefix_append_right_inj _).2 hpre
    rw [htrim, trimReturns_encode]
  · rw [fit_eq_self (not_lt.1 hlong), trimReturns_encode]

/-- **The log events.** They are those of the complete lines of what was written, in order, each a
function of its line alone, except for empty ones; of a valid text they are the lines as far as they fit,
without carriage returns at the end. The buffer never holds more than a line may have.

**Proof sketch.** The pieces are written as one (`writes_eq`), and what the buffer holds is determined by
the bytes since the last newline. -/
theorem lineWriter_events (ps : List Bytes) :
    (LineWriter.writes {} ps).2 = ((Bytes.lines ps.flatten).dropLast.map lineText).filter (· ≠ []) ∧
    (∀ stream : List Char, ps.flatten = encode stream → (LineWriter.writes {} ps).2 =
      (((stream.splitOn '\n').dropLast.map fun line =>
        (fit maxLogLine line).rdropWhile (· = '\r')).filter (· ≠ [])).map encode) ∧
    (∀ line text : List Char, text <+: fit maxLogLine line ↔
      text <+: line ∧ (encode text).length ≤ maxLogLine) ∧
    (LineWriter.writes {} ps).1.buf.length ≤ maxLogLine := by
  obtain ⟨last, hwrite⟩ := write_stream ps.flatten
  have hwrites : LineWriter.writes {} ps = (holding last,
      ((Bytes.lines ps.flatten).dropLast.map lineText).filter (· ≠ [])) := by
    rw [writes_eq]
    exact hwrite
  rw [hwrites]
  refine ⟨rfl, fun stream hstream => ?_, fun line text => prefix_fit_iff, ?_⟩
  · have hempty : ∀ cs : List Char, encode cs = [] ↔ cs = [] := by
      intro cs
      constructor
      · intro h
        exact List.prefix_nil.1 (prefix_of_encode (by rw [h]; exact List.nil_prefix))
      · rintro rfl
        rfl
    have hcomp : lineText ∘ encode =
        encode ∘ fun line => (fit maxLogLine line).rdropWhile (· = '\r') := funext lineText_encode
    dsimp only
    rw [hstream, lines_encode, ← List.map_dropLast, List.map_map, hcomp, List.filter_map,
      List.filter_map, List.map_map]
    refine congrArg _ (List.filter_congr fun line _ => ?_)
    exact decide_eq_decide.2 (not_congr (hempty _))
  · exact List.length_take_le _ _

/-- A line in two pieces, with the start of another. -/
theorem lineWriter_events_pieces : (LineWriter.writes {} [[97, 13], [10, 98]]).2 =
    ((("a\r\nb".toList.splitOn '\n').dropLast.map fun line =>
      (fit maxLogLine line).rdropWhile (· = '\r')).filter (· ≠ [])).map encode :=
  (lineWriter_events [[97, 13], [10, 98]]).2.1 "a\r\nb".toList rfl

end Proxor.MacHelper
