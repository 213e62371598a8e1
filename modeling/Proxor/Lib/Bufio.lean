import Mathlib.Data.List.Basic
import Proxor.Lib.Bytes

set_option relaxedAutoImplicit false
set_option autoImplicit false

/-!
# A buffered reader

A source delivers a stream in pieces; a buffered reader of some size hands out slices up to a delimiter.
What a slice is depends on the pieces and on the size, but slices are put together to the stream.

## Main definitions

* `Bufio.Source` — a stream in pieces, then its end.
* `Bufio.Reader`, `Bufio.Reader.readSlice` — a reader and `ReadSlice`.

## Main results

* `Bufio.Reader.readSlice_spec` — a slice is the next part of what is pending.
-/

namespace Bufio

/-- A stream as it is delivered, in pieces that are not empty. The end of the stream may come with the last
of them or after it. -/
structure Source where
  pieces : List {p : Bytes // p ≠ []}
  endWithLast : Bool

namespace Source

/-- The rest of the stream. -/
def bytes (s : Source) : Bytes := (s.pieces.map Subtype.val).flatten

/-- `Read` into `n` bytes: what is read, and whether the stream is at its end. -/
def read (s : Source) (n : ℕ) : Bytes × Bool × Source :=
  match s.pieces with
  | [] => ([], true, s)
  | p :: ps =>
    if h : n < p.val.length then
      (p.val.take n, false,
        { s with pieces := ⟨p.val.drop n, List.ne_nil_of_length_pos (by
          rw [List.length_drop]; omega)⟩ :: ps })
    else (p.val, s.endWithLast && ps.isEmpty, { s with pieces := ps })

/-- What a read returns and what it leaves is the stream; where there is more, it returns something. -/
lemma read_spec (s : Source) {n : ℕ} (hn : 0 < n) :
    (s.read n).1 ++ (s.read n).2.2.bytes = s.bytes ∧
      ((s.read n).2.1 = true → (s.read n).2.2.pieces = []) ∧
      ((s.read n).1 ≠ [] ∨ (s.read n).2.1 = true) := by
  unfold read
  cases hpieces : s.pieces with
  | nil => exact ⟨rfl, fun _ => hpieces, .inr rfl⟩
  | cons p ps =>
    have hbytes : s.bytes = p.val ++ (ps.map Subtype.val).flatten := by
      rw [bytes, hpieces, List.map_cons, List.flatten_cons]
    dsimp only
    split_ifs with hlong
    · refine ⟨?_, by rintro ⟨⟩, .inl ?_⟩
      · rw [hbytes, bytes, List.map_cons, List.flatten_cons, ← List.append_assoc, List.take_append_drop]
      · refine List.ne_nil_of_length_pos ?_
        rw [List.length_take]
        omega
    · refine ⟨hbytes.symm, fun hend => ?_, .inl p.property⟩
      rw [Bool.and_eq_true] at hend
      exact List.isEmpty_iff.1 hend.2

end Source

/-- A reader: its size, what is buffered, and whether the end of the source was seen. -/
structure Reader where
  size : ℕ
  buf : Bytes
  atEnd : Bool
  source : Source
  size_pos : 0 < size
  ended : atEnd = true → source.pieces = []

/-- How a slice ends. -/
inductive SliceEnd
  | delim
  | full
  | eof
deriving DecidableEq

namespace Reader

/-- `NewReaderSize`, which knows no smaller buffers than of 16 bytes. -/
def new (source : Source) (size : ℕ) : Reader where
  size := max size 16
  buf := []
  atEnd := false
  source := source
  size_pos := by omega
  ended := by rintro ⟨⟩

/-- What is still to be read. -/
def pending (r : Reader) : Bytes := r.buf ++ r.source.bytes

/-- `fill`, for a buffer with room. -/
def fill (r : Reader) (hroom : r.buf.length < r.size) : Reader where
  size := r.size
  buf := r.buf ++ (r.source.read (r.size - r.buf.length)).1
  atEnd := (r.source.read (r.size - r.buf.length)).2.1
  source := (r.source.read (r.size - r.buf.length)).2.2
  size_pos := r.size_pos
  ended := (r.source.read_spec (Nat.sub_pos_of_lt hroom)).2.1

/-- The buffer is handed out up to `n`, and the end is forgotten. -/
def advance (r : Reader) (n : ℕ) (atEnd : Bool) (h : atEnd = true → r.atEnd = true) : Reader :=
  { r with buf := r.buf.drop n, atEnd := atEnd, ended := fun hend => r.ended (h hend) }

lemma pending_fill (r : Reader) (hroom : r.buf.length < r.size) : (r.fill hroom).pending = r.pending := by
  have hread := (r.source.read_spec (Nat.sub_pos_of_lt hroom)).1
  rw [pending, fill, List.append_assoc, hread, pending]

/-- A fill reads something or sees the end. -/
lemma fill_lt (r : Reader) (hroom : r.buf.length < r.size) (hend : r.atEnd = false) :
    (r.fill hroom).source.bytes.length + (if (r.fill hroom).atEnd then 0 else 1) <
      r.source.bytes.length + if r.atEnd then 0 else 1 := by
  obtain ⟨hread, -, hprogress⟩ := r.source.read_spec (Nat.sub_pos_of_lt hroom)
  have hlen := congrArg List.length hread
  rw [List.length_append] at hlen
  rw [hend, if_neg Bool.false_ne_true]
  change (r.source.read (r.size - r.buf.length)).2.2.bytes.length +
    (if (r.source.read (r.size - r.buf.length)).2.1 = true then 0 else 1) < _
  rcases hprogress with hsome | hatEnd
  · have hpos := List.length_pos_of_ne_nil hsome
    split_ifs <;> omega
  · rw [if_pos hatEnd]
    omega

/-- `ReadSlice`: the slice, how it ends, and the reader after it. -/
def readSlice (r : Reader) (delim : UInt8) : Bytes × SliceEnd × Reader :=
  if delim ∈ r.buf then
    (r.buf.take (r.buf.idxOf delim + 1), .delim,
      r.advance (r.buf.idxOf delim + 1) r.atEnd id)
  else if hend : r.atEnd then (r.buf, .eof, r.advance r.buf.length false (by rintro ⟨⟩))
  else if hroom : r.buf.length < r.size then (r.fill hroom).readSlice delim
  else (r.buf, .full, r.advance r.buf.length r.atEnd id)
termination_by r.source.bytes.length + if r.atEnd then 0 else 1
decreasing_by exact r.fill_lt hroom (Bool.eq_false_iff.2 hend)

/-- What a slice can be. -/
inductive SliceCase (delim : UInt8) (pending : Bytes) : Bytes → SliceEnd → Bytes → Prop
  | delim (line rest : Bytes) (hpending : pending = line ++ delim :: rest) (hline : delim ∉ line) :
      SliceCase delim pending (line ++ [delim]) .delim rest
  | full (slice rest : Bytes) (hpending : pending = slice ++ rest) (hslice : delim ∉ slice)
      (hne : slice ≠ []) : SliceCase delim pending slice .full rest
  | eof (hslice : delim ∉ pending) : SliceCase delim pending pending .eof []

/-- **A slice.** It is the next part of what is pending: a line with its delimiter, or a part of one.

**Proof sketch.** Induction on the fills, which change nothing that is pending. -/
theorem readSlice_spec (r : Reader) (delim : UInt8) :
    SliceCase delim r.pending (r.readSlice delim).1 (r.readSlice delim).2.1
      (r.readSlice delim).2.2.pending := by
  fun_induction readSlice r delim with
  | case1 r hmem =>
    obtain ⟨line, rest, hbuf, hline⟩ := List.eq_append_cons_of_mem hmem
    have hidx : r.buf.idxOf delim = line.length := by
      rw [hbuf, List.idxOf_append_of_notMem hline, List.idxOf_cons_self, Nat.add_zero]
    have htake : r.buf.take (r.buf.idxOf delim + 1) = line ++ [delim] := by
      rw [hidx, hbuf, List.take_append, List.take_of_length_le (Nat.le_succ _)]
      simp
    have hdrop : r.buf.drop (r.buf.idxOf delim + 1) = rest := by
      rw [hidx, hbuf, List.drop_append, List.drop_of_length_le (Nat.le_succ _)]
      simp
    dsimp only
    rw [htake, pending, advance, hdrop]
    refine .delim line _ ?_ hline
    rw [pending, hbuf, List.append_assoc, List.cons_append]
  | case2 r hmem hend =>
    have hpending : r.pending = r.buf := by
      rw [pending, Source.bytes, r.ended hend]
      exact List.append_nil _
    have hrest : (r.advance r.buf.length false (by rintro ⟨⟩)).pending = [] := by
      rw [pending, advance, List.drop_length, Source.bytes, r.ended hend]
      rfl
    dsimp only
    rw [hrest, hpending]
    exact .eof hmem
  | case3 r hmem hend hroom ih =>
    rwa [pending_fill] at ih
  | case4 r hmem hend hroom =>
    have hrest : (r.advance r.buf.length r.atEnd id).pending = r.source.bytes := by
      rw [pending, advance, List.drop_length, List.nil_append]
    have hpos : 0 < r.buf.length := lt_of_lt_of_le r.size_pos (not_lt.1 hroom)
    dsimp only
    rw [hrest]
    exact .full _ _ rfl hmem (List.ne_nil_of_length_pos hpos)

end Reader

end Bufio
