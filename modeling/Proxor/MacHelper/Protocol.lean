import Mathlib.Logic.Relation
import Proxor.Lib.Bufio

set_option relaxedAutoImplicit false
set_option autoImplicit false

/-!
# The framing of requests

A request is a line of JSON. The helper, which runs as root, reads lines of a bounded length from whoever
has connected.

## Main definitions

* `Proxor.MacHelper.readStep`, `Proxor.MacHelper.readRequest` — one turn of the loop, and `ReadRequest`.
* `Proxor.MacHelper.readAll` — `ReadRequest` called until the stream is of no more use.
* `Proxor.MacHelper.frames` — what is in a stream, by its lines.
* `Proxor.MacHelper.Codec`, `Proxor.MacHelper.writeMessage` — `encoding/json`, and `WriteMessage`.

## Main results

* `Proxor.MacHelper.readAll_eq` — what is read depends on the stream alone.
* `Proxor.MacHelper.Buffers.bounded` — what is buffered of a line is bounded.
-/

namespace Proxor.MacHelper

open Bufio

/-! ### Reading -/

/-- `MaxLineBytes`. -/
def maxLineBytes : ℕ := 1048576

/-- Why no line is read. -/
inductive LineError
  | tooLong
  | unexpectedEOF
  | eof
deriving DecidableEq

/-- The error of `ReadRequest`: that of the line, or that of its decoding. -/
inductive ReadError (ε : Type)
  | line (e : LineError)
  | decode (e : ε)

/-- How a turn of the loop of `ReadRequest` ends. -/
inductive Turn
  | stop (result : Except LineError Bytes)
  | more (line : Bytes)

/-- The part of a turn for a slice that was appended to the line. -/
def appended (line : Bytes) : SliceEnd → Turn
  | .delim => .stop (.ok line.dropLast)
  | .full => .more line
  | .eof => .stop (.error (if line.length > 0 then .unexpectedEOF else .eof))

/-- One turn of the loop of `ReadRequest`, with the part of the line that was read so far. -/
def readStep (line : Bytes) (r : Reader) : Turn × Reader :=
  match r.readSlice 10 with
  | (chunk, fin, r) =>
    let content := line.length + chunk.length - if fin = .delim then 1 else 0
    (if content > maxLineBytes then .stop (.error .tooLong) else appended (line ++ chunk) fin, r)

/-- What a turn of the loop does with what is pending. -/
inductive TurnCase (line pending : Bytes) : Turn → Bytes → Prop
  | tooLong (start rest pending' : Bytes) (hsplit : line ++ pending = start ++ rest) (hstart : 10 ∉ start)
      (hlong : maxLineBytes < start.length) : TurnCase line pending (.stop (.error .tooLong)) pending'
  | line (content rest : Bytes) (hsplit : line ++ pending = content ++ 10 :: rest) (hcontent : 10 ∉ content)
      (hshort : content.length ≤ maxLineBytes) : TurnCase line pending (.stop (.ok content)) rest
  | more (line' rest : Bytes) (hsplit : line ++ pending = line' ++ rest) (hline : 10 ∉ line')
      (hshort : line'.length ≤ maxLineBytes) (hrest : rest.length < pending.length) :
      TurnCase line pending (.more line') rest
  | unexpectedEOF (hnone : 10 ∉ line ++ pending) (hne : line ++ pending ≠ [])
      (hshort : (line ++ pending).length ≤ maxLineBytes) :
      TurnCase line pending (.stop (.error .unexpectedEOF)) []
  | eof (hempty : line ++ pending = []) : TurnCase line pending (.stop (.error .eof)) []

lemma readStep_spec {line : Bytes} (hline : 10 ∉ line) (r : Reader) :
    TurnCase line r.pending (readStep line r).1 (readStep line r).2.pending := by
  have hslice := r.readSlice_spec 10
  unfold readStep
  generalize r.readSlice 10 = out at hslice ⊢
  obtain ⟨chunk, fin, r'⟩ := out
  dsimp only at hslice ⊢
  generalize r.pending = pending at hslice ⊢
  generalize r'.pending = rest at hslice ⊢
  cases hslice with
  | delim content _ hpending hcontent =>
    have hlen : line.length + (content ++ [10]).length - 1 = (line ++ content).length := by
      rw [List.length_append, List.length_append, List.length_singleton]
      omega
    have hnone : (10 : UInt8) ∉ line ++ content := by
      rw [List.mem_append, not_or]
      exact ⟨hline, hcontent⟩
    have hsplit : line ++ pending = line ++ content ++ 10 :: rest := by
      rw [hpending, List.append_assoc]
    rw [if_pos rfl, hlen]
    by_cases hlong : (line ++ content).length > maxLineBytes
    · rw [if_pos hlong]
      exact .tooLong _ _ _ hsplit hnone hlong
    · rw [if_neg hlong, appended, ← List.append_assoc, List.dropLast_concat]
      exact .line _ _ hsplit hnone (not_lt.1 hlong)
  | full _ _ hpending hslice hne =>
    have hnone : (10 : UInt8) ∉ line ++ chunk := by
      rw [List.mem_append, not_or]
      exact ⟨hline, hslice⟩
    have hsplit : line ++ pending = line ++ chunk ++ rest := by
      rw [hpending, List.append_assoc]
    have hlen : (line.length + chunk.length - if SliceEnd.full = .delim then 1 else 0) =
        (line ++ chunk).length := List.length_append.symm
    rw [hlen]
    by_cases hlong : (line ++ chunk).length > maxLineBytes
    · rw [if_pos hlong]
      exact .tooLong _ _ _ hsplit hnone hlong
    · rw [if_neg hlong, appended]
      refine .more _ _ hsplit hnone (not_lt.1 hlong) ?_
      have hpos := List.length_pos_of_ne_nil hne
      rw [hpending, List.length_append]
      omega
  | eof hslice =>
    have hnone : (10 : UInt8) ∉ line ++ chunk := by
      rw [List.mem_append, not_or]
      exact ⟨hline, hslice⟩
    have hlen : (line.length + chunk.length - if SliceEnd.eof = .delim then 1 else 0) =
        (line ++ chunk).length := List.length_append.symm
    rw [hlen]
    by_cases hlong : (line ++ chunk).length > maxLineBytes
    · rw [if_pos hlong]
      exact .tooLong _ [] _ (List.append_nil _).symm hnone hlong
    · rw [if_neg hlong, appended]
      by_cases hsome : (line ++ chunk).length > 0
      · rw [if_pos hsome]
        exact .unexpectedEOF hnone (List.ne_nil_of_length_pos hsome) (not_lt.1 hlong)
      · rw [if_neg hsome]
        exact .eof (List.length_eq_zero_iff.1 (Nat.eq_zero_of_not_pos hsome))

/-- The loop of `ReadRequest`. -/
def readLine (line : {line : Bytes // 10 ∉ line}) (r : Reader) : Except LineError Bytes × Reader :=
  match h : readStep line r with
  | (.stop result, r') => (result, r')
  | (.more line', r') =>
    readLine ⟨line', by
      have hcase := readStep_spec line.property r
      rw [h] at hcase
      cases hcase with
      | more _ _ _ hline _ _ => exact hline⟩ r'
termination_by r.pending.length
decreasing_by
  have hcase := readStep_spec line.property r
  rw [h] at hcase
  cases hcase with
  | more _ _ _ _ _ hrest => exact hrest

/-- `ReadRequest`. -/
def readRequest {α ε : Type} (unmarshal : Bytes → Except ε α) (r : Reader) :
    Except (ReadError ε) α × Reader :=
  match readLine ⟨[], List.not_mem_nil⟩ r with
  | (.error e, r) => (.error (.line e), r)
  | (.ok line, r) => ((unmarshal line).mapError .decode, r)

/-- What the loop of `ReadRequest` reads from a stream. -/
inductive LineCase (stream : Bytes) : Except LineError Bytes → Bytes → Prop
  | tooLong (start rest pending : Bytes) (hsplit : stream = start ++ rest) (hstart : 10 ∉ start)
      (hlong : maxLineBytes < start.length) : LineCase stream (.error .tooLong) pending
  | line (content rest : Bytes) (hsplit : stream = content ++ 10 :: rest) (hcontent : 10 ∉ content)
      (hshort : content.length ≤ maxLineBytes) : LineCase stream (.ok content) rest
  | unexpectedEOF (hnone : 10 ∉ stream) (hne : stream ≠ []) (hshort : stream.length ≤ maxLineBytes) :
      LineCase stream (.error .unexpectedEOF) []
  | eof (hempty : stream = []) : LineCase stream (.error .eof) []

/-- **The loop.** What it reads depends on what it has read of the line and on what is pending.

**Proof sketch.** Induction on the turns. -/
lemma readLine_spec (line : {line : Bytes // 10 ∉ line}) (r : Reader) :
    LineCase (line ++ r.pending) (readLine line r).1 (readLine line r).2.pending := by
  fun_induction readLine line r with
  | case1 line r result r' h =>
    have hcase := readStep_spec line.property r
    rw [h] at hcase
    dsimp only at hcase ⊢
    generalize r'.pending = rest at hcase ⊢
    cases hcase with
    | tooLong start rest _ hsplit hstart hlong => exact .tooLong start rest _ hsplit hstart hlong
    | line content _ hsplit hcontent hshort => exact .line content _ hsplit hcontent hshort
    | unexpectedEOF hnone hne hshort => exact .unexpectedEOF hnone hne hshort
    | eof hempty => exact .eof hempty
  | case2 line r line' r' h ih =>
    have hcase := readStep_spec line.property r
    rw [h] at hcase
    cases hcase with
    | more _ _ hsplit _ _ _ =>
      rw [hsplit]
      exact ih

lemma first_line (r : Reader) : LineCase r.pending (readLine ⟨[], List.not_mem_nil⟩ r).1
    (readLine ⟨[], List.not_mem_nil⟩ r).2.pending :=
  readLine_spec ⟨[], List.not_mem_nil⟩ r

/-- What is left after a line is shorter. -/
lemma readLine_lt {r r' : Reader} {content : Bytes}
    (h : readLine ⟨[], List.not_mem_nil⟩ r = (.ok content, r')) : r'.pending.length < r.pending.length := by
  have hcase := first_line r
  rw [h] at hcase
  cases hcase with
  | line _ _ hsplit _ _ =>
    have hlen := congrArg List.length hsplit
    rw [List.length_append, List.length_cons] at hlen
    dsimp only at hlen
    omega

/-! ### Repeated reading -/

section ReadAll

variable {α ε : Type} (unmarshal : Bytes → Except ε α)

/-- What comes of a line. -/
def outcome : Except LineError Bytes → Except (ReadError ε) α
  | .error e => .error (.line e)
  | .ok line => (unmarshal line).mapError .decode

/-- A request, or an error after which no other one is read. -/
lemma readRequest_eq (r : Reader) : readRequest unmarshal r =
    (outcome unmarshal (readLine ⟨[], List.not_mem_nil⟩ r).1, (readLine ⟨[], List.not_mem_nil⟩ r).2) := by
  unfold readRequest
  generalize readLine ⟨[], List.not_mem_nil⟩ r = out
  obtain ⟨_ | _, _⟩ := out <;> rfl

/-- The results of `ReadRequest` up to the first error that is none of decoding. -/
def readAll (r : Reader) : List (Except (ReadError ε) α) :=
  match h : readRequest unmarshal r with
  | (.error (.line e), _) => [.error (.line e)]
  | (.error (.decode e), r') => .error (.decode e) :: readAll r'
  | (.ok req, r') => .ok req :: readAll r'
termination_by r.pending.length
decreasing_by
  all_goals
    rw [readRequest_eq] at h
    have hres := congrArg Prod.fst h
    have hr := congrArg Prod.snd h
    dsimp only at hres hr
    cases hline : (readLine ⟨[], List.not_mem_nil⟩ r).1 with
    | error e =>
      rw [hline] at hres
      cases hres
    | ok content => exact readLine_lt (Prod.ext hline hr)

/-- What is in a stream with these lines, the last of which is not ended: each line, up to one that is too
long or to the end. -/
def frames : List Bytes → List (Except LineError Bytes)
  | [] => []
  | [last] =>
    [.error (if maxLineBytes < last.length then .tooLong else if last = [] then .eof else .unexpectedEOF)]
  | line :: lines => if maxLineBytes < line.length then [.error .tooLong] else .ok line :: frames lines

/-- A stream whose first line is too long. -/
lemma frames_of_long {stream start rest : Bytes} (hsplit : stream = start ++ rest) (hstart : 10 ∉ start)
    (hlong : maxLineBytes < start.length) : frames (Bytes.lines stream) = [.error .tooLong] := by
  rw [Bytes.lines, hsplit]
  by_cases hmem : (10 : UInt8) ∈ rest
  · obtain ⟨content, rest', rfl, hcontent⟩ := List.eq_append_cons_of_mem hmem
    have hnone : (10 : UInt8) ∉ start ++ content := by
      rw [List.mem_append, not_or]
      exact ⟨hstart, hcontent⟩
    have hlen : maxLineBytes < (start ++ content).length := by
      rw [List.length_append]
      omega
    rw [← List.append_assoc, List.splitOn_append_cons_self_of_not_mem hnone]
    cases hlines : rest'.splitOn 10 with
    | nil => exact absurd hlines (List.splitOn_ne_nil _ _)
    | cons line lines => rw [frames, if_pos hlen]; exact List.cons_ne_nil _ _
  · have hnone : (10 : UInt8) ∉ start ++ rest := by
      rw [List.mem_append, not_or]
      exact ⟨hstart, hmem⟩
    have hlen : maxLineBytes < (start ++ rest).length := by
      rw [List.length_append]
      omega
    rw [List.splitOn_eq_singleton hnone, frames, if_pos hlen]

/-- A line that is short enough. -/
lemma frames_of_line {content rest : Bytes} (hcontent : 10 ∉ content)
    (hshort : content.length ≤ maxLineBytes) :
    frames (Bytes.lines (content ++ 10 :: rest)) = .ok content :: frames (Bytes.lines rest) := by
  rw [Bytes.lines, List.splitOn_append_cons_self_of_not_mem hcontent, Bytes.lines]
  cases hlines : rest.splitOn 10 with
  | nil => exact absurd hlines (List.splitOn_ne_nil _ _)
  | cons line lines => rw [frames, if_neg (not_lt.2 hshort)]; exact List.cons_ne_nil _ _

/-- A stream that ends. -/
lemma frames_of_error {stream rest : Bytes} {e : LineError} (h : LineCase stream (.error e) rest) :
    frames (Bytes.lines stream) = [.error e] := by
  cases h with
  | tooLong start rest _ hsplit hstart hlong => exact frames_of_long hsplit hstart hlong
  | unexpectedEOF hnone hne hshort =>
    rw [Bytes.lines, List.splitOn_eq_singleton hnone, frames, if_neg (not_lt.2 hshort), if_neg hne]
  | eof hempty =>
    rw [hempty]
    rfl

/-- A stream that begins with a line. -/
lemma frames_of_ok {stream content rest : Bytes} (h : LineCase stream (.ok content) rest) :
    frames (Bytes.lines stream) = .ok content :: frames (Bytes.lines rest) := by
  cases h with
  | line _ _ hsplit hcontent hshort =>
    rw [hsplit]
    exact frames_of_line hcontent hshort

/-- **What is read** depends on the stream alone.

**Proof sketch.** Induction on the requests: each of them takes one line from what is pending, or ends. -/
lemma readAll_eq (r : Reader) :
    readAll unmarshal r = (frames (Bytes.lines r.pending)).map (outcome unmarshal) := by
  fun_induction readAll unmarshal r with
  | case1 r e r' h =>
    have hcase := first_line r
    rw [readRequest_eq] at h
    have hres := congrArg Prod.fst h
    dsimp only at hres
    cases hline : (readLine ⟨[], List.not_mem_nil⟩ r).1 with
    | ok content =>
      rw [hline, outcome] at hres
      cases hdecode : unmarshal content <;> rw [hdecode] at hres <;> cases hres
    | error e' =>
      rw [hline] at hcase hres
      cases hres
      rw [frames_of_error hcase]
      rfl
  | case2 r e r' h ih =>
    have hcase := first_line r
    rw [readRequest_eq] at h
    have hres := congrArg Prod.fst h
    have hr := congrArg Prod.snd h
    dsimp only at hres hr
    cases hline : (readLine ⟨[], List.not_mem_nil⟩ r).1 with
    | ok content =>
      rw [hline] at hcase hres
      rw [frames_of_ok hcase, List.map_cons, hres, hr, ih]
    | error e' =>
      rw [hline] at hres
      cases hres
  | case3 r req r' h ih =>
    have hcase := first_line r
    rw [readRequest_eq] at h
    have hres := congrArg Prod.fst h
    have hr := congrArg Prod.snd h
    dsimp only at hres hr
    cases hline : (readLine ⟨[], List.not_mem_nil⟩ r).1 with
    | ok content =>
      rw [hline] at hcase hres
      rw [frames_of_ok hcase, List.map_cons, hres, hr, ih]
    | error e' =>
      rw [hline] at hres
      cases hres

end ReadAll

/-! ### What is buffered -/

/-- The loop of `ReadRequest` on a reader comes to have read a part of a line. -/
inductive Buffers (r : Reader) : Bytes → Reader → Prop
  | start : Buffers r [] r
  | more {line line' : Bytes} {r' r'' : Reader} (hline : Buffers r line r')
      (hstep : readStep line r' = (.more line', r'')) : Buffers r line' r''

/-- What is buffered of a line is no more than a line may have. -/
lemma Buffers.bounded {r r' : Reader} {line : Bytes} (h : Buffers r line r') :
    10 ∉ line ∧ line.length ≤ maxLineBytes := by
  induction h with
  | start => exact ⟨List.not_mem_nil, Nat.zero_le _⟩
  | @more line line' r' r'' _ hstep ih =>
    have hcase := readStep_spec ih.1 r'
    rw [hstep] at hcase
    cases hcase with
    | more _ _ _ hline hshort _ => exact ⟨hline, hshort⟩

/-! ### Messages -/

/-- What is used of `encoding/json` for messages of a type: how they are written, in one line, and read
back. -/
structure Codec (α ε : Type) where
  marshal : α → Bytes
  unmarshal : Bytes → Except ε α
  unmarshal_marshal : ∀ v, unmarshal (marshal v) = .ok v
  newline_not_mem_marshal : ∀ v, 10 ∉ marshal v

/-- `WriteMessage`: what is written. -/
def writeMessage {α ε : Type} (codec : Codec α ε) (v : α) : Bytes := codec.marshal v ++ [10]

/-- Lines that are short enough, with their newlines. -/
structure ShortLines where
  lines : List Bytes
  newline_not_mem : ∀ line ∈ lines, 10 ∉ line
  short : ∀ line ∈ lines, line.length ≤ maxLineBytes

/-- The bytes of the lines. -/
def ShortLines.bytes (l : ShortLines) : Bytes := l.lines.flatMap (· ++ [10])

lemma frames_of_lines {lines : List Bytes} (hnone : ∀ line ∈ lines, 10 ∉ line)
    (hshort : ∀ line ∈ lines, line.length ≤ maxLineBytes) (rest : Bytes) :
    frames (Bytes.lines (lines.flatMap (· ++ [10]) ++ rest)) =
      lines.map .ok ++ frames (Bytes.lines rest) := by
  induction lines with
  | nil => rfl
  | cons line lines ih =>
    obtain ⟨hnone, hnones⟩ := List.forall_mem_cons.1 hnone
    obtain ⟨hshort, hshorts⟩ := List.forall_mem_cons.1 hshort
    rw [List.flatMap_cons, List.append_assoc, List.append_assoc, List.singleton_append,
      frames_of_line hnone hshort, ih hnones hshorts]
    rfl

end Proxor.MacHelper
