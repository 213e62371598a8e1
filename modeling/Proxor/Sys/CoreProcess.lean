import Proxor.Lib.Search

set_option relaxedAutoImplicit false
set_option autoImplicit false

/-!
# Whether the core is up

The program learns from what the core writes that it is up, or that it failed to start. It looks at the bytes of
one read at a time.

## Main definitions

* `Proxor.Sys.CoreProcess` — the process, as far as its output decides about it.
* `Proxor.Sys.CoreProcess.readyReadStandardOutput` — what is done with the bytes of a read.
* `Proxor.Sys.CoreProcess.stateChanged` — what is done when the process has ended.
* `Proxor.Sys.CoreProcess.handled` — a stream in pieces, and the end of the process.
* `Proxor.Sys.CoreProcess.Ready` — what should be when the stream has been handled.

## Main results

* `Proxor.Sys.CoreProcess.foldl_running`, `Proxor.Sys.CoreProcess.foldl_killed` — what a run of reads does.
* `Proxor.Sys.CoreProcess.ready_iff` — which pieces are handled as they should be.
* `Proxor.Sys.CoreProcess.not_ready` — a line in two pieces.
-/

namespace Proxor.Sys

open Bytes

/-- The core, and what was told about it. -/
structure CoreProcess where
  core_running : Bool := false
  start_profile_when_core_is_up : ℤ := -1
  /-- `QProcess::kill` was called. -/
  killed : Bool := false
  /-- What was sent with `MW_dialog_message`. -/
  messages : List String := []
  /-- `Restart` is called after a second. -/
  restarts : Bool := false
deriving DecidableEq

namespace CoreProcess

/-! ### The source -/

/-- `"grpc server listening"`. -/
def listening : Bytes := ofString "grpc server listening"

/-- `"failed to serve"`. -/
def failedToServe : Bytes := ofString "failed to serve"

/-- What is done with the bytes of a read, apart from the log. -/
def readyReadStandardOutput (s : CoreProcess) (raw : Bytes) : CoreProcess :=
  if s.core_running then s
  else if raw.contains listening then
    let s := { s with core_running := true }
    if 0 ≤ s.start_profile_when_core_is_up then
      { s with
        messages := s.messages ++ ["CoreStarted," ++ toString s.start_profile_when_core_is_up]
        start_profile_when_core_is_up := -1 }
    else s
  else if raw.contains failedToServe then { s with killed := true }
  else s

/-- What decides about a restart when the process has ended: whether the program exits, whether the process could not
be started, whether it is restarted already, the profile that was started, and the milliseconds since the last
restart, if there was one. -/
structure Exit where
  prepare_exit : Bool := false
  failed_to_start : Bool := false
  restarting : Bool := false
  started_id : ℤ := -1919
  sinceRestart : Option ℕ := none

/-- What is done when the process has ended. -/
def stateChanged (e : Exit) (s : CoreProcess) : CoreProcess :=
  let s := { s with core_running := false }
  if e.prepare_exit then s
  else if e.failed_to_start then s
  else if e.restarting then s
  else
    let s := { s with messages := s.messages ++ ["CoreCrashed"] }
    if e.sinceRestart.any (· < 10 * 1000) then s
    else { s with start_profile_when_core_is_up := e.started_id, restarts := true }

/-- The core after its start, with a profile that waits for it, or none. -/
def started (waiting : ℤ) : CoreProcess := { start_profile_when_core_is_up := waiting }

/-- What the core wrote after its start, in pieces, has been handled, and the process may have ended. -/
def handled (waiting : ℤ) (pieces : List Bytes) (exit : Option Exit) : CoreProcess :=
  exit.elim id stateChanged (pieces.foldl readyReadStandardOutput (started waiting))

/-! ### Runs of reads -/

/-- What a read does before the core is up. -/
lemma readyRead_of_not_running {s : CoreProcess} (h : s.core_running = false) (raw : Bytes) :
    (readyReadStandardOutput s raw).core_running = raw.contains listening ∧
      (readyReadStandardOutput s raw).killed =
        (s.killed || (!raw.contains listening && raw.contains failedToServe)) := by
  rw [readyReadStandardOutput, if_neg (by rw [h]; exact Bool.false_ne_true)]
  cases hup : raw.contains listening with
  | true =>
    rw [if_pos rfl]
    dsimp only
    split <;> simp
  | false =>
    rw [if_neg Bool.false_ne_true]
    cases hfailed : raw.contains failedToServe <;> simp [h]

/-- Nothing is done any more when the core is up. -/
lemma foldl_of_running {s : CoreProcess} (h : s.core_running = true) (pieces : List Bytes) :
    pieces.foldl readyReadStandardOutput s = s := by
  induction pieces with
  | nil => rfl
  | cons raw pieces ih => rw [List.foldl_cons, readyReadStandardOutput, if_pos h, ih]

/-- **The core is up** exactly if a read had the whole text. -/
theorem foldl_running {s : CoreProcess} (h : s.core_running = false) (pieces : List Bytes) :
    (pieces.foldl readyReadStandardOutput s).core_running = pieces.any (·.contains listening) := by
  induction pieces generalizing s with
  | nil => exact h
  | cons raw pieces ih =>
    obtain ⟨hup, -⟩ := readyRead_of_not_running h raw
    rw [List.foldl_cons, List.any_cons]
    cases hread : raw.contains listening with
    | true =>
      rw [hread] at hup
      rw [foldl_of_running hup, hup, Bool.true_or]
    | false =>
      rw [hread] at hup
      rw [ih hup, Bool.false_or]

/-- **The core is killed** exactly if a read had the text of a failure before one had that of the core that is up. -/
theorem foldl_killed {s : CoreProcess} (h : s.core_running = false) (pieces : List Bytes) :
    (pieces.foldl readyReadStandardOutput s).killed =
      (s.killed || (pieces.takeWhile (!·.contains listening)).any (·.contains failedToServe)) := by
  induction pieces generalizing s with
  | nil => exact (Bool.or_false _).symm
  | cons raw pieces ih =>
    obtain ⟨hup, hkilled⟩ := readyRead_of_not_running h raw
    rw [List.foldl_cons]
    cases hread : raw.contains listening with
    | true =>
      rw [hread] at hup hkilled
      rw [foldl_of_running hup, hkilled, List.takeWhile_cons_of_neg (by rw [hread]; exact Bool.false_ne_true)]
      rfl
    | false =>
      rw [hread] at hup hkilled
      rw [ih hup, hkilled, List.takeWhile_cons_of_pos (by rw [hread]; rfl), List.any_cons, Bool.not_false,
        Bool.true_and, Bool.or_assoc]

/-- **Who waits is told once**, when the core is up. -/
theorem foldl_told {s : CoreProcess} (h : s.core_running = false) (hwaiting : 0 ≤ s.start_profile_when_core_is_up)
    {pieces : List Bytes} (hup : pieces.any (·.contains listening) = true) :
    (pieces.foldl readyReadStandardOutput s).messages =
        s.messages ++ ["CoreStarted," ++ toString s.start_profile_when_core_is_up] ∧
      (pieces.foldl readyReadStandardOutput s).start_profile_when_core_is_up = -1 := by
  induction pieces generalizing s with
  | nil => exact absurd hup Bool.false_ne_true
  | cons raw pieces ih =>
    rw [List.foldl_cons]
    obtain ⟨hrunning, -⟩ := readyRead_of_not_running h raw
    cases hread : raw.contains listening with
    | true =>
      rw [hread] at hrunning
      rw [foldl_of_running hrunning, readyReadStandardOutput, if_neg (by rw [h]; exact Bool.false_ne_true), hread,
        if_pos rfl]
      dsimp only
      rw [if_pos hwaiting]
      exact ⟨rfl, rfl⟩
    | false =>
      rw [hread] at hrunning
      have hsame : (readyReadStandardOutput s raw).start_profile_when_core_is_up = s.start_profile_when_core_is_up ∧
          (readyReadStandardOutput s raw).messages = s.messages := by
        rw [readyReadStandardOutput, if_neg (by rw [h]; exact Bool.false_ne_true), hread, if_neg Bool.false_ne_true]
        split <;> exact ⟨rfl, rfl⟩
      rw [List.any_cons, hread, Bool.false_or] at hup
      have hrest := ih hrunning (by rw [hsame.1]; exact hwaiting) hup
      rwa [hsame.1, hsame.2] at hrest

/-! ### What should be -/

/-- The core failed before it was up: the text of a failure is before the first of a core that is up, or there is no
such text. -/
def FailedBefore (stream : Bytes) : Prop :=
  failedToServe <:+: stream.take ((index listening stream).getD stream.length)

/-- What should be when a stream has been handled: the core is up exactly if the stream says so and the process has
not ended, who waits for it was told once, and the core is killed if it failed before it was up. -/
structure Ready (stream : Bytes) (waiting : ℤ) (ended : Bool) (s : CoreProcess) : Prop where
  running : s.core_running = true ↔ listening <:+: stream ∧ ended = false
  told : s.core_running = true → 0 ≤ waiting →
    s.messages = ["CoreStarted," ++ toString waiting] ∧ s.start_profile_when_core_is_up = -1
  killed : FailedBefore stream → s.killed = true

/-- The text of a core that is up is in one piece of the stream. -/
def UpInPiece (pieces : List Bytes) : Prop := ∃ raw ∈ pieces, listening <:+: raw

/-- The text of a failure is in one piece before those with the text of a core that is up. -/
def FailedInPiece (pieces : List Bytes) : Prop :=
  ∃ raw ∈ pieces.takeWhile (!·.contains listening), failedToServe <:+: raw

lemma upInPiece_iff {pieces : List Bytes} : UpInPiece pieces ↔ pieces.any (·.contains listening) = true := by
  rw [List.any_eq_true]
  exact exists_congr fun raw => and_congr_right fun _ => contains_iff.symm

lemma failedInPiece_iff {pieces : List Bytes} :
    FailedInPiece pieces ↔
      (pieces.takeWhile (!·.contains listening)).any (·.contains failedToServe) = true := by
  rw [List.any_eq_true]
  exact exists_congr fun raw => and_congr_right fun _ => contains_iff.symm

/-- The end of the process changes neither of these. -/
lemma handled_some (waiting : ℤ) (pieces : List Bytes) (e : Exit) :
    (handled waiting pieces (some e)).core_running = false ∧
      (handled waiting pieces (some e)).killed = (handled waiting pieces none).killed := by
  rw [handled, Option.elim_some, stateChanged]
  dsimp only
  split_ifs <;> exact ⟨rfl, rfl⟩

/-- **Which pieces are handled as they should be**: those that have the text of a core that is up in one piece, if the
process has not ended, and the text of a failure before it in one piece that is before it. -/
theorem ready_iff (waiting : ℤ) (pieces : List Bytes) (exit : Option Exit) :
    Ready pieces.flatten waiting exit.isSome (handled waiting pieces exit) ↔
      (exit.isSome = false → listening <:+: pieces.flatten → UpInPiece pieces) ∧
        (FailedBefore pieces.flatten → FailedInPiece pieces) := by
  have hrunning : (handled waiting pieces none).core_running = true ↔ UpInPiece pieces := by
    rw [upInPiece_iff]
    exact Bool.eq_iff_iff.1 (foldl_running rfl pieces)
  have hkilled : (handled waiting pieces exit).killed = true ↔ FailedInPiece pieces := by
    have hnone : (handled waiting pieces none).killed = true ↔ FailedInPiece pieces := by
      rw [failedInPiece_iff]
      exact Bool.eq_iff_iff.1 (foldl_killed rfl pieces)
    cases exit with
    | none => exact hnone
    | some e => rw [(handled_some waiting pieces e).2, hnone]
  have hwithin : UpInPiece pieces → listening <:+: pieces.flatten := by
    rintro ⟨raw, hraw, hup⟩
    exact hup.trans (List.infix_of_mem_flatten hraw)
  constructor
  · rintro ⟨hup, -, hfail⟩
    refine ⟨fun hexit hstream => ?_, fun h => hkilled.1 (hfail h)⟩
    cases exit with
    | none => exact hrunning.1 (hup.2 ⟨hstream, rfl⟩)
    | some e => exact absurd hexit.symm Bool.false_ne_true
  · rintro ⟨hup, hfail⟩
    cases exit with
    | none =>
      refine ⟨⟨fun h => ⟨hwithin (hrunning.1 h), rfl⟩, fun h => hrunning.2 (hup rfl h.1)⟩, fun h hwaiting => ?_,
        fun h => hkilled.2 (hfail h)⟩
      exact foldl_told rfl hwaiting (upInPiece_iff.1 (hrunning.1 h))
    | some e =>
      have hdown := (handled_some waiting pieces e).1
      refine ⟨⟨fun h => ?_, fun h => ?_⟩, fun h => ?_, fun h => hkilled.2 (hfail h)⟩
      · exact absurd (hdown.symm.trans h) Bool.false_ne_true
      · exact absurd h.2.symm Bool.false_ne_true
      · exact absurd (hdown.symm.trans h) Bool.false_ne_true

/-- **A line in two pieces**: the core is up and the program does not know it. -/
theorem not_ready :
    ¬ ∀ (waiting : ℤ) (pieces : List Bytes) (exit : Option Exit),
      Ready pieces.flatten waiting exit.isSome (handled waiting pieces exit) := by
  rintro h
  have hdown : (handled 5 [ofString "proxor_core grpc server lis", ofString "tening at 127.0.0.1:1"] none).core_running =
      false := by
    decide +kernel
  have hstream : Bytes.contains
      [ofString "proxor_core grpc server lis", ofString "tening at 127.0.0.1:1"].flatten listening = true := by
    decide +kernel
  have hup := (h 5 [ofString "proxor_core grpc server lis", ofString "tening at 127.0.0.1:1"] none).running.2
    ⟨contains_iff.1 hstream, rfl⟩
  exact absurd (hdown.symm.trans hup) Bool.false_ne_true

end CoreProcess

end Proxor.Sys
