import Proxor.Lib.Search

set_option relaxedAutoImplicit false
set_option autoImplicit false

/-!
# The exit address of the full test

The full test asks a host behind the tested proxy for the address it sees, and takes it out of the body of the
response. The host may answer anything.

## Main definitions

* `Proxor.Grpc.getBetweenStr` — the text between two marks; without a value, the program panics.
* `Proxor.Grpc.outIp` — the exit address in the report.
* `Proxor.Grpc.Extracts` — what the address should be.

## Main results

* `Proxor.Grpc.getBetweenStr_of_index` — the text behind the first mark.
* `Proxor.Grpc.getBetweenStr_of_absent` — what happens without a first mark.
* `Proxor.Grpc.extracts_iff` — which bodies are handled as they should be.
* `Proxor.Grpc.not_extracts` — an empty body.
-/

namespace Proxor.Grpc

open Bytes

/-! ### The source -/

/-- `bs[n:]`, which panics if `n` is outside. -/
def sliceFrom (bs : Bytes) (n : ℕ) : Option Bytes := if n ≤ bs.length then some (bs.drop n) else none

/-- `bs[:n]`, which panics if `n` is outside. -/
def sliceTo (bs : Bytes) (n : ℕ) : Option Bytes := if n ≤ bs.length then some (bs.take n) else none

/-- `getBetweenStr`, or none if it panics. -/
def getBetweenStr (str start stop : Bytes) : Option Bytes := do
  let n := (index start str).getD 0
  let str ← sliceFrom str n
  let m := (index stop str).getD str.length
  let str ← sliceTo str m
  sliceFrom str start.length

/-- `"ip="`. -/
def ipMark : Bytes := [105, 112, 61]

/-- `"\n"`. -/
def newline : Bytes := [10]

/-- The exit address in `DoFullTest`, for a body or for a request that failed. -/
def outIp (fullInOut : Bool) (response : Option Bytes) : Option Bytes :=
  if fullInOut then
    match response with
    | some body => getBetweenStr body ipMark newline
    | none => some (ofString "Error")
  else some []

/-! ### The two marks -/

/-- A slice from the end of what was cut off is never outside. -/
lemma sliceFrom_of_le {bs : Bytes} {n : ℕ} (h : n ≤ bs.length) : sliceFrom bs n = some (bs.drop n) := if_pos h

/-- The text up to a byte. -/
lemma sliceTo_index (b : UInt8) (bs : Bytes) :
    sliceTo bs ((index [b] bs).getD bs.length) = some (bs.takeWhile (· != b)) := by
  have hpre := List.takeWhile_prefix (p := (· != b)) (l := bs)
  rw [index_singleton, sliceTo, if_pos hpre.length_le, List.prefix_iff_eq_take.1 hpre]
  simp

/-- The text up to a byte, without as many bytes as the first mark has. -/
lemma getBetweenStr_line (str start : Bytes) (b : UInt8) :
    getBetweenStr str start [b] = (sliceFrom str ((index start str).getD 0)).bind fun rest =>
      sliceFrom (rest.takeWhile (· != b)) start.length := by
  change ((sliceFrom str _).bind fun rest => (sliceTo rest _).bind fun line => sliceFrom line _) = _
  simp only [sliceTo_index, Option.bind_some]

/-- **The text behind the first mark**, up to the byte that ends it. -/
theorem getBetweenStr_of_index {str start : Bytes} {b : UInt8} (hb : b ∉ start) {n : ℕ}
    (h : index start str = some n) :
    getBetweenStr str start [b] = some ((str.drop (n + start.length)).takeWhile (· != b)) := by
  obtain ⟨hle, ⟨rest, hrest⟩, -⟩ := index_eq_some h
  have hstart : ∀ c ∈ start, (c != b) = true := by
    rintro c hc
    rw [bne_iff_ne]
    rintro rfl
    exact hb hc
  have hdrop : str.drop (n + start.length) = rest := by
    rw [← List.drop_drop, ← hrest, List.drop_left]
  have htake : (str.drop n).takeWhile (· != b) = start ++ rest.takeWhile (· != b) := by
    rw [← hrest, List.takeWhile_append_of_pos hstart]
  rw [getBetweenStr_line, h, Option.getD_some, sliceFrom_of_le hle, Option.bind_some, htake,
    sliceFrom_of_le (by rw [List.length_append]; omega), List.drop_left, hdrop]

/-- **Without a first mark**, the first line loses as many bytes as the mark has, or the program panics. -/
theorem getBetweenStr_of_absent {str start : Bytes} (b : UInt8) (h : index start str = none) :
    getBetweenStr str start [b] = sliceFrom (str.takeWhile (· != b)) start.length := by
  rw [getBetweenStr_line, h, Option.getD_none, sliceFrom_of_le (Nat.zero_le _), Option.bind_some, List.drop_zero]

/-! ### The exit address -/

/-- The exit address of a body as it should be: without a panic, the text between the first mark and the end of
its line, and no text of the body if the mark does not occur. -/
structure Extracts (body : Bytes) (result : Option Bytes) : Prop where
  noPanic : result.isSome
  between : ∀ front rest, body = front ++ (ipMark ++ rest) →
    (∀ front' rest', body = front' ++ (ipMark ++ rest') → front.length ≤ front'.length) →
      result = some (rest.takeWhile (· != 10))
  absent : ¬ ipMark <:+: body → ∀ text, result = some text → text <:+: body → text = []

/-- **Which bodies are handled as they should be**: those in which the mark occurs, and those whose first line has
as many bytes as the mark.

**Proof sketch.** Where the mark occurs, nothing is sliced outside. Where it does not, the result is the first line
without as many bytes, so it is a text of the body unless it is empty. -/
theorem extracts_iff (body : Bytes) :
    Extracts body (outIp true (some body)) ↔
      ipMark <:+: body ∨ (body.takeWhile (· != 10)).length = ipMark.length := by
  have hresult : outIp true (some body) = getBetweenStr body ipMark [10] := rfl
  rw [hresult]
  cases hindex : index ipMark body with
  | some n =>
    have hinfix : ipMark <:+: body := by
      rw [← contains_iff, Bytes.contains, hindex]
      rfl
    obtain ⟨hle, hat, hfirst⟩ := index_eq_some hindex
    rw [getBetweenStr_of_index (by decide) hindex]
    refine ⟨fun _ => Or.inl hinfix, fun _ => ⟨rfl, fun front rest hbody hleast => ?_, fun habsent => absurd hinfix habsent⟩⟩
    obtain ⟨rest', hrest'⟩ := hat
    have hlength : front.length = n := by
      refine Nat.le_antisymm ?_ (hfirst _ ?_)
      · have hsplit : body = body.take n ++ (ipMark ++ rest') := by rw [hrest', List.take_append_drop]
        have htake := hleast _ _ hsplit
        rwa [List.length_take, Nat.min_eq_left hle] at htake
      · rw [hbody, List.drop_left]
        exact List.prefix_append _ _
    rw [hbody, ← List.drop_drop, ← hlength, List.drop_left, List.drop_left]
  | none =>
    have hinfix := index_eq_none_iff.1 hindex
    rw [getBetweenStr_of_absent 10 hindex]
    constructor
    · rintro ⟨hpanic, -, habsent⟩
      rw [sliceFrom] at hpanic habsent
      split at hpanic
      · next hle =>
        rw [if_pos hle] at habsent
        have hline : (body.takeWhile (· != 10)).drop ipMark.length <:+: body :=
          (List.drop_suffix _ _).isInfix.trans (List.takeWhile_prefix _).isInfix
        have hnil := habsent hinfix _ rfl hline
        exact Or.inr (Nat.le_antisymm (List.drop_eq_nil_iff.1 hnil) hle)
      · exact absurd hpanic Bool.false_ne_true
    · rintro (hmem | hlength)
      · exact absurd hmem hinfix
      · have hslice : sliceFrom (body.takeWhile (· != 10)) ipMark.length = some [] := by
          rw [sliceFrom_of_le (Nat.le_of_eq hlength.symm), List.drop_eq_nil_of_le (Nat.le_of_eq hlength)]
        rw [hslice]
        refine ⟨rfl, fun front rest hbody => ?_, fun _ text htext _ => (Option.some.inj htext).symm⟩
        exact absurd ⟨front, rest, by rw [hbody, List.append_assoc]⟩ hinfix

/-- **An empty body** makes the program panic. -/
theorem not_extracts : ¬ ∀ body : Bytes, Extracts body (outIp true (some body)) := by
  rintro h
  have hpanic : outIp true (some []) = none := by decide
  have hsome := (h []).noPanic
  rw [hpanic] at hsome
  exact absurd hsome Bool.false_ne_true

end Proxor.Grpc
