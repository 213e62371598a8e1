import Proxor.Lib.Spacing
import Proxor.Lib.Text
import Proxor.Lib.Utf8

set_option relaxedAutoImplicit false
set_option autoImplicit false

/-!
# The helper without its app

The helper removes itself when the app it was installed for is gone. From time to time it reads where the app was and
looks whether it is there; it removes itself after three misses in a row that are ten minutes apart, unless it is in
use. What it cannot tell counts as a hit.

## Main definitions

* `Proxor.MacHelper.OrphanTracker` — the count of misses, with `observe` and `observeApp`.
* `Proxor.MacHelper.Check` — what a check finds.
* `Proxor.MacHelper.Check.Gone` — the app is gone for sure.
* `Proxor.MacHelper.orphanLoop` — the tracker after some checks.

## Main results

* `Proxor.MacHelper.removes_iff` — when the helper removes itself.

## Design

Times are nanoseconds of a clock that does not go back. A check is one step, with what it reads.
-/

namespace Proxor.MacHelper

open Text Spacing

/-! ### The tracker -/

/-- How many spaced misses trigger the removal. -/
def orphanMisses : ℕ := 3

/-- The least gap between two misses that count: ten minutes. -/
def orphanSpacing : ℤ := 10 * 60 * 10 ^ 9

/-- How many misses were counted, and when the last of them was. -/
structure OrphanTracker where
  misses : ℕ := 0
  last : ℤ := 0
deriving DecidableEq

namespace OrphanTracker

/-- A hit, or what counts as one. -/
def reset : OrphanTracker := {}

/-- `Observe`: a miss that comes too soon is not counted, and does not reset the count. -/
def observe (t : OrphanTracker) (now : ℤ) (found : Bool) : OrphanTracker × Bool :=
  if found then (reset, false)
  else
    let t := if t.misses = 0 ∨ orphanSpacing ≤ now - t.last then { misses := t.misses + 1, last := now } else t
    (t, orphanMisses ≤ t.misses)

/-- `ObserveApp`: a path that is empty or relative never triggers the removal. -/
def observeApp (t : OrphanTracker) (now : ℤ) (path : String) (found : String → Bool) : OrphanTracker × Bool :=
  let path := trimSpace path
  if path = "" ∨ hasPrefix path "/" = false then (reset, false) else t.observe now (found path)

end OrphanTracker

/-! ### The checks -/

/-- What `Stat` says of a path. -/
inductive Stat
  | found
  | notExist
  | failed
deriving DecidableEq

/-- `appPresent`: only what definitely does not exist is missing. -/
def appPresent (s : Stat) : Bool := s ≠ .notExist

/-- What a check finds: the time, what is in the file with the path of the app, what is there, and whether Tun or the
system proxy are in use. -/
structure Check where
  now : ℤ
  data : Option Bytes
  stat : String → Stat
  inUse : Bool

/-- `readAppPath`: the first line of the file, and nothing if it cannot be read. -/
def Check.readAppPath (c : Check) : String :=
  match c.data with
  | none => ""
  | some data => trimSpace ((splitLines (String.ofList (Utf8.decode data))).headD "")

/-- One check: the tracker, and whether the helper removes itself. -/
def check (t : OrphanTracker) (c : Check) : OrphanTracker × Bool :=
  let r := t.observeApp c.now c.readAppPath fun path => appPresent (c.stat path)
  (r.1, r.2 && !c.inUse)

/-- The tracker after some checks. -/
def orphanLoop (checks : List Check) : OrphanTracker := checks.foldl (fun t c => (check t c).1) {}

/-- The app is gone for sure: its path is known, and there is nothing. -/
def Check.Gone (c : Check) : Prop :=
  c.readAppPath ≠ "" ∧ hasPrefix c.readAppPath "/" = true ∧ c.stat c.readAppPath = .notExist

/-! ### When the helper removes itself -/

variable {checks : List Check} {c : Check} {t : OrphanTracker}

/-- Trimming twice is trimming once. -/
lemma trimSpace_trimSpace (s : String) : trimSpace (trimSpace s) = trimSpace s := by
  have hfront : ∀ l : List Char,
      ((l.dropWhile isSpace).rdropWhile isSpace).dropWhile isSpace = (l.dropWhile isSpace).rdropWhile isSpace := by
    intro l
    obtain ⟨rest, hrest⟩ := List.rdropWhile_prefix isSpace (l.dropWhile isSpace)
    have hdrop : (l.dropWhile isSpace).dropWhile isSpace = l.dropWhile isSpace := List.dropWhile_idempotent _ _
    rw [List.dropWhile_eq_self_iff] at hdrop ⊢
    intro hpos
    obtain ⟨c, trimmed, hcons⟩ := List.exists_cons_of_length_pos hpos
    rw [hcons, List.cons_append] at hrest
    rw [← hrest] at hdrop
    simpa [hcons] using hdrop (by simp)
  rw [trimSpace, trimSpace, String.toList_ofList, hfront, List.rdropWhile_idempotent]

/-- Trimming a trimmed path changes nothing. -/
lemma trimSpace_readAppPath (c : Check) : trimSpace c.readAppPath = c.readAppPath := by
  rw [Check.readAppPath]
  split
  · rfl
  · exact trimSpace_trimSpace _

/-- A check that finds the app, or cannot tell, starts anew. -/
lemma check_of_not_gone (h : ¬ c.Gone) : check t c = ({}, false) := by
  rw [check, OrphanTracker.observeApp, trimSpace_readAppPath]
  by_cases hpath : c.readAppPath = "" ∨ hasPrefix c.readAppPath "/" = false
  · simp [hpath, OrphanTracker.reset]
  · rw [not_or, Bool.not_eq_false] at hpath
    have hstat : c.stat c.readAppPath ≠ .notExist := fun hstat => h ⟨hpath.1, hpath.2, hstat⟩
    simp [hpath, OrphanTracker.observe, OrphanTracker.reset, appPresent, hstat]

/-- A check that misses the app counts it if it is far enough from the last one counted. -/
lemma check_of_gone (h : c.Gone) :
    check t c = (let n := ({ number := t.misses, last := t.last } : Count).add orphanSpacing c.now
      ({ misses := n.number, last := n.last }, decide (orphanMisses ≤ n.number) && !c.inUse)) := by
  obtain ⟨hpath, habs, hstat⟩ := h
  rw [check, OrphanTracker.observeApp, trimSpace_readAppPath]
  simp only [hpath, habs, hstat, OrphanTracker.observe, appPresent, Count.add, ne_eq, not_true_eq_false, decide_false,
    Bool.false_eq_true, Bool.true_eq_false, or_self, if_false]
  split <;> rfl

/-- The checks in two parts. -/
lemma orphanLoop_append (checks checks' : List Check) :
    orphanLoop (checks ++ checks') = checks'.foldl (fun t c => (check t c).1) (orphanLoop checks) := by
  rw [orphanLoop, List.foldl_append]
  rfl

/-- **The tracker after some checks** counts the misses since the last check that found the app or could not tell. -/
lemma orphanLoop_eq (checks : List Check) :
    ∃ before missed, checks = before ++ missed ∧ (∀ c ∈ missed, c.Gone) ∧
      (∀ c ∈ before.getLast?, ¬ c.Gone) ∧
      (orphanLoop checks).misses = (count orphanSpacing (missed.map Check.now)).number ∧
      (orphanLoop checks).last = (count orphanSpacing (missed.map Check.now)).last := by
  induction checks using List.reverseRecOn with
  | nil => exact ⟨[], [], rfl, by simp, by simp, rfl, rfl⟩
  | append_singleton checks c ih =>
    obtain ⟨before, missed, rfl, hgone, hlast, hmisses, hat⟩ := ih
    rw [orphanLoop_append]
    show ∃ before' missed', _ ∧ _ ∧ _ ∧ (check _ c).1.misses = _ ∧ (check _ c).1.last = _
    by_cases h : c.Gone
    · refine ⟨before, missed ++ [c], by simp, ?_, hlast, ?_⟩
      · intro c' hc'
        rcases List.mem_append.1 hc' with hc' | hc'
        · exact hgone c' hc'
        · rw [List.mem_singleton.1 hc']
          exact h
      · rw [check_of_gone h, List.map_append, List.map_singleton, count_concat, hmisses, hat]
        exact ⟨rfl, rfl⟩
    · refine ⟨before ++ missed ++ [c], [], by simp, by simp, ?_, ?_⟩
      · intro c' hc'
        obtain rfl : c = c' := by simpa using hc'
        exact h
      · rw [check_of_not_gone h]
        exact ⟨rfl, rfl⟩

/-- **When the helper removes itself.** In every run of checks by a clock that does not go back, a check removes the
helper exactly if the helper is not in use and the app was gone, for sure, in that check and in an unbroken row of
checks before it, three of which are at least ten minutes apart, one from the next.

**Proof sketch.** The tracker counts the misses since the last hit as they come, and counting so reaches three exactly
if three of them are apart. -/
theorem removes_iff (hclock : ((checks ++ [c]).map Check.now).Pairwise (· ≤ ·)) :
    (check (orphanLoop checks) c).2 = true ↔
      c.inUse = false ∧ ∃ before missed, checks ++ [c] = before ++ missed ∧ missed ≠ [] ∧ (∀ c' ∈ missed, c'.Gone) ∧
        ∃ first second third, [first, second, third].Sublist (missed.map Check.now) ∧
          first + orphanSpacing ≤ second ∧ second + orphanSpacing ≤ third := by
  -- three that are apart, as a choice among the misses
  have hthree : ∀ times : List ℤ, times.Pairwise (· ≤ ·) →
      (orphanMisses ≤ (count orphanSpacing times).number ↔
        ∃ first second third, [first, second, third].Sublist times ∧
          first + orphanSpacing ≤ second ∧ second + orphanSpacing ≤ third) := by
    intro times hsorted
    rw [le_count_iff hsorted]
    constructor
    · intro h
      obtain ⟨picked, hsub, hapart, hlength⟩ := h
      obtain ⟨first, second, third, rfl⟩ := List.length_eq_three.1 hlength
      obtain ⟨hfirst, hrest⟩ := List.isChain_cons_cons.1 hapart
      exact ⟨first, second, third, hsub, hfirst, (List.isChain_cons_cons.1 hrest).1⟩
    · intro h
      obtain ⟨first, second, third, hsub, hfirst, hsecond⟩ := h
      exact ⟨_, hsub, by simp [Apart, hfirst, hsecond], rfl⟩
  obtain ⟨before, missed, rfl, hgone, hlast, hmisses, hat⟩ := orphanLoop_eq checks
  by_cases h : c.Gone
  · have hsuffix : (before ++ missed) ++ [c] = before ++ (missed ++ [c]) := List.append_assoc _ _ _
    have hgone' : ∀ c' ∈ missed ++ [c], c'.Gone := by
      intro c' hc'
      rcases List.mem_append.1 hc' with hc' | hc'
      · exact hgone c' hc'
      · rw [List.mem_singleton.1 hc']
        exact h
    rw [hsuffix, List.map_append] at hclock
    obtain ⟨-, hsorted, -⟩ := List.pairwise_append.1 hclock
    have hcheck : (check (orphanLoop (before ++ missed)) c).2 = true ↔
        c.inUse = false ∧ orphanMisses ≤ (count orphanSpacing ((missed ++ [c]).map Check.now)).number := by
      rw [check_of_gone h, hmisses, hat, List.map_append, List.map_singleton, count_concat]
      simp [and_comm]
    rw [hcheck, hthree _ hsorted]
    refine and_congr_right fun _ => ⟨fun hapart => ⟨before, missed ++ [c], hsuffix, by simp, hgone', hapart⟩, ?_⟩
    intro h'
    obtain ⟨before', missed', heq, -, hgone'', first, second, third, hsub, hfirst, hsecond⟩ := h'
    -- the row of misses is the longest one
    have hle : ∃ extra, missed ++ [c] = extra ++ missed' := by
      rw [hsuffix] at heq
      rcases List.append_eq_append_iff.1 heq with ⟨extra, -, heq'⟩ | ⟨extra, hbefore, hmissed'⟩
      · exact ⟨extra, heq'⟩
      · cases extra using List.reverseRecOn with
        | nil => exact ⟨[], by rw [hmissed', List.nil_append, List.nil_append]⟩
        | append_singleton extra c' =>
          have hnot : ¬ c'.Gone := hlast c' (by rw [hbefore]; simp)
          exact absurd (hgone'' c' (by rw [hmissed']; simp)) hnot
    obtain ⟨extra, hextra⟩ := hle
    refine ⟨first, second, third, hsub.trans ?_, hfirst, hsecond⟩
    rw [hextra, List.map_append]
    exact List.sublist_append_right _ _
  · rw [check_of_not_gone h]
    refine iff_of_false Bool.false_ne_true fun h' => ?_
    obtain ⟨-, before', missed', heq, hne, hgone', -⟩ := h'
    obtain ⟨missed'', c', rfl⟩ : ∃ missed'' c', missed' = missed'' ++ [c'] :=
      ⟨missed'.dropLast, missed'.getLast hne, (List.dropLast_append_getLast hne).symm⟩
    rw [← List.append_assoc] at heq
    obtain ⟨-, heq⟩ := List.append_inj' heq rfl
    obtain rfl := List.cons.inj heq |>.1
    exact h (hgone' c (by simp))

/-- A check that finds nothing at `/A`, some minutes after the first one. -/
def goneAfter (minutes : ℤ) : Check where
  now := minutes * 60 * 10 ^ 9
  data := some [47, 65]
  stat _ := .notExist
  inUse := false

/-- The third check of three, eleven minutes from one to the next, removes the helper. -/
theorem removes_goneAfter : (check (orphanLoop [goneAfter 0, goneAfter 11]) (goneAfter 22)).2 = true := by
  have hgone : ∀ minutes, (goneAfter minutes).Gone := by
    intro minutes
    have hpath : (goneAfter minutes).readAppPath = (goneAfter 0).readAppPath := rfl
    refine ⟨?_, ?_, rfl⟩
    · rw [hpath]
      decide +kernel
    · rw [hpath]
      decide +kernel
  refine (removes_iff (by decide)).2 ⟨rfl, [], [goneAfter 0, goneAfter 11, goneAfter 22], rfl, by simp, ?_, ?_⟩
  · intro c hc
    simp only [List.mem_cons, List.not_mem_nil, or_false] at hc
    rcases hc with rfl | rfl | rfl <;> exact hgone _
  · exact ⟨_, _, _, List.Sublist.refl _, by decide, by decide⟩

end Proxor.MacHelper
