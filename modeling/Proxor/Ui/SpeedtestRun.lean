import Mathlib.Algebra.BigOperators.Group.List.Basic
import Proxor.Lib.Text
import Proxor.Ui.Speedtest

set_option relaxedAutoImplicit false
set_option autoImplicit false

/-!
# The workers of a latency test

A test has some workers, which take profiles from one list until it is empty, and a control thread, which
waits until the last worker has counted itself.

## Main definitions

* `Proxor.Ui.SpeedtestRun.State` — the list, the locks, the count and where each worker is.
* `Proxor.Ui.SpeedtestRun.step` — what the workers and the control thread do.
* `Proxor.Ui.SpeedtestRun.Event.fails` — a call of the core that fails, after which a worker returns
  without counting itself.

## Main results

* `Proxor.Ui.SpeedtestRun.Invariant.step` — what every step keeps.
* `Proxor.Ui.SpeedtestRun.length_le` — every run is finite.
* `Proxor.Ui.SpeedtestRun.ends_iff` — a test comes to its end exactly if no call of the core fails.
-/

namespace Proxor

namespace Platform

/-! ### The ping policy -/

/-- `libcore::TestMode`. -/
inductive TestMode
  | tcpPing | urlTest | fullTest | icmpPing | headPing
deriving DecidableEq

/-- What a result of a ping means. -/
inductive PingOutcome
  | latency | unavailable | retryWithTcp
deriving DecidableEq

/-- The core says that this machine cannot send ICMP. -/
def isLocalIcmpFailure (error : String) : Bool := Text.hasPrefix error "icmp-unavailable: "

def classifyPingResult (mode : TestMode) (error : String) : PingOutcome :=
  if error = "" then .latency
  else if mode = .icmpPing ∧ isLocalIcmpFailure error = true then .retryWithTcp
  else .unavailable

def effectivePingMode (requestedMode : TestMode) (icmpUnavailableThisSession : Bool) : TestMode :=
  if requestedMode = .icmpPing ∧ icmpUnavailableThisSession = true then .tcpPing else requestedMode

end Platform

namespace Ui.SpeedtestRun

open Platform

variable {P : Type}

/-! ### Workers -/

/-- Where a worker is: before it locks the list, while it has locked it, with a profile, waiting for the
core, waiting for it again after a fallback, or at its end, which it has counted or not. -/
inductive Worker (P : Type)
  | idle
  | locked
  | testing (profile : P)
  | asking (profile : P) (effectiveMode : TestMode)
  | retrying (profile : P)
  | returned (counted : Bool)

/-- What the core answers. -/
structure TestResp where
  error : String
  ms : ℤ
  full_report : String

/-- What a worker writes into the profile. -/
def TestResp.result (r : TestResp) : TestResult := .tested r.error r.ms r.full_report

/-- A test: its arguments, what the threads share, and which profiles were taken by whom, and written. -/
structure State (P : Type) where
  threadN : ℕ
  mode : TestMode
  profiles_test : List P
  lock_write : Option ℕ := none
  lock_return : Bool := true
  threadN_finished : ℕ := 0
  icmp_unavailable_this_session : Bool := false
  speedtesting : Bool := true
  workers : List (Worker P)
  taken : List (ℕ × P) := []
  saved : List (P × TestResult) := []

/-- What a worker finds before it asks the core. -/
inductive Prepared
  | notLoaded
  | configError (error : String)
  | request

/-- A step of a worker, or of the control thread. -/
inductive Event
  | lock (i : ℕ)
  | next (i : ℕ)
  | prepare (i : ℕ) (found : Prepared)
  | answer (i : ℕ) (resp : Option TestResp)
  | answerTcp (i : ℕ) (resp : Option TestResp)
  | control

namespace State

variable (s : State P)

/-- The worker goes on to here. -/
def goto (i : ℕ) (w : Worker P) : State P := { s with workers := s.workers.set i w }

/-- The profile is saved with a result. -/
def save (profile : P) (result : TestResult) : State P := { s with saved := s.saved ++ [(profile, result)] }

/-- A worker that has locked the list counts itself if the list is empty, and takes a profile if not. -/
def next (i : ℕ) : State P :=
  match s.profiles_test with
  | [] =>
    { s with
      threadN_finished := s.threadN_finished + 1
      lock_return := if s.threadN = s.threadN_finished + 1 then false else s.lock_return
      lock_write := none }.goto i (.returned true)
  | profile :: rest =>
    { s with
      profiles_test := rest
      lock_write := none
      taken := s.taken ++ [(i, profile)] }.goto i (.testing profile)

/-- What a worker does with a profile it has taken. -/
def prepare (i : ℕ) (profile : P) : Prepared → Option (State P)
  | .notLoaded => some ((s.save profile (.notBuilt "This profile could not be loaded.")).goto i .idle)
  | .configError error =>
    if s.mode = .urlTest ∨ s.mode = .fullTest ∨ s.mode = .headPing then
      some ((s.save profile (.notBuilt error)).goto i .idle)
    else none
  | .request =>
    some (s.goto i (.asking profile (effectivePingMode s.mode s.icmp_unavailable_this_session)))

/-- What it does with an answer. -/
def answer (i : ℕ) (profile : P) (effectiveMode : TestMode) : Option TestResp → State P
  | none => s.goto i (.returned false)
  | some r =>
    if classifyPingResult effectiveMode r.error = .retryWithTcp then
      { s with icmp_unavailable_this_session := true }.goto i (.retrying profile)
    else (s.save profile r.result).goto i .idle

/-- What it does with the answer after a fallback. -/
def answerTcp (i : ℕ) (profile : P) : Option TestResp → State P
  | none => s.goto i (.returned false)
  | some r => (s.save profile r.result).goto i .idle

end State

/-- A step, where it can be taken. -/
def step (s : State P) : Event → Option (State P)
  | .lock i =>
    match s.workers[i]? with
    | some .idle => if s.lock_write = none then some ({ s with lock_write := some i }.goto i .locked) else none
    | _ => none
  | .next i =>
    match s.workers[i]? with
    | some .locked => some (s.next i)
    | _ => none
  | .prepare i found =>
    match s.workers[i]? with
    | some (.testing profile) => s.prepare i profile found
    | _ => none
  | .answer i resp =>
    match s.workers[i]? with
    | some (.asking profile effectiveMode) => some (s.answer i profile effectiveMode resp)
    | _ => none
  | .answerTcp i resp =>
    match s.workers[i]? with
    | some (.retrying profile) => some (s.answerTcp i profile resp)
    | _ => none
  | .control =>
    if s.lock_return = false ∧ s.speedtesting = true then some { s with speedtesting := false } else none

/-- Some steps, where they can be taken one after the other. -/
def run : State P → List Event → Option (State P)
  | s, [] => some s
  | s, e :: events => (step s e).bind fun s' => run s' events

/-- A test at its start. -/
def start (threadN : ℕ) (mode : TestMode) (icmpUnavailable : Bool) (profiles : List P) : State P where
  threadN := threadN
  mode := mode
  profiles_test := profiles
  icmp_unavailable_this_session := icmpUnavailable
  workers := List.replicate threadN .idle

/-- A call of the core fails. -/
def Event.fails : Event → Bool
  | .answer _ none | .answerTcp _ none => true
  | _ => false

/-- No worker can take a step. -/
def Rests (s : State P) : Prop := ∀ e : Event, e ≠ .control → step s e = none

/-! ### What every step keeps -/

/-- The worker has returned, and was counted or not. -/
def Worker.isReturned (counted : Bool) : Worker P → Bool
  | .returned c => c == counted
  | _ => false

/-- How many steps a worker may still take with what it has. -/
def Worker.weight : Worker P → ℕ
  | .idle => 2
  | .locked => 1
  | .testing _ => 5
  | .asking _ _ => 4
  | .retrying _ => 3
  | .returned _ => 0

/-- How many steps may still be taken. -/
def State.weight (s : State P) : ℕ :=
  5 * s.profiles_test.length + (s.workers.map Worker.weight).sum + s.speedtesting.toNat

/-- A worker that is at work on a profile. -/
def Worker.Busy : Worker P → Prop
  | .testing _ | .asking _ _ | .retrying _ => True
  | _ => False

/-- What a step can do. -/
inductive StepCase (s : State P) : Event → State P → Prop
  | lock (i : ℕ) (hw : s.workers[i]? = some .idle) (hfree : s.lock_write = none) :
      StepCase s (.lock i) ({ s with lock_write := some i }.goto i .locked)
  | finish (i : ℕ) (hw : s.workers[i]? = some .locked) (hempty : s.profiles_test = []) :
      StepCase s (.next i) ({ s with
        threadN_finished := s.threadN_finished + 1
        lock_return := if s.threadN = s.threadN_finished + 1 then false else s.lock_return
        lock_write := none }.goto i (.returned true))
  | take (i : ℕ) (profile : P) (rest : List P) (hw : s.workers[i]? = some .locked)
      (hprofiles : s.profiles_test = profile :: rest) :
      StepCase s (.next i) ({ s with
        profiles_test := rest
        lock_write := none
        taken := s.taken ++ [(i, profile)] }.goto i (.testing profile))
  | work (e : Event) (i : ℕ) (w w' : Worker P) (saved : List (P × TestResult)) (icmp : Bool)
      (hw : s.workers[i]? = some w) (hbusy : w.Busy) (hw' : w' ≠ .locked)
      (hcounted : w'.isReturned true = false) (hfails : w'.isReturned false = e.fails)
      (hweight : w'.weight < w.weight) :
      StepCase s e ({ s with saved := saved, icmp_unavailable_this_session := icmp }.goto i w')
  | control (hreleased : s.lock_return = false) (htesting : s.speedtesting = true) :
      StepCase s .control { s with speedtesting := false }

lemma step_cases {s s' : State P} {e : Event} (h : step s e = some s') : StepCase s e s' := by
  cases e with
  | lock i =>
    simp only [step] at h
    split at h
    next hw =>
      split_ifs at h with hfree
      obtain rfl := Option.some.inj h
      exact .lock i hw hfree
    · cases h
  | next i =>
    simp only [step] at h
    split at h
    next hw =>
      obtain rfl := Option.some.inj h
      unfold State.next
      split
      next hempty => exact .finish i hw hempty
      next profile rest hprofiles => exact .take i profile rest hw hprofiles
    · cases h
  | prepare i found =>
    simp only [step] at h
    split at h
    next profile hw =>
      cases found with
      | notLoaded =>
        obtain rfl := Option.some.inj h
        exact .work _ i _ .idle _ _ hw trivial (by rintro ⟨⟩) rfl rfl (by simp [Worker.weight])
      | configError error =>
        unfold State.prepare at h
        split_ifs at h
        obtain rfl := Option.some.inj h
        exact .work _ i _ .idle _ _ hw trivial (by rintro ⟨⟩) rfl rfl (by simp [Worker.weight])
      | request =>
        obtain rfl := Option.some.inj h
        exact .work _ i _ (.asking profile _) _ _ hw trivial (by rintro ⟨⟩) rfl rfl (by simp [Worker.weight])
    · cases h
  | answer i resp =>
    simp only [step] at h
    split at h
    next profile effectiveMode hw =>
      obtain rfl := Option.some.inj h
      cases resp with
      | none => exact .work _ i _ (.returned false) _ _ hw trivial (by rintro ⟨⟩) rfl rfl (by simp [Worker.weight])
      | some r =>
        unfold State.answer
        dsimp only
        split_ifs
        · exact .work _ i _ (.retrying profile) _ _ hw trivial (by rintro ⟨⟩) rfl rfl (by simp [Worker.weight])
        · exact .work _ i _ .idle _ _ hw trivial (by rintro ⟨⟩) rfl rfl (by simp [Worker.weight])
    · cases h
  | answerTcp i resp =>
    simp only [step] at h
    split at h
    next profile hw =>
      obtain rfl := Option.some.inj h
      cases resp with
      | none => exact .work _ i _ (.returned false) _ _ hw trivial (by rintro ⟨⟩) rfl rfl (by simp [Worker.weight])
      | some r => exact .work _ i _ .idle _ _ hw trivial (by rintro ⟨⟩) rfl rfl (by simp [Worker.weight])
    · cases h
  | control =>
    simp only [step] at h
    split_ifs at h with hcontrol
    obtain rfl := Option.some.inj h
    exact .control hcontrol.1 hcontrol.2

/-- The workers before and after one of them. -/
lemma split_workers {l : List (Worker P)} {i : ℕ} {w : Worker P} (h : l[i]? = some w) :
    ∃ l₁ l₂, l = l₁ ++ w :: l₂ ∧ l₁.length = i ∧ ∀ w', l.set i w' = l₁ ++ w' :: l₂ := by
  obtain ⟨hlt, rfl⟩ := List.getElem?_eq_some_iff.1 h
  refine ⟨l.take i, l.drop (i + 1), ?_, ?_, fun w' => ?_⟩
  · rw [← List.drop_eq_getElem_cons hlt, List.take_append_drop]
  · rw [List.length_take]
    omega
  · exact List.set_eq_take_append_cons_drop.trans (if_pos hlt)

/-- What holds of a test of some profiles in which so many calls have failed. -/
structure Invariant (threadN : ℕ) (profiles : List P) (failed : ℕ) (s : State P) : Prop where
  threadN_eq : s.threadN = threadN
  length : s.workers.length = threadN
  locked : ∀ i, s.lock_write = some i ↔ s.workers[i]? = some .locked
  finished : s.threadN_finished = s.workers.countP (Worker.isReturned true)
  failed : failed = s.workers.countP (Worker.isReturned false)
  released : s.lock_return = false ↔ s.threadN_finished = threadN
  taken : s.taken.map Prod.snd ++ s.profiles_test = profiles
  empty : 0 < s.threadN_finished → s.profiles_test = []

section Invariant

variable {threadN failed : ℕ} {profiles : List P} {s s' : State P} {e : Event}

/-- How the counts change when a worker goes on. -/
lemma countP_set {i : ℕ} {w : Worker P} (hw : s.workers[i]? = some w) (w' : Worker P) (p : Worker P → Bool) :
    (s.workers.set i w').countP p + (if p w then 1 else 0) =
      s.workers.countP p + if p w' then 1 else 0 := by
  obtain ⟨l₁, l₂, hsplit, -, hset⟩ := split_workers hw
  rw [hset, hsplit]
  simp only [List.countP_append, List.countP_cons]
  omega

/-- A worker that has locked the list is the only one, and goes on without the lock. -/
lemma locked_set_of_locked {i : ℕ} (hi : Invariant threadN profiles failed s)
    (hw : s.workers[i]? = some .locked) {w' : Worker P} (hw' : w' ≠ .locked) (j : ℕ) :
    (none : Option ℕ) = some j ↔ (s.workers.set i w')[j]? = some .locked := by
  refine iff_of_false (by rintro ⟨⟩) fun hj => ?_
  rcases eq_or_ne i j with rfl | hij
  · obtain ⟨hlt, -⟩ := List.getElem?_eq_some_iff.1 hw
    rw [List.getElem?_set_self hlt] at hj
    exact hw' (Option.some.inj hj)
  · rw [List.getElem?_set_ne hij] at hj
    exact hij (Option.some.inj (((hi.locked i).2 hw).symm.trans ((hi.locked j).2 hj)))

/-- **Every step** keeps the invariant.

**Proof sketch.** A worker that takes a profile or counts itself has locked the list, which no other one
has. Any other step of a worker leaves the list and the count alone, and ends it only where a call has
failed. -/
theorem Invariant.step (hi : Invariant threadN profiles failed s) (h : step s e = some s') :
    Invariant threadN profiles (failed + if e.fails then 1 else 0) s' := by
  cases step_cases h with
  | lock i hw hfree =>
    have hfinished := countP_set hw .locked (Worker.isReturned true)
    have hfailed := countP_set hw .locked (Worker.isReturned false)
    refine ⟨hi.threadN_eq, by rw [State.goto, List.length_set]; exact hi.length, fun j => ?_,
      hi.finished.trans hfinished.symm, hi.failed.trans hfailed.symm, hi.released, hi.taken, hi.empty⟩
    dsimp only [State.goto]
    rcases eq_or_ne i j with rfl | hij
    · obtain ⟨hlt, -⟩ := List.getElem?_eq_some_iff.1 hw
      rw [List.getElem?_set_self hlt]
      exact iff_of_true rfl rfl
    · rw [List.getElem?_set_ne hij, ← hi.locked j, hfree]
      exact iff_of_false (fun h => hij (Option.some.inj h)) (by rintro ⟨⟩)
  | finish i hw hempty =>
    have hfinished := countP_set hw (.returned true) (Worker.isReturned true)
    have hfailed := countP_set hw (.returned true) (Worker.isReturned false)
    refine ⟨hi.threadN_eq, by rw [State.goto, List.length_set]; exact hi.length,
      locked_set_of_locked hi hw (by rintro ⟨⟩), ?_, hi.failed.trans hfailed.symm, ?_, hi.taken,
      fun _ => hempty⟩
    · have hold := hi.finished
      dsimp only [State.goto]
      rw [hold]
      exact hfinished.symm
    · have hle : (s.workers.set i (.returned true)).countP (Worker.isReturned true) ≤ threadN := by
        have hlength : (s.workers.set i (.returned true)).length = s.workers.length := List.length_set
        rw [← hi.length, ← hlength]
        exact List.countP_le_length
      have hcount : s.threadN_finished + 1 ≤ threadN := by
        rw [hi.finished]
        exact hfinished ▸ hle
      dsimp only [State.goto]
      rw [hi.threadN_eq]
      split_ifs with hlast
      · exact iff_of_true rfl hlast.symm
      · rw [hi.released]
        exact iff_of_false (by omega) (fun h => hlast h.symm)
  | take i profile rest hw hprofiles =>
    have hfinished := countP_set hw (.testing profile) (Worker.isReturned true)
    have hfailed := countP_set hw (.testing profile) (Worker.isReturned false)
    refine ⟨hi.threadN_eq, by rw [State.goto, List.length_set]; exact hi.length,
      locked_set_of_locked hi hw (by rintro ⟨⟩), hi.finished.trans hfinished.symm,
      hi.failed.trans hfailed.symm, hi.released, ?_, fun hpos => ?_⟩
    · have htaken := hi.taken
      rw [hprofiles] at htaken
      dsimp only [State.goto]
      rw [List.map_append, List.append_assoc]
      exact htaken
    · have hnone := hi.empty hpos
      rw [hprofiles] at hnone
      cases hnone
  | work _ i w w' saved icmp hw hbusy hw' hcounted hfails hweight =>
    have hfinished := countP_set hw w' (Worker.isReturned true)
    have hfailed := countP_set hw w' (Worker.isReturned false)
    have hplain : w ≠ .locked ∧ ∀ counted, w.isReturned counted = false := by
      cases w with
      | idle => exact hbusy.elim
      | locked => exact hbusy.elim
      | testing profile => exact ⟨by rintro ⟨⟩, fun _ => rfl⟩
      | asking profile mode => exact ⟨by rintro ⟨⟩, fun _ => rfl⟩
      | retrying profile => exact ⟨by rintro ⟨⟩, fun _ => rfl⟩
      | returned counted => exact hbusy.elim
    rw [hplain.2, hcounted] at hfinished
    rw [hplain.2, hfails] at hfailed
    refine ⟨hi.threadN_eq, by rw [State.goto, List.length_set]; exact hi.length, fun j => ?_,
      hi.finished.trans hfinished.symm, ?_, hi.released, hi.taken, hi.empty⟩
    · dsimp only [State.goto]
      rw [hi.locked j]
      rcases eq_or_ne i j with rfl | hij
      · obtain ⟨hlt, -⟩ := List.getElem?_eq_some_iff.1 hw
        rw [List.getElem?_set_self hlt, hw]
        exact iff_of_false (fun h => hplain.1 (Option.some.inj h)) fun h => hw' (Option.some.inj h)
      · rw [List.getElem?_set_ne hij]
    · rw [hi.failed]
      exact hfailed.symm
  | control hreleased htesting =>
    exact ⟨hi.threadN_eq, hi.length, hi.locked, hi.finished, hi.failed, hi.released, hi.taken, hi.empty⟩

end Invariant

/-! ### Runs -/

section Runs

variable {threadN failed : ℕ} {mode : TestMode} {icmpUnavailable : Bool} {profiles : List P} {s s' : State P}
  {e : Event} {events : List Event}

lemma invariant_start (hpos : 1 ≤ threadN) :
    Invariant threadN profiles 0 (start threadN mode icmpUnavailable profiles) where
  threadN_eq := rfl
  length := List.length_replicate
  locked i := by
    refine iff_of_false (by rintro ⟨⟩) fun h => ?_
    have hmem := List.eq_of_mem_replicate (List.mem_of_getElem? h)
    cases hmem
  finished := by rw [start, List.countP_replicate]; rfl
  failed := by rw [start, List.countP_replicate]; rfl
  released := iff_of_false (by rintro ⟨⟩) (by rw [start]; exact (Nat.ne_of_gt hpos).symm)
  taken := List.nil_append _
  empty := fun h => absurd h (lt_irrefl 0)

/-- A run keeps the invariant. -/
lemma Invariant.run (hi : Invariant threadN profiles failed s) (h : SpeedtestRun.run s events = some s') :
    Invariant threadN profiles (failed + events.countP Event.fails) s' := by
  induction events generalizing s failed with
  | nil =>
    obtain rfl := Option.some.inj h
    exact hi
  | cons e events ih =>
    obtain ⟨t, ht, h⟩ := Option.bind_eq_some_iff.1 h
    have hend := ih (hi.step ht) h
    rw [List.countP_cons]
    rwa [add_assoc, add_comm (if e.fails = true then 1 else 0)] at hend

/-- Every step takes one of those that may still be taken. -/
lemma weight_step (h : step s e = some s') : s'.weight < s.weight := by
  have hset : ∀ (w' : Worker P) {i : ℕ} {w : Worker P}, s.workers[i]? = some w →
      ((s.workers.set i w').map Worker.weight).sum + w.weight =
        (s.workers.map Worker.weight).sum + w'.weight := by
    intro w' i w hw
    obtain ⟨l₁, l₂, hsplit, -, hset⟩ := split_workers hw
    rw [hset, hsplit]
    simp only [List.map_append, List.map_cons, List.sum_append, List.sum_cons]
    omega
  cases step_cases h with
  | lock i hw hfree =>
    have hsum := hset .locked hw
    simp only [State.weight, State.goto, Worker.weight] at hsum ⊢
    omega
  | finish i hw hempty =>
    have hsum := hset (.returned true) hw
    simp only [State.weight, State.goto, Worker.weight] at hsum ⊢
    omega
  | take i profile rest hw hprofiles =>
    have hsum := hset (.testing profile) hw
    simp only [State.weight, State.goto, Worker.weight, hprofiles, List.length_cons] at hsum ⊢
    omega
  | work _ i w w' saved icmp hw hbusy hw' hcounted hfails hweight =>
    have hsum := hset w' hw
    simp only [State.weight, State.goto] at hsum ⊢
    omega
  | control hreleased htesting =>
    simp [State.weight, htesting]

/-- **Every run is finite.** -/
theorem length_le (h : run s events = some s') : events.length + s'.weight ≤ s.weight := by
  induction events generalizing s with
  | nil =>
    obtain rfl := Option.some.inj h
    rw [List.length_nil, zero_add]
  | cons e events ih =>
    obtain ⟨t, ht, h⟩ := Option.bind_eq_some_iff.1 h
    have hstep := weight_step ht
    have hrest := ih h
    rw [List.length_cons]
    omega

/-- Workers that have all returned rest. -/
lemma rests_of_returned (h : ∀ w ∈ s.workers, ∃ counted, w = .returned counted) : Rests s := by
  have hw : ∀ {i : ℕ} {w : Worker P}, s.workers[i]? = some w → ∃ counted, w = .returned counted :=
    fun hi => h _ (List.mem_of_getElem? hi)
  intro e he
  cases hstep : step s e with
  | none => rfl
  | some s' =>
    cases step_cases hstep with
    | lock i hi hfree => obtain ⟨counted, ⟨⟩⟩ := hw hi
    | finish i hi hempty => obtain ⟨counted, ⟨⟩⟩ := hw hi
    | take i profile rest hi hprofiles => obtain ⟨counted, ⟨⟩⟩ := hw hi
    | work _ i w w' saved icmp hi hbusy hw' hcounted hfails hweight =>
      obtain ⟨counted, rfl⟩ := hw hi
      exact hbusy.elim
    | control hreleased htesting => exact absurd rfl he

/-- **No deadlock.** Workers that rest have all returned.

**Proof sketch.** A worker that waits for the lock waits for one that has it, and that one can go on. -/
lemma Invariant.returned (hi : Invariant threadN profiles failed s) (hrests : Rests s) {w : Worker P}
    (hw : w ∈ s.workers) : ∃ counted, w = .returned counted := by
  obtain ⟨i, hi'⟩ := List.mem_iff_getElem?.1 hw
  have hlocked : ∀ j : ℕ, s.workers[j]? ≠ some Worker.locked := by
    intro j hj
    have hnext := hrests (.next j) (by rintro ⟨⟩)
    simp only [SpeedtestRun.step, hj] at hnext
    cases hnext
  cases w with
  | idle =>
    have hlock := hrests (.lock i) (by rintro ⟨⟩)
    simp only [SpeedtestRun.step, hi'] at hlock
    split_ifs at hlock with hfree
    obtain ⟨j, hj⟩ := Option.ne_none_iff_exists'.1 hfree
    exact absurd ((hi.locked j).1 hj) (hlocked j)
  | locked => exact absurd hi' (hlocked i)
  | testing profile =>
    have hprepare := hrests (.prepare i .request) (by rintro ⟨⟩)
    simp only [SpeedtestRun.step, hi'] at hprepare
    cases hprepare
  | asking profile mode =>
    have hanswer := hrests (.answer i none) (by rintro ⟨⟩)
    simp only [SpeedtestRun.step, hi'] at hanswer
    cases hanswer
  | retrying profile =>
    have hanswer := hrests (.answerTcp i none) (by rintro ⟨⟩)
    simp only [SpeedtestRun.step, hi'] at hanswer
    cases hanswer
  | returned counted => exact ⟨counted, rfl⟩

/-- Workers that rest were counted, but for those that returned from a call that failed. -/
lemma Invariant.counted (hi : Invariant threadN profiles failed s) (hrests : Rests s) :
    s.threadN_finished + failed = threadN := by
  have hsplit : ∀ l : List (Worker P), (∀ w ∈ l, ∃ counted, w = .returned counted) →
      l.countP (Worker.isReturned true) + l.countP (Worker.isReturned false) = l.length := by
    intro l hl
    induction l with
    | nil => rfl
    | cons w l ih =>
      obtain ⟨hw, hl'⟩ := List.forall_mem_cons.1 hl
      obtain ⟨counted, rfl⟩ := hw
      have hrest := ih hl'
      rw [List.countP_cons, List.countP_cons, List.length_cons]
      cases counted <;> simp [Worker.isReturned] <;> omega
  have hall := hsplit s.workers fun w hw => hi.returned hrests hw
  rw [hi.finished, hi.failed, hall, hi.length]

/-- **The end of a test.** Every run of the workers and the control thread is finite. When no worker can
take another step, the control thread is released, so that it ends the test once it goes on, and every
profile was taken by exactly one worker, if and only if no call of the core has failed.

**Proof sketch.** The workers have all returned. Those that have counted themselves are all but those whose
call has failed; so the count is complete exactly if there are none of these, and then the list is empty. -/
theorem ends_iff (hpos : 1 ≤ threadN) (h : run (start threadN mode icmpUnavailable profiles) events = some s) :
    events.length ≤ 5 * profiles.length + 2 * threadN + 1 ∧
    (Rests s →
      ((s.lock_return = false ∧ (step s .control = none → s.speedtesting = false) ∧
        s.taken.map Prod.snd = profiles) ↔ ∀ e ∈ events, e.fails = false)) := by
  have hstart : Invariant threadN profiles 0 (start threadN mode icmpUnavailable profiles) := invariant_start hpos
  have hi := hstart.run h
  rw [zero_add] at hi
  refine ⟨?_, fun hrests => ?_⟩
  · have hlen := length_le h
    have hstart : (start threadN mode icmpUnavailable profiles).weight =
        5 * profiles.length + 2 * threadN + 1 := by
      simp [State.weight, start, Worker.weight, mul_comm]
    omega
  · have hcounted := hi.counted hrests
    have hnone : (∀ e ∈ events, e.fails = false) ↔ events.countP Event.fails = 0 := by
      simp [List.countP_eq_zero]
    rw [hnone, hi.released]
    refine ⟨fun hend => by omega, fun hzero => ?_⟩
    have hall : s.threadN_finished = threadN := by omega
    have hreleased := hi.released.2 hall
    have hempty := hi.empty (by omega)
    have htaken := hi.taken
    rw [hempty, List.append_nil] at htaken
    refine ⟨hall, fun hcontrol => ?_, htaken⟩
    simp only [step, hreleased, true_and] at hcontrol
    simpa using hcontrol

end Runs

/-- One worker tests one profile. -/
def oneTested : List Event :=
  [.lock 0, .next 0, .prepare 0 .request, .answer 0 (some ⟨"", 25, ""⟩), .lock 0, .next 0]

/-- That test comes to its end. -/
theorem ends_iff_oneTested : ∃ s, run (start 1 .tcpPing false ["a"]) oneTested = some s ∧
    s.lock_return = false ∧ s.taken.map Prod.snd = ["a"] := by
  obtain ⟨s, hs⟩ : ∃ s, run (start 1 .tcpPing false ["a"]) oneTested = some s := ⟨_, rfl⟩
  have hrests : Rests s := by
    refine rests_of_returned fun w hw => ⟨true, ?_⟩
    obtain rfl := Option.some.inj hs
    exact List.mem_singleton.1 hw
  have hend := ((ends_iff (le_refl 1) hs).2 hrests).2 (by
    intro e he
    simp only [oneTested, List.mem_cons, List.not_mem_nil, or_false] at he
    rcases he with rfl | rfl | rfl | rfl | rfl | rfl <;> rfl)
  exact ⟨s, hs, hend.1, hend.2.2⟩

/-- **A test that does not end.** The call of the core fails for the only worker. -/
theorem not_ends : ¬ ∀ (threadN : ℕ), 1 ≤ threadN → ∀ (mode : TestMode) (icmpUnavailable : Bool)
    (profiles : List String) (events : List Event) (s : State String),
    run (start threadN mode icmpUnavailable profiles) events = some s → Rests s → s.lock_return = false := by
  intro hall
  have hend := hall 1 (le_refl 1) .tcpPing false ["a"] [.lock 0, .next 0, .prepare 0 .request, .answer 0 none]
    _ rfl (rests_of_returned fun w hw => ⟨false, List.mem_singleton.1 hw⟩)
  cases hend

end Ui.SpeedtestRun

end Proxor
