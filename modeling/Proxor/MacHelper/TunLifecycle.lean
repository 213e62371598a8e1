import Proxor.MacHelper.TunRunner

set_option relaxedAutoImplicit false
set_option autoImplicit false

/-!
# The lifecycle of Tun instances

Every instance that was created is published, or was closed once and cancelled, or is in the hands
of somebody about to do that: the goroutine that created it, or a `Stop` in progress. There is never
more than one such hand, so at most one instance is open.

## Main definitions

* `Proxor.MacHelper.Books` — instances and the hands that hold them.
* `Proxor.MacHelper.BoxTunRunner.Sound` — what holds at every step.
* `Proxor.MacHelper.BoxTunRunner.Stopped` — what holds when a `Stop` has returned.
* `Proxor.MacHelper.TunLifecycle` — what the runner promises.

## Main results

* `Proxor.MacHelper.tun_lifecycle` — it keeps it.

## Design

What a `Stop` in progress holds is told by its next operation, so that the outlines of the methods
say at every step who holds what.
-/

namespace Proxor.MacHelper

open Resumption

/-! ### Books -/

/-- An instance that is open. -/
def BoxInstance.opened : BoxInstance := {}

/-- An instance that is through: closed once and cancelled. -/
def BoxInstance.through : BoxInstance := { closes := 1, cancelled := true }

/-- An instance that is closed and not yet cancelled. -/
def BoxInstance.closed : BoxInstance := { closes := 1 }

/-- At most one instance is held, in the state its holder thinks; all others are through. -/
structure Books (held : List (ℕ × BoxInstance)) (xs : List BoxInstance) : Prop where
  alone : held.length ≤ 1
  known : ∀ i x, (i, x) ∈ held → xs[i]? = some x
  others : ∀ i x, xs[i]? = some x → x = .through ∨ (i, x) ∈ held

namespace Books

variable {xs : List BoxInstance} {i : ℕ} {x : BoxInstance}

/-- A new instance is held. -/
lemma push (h : Books [] xs) : Books [(xs.length, .opened)] (xs ++ [.opened]) where
  alone := le_rfl
  known := by simp
  others j y hj := by
    rcases lt_or_ge j xs.length with hlt | hge
    · rw [List.getElem?_append_left hlt] at hj
      exact (h.others j y hj).imp_right fun hmem => absurd hmem List.not_mem_nil
    · rw [List.getElem?_append_right hge, List.getElem?_singleton] at hj
      split at hj
      · have hj' : j = xs.length := by omega
        simp [hj', Option.some.inj hj]
      · exact absurd hj (by simp)

/-- The holder does something to what it holds. -/
lemma modify (h : Books [(i, x)] xs) (f : BoxInstance → BoxInstance) :
    Books [(i, f x)] (xs.modify i f) where
  alone := le_rfl
  known j y hy := by
    obtain ⟨rfl, rfl⟩ : j = i ∧ y = f x := by simpa using hy
    simp [h.known j x (by simp)]
  others j y hj := by
    rw [List.getElem?_modify] at hj
    by_cases hij : i = j
    · subst hij
      rw [h.known i x (by simp)] at hj
      exact .inr (by simpa using hj.symm)
    · rcases h.others j y (by simpa [hij] using hj) with hy | hy
      · exact .inl hy
      · exact absurd (by simpa using hy : j = i ∧ y = x).1.symm hij

/-- The holder is done with it. -/
lemma settle (h : Books [(i, x)] xs) {f : BoxInstance → BoxInstance} (hf : f x = .through) :
    Books [] (xs.modify i f) where
  alone := Nat.zero_le _
  known _ _ hy := absurd hy List.not_mem_nil
  others j y hj := by
    rcases (h.modify f).others j y hj with hy | hy
    · exact .inl hy
    · obtain ⟨-, rfl⟩ : j = i ∧ y = f x := by simpa using hy
      exact .inl hf

/-- Two instances that are not through are one. -/
lemma eq_of_ne {held : List (ℕ × BoxInstance)} (h : Books held xs) {j : ℕ} {y : BoxInstance}
    (hi : xs[i]? = some x) (hj : xs[j]? = some y) (hx : x ≠ .through) (hy : y ≠ .through) :
    i = j := by
  have hxm := (h.others i x hi).resolve_left hx
  have hym := (h.others j y hj).resolve_left hy
  have hone := h.alone
  rcases held with _ | ⟨p, _ | ⟨q, held⟩⟩
  · exact absurd hxm List.not_mem_nil
  · rw [List.mem_singleton] at hxm hym
    exact (Prod.mk.inj (hxm.trans hym.symm)).1
  · simp at hone

end Books

/-! ### Hands -/

/-- What a goroutine holds. -/
def RunPc.hand : RunPc → Option (ℕ × BoxInstance)
  | created i => some (i, .opened)
  | closing i => some (i, .opened)
  | cancelling i => some (i, .closed)
  | _ => none

/-- A goroutine that has not created an instance and may not have failed yet. -/
def RunPc.Early : RunPc → Prop
  | waiting | installing | creating | failing _ => True
  | _ => False

/-- A goroutine that can still publish an instance, or fail. -/
def RunPc.Alive : RunPc → Prop
  | waiting | installing | creating | created _ | failing _ => True
  | _ => False

/-- What a `Stop` in progress holds, by its next operation. -/
def RunnerOp.hand {E : Type} : RunnerOp E → Option (ℕ × BoxInstance)
  | close i => some (i, .opened)
  | callCancel i => some (i, .closed)
  | _ => none

namespace BoxTunRunner

variable {E : Type}

/-- Who holds what: a `Stop` in progress, the runner, and the last goroutine. -/
def holders (r : BoxTunRunner E) (hand : Option (ℕ × BoxInstance)) : List (ℕ × BoxInstance) :=
  hand.toList ++ (r.closer.map fun i => (i, BoxInstance.opened)).toList ++
    (r.lastRun.bind fun run => run.pc.hand).toList

/-- What holds at every step, when a `Stop` in progress holds `hand`. -/
structure Sound (r : BoxTunRunner E) (hand : Option (ℕ × BoxInstance)) : Prop where
  last : ∀ (n : ℕ) (run : Run E), r.runs[n]? = some run → run.pc ≠ .finished → n + 1 = r.runs.length
  gens : ∀ (n : ℕ) (run : Run E), r.runs[n]? = some run → run.gen ≤ r.gen
  books : Books (r.holders hand) r.instances
  early : ∀ run : Run E, r.lastRun = some run → run.pc.Early → r.closer = none ∧ hand = none
  active : ∀ run : Run E, r.lastRun = some run → run.gen = r.gen → run.pc.Alive → r.active = true
  published : r.closer ≠ none → r.active = true
  cancel : r.cancel = r.closer

/-- The goroutine that is not finished is the one the runner waits for. -/
def Waited (r : BoxTunRunner E) (done : Option ℕ) : Prop :=
  ∀ (n : ℕ) (run : Run E), r.runs[n]? = some run → run.pc ≠ .finished → done = some n

/-- Every goroutine is superseded. -/
def Stale (r : BoxTunRunner E) : Prop :=
  ∀ (n : ℕ) (run : Run E), r.runs[n]? = some run → run.gen < r.gen

/-- What holds while a `Stop` is in progress, which holds `hand` and waits for `done`. -/
structure Stopping (r : BoxTunRunner E) (hand : Option (ℕ × BoxInstance)) (done : Option ℕ) :
    Prop where
  sound : r.Sound hand
  waited : r.Waited done
  stale : r.Stale
  closer : r.closer = none
  inactive : r.active = false

/-- What holds when a `Stop` has returned. -/
structure Stopped (r : BoxTunRunner E) : Prop where
  stopping : r.Stopping none none
  logWriter : r.logWriter = none

/-- What holds between calls. -/
structure Settled (r : BoxTunRunner E) : Prop where
  sound : r.Sound none
  waited : r.Waited r.done

/-! ### Goroutines -/

variable {r r' : BoxTunRunner E} {n : ℕ} {run : Run E} {pc : RunPc}

/-- A finished goroutine takes no step. -/
lemma RunStep.ne_finished (h : RunStep r n run pc r') : run.pc ≠ .finished := by
  cases h <;> simp_all

/-- A step of a goroutine leaves the generation and the goroutines alone. -/
lemma RunStep.frame (h : RunStep r n run pc r') : r'.gen = r.gen ∧ r'.done = r.done := by
  cases h with
  | sendReady =>
    unfold send
    split <;> exact ⟨rfl, rfl⟩
  | _ => exact ⟨rfl, rfl⟩

/-- A step of the last goroutine with what it leaves. -/
lemma Sound.of_step {hand : Option (ℕ × BoxInstance)} (hs : r.Sound hand)
    (hn : r.runs[n]? = some run) (h : RunStep r n run pc r')
    (hbooks : Books (hand.toList ++ (r'.closer.map fun i => (i, BoxInstance.opened)).toList ++
      pc.hand.toList) r'.instances)
    (hearly : pc.Early → r'.closer = none ∧ hand = none)
    (hactive : run.gen = r.gen → pc.Alive → r'.active = true)
    (hpub : r'.closer ≠ none → r'.active = true) (hcancel : r'.cancel = r'.closer) :
    Sound { r' with runs := r.runs.set n { run with pc } } hand := by
  have hlast : n + 1 = r.runs.length := hs.last n run hn h.ne_finished
  have hlt : n < r.runs.length := by omega
  have hlastRun : lastRun { r' with runs := r.runs.set n { run with pc } } =
      some { run with pc } := by
    unfold lastRun
    dsimp only
    rw [List.length_set, show r.runs.length - 1 = n by omega, List.getElem?_set_self hlt]
  refine ⟨fun m run' hm hpc => ?_, fun m run' hm => ?_, ?_, fun run' hrun' => ?_, fun run' hrun' => ?_,
    hpub, hcancel⟩
  · dsimp only at hm ⊢
    rw [List.length_set]
    by_cases hmn : n = m
    · omega
    · rw [List.getElem?_set_ne hmn] at hm
      exact hs.last m run' hm hpc
  · dsimp only at hm ⊢
    rw [h.frame.1]
    by_cases hmn : n = m
    · subst hmn
      rw [List.getElem?_set_self hlt] at hm
      rw [← Option.some.inj hm]
      exact hs.gens n run hn
    · rw [List.getElem?_set_ne hmn] at hm
      exact hs.gens m run' hm
  · unfold holders
    rw [hlastRun]
    exact hbooks
  · obtain rfl := Option.some.inj (hrun'.symm.trans hlastRun)
    exact hearly
  · obtain rfl := Option.some.inj (hrun'.symm.trans hlastRun)
    intro hgen halive
    refine hactive ?_ halive
    rw [← h.frame.1]
    exact hgen

/-- The goroutine that takes a step is the last one. -/
lemma Sound.lastRun_eq {hand : Option (ℕ × BoxInstance)} (hs : r.Sound hand)
    (hn : r.runs[n]? = some run) (hpc : run.pc ≠ .finished) : r.lastRun = some run := by
  have hlast := hs.last n run hn hpc
  rw [lastRun, ← hlast, Nat.add_sub_cancel, hn]

/-- A step that neither takes nor gives away an instance. -/
lemma Sound.of_idle_step {hand : Option (ℕ × BoxInstance)} (hs : r.Sound hand)
    (hn : r.runs[n]? = some run) (h : RunStep r n run pc r') (hinst : r'.instances = r.instances)
    (hcloser : r'.closer = r.closer) (hcancel : r'.cancel = r.cancel)
    (hhand : pc.hand = run.pc.hand) (hearly : pc.Early → run.pc.Early)
    (halive : pc.Alive → run.pc.Alive)
    (hact : r'.active = r.active ∨ run.pc.Early ∧ ¬ pc.Alive) :
    Sound { r' with runs := r.runs.set n { run with pc } } hand := by
  have hrun := hs.lastRun_eq hn h.ne_finished
  refine hs.of_step hn h ?_ ?_ ?_ ?_ ?_
  · have hbooks := hs.books
    rw [holders, hrun] at hbooks
    rw [hinst, hcloser, hhand]
    exact hbooks
  · rw [hcloser]
    exact fun hpc => hs.early run hrun (hearly hpc)
  · intro hgen hpc
    rcases hact with hact | ⟨-, hnot⟩
    · exact hact.trans (hs.active run hrun hgen (halive hpc))
    · exact absurd hpc hnot
  · rw [hcloser]
    intro hne
    rcases hact with hact | ⟨hearly, -⟩
    · exact hact.trans (hs.published hne)
    · exact absurd (hs.early run hrun hearly).1 hne
  · rw [hcloser, hcancel]
    exact hs.cancel

/-- What the last goroutine holds, nobody else does. -/
lemma Sound.held_by_run {hand : Option (ℕ × BoxInstance)} (hs : r.Sound hand)
    (hrun : r.lastRun = some run) {p : ℕ × BoxInstance} (hp : run.pc.hand = some p) :
    hand = none ∧ r.closer = none ∧ Books [p] r.instances := by
  have hbooks := hs.books
  have hone := hbooks.alone
  rw [holders, hrun, Option.bind_some, hp] at hbooks hone
  cases hand with
  | some q => simp at hone
  | none =>
    cases hc : r.closer with
    | some i => simp [hc] at hone
    | none => exact ⟨rfl, rfl, by simpa [hc] using hbooks⟩

/-- **A step of a goroutine** keeps the state sound, whatever a `Stop` in progress holds.

**Proof sketch.** The goroutine is the last one. Most of its steps neither take nor give away an
instance; the others are that it creates one, while nobody holds any; that it hands it over to the
runner, which is active then; and that it closes and cancels it. -/
theorem Sound.step {hand : Option (ℕ × BoxInstance)} (hs : r.Sound hand)
    (hn : r.runs[n]? = some run) (h : RunStep r n run pc r') :
    Sound { r' with runs := r.runs.set n { run with pc } } hand := by
  have hrun := hs.lastRun_eq hn h.ne_finished
  have hstep := h
  cases h with
  | create hpc =>
    obtain ⟨hcloser, rfl⟩ := hs.early run hrun (by rw [hpc]; trivial)
    refine hs.of_step hn hstep ?_ (fun h => h.elim) ?_ (fun hne => absurd hcloser hne) hs.cancel
    · have hbooks := hs.books
      rw [holders, hrun, hcloser, Option.bind_some, hpc] at hbooks
      dsimp only
      rw [hcloser]
      exact hbooks.push
    · exact fun hgen _ => hs.active run hrun hgen (by rw [hpc]; trivial)
  | publish i hpc hgen =>
    obtain ⟨rfl, hcloser, hbooks⟩ := hs.held_by_run hrun (p := (i, .opened)) (by rw [hpc]; rfl)
    refine hs.of_step hn hstep hbooks (fun h => h.elim) (fun _ h => h.elim) (fun _ => ?_) rfl
    exact hs.active run hrun hgen.symm (by rw [hpc]; trivial)
  | close i hpc =>
    obtain ⟨rfl, hcloser, hbooks⟩ := hs.held_by_run hrun (p := (i, .opened)) (by rw [hpc]; rfl)
    refine hs.of_step hn hstep ?_ (fun h => h.elim) (fun _ h => h.elim)
      (fun hne => absurd hcloser hne) hs.cancel
    have hclosed := hbooks.modify fun x => { x with closes := x.closes + 1 }
    simp only [closeInstance, hcloser]
    exact hclosed
  | cancel i hpc =>
    obtain ⟨rfl, hcloser, hbooks⟩ := hs.held_by_run hrun (p := (i, .closed)) (by rw [hpc]; rfl)
    refine hs.of_step hn hstep ?_ (fun h => h.elim) (fun _ h => h.elim)
      (fun hne => absurd hcloser hne) hs.cancel
    have hthrough := hbooks.settle (f := fun x => { x with cancelled := true }) rfl
    simp only [cancelInstance, hcloser]
    exact hthrough
  | sendReady hpc =>
    have hsend : ∀ ev, (r.send n run ev).instances = r.instances ∧
        (r.send n run ev).closer = r.closer ∧ (r.send n run ev).cancel = r.cancel ∧
        (r.send n run ev).active = r.active := by
      intro ev
      unfold send
      split <;> exact ⟨rfl, rfl, rfl, rfl⟩
    obtain ⟨hinst, hcloser, hcancel, hact⟩ := hsend tunReady
    refine hs.of_idle_step hn hstep hinst hcloser hcancel ?_ (fun h => h.elim) (fun h => h.elim)
      (.inl hact)
    rw [hpc]
    rfl
  | fail reason hpc hgen =>
    refine hs.of_idle_step hn hstep rfl rfl rfl ?_ (fun h => h.elim) (fun h => h.elim)
      (.inr ⟨by rw [hpc]; trivial, id⟩)
    rw [hpc]
    rfl
  | publishStale i hpc hgen =>
    refine hs.of_idle_step hn hstep rfl rfl rfl ?_ (fun h => h.elim) (fun h => h.elim) (.inl rfl)
    rw [hpc]
    rfl
  | socksUp | waitAborted | waitFailed | install | installStale | createAborted | createFailed
  | failStale | exit =>
    have hpc := ‹run.pc = _›
    refine hs.of_idle_step hn hstep rfl rfl rfl ?_ ?_ ?_ (.inl rfl)
    · rw [hpc]
      rfl
    · rw [hpc]
      first | exact fun _ => trivial | exact fun h => h.elim
    · rw [hpc]
      first | exact fun _ => trivial | exact fun h => h.elim

/-- Everything but what passed. -/
lemma send_eq (r : BoxTunRunner E) (n : ℕ) (run : Run E) (ev : Event) : ∃ passed, r.send n run ev = { r with passed } := by
  unfold send
  split
  · exact ⟨_, rfl⟩
  · exact ⟨_, rfl⟩

/-- **Whatever the goroutines do** keeps the state sound. -/
theorem Sound.goes {hand : Option (ℕ × BoxInstance)} (hs : r.Sound hand) (h : Goes r r') :
    r'.Sound hand := by
  cases h with
  | step n run pc u hn h => exact hs.step hn h
  | log n run line hn =>
    obtain ⟨passed, heq⟩ := send_eq r n run { event := .log, line }
    rw [heq]
    exact ⟨hs.last, hs.gens, hs.books, hs.early, hs.active, hs.published, hs.cancel⟩

/-- Goroutines keep their generations, finish and do not start. -/
lemma Goes.runs_eq (h : Goes r r') {m : ℕ} {run' : Run E} (hm : r'.runs[m]? = some run') :
    ∃ run, r.runs[m]? = some run ∧ run'.gen = run.gen ∧
      (run'.pc ≠ .finished → run.pc ≠ .finished) := by
  cases h with
  | step n run pc u hn h =>
    dsimp only at hm
    by_cases hmn : n = m
    · subst hmn
      have hlt : n < r.runs.length := (List.getElem?_eq_some_iff.1 hn).1
      rw [List.getElem?_set_self hlt] at hm
      obtain rfl := Option.some.inj hm
      exact ⟨run, hn, rfl, fun _ => h.ne_finished⟩
    · rw [List.getElem?_set_ne hmn] at hm
      exact ⟨run', hm, rfl, id⟩
  | log n run line hn =>
    obtain ⟨passed, heq⟩ := send_eq r n run { event := .log, line }
    rw [heq] at hm
    exact ⟨run', hm, rfl, id⟩

/-- Goroutines leave the generation and the done channel alone. -/
lemma Goes.frame (h : Goes r r') : r'.gen = r.gen ∧ r'.done = r.done := by
  cases h with
  | step n run pc u hn h => exact h.frame
  | log n run line hn =>
    obtain ⟨passed, heq⟩ := send_eq r n run { event := .log, line }
    rw [heq]
    exact ⟨rfl, rfl⟩

lemma Waited.goes {done : Option ℕ} (hw : r.Waited done) (h : Goes r r') : r'.Waited done := by
  intro m run' hm hpc
  obtain ⟨run, hrun, -, hfin⟩ := h.runs_eq hm
  exact hw m run hrun (hfin hpc)

lemma Stale.goes (hs : r.Stale) (h : Goes r r') : r'.Stale := by
  intro m run' hm
  obtain ⟨run, hrun, hgen, -⟩ := h.runs_eq hm
  rw [hgen, h.frame.1]
  exact hs m run hrun

/-- A superseded goroutine changes none of the runner's fields. -/
lemma RunStep.of_stale (h : RunStep r n run pc r') (hgen : run.gen < r.gen) :
    r'.closer = r.closer ∧ r'.active = r.active ∧ r'.logWriter = r.logWriter := by
  cases h with
  | install hpc heq | fail reason hpc heq | publish i hpc heq => omega
  | sendReady =>
    obtain ⟨passed, heq⟩ := send_eq r n run tunReady
    rw [heq]
    exact ⟨rfl, rfl, rfl⟩
  | _ => exact ⟨rfl, rfl, rfl⟩

lemma Goes.of_stale (h : Goes r r') (hs : r.Stale) :
    r'.closer = r.closer ∧ r'.active = r.active ∧ r'.logWriter = r.logWriter := by
  cases h with
  | step n run pc u hn h => exact h.of_stale (hs n run hn)
  | log n run line hn =>
    obtain ⟨passed, heq⟩ := send_eq r n run { event := .log, line }
    rw [heq]
    exact ⟨rfl, rfl, rfl⟩

lemma Stopping.goes {hand : Option (ℕ × BoxInstance)} {done : Option ℕ}
    (hs : r.Stopping hand done) (h : Goes r r') : r'.Stopping hand done := by
  obtain ⟨hcloser, hactive, -⟩ := h.of_stale hs.stale
  exact ⟨hs.sound.goes h, hs.waited.goes h, hs.stale.goes h, hcloser.trans hs.closer,
    hactive.trans hs.inactive⟩

lemma Stopped.goes (hs : r.Stopped) (h : Goes r r') : r'.Stopped :=
  ⟨hs.stopping.goes h, (h.of_stale hs.stopping.stale).2.2.trans hs.logWriter⟩

lemma Settled.goes (hs : r.Settled) (h : Goes r r') : r'.Settled :=
  ⟨hs.sound.goes h, h.frame.2 ▸ hs.waited.goes h⟩

/-! ### Methods -/

/-- After its critical section, `Stop` holds what was published, and everything is superseded. -/
lemma Settled.takeAll (hs : r.Settled) :
    r.takeAll.Stopping (r.closer.map fun i => (i, BoxInstance.opened)) r.done where
  sound := by
    refine ⟨hs.sound.last, fun n run hn => (hs.sound.gens n run hn).trans (Nat.le_succ _), ?_, ?_, ?_,
      fun h => absurd rfl h, rfl⟩
    · have hbooks := hs.sound.books
      simpa [holders, BoxTunRunner.takeAll, lastRun] using hbooks
    · intro run hrun hearly
      rw [(hs.sound.early run hrun hearly).1]
      exact ⟨rfl, rfl⟩
    · intro run hrun hgen
      have hle := hs.sound.gens _ run hrun
      have hgen : run.gen = r.gen + 1 := hgen
      omega
  waited := hs.waited
  stale n run hn := Nat.lt_succ_of_le (hs.sound.gens n run hn)
  closer := rfl
  inactive := rfl

/-- What a `Stop` in progress holds, nobody else does. -/
lemma Stopping.books {hand : Option (ℕ × BoxInstance)} {done : Option ℕ}
    (hs : r.Stopping hand done) {p : ℕ × BoxInstance} (hp : hand = some p) :
    Books [p] r.instances ∧ ∀ hand' xs, Books hand'.toList xs →
      Books (holders { r with instances := xs } hand') xs := by
  have hbooks := hs.sound.books
  have hone := hbooks.alone
  rw [holders, hs.closer, hp] at hbooks hone
  have hrun : (r.lastRun.bind fun run => run.pc.hand) = none := by
    cases h : (r.lastRun.bind fun run => run.pc.hand) with
    | none => rfl
    | some q => simp [h] at hone
  rw [hrun] at hbooks
  refine ⟨by simpa using hbooks, fun hand' xs h => ?_⟩
  have hrun' : (lastRun { r with instances := xs }).bind (fun run => run.pc.hand) = none := hrun
  rw [holders, hrun']
  dsimp only
  rw [hs.closer]
  simpa using h

/-- The state after `Stop` did something to what it holds. -/
lemma Stopping.withBooks {p : ℕ × BoxInstance} {done : Option ℕ} (hs : r.Stopping (some p) done)
    (hand : Option (ℕ × BoxInstance)) {xs : List BoxInstance} (unclosed : List ℕ)
    (hbooks : Books hand.toList xs) :
    Stopping { r with instances := xs, unclosed } hand done where
  sound := by
    have hearly : ∀ run : Run E, r.lastRun = some run → ¬ run.pc.Early :=
      fun run hrun h => absurd (hs.sound.early run hrun h).2 (by simp)
    exact ⟨hs.sound.last, hs.sound.gens, (hs.books rfl).2 hand xs hbooks,
      fun run hrun h => absurd h (hearly run hrun), hs.sound.active, hs.sound.published,
      hs.sound.cancel⟩
  waited := hs.waited
  stale := hs.stale
  closer := hs.closer
  inactive := hs.inactive

/-- Closing what `Stop` holds. -/
lemma Stopping.close {i : ℕ} {done : Option ℕ} (hs : r.Stopping (some (i, .opened)) done)
    (err : Option Err) : (r.closeByStop i err).Stopping (some (i, .closed)) done :=
  hs.withBooks (some (i, .closed)) _ ((hs.books rfl).1.modify fun x => { x with closes := x.closes + 1 })

/-- Cancelling what `Stop` holds. -/
lemma Stopping.callCancel {i : ℕ} {done : Option ℕ} (hs : r.Stopping (some (i, .closed)) done) :
    (r.cancelInstance i).Stopping none done :=
  hs.withBooks none _
    ((hs.books rfl).1.settle (f := fun x => { x with cancelled := true }) rfl)

/-- A goroutine whose context is aborted stays where it is. -/
lemma getElem?_abortContext {m : ℕ} {run' : Run E}
    (hm : (r.runs.modify n fun run => { run with cancelled := true })[m]? = some run') :
    ∃ run, r.runs[m]? = some run ∧ run'.gen = run.gen ∧ run'.pc = run.pc := by
  rw [List.getElem?_modify] at hm
  obtain ⟨run, hrun, rfl⟩ := Option.map_eq_some_iff.1 hm
  refine ⟨run, hrun, ?_⟩
  split <;> exact ⟨rfl, rfl⟩

/-- Aborting a context keeps what holds during a `Stop`. -/
lemma Stopping.stopWait {done : Option ℕ} (hs : r.Stopping none done) (n : ℕ) :
    Stopping { r with runs := r.runs.modify n fun run => { run with cancelled := true } } none
      done := by
  have hlast : ∀ run',
      lastRun { r with runs := r.runs.modify n fun run => { run with cancelled := true } } =
        some run' → ∃ run, r.lastRun = some run ∧ run'.gen = run.gen ∧ run'.pc = run.pc := by
    intro run' hrun'
    obtain ⟨run, hrun, h⟩ := getElem?_abortContext hrun'
    rw [List.length_modify] at hrun
    exact ⟨run, hrun, h⟩
  have hhand : ((lastRun { r with
      runs := r.runs.modify n fun run => { run with cancelled := true } }).bind
        fun run => run.pc.hand) = r.lastRun.bind fun run => run.pc.hand := by
    unfold lastRun
    dsimp only
    rw [List.length_modify, List.getElem?_modify]
    cases r.runs[r.runs.length - 1]? with
    | none => rfl
    | some run =>
      simp only [Option.bind_some]
      split <;> rfl
  refine ⟨⟨fun m run' hm hpc => ?_, fun m run' hm => ?_, ?_, fun run' hrun' h => ?_,
    fun run' hrun' hgen h => ?_, hs.sound.published, hs.sound.cancel⟩, fun m run' hm hpc => ?_,
    fun m run' hm => ?_, hs.closer, hs.inactive⟩
  · obtain ⟨run, hrun, -, hpceq⟩ := getElem?_abortContext hm
    rw [List.length_modify]
    exact hs.sound.last m run hrun (hpceq ▸ hpc)
  · obtain ⟨run, hrun, hgen, -⟩ := getElem?_abortContext hm
    rw [hgen]
    exact hs.sound.gens m run hrun
  · rw [holders, hhand]
    exact hs.sound.books
  · obtain ⟨run, hrun, -, hpceq⟩ := hlast run' hrun'
    exact hs.sound.early run hrun (hpceq ▸ h)
  · obtain ⟨run, hrun, hgeneq, hpceq⟩ := hlast run' hrun'
    exact hs.sound.active run hrun (hgeneq ▸ hgen) (hpceq ▸ h)
  · obtain ⟨run, hrun, -, hpceq⟩ := getElem?_abortContext hm
    exact hs.waited m run hrun (hpceq ▸ hpc)
  · obtain ⟨run, hrun, hgen, -⟩ := getElem?_abortContext hm
    rw [hgen]
    exact hs.stale m run hrun

/-- Once the goroutine that `Stop` waits for has finished, all have. -/
lemma Stopping.awaitDone {n : ℕ} (hs : r.Stopping none (some n))
    (hfin : ∃ run, r.runs[n]? = some run ∧ run.pc = .finished) : r.Stopping none none where
  sound := hs.sound
  waited m run hm hpc := by
    obtain ⟨run', hrun', hfin⟩ := hfin
    obtain rfl := Option.some.inj (hs.waited m run hm hpc)
    obtain rfl := Option.some.inj (hm.symm.trans hrun')
    exact absurd hfin hpc
  stale := hs.stale
  closer := hs.closer
  inactive := hs.inactive

/-- The end of a `Stop`. -/
lemma Stopping.clearLogWriter (hs : r.Stopping none none) :
    Stopped { r with logWriter := none } where
  stopping := ⟨⟨hs.sound.last, hs.sound.gens, hs.sound.books, hs.sound.early, hs.sound.active,
    hs.sound.published, hs.sound.cancel⟩, hs.waited, hs.stale, hs.closer, hs.inactive⟩
  logWriter := rfl

/-- A stopped runner is settled, with nothing open. -/
lemma Stopped.finished (hs : r.Stopped) {n : ℕ} (hn : r.runs[n]? = some run) :
    run.pc = .finished := by
  by_contra hpc
  exact absurd (hs.stopping.waited n run hn hpc) (by simp)

lemma Stopped.settled (hs : r.Stopped) : r.Settled :=
  ⟨hs.stopping.sound, fun _ _ hn hpc => absurd (hs.finished hn) hpc⟩

/-- Nothing is held once the runner is stopped. -/
lemma Stopped.holders_eq (hs : r.Stopped) : r.holders none = [] := by
  rw [holders, hs.stopping.closer]
  cases hrun : r.lastRun with
  | none => rfl
  | some run => simp [hs.finished hrun, RunPc.hand]

/-- **A start** of a stopped runner settles it. -/
lemma Stopped.launch (hs : r.Stopped) (emit : E) : (r.launch emit).Settled := by
  have hlastRun : (r.launch emit).lastRun = some { gen := r.gen + 1, emit } := by
    simp [lastRun, BoxTunRunner.launch]
  have hruns : ∀ (n : ℕ) (run : Run E), (r.launch emit).runs[n]? = some run →
      r.runs[n]? = some run ∨ n = r.runs.length ∧ run.gen = r.gen + 1 := by
    intro n run hn
    rcases lt_or_ge n r.runs.length with hlt | hge
    · exact .inl ((List.getElem?_append_left hlt).symm.trans hn)
    · have hn := (List.getElem?_append_right hge).symm.trans hn
      rw [List.getElem?_singleton] at hn
      split at hn
      · exact .inr ⟨by omega, by rw [← Option.some.inj hn]⟩
      · exact absurd hn (by simp)
  refine ⟨⟨fun n run hn hpc => ?_, fun n run hn => ?_, ?_, fun run hrun _ => ⟨hs.stopping.closer, rfl⟩,
    fun _ _ _ _ => rfl, fun _ => rfl, hs.stopping.sound.cancel⟩, fun n run hn hpc => ?_⟩
  · rcases hruns n run hn with hold | ⟨rfl, -⟩
    · exact absurd (hs.finished hold) hpc
    · simp [BoxTunRunner.launch]
  · rcases hruns n run hn with hold | ⟨-, hgen⟩
    · exact (hs.stopping.sound.gens n run hold).trans (Nat.le_succ _)
    · exact hgen.le
  · have hbooks := hs.stopping.sound.books
    rw [hs.holders_eq] at hbooks
    have hcloser : (r.launch emit).closer = none := hs.stopping.closer
    rw [holders, hlastRun, hcloser]
    exact hbooks
  · rcases hruns n run hn with hold | ⟨rfl, -⟩
    · exact absurd (hs.finished hold) hpc
    · rfl

end BoxTunRunner

/-! ### Outlines of the methods -/

section Outlines

variable {E : Type} {r : BoxTunRunner E}

/-- Where an operation is done: the `Stop` it belongs to holds what the operation is about, and
nothing is launched but on a stopped runner. -/
def RunnerOp.Fits (o : RunnerOp E) (r : BoxTunRunner E) : Prop :=
  r.Sound o.hand ∧ ∀ emit, o = .launch emit → r.Stopped

lemma stable_stopping {hand : Option (ℕ × BoxInstance)} {done : Option ℕ} :
    (tunRunner E).Stable fun r => r.Stopping hand done :=
  fun _ _ he hs => hs.goes he

lemma stable_stopped : (tunRunner E).Stable BoxTunRunner.Stopped := fun _ _ he hs => hs.goes he

lemma stable_settled : (tunRunner E).Stable BoxTunRunner.Settled := fun _ _ he hs => hs.goes he

/-- Closing and cancelling what was taken. -/
lemma outline_closeTaken {closer done : Option ℕ}
    (hs : r.Stopping (closer.map fun i => (i, .opened)) done) :
    (tunRunner E).Outline RunnerOp.Fits (fun _ r => r.Stopping none done)
      (BoxTunRunner.closeTaken closer closer) r := by
  cases closer with
  | none => exact hs
  | some i =>
    refine Monitor.outline_op _ stable_stopping hs (fun r hs => ⟨hs.sound, by simp⟩) ?_
    rintro r err r' hs ho
    obtain rfl : r' = _ := ho
    refine Monitor.outline_op _ stable_stopping (hs.close err) (fun r hs => ⟨hs.sound, by simp⟩) ?_
    rintro r _ r' hs ho
    obtain rfl : r' = _ := ho
    exact hs.callCancel

/-- Aborting and waiting for the goroutine. -/
lemma outline_abort (stopWait : Option ℕ) {done : Option ℕ} (hs : r.Stopping none done) :
    (tunRunner E).Outline RunnerOp.Fits (fun _ r => r.Stopping none none)
      (BoxTunRunner.abort stopWait done) r := by
  refine Monitor.Outline.bind (R := fun _ r => r.Stopping none done) ?_ fun _ r hs => ?_
  · cases stopWait with
    | none => exact hs
    | some n =>
      refine Monitor.outline_op _ stable_stopping hs (fun r hs => ⟨hs.sound, by simp⟩) ?_
      rintro r _ r' hs ho
      obtain rfl : r' = _ := ho
      exact hs.stopWait n
  · cases done with
    | none => exact hs
    | some n =>
      refine Monitor.outline_op _ stable_stopping hs (fun r hs => ⟨hs.sound, by simp⟩) ?_
      rintro r _ r' hs ⟨hfin, rfl⟩
      exact hs.awaitDone hfin

/-- **`Stop`** stops the runner. -/
theorem outline_stop (hs : r.Settled) :
    (tunRunner E).Outline RunnerOp.Fits (fun _ r => r.Stopped) BoxTunRunner.stop r := by
  refine Monitor.outline_op _ stable_settled hs (fun r hs => ⟨hs.sound, by simp⟩) ?_
  rintro r t r' hs ⟨rfl, rfl⟩
  have hcancel : r.taken.cancel = r.taken.closer := hs.sound.cancel
  unfold BoxTunRunner.stopTaken
  rw [hcancel]
  refine Monitor.Outline.bind (outline_closeTaken hs.takeAll) fun err r hs => ?_
  refine Monitor.Outline.bind (outline_abort _ hs) fun _ r hs => ?_
  refine Monitor.outline_op _ stable_stopping hs (fun r hs => ⟨hs.sound, by simp⟩) ?_
  rintro r _ r' hs ho
  obtain rfl : r' = _ := ho
  exact hs.clearLogWriter

/-- **`Start`** stops the runner, and launches a goroutine unless it returns an error. -/
theorem outline_start (config : String) (socksPort : ℤ) (emit : E) (hs : r.Settled) :
    (tunRunner E).Outline RunnerOp.Fits
      (fun err r => r.Settled ∧ (err ≠ none → r.Stopped))
      (BoxTunRunner.start config socksPort emit) r := by
  refine Monitor.Outline.bind (outline_stop hs) fun err r hs => ?_
  cases err with
  | some err => exact ⟨hs.settled, fun _ => hs⟩
  | none =>
    refine Monitor.outline_op _ stable_stopped hs (fun r hs => ⟨hs.stopping.sound, by simp⟩) ?_
    rintro r err r' hs ho
    obtain rfl : r' = _ := ho
    cases err with
    | some err => exact ⟨hs.settled, fun _ => hs⟩
    | none =>
      refine Monitor.outline_op _ stable_stopped hs (fun r hs => ⟨hs.stopping.sound, by simp⟩) ?_
      rintro r err r' hs ho
      obtain rfl : r' = _ := ho
      cases err with
      | some err => exact ⟨hs.settled, fun _ => hs⟩
      | none =>
        refine Monitor.outline_op _ stable_stopped hs
          (fun r hs => ⟨hs.stopping.sound, fun _ _ => hs⟩) ?_
        rintro r _ r' hs ho
        obtain rfl : r' = _ := ho
        exact ⟨hs.launch emit, fun h => absurd rfl h⟩

end Outlines

/-! ### The lifecycle -/

namespace BoxTunRunner

variable {E : Type}

/-- The events of goroutine `n` that passed the check of the generation. -/
def passedBy (r : BoxTunRunner E) (n : ℕ) : List (ℕ × Event) := r.passed.filter fun p => p.1 = n

end BoxTunRunner

/-- The state of the runner and the call in progress. -/
abbrev RunnerConfig (E : Type) :=
  Monitor.Config (RunnerOp E) RunnerOp.Res (RunnerCall E) (BoxTunRunner E) (Option Err)

/-- A new runner. -/
def RunnerConfig.start (E : Type) : RunnerConfig E := ⟨{}, none⟩

/-- Instance `i` is in the hands of somebody who is about to publish it, or to close and cancel it: a
goroutine after `create` returned, or a `Stop` in progress. -/
def InHand {E : Type} (c : RunnerConfig E) (i : ℕ) (x : BoxInstance) : Prop :=
  (∃ (n : ℕ) (run : Run E), c.state.runs[n]? = some run ∧ run.pc.hand = some (i, x)) ∨
    ∃ call o k, c.holder = some (call, .op o k) ∧ o.hand = some (i, x)

/-- All instances are through, and nothing else is left. -/
structure TornDown {E : Type} (r : BoxTunRunner E) : Prop where
  instances : ∀ x ∈ r.instances, x = .through
  active : r.active = false
  logWriter : r.logWriter = none

/-- What the runner promises, in every run from the start.

* `accounted`: an instance that was created is published and the runner active, or it was closed
  exactly once and cancelled, or it is in somebody's hands; `settled`: where nobody holds one, it is
  one of the first two.
* `one_open`: at most one instance is open.
* `stopped`: when a `Stop` has returned nothing is left; `launched`: so it is when a `Start`
  launches a goroutine; `refused`: and when a `Start` has returned an error.
* `superseded`: from the critical section of a `Stop` or a `Start` on, no event of an earlier
  goroutine passes the check of the generation. -/
structure TunLifecycle (E : Type) : Prop where
  accounted : ∀ c, (tunRunner E).Reaches (RunnerConfig.start E) c → ∀ i x,
    c.state.instances[i]? = some x →
    (c.state.closer = some i ∧ c.state.cancel = some i ∧ c.state.active = true ∧ x = .opened) ∨
      x = .through ∨ InHand c i x
  settled : ∀ c, (tunRunner E).Reaches (RunnerConfig.start E) c → c.holder = none →
    (∀ (n : ℕ) (run : Run E), c.state.runs[n]? = some run → run.pc.hand = none) → ∀ i x,
    c.state.instances[i]? = some x →
    (c.state.closer = some i ∧ c.state.cancel = some i ∧ c.state.active = true ∧ x = .opened) ∨
      x = .through
  one_open : ∀ c, (tunRunner E).Reaches (RunnerConfig.start E) c → ∀ (i j : ℕ) (x y : BoxInstance),
    c.state.instances[i]? = some x → c.state.instances[j]? = some y →
    x.closes = 0 → y.closes = 0 → i = j
  stopped : ∀ c err, (tunRunner E).Reaches (RunnerConfig.start E) c →
    c.holder = some (.stop, .ret err) → TornDown c.state
  launched : ∀ c call emit c', (tunRunner E).Reaches (RunnerConfig.start E) c →
    (tunRunner E).Step c (.op call (.launch emit)) c' → TornDown c.state
  refused : ∀ c config socksPort emit err, (tunRunner E).Reaches (RunnerConfig.start E) c →
    c.holder = some (.start config socksPort emit, .ret (some err)) → TornDown c.state
  superseded : ∀ c call o c', (tunRunner E).Reaches (RunnerConfig.start E) c →
    (tunRunner E).Step c (.op call o) c' → (o = .takeAll ∨ ∃ emit, o = .launch emit) →
    ∀ n < c.state.runs.length, ∀ c'', (tunRunner E).Reaches c' c'' →
    c''.state.passedBy n = c'.state.passedBy n

section Lifecycle

variable {E : Type} {c c' : RunnerConfig E}

/-- What a call ends in. -/
def RunnerCall.Ends : RunnerCall E → Option Err → BoxTunRunner E → Prop
  | .stop, _, r => r.Stopped
  | .start .., err, r => r.Settled ∧ (err ≠ none → r.Stopped)

/-- Between calls the runner is settled, and a call in progress has an outline. -/
lemma runner_outlined (h : (tunRunner E).Reaches (RunnerConfig.start E) c) :
    (tunRunner E).Outlined RunnerOp.Fits BoxTunRunner.Settled RunnerCall.Ends c := by
  refine Monitor.outlined stable_settled ?_ ?_ ?_ h ?_
  · intro call err r r' he hs
    cases call with
    | stop => exact BoxTunRunner.Stopped.goes hs he
    | start => exact ⟨hs.1.goes he, fun herr => (hs.2 herr).goes he⟩
  · intro call err r hs
    cases call with
    | stop => exact BoxTunRunner.Stopped.settled hs
    | start => exact hs.1
  · intro call r hs _
    cases call with
    | stop => exact outline_stop hs
    | start config socksPort emit => exact outline_start config socksPort emit hs
  · refine ⟨⟨?_, ?_, ⟨?_, ?_, ?_⟩, ?_, ?_, ?_, rfl⟩, ?_⟩ <;>
      simp [RunnerConfig.start, BoxTunRunner.holders, BoxTunRunner.lastRun, BoxTunRunner.Waited]

/-- What the call in progress holds. -/
def RunnerConfig.hand (c : RunnerConfig E) : Option (ℕ × BoxInstance) :=
  match c.holder with
  | some (_, .op o _) => o.hand
  | _ => none

/-- **At every step** the state is sound, for what the call in progress holds. -/
theorem sound_of_reaches (h : (tunRunner E).Reaches (RunnerConfig.start E) c) :
    c.state.Sound (RunnerConfig.hand c) := by
  have hout := runner_outlined h
  obtain ⟨r, holder⟩ := c
  cases holder with
  | none =>
    have hs : r.Settled := hout
    exact hs.sound
  | some p =>
    obtain ⟨call, p⟩ := p
    cases p with
    | ret err =>
      cases call with
      | stop =>
        have hs : r.Stopped := hout
        exact hs.stopping.sound
      | start =>
        have hs : r.Settled ∧ (err ≠ none → r.Stopped) := hout
        exact hs.1.sound
    | op o k =>
      obtain ⟨P, -, hs, hk⟩ := hout
      exact (hk r hs).1.1

lemma BoxTunRunner.Stopped.tornDown {r : BoxTunRunner E} (hs : r.Stopped) : TornDown r where
  instances x hx := by
    obtain ⟨i, hi, rfl⟩ := List.getElem_of_mem hx
    have hbooks := hs.stopping.sound.books
    rw [hs.holders_eq] at hbooks
    exact (hbooks.others i _ (List.getElem?_eq_getElem hi)).resolve_right List.not_mem_nil
  active := hs.stopping.inactive
  logWriter := hs.logWriter

/-- Whoever holds an instance. -/
lemma BoxTunRunner.mem_holders {r : BoxTunRunner E} {hand : Option (ℕ × BoxInstance)} {i : ℕ}
    {x : BoxInstance} (h : (i, x) ∈ r.holders hand) :
    hand = some (i, x) ∨ (r.closer = some i ∧ x = .opened) ∨
      ∃ run, r.lastRun = some run ∧ run.pc.hand = some (i, x) := by
  simp only [holders, List.mem_append, Option.mem_toList, Option.map_eq_some_iff,
    Option.bind_eq_some_iff, Prod.mk.injEq] at h
  rcases h with (h | ⟨j, hj, rfl, rfl⟩) | h
  · exact .inl h
  · exact .inr (.inl ⟨hj, rfl⟩)
  · exact .inr (.inr h)

/-- Every instance is accounted for. -/
lemma accounted (h : (tunRunner E).Reaches (RunnerConfig.start E) c) {i : ℕ} {x : BoxInstance}
    (hx : c.state.instances[i]? = some x) :
    (c.state.closer = some i ∧ c.state.cancel = some i ∧ c.state.active = true ∧ x = .opened) ∨
      x = .through ∨ InHand c i x := by
  have hs := sound_of_reaches h
  rcases hs.books.others i x hx with hx | hx
  · exact .inr (.inl hx)
  · rcases BoxTunRunner.mem_holders hx with hhand | ⟨hcloser, hx⟩ | ⟨run, hrun, hhand⟩
    · refine .inr (.inr (Or.inr ?_))
      obtain ⟨r, _ | ⟨call, _ | ⟨o, k⟩⟩⟩ := c
      · exact absurd hhand (by simp [RunnerConfig.hand])
      · exact absurd hhand (by simp [RunnerConfig.hand])
      · exact ⟨call, o, k, rfl, hhand⟩
    · refine .inl ⟨hcloser, hs.cancel.trans hcloser, hs.published ?_, hx⟩
      simp [hcloser]
    · exact .inr (.inr (Or.inl ⟨_, run, hrun, hhand⟩))

end Lifecycle

/-! ### Superseded goroutines -/

namespace BoxTunRunner

variable {E : Type} {r r' : BoxTunRunner E} {n : ℕ}

/-- Goroutine `n` is superseded. -/
def Superseded (r : BoxTunRunner E) (n : ℕ) : Prop :=
  ∃ run, r.runs[n]? = some run ∧ run.gen < r.gen

/-- Operations let no event pass, and leave what is superseded so. -/
lemma Superseded.exec {o : RunnerOp E} {t : o.Res} (hs : r.Superseded n) (h : Exec o r t r') :
    r'.Superseded n ∧ r'.passedBy n = r.passedBy n := by
  obtain ⟨run, hn, hgen⟩ := hs
  cases o with
  | takeAll =>
    obtain ⟨-, rfl⟩ := h
    exact ⟨⟨run, hn, hgen.trans (Nat.lt_succ_self _)⟩, rfl⟩
  | awaitDone m =>
    obtain ⟨-, rfl⟩ := h
    exact ⟨⟨run, hn, hgen⟩, rfl⟩
  | stopWait m =>
    obtain rfl : r' = _ := h
    refine ⟨⟨if m = n then { run with cancelled := true } else run, ?_, ?_⟩, rfl⟩
    · rw [List.getElem?_modify, hn]
      rfl
    · split <;> exact hgen
  | launch emit =>
    obtain rfl : r' = _ := h
    refine ⟨⟨run, ?_, hgen.trans (Nat.lt_succ_self _)⟩, rfl⟩
    exact (List.getElem?_append_left (List.getElem?_eq_some_iff.1 hn).1).trans hn
  | close i | callCancel i | clearLogWriter | validate | check =>
    obtain rfl : r' = _ := h
    exact ⟨⟨run, hn, hgen⟩, rfl⟩

/-- A superseded goroutine sends nothing. -/
lemma passedBy_send {m : ℕ} {run run' : Run E} (hn : r.runs[n]? = some run) (hgen : run.gen < r.gen)
    (hm : r.runs[m]? = some run') (ev : Event) : (r.send m run' ev).passedBy n = r.passedBy n := by
  unfold send
  split
  · rename_i heq
    have hmn : m ≠ n := by
      rintro rfl
      obtain rfl := Option.some.inj (hn.symm.trans hm)
      omega
    simp [passedBy, hmn]
  · rfl

/-- Goroutines let no event of a superseded one pass. -/
lemma Superseded.goes (hs : r.Superseded n) (h : Goes r r') :
    r'.Superseded n ∧ r'.passedBy n = r.passedBy n := by
  obtain ⟨run, hn, hgen⟩ := hs
  cases h with
  | log m run' line hm =>
    obtain ⟨passed, heq⟩ := send_eq r m run' { event := .log, line }
    refine ⟨?_, passedBy_send hn hgen hm _⟩
    rw [heq]
    exact ⟨run, hn, hgen⟩
  | step m run' pc u hm h =>
    refine ⟨?_, ?_⟩
    · refine ⟨if m = n then { run' with pc } else run, ?_, ?_⟩
      · dsimp only
        rw [List.getElem?_set]
        have hlt := (List.getElem?_eq_some_iff.1 hn).1
        split
        · rename_i hmn
          rw [if_pos (hmn ▸ hlt)]
        · exact hn
      · dsimp only
        rw [h.frame.1]
        split
        · rename_i hmn
          subst hmn
          obtain rfl := Option.some.inj (hn.symm.trans hm)
          exact hgen
        · exact hgen
    · cases h with
      | sendReady => exact passedBy_send hn hgen hm _
      | fail reason hpc heq =>
        have hmn : m ≠ n := by
          rintro rfl
          obtain rfl := Option.some.inj (hn.symm.trans hm)
          omega
        simp [passedBy, hmn]
      | _ => rfl

end BoxTunRunner

section Lifecycle

variable {E : Type} {c c' : RunnerConfig E}

/-- From then on nothing of a superseded goroutine passes. -/
lemma passedBy_of_reaches {n : ℕ} (hs : c.state.Superseded n) (h : (tunRunner E).Reaches c c') :
    c'.state.passedBy n = c.state.passedBy n := by
  refine (Monitor.invariant (M := tunRunner E)
    (I := fun r => r.Superseded n ∧ r.passedBy n = c.state.passedBy n) ?_ ?_ h ⟨hs, rfl⟩).2
  · rintro o r t r' ho ⟨hs, heq⟩
    obtain ⟨hs', heq'⟩ := hs.exec ho
    exact ⟨hs', heq'.trans heq⟩
  · rintro r r' he ⟨hs, heq⟩
    obtain ⟨hs', heq'⟩ := hs.goes he
    exact ⟨hs', heq'.trans heq⟩

/-- The critical sections of `Stop` and `Start` supersede every goroutine there is. -/
lemma superseded_of_bump (h : (tunRunner E).Reaches (RunnerConfig.start E) c)
    {call : RunnerCall E} {o : RunnerOp E} (hs : (tunRunner E).Step c (.op call o) c')
    (ho : o = .takeAll ∨ ∃ emit, o = .launch emit) {n : ℕ} (hn : n < c.state.runs.length) :
    c'.state.Superseded n := by
  have hrun := List.getElem?_eq_getElem hn
  have hgen := (sound_of_reaches h).gens n _ hrun
  cases hs with
  | op hexec =>
    rcases ho with rfl | ⟨emit, rfl⟩
    · obtain ⟨-, rfl⟩ := hexec
      exact ⟨_, hrun, Nat.lt_succ_of_le hgen⟩
    · obtain rfl : _ = _ := hexec
      refine ⟨_, ?_, Nat.lt_succ_of_le hgen⟩
      exact (List.getElem?_append_left hn).trans hrun

/-- **The lifecycle of Tun instances.** The runner keeps it, for every sequence of calls and every
interleaving of the goroutines they launch.

**Proof sketch.** At every step at most one of a `Stop` in progress, the runner and the last
goroutine holds an instance, and all others are through. A `Stop` takes what the runner holds, closes
and cancels it, and waits for the last goroutine, which gives up what it holds since it is
superseded; so nobody holds anything when a `Stop` has returned, and nobody does while a goroutine is
on its way to `create`. -/
theorem tun_lifecycle (E : Type) : TunLifecycle E where
  accounted _ h _ _ hx := accounted h hx
  settled c h hfree hruns i x hx := by
    rcases accounted h hx with hx | hx | ⟨n, run, hn, hhand⟩ | ⟨call, o, k, hholder, -⟩
    · exact .inl hx
    · exact .inr hx
    · exact absurd hhand (by simp [hruns n run hn])
    · exact absurd hholder (by simp [hfree])
  one_open c h i j x y hi hj hx hy := by
    refine (sound_of_reaches h).books.eq_of_ne hi hj ?_ ?_
    · rintro rfl
      exact absurd hx (by decide)
    · rintro rfl
      exact absurd hy (by decide)
  stopped c err h hret := by
    obtain ⟨r, holder⟩ := c
    obtain rfl : holder = _ := hret
    have hs : r.Stopped := runner_outlined h
    exact hs.tornDown
  launched c call emit c' h hs := (((runner_outlined h).allowed hs).2 emit rfl).tornDown
  refused c config socksPort emit err h hret := by
    obtain ⟨r, holder⟩ := c
    obtain rfl : holder = _ := hret
    have hs : r.Settled ∧ (some err ≠ none → r.Stopped) := runner_outlined h
    exact (hs.2 (by simp)).tornDown
  superseded c call o c' h hs ho n hn c'' h' := passedBy_of_reaches (superseded_of_bump h hs ho hn) h'

end Lifecycle

end Proxor.MacHelper
