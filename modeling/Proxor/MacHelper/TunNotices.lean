import Proxor.MacHelper.StopRetry

set_option relaxedAutoImplicit false
set_option autoImplicit false

/-!
# Telling an owner that it lost its Tun

An owner that loses its Tun is told by the server, when another connection takes the Tun over, or by
the instance, when it fails. A `tun_stop` or an `uninstall` of another connection tells nobody: the
runner's `Stop` is silent, and mutes the instance.

## Main definitions

* `Proxor.MacHelper.TunServer.notices` — the `tun_stopped` events about a start, written or on
  their way.
* `Proxor.MacHelper.TunServer.Notified` — what holds of the notices at every step.
* `Proxor.MacHelper.TunServer.Told`, `Proxor.MacHelper.TunServer.TunTaken`,
  `Proxor.MacHelper.TunServer.Vacant` — what holds between sections, after the Tun was taken, and
  once nothing runs.

## Main results

* `Proxor.MacHelper.TunServer.Notified.goes`, `Proxor.MacHelper.TunServer.Notified.route`,
  `Proxor.MacHelper.TunServer.Notified.deliver` — interference keeps the notices right.

## Design

The server's event may be due while a take-over is in progress. The invariant names who is owed one
by a predicate on instances, which is empty between sections.
-/

namespace Proxor.MacHelper

open Resumption

/-! ### Notices -/

/-- The section is a `tun_start`. -/
def Section.takesOver : Section → Bool
  | request _ (.tunStart ..) => true
  | _ => false

namespace BoxTunRunner

variable {E : Type}

/-- The `emit`s of all starts. -/
def emits (r : BoxTunRunner E) : List E := r.runs.map fun run => run.emit

end BoxTunRunner

/-- How many events of a list say that start `n` stopped. -/
def stops (n : ℕ) (l : List (ℕ × Event)) : ℕ :=
  l.countP fun e => e.1 = n ∧ e.2.event = .tunStopped

namespace TunServer

/-- The `emit` of the last start. -/
def lastEmit (s : TunServer) : Option Instance := s.runner.emits[s.runner.emits.length - 1]?

/-- The `tun_stopped` events about start `n` that were written to `lease`, or will be. -/
def heard (s : TunServer) (n lease : ℕ) : ℕ :=
  s.written.countP (fun w => w.1 = lease ∧ w.2.1 = n ∧ w.2.2.event = .tunStopped) +
    stops n s.sending

/-- All `tun_stopped` events about start `n`, whose `emit` is `inst`: those heard, and those that
are going to be let through when they are routed. -/
def notices (s : TunServer) (n : ℕ) (inst : Instance) : ℕ :=
  s.heard n inst.lease + if inst.gen = s.table.tunGen then stops n s.emitting else 0

/-- Nothing was ever said about start `n`. -/
def Unheard (s : TunServer) (n : ℕ) : Prop :=
  n ∉ s.lost ∧ (∀ lease, s.heard n lease = 0) ∧ stops n s.emitting = 0

/-! ### What holds at every step -/

end TunServer

/-- The goroutine of the current generation is the last one, and the runner is active while it can
fail. -/
structure BoxTunRunner.Tracked {E : Type} (r : BoxTunRunner E) : Prop where
  gens : ∀ (n : ℕ) (run : Run E), r.runs[n]? = some run →
    run.gen ≤ r.gen ∧ (run.gen = r.gen → n + 1 = r.runs.length)
  active : ∀ run : Run E, r.lastRun = some run → run.gen = r.gen → run.pc.Alive → r.active = true

namespace TunServer

/-- What holds of the notices, where `Owed` says to whom the section in progress owes one.

* `newest`: only the last start can be of the current generation of the table;
* `future`: nothing was said about starts to come;
* `told`: an owner that lost its Tun is told exactly once, or is owed to be told;
* `silent`: nothing was said about a Tun that is active. -/
structure Notified (s : TunServer) (Owed : Instance → Prop) : Prop where
  tracked : s.runner.Tracked
  newest : ∀ n inst, s.runner.emits[n]? = some inst →
    inst.gen ≤ s.table.tunGen ∧ (inst.gen = s.table.tunGen → n + 1 = s.runner.emits.length)
  future : ∀ n, s.runner.emits.length ≤ n → s.Unheard n
  told : ∀ n ∈ s.lost, ∀ inst, s.runner.emits[n]? = some inst →
    s.notices n inst = 1 ∨ n + 1 = s.runner.emits.length ∧ Owed inst ∧ s.notices n inst = 0
  silent : s.runner.active = true → s.Unheard (s.runner.emits.length - 1)

/-- What holds between sections: nobody is owed anything, and the owner is the lease of the last
start, which was not told anything yet. -/
structure Told (s : TunServer) : Prop where
  notified : s.Notified fun _ => False
  owned : s.runner.active = true → ∃ inst, s.lastEmit = some inst ∧
    s.table.tunOwner = some inst.lease
  owner : ∀ lease, s.table.tunOwner = some lease → ∃ inst, s.lastEmit = some inst ∧
    inst.lease = lease ∧ inst.gen = s.table.tunGen ∧
    ∀ lease, s.heard (s.runner.emits.length - 1) lease = 0

end TunServer

/-! ### Goroutines -/

namespace BoxTunRunner

variable {E : Type} {r r' : BoxTunRunner E}

lemma length_emits : r.emits.length = r.runs.length := List.length_map ..

lemma getElem?_emits (n : ℕ) : r.emits[n]? = r.runs[n]?.map fun run => run.emit := List.getElem?_map

/-- Goroutines start nothing. -/
lemma Goes.emits_eq (h : Goes r r') : r'.emits = r.emits := by
  cases h with
  | log n run line hn =>
    obtain ⟨passed, heq⟩ := send_eq r n run { event := .log, line }
    rw [heq]
    rfl
  | step n run pc u hn h =>
    unfold emits
    dsimp only
    rw [List.map_set]
    refine List.ext_getElem? fun m => ?_
    rw [List.getElem?_set]
    split
    · rename_i hm
      subst hm
      rw [List.getElem?_map, hn]
      simp [(List.getElem?_eq_some_iff.1 hn).1]
    · rfl

/-- A step keeps the goroutines tracked. -/
lemma RunStep.tracked {n : ℕ} {run : Run E} {pc : RunPc} (ht : r.Tracked)
    (hn : r.runs[n]? = some run) (h : RunStep r n run pc r') :
    Tracked { r' with runs := r.runs.set n { run with pc } } := by
  have hlt := (List.getElem?_eq_some_iff.1 hn).1
  have hruns : ∀ (m : ℕ) (run' : Run E), (r.runs.set n { run with pc })[m]? = some run' →
      (m = n ∧ run' = { run with pc }) ∨ m ≠ n ∧ r.runs[m]? = some run' := by
    intro m run' hm
    rw [List.getElem?_set] at hm
    split at hm
    · rename_i hmn
      exact .inl ⟨hmn.symm, (Option.some.inj hm).symm⟩
    · rename_i hmn
      exact .inr ⟨Ne.symm hmn, hm⟩
  refine ⟨fun m run' hm => ?_, fun run' hrun' hgen halive => ?_⟩
  · dsimp only at hm ⊢
    rw [List.length_set, h.frame.1]
    rcases hruns m run' hm with ⟨rfl, rfl⟩ | ⟨-, hm⟩
    · exact ht.gens m run hn
    · exact ht.gens m run' hm
  · dsimp only at hgen ⊢
    rw [h.frame.1] at hgen
    unfold lastRun at hrun'
    dsimp only at hrun'
    rw [List.length_set] at hrun'
    rcases hruns _ run' hrun' with ⟨hlast, rfl⟩ | ⟨hne, hrun⟩
    · -- the last goroutine takes the step
      have hrun : r.lastRun = some run := by rw [lastRun, hlast, hn]
      have hact : run.pc.Alive → r.active = true := ht.active run hrun hgen
      cases h with
      | waitAborted | installStale | createAborted | publish | publishStale | close | cancel |
        sendReady | fail | failStale | exit => exact halive.elim
      | socksUp hpc | waitFailed hpc | install hpc | createFailed hpc | create hpc =>
        exact hact (by rw [hpc]; trivial)
    · have hact := ht.active run' hrun hgen halive
      cases h with
      | fail reason hpc heq =>
        -- only the last goroutine is of the current generation
        have hlast := (ht.gens n run hn).2 heq.symm
        omega
      | sendReady =>
        obtain ⟨passed, heq⟩ := send_eq r n run tunReady
        rw [heq]
        exact hact
      | _ => exact hact

/-- Goroutines stay tracked. -/
lemma Tracked.goes (ht : r.Tracked) (h : Goes r r') : r'.Tracked := by
  cases h with
  | step n run pc u hn h => exact h.tracked ht hn
  | log n run line hn =>
    obtain ⟨passed, heq⟩ := send_eq r n run { event := .log, line }
    rw [heq]
    exact ⟨ht.gens, ht.active⟩

/-- Methods keep the goroutines tracked. -/
lemma Tracked.exec (ht : r.Tracked) {o : RunnerOp E} {t : o.Res} (h : Exec o r t r') :
    r'.Tracked := by
  cases o with
  | takeAll =>
    obtain ⟨-, rfl⟩ := h
    refine ⟨fun n run hn => ?_, fun run hrun hgen => ?_⟩
    · have hle := (ht.gens n run hn).1
      exact ⟨hle.trans (Nat.le_succ _), fun heq => absurd (heq ▸ hle) (Nat.not_succ_le_self _)⟩
    · have hle := (ht.gens _ run hrun).1
      exact absurd (hgen ▸ hle) (Nat.not_succ_le_self _)
  | stopWait m =>
    obtain rfl : r' = _ := h
    refine ⟨fun n run hn => ?_, fun run hrun hgen halive => ?_⟩
    · obtain ⟨run', hrun', hgen, -⟩ := getElem?_abortContext hn
      rw [hgen, List.length_modify]
      exact ht.gens n run' hrun'
    · obtain ⟨run', hrun', hgen', hpc⟩ := getElem?_abortContext hrun
      rw [List.length_modify] at hrun'
      exact ht.active run' hrun' (hgen' ▸ hgen) (hpc ▸ halive)
  | launch emit =>
    obtain rfl : r' = _ := h
    refine ⟨fun n run hn => ?_, fun _ _ _ _ => rfl⟩
    rcases lt_or_ge n r.runs.length with hlt | hge
    · have hn := (List.getElem?_append_left hlt).symm.trans hn
      have hle := (ht.gens n run hn).1
      exact ⟨hle.trans (Nat.le_succ _), fun heq => absurd (heq ▸ hle) (Nat.not_succ_le_self _)⟩
    · have hn := (List.getElem?_append_right hge).symm.trans hn
      rw [List.getElem?_singleton] at hn
      split at hn
      · refine ⟨by rw [← Option.some.inj hn]; exact le_rfl, fun _ => ?_⟩
        simp only [launch, List.length_append, List.length_singleton]
        omega
      · exact absurd hn (by simp)
  | awaitDone n =>
    obtain ⟨-, rfl⟩ := h
    exact ht
  | close | callCancel | clearLogWriter | validate | check =>
    obtain rfl : r' = _ := h
    exact ⟨ht.gens, ht.active⟩

/-- Only `Start` adds a start. -/
lemma Exec.emits_eq {o : RunnerOp E} {t : o.Res} (h : Exec o r t r') :
    r'.emits = r.emits ∨ ∃ emit, o = .launch emit ∧ r' = r.launch emit := by
  cases o with
  | launch emit => exact .inr ⟨emit, rfl, h⟩
  | stopWait m =>
    obtain rfl : r' = _ := h
    refine .inl (List.ext_getElem? fun n => ?_)
    rw [getElem?_emits, getElem?_emits, List.getElem?_modify]
    cases r.runs[n]? with
    | none => rfl
    | some run =>
      simp only [Option.map_some]
      split <;> rfl
  | takeAll | awaitDone =>
    obtain ⟨-, rfl⟩ := h
    exact .inl rfl
  | close | callCancel | clearLogWriter | validate | check =>
    obtain rfl : r' = _ := h
    exact .inl rfl

/-- **What the goroutines can say**: nothing about a stop, while the runner stays as active as it
was; or that the last start stopped, when it does. -/
lemma Goes.passed_cases (ht : r.Tracked) (h : Goes r r') {passed : List (ℕ × Event)}
    (hpassed : r'.passed = passed ++ r.passed) :
    (r'.active = r.active ∧ ∀ n, stops n passed = 0) ∨
      (r.active = true ∧ r'.active = false ∧ r.runs ≠ [] ∧
        ∀ n, stops n passed = if n + 1 = r.runs.length then 1 else 0) := by
  have hsend : ∀ (n : ℕ) (run : Run E) (ev : Event), ev.event ≠ .tunStopped →
      (r.send n run ev).passed = passed ++ r.passed →
      (r.send n run ev).active = r.active ∧ ∀ n, stops n passed = 0 := by
    intro n run ev hev hp
    unfold send at hp ⊢
    split at hp
    · rw [if_pos ‹_›]
      refine ⟨rfl, fun m => ?_⟩
      have hp : [(n, ev)] ++ r.passed = passed ++ r.passed := hp
      rw [← List.append_cancel_right hp]
      simp [stops, hev]
    · rw [if_neg ‹_›]
      refine ⟨rfl, fun m => ?_⟩
      have hp : [] ++ r.passed = passed ++ r.passed := hp
      rw [← List.append_cancel_right hp]
      rfl
  cases h with
  | log n run line hn => exact .inl (hsend n run _ (by simp) hpassed)
  | step n run pc u hn h =>
    cases h with
    | sendReady => exact .inl (hsend n run _ (by simp [tunReady]) hpassed)
    | fail reason hpc hgen =>
      have hlast := (ht.gens n run hn).2 hgen.symm
      have hrun : r.lastRun = some run := by rw [lastRun, ← hlast, Nat.add_sub_cancel, hn]
      refine .inr ⟨ht.active run hrun hgen.symm (by rw [hpc]; trivial), rfl, ?_, fun m => ?_⟩
      · rintro hnil
        simp [hnil] at hlast
      · have hp : [(n, tunStopped reason)] ++ r.passed = passed ++ r.passed := hpassed
        rw [← List.append_cancel_right hp]
        by_cases hm : n = m
        · rw [if_pos (hm ▸ hlast)]
          simp [stops, hm, tunStopped]
        · rw [if_neg (by omega)]
          simp [stops, hm]
    | _ =>
      have hp : [] ++ r.passed = passed ++ r.passed := hpassed
      rw [← List.append_cancel_right hp]
      exact .inl ⟨rfl, fun _ => rfl⟩

end BoxTunRunner

/-! ### Interference -/

/-- Whether one event says that start `n` stopped. -/
lemma stops_cons (n : ℕ) (e : ℕ × Event) (l : List (ℕ × Event)) :
    stops n (e :: l) = stops n [e] + stops n l := by
  rw [← List.singleton_append]
  exact List.countP_append

lemma stops_append (n : ℕ) (l l' : List (ℕ × Event)) :
    stops n (l ++ l') = stops n l + stops n l' := List.countP_append

/-- Taking one event out. -/
lemma stops_erase {e : ℕ × Event} {l : List (ℕ × Event)} (he : e ∈ l) (n : ℕ) :
    stops n l = stops n [e] + stops n (l.erase e) := by
  rw [← stops_cons]
  exact (List.perm_cons_erase he).countP_eq _

lemma stops_singleton_of_ne {n m : ℕ} (h : m ≠ n) (ev : Event) : stops n [(m, ev)] = 0 := by
  simp [stops, h]

namespace TunServer

variable {s : TunServer} {Owed : Instance → Prop}

/-- The last start is the last goroutine. -/
lemma lastEmit_eq : s.lastEmit = s.runner.lastRun.map fun run => run.emit := by
  unfold lastEmit BoxTunRunner.lastRun
  rw [BoxTunRunner.getElem?_emits, BoxTunRunner.length_emits]

/-- Nothing is lost as long as the runner does not stop being active. -/
lemma setRunner_of_active {foreign : ℕ → Bool} {runner : BoxTunRunner Instance}
    (h : s.runner.active = true → runner.active = true) :
    s.setRunner foreign runner = { s with runner } := by
  unfold setRunner
  congr
  split
  · rfl
  · rw [if_neg]
    rintro ⟨hact, hnot, -⟩
    exact absurd (h hact) (by simp [hnot])

/-- What is lost when the runner stops being active. -/
lemma setRunner_of_stop {foreign : ℕ → Bool} {runner : BoxTunRunner Instance}
    (hact : s.runner.active = true) (hnot : runner.active = false) {inst : Instance}
    (hlast : s.lastEmit = some inst) :
    s.setRunner foreign runner = { s with
      runner
      lost := if foreign inst.lease then (s.runner.emits.length - 1) :: s.lost else s.lost } := by
  rw [lastEmit_eq] at hlast
  obtain ⟨run, hrun, rfl⟩ := Option.map_eq_some_iff.1 hlast
  unfold setRunner
  rw [hrun, BoxTunRunner.length_emits]
  simp [hact, hnot]

/-- **The goroutines go on**: when the last start fails, its lease is told by the event, or is owed
to be told if the start is superseded. -/
lemma Notified.goes (hs : s.Notified Owed) {runner : BoxTunRunner Instance}
    {passed : List (ℕ × Event)} (hg : BoxTunRunner.Goes s.runner runner)
    (hpassed : runner.passed = passed ++ s.runner.passed)
    (howed : s.runner.active = true → runner.active = false → ∀ inst, s.lastEmit = some inst →
      inst.gen ≠ s.table.tunGen → Owed inst) :
    Notified { s.setRunner (fun _ => true) runner with emitting := passed ++ s.emitting } Owed := by
  rcases hg.passed_cases hs.tracked hpassed with ⟨hact, hquiet⟩ | ⟨hact, hnot, hne, hlast⟩
  · -- nothing is said
    have hstops : ∀ n, stops n (passed ++ s.emitting) = stops n s.emitting := by
      intro n
      rw [stops_append, hquiet, Nat.zero_add]
    have hsilent : ∀ n, s.Unheard n →
        Unheard { s with runner, emitting := passed ++ s.emitting } n :=
      fun n h => ⟨h.1, h.2.1, (hstops n).trans h.2.2⟩
    have hnotices : ∀ n inst,
        notices { s with runner, emitting := passed ++ s.emitting } n inst = s.notices n inst := by
      intro n inst
      unfold notices
      dsimp only
      rw [hstops]
      rfl
    rw [setRunner_of_active fun h => hact.trans h]
    refine ⟨hs.tracked.goes hg, ?_, fun n hn => hsilent n (hs.future n ?_), fun n hn inst hinst => ?_,
      fun h => ?_⟩
    · dsimp only
      rw [hg.emits_eq]
      exact hs.newest
    · rw [← hg.emits_eq]
      exact hn
    · dsimp only at hinst ⊢
      rw [hg.emits_eq] at hinst ⊢
      rw [hnotices]
      exact hs.told n hn inst hinst
    · dsimp only at h ⊢
      rw [hg.emits_eq]
      exact hsilent _ (hs.silent (hact ▸ h))
  · -- the last start fails
    have hlen : 0 < s.runner.emits.length := by
      rw [BoxTunRunner.length_emits]
      exact List.length_pos_iff.2 hne
    obtain ⟨inst, hinst⟩ : ∃ inst, s.lastEmit = some inst :=
      ⟨_, List.getElem?_eq_getElem (Nat.sub_lt hlen Nat.one_pos)⟩
    obtain ⟨hlost, hheard, hemit⟩ := hs.silent hact
    have hstops : ∀ n, n + 1 ≠ s.runner.emits.length →
        stops n (passed ++ s.emitting) = stops n s.emitting := by
      intro n hn
      rw [stops_append, hlast, if_neg (by rwa [← BoxTunRunner.length_emits]), Nat.zero_add]
    rw [setRunner_of_stop hact hnot hinst, if_pos rfl]
    refine ⟨hs.tracked.goes hg, ?_, fun n hn => ?_, fun n hn inst' hinst' => ?_,
      fun h => absurd h (by simp [hnot])⟩
    · dsimp only
      rw [hg.emits_eq]
      exact hs.newest
    · dsimp only at hn
      rw [hg.emits_eq] at hn
      obtain ⟨h1, h2, h3⟩ := hs.future n hn
      refine ⟨fun h => ?_, h2, (hstops n (by omega)).trans h3⟩
      rcases List.mem_cons.1 h with rfl | h
      · omega
      · exact h1 h
    · dsimp only at hinst' ⊢
      rw [hg.emits_eq] at hinst' ⊢
      by_cases hn' : n + 1 = s.runner.emits.length
      · obtain rfl : n = s.runner.emits.length - 1 := by omega
        obtain rfl := Option.some.inj (hinst.symm.trans hinst')
        have hzero : heard { s with
            runner, lost := (s.runner.emits.length - 1) :: s.lost, emitting := passed ++ s.emitting }
            (s.runner.emits.length - 1) inst.lease = 0 := hheard inst.lease
        unfold notices
        rw [hzero]
        dsimp only
        by_cases hgen : inst.gen = s.table.tunGen
        · left
          rw [if_pos hgen, stops_append, hlast, hemit, ← BoxTunRunner.length_emits, if_pos hn']
        · right
          rw [if_neg hgen]
          exact ⟨hn', howed hact hnot inst hinst hgen, rfl⟩
      · have hold : n ∈ s.lost := by
          rcases List.mem_cons.1 hn with rfl | h
          · omega
          · exact h
        have hnotices : notices { s with
            runner, lost := (s.runner.emits.length - 1) :: s.lost, emitting := passed ++ s.emitting }
            n inst' = s.notices n inst' := by
          unfold notices
          dsimp only
          rw [hstops n hn']
          rfl
        rw [hnotices]
        exact hs.told n hold inst' hinst'

/-- The state after an event was written. -/
def delivered (s : TunServer) (n : ℕ) (inst : Instance) (ev : Event) : TunServer :=
  { s with
    sending := s.sending.erase (n, ev)
    written := s.written ++ [(inst.lease, n, ev)] }

/-- Writing an event to the lease of its start leaves what that lease hears. -/
lemma heard_delivered {n : ℕ} {ev : Event} (hev : (n, ev) ∈ s.sending) (inst : Instance) (m : ℕ) :
    (n = m → (s.delivered n inst ev).heard m inst.lease = s.heard m inst.lease) ∧
      ∀ lease, (s.delivered n inst ev).heard m lease ≤ s.heard m lease ∧
        (n ≠ m → (s.delivered n inst ev).heard m lease = s.heard m lease) := by
  have hstops := stops_erase hev m
  unfold heard delivered
  dsimp only
  simp only [List.countP_append, List.countP_singleton]
  by_cases hnm : n = m
  · subst hnm
    by_cases hstop : ev.event = .tunStopped
    · have hone : stops n [(n, ev)] = 1 := by simp [stops, hstop]
      simp only [hone, hstop, decide_true, and_self, if_true, and_true] at hstops ⊢
      refine ⟨fun _ => by omega, fun lease => ⟨?_, fun hne => absurd rfl hne⟩⟩
      split <;> omega
    · have hnone : stops n [(n, ev)] = 0 := by simp [stops, hstop]
      simp only [hnone, hstop, and_false, decide_false, Bool.false_eq_true, if_false] at hstops ⊢
      exact ⟨fun _ => by omega, fun lease => ⟨by omega, fun hne => absurd rfl hne⟩⟩
  · rw [stops_singleton_of_ne hnm] at hstops
    simp [hnm, hstops]

/-- **An event is written.** -/
lemma Notified.deliver (hs : s.Notified Owed) {n : ℕ} {inst : Instance} {ev : Event}
    (hev : (n, ev) ∈ s.sending) (hn : s.runner.emits[n]? = some inst) :
    (s.delivered n inst ev).Notified Owed := by
  have hsilent : ∀ m, s.Unheard m → (s.delivered n inst ev).Unheard m := fun m h =>
    ⟨h.1, fun lease => Nat.le_zero.1 (h.2.1 lease ▸ ((heard_delivered hev inst m).2 lease).1), h.2.2⟩
  refine ⟨hs.tracked, hs.newest, fun m hm => hsilent m (hs.future m hm), fun m hm inst' hinst' => ?_,
    fun h => hsilent _ (hs.silent h)⟩
  have hnotices : (s.delivered n inst ev).notices m inst' = s.notices m inst' := by
    unfold notices
    by_cases hnm : n = m
    · subst hnm
      obtain rfl := Option.some.inj (hn.symm.trans hinst')
      rw [(heard_delivered hev inst n).1 rfl]
      rfl
    · rw [((heard_delivered hev inst m).2 inst'.lease).2 hnm]
      rfl
  rw [hnotices]
  exact hs.told m hm inst' hinst'

/-- What routing an event changes. -/
lemma route_eq {n : ℕ} {inst : Instance} (ev : Event) :
    (s.route n inst ev).table.tunGen = s.table.tunGen ∧
      (s.route n inst ev).emitting = s.emitting.erase (n, ev) ∧
      (s.route n inst ev).sending =
        if s.table.tunGen = inst.gen then (n, ev) :: s.sending else s.sending := by
  refine ⟨LeaseTable.route_tunGen .., rfl, ?_⟩
  simp [route, LeaseTable.route]

/-- Routing an event leaves the notices as they are: it is let through, or was not going to be. -/
lemma notices_route {n : ℕ} {inst : Instance} {ev : Event} (hev : (n, ev) ∈ s.emitting)
    (hn : s.runner.emits[n]? = some inst) {m : ℕ} {inst' : Instance}
    (hm : s.runner.emits[m]? = some inst') :
    (s.route n inst ev).notices m inst' = s.notices m inst' := by
  obtain ⟨hgen, hemit, hsend⟩ := @route_eq s n inst ev
  have hstops := stops_erase hev m
  unfold notices heard
  rw [hgen, hemit, hsend]
  by_cases hnm : n = m
  · subst hnm
    obtain rfl := Option.some.inj (hn.symm.trans hm)
    by_cases hcur : s.table.tunGen = inst.gen
    · simp only [if_pos hcur, if_pos hcur.symm]
      rw [stops_cons]
      have hwritten : (s.route n inst ev).written = s.written := rfl
      rw [hwritten]
      omega
    · simp only [if_neg hcur, if_neg (Ne.symm hcur)]
      rfl
  · rw [stops_singleton_of_ne hnm] at hstops
    have hsending : stops m (if s.table.tunGen = inst.gen then (n, ev) :: s.sending else s.sending) =
        stops m s.sending := by
      split
      · rw [stops_cons, stops_singleton_of_ne hnm, Nat.zero_add]
      · rfl
    rw [hsending, hstops, Nat.zero_add]
    rfl

/-- Routing an event says nothing about a start of which nothing was said. -/
lemma Unheard.route {n m : ℕ} {ev : Event} (hs : s.Unheard m) (hev : (n, ev) ∈ s.emitting)
    (inst : Instance) : (s.route n inst ev).Unheard m := by
  obtain ⟨hlost, hheard, hemitting⟩ := hs
  obtain ⟨-, hemit, hsend⟩ := @route_eq s n inst ev
  have hstops := stops_erase hev m
  refine ⟨hlost, fun lease => ?_, ?_⟩
  · have hzero := hheard lease
    unfold heard at hzero ⊢
    rw [hsend]
    have hwritten : (s.route n inst ev).written = s.written := rfl
    rw [hwritten]
    split
    · rw [stops_cons]
      omega
    · exact hzero
  · rw [hemit]
    omega

/-- **An event is routed.** -/
lemma Notified.route (hs : s.Notified Owed) {n : ℕ} {inst : Instance} {ev : Event}
    (hev : (n, ev) ∈ s.emitting) (hn : s.runner.emits[n]? = some inst) :
    (s.route n inst ev).Notified Owed := by
  refine ⟨hs.tracked, ?_, fun m hm => (hs.future m hm).route hev inst, fun m hm inst' hinst' => ?_,
    fun h => (hs.silent h).route hev inst⟩
  · rw [(route_eq ev).1]
    exact hs.newest
  · rw [notices_route hev hn hinst']
    exact hs.told m hm inst' hinst'

/-! ### Assertions -/

/-- A state with the same notices. -/
lemma Notified.congr {s' : TunServer} (hs : s.Notified Owed) (hrunner : s'.runner = s.runner)
    (hgen : s'.table.tunGen = s.table.tunGen) (hemitting : s'.emitting = s.emitting)
    (hsending : s'.sending = s.sending) (hwritten : s'.written = s.written)
    (hlost : s'.lost = s.lost) : s'.Notified Owed := by
  have hheard : ∀ n lease, s'.heard n lease = s.heard n lease := by
    intro n lease
    unfold heard
    rw [hsending, hwritten]
  have hunheard : ∀ n, s.Unheard n → s'.Unheard n := by
    rintro n ⟨h1, h2, h3⟩
    exact ⟨hlost ▸ h1, fun lease => (hheard n lease).trans (h2 lease), hemitting ▸ h3⟩
  have hnotices : ∀ n inst, s'.notices n inst = s.notices n inst := by
    intro n inst
    unfold notices
    rw [hheard, hgen, hemitting]
  refine ⟨hrunner ▸ hs.tracked, ?_, ?_, ?_, ?_⟩
  · rw [hrunner, hgen]
    exact hs.newest
  · rw [hrunner]
    exact fun n hn => hunheard n (hs.future n hn)
  · rw [hrunner, hlost]
    intro n hn inst hinst
    rw [hnotices]
    exact hs.told n hn inst hinst
  · rw [hrunner]
    exact fun h => hunheard _ (hs.silent h)

/-- A runner that is as active as before, with the same starts. -/
lemma Notified.withRunner (hs : s.Notified Owed) {runner : BoxTunRunner Instance}
    (ht : runner.Tracked) (hemits : runner.emits = s.runner.emits)
    (hact : runner.active = true → s.runner.active = true) : Notified { s with runner } Owed := by
  refine ⟨ht, ?_, ?_, ?_, ?_⟩
  · dsimp only
    rw [hemits]
    exact hs.newest
  · dsimp only
    rw [hemits]
    exact fun n hn => hs.future n hn
  · dsimp only
    rw [hemits]
    exact fun n hn inst hinst => hs.told n hn inst hinst
  · dsimp only
    rw [hemits]
    exact fun h => hs.silent (hact h)

lemma Told.congr {s' : TunServer} (hs : s.Told) (hrunner : s'.runner = s.runner)
    (hgen : s'.table.tunGen = s.table.tunGen) (howner : s'.table.tunOwner = s.table.tunOwner)
    (hemitting : s'.emitting = s.emitting) (hsending : s'.sending = s.sending)
    (hwritten : s'.written = s.written) (hlost : s'.lost = s.lost) : s'.Told := by
  refine ⟨hs.notified.congr hrunner hgen hemitting hsending hwritten hlost, ?_, ?_⟩
  · unfold lastEmit
    rw [hrunner, howner]
    exact hs.owned
  · unfold lastEmit heard
    rw [hrunner, howner, hgen, hsending, hwritten]
    exact hs.owner

lemma Told.withRunner (hs : s.Told) {runner : BoxTunRunner Instance} (ht : runner.Tracked)
    (hemits : runner.emits = s.runner.emits)
    (hact : runner.active = true → s.runner.active = true) : Told { s with runner } := by
  refine ⟨hs.notified.withRunner ht hemits hact, ?_, ?_⟩
  · unfold lastEmit
    dsimp only
    rw [hemits]
    exact fun h => hs.owned (hact h)
  · unfold lastEmit
    dsimp only
    rw [hemits]
    exact hs.owner

/-- The previous owner is owed a notice when another connection takes the Tun over. -/
def Debt (sect : Section) (prev : Option ℕ) (inst : Instance) : Prop :=
  sect.takesOver = true ∧ sect.foreign inst.lease = true ∧ prev = some inst.lease

/-- What holds after a section took the Tun from `prev` in the table. -/
structure TunTaken (sect : Section) (prev : Option ℕ) (s : TunServer) : Prop where
  notified : s.Notified (Debt sect prev)
  fresh : ∀ (n : ℕ) (inst : Instance), s.runner.emits[n]? = some inst → inst.gen < s.table.tunGen
  tunOwner : s.table.tunOwner = none
  taker : s.taker = some sect
  previous : ∀ lease, prev = some lease → ∃ inst, s.lastEmit = some inst ∧ inst.lease = lease ∧
    ∀ lease, s.heard (s.runner.emits.length - 1) lease = 0
  active : s.runner.active = true → ∃ inst, s.lastEmit = some inst ∧ prev = some inst.lease ∧
    (sect.foreign inst.lease = true → sect.takesOver = true)

/-- What holds once nothing runs and nobody is owed anything: the Tun can be claimed and started. -/
structure Vacant (owner : Option ℕ) (gen : ℕ) (s : TunServer) : Prop where
  notified : s.Notified fun _ => False
  fresh : ∀ (n : ℕ) (inst : Instance), s.runner.emits[n]? = some inst → inst.gen < s.table.tunGen
  inactive : s.runner.active = false
  tunOwner : s.table.tunOwner = owner
  tunGen : s.table.tunGen = gen

lemma TunTaken.withRunner {sect : Section} {prev : Option ℕ} (hs : TunTaken sect prev s)
    {runner : BoxTunRunner Instance} (ht : runner.Tracked) (hemits : runner.emits = s.runner.emits)
    (hact : runner.active = true → s.runner.active = true) : TunTaken sect prev { s with runner } := by
  refine ⟨hs.notified.withRunner ht hemits hact, ?_, hs.tunOwner, hs.taker, ?_, ?_⟩
  · dsimp only
    rw [hemits]
    exact hs.fresh
  · unfold lastEmit
    dsimp only
    rw [hemits]
    exact hs.previous
  · unfold lastEmit
    dsimp only
    rw [hemits]
    exact fun h => hs.active (hact h)

lemma Vacant.withRunner {owner : Option ℕ} {gen : ℕ} (hs : Vacant owner gen s)
    {runner : BoxTunRunner Instance} (ht : runner.Tracked) (hemits : runner.emits = s.runner.emits)
    (hact : runner.active = false) : Vacant owner gen { s with runner } := by
  refine ⟨hs.notified.withRunner ht hemits fun h => absurd h (by simp [hact]), ?_, hact, hs.tunOwner,
    hs.tunGen⟩
  dsimp only
  rw [hemits]
  exact hs.fresh

/-- Without an owner, that is what holds between sections. -/
lemma Vacant.told {gen : ℕ} (hs : Vacant none gen s) : s.Told :=
  ⟨hs.notified, fun h => absurd h (by simp [hs.inactive]),
    fun _ h => absurd h (by simp [hs.tunOwner])⟩

end TunServer

end Proxor.MacHelper
