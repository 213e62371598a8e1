import Proxor.MacHelper.TunNotices

set_option relaxedAutoImplicit false
set_option autoImplicit false

/-!
# The runs in which every owner is told

A Tun that is stopped by another connection's `tun_stop` or `uninstall` is stopped silently, and so
is one that is taken over when closing it fails. In the runs where neither happens, and where the
event of a failed instance is routed before its generation is superseded, every owner that lost its
Tun is told exactly once.

## Main definitions

* `Proxor.MacHelper.MayDo`, `Proxor.MacHelper.MayGo` — the runs in which every owner is told.
* `Proxor.MacHelper.OwnersTold` — every owner that lost its Tun is told exactly once.

## Main results

* `Proxor.MacHelper.owners_told` — that is so in these runs.
* `Proxor.MacHelper.stopped_owner_not_told` — the owner is not told of a `tun_stop` by another
  connection.

## Design

Every section gets an outline. Between sections it is `Told`; once the Tun is taken in the table,
`TunTaken`; once nothing runs and nobody is owed a notice, `Vacant`.
-/

namespace Proxor.MacHelper

open Resumption

/-! ### What may happen -/

/-- A section may take the Tun: when it stops an active Tun of another lease it is a `tun_start`, and
an event of a failed instance is only superseded by a `tun_start` that takes over from its owner. -/
structure TunServer.MayTake (s : TunServer) (sect : Section) : Prop where
  active : s.runner.active = true → ∀ inst, s.lastEmit = some inst →
    sect.foreign inst.lease = true → sect.takesOver = true
  pending : ∀ (n : ℕ) (inst : Instance), s.runner.emits[n]? = some inst →
    inst.gen = s.table.tunGen → stops n s.emitting ≠ 0 →
      sect.takesOver = true ∧ sect.foreign inst.lease = true ∧ s.table.tunOwner = some inst.lease

/-- What the sections may do: a `tun_stop` stops no active Tun of another lease, and no `Close` fails
in a take-over. -/
def MayDo : (o : TunOp) → TunServer → o.Res → Prop
  | .server sect .takeTun, s, _ => s.MayTake sect
  | .server sect (.release lease), s, _ => s.table.tunOwner = some lease → s.MayTake sect
  | .runner (.request lease (.tunStop _)) .takeAll, s, _ =>
    s.runner.active = true → ∀ inst, s.lastEmit = some inst → inst.lease = lease
  | .runner (.request lease (.tunStart ..)) (.close _), s, err =>
    ∀ inst, s.lastEmit = some inst → inst.lease ≠ lease → err = none
  | _, _, _ => True

/-- What may happen without the mutex: an instance whose generation is superseded only fails while
another lease takes over. -/
def MayGo (s s' : TunServer) : Prop :=
  s.runner.active = true → s'.runner.active = false → ∀ inst, s.lastEmit = some inst →
    inst.gen ≠ s.table.tunGen →
      ∃ sect, s.taker = some sect ∧ sect.takesOver = true ∧ sect.foreign inst.lease = true

/-- The helper over its runner, where only that happens. -/
abbrev quietServer (available : Bool) :
    Monitor TunOp TunOp.Res Section TunServer (Option Response) :=
  tunServer available MayDo MayGo

/-! ### Interference -/

namespace TunServer

variable {available : Bool} {s s' : TunServer} {Owed : Instance → Prop}

/-- **Interference once the last start is superseded**: its events are dropped. -/
lemma Interferes.superseded (h : Interferes s s') (hs : s.Notified Owed)
    (hfresh : ∀ (n : ℕ) (inst : Instance), s.runner.emits[n]? = some inst →
      inst.gen < s.table.tunGen)
    (howed : s.runner.active = true → s'.runner.active = false → ∀ inst, s.lastEmit = some inst →
      inst.gen ≠ s.table.tunGen → Owed inst) :
    s'.Notified Owed ∧ s'.runner.emits = s.runner.emits ∧ s'.table.tunGen = s.table.tunGen ∧
      s'.table.tunOwner = s.table.tunOwner ∧ s'.taker = s.taker ∧
      (s'.runner.active = true → s.runner.active = true) ∧
      ∀ n lease, s'.heard n lease ≤ s.heard n lease := by
  cases h with
  | hello =>
    exact ⟨hs.congr rfl rfl rfl rfl rfl rfl, rfl, rfl, rfl, rfl, id, fun _ _ => le_rfl⟩
  | goes runner passed hg hpassed =>
    refine ⟨hs.goes hg hpassed howed, hg.emits_eq, rfl, rfl, rfl, fun hact => ?_,
      fun _ _ => le_rfl⟩
    rcases hg.passed_cases hs.tracked hpassed with ⟨heq, -⟩ | ⟨hwas, -⟩
    · rw [← heq]
      exact hact
    · exact hwas
  | route n run ev hev hn =>
    have hn : s.runner.emits[n]? = some run.emit := by
      rw [BoxTunRunner.getElem?_emits, hn]
      rfl
    have hne : s.table.tunGen ≠ run.emit.gen := (hfresh n run.emit hn).ne'
    have htable : (s.route n run.emit ev).table = s.table := by
      unfold TunServer.route
      rw [LeaseTable.route_of_ne _ _ hne]
    obtain ⟨-, -, hsend⟩ := @route_eq s n run.emit ev
    rw [if_neg hne] at hsend
    refine ⟨hs.route hev hn, rfl, by rw [htable], by rw [htable], rfl, id, fun m lease => ?_⟩
    unfold heard
    rw [hsend]
    exact le_rfl
  | deliver n run ev hev hn =>
    have hn : s.runner.emits[n]? = some run.emit := by
      rw [BoxTunRunner.getElem?_emits, hn]
      rfl
    exact ⟨hs.deliver hev hn, rfl, rfl, rfl, rfl, id,
      fun m lease => ((heard_delivered hev run.emit m).2 lease).1⟩

lemma stable_tunTaken (sect : Section) (prev : Option ℕ) :
    (quietServer available).Stable (TunTaken sect prev) := by
  rintro s s' ⟨h, hgo⟩ hs
  have howed : s.runner.active = true → s'.runner.active = false → ∀ inst,
      s.lastEmit = some inst → inst.gen ≠ s.table.tunGen → Debt sect prev inst := by
    intro hact hnot inst hinst hgen
    obtain ⟨sect', htaker, htakes, hforeign⟩ := hgo hact hnot inst hinst hgen
    obtain rfl := Option.some.inj (hs.taker.symm.trans htaker)
    obtain ⟨inst', hinst', hprev, -⟩ := hs.active hact
    obtain rfl := Option.some.inj (hinst.symm.trans hinst')
    exact ⟨htakes, hforeign, hprev⟩
  obtain ⟨hnotified, hemits, hgen, howner, htaker, hact, hheard⟩ :=
    h.superseded hs.notified hs.fresh howed
  refine ⟨hnotified, ?_, howner.trans hs.tunOwner, htaker.trans hs.taker, fun lease hprev => ?_,
    fun hact' => ?_⟩
  · rw [hemits, hgen]
    exact hs.fresh
  · obtain ⟨inst, hinst, hlease, hzero⟩ := hs.previous lease hprev
    unfold lastEmit
    rw [hemits]
    exact ⟨inst, hinst, hlease, fun lease => Nat.le_zero.1 (hzero lease ▸ hheard _ lease)⟩
  · unfold lastEmit
    rw [hemits]
    exact hs.active (hact hact')

lemma stable_vacant (owner : Option ℕ) (gen : ℕ) :
    (quietServer available).Stable (Vacant owner gen) := by
  rintro s s' ⟨h, -⟩ hs
  obtain ⟨hnotified, hemits, hgen, howner, -, hact, -⟩ :=
    h.superseded hs.notified hs.fresh fun hact => absurd hact (by simp [hs.inactive])
  refine ⟨hnotified, ?_, Bool.eq_false_iff.2 fun h => ?_, howner.trans hs.tunOwner,
    hgen.trans hs.tunGen⟩
  · rw [hemits, hgen]
    exact hs.fresh
  · exact absurd (hact h) (by simp [hs.inactive])

/-- Nobody makes the runner active without the mutex. -/
lemma Interferes.active (h : Interferes s s') (ht : s.runner.Tracked)
    (hact : s'.runner.active = true) : s.runner.active = true := by
  cases h with
  | goes runner passed hg hpassed =>
    rcases hg.passed_cases ht hpassed with ⟨heq, -⟩ | ⟨hwas, -⟩
    · rw [← heq]
      exact hact
    · exact hwas
  | _ => exact hact

/-- **Interference between sections**: routing the event of the owner's start ends its ownership. -/
lemma Interferes.told (h : Interferes s s') (hs : s.Told) : s'.Told := by
  cases h with
  | hello => exact hs.congr rfl rfl rfl rfl rfl rfl rfl
  | goes runner passed hg hpassed =>
    have hactive : runner.active = true → s.runner.active = true :=
      fun h => Interferes.active (.goes s runner passed hg hpassed) hs.notified.tracked h
    refine ⟨hs.notified.goes hg hpassed fun hact _ inst hinst hgen => ?_, fun hact => ?_, ?_⟩
    · -- an active Tun is of the current generation
      obtain ⟨inst', hinst', howner⟩ := hs.owned hact
      obtain ⟨inst'', hinst'', -, hgen', -⟩ := hs.owner _ howner
      obtain rfl := Option.some.inj (hinst.symm.trans hinst'')
      exact hgen hgen'
    · unfold lastEmit
      dsimp only [setRunner]
      rw [hg.emits_eq]
      exact hs.owned (hactive hact)
    · unfold lastEmit
      dsimp only [setRunner]
      rw [hg.emits_eq]
      exact hs.owner
  | route n run ev hev hn =>
    have hn : s.runner.emits[n]? = some run.emit := by
      rw [BoxTunRunner.getElem?_emits, hn]
      rfl
    have hlastOf : run.emit.gen = s.table.tunGen → s.lastEmit = some run.emit := by
      intro hgen
      have hlen := (hs.notified.newest n run.emit hn).2 hgen
      rw [lastEmit, ← hlen, Nat.add_sub_cancel, hn]
    obtain ⟨-, -, hsend⟩ := @route_eq s n run.emit ev
    by_cases hends : s.table.tunGen = run.emit.gen ∧ ev.event = .tunStopped ∧
        s.table.tunOwner = some run.emit.lease
    · -- the Tun has failed, and its owner has lost it
      obtain ⟨hgen, hstop, -⟩ := id hends
      have howner : (s.route n run.emit ev).table.tunOwner = none := by
        simp [TunServer.route, LeaseTable.route, hends]
      refine ⟨hs.notified.route hev hn, fun hact => ?_, fun _ h => absurd h (by simp [howner])⟩
      have hquiet := (hs.notified.silent hact).2.2
      have hlen := (hs.notified.newest n run.emit hn).2 hgen.symm
      rw [← hlen, Nat.add_sub_cancel] at hquiet
      have hmem := List.countP_eq_zero.1 hquiet _ hev
      exact absurd hstop (by simpa using hmem)
    · have howner : (s.route n run.emit ev).table.tunOwner = s.table.tunOwner := by
        simp only [TunServer.route, LeaseTable.route]
        rw [if_neg hends]
      refine ⟨hs.notified.route hev hn, fun hact => ?_, fun lease hlease => ?_⟩
      · rw [howner]
        exact hs.owned hact
      · rw [howner] at hlease
        obtain ⟨inst, hinst, hl, hgen, hzero⟩ := hs.owner lease hlease
        refine ⟨inst, hinst, hl, hgen.trans (route_eq ev).1.symm, fun lease' => ?_⟩
        unfold heard at hzero ⊢
        rw [hsend]
        have hwritten : (s.route n run.emit ev).written = s.written := rfl
        have hrunner : (s.route n run.emit ev).runner = s.runner := rfl
        rw [hwritten, hrunner]
        split
        · rename_i hcur
          rw [stops_cons]
          have hone : stops (s.runner.emits.length - 1) [(n, ev)] = 0 := by
            by_cases hstop : ev.event = .tunStopped
            · -- it is the last start's, whose lease would own the Tun
              have heq := Option.some.inj ((hlastOf hcur.symm).symm.trans hinst)
              exact absurd ⟨hcur, hstop, by rw [hlease, ← hl, heq]⟩ hends
            · simp [stops, hstop]
          rw [hone, Nat.zero_add]
          exact hzero lease'
        · exact hzero lease'
  | deliver n run ev hev hn =>
    have hn : s.runner.emits[n]? = some run.emit := by
      rw [BoxTunRunner.getElem?_emits, hn]
      rfl
    refine ⟨hs.notified.deliver hev hn, hs.owned, fun lease hlease => ?_⟩
    obtain ⟨inst, hinst, hl, hgen, hzero⟩ := hs.owner lease hlease
    exact ⟨inst, hinst, hl, hgen,
      fun lease => Nat.le_zero.1 (hzero lease ▸ ((heard_delivered hev run.emit _).2 lease).1)⟩

lemma stable_told : (quietServer available).Stable Told := fun _ _ h hs => h.1.told hs

end TunServer

/-! ### The runner's part of a stop -/

/-- The operations of the runner that start nothing and do not begin a stop. -/
def RunnerOp.Quiet {E : Type} : RunnerOp E → Prop
  | takeAll => False
  | launch _ => False
  | _ => True

/-- A quiet operation leaves the starts as they are, and the runner as active as it is. -/
lemma BoxTunRunner.Exec.quiet {E : Type} {o : RunnerOp E} {r r' : BoxTunRunner E} {t : o.Res}
    (h : BoxTunRunner.Exec o r t r') (ho : o.Quiet) :
    r'.emits = r.emits ∧ r'.active = r.active := by
  constructor
  · rcases h.emits_eq with heq | ⟨emit, rfl, -⟩
    · exact heq
    · exact ho.elim
  · cases o with
    | takeAll | launch => exact ho.elim
    | awaitDone =>
      obtain ⟨-, rfl⟩ := h
      rfl
    | close | callCancel | stopWait | clearLogWriter | validate | check =>
      obtain rfl : r' = _ := h
      rfl

namespace TunServer

variable {available : Bool} {s : TunServer} {P : TunServer → Prop} {sect : Section}

/-- An assertion about a runner that is not active, which the quiet operations keep. -/
structure Calm (available : Bool) (P : TunServer → Prop) : Prop where
  stable : (quietServer available).Stable P
  tracked : ∀ s : TunServer, P s → s.runner.Tracked
  inactive : ∀ s : TunServer, P s → s.runner.active = false
  runner : ∀ (s : TunServer) (runner : BoxTunRunner Instance), P s → runner.Tracked →
    runner.emits = s.runner.emits → runner.active = false → P { s with runner }

/-- What a take-over whose `Close` failed knows: the Tun it stopped is of its own lease. -/
def OwnTun (sect : Section) (s : TunServer) : Prop :=
  sect.takesOver = true → ∀ inst, s.lastEmit = some inst → sect.foreign inst.lease = false

/-- What is said of the last start only is not broken by anything but a start. -/
lemma Calm.own (hP : Calm available P) (sect : Section) :
    Calm available fun s => P s ∧ OwnTun sect s := by
  refine ⟨?_, fun s hs => hP.tracked s hs.1, fun s hs => hP.inactive s hs.1, ?_⟩
  · rintro s s' he ⟨hs, hown⟩
    refine ⟨hP.stable s s' he hs, ?_⟩
    unfold OwnTun lastEmit
    rcases he.1.runner_eq with heq | hg
    · rw [heq]
      exact hown
    · rw [hg.emits_eq]
      exact hown
  · rintro s runner ⟨hs, hown⟩ ht hemits hact
    refine ⟨hP.runner s runner hs ht hemits hact, ?_⟩
    unfold OwnTun lastEmit
    dsimp only
    rw [hemits]
    exact hown

/-- One quiet operation. -/
lemma Calm.exec (hP : Calm available P) {o : RunnerOp Instance} (ho : o.Quiet) {s' : TunServer}
    {t : o.Res} (hs : P s) (h : Exec (.runner sect o) s t s') :
    P s' ∧ s'.lastEmit = s.lastEmit := by
  obtain ⟨runner, hexec, rfl⟩ := h
  obtain ⟨hemits, hact⟩ := hexec.quiet ho
  rw [hP.inactive s hs] at hact
  rw [setRunner_of_active fun h => absurd h (by simp [hP.inactive s hs])]
  refine ⟨hP.runner s runner hs ((hP.tracked s hs).exec hexec) hemits hact, ?_⟩
  unfold lastEmit
  dsimp only
  rw [hemits]

/-- Quiet operations, one after another. -/
lemma Calm.outline_quiet (hP : Calm available P) {β : Type} {p : RunnerAct Instance β}
    (hp : p.OpsIn RunnerOp.Quiet) (hs : P s) :
    (quietServer available).Outline (fun _ _ => True) (fun _ => P) (p.interp sect.onRunner) s := by
  induction p generalizing s with
  | ret b => exact hs
  | op o k ih =>
    refine Monitor.outline_op P hP.stable hs (fun _ _ => trivial) ?_
    rintro s r s' hs ⟨ho, -⟩
    exact ih r (hp.2 r) (hP.exec hp.1 hs ho).1

/-- Closing what was taken: when that fails in a take-over, it was the lease's own Tun. -/
lemma Calm.outline_closeTaken (hP : Calm available P) (closer cancel : Option ℕ) (hs : P s) :
    (quietServer available).Outline (fun _ _ => True)
      (fun (err : Option Err) s => P s ∧ (err.isSome = true → OwnTun sect s))
      ((BoxTunRunner.closeTaken closer cancel).interp sect.onRunner) s := by
  cases closer with
  | none => exact ⟨hs, fun h => absurd h (by simp)⟩
  | some i =>
    refine Monitor.outline_op P hP.stable hs (fun _ _ => trivial) ?_
    rintro s (err : Option Err) s' hs ⟨ho, hmay⟩
    obtain ⟨hs', hlast⟩ := hP.exec (o := .close i) trivial hs ho
    have hown : err.isSome = true → OwnTun sect s' := by
      intro herr htakes inst hinst
      cases sect with
      | release | shutdown => exact absurd htakes (by simp [Section.takesOver])
      | request lease req =>
        cases req with
        | tunStart id config socksPort =>
          by_contra hforeign
          have hne : inst.lease ≠ lease := fun heq => hforeign (by simp [Section.foreign, heq])
          rw [hmay inst (hlast ▸ hinst) hne] at herr
          exact absurd herr (by simp)
        | _ => exact absurd htakes (by simp [Section.takesOver])
    cases cancel with
    | none => exact ⟨hs', hown⟩
    | some j =>
      cases herr : err.isSome with
      | false =>
        refine Monitor.outline_op P hP.stable hs' (fun _ _ => trivial) ?_
        rintro s r s' hs ⟨ho, -⟩
        exact ⟨(hP.exec (o := .callCancel j) trivial hs ho).1, fun h => absurd h (by simp [herr])⟩
      | true =>
        have hP' := hP.own sect
        refine Monitor.outline_op _ hP'.stable ⟨hs', hown herr⟩ (fun _ _ => trivial) ?_
        rintro s r s' hs ⟨ho, -⟩
        obtain ⟨hs, hown⟩ := (hP'.exec (o := .callCancel j) trivial hs ho).1
        exact ⟨hs, fun _ => hown⟩

/-- What `Stop` does with what it has taken out. -/
lemma Calm.outline_stopTaken (hP : Calm available P) (t : Taken) (hs : P s) :
    (quietServer available).Outline (fun _ _ => True)
      (fun (err : Option Err) s => P s ∧ (err.isSome = true → OwnTun sect s))
      ((BoxTunRunner.stopTaken t).interp sect.onRunner) s := by
  have hrest : ∀ {P : TunServer → Prop}, Calm available P → ∀ (err : Option Err) (s : TunServer),
      P s → (quietServer available).Outline (fun _ _ => True) (fun b s => b = err ∧ P s)
        (((BoxTunRunner.abort t.stopWait t.done).bind fun _ =>
          .op .clearLogWriter fun _ => .ret err : RunnerAct Instance (Option Err)).interp
            sect.onRunner) s := by
    intro P hP err s hs
    rw [Prog.interp_bind]
    refine Monitor.Outline.bind (hP.outline_quiet ?_ hs) fun _ s hs => ?_
    · unfold BoxTunRunner.abort
      cases t.stopWait <;> cases t.done <;> simp [RunnerOp.Quiet]
    · refine Monitor.outline_op P hP.stable hs (fun _ _ => trivial) ?_
      rintro s r s' hs ⟨ho, -⟩
      exact ⟨rfl, (hP.exec (o := .clearLogWriter) trivial hs ho).1⟩
  unfold BoxTunRunner.stopTaken
  rw [Prog.interp_bind]
  refine Monitor.Outline.bind (hP.outline_closeTaken t.closer t.cancel hs) ?_
  rintro err s ⟨hs, hown⟩
  cases herr : err.isSome with
  | false =>
    refine (hrest hP err s hs).mono ?_
    rintro b s ⟨rfl, hs⟩
    exact ⟨hs, fun h => absurd h (by simp [herr])⟩
  | true =>
    refine (hrest (hP.own sect) err s ⟨hs, hown herr⟩).mono ?_
    rintro b s ⟨rfl, hs, hown⟩
    exact ⟨hs, fun _ => hown⟩

/-! ### Stopping and starting -/

lemma calm_tunTaken (sect : Section) (prev : Option ℕ) :
    Calm available fun s => TunTaken sect prev s ∧ s.runner.active = false := by
  refine ⟨?_, fun s hs => hs.1.notified.tracked, fun s hs => hs.2, ?_⟩
  · rintro s s' he ⟨hs, hnot⟩
    refine ⟨stable_tunTaken sect prev s s' he hs, Bool.eq_false_iff.2 fun hact => ?_⟩
    exact absurd (he.1.active hs.notified.tracked hact) (by simp [hnot])
  · rintro s runner ⟨hs, -⟩ ht hemits hact
    exact ⟨hs.withRunner ht hemits fun h => absurd h (by simp [hact]), hact⟩

lemma calm_vacant (owner : Option ℕ) (gen : ℕ) : Calm available (Vacant owner gen) :=
  ⟨stable_vacant owner gen, fun _ hs => hs.notified.tracked, fun _ hs => hs.inactive,
    fun _ _ hs ht hemits hact => hs.withRunner ht hemits hact⟩

lemma calm_told : Calm available fun s => Told s ∧ s.runner.active = false := by
  refine ⟨?_, fun s hs => hs.1.notified.tracked, fun s hs => hs.2, ?_⟩
  · rintro s s' he ⟨hs, hnot⟩
    refine ⟨stable_told s s' he hs, Bool.eq_false_iff.2 fun hact => ?_⟩
    exact absurd (he.1.active hs.notified.tracked hact) (by simp [hnot])
  · rintro s runner ⟨hs, -⟩ ht hemits hact
    exact ⟨hs.withRunner ht hemits fun h => absurd h (by simp [hact]), hact⟩

lemma takeAll_tracked (ht : s.runner.Tracked) : s.runner.takeAll.Tracked :=
  ht.exec (o := .takeAll) ⟨rfl, rfl⟩

/-- **The Tun that was taken is stopped**: its lease is owed a notice if it is another one. -/
lemma TunTaken.takeAll {prev : Option ℕ} (hs : TunTaken sect prev s) :
    TunTaken sect prev (s.setRunner (fun lease => sect.foreign lease) s.runner.takeAll) := by
  have hkeep : TunTaken sect prev { s with runner := s.runner.takeAll } :=
    hs.withRunner (takeAll_tracked hs.notified.tracked) rfl fun h => absurd h (by
      simp [BoxTunRunner.takeAll])
  cases hact : s.runner.active with
  | false =>
    rw [setRunner_of_active fun h => absurd h (by simp [hact])]
    exact hkeep
  | true =>
    obtain ⟨inst, hinst, hprev, htakes⟩ := hs.active hact
    rw [setRunner_of_stop hact rfl hinst]
    split
    · rename_i hforeign
      obtain ⟨hlost, hheard, hstops⟩ := hs.notified.silent hact
      have hlen : 0 < s.runner.emits.length := by
        by_contra hzero
        have hnil := List.length_eq_zero_iff.1 (Nat.eq_zero_of_not_pos hzero)
        rw [lastEmit, hnil] at hinst
        exact absurd hinst (by simp)
      refine ⟨⟨hkeep.notified.tracked, hkeep.notified.newest, fun n hn => ?_, fun n hn inst' hinst' => ?_,
        fun h => absurd h (by simp [BoxTunRunner.takeAll])⟩, hkeep.fresh, hkeep.tunOwner, hkeep.taker,
        hkeep.previous, hkeep.active⟩
      · obtain ⟨h1, h2, h3⟩ := hs.notified.future n hn
        refine ⟨fun h => ?_, h2, h3⟩
        rcases List.mem_cons.1 h with rfl | h
        · exact absurd (show s.runner.emits.length ≤ s.runner.emits.length - 1 from hn) (by omega)
        · exact h1 h
      · by_cases hlast : n = s.runner.emits.length - 1
        · right
          subst hlast
          obtain rfl := Option.some.inj (hinst.symm.trans hinst')
          refine ⟨?_, ⟨htakes hforeign, hforeign, hprev⟩, ?_⟩
          · show s.runner.emits.length - 1 + 1 = s.runner.emits.length
            omega
          · show s.heard _ _ + (if inst.gen = s.table.tunGen then stops _ s.emitting else 0) = 0
            rw [hheard, hstops]
            split <;> rfl
        · rcases List.mem_cons.1 hn with h | h
          · exact absurd h hlast
          · exact hs.notified.told n h inst' hinst'
    · exact hkeep

/-- A Tun is stopped by its own lease, between sections. -/
lemma Told.takeAll (hs : s.Told) (hown : s.runner.active = true → ∀ inst, s.lastEmit = some inst →
      sect.foreign inst.lease = false) :
    (s.setRunner (fun lease => sect.foreign lease) s.runner.takeAll).Told := by
  have hkeep : Told { s with runner := s.runner.takeAll } :=
    hs.withRunner (takeAll_tracked hs.notified.tracked) rfl fun h => absurd h (by
      simp [BoxTunRunner.takeAll])
  cases hact : s.runner.active with
  | false =>
    rw [setRunner_of_active fun h => absurd h (by simp [hact])]
    exact hkeep
  | true =>
    obtain ⟨inst, hinst, -⟩ := hs.owned hact
    rw [setRunner_of_stop hact rfl hinst, if_neg (by simp [hown hact inst hinst])]
    exact hkeep

/-- Nobody is owed anything once the previous owner was told, or need not be. -/
lemma TunTaken.vacant {prev : Option ℕ} (hs : TunTaken sect prev s) (hact : s.runner.active = false)
    (hdebt : ∀ inst, s.lastEmit = some inst → ¬ Debt sect prev inst) :
    Vacant none s.table.tunGen s := by
  refine ⟨⟨hs.notified.tracked, hs.notified.newest, hs.notified.future, fun n hn inst hinst => ?_,
    hs.notified.silent⟩, hs.fresh, hact, hs.tunOwner, rfl⟩
  rcases hs.notified.told n hn inst hinst with hone | ⟨hlast, howed, -⟩
  · exact .inl hone
  · refine absurd howed (hdebt inst ?_)
    rw [lastEmit, ← hlast, Nat.add_sub_cancel, hinst]

/-- **The Tun is started** by the lease that claimed it. -/
lemma Vacant.launch {lease gen : ℕ} (hs : Vacant (some lease) gen s) {foreign : ℕ → Bool} :
    (s.setRunner foreign (s.runner.launch ⟨lease, gen⟩)).Told := by
  rw [setRunner_of_active fun h => absurd h (by simp [hs.inactive])]
  set runner := s.runner.launch ⟨lease, gen⟩ with hrunner
  have hemits : runner.emits = s.runner.emits ++ [⟨lease, gen⟩] := by
    simp [hrunner, BoxTunRunner.launch, BoxTunRunner.emits]
  have hlen : runner.emits.length = s.runner.emits.length + 1 := by simp [hemits]
  have hlast : lastEmit { s with runner } = some ⟨lease, gen⟩ := by
    unfold lastEmit
    dsimp only
    rw [hlen, hemits]
    simp
  have hunheard : ∀ n, s.Unheard n → Unheard { s with runner } n := fun _ h => h
  have hnew : s.Unheard (runner.emits.length - 1) :=
    hs.notified.future _ (by rw [hlen, Nat.add_sub_cancel])
  refine ⟨⟨hs.notified.tracked.exec (o := .launch ⟨lease, gen⟩) (t := ()) rfl, fun n inst hn => ?_,
    fun n hn => hunheard n (hs.notified.future n ?_), fun n hn inst hinst => ?_,
    fun _ => hunheard _ hnew⟩, fun _ => ⟨_, hlast, hs.tunOwner⟩, fun lease' hlease => ?_⟩
  · dsimp only at hn ⊢
    rw [hemits] at hn
    rw [hlen, hs.tunGen]
    rcases lt_or_ge n s.runner.emits.length with hlt | hge
    · rw [List.getElem?_append_left hlt] at hn
      have hgen := hs.fresh n inst hn
      rw [hs.tunGen] at hgen
      exact ⟨hgen.le, fun heq => absurd heq hgen.ne⟩
    · rw [List.getElem?_append_right hge, List.getElem?_singleton] at hn
      split at hn
      · obtain rfl := Option.some.inj hn
        exact ⟨le_rfl, fun _ => by omega⟩
      · exact absurd hn (by simp)
  · have hn : runner.emits.length ≤ n := hn
    omega
  · -- an earlier start: nothing was said about starts to come
    have hlt : n < s.runner.emits.length := by
      by_contra hge
      exact (hs.notified.future n (Nat.le_of_not_lt hge)).1 hn
    dsimp only at hinst
    rw [hemits, List.getElem?_append_left hlt] at hinst
    rcases hs.notified.told n hn inst hinst with hone | ⟨-, hfalse, -⟩
    · exact .inl hone
    · exact hfalse.elim
  · refine ⟨_, hlast, ?_, hs.tunGen.symm, hnew.2.1⟩
    exact Option.some.inj (hs.tunOwner.symm.trans hlease)

/-- `Stop` of a Tun that was taken. -/
lemma outline_stop_taken {prev : Option ℕ} (hs : TunTaken sect prev s) :
    (quietServer available).Outline (fun _ _ => True)
      (fun (err : Option Err) s => (TunTaken sect prev s ∧ s.runner.active = false) ∧
        (err.isSome = true → OwnTun sect s)) (BoxTunRunner.stop.interp sect.onRunner) s := by
  refine Monitor.outline_op _ (stable_tunTaken sect prev) hs (fun _ _ => trivial) ?_
  rintro s t s' hs ⟨⟨runner, ⟨-, rfl⟩, rfl⟩, -⟩
  exact (calm_tunTaken sect prev).outline_stopTaken t ⟨hs.takeAll, rfl⟩

/-- `Start` once nothing runs: it leaves a Tun of the lease, or nothing when it fails. -/
lemma outline_start_vacant {lease gen : ℕ} (config : String) (socksPort : ℤ)
    (hs : Vacant (some lease) gen s) :
    (quietServer available).Outline (fun _ _ => True)
      (fun (err : Option Err) s => if err.isSome then Vacant (some lease) gen s else Told s)
      ((BoxTunRunner.start config socksPort (⟨lease, gen⟩ : Instance)).interp sect.onRunner) s := by
  have hcalm : Calm available (Vacant (some lease) gen) := calm_vacant (some lease) gen
  unfold BoxTunRunner.start
  rw [Prog.interp_bind]
  refine Monitor.Outline.bind (R := fun _ => Vacant (some lease) gen) ?_ fun err s hs => ?_
  · refine Monitor.outline_op _ hcalm.stable hs (fun _ _ => trivial) ?_
    rintro s t s' hs ⟨⟨runner, ⟨-, rfl⟩, rfl⟩, -⟩
    rw [setRunner_of_active fun h => absurd h (by simp [hs.inactive])]
    have hs := hs.withRunner (takeAll_tracked hs.notified.tracked) rfl rfl
    exact (hcalm.outline_stopTaken t hs).mono fun _ _ h => h.1
  · cases err with
    | some err => exact hs
    | none =>
      refine Monitor.outline_op _ hcalm.stable hs (fun _ _ => trivial) ?_
      rintro s (err : Option Err) s' hs ⟨ho, -⟩
      have hs' := (hcalm.exec (o := .validate config socksPort) trivial hs ho).1
      cases err with
      | some err => exact hs'
      | none =>
        refine Monitor.outline_op _ hcalm.stable hs' (fun _ _ => trivial) ?_
        rintro s (err : Option Err) s' hs ⟨ho, -⟩
        have hs' := (hcalm.exec (o := .check config) trivial hs ho).1
        cases err with
        | some err => exact hs'
        | none =>
          refine Monitor.outline_op _ hcalm.stable hs' (fun _ _ => trivial) ?_
          rintro s r s' hs ⟨⟨runner, rfl, rfl⟩, -⟩
          exact hs.launch

end TunServer

/-! ### Handlers -/

/-- The operations of a handler that touch neither the Tun nor who owns it. -/
def ServerOp.Harmless : ServerOp → Prop
  | isDown | setDown | setProxyOwner _ | tunRunning | proxyApply .. | proxyRestore => True
  | _ => False

namespace TunServer

variable {available : Bool} {s : TunServer} {sect : Section} {prev : Option ℕ}

/-- An operation of a handler that is not a method of the runner. -/
lemma outline_server {β : Type} {Q : β → TunServer → Prop} {P : TunServer → Prop} {o : ServerOp}
    {k : o.Res → ServerAct β} (ho : sect.tunOp o = Prog.perform (TunOp.server sect o))
    (hP : (quietServer available).Stable P) (hs : P s)
    (hk : ∀ (s : TunServer) (r : o.Res) (s' : TunServer), P s → ServerExec sect o s r s' →
      MayDo (.server sect o) s r →
        (quietServer available).Outline (fun _ _ => True) Q ((k r).interp sect.tunOp) s') :
    (quietServer available).Outline (fun _ _ => True) Q ((Prog.op o k).interp sect.tunOp) s := by
  rw [Prog.interp_op, ho]
  refine Monitor.outline_op P hP hs (fun _ _ => trivial) ?_
  rintro s r s' hs ⟨hexec, hmay⟩
  exact hk s r s' hs hexec hmay

/-- A harmless operation changes nothing about the Tun. -/
lemma Told.harmless (hs : s.Told) {o : ServerOp} (ho : o.Harmless) {r : o.Res} {s' : TunServer}
    (h : ServerExec sect o s r s') : s'.Told := by
  cases o with
  | isDown | tunRunning =>
    obtain ⟨-, rfl⟩ := h
    exact hs
  | proxyRestore =>
    obtain ⟨applied, -, rfl⟩ := h
    exact hs.congr rfl rfl rfl rfl rfl rfl rfl
  | setDown | setProxyOwner | proxyApply =>
    obtain rfl : s' = _ := h
    exact hs.congr rfl rfl rfl rfl rfl rfl rfl
  | _ => exact ho.elim

/-- Harmless operations, one after another. -/
lemma outline_harmless {β : Type} {p : ServerAct β} (hp : p.OpsIn ServerOp.Harmless)
    (hs : s.Told) :
    (quietServer available).Outline (fun _ _ => True) (fun _ => Told) (p.interp sect.tunOp) s := by
  induction p generalizing s with
  | ret b => exact hs
  | op o k ih =>
    have ho : sect.tunOp o = Prog.perform (TunOp.server sect o) := by
      cases o with
      | tunStart | tunStop => exact hp.1.elim
      | _ => rfl
    exact outline_server ho stable_told hs fun s r s' hs hexec _ =>
      ih r (hp.2 r) (hs.harmless hp.1 hexec)

/-- **The Tun is taken in the table** by a section that may do so. -/
lemma Told.taken (hs : s.Told) (hmay : s.MayTake sect) {s' : TunServer}
    (hrunner : s'.runner = s.runner) (hgen : s'.table.tunGen = s.table.tunGen + 1)
    (howner : s'.table.tunOwner = none) (htaker : s'.taker = some sect)
    (hemitting : s'.emitting = s.emitting) (hsending : s'.sending = s.sending)
    (hwritten : s'.written = s.written) (hlost : s'.lost = s.lost) :
    TunTaken sect s.table.tunOwner s' := by
  have hheard : ∀ n lease, s'.heard n lease = s.heard n lease := by
    intro n lease
    unfold heard
    rw [hsending, hwritten]
  have hunheard : ∀ n, s.Unheard n → s'.Unheard n := by
    rintro n ⟨h1, h2, h3⟩
    exact ⟨hlost ▸ h1, fun lease => (hheard n lease).trans (h2 lease), hemitting ▸ h3⟩
  have hlast : s'.lastEmit = s.lastEmit := by
    unfold lastEmit
    rw [hrunner]
  refine ⟨⟨hrunner ▸ hs.notified.tracked, ?_, ?_, ?_, ?_⟩, ?_, howner, htaker, ?_, ?_⟩
  · rw [hrunner, hgen]
    intro n inst hinst
    have hle := (hs.notified.newest n inst hinst).1
    exact ⟨by omega, fun heq => by omega⟩
  · rw [hrunner]
    exact fun n hn => hunheard n (hs.notified.future n hn)
  · rw [hrunner, hlost]
    intro n hn inst hinst
    obtain ⟨hle, hlen⟩ := hs.notified.newest n inst hinst
    have hone : s.notices n inst = 1 := by
      rcases hs.notified.told n hn inst hinst with hone | ⟨-, hfalse, -⟩
      · exact hone
      · exact hfalse.elim
    have hnotices : s'.notices n inst = s.heard n inst.lease := by
      unfold notices
      rw [hheard, hgen, if_neg (by omega), Nat.add_zero]
    rw [hnotices]
    by_cases hpending : inst.gen = s.table.tunGen ∧ stops n s.emitting ≠ 0
    · -- its event is superseded, and the taker is going to tell it instead
      obtain ⟨htakes, hforeign, hprev⟩ := hmay.pending n inst hinst hpending.1 hpending.2
      obtain ⟨inst', -, -, -, hzero⟩ := hs.owner inst.lease hprev
      have hlen := hlen hpending.1
      rw [← hlen, Nat.add_sub_cancel] at hzero
      exact .inr ⟨hlen, ⟨htakes, hforeign, hprev⟩, hzero inst.lease⟩
    · left
      unfold notices at hone
      split at hone
      · rename_i hcur
        have hnone : stops n s.emitting = 0 := by
          by_contra hne
          exact hpending ⟨hcur, hne⟩
        rw [hnone] at hone
        exact hone
      · exact hone
  · rw [hrunner]
    exact fun hact => hunheard _ (hs.notified.silent hact)
  · rw [hrunner, hgen]
    exact fun n inst hinst => Nat.lt_succ_of_le (hs.notified.newest n inst hinst).1
  · intro lease hlease
    obtain ⟨inst, hinst, hl, -, hzero⟩ := hs.owner lease hlease
    rw [hlast, hrunner]
    exact ⟨inst, hinst, hl, fun lease => (hheard _ lease).trans (hzero lease)⟩
  · rw [hlast, hrunner]
    intro hact
    obtain ⟨inst, hinst, howned⟩ := hs.owned hact
    exact ⟨inst, hinst, howned, fun hforeign => hmay.active hact inst hinst hforeign⟩

/-- `prev != nil || s.Tun.Running()`. -/
lemma outline_tunHeld (hs : TunTaken sect prev s) :
    (quietServer available).Outline (fun _ _ => True)
      (fun held s => TunTaken sect prev s ∧
        (held = false → prev = none ∧ s.runner.active = false))
      ((Server.tunHeld prev).interp sect.tunOp) s := by
  cases prev with
  | some lease => exact ⟨hs, fun h => absurd h (by simp)⟩
  | none =>
    refine outline_server rfl (stable_tunTaken sect none) hs ?_
    rintro s r s' hs ⟨rfl, rfl⟩ -
    exact ⟨hs, fun h => ⟨rfl, h⟩⟩

/-- The Tun is stopped if it was held. -/
lemma outline_stopHeld (hs : TunTaken sect prev s) {held : Bool}
    (hheld : held = false → prev = none ∧ s.runner.active = false) :
    (quietServer available).Outline (fun _ _ => True)
      (fun (err : Option Err) s => (TunTaken sect prev s ∧ s.runner.active = false) ∧
        (err.isSome = true → OwnTun sect s))
      ((Server.stopHeld held).interp sect.tunOp) s := by
  cases held with
  | false => exact ⟨⟨hs, (hheld rfl).2⟩, fun h => absurd h (by simp)⟩
  | true => exact Monitor.Outline.bind (outline_stop_taken hs) fun err s hs => hs

/-- A section that does not take over owes nobody anything. -/
lemma TunTaken.told (hs : TunTaken sect prev s) (hact : s.runner.active = false)
    (htakes : sect.takesOver = false) : s.Told :=
  (hs.vacant hact fun _ _ h => absurd h.1 (by simp [htakes])).told

/-- **The teardown** of `Shutdown` and `uninstall`. -/
lemma outline_teardown (htakes : sect.takesOver = false) (hs : s.Told) :
    (quietServer available).Outline (fun _ _ => True) (fun _ => Told)
      (Server.teardownLocked.interp sect.tunOp) s := by
  refine outline_server rfl stable_told hs ?_
  rintro s (prev : Option ℕ) s' hs ⟨rfl, rfl⟩ hmay
  have hs := @Told.taken s sect hs hmay
    { s with table := s.table.takeTun.2, taker := some sect } rfl rfl rfl rfl rfl rfl rfl rfl
  rw [Prog.interp_bind]
  refine Monitor.Outline.bind (outline_tunHeld hs) ?_
  rintro held s ⟨hs, hheld⟩
  rw [Prog.interp_bind]
  refine Monitor.Outline.bind (outline_stopHeld hs hheld) ?_
  rintro err s ⟨⟨hs, hact⟩, -⟩
  refine outline_harmless ⟨trivial, fun (err : Option Err) => ?_⟩ (hs.told hact htakes)
  cases err with
  | some err => trivial
  | none => exact ⟨trivial, fun _ => trivial⟩

/-- **The release of a lease** that closed its connection. -/
lemma outline_release (lease : ℕ) (hs : s.Told) :
    (quietServer available).Outline (fun _ _ => True) (fun _ => Told)
      ((Server.releaseLocked lease).interp (Section.release lease).tunOp) s := by
  have hproxy : ∀ (restore : Bool), (if restore then (.op .proxyRestore fun _ => .ret () : ServerAct Unit)
      else .ret ()).OpsIn ServerOp.Harmless := by
    rintro (_ | _)
    · trivial
    · exact ⟨trivial, fun _ => trivial⟩
  refine outline_server rfl stable_told hs ?_
  rintro s (owned : Bool × Bool) s' hs ⟨rfl, rfl⟩ hmay
  unfold Server.releaseOwned
  rw [Prog.interp_bind]
  by_cases howner : s.table.tunOwner = some lease
  · have hprev : (s.table.release lease).1.1 = true := by simp [LeaseTable.release, howner]
    have hs := @Told.taken s (Section.release lease) hs (hmay howner)
      { s with
        table := (s.table.release lease).2
        released := insert lease s.released
        taker := if (s.table.release lease).1.1 then some (.release lease) else s.taker }
      rfl (by rw [LeaseTable.release_tunGen, if_pos howner])
      (by simp only [LeaseTable.release, howner]; simp; split <;> rfl) (if_pos hprev) rfl rfl rfl rfl
    rw [hprev] at hs ⊢
    refine Monitor.Outline.bind (outline_stopHeld hs fun h => absurd h (by simp)) ?_
    rintro err s ⟨⟨hs, hact⟩, -⟩
    exact outline_harmless (hproxy _) (hs.told hact rfl)
  · have hprev : (s.table.release lease).1.1 = false := by simp [LeaseTable.release, howner]
    rw [hprev]
    refine outline_harmless (hproxy _) (hs.congr rfl ?_ ?_ rfl rfl rfl rfl)
    · rw [LeaseTable.release_tunGen, if_neg howner]
    · simp only [LeaseTable.release, howner]
      simp
      split <;> rfl

/-- **`tun_stop`** by the Tun's own lease. -/
lemma outline_tunStop (lease : ℕ) (id : ℤ) (hs : s.Told) :
    (quietServer available).Outline (fun _ _ => True) (fun _ => Told)
      ((Server.tunStop id).interp (Section.request lease (.tunStop id)).tunOp) s := by
  refine Monitor.Outline.bind (R := fun _ s => Told s ∧ s.runner.active = false) ?_ ?_
  · refine Monitor.outline_op _ stable_told hs (fun _ _ => trivial) ?_
    rintro s t s' hs ⟨⟨runner, ⟨-, rfl⟩, rfl⟩, hmay⟩
    have hs := @Told.takeAll s (.request lease (.tunStop id)) hs fun hact inst hinst => by
      simp [Section.foreign, hmay hact inst hinst]
    exact (calm_told.outline_stopTaken t ⟨hs, rfl⟩).mono fun _ _ h => h.1
  · rintro (err : Option Err) s ⟨hs, hact⟩
    cases err with
    | some err => exact hs
    | none =>
      refine outline_server rfl calm_told.stable ⟨hs, hact⟩ ?_
      rintro s r s' ⟨hs, hact⟩ hexec -
      obtain rfl : s' = _ := hexec
      refine ⟨hs.notified.congr rfl rfl rfl rfl rfl rfl, fun h => absurd h (by simp [hact]),
        fun _ h => absurd h (by simp [LeaseTable.clearTun])⟩

/-- **The previous owner is told** that its Tun was taken over. -/
lemma TunTaken.notify {lease : ℕ} (hs : TunTaken sect (some lease) s)
    (hact : s.runner.active = false) :
    Vacant none s.table.tunGen
      { s with written := s.written ++ [(lease, s.runner.runs.length - 1, Server.takenOver)] } := by
  obtain ⟨inst, hinst, rfl, hzero⟩ := hs.previous lease rfl
  have hlen : s.runner.runs.length = s.runner.emits.length := BoxTunRunner.length_emits.symm
  rw [hlen]
  set m := s.runner.emits.length - 1 with hm
  have hpos : 0 < s.runner.emits.length := by
    by_contra hnil
    have hnil := List.length_eq_zero_iff.1 (Nat.eq_zero_of_not_pos hnil)
    rw [lastEmit, hnil] at hinst
    exact absurd hinst (by simp)
  set s' : TunServer := { s with
    written := s.written ++ [(inst.lease, m, Server.takenOver)] } with hs'
  have hheard : ∀ n lease, s'.heard n lease =
      s.heard n lease + if inst.lease = lease ∧ m = n then 1 else 0 := by
    intro n lease
    unfold heard
    simp only [hs', List.countP_append, List.countP_singleton, Server.takenOver]
    by_cases hwho : inst.lease = lease ∧ m = n
    · simp [hwho.1, hwho.2]
      omega
    · rw [if_neg hwho, if_neg (by simpa using hwho)]
      omega
  refine ⟨⟨hs.notified.tracked, hs.notified.newest, fun n hn => ?_, fun n hn inst' hinst' => ?_,
    fun h => absurd h (by simp [hs', hact])⟩, hs.fresh, hact, hs.tunOwner, rfl⟩
  · obtain ⟨h1, h2, h3⟩ := hs.notified.future n hn
    refine ⟨h1, fun lease => ?_, h3⟩
    have hn : s.runner.emits.length ≤ n := hn
    rw [hheard, h2, if_neg (by omega)]
  · left
    have hfresh := hs.fresh n inst' hinst'
    have hnotices : s.notices n inst' = s.heard n inst'.lease := by
      unfold notices
      rw [if_neg hfresh.ne, Nat.add_zero]
    have hnotices' : s'.notices n inst' = s'.heard n inst'.lease := by
      unfold notices
      rw [if_neg (show inst'.gen ≠ s'.table.tunGen from hfresh.ne), Nat.add_zero]
    rw [hnotices', hheard]
    by_cases hn' : m = n
    · -- the last start, of which nothing was said
      subst hn'
      obtain rfl := Option.some.inj (hinst.symm.trans hinst')
      rw [hzero, if_pos ⟨rfl, rfl⟩]
    · rw [if_neg fun h => hn' h.2, Nat.add_zero, ← hnotices]
      rcases hs.notified.told n hn inst' hinst' with hone | ⟨hlast, -⟩
      · exact hone
      · omega

/-- The previous owner is told if it is another lease. -/
lemma outline_notifyPrev {lease : ℕ} {id : ℤ} {config : String} {socksPort : ℤ} {held : Bool}
    (hheld : held = false → prev = none)
    (hs : TunTaken (.request lease (.tunStart id config socksPort)) prev s)
    (hact : s.runner.active = false) :
    (quietServer available).Outline (fun _ _ => True) (fun _ s => ∃ gen, Vacant none gen s)
      ((if held then Server.notifyPrev lease prev else .ret () : ServerAct Unit).interp
        (Section.request lease (.tunStart id config socksPort)).tunOp) s := by
  cases prev with
  | none =>
    have hvacant := hs.vacant hact fun inst _ hdebt => absurd hdebt.2.2 (by simp)
    cases held <;> exact ⟨_, hvacant⟩
  | some p =>
    cases held with
    | false => exact absurd (hheld rfl) (by simp)
    | true =>
      unfold Server.notifyPrev
      by_cases hp : p = lease
      · have hvacant := hs.vacant hact fun inst _ hdebt => by
          have hforeign := hdebt.2.1
          rw [← Option.some.inj hdebt.2.2, hp] at hforeign
          simp [Section.foreign] at hforeign
        simp only [hp, ne_eq, not_true_eq_false, if_false]
        exact ⟨_, hvacant⟩
      · simp only [ne_eq, hp, not_false_eq_true, if_true]
        refine outline_server rfl (calm_tunTaken _ _).stable ⟨hs, hact⟩ ?_
        rintro s r s' ⟨hs, hact⟩ hexec -
        obtain rfl : s' = _ := hexec
        exact ⟨_, hs.notify hact⟩

/-- **`tun_start`** tells the previous owner before it starts its own. -/
lemma outline_tunStart (lease : ℕ) (id : ℤ) (config : String) (socksPort : ℤ) (hs : s.Told) :
    (quietServer available).Outline (fun _ _ => True) (fun _ => Told)
      ((Server.tunStart lease id config socksPort).interp
        (Section.request lease (.tunStart id config socksPort)).tunOp) s := by
  set sect := Section.request lease (.tunStart id config socksPort) with hsect
  unfold Server.tunStart
  split
  · exact hs
  split
  · exact hs
  refine outline_server rfl stable_told hs ?_
  rintro s (down : Bool) s' hs ⟨rfl, rfl⟩ -
  split
  · exact hs
  refine outline_server rfl stable_told hs ?_
  rintro s (prev : Option ℕ) s' hs ⟨rfl, rfl⟩ hmay
  have hs := @Told.taken s sect hs hmay
    { s with table := s.table.takeTun.2, taker := some sect } rfl rfl rfl rfl rfl rfl rfl rfl
  rw [Prog.interp_bind]
  refine Monitor.Outline.bind (outline_tunHeld hs) ?_
  rintro held s ⟨hs, hheld⟩
  rw [Prog.interp_bind]
  refine Monitor.Outline.bind (outline_stopHeld hs hheld) ?_
  rintro (stopErr : Option Err) s ⟨⟨hs, hact⟩, hown⟩
  cases stopErr with
  | some err =>
    refine (hs.vacant hact fun inst hinst hdebt => ?_).told
    exact absurd hdebt.2.1 (by simp [hown rfl hdebt.1 inst hinst])
  | none =>
    dsimp only
    rw [Prog.interp_bind]
    refine Monitor.Outline.bind (R := fun _ s => ∃ gen, Vacant none gen s) ?_ ?_
    · exact outline_notifyPrev (fun h => (hheld h).1) hs hact
    · rintro _ s ⟨gen, hs⟩
      refine outline_server rfl (stable_vacant none gen) hs ?_
      rintro s r s' hs ⟨rfl, rfl⟩ -
      have hgen : (s.table.claimTun lease).1 = gen := hs.tunGen
      rw [hgen]
      have hs : Vacant (some lease) gen { s with table := (s.table.claimTun lease).2 } :=
        ⟨hs.notified.congr rfl rfl rfl rfl rfl rfl, hs.fresh, hs.inactive, rfl, hs.tunGen⟩
      refine Monitor.Outline.bind (outline_start_vacant config socksPort hs) ?_
      rintro (startErr : Option Err) s hs
      cases startErr with
      | none => exact hs
      | some err =>
        have hs : Vacant (some lease) gen s := hs
        refine outline_server rfl (stable_vacant (some lease) gen) hs ?_
        rintro s r s' hs hexec -
        obtain rfl : s' = _ := hexec
        have hs : Vacant none gen { s with table := s.table.dropTun lease } := by
          refine ⟨hs.notified.congr rfl ?_ rfl rfl rfl rfl, ?_, hs.inactive, ?_, ?_⟩
          · exact LeaseTable.dropTun_tunGen ..
          · dsimp only
            rw [LeaseTable.dropTun_tunGen]
            exact hs.fresh
          · simp [LeaseTable.dropTun, hs.tunOwner]
          · exact (LeaseTable.dropTun_tunGen ..).trans hs.tunGen
        exact hs.told

/-- **Every section** leaves nobody untold. -/
lemma outline_body (sect : Section) (hs : s.Told) :
    (quietServer available).Outline (fun _ _ => True) (fun _ => Told)
      ((quietServer available).body sect) s := by
  cases sect with
  | shutdown =>
    refine outline_server rfl stable_told hs ?_
    rintro s r s' hs hexec -
    rw [Prog.bind_assoc, Prog.interp_bind]
    exact Monitor.Outline.bind (outline_teardown rfl
      (hs.harmless (o := .setDown) trivial hexec)) fun _ _ hs => hs
  | release lease =>
    show Monitor.Outline _ _ _ (Prog.interp _ (Prog.bind _ _)) _
    rw [Prog.interp_bind]
    exact Monitor.Outline.bind (outline_release lease hs) fun _ _ hs => hs
  | request lease req =>
    cases req with
    | tunStart id config socksPort =>
      show Monitor.Outline _ _ _ (Prog.interp _ (Prog.bind _ _)) _
      rw [Prog.interp_bind]
      exact Monitor.Outline.bind (outline_tunStart lease id config socksPort hs) fun _ _ hs => hs
    | tunStop id =>
      show Monitor.Outline _ _ _ (Prog.interp _ (Prog.bind _ _)) _
      rw [Prog.interp_bind]
      exact Monitor.Outline.bind (outline_tunStop lease id hs) fun _ _ hs => hs
    | sysproxyApply id port bypass =>
      refine outline_harmless (Prog.OpsIn.bind ?_ fun _ => trivial) hs
      unfold Server.sysproxyApply
      split
      · trivial
      split
      · trivial
      refine ⟨trivial, fun (down : Bool) => ?_⟩
      dsimp only
      split
      · trivial
      refine ⟨trivial, fun (res : ProxyManager.ApplyResult) => ?_⟩
      dsimp only
      split
      · trivial
      · exact ⟨trivial, fun _ => trivial⟩
    | sysproxyRestore id =>
      refine outline_harmless (Prog.OpsIn.bind ⟨trivial, fun (err : Option Err) => ?_⟩
        fun _ => trivial) hs
      cases err with
      | some err => trivial
      | none => exact ⟨trivial, fun _ => trivial⟩
    | uninstall id =>
      show Monitor.Outline _ _ _ (Prog.interp _ (Prog.bind _ _)) _
      unfold Server.uninstall
      split
      · exact hs
      · rw [Prog.bind_assoc, Prog.interp_bind]
        refine Monitor.Outline.bind (outline_teardown rfl hs) fun err s hs => ?_
        refine outline_harmless (Prog.OpsIn.bind ?_ fun _ => trivial) hs
        cases err with
        | some err => trivial
        | none => exact ⟨trivial, fun _ => trivial⟩

/-- Between sections, nobody is untold. -/
lemma told_of_reaches {c : TunConfig} (h : (quietServer available).Reaches TunConfig.start c)
    (hfree : c.holder = none) : c.state.Told := by
  have hstart : TunConfig.start.state.Told := by
    refine ⟨⟨⟨fun n run h => ?_, fun run h => ?_⟩, fun n inst h => ?_, fun n _ => ?_,
      fun n h => ?_, fun h => ?_⟩, fun h => ?_, fun lease h => ?_⟩
    · exact absurd h (by simp [TunConfig.start])
    · exact absurd h (by simp [TunConfig.start, BoxTunRunner.lastRun])
    · exact absurd h (by simp [TunConfig.start, BoxTunRunner.emits])
    · exact ⟨List.not_mem_nil, fun _ => rfl, rfl⟩
    · exact absurd h List.not_mem_nil
    · exact absurd h (by simp [TunConfig.start])
    · exact absurd h (by simp [TunConfig.start])
    · exact absurd h (by simp [TunConfig.start])
  have hout := Monitor.outlined (M := quietServer available) (J := Told) (Q := fun _ _ => Told)
    stable_told (fun _ _ => stable_told) (fun _ _ _ h => h)
    (fun sect s hs _ => outline_body sect hs) h hstart
  unfold Monitor.Outlined at hout
  rw [hfree] at hout
  exact hout

/-- The `tun_stopped` events about start `n` that were written to `lease`. -/
def told (s : TunServer) (n lease : ℕ) : ℕ :=
  s.written.countP fun w => w.1 = lease ∧ w.2.1 = n ∧ w.2.2.event = .tunStopped

/-- Writing what is on its way. -/
lemma reaches_written {n : ℕ} {run : Run Instance} (hn : s.runner.runs[n]? = some run)
    (hone : s.heard n run.emit.lease = 1) :
    ∃ s', (quietServer available).Reaches ⟨s, none⟩ ⟨s', none⟩ ∧ s'.told n run.emit.lease = 1 := by
  by_cases hzero : stops n s.sending = 0
  · refine ⟨s, .refl, ?_⟩
    unfold heard at hone
    rw [hzero] at hone
    exact hone
  · obtain ⟨⟨m, ev⟩, hev, hdec⟩ := List.countP_pos_iff.1 (Nat.pos_of_ne_zero hzero)
    obtain ⟨rfl, hstop⟩ : m = n ∧ ev.event = .tunStopped := of_decide_eq_true hdec
    refine ⟨s.delivered m run.emit ev, ?_, ?_⟩
    · refine Monitor.reaches_env ⟨.deliver s m run ev hev hn, fun hact hnot => ?_⟩
      exact absurd (hact.symm.trans hnot) (by simp)
    · have hsame := (heard_delivered hev run.emit m).1 rfl
      have hle : 1 ≤ (s.delivered m run.emit ev).told m run.emit.lease := by
        refine List.countP_pos_iff.2 ⟨(run.emit.lease, m, ev), ?_, by simp [hstop]⟩
        exact List.mem_append_right _ (List.mem_singleton_self _)
      have hheard : (s.delivered m run.emit ev).told m run.emit.lease ≤
          (s.delivered m run.emit ev).heard m run.emit.lease := Nat.le_add_right ..
      rw [hsame, hone] at hheard
      exact le_antisymm hheard hle

/-- A notice that is due is written once its event was routed and delivered. -/
lemma reaches_told {n : ℕ} {run : Run Instance} (hn : s.runner.runs[n]? = some run)
    (hone : s.notices n run.emit = 1) :
    ∃ s', (quietServer available).Reaches ⟨s, none⟩ ⟨s', none⟩ ∧ s'.told n run.emit.lease = 1 := by
  have hemit : s.runner.emits[n]? = some run.emit := by
    rw [BoxTunRunner.getElem?_emits, hn]
    rfl
  by_cases hzero : s.heard n run.emit.lease = 0
  · unfold notices at hone
    rw [hzero, Nat.zero_add] at hone
    have hgen : run.emit.gen = s.table.tunGen := by
      by_contra hne
      rw [if_neg hne] at hone
      exact absurd hone (by decide)
    rw [if_pos hgen] at hone
    obtain ⟨⟨m, ev⟩, hev, hdec⟩ := List.countP_pos_iff.1 (hone ▸ Nat.one_pos)
    obtain ⟨rfl, hstop⟩ : m = n ∧ ev.event = .tunStopped := of_decide_eq_true hdec
    have hone : (s.route m run.emit ev).heard m run.emit.lease = 1 := by
      unfold heard
      rw [(@route_eq s m run.emit ev).2.2, if_pos hgen.symm, stops_cons]
      have hwritten : (s.route m run.emit ev).written = s.written := rfl
      have hpos : stops m [(m, ev)] = 1 := by simp [stops, hstop]
      unfold heard at hzero
      rw [hwritten, hpos]
      omega
    obtain ⟨s', hreach, htold⟩ :=
      @reaches_written available (s.route m run.emit ev) m run hn hone
    refine ⟨s', .trans (Monitor.reaches_env ⟨.route s m run ev hev hn, fun hact hnot => ?_⟩) hreach,
      htold⟩
    exact absurd (hact.symm.trans hnot) (by simp)
  · refine reaches_written hn ?_
    unfold notices at hone
    have hle : s.heard n run.emit.lease ≤ 1 := by omega
    omega

end TunServer

/-! ### Every owner is told -/

/-- Every owner that lost its Tun is told exactly once, in every run from the start, between
sections.

* `started`: what was lost is a start;
* `once`: exactly one `tun_stopped` event is written to its lease, or on its way there;
* `settled`: exactly one is written once none is on its way;
* `delivered`: which is so after some more steps. -/
structure OwnersTold (M : Monitor TunOp TunOp.Res Section TunServer (Option Response)) : Prop where
  started : ∀ c, M.Reaches TunConfig.start c → c.holder = none → ∀ n ∈ c.state.lost,
    n < c.state.runner.runs.length
  once : ∀ c, M.Reaches TunConfig.start c → c.holder = none → ∀ n ∈ c.state.lost,
    ∀ run : Run Instance, c.state.runner.runs[n]? = some run → c.state.notices n run.emit = 1
  settled : ∀ c, M.Reaches TunConfig.start c → c.holder = none → ∀ n ∈ c.state.lost,
    stops n c.state.emitting = 0 → stops n c.state.sending = 0 →
      ∀ run : Run Instance, c.state.runner.runs[n]? = some run →
        c.state.told n run.emit.lease = 1
  delivered : ∀ c, M.Reaches TunConfig.start c → c.holder = none → ∀ n ∈ c.state.lost,
    ∀ run : Run Instance, c.state.runner.runs[n]? = some run →
      ∃ s, M.Reaches c ⟨s, none⟩ ∧ s.told n run.emit.lease = 1

/-- **Every owner is told** that it lost its Tun, exactly once, in every run of the quiet server.

**Proof sketch.** A Tun is lost when its instance fails, which is told by the event of the instance,
or when a `tun_start` takes it over. In the second case the table has a new generation, so the
instance says nothing any more, and the server tells the previous owner before it starts a Tun. Every
section is outlined with whom it still owes a notice. -/
theorem owners_told (available : Bool) : OwnersTold (quietServer available) := by
  have honce : ∀ c, (quietServer available).Reaches TunConfig.start c → c.holder = none →
      ∀ n ∈ c.state.lost, ∀ run : Run Instance, c.state.runner.runs[n]? = some run →
        c.state.notices n run.emit = 1 := by
    intro c h hfree n hn run hrun
    have htold := (TunServer.told_of_reaches h hfree).notified.told n hn run.emit
    rw [BoxTunRunner.getElem?_emits, hrun] at htold
    rcases htold rfl with hone | ⟨-, hfalse, -⟩
    · exact hone
    · exact hfalse.elim
  refine ⟨fun c h hfree n hn => ?_, honce, fun c h hfree n hn hemitting hsending run hrun => ?_,
    fun c h hfree n hn run hrun => ?_⟩
  · by_contra hge
    have hfuture := (TunServer.told_of_reaches h hfree).notified.future n
    rw [BoxTunRunner.length_emits] at hfuture
    exact (hfuture (Nat.le_of_not_lt hge)).1 hn
  · have hone := honce c h hfree n hn run hrun
    unfold TunServer.notices TunServer.heard at hone
    rw [hemitting, hsending, ite_self] at hone
    exact hone
  · obtain ⟨s, holder⟩ := c
    obtain rfl : holder = none := hfree
    exact TunServer.reaches_told hrun (honce _ h rfl n hn run hrun)

/-! ### A Tun stopped by another connection -/

/-- The second connection has stopped the Tun of the first one. -/
def stoppedByOther : TunServer := {
  stopFailed with
  table := { tunUp.table with tunOwner := none }
  runner := { stopFailed.runner with unclosed := [] }
  lost := [0] }

lemma reaches_stoppedByOther (available : Bool) :
    (overRunner available).Reaches ⟨tunUp, none⟩ ⟨stoppedByOther, none⟩ := by
  have henter : (overRunner available).enter (.request 2 (.tunStop 1)) tunUp := by
    simp [tunServer, TunServer.Enters, TunServer.Live, tunUp, tunStarted]
  refine Monitor.reaches_section (a := some { id := 1, ok := true }) henter ?_
  refine Monitor.runs_op (⟨some 0, some 0, some 0, some 0⟩ : Taken)
    ⟨⟨_, ⟨rfl, rfl⟩, rfl⟩, trivial⟩ ?_
  refine Monitor.runs_op (none : Option Err) ⟨⟨_, rfl, rfl⟩, trivial⟩ ?_
  refine Monitor.runs_op () ⟨⟨_, rfl, rfl⟩, trivial⟩ ?_
  refine Monitor.runs_op () ⟨⟨_, rfl, rfl⟩, trivial⟩ ?_
  refine Monitor.runs_op () ⟨⟨_, ⟨⟨_, rfl, rfl⟩, rfl⟩, rfl⟩, trivial⟩ ?_
  refine Monitor.runs_op () ⟨⟨_, rfl, rfl⟩, trivial⟩ ?_
  refine Monitor.runs_op () ⟨rfl, trivial⟩ ?_
  exact Monitor.runs_ret

/-- The owner is not told of a `tun_stop` by another connection. -/
theorem stopped_owner_not_told : ¬ OwnersTold (overRunner true) := by
  intro h
  have hone := h.settled ⟨stoppedByOther, none⟩
    (((reaches_connected true).trans (reaches_tunStarted true)).trans
      ((reaches_tunUp true).trans (reaches_stoppedByOther true))) rfl 0 (List.mem_singleton_self 0)
    (by decide) rfl _ rfl
  exact absurd hone (by decide)

end Proxor.MacHelper
