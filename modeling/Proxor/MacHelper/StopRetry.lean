import Proxor.MacHelper.TunLifecycle
import Proxor.MacHelper.TunServer

set_option relaxedAutoImplicit false
set_option autoImplicit false

/-!
# A failed stop of Tun

The handlers keep the ownership of a Tun whose stop failed, so that a later stop retries. But the
runner has let go of the instance before it closes it: the later stop finds nothing to close, and
succeeds. A stop is retried only as long as none has failed.

## Main definitions

* `Proxor.MacHelper.overRunner` — the helper over its runner, where anything may happen.
* `Proxor.MacHelper.Retried` — every instance whose stop failed is closed by the next stop.
* `Proxor.MacHelper.StopRetry` — when that is so.

## Main results

* `Proxor.MacHelper.outline_onRunner` — what is proved of the runner holds under the handlers.
* `Proxor.MacHelper.stop_retry` — a failed stop is never retried.
-/

namespace Proxor.MacHelper

open Resumption

/-! ### The runner under the handlers -/

/-- Where a step of a section is done: the runner is settled while a handler does something else. -/
def TunOp.Fits : TunOp → TunServer → Prop
  | .server _ _, s => s.runner.Settled
  | .runner _ o, s => o.Fits s.runner

namespace TunServer

/-- Interference leaves the runner alone, or its goroutines go on. -/
lemma Interferes.runner_eq {s s' : TunServer} (h : Interferes s s') :
    s'.runner = s.runner ∨ BoxTunRunner.Goes s.runner s'.runner := by
  cases h with
  | goes runner passed h => exact .inr h
  | _ => exact .inl rfl

/-- A handler changes the runner only through its methods. -/
lemma ServerExec.runner_eq {sect : Section} {o : ServerOp} {s s' : TunServer} {r : o.Res}
    (h : ServerExec sect o s r s') : s'.runner = s.runner := by
  cases o with
  | tunStart | tunStop => exact h.elim
  | proxyRestore =>
    obtain ⟨-, -, rfl⟩ := h
    rfl
  | isDown | takeTun | claimTun | release | tunRunning =>
    obtain ⟨-, rfl⟩ := h
    rfl
  | setDown | dropTun | clearTun | setProxyOwner | proxyApply | write =>
    simp only [ServerExec] at h
    rw [h]

end TunServer

section Lift

variable {available : Bool} {mayDo : (o : TunOp) → TunServer → o.Res → Prop}
  {mayGo : TunServer → TunServer → Prop}

/-- An assertion about the runner that its goroutines do not break. -/
lemma stable_onRunner {P : BoxTunRunner Instance → Prop} (hP : (tunRunner Instance).Stable P) :
    (tunServer available mayDo mayGo).Stable fun s => P s.runner := by
  rintro s s' ⟨he, -⟩ hs
  rcases he.runner_eq with heq | hgoes
  · rw [heq]
    exact hs
  · exact hP _ _ hgoes hs

/-- **A method of the runner**, called by a handler, has the outline it has by itself. -/
theorem outline_onRunner {β : Type} (sect : Section)
    {Q : β → BoxTunRunner Instance → Prop} {p : RunnerAct Instance β} {s : TunServer}
    (hp : (tunRunner Instance).Outline RunnerOp.Fits Q p s.runner) :
    (tunServer available mayDo mayGo).Outline TunOp.Fits (fun b s => Q b s.runner)
      (p.interp sect.onRunner) s := by
  induction p generalizing s with
  | ret b => exact hp
  | op o k ih =>
    obtain ⟨P, hP, hs, hk⟩ := hp
    refine Monitor.outline_op (fun s => P s.runner) (stable_onRunner hP) hs
      (fun s hs => (hk s.runner hs).1) ?_
    rintro s r s' hs ⟨⟨runner, ho, rfl⟩, -⟩
    exact ih r ((hk s.runner hs).2 r runner ho)

/-- **Every section** finds the runner settled and leaves it so. -/
lemma outline_settled {β : Type} (sect : Section) (p : ServerAct β) {s : TunServer}
    (hs : s.runner.Settled) :
    (tunServer available mayDo mayGo).Outline TunOp.Fits (fun _ s => s.runner.Settled)
      (p.interp sect.tunOp) s := by
  induction p generalizing s with
  | ret b => exact hs
  | op o k ih =>
    have hother : ∀ o : ServerOp, ∀ k : o.Res → ServerAct β,
        (∀ r s, s.runner.Settled → (tunServer available mayDo mayGo).Outline TunOp.Fits
          (fun _ s => s.runner.Settled) ((k r).interp sect.tunOp) s) →
        (tunServer available mayDo mayGo).Outline TunOp.Fits (fun _ s => s.runner.Settled)
          (.op (.server sect o) fun r => (k r).interp sect.tunOp) s := by
      intro o k ih
      refine Monitor.outline_op (fun s => s.runner.Settled) (stable_onRunner stable_settled) hs
        (fun s hs => hs) ?_
      rintro s r s' hs ⟨ho, -⟩
      exact ih r s' (TunServer.ServerExec.runner_eq ho ▸ hs)
    cases o with
    | tunStart lease gen config socksPort =>
      exact Monitor.Outline.bind
        (outline_onRunner sect (outline_start config socksPort ⟨lease, gen⟩ hs))
        fun err s hs => ih err hs.1
    | tunStop =>
      exact Monitor.Outline.bind (outline_onRunner sect (outline_stop hs))
        fun err s hs => ih err hs.settled
    | _ => exact hother _ k fun r s hs => ih r hs

/-- Between sections the runner is settled. -/
lemma settled_outlined {c : TunConfig}
    (h : (tunServer available mayDo mayGo).Reaches TunConfig.start c) :
    (tunServer available mayDo mayGo).Outlined TunOp.Fits (fun s => s.runner.Settled)
      (fun _ _ s => s.runner.Settled) c := by
  refine Monitor.outlined (stable_onRunner stable_settled)
    (fun _ _ => stable_onRunner stable_settled) (fun _ _ _ h => h)
    (fun sect s hs _ => outline_settled sect (sect.body available) hs) h ?_
  exact runner_outlined (E := Instance) (c := RunnerConfig.start Instance) .refl

end Lift

/-! ### Instances that could not be closed -/

namespace BoxTunRunner

variable {E : Type} {r r' : BoxTunRunner E} {i : ℕ}

/-- `Close` was called on instance `i`. -/
def Closed (r : BoxTunRunner E) (i : ℕ) : Prop :=
  ∃ x : BoxInstance, r.instances[i]? = some x ∧ 1 ≤ x.closes

/-- Nobody un-closes an instance. -/
lemma Closed.modify {f : BoxInstance → BoxInstance} (h : r.Closed i)
    (hf : ∀ x, x.closes ≤ (f x).closes) {j : ℕ} (hr : r'.instances = r.instances.modify j f) :
    r'.Closed i := by
  obtain ⟨x, hx, hone⟩ := h
  refine ⟨if j = i then f x else x, ?_, ?_⟩
  · rw [hr, List.getElem?_modify, hx]
    rfl
  · split
    · exact hone.trans (hf x)
    · exact hone

lemma Closed.exec {o : RunnerOp E} {t : o.Res} (h : r.Closed i) (ho : Exec o r t r') :
    r'.Closed i := by
  cases o with
  | close j =>
    obtain rfl : r' = _ := ho
    exact h.modify (fun x => Nat.le_succ _) rfl
  | callCancel j =>
    obtain rfl : r' = _ := ho
    exact h.modify (f := fun x => { x with cancelled := true }) (fun x => le_rfl) rfl
  | takeAll | awaitDone =>
    obtain ⟨-, rfl⟩ := ho
    exact h
  | stopWait | clearLogWriter | validate | check | launch =>
    obtain rfl : r' = _ := ho
    exact h

lemma Closed.goes (h : r.Closed i) (hg : Goes r r') : r'.Closed i := by
  cases hg with
  | log n run line hn =>
    obtain ⟨passed, heq⟩ := send_eq r n run { event := .log, line }
    rw [heq]
    exact h
  | step n run pc u hn hs =>
    cases hs with
    | create =>
      obtain ⟨x, hx, hone⟩ := h
      exact ⟨x, (List.getElem?_append_left (List.getElem?_eq_some_iff.1 hx).1).trans hx, hone⟩
    | close j => exact (h.modify (fun x => Nat.le_succ _) rfl : (r.closeInstance j).Closed i)
    | cancel j =>
      exact (h.modify (f := fun x => { x with cancelled := true }) (fun x => le_rfl) rfl :
        (r.cancelInstance j).Closed i)
    | sendReady =>
      obtain ⟨passed, heq⟩ := send_eq r n run tunReady
      rw [heq]
      exact h
    | _ => exact h

/-- Goroutines call no `Close` of a `Stop`. -/
lemma Goes.unclosed_eq (hg : Goes r r') : r'.unclosed = r.unclosed := by
  cases hg with
  | log n run line hn =>
    obtain ⟨passed, heq⟩ := send_eq r n run { event := .log, line }
    rw [heq]
  | step n run pc u hn hs =>
    cases hs with
    | sendReady =>
      obtain ⟨passed, heq⟩ := send_eq r n run tunReady
      rw [heq]
    | _ => rfl

/-- What could not be closed was at least tried. -/
def Tried (r : BoxTunRunner E) : Prop := ∀ i ∈ r.unclosed, r.Closed i

/-- **A `Stop` closes what is open**, so it does not try again what it has tried; and what could not
be closed stays so. -/
lemma Tried.exec {o : RunnerOp E} {t : o.Res} (h : r.Tried) (hfits : o.Fits r)
    (ho : Exec o r t r') : r'.Tried ∧ ∀ i ∈ r.unclosed, i ∈ r'.unclosed := by
  cases o with
  | close j =>
    have hopen : r.instances[j]? = some .opened :=
      hfits.1.books.known j .opened (by simp [RunnerOp.hand, holders])
    have hnew : ∀ i ∈ r.unclosed, i ≠ j := by
      rintro i hi rfl
      obtain ⟨x, hx, hone⟩ := h i hi
      obtain rfl := Option.some.inj (hopen.symm.trans hx)
      exact absurd hone (by decide)
    have hstep := ho
    obtain rfl : r' = _ := ho
    have hclosed : (r.closeByStop j t).Closed j := by
      refine ⟨{ closes := 1 }, ?_, le_rfl⟩
      simp [closeByStop, closeInstance, hopen, BoxInstance.opened]
    refine ⟨fun i hi => ?_, fun i hi => ?_⟩
    · by_cases hij : i = j
      · rw [hij]
        exact hclosed
      · refine (h i ?_).exec hstep
        unfold closeByStop at hi
        dsimp only at hi
        split at hi
        · exact (List.mem_cons.1 hi).resolve_left hij
        · exact (List.mem_filter.1 hi).1
    · unfold closeByStop
      dsimp only
      split
      · exact List.mem_cons_of_mem _ hi
      · exact List.mem_filter.2 ⟨hi, by simpa using hnew i hi⟩
  | takeAll | awaitDone =>
    obtain ⟨-, rfl⟩ := ho
    exact ⟨h, fun _ hi => hi⟩
  | callCancel | stopWait | clearLogWriter | validate | check | launch =>
    have hstep := ho
    obtain rfl : r' = _ := ho
    exact ⟨fun i hi => (h i hi).exec hstep, fun _ hi => hi⟩

lemma Tried.goes (h : r.Tried) (hg : Goes r r') : r'.Tried := by
  intro i hi
  rw [hg.unclosed_eq] at hi
  exact (h i hi).goes hg

/-- The next `Stop` calls `Close` on instance `i`, first of all. -/
def Retries (r : BoxTunRunner E) (i : ℕ) : Prop :=
  ∃ k, (stopTaken r.taken : RunnerAct E (Option Err)) = .op (.close i) k

/-- Only what the runner still has is closed by the next `Stop`. -/
lemma Retries.closer (h : r.Retries i) : r.closer = some i := by
  obtain ⟨k, hk⟩ := h
  unfold stopTaken taken closeTaken abort at hk
  cases hc : r.closer with
  | some j =>
    simp only [hc, Prog.op_bind] at hk
    obtain ⟨hop, -⟩ := Prog.op.inj hk
    rw [RunnerOp.close.inj hop]
  | none =>
    simp only [hc, Prog.ret_bind] at hk
    revert hk
    cases r.stopWait <;> cases r.done <;> simp

end BoxTunRunner

/-! ### Retrying -/

/-- The helper over its runner, where anything may happen. -/
abbrev overRunner (available : Bool) :
    Monitor TunOp TunOp.Res Section TunServer (Option Response) :=
  tunServer available (fun _ _ _ => True) fun _ _ => True

/-- A failed stop is not lost: every instance whose last `Close` by a `Stop` failed has a live owner
or is still reported as running, and the next `Stop` closes it again. -/
def Retried (s : TunServer) : Prop :=
  ∀ i ∈ s.runner.unclosed,
    ((∃ lease, s.table.tunOwner = some lease ∧ s.Live lease) ∨ s.runner.active = true) ∧
      s.runner.Retries i

/-- When a failed stop is retried, in every run from the start.

* `retried_iff`: between requests, exactly when none has failed;
* `forgotten`: for what could not be closed once stays so. -/
structure StopRetry (M : Monitor TunOp TunOp.Res Section TunServer (Option Response)) : Prop where
  retried_iff : ∀ c, M.Reaches TunConfig.start c → c.holder = none →
    (Retried c.state ↔ c.state.runner.unclosed = [])
  forgotten : ∀ c c', M.Reaches TunConfig.start c → M.Reaches c c' →
    ∀ i ∈ c.state.runner.unclosed, i ∈ c'.state.runner.unclosed

section Retry

variable {available : Bool}

/-- One step, for what could not be closed. -/
lemma tried_step {c c' : TunConfig} {a : Monitor.Label TunOp Section}
    (h : (overRunner available).Reaches TunConfig.start c) (hs : (overRunner available).Step c a c')
    (ht : c.state.runner.Tried) :
    c'.state.runner.Tried ∧ ∀ i ∈ c.state.runner.unclosed, i ∈ c'.state.runner.unclosed := by
  have hout := settled_outlined h
  have hstep := hs
  cases hs with
  | enter | leave => exact ⟨ht, fun _ hi => hi⟩
  | env he =>
    rcases he.1.runner_eq with heq | hg
    · dsimp only
      rw [heq]
      exact ⟨ht, fun _ hi => hi⟩
    · refine ⟨ht.goes hg, fun i hi => ?_⟩
      dsimp only
      rw [hg.unclosed_eq]
      exact hi
  | @op s s' req o k r ho =>
    have hfits := hout.allowed hstep
    obtain ⟨ho, -⟩ := ho
    cases o with
    | server sect o =>
      dsimp only
      rw [TunServer.ServerExec.runner_eq ho]
      exact ⟨ht, fun _ hi => hi⟩
    | runner sect o =>
      obtain ⟨runner, ho, rfl⟩ := ho
      exact ht.exec hfits ho

/-- In every run. -/
lemma tried_of_reaches {c c' : TunConfig} (h₀ : (overRunner available).Reaches TunConfig.start c)
    (ht : c.state.runner.Tried) (h : (overRunner available).Reaches c c') :
    c'.state.runner.Tried ∧ ∀ i ∈ c.state.runner.unclosed, i ∈ c'.state.runner.unclosed := by
  induction h with
  | refl => exact ⟨ht, fun _ hi => hi⟩
  | tail hr hs ih =>
    obtain ⟨a, hs⟩ := hs
    obtain ⟨ht', hmem⟩ := tried_step (h₀.trans hr) hs ih.1
    exact ⟨ht', fun i hi => hmem i (ih.2 i hi)⟩

lemma tried_start : TunConfig.start.state.runner.Tried := fun _ hi => absurd hi List.not_mem_nil

/-- **A failed stop is never retried.** Between requests, every stop that failed is going to be
retried exactly when none has failed.

**Proof sketch.** The runner keeps no instance that was closed: what it has is open at every step,
since a `Stop` takes the instance out before it closes it. So the next `Stop` closes nothing that
could not be closed before. -/
theorem stop_retry (available : Bool) : StopRetry (overRunner available) where
  retried_iff c h hfree := by
    constructor
    · intro hretried
      refine List.eq_nil_iff_forall_not_mem.2 fun i hi => ?_
      obtain ⟨s, holder⟩ := c
      obtain rfl : holder = none := hfree
      have hcloser : s.runner.closer = some i := (hretried i hi).2.closer
      have hsettled : s.runner.Settled := settled_outlined h
      have hopen : s.runner.instances[i]? = some .opened :=
        hsettled.sound.books.known i .opened (by simp [BoxTunRunner.holders, hcloser])
      obtain ⟨x, hx, hone⟩ := (tried_of_reaches .refl tried_start h).1 i hi
      obtain rfl := Option.some.inj (hopen.symm.trans hx)
      exact absurd hone (by decide)
    · intro hnil i hi
      rw [hnil] at hi
      exact absurd hi List.not_mem_nil
  forgotten c c' h h' :=
    (tried_of_reaches h (tried_of_reaches .refl tried_start h).1 h').2

end Retry

/-! ### A stop that fails -/

/-- Two connections. -/
def connected : TunServer := { table := { nextID := 2 } }

/-- The first one has sent a `tun_start`. -/
def tunStarted : TunServer := {
  table := { nextID := 2, tunOwner := some 1, tunGen := 1 }
  taker := some (.request 1 (.tunStart 1 "c" 1080))
  runner := {
    gen := 2
    active := true
    stopWait := some 0
    done := some 0
    runs := [{ gen := 2, emit := ⟨1, 1⟩ }] } }

/-- Its Tun is up. -/
def tunUp : TunServer := {
  tunStarted with
  runner := {
    tunStarted.runner with
    closer := some 0
    cancel := some 0
    logWriter := some 0
    runs := [{ gen := 2, emit := ⟨1, 1⟩, pc := .finished }]
    instances := [{}]
    passed := [(0, BoxTunRunner.tunReady)] }
  emitting := [(0, BoxTunRunner.tunReady)] }

/-- The goroutines go on between two sections. -/
lemma reaches_goes {available : Bool} {s : TunServer} {runner : BoxTunRunner Instance}
    (passed : List (ℕ × Event)) (h : BoxTunRunner.Goes s.runner runner)
    (hpassed : runner.passed = passed ++ s.runner.passed) :
    (overRunner available).Reaches ⟨s, none⟩
      ⟨{ s.setRunner (fun _ => true) runner with emitting := passed ++ s.emitting }, none⟩ :=
  Monitor.reaches_env (M := overRunner available) ⟨.goes s runner passed h hpassed, trivial⟩

lemma reaches_connected (available : Bool) :
    (overRunner available).Reaches TunConfig.start ⟨connected, none⟩ :=
  (Monitor.reaches_env (M := overRunner available) ⟨.hello {}, trivial⟩).trans
    (Monitor.reaches_env (M := overRunner available) ⟨.hello _, trivial⟩)

lemma reaches_tunStarted (available : Bool) :
    (overRunner available).Reaches ⟨connected, none⟩ ⟨tunStarted, none⟩ := by
  have henter : (overRunner available).enter (.request 1 (.tunStart 1 "c" 1080)) connected := by
    simp [tunServer, TunServer.Enters, TunServer.Live, connected]
  refine Monitor.reaches_section (a := some { id := 1, ok := true }) henter ?_
  show (overRunner available).Runs (((Server.tunStart 1 1 "c" 1080).bind _).interp _) _ _ _
  unfold Server.tunStart
  rw [if_neg (by decide), if_neg (by decide)]
  refine Monitor.runs_op false ⟨⟨rfl, rfl⟩, trivial⟩ ?_
  refine Monitor.runs_op (none : Option ℕ) ⟨⟨rfl, rfl⟩, trivial⟩ ?_
  refine Monitor.runs_op false ⟨⟨rfl, rfl⟩, trivial⟩ ?_
  refine Monitor.runs_op (1 : ℕ) ⟨⟨rfl, rfl⟩, trivial⟩ ?_
  refine Monitor.runs_op (⟨none, none, none, none⟩ : Taken) ⟨⟨_, ⟨rfl, rfl⟩, rfl⟩, trivial⟩ ?_
  refine Monitor.runs_op () ⟨⟨_, rfl, rfl⟩, trivial⟩ ?_
  refine Monitor.runs_op (none : Option Err) ⟨⟨_, rfl, rfl⟩, trivial⟩ ?_
  refine Monitor.runs_op (none : Option Err) ⟨⟨_, rfl, rfl⟩, trivial⟩ ?_
  refine Monitor.runs_op () ⟨⟨_, rfl, rfl⟩, trivial⟩ ?_
  exact Monitor.runs_ret

lemma reaches_tunUp (available : Bool) :
    (overRunner available).Reaches ⟨tunStarted, none⟩ ⟨tunUp, none⟩ := by
  refine (reaches_goes [] (.step 0 _ _ _ rfl (.socksUp rfl)) rfl).trans ?_
  refine (reaches_goes [] (.step 0 _ _ _ rfl (.install rfl rfl)) rfl).trans ?_
  refine (reaches_goes [] (.step 0 _ _ _ rfl (.create rfl)) rfl).trans ?_
  refine (reaches_goes [] (.step 0 _ _ _ rfl (.publish 0 rfl rfl)) rfl).trans ?_
  refine (reaches_goes [(0, BoxTunRunner.tunReady)] (.step 0 _ _ _ rfl (.sendReady rfl)) rfl).trans ?_
  refine (reaches_goes [] (.step 0 _ _ _ rfl (.exit rfl)) rfl).trans ?_
  exact .refl

/-- Its `tun_stop` fails. -/
def stopFailed : TunServer := {
  tunUp with
  runner := {
    tunUp.runner with
    gen := 3
    active := false
    stopWait := none
    closer := none
    cancel := none
    done := none
    logWriter := none
    runs := [{ gen := 2, emit := ⟨1, 1⟩, pc := .finished, cancelled := true }]
    instances := [{ closes := 1, cancelled := true }]
    unclosed := [0] } }

lemma reaches_stopFailed (available : Bool) :
    (overRunner available).Reaches ⟨tunUp, none⟩ ⟨stopFailed, none⟩ := by
  have henter : (overRunner available).enter (.request 1 (.tunStop 2)) tunUp := by
    simp [tunServer, TunServer.Enters, TunServer.Live, tunUp, tunStarted]
  refine Monitor.reaches_section (a := some (Server.failure 2 (.text "close tun"))) henter ?_
  refine Monitor.runs_op (⟨some 0, some 0, some 0, some 0⟩ : Taken)
    ⟨⟨_, ⟨rfl, rfl⟩, rfl⟩, trivial⟩ ?_
  refine Monitor.runs_op (some (.text "close tun") : Option Err) ⟨⟨_, rfl, rfl⟩, trivial⟩ ?_
  refine Monitor.runs_op () ⟨⟨_, rfl, rfl⟩, trivial⟩ ?_
  refine Monitor.runs_op () ⟨⟨_, rfl, rfl⟩, trivial⟩ ?_
  refine Monitor.runs_op () ⟨⟨_, ⟨⟨_, rfl, rfl⟩, rfl⟩, rfl⟩, trivial⟩ ?_
  refine Monitor.runs_op () ⟨⟨_, rfl, rfl⟩, trivial⟩ ?_
  exact Monitor.runs_ret

/-- A `tun_stop` that failed is not retried by the next one. -/
theorem failed_stop_forgotten :
    ¬ ∀ c, (overRunner true).Reaches TunConfig.start c → c.holder = none → Retried c.state := by
  intro h
  have hretried := h ⟨stopFailed, none⟩
    (((reaches_connected true).trans (reaches_tunStarted true)).trans
      ((reaches_tunUp true).trans (reaches_stopFailed true))) rfl
  have hcloser := (hretried 0 (by simp [stopFailed])).2.closer
  exact absurd hcloser (by simp [stopFailed])

end Proxor.MacHelper
