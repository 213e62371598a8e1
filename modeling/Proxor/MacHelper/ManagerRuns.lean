import Proxor.MacHelper.Recoverable

set_option relaxedAutoImplicit false
set_option autoImplicit false

/-!
# Runs of the system proxy manager

Over any sequence of calls, whatever subset of the commands fails, the original settings can be
restored, and both the manager and the store remember them as long as they are needed. Two kinds of
calls break this, and the results are about the runs without them:

* an apply that fails on every service, while the snapshot was already applied, leaves its own
  bypass list recorded as written, so a later restore takes a service whose own list is that one for
  restored;
* an apply that fails on every service and then fails to roll one of them back forgets the snapshot.

## Main definitions

* `Proxor.MacHelper.ApplyCall`, `Proxor.MacHelper.Call` — one call with what fails in it.
* `Proxor.MacHelper.ApplyCall.Meets` — the call is of neither kind.
* `Proxor.MacHelper.Consistent` — the invariant between calls.

## Main results

* `Proxor.MacHelper.ApplyCall.consistent_step`, `Proxor.MacHelper.Call.consistent_step` — one call
  keeps the invariant.
* `Proxor.MacHelper.restore_fidelity` — a complete restore brings every service back.
* `Proxor.MacHelper.snapshot_kept` — a snapshot is kept while it is needed.
-/

namespace Proxor.MacHelper

open Resumption Text ProxyManager

/-! ### Calls of apply -/

/-- A call of apply: its arguments, the interleavings of its parts and the operations that fail. -/
structure ApplyCall where
  sched : Schedule := {}
  port : ℤ
  bypass : List String
  fails : Op → Bool

namespace ApplyCall

variable (c : ApplyCall) (hw : Hardware)

/-- The bypass list the call applies. -/
def list : List String := if c.bypass.length = 0 then defaultBypass else c.bypass

/-- The arguments pass their checks. -/
def Accepted : Prop := ¬ (c.port < 1 ∨ 65535 < c.port) ∧ (validateBypass c.list).isOk = true

/-- The state after the call. -/
def step (s : State) : State :=
  State.after hw c.fails (apply c.sched s.current c.port c.bypass) s.world

/-- The snapshot is recorded in the file before anything is written. -/
def Saved (snap : Snapshot) : Prop :=
  c.fails (.replaceStore false (recorded snap c.port c.list)) = false

/-- The snapshot a call that finds nothing applied captures. -/
def captured (w : World) : Option Snapshot :=
  match ((capture c.sched.active c.sched.snapshot).run (hw.handler c.fails) w).1 with
  | .ok (snap, _) => some snap
  | .error _ => none

/-- A call while `snap` is applied: if it fails on every service, then every service whose own
bypass list is the new one has that list, written by the call or before. -/
def ReapplyMeets (snap : Snapshot) (net : String → Settings) : Prop :=
  allFail c.fails snap c.port c.list = true → ∀ svc ∈ snap.services, svc.bypass = c.list →
    writesBypass c.fails svc c.port c.list = true ∨ (net svc.name).bypass = c.list

/-- A call that has captured `snap`: if it fails on every service, then the roll-back of every
service succeeds in one of its tries, unless no command at all took effect on it. -/
def FirstApplyMeets (snap : Snapshot) : Prop :=
  allFail c.fails snap c.port c.list = true → ∀ svc ∈ snap.services,
    restoreFails c.fails .rollback svc none = false ∨
      applyDone c.fails svc c.port c.list = [] ∧ restoreDone c.fails .rollback svc none = []

/-- The condition of an accepted call, by what it finds applied. -/
def MeetsWith (w : World) : Option Snapshot → Prop
  | some snap => c.Saved snap → c.ReapplyMeets snap w.net
  | none => ∀ snap ∈ c.captured hw w, c.Saved snap → c.FirstApplyMeets snap

/-- The call does not forget what it may have changed. -/
def Meets (s : State) : Prop :=
  c.Accepted → c.MeetsWith hw s.world (s.current.filter (·.applied))

instance : Decidable c.Accepted := inferInstanceAs (Decidable (_ ∧ _))

instance (snap : Snapshot) : Decidable (c.Saved snap) := inferInstanceAs (Decidable (_ = _))

instance (snap : Snapshot) (net : String → Settings) : Decidable (c.ReapplyMeets snap net) :=
  inferInstanceAs (Decidable (_ → _))

instance (snap : Snapshot) : Decidable (c.FirstApplyMeets snap) :=
  inferInstanceAs (Decidable (_ → _))

instance (w : World) : ∀ current, Decidable (c.MeetsWith hw w current)
  | some snap => inferInstanceAs (Decidable (c.Saved snap → c.ReapplyMeets snap w.net))
  | none => inferInstanceAs
    (Decidable (∀ snap ∈ c.captured hw w, c.Saved snap → c.FirstApplyMeets snap))

instance (s : State) : Decidable (c.Meets hw s) := inferInstanceAs (Decidable (_ → _))

end ApplyCall

/-- The calls all meet their condition, each in the state it is made in. -/
def RunMeets (hw : Hardware) : List ApplyCall → State → Prop
  | [], _ => True
  | c :: calls, s => c.Meets hw s ∧ RunMeets hw calls (c.step hw s)

instance decidableRunMeets (hw : Hardware) : ∀ calls s, Decidable (RunMeets hw calls s)
  | [], _ => inferInstanceAs (Decidable True)
  | c :: calls, s =>
    have := decidableRunMeets hw calls (c.step hw s)
    inferInstanceAs (Decidable (_ ∧ _))

/-- The state after some calls. -/
def applyRun (hw : Hardware) (calls : List ApplyCall) (s : State) : State :=
  calls.foldl (fun s c => c.step hw s) s

@[simp] lemma applyRun_cons (hw : Hardware) (c : ApplyCall) (calls : List ApplyCall) (s : State) :
    applyRun hw (c :: calls) s = applyRun hw calls (c.step hw s) := rfl

/-- A fresh manager on an untouched machine. -/
def fresh (m : Machine) (file : StoreFile) : State := ⟨none, ⟨m.net, file⟩⟩

/-! ### The invariant -/

/-- Between calls, without a current snapshot everything is original; with one it is marked applied
and every service is original or recorded and recoverable. -/
structure Consistent (m : Machine) (s : State) : Prop where
  idle : s.current = none → s.world.net = m.net
  applied : ∀ snap, s.current = some snap →
    snap.applied = true ∧ Tracked m snap.services snap.appliedBypass s.world.net

variable {m : Machine}

lemma consistent_fresh {file : StoreFile} : Consistent m (fresh m file) :=
  ⟨fun _ => rfl, fun _ h => absurd h (by simp [fresh])⟩

lemma consistent_some {snap : Snapshot} {w : World} (happ : snap.applied = true)
    (ht : Tracked m snap.services snap.appliedBypass w.net) : Consistent m ⟨some snap, w⟩ :=
  ⟨fun h => absurd h (by simp), fun _ h => Option.some.inj h ▸ ⟨happ, ht⟩⟩

/-- An applied snapshot passes the test for being applied. -/
lemma Consistent.filter_applied {s : State} (hs : Consistent m s) :
    s.current.filter (·.applied) = s.current := by
  cases hc : s.current with
  | none => rfl
  | some snap => exact Option.filter_eq_some_iff.2 ⟨rfl, (hs.applied snap hc).1⟩

/-! ### One call of apply -/

namespace ApplyCall

variable {c : ApplyCall}

/-- A call with arguments that fail their checks does nothing. -/
lemma step_of_not_accepted (hw : Hardware) (h : ¬ c.Accepted) (s : State) : c.step hw s = s := by
  unfold step apply
  by_cases hport : c.port < 1 ∨ 65535 < c.port
  · rw [if_pos hport]
    rfl
  · rw [if_neg hport]
    have hlist : ¬ (validateBypass c.list).isOk = true := fun hl => h ⟨hport, hl⟩
    unfold list at hlist
    dsimp only
    cases hv : validateBypass (if c.bypass.length = 0 then defaultBypass else c.bypass) with
    | error err => rfl
    | ok u => exact absurd (by rw [hv]; rfl) hlist

/-- A call while a snapshot is applied. -/
lemma step_of_applied {hw : Hardware} (h : c.Accepted) {s : State} {snap : Snapshot}
    (hc : s.current.filter (·.applied) = some snap) (ht : Targets hw snap.services) :
    c.step hw s = applyOutcome c.fails s true snap c.port c.list := by
  obtain ⟨hport, hlist⟩ := h
  rw [← applySnapshot_run c.sched s true ht []]
  unfold step apply
  rw [if_neg hport]
  unfold list at hlist ⊢
  dsimp only
  cases hv : validateBypass (if c.bypass.length = 0 then defaultBypass else c.bypass) with
  | error err => rw [hv] at hlist; exact absurd hlist (by simp [Except.isOk, Except.toBool])
  | ok u =>
    dsimp only
    rw [hc]

/-- A call while nothing is applied captures a snapshot first. -/
lemma step_of_idle (h : c.Accepted) {s : State} (hc : s.current.filter (·.applied) = none)
    (hnet : s.world.net = m.net) :
    c.step m.toHardware s =
      match c.captured m.toHardware s.world with
      | some snap => applyOutcome c.fails s false snap c.port c.list
      | none => s := by
  obtain ⟨hport, hlist⟩ := h
  obtain ⟨hstate, hok⟩ := @capture_spec m c.fails c.sched.active c.sched.snapshot s.world hnet
  unfold step apply captured
  rw [if_neg hport]
  unfold list at hlist ⊢
  dsimp only
  cases hv : validateBypass (if c.bypass.length = 0 then defaultBypass else c.bypass) with
  | error err => rw [hv] at hlist; exact absurd hlist (by simp [Except.isOk, Except.toBool])
  | ok u =>
    dsimp only
    rw [hc]
    dsimp only
    rw [Prog.bind_eq, State.after_bind, hstate]
    cases hcap : ((capture c.sched.active c.sched.snapshot).run (m.handler c.fails) s.world).1 with
    | error e => rfl
    | ok r =>
      obtain ⟨snap, failed⟩ := r
      have hcaptured := (hok snap failed hcap).1
      exact applySnapshot_run c.sched s false ⟨hcaptured.nodup, hcaptured.mem⟩ failed _ _

/-- An apply does nothing or leaves the outcome of some snapshot. -/
lemma step_eq {s : State} (hs : Consistent m s) : c.step m.toHardware s = s ∨
    ∃ wasApplied snap,
      c.step m.toHardware s = applyOutcome c.fails s wasApplied snap c.port c.list := by
  by_cases hacc : c.Accepted
  swap
  · exact Or.inl (step_of_not_accepted m.toHardware hacc s)
  cases hc : s.current with
  | some snap =>
    have ht := (hs.applied snap hc).2.targets
    exact Or.inr ⟨true, snap, step_of_applied hacc (hs.filter_applied.trans hc) ht⟩
  | none =>
    rw [step_of_idle hacc (hs.filter_applied.trans hc) (hs.idle hc)]
    cases c.captured m.toHardware s.world with
    | none => exact Or.inl rfl
    | some snap => exact Or.inr ⟨false, snap, rfl⟩

/-- What is captured on an untouched machine. -/
lemma captured_spec {w : World} (hnet : w.net = m.net) {snap : Snapshot}
    (h : snap ∈ c.captured m.toHardware w) :
    Captured m.toHardware m.net snap.services := by
  obtain ⟨-, hok⟩ := @capture_spec m c.fails c.sched.active c.sched.snapshot w hnet
  unfold captured at h
  cases hcap : ((capture c.sched.active c.sched.snapshot).run (m.handler c.fails) w).1 with
  | error e => rw [hcap] at h; exact absurd h (by simp)
  | ok r =>
    rw [hcap] at h
    obtain rfl : r.1 = snap := by simpa using h
    exact (hok r.1 r.2 hcap).1

/-- A roll-back after an apply that failed everywhere leaves the original settings, when it succeeds
for every service some command took effect on. -/
lemma netRestored_netApplied {services : List ServiceSnapshot}
    (h : Captured m.toHardware m.net services) {fails : Op → Bool} {port : ℤ}
    {bypass : List String}
    (hf : ∀ svc ∈ services, restoreFails fails .rollback svc none = false ∨
      applyDone fails svc port bypass = [] ∧ restoreDone fails .rollback svc none = []) :
    netRestored fails .rollback services none (netApplied fails services port bypass m.net) =
      m.net := by
  have ht := @Tracked.applied _ _ _ _ fails (Tracked.of_captured h none) port bypass
  funext name
  by_cases hex : ∃ svc ∈ services, svc.name = name
  · obtain ⟨svc, hsvc, rfl⟩ := hex
    rcases hf svc hsvc with hf | ⟨ha, hr⟩
    · exact ht.netRestored_eq .rollback hsvc hf
    · unfold netRestored netApplied
      rw [onServices_of_mem h.nodup hsvc, onServices_of_mem h.nodup hsvc, ha, hr]
      rfl
  · exact ht.netRestored_of_notMem .rollback (by simpa using hex)

/-- An apply keeps the invariant, provided that it does so when it fails on every service: by a list
that is true of those services whose own it is, or by a complete roll-back. -/
lemma consistent_applyOutcome {s : State} (hs : Consistent m s) {snap : Snapshot}
    {L : Option (List String)} (ht : Tracked m snap.services L s.world.net) {wasApplied : Bool}
    (hkeep : c.Saved snap → allFail c.fails snap c.port c.list = true → wasApplied = true →
      ∀ svc ∈ snap.services, svc.bypass = c.list →
        writesBypass c.fails svc c.port c.list = true ∨ (s.world.net svc.name).bypass = c.list)
    (hback : c.Saved snap → allFail c.fails snap c.port c.list = true → wasApplied = false →
      netRestored c.fails .rollback snap.services none
        (netApplied c.fails snap.services c.port c.list s.world.net) = m.net) :
    Consistent m (applyOutcome c.fails s wasApplied snap c.port c.list) := by
  unfold applyOutcome
  dsimp only
  split
  · exact hs
  rename_i hsave
  have hsave : c.Saved snap := by simpa [Saved] using hsave
  split
  · rename_i hall
    cases wasApplied with
    | true => exact consistent_some rfl (ht.applied_with_bypass c.port (hkeep hsave hall rfl))
    | false =>
      rw [if_neg (by simp), hback hsave hall rfl]
      exact consistent_fresh
  split
  · exact consistent_some rfl (ht.applied c.port c.list)
  · rename_i hsome
    refine consistent_some rfl (ht.applied_with_bypass c.port fun svc hsvc _ => Or.inl ?_)
    have hsome : someFail c.fails snap c.port c.list = false := by simpa using hsome
    exact writesBypass_of_not_applyFails (by simpa using List.any_eq_false.1 hsome svc hsvc)

/-- **One call of apply** keeps the invariant, when it meets its condition.

**Proof sketch.** A call that is not accepted, captures nothing or cannot save does nothing. When
some service succeeded, the recorded bypass list is either true of all services or forgotten. When
none did, the condition says that it is true where it matters (a snapshot that was applied), or
that the roll-back was complete (a fresh one). -/
theorem consistent_step {s : State} (hs : Consistent m s) (hm : c.Meets m.toHardware s) :
    Consistent m (c.step m.toHardware s) := by
  by_cases hacc : c.Accepted
  swap
  · rwa [step_of_not_accepted m.toHardware hacc]
  have hm := hm hacc
  rw [hs.filter_applied] at hm
  cases hc : s.current with
  | some snap =>
    obtain ⟨happ, ht⟩ := hs.applied snap hc
    rw [hc] at hm
    rw [step_of_applied hacc (hs.filter_applied.trans hc) ht.targets]
    exact consistent_applyOutcome hs ht (fun hsave hall _ => hm hsave hall)
      fun _ _ h => absurd h (by simp)
  | none =>
    have hnet := hs.idle hc
    rw [hc] at hm
    rw [step_of_idle hacc (hs.filter_applied.trans hc) hnet]
    cases hcap : c.captured m.toHardware s.world with
    | none => exact hs
    | some snap =>
      have hcaptured := captured_spec hnet hcap
      have ht : Tracked m snap.services none s.world.net := hnet ▸ Tracked.of_captured hcaptured none
      refine consistent_applyOutcome hs ht (fun _ _ h => absurd h (by simp)) fun hsave hall _ => ?_
      rw [hnet]
      exact netRestored_netApplied hcaptured (hm snap hcap hsave hall)

/-- Runs of calls that meet their condition keep the invariant. -/
lemma consistent_applyRun {calls : List ApplyCall} {s : State} (hs : Consistent m s)
    (hm : RunMeets m.toHardware calls s) : Consistent m (applyRun m.toHardware calls s) := by
  induction calls generalizing s with
  | nil => exact hs
  | cons c calls ih => exact ih (consistent_step hs hm.1) hm.2

end ApplyCall

/-! ### Restoring at the end of a run -/

/-- Every networksetup command succeeds. -/
def CommandsSucceed (fails : Op → Bool) : Prop :=
  ∀ phase retry args, fails (.cmd phase retry args) = false

lemma CommandsSucceed.restoreFails {fails : Op → Bool} (h : CommandsSucceed fails) (phase : Phase)
    (svc : ServiceSnapshot) (L : Option (List String)) :
    restoreFails fails phase svc L = false := by
  have htry : restoreTryFails fails phase svc L false = false :=
    List.any_eq_false.2 fun args _ => by simp [h phase false args]
  simp [MacHelper.restoreFails, htry]

/-- Nothing fails. -/
def noFail : Op → Bool := fun _ => false

lemma commandsSucceed_noFail : CommandsSucceed noFail := fun _ _ _ => rfl

/-- Every command of one part of a call fails. -/
def failsIn (phase : Phase) : Op → Bool
  | .cmd p _ _ => p = phase
  | _ => false

/-- The settings after a restore in a state. -/
def restoredNet (hw : Hardware) (sched : Schedule) (fails : Op → Bool) (s : State) :
    String → Settings :=
  (State.after hw fails (restore sched s.current) s.world).world.net

/-- A restore in which every command succeeds brings the original settings back. -/
lemma Consistent.restoredNet_eq {s : State} (hs : Consistent m s) (sched : Schedule)
    {fails : Op → Bool} (hok : CommandsSucceed fails) :
    restoredNet m.toHardware sched fails s = m.net := by
  unfold restoredNet
  rw [restore_run sched s fun snap hsnap => (hs.applied snap hsnap).2.targets]
  cases hc : s.current with
  | none => exact hs.idle hc
  | some snap =>
    have ht := (hs.applied snap hc).2
    have hnet := ht.netRestored_eq_net .restore fun svc _ => hok.restoreFails .restore svc _
    have hrem : remainingOf fails snap = [] :=
      List.filter_eq_nil_iff.2 fun svc _ => by simp [hok.restoreFails .restore svc _]
    dsimp only
    rw [restoreOutcome, if_pos hrem]
    exact hnet

/-- After the calls of a run, a restore in which every command succeeds leaves every service with
exactly its original settings (a service the run never wrote to has them anyway). -/
def RestoresOriginals (m : Machine) (file : StoreFile) (calls : List ApplyCall) : Prop :=
  ∀ sched fails, CommandsSucceed fails →
    restoredNet m.toHardware sched fails
      (applyRun m.toHardware calls (fresh m file)) = m.net

/-- **Restore fidelity.** In every run of applies on a fresh manager, with any bypass lists, ports
and failing commands and file operations, whose calls meet their condition, a complete restore
brings every service back to its original settings.

**Proof sketch.** The invariant holds of the fresh manager and is kept by every call. -/
theorem restore_fidelity (m : Machine) (file : StoreFile) (calls : List ApplyCall)
    (hmeets : RunMeets m.toHardware calls (fresh m file)) :
    RestoresOriginals m file calls :=
  fun sched _ hok => (ApplyCall.consistent_applyRun consistent_fresh hmeets).restoredNet_eq sched hok

/-- A first apply on the example machine in which nothing fails. -/
def laptopCall : ApplyCall := {
  port := 1080
  bypass := ["10.0.0.0/8"]
  fails := noFail }

/-- What that call captures. -/
def laptopSnapshot : Snapshot := {
  services := [{ laptop.net "Wi-Fi" with name := "Wi-Fi" }] }

/-- The example machine after the call. -/
def laptopApplied : State :=
  applyOutcome laptopCall.fails (fresh laptop .absent) false laptopSnapshot laptopCall.port laptopCall.list

lemma laptop_captured :
    laptopCall.captured laptop.toHardware (fresh laptop .absent).world = some laptopSnapshot := by
  decide +kernel

lemma laptop_accepted : laptopCall.Accepted := by decide +kernel

lemma laptop_step : laptopCall.step laptop.toHardware (fresh laptop .absent) = laptopApplied := by
  rw [ApplyCall.step_of_idle laptop_accepted rfl rfl, laptop_captured]
  rfl

lemma laptop_meets : laptopCall.Meets laptop.toHardware (fresh laptop .absent) := by
  intro _ snap hsnap _ hall
  rw [laptop_captured] at hsnap
  obtain rfl := Option.some.inj hsnap
  exact absurd hall (by decide)

/-- An apply that succeeds, and then one with other arguments that fails on every service, are
undone. -/
theorem restore_fidelity_laptop : RestoresOriginals laptop .absent
    [laptopCall, { port := 1081, bypass := ["192.168.0.0/16"], fails := failsIn .apply }] :=
  restore_fidelity laptop .absent _ ⟨laptop_meets, by
    rw [laptop_step]
    decide +kernel⟩

/-- An apply of another list, and then one of the service's own list that fails on every service:
the restore takes the list for restored. -/
theorem reapply_loses_bypass : ¬ RestoresOriginals laptop .absent
    [laptopCall, { port := 1080, bypass := ["localhost"], fails := failsIn .apply }] := by
  intro h
  have hnet := congrFun (h {} noFail commandsSucceed_noFail) "Wi-Fi"
  rw [applyRun_cons, laptop_step] at hnet
  have hbypass := congrArg Settings.bypass hnet
  revert hbypass
  decide +kernel

/-! ### Calls of every kind -/

/-- A call of the manager. A recovery runs on the manager as it is, or on a new one over the same
store (`restart`). -/
inductive Call
  | apply (c : ApplyCall)
  | restore (sched : Schedule) (fails : Op → Bool)
  | recover (restart : Bool) (sched : Schedule) (fails : Op → Bool)

/-- Only networksetup commands fail, no file operation. -/
def StoreSucceeds (fails : Op → Bool) : Prop :=
  ∀ o, (∀ phase retry args, o ≠ .cmd phase retry args) → fails o = false

namespace Call

/-- The operations that fail in the call. -/
def fails : Call → Op → Bool
  | apply c => c.fails
  | restore _ fails => fails
  | recover _ _ fails => fails

/-- The state after the call. -/
def step (hw : Hardware) : Call → State → State
  | apply c, s => c.step hw s
  | restore sched fails, s => State.after hw fails (ProxyManager.restore sched s.current) s.world
  | recover restart sched fails, s =>
    State.after hw fails (recoverAtStart sched (if restart then none else s.current)) s.world

/-- An apply meets its condition; the other calls have none. -/
def Meets (hw : Hardware) : Call → State → Prop
  | apply c, s => c.Meets hw s
  | _, _ => True

/-- The calls all meet their condition, each in the state it is made in. -/
def RunMeets (hw : Hardware) : List Call → State → Prop
  | [], _ => True
  | c :: calls, s => c.Meets hw s ∧ RunMeets hw calls (c.step hw s)

/-- The state after some calls. -/
def run (hw : Hardware) (calls : List Call) (s : State) : State :=
  calls.foldl (fun s c => c.step hw s) s

@[simp] lemma run_cons (hw : Hardware) (c : Call) (calls : List Call) (s : State) :
    run hw (c :: calls) s = run hw calls (c.step hw s) := rfl

end Call

/-- What the file holds for a current snapshot. -/
def fileOf : Option Snapshot → StoreFile
  | none => .absent
  | some snap => .stored snap.persisted

/-- The invariant with the store: the file holds the current snapshot. -/
structure Stored (m : Machine) (s : State) : Prop extends Consistent m s where
  file : s.world.file = fileOf s.current

/-- An apply leaves the file in agreement with the manager. -/
lemma file_applyOutcome {s : State} {fails : Op → Bool} (hstore : StoreSucceeds fails) (wasApplied : Bool) (snap : Snapshot) (port : ℤ)
    (bypass : List String) :
    (applyOutcome fails s wasApplied snap port bypass).world.file =
      fileOf (applyOutcome fails s wasApplied snap port bypass).current := by
  have hsave : ∀ again snap, fails (.replaceStore again snap) = false :=
    fun again snap => hstore _ (by simp)
  have hremove : fails .removeStore = false := hstore _ (by simp)
  unfold applyOutcome
  simp only [hsave, hremove, Bool.false_eq_true, if_false]
  cases allFail fails snap port bypass
  · cases someFail fails snap port bypass <;> rfl
  · cases wasApplied <;> rfl

/-- So does a restore. -/
lemma file_restoreOutcome {fails : Op → Bool} (hstore : StoreSucceeds fails) (w : World)
    (snap : Snapshot) :
    (restoreOutcome fails w snap).world.file = fileOf (restoreOutcome fails w snap).current := by
  have hsave : ∀ again snap, fails (.replaceStore again snap) = false :=
    fun again snap => hstore _ (by simp)
  have hremove : fails .removeStore = false := hstore _ (by simp)
  unfold restoreOutcome
  simp only [hsave, hremove, Bool.false_eq_true, if_false]
  split <;> rfl

/-- A restore of a tracked snapshot keeps the invariant. -/
lemma consistent_restoreOutcome {fails : Op → Bool} {w : World} {snap : Snapshot}
    (ht : Tracked m snap.services snap.appliedBypass w.net) :
    Consistent m (restoreOutcome fails w snap) := by
  unfold restoreOutcome remainingOf
  dsimp only
  split
  · rename_i hrem
    refine ⟨fun _ => ht.netRestored_eq_net .restore fun svc hsvc => ?_, fun _ h => by simp at h⟩
    simpa using List.filter_eq_nil_iff.1 hrem svc hsvc
  · rename_i hrem
    exact consistent_some rfl (ht.restored .restore hrem)

namespace Call

/-- **One call** keeps the invariant, when it meets its condition and only commands fail in it.

**Proof sketch.** An apply is `ApplyCall.consistent_step`. A restore works on the current snapshot
and a recovery on the one in the file; both are tracked, and the services that remain are what the
manager and the file hold afterwards. -/
theorem stored_step {c : Call} {s : State} (hs : Stored m s) (hstore : StoreSucceeds c.fails)
    (hm : c.Meets m.toHardware s) : Stored m (c.step m.toHardware s) := by
  cases c with
  | apply c =>
    refine ⟨c.consistent_step hs.toConsistent hm, ?_⟩
    rcases c.step_eq hs.toConsistent with h | ⟨wasApplied, snap, h⟩
    · rw [step, h]
      exact hs.file
    · rw [step, h]
      exact file_applyOutcome hstore wasApplied snap c.port c.list
  | restore sched fails =>
    rw [step, restore_run sched s fun snap hsnap => (hs.applied snap hsnap).2.targets]
    cases hc : s.current with
    | none => exact hs
    | some snap =>
      exact ⟨consistent_restoreOutcome (hs.applied snap hc).2, file_restoreOutcome hstore _ _⟩
  | recover restart sched fails =>
    have hfile := hs.file
    have hread : fails .readStore = false := hstore _ (by simp)
    cases hc : s.current with
    | none =>
      rw [hc] at hfile
      rw [step, hc, ite_self, recoverAtStart_run sched none s.world hread (by simp [hfile, fileOf])
        (by simp [hfile, fileOf]), hfile]
      exact ⟨⟨fun _ => hs.idle hc, fun _ h => by cases h⟩, hfile⟩
    | some snap =>
      rw [hc] at hfile
      obtain ⟨happ, ht⟩ := hs.applied snap hc
      rw [step, recoverAtStart_run sched _ s.world hread ?_ (by simp [hfile, fileOf]), hfile]
      · exact ⟨consistent_restoreOutcome ht.persisted, file_restoreOutcome hstore _ _⟩
      · intro snap' hsnap'
        obtain rfl : snap.persisted = snap' := StoreFile.stored.inj (hfile.symm.trans hsnap')
        exact ⟨ht.targets, happ, ht.captured.safe⟩

/-- Runs of calls that meet their condition keep the invariant. -/
lemma stored_run {calls : List Call} {s : State} (hs : Stored m s)
    (hstore : ∀ c ∈ calls, StoreSucceeds c.fails) (hm : RunMeets m.toHardware calls s) :
    Stored m (run m.toHardware calls s) := by
  induction calls generalizing s with
  | nil => exact hs
  | cons c calls ih =>
    exact ih (stored_step hs (hstore c (by simp)) hm.1) (fun c' hc' => hstore c' (by simp [hc'])) hm.2

end Call

/-- The snapshot is marked applied and records the original settings of a service. -/
def Keeps (m : Machine) (snap : Snapshot) (name : String) : Prop :=
  snap.applied = true ∧ ∃ svc ∈ snap.services, svc.name = name ∧ svc.toSettings = m.net name

/-- A snapshot that is still needed is not forgotten: of every service whose settings are not the
original ones, the manager's snapshot and the stored one both keep those. -/
def SnapshotKept (m : Machine) (s : State) : Prop :=
  ∀ name, s.world.net name ≠ m.net name →
    (∃ snap, s.current = some snap ∧ Keeps m snap name) ∧
      ∃ snap, s.world.file = .stored snap ∧ Keeps m snap name

lemma Stored.snapshotKept {s : State} (hs : Stored m s) : SnapshotKept m s := by
  intro name hne
  cases hc : s.current with
  | none => exact absurd (congrFun (hs.idle hc) name) hne
  | some snap =>
    obtain ⟨happ, ht⟩ := hs.applied snap hc
    have hkeeps : ∃ svc ∈ snap.services, svc.name = name ∧ svc.toSettings = m.net name := by
      by_contra hnone
      refine hne (ht.others name fun svc hsvc hname => hnone ⟨svc, hsvc, hname, ?_⟩)
      rw [ht.captured.settings svc hsvc, hname]
    refine ⟨⟨snap, rfl, happ, hkeeps⟩, ⟨snap.persisted, ?_, happ, hkeeps⟩⟩
    rw [hs.file, hc]
    rfl

/-- **A snapshot is kept while it is needed.** In every run of applies, restores and recoveries in
which any networksetup commands fail, and whose applies meet their condition, the property holds
between calls.

**Proof sketch.** The invariant, with the file, is kept by every call, and implies the property: a
service that is not recorded is original. -/
theorem snapshot_kept (m : Machine) (calls : List Call)
    (hstore : ∀ c ∈ calls, StoreSucceeds c.fails)
    (hmeets : Call.RunMeets m.toHardware calls (fresh m .absent)) :
    SnapshotKept m (Call.run m.toHardware calls (fresh m .absent)) :=
  (Call.stored_run ⟨consistent_fresh, rfl⟩ hstore hmeets).snapshotKept

lemma storeSucceeds_noFail : StoreSucceeds noFail := fun _ _ => rfl

lemma storeSucceeds_failsIn (phase : Phase) : StoreSucceeds (failsIn phase) := by
  intro o ho
  cases o with
  | cmd phase retry args => exact absurd rfl (ho phase retry args)
  | _ => rfl

/-- An apply, a re-apply and a restore that fail everywhere, and a recovery on a new manager. -/
theorem snapshot_kept_laptop : SnapshotKept laptop (Call.run laptop.toHardware
    [.apply laptopCall,
      .apply { port := 1081, bypass := ["192.168.0.0/16"], fails := failsIn .apply },
      .restore {} (failsIn .restore), .recover true {} noFail] (fresh laptop .absent)) := by
  refine snapshot_kept laptop _ ?_ ⟨laptop_meets, ?_, trivial, trivial, trivial⟩
  · intro c hc
    simp only [List.mem_cons, List.not_mem_nil, or_false] at hc
    rcases hc with rfl | rfl | rfl | rfl
    · exact storeSucceeds_noFail
    · exact storeSucceeds_failsIn .apply
    · exact storeSucceeds_failsIn .restore
    · exact storeSucceeds_noFail
  · change ApplyCall.Meets _ _ (laptopCall.step laptop.toHardware (fresh laptop .absent))
    rw [laptop_step]
    decide +kernel

/-- An apply of another list, one of the service's own list that fails on every service, and a
restore: the service keeps the first list and nothing remembers its own. -/
theorem reapply_forgets_bypass : ¬ SnapshotKept laptop (Call.run laptop.toHardware
    [.apply laptopCall,
      .apply { port := 1080, bypass := ["localhost"], fails := failsIn .apply },
      .restore {} noFail] (fresh laptop .absent)) := by
  intro h
  rw [Call.run_cons, Call.step, laptop_step] at h
  obtain ⟨⟨snap, hsnap, -⟩, -⟩ := h "Wi-Fi" fun hnet => by
    have hbypass := congrArg Settings.bypass hnet
    revert hbypass
    decide +kernel
  have hnone : (Call.run laptop.toHardware
      [.apply { port := 1080, bypass := ["localhost"], fails := failsIn .apply },
        .restore {} noFail] laptopApplied).current = none := by decide +kernel
  exact absurd (hnone.symm.trans hsnap) (by simp)

end Proxor.MacHelper
