import Proxor.MacHelper.PerService

set_option relaxedAutoImplicit false
set_option autoImplicit false

/-!
# What a call of the system proxy manager leaves

Each method of the manager, run on a machine, leaves a new current snapshot, new settings and a new
file. These are functions of the state before and of the failure pattern; the schedules do not
matter.

## Main definitions

* `Proxor.MacHelper.ProxyManager.State` — the manager's snapshot and the machine's world.
* `Proxor.MacHelper.ProxyManager.applyOutcome`,
  `Proxor.MacHelper.ProxyManager.restoreOutcome` — the state after an apply of given services and
  after a restore.

## Main results

* `Proxor.MacHelper.ProxyManager.applySnapshot_run`,
  `Proxor.MacHelper.ProxyManager.restore_run`,
  `Proxor.MacHelper.ProxyManager.recoverAtStart_run` — the methods leave the outcomes.
-/

namespace Proxor.MacHelper

open Resumption Text

/-- Services a snapshot can have been taken of: existing ones, each at most once. -/
structure Targets (hw : Hardware) (services : List ServiceSnapshot) : Prop where
  nodup : (services.map (·.name)).Nodup
  mem : ∀ svc ∈ services, svc.name ∈ hw.order

lemma Targets.filter {hw : Hardware} {services : List ServiceSnapshot} (h : Targets hw services)
    (p : ServiceSnapshot → Bool) : Targets hw (services.filter p) where
  nodup := (List.filter_sublist.map _).nodup h.nodup
  mem svc hsvc := h.mem svc (List.mem_of_mem_filter hsvc)

namespace ProxyManager

/-- Between two calls: the manager's current snapshot, the settings and the file. -/
structure State where
  current : Option Snapshot
  world : World

/-- The state a method leaves: its second result is the new current snapshot. -/
def State.after {α : Type} (hw : Hardware) (fails : Op → Bool)
    (method : Act (α × Option Snapshot)) (w : World) : State :=
  ⟨(method.run (hw.handler fails) w).1.2, (method.run (hw.handler fails) w).2⟩

lemma State.after_bind {α β : Type} {hw : Hardware} {fails : Op → Bool} (p : Act α)
    (f : α → Act (β × Option Snapshot)) (w : World) :
    State.after hw fails (p.bind f) w =
      State.after hw fails (f (p.run (hw.handler fails) w).1) (p.run (hw.handler fails) w).2 := by
  simp only [after, Prog.run_bind]

variable (fails : Op → Bool)

/-! ### Outcomes -/

/-- The settings after applying services. -/
def netApplied (services : List ServiceSnapshot) (port : ℤ) (bypass : List String) :
    (String → Settings) → String → Settings :=
  onServices services fun svc => effects (applyDone fails svc port bypass)

/-- The settings after restoring services. -/
def netRestored (phase : Phase) (services : List ServiceSnapshot)
    (appliedBypass : Option (List String)) : (String → Settings) → String → Settings :=
  onServices services fun svc => effects (restoreDone fails phase svc appliedBypass)

/-- The snapshot an apply records before it writes anything. -/
def recorded (snap : Snapshot) (port : ℤ) (bypass : List String) : Snapshot :=
  { snap with applied := true, port, appliedBypass := some bypass }

/-- Every service of a snapshot fails to apply. -/
def allFail (snap : Snapshot) (port : ℤ) (bypass : List String) : Bool :=
  snap.services.all fun svc => applyFails fails svc port bypass

/-- Some service of a snapshot fails to apply. -/
def someFail (snap : Snapshot) (port : ℤ) (bypass : List String) : Bool :=
  snap.services.any fun svc => applyFails fails svc port bypass

/-- The state after an apply of the services of `snap`, which the manager already had
(`wasApplied`) or has just captured. -/
def applyOutcome (s : State) (wasApplied : Bool) (snap : Snapshot) (port : ℤ)
    (bypass : List String) : State :=
  let recd := recorded snap port bypass
  if fails (.replaceStore false recd) then s
  else
    let net := netApplied fails snap.services port bypass s.world.net
    if allFail fails snap port bypass then
      if wasApplied then ⟨some recd, ⟨net, .stored recd.persisted⟩⟩
      else ⟨none, ⟨netRestored fails .rollback snap.services none net,
        if fails .removeStore then .stored recd.persisted else .absent⟩⟩
    else if someFail fails snap port bypass then
      let snap' := { recd with appliedBypass := none }
      ⟨some snap', ⟨net, .stored
        (if fails (.replaceStore true snap') then recd.persisted else snap'.persisted)⟩⟩
    else ⟨some recd, ⟨net, .stored recd.persisted⟩⟩

/-- The services of a snapshot that do not restore cleanly. -/
def remainingOf (snap : Snapshot) : List ServiceSnapshot :=
  snap.services.filter fun svc => restoreFails fails .restore svc snap.appliedBypass

/-- The state after a restore of the services of `snap`. -/
def restoreOutcome (w : World) (snap : Snapshot) : State :=
  let net := netRestored fails .restore snap.services snap.appliedBypass w.net
  if remainingOf fails snap = [] then
    ⟨none, ⟨net, if fails .removeStore then w.file else .absent⟩⟩
  else
    let snap' := { snap with services := remainingOf fails snap, applied := true }
    ⟨some snap', ⟨net, if fails (.replaceStore false snap') then w.file else .stored snap'.persisted⟩⟩

variable {fails} {hw : Hardware}

/-! ### The store -/

/-- Saving replaces the file, or fails and does not. -/
lemma save_run (again : Bool) (snap : Snapshot) (w : World) :
    (SnapshotStore.save again snap).run (hw.handler fails) w =
      if fails (.replaceStore again snap) then (some (.text "write error"), w)
      else (none, { w with file := .stored snap.persisted }) := by
  cases hf : fails (.replaceStore again snap) with
  | true => exact @Hardware.handler_replaceStore_of_fails hw _ _ _ hf w
  | false => exact @Hardware.handler_replaceStore_of_not_fails hw _ _ _ hf w

/-- Clearing removes the file, or fails and does not. -/
lemma clear_run (w : World) :
    SnapshotStore.clear.run (hw.handler fails) w =
      if fails .removeStore then (some (.text "remove error"), w)
      else (none, { w with file := .absent }) := by
  cases hf : fails .removeStore with
  | true => exact @Hardware.handler_removeStore_of_fails hw _ hf w
  | false => exact @Hardware.handler_removeStore_of_not_fails hw _ hf w

/-! ### Applying -/

/-- Nothing is applied when every service fails. -/
lemma isEmpty_appliedNames (services : List ServiceSnapshot) (port : ℤ) (bypass : List String) :
    (appliedNames services (services.map fun svc => applyResult fails svc port bypass)).isEmpty =
      services.all fun svc => applyFails fails svc port bypass := by
  have hfilter := map_fst_filter_zip_map services (fun svc => applyResult fails svc port bypass)
    fun r => r.isNone
  have hnames : appliedNames services (services.map fun svc => applyResult fails svc port bypass) =
      (services.filter fun svc => (applyResult fails svc port bypass).isNone).map (·.name) := by
    rw [← hfilter, List.map_map]
    rfl
  rw [hnames, Bool.eq_iff_iff]
  simp [← isSome_applyResult, Option.isSome_iff_ne_none]

/-- Some service is reported as failed when one fails. -/
lemma any_isSome_applyResult (services : List ServiceSnapshot) (port : ℤ) (bypass : List String) :
    (services.map fun svc => applyResult fails svc port bypass).any (·.isSome) =
      services.any fun svc => applyFails fails svc port bypass := by
  rw [List.any_map]
  exact List.any_congr rfl fun svc => isSome_applyResult fails svc port bypass

/-- **Applying a snapshot** leaves the outcome, under every schedule.

**Proof sketch.** The first save decides whether anything happens; `applyServices_run` gives the
services, and the three ways an apply ends are told apart by which of them failed. -/
theorem applySnapshot_run (sched : Schedule) (s : State) (wasApplied : Bool) {snap : Snapshot}
    (ht : Targets hw snap.services) (failed : List Err) (port : ℤ) (bypass : List String) :
    State.after hw fails (applySnapshot sched s.current wasApplied snap failed port bypass) s.world =
      applyOutcome fails s wasApplied snap port bypass := by
  have hsome := @any_isSome_applyResult fails snap.services port bypass
  have hempty := @isEmpty_appliedNames fails snap.services port bypass
  unfold State.after applySnapshot applyOutcome allFail someFail recorded
  simp only [Prog.bind_eq, Prog.pure_eq, Prog.run_bind, save_run]
  by_cases hsave : fails (.replaceStore false
      { applied := true, port, services := snap.services, appliedBypass := some bypass }) = true
  · -- nothing is recorded, and nothing happens
    simp only [if_pos hsave]
    rfl
  simp only [if_neg hsave]
  rw [Prog.run_bind, applyServices_run ht.nodup ht.mem]
  dsimp only
  rw [hempty, hsome]
  split
  · -- every service failed
    split
    · rfl
    · obtain ⟨errs, hroll⟩ := @restoreServices_run hw fails .rollback sched.rollback _ ht.nodup ht.mem
        none ⟨netApplied fails snap.services port bypass s.world.net,
          .stored (recorded snap port bypass).persisted⟩
      unfold netApplied recorded at hroll
      rw [Prog.run_bind, hroll, Prog.run_bind, clear_run]
      cases fails .removeStore <;> rfl
  · split
    · rw [Prog.run_bind, save_run]
      split <;> rfl
    · rfl

/-! ### Restoring -/

/-- The outcome is recorded in the manager and in the file. -/
lemma finishRestore_run (snap : Snapshot) (remaining : List ServiceSnapshot) (errs : List Err)
    (w : World) :
    State.after hw fails (finishRestore snap remaining errs) w =
      if remaining = [] then
        ⟨none, { w with file := if fails .removeStore then w.file else .absent }⟩
      else
        let snap' := { snap with services := remaining, applied := true }
        ⟨some snap', { w with
          file := if fails (.replaceStore false snap') then w.file else .stored snap'.persisted }⟩ := by
  cases remaining with
  | nil =>
    rw [finishRestore, List.isEmpty_nil, if_pos rfl, Prog.bind_eq, State.after_bind, clear_run]
    cases fails .removeStore <;> rfl
  | cons svc remaining =>
    have hne : ¬ svc :: remaining = [] := List.cons_ne_nil _ _
    rw [if_neg hne, finishRestore, List.isEmpty_cons, if_neg Bool.false_ne_true, Prog.bind_eq,
      State.after_bind, save_run]
    dsimp only
    split <;> rfl

/-- Writing the services back and recording the outcome. -/
lemma restoreServices_finishRestore_run (sched : List ℕ) {snap : Snapshot}
    (ht : Targets hw snap.services) (w : World) :
    State.after hw fails
      ((restoreServices .restore sched snap.services snap.appliedBypass).bind fun r =>
        finishRestore snap r.1 r.2) w = restoreOutcome fails w snap := by
  obtain ⟨errs, hrun⟩ := @restoreServices_run hw fails .restore sched _ ht.nodup ht.mem
    snap.appliedBypass w
  rw [State.after_bind, hrun, finishRestore_run]
  rfl

/-- **Restoring** leaves the outcome; without a current snapshot it does nothing. -/
theorem restore_run (sched : Schedule) (s : State)
    (ht : ∀ snap, s.current = some snap → Targets hw snap.services) :
    State.after hw fails (restore sched s.current) s.world =
      match s.current with
      | none => s
      | some snap => restoreOutcome fails s.world snap := by
  cases s with
  | mk current w =>
  cases current with
  | none => rfl
  | some snap => exact restoreServices_finishRestore_run sched.restore (ht snap rfl) w

/-- **Recovering at start** restores the stored snapshot when it is marked applied and its names
are safe. -/
theorem recoverAtStart_run (sched : Schedule) (current : Option Snapshot) (w : World)
    (hread : fails .readStore = false)
    (ht : ∀ snap, w.file = .stored snap → Targets hw snap.services ∧ snap.applied = true ∧
      ∀ svc ∈ snap.services, safeServiceName svc.name = true)
    (hc : w.file ≠ .corrupt) :
    State.after hw fails (recoverAtStart sched current) w =
      match w.file with
      | .stored snap => restoreOutcome fails w snap
      | _ => ⟨current, w⟩ := by
  obtain ⟨net, file⟩ := w
  have hload : SnapshotStore.load.run (hw.handler fails) ⟨net, file⟩ =
      (match file with
        | .stored snap => .ok (some snap)
        | _ => .ok none, ⟨net, file⟩) := by
    rw [SnapshotStore.load, Prog.run_op, Hardware.handler, if_neg (by simp [hread])]
    cases file with
    | absent => rfl
    | corrupt => exact absurd rfl hc
    | stored snap =>
      have hfind : (snap.services.find? fun svc => !safeServiceName svc.name) = none := by
        rw [List.find?_eq_none]
        exact fun svc hsvc => by simpa using (ht snap rfl).2.2 svc hsvc
      dsimp only
      rw [hfind]
      rfl
  rw [recoverAtStart, Prog.bind_eq, State.after_bind, hload]
  cases file with
  | absent => rfl
  | corrupt => exact absurd rfl hc
  | stored snap =>
    obtain ⟨ht, happ, -⟩ := ht snap rfl
    dsimp only
    rw [happ, Bool.not_true, if_neg (by simp)]
    exact restoreServices_finishRestore_run sched.restore ht _

end ProxyManager

end Proxor.MacHelper
