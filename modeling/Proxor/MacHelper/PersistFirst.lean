import Mathlib.Data.List.Nodup
import Proxor.MacHelper.Capture
import Proxor.MacHelper.PerService

set_option relaxedAutoImplicit false
set_option autoImplicit false

/-!
# Nothing is written that is not recorded

Whatever networksetup prints, and whatever fails: before the manager changes the settings of a service,
the stored snapshot has that service, and a listing has shown it to be enabled and to have a device.

## Main definitions

* `Proxor.MacHelper.PersistFirst.Environment` — what networksetup and the file system answer.
* `Proxor.MacHelper.PersistFirst.Listing` — the two listings of a capture.
* `Proxor.MacHelper.PersistFirst.Reachable` — the states of the manager after any calls and crashes.

## Main results

* `Proxor.MacHelper.PersistFirst.Reachable.sound` — services that are recorded were listed.
* `Proxor.MacHelper.PersistFirst.apply_records` — what an apply has recorded when it writes.
-/

namespace Proxor.MacHelper.PersistFirst

open Resumption Text ProxyManager

/-! ### The environment -/

/-- What networksetup prints, with its error, and which file operations fail, by the number of the
operation. -/
structure Environment where
  output : ℕ → Argv → String × Option Err
  failure : ℕ → Option Err

/-- The file of the snapshot store, the number of operations so far, and the commands so far, the latest
one first, with what they have printed if they succeeded. -/
structure World where
  file : StoreFile := .absent
  time : ℕ := 0
  log : List (Argv × Option String) := []

/-- The world after an operation on the file. -/
def World.write (w : World) (failure : Option Err) (file : StoreFile) : World :=
  { w with time := w.time + 1, file := if failure.isSome then w.file else file }

/-- The world after a command. -/
def World.command (w : World) (args : Argv) (answer : String × Option Err) : World :=
  { w with
    time := w.time + 1
    log := (args, if answer.2.isNone then some answer.1 else none) :: w.log }

/-- What the store reads. -/
def World.read (w : World) : Option Err → Except Err (Option Snapshot)
  | some err => .error err
  | none =>
    match w.file with
    | .absent => .ok none
    | .corrupt => .error (.text "snapshot: invalid JSON")
    | .stored snap => .ok (some snap)

/-- What each operation does. -/
def Environment.handler (e : Environment) : Handler Op Op.Res World
  | .cmd _ _ args, w => (e.output w.time args, w.command args (e.output w.time args))
  | .readStore, w => (w.read (e.failure w.time), { w with time := w.time + 1 })
  | .replaceStore _ snap, w => (e.failure w.time, w.write (e.failure w.time) (.stored snap.persisted))
  | .removeStore, w => (e.failure w.time, w.write (e.failure w.time) .absent)
  | .renameStore, w => (e.failure w.time, w.write (e.failure w.time) .absent)

/-- The service an operation may change. -/
def target : Op → Option String
  | .cmd _ _ args => args.target
  | _ => none

/-! ### Listings -/

/-- What the two listings of a capture show. -/
structure Listing where
  order : List NetworkService
  all : List NetworkService

namespace Listing

/-- A capture has read these listings. -/
def Read (l : Listing) (log : List (Argv × Option String)) : Prop :=
  ∃ orderOut allOut,
    [(.listAllNetworkServices, some allOut), (.listNetworkServiceOrder, some orderOut)] <:+: log ∧
    parseServiceOrder orderOut = .ok l.order ∧ parseAllServices allOut = .ok l.all

/-- The first listing has an enabled service of this name with a device, and the second one has none that
is disabled. -/
def Eligible (l : Listing) (name : String) : Prop :=
  (∃ s ∈ l.order, s.name = name ∧ s.disabled = false ∧ s.device ≠ "") ∧
  ∀ s ∈ l.all, s.name = name → s.disabled = false

/-- No service of this name is disabled in a listing or has no device. -/
def Usable (l : Listing) (name : String) : Prop :=
  (∀ s ∈ l.order, s.name = name → s.disabled = false ∧ s.device ≠ "") ∧
  ∀ s ∈ l.all, s.name = name → s.disabled = false

/-- The first listing has no name twice. -/
def Distinct (l : Listing) : Prop := (l.order.map (·.name)).Nodup

variable {l : Listing} {name : String}

lemma Eligible.usable (h : l.Eligible name) (hdistinct : l.Distinct) : l.Usable name := by
  obtain ⟨⟨s, hs, rfl, henabled, hdevice⟩, hall⟩ := h
  refine ⟨fun s' hs' hname => ?_, hall⟩
  obtain rfl := List.inj_on_of_nodup_map hdistinct hs' hs hname
  exact ⟨henabled, hdevice⟩

lemma eligible_of_mem {order all : List NetworkService} {s : NetworkService}
    (h : s ∈ eligibleServices order all) : (Listing.mk order all).Eligible s.name := by
  obtain ⟨hmem, hs⟩ := List.mem_filter.1 h
  simp only [Bool.not_eq_true', Bool.or_eq_false_iff, beq_eq_false_iff_ne, List.any_eq_false,
    Bool.and_eq_true, beq_iff_eq, not_and] at hs
  obtain ⟨⟨hdisabled, hall⟩, hdevice⟩ := hs
  refine ⟨⟨s, hmem, rfl, hdisabled, hdevice⟩, fun a ha hname => ?_⟩
  by_contra hd
  exact hall a ha (by simpa using hd) hname

end Listing

/-- A capture has listed a service of this name, and taken it. -/
def Captured (log : List (Argv × Option String)) (name : String) : Prop :=
  safeServiceName name = true ∧ ∃ l : Listing, l.Read log ∧ l.Eligible name

lemma Captured.mono {log log' : List (Argv × Option String)} {name : String} (h : Captured log name)
    (hlog : log <:+ log') : Captured log' name := by
  obtain ⟨hsafe, l, ⟨orderOut, allOut, hread, hparse⟩, heligible⟩ := h
  exact ⟨hsafe, l, ⟨orderOut, allOut, hread.trans hlog.isInfix, hparse⟩, heligible⟩

/-- Some services, all of which were captured. -/
def Recorded (log : List (Argv × Option String)) (services : List ServiceSnapshot) : Prop :=
  services ≠ [] ∧ ∀ svc ∈ services, Captured log svc.name

lemma Recorded.mono {log log' : List (Argv × Option String)} {services : List ServiceSnapshot}
    (h : Recorded log services) (hlog : log <:+ log') : Recorded log' services :=
  ⟨h.1, fun svc hsvc => (h.2 svc hsvc).mono hlog⟩

lemma Recorded.subset {log : List (Argv × Option String)} {services services' : List ServiceSnapshot}
    (h : Recorded log services) (hne : services' ≠ []) (hsub : services' ⊆ services) :
    Recorded log services' :=
  ⟨hne, fun svc hsvc => h.2 svc (hsub hsvc)⟩

/-- The services of the stored snapshot were captured. -/
def FileRecorded (w : World) : Prop := ∀ snap, w.file = .stored snap → Recorded w.log snap.services

/-- These services and those of the stored snapshot were captured. -/
def Kept (services : List ServiceSnapshot) (w : World) : Prop :=
  FileRecorded w ∧ Recorded w.log services

/-! ### Operations -/

variable (e : Environment)

/-- The commands so far are kept. -/
lemma log_suffix (o : Op) (w : World) : w.log <:+ (e.handler o w).2.log := by
  cases o with
  | cmd phase retry args => exact List.suffix_cons _ _
  | readStore => exact List.suffix_rfl
  | replaceStore again snap => exact List.suffix_rfl
  | removeStore => exact List.suffix_rfl
  | renameStore => exact List.suffix_rfl

/-- An operation that stores no snapshot but one of some of these services. -/
def Stores (services : List ServiceSnapshot) : Op → Prop
  | .replaceStore _ snap => snap.services ≠ [] ∧ snap.services ⊆ services
  | _ => True

lemma FileRecorded.write {w : World} (h : FileRecorded w) {failure : Option Err} {file : StoreFile}
    (hfile : ∀ snap, file = .stored snap → Recorded w.log snap.services) :
    FileRecorded (w.write failure file) := by
  intro snap hsnap
  rw [World.write] at hsnap ⊢
  dsimp only at hsnap ⊢
  split at hsnap
  · exact h snap hsnap
  · exact hfile snap hsnap

/-- Such an operation keeps what is recorded. -/
lemma Stores.kept {services : List ServiceSnapshot} {o : Op} {w : World} (ho : Stores services o)
    (h : Kept services w) : Kept services (e.handler o w).2 := by
  refine ⟨?_, h.2.mono (log_suffix e o w)⟩
  cases o with
  | cmd phase retry args => exact fun snap hsnap => (h.1 snap hsnap).mono (List.suffix_cons _ _)
  | readStore => exact h.1
  | replaceStore again snap =>
    refine h.1.write fun snap' hsnap' => ?_
    obtain rfl := StoreFile.stored.inj hsnap'
    exact h.2.subset ho.1 ho.2
  | removeStore =>
    refine h.1.write ?_
    rintro snap ⟨⟩
  | renameStore =>
    refine h.1.write ?_
    rintro snap ⟨⟩

/-- A command that changes nothing. -/
def Reads (o : Op) : Prop := ∃ phase retry args, o = .cmd phase retry args ∧ args.target = none

lemma reads_of_target (args : Argv) (h : args.target = none) : Reads (.cmd .capture false args) :=
  ⟨_, _, args, rfl, h⟩

lemma Reads.target {o : Op} (h : Reads o) : target o = none := by
  obtain ⟨phase, retry, args, rfl, hargs⟩ := h
  exact hargs

/-- It leaves the file as it is. -/
lemma Reads.file {o : Op} (h : Reads o) (w : World) : (e.handler o w).2.file = w.file := by
  obtain ⟨phase, retry, args, rfl, -⟩ := h
  rfl

lemma file_of_reads {α : Type} {p : Act α} (hops : p.OpsIn Reads) (w : World) :
    (p.run e.handler w).2.file = w.file :=
  hops.run_preserves (I := fun t => t.file = w.file) (fun _ t ho ht => (ho.file e t).trans ht) rfl

lemma log_of_run {α : Type} (p : Act α) (w : World) : w.log <:+ (p.run e.handler w).2.log := by
  have hops : p.OpsIn fun _ => True := by
    induction p with
    | ret a => trivial
    | op o k ih => exact ⟨trivial, fun r => ih r⟩
  exact hops.run_preserves (I := fun t => w.log <:+ t.log)
    (fun _ t _ ht => ht.trans (log_suffix e _ t)) List.suffix_rfl

/-- A program of operations that keep what is recorded does so, and returns what it may return. -/
lemma through_of_stores {α : Type} {services : List ServiceSnapshot} {p : Act α} {R : α → Prop} {w : World}
    (hops : p.OpsIn (Stores services)) (hret : p.Returns R) (h : Kept services w) :
    Prog.Through e.handler FileRecorded p w fun a t => R a ∧ Kept services t ∧ w.log <:+ t.log :=
  ⟨(hops.always (fun _ _ ho hw => ho.kept e hw) h).mono fun _ hw => hw.1, hret.run w,
    hops.run_preserves (fun _ _ ho hw => ho.kept e hw) h, log_of_run e p w⟩

/-- What a program that only reads leaves. -/
lemma through_of_reads {α : Type} {p : Act α} {w : World} (hops : p.OpsIn Reads) (h : FileRecorded w) :
    Prog.Through e.handler FileRecorded p w fun a t =>
      a = (p.run e.handler w).1 ∧ FileRecorded t ∧ w.log <:+ t.log ∧
        t.log = (p.run e.handler w).2.log := by
  have hkeep : ∀ o t, Reads o → FileRecorded t → FileRecorded (e.handler o t).2 := by
    intro o t ho ht snap hsnap
    rw [ho.file e t] at hsnap
    exact (ht snap hsnap).mono (log_suffix e o t)
  exact ⟨hops.always hkeep h, rfl, hops.run_preserves hkeep h, log_of_run e p w, rfl⟩

/-! ### The capture -/

/-- What a command that returns something leaves. -/
lemma run_eq_ok {phase : Phase} {retry : Bool} {args : Argv} {w : World} {out : String}
    (h : ((run phase retry args).run e.handler w).1 = .ok out) :
    ((run phase retry args).run e.handler w).2.log = (args, some out) :: w.log := by
  obtain ⟨⟨text, failed⟩, hanswer⟩ : ∃ answer, e.output w.time args = answer := ⟨_, rfl⟩
  have hstep : e.handler (.cmd phase retry args) w = ((text, failed), w.command args (text, failed)) := by
    rw [Environment.handler, hanswer]
  rw [run, Prog.run_op, hstep] at h ⊢
  cases failed with
  | none =>
    dsimp only at h ⊢
    cases hcheck : checkNoError text with
    | error err =>
      rw [hcheck] at h
      cases h
    | ok =>
      rw [hcheck] at h
      obtain rfl := Except.ok.inj h
      rfl
  | some err =>
    dsimp only at h
    by_cases hblank : trimSpace text ≠ ""
    · rw [if_pos hblank] at h
      cases h
    · rw [if_neg hblank] at h
      cases h

/-- **The capture.** What it takes was listed.

**Proof sketch.** The two listings are read one after the other, and every service that is taken comes from
one of those that are eligible by them. -/
lemma capture_recorded (schedActive schedSnapshot : List ℕ) (w : World) : ∀ snap failed,
    ((capture schedActive schedSnapshot).run e.handler w).1 = .ok (snap, failed) →
    Recorded ((capture schedActive schedSnapshot).run e.handler w).2.log snap.services := by
  unfold capture
  rw [Prog.bind_eq, Prog.run_bind]
  cases horder : ((run .capture false .listNetworkServiceOrder).run e.handler w).1 with
  | error err => rintro snap failed ⟨⟩
  | ok orderOut =>
  have hlog₁ := run_eq_ok e horder
  generalize ((run .capture false .listNetworkServiceOrder).run e.handler w).2 = w₁ at hlog₁ ⊢
  dsimp only
  cases hparse₁ : parseServiceOrder orderOut with
  | error err => rintro snap failed ⟨⟩
  | ok order =>
  dsimp only
  rw [Prog.bind_eq, Prog.run_bind]
  cases hall : ((run .capture false .listAllNetworkServices).run e.handler w₁).1 with
  | error err => rintro snap failed ⟨⟩
  | ok allOut =>
  have hlog₂ := run_eq_ok e hall
  generalize ((run .capture false .listAllNetworkServices).run e.handler w₁).2 = w₂ at hlog₂ ⊢
  dsimp only
  cases hparse₂ : parseAllServices allOut with
  | error err => rintro snap failed ⟨⟩
  | ok all =>
  dsimp only
  have hread : (Listing.mk order all).Read w₂.log := by
    refine ⟨orderOut, allOut, ⟨[], w.log, ?_⟩, hparse₁, hparse₂⟩
    rw [hlog₂, hlog₁]
    rfl
  -- what is left of the capture returns some of the eligible services
  have hrest : ∀ {p : Act (Except (List Err × Err) (Snapshot × List Err))},
      (p.Returns fun r => ∀ snap failed, r = .ok (snap, failed) → snap.services ≠ [] ∧
        ∀ svc ∈ snap.services, ∃ s ∈ eligibleServices order all, s.name = svc.name ∧
          safeServiceName s.name = true) →
      ∀ snap failed, (p.run e.handler w₂).1 = .ok (snap, failed) →
        Recorded (p.run e.handler w₂).2.log snap.services := by
    intro p hret snap failed hp
    obtain ⟨hne, hservices⟩ := hret.run w₂ snap failed hp
    refine ⟨hne, fun svc hsvc => ?_⟩
    obtain ⟨s, hs, hname, hsafe⟩ := hservices svc hsvc
    have hcaptured : Captured w₂.log s.name := ⟨hsafe, _, hread, Listing.eligible_of_mem hs⟩
    exact hname ▸ hcaptured.mono (log_of_run e p w₂)
  refine hrest ?_
  split
  · rintro snap failed ⟨⟩
  refine (returns_activeServices schedActive _).bind fun active hactive => ?_
  split
  · rintro snap failed ⟨⟩
  refine (Prog.returns_par (R := fun i r => ∀ ss, r = .ok ss → ∃ s, active[i]? = some s ∧
    s.name = ss.name ∧ safeServiceName s.name = true) ?_).bind fun results hresults => ?_
  · intro i t ht
    rw [List.getElem?_map] at ht
    obtain ⟨s, hs, rfl⟩ := Option.map_eq_some_iff.1 ht
    split
    · rintro ss ⟨⟩
    · next hsafe =>
      have hname : (snapshotService s.name).Returns fun r => ∀ ss, r = .ok ss → ss.name = s.name := by
        unfold snapshotService
        refine (Prog.returns_true _).bind fun web _ => (Prog.returns_true _).bind fun secure _ =>
          (Prog.returns_true _).bind fun socks _ => (Prog.returns_true _).bind fun bypass _ =>
          (Prog.returns_true _).bind fun auto _ => (Prog.returns_true _).bind fun autoDiscovery _ => ?_
        intro ss hss
        obtain ⟨web, -, hss⟩ := bind_eq_ok.1 hss
        obtain ⟨secure, -, hss⟩ := bind_eq_ok.1 hss
        obtain ⟨socks, -, hss⟩ := bind_eq_ok.1 hss
        obtain ⟨bypass, -, hss⟩ := bind_eq_ok.1 hss
        obtain ⟨auto, -, hss⟩ := bind_eq_ok.1 hss
        obtain ⟨autoDiscovery, -, hss⟩ := bind_eq_ok.1 hss
        obtain rfl := pure_eq_ok.1 hss
        rfl
      have hthread := hname.bind (f := Prog.ret) (R := fun r => ∀ ss, r = .ok ss →
        ∃ s, active[i]? = some s ∧ s.name = ss.name ∧ safeServiceName s.name = true)
        fun r hr ss hss => ⟨s, hs, (hr ss hss).symm, by simpa using hsafe⟩
      rwa [Prog.bind_ret] at hthread
  · cases hcollect : collect active results with
    | mk services failed' =>
    dsimp only
    split
    · rintro snap failed ⟨⟩
    next hne =>
    rintro snap failed ⟨⟩
    refine ⟨by simpa using hne, fun svc hsvc => ?_⟩
    have hservices : services = results.filterMap fun r => r.toOption := (congrArg Prod.fst hcollect).symm
    dsimp only at hsvc
    rw [hservices] at hsvc
    obtain ⟨r, hr, hsome⟩ := List.mem_filterMap.1 hsvc
    obtain ⟨i, hi⟩ := List.mem_iff_getElem?.1 hr
    cases r with
    | error err => cases hsome
    | ok ss =>
      obtain rfl := Option.some.inj hsome
      obtain ⟨s, hs, hname, hsafe⟩ := hresults i _ hi ss rfl
      exact ⟨s, hactive.subset (List.mem_of_getElem? hs), hname, hsafe⟩

/-! ### What the methods store and return -/

section Stores

variable {services : List ServiceSnapshot}

lemma stores_command {phase : Phase} {retry : Bool} {args : Argv} :
    Stores services (.cmd phase retry args) := trivial

/-- An apply stores, and comes to have, the services it was given. -/
lemma stores_applySnapshot (sched : Schedule) (current : Option Snapshot) (wasApplied : Bool)
    {snap : Snapshot} (hne : snap.services ≠ []) (failed : List Err) (port : ℤ) (bypass : List String) :
    (applySnapshot sched current wasApplied snap failed port bypass).OpsIn (Stores snap.services) ∧
    (applySnapshot sched current wasApplied snap failed port bypass).Returns fun r =>
      r.2 = current ∨ ∀ snap' ∈ r.2, snap'.services = snap.services := by
  have hstore : ∀ again snap', snap'.services = snap.services →
      Stores snap.services (.replaceStore again snap') := by
    rintro again snap' heq
    rw [Stores, heq]
    exact ⟨hne, List.Subset.refl _⟩
  constructor
  · refine ⟨hstore _ _ rfl, fun (err : Option Err) => ?_⟩
    cases err with
    | some err => trivial
    | none =>
      refine (opsIn_applyServices fun _ _ _ _ _ => stores_command).bind fun errs => ?_
      dsimp only
      split
      · split
        · trivial
        · refine (opsIn_restoreServices fun _ _ _ _ _ => stores_command).bind fun _ => ?_
          exact ⟨trivial, fun _ => trivial⟩
      · split
        · exact ⟨hstore _ _ rfl, fun _ => trivial⟩
        · trivial
  · refine (Prog.returns_true (SnapshotStore.save false _)).bind fun err _ => ?_
    cases err with
    | some err => exact .inl rfl
    | none =>
      refine (Prog.returns_true (applyServices _ _ _ _)).bind fun errs _ => ?_
      dsimp only
      split
      · split
        · exact .inr (by rintro snap' ⟨⟩; rfl)
        · exact (Prog.returns_true _).bind fun _ _ _ => .inr (by rintro snap' ⟨⟩)
      · split
        · exact fun _ => .inr (by rintro snap' ⟨⟩; rfl)
        · exact .inr (by rintro snap' ⟨⟩; rfl)

/-- What is left after a restore are some of the services. -/
lemma returns_restoreServices (phase : Phase) (sched : List ℕ) (services : List ServiceSnapshot)
    (L : Option (List String)) :
    (restoreServices phase sched services L).Returns fun r => r.1 ⊆ services := by
  refine (Prog.returns_true _).bind fun _ _ => (Prog.returns_true _).bind fun results _ => ?_
  intro svc hsvc
  obtain ⟨p, hp, rfl⟩ := List.mem_map.1 hsvc
  exact (List.of_mem_zip (List.mem_of_mem_filter hp)).1

/-- A restore stores, and leaves, some of the services. -/
lemma stores_restore (sched : List ℕ) (snap : Snapshot) :
    ((restoreServices .restore sched snap.services snap.appliedBypass).bind fun r =>
      finishRestore snap r.1 r.2).OpsIn (Stores snap.services) ∧
    ((restoreServices .restore sched snap.services snap.appliedBypass).bind fun r =>
      finishRestore snap r.1 r.2).Returns fun r =>
        ∀ snap' ∈ r.2, snap'.services ≠ [] ∧ snap'.services ⊆ snap.services := by
  have hservices := returns_restoreServices .restore sched snap.services snap.appliedBypass
  constructor
  · refine (opsIn_restoreServices fun _ _ _ _ _ => stores_command).bind_of_returns hservices ?_
    rintro ⟨remaining, errs⟩ hsub
    dsimp only
    unfold finishRestore
    split
    · refine ⟨trivial, fun (err : Option Err) => ?_⟩
      cases err <;> trivial
    next hne => exact ⟨⟨by simpa using hne, hsub⟩, fun _ => trivial⟩
  · refine hservices.bind ?_
    rintro ⟨remaining, errs⟩ hsub
    dsimp only
    unfold finishRestore
    split
    · intro (err : Option Err)
      cases err <;> rintro snap' ⟨⟩
    next hne =>
      rintro - snap' ⟨⟩
      exact ⟨by simpa using hne, hsub⟩

end Stores

/-! ### Runs -/

/-- The manager's current snapshot, and the world. -/
structure State where
  current : Option Snapshot := none
  world : World := {}

/-- A call of a method. -/
inductive Call
  | apply (sched : Schedule) (port : ℤ) (bypass : List String)
  | restore (sched : Schedule)
  | recoverAtStart (sched : Schedule)

/-- A call, which returns the new current snapshot. -/
def Call.program (current : Option Snapshot) : Call → Act (Option Snapshot)
  | .apply sched port bypass => (ProxyManager.apply sched current port bypass).bind fun r => .ret r.2
  | .restore sched => (ProxyManager.restore sched current).bind fun r => .ret r.2
  | .recoverAtStart sched => (ProxyManager.recoverAtStart sched current).bind fun r => .ret r.2

/-- The states after any calls, some of which may have been cut off by the end of the helper. -/
inductive Reachable : State → Prop
  | start : Reachable {}
  | call {s : State} (e : Environment) (c : Call) (h : Reachable s) :
      Reachable ⟨((c.program s.current).run e.handler s.world).1,
        ((c.program s.current).run e.handler s.world).2⟩
  | crash {s : State} (e : Environment) (c : Call) (n : ℕ) (h : Reachable s) :
      Reachable ⟨none, (c.program s.current).stateAt e.handler n s.world⟩

/-- The services of the current snapshot and of the stored one were captured. -/
structure Sound (s : State) : Prop where
  file : FileRecorded s.world
  current : ∀ snap ∈ s.current, Recorded s.world.log snap.services

variable {e}

/-- The current snapshot stays, or is of services that are recorded. -/
lemma sound_of_kept {s : State} {w : World} {current : Option Snapshot} {services : List ServiceSnapshot}
    (hs : Sound s) (hkept : Kept services w) (hlog : s.world.log <:+ w.log)
    (hcurrent : current = s.current ∨ ∀ snap ∈ current, snap.services ≠ [] ∧ snap.services ⊆ services) :
    Sound ⟨current, w⟩ := by
  refine ⟨hkept.1, fun snap hsnap => ?_⟩
  rcases hcurrent with rfl | hcurrent
  · exact (hs.current snap hsnap).mono hlog
  · exact hkept.2.subset (hcurrent snap hsnap).1 (hcurrent snap hsnap).2

/-- What a part of a call that leaves the state sound goes through. -/
def Goes {α : Type} (e : Environment) (p : Act (α × Option Snapshot)) (w : World) : Prop :=
  Prog.Through e.handler FileRecorded p w fun r t => Sound ⟨r.2, t⟩

lemma goes_ret {α : Type} {s : State} (hs : Sound s) (a : α) : Goes e (.ret (a, s.current)) s.world :=
  Prog.through_ret hs.file hs

lemma goes_applySnapshot {s : State} (hs : Sound s) {w : World} (hlog : s.world.log <:+ w.log)
    (sched : Schedule) (wasApplied : Bool) {snap : Snapshot} (hkept : Kept snap.services w)
    (failed : List Err) (port : ℤ) (bypass : List String) :
    Goes e (applySnapshot sched s.current wasApplied snap failed port bypass) w := by
  obtain ⟨hops, hret⟩ := stores_applySnapshot sched s.current wasApplied hkept.2.1 failed port bypass
  refine (through_of_stores e hops hret hkept).mono ?_
  rintro r t ⟨hr, ht, hlog'⟩
  refine sound_of_kept hs ht (hlog.trans hlog') (hr.imp_right fun hr snap' hsnap' => ?_)
  rw [hr snap' hsnap']
  exact ⟨hkept.2.1, List.Subset.refl _⟩

lemma goes_apply {s : State} (hs : Sound s) (sched : Schedule) (port : ℤ) (bypass : List String) :
    Goes e (ProxyManager.apply sched s.current port bypass) s.world := by
  unfold ProxyManager.apply
  split
  · exact goes_ret hs _
  dsimp only
  split
  · exact goes_ret hs _
  split
  next snap hsnap =>
    have hcurrent := hs.current snap (Option.filter_eq_some_iff.1 hsnap).1
    exact goes_applySnapshot hs List.suffix_rfl _ _ ⟨hs.file, hcurrent⟩ _ _ _
  · refine (through_of_reads e (opsIn_capture reads_of_target _ _) hs.file).bind ?_
    rintro r t ⟨hr, hfile, hlog, ht⟩
    cases r with
    | error err =>
      refine Prog.through_ret hfile ⟨hfile, fun snap hsnap => (hs.current snap hsnap).mono hlog⟩
    | ok r =>
      have hrecorded := capture_recorded e sched.active sched.snapshot s.world r.1 r.2 hr.symm
      exact goes_applySnapshot hs hlog _ _ ⟨hfile, ht ▸ hrecorded⟩ _ _ _

/-- A restore of recorded services. -/
lemma goes_restoreServices {s : State} (hs : Sound s) {w : World} (hlog : s.world.log <:+ w.log)
    (sched : List ℕ) {snap : Snapshot} (hkept : Kept snap.services w) :
    Goes e ((restoreServices .restore sched snap.services snap.appliedBypass).bind fun r =>
      finishRestore snap r.1 r.2) w := by
  obtain ⟨hops, hret⟩ := stores_restore sched snap
  refine (through_of_stores e hops hret hkept).mono ?_
  rintro r t ⟨hr, ht, hlog'⟩
  exact sound_of_kept hs ht (hlog.trans hlog') (.inr hr)

lemma goes_restore {s : State} (hs : Sound s) (sched : Schedule) :
    Goes e (ProxyManager.restore sched s.current) s.world := by
  obtain ⟨current, w⟩ := s
  cases current with
  | none => exact goes_ret hs _
  | some snap => exact goes_restoreServices hs List.suffix_rfl _ ⟨hs.file, hs.current snap rfl⟩

/-- A snapshot that is loaded is the stored one. -/
lemma World.read_eq_ok {w : World} {failure : Option Err} {snap : Snapshot}
    (h : w.read failure = .ok (some snap)) : w.file = .stored snap := by
  unfold World.read at h
  split at h
  · cases h
  · split at h
    · cases h
    · cases h
    · next hfile =>
      cases h
      exact hfile

lemma goes_recoverAtStart {s : State} (hs : Sound s) (sched : Schedule) :
    Goes e (ProxyManager.recoverAtStart sched s.current) s.world := by
  -- an operation on the file that stores nothing leaves the state sound
  have hremove : ∀ {o : Op} {w : World}, o = .removeStore ∨ o = .renameStore → Sound ⟨s.current, w⟩ →
      Sound ⟨s.current, (e.handler o w).2⟩ := by
    rintro o w ho hw
    refine ⟨?_, fun snap hsnap => (hw.current snap hsnap).mono (log_suffix e o w)⟩
    rcases ho with rfl | rfl <;> exact hw.file.write (by rintro snap ⟨⟩)
  obtain ⟨t, ht⟩ : ∃ t : World, t = { s.world with time := s.world.time + 1 } := ⟨_, rfl⟩
  have hsound : Sound ⟨s.current, t⟩ := by
    rw [ht]
    exact ⟨hs.file, hs.current⟩
  have hload : ∀ {β : Type} (f : Except Err (Option Snapshot) → Act (β × Option Snapshot)),
      (∀ err, Goes e (f (.error err)) t) → Goes e (f (.ok none)) t →
      (∀ snap, s.world.file = .stored snap → Goes e (f (.ok (some snap))) t) →
      Goes e (SnapshotStore.load.bind f) s.world := by
    intro β f herror hnone hsome
    refine Prog.through_op hs.file ?_
    have hstep : e.handler .readStore s.world = (s.world.read (e.failure s.world.time), t) := by
      rw [ht]
      rfl
    rw [hstep]
    dsimp only
    cases hread : s.world.read (e.failure s.world.time) with
    | error err => exact herror err
    | ok stored =>
      cases stored with
      | none => exact hnone
      | some snap =>
        dsimp only
        cases snap.services.find? fun svc => !safeServiceName svc.name with
        | some svc => exact herror _
        | none => exact hsome snap (World.read_eq_ok hread)
  refine hload _ (fun err => ?_) (goes_ret hsound _) fun snap hsnap => ?_
  · refine Prog.through_op hsound.file ?_
    have hafter := hremove (.inr rfl) hsound
    dsimp only
    generalize e.handler .renameStore t = out at hafter ⊢
    obtain ⟨_ | err, t'⟩ := out <;> exact goes_ret hafter _
  · dsimp only
    split
    · refine Prog.through_op hsound.file ?_
      have hafter := hremove (.inl rfl) hsound
      generalize e.handler .removeStore t = out at hafter ⊢
      obtain ⟨_ | err, t'⟩ := out <;> exact goes_ret hafter _
    · have hstored := hs.file snap hsnap
      exact goes_restoreServices hsound List.suffix_rfl _ ⟨hsound.file, by rw [ht]; exact hstored⟩

/-- **Recorded services.** In every state, the services of the current snapshot and of the stored one were
captured.

**Proof sketch.** Induction on the calls: each of them keeps this at all times. -/
theorem Reachable.sound {s : State} (h : Reachable s) : Sound s := by
  have hcall : ∀ {s : State} (e : Environment) (c : Call), Sound s →
      Prog.Through e.handler FileRecorded (c.program s.current) s.world fun r t => Sound ⟨r, t⟩ := by
    intro s e c hs
    cases c with
    | apply sched port bypass => exact (goes_apply hs sched port bypass).bind fun _ _ h => ⟨Prog.always_ret h.file, h⟩
    | restore sched => exact (goes_restore hs sched).bind fun _ _ h => ⟨Prog.always_ret h.file, h⟩
    | recoverAtStart sched => exact (goes_recoverAtStart hs sched).bind fun _ _ h => ⟨Prog.always_ret h.file, h⟩
  induction h with
  | start => exact ⟨by rintro snap ⟨⟩, by rintro snap ⟨⟩⟩
  | call e c _ ih => exact (hcall e c ih).2
  | crash e c n _ ih => exact ⟨(hcall e c ih).1 n, by rintro snap ⟨⟩⟩

/-! ### What is written -/

/-- The stored snapshot is marked as applied and has a service of this name. -/
def Persisted (w : World) (name : String) : Prop :=
  ∃ snap, w.file = .stored snap ∧ snap.applied = true ∧ ∃ svc ∈ snap.services, svc.name = name

/-- An operation that changes a service is issued when the service was captured and is stored. -/
def Permitted (x : Op × World) : Prop :=
  ∀ name, target x.1 = some name → Persisted x.2 name ∧ Captured x.2.log name

/-- A command that changes one of the services. -/
def Changes (services : List ServiceSnapshot) (o : Op) : Prop :=
  ∃ phase retry args, o = .cmd phase retry args ∧ ∃ svc ∈ services, args.target = some svc.name

/-- These services are stored as applied, and were captured. -/
def Armed (services : List ServiceSnapshot) (w : World) : Prop :=
  (∃ snap, w.file = .stored snap ∧ snap.applied = true ∧ snap.services = services) ∧
  Recorded w.log services

/-- A command leaves the stored services as they are. -/
lemma Changes.armed {services : List ServiceSnapshot} {o : Op} {w : World} (ho : Changes services o)
    (hw : Armed services w) : Armed services (e.handler o w).2 := by
  obtain ⟨phase, retry, args, rfl, -⟩ := ho
  exact ⟨hw.1, hw.2.mono (log_suffix e _ w)⟩

/-- A program that changes only services that are stored does what is permitted. -/
lemma permitted_of_changes {α : Type} {services : List ServiceSnapshot} {p : Act α} {w : World}
    (hops : p.OpsIn (Changes services)) (hw : Armed services w) :
    (∀ x ∈ p.issued e.handler w, Permitted x) ∧ Armed services (p.run e.handler w).2 := by
  refine ⟨fun x hx name hname => ?_, hops.run_preserves (fun _ _ ho ht => ho.armed ht) hw⟩
  obtain ⟨⟨phase, retry, args, hop, svc, hsvc, htarget⟩, ⟨snap, hfile, happlied, hservices⟩, hrecorded⟩ :=
    hops.issued (fun _ _ ho ht => ho.armed ht) hw x hx
  rw [hop, target, htarget] at hname
  obtain rfl := Option.some.inj hname
  exact ⟨⟨snap, hfile, happlied, svc, hservices ▸ hsvc, rfl⟩, hrecorded.2 svc hsvc⟩

lemma permitted_of_target {x : Op × World} (h : target x.1 = none) : Permitted x := by
  intro name hname
  rw [h] at hname
  cases hname

lemma changes_applyServices (sched : List ℕ) (services : List ServiceSnapshot) (port : ℤ)
    (bypass : List String) : (applyServices sched services port bypass).OpsIn (Changes services) :=
  opsIn_applyServices fun svc hsvc _ _ ha =>
    ⟨_, _, _, rfl, svc, hsvc, target_of_mem_servicePlan svc port bypass ha⟩

lemma changes_restoreServices (phase : Phase) (sched : List ℕ) (services : List ServiceSnapshot)
    (L : Option (List String)) :
    (restoreServices phase sched services L).OpsIn (Changes services) :=
  opsIn_restoreServices fun svc hsvc _ _ ha =>
    ⟨_, _, _, rfl, svc, hsvc, target_of_mem_serviceRestorePlan svc L ha⟩

/-- Some service is changed when some are applied. -/
lemma exists_target_applyServices (sched : List ℕ) {services : List ServiceSnapshot} (hne : services ≠ [])
    (port : ℤ) (bypass : List String) (w : World) :
    ∃ x ∈ (applyServices sched services port bypass).issued e.handler w, target x.1 ≠ none := by
  obtain ⟨svc, services', rfl⟩ := List.exists_cons_of_ne_nil hne
  have hpar : ∃ o k, Prog.par sched ((svc :: services').map fun svc =>
      runPlan .apply false (applyPlan { services := [svc] } port bypass)) = Prog.op o k := by
    refine Prog.exists_par_eq_op List.mem_cons_self ?_
    rintro a ⟨⟩
  obtain ⟨o, k, hpar⟩ := hpar
  have hops := changes_applyServices sched (svc :: services') port bypass
  unfold applyServices forEachService at hops ⊢
  dsimp only at hops ⊢
  rw [hpar] at hops ⊢
  obtain ⟨phase, retry, args, rfl, svc', -, htarget⟩ := hops.1
  refine ⟨(_, w), List.mem_cons_self, ?_⟩
  rw [target, htarget]
  rintro ⟨⟩

/-- A call does what is permitted, and where it changes no service it changes neither snapshot. -/
def Orderly (e : Environment) (s : State) (p : Act (ApplyResult × Option Snapshot)) (w : World) : Prop :=
  (∀ x ∈ p.issued e.handler w, Permitted x) ∧
  ((∀ x ∈ p.issued e.handler w, target x.1 = none) →
    (p.run e.handler w).1.2 = s.current ∧ (p.run e.handler w).2.file = s.world.file)

lemma orderly_ret {s : State} {w : World} (hfile : w.file = s.world.file) (res : ApplyResult) :
    Orderly e s (.ret (res, s.current)) w :=
  ⟨List.forall_mem_nil _, fun _ => ⟨rfl, hfile⟩⟩

/-- **Applying services.** They are stored first.

**Proof sketch.** Where they cannot be stored, nothing else is done. Otherwise they are stored when the
first command is issued, and stay so until the last one was. -/
lemma orderly_applySnapshot {s : State} {w : World} (hfile : w.file = s.world.file) (sched : Schedule)
    (wasApplied : Bool) {snap : Snapshot} (hw : Recorded w.log snap.services) (failed : List Err) (port : ℤ)
    (bypass : List String) :
    Orderly e s (applySnapshot sched s.current wasApplied snap failed port bypass) w := by
  have hissued : ∀ again snap t, (SnapshotStore.save again snap).issued e.handler t =
      [(.replaceStore again snap, t)] := fun _ _ _ => rfl
  have hrun : ∀ again snap t, (SnapshotStore.save again snap).run e.handler t =
      (e.failure t.time, t.write (e.failure t.time) (.stored snap.persisted)) := fun _ _ _ => rfl
  unfold Orderly applySnapshot
  dsimp only
  rw [Prog.bind_eq, Prog.issued_bind, Prog.run_bind, hissued, hrun]
  have hfirst : ∀ snap, Permitted (.replaceStore false snap, w) := fun snap => permitted_of_target rfl
  dsimp only
  cases hfail : e.failure w.time with
  | some err =>
    refine ⟨fun x hx => ?_, fun _ => ⟨rfl, hfile⟩⟩
    obtain rfl := List.mem_singleton.1 hx
    exact hfirst _
  | none =>
    obtain ⟨t, ht⟩ : ∃ t, t = w.write none (.stored (Snapshot.persisted
        { snap with applied := true, port, appliedBypass := some bypass })) := ⟨_, rfl⟩
    have harmed : Armed snap.services t := by
      rw [ht]
      exact ⟨⟨_, rfl, rfl, rfl⟩, hw⟩
    rw [← ht]
    obtain ⟨hpermitted, harmed'⟩ :=
      permitted_of_changes (changes_applyServices sched.apply snap.services port bypass) harmed
    obtain ⟨x, hx, htarget⟩ := exists_target_applyServices (e := e) sched.apply hw.1 port bypass t
    rw [Prog.bind_eq, Prog.issued_bind]
    refine ⟨?_, fun hall => absurd (hall x ?_) htarget⟩
    · rw [List.singleton_append, List.forall_mem_cons, List.forall_mem_append]
      refine ⟨hfirst _, hpermitted, ?_⟩
      generalize ((applyServices sched.apply snap.services port bypass).run e.handler t).1 = errs
      generalize ((applyServices sched.apply snap.services port bypass).run e.handler t).2 = t' at harmed' ⊢
      split
      · split
        · exact List.forall_mem_nil _
        · obtain ⟨hrollback, -⟩ := permitted_of_changes
            (changes_restoreServices .rollback sched.rollback snap.services none) harmed'
          rw [Prog.bind_eq, Prog.issued_bind, List.forall_mem_append]
          exact ⟨hrollback, List.forall_mem_singleton.2 (permitted_of_target rfl)⟩
      · split
        · exact List.forall_mem_singleton.2 (permitted_of_target rfl)
        · exact List.forall_mem_nil _
    · exact List.mem_append_right _ (List.mem_append_left _ hx)

lemma orderly_apply {s : State} (hs : Sound s) (sched : Schedule) (port : ℤ) (bypass : List String) :
    Orderly e s (ProxyManager.apply sched s.current port bypass) s.world := by
  unfold ProxyManager.apply
  split
  · exact orderly_ret rfl _
  dsimp only
  split
  · exact orderly_ret rfl _
  split
  next snap hsnap =>
    exact orderly_applySnapshot rfl _ _ (hs.current snap (Option.filter_eq_some_iff.1 hsnap).1) _ _ _
  · have hreads := opsIn_capture reads_of_target sched.active sched.snapshot
    have hfile := file_of_reads e hreads s.world
    have hrecorded := capture_recorded e sched.active sched.snapshot s.world
    have htargets : ∀ x ∈ (capture sched.active sched.snapshot).issued e.handler s.world,
        target x.1 = none := fun x hx =>
      (hreads.issued (I := fun _ => True) (fun _ _ _ _ => trivial) trivial x hx).1.target
    have hrest : ∀ {f : Except (List Err × Err) (Snapshot × List Err) →
        Act (ApplyResult × Option Snapshot)},
        Orderly e s (f ((capture sched.active sched.snapshot).run e.handler s.world).1)
          ((capture sched.active sched.snapshot).run e.handler s.world).2 →
        Orderly e s ((capture sched.active sched.snapshot).bind f) s.world := by
      rintro f ⟨hpermitted, hquiet⟩
      unfold Orderly
      rw [Prog.issued_bind, Prog.run_bind, List.forall_mem_append, List.forall_mem_append]
      exact ⟨⟨fun x hx => permitted_of_target (htargets x hx), hpermitted⟩, fun h => hquiet h.2⟩
    refine hrest ?_
    generalize (capture sched.active sched.snapshot).run e.handler s.world = out at hfile hrecorded ⊢
    obtain ⟨err | r, t⟩ := out
    · exact orderly_ret hfile _
    · exact orderly_applySnapshot hfile _ _ (hrecorded r.1 r.2 rfl) _ _ _

/-- **What is recorded before it is written.** Whatever networksetup prints and whatever fails: when an
apply issues a command that changes a service, the stored snapshot is marked as applied and has that
service, whose name is no option, and which a capture has listed as enabled and with a device. Where no
service is listed twice under a name, none of that name was listed as disabled or without a device. An apply
that fails before the first such command leaves the current and the stored snapshot as they were.

**Proof sketch.** A snapshot that is applied again is of captured services (`Reachable.sound`), a new one is
by `capture_recorded`; then `orderly_applySnapshot`. -/
theorem apply_records {s : State} (hs : Reachable s) (e : Environment) (sched : Schedule) (port : ℤ)
    (bypass : List String) :
    let p := ProxyManager.apply sched s.current port bypass
    (∀ x ∈ p.issued e.handler s.world, ∀ name, target x.1 = some name →
      Persisted x.2 name ∧ hasPrefix name "-" = false ∧
      ∃ l : Listing, l.Read x.2.log ∧ l.Eligible name ∧ (l.Distinct → l.Usable name)) ∧
    ((∀ x ∈ p.issued e.handler s.world, target x.1 = none) →
      (p.run e.handler s.world).1.2 = s.current ∧
      (p.run e.handler s.world).2.file = s.world.file) := by
  intro p
  obtain ⟨hpermitted, hquiet⟩ := orderly_apply hs.sound sched port bypass (e := e)
  refine ⟨fun x hx name hname => ?_, hquiet⟩
  obtain ⟨hpersisted, hsafe, l, hread, heligible⟩ := hpermitted x hx name hname
  rw [safeServiceName, Bool.and_eq_true, Bool.not_eq_true'] at hsafe
  exact ⟨hpersisted, hsafe.2, l, hread, heligible, heligible.usable⟩

/-- Two services of one name are listed, and the second one has no device. -/
def namesakes : Environment where
  output _
    | .listNetworkServiceOrder =>
      ("(1) Wi-Fi\n(Hardware Port: Wi-Fi, Device: en0)\n\n(2) Wi-Fi\n(Hardware Port: PPP, Device: )\n", none)
    | .listAllNetworkServices => ("Wi-Fi\nWi-Fi\n", none)
    | .getInfo _ => ("IP address: 192.168.1.20\n", none)
    | .getProxy _ _ => (fmtProxy proxyOff, none)
    | .getProxyBypassDomains name => (fmtBypass name [], none)
    | .getAutoProxyURL _ => (fmtAutoProxy "" false, none)
    | .getProxyAutoDiscovery _ => (fmtAutoDiscovery false, none)
    | _ => ("", none)
  failure _ := none

/-- The first of them is pointed at the proxy. -/
lemma issued_namesakes : ∃ x ∈ (ProxyManager.apply {} none 2080 []).issued namesakes.handler {},
    target x.1 = some "Wi-Fi" ∧ ∀ entry ∈ x.2.log, entry.1 = .listNetworkServiceOrder →
      entry.2 = some (namesakes.output 0 .listNetworkServiceOrder).1 := by
  have hany : ((ProxyManager.apply {} none 2080 []).issued namesakes.handler {}).any (fun x =>
      decide (target x.1 = some "Wi-Fi") && x.2.log.all fun entry =>
        decide (entry.1 = .listNetworkServiceOrder →
          entry.2 = some (namesakes.output 0 .listNetworkServiceOrder).1)) = true := by
    decide +kernel
  obtain ⟨x, hx, h⟩ := List.any_eq_true.1 hany
  rw [Bool.and_eq_true, List.all_eq_true] at h
  exact ⟨x, hx, of_decide_eq_true h.1, fun entry hentry => of_decide_eq_true (h.2 entry hentry)⟩

/-- It is stored when that happens. -/
theorem apply_records_namesakes : ∃ x ∈ (ProxyManager.apply {} none 2080 []).issued namesakes.handler {},
    target x.1 = some "Wi-Fi" ∧ Persisted x.2 "Wi-Fi" := by
  obtain ⟨x, hx, htarget, -⟩ := issued_namesakes
  exact ⟨x, hx, htarget, ((apply_records .start namesakes {} 2080 []).1 x hx _ htarget).1⟩

/-- The command names a service that has no device, as well. -/
theorem not_apply_records : ¬ ∀ (s : State), Reachable s → ∀ (e : Environment) (sched : Schedule) (port : ℤ)
    (bypass : List String), ∀ x ∈ (ProxyManager.apply sched s.current port bypass).issued e.handler s.world,
    ∀ name, target x.1 = some name → ∃ l : Listing, l.Read x.2.log ∧ l.Usable name := by
  intro hall
  obtain ⟨x, hx, htarget, hlog⟩ := issued_namesakes
  obtain ⟨l, ⟨orderOut, allOut, hread, hparse, -⟩, husable, -⟩ :=
    hall {} .start namesakes {} 2080 [] x hx _ htarget
  have hout := hlog _ (hread.subset (List.mem_cons_of_mem _ (List.mem_singleton_self _))) rfl
  rw [Option.some.inj hout] at hparse
  have horder : (parseServiceOrder (namesakes.output 0 .listNetworkServiceOrder).1).toOption =
      some [{ name := "Wi-Fi", device := "en0" }, { name := "Wi-Fi" }] := by decide +kernel
  rw [hparse] at horder
  have hmem : { name := "Wi-Fi" } ∈ l.order := by
    rw [Option.some.inj horder]
    exact List.mem_cons_of_mem _ (List.mem_singleton_self _)
  exact (husable _ hmem rfl).2 rfl

end Proxor.MacHelper.PersistFirst
