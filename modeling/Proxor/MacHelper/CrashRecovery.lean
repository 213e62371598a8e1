import Proxor.MacHelper.ManagerRuns

set_option relaxedAutoImplicit false
set_option autoImplicit false

/-!
# Recovery after a crash

The helper may go away after any operation of a call; a new manager then recovers from what the
store holds. Because the snapshot is saved ahead of the writes, the file says that a bypass list
was written before it is. A recovery is exact at every crash point as long as this matters to no
service: as long as no re-apply asks for a list that is some recorded service's own and is not the
list already applied.

## Main definitions

* `Proxor.MacHelper.CleanCall` — a call in which nothing fails.
* `Proxor.MacHelper.CleanCall.crash` — the world after a number of operations of a call.
* `Proxor.MacHelper.CrashSafe` — recovery is exact at every crash point of a run.

## Main results

* `Proxor.MacHelper.crash_recovery` — a run is crash safe exactly when its calls meet the condition.
-/

namespace Proxor.MacHelper

open Resumption Text ProxyManager

/-! ### Calls, and crashes in them -/

/-- A call in which nothing fails. -/
inductive CleanCall
  | apply (sched : Schedule) (port : ℤ) (bypass : List String)
  | restore (sched : Schedule)

namespace CleanCall

/-- The call with its failure pattern. -/
def toCall : CleanCall → Call
  | apply sched port bypass => .apply { sched, port, bypass, fails := noFail }
  | restore sched => .restore sched noFail

/-- The state after the call. -/
def step (hw : Hardware) (c : CleanCall) (s : State) : State := c.toCall.step hw s

/-- What a crash after `n` operations of the call leaves. -/
def crash (hw : Hardware) (n : ℕ) : CleanCall → State → World
  | apply sched port bypass, s =>
    (ProxyManager.apply sched s.current port bypass).stateAt (hw.handler noFail) n s.world
  | restore sched, s =>
    (ProxyManager.restore sched s.current).stateAt (hw.handler noFail) n s.world

/-- The settings before the first apply of the applied period the call belongs to, when `base` are
those before the call: an apply that finds nothing applied begins a period. -/
def start (c : CleanCall) (s : State) (base : String → Settings) : String → Settings :=
  match c, s.current with
  | apply .., none => s.world.net
  | _, _ => base

/-- A re-apply asks for the list that is already applied, or for one that is the own list of no
recorded service. -/
def Meets : CleanCall → State → Prop
  | apply sched port bypass, s =>
    let c : ApplyCall := { sched, port, bypass, fails := noFail }
    c.Accepted → ∀ snap, s.current = some snap → ∀ svc ∈ snap.services,
      svc.bypass = c.list → snap.appliedBypass = some c.list
  | restore _, _ => True

/-- The state after some calls. -/
def run (hw : Hardware) (calls : List CleanCall) (s : State) : State :=
  calls.foldl (fun s c => c.step hw s) s

@[simp] lemma run_nil (hw : Hardware) (s : State) : run hw [] s = s := rfl

@[simp] lemma run_cons (hw : Hardware) (c : CleanCall) (calls : List CleanCall) (s : State) :
    run hw (c :: calls) s = run hw calls (c.step hw s) := rfl

/-- The settings before the first apply of the last applied period of some calls. -/
def periodStart (hw : Hardware) : List CleanCall → State → (String → Settings) → String → Settings
  | [], _, base => base
  | c :: calls, s, base => periodStart hw calls (c.step hw s) (c.start s base)

end CleanCall

/-- A new manager on what a crash left, after its recovery. -/
def recovered (hw : Hardware) (sched : Schedule) (w : World) : State :=
  State.after hw noFail (recoverAtStart sched none) w

/-- At every crash point of a run on a fresh manager, recovery leaves every service with the
settings it had before the first apply of the current period, and the store cleared. -/
def CrashSafe (m : Machine) (calls : List CleanCall) : Prop :=
  ∀ pre c post, calls = pre ++ c :: post → ∀ n sched,
    recovered m.toHardware sched
        (c.crash m.toHardware n (CleanCall.run m.toHardware pre (fresh m .absent))) =
      ⟨none, ⟨c.start (CleanCall.run m.toHardware pre (fresh m .absent))
        (CleanCall.periodStart m.toHardware pre (fresh m .absent) m.net), .absent⟩⟩

/-! ### What recovers -/

/-- The world after a crash: untouched and without a snapshot, or with a stored snapshot that
tracks every service. -/
def Recovers (m : Machine) (w : World) : Prop :=
  w.file = .absent ∧ w.net = m.net ∨
    ∃ snap, w.file = .stored snap ∧ snap.applied = true ∧
      Tracked m snap.services snap.appliedBypass w.net

variable {m : Machine}

/-- Without failures, a restore of a tracked snapshot brings everything back and clears the store. -/
lemma restoreOutcome_noFail {w : World} {snap : Snapshot}
    (ht : Tracked m snap.services snap.appliedBypass w.net) :
    restoreOutcome noFail w snap = ⟨none, ⟨m.net, .absent⟩⟩ := by
  have hrem : remainingOf noFail snap = [] :=
    List.filter_eq_nil_iff.2 fun svc _ => by
      simp [commandsSucceed_noFail.restoreFails .restore svc _]
  have hnet := ht.netRestored_eq_net .restore fun svc _ =>
    commandsSucceed_noFail.restoreFails .restore svc _
  rw [restoreOutcome, if_pos hrem, hnet]
  rfl

/-- A recovery with succeeding commands brings such a world back. -/
lemma Recovers.recovered_eq {w : World} (h : Recovers m w) (sched : Schedule) :
    recovered m.toHardware sched w = ⟨none, ⟨m.net, .absent⟩⟩ := by
  obtain ⟨net, file⟩ := w
  unfold recovered
  rcases h with ⟨hfile, hnet⟩ | ⟨snap, hfile, happ, ht⟩
  · obtain rfl : file = .absent := hfile
    obtain rfl : net = m.net := hnet
    exact recoverAtStart_run sched none ⟨m.net, .absent⟩ rfl (by simp) (by simp)
  · obtain rfl : file = .stored snap := hfile
    rw [recoverAtStart_run sched none _ rfl ?_ (by simp)]
    · exact restoreOutcome_noFail ht
    · intro snap' hsnap'
      obtain rfl : snap = snap' := StoreFile.stored.inj hsnap'
      exact ⟨ht.targets, happ, ht.captured.safe⟩

/-- What is between two calls recovers. -/
lemma Stored.recovers {s : State} (hs : Stored m s) : Recovers m s.world := by
  have hfile := hs.file
  cases hc : s.current with
  | none =>
    rw [hc] at hfile
    exact Or.inl ⟨hfile, hs.idle hc⟩
  | some snap =>
    rw [hc] at hfile
    obtain ⟨happ, ht⟩ := hs.applied snap hc
    exact Or.inr ⟨snap.persisted, hfile, happ, ht.persisted⟩

/-! ### Runs in which nothing fails -/

/-- The invariant of a run in which nothing fails: the recorded bypass list is what every recorded
service has. -/
structure Clean (m : Machine) (s : State) : Prop extends Stored m s where
  bypass : ∀ snap, s.current = some snap → ∃ list, snap.appliedBypass = some list ∧
    ∀ svc ∈ snap.services, (s.world.net svc.name).bypass = writtenBypass list

lemma not_applyFails_noFail (svc : ServiceSnapshot) (port : ℤ) (bypass : List String) :
    applyFails noFail svc port bypass = false := by
  have htry : applyTryFails noFail svc port bypass false = false :=
    List.any_eq_false.2 fun args _ => by simp [noFail]
  simp [applyFails, htry]

/-- Without failures, an apply of some services leaves them applied. -/
lemma applyOutcome_noFail (s : State) (wasApplied : Bool) {snap : Snapshot}
    (hne : snap.services ≠ []) (port : ℤ) (bypass : List String) :
    applyOutcome noFail s wasApplied snap port bypass =
      ⟨some (recorded snap port bypass), ⟨netApplied noFail snap.services port bypass s.world.net,
        .stored (recorded snap port bypass).persisted⟩⟩ := by
  have hall : allFail noFail snap port bypass = false := by
    obtain ⟨svc, services, hcons⟩ := List.exists_cons_of_ne_nil hne
    simp [allFail, hcons, not_applyFails_noFail]
  have hsome : someFail noFail snap port bypass = false :=
    List.any_eq_false.2 fun svc _ => by simp [not_applyFails_noFail]
  simp only [applyOutcome, hall, hsome, noFail, Bool.false_eq_true, if_false]

/-- An apply that starts from tracked services and in which nothing fails. -/
lemma clean_applyOutcome {s : State} {wasApplied : Bool} {snap : Snapshot} {L : Option (List String)}
    (ht : Tracked m snap.services L s.world.net) (port : ℤ) (bypass : List String) :
    Clean m (applyOutcome noFail s wasApplied snap port bypass) := by
  rw [applyOutcome_noFail s wasApplied ht.captured.nonempty]
  have hw : ∀ svc, writesBypass noFail svc port bypass = true :=
    fun svc => writesBypass_of_not_applyFails (not_applyFails_noFail svc port bypass)
  refine ⟨⟨consistent_some rfl (ht.applied_with_bypass port fun svc _ _ => Or.inl (hw svc)), rfl⟩, ?_⟩
  intro snap' hsnap'
  obtain rfl := Option.some.inj hsnap'
  refine ⟨bypass, rfl, fun svc hsvc => ?_⟩
  exact (ht.bypass_netApplied hsvc port bypass).trans (if_pos (hw svc))

/-- A call in which nothing fails keeps the invariant, and leaves the state before the first
apply of a period as it is. -/
lemma CleanCall.clean_step {s : State} (hs : Clean m s) (c : CleanCall) :
    Clean m (c.step m.toHardware s) := by
  cases c with
  | apply sched port bypass =>
    set c : ApplyCall := { sched, port, bypass, fails := noFail } with hc
    change Clean m (c.step m.toHardware s)
    by_cases hacc : c.Accepted
    swap
    · rwa [ApplyCall.step_of_not_accepted m.toHardware hacc]
    cases hcur : s.current with
    | some snap =>
      have ht := (hs.applied snap hcur).2
      rw [ApplyCall.step_of_applied hacc (hs.filter_applied.trans hcur) ht.targets]
      exact clean_applyOutcome ht port _
    | none =>
      have hnet := hs.idle hcur
      rw [ApplyCall.step_of_idle hacc (hs.filter_applied.trans hcur) hnet]
      cases hcap : c.captured m.toHardware s.world with
      | none => exact hs
      | some snap =>
        have ht : Tracked m snap.services none s.world.net :=
          hnet ▸ Tracked.of_captured (ApplyCall.captured_spec hnet hcap) none
        exact clean_applyOutcome ht port _
  | restore sched =>
    refine ⟨Call.stored_step hs.toStored storeSucceeds_noFail trivial, fun snap hsnap => ?_⟩
    have hnone : ((CleanCall.restore sched).step m.toHardware s).current = none := by
      change (State.after _ _ (ProxyManager.restore sched s.current) s.world).current = none
      rw [restore_run sched s fun snap hsnap => (hs.applied snap hsnap).2.targets]
      cases hcur : s.current with
      | none => exact hcur
      | some snap => exact congrArg State.current (restoreOutcome_noFail (hs.applied snap hcur).2)
    exact absurd (hnone.symm.trans hsnap) (by simp)

lemma clean_fresh : Clean m (fresh m .absent) :=
  ⟨⟨consistent_fresh, rfl⟩, fun _ h => absurd h (by simp [fresh])⟩

/-- A run in which nothing fails keeps the invariant. -/
lemma CleanCall.clean_run (calls : List CleanCall) {s : State} (hs : Clean m s) :
    Clean m (run m.toHardware calls s) := by
  induction calls generalizing s with
  | nil => exact hs
  | cons c calls ih => exact ih (clean_step hs c)

/-- A period begins with the original settings. -/
lemma CleanCall.start_eq {s : State} (hs : Consistent m s) (c : CleanCall) :
    c.start s m.net = m.net := by
  obtain ⟨current, w⟩ := s
  cases c with
  | apply sched port bypass =>
    cases current with
    | none => exact hs.idle rfl
    | some snap => rfl
  | restore sched => rfl

lemma CleanCall.periodStart_eq (calls : List CleanCall) {s : State} (hs : Clean m s) :
    periodStart m.toHardware calls s m.net = m.net := by
  induction calls generalizing s with
  | nil => rfl
  | cons c calls ih =>
    rw [periodStart, start_eq hs.toConsistent]
    exact ih (clean_step hs c)

/-! ### Every crash point recovers -/

/-- One service of a tracked list changed to recoverable settings. -/
lemma Tracked.update {services : List ServiceSnapshot} {L : Option (List String)}
    {net : String → Settings} (h : Tracked m services L net) {svc : ServiceSnapshot}
    (hsvc : svc ∈ services) {st : Settings} (hst : Recoverable svc L st) :
    Tracked m services L (Function.update net svc.name st) where
  captured := h.captured
  recoverable svc' hsvc' := by
    by_cases hname : svc'.name = svc.name
    · have hfind := find?_name_of_mem h.captured.nodup hsvc'
      rw [hname, find?_name_of_mem h.captured.nodup hsvc] at hfind
      obtain rfl := Option.some.inj hfind
      rwa [Function.update_self]
    · rw [Function.update_of_ne hname]
      exact h.recoverable svc' hsvc'
  others name hname := by
    rw [Function.update_of_ne (hname svc hsvc).symm]
    exact h.others name hname

/-- The world while `services` are written and the file holds `snap`. -/
def Writing (m : Machine) (services : List ServiceSnapshot) (L : Option (List String))
    (file : StoreFile) (w : World) : Prop :=
  w.file = file ∧ Tracked m services L w.net

/-- A command on one of the services that keeps it recoverable. -/
def Keeping (services : List ServiceSnapshot) (L : Option (List String)) : Op → Prop
  | .cmd _ _ args => ∃ svc ∈ services, args.target = some svc.name ∧
    ∀ st, svc.toSettings.Printable → Recoverable svc L st → Recoverable svc L (args.effect st)
  | _ => False

/-- Such a command keeps the world restorable. -/
lemma writing_handler {services : List ServiceSnapshot} {L : Option (List String)}
    {file : StoreFile} (o : Op) (w : World) (ho : Keeping services L o)
    (hw : Writing m services L file w) :
    Writing m services L file (m.handler noFail o w).2 := by
  obtain ⟨hfile, ht⟩ := hw
  cases o with
  | cmd phase retry args =>
    obtain ⟨svc, hsvc, htarget, hkeep⟩ := ho
    have hs := Argv.service_of_target htarget
    rw [Hardware.handler_cmd_of_not_fails rfl, Hardware.exec_of_mem hs (ht.captured.mem svc hsvc)]
    exact ⟨hfile, ht.update hsvc (hkeep _ (ht.printable hsvc) (ht.recoverable svc hsvc))⟩
  | readStore => exact ho.elim
  | replaceStore again snap => exact ho.elim
  | removeStore => exact ho.elim
  | renameStore => exact ho.elim

/-- Applying services issues commands that keep them recoverable, with the new list recorded. -/
lemma applyServices_keeping (sched : List ℕ) (services : List ServiceSnapshot) (port : ℤ)
    (bypass : List String) :
    (applyServices sched services port bypass).OpsIn (Keeping services (some bypass)) := by
  refine opsIn_applyServices fun svc hsvc retry args ha =>
    ⟨svc, hsvc, target_of_mem_servicePlan svc port bypass ha, ?_⟩
  intro st hp hst
  refine (hst.forget.effect_servicePlan ha).with_bypass fun heq => ?_
  obtain rfl := Option.some.inj heq
  rw [bypass_effect_servicePlan ha]
  split
  · exact if_neg hp.bypass_ne
  · exact hst.bypass rfl

/-- So does restoring them. -/
lemma restoreServices_keeping (phase : Phase) (sched : List ℕ) (services : List ServiceSnapshot)
    (L : Option (List String)) :
    (restoreServices phase sched services L).OpsIn (Keeping services L) :=
  opsIn_restoreServices fun svc hsvc _ _ ha =>
    ⟨svc, hsvc, target_of_mem_serviceRestorePlan svc L ha,
      fun _ hp hst => hst.effect_serviceRestorePlan hp.bypass_ne ha⟩

/-- **A crash while a snapshot is applied** recovers, when the new list is true of the services
before any of them is written.

**Proof sketch.** Before the save the old snapshot is stored. After it the new one is, and each
command keeps every service recoverable with the new list recorded. Nothing fails, so nothing
follows the last command. -/
lemma always_applySnapshot (sched : Schedule) {s : State} (hs : Recovers m s.world)
    (wasApplied : Bool) {snap : Snapshot} {bypass : List String}
    (ht : Tracked m snap.services (some bypass) s.world.net) (failed : List Err) (port : ℤ) :
    (applySnapshot sched s.current wasApplied snap failed port bypass).Always (m.handler noFail)
      (Recovers m) s.world := by
  have hwriting : Writing m snap.services (some bypass)
      (.stored (recorded snap port bypass).persisted)
      ⟨s.world.net, .stored (recorded snap port bypass).persisted⟩ := ⟨rfl, ht⟩
  have hrecovers : ∀ w, Writing m snap.services (some bypass)
      (.stored (recorded snap port bypass).persisted) w → Recovers m w :=
    fun w hw => Or.inr ⟨_, hw.1, rfl, hw.2.persisted⟩
  have hservices := (applyServices_keeping sched.apply snap.services port bypass).always
    writing_handler hwriting
  unfold applySnapshot
  refine Prog.always_op hs ?_
  rw [Hardware.handler_replaceStore_of_not_fails rfl]
  refine (hservices.mono hrecovers).bind ?_
  have hfinal := hservices.final
  rw [applyServices_run ht.targets.nodup ht.targets.mem] at hfinal ⊢
  dsimp only
  rw [isEmpty_appliedNames, any_isSome_applyResult, if_neg, if_neg]
  · exact Prog.always_ret (hrecovers _ hfinal)
  · simp [not_applyFails_noFail]
  · obtain ⟨svc, services, hcons⟩ := List.exists_cons_of_ne_nil ht.captured.nonempty
    simp [hcons, not_applyFails_noFail]

/-- **A crash in an apply** recovers, when the call meets its condition.

**Proof sketch.** A capture changes nothing, and a fresh snapshot tracks every service with any
list recorded. On a re-apply the condition says that the new list is true of the services whose own
it is. -/
lemma always_apply {c : ApplyCall} {s : State} (hs : Clean m s)
    (hm : c.Accepted → ∀ snap, s.current = some snap → ∀ svc ∈ snap.services,
      svc.bypass = c.list → snap.appliedBypass = some c.list) :
    (apply c.sched s.current c.port c.bypass).Always (m.handler noFail) (Recovers m) s.world := by
  have hfilter := hs.filter_applied
  unfold apply
  split
  · exact Prog.always_ret hs.recovers
  rename_i hport
  have hlist : (if c.bypass.length = 0 then defaultBypass else c.bypass) = c.list := rfl
  dsimp only
  rw [hlist]
  cases hv : validateBypass c.list with
  | error err => exact Prog.always_ret hs.recovers
  | ok u =>
  have hm := hm ⟨hport, by rw [hv]; rfl⟩
  obtain ⟨current, w⟩ := s
  dsimp only at hfilter ⊢
  rw [hfilter]
  cases current with
  | some snap =>
    have ht := (hs.applied snap rfl).2
    refine @always_applySnapshot m c.sched ⟨some snap, w⟩ hs.recovers true snap c.list ?_ [] c.port
    refine ht.with_bypass fun svc hsvc heq => (ht.recoverable svc hsvc).bypass ?_
    have heq := Option.some.inj heq
    rw [hm snap rfl svc hsvc heq.symm, heq]
  | none =>
    have hnet : w.net = m.net := hs.idle rfl
    obtain ⟨hstate, hok⟩ := @capture_spec m noFail c.sched.active c.sched.snapshot w hnet
    have hcapture : (capture c.sched.active c.sched.snapshot).Always (m.handler noFail)
        (Recovers m) w := by
      have hread : ∀ args : Argv, args.target = none →
          Prog.ReadOnly (m.handler noFail) (.cmd .capture false args) :=
        fun _ ha => m.readOnly_cmd noFail _ _ ha
      refine ((opsIn_capture hread c.sched.active c.sched.snapshot).always
        (I := fun w' => w' = w) (fun _ _ ho h => (ho _).trans h) rfl).mono ?_
      rintro _ rfl
      exact hs.recovers
    refine hcapture.bind ?_
    rw [hstate]
    cases hcap : ((capture c.sched.active c.sched.snapshot).run (m.handler noFail) w).1 with
    | error e => exact Prog.always_ret hs.recovers
    | ok r =>
      have ht : Tracked m r.1.services (some c.list) w.net :=
        hnet ▸ Tracked.of_captured (hok r.1 r.2 hcap).1 _
      exact @always_applySnapshot m c.sched ⟨none, w⟩ hs.recovers false r.1 c.list ht r.2 c.port

/-- **A crash in a restore** recovers. -/
lemma always_restore (sched : Schedule) {s : State} (hs : Clean m s) :
    (restore sched s.current).Always (m.handler noFail) (Recovers m) s.world := by
  obtain ⟨current, w⟩ := s
  cases current with
  | none => exact Prog.always_ret hs.recovers
  | some snap =>
    have ht := (hs.applied snap rfl).2
    have happ := (hs.applied snap rfl).1
    have hrecovers : ∀ w, Writing m snap.services snap.appliedBypass (.stored snap.persisted) w →
        Recovers m w :=
      fun w hw => Or.inr ⟨_, hw.1, happ, hw.2.persisted⟩
    have hservices := (restoreServices_keeping .restore sched.restore snap.services
      snap.appliedBypass).always writing_handler
        (show Writing m snap.services snap.appliedBypass (.stored snap.persisted) w from
          ⟨hs.file, ht⟩)
    refine (hservices.mono hrecovers).bind ?_
    have hfinal := hservices.final
    obtain ⟨errs, hrun⟩ := @restoreServices_run m.toHardware noFail .restore sched.restore _
      ht.targets.nodup ht.targets.mem snap.appliedBypass w
    rw [hrun] at hfinal ⊢
    have hrem : (snap.services.filter fun svc =>
        restoreFails noFail .restore svc snap.appliedBypass) = [] :=
      List.filter_eq_nil_iff.2 fun svc _ => by
        simp [commandsSucceed_noFail.restoreFails .restore svc _]
    dsimp only
    rw [hrem]
    refine Prog.always_op (hrecovers _ hfinal) (Prog.always_ret ?_)
    refine Or.inl ⟨rfl, ?_⟩
    exact ht.netRestored_eq_net .restore fun svc _ =>
      commandsSucceed_noFail.restoreFails .restore svc _

/-- A crash in a call that meets its condition recovers. -/
lemma CleanCall.recovers_crash {s : State} (hs : Clean m s) {c : CleanCall} (hm : c.Meets s)
    (n : ℕ) : Recovers m (c.crash m.toHardware n s) := by
  cases c with
  | apply sched port bypass => exact @always_apply m { sched, port, bypass, fails := noFail } s hs hm n
  | restore sched => exact always_restore sched hs n

/-! ### A crash point that does not recover -/

/-- Only the bypass command changes the bypass list. -/
lemma bypass_effect {args : Argv} (h : ∀ name domains, args ≠ .setProxyBypassDomains name domains)
    (st : Settings) : (args.effect st).bypass = st.bypass := by
  cases args with
  | setProxy kind name server port => cases kind <;> rfl
  | setProxyState kind name on => cases kind <;> rfl
  | setProxyBypassDomains name domains => exact absurd rfl (h name domains)
  | _ => rfl

/-- A restore that takes the bypass list for the service's own does not write it. -/
lemma ne_setProxyBypassDomains {svc : ServiceSnapshot} {args : Argv}
    (ha : args ∈ serviceRestorePlan svc (some svc.bypass)) (name : String)
    (domains : List String) : args ≠ .setProxyBypassDomains name domains := by
  rintro rfl
  have hproxy : ∀ kind p, .setProxyBypassDomains name domains ∉ restoreProxy svc.name kind p := by
    intro kind p h
    simp only [restoreProxy, List.mem_cons, List.not_mem_nil, or_false] at h
    rcases h with h | h
    · split at h <;> simp at h
    · simp at h
  simp [serviceRestorePlan, restorePlan, hproxy, equalStrings] at ha

/-- Such a restore leaves the bypass list as it is. -/
lemma bypass_effects_serviceRestorePlan {svc : ServiceSnapshot} {done : List Argv}
    (hd : ∀ args ∈ done, args ∈ serviceRestorePlan svc (some svc.bypass)) (st : Settings) :
    (effects done st).bypass = st.bypass := by
  induction done generalizing st with
  | nil => rfl
  | cons args done ih =>
    rw [effects_cons, ih fun a ha => hd a (by simp [ha]),
      bypass_effect (ne_setProxyBypassDomains (hd args (by simp)))]

/-- The applied list is not empty. -/
lemma ApplyCall.list_ne_nil (c : ApplyCall) : c.list ≠ [] := by
  unfold list
  split
  · decide
  · rename_i h
    exact fun hnil => h (by rw [hnil]; rfl)

/-- The first operation of an apply is the save. -/
lemma stateAt_one_applySnapshot (sched : Schedule) (current : Option Snapshot) (wasApplied : Bool)
    (snap : Snapshot) (failed : List Err) (port : ℤ) (bypass : List String) (w : World) :
    (applySnapshot sched current wasApplied snap failed port bypass).stateAt (m.handler noFail) 1 w =
      (m.handler noFail (.replaceStore false (recorded snap port bypass)) w).2 := by
  unfold applySnapshot
  change Prog.stateAt _ (0 + 1) (.op _ _) _ = _
  rw [Prog.stateAt_op_succ, Prog.stateAt_zero]
  rfl

/-- **A crash right after the save of a re-apply** keeps the bypass list that was applied, where
the new one is the service's own.

**Proof sketch.** The stored snapshot says that the new list was written, so the recovery does not
write the list of such a service; but the service still has the list applied before. -/
lemma not_recovered_of_saved (sched : Schedule) {c : ApplyCall} {s : State} (hs : Clean m s) (hacc : c.Accepted) {snap : Snapshot}
    (hcur : s.current = some snap) {svc : ServiceSnapshot} (hsvc : svc ∈ snap.services)
    (hlist : svc.bypass = c.list) (hne : snap.appliedBypass ≠ some c.list) :
    (recovered m.toHardware sched ((apply c.sched s.current c.port c.bypass).stateAt
      (m.handler noFail) 1 s.world)).world.net ≠ m.net := by
  obtain ⟨happ, ht⟩ := hs.applied snap hcur
  set file := StoreFile.stored (recorded snap c.port c.list).persisted with hfile
  have hcrash : (apply c.sched s.current c.port c.bypass).stateAt (m.handler noFail) 1 s.world =
      ⟨s.world.net, file⟩ := by
    have hfilter := hs.filter_applied.trans hcur
    obtain ⟨hport, hok⟩ := hacc
    unfold apply
    rw [if_neg hport]
    unfold ApplyCall.list at hok hfile
    dsimp only
    cases hv : validateBypass (if c.bypass.length = 0 then defaultBypass else c.bypass) with
    | error err => rw [hv] at hok; exact absurd hok (by simp [Except.isOk, Except.toBool])
    | ok u =>
      dsimp only
      rw [hfilter]
      exact stateAt_one_applySnapshot _ _ _ _ _ _ _ _
  have hL : (recorded snap c.port c.list).persisted.appliedBypass = some svc.bypass := by
    rw [hlist]
    change Option.filter (fun l => decide (l ≠ [])) (some c.list) = some c.list
    simp [c.list_ne_nil]
  have hrec : recovered m.toHardware sched ⟨s.world.net, file⟩ =
      restoreOutcome noFail ⟨s.world.net, file⟩ (recorded snap c.port c.list).persisted := by
    refine (recoverAtStart_run sched none _ rfl ?_ (by simp [hfile])).trans rfl
    intro snap' hsnap'
    obtain rfl := StoreFile.stored.inj hsnap'
    exact ⟨ht.targets, rfl, ht.captured.safe⟩
  have hrem : remainingOf noFail (recorded snap c.port c.list).persisted = [] :=
    List.filter_eq_nil_iff.2 fun svc _ => by
      simp [commandsSucceed_noFail.restoreFails .restore svc _]
  intro hnet
  rw [hcrash, hrec, restoreOutcome, if_pos hrem, hL] at hnet
  have hbypass := congrArg Settings.bypass (congrFun hnet svc.name)
  have hkept : (netRestored noFail .restore snap.services (some svc.bypass) s.world.net
      svc.name).bypass = (s.world.net svc.name).bypass := by
    unfold netRestored
    rw [onServices_of_mem ht.captured.nodup hsvc]
    exact bypass_effects_serviceRestorePlan
      (fun _ ha => mem_serviceRestorePlan_of_mem_restoreDone ha) _
  obtain ⟨list, hold, hall⟩ := hs.bypass snap hcur
  have hwritten : writtenBypass list = c.list := by
    rw [← hall svc hsvc, ← hkept, ← hlist]
    exact hbypass.trans (congrArg Settings.bypass (ht.captured.settings svc hsvc).symm)
  unfold writtenBypass at hwritten
  split at hwritten
  · exact c.list_ne_nil hwritten.symm
  · exact hne (hwritten ▸ hold)

/-- **Crash recovery.** A run in which nothing fails recovers exactly at every crash point, if and
only if its calls meet the condition: no re-apply asks for a bypass list that is some recorded
service's own, unless it is the one already applied. -/
theorem crash_recovery (m : Machine) (calls : List CleanCall) :
    CrashSafe m calls ↔ ∀ pre c post, calls = pre ++ c :: post →
      c.Meets (CleanCall.run m.toHardware pre (fresh m .absent)) := by
  constructor
  · intro hsafe pre c post hcalls
    have hs := CleanCall.clean_run pre (@clean_fresh m)
    cases c with
    | restore sched => trivial
    | apply sched port bypass =>
      intro hacc snap hcur svc hsvc hlist
      by_contra hne
      refine not_recovered_of_saved {} hs hacc hcur hsvc hlist hne ?_
      have hnet := congrArg (fun s => s.world.net) (hsafe pre _ post hcalls 1 {})
      rwa [CleanCall.periodStart_eq pre clean_fresh, CleanCall.start_eq hs.toConsistent] at hnet
  · intro hmeets pre c post hcalls n sched
    have hs := CleanCall.clean_run pre (@clean_fresh m)
    rw [(CleanCall.recovers_crash hs (hmeets pre c post hcalls) n).recovered_eq sched,
      CleanCall.periodStart_eq pre clean_fresh, CleanCall.start_eq hs.toConsistent]

/-- A crash right after the save of a re-apply of the service's own list: the recovery keeps the
list that was applied before. -/
theorem reapply_crash_keeps_bypass : ¬ CrashSafe laptop
    [.apply {} 1080 ["10.0.0.0/8"], .apply {} 1080 ["localhost"]] := by
  intro h
  have hnet := congrArg (fun s => (s.world.net "Wi-Fi").bypass)
    (h [.apply {} 1080 ["10.0.0.0/8"]] (.apply {} 1080 ["localhost"]) [] rfl 1 {})
  have hrun : CleanCall.run laptop.toHardware [.apply {} 1080 ["10.0.0.0/8"]] (fresh laptop .absent) =
      laptopApplied := by
    have hstep : (CleanCall.apply {} 1080 ["10.0.0.0/8"]).toCall = .apply laptopCall := rfl
    rw [CleanCall.run_cons, CleanCall.run_nil, CleanCall.step, hstep, Call.step, laptop_step]
  rw [hrun] at hnet
  revert hnet
  decide +kernel

end Proxor.MacHelper
