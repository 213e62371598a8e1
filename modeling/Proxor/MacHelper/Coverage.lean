import Mathlib.Data.Bool.AllAny
import Proxor.MacHelper.ManagerRuns
import Proxor.MacHelper.ServiceListing

set_option relaxedAutoImplicit false
set_option autoImplicit false

/-!
# Which services an apply covers

An apply that finds nothing applied captures the services that are there, and names each of them as applied or
as failed. One that finds a snapshot applied works from it: a service that is not in the snapshot is not
looked at, whatever it has become since.

## Main definitions

* `Proxor.MacHelper.ProxyManager.Coverage.Covers` — every active service is named, and the applied ones are at
  the proxy.
* `Proxor.MacHelper.ProxyManager.Coverage.Ready` — what an apply finds before it.
* `Proxor.MacHelper.ProxyManager.Coverage.Call`, `Proxor.MacHelper.ProxyManager.Coverage.AtApplies` — runs of
  calls, and what holds at their applies.

## Main results

* `Proxor.MacHelper.ProxyManager.Coverage.capture_named` — the services that a capture names.
* `Proxor.MacHelper.ProxyManager.Coverage.covers_iff` — when an apply without error covers the services.
* `Proxor.MacHelper.ProxyManager.Coverage.covered_iff` — the same, of every apply of a run.
* `Proxor.MacHelper.ProxyManager.Coverage.not_covered` — a service that becomes active later is not covered.
-/

namespace Proxor.MacHelper.ProxyManager.Coverage

open Resumption Text

variable {n : Network} {fails : Op → Bool}

/-! ### Capturing -/

/-- A service is named among the applied or the failed ones. -/
def Named (names : List String) (failed : List Err) (name : String) : Prop :=
  name ∈ names ∨ ∃ err, Err.wrap name err ∈ failed

lemma named_nil (name : String) : ¬Named [] [] name := by
  rintro (h | ⟨err, h⟩)
  · exact List.not_mem_nil h
  · exact List.not_mem_nil h

lemma named_cons {names : List String} {failed : List Err} {a name : String} :
    Named (a :: names) failed name ↔ name = a ∨ Named names failed name := by
  rw [Named, List.mem_cons, or_assoc, Named]

lemma named_cons_failed {names : List String} {failed : List Err} {a name : String} {err : Err} :
    Named names (.wrap a err :: failed) name ↔ name = a ∨ Named names failed name := by
  constructor
  · rintro (h | ⟨err', h⟩)
    · exact .inr (.inl h)
    · rcases List.mem_cons.1 h with h | h
      · exact .inl (Err.wrap.inj h).1
      · exact .inr (.inr ⟨err', h⟩)
  · rintro (rfl | h | ⟨err', h⟩)
    · exact .inr ⟨err, List.mem_cons_self⟩
    · exact .inl h
    · exact .inr ⟨err', List.mem_cons_of_mem _ h⟩

lemma named_append_failed {names : List String} {failed failed' : List Err} {name : String} :
    Named names (failed ++ failed') name ↔ Named [] failed name ∨ Named names failed' name := by
  constructor
  · rintro (h | ⟨err, h⟩)
    · exact .inr (.inl h)
    · rcases List.mem_append.1 h with h | h
      · exact .inl (.inr ⟨err, h⟩)
      · exact .inr (.inr ⟨err, h⟩)
  · rintro ((h | ⟨err, h⟩) | h | ⟨err, h⟩)
    · exact absurd h List.not_mem_nil
    · exact .inr ⟨err, List.mem_append_left _ h⟩
    · exact .inl h
    · exact .inr ⟨err, List.mem_append_right _ h⟩

/-- A snapshot is named like its service. -/
lemma name_snapshotService (name : String) : (snapshotService name).Returns fun r =>
    ∀ ss, r = .ok ss → ss.name = name := by
  have hany : ∀ {α : Type} (p : Act α), p.Returns fun _ => True := fun p => Prog.returns_true p
  unfold snapshotService
  refine (hany _).bind fun web _ => (hany _).bind fun secure _ => (hany _).bind fun socks _ =>
    (hany _).bind fun bypass _ => (hany _).bind fun auto _ => (hany _).bind fun autoDiscovery _ => ?_
  intro ss h
  obtain ⟨web, -, h⟩ := bind_eq_ok.1 h
  obtain ⟨secure, -, h⟩ := bind_eq_ok.1 h
  obtain ⟨socks, -, h⟩ := bind_eq_ok.1 h
  obtain ⟨bypass, -, h⟩ := bind_eq_ok.1 h
  obtain ⟨auto, -, h⟩ := bind_eq_ok.1 h
  obtain ⟨autoDiscovery, -, h⟩ := bind_eq_ok.1 h
  obtain rfl := pure_eq_ok.1 h
  rfl

/-- Every service that is looked at is recorded or fails. -/
lemma named_collect {services : List NetworkService} {f : NetworkService → Except Err ServiceSnapshot}
    (hf : ∀ s ss, f s = .ok ss → ss.name = s.name) (name : String) :
    Named ((collect services (services.map f)).1.map (·.name)) (collect services (services.map f)).2 name ↔
      name ∈ services.map (·.name) := by
  induction services with
  | nil => exact ⟨fun h => absurd h (named_nil name), fun h => absurd h List.not_mem_nil⟩
  | cons s services ih =>
    rw [List.map_cons, List.map_cons, List.mem_cons, ← ih]
    cases h : f s with
    | error err => exact named_cons_failed
    | ok ss =>
      rw [← hf s ss h]
      exact named_cons

/-- Every service that is applied succeeds or fails. -/
lemma named_applied (services : List ServiceSnapshot) (f : ServiceSnapshot → Option Err) (name : String) :
    Named (appliedNames services (services.map f)) (failedErrors services (services.map f)) name ↔
      name ∈ services.map (·.name) := by
  induction services with
  | nil => exact ⟨fun h => absurd h (named_nil name), fun h => absurd h List.not_mem_nil⟩
  | cons svc services ih =>
    rw [List.map_cons, List.map_cons, List.mem_cons, ← ih]
    cases h : f svc with
    | some err => exact named_cons_failed
    | none => exact named_cons

/-- A machine with an address is seen as active. -/
lemma parseHasIPv4_fmtInfo {name : String} (hactive : n.Active name) :
    parseHasIPv4 (n.fmtInfo name) = .ok true := by
  rw [Hardware.fmtInfo, hactive, if_neg Bool.false_ne_true]
  rfl

/-- The check of one service. -/
def activeThread (s : NetworkService) : Act Bool :=
  if !safeServiceName s.name then return true
  else do
    match ← run .capture false (.getInfo s.name) with
    | .error _ => return true
    | .ok out =>
      match parseHasIPv4 out with
      | .ok has => return has
      | .error _ => return true

lemma opsIn_activeThread {D : Op → Prop} (hD : ∀ args : Argv, args.target = none → D (.cmd .capture false args))
    (s : NetworkService) : (activeThread s).OpsIn D := by
  unfold activeThread
  split
  · trivial
  · refine (opsIn_run (hD _ rfl)).bind fun r => ?_
    split
    · trivial
    · split <;> trivial

lemma activeThread_run {s : NetworkService} (hactive : n.Active s.name) (w : World) :
    ((activeThread s).run (n.handler fails) w).1 = true := by
  unfold activeThread
  split_ifs with hsafe
  · rfl
  · rw [Prog.bind_eq, Prog.run_bind]
    cases hr : ((run .capture false (.getInfo s.name)).run (n.handler fails) w).1 with
    | error err => rfl
    | ok out =>
      obtain ⟨-, rfl⟩ := run_eq_ok rfl hr
      dsimp only
      rw [show n.output w.net (.getInfo s.name) = n.fmtInfo s.name from rfl, parseHasIPv4_fmtInfo hactive]
      rfl

/-- The services that are seen as active are some of the services, and those that are active are among
them. -/
lemma activeServices_run (sched : List ℕ) (services : List NetworkService) (w : World) :
    ((activeServices sched services).run (n.handler fails) w).2 = w ∧
      List.Sublist ((activeServices sched services).run (n.handler fails) w).1 services ∧
      ∀ s ∈ services, n.Active s.name → s ∈ ((activeServices sched services).run (n.handler fails) w).1 := by
  have hread : ∀ args : Argv, args.target = none →
      Prog.ReadOnly (n.handler fails) (.cmd .capture false args) :=
    fun _ ha => n.readOnly_cmd fails _ _ ha
  refine ⟨(opsIn_activeServices hread sched services).run_readOnly w,
    (returns_activeServices sched services).run w, ?_⟩
  have hthreads : ∀ t ∈ services.map activeThread, t.OpsIn (Prog.ReadOnly (n.handler fails)) := by
    intro t ht
    obtain ⟨s, -, rfl⟩ := List.mem_map.1 ht
    exact opsIn_activeThread hread s
  have hflags : (Prog.par sched (services.map activeThread)).run (n.handler fails) w =
      (services.map fun s => ((activeThread s).run (n.handler fails) w).1, w) := by
    rw [Prog.run_par_readOnly hthreads, List.map_map]
    rfl
  have hrun : ((activeServices sched services).run (n.handler fails) w).1 =
      services.filter fun s => ((activeThread s).run (n.handler fails) w).1 := by
    have hbind : activeServices sched services = (Prog.par sched (services.map activeThread)).bind fun active =>
        .ret (((services.zip active).filter fun p => p.2).map fun p => p.1) := rfl
    rw [hbind, Prog.run_bind, hflags]
    exact map_fst_filter_zip_map services (fun s => ((activeThread s).run (n.handler fails) w).1) id
  intro s hs hactive
  rw [hrun]
  exact List.mem_filter.2 ⟨hs, activeThread_run hactive w⟩

/-! ### What a capture names -/

/-- What the listing of all services printed, when it is no error. -/
lemma allListing_eq_ok {hw : Hardware} {phase : Phase} {retry : Bool} {out : String} {w : World}
    (h : ((run phase retry .listAllNetworkServices).run (hw.handler fails) w).1 = .ok out) :
    out = hw.fmtAllServices := by
  cases hf : fails (.cmd phase retry .listAllNetworkServices) with
  | true =>
    obtain ⟨err, hrun⟩ := @run_of_fails hw _ _ _ _ hf w
    simp [hrun] at h
  | false =>
    rw [run, Prog.run_op, Hardware.handler_cmd_of_not_fails hf] at h
    dsimp only [Hardware.exec, Argv.service] at h
    split at h
    · exact (Except.ok.inj h).symm
    · exact absurd h (by simp)

/-- **A capture** changes nothing. It records services of the network, each once, and of those with an
address it names the ones that the listings show as eligible.

**Proof sketch.** Every command of it is a listing or a getter. The listings are read back
(`Network.mem_eligibleServices`), a service with an address is among those that are looked at, and each of
these is recorded or fails. -/
theorem capture_named (schedActive schedSnapshot : List ℕ) (w : World) :
    ((capture schedActive schedSnapshot).run (n.handler fails) w).2 = w ∧
      ∀ snap failed,
        ((capture schedActive schedSnapshot).run (n.handler fails) w).1 = .ok (snap, failed) →
        Targets n.toHardware snap.services ∧
          ∀ name, n.Active name → (Named (snap.services.map (·.name)) failed name ↔
            name ∈ n.order ∧ n.disabled name = false ∧ n.device name ≠ "" ∧ ¬n.Starred name) := by
  have hlist : ∀ {args : Argv}, args.target = none →
      ((run .capture false args).run (n.handler fails) w).2 = w :=
    fun ha => (opsIn_run (n.readOnly_cmd fails _ _ ha)).run_readOnly w
  have hread : ∀ args : Argv, args.target = none →
      Prog.ReadOnly (n.handler fails) (.cmd .capture false args) :=
    fun _ ha => n.readOnly_cmd fails _ _ ha
  unfold capture
  rw [Prog.bind_eq, Prog.run_bind, hlist rfl]
  cases horder : ((run .capture false .listNetworkServiceOrder).run (n.handler fails) w).1 with
  | error err => exact ⟨rfl, by simp⟩
  | ok orderOut =>
  dsimp only
  cases hparse : parseServiceOrder orderOut with
  | error err => exact ⟨rfl, by simp⟩
  | ok order =>
  dsimp only
  rw [Prog.bind_eq, Prog.run_bind, hlist rfl]
  cases hall : ((run .capture false .listAllNetworkServices).run (n.handler fails) w).1 with
  | error err => exact ⟨rfl, by simp⟩
  | ok allOut =>
  dsimp only
  cases hparseAll : parseAllServices allOut with
  | error err => exact ⟨rfl, by simp⟩
  | ok all =>
  dsimp only
  split
  · exact ⟨rfl, by simp⟩
  obtain rfl := listing_eq_ok horder
  obtain rfl := allListing_eq_ok hall
  have hlisted := n.eq_listed hparse
  obtain ⟨hstate, hsub, hseen⟩ :=
    @activeServices_run n fails schedActive (eligibleServices order all) w
  rw [Prog.bind_eq, Prog.run_bind, hstate]
  set active := ((activeServices schedActive (eligibleServices order all)).run (n.handler fails) w).1
  split
  · exact ⟨rfl, by simp⟩
  rw [Prog.bind_eq, Prog.run_bind, forEachService, Prog.run_par_readOnly fun t ht => by
    obtain ⟨s, -, rfl⟩ := List.mem_map.1 ht
    exact opsIn_snapshotThread hread s]
  rw [List.map_map]
  set result : NetworkService → Except Err ServiceSnapshot := fun s =>
    ((if !safeServiceName s.name then .ret (.error (.text "unsafe service name"))
      else snapshotService s.name : Act (Except Err ServiceSnapshot)).run (n.handler fails) w).1
    with hresult
  have hone : ∀ s ss, result s = .ok ss → ss.name = s.name := by
    intro s ss hs
    rw [hresult] at hs
    dsimp only at hs
    split at hs
    · exact absurd hs (by simp)
    · exact (name_snapshotService s.name).run w ss hs
  have hmap : active.map ((fun t => (Prog.run (n.handler fails) t w).1) ∘ fun s =>
      (if !safeServiceName s.name then .ret (.error (.text "unsafe service name"))
        else snapshotService s.name : Act (Except Err ServiceSnapshot))) = active.map result := rfl
  rw [Prog.pure_eq, hmap]
  have hnamed := fun name => @named_collect active result hone name
  have hnames := @map_name_collect_sublist active result hone
  cases hc : collect active (active.map result) with
  | mk services failed =>
  rw [hc] at hnamed hnames
  dsimp only at hnamed hnames ⊢
  split
  · exact ⟨rfl, by simp⟩
  refine ⟨rfl, fun snap failed' h => ?_⟩
  obtain ⟨rfl, rfl⟩ := Prod.mk.inj (Except.ok.inj h)
  have hservices : List.Sublist (services.map (·.name)) n.order :=
    (hnames.trans (hsub.map _)).trans (Network.eligibleServices_sublist hlisted)
  refine ⟨⟨hservices.nodup n.order_nodup, fun svc hsvc =>
    hservices.subset (List.mem_map_of_mem hsvc)⟩, fun name hactive => ?_⟩
  rw [hnamed name, ← Network.mem_eligibleServices hparse hparseAll name]
  constructor
  · intro hname
    exact (hsub.map (·.name)).subset hname
  · intro hname
    obtain ⟨s, hs, rfl⟩ := List.mem_map.1 hname
    exact List.mem_map_of_mem (hseen s hs hactive)

/-! ### Being at the proxy -/

/-- Settings that lead to the proxy at a port of this machine, but for the destinations of a list. -/
structure AtProxy (port : ℤ) (list : List String) (st : Settings) : Prop where
  proxy : ∀ kind, st.proxy kind = { enabled := true, server := "127.0.0.1", port }
  bypass : st.bypass = list

section AtProxy

variable {svc : ServiceSnapshot} {port : ℤ} {list : List String}

/-- What a command of an apply does to one of the proxies. -/
lemma proxy_effect_servicePlan {args : Argv} (ha : args ∈ servicePlan svc port list) (kind : ProxyKind)
    (st : Settings) : (args.effect st).proxy kind =
      if args = .setProxy kind svc.name "127.0.0.1" port then
        { enabled := true, server := "127.0.0.1", port }
      else st.proxy kind := by
  have hproxy : ∀ kind', ((Argv.setProxy kind' svc.name "127.0.0.1" port).effect st).proxy kind =
      if Argv.setProxy kind' svc.name "127.0.0.1" port = .setProxy kind svc.name "127.0.0.1" port then
        { enabled := true, server := "127.0.0.1", port }
      else st.proxy kind := by
    intro kind'
    by_cases h : kind' = kind
    · rw [h, if_pos rfl]
      cases kind <;> rfl
    · rw [if_neg fun heq => h (Argv.setProxy.inj heq).1]
      cases kind' <;> cases kind <;> first | rfl | exact absurd rfl h
  simp only [servicePlan, applyPlan, List.flatMap_cons, List.flatMap_nil, List.append_nil,
    List.mem_append, List.mem_cons, List.not_mem_nil, or_false] at ha
  rcases ha with ((rfl | rfl | rfl | rfl) | ha) | ha
  · exact hproxy .web
  · exact hproxy .secure
  · exact hproxy .socks
  · rw [if_neg (by simp)]
    cases kind <;> rfl
  · split at ha
    · obtain rfl := List.mem_singleton.1 ha
      rw [if_neg (by simp)]
      cases kind <;> rfl
    · simp at ha
  · split at ha
    · obtain rfl := List.mem_singleton.1 ha
      rw [if_neg (by simp)]
      cases kind <;> rfl
    · simp at ha

/-- A proxy after commands of an apply: set, when its command was among them. -/
lemma proxy_effects_servicePlan (kind : ProxyKind) {done : List Argv}
    (hd : ∀ args ∈ done, args ∈ servicePlan svc port list) (st : Settings) :
    (effects done st).proxy kind =
      if .setProxy kind svc.name "127.0.0.1" port ∈ done then
        { enabled := true, server := "127.0.0.1", port }
      else st.proxy kind := by
  induction done generalizing st with
  | nil => simp
  | cons args done ih =>
    rw [effects_cons, ih fun a ha => hd a (by simp [ha]),
      proxy_effect_servicePlan (hd args (by simp))]
    by_cases h : .setProxy kind svc.name "127.0.0.1" port ∈ done
    · simp [h]
    · by_cases he : args = .setProxy kind svc.name "127.0.0.1" port
      · simp [he]
      · simp [h, he, Ne.symm he]

/-- A service that did not fail is at the proxy, with the list as it is written. -/
lemma atProxy_effects_applyDone (h : applyFails fails svc port list = false) (st : Settings) :
    AtProxy port (writtenBypass list) (effects (applyDone fails svc port list) st) := by
  constructor
  · intro kind
    have hplan : .setProxy kind svc.name "127.0.0.1" port ∈ servicePlan svc port list := by
      cases kind <;> simp [servicePlan, applyPlan]
    rw [proxy_effects_servicePlan kind fun a ha => mem_servicePlan_of_mem_applyDone _ _ _ _ ha,
      if_pos (mem_applyDone_of_not_applyFails h hplan)]
  · rw [bypass_effects_applyDone, if_pos (writesBypass_of_not_applyFails h)]

/-- The list that is written is the one that is given, unless that stands for none. -/
lemma writtenBypass_eq_iff : writtenBypass list = list ↔ list ≠ ["Empty"] := by
  unfold writtenBypass
  split_ifs with h
  · rw [h]
    decide
  · exact ⟨fun _ => h, fun _ => rfl⟩

end AtProxy

/-! ### What an apply returns -/

/-- **Applying a snapshot** without an error tells how each of its services went, and leaves each where its
commands put it.

**Proof sketch.** The snapshot is saved and some service succeeds, or there is an error; the services are
`applyServices_run`, and the second save changes no settings. -/
lemma applySnapshot_of_err_none {hw : Hardware} (sched : Schedule) (current : Option Snapshot)
    (wasApplied : Bool) {snap : Snapshot} (ht : Targets hw snap.services) (failed : List Err) (port : ℤ)
    (list : List String) (w : World) {res : ApplyResult × Option Snapshot} {w' : World}
    (h : (applySnapshot sched current wasApplied snap failed port list).run (hw.handler fails) w = (res, w'))
    (hok : res.1.err = none) :
    let results := snap.services.map fun svc => applyResult fails svc port list
    res.1.applied = appliedNames snap.services results ∧
      res.1.failed = failed ++ failedErrors snap.services results ∧
      (∃ svc ∈ snap.services, applyFails fails svc port list = false) ∧
      w'.net = netApplied fails snap.services port list w.net := by
  have hempty := @isEmpty_appliedNames fails snap.services port list
  unfold applySnapshot at h
  simp only [Prog.bind_eq, Prog.pure_eq, Prog.run_bind, save_run] at h
  by_cases hsave : fails (.replaceStore false
      { applied := true, port, services := snap.services, appliedBypass := some list }) = true
  · -- nothing is recorded: an error
    simp only [if_pos hsave] at h
    obtain ⟨rfl, -⟩ := Prod.mk.inj h
    exact absurd hok (by simp)
  simp only [if_neg hsave] at h
  rw [Prog.run_bind, applyServices_run ht.nodup ht.mem] at h
  dsimp only at h
  rw [hempty] at h
  by_cases hall : (snap.services.all fun svc => applyFails fails svc port list) = true
  · -- every service failed: an error
    rw [if_pos hall] at h
    cases wasApplied with
    | true =>
      rw [if_pos rfl] at h
      obtain ⟨rfl, -⟩ := Prod.mk.inj h
      exact absurd hok (by simp)
    | false =>
      rw [if_neg Bool.false_ne_true, Prog.run_bind, Prog.run_bind] at h
      obtain ⟨rfl, -⟩ := Prod.mk.inj h
      exact absurd hok (by simp)
  rw [if_neg hall] at h
  have hex : ∃ svc ∈ snap.services, applyFails fails svc port list = false := by
    simpa using hall
  split at h
  · rw [Prog.run_bind, save_run] at h
    obtain ⟨rfl, rfl⟩ := Prod.mk.inj h
    refine ⟨rfl, rfl, hex, ?_⟩
    split <;> rfl
  · obtain ⟨rfl, rfl⟩ := Prod.mk.inj h
    exact ⟨rfl, rfl, hex, rfl⟩

/-! ### Covering the active services -/

/-- What an apply returns in a state. -/
def returned (hw : Hardware) (c : ApplyCall) (s : State) : ApplyResult :=
  ((apply c.sched s.current c.port c.bypass).run (hw.handler c.fails) s.world).1.1

/-- After the apply every eligible service with an address is named as applied or as failed, and the applied
ones are at the proxy. -/
structure Covers (hw : Hardware) (c : ApplyCall) (s : State) : Prop where
  named : ∀ name, hw.Eligible name → hw.Active name →
    Named (returned hw c s).applied (returned hw c s).failed name
  atProxy : ∀ name ∈ (returned hw c s).applied, AtProxy c.port c.list ((c.step hw s).world.net name)

/-- The bypass list is no word for none, and every eligible service with an address is in the snapshot that is
held or, if none is, is not shown like a disabled one. -/
structure Ready (hw : Hardware) (c : ApplyCall) (s : State) : Prop where
  list : c.list ≠ ["Empty"]
  services : ∀ name, hw.Eligible name → hw.Active name →
    match s.current with
    | some snap => name ∈ snap.services.map (·.name)
    | none => ¬hw.Starred name

/-- The snapshot that is held is applied, and of services of the network. -/
def Held (hw : Hardware) (current : Option Snapshot) : Prop :=
  ∀ snap, current = some snap → snap.applied = true ∧ Targets hw snap.services

section Apply

variable {c : ApplyCall} {s : State}

/-- The names of the services that are applied. -/
lemma appliedNames_map (services : List ServiceSnapshot) (f : ServiceSnapshot → Option Err) :
    appliedNames services (services.map f) = (services.filter fun svc => (f svc).isNone).map (·.name) := by
  rw [← map_fst_filter_zip_map services f fun r => r.isNone, List.map_map]
  rfl

/-- Being named, by the two lists. -/
lemma named_iff {names : List String} {failed : List Err} {name : String} :
    Named names failed name ↔ name ∈ names ∨ Named [] failed name := by
  constructor
  · rintro (h | h)
    · exact .inl h
    · exact .inr (.inr h)
  · rintro (h | h | h)
    · exact .inl h
    · exact absurd h List.not_mem_nil
    · exact .inr h

/-- **An apply of a snapshot** covers the services that are in the snapshot or failed before, provided that the
list is no word for none. -/
lemma covers_iff_of_applySnapshot {hw : Hardware} {wasApplied : Bool} {snap : Snapshot} {failed : List Err}
    (ht : Targets hw snap.services)
    (hrun : (apply c.sched s.current c.port c.bypass).run (hw.handler c.fails) s.world =
      (applySnapshot c.sched s.current wasApplied snap failed c.port c.list).run (hw.handler c.fails) s.world)
    (hok : (returned hw c s).err = none) :
    Covers hw c s ↔ c.list ≠ ["Empty"] ∧ ∀ name, hw.Eligible name → hw.Active name →
      Named (snap.services.map (·.name)) failed name := by
  obtain ⟨⟨res, w'⟩, hr⟩ : ∃ r, (applySnapshot c.sched s.current wasApplied snap failed c.port c.list).run
      (hw.handler c.fails) s.world = r := ⟨_, rfl⟩
  have hreturned : returned hw c s = res.1 := by rw [returned, hrun, hr]
  obtain ⟨happlied, hfailed, ⟨svc₀, hsvc₀, hgood₀⟩, hnet⟩ := applySnapshot_of_err_none c.sched s.current
    wasApplied ht failed c.port c.list s.world hr (hreturned ▸ hok)
  have hstep : (c.step hw s).world.net = netApplied c.fails snap.services c.port c.list s.world.net := by
    rw [ApplyCall.step, State.after, hrun, hr]
    exact hnet
  have hat : ∀ svc ∈ snap.services, applyFails c.fails svc c.port c.list = false →
      AtProxy c.port (writtenBypass c.list) ((c.step hw s).world.net svc.name) := by
    intro svc hsvc hgood
    rw [hstep, netApplied, onServices_of_mem ht.nodup hsvc]
    exact atProxy_effects_applyDone hgood _
  have hgood : ∀ svc, (applyResult c.fails svc c.port c.list).isNone = !applyFails c.fails svc c.port c.list := by
    intro svc
    rw [← isSome_applyResult, Option.not_isSome]
  have hmem : ∀ name, name ∈ (returned hw c s).applied ↔
      ∃ svc ∈ snap.services, applyFails c.fails svc c.port c.list = false ∧ svc.name = name := by
    intro name
    rw [hreturned, happlied, appliedNames_map, List.mem_map]
    constructor
    · rintro ⟨svc, hsvc, rfl⟩
      obtain ⟨hsvc, hnone⟩ := List.mem_filter.1 hsvc
      exact ⟨svc, hsvc, by rwa [hgood, Bool.not_eq_true'] at hnone, rfl⟩
    · rintro ⟨svc, hsvc, hnone, rfl⟩
      exact ⟨svc, List.mem_filter.2 ⟨hsvc, by rw [hgood, hnone]; rfl⟩, rfl⟩
  have hnamed : ∀ name, Named (returned hw c s).applied (returned hw c s).failed name ↔
      Named (snap.services.map (·.name)) failed name := by
    intro name
    rw [hreturned, happlied, hfailed, named_append_failed, named_applied, Or.comm, ← named_iff]
  constructor
  · intro h
    refine ⟨fun hempty => ?_, fun name heligible hactive => (hnamed name).1 (h.named name heligible hactive)⟩
    have hlist := (h.atProxy svc₀.name ((hmem _).2 ⟨svc₀, hsvc₀, hgood₀, rfl⟩)).bypass
    rw [(hat svc₀ hsvc₀ hgood₀).bypass] at hlist
    exact writtenBypass_eq_iff.1 hlist hempty
  · rintro ⟨hlist, hservices⟩
    refine ⟨fun name heligible hactive => (hnamed name).2 (hservices name heligible hactive), ?_⟩
    intro name hname
    obtain ⟨svc, hsvc, hnone, rfl⟩ := (hmem name).1 hname
    rw [← writtenBypass_eq_iff.2 hlist]
    exact hat svc hsvc hnone

/-- An apply whose arguments fail their checks returns an error. -/
lemma accepted_of_err_none {hw : Hardware} (hok : (returned hw c s).err = none) : c.Accepted := by
  by_contra hacc
  unfold returned apply at hok
  by_cases hport : c.port < 1 ∨ 65535 < c.port
  · rw [if_pos hport] at hok
    exact absurd hok (by simp)
  · rw [if_neg hport] at hok
    have hlist : ¬ (validateBypass c.list).isOk = true := fun hl => hacc ⟨hport, hl⟩
    unfold ApplyCall.list at hlist
    dsimp only at hok
    cases hv : validateBypass (if c.bypass.length = 0 then defaultBypass else c.bypass) with
    | error err =>
      rw [hv] at hok
      exact absurd hok (by simp)
    | ok u => exact absurd (by rw [hv]; rfl) hlist

/-- An apply whose arguments pass their checks works from the snapshot that is applied, or captures one. -/
lemma apply_of_accepted (hacc : c.Accepted) (current : Option Snapshot) :
    apply c.sched current c.port c.bypass =
      match current.filter (·.applied) with
      | some snap => applySnapshot c.sched current true snap [] c.port c.list
      | none => (capture c.sched.active c.sched.snapshot).bind fun r =>
        match r with
        | .error (failed, err) => .ret ({ failed, err := some err }, current)
        | .ok (snap, failed) => applySnapshot c.sched current false snap failed c.port c.list := by
  obtain ⟨hport, hlist⟩ := hacc
  unfold apply
  rw [if_neg hport]
  unfold ApplyCall.list at hlist ⊢
  dsimp only
  cases hv : validateBypass (if c.bypass.length = 0 then defaultBypass else c.bypass) with
  | error err =>
    rw [hv] at hlist
    exact absurd hlist (by simp [Except.isOk, Except.toBool])
  | ok u => rfl

/-- **An apply without error** covers the services exactly when it is ready for them.

**Proof sketch.** With a snapshot held, the services are those of the snapshot. Without one, they are those that
the capture records or names as failed (`capture_named`). -/
theorem covers_iff (hs : Held n.toHardware s.current) (hok : (returned n.toHardware c s).err = none) :
    Covers n.toHardware c s ↔ Ready n.toHardware c s := by
  have hacc := accepted_of_err_none hok
  have heq := apply_of_accepted hacc s.current
  cases hc : s.current with
  | some snap =>
    obtain ⟨happ, ht⟩ := hs snap hc
    have hfilter : s.current.filter (·.applied) = some snap := by
      rw [hc]
      exact Option.filter_eq_some_iff.2 ⟨rfl, happ⟩
    rw [hfilter] at heq
    rw [covers_iff_of_applySnapshot ht (by rw [heq]) hok]
    have hnamed : ∀ name, Named (snap.services.map (·.name)) [] name ↔ name ∈ snap.services.map (·.name) := by
      intro name
      rw [named_iff]
      exact or_iff_left (named_nil name)
    constructor
    · rintro ⟨hlist, hservices⟩
      refine ⟨hlist, fun name heligible hactive => ?_⟩
      rw [hc]
      exact (hnamed name).1 (hservices name heligible hactive)
    · intro h
      refine ⟨h.list, fun name heligible hactive => (hnamed name).2 ?_⟩
      have hmem := h.services name heligible hactive
      rwa [hc] at hmem
  | none =>
    have hfilter : s.current.filter (·.applied) = none := by rw [hc]; rfl
    rw [hfilter] at heq
    obtain ⟨hstate, hcapture⟩ := @capture_named n c.fails c.sched.active c.sched.snapshot s.world
    have hrun := congrArg (fun p => Prog.run (n.handler c.fails) p s.world) heq
    dsimp only at hrun
    rw [Prog.run_bind, hstate] at hrun
    cases hcap : ((capture c.sched.active c.sched.snapshot).run (n.handler c.fails) s.world).1 with
    | error e =>
      rw [hcap] at hrun
      unfold returned at hok
      rw [hrun] at hok
      exact absurd hok (by simp)
    | ok r =>
      obtain ⟨snap, failed⟩ := r
      obtain ⟨ht, hnamed⟩ := hcapture snap failed hcap
      rw [hcap] at hrun
      rw [covers_iff_of_applySnapshot ht hrun hok]
      constructor
      · rintro ⟨hlist, hservices⟩
        refine ⟨hlist, fun name heligible hactive => ?_⟩
        rw [hc]
        exact ((hnamed name hactive).1 (hservices name heligible hactive)).2.2.2
      · intro h
        refine ⟨h.list, fun name heligible hactive => ?_⟩
        have hstarred := h.services name heligible hactive
        rw [hc] at hstarred
        exact (hnamed name hactive).2 ⟨heligible.mem, heligible.enabled, heligible.device, hstarred⟩

end Apply

/-! ### Runs -/

/-- The network while other services have no address. -/
def withIP (n : Network) (noIP : String → Bool) : Network := { n with noIP }

/-- A call of the manager, with the services that have no address when it is made. -/
inductive Call
  | apply (noIP : String → Bool) (c : ApplyCall)
  | restore (noIP : String → Bool) (sched : Schedule) (fails : Op → Bool)

/-- The state after a call. -/
def Call.step (n : Network) : Call → State → State
  | apply noIP c, s => c.step (withIP n noIP).toHardware s
  | restore noIP sched fails, s =>
    State.after (withIP n noIP).toHardware fails (ProxyManager.restore sched s.current) s.world

/-- A property of every apply of a run that returns no error, in the state it is made in. -/
def AtApplies (P : Hardware → ApplyCall → State → Prop) (n : Network) : List Call → State → Prop
  | [], _ => True
  | .apply noIP c :: calls, s =>
    ((returned (withIP n noIP).toHardware c s).err = none → P (withIP n noIP).toHardware c s) ∧
      AtApplies P n calls ((Call.apply noIP c).step n s)
  | .restore noIP sched fails :: calls, s => AtApplies P n calls ((Call.restore noIP sched fails).step n s)

/-- An apply keeps what is held applied, and of services of the network. -/
lemma held_apply {c : ApplyCall} {s : State} (hs : Held n.toHardware s.current) :
    Held n.toHardware (c.step n.toHardware s).current := by
  have houtcome : ∀ wasApplied snap, Targets n.toHardware snap.services →
      Held n.toHardware (applyOutcome c.fails s wasApplied snap c.port c.list).current := by
    intro wasApplied snap ht
    unfold applyOutcome
    dsimp only
    split
    · exact hs
    split
    · split
      · exact fun _ h => Option.some.inj h ▸ ⟨rfl, ht⟩
      · exact fun _ h => absurd h (by simp)
    split
    · exact fun _ h => Option.some.inj h ▸ ⟨rfl, ht⟩
    · exact fun _ h => Option.some.inj h ▸ ⟨rfl, ht⟩
  by_cases hacc : c.Accepted
  swap
  · rwa [ApplyCall.step_of_not_accepted n.toHardware hacc]
  rw [ApplyCall.step, apply_of_accepted hacc]
  cases hc : s.current with
  | some snap =>
    obtain ⟨happ, ht⟩ := hs snap hc
    rw [Option.filter_eq_some_iff.2 ⟨rfl, happ⟩]
    dsimp only
    rw [← hc, applySnapshot_run c.sched s true ht]
    exact houtcome true snap ht
  | none =>
    obtain ⟨hstate, hcapture⟩ := @capture_named n c.fails c.sched.active c.sched.snapshot s.world
    rw [Option.filter_none]
    dsimp only
    rw [State.after_bind, hstate]
    cases hcap : ((capture c.sched.active c.sched.snapshot).run (n.handler c.fails) s.world).1 with
    | error e => exact fun _ h => absurd h (by simp [State.after])
    | ok r =>
      obtain ⟨ht, -⟩ := hcapture r.1 r.2 hcap
      dsimp only
      rw [← hc, applySnapshot_run c.sched s false ht]
      exact houtcome false r.1 ht

/-- So does a restore: the services that remain were held before. -/
lemma held_restore {s : State} (hs : Held n.toHardware s.current) (sched : Schedule) (fails : Op → Bool) :
    Held n.toHardware (State.after n.toHardware fails (ProxyManager.restore sched s.current) s.world).current := by
  rw [restore_run sched s fun snap hsnap => (hs snap hsnap).2]
  cases hc : s.current with
  | none => exact fun _ h => absurd (hc.symm.trans h) (by simp)
  | some snap =>
    dsimp only
    unfold restoreOutcome
    dsimp only
    split
    · exact fun _ h => absurd h (by simp)
    · exact fun _ h => Option.some.inj h ▸ ⟨rfl, (hs snap hc).2.filter _⟩

/-- What is held does not depend on the addresses. -/
lemma held_withIP {noIP : String → Bool} {current : Option Snapshot} :
    Held (withIP n noIP).toHardware current ↔ Held n.toHardware current := by
  constructor
  · exact fun h snap hsnap => ⟨(h snap hsnap).1, (h snap hsnap).2.nodup, (h snap hsnap).2.mem⟩
  · exact fun h snap hsnap => ⟨(h snap hsnap).1, (h snap hsnap).2.nodup, (h snap hsnap).2.mem⟩

/-- Every call keeps what is held applied, and of services of the network. -/
lemma Call.held_step {s : State} (hs : Held n.toHardware s.current) (call : Call) :
    Held n.toHardware (call.step n s).current := by
  cases call with
  | apply noIP c => exact held_withIP.1 (held_apply (held_withIP.2 hs))
  | restore noIP sched fails => exact held_withIP.1 (held_restore (held_withIP.2 hs) sched fails)

/-- The applies of a run cover the services exactly when they are ready for them, from every state in which
what is held is applied. -/
lemma atApplies_covers_iff {calls : List Call} {s : State} (hs : Held n.toHardware s.current) :
    AtApplies Covers n calls s ↔ AtApplies Ready n calls s := by
  induction calls generalizing s with
  | nil => exact Iff.rfl
  | cons call calls ih =>
    have hrest := ih (call.held_step hs)
    cases call with
    | apply noIP c =>
      have hone : ((returned (withIP n noIP).toHardware c s).err = none →
          Covers (withIP n noIP).toHardware c s) ↔
          ((returned (withIP n noIP).toHardware c s).err = none → Ready (withIP n noIP).toHardware c s) :=
        forall_congr' fun hok => covers_iff (held_withIP.2 hs) hok
      exact and_congr hone hrest
    | restore noIP sched fails => exact hrest

/-- **Coverage.** In every run of applies and restores on a new manager, whatever fails and whichever services
have an address at each call, the applies that return no error cover the services exactly when each is ready:
what a later apply covers is decided by the snapshot that is held.

**Proof sketch.** One apply is `covers_iff`; every call keeps what is held applied. -/
theorem covered_iff (n : Network) (w : World) (calls : List Call) :
    AtApplies Covers n calls ⟨none, w⟩ ↔ AtApplies Ready n calls ⟨none, w⟩ :=
  atApplies_covers_iff fun _ h => absurd h (by simp)

/-! ### A service that becomes active later -/

/-- A machine with two services. -/
def desk : Network where
  order := ["Wi-Fi", "Ethernet"]
  device name := if name = "Wi-Fi" then "en0" else "en1"
  disabled _ := false
  noIP _ := false
  order_nodup := by decide
  order_length := by decide
  order_line := by
    intro name hname
    simp only [List.mem_cons, List.not_mem_nil, or_false] at hname
    rcases hname with rfl | rfl
    · refine ⟨by decide, by decide, fun c hc => ?_⟩
      have hlast : "Wi-Fi".toList.getLast? = some 'i' := rfl
      obtain rfl := Option.some.inj (hlast.symm.trans hc)
      decide
    · refine ⟨by decide, by decide, fun c hc => ?_⟩
      have hlast : "Ethernet".toList.getLast? = some 't' := rfl
      obtain rfl := Option.some.inj (hlast.symm.trans hc)
      decide
  device_word := by
    intro name hname
    simp only [List.mem_cons, List.not_mem_nil, or_false] at hname
    rcases hname with rfl | rfl
    · exact List.all_iff_forall_prop.1 (by decide)
    · exact List.all_iff_forall_prop.1 (by decide)

/-- The settings before the first call. -/
def deskWorld : World := ⟨laptop.net, .absent⟩

/-- Two applies in which nothing fails; at the first one the second service has no address. -/
def deskCalls : List Call :=
  [.apply (fun name => name == "Ethernet") laptopCall, .apply (fun _ => false) laptopCall]

/-- The second apply works from the snapshot of the first one, and does not touch the service that has become
active. -/
theorem not_covered : ¬AtApplies Covers desk deskCalls ⟨none, deskWorld⟩ := by
  intro h
  obtain ⟨-, h, -⟩ := h
  have hok : (returned (withIP desk fun _ => false).toHardware laptopCall
      ((Call.apply (fun name => name == "Ethernet") laptopCall).step desk ⟨none, deskWorld⟩)).err.isNone = true := by
    decide +kernel
  have hnamed := (h (Option.isNone_iff_eq_none.1 hok)).named "Ethernet"
    ⟨by decide, rfl, by decide, by decide⟩ rfl
  have happlied : (returned (withIP desk fun _ => false).toHardware laptopCall
      ((Call.apply (fun name => name == "Ethernet") laptopCall).step desk ⟨none, deskWorld⟩)).applied =
        ["Wi-Fi"] := by
    decide +kernel
  have hfailed : (returned (withIP desk fun _ => false).toHardware laptopCall
      ((Call.apply (fun name => name == "Ethernet") laptopCall).step desk ⟨none, deskWorld⟩)).failed.isEmpty =
        true := by
    decide +kernel
  rw [happlied, List.isEmpty_iff.1 hfailed, named_iff] at hnamed
  rcases hnamed with hname | hname
  · exact absurd hname (by decide)
  · exact named_nil _ hname

end Proxor.MacHelper.ProxyManager.Coverage
