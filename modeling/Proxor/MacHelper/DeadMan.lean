import Proxor.MacHelper.EventRouting

set_option relaxedAutoImplicit false
set_option autoImplicit false

/-!
# The dead-man switch

While stops and restores succeed, whatever runs is owned by a connection that still exists: so when
the last connection ends, or the helper shuts down, nothing is left running.

## Main definitions

* `Proxor.MacHelper.stopsWell`, `Proxor.MacHelper.silentWhileRunning` — what is assumed of the
  backends.
* `Proxor.MacHelper.Helper.Sound` — what holds at every step.
* `Proxor.MacHelper.Helper.Guarded` — what holds between requests.
* `Proxor.MacHelper.DeadManSwitch` — what the helper promises.

## Main results

* `Proxor.MacHelper.dead_man_switch` — it keeps it.

## Design

Every handler has an outline: an assertion before each of its operations, which no interference
breaks. The assertions are conjunctions of `Sound` and of a few facts of which each handler gives up
one (that the running Tun has an owner, say) and re-establishes it.
-/

namespace Proxor.MacHelper

open Resumption

/-! ### The proxy backend -/

namespace ProxyManager

/-- `Applied`: a snapshot is current and marked applied. -/
def isApplied (current : Option Snapshot) : Bool := current.any (·.applied)

variable {σ : Type} (h : Handler Op Op.Res σ)

/-- Applying a snapshot leaves the proxy applied, or as it was and reports an error. -/
lemma isApplied_applySnapshot (sched : Schedule) {current : Option Snapshot} {wasApplied : Bool}
    (hwas : isApplied current = wasApplied) (snap : Snapshot) (failed : List Err) (port : ℤ)
    (bypass : List String) (s : σ) :
    let r := ((applySnapshot sched current wasApplied snap failed port bypass).run h s).1
    isApplied r.2 = (r.1.err.isNone || isApplied current) := by
  unfold applySnapshot
  simp only [Prog.bind_eq, Prog.pure_eq, Prog.run_bind]
  split
  · rfl
  · simp only [Prog.run_bind]
    split
    · cases wasApplied with
      | true => simpa [isApplied] using hwas
      | false => simpa [isApplied] using hwas
    · split <;> rfl

/-- **An apply** leaves the proxy applied, or as it was and reports an error. -/
theorem isApplied_apply (sched : Schedule) (current : Option Snapshot) (port : ℤ)
    (bypass : List String) (s : σ) :
    let r := ((apply sched current port bypass).run h s).1
    isApplied r.2 = (r.1.err.isNone || isApplied current) := by
  unfold apply
  generalize (if bypass.length = 0 then defaultBypass else bypass) = bypass
  dsimp only
  split
  · rfl
  split
  · rfl
  split
  · rename_i snap hfilter
    refine isApplied_applySnapshot h sched ?_ snap [] port bypass s
    obtain ⟨rfl, happ⟩ := Option.filter_eq_some_iff.1 hfilter
    exact happ
  · rename_i hfilter
    have hnot : isApplied current = false := by
      cases current with
      | none => rfl
      | some snap => simpa [isApplied] using hfilter
    rw [Prog.bind_eq, Prog.run_bind]
    split
    · rfl
    · exact isApplied_applySnapshot h sched hnot _ _ port bypass _

/-- **A restore that succeeds** leaves the proxy not applied. -/
theorem isApplied_restore (sched : Schedule) (current : Option Snapshot) (s : σ) :
    let r := ((restore sched current).run h s).1
    r.1 = none → isApplied r.2 = false := by
  cases current with
  | none => exact fun _ => rfl
  | some snap =>
    simp only [restore, finishRestore, Prog.bind_eq, Prog.run_bind]
    split
    · simp only [Prog.run_bind]
      split <;> simp [isApplied]
    · simp

end ProxyManager

/-! ### Assumptions -/

/-- Every `Stop` and every `Restore` succeeds. -/
def stopsWell : (o : ServerOp) → o.Res → Prop
  | .tunStop, r => r = none
  | .proxyRestore, r => r = none
  | _, _ => True

/-- The newest instance does not report that it stopped while Tun is reported as running. -/
def silentWhileRunning (s : Helper) (k : ℕ) (ev : Event) : Prop :=
  ev.event = .tunStopped → k + 1 = s.instances.length → s.running = false

/-- The helper under these assumptions. -/
abbrev wellBehaved (available : Bool) :
    Monitor ServerOp ServerOp.Res Section Helper (Option Response) :=
  helper available stopsWell silentWhileRunning

/-! ### Assertions -/

namespace Helper

/-- What holds at every step: owners are live; events are of instances that exist; the newest instance
is the only one that can be of the current generation; and if that one has reported that it stopped,
Tun is not running. -/
structure Sound (s : Helper) : Prop where
  tunLive : ∀ lease, s.table.tunOwner = some lease → s.Live lease
  proxyLive : ∀ lease, s.table.proxyOwner = some lease → s.Live lease
  emitted : ∀ k ev, (k, ev) ∈ s.pending → k < s.instances.length
  newest : ∀ k inst, s.instances[k]? = some inst →
    inst.gen ≤ s.table.tunGen ∧ (inst.gen = s.table.tunGen → k + 1 = s.instances.length)
  reported : ∀ k ev inst, (k, ev) ∈ s.pending → ev.event = .tunStopped →
    s.instances[k]? = some inst → inst.gen = s.table.tunGen → s.running = false

/-- A running Tun has an owner. -/
def TunOwned (s : Helper) : Prop := s.running = true → s.table.tunOwner ≠ none

/-- An applied proxy has an owner. -/
def ProxyOwned (s : Helper) : Prop := s.applied = true → s.table.proxyOwner ≠ none

/-- Neither Tun nor proxy is on. -/
def Off (s : Helper) : Prop := s.running = false ∧ s.applied = false

/-- A helper that is down has nothing on. -/
def Quiet (s : Helper) : Prop := s.down = true → s.Off

/-- No instance is of the current generation. -/
def Fresh (s : Helper) : Prop := ∀ inst ∈ s.instances, inst.gen < s.table.tunGen

/-- What holds between requests. -/
structure Guarded (s : Helper) : Prop where
  sound : s.Sound
  tun : s.TunOwned
  proxy : s.ProxyOwned
  quiet : s.Quiet

/-! ### Interference -/

/-- What interference can change: more leases, Tun not running, and no owner of a Tun that is not
running. -/
structure Drift (s s' : Helper) : Prop where
  down : s'.down = s.down
  applied : s'.applied = s.applied
  released : s'.released = s.released
  instances : s'.instances = s.instances
  nextID : s.table.nextID ≤ s'.table.nextID
  tunGen : s'.table.tunGen = s.table.tunGen
  proxyOwner : s'.table.proxyOwner = s.table.proxyOwner
  running : s.running = false → s'.running = false
  tunOwner : s'.table.tunOwner = s.table.tunOwner ∨
    s'.table.tunOwner = none ∧ s'.running = false ∧ ¬ s.Fresh

/-- Interference with a sound state. -/
lemma Sound.drift {s s' : Helper} (hs : s.Sound) (h : Interferes silentWhileRunning s s') :
    s.Drift s' := by
  cases h with
  | hello =>
    exact ⟨rfl, rfl, rfl, rfl, Nat.le_succ _, rfl, rfl, id, .inl rfl⟩
  | ends => exact ⟨rfl, rfl, rfl, rfl, le_rfl, rfl, rfl, fun _ => rfl, .inl rfl⟩
  | emit | deliver => exact ⟨rfl, rfl, rfl, rfl, le_rfl, rfl, rfl, id, .inl rfl⟩
  | route k inst ev hev hk =>
    unfold route LeaseTable.route
    dsimp only
    split
    · -- the event ends the ownership of its lease
      rename_i h
      obtain ⟨hgen, hstop, howner⟩ := h
      refine ⟨rfl, rfl, rfl, rfl, le_rfl, rfl, rfl, id, .inr ⟨rfl, ?_, fun hfresh => ?_⟩⟩
      · exact hs.reported k ev inst hev hstop hk hgen.symm
      · exact (hfresh inst (List.mem_of_getElem? hk)).ne hgen.symm
    · exact ⟨rfl, rfl, rfl, rfl, le_rfl, rfl, rfl, id, .inl rfl⟩

lemma Live.drift {s s' : Helper} (h : s.Drift s') {lease : ℕ} (hl : s.Live lease) :
    s'.Live lease :=
  ⟨hl.1, hl.2.1.trans h.nextID, by rw [h.released]; exact hl.2.2⟩

/-- Interference keeps a state sound. -/
lemma Sound.interferes {s s' : Helper} (hs : s.Sound) (h : Interferes silentWhileRunning s s') :
    s'.Sound := by
  have hd := hs.drift h
  have hnewest : ∀ k inst, s'.instances[k]? = some inst →
      inst.gen ≤ s'.table.tunGen ∧ (inst.gen = s'.table.tunGen → k + 1 = s'.instances.length) := by
    rw [hd.instances, hd.tunGen]
    exact hs.newest
  refine ⟨fun lease hl => ?_, fun lease hl => ?_, fun k ev hev => ?_, hnewest, ?_⟩
  · rcases hd.tunOwner with heq | ⟨heq, -, -⟩
    · exact (hs.tunLive lease (heq ▸ hl)).drift hd
    · rw [heq] at hl
      exact absurd hl (by simp)
  · exact (hs.proxyLive lease (hd.proxyOwner ▸ hl)).drift hd
  · rw [hd.instances]
    cases h with
    | hello | deliver | ends => exact hs.emitted k ev hev
    | emit k' ev' hk' hmay =>
      rcases List.mem_cons.1 hev with heq | hev
      · rw [(Prod.mk.inj heq).1]
        exact hk'
      · exact hs.emitted k ev hev
    | route => exact hs.emitted k ev (List.mem_of_mem_erase hev)
  · intro k ev inst hev hstop hk hgen
    have hold : (k, ev) ∈ s.pending → s'.running = false := fun hev =>
      hd.running (hs.reported k ev inst hev hstop (hd.instances ▸ hk) (hd.tunGen ▸ hgen))
    cases h with
    | hello | deliver => exact hold hev
    | ends => rfl
    | emit k' ev' hk' hmay =>
      rcases List.mem_cons.1 hev with heq | hev
      · -- the event is emitted now, and its instance is the newest
        obtain ⟨rfl, rfl⟩ := Prod.mk.inj heq
        exact hmay hstop ((hnewest k inst hk).2 hgen)
      · exact hold hev
    | route => exact hold (List.mem_of_mem_erase hev)

lemma TunOwned.drift {s s' : Helper} (h : s.Drift s') (ht : s.TunOwned) : s'.TunOwned := by
  intro hrun
  have hrun' : s.running = true := by
    by_contra hoff
    exact absurd (h.running (Bool.eq_false_iff.2 hoff)) (by simp [hrun])
  rcases h.tunOwner with heq | ⟨-, hoff, -⟩
  · rw [heq]
    exact ht hrun'
  · exact absurd hoff (by simp [hrun])

lemma ProxyOwned.drift {s s' : Helper} (h : s.Drift s') (hp : s.ProxyOwned) : s'.ProxyOwned := by
  unfold ProxyOwned
  rw [h.applied, h.proxyOwner]
  exact hp

lemma Off.drift {s s' : Helper} (h : s.Drift s') (hoff : s.Off) : s'.Off :=
  ⟨h.running hoff.1, h.applied.trans hoff.2⟩

lemma Quiet.drift {s s' : Helper} (h : s.Drift s') (hq : s.Quiet) : s'.Quiet :=
  fun hdown => (hq (h.down ▸ hdown)).drift h

lemma Fresh.drift {s s' : Helper} (h : s.Drift s') (hf : s.Fresh) : s'.Fresh := by
  unfold Fresh
  rw [h.instances, h.tunGen]
  exact hf

/-! ### Operations -/

/-- What keeps a state sound: the instances and what they have reported stay, the generation is not
lowered, and owners are live. -/
lemma Sound.of_owners {s s' : Helper} (hs : s.Sound) (hinst : s'.instances = s.instances)
    (hpend : s'.pending = s.pending) (hrun : s.running = false → s'.running = false)
    (hgen : s.table.tunGen ≤ s'.table.tunGen)
    (htun : ∀ lease, s'.table.tunOwner = some lease → s'.Live lease)
    (hproxy : ∀ lease, s'.table.proxyOwner = some lease → s'.Live lease) : s'.Sound := by
  refine ⟨htun, hproxy, ?_, ?_, ?_⟩
  · rw [hinst, hpend]
    exact hs.emitted
  · rw [hinst]
    intro k inst hk
    obtain ⟨hle, hnew⟩ := hs.newest k inst hk
    exact ⟨hle.trans hgen, fun heq => hnew (le_antisymm hle (heq ▸ hgen))⟩
  · rw [hinst, hpend]
    intro k ev inst hev hstop hk heq
    have hle := (hs.newest k inst hk).1
    exact hrun (hs.reported k ev inst hev hstop hk (le_antisymm hle (heq ▸ hgen)))

lemma Sound.setRunning {s : Helper} (hs : s.Sound) : Sound { s with running := false } :=
  hs.of_owners rfl rfl (fun _ => rfl) le_rfl hs.tunLive hs.proxyLive

lemma Sound.setApplied {s : Helper} (hs : s.Sound) (applied : Bool) :
    Sound { s with applied } :=
  hs.of_owners rfl rfl id le_rfl hs.tunLive hs.proxyLive

lemma Sound.setDown {s : Helper} (hs : s.Sound) : Sound { s with down := true } :=
  hs.of_owners rfl rfl id le_rfl hs.tunLive hs.proxyLive

lemma Sound.takeTun {s : Helper} (hs : s.Sound) : Sound { s with table := s.table.takeTun.2 } :=
  hs.of_owners rfl rfl id (Nat.le_succ _) (fun _ h => absurd h (by simp [LeaseTable.takeTun]))
    hs.proxyLive

/-- Whatever exists when the Tun is taken is of an older generation. -/
lemma Sound.fresh_takeTun {s : Helper} (hs : s.Sound) :
    Fresh { s with table := s.table.takeTun.2 } := by
  intro inst hinst
  obtain ⟨k, hk, rfl⟩ := List.getElem_of_mem hinst
  exact Nat.lt_succ_of_le (hs.newest k _ (List.getElem?_eq_getElem hk)).1

lemma Sound.claimTun {s : Helper} (hs : s.Sound) {lease : ℕ} (hl : s.Live lease) :
    Sound { s with table := (s.table.claimTun lease).2 } :=
  hs.of_owners rfl rfl id le_rfl (fun _ h => Option.some.inj h ▸ hl) hs.proxyLive

lemma Sound.clearTun {s : Helper} (hs : s.Sound) : Sound { s with table := s.table.clearTun } :=
  hs.of_owners rfl rfl id le_rfl (fun _ h => absurd h (by simp [LeaseTable.clearTun])) hs.proxyLive

lemma Sound.dropTun {s : Helper} (hs : s.Sound) (lease : ℕ) :
    Sound { s with table := s.table.dropTun lease } := by
  unfold LeaseTable.dropTun
  split
  · exact hs.clearTun
  · exact hs

lemma Sound.setProxyOwner {s : Helper} (hs : s.Sound) {owner : Option ℕ}
    (hl : ∀ lease, owner = some lease → s.Live lease) :
    Sound { s with table := { s.table with proxyOwner := owner } } :=
  hs.of_owners rfl rfl id le_rfl hs.tunLive hl

/-- The new instance is the only one of the current generation. -/
lemma Sound.tunStart {s : Helper} (hs : s.Sound) (hf : s.Fresh) (lease : ℕ) (running : Bool) :
    Sound { s with running, instances := s.instances ++ [⟨lease, s.table.tunGen⟩] } := by
  have hold : ∀ k inst, (s.instances ++ [⟨lease, s.table.tunGen⟩])[k]? = some inst →
      s.instances[k]? = some inst ∧ inst.gen < s.table.tunGen ∨
        k = s.instances.length ∧ inst.gen = s.table.tunGen := by
    intro k inst hk
    rcases lt_or_ge k s.instances.length with hlt | hge
    · rw [List.getElem?_append_left hlt] at hk
      exact .inl ⟨hk, hf inst (List.mem_of_getElem? hk)⟩
    · rw [List.getElem?_append_right hge, List.getElem?_singleton] at hk
      split at hk
      · rename_i hzero
        exact .inr ⟨by omega, by rw [← Option.some.inj hk]⟩
      · exact absurd hk (by simp)
  refine ⟨hs.tunLive, hs.proxyLive, fun k ev hev => ?_, ?_, ?_⟩
  · rw [List.length_append]
    exact Nat.lt_add_right _ (hs.emitted k ev hev)
  · intro k inst hk
    rcases hold k inst hk with ⟨-, hlt⟩ | ⟨rfl, heq⟩
    · exact ⟨hlt.le, fun heq => absurd heq hlt.ne⟩
    · exact ⟨heq.le, fun _ => by simp⟩
  · intro k ev inst hev hstop hk heq
    rcases hold k inst hk with ⟨-, hlt⟩ | ⟨rfl, -⟩
    · exact absurd heq hlt.ne
    · exact absurd (hs.emitted _ ev hev) (lt_irrefl _)

/-- A release leaves no owner that is not live. -/
lemma Sound.release {s : Helper} (hs : s.Sound) (lease : ℕ) :
    Sound { s with table := (s.table.release lease).2, released := insert lease s.released } := by
  have hlive : ∀ l, s.Live l → l ≠ lease →
      Live { s with table := (s.table.release lease).2, released := insert lease s.released } l := by
    rintro l ⟨h1, h2, h3⟩ hne
    refine ⟨h1, ?_, by simp [hne, h3]⟩
    unfold LeaseTable.release
    dsimp only
    split_ifs <;> exact h2
  refine hs.of_owners rfl rfl id ?_ (fun l hl => hlive l (hs.tunLive l ?_) ?_)
    fun l hl => hlive l (hs.proxyLive l ?_) ?_
  · dsimp only
    rw [LeaseTable.release_tunGen]
    split
    · exact Nat.le_succ _
    · exact le_rfl
  all_goals
    unfold LeaseTable.release at hl
    dsimp only at hl
    split_ifs at hl <;> grind

end Helper

/-- A sound state with a fact that no drift breaks. -/
lemma stable_of_drift {available : Bool} {A : Helper → Prop}
    (hA : ∀ s s', s.Drift s' → A s → A s') :
    (wellBehaved available).Stable fun s => s.Sound ∧ A s :=
  fun _ _ he hs => ⟨hs.1.interferes he, hA _ _ (hs.1.drift he) hs.2⟩

/-- What holds between requests is stable. -/
lemma stable_guarded {available : Bool} : (wellBehaved available).Stable Helper.Guarded :=
  fun _ _ he hs =>
    have hd := hs.sound.drift he
    ⟨hs.sound.interferes he, hs.tun.drift hd, hs.proxy.drift hd, hs.quiet.drift hd⟩

/-! ### Outlines of the handlers -/

/-- Nothing is started once the helper is down. -/
def allowed : ServerOp → Helper → Prop
  | .tunStart .., s => s.down = false
  | .proxyApply .., s => s.down = false
  | _, _ => True

section Outlines

variable {available : Bool} {A : Helper → Prop}

/-- Whether there is something to stop. -/
lemma outline_tunHeld (hA : ∀ s s', s.Drift s' → A s → A s') (prev : Option ℕ) {s : Helper}
    (hs : s.Sound) (ha : A s) :
    (wellBehaved available).Outline allowed
      (fun held s => s.Sound ∧ A s ∧ (held = false → s.running = false))
      (Server.tunHeld prev) s := by
  unfold Server.tunHeld
  split
  · exact ⟨hs, ha, by simp⟩
  · refine Monitor.outline_op _ (stable_of_drift hA) ⟨hs, ha⟩ (fun _ _ => trivial) ?_
    rintro s r s' ⟨hs, ha⟩ ⟨⟨hr, rfl⟩, -⟩
    exact ⟨hs, ha, fun h => hr ▸ h⟩

/-- Stopping what is held. -/
lemma outline_stopHeld (hA : ∀ s s', s.Drift s' → A s → A s')
    (hstop : ∀ s, A s → A { s with running := false }) (held : Bool) {s : Helper}
    (hs : s.Sound) (ha : A s) :
    (wellBehaved available).Outline allowed
      (fun err s => s.Sound ∧ A s ∧ (held = true → s.running = false) ∧ err = none)
      (Server.stopHeld held) s := by
  unfold Server.stopHeld
  split
  · refine Monitor.outline_op _ (stable_of_drift hA) ⟨hs, ha⟩ (fun _ _ => trivial) ?_
    rintro s r s' ⟨hs, ha⟩ ⟨⟨running, hrun, rfl⟩, hr⟩
    obtain rfl := hrun hr
    exact ⟨hs.setRunning, hstop s ha, fun _ => rfl, hr⟩
  · rename_i h
    exact ⟨hs, ha, fun h' => absurd h' h, rfl⟩

/-- Stopping whatever runs. -/
lemma outline_stopAny (hA : ∀ s s', s.Drift s' → A s → A s')
    (hstop : ∀ s, A s → A { s with running := false }) (prev : Option ℕ) {β : Type}
    {Q : β → Helper → Prop} {f : Bool → Option Err → ServerAct β} {s : Helper} (hs : s.Sound)
    (ha : A s) (hf : ∀ held s, s.Sound → A s → s.running = false →
      (wellBehaved available).Outline allowed Q (f held none) s) :
    (wellBehaved available).Outline allowed Q
      ((Server.tunHeld prev).bind fun held => (Server.stopHeld held).bind fun err => f held err)
      s := by
  refine Monitor.Outline.bind (outline_tunHeld hA prev hs ha) fun held s ⟨hs, ha, hheld⟩ => ?_
  refine Monitor.Outline.bind
    (outline_stopHeld (A := fun s => A s ∧ (held = false → s.running = false)) ?_ ?_ held hs
      ⟨ha, hheld⟩) fun err s ⟨hs, ⟨ha, hnot⟩, hyes, herr⟩ => ?_
  · exact fun s s' hd ⟨ha, h⟩ => ⟨hA s s' hd ha, fun hf => hd.running (h hf)⟩
  · exact fun s ⟨ha, h⟩ => ⟨hstop s ha, fun _ => rfl⟩
  · rw [herr]
    refine hf held s hs ha ?_
    cases held with
    | true => exact hyes rfl
    | false => exact hnot rfl

/-- Nothing is on in the end. -/
lemma Helper.Sound.guarded_of_off {s : Helper} (hs : s.Sound) (hoff : s.Off) : s.Guarded :=
  ⟨hs, fun h => absurd h (by simp [hoff.1]), fun h => absurd h (by simp [hoff.2]), fun _ => hoff⟩

/-- **The teardown** turns everything off, from any sound state, and leaves the flag alone. -/
lemma outline_teardown {s : Helper} (hs : s.Sound) (D : Bool → Prop) (hD : D s.down) :
    (wellBehaved available).Outline allowed (fun _ s => s.Sound ∧ s.Off ∧ D s.down)
      Server.teardownLocked s := by
  have hDown : ∀ s s' : Helper, s.Drift s' → D s.down → D s'.down := fun s s' hd h => hd.down ▸ h
  refine Monitor.outline_op _ (stable_of_drift hDown) ⟨hs, hD⟩ (fun _ _ => trivial) ?_
  rintro s prev s' ⟨hs, hD⟩ ⟨⟨-, rfl⟩, -⟩
  refine outline_stopAny hDown (fun _ h => h) prev hs.takeTun hD fun held s hs hD hrun => ?_
  refine Monitor.outline_op (fun s => s.Sound ∧ s.running = false ∧ D s.down)
    (stable_of_drift fun s s' hd h => ⟨hd.running h.1, hDown s s' hd h.2⟩) ⟨hs, hrun, hD⟩
    (fun _ _ => trivial) ?_
  rintro s err s' ⟨hs, hrun, hD⟩ ⟨⟨applied, happ, rfl⟩, herr⟩
  obtain rfl : err = none := herr
  obtain rfl := happ rfl
  refine Monitor.outline_op (fun s => s.Sound ∧ s.Off ∧ D s.down)
    (stable_of_drift fun s s' hd h => ⟨h.1.drift hd, hDown s s' hd h.2⟩)
    ⟨hs.setApplied false, ⟨hrun, rfl⟩, hD⟩ (fun _ _ => trivial) ?_
  rintro s _ s' ⟨hs, hoff, hD⟩ ⟨ho, -⟩
  obtain rfl : s' = _ := ho
  exact ⟨hs.setProxyOwner (by simp), hoff, hD⟩

/-- **`tun_start`.** -/
lemma outline_tunStart (lease : ℕ) (id : ℤ) (config : String) (socksPort : ℤ) {s : Helper}
    (hs : s.Guarded) (hl : s.Live lease) :
    (wellBehaved available).Outline allowed (fun _ => Helper.Guarded)
      (Server.tunStart lease id config socksPort) s := by
  unfold Server.tunStart
  split
  · exact hs
  split
  · exact hs
  refine Monitor.outline_op (fun s => s.Guarded ∧ s.Live lease)
    (fun s s' he h => ⟨stable_guarded s s' he h.1, h.2.drift (h.1.sound.drift he)⟩) ⟨hs, hl⟩
    (fun _ _ => trivial) ?_
  rintro s down s' ⟨hs, hl⟩ ⟨⟨hdown, rfl⟩, -⟩
  split
  · exact hs
  rename_i hup
  have hup : s'.down = false := by rw [← hdown]; exact Bool.eq_false_iff.2 hup
  -- the proxy is left alone; the helper is up and the lease is live
  let Rest : Helper → Prop := fun s => s.ProxyOwned ∧ s.down = false ∧ s.Live lease
  have hRest : ∀ s s', s.Drift s' → Rest s → Rest s' := fun s s' hd ⟨hp, hdown, hl⟩ =>
    ⟨hp.drift hd, hd.down.trans hdown, hl.drift hd⟩
  refine Monitor.outline_op (fun s => s.Sound ∧ Rest s) (stable_of_drift hRest)
    ⟨hs.sound, hs.proxy, hup, hl⟩ (fun _ _ => trivial) ?_
  rintro s prev s' ⟨hs, hrest⟩ ⟨⟨-, rfl⟩, -⟩
  have hFresh : ∀ s s', s.Drift s' → (s.Fresh ∧ Rest s) → (s'.Fresh ∧ Rest s') :=
    fun s s' hd h => ⟨h.1.drift hd, hRest s s' hd h.2⟩
  refine outline_stopAny (A := fun s => s.Fresh ∧ Rest s) hFresh (fun _ h => h) prev hs.takeTun
    ⟨hs.fresh_takeTun, hrest⟩ fun held s hs ha hrun => ?_
  have hIdle : ∀ s s', s.Drift s' → (s.running = false ∧ s.Fresh ∧ Rest s) →
      (s'.running = false ∧ s'.Fresh ∧ Rest s') :=
    fun s s' hd h => ⟨hd.running h.1, hFresh s s' hd h.2⟩
  refine Monitor.Outline.bind (R := fun _ s => s.Sound ∧ s.running = false ∧ s.Fresh ∧ Rest s) ?_
    fun _ s h => ?_
  · -- a previous owner is told
    have hwrite : (Server.notifyPrev lease prev).OpsIn fun o => ∃ l ev, o = .write l ev :=
      Server.opsIn_notifyPrev (fun l ev => ⟨l, ev, rfl⟩) lease prev
    split
    · refine Monitor.outline_of_opsIn (stable_of_drift hIdle) (hwrite.mono ?_) ⟨hs, hrun, ha⟩
      rintro o ⟨l, ev, rfl⟩
      refine ⟨fun _ _ => trivial, ?_⟩
      rintro s _ s' ⟨ho, -⟩ ⟨hs, h⟩
      obtain rfl : s' = _ := ho
      exact ⟨hs.of_owners rfl rfl (fun h => h) le_rfl hs.tunLive hs.proxyLive, h⟩
    · exact ⟨hs, hrun, ha⟩
  refine Monitor.outline_op _ (stable_of_drift hIdle) h (fun _ _ => trivial) ?_
  rintro s gen s' ⟨hs, hrun, hf, hp, hdown, hl⟩ ⟨⟨hgen, rfl⟩, -⟩
  -- the Tun is claimed, which no interference undoes as long as nothing is of its generation
  refine Monitor.outline_op (fun s => s.Sound ∧ s.Fresh ∧ s.table.tunGen = gen ∧
      s.table.tunOwner = some lease ∧ s.ProxyOwned ∧ s.down = false) (stable_of_drift ?_)
    ⟨hs.claimTun hl, hf, hgen.symm, rfl, hp, hdown⟩
    (fun s h => show s.down = false from h.2.2.2.2.2) ?_
  · rintro s s' hd ⟨hf, hgen, howner, hp, hdown⟩
    refine ⟨hf.drift hd, hd.tunGen.trans hgen, ?_, hp.drift hd, hd.down.trans hdown⟩
    rcases hd.tunOwner with heq | ⟨-, -, hnot⟩
    · exact heq.trans howner
    · exact absurd hf hnot
  rintro s err s' ⟨hs, hf, hgen, howner, hp, hdown⟩ ⟨ho, -⟩
  obtain rfl : s' = _ := ho
  subst hgen
  have hstarted := hs.tunStart hf lease err.isNone
  have hquiet : Helper.Quiet { s with
      running := err.isNone, instances := s.instances ++ [⟨lease, s.table.tunGen⟩] } :=
    fun h => absurd h (by simp [hdown])
  cases err with
  | none => exact ⟨hstarted, fun _ => by simp [howner], hp, hquiet⟩
  | some err =>
    refine Monitor.outline_op
      (fun s => s.Sound ∧ s.running = false ∧ s.ProxyOwned ∧ s.down = false) (stable_of_drift ?_)
      ⟨hstarted, rfl, hp, hdown⟩ (fun _ _ => trivial) ?_
    · rintro s s' hd ⟨hrun, hp, hdown⟩
      exact ⟨hd.running hrun, hp.drift hd, hd.down.trans hdown⟩
    rintro s _ s' ⟨hs, hrun, hp, hdown⟩ ⟨ho, -⟩
    obtain rfl : s' = _ := ho
    refine ⟨hs.dropTun lease, fun h => absurd h (by simp [hrun]), ?_,
      fun h => absurd h (by simp [hdown])⟩
    have howner : (s.table.dropTun lease).proxyOwner = s.table.proxyOwner := by
      unfold LeaseTable.dropTun
      split <;> rfl
    intro happ
    rw [howner]
    exact hp happ

/-- **`tun_stop`**, by any connection. -/
lemma outline_tunStop (id : ℤ) {s : Helper} (hs : s.Guarded) :
    (wellBehaved available).Outline allowed (fun _ => Helper.Guarded) (Server.tunStop id) s := by
  refine Monitor.outline_op _ stable_guarded hs (fun _ _ => trivial) ?_
  rintro s err s' hs ⟨⟨running, hrun, rfl⟩, herr⟩
  obtain rfl : err = none := herr
  obtain rfl := hrun rfl
  refine Monitor.outline_op (fun s => s.Sound ∧ s.running = false ∧ s.ProxyOwned ∧ s.Quiet)
    (stable_of_drift ?_) ⟨hs.sound.setRunning, rfl, hs.proxy, fun h => ⟨rfl, (hs.quiet h).2⟩⟩
    (fun _ _ => trivial) ?_
  · rintro s s' hd ⟨hrun, hp, hq⟩
    exact ⟨hd.running hrun, hp.drift hd, hq.drift hd⟩
  rintro s _ s' ⟨hs, hrun, hp, hq⟩ ⟨ho, -⟩
  obtain rfl : s' = _ := ho
  exact ⟨hs.clearTun, fun h => absurd h (by simp [hrun]), hp, hq⟩

/-- **`sysproxy_apply`.** -/
lemma outline_sysproxyApply (lease : ℕ) (id port : ℤ) (bypass : List String) {s : Helper}
    (hs : s.Guarded) (hl : s.Live lease) :
    (wellBehaved available).Outline allowed (fun _ => Helper.Guarded)
      (Server.sysproxyApply lease id port bypass) s := by
  unfold Server.sysproxyApply
  split
  · exact hs
  split
  · exact hs
  refine Monitor.outline_op (fun s => s.Guarded ∧ s.Live lease)
    (fun s s' he h => ⟨stable_guarded s s' he h.1, h.2.drift (h.1.sound.drift he)⟩) ⟨hs, hl⟩
    (fun _ _ => trivial) ?_
  rintro s down s' ⟨hs, hl⟩ ⟨⟨hdown, rfl⟩, -⟩
  split
  · exact hs
  rename_i hup
  have hup : s'.down = false := by rw [← hdown]; exact Bool.eq_false_iff.2 hup
  refine Monitor.outline_op (fun s => s.Guarded ∧ s.Live lease ∧ s.down = false)
    (fun s s' he h => ⟨stable_guarded s s' he h.1, h.2.1.drift (h.1.sound.drift he),
      (h.1.sound.drift he).down.trans h.2.2⟩) ⟨hs, hl, hup⟩
    (fun s h => show s.down = false from h.2.2) ?_
  rintro s res s' ⟨hs, hl, hdown⟩ ⟨ho, -⟩
  obtain rfl : s' = _ := ho
  cases herr : res.err with
  | some err =>
    dsimp only
    exact ⟨hs.sound.setApplied _, hs.tun, hs.proxy, fun h => absurd h (by simp [hdown])⟩
  | none =>
    dsimp only
    refine Monitor.outline_op (fun s => s.Sound ∧ s.TunOwned ∧ s.Live lease ∧ s.down = false)
      (stable_of_drift ?_) ⟨hs.sound.setApplied _, hs.tun, hl, hdown⟩ (fun _ _ => trivial) ?_
    · rintro s s' hd ⟨ht, hl, hdown⟩
      exact ⟨ht.drift hd, hl.drift hd, hd.down.trans hdown⟩
    rintro s _ s' ⟨hs, ht, hl, hdown⟩ ⟨ho, -⟩
    obtain rfl : s' = _ := ho
    exact ⟨hs.setProxyOwner fun l h => Option.some.inj h ▸ hl, ht, fun _ => by simp,
      fun h => absurd h (by simp [hdown])⟩

/-- **`sysproxy_restore`**, by any connection. -/
lemma outline_sysproxyRestore (id : ℤ) {s : Helper} (hs : s.Guarded) :
    (wellBehaved available).Outline allowed (fun _ => Helper.Guarded) (Server.sysproxyRestore id)
      s := by
  refine Monitor.outline_op _ stable_guarded hs (fun _ _ => trivial) ?_
  rintro s err s' hs ⟨⟨applied, happ, rfl⟩, herr⟩
  obtain rfl : err = none := herr
  obtain rfl := happ rfl
  refine Monitor.outline_op (fun s => s.Sound ∧ s.applied = false ∧ s.TunOwned ∧ s.Quiet)
    (stable_of_drift ?_) ⟨hs.sound.setApplied false, rfl, hs.tun, fun h => ⟨(hs.quiet h).1, rfl⟩⟩
    (fun _ _ => trivial) ?_
  · rintro s s' hd ⟨happ, ht, hq⟩
    exact ⟨hd.applied.trans happ, ht.drift hd, hq.drift hd⟩
  rintro s _ s' ⟨hs, happ, ht, hq⟩ ⟨ho, -⟩
  obtain rfl : s' = _ := ho
  exact ⟨hs.setProxyOwner (by simp), ht, fun h => absurd h (by simp [happ]), hq⟩

/-- Taking the helper down once everything is off. -/
lemma outline_setDown {β : Type} (b : β) {s : Helper} (hs : s.Sound) (hoff : s.Off) :
    (wellBehaved available).Outline allowed (fun _ s => s.Guarded ∧ s.down = true)
      (.op .setDown fun _ => .ret b) s := by
  refine Monitor.outline_op (fun s => s.Sound ∧ s.Off) (stable_of_drift fun _ _ hd h => h.drift hd)
    ⟨hs, hoff⟩ (fun _ _ => trivial) ?_
  rintro s _ s' ⟨hs, hoff⟩ ⟨ho, -⟩
  obtain rfl : s' = _ := ho
  exact ⟨hs.setDown.guarded_of_off hoff, rfl⟩

/-- **`uninstall`** takes the helper down when it succeeds. -/
lemma outline_uninstall (id : ℤ) {s : Helper} (hs : s.Guarded) :
    (wellBehaved available).Outline allowed
      (fun resp s => s.Guarded ∧ (resp.ok = true → s.down = true))
      (Server.uninstall available id) s := by
  unfold Server.uninstall
  split
  · exact ⟨hs, fun h => absurd h (by simp [Server.failure])⟩
  refine Monitor.Outline.bind (outline_teardown hs.sound (fun _ => True) trivial)
    fun err s ⟨hs, hoff, _⟩ => ?_
  cases err with
  | some err => exact ⟨hs.guarded_of_off hoff, fun h => absurd h (by simp [Server.failure])⟩
  | none => exact (outline_setDown _ hs hoff).mono fun _ s h => ⟨h.1, fun _ => h.2⟩

/-- **`Shutdown`** takes the helper down before it tears everything down. -/
lemma outline_shutdown {s : Helper} (hs : s.Guarded) :
    (wellBehaved available).Outline allowed (fun _ s => s.Guarded ∧ s.down = true)
      Server.shutdown s := by
  refine Monitor.outline_op _ stable_guarded hs (fun _ _ => trivial) ?_
  rintro s _ s' hs ⟨ho, -⟩
  obtain rfl : s' = _ := ho
  refine Monitor.Outline.bind (outline_teardown hs.sound.setDown (fun down => down = true) rfl)
    fun err s ⟨hs, hoff, hdown⟩ => ?_
  exact ⟨hs.guarded_of_off hoff, hdown⟩

/-- **The release of a lease** turns off what it owns. -/
lemma outline_releaseLocked (lease : ℕ) {s : Helper} (hs : s.Guarded) :
    (wellBehaved available).Outline allowed (fun _ => Helper.Guarded) (Server.releaseLocked lease)
      s := by
  refine Monitor.outline_op _ stable_guarded hs (fun _ _ => trivial) ?_
  rintro s owned s' hs ⟨⟨howned, rfl⟩, -⟩
  -- what the lease does not own still has its owner
  let Rest : Helper → Prop := fun s =>
    (owned.1 = false → s.TunOwned) ∧ (owned.2 = false → s.ProxyOwned) ∧ s.Quiet
  have hRest : ∀ s s', s.Drift s' → Rest s → Rest s' := by
    rintro s s' hd ⟨ht, hp, hq⟩
    exact ⟨fun h => (ht h).drift hd, fun h => (hp h).drift hd, hq.drift hd⟩
  have hStop : ∀ s, Rest s → Rest { s with running := false } := by
    rintro s ⟨ht, hp, hq⟩
    exact ⟨fun _ h => absurd h (by simp), hp, fun h => ⟨rfl, (hq h).2⟩⟩
  have hrest : Rest { s with
      table := (s.table.release lease).2, released := insert lease s.released } := by
    refine ⟨fun h hrun => ?_, fun h happ => ?_, hs.quiet⟩
    · have := hs.tun hrun
      simp only [howned, LeaseTable.release] at h ⊢
      split_ifs <;> simp_all
    · have := hs.proxy happ
      simp only [howned, LeaseTable.release] at h ⊢
      split_ifs <;> simp_all
  refine Monitor.Outline.bind (outline_stopHeld hRest hStop owned.1 (hs.sound.release lease) hrest) ?_
  rintro err s ⟨hs, ⟨ht, hp, hq⟩, hrun, -⟩
  have htun : s.TunOwned := by
    cases howns : owned.1 with
    | true => exact fun h => absurd h (by simp [hrun howns])
    | false => exact ht howns
  split
  · refine Monitor.outline_op (fun s => s.Sound ∧ s.TunOwned ∧ s.Quiet) (stable_of_drift ?_)
      ⟨hs, htun, hq⟩ (fun _ _ => trivial) ?_
    · rintro s s' hd ⟨ht, hq⟩
      exact ⟨ht.drift hd, hq.drift hd⟩
    rintro s err s' ⟨hs, ht, hq⟩ ⟨⟨applied, happ, rfl⟩, herr⟩
    obtain rfl : err = none := herr
    obtain rfl := happ rfl
    exact ⟨hs.setApplied false, ht, fun h => absurd h (by simp), fun h => ⟨(hq h).1, rfl⟩⟩
  · rename_i howns
    exact ⟨hs, htun, hp (Bool.eq_false_iff.2 howns), hq⟩

end Outlines

/-! ### The switch -/

/-- A section after which the helper is down: `Shutdown`, and an `uninstall` that succeeded. -/
def Section.Closes : Section → Option Response → Prop
  | .shutdown, _ => True
  | .request _ (.uninstall _), some resp => resp.ok = true
  | _, _ => False

/-- What the dead-man switch promises, in every run from the start.

* `tun`, `proxy`: between requests, a running Tun and an applied proxy are owned by a lease of a
  connection whose release has not run.
* `abandoned`: once every lease there is has been released, nothing is on.
* `closed`: once a `Shutdown` or a successful `uninstall` has ended, nothing is ever on again.
* `refused`: once the helper is down no request starts anything, also one that was waiting. -/
structure DeadManSwitch (M : Monitor ServerOp ServerOp.Res Section Helper (Option Response)) :
    Prop where
  tun : ∀ c, M.Reaches HelperConfig.start c → c.holder = none → c.state.running = true →
    ∃ lease, c.state.table.tunOwner = some lease ∧ c.state.Live lease
  proxy : ∀ c, M.Reaches HelperConfig.start c → c.holder = none → c.state.applied = true →
    ∃ lease, c.state.table.proxyOwner = some lease ∧ c.state.Live lease
  abandoned : ∀ c, M.Reaches HelperConfig.start c → c.holder = none →
    (∀ lease, 1 ≤ lease → lease ≤ c.state.table.nextID → lease ∈ c.state.released) → c.state.Off
  closed : ∀ c sect reply c', M.Reaches HelperConfig.start c →
    c.holder = some (sect, .ret reply) → sect.Closes reply → M.Step c (.leave sect) c' →
    ∀ c'', M.Reaches c' c'' → c''.state.Off
  refused : ∀ c sect o c', M.Reaches HelperConfig.start c → M.Step c (.op sect o) c' →
    c.state.down = true → (∀ lease gen config socksPort, o ≠ .tunStart lease gen config socksPort) ∧
      ∀ port bypass, o ≠ .proxyApply port bypass

section Switch

variable {available : Bool}

/-- What a section ends in. -/
def Ends (sect : Section) (reply : Option Response) (s : Helper) : Prop :=
  s.Guarded ∧ (sect.Closes reply → s.down = true)

/-- **Every section** that begins guarded ends guarded, and starts things only where allowed. -/
lemma outline_body (sect : Section) {s : Helper} (hs : s.Guarded) (he : Helper.Enters sect s) :
    (wellBehaved available).Outline allowed (Ends sect) (sect.body available) s := by
  cases sect with
  | release lease =>
    exact Monitor.Outline.bind (outline_releaseLocked lease hs) fun _ s h => ⟨h, fun hc => hc.elim⟩
  | shutdown =>
    exact Monitor.Outline.bind (outline_shutdown hs) fun _ s h => ⟨h.1, fun _ => h.2⟩
  | request lease req =>
    cases req with
    | tunStart id config socksPort =>
      exact Monitor.Outline.bind (outline_tunStart lease id config socksPort hs he)
        fun _ s h => ⟨h, fun hc => hc.elim⟩
    | tunStop id =>
      exact Monitor.Outline.bind (outline_tunStop id hs) fun _ s h => ⟨h, fun hc => hc.elim⟩
    | sysproxyApply id port bypass =>
      exact Monitor.Outline.bind (outline_sysproxyApply lease id port bypass hs he)
        fun _ s h => ⟨h, fun hc => hc.elim⟩
    | sysproxyRestore id =>
      exact Monitor.Outline.bind (outline_sysproxyRestore id hs) fun _ s h => ⟨h, fun hc => hc.elim⟩
    | uninstall id => exact Monitor.Outline.bind (outline_uninstall id hs) fun _ s h => h

/-- Between requests the helper is guarded, and a section in progress has an outline. -/
lemma outlined_of_reaches {c : HelperConfig}
    (h : (wellBehaved available).Reaches HelperConfig.start c) :
    (wellBehaved available).Outlined allowed Helper.Guarded Ends c := by
  refine Monitor.outlined stable_guarded ?_ (fun _ _ _ h => h.1)
    (fun sect s hs he => outline_body sect hs he) h ?_
  · intro sect reply s s' he hs
    have hd := hs.1.sound.drift he
    exact ⟨stable_guarded s s' he hs.1, fun hc => hd.down.trans (hs.2 hc)⟩
  · have hsound : Helper.Sound {} := by
      refine ⟨?_, ?_, ?_, ?_, ?_⟩ <;> simp
    exact hsound.guarded_of_off ⟨rfl, rfl⟩

/-- Only starting Tun turns it on, and only applying the proxy turns that on. -/
lemma off_of_exec {o : ServerOp} {s s' : Helper} {r : o.Res}
    (h : (wellBehaved available).exec o s r s') (ho : allowed o s) (hdown : s.down = true)
    (hoff : s.Off) : s'.down = true ∧ s'.Off := by
  obtain ⟨h, hr⟩ := h
  cases o with
  | tunStart | proxyApply =>
    have hup : s.down = false := ho
    exact absurd hup (by simp [hdown])
  | tunStop =>
    obtain ⟨running, hrun, rfl⟩ := h
    exact ⟨hdown, hrun hr, hoff.2⟩
  | proxyRestore =>
    obtain ⟨applied, happ, rfl⟩ := h
    exact ⟨hdown, hoff.1, happ hr⟩
  | isDown | takeTun | claimTun | release | tunRunning =>
    obtain ⟨-, rfl⟩ := h
    exact ⟨hdown, hoff⟩
  | setDown | dropTun | clearTun | setProxyOwner | write =>
    simp only [Helper.Exec] at h
    rw [h]
    exact ⟨by simp [hdown], hoff⟩

/-- A helper that is down stays off. -/
lemma off_of_reaches {c c' : HelperConfig}
    (h₀ : (wellBehaved available).Reaches HelperConfig.start c)
    (h : (wellBehaved available).Reaches c c') (hdown : c.state.down = true) (hoff : c.state.Off) :
    c'.state.down = true ∧ c'.state.Off := by
  induction h with
  | refl => exact ⟨hdown, hoff⟩
  | @tail c₁ c₂ hr hs ih =>
    obtain ⟨a, hs⟩ := hs
    have hout := outlined_of_reaches (h₀.trans hr)
    have hstep := hs
    cases hs with
    | enter | leave => exact ih
    | op ho => exact off_of_exec ho (hout.allowed hstep) ih.1 ih.2
    | env he =>
      cases he with
      | ends => exact ⟨ih.1, rfl, ih.2.2⟩
      | _ => exact ih

/-- **The dead-man switch.** While stops and restores succeed and the runner reports a stop only when
nothing runs, the helper keeps it, in every interleaving of requests, closes and events of any
number of connections.

**Proof sketch.** Each handler has an outline that starts and ends in `Helper.Guarded`, so that holds
between any two sections. What is on then has a live owner; and a helper that is down has nothing
on, which only the two operations that are not allowed could change. -/
theorem dead_man_switch (available : Bool) : DeadManSwitch (wellBehaved available) where
  tun c h hfree hrun := by
    obtain ⟨s, holder⟩ := c
    obtain rfl : holder = none := hfree
    have hs : s.Guarded := outlined_of_reaches h
    obtain ⟨lease, howner⟩ := Option.ne_none_iff_exists'.1 (hs.tun hrun)
    exact ⟨lease, howner, hs.sound.tunLive lease howner⟩
  proxy c h hfree happ := by
    obtain ⟨s, holder⟩ := c
    obtain rfl : holder = none := hfree
    have hs : s.Guarded := outlined_of_reaches h
    obtain ⟨lease, howner⟩ := Option.ne_none_iff_exists'.1 (hs.proxy happ)
    exact ⟨lease, howner, hs.sound.proxyLive lease howner⟩
  abandoned c h hfree hall := by
    obtain ⟨s, holder⟩ := c
    obtain rfl : holder = none := hfree
    have hs : s.Guarded := outlined_of_reaches h
    have hdead : ∀ lease, ¬ s.Live lease := fun lease hl => hl.2.2 (hall lease hl.1 hl.2.1)
    constructor
    · by_contra hrun
      obtain ⟨lease, howner⟩ := Option.ne_none_iff_exists'.1 (hs.tun (by simpa using hrun))
      exact hdead lease (hs.sound.tunLive lease howner)
    · by_contra happ
      obtain ⟨lease, howner⟩ := Option.ne_none_iff_exists'.1 (hs.proxy (by simpa using happ))
      exact hdead lease (hs.sound.proxyLive lease howner)
  closed c sect reply c' h hend hcloses hs c'' h' := by
    obtain ⟨s, holder⟩ := c
    obtain rfl : holder = _ := hend
    have hends : Ends sect reply s := outlined_of_reaches h
    have hdown := hends.2 hcloses
    have hreach := h.tail ⟨_, hs⟩
    cases hs with
    | leave => exact (off_of_reaches hreach h' hdown (hends.1.quiet hdown)).2
  refused c sect o c' h hs hdown := by
    have hallowed := (outlined_of_reaches h).allowed hs
    constructor
    · rintro lease gen config socksPort rfl
      have hup : c.state.down = false := hallowed
      exact absurd hup (by simp [hdown])
    · rintro port bypass rfl
      have hup : c.state.down = false := hallowed
      exact absurd hup (by simp [hdown])

end Switch

end Proxor.MacHelper
