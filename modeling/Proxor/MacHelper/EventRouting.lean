import Proxor.MacHelper.Helper

set_option relaxedAutoImplicit false
set_option autoImplicit false

/-!
# Routing the events of Tun instances

An event is let through when the generation of its instance is the table's current one. Every
`tun_start`, teardown and release of the owner bumps that generation, so that what was started
before is never heard again; and a release reads in the table whether there is anything to stop
before it stops it.

## Main definitions

* `Proxor.MacHelper.Supersedes` — the operations that supersede what was started before.
* `Proxor.MacHelper.Helper.letThrough` — how many events of an instance were let through.
* `Proxor.MacHelper.Routed` — what the routing promises.

## Main results

* `Proxor.MacHelper.event_routing` — the helper keeps it, whatever fails and is emitted.
-/

namespace Proxor.MacHelper

open Resumption

/-! ### The operations of the sections -/

namespace Server

variable {D : ServerOp → Prop}

lemma opsIn_tunHeld (h : D .tunRunning) (prev : Option ℕ) : (tunHeld prev).OpsIn D := by
  unfold tunHeld
  split
  · trivial
  · exact ⟨h, fun _ => trivial⟩

lemma opsIn_stopHeld {held : Bool} (h : held → D .tunStop) : (stopHeld held).OpsIn D := by
  unfold stopHeld
  split
  · rename_i hheld
    exact ⟨h hheld, fun _ => trivial⟩
  · trivial

lemma opsIn_notifyPrev (h : ∀ prev ev, D (.write prev ev)) (lease : ℕ) (prev : Option ℕ) :
    (notifyPrev lease prev).OpsIn D := by
  cases prev with
  | none => trivial
  | some prev =>
    rw [notifyPrev]
    split
    · exact ⟨h _ _, fun _ => trivial⟩
    · trivial

lemma opsIn_teardownLocked (htake : D .takeTun) (hrun : D .tunRunning) (hstop : D .tunStop)
    (hrestore : D .proxyRestore) (howner : D (.setProxyOwner none)) : teardownLocked.OpsIn D := by
  refine ⟨htake, fun prev => (opsIn_tunHeld hrun prev).bind fun held =>
    (opsIn_stopHeld fun _ => hstop).bind fun stopErr => ⟨hrestore, fun restoreErr => ?_⟩⟩
  cases restoreErr with
  | some err => trivial
  | none => exact ⟨howner, fun _ => trivial⟩

/-- What a release does after it has looked at the table. -/
lemma opsIn_releaseOwned {stopTun restoreProxy : Bool} (hstop : stopTun → D .tunStop)
    (hrestore : restoreProxy → D .proxyRestore) :
    (releaseOwned stopTun restoreProxy).OpsIn D := by
  refine (opsIn_stopHeld hstop).bind fun _ => ?_
  split
  · rename_i h
    exact ⟨hrestore h, fun _ => trivial⟩
  · trivial

end Server

/-- An instance is started only by a `tun_start`, for its lease. -/
def Section.MayStart (sect : Section) : ServerOp → Prop
  | .tunStart lease _ config socksPort =>
    ∃ id, sect = .request lease (.tunStart id config socksPort)
  | _ => True

/-- Every section but `tun_start` consists of operations other than starting an instance and
claiming the Tun. -/
lemma Section.opsIn_body {D : ServerOp → Prop} (available : Bool) {sect : Section}
    (hsect : ∀ lease id config socksPort, sect ≠ .request lease (.tunStart id config socksPort))
    (hD : ∀ o, (∀ lease, o ≠ .claimTun lease) →
      (∀ lease gen config socksPort, o ≠ .tunStart lease gen config socksPort) → D o) :
    (sect.body available).OpsIn D := by
  have hteardown : Server.teardownLocked.OpsIn D := by
    apply Server.opsIn_teardownLocked <;> exact hD _ (by simp) (by simp)
  cases sect with
  | release lease =>
    refine ⟨hD _ (by simp) (by simp), fun owned => Prog.OpsIn.bind
      (Server.opsIn_releaseOwned (fun _ => ?_) fun _ => ?_) fun _ => trivial⟩
    · exact hD _ (by simp) (by simp)
    · exact hD _ (by simp) (by simp)
  | shutdown =>
    refine ⟨hD _ (by simp) (by simp), fun _ => Prog.OpsIn.bind ?_ fun _ => trivial⟩
    exact hteardown.bind fun _ => trivial
  | request lease req =>
    cases req with
    | tunStart id config socksPort => exact absurd rfl (hsect lease id config socksPort)
    | tunStop id =>
      refine ⟨hD _ (by simp) (by simp), fun err => ?_⟩
      cases err with
      | some err => trivial
      | none => exact ⟨hD _ (by simp) (by simp), fun _ => trivial⟩
    | sysproxyApply id port bypass =>
      refine Prog.OpsIn.bind ?_ fun _ => trivial
      unfold Server.sysproxyApply
      split
      · trivial
      · split
        · trivial
        · refine ⟨hD _ (by simp) (by simp), fun down => ?_⟩
          dsimp only
          split
          · trivial
          · refine ⟨hD _ (by simp) (by simp), fun res => ?_⟩
            dsimp only
            split
            · trivial
            · exact ⟨hD _ (by simp) (by simp), fun _ => trivial⟩
    | sysproxyRestore id =>
      refine ⟨hD _ (by simp) (by simp), fun err => ?_⟩
      cases err with
      | some err => trivial
      | none => exact ⟨hD _ (by simp) (by simp), fun _ => trivial⟩
    | uninstall id =>
      refine Prog.OpsIn.bind ?_ fun _ => trivial
      unfold Server.uninstall
      split
      · trivial
      · refine hteardown.bind fun err => ?_
        cases err with
        | some err => trivial
        | none => exact ⟨hD _ (by simp) (by simp), fun _ => trivial⟩

/-! ### Generations -/

namespace Helper

variable {mayEmit : Helper → ℕ → Event → Prop}

/-- No instance is of a generation to come. -/
def Bounded (s : Helper) : Prop := ∀ inst ∈ s.instances, inst.gen ≤ s.table.tunGen

/-- Generations only grow, and instances are only added. -/
def Extends (s s' : Helper) : Prop :=
  s.table.tunGen ≤ s'.table.tunGen ∧ s.instances <+: s'.instances

/-- Interference leaves generations and instances alone. -/
lemma Interferes.instances_eq {s s' : Helper} (h : Interferes mayEmit s s') :
    s'.table.tunGen = s.table.tunGen ∧ s'.instances = s.instances := by
  cases h with
  | route k inst ev hev hk => exact ⟨LeaseTable.route_tunGen .., rfl⟩
  | _ => exact ⟨rfl, rfl⟩

/-- The only operation that adds an instance starts it. -/
lemma Exec.instances_eq {o : ServerOp} {s s' : Helper} {r : o.Res} (h : Exec o s r s') :
    s'.instances = s.instances ∨ ∃ lease gen config socksPort,
      o = .tunStart lease gen config socksPort ∧
        s'.instances = s.instances ++ [⟨lease, gen⟩] ∧ s'.table = s.table := by
  cases o with
  | tunStart lease gen config socksPort =>
    simp only [Exec] at h
    exact .inr ⟨lease, gen, config, socksPort, rfl, by rw [h], by rw [h]⟩
  | tunStop | proxyRestore =>
    obtain ⟨-, -, rfl⟩ := h
    exact .inl rfl
  | isDown | takeTun | claimTun | release | tunRunning =>
    obtain ⟨-, rfl⟩ := h
    exact .inl rfl
  | setDown | dropTun | clearTun | setProxyOwner | proxyApply | write =>
    simp only [Exec] at h
    exact .inl (by rw [h])

/-- No operation lowers the generation. -/
lemma Exec.tunGen_le {o : ServerOp} {s s' : Helper} {r : o.Res} (h : Exec o s r s') :
    s.table.tunGen ≤ s'.table.tunGen := by
  cases o with
  | tunStop | proxyRestore =>
    obtain ⟨-, -, rfl⟩ := h
    exact le_rfl
  | takeTun =>
    obtain ⟨-, rfl⟩ := h
    simp
  | release lease =>
    obtain ⟨-, rfl⟩ := h
    rw [LeaseTable.release_tunGen]
    split
    · exact Nat.le_succ _
    · exact le_rfl
  | isDown | claimTun | tunRunning =>
    obtain ⟨-, rfl⟩ := h
    exact le_rfl
  | dropTun lease =>
    simp only [Exec] at h
    simp [h]
  | setDown | clearTun | setProxyOwner | proxyApply | write | tunStart =>
    simp only [Exec] at h
    simp [h]

lemma Exec.extends {o : ServerOp} {s s' : Helper} {r : o.Res} (h : Exec o s r s') :
    Extends s s' := by
  refine ⟨h.tunGen_le, ?_⟩
  rcases h.instances_eq with hs | ⟨lease, gen, config, socksPort, -, hs, -⟩
  · rw [hs]
  · exact ⟨_, hs.symm⟩

lemma Interferes.extends {s s' : Helper} (h : Interferes mayEmit s s') : Extends s s' := by
  obtain ⟨hgen, hs⟩ := h.instances_eq
  exact ⟨hgen.ge, by rw [hs]⟩

/-- An operation keeps the bound, when what it starts is not of a generation to come. -/
lemma Bounded.exec {o : ServerOp} {s s' : Helper} {r : o.Res} (h : Exec o s r s') (hs : s.Bounded)
    (hstart : ∀ lease gen config socksPort, o = .tunStart lease gen config socksPort →
      gen ≤ s.table.tunGen) : s'.Bounded := by
  intro inst hinst
  rcases h.instances_eq with heq | ⟨lease, gen, config, socksPort, ho, heq, ht⟩
  · rw [heq] at hinst
    exact (hs inst hinst).trans h.tunGen_le
  · rw [heq, List.mem_append, List.mem_singleton] at hinst
    rw [ht]
    rcases hinst with hinst | rfl
    · exact hs inst hinst
    · exact hstart lease gen config socksPort ho

end Helper

section Runs

variable {available : Bool} {mayReturn : (o : ServerOp) → o.Res → Prop}
  {mayEmit : Helper → ℕ → Event → Prop}

/-- What a run extends. -/
lemma Helper.extends_of_reaches {c c' : HelperConfig}
    (h : (helper available mayReturn mayEmit).Reaches c c') : c.state.Extends c'.state := by
  refine Monitor.monotone (fun s => ⟨le_rfl, List.prefix_refl _⟩) ?_ ?_ ?_ h
  · rintro s t u ⟨hst, hst'⟩ ⟨htu, htu'⟩
    exact ⟨hst.trans htu, hst'.trans htu'⟩
  · rintro o s r s' ⟨ho, -⟩
    exact ho.extends
  · exact fun s s' he => Helper.Interferes.extends he

lemma stable_bounded : (helper available mayReturn mayEmit).Stable Helper.Bounded := by
  intro s s' he hs
  obtain ⟨hgen, heq⟩ := Helper.Interferes.instances_eq he
  unfold Helper.Bounded
  rw [hgen, heq]
  exact hs

/-- Programs that start nothing keep the bound. -/
lemma outline_bounded {β : Type} {p : ServerAct β} {s : Helper}
    (hp : p.OpsIn fun o =>
      ∀ lease gen config socksPort, o ≠ .tunStart lease gen config socksPort) (hs : s.Bounded) :
    (helper available mayReturn mayEmit).Outline (fun _ => Helper.Bounded)
      (fun _ => Helper.Bounded) p s := by
  refine Monitor.outline_of_opsIn stable_bounded (hp.mono fun o ho => ⟨fun _ => id, ?_⟩) hs
  rintro s r s' ⟨h, -⟩ hs
  exact hs.exec h fun _ _ _ _ heq => absurd heq (ho _ _ _ _)

/-- **A `tun_start` keeps the bound**: the generation of the instance is the table's when it is
claimed, which nothing changes until it is started. -/
lemma outline_tunStart_bounded (lease : ℕ) (id : ℤ) (config : String) (socksPort : ℤ) {s : Helper}
    (hs : s.Bounded) :
    (helper available mayReturn mayEmit).Outline (fun _ => Helper.Bounded)
      (fun _ => Helper.Bounded) (Server.tunStart lease id config socksPort) s := by
  unfold Server.tunStart
  split
  · exact hs
  split
  · exact hs
  refine Monitor.outline_op _ stable_bounded hs (fun _ h => h) ?_
  rintro s down s' hs ⟨ho, -⟩
  have hs := hs.exec ho (by simp)
  split
  · exact hs
  refine Monitor.outline_op _ stable_bounded hs (fun _ h => h) ?_
  rintro s prev s' hs ⟨ho, -⟩
  have hs := hs.exec ho (by simp)
  refine Monitor.Outline.bind
    (outline_bounded (Server.opsIn_tunHeld (by simp) prev) hs) fun held s hs => ?_
  refine Monitor.Outline.bind
    (outline_bounded (Server.opsIn_stopHeld (by simp)) hs) fun stopErr s hs => ?_
  cases stopErr with
  | some err => exact hs
  | none =>
    refine Monitor.Outline.bind (R := fun _ => Helper.Bounded) ?_ fun _ s hs => ?_
    · split
      · exact outline_bounded (Server.opsIn_notifyPrev (by simp) lease prev) hs
      · exact hs
    refine Monitor.outline_op _ stable_bounded hs (fun _ h => h) ?_
    rintro s gen s' hs ⟨ho, -⟩
    have hgen : s'.table.tunGen = gen := by rw [ho.2, ho.1]; rfl
    have hs := hs.exec ho (by simp)
    refine Monitor.outline_op (fun s => s.Bounded ∧ s.table.tunGen = gen) ?_ ⟨hs, hgen⟩
      (fun _ h => h.1) ?_
    · rintro s s' he ⟨hs, hgen⟩
      exact ⟨stable_bounded s s' he hs, (Helper.Interferes.instances_eq he).1.trans hgen⟩
    rintro s startErr s' ⟨hs, hgen⟩ ⟨ho, -⟩
    have hs : s'.Bounded := by
      refine hs.exec ho fun lease' gen' _ _ heq => ?_
      obtain ⟨-, rfl, -, -⟩ := ServerOp.tunStart.inj heq
      exact hgen.ge
    cases startErr with
    | some err => exact outline_bounded ⟨by simp, fun _ => trivial⟩ hs
    | none => exact hs

/-- **No instance is of a generation to come**, at any step of a section. -/
theorem bounded_of_step {c c' : HelperConfig} {sect : Section} {o : ServerOp}
    (h : (helper available mayReturn mayEmit).Reaches HelperConfig.start c)
    (hs : (helper available mayReturn mayEmit).Step c (.op sect o) c') : c.state.Bounded := by
  refine Monitor.Outlined.allowed (G := fun _ => Helper.Bounded) (J := Helper.Bounded)
    (Q := fun _ _ => Helper.Bounded) (Monitor.outlined stable_bounded (fun _ _ => stable_bounded)
      (fun _ _ _ h => h) ?_ h ?_) hs
  · intro sect s hs _
    by_cases hsect : ∃ lease id config socksPort,
        sect = .request lease (.tunStart id config socksPort)
    · obtain ⟨lease, id, config, socksPort, rfl⟩ := hsect
      exact Monitor.Outline.bind (outline_tunStart_bounded lease id config socksPort hs)
        fun _ _ h => h
    · push Not at hsect
      exact outline_bounded (Section.opsIn_body available hsect fun o _ ho => ho) hs
  · exact fun inst hinst => absurd hinst List.not_mem_nil

/-! ### What is let through -/

namespace Helper

/-- How many events of instance `k` were let through: written, or on their way. -/
def letThrough (s : Helper) (k : ℕ) : ℕ :=
  s.written.countP (fun w => w.2.1 = .fromInstance k) + s.sending.countP (fun e => e.1 = k)

/-- Instance `k` exists and is of an older generation. -/
def Superseded (s : Helper) (k : ℕ) : Prop :=
  ∃ inst, s.instances[k]? = some inst ∧ inst.gen < s.table.tunGen

/-- Instances stay where they are. -/
lemma Extends.getElem? {s s' : Helper} (h : s.Extends s') {k : ℕ} {inst : Instance}
    (hk : s.instances[k]? = some inst) : s'.instances[k]? = some inst := by
  obtain ⟨t, ht⟩ := h.2
  rw [← ht, List.getElem?_append_left (List.getElem?_eq_some_iff.1 hk).1, hk]

/-- Instances stay superseded. -/
lemma Superseded.extends {s s' : Helper} {k : ℕ} (h : s.Superseded k) (he : s.Extends s') :
    s'.Superseded k := by
  obtain ⟨inst, hk, hgen⟩ := h
  exact ⟨inst, he.getElem? hk, hgen.trans_le he.1⟩

/-- **Routing an event of a superseded instance** only drops it. -/
lemma route_of_superseded {s : Helper} {inst : Instance} (hgen : inst.gen < s.table.tunGen) (k : ℕ)
    (ev : Event) :
    s.route k inst ev = { s with pending := s.pending.erase (k, ev) } := by
  simp [route, LeaseTable.route_of_ne _ _ hgen.ne']

/-- Every event of an instance that was written went to the lease of that instance. -/
def Addressed (s : Helper) : Prop :=
  ∀ lease k ev, (lease, .fromInstance k, ev) ∈ s.written →
    ∃ inst, s.instances[k]? = some inst ∧ inst.lease = lease

/-- Operations write only events of the server. -/
lemma Exec.written_eq {o : ServerOp} {s s' : Helper} {r : o.Res} (h : Exec o s r s') :
    s'.written = s.written ∨ ∃ lease ev, s'.written = s.written ++ [(lease, .server, ev)] := by
  cases o with
  | tunStop | proxyRestore =>
    obtain ⟨-, -, rfl⟩ := h
    exact .inl rfl
  | isDown | takeTun | claimTun | release | tunRunning =>
    obtain ⟨-, rfl⟩ := h
    exact .inl rfl
  | write lease ev =>
    simp only [Exec] at h
    exact .inr ⟨lease, ev, by rw [h]⟩
  | setDown | dropTun | clearTun | setProxyOwner | proxyApply | tunStart =>
    simp only [Exec] at h
    exact .inl (by rw [h])

lemma Addressed.exec {o : ServerOp} {s s' : Helper} {r : o.Res} (hs : s.Addressed)
    (h : Exec o s r s') : s'.Addressed := by
  intro lease k ev hw
  have hmem : (lease, .fromInstance k, ev) ∈ s.written := by
    rcases h.written_eq with heq | ⟨lease', ev', heq⟩
    · rwa [heq] at hw
    · simpa [heq] using hw
  obtain ⟨inst, hk, hl⟩ := hs lease k ev hmem
  exact ⟨inst, h.extends.getElem? hk, hl⟩

/-- An event is written to the lease of its instance. -/
lemma Addressed.interferes {s s' : Helper} (hs : s.Addressed) (h : Interferes mayEmit s s') :
    s'.Addressed := by
  cases h with
  | hello | ends | emit | route => exact hs
  | deliver k' inst ev' hev hk' =>
    intro lease k ev hw
    rcases List.mem_append.1 hw with hw | hw
    · exact hs lease k ev hw
    · obtain ⟨rfl, heq, rfl⟩ : lease = inst.lease ∧ Source.fromInstance k = .fromInstance k' ∧
          ev = ev' := by simpa using hw
      obtain rfl := Source.fromInstance.inj heq
      exact ⟨inst, hk', rfl⟩

/-- Operations let nothing through. -/
lemma Exec.letThrough_eq {o : ServerOp} {s s' : Helper} {r : o.Res} (h : Exec o s r s') (k : ℕ) :
    s'.letThrough k = s.letThrough k := by
  cases o with
  | tunStop | proxyRestore =>
    obtain ⟨-, -, rfl⟩ := h
    rfl
  | isDown | takeTun | claimTun | release | tunRunning =>
    obtain ⟨-, rfl⟩ := h
    rfl
  | write lease ev =>
    simp only [Exec] at h
    simp [h, letThrough]
  | setDown | dropTun | clearTun | setProxyOwner | proxyApply | tunStart =>
    simp only [Exec] at h
    rw [h]
    rfl

/-- Interference lets nothing of a superseded instance through. -/
lemma Interferes.letThrough_eq {s s' : Helper} {k : ℕ} (h : Interferes mayEmit s s')
    (hsup : s.Superseded k) : s'.letThrough k = s.letThrough k := by
  cases h with
  | hello | ends | emit => rfl
  | route k' inst ev hev hk =>
    by_cases hkk : k' = k
    · subst hkk
      obtain ⟨inst', hk', hgen⟩ := hsup
      obtain rfl := Option.some.inj (hk.symm.trans hk')
      rw [route_of_superseded hgen]
      rfl
    · unfold Helper.route letThrough
      dsimp only
      split
      · rw [List.countP_cons_of_neg (by simpa using hkk)]
      · rfl
  | deliver k' inst ev hev hk =>
    unfold letThrough
    dsimp only
    rw [List.countP_append, List.countP_erase]
    by_cases hkk : k' = k
    · subst hkk
      have hpos : 0 < s.sending.countP (fun e => e.1 = k') :=
        List.countP_pos_iff.2 ⟨_, hev, by simp⟩
      simp only [List.countP_singleton, hev, decide_true, and_self, if_true]
      omega
    · simp [hkk]

end Helper

/-- A superseded instance is not heard again. -/
lemma letThrough_of_reaches {c c' : HelperConfig} {k : ℕ} (hsup : c.state.Superseded k)
    (h : (helper available mayReturn mayEmit).Reaches c c') :
    c'.state.Superseded k ∧ c'.state.letThrough k = c.state.letThrough k := by
  refine Monitor.invariant
    (I := fun s => s.Superseded k ∧ s.letThrough k = c.state.letThrough k) ?_ ?_ h ⟨hsup, rfl⟩
  · rintro o s r s' ⟨ho, -⟩ ⟨hs, heq⟩
    exact ⟨hs.extends ho.extends, (ho.letThrough_eq k).trans heq⟩
  · rintro s s' he ⟨hs, heq⟩
    exact ⟨hs.extends (Helper.Interferes.extends he),
      (Helper.Interferes.letThrough_eq he hs).trans heq⟩

end Runs

/-! ### The promise -/

/-- What supersedes every instance started before: a `tun_start` or teardown that takes the Tun, and
the release of the lease that owns it. -/
def Supersedes (table : LeaseTable) : ServerOp → Prop
  | .takeTun => True
  | .release lease => table.tunOwner = some lease
  | _ => False

/-- What the routing of events promises, in every run from the start.

* `created`: an instance is only ever added by a `tun_start`, and is of its lease.
* `written`: an event of an instance is only written to the lease of that instance.
* `superseded`: once an instance is superseded, routing an event of it changes neither the table nor
  what is on its way; so that no further event of it is let through.
* `release_tun`, `release_proxy`: a release stops Tun, or restores the proxy, only if its lease owned
  it when it began. -/
structure Routed (M : Monitor ServerOp ServerOp.Res Section Helper (Option Response)) : Prop where
  created : ∀ c a c', M.Reaches HelperConfig.start c → M.Step c a c' →
    c'.state.instances = c.state.instances ∨ ∃ lease id config socksPort gen,
      a = .op (.request lease (.tunStart id config socksPort))
        (.tunStart lease gen config socksPort) ∧
      c'.state.instances = c.state.instances ++ [⟨lease, gen⟩]
  written : ∀ c, M.Reaches HelperConfig.start c → ∀ lease k ev,
    (lease, .fromInstance k, ev) ∈ c.state.written →
    ∃ inst, c.state.instances[k]? = some inst ∧ inst.lease = lease
  superseded : ∀ c sect o c', M.Reaches HelperConfig.start c → M.Step c (.op sect o) c' →
    Supersedes c.state.table o → ∀ k < c.state.instances.length, ∀ c'', M.Reaches c' c'' →
    (∀ inst ev, c''.state.instances[k]? = some inst →
      c''.state.route k inst ev =
        { c''.state with pending := c''.state.pending.erase (k, ev) }) ∧
    c''.state.letThrough k = c'.state.letThrough k
  release_tun : ∀ lease c c', M.Reaches HelperConfig.start c →
    M.Step c (.op (.release lease) .tunStop) c' →
    ∃ c₀ c₁, M.Reaches HelperConfig.start c₀ ∧
      M.Step c₀ (.op (.release lease) (.release lease)) c₁ ∧ M.Reaches c₁ c ∧
      c₀.state.table.tunOwner = some lease
  release_proxy : ∀ lease c c', M.Reaches HelperConfig.start c →
    M.Step c (.op (.release lease) .proxyRestore) c' →
    ∃ c₀ c₁, M.Reaches HelperConfig.start c₀ ∧
      M.Step c₀ (.op (.release lease) (.release lease)) c₁ ∧ M.Reaches c₁ c ∧
      c₀.state.table.proxyOwner = some lease

section Promise

variable {available : Bool} {mayReturn : (o : ServerOp) → o.Res → Prop}
  {mayEmit : Helper → ℕ → Event → Prop}

/-- The operations of a section may be done by it. -/
lemma Section.opsIn_mayStart (sect : Section) : (sect.body available).OpsIn sect.MayStart := by
  by_cases hsect : ∃ lease id config socksPort,
      sect = .request lease (.tunStart id config socksPort)
  · obtain ⟨lease, id, config, socksPort, rfl⟩ := hsect
    refine Prog.OpsIn.bind ?_ fun _ => trivial
    unfold Server.tunStart
    split
    · trivial
    split
    · trivial
    refine ⟨trivial, fun down => ?_⟩
    dsimp only
    split
    · trivial
    refine ⟨trivial, fun prev => (Server.opsIn_tunHeld trivial prev).bind fun held =>
      (Server.opsIn_stopHeld fun _ => trivial).bind fun stopErr => ?_⟩
    cases stopErr with
    | some err => trivial
    | none =>
      refine Prog.OpsIn.bind ?_ fun _ => ⟨trivial, fun gen => ⟨⟨id, rfl⟩, fun startErr => ?_⟩⟩
      · split
        · exact Server.opsIn_notifyPrev (fun _ _ => trivial) lease prev
        · trivial
      · cases startErr with
        | some err => exact ⟨trivial, fun _ => trivial⟩
        | none => trivial
  · push Not at hsect
    refine Section.opsIn_body available hsect fun o _ ho => ?_
    cases o with
    | tunStart lease gen config socksPort => exact absurd rfl (ho lease gen config socksPort)
    | _ => trivial

/-- An instance is added by a `tun_start`, for its lease. -/
lemma created_by {c c' : HelperConfig} {a : Monitor.Label ServerOp Section}
    (h : (helper available mayReturn mayEmit).Reaches HelperConfig.start c)
    (hs : (helper available mayReturn mayEmit).Step c a c') :
    c'.state.instances = c.state.instances ∨ ∃ lease id config socksPort gen,
      a = .op (.request lease (.tunStart id config socksPort))
        (.tunStart lease gen config socksPort) ∧
      c'.state.instances = c.state.instances ++ [⟨lease, gen⟩] := by
  cases hs with
  | enter | leave => exact .inl rfl
  | env he => exact .inl (Helper.Interferes.instances_eq he).2
  | @op s s' sect o k r ho =>
    rcases ho.1.instances_eq with heq | ⟨lease, gen, config, socksPort, rfl, heq, -⟩
    · exact .inl heq
    · have hin := Monitor.opsIn_holder (M := helper available mayReturn mayEmit)
        (D := Section.MayStart) Section.opsIn_mayStart h (fun _ _ hp => absurd hp (by simp [HelperConfig.start]))
        _ _ rfl
      obtain ⟨id, rfl⟩ := hin.1
      exact .inr ⟨lease, id, config, socksPort, gen, rfl, heq⟩

/-- An event is written to the lease of its instance. -/
lemma written_to {c : HelperConfig}
    (h : (helper available mayReturn mayEmit).Reaches HelperConfig.start c) {lease k : ℕ}
    {ev : Event} (hw : (lease, .fromInstance k, ev) ∈ c.state.written) :
    ∃ inst, c.state.instances[k]? = some inst ∧ inst.lease = lease := by
  refine Monitor.invariant (I := Helper.Addressed) ?_ ?_ h
    (fun _ _ _ hw => absurd hw List.not_mem_nil) lease k ev hw
  · rintro o s r s' ⟨ho, -⟩ hs
    exact hs.exec ho
  · exact fun s s' he hs => hs.interferes he

/-- A release stops only what it owned. -/
lemma released_by {lease : ℕ} {p : ServerAct (Option Response)} {c : HelperConfig}
    (h : (helper available mayReturn mayEmit).Reaches HelperConfig.start c)
    (hp : c.holder = some (.release lease, p)) :
    p = (Section.release lease).body available ∨ ∃ c₀ c₁,
      (helper available mayReturn mayEmit).Reaches HelperConfig.start c₀ ∧
      (helper available mayReturn mayEmit).Step c₀ (.op (.release lease) (.release lease)) c₁ ∧
      (helper available mayReturn mayEmit).Reaches c₁ c ∧
      p.OpsIn fun o => (o = .tunStop → c₀.state.table.tunOwner = some lease) ∧
        (o = .proxyRestore → c₀.state.table.proxyOwner = some lease) := by
  have hrest : ∀ owned : Bool × Bool, ((Server.releaseOwned owned.1 owned.2).bind fun _ =>
      .ret (none : Option Response)).OpsIn
        fun o => (o = .tunStop → owned.1) ∧ (o = .proxyRestore → owned.2) := by
    intro owned
    refine Prog.OpsIn.bind (Server.opsIn_releaseOwned ?_ ?_) fun _ => trivial
    · exact fun h => ⟨fun _ => h, by simp⟩
    · exact fun h => ⟨by simp, fun _ => h⟩
  have hbody : (helper available mayReturn mayEmit).body (.release lease) =
      .op (.release lease) fun (owned : Bool × Bool) =>
        (Server.releaseOwned owned.1 owned.2).bind fun _ => .ret none := rfl
  rcases Monitor.after_first hbody hrest h rfl hp with hbody | ⟨c₀, c₁, owned, h₀, hs, ⟨ho, -⟩, h₁, hin⟩
  · exact .inl hbody
  · refine .inr ⟨c₀, c₁, h₀, hs, h₁, hin.mono fun o hD => ?_⟩
    have howned : owned = (c₀.state.table.release lease).1 := ho.1
    simpa only [howned, LeaseTable.release, decide_eq_true_eq] using hD

/-- An instance that exists when something supersedes it is superseded. -/
lemma superseded_of_step {c c' : HelperConfig} {sect : Section} {o : ServerOp}
    (h : (helper available mayReturn mayEmit).Reaches HelperConfig.start c)
    (hs : (helper available mayReturn mayEmit).Step c (.op sect o) c')
    (ho : Supersedes c.state.table o) {k : ℕ} (hk : k < c.state.instances.length) :
    c'.state.Superseded k := by
  have hbound : (c.state.instances[k]).gen ≤ c.state.table.tunGen :=
    bounded_of_step h hs _ (List.getElem_mem hk)
  cases hs with
  | op hexec =>
    cases o with
    | takeTun =>
      obtain ⟨⟨-, rfl⟩, -⟩ := hexec
      exact ⟨_, List.getElem?_eq_getElem hk, Nat.lt_succ_of_le hbound⟩
    | release lease =>
      obtain ⟨⟨-, rfl⟩, -⟩ := hexec
      refine ⟨_, List.getElem?_eq_getElem hk, ?_⟩
      have howner : _ = some lease := ho
      dsimp only at howner hbound ⊢
      rw [LeaseTable.release_tunGen, if_pos howner]
      exact Nat.lt_succ_of_le hbound
    | _ => exact ho.elim

/-- **Event routing.** Whatever the backends return and the instances emit, in every interleaving:
events go to the lease whose `tun_start` created their instance, a superseded instance is not heard
again and takes nothing from the current one, and a release only ends what its lease owns.

**Proof sketch.** No instance is of a generation to come, so what supersedes makes every instance
of an older one; generations only grow, and routing compares for equality. A release reads the
table in its first operation, on which all others of it depend. -/
theorem event_routing (available : Bool) (mayReturn : (o : ServerOp) → o.Res → Prop)
    (mayEmit : Helper → ℕ → Event → Prop) : Routed (helper available mayReturn mayEmit) where
  created _ _ _ h hs := created_by h hs
  written _ h _ _ _ hw := written_to h hw
  superseded c sect o c' h hs ho k hk c'' h' := by
    obtain ⟨hsup, hlet⟩ := letThrough_of_reaches (superseded_of_step h hs ho hk) h'
    refine ⟨fun inst ev hinst => ?_, hlet⟩
    obtain ⟨inst', hinst', hgen⟩ := hsup
    obtain rfl := Option.some.inj (hinst.symm.trans hinst')
    exact Helper.route_of_superseded hgen k ev
  release_tun lease c c' h hs := by
    cases hs with
    | op ho =>
      rcases released_by h rfl with hbody | ⟨c₀, c₁, h₀, hs₀, h₁, hin⟩
      · exact absurd (Prog.op.inj hbody).1 (by simp)
      · exact ⟨c₀, c₁, h₀, hs₀, h₁, hin.1.1 rfl⟩
  release_proxy lease c c' h hs := by
    cases hs with
    | op ho =>
      rcases released_by h rfl with hbody | ⟨c₀, c₁, h₀, hs₀, h₁, hin⟩
      · exact absurd (Prog.op.inj hbody).1 (by simp)
      · exact ⟨c₀, c₁, h₀, hs₀, h₁, hin.1.2 rfl⟩

end Promise

end Proxor.MacHelper
