import Mathlib.Algebra.Ring.Int.Defs
import Mathlib.Algebra.Order.Ring.Int
import Proxor.Lib.Run

set_option relaxedAutoImplicit false
set_option autoImplicit false

/-!
# After a wake from sleep

`WakeCoordinator` decides what to do after the system woke: wait for the network, restart the profile
if the core died, check the modes, update the subscriptions. The caller has the clock and the
observations and calls `step` from a timer.

## Main definitions

* `Proxor.Platform.WakeCoordinator` — the state, with `noteSleep`, `noteWake`, `step`, `cancel` and
  `dropRestore`.
* `Proxor.Platform.WakeCoordinator.pass` — one pass of the loop in `step`.

## Main results

* `Proxor.Platform.WakeCoordinator.pass_outcome` — what one pass may do.
* `Proxor.Platform.WakeCoordinator.loop_returns` — four passes are enough.
* `Proxor.Platform.WakeCoordinator.loop_rule` — what a step returns, phase by phase.
-/

namespace Proxor.Platform

def kWakeDedupeMs : ℤ := 120000
def kWakeNetworkWaitMaxMs : ℤ := 60000
def kWakeNoReachabilityDelayMs : ℤ := 2000
def kWakeCoreGraceMs : ℤ := 8000
def kWakeRunMaxMs : ℤ := 180000
def kWakePollMs : ℤ := 1000

/-- `WakeSource`. -/
inductive WakeSource
  | Native | TimerGap
deriving DecidableEq

/-- `WakeReachability`. -/
inductive WakeReachability
  | Unknown | Online | Offline
deriving DecidableEq

/-- `WakeModes`. -/
structure WakeModes where
  systemProxy : Bool := false
  tun : Bool := false
deriving DecidableEq

/-- `WakeSnapshot`: what ran when the system went to sleep. -/
structure WakeSnapshot where
  profileId : ℤ := -1
  modes : WakeModes := {}
  viaSsidTrigger : Bool := false
deriving DecidableEq

/-- `WakeObservation`. -/
structure WakeObservation where
  nowMs : ℤ := 0
  reachability : WakeReachability := .Unknown
  blocked : Bool := false
  startPending : Bool := false
  coreRunning : Bool := false
  runningProfileId : ℤ := -1
deriving DecidableEq

/-- `WakeAction`. -/
inductive WakeAction
  | Wait | RestartProfile | CheckModes | UpdateSubscriptions | Finished
deriving DecidableEq

/-- `WakeNote`. -/
inductive WakeNote
  | None | Blocked | NetworkTimedOut | RunTimedOut | CoreRestarting
deriving DecidableEq

/-- `WakeStep`: a delay of `-1` says that the run is over. -/
structure WakeStep where
  action : WakeAction := .Finished
  delayMs : ℤ := -1
  profileId : ℤ := -1
  viaSsidTrigger : Bool := false
  modes : WakeModes := {}
  note : WakeNote := .None
deriving DecidableEq

/-- `Phase`. -/
inductive WakePhase
  | Network | Core | Modes | Subs
deriving DecidableEq

/-- `WakeCoordinator`. -/
structure WakeCoordinator where
  active : Bool := false
  phase : WakePhase := .Network
  wakeAtMs : ℤ := 0
  lastWakeMs : ℤ := -1
  hasSleepSnapshot : Bool := false
  sleepSnapshot : WakeSnapshot := {}
  snapshot : WakeSnapshot := {}
  coreDeadSinceMs : ℤ := -1
  networkReady : Bool := false
  source : WakeSource := .Native
deriving DecidableEq

/-- `waitStep`. -/
def waitStep (ms : ℤ) : WakeStep := { action := .Wait, delayMs := max ms 0 }

namespace WakeCoordinator

/-- `noteSleep`, which ends a run. -/
def noteSleep (c : WakeCoordinator) (before : WakeSnapshot) : WakeCoordinator :=
  { c with active := false, sleepSnapshot := before, hasSleepSnapshot := true }

/-- `noteWake`: whether a run begins, which it does not for a second signal of the same wake. -/
def noteWake (c : WakeCoordinator) (source : WakeSource) (nowMs : ℤ) (current : WakeSnapshot) :
    WakeCoordinator × Bool :=
  if c.active then (c, false)
  else if !c.hasSleepSnapshot ∧ 0 ≤ c.lastWakeMs ∧ nowMs - c.lastWakeMs < kWakeDedupeMs then
    (c, false)
  else
    ({ c with
        snapshot := if c.hasSleepSnapshot then c.sleepSnapshot else current
        hasSleepSnapshot := false
        lastWakeMs := nowMs
        wakeAtMs := nowMs
        source := source
        phase := .Network
        coreDeadSinceMs := -1
        networkReady := false
        active := true }, true)

/-- `cancel`. -/
def cancel (c : WakeCoordinator) : WakeCoordinator := { c with active := false }

/-- `dropRestore`: the profile was stopped on purpose. -/
def dropRestore (c : WakeCoordinator) : WakeCoordinator := { c with snapshot := {} }

/-- When the core was first seen dead, which is now if it was not seen dead before. -/
def deadSince (c : WakeCoordinator) (o : WakeObservation) : ℤ :=
  if c.coreDeadSinceMs < 0 then o.nowMs else c.coreDeadSinceMs

/-- One pass of the loop of `step`: the next state, and the step if the pass returns. -/
def pass (o : WakeObservation) (c : WakeCoordinator) : WakeCoordinator × Option WakeStep :=
  let elapsed := o.nowMs - c.wakeAtMs
  match c.phase with
  | .Network =>
    match o.reachability with
    | .Online => ({ c with networkReady := true, phase := .Core }, none)
    | .Unknown =>
      if elapsed < kWakeNoReachabilityDelayMs then
        (c, some (waitStep (kWakeNoReachabilityDelayMs - elapsed)))
      else ({ c with networkReady := true, phase := .Core }, none)
    | .Offline =>
      if elapsed < kWakeNetworkWaitMaxMs then (c, some (waitStep kWakePollMs))
      else ({ c with networkReady := false, phase := .Core }, none)
  | .Core =>
    if c.snapshot.profileId < 0 then ({ c with phase := .Modes }, none)
    else if o.startPending then (c, some (waitStep kWakePollMs))
    else if o.coreRunning then ({ c with coreDeadSinceMs := -1, phase := .Modes }, none)
    else
      let remaining := kWakeCoreGraceMs - (o.nowMs - deadSince c o)
      if 0 < remaining then
        ({ c with coreDeadSinceMs := deadSince c o }, some (waitStep (min remaining kWakePollMs)))
      else
        ({ c with coreDeadSinceMs := deadSince c o, phase := .Modes },
          some { action := .RestartProfile, delayMs := kWakePollMs,
                 profileId := c.snapshot.profileId, viaSsidTrigger := c.snapshot.viaSsidTrigger,
                 note := .CoreRestarting })
  | .Modes =>
    if !(c.snapshot.modes.systemProxy || c.snapshot.modes.tun) then
      ({ c with phase := .Subs }, none)
    else if o.startPending then (c, some (waitStep kWakePollMs))
    else if 0 ≤ o.runningProfileId then
      ({ c with phase := .Subs },
        some { action := .CheckModes, delayMs := 0, modes := c.snapshot.modes })
    else ({ c with phase := .Subs }, none)
  | .Subs =>
    if c.networkReady then
      ({ c with active := false }, some { action := .UpdateSubscriptions, delayMs := -1 })
    else ({ c with active := false }, some { note := .NetworkTimedOut })

/-- The loop of `step`, for this many passes. -/
def loop (o : WakeObservation) : ℕ → WakeCoordinator → Option (WakeCoordinator × WakeStep)
  | 0, _ => none
  | n + 1, c =>
    match pass o c with
    | (c', some r) => some (c', r)
    | (c', none) => loop o n c'

/-- `step`. The loop returns within four passes (`loop_returns`). -/
def step (c : WakeCoordinator) (o : WakeObservation) : WakeCoordinator × WakeStep :=
  if !c.active then (c, {})
  else if o.blocked then ({ c with active := false }, { note := .Blocked })
  else if kWakeRunMaxMs ≤ o.nowMs - c.wakeAtMs then
    ({ c with active := false }, { note := .RunTimedOut })
  else (loop o 4 c).getD (c, {})

/-- The state a run begins in. -/
def begun (c : WakeCoordinator) (source : WakeSource) (nowMs : ℤ) (snapshot : WakeSnapshot) :
    WakeCoordinator :=
  { c with
    snapshot := snapshot
    hasSleepSnapshot := false
    lastWakeMs := nowMs
    wakeAtMs := nowMs
    source := source
    phase := .Network
    coreDeadSinceMs := -1
    networkReady := false
    active := true }

/-- A wake is refused and nothing changes, or it is accepted and a run begins. -/
lemma noteWake_cases (c : WakeCoordinator) (source : WakeSource) (nowMs : ℤ)
    (current : WakeSnapshot) :
    c.noteWake source nowMs current = (c, false) ∨
      c.noteWake source nowMs current = (c.begun source nowMs
        (if c.hasSleepSnapshot then c.sleepSnapshot else current), true) := by
  rw [noteWake]
  by_cases hactive : c.active = true
  · exact .inl (if_pos hactive)
  · rw [if_neg hactive]
    split_ifs <;> first | exact .inl rfl | exact .inr rfl

/-! ### One pass -/

/-- The observation says that the network is ready, this long after the wake. -/
def NetworkReady (wakeAtMs : ℤ) (o : WakeObservation) : Prop :=
  o.reachability = .Online ∨
    o.reachability = .Unknown ∧ kWakeNoReachabilityDelayMs ≤ o.nowMs - wakeAtMs

/-- The network is not there and the time to wait for it is over. -/
def NetworkWaitOver (wakeAtMs : ℤ) (o : WakeObservation) : Prop :=
  o.reachability = .Offline ∧ kWakeNetworkWaitMaxMs ≤ o.nowMs - wakeAtMs

/-- What one pass may do. -/
inductive Outcome (o : WakeObservation) (c : WakeCoordinator) :
    WakeCoordinator → Option WakeStep → Prop
  | ready (hphase : c.phase = .Network) (hready : NetworkReady c.wakeAtMs o) :
    Outcome o c { c with networkReady := true, phase := .Core } none
  | waitOver (hphase : c.phase = .Network) (hover : NetworkWaitOver c.wakeAtMs o) :
    Outcome o c { c with networkReady := false, phase := .Core } none
  | waitNetwork (ms : ℤ) (hphase : c.phase = .Network) (hready : ¬ NetworkReady c.wakeAtMs o)
    (hover : ¬ NetworkWaitOver c.wakeAtMs o) : Outcome o c c (some (waitStep ms))
  | noProfile (hphase : c.phase = .Core) (hprofile : c.snapshot.profileId < 0) :
    Outcome o c { c with phase := .Modes } none
  | running (hphase : c.phase = .Core) (hstart : o.startPending = false)
    (hcore : o.coreRunning = true) :
    Outcome o c { c with coreDeadSinceMs := -1, phase := .Modes } none
  | waitCore (ms : ℤ) (hphase : c.phase = .Core) (hstart : o.startPending = false)
    (hcore : o.coreRunning = false) :
    Outcome o c { c with coreDeadSinceMs := deadSince c o } (some (waitStep ms))
  | restart (hphase : c.phase = .Core) (hprofile : 0 ≤ c.snapshot.profileId)
    (hstart : o.startPending = false) (hcore : o.coreRunning = false)
    (hgrace : deadSince c o + kWakeCoreGraceMs ≤ o.nowMs) :
    Outcome o c { c with coreDeadSinceMs := deadSince c o, phase := .Modes }
      (some { action := .RestartProfile, delayMs := kWakePollMs, profileId := c.snapshot.profileId,
              viaSsidTrigger := c.snapshot.viaSsidTrigger, note := .CoreRestarting })
  | waitStart (hphase : c.phase = .Core ∨ c.phase = .Modes) (hstart : o.startPending = true) :
    Outcome o c c (some (waitStep kWakePollMs))
  | noModes (hphase : c.phase = .Modes) : Outcome o c { c with phase := .Subs } none
  | checkModes (hphase : c.phase = .Modes) (hstart : o.startPending = false)
    (hmodes : c.snapshot.modes ≠ {}) :
    Outcome o c { c with phase := .Subs }
      (some { action := .CheckModes, delayMs := 0, modes := c.snapshot.modes })
  | update (hphase : c.phase = .Subs) (hready : c.networkReady = true) :
    Outcome o c { c with active := false } (some { action := .UpdateSubscriptions, delayMs := -1 })
  | finish (hphase : c.phase = .Subs) :
    Outcome o c { c with active := false } (some { note := .NetworkTimedOut })

/-- **A pass does one of these things.** -/
theorem pass_outcome (o : WakeObservation) (c : WakeCoordinator) :
    Outcome o c (pass o c).1 (pass o c).2 := by
  unfold pass
  cases hphase : c.phase with
  | Network =>
    cases hreach : o.reachability with
    | Online => exact .ready hphase (.inl hreach)
    | Unknown =>
      dsimp only
      split_ifs with helapsed
      · refine .waitNetwork _ hphase ?_ ?_
        · rintro (h | ⟨-, h⟩)
          · exact absurd (hreach.symm.trans h) (by decide)
          · omega
        · exact fun h => absurd (hreach.symm.trans h.1) (by decide)
      · exact .ready hphase (.inr ⟨hreach, not_lt.1 helapsed⟩)
    | Offline =>
      dsimp only
      split_ifs with helapsed
      · refine .waitNetwork _ hphase ?_ ?_
        · rintro (h | ⟨h, -⟩) <;> exact absurd (hreach.symm.trans h) (by decide)
        · exact fun h => absurd h.2 (not_le.2 helapsed)
      · exact .waitOver hphase ⟨hreach, not_lt.1 helapsed⟩
  | Core =>
    dsimp only
    split_ifs with hprofile hstart hcore hremaining
    · exact .noProfile hphase hprofile
    · exact .waitStart (.inl hphase) hstart
    · exact .running hphase (by simpa using hstart) hcore
    · have h : Outcome o c _ _ :=
        .waitCore (min (kWakeCoreGraceMs - (o.nowMs - deadSince c o)) kWakePollMs) hphase
          (by simpa using hstart) (by simpa using hcore)
      rw [hphase] at h
      exact h
    · exact .restart hphase (not_lt.1 hprofile) (by simpa using hstart) (by simpa using hcore)
        (by omega)
  | Modes =>
    dsimp only
    split_ifs with hmodes hstart hprofile
    · exact .noModes hphase
    · exact .waitStart (.inr hphase) hstart
    · refine .checkModes hphase (by simpa using hstart) fun h => hmodes ?_
      rw [h]
      rfl
    · exact .noModes hphase
  | Subs =>
    dsimp only
    split_ifs with hready
    · have h : Outcome o c _ _ := .update hphase hready
      rw [hphase] at h
      exact h
    · have h : Outcome o c _ _ := .finish hphase
      rw [hphase] at h
      exact h

/-! ### The loop -/

/-- The passes a phase still takes. -/
def passes : WakePhase → ℕ
  | .Network => 4
  | .Core => 3
  | .Modes => 2
  | .Subs => 1

variable {o : WakeObservation}

/-- A pass returns or goes on to the next phase. -/
lemma pass_advances {c c' : WakeCoordinator} (h : pass o c = (c', none)) :
    passes c.phase = passes c'.phase + 1 := by
  have houtcome := pass_outcome o c
  rw [h] at houtcome
  dsimp only at houtcome
  generalize hr : (none : Option WakeStep) = r at houtcome
  cases houtcome <;> first | (rw [‹c.phase = _›]; rfl) | cases hr

lemma loop_returns_of_le {n : ℕ} {c : WakeCoordinator} (h : passes c.phase ≤ n) :
    ∃ r, loop o n c = some r := by
  induction n generalizing c with
  | zero => cases hphase : c.phase <;> rw [hphase] at h <;> exact absurd h (by decide)
  | succ n ih =>
    rw [loop]
    cases hpass : pass o c with
    | mk c' r =>
      cases r with
      | some r => exact ⟨(c', r), rfl⟩
      | none => exact ih (by rw [pass_advances hpass] at h; exact Nat.le_of_succ_le_succ h)

/-- **Every step returns.** The loop takes at most four passes. -/
theorem loop_returns (o : WakeObservation) (c : WakeCoordinator) : ∃ r, loop o 4 c = some r :=
  loop_returns_of_le (by cases c.phase <;> decide)

/-- What every pass that goes on keeps, and every pass that returns makes of it. -/
lemma loop_rule {I : WakeCoordinator → Prop} {Q : WakeCoordinator → WakeStep → Prop}
    (hgo : ∀ c c', I c → pass o c = (c', none) → I c')
    (hreturn : ∀ c c' r, I c → pass o c = (c', some r) → Q c' r) {n : ℕ} {c c' : WakeCoordinator}
    {r : WakeStep} (hc : I c) (h : loop o n c = some (c', r)) : Q c' r := by
  induction n generalizing c with
  | zero => exact absurd h (by simp [loop])
  | succ n ih =>
    rw [loop] at h
    cases hpass : pass o c with
    | mk next result =>
      rw [hpass] at h
      cases result with
      | some result =>
        obtain ⟨rfl, rfl⟩ := Prod.mk.inj (Option.some.inj h)
        exact hreturn _ _ _ hc hpass
      | none => exact ih (hgo _ _ hc hpass) h

/-- A step returns for one of three reasons, or what its loop returns. -/
lemma step_rule {Q : WakeCoordinator → WakeStep → Prop} {c : WakeCoordinator}
    (hactive : c.active = true)
    (hblocked : o.blocked = true → Q { c with active := false } { note := .Blocked })
    (htime : o.blocked = false → kWakeRunMaxMs ≤ o.nowMs - c.wakeAtMs →
      Q { c with active := false } { note := .RunTimedOut })
    (hloop : o.blocked = false → o.nowMs - c.wakeAtMs < kWakeRunMaxMs → ∀ c' r,
      loop o 4 c = some (c', r) → Q c' r) : Q (c.step o).1 (c.step o).2 := by
  unfold step
  rw [hactive, if_neg (by decide)]
  split_ifs with hb ht
  · exact hblocked hb
  · exact htime (by simpa using hb) ht
  · obtain ⟨⟨c', r⟩, hr⟩ := loop_returns o c
    rw [hr]
    exact hloop (by simpa using hb) (not_le.1 ht) c' r hr

/-- A step leaves the snapshot of the sleep. -/
lemma step_sleep (c : WakeCoordinator) (o : WakeObservation) :
    (c.step o).1.sleepSnapshot = c.sleepSnapshot ∧
      (c.step o).1.hasSleepSnapshot = c.hasSleepSnapshot := by
  have hpass (c' : WakeCoordinator) : (pass o c').1.sleepSnapshot = c'.sleepSnapshot ∧
      (pass o c').1.hasSleepSnapshot = c'.hasSleepSnapshot := by
    have hout := pass_outcome o c'
    generalize (pass o c').1 = next, (pass o c').2 = r at hout ⊢
    cases hout <;> exact ⟨rfl, rfl⟩
  cases hactive : c.active with
  | false =>
    rw [step, hactive]
    exact ⟨rfl, rfl⟩
  | true =>
    refine step_rule (Q := fun c' _ => c'.sleepSnapshot = c.sleepSnapshot ∧
      c'.hasSleepSnapshot = c.hasSleepSnapshot) hactive (fun _ => ⟨rfl, rfl⟩)
      (fun _ _ => ⟨rfl, rfl⟩) fun _ _ c' r hloop => ?_
    refine loop_rule (I := fun c' => c'.sleepSnapshot = c.sleepSnapshot ∧
      c'.hasSleepSnapshot = c.hasSleepSnapshot) (Q := fun c' _ =>
      c'.sleepSnapshot = c.sleepSnapshot ∧ c'.hasSleepSnapshot = c.hasSleepSnapshot)
      (fun next next' h hnext => ?_) (fun next next' r h hnext => ?_) ⟨rfl, rfl⟩ hloop
    all_goals
      have hkept := hpass next
      rw [hnext] at hkept
      exact ⟨hkept.1.trans h.1, hkept.2.trans h.2⟩

end WakeCoordinator

end Proxor.Platform
