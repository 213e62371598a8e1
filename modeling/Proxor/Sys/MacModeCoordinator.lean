import Mathlib.Algebra.Ring.Int.Defs
import Mathlib.Tactic.Lemma

set_option relaxedAutoImplicit false
set_option autoImplicit false

/-!
# Pausing the modes around a stop

`MacModeCoordinator` pauses System Proxy and Tun when the user stops the profile, after a grace period
or at once, and resumes them when a profile runs again. It asks the window for the modes and for
whether a profile runs, and tells it to pause and to resume.

## Main definitions

* `Proxor.Sys.MacModeCoordinator` — the state, with its slots.
* `Proxor.Sys.Hooks` — the answers of the window while a slot runs.
* `Proxor.Sys.HookCall` — what the window is told.

## Design

All hooks are set. The timer is single-shot: `timerActive` says whether it runs, and
`onGraceTimeout` begins by clearing it.
-/

namespace Proxor.Sys

/-- The answers of the hooks. -/
structure Hooks where
  systemProxyOn : Bool
  tunOn : Bool
  tunActive : Bool
  profileRunning : Bool
deriving DecidableEq

/-- The hooks that change something. -/
inductive HookCall
  | pause (systemProxy tun : Bool)
  | resume (systemProxy tun : Bool)
deriving DecidableEq

/-- `MacModeCoordinator`. -/
structure MacModeCoordinator where
  graceMs : ℤ
  timerActive : Bool := false
  stopInFlight : Bool := false
  waitingForStop : Bool := false
  systemProxyParked : Bool := false
  tunPaused : Bool := false
deriving DecidableEq

namespace MacModeCoordinator

/-- `pauseScheduled`. -/
def pauseScheduled (c : MacModeCoordinator) : Bool := c.timerActive || c.waitingForStop

/-- `schedule`. -/
def schedule (c : MacModeCoordinator) : MacModeCoordinator :=
  { c with waitingForStop := false, timerActive := true }

/-- `pauseNow`: what is on is paused, and a proxy that is parked is not restored twice. -/
def pauseNow (h : Hooks) (c : MacModeCoordinator) : MacModeCoordinator × List HookCall :=
  let sp := h.systemProxyOn && !c.systemProxyParked
  let tun := h.tunOn && h.tunActive
  if !sp && !tun then (c, [])
  else
    ({ c with
        systemProxyParked := sp || c.systemProxyParked
        tunPaused := tun || c.tunPaused }, [.pause sp tun])

/-- `profileStopping`: a restart and an exit pause nothing. -/
def profileStopping (h : Hooks) (sem prepareExit : Bool) (c : MacModeCoordinator) :
    MacModeCoordinator × List HookCall :=
  if sem || prepareExit then (c, [])
  else
    let c := { c with stopInFlight := true }
    if c.graceMs ≤ 0 then c.pauseNow h else (c.schedule, [])

/-- `profileStarted`: what is parked or paused is resumed. -/
def profileStarted (h : Hooks) (c : MacModeCoordinator) : MacModeCoordinator × List HookCall :=
  let sp := c.systemProxyParked && h.systemProxyOn
  let tun := h.tunOn && !h.tunActive
  ({ c with systemProxyParked := false, tunPaused := false },
    if sp || tun then [.resume sp tun] else [])

/-- `profileStopped`: a stop that failed undoes an immediate pause. -/
def profileStopped (h : Hooks) (c : MacModeCoordinator) : MacModeCoordinator × List HookCall :=
  let c := { c with stopInFlight := false }
  if c.graceMs ≤ 0 ∧ h.profileRunning then c.profileStarted h
  else if c.waitingForStop then (c.schedule, [])
  else (c, [])

/-- `profileStarting`. -/
def profileStarting (c : MacModeCoordinator) : MacModeCoordinator :=
  { c with timerActive := false, waitingForStop := false }

/-- `profileStartFailed`. -/
def profileStartFailed (h : Hooks) (c : MacModeCoordinator) : MacModeCoordinator :=
  if h.profileRunning then c else c.schedule

/-- `onGraceTimeout`, which the timer calls once. -/
def onGraceTimeout (h : Hooks) (c : MacModeCoordinator) : MacModeCoordinator × List HookCall :=
  let c := { c with timerActive := false }
  if c.stopInFlight then ({ c with waitingForStop := true }, [])
  else if h.profileRunning then (c, [])
  else
    let sp := h.systemProxyOn && !c.systemProxyParked
    let tun := h.tunOn && h.tunActive
    if !sp && !tun then (c, [])
    else
      ({ c with
          systemProxyParked := sp || c.systemProxyParked
          tunPaused := tun || c.tunPaused }, [.pause sp tun])

variable {h : Hooks} {c : MacModeCoordinator}

/-- A timeout during a stop waits for its end. -/
lemma onGraceTimeout_flight (hflight : c.stopInFlight = true) :
    c.onGraceTimeout h = ({ c with timerActive := false, waitingForStop := true }, []) := by
  simp only [onGraceTimeout, hflight, if_true]

/-- A timeout while a profile runs does nothing. -/
lemma onGraceTimeout_running (hflight : c.stopInFlight = false) (hrunning : h.profileRunning = true) :
    c.onGraceTimeout h = ({ c with timerActive := false }, []) := by
  simp only [onGraceTimeout, hflight, hrunning, if_true, Bool.false_eq_true, if_false]

/-- A timeout that passes its checks evaluates the modes as an immediate pause does. -/
lemma onGraceTimeout_eq (hflight : c.stopInFlight = false) (hrunning : h.profileRunning = false) :
    c.onGraceTimeout h = pauseNow h { c with timerActive := false } := by
  simp only [onGraceTimeout, pauseNow, hflight, hrunning, Bool.false_eq_true, if_false]

/-- A pause changes the flags of the modes only. -/
lemma pauseNow_fields : (c.pauseNow h).1 =
    { c with
      systemProxyParked := (c.pauseNow h).1.systemProxyParked
      tunPaused := (c.pauseNow h).1.tunPaused } := by
  unfold pauseNow
  dsimp only
  split_ifs <;> rfl

/-- A pause leaves the proxy parked if it is on, and parks it only if it is not parked. -/
lemma pauseNow_parked :
    (c.pauseNow h).1.systemProxyParked = (h.systemProxyOn || c.systemProxyParked) := by
  unfold pauseNow
  dsimp only
  split_ifs with hnone
  · cases hon : h.systemProxyOn with
    | false => rfl
    | true => simpa [hon] using (Bool.and_eq_true_iff.1 hnone).1
  · cases h.systemProxyOn <;> cases c.systemProxyParked <;> rfl

/-- A pause pauses Tun if it is on and active. -/
lemma pauseNow_tun (hon : h.tunOn = true) (hactive : h.tunActive = true) :
    ∃ sp, .pause sp true ∈ (c.pauseNow h).2 := by
  simp [pauseNow, hon, hactive]

/-- A start that is reported resumes a parked proxy. -/
lemma profileStarted_resume (hparked : c.systemProxyParked = true) (hon : h.systemProxyOn = true) :
    ∃ tun, .resume true tun ∈ (c.profileStarted h).2 := by
  simp [profileStarted, hparked, hon]

/-! ### With a grace period -/

/-- With a grace period a stop of the user starts the timer. -/
lemma profileStopping_grace (hgrace : 0 < c.graceMs) (sem prepareExit : Bool) :
    c.profileStopping h sem prepareExit =
      (if sem || prepareExit then c
        else { c with stopInFlight := true, waitingForStop := false, timerActive := true }, []) := by
  unfold profileStopping
  by_cases hsem : (sem || prepareExit) = true
  · rw [if_pos hsem, if_pos hsem]
  · rw [if_neg hsem, if_neg hsem]
    exact if_neg (Int.not_le.2 hgrace)

/-! ### The end of a stop -/

/-- The end of a stop that undoes no pause starts the timer if the timer waits for it. -/
lemma profileStopped_eq (hnot : ¬(c.graceMs ≤ 0 ∧ h.profileRunning = true)) :
    c.profileStopped h =
      ({ c with
          stopInFlight := false
          waitingForStop := false
          timerActive := c.timerActive || c.waitingForStop }, []) := by
  unfold profileStopped
  dsimp only
  rw [if_neg hnot]
  cases hwaiting : c.waitingForStop
  · rw [if_neg (by decide), Bool.or_false]
  · rw [if_pos rfl, Bool.or_true]
    rfl

/-- Without a grace period the end of a stop that failed counts as a start. -/
lemma profileStopped_running (hgrace : c.graceMs ≤ 0) (hrunning : h.profileRunning = true) :
    c.profileStopped h = profileStarted h { c with stopInFlight := false } := by
  rw [profileStopped]
  exact if_pos ⟨hgrace, hrunning⟩

end MacModeCoordinator

end Proxor.Sys
