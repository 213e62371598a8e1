import Proxor.Lib.Run
import Proxor.Sys.MacModeCoordinator

set_option relaxedAutoImplicit false
set_option autoImplicit false

/-!
# Stops with a grace period

With a grace period a stop pauses the modes only when the timer fires. Starts and stops overlap: a
stop may begin during a start, and a start before the coordinator hears that the last stop is done.

## Main definitions

* `Proxor.Sys.GraceWorld`, `Proxor.Sys.GraceWorld.handle` — the coordinator, the profile, and the
  starts and stops under way.
* `Proxor.Sys.GraceRun` — any order of events that starts and stops allow.
* `Proxor.Sys.GraceRun.Guarantees` — what the window relies on.
* `Proxor.Sys.GraceRun.InOrder` — no stop is reported done while a later stop of the user is under
  way.

## Main results

* `Proxor.Sys.grace_guarantees` — in such runs it holds.
* `Proxor.Sys.not_grace_guarantees` — a stop is forgotten in another.

## Design

The hooks answer for the modes as they like at every event, and for the profile truly. A stop of the
user while the core is being stopped has no thread of its own and is done when that stop is.
-/

namespace Proxor.Sys

/-! ### Starts and stops -/

/-- The answers of the hooks for the modes. -/
structure Modes where
  systemProxyOn : Bool
  tunOn : Bool
  tunActive : Bool
deriving DecidableEq

/-- The coordinator, whether a profile runs, the starts that have not decided, those that have to be
reported, whether the core is being stopped (and the user asked), and the stops that have to be
reported. -/
structure GraceWorld where
  coordinator : MacModeCoordinator
  running : Bool
  starts : ℕ := 0
  launched : ℕ := 0
  failed : ℕ := 0
  stopping : Option Bool := none
  finished : List Bool := []
deriving DecidableEq

/-- What happens: the slots of the coordinator, and the ends of starts and stops in between. -/
inductive GraceEvent
  | profileStopping (sem prepareExit : Bool)
  | coreStopped (ok : Bool)
  | profileStopped
  | profileStarting
  | coreStarted (ok : Bool)
  | profileStarted
  | profileStartFailed
  | graceTimeout
deriving DecidableEq

namespace GraceWorld

/-- The answers of the hooks. -/
def hooks (w : GraceWorld) (m : Modes) : Hooks :=
  ⟨m.systemProxyOn, m.tunOn, m.tunActive, w.running⟩

/-- A stop of the user is under way: the core is being stopped, or the end was not reported. -/
def UserInFlight (w : GraceWorld) : Prop := w.stopping = some true ∨ true ∈ w.finished

instance (w : GraceWorld) : Decidable w.UserInFlight := inferInstanceAs (Decidable (_ ∨ _))

/-- The event may happen. -/
def Allowed (w : GraceWorld) : GraceEvent → Prop
  | .profileStopping _ _ => True
  | .coreStopped _ => w.stopping ≠ none
  | .profileStopped => w.finished ≠ []
  | .profileStarting => w.stopping = none
  | .coreStarted _ => 0 < w.starts
  | .profileStarted => 0 < w.launched
  | .profileStartFailed => 0 < w.failed
  | .graceTimeout => w.coordinator.timerActive = true

instance (w : GraceWorld) (e : GraceEvent) : Decidable (w.Allowed e) := by
  cases e <;> unfold Allowed <;> infer_instance

/-- One event. -/
def handle (w : GraceWorld) (e : Modes × GraceEvent) : GraceWorld × List HookCall :=
  let h := w.hooks e.1
  match e.2 with
  | .profileStopping sem prepareExit =>
    let r := w.coordinator.profileStopping h sem prepareExit
    ({ w with
        coordinator := r.1
        stopping := some (w.stopping.getD false || !(sem || prepareExit)) }, r.2)
  | .coreStopped ok =>
    ({ w with
        running := w.running && !ok
        stopping := none
        finished := w.finished ++ w.stopping.toList }, [])
  | .profileStopped =>
    let r := w.coordinator.profileStopped h
    ({ w with coordinator := r.1, finished := w.finished.tail }, r.2)
  | .profileStarting =>
    ({ w with coordinator := w.coordinator.profileStarting, starts := w.starts + 1 }, [])
  | .coreStarted true =>
    ({ w with running := true, starts := w.starts - 1, launched := w.launched + 1 }, [])
  | .coreStarted false => ({ w with starts := w.starts - 1, failed := w.failed + 1 }, [])
  | .profileStarted =>
    let r := w.coordinator.profileStarted h
    ({ w with coordinator := r.1, launched := w.launched - 1 }, r.2)
  | .profileStartFailed =>
    ({ w with coordinator := w.coordinator.profileStartFailed h, failed := w.failed - 1 }, [])
  | .graceTimeout =>
    let r := w.coordinator.onGraceTimeout h
    ({ w with coordinator := r.1 }, r.2)

/-- A stop is reported done while a later stop of the user is under way. -/
def OutOfOrder (w : GraceWorld) (e : GraceEvent) : Prop :=
  e = .profileStopped ∧ (w.stopping = some true ∨ true ∈ w.finished.tail)

instance (w : GraceWorld) (e : GraceEvent) : Decidable (w.OutOfOrder e) :=
  inferInstanceAs (Decidable (_ ∧ _))

end GraceWorld

/-! ### What the window relies on -/

/-- One event of a run. -/
abbrev GraceEntry : Type := Entry GraceWorld (Modes × GraceEvent) (List HookCall)

namespace GraceEntry

/-- A stop of the user begins. -/
def IsUserStop (entry : GraceEntry) : Prop := entry.event.2 = .profileStopping false false

/-- Something is paused. -/
def Pauses (entry : GraceEntry) : Prop := ∃ sp tun, .pause sp tun ∈ entry.out

/-- System Proxy is parked. -/
def Parks (entry : GraceEntry) : Prop := ∃ tun, .pause true tun ∈ entry.out

/-- The timer fires and neither a stop nor a profile holds the pause back. -/
def Evaluates (entry : GraceEntry) : Prop :=
  entry.event.2 = .graceTimeout ∧ entry.before.coordinator.stopInFlight = false ∧
    entry.before.running = false

instance (entry : GraceEntry) : Decidable (Evaluates entry) :=
  inferInstanceAs (Decidable (_ ∧ _ ∧ _))

/-- Whether a pause is owed after an entry. It is after a stop of the user that ended the running
profile and after a failed start with no profile running, until the modes were evaluated, a profile
runs again, or a start begins or is reported. -/
def owedAfter (owed : Bool) (entry : GraceEntry) : Bool :=
  match entry.event.2 with
  | .coreStopped ok =>
    owed || (ok && entry.before.running && decide (entry.before.stopping = some true))
  | .profileStartFailed => owed || !entry.before.running
  | .profileStarting => false
  | .profileStarted => false
  | .coreStarted ok => owed && !ok
  | .graceTimeout => owed && !decide (Evaluates entry)
  | _ => owed

end GraceEntry

open GraceEntry

/-- Whether a pause is owed after a run. -/
def owed (entries : List GraceEntry) : Bool := entries.foldl owedAfter false

/-- A run from a coordinator that did nothing yet. -/
structure GraceRun where
  graceMs : ℤ
  graceMs_pos : 0 < graceMs
  running : Bool
  events : List (Modes × GraceEvent)
  allowed : ∀ entry ∈ history GraceWorld.handle ⟨{ graceMs := graceMs }, running, 0, 0, 0, none, []⟩
    events, entry.before.Allowed entry.event.2

namespace GraceRun

variable (r : GraceRun)

/-- The state a run begins in. -/
def start : GraceWorld := { coordinator := { graceMs := r.graceMs }, running := r.running }

/-- The entries of a run. -/
def entries : List GraceEntry := history GraceWorld.handle r.start r.events

/-- No stop is reported done while a later stop of the user is under way. -/
def InOrder : Prop := ∀ entry ∈ r.entries, ¬ entry.before.OutOfOrder entry.event.2

/-- What the window relies on. -/
structure Guarantees : Prop where
  pause : ∀ entry ∈ r.entries, entry.Pauses →
    entry.before.running = false ∧ ¬ entry.before.UserInFlight
  quick : ∀ l stop m start m' l', r.entries = l ++ stop :: (m ++ start :: (m' ++ l')) →
    stop.IsUserStop → start.event.2 = .profileStarting → (∀ e ∈ m, e.event.2 ≠ .graceTimeout) →
    (∀ e ∈ m', ¬ e.IsUserStop ∧ e.event.2 ≠ .profileStartFailed) →
    ∀ e ∈ m ++ start :: m', ¬ e.Pauses
  parked : ∀ l e m e' l', r.entries = l ++ e :: (m ++ e' :: l') → e.Parks → e'.Parks →
    ∃ s ∈ m, s.event.2 = .profileStarted ∧
      (s.event.1.systemProxyOn = true → ∃ tun, .resume true tun ∈ s.out)
  kept : owed r.entries = true →
    (final GraceWorld.handle r.start r.events).coordinator.pauseScheduled = true
  evaluated : ∀ entry ∈ r.entries, entry.Evaluates →
    (entry.event.1.systemProxyOn = true →
      (entry.before.handle entry.event).1.coordinator.systemProxyParked = true) ∧
    (entry.event.1.tunOn = true → entry.event.1.tunActive = true →
      ∃ sp, .pause sp true ∈ entry.out)

end GraceRun

/-! ### What an event does -/

section Event

variable {w : GraceWorld} {hist : List GraceEntry} {e : Modes × GraceEvent}

/-- With a grace period a stop calls nothing. -/
lemma handle_profileStopping (hgrace : 0 < w.coordinator.graceMs) (m : Modes)
    (sem prepareExit : Bool) :
    w.handle (m, .profileStopping sem prepareExit) =
      ({ w with
          coordinator := if sem || prepareExit then w.coordinator else
            { w.coordinator with stopInFlight := true, waitingForStop := false, timerActive := true }
          stopping := some (w.stopping.getD false || !(sem || prepareExit)) }, []) := by
  rw [GraceWorld.handle]
  dsimp only
  rw [MacModeCoordinator.profileStopping_grace hgrace]

/-- With a grace period the end of a stop calls nothing. -/
lemma handle_profileStopped (hgrace : 0 < w.coordinator.graceMs) (m : Modes) :
    w.handle (m, .profileStopped) =
      ({ w with
          coordinator :=
            { w.coordinator with
              stopInFlight := false
              waitingForStop := false
              timerActive := w.coordinator.timerActive || w.coordinator.waitingForStop }
          finished := w.finished.tail }, []) := by
  rw [GraceWorld.handle]
  dsimp only
  rw [MacModeCoordinator.profileStopped_eq fun h => absurd h.1 (Int.not_le.2 hgrace)]

/-- Only a timeout pauses, and only if neither a stop nor a profile holds it back. -/
lemma pause_mem (hgrace : 0 < w.coordinator.graceMs) {sp tun : Bool}
    (h : .pause sp tun ∈ (w.handle e).2) :
    e.2 = .graceTimeout ∧ w.coordinator.stopInFlight = false ∧ w.running = false ∧
      (sp = true → e.1.systemProxyOn = true ∧ w.coordinator.systemProxyParked = false) := by
  obtain ⟨m, e⟩ := e
  cases e with
  | profileStopping sem prepareExit =>
    rw [handle_profileStopping hgrace] at h
    exact absurd h List.not_mem_nil
  | profileStopped =>
    rw [handle_profileStopped hgrace] at h
    exact absurd h List.not_mem_nil
  | coreStarted ok => cases ok <;> exact absurd h List.not_mem_nil
  | profileStarted =>
    rw [GraceWorld.handle, MacModeCoordinator.profileStarted] at h
    dsimp only at h
    split_ifs at h
    · exact absurd (List.mem_singleton.1 h) HookCall.noConfusion
    · exact absurd h List.not_mem_nil
  | graceTimeout =>
    rw [GraceWorld.handle, MacModeCoordinator.onGraceTimeout] at h
    dsimp only at h
    split_ifs at h with hflight hrunning hnone
    · exact absurd h List.not_mem_nil
    · exact absurd h List.not_mem_nil
    · exact absurd h List.not_mem_nil
    · have hcall := HookCall.pause.inj (List.mem_singleton.1 h)
      refine ⟨rfl, by simpa using hflight, (Bool.not_eq_true _).mp hrunning, fun hsp => ?_⟩
      rw [hcall.1, Bool.and_eq_true] at hsp
      exact ⟨hsp.1, by simpa using hsp.2⟩
  | _ => exact absurd h List.not_mem_nil

lemma handle_profileStartFailed (m : Modes) :
    w.handle (m, .profileStartFailed) =
      ({ w with
          coordinator := if w.running then w.coordinator else w.coordinator.schedule
          failed := w.failed - 1 }, []) := rfl

/-- The invariant of runs in order. -/
structure GraceInv (hist : List GraceEntry) (w : GraceWorld) : Prop where
  grace : 0 < w.coordinator.graceMs
  flag : w.coordinator.stopInFlight = true ↔ w.UserInFlight
  armed : w.stopping = some true → w.coordinator.pauseScheduled = true
  kept : owed hist = true → w.coordinator.pauseScheduled = true ∧ w.running = false

/-- An event in order keeps the invariant. -/
theorem GraceInv.handle (hinv : GraceInv hist w) (hallowed : w.Allowed e.2)
    (horder : ¬ w.OutOfOrder e.2) :
    GraceInv (hist ++ [⟨w, e, (w.handle e).2⟩]) (w.handle e).1 := by
  generalize (w.handle e).2 = out
  have howed : owed (hist ++ [⟨w, e, out⟩]) = owedAfter (owed hist) ⟨w, e, out⟩ :=
    List.foldl_concat ..
  obtain ⟨m, e⟩ := e
  cases e with
  | profileStopping sem prepareExit =>
    rw [handle_profileStopping hinv.grace]
    cases hsem : sem || prepareExit with
    | true =>
      have hstopping : some (w.stopping.getD false || !true) = some true ↔ w.stopping = some true := by
        cases w.stopping <;> simp
      exact ⟨hinv.grace, hinv.flag.trans (or_congr_left hstopping.symm),
        fun h => hinv.armed (hstopping.1 h), fun h => hinv.kept (howed.symm.trans h)⟩
    | false =>
      have hstopping : some (w.stopping.getD false || !false) = some true := by
        rw [Bool.not_false, Bool.or_true]
      exact ⟨hinv.grace, iff_of_true rfl (.inl hstopping), fun _ => rfl,
        fun h => ⟨rfl, (hinv.kept (howed.symm.trans h)).2⟩⟩
  | coreStopped ok =>
    obtain ⟨user, huser⟩ := Option.ne_none_iff_exists'.1 hallowed
    refine ⟨hinv.grace, hinv.flag.trans ?_, nofun, fun h => ?_⟩
    · simp only [GraceWorld.UserInFlight, GraceWorld.handle, huser]
      simp [or_comm, eq_comm]
    · rw [howed, owedAfter] at h
      dsimp only at h
      rw [Bool.or_eq_true, Bool.and_eq_true, Bool.and_eq_true, decide_eq_true_iff] at h
      rcases h with h | ⟨⟨hok, -⟩, hstopping⟩
      · obtain ⟨hscheduled, hrunning⟩ := hinv.kept h
        exact ⟨hscheduled, by simp [GraceWorld.handle, hrunning]⟩
      · exact ⟨hinv.armed hstopping, by simp [GraceWorld.handle, hok]⟩
  | profileStopped =>
    have hnone : ¬(w.stopping = some true ∨ true ∈ w.finished.tail) := fun h => horder ⟨rfl, h⟩
    rw [handle_profileStopped hinv.grace]
    refine ⟨hinv.grace, iff_of_false nofun hnone, fun h => absurd (.inl h) hnone, fun h => ?_⟩
    obtain ⟨hscheduled, hrunning⟩ := hinv.kept (howed.symm.trans h)
    exact ⟨by rwa [MacModeCoordinator.pauseScheduled, Bool.or_false], hrunning⟩
  | profileStarting =>
    exact ⟨hinv.grace, hinv.flag, fun h => absurd (hallowed.symm.trans h) nofun,
      fun h => absurd (howed.symm.trans h) nofun⟩
  | coreStarted ok =>
    cases ok with
    | true =>
      refine ⟨hinv.grace, hinv.flag, hinv.armed, fun h => ?_⟩
      rw [howed, owedAfter] at h
      simp at h
    | false =>
      refine ⟨hinv.grace, hinv.flag, hinv.armed, fun h => hinv.kept ?_⟩
      rw [howed, owedAfter] at h
      simpa using h
  | profileStarted =>
    exact ⟨hinv.grace, hinv.flag, hinv.armed, fun h => absurd (howed.symm.trans h) nofun⟩
  | profileStartFailed =>
    rw [handle_profileStartFailed]
    cases hrunning : w.running with
    | true =>
      refine ⟨hinv.grace, hinv.flag, hinv.armed, fun h => ?_⟩
      rw [howed, owedAfter, hrunning] at h
      exact absurd (hrunning.symm.trans (hinv.kept (by simpa using h)).2) nofun
    | false => exact ⟨hinv.grace, hinv.flag, fun _ => rfl, fun _ => ⟨rfl, rfl⟩⟩
  | graceTimeout =>
    rw [owedAfter, Bool.and_eq_decide] at howed
    cases hflight : w.coordinator.stopInFlight with
    | true =>
      have htimeout := MacModeCoordinator.onGraceTimeout_flight (h := w.hooks m) hflight
      simp only [GraceWorld.handle, htimeout]
      refine ⟨hinv.grace, hinv.flag, fun _ => rfl, fun h => ⟨rfl, (hinv.kept ?_).2⟩⟩
      rw [howed, decide_eq_true_iff] at h
      exact h.1
    | false =>
      have hnone : ¬ w.UserInFlight := fun h => absurd (hflight.symm.trans (hinv.flag.2 h)) nofun
      cases hrunning : w.running with
      | true =>
        have htimeout := MacModeCoordinator.onGraceTimeout_running (h := w.hooks m) hflight hrunning
        simp only [GraceWorld.handle, htimeout]
        refine ⟨hinv.grace, hinv.flag, fun h => absurd (.inl h) hnone, fun h => ?_⟩
        rw [howed, decide_eq_true_iff] at h
        exact absurd (hrunning.symm.trans (hinv.kept h.1).2) nofun
      | false =>
        have htimeout := MacModeCoordinator.onGraceTimeout_eq (h := w.hooks m) hflight hrunning
        have hfields := MacModeCoordinator.pauseNow_fields (h := w.hooks m)
          (c := { w.coordinator with timerActive := false })
        simp only [GraceWorld.handle, htimeout]
        rw [hfields]
        refine ⟨hinv.grace, hinv.flag, fun h => absurd (.inl h) hnone, fun h => ?_⟩
        rw [howed, decide_eq_true_iff] at h
        have hevaluates : GraceEntry.Evaluates ⟨w, (m, .graceTimeout), out⟩ :=
          ⟨rfl, hflight, hrunning⟩
        exact absurd (decide_eq_true hevaluates) (by simpa using h.2)

/-- What every event keeps of the coordinator: the grace period, and a parked proxy unless a start is
reported. -/
lemma handle_keeps (hgrace : 0 < w.coordinator.graceMs) :
    0 < (w.handle e).1.coordinator.graceMs ∧ (e.2 ≠ .profileStarted →
      w.coordinator.systemProxyParked = true →
      (w.handle e).1.coordinator.systemProxyParked = true) := by
  obtain ⟨m, e⟩ := e
  cases e with
  | profileStopping sem prepareExit =>
    rw [handle_profileStopping hgrace]
    cases sem || prepareExit <;> exact ⟨hgrace, fun _ => id⟩
  | profileStopped =>
    rw [handle_profileStopped hgrace]
    exact ⟨hgrace, fun _ => id⟩
  | coreStarted ok => cases ok <;> exact ⟨hgrace, fun _ => id⟩
  | profileStarted => exact ⟨hgrace, fun h => absurd rfl h⟩
  | profileStartFailed =>
    rw [handle_profileStartFailed]
    cases w.running <;> exact ⟨hgrace, fun _ => id⟩
  | graceTimeout =>
    rw [GraceWorld.handle]
    dsimp only
    unfold MacModeCoordinator.onGraceTimeout
    dsimp only
    split_ifs
    · exact ⟨hgrace, fun _ => id⟩
    · exact ⟨hgrace, fun _ => id⟩
    · exact ⟨hgrace, fun _ => id⟩
    · exact ⟨hgrace, fun _ h => by rw [h, Bool.or_true]⟩
  | _ => exact ⟨hgrace, fun _ => id⟩

/-- A timeout that evaluates the modes pauses what is on. -/
lemma evaluated_handle (htimeout : e.2 = .graceTimeout)
    (hflight : w.coordinator.stopInFlight = false) (hrunning : w.running = false) :
    (e.1.systemProxyOn = true → (w.handle e).1.coordinator.systemProxyParked = true) ∧
      (e.1.tunOn = true → e.1.tunActive = true → ∃ sp, .pause sp true ∈ (w.handle e).2) := by
  obtain ⟨m, e⟩ := e
  obtain rfl : e = .graceTimeout := htimeout
  rw [GraceWorld.handle]
  dsimp only
  rw [MacModeCoordinator.onGraceTimeout_eq hflight hrunning, MacModeCoordinator.pauseNow_parked]
  exact ⟨fun hon => Bool.or_eq_true_iff.2 (.inl hon), fun hon hactive =>
    MacModeCoordinator.pauseNow_tun (h := w.hooks m) hon hactive⟩

/-- The report of a start resumes a parked proxy. -/
lemma resume_mem (hstarted : e.2 = .profileStarted)
    (hparked : w.coordinator.systemProxyParked = true) (hon : e.1.systemProxyOn = true) :
    ∃ tun, .resume true tun ∈ (w.handle e).2 := by
  obtain ⟨m, e⟩ := e
  obtain rfl : e = .profileStarted := hstarted
  exact MacModeCoordinator.profileStarted_resume (h := w.hooks m) hparked hon

/-- While nothing is scheduled and neither the user stops nor a start fails, nothing gets scheduled. -/
lemma idle_handle (hgrace : 0 < w.coordinator.graceMs) (hallowed : w.Allowed e.2)
    (hstop : e.2 ≠ .profileStopping false false) (hfail : e.2 ≠ .profileStartFailed)
    (hidle : w.coordinator.pauseScheduled = false) :
    (w.handle e).1.coordinator.pauseScheduled = false := by
  obtain ⟨m, e⟩ := e
  cases e with
  | profileStopping sem prepareExit =>
    rw [handle_profileStopping hgrace]
    have hsem : (sem || prepareExit) = true := by
      cases sem <;> cases prepareExit <;> first | rfl | exact absurd rfl hstop
    rw [hsem]
    exact hidle
  | profileStopped =>
    rw [handle_profileStopped hgrace]
    exact (Bool.or_false _).trans hidle
  | coreStarted ok => cases ok <;> exact hidle
  | profileStartFailed => exact absurd rfl hfail
  | graceTimeout => exact absurd hallowed (by simp [(Bool.or_eq_false_iff.1 hidle).1, GraceWorld.Allowed])
  | profileStarting => rfl
  | _ => exact hidle

end Event

/-! ### Runs -/

namespace GraceRun

variable (r : GraceRun)

/-- The grace period stays. -/
lemma grace_before {entry : GraceEntry} (hentry : entry ∈ r.entries) :
    0 < entry.before.coordinator.graceMs := by
  obtain ⟨l, l', h⟩ := List.append_of_mem hentry
  exact (history_rule GraceWorld.handle r.start r.events
    (I := fun _ w => 0 < w.coordinator.graceMs) (A := fun _ _ _ => True)
    (G := fun _ e => 0 < e.before.coordinator.graceMs) r.graceMs_pos
    (fun _ _ _ hgrace _ => ⟨hgrace, (handle_keeps hgrace).1⟩) fun _ _ _ _ => trivial).2 l entry l' h

/-- What an entry calls. -/
lemma out_eq {entry : GraceEntry} (hentry : entry ∈ r.entries) :
    entry.out = (entry.before.handle entry.event).2 := by
  obtain ⟨l, l', h⟩ := List.append_of_mem hentry
  exact (history_split h).2.1

/-- Only a timeout pauses. -/
lemma timeout_of_pauses {entry : GraceEntry} (hentry : entry ∈ r.entries)
    (hpauses : entry.Pauses) : entry.event.2 = .graceTimeout := by
  obtain ⟨sp, tun, h⟩ := hpauses
  rw [r.out_eq hentry] at h
  exact (pause_mem (r.grace_before hentry) h).1

/-- The proxy is parked when it was not, and stays parked. -/
lemma parked_of_parks {entry : GraceEntry} (hentry : entry ∈ r.entries) (hparks : entry.Parks) :
    entry.before.coordinator.systemProxyParked = false ∧
      (entry.before.handle entry.event).1.coordinator.systemProxyParked = true := by
  obtain ⟨tun, h⟩ := hparks
  rw [r.out_eq hentry] at h
  obtain ⟨htimeout, hflight, hrunning, hparked⟩ := pause_mem (r.grace_before hentry) h
  obtain ⟨hon, hparked⟩ := hparked rfl
  exact ⟨hparked, (evaluated_handle htimeout hflight hrunning).1 hon⟩

/-- System Proxy is parked at most once before a start is reported. -/
lemma resumed_between {l m l' : List GraceEntry} {e e' : GraceEntry}
    (h : r.entries = l ++ e :: (m ++ e' :: l')) (he : e.Parks) (he' : e'.Parks) :
    ∃ s ∈ m, s.event.2 = .profileStarted ∧
      (s.event.1.systemProxyOn = true → ∃ tun, .resume true tun ∈ s.out) := by
  have hmem {x : GraceEntry} (hx : x ∈ m) : x ∈ r.entries := by
    rw [h]
    exact List.mem_append_right _ (List.mem_cons_of_mem _ (List.mem_append_left _ hx))
  have hkeep {x : GraceEntry} (hx : x ∈ r.entries) (hne : x.event.2 ≠ .profileStarted)
      (hparked : x.before.coordinator.systemProxyParked = true) :
      (x.before.handle x.event).1.coordinator.systemProxyParked = true :=
    (handle_keeps (r.grace_before hx)).2 hne hparked
  have hafter := (r.parked_of_parks (h ▸ List.mem_append_cons_self) he).2
  have hstarted : ∃ s ∈ m, s.event.2 = .profileStarted := by
    by_contra hnone
    have hbefore : e'.before.coordinator.systemProxyParked = true :=
      history_persist (P := fun w => w.coordinator.systemProxyParked = true) h hafter
        fun x hx hparked => hkeep (hmem hx) (fun hx' => hnone ⟨x, hx, hx'⟩) hparked
    have hnot := (r.parked_of_parks (h ▸ List.mem_append_right _ (List.mem_cons_of_mem _
      (List.mem_append_right _ List.mem_cons_self))) he').1
    exact absurd (hbefore.symm.trans hnot) nofun
  obtain ⟨m₁, s, m₂, rfl, hs, hm₁⟩ := exists_first hstarted
  refine ⟨s, List.mem_append_cons_self, hs, fun hon => ?_⟩
  rw [List.append_assoc, List.cons_append] at h
  have hparked : s.before.coordinator.systemProxyParked = true :=
    history_persist (P := fun w => w.coordinator.systemProxyParked = true) h hafter
      fun x hx hparked => hkeep (hmem (List.mem_append_left _ hx)) (hm₁ x hx) hparked
  rw [r.out_eq (hmem List.mem_append_cons_self)]
  exact resume_mem hs hparked hon

/-- A quick start after a stop of the user leaves nothing to pause. -/
lemma quick_start {l m m' l' : List GraceEntry} {stop start : GraceEntry}
    (h : r.entries = l ++ stop :: (m ++ start :: (m' ++ l')))
    (hstop : stop.IsUserStop) (hstart : start.event.2 = .profileStarting)
    (hm : ∀ e ∈ m, e.event.2 ≠ .graceTimeout)
    (hm' : ∀ e ∈ m', ¬ e.IsUserStop ∧ e.event.2 ≠ .profileStartFailed) :
    ∀ e ∈ m ++ start :: m', ¬ e.Pauses := by
  intro e he hpauses
  have hmem : e ∈ r.entries := by
    rw [h]
    rcases List.mem_append.1 he with he | he
    · exact List.mem_append_right _ (List.mem_cons_of_mem _ (List.mem_append_left _ he))
    · refine List.mem_append_right _ (List.mem_cons_of_mem _ (List.mem_append_right _ ?_))
      exact List.mem_append_left l' he
  have htimeout := r.timeout_of_pauses hmem hpauses
  rcases List.mem_append.1 he with he | he
  · exact hm e he htimeout
  rcases List.mem_cons.1 he with rfl | he
  · exact absurd (hstart.symm.trans htimeout) nofun
  -- Nothing is scheduled from the start on, so the timer cannot have fired.
  obtain ⟨m₁, m₂, rfl⟩ := List.append_of_mem he
  rw [List.append_assoc, List.cons_append, ← List.cons_append, ← List.append_assoc] at h
  have hidle : e.before.coordinator.pauseScheduled = false := by
    refine history_persist (P := fun w => w.coordinator.pauseScheduled = false) h ?_ fun x hx => ?_
    · obtain ⟨event, hevent⟩ : ∃ event, start.event = (event, .profileStarting) := ⟨_, by rw [← hstart]⟩
      rw [hevent]
      rfl
    · have hx' : x ∈ r.entries := by
        rw [h]
        exact List.mem_append_right _ (List.mem_cons_of_mem _ (List.mem_append_left _ hx))
      obtain ⟨hstop', hfail⟩ := hm' x (List.mem_append_left _ hx)
      exact idle_handle (r.grace_before hx') (r.allowed x hx') hstop' hfail
  have hactive := r.allowed e hmem
  rw [htimeout] at hactive
  exact absurd ((Bool.or_eq_false_iff.1 hidle).1.symm.trans hactive) nofun

end GraceRun

/-- **Runs in order give what the window relies on.**

**Proof sketch.** In such runs the coordinator knows whether a stop of the user is under way, and
while one is or a pause is owed, a pause is scheduled (`GraceInv.handle`). Only a timeout pauses
(`pause_mem`). A parked proxy stays parked until a start is reported (`handle_keeps`), and after a
start nothing is scheduled until the user stops or a start fails (`idle_handle`). -/
theorem grace_guarantees (r : GraceRun) (horder : r.InOrder) : r.Guarantees := by
  have hinit : GraceInv [] r.start :=
    ⟨r.graceMs_pos, iff_of_false nofun (by rintro (h | h) <;> simp [GraceRun.start] at h), nofun, nofun⟩
  obtain ⟨hinv, hgood⟩ := history_rule GraceWorld.handle r.start r.events (I := GraceInv)
    (A := fun _ w e => w.Allowed e.2 ∧ ¬ w.OutOfOrder e.2)
    (G := fun hist entry => GraceInv hist entry.before) hinit
    (fun hist w e hinv hassumed => ⟨hinv, hinv.handle hassumed.1 hassumed.2⟩)
    fun l entry l' h => (by
      have hentry : entry ∈ r.entries := by
        rw [GraceRun.entries, h]
        exact List.mem_append_cons_self
      exact ⟨r.allowed entry hentry, horder entry hentry⟩)
  refine ⟨fun entry hentry hpauses => ?_, fun l stop m start m' l' h => r.quick_start h,
    fun l e m e' l' h => r.resumed_between h, fun howed => (hinv.kept howed).1,
    fun entry hentry hevaluates => ?_⟩
  · obtain ⟨l, l', h⟩ := List.append_of_mem hentry
    obtain ⟨sp, tun, hpause⟩ := hpauses
    rw [r.out_eq hentry] at hpause
    obtain ⟨-, hflight, hrunning, -⟩ := pause_mem (r.grace_before hentry) hpause
    exact ⟨hrunning, fun hin => absurd (hflight.symm.trans ((hgood l entry l' h).flag.2 hin)) nofun⟩
  · rw [r.out_eq hentry]
    exact evaluated_handle hevaluates.1 hevaluates.2.1 hevaluates.2.2

/-- Both modes are on. -/
def modesOn : Modes := ⟨true, true, true⟩

/-- A stop, a start while its timer runs, and a stop that lasts. -/
def quickRun : GraceRun where
  graceMs := 750
  graceMs_pos := by decide
  running := true
  events := [(modesOn, .profileStopping false false), (modesOn, .coreStopped true),
    (modesOn, .profileStopped), (modesOn, .profileStarting), (modesOn, .coreStarted true),
    (modesOn, .profileStarted), (modesOn, .profileStopping false false),
    (modesOn, .coreStopped true), (modesOn, .graceTimeout), (modesOn, .profileStopped),
    (modesOn, .graceTimeout)]
  allowed := by decide

theorem grace_guarantees_quickRun : quickRun.Guarantees :=
  grace_guarantees quickRun (by unfold GraceRun.InOrder; decide)

/-- The end of the first stop is reported while a second stop of the user is under way, which outlasts
the grace period. -/
def lateRun : GraceRun where
  graceMs := 750
  graceMs_pos := by decide
  running := true
  events := [(modesOn, .profileStopping false false), (modesOn, .coreStopped true),
    (modesOn, .profileStarting), (modesOn, .coreStarted true),
    (modesOn, .profileStopping false false), (modesOn, .profileStopped), (modesOn, .graceTimeout),
    (modesOn, .coreStopped true)]
  allowed := by decide

/-- The second stop is forgotten: no profile runs and nothing is scheduled. -/
theorem not_grace_guarantees : ¬ lateRun.Guarantees :=
  fun h => absurd (h.kept (by decide)) (by decide)

end Proxor.Sys
