import Mathlib.Data.List.Chain
import Proxor.Lib.Run
import Proxor.Sys.MacModeCoordinator

set_option relaxedAutoImplicit false
set_option autoImplicit false

/-!
# Stops without a grace period

The window runs the coordinator without a grace period. Starts and stops have threads of their own,
which change whether a profile runs and post to the window what they did.

## Main definitions

* `Proxor.Sys.StopWorld`, `Proxor.Sys.StopWorld.handle` — the window, its threads and its events.
* `Proxor.Sys.StopRun` — any interleaving, from a running profile with both modes applied.
* `Proxor.Sys.StopRun.Guarantees` — the modes follow the profile.
* `Proxor.Sys.StopRun.InOrder` — nothing that resumes the modes is delivered while the user's stop is
  stopping the core or, after a start, when no profile runs.

## Main results

* `Proxor.Sys.stop_guarantees` — in such runs they do.
* `Proxor.Sys.not_stop_guarantees` — in another the modes stay on without a profile.

## Design

A thread that has released its mutex may be slow to post: what it will post is in `outbox`. Both
switches are on and do not change, and what the coordinator asks for is done at once.
-/

namespace Proxor.Sys

/-! ### The window and its threads -/

/-- Where a start thread is: before it decided anything, waiting for the old profile to be stopped,
starting the core, started and failed without having posted it, and posted. -/
inductive StartPhase
  | begun | waiting | launching | launched | failed | done
deriving DecidableEq

/-- A stop thread: whether the user asked, whether a start thread waits for it, and whether it has
stopped the core or failed. -/
structure StopThread where
  user : Bool
  sem : Bool
  ended : Bool
deriving DecidableEq

/-- What is posted to the window. -/
inductive Posted
  | restartStop | started | startFailed | stopped
deriving DecidableEq

/-- The window: the coordinator, whether a profile runs (`started_id`) and Tun is active, the threads
that hold `mu_starting` and `mu_stopping`, `sem_stopped`, and the posted events. -/
structure StopWorld where
  coordinator : MacModeCoordinator
  running : Bool
  tunActive : Bool
  startThread : Option StartPhase := none
  stopThread : Option StopThread := none
  sem : ℕ := 0
  outbox : List Posted := []
  queue : List Posted := []
deriving DecidableEq

/-- What happens. -/
inductive StopEvent
  | userStart
  | userStop
  | startGivesUp
  | startGoesOn
  | startAcquires
  | coreStarted (ok : Bool)
  | startPosts
  | startUnlocks
  | coreStopped (ok : Bool)
  | stopUnlocks
  | post (p : Posted)
  | deliver
  | timeout
deriving DecidableEq

namespace StopWorld

/-- The answers of the hooks. -/
def hooks (w : StopWorld) : Hooks := ⟨true, true, w.tunActive, w.running⟩

/-- Tun after a call. -/
def follow (tunActive : Bool) : HookCall → Bool
  | .pause _ tun => tunActive && !tun
  | .resume _ tun => tunActive || tun

/-- What the coordinator asks for is done. -/
def call (w : StopWorld) (r : MacModeCoordinator × List HookCall) : StopWorld × List HookCall :=
  ({ w with coordinator := r.1, tunActive := r.2.foldl follow w.tunActive }, r.2)

/-- `proxor_stop` in the window: of the user, or for a start that waits. -/
def proxorStop (w : StopWorld) (sem : Bool) : StopWorld × List HookCall :=
  if !w.running then ({ w with sem := w.sem + sem.toNat }, [])
  else
    let r := w.call (w.coordinator.profileStopping w.hooks sem false)
    match w.stopThread with
    | some t =>
      ({ r.1 with stopThread := some { t with user := t.user || !sem }, sem := w.sem + sem.toNat },
        r.2)
    | none => ({ r.1 with stopThread := some ⟨!sem, sem, false⟩ }, r.2)

/-- A posted event is delivered. -/
def deliver (w : StopWorld) : Posted → StopWorld × List HookCall
  | .restartStop => w.proxorStop true
  | .started => w.call (w.coordinator.profileStarted w.hooks)
  | .startFailed => w.call (w.coordinator.profileStartFailed w.hooks, [])
  | .stopped => w.call (w.coordinator.profileStopped w.hooks)

/-- The event may happen. -/
def Allowed (w : StopWorld) : StopEvent → Prop
  | .userStart => w.startThread = none ∧ w.stopThread = none
  | .userStop => True
  | .startGivesUp => w.startThread = some .begun
  | .startGoesOn => w.startThread = some .begun
  | .startAcquires => w.startThread = some .waiting ∧ 0 < w.sem
  | .coreStarted _ => w.startThread = some .launching
  | .startPosts => w.startThread = some .launched ∨ w.startThread = some .failed
  | .startUnlocks => w.startThread = some .done
  | .coreStopped _ => w.stopThread.map StopThread.ended = some false
  | .stopUnlocks => w.stopThread.map StopThread.ended = some true
  | .post p => p ∈ w.outbox
  | .deliver => w.queue ≠ []
  | .timeout => w.coordinator.timerActive = true

instance (w : StopWorld) (e : StopEvent) : Decidable (w.Allowed e) := by
  cases e <;> unfold Allowed <;> infer_instance

/-- One event. -/
def handle (w : StopWorld) : StopEvent → StopWorld × List HookCall
  | .userStart =>
    ({ w with coordinator := w.coordinator.profileStarting, startThread := some .begun }, [])
  | .userStop => w.proxorStop false
  | .startGivesUp => ({ w with startThread := none, outbox := w.outbox ++ [.startFailed] }, [])
  | .startGoesOn =>
    if w.running then
      ({ w with startThread := some .waiting, queue := w.queue ++ [.restartStop] }, [])
    else ({ w with startThread := some .launching }, [])
  | .startAcquires => ({ w with startThread := some .launching, sem := w.sem - 1 }, [])
  | .coreStarted true => ({ w with startThread := some .launched, running := true }, [])
  | .coreStarted false => ({ w with startThread := some .failed }, [])
  | .startPosts =>
    let p := if w.startThread = some .launched then .started else .startFailed
    ({ w with startThread := some .done, queue := w.queue ++ [p] }, [])
  | .startUnlocks => ({ w with startThread := none }, [])
  | .coreStopped ok =>
    ({ w with
        running := w.running && !ok
        stopThread := w.stopThread.map fun t => { t with ended := true } }, [])
  | .stopUnlocks =>
    ({ w with
        stopThread := none
        sem := w.sem + (w.stopThread.any StopThread.sem).toNat
        outbox := w.outbox ++ [.stopped] }, [])
  | .post p => ({ w with outbox := w.outbox.erase p, queue := w.queue ++ [p] }, [])
  | .deliver =>
    match w.queue with
    | [] => (w, [])
    | p :: queue => { w with queue := queue }.deliver p
  | .timeout => w.call (w.coordinator.onGraceTimeout w.hooks)

/-! ### What the user relies on -/

/-- The user's stop is stopping the core. -/
def UserStopping (w : StopWorld) : Prop :=
  ∃ t, w.stopThread = some t ∧ t.user = true ∧ t.ended = false

/-- What would resume the modes is delivered while the user's stop is stopping the core, or a start
is reported when no profile runs. -/
def OutOfOrder (w : StopWorld) (e : StopEvent) : Prop :=
  e = .deliver ∧ (w.queue.head? = some .started ∧ (w.running = false ∨ w.UserStopping) ∨
    w.queue.head? = some .stopped ∧ w.running = true ∧ w.UserStopping)

/-- Nothing is under way. -/
def Settled (w : StopWorld) : Prop :=
  w.startThread = none ∧ w.stopThread = none ∧ w.outbox = [] ∧ w.queue = [] ∧
    w.coordinator.timerActive = false

/-- Both modes are applied if a profile runs, and paused if none does. -/
def Agrees (w : StopWorld) : Prop :=
  w.coordinator.systemProxyParked = !w.running ∧ w.tunActive = w.running

end StopWorld

/-- One event of a run. -/
abbrev StopEntry : Type := Entry StopWorld StopEvent (List HookCall)

/-- A call that pauses (true) or resumes (false) System Proxy. -/
def proxyCall : HookCall → Option Bool
  | .pause sp _ => if sp then some true else none
  | .resume sp _ => if sp then some false else none

/-- The pauses and resumes of System Proxy, in order. -/
def proxyCalls (entries : List StopEntry) : List Bool :=
  entries.flatMap fun entry => entry.out.filterMap proxyCall

/-- A run from a running profile with both modes applied. -/
structure StopRun where
  graceMs : ℤ
  graceMs_nonpos : graceMs ≤ 0
  events : List StopEvent
  allowed : ∀ entry ∈ history StopWorld.handle
    ⟨{ graceMs := graceMs }, true, true, none, none, 0, [], []⟩ events,
    entry.before.Allowed entry.event

namespace StopRun

variable (r : StopRun)

/-- The state a run begins in. -/
def start : StopWorld :=
  { coordinator := { graceMs := r.graceMs }, running := true, tunActive := true }

/-- The entries of a run. -/
def entries : List StopEntry := history StopWorld.handle r.start r.events

/-- Nothing that resumes the modes is delivered while the user's stop is stopping the core, and no
start is reported when no profile runs. -/
def InOrder : Prop := ∀ entry ∈ r.entries, ¬ entry.before.OutOfOrder entry.event

/-- System Proxy is paused and resumed in turn, a pause first, and whenever nothing is under way the
modes are applied exactly if a profile runs. -/
structure Guarantees : Prop where
  alternate : (proxyCalls r.entries).IsChain (· ≠ ·) ∧ (proxyCalls r.entries).head? ≠ some false
  agrees : ∀ l l', r.events = l ++ l' → (final StopWorld.handle r.start l).Settled →
    (final StopWorld.handle r.start l).Agrees

end StopRun

/-! ### What the coordinator asks for -/

section World

variable {w : StopWorld} {c : MacModeCoordinator}

/-- Both modes are paused together, once. -/
lemma call_pauseNow (hsync : w.tunActive = !c.systemProxyParked) :
    w.call (c.pauseNow w.hooks) =
      ({ w with
          coordinator :=
            { c with systemProxyParked := true, tunPaused := !c.systemProxyParked || c.tunPaused }
          tunActive := false }, if c.systemProxyParked then [] else [.pause true true]) := by
  obtain ⟨graceMs, timerActive, stopInFlight, waitingForStop, parked, tunPaused⟩ := c
  cases parked <;> simp_all [StopWorld.call, MacModeCoordinator.pauseNow, StopWorld.hooks,
    StopWorld.follow]

/-- Both modes are resumed together, once. -/
lemma call_profileStarted (hsync : w.tunActive = !c.systemProxyParked) :
    w.call (c.profileStarted w.hooks) =
      ({ w with
          coordinator := { c with systemProxyParked := false, tunPaused := false }
          tunActive := true }, if c.systemProxyParked then [.resume true true] else []) := by
  obtain ⟨graceMs, timerActive, stopInFlight, waitingForStop, parked, tunPaused⟩ := c
  cases parked <;> simp_all [StopWorld.call, MacModeCoordinator.profileStarted, StopWorld.hooks,
    StopWorld.follow]

/-! ### The invariant -/

/-- An event is posted, or about to be. -/
def StopWorld.Pending (w : StopWorld) (p : Posted) : Prop := p ∈ w.outbox ∨ p ∈ w.queue

/-- A start is under way and no profile runs through it yet. -/
def StopWorld.Undecided (w : StopWorld) : Prop :=
  w.startThread = some .begun ∨ w.startThread = some .waiting ∨ w.startThread = some .launching ∨
    w.startThread = some .failed

/-- A stop is under way or has to be reported. -/
def StopWorld.StopPending (w : StopWorld) : Prop := w.stopThread ≠ none ∨ w.Pending .stopped

/-- The invariant: what will resume the modes of a running profile, what will pause them when none
runs, and who waits for whom. -/
structure StopInv (w : StopWorld) : Prop where
  grace : w.coordinator.graceMs ≤ 0
  sync : w.tunActive = !w.coordinator.systemProxyParked
  resumes : w.coordinator.systemProxyParked = true → w.running = true →
    w.Pending .started ∨ w.startThread = some .launched ∨ w.StopPending
  pauses : w.coordinator.systemProxyParked = false → w.running = false →
    w.Undecided ∨ w.Pending .startFailed ∨ w.coordinator.timerActive = true ∨
      w.coordinator.waitingForStop = true ∧ w.StopPending
  held : w.UserStopping → w.coordinator.systemProxyParked = true
  flight : w.coordinator.stopInFlight = true → w.StopPending
  asked : ∀ t, w.stopThread = some t → t.user = true ∨ t.sem = true
  waits : w.sem + w.queue.count .restartStop + (w.stopThread.any StopThread.sem).toNat =
    if w.startThread = some .waiting then 1 else 0
  outbox : .restartStop ∉ w.outbox

/-- When nothing is under way the modes follow the profile. -/
lemma StopInv.agrees (hinv : StopInv w) (hsettled : w.Settled) : w.Agrees := by
  obtain ⟨hstart, hstop, houtbox, hqueue, htimer⟩ := hsettled
  have hpending (p : Posted) : ¬ w.Pending p := by
    rintro (h | h)
    · exact List.not_mem_nil (houtbox ▸ h)
    · exact List.not_mem_nil (hqueue ▸ h)
  have hstopPending : ¬ w.StopPending := fun h => h.elim (fun h => h hstop) (hpending _)
  have hundecided : ¬ w.Undecided := by
    rintro (h | h | h | h) <;> exact absurd (hstart.symm.trans h) nofun
  have hparked : w.coordinator.systemProxyParked = !w.running := by
    cases hparked : w.coordinator.systemProxyParked with
    | true =>
      cases hrunning : w.running with
      | true =>
        rcases hinv.resumes hparked hrunning with h | h | h
        · exact absurd h (hpending _)
        · exact absurd (hstart.symm.trans h) nofun
        · exact absurd h hstopPending
      | false => rfl
    | false =>
      cases hrunning : w.running with
      | true => rfl
      | false =>
        rcases hinv.pauses hparked hrunning with h | h | h | h
        · exact absurd h hundecided
        · exact absurd h (hpending _)
        · exact absurd (htimer.symm.trans h) nofun
        · exact absurd h.2 hstopPending
  exact ⟨hparked, by rw [hinv.sync, hparked, Bool.not_not]⟩

/-- The start thread waits for a stop that is for it. -/
lemma StopInv.waiting (hinv : StopInv w) {t : StopThread} (ht : w.stopThread = some t)
    (hsem : t.sem = true) : w.startThread = some .waiting := by
  have hwaits := hinv.waits
  rw [ht, Option.any_some, hsem] at hwaits
  by_contra hne
  rw [if_neg hne] at hwaits
  exact absurd hwaits (by simp)

/-! ### The threads -/

/-- A step of a start thread, or a post: nothing else changes and nothing posted is lost. -/
structure Moves (w w' : StopWorld) : Prop where
  coordinator : w'.coordinator = w.coordinator
  running : w'.running = w.running
  tunActive : w'.tunActive = w.tunActive
  stopThread : w'.stopThread = w.stopThread
  pending : ∀ p, p ≠ .restartStop → w.Pending p → w'.Pending p

variable {w' : StopWorld}

lemma Moves.stopPending (h : Moves w w') (hstop : w.StopPending) : w'.StopPending := by
  rcases hstop with hstop | hstop
  · exact .inl (by rwa [h.stopThread])
  · exact .inr (h.pending _ nofun hstop)

/-- A step of a start thread keeps the invariant. -/
lemma StopInv.moves (hinv : StopInv w) (h : Moves w w')
    (hlaunched : w.startThread = some .launched →
      w'.startThread = some .launched ∨ w'.Pending .started)
    (hundecided : w.Undecided → w'.Undecided ∨ w'.Pending .startFailed)
    (hwaits : w'.sem + w'.queue.count .restartStop + (w.stopThread.any StopThread.sem).toNat =
      if w'.startThread = some .waiting then 1 else 0)
    (houtbox : .restartStop ∉ w'.outbox) : StopInv w' where
  grace := by rw [h.coordinator]; exact hinv.grace
  sync := by rw [h.coordinator, h.tunActive]; exact hinv.sync
  resumes hparked hrunning := by
    rw [h.coordinator] at hparked
    rw [h.running] at hrunning
    rcases hinv.resumes hparked hrunning with hstarted | hstarted | hstop
    · exact .inl (h.pending _ nofun hstarted)
    · exact (hlaunched hstarted).elim (fun h => .inr (.inl h)) .inl
    · exact .inr (.inr (h.stopPending hstop))
  pauses hparked hrunning := by
    rw [h.coordinator] at hparked ⊢
    rw [h.running] at hrunning
    rcases hinv.pauses hparked hrunning with hstart | hfailed | htimer | ⟨hwaiting, hstop⟩
    · exact (hundecided hstart).elim .inl fun h => .inr (.inl h)
    · exact .inr (.inl (h.pending _ nofun hfailed))
    · exact .inr (.inr (.inl htimer))
    · exact .inr (.inr (.inr ⟨hwaiting, h.stopPending hstop⟩))
  held := by
    rw [StopWorld.UserStopping, h.stopThread, h.coordinator]
    exact hinv.held
  flight := by
    rw [h.coordinator]
    exact fun hflight => h.stopPending (hinv.flight hflight)
  asked := by rw [h.stopThread]; exact hinv.asked
  waits := by rw [h.stopThread]; exact hwaits
  outbox := houtbox

/-- The stop of the user pauses both modes. -/
lemma profileStopping_user (hgrace : w.coordinator.graceMs ≤ 0)
    (hsync : w.tunActive = !w.coordinator.systemProxyParked) :
    w.call (w.coordinator.profileStopping w.hooks false false) =
      ({ w with
          coordinator := { w.coordinator with
            stopInFlight := true, systemProxyParked := true,
            tunPaused := !w.coordinator.systemProxyParked || w.coordinator.tunPaused }
          tunActive := false }, if w.coordinator.systemProxyParked then [] else [.pause true true]) := by
  rw [MacModeCoordinator.profileStopping, if_neg (by decide)]
  dsimp only
  rw [if_pos hgrace]
  exact call_pauseNow (c := { w.coordinator with stopInFlight := true }) hsync

/-- A start that is reported resumes both modes. -/
lemma deliver_started (hsync : w.tunActive = !w.coordinator.systemProxyParked) :
    w.deliver .started =
      ({ w with
          coordinator := { w.coordinator with systemProxyParked := false, tunPaused := false }
          tunActive := true },
        if w.coordinator.systemProxyParked then [.resume true true] else []) :=
  call_profileStarted hsync

/-- A stop that failed resumes both modes when it is reported. -/
lemma deliver_stopped_running (hgrace : w.coordinator.graceMs ≤ 0) (hrunning : w.running = true)
    (hsync : w.tunActive = !w.coordinator.systemProxyParked) :
    w.deliver .stopped =
      ({ w with
          coordinator := { w.coordinator with
            stopInFlight := false, systemProxyParked := false, tunPaused := false }
          tunActive := true },
        if w.coordinator.systemProxyParked then [.resume true true] else []) := by
  rw [StopWorld.deliver, MacModeCoordinator.profileStopped_running (h := w.hooks) hgrace hrunning]
  exact call_profileStarted (c := { w.coordinator with stopInFlight := false }) hsync

/-- A stop that is reported when no profile runs starts the timer if the timer waits for it. -/
lemma deliver_stopped_idle (hrunning : w.running = false) :
    w.deliver .stopped =
      ({ w with coordinator := { w.coordinator with
          stopInFlight := false, waitingForStop := false,
          timerActive := w.coordinator.timerActive || w.coordinator.waitingForStop } }, []) := by
  rw [StopWorld.deliver, MacModeCoordinator.profileStopped_eq (h := w.hooks) fun h =>
    Bool.noConfusion (hrunning.symm.trans h.2)]
  rfl

/-- The timer waits for a stop that is not reported yet. -/
lemma timeout_flight (hflight : w.coordinator.stopInFlight = true) :
    w.handle .timeout = ({ w with coordinator :=
      { w.coordinator with timerActive := false, waitingForStop := true } }, []) := by
  rw [StopWorld.handle, MacModeCoordinator.onGraceTimeout_flight hflight]
  rfl

/-- The timer does nothing while a profile runs. -/
lemma timeout_running (hflight : w.coordinator.stopInFlight = false) (hrunning : w.running = true) :
    w.handle .timeout =
      ({ w with coordinator := { w.coordinator with timerActive := false } }, []) := by
  rw [StopWorld.handle, MacModeCoordinator.onGraceTimeout_running (h := w.hooks) hflight hrunning]
  rfl

/-- The timer pauses both modes. -/
lemma timeout_idle (hflight : w.coordinator.stopInFlight = false) (hrunning : w.running = false)
    (hsync : w.tunActive = !w.coordinator.systemProxyParked) :
    w.handle .timeout =
      ({ w with
          coordinator := { w.coordinator with
            timerActive := false, systemProxyParked := true,
            tunPaused := !w.coordinator.systemProxyParked || w.coordinator.tunPaused }
          tunActive := false }, if w.coordinator.systemProxyParked then [] else [.pause true true]) := by
  rw [StopWorld.handle, MacModeCoordinator.onGraceTimeout_eq (h := w.hooks) hflight hrunning]
  exact call_pauseNow (c := { w.coordinator with timerActive := false }) hsync

/-- The stop of the user keeps the invariant. -/
lemma StopInv.userStop (hinv : StopInv w) : StopInv (w.proxorStop false).1 := by
  rw [StopWorld.proxorStop]
  cases hrunning : w.running with
  | false =>
    exact hinv.moves ⟨rfl, hrunning.symm, rfl, rfl, fun _ _ => id⟩ .inl .inl hinv.waits hinv.outbox
  | true =>
    rw [if_neg (by decide), profileStopping_user hinv.grace hinv.sync]
    cases hstop : w.stopThread with
    | none =>
      have hwaits := hinv.waits
      rw [hstop] at hwaits
      exact ⟨hinv.grace, rfl, fun _ _ => .inr (.inr (.inl nofun)), nofun, fun _ => rfl,
        fun _ => .inl nofun, fun t ht => .inl (by rw [← Option.some.inj ht]; rfl), hwaits, hinv.outbox⟩
    | some t =>
      have hwaits := hinv.waits
      rw [hstop] at hwaits
      exact ⟨hinv.grace, rfl, fun _ _ => .inr (.inr (.inl nofun)), nofun, fun _ => rfl,
        fun _ => .inl nofun, fun t' ht => .inl (by rw [← Option.some.inj ht]; exact Bool.or_true _),
        hwaits, hinv.outbox⟩

/-- The request of a start thread keeps the invariant, apart from who waits. -/
lemma StopInv.restartStop (hinv : StopInv w) {queue : List Posted}
    (hqueue : w.queue = .restartStop :: queue) :
    StopInv ({ w with queue := queue }.deliver .restartStop).1 := by
  have hwaits := hinv.waits
  rw [hqueue, List.count_cons_self] at hwaits
  have hpending (p : Posted) (hp : p ≠ .restartStop) (h : w.Pending p) :
      p ∈ w.outbox ∨ p ∈ queue :=
    h.imp_right fun h => (List.mem_cons.1 (hqueue ▸ h)).resolve_left hp
  rw [StopWorld.deliver, StopWorld.proxorStop]
  cases hrunning : w.running with
  | false =>
    refine hinv.moves ⟨rfl, hrunning.symm, rfl, rfl, hpending⟩ .inl .inl ?_ hinv.outbox
    rw [if_pos Bool.not_false, ← hwaits]
    dsimp only [Bool.toNat_true]
    omega
  | true =>
    rw [if_neg (by decide)]
    cases hstop : w.stopThread with
    | none =>
      rw [hstop] at hwaits
      refine ⟨hinv.grace, hinv.sync, fun _ _ => .inr (.inr (.inl nofun)), nofun, ?_,
        fun _ => .inl nofun, fun t ht => .inr (by rw [← Option.some.inj ht]), ?_, hinv.outbox⟩
      · rintro ⟨t, ht, huser, -⟩
        rw [← Option.some.inj ht] at huser
        exact absurd huser nofun
      · have hsum : w.sem + queue.count .restartStop + 1 =
            w.sem + (queue.count .restartStop + 1) + 0 := by omega
        exact hsum.trans hwaits
    | some t =>
      rw [hstop] at hwaits
      refine ⟨hinv.grace, hinv.sync, fun _ _ => .inr (.inr (.inl nofun)), nofun, ?_,
        fun _ => .inl nofun, fun t' ht => ?_, ?_, hinv.outbox⟩
      · rintro ⟨t', ht, huser, hended⟩
        rw [← Option.some.inj ht] at huser hended
        exact hinv.held ⟨t, hstop, by simpa using huser, hended⟩
      · rw [← Option.some.inj ht]
        exact (hinv.asked t hstop).imp_left fun h => by simp [h]
      · have hsum : w.sem + 1 + queue.count .restartStop + t.sem.toNat =
            w.sem + (queue.count .restartStop + 1) + t.sem.toNat := by omega
        exact hsum.trans hwaits

/-- The delivery of a posted event keeps the invariant. -/
lemma StopInv.deliver (hinv : StopInv w) {p : Posted} {queue : List Posted}
    (hqueue : w.queue = p :: queue) (horder : ¬ w.OutOfOrder .deliver) :
    StopInv ({ w with queue := queue }.deliver p).1 := by
  have hhead : w.queue.head? = some p := by rw [hqueue, List.head?_cons]
  have hwaits := hinv.waits
  rw [hqueue, List.count_cons] at hwaits
  have hpending {q : Posted} (hq : q ≠ p) (h : w.Pending q) : q ∈ w.outbox ∨ q ∈ queue :=
    h.imp_right fun h => (List.mem_cons.1 (hqueue ▸ h)).resolve_left hq
  have hstop (hp : p ≠ .stopped) (h : w.StopPending) :
      w.stopThread ≠ none ∨ .stopped ∈ w.outbox ∨ .stopped ∈ queue :=
    h.imp_right (hpending hp.symm)
  cases p with
  | restartStop => exact hinv.restartStop hqueue
  | started =>
    have hin : w.running = true ∧ ¬ w.UserStopping := by
      constructor
      · by_contra h
        exact horder ⟨rfl, .inl ⟨hhead, .inl ((Bool.not_eq_true _).mp h)⟩⟩
      · exact fun h => horder ⟨rfl, .inl ⟨hhead, .inr h⟩⟩
    rw [deliver_started (w := { w with queue := queue }) hinv.sync]
    exact ⟨hinv.grace, rfl, nofun, fun _ h => absurd (hin.1.symm.trans h) nofun,
      fun h => absurd h hin.2, fun h => hstop nofun (hinv.flight h), hinv.asked, hwaits, hinv.outbox⟩
  | startFailed =>
    have hcall : StopWorld.deliver { w with queue := queue } .startFailed =
        ({ w with
            coordinator := if w.running then w.coordinator else w.coordinator.schedule
            queue := queue }, []) := rfl
    rw [hcall]
    cases hrunning : w.running with
    | true =>
      refine ⟨hinv.grace, hinv.sync, fun hparked _ => ?_, nofun, hinv.held,
        fun h => hstop nofun (hinv.flight h), hinv.asked, hwaits, hinv.outbox⟩
      rcases hinv.resumes hparked hrunning with h | h | h
      · exact .inl (hpending nofun h)
      · exact .inr (.inl h)
      · exact .inr (.inr (hstop nofun h))
    | false =>
      exact ⟨hinv.grace, hinv.sync, nofun, fun _ _ => .inr (.inr (.inl rfl)), hinv.held,
        fun h => hstop nofun (hinv.flight h), hinv.asked, hwaits, hinv.outbox⟩
  | stopped =>
    cases hrunning : w.running with
    | true =>
      have hnot : ¬ w.UserStopping := fun h => horder ⟨rfl, .inr ⟨hhead, hrunning, h⟩⟩
      have hcall := deliver_stopped_running (w := { w with queue := queue }) hinv.grace hrunning
        hinv.sync
      rw [hrunning] at hcall
      rw [hcall]
      exact ⟨hinv.grace, rfl, nofun, nofun, fun h => absurd h hnot, nofun, hinv.asked, hwaits,
        hinv.outbox⟩
    | false =>
      have hcall := deliver_stopped_idle (w := { w with queue := queue }) hrunning
      rw [hrunning] at hcall
      rw [hcall]
      refine ⟨hinv.grace, hinv.sync, nofun, fun hparked _ => ?_, hinv.held, nofun, hinv.asked, hwaits,
        hinv.outbox⟩
      rcases hinv.pauses hparked hrunning with h | h | h | ⟨h, -⟩
      · exact .inl h
      · exact .inr (.inl (hpending nofun h))
      · exact .inr (.inr (.inl (Bool.or_eq_true_iff.2 (.inl h))))
      · exact .inr (.inr (.inl (Bool.or_eq_true_iff.2 (.inr h))))

/-- The timer keeps the invariant. -/
lemma StopInv.timeout (hinv : StopInv w) : StopInv (w.handle .timeout).1 := by
  cases hflight : w.coordinator.stopInFlight with
  | true =>
    have hstop := hinv.flight hflight
    rw [timeout_flight hflight]
    exact ⟨hinv.grace, hinv.sync, hinv.resumes, fun _ _ => .inr (.inr (.inr ⟨rfl, hstop⟩)), hinv.held,
      fun _ => hstop, hinv.asked, hinv.waits, hinv.outbox⟩
  | false =>
    cases hrunning : w.running with
    | true =>
      rw [timeout_running hflight hrunning]
      exact ⟨hinv.grace, hinv.sync, hinv.resumes, fun _ h => absurd (hrunning.symm.trans h) nofun,
        hinv.held, hinv.flight, hinv.asked, hinv.waits, hinv.outbox⟩
    | false =>
      rw [timeout_idle hflight hrunning hinv.sync]
      exact ⟨hinv.grace, rfl, fun _ h => absurd (hrunning.symm.trans h) nofun, nofun, fun _ => rfl,
        hinv.flight, hinv.asked, hinv.waits, hinv.outbox⟩

/-- **An event in order keeps the invariant.** -/
theorem StopInv.handle (hinv : StopInv w) {e : StopEvent} (hallowed : w.Allowed e)
    (horder : ¬ w.OutOfOrder e) : StopInv (w.handle e).1 := by
  have hwaits := hinv.waits
  cases e with
  | userStart =>
    obtain ⟨hstart, hstop⟩ := hallowed
    rw [hstart, if_neg nofun] at hwaits
    refine ⟨hinv.grace, hinv.sync, fun hparked hrunning => ?_, fun _ _ => .inl (.inl rfl), hinv.held,
      hinv.flight, hinv.asked, hwaits, hinv.outbox⟩
    rcases hinv.resumes hparked hrunning with h | h | h
    · exact .inl h
    · exact absurd (hstart.symm.trans h) nofun
    · exact .inr (.inr h)
  | userStop => exact hinv.userStop
  | startGivesUp =>
    refine hinv.moves ⟨rfl, rfl, rfl, rfl, fun _ _ h => h.imp_left (List.mem_append_left _)⟩
      (fun h => absurd (hallowed.symm.trans h) nofun)
      (fun _ => .inr (.inl (List.mem_append_right _ List.mem_cons_self))) ?_ ?_
    · rw [hallowed, if_neg nofun] at hwaits
      exact hwaits
    · rw [StopWorld.handle, List.mem_append]
      exact fun h => h.elim hinv.outbox (by simp)
  | startGoesOn =>
    rw [hallowed, if_neg nofun] at hwaits
    rw [StopWorld.handle]
    cases hrunning : w.running with
    | true =>
      refine hinv.moves ⟨rfl, hrunning.symm, rfl, rfl, fun _ _ h => h.imp_right (List.mem_append_left _)⟩
        (fun h => absurd (hallowed.symm.trans h) nofun) (fun _ => .inl (.inr (.inl rfl))) ?_
        hinv.outbox
      rw [if_pos rfl, if_pos rfl, List.count_append]
      simp only [List.count_singleton_self]
      omega
    | false =>
      exact hinv.moves ⟨rfl, hrunning.symm, rfl, rfl, fun _ _ => id⟩
        (fun h => absurd (hallowed.symm.trans h) nofun) (fun _ => .inl (.inr (.inr (.inl rfl))))
        hwaits hinv.outbox
  | startAcquires =>
    obtain ⟨hstart, hsem⟩ := hallowed
    rw [hstart, if_pos rfl] at hwaits
    refine hinv.moves ⟨rfl, rfl, rfl, rfl, fun _ _ => id⟩ (fun h => absurd (hstart.symm.trans h) nofun)
      (fun _ => .inl (.inr (.inr (.inl rfl)))) ?_ hinv.outbox
    rw [StopWorld.handle, if_neg nofun]
    dsimp only
    omega
  | coreStarted ok =>
    rw [hallowed, if_neg nofun] at hwaits
    cases ok with
    | true =>
      exact ⟨hinv.grace, hinv.sync, fun _ _ => .inr (.inl rfl), nofun, hinv.held, hinv.flight,
        hinv.asked, hwaits, hinv.outbox⟩
    | false =>
      exact hinv.moves ⟨rfl, rfl, rfl, rfl, fun _ _ => id⟩ (fun h => absurd (hallowed.symm.trans h) nofun)
        (fun _ => .inl (.inr (.inr (.inr rfl)))) hwaits hinv.outbox
  | startPosts =>
    rw [StopWorld.handle]
    have hqueue (p : Posted) (h : w.Pending p) (q : Posted) :
        p ∈ w.outbox ∨ p ∈ w.queue ++ [q] := h.imp_right (List.mem_append_left _)
    rcases hallowed with hstart | hstart
    · rw [hstart, if_neg nofun] at hwaits
      rw [hstart]
      refine hinv.moves ⟨rfl, rfl, rfl, rfl, fun p _ h => hqueue p h _⟩
        (fun _ => .inr (.inr (List.mem_append_right _ List.mem_cons_self)))
        (fun h => by rcases h with h | h | h | h <;> exact absurd (hstart.symm.trans h) nofun) ?_
        hinv.outbox
      rw [if_pos rfl, if_neg nofun, List.count_append]
      exact hwaits
    · rw [hstart, if_neg nofun] at hwaits
      rw [hstart]
      refine hinv.moves ⟨rfl, rfl, rfl, rfl, fun p _ h => hqueue p h _⟩
        (fun h => absurd (hstart.symm.trans h) nofun)
        (fun _ => .inr (.inr (List.mem_append_right _ List.mem_cons_self))) ?_ hinv.outbox
      rw [if_neg nofun, List.count_append]
      exact hwaits
  | startUnlocks =>
    rw [hallowed, if_neg nofun] at hwaits
    exact hinv.moves ⟨rfl, rfl, rfl, rfl, fun _ _ => id⟩ (fun h => absurd (hallowed.symm.trans h) nofun)
      (fun h => by rcases h with h | h | h | h <;> exact absurd (hallowed.symm.trans h) nofun)
      hwaits hinv.outbox
  | coreStopped ok =>
    obtain ⟨t, ht, hended⟩ := Option.map_eq_some_iff.1 hallowed
    rw [StopWorld.handle, ht]
    refine ⟨hinv.grace, hinv.sync, fun _ _ => .inr (.inr (.inl nofun)), fun hparked _ => ?_, ?_,
      fun _ => .inl nofun, ?_, ?_, hinv.outbox⟩
    · -- The stop is not the user's, who would have the modes paused: a start waits for it.
      have huser : t.user = false := by
        by_contra h
        exact absurd (hparked.symm.trans (hinv.held ⟨t, ht, by simpa using h, hended⟩)) nofun
      have hsem := (hinv.asked t ht).resolve_left (by rw [huser]; decide)
      exact .inl (.inr (.inl (hinv.waiting ht hsem)))
    · rintro ⟨t', ht', -, hended'⟩
      rw [← Option.some.inj ht'] at hended'
      exact absurd hended' nofun
    · intro t' ht'
      rw [← Option.some.inj ht']
      exact hinv.asked t ht
    · rw [ht] at hwaits
      exact hwaits
  | stopUnlocks =>
    rw [StopWorld.handle]
    have hpending (p : Posted) (h : w.Pending p) : p ∈ w.outbox ++ [.stopped] ∨ p ∈ w.queue :=
      h.imp_left (List.mem_append_left _)
    have hstopped : .stopped ∈ w.outbox ++ [.stopped] := List.mem_append_right _ List.mem_cons_self
    refine ⟨hinv.grace, hinv.sync, fun _ _ => .inr (.inr (.inr (.inl hstopped))),
      fun hparked hrunning => ?_, nofun, fun _ => .inr (.inl hstopped), nofun, ?_, ?_⟩
    · rcases hinv.pauses hparked hrunning with h | h | h | h
      · exact .inl h
      · exact .inr (.inl (hpending _ h))
      · exact .inr (.inr (.inl h))
      · exact .inr (.inr (.inr ⟨h.1, .inr (.inl hstopped)⟩))
    · dsimp only
      rw [← hwaits, Option.any_none, Bool.toNat_false]
      omega
    · rw [List.mem_append]
      exact fun h => h.elim hinv.outbox (by simp)
  | post p =>
    refine hinv.moves ⟨rfl, rfl, rfl, rfl, fun q _ h => ?_⟩ (fun h => .inl h) (fun h => .inl h) ?_
      fun h => hinv.outbox (List.mem_of_mem_erase h)
    · by_cases hq : q = p
      · exact .inr (List.mem_append_right _ (List.mem_singleton.2 hq))
      · exact h.imp (List.mem_erase_of_ne hq).2 (List.mem_append_left _)
    · have hne : p ≠ .restartStop := fun h => hinv.outbox (h ▸ hallowed)
      rw [StopWorld.handle, List.count_append, List.count_singleton, beq_false_of_ne hne]
      exact hwaits
  | deliver =>
    obtain ⟨p, queue, hqueue⟩ := List.exists_cons_of_ne_nil hallowed
    rw [StopWorld.handle, hqueue]
    exact hinv.deliver hqueue horder
  | timeout => exact hinv.timeout

/-! ### Pauses and resumes in turn -/

/-- System Proxy is left, paused when it was not, or resumed when it was. -/
def ProxyStep (w : StopWorld) (r : StopWorld × List HookCall) : Prop :=
  r.2.filterMap proxyCall = [] ∧
      r.1.coordinator.systemProxyParked = w.coordinator.systemProxyParked ∨
    r.2.filterMap proxyCall = [true] ∧ w.coordinator.systemProxyParked = false ∧
      r.1.coordinator.systemProxyParked = true ∨
    r.2.filterMap proxyCall = [false] ∧ w.coordinator.systemProxyParked = true ∧
      r.1.coordinator.systemProxyParked = false

/-- A call to pause both modes. -/
lemma proxyStep_pause {r : StopWorld × List HookCall}
    (hcalls : r.2 = if w.coordinator.systemProxyParked then [] else [.pause true true])
    (hparked : r.1.coordinator.systemProxyParked = true) : ProxyStep w r := by
  cases h : w.coordinator.systemProxyParked with
  | true =>
    rw [h, if_pos rfl] at hcalls
    exact .inl ⟨by rw [hcalls]; rfl, hparked.trans h.symm⟩
  | false =>
    rw [h, if_neg (by decide)] at hcalls
    exact .inr (.inl ⟨by rw [hcalls]; rfl, h, hparked⟩)

/-- A call to resume both modes. -/
lemma proxyStep_resume {r : StopWorld × List HookCall}
    (hcalls : r.2 = if w.coordinator.systemProxyParked then [.resume true true] else [])
    (hparked : r.1.coordinator.systemProxyParked = false) : ProxyStep w r := by
  cases h : w.coordinator.systemProxyParked with
  | true =>
    rw [h, if_pos rfl] at hcalls
    exact .inr (.inr ⟨by rw [hcalls]; rfl, h, hparked⟩)
  | false =>
    rw [h, if_neg (by decide)] at hcalls
    exact .inl ⟨by rw [hcalls]; rfl, hparked.trans h.symm⟩

/-- A delivery pauses or resumes System Proxy in turn. -/
lemma StopInv.proxyStep_deliver (hinv : StopInv w) {queue : List Posted} (p : Posted) :
    ProxyStep w ({ w with queue := queue }.deliver p) := by
  cases p with
  | restartStop =>
    rw [StopWorld.deliver, StopWorld.proxorStop]
    cases w.running with
    | false => exact .inl ⟨rfl, rfl⟩
    | true => cases w.stopThread <;> exact .inl ⟨rfl, rfl⟩
  | started =>
    rw [deliver_started (w := { w with queue := queue }) hinv.sync]
    exact proxyStep_resume rfl rfl
  | startFailed =>
    refine .inl ⟨rfl, ?_⟩
    rw [StopWorld.deliver, StopWorld.call, MacModeCoordinator.profileStartFailed]
    split_ifs <;> rfl
  | stopped =>
    cases hrunning : w.running with
    | true =>
      have hcall := deliver_stopped_running (w := { w with queue := queue }) hinv.grace hrunning
        hinv.sync
      rw [hrunning] at hcall
      rw [hcall]
      exact proxyStep_resume rfl rfl
    | false =>
      have hcall := deliver_stopped_idle (w := { w with queue := queue }) hrunning
      rw [hrunning] at hcall
      rw [hcall]
      exact .inl ⟨rfl, rfl⟩

/-- An event pauses or resumes System Proxy in turn. -/
lemma StopInv.proxyStep (hinv : StopInv w) (e : StopEvent) : ProxyStep w (w.handle e) := by
  cases e with
  | userStop =>
    rw [StopWorld.handle, StopWorld.proxorStop]
    cases w.running with
    | false => exact .inl ⟨rfl, rfl⟩
    | true =>
      rw [if_neg (by decide), profileStopping_user hinv.grace hinv.sync]
      cases w.stopThread <;> exact proxyStep_pause rfl rfl
  | startGoesOn =>
    rw [StopWorld.handle]
    cases w.running <;> exact .inl ⟨rfl, rfl⟩
  | coreStarted ok => cases ok <;> exact .inl ⟨rfl, rfl⟩
  | deliver =>
    rw [StopWorld.handle]
    cases w.queue with
    | nil => exact .inl ⟨rfl, rfl⟩
    | cons p queue => exact hinv.proxyStep_deliver p
  | timeout =>
    cases hflight : w.coordinator.stopInFlight with
    | true =>
      rw [timeout_flight hflight]
      exact .inl ⟨rfl, rfl⟩
    | false =>
      cases hrunning : w.running with
      | true =>
        rw [timeout_running hflight hrunning]
        exact .inl ⟨rfl, rfl⟩
      | false =>
        rw [timeout_idle hflight hrunning hinv.sync]
        exact proxyStep_pause rfl rfl
  | _ => exact .inl ⟨rfl, rfl⟩

/-- System Proxy has been paused and resumed in turn, and is paused if that was asked last. -/
def InTurn (hist : List StopEntry) (w : StopWorld) : Prop :=
  (proxyCalls hist).IsChain (· ≠ ·) ∧ (proxyCalls hist).head? ≠ some false ∧
    w.coordinator.systemProxyParked = ((proxyCalls hist).getLast?).getD false

/-- The calls stay in turn. -/
lemma InTurn.concat {hist : List StopEntry} {entry : StopEntry} (h : InTurn hist w)
    (hout : ProxyStep w (w', entry.out)) : InTurn (hist ++ [entry]) w' := by
  obtain ⟨hchain, hhead, hlast⟩ := h
  have hcalls : proxyCalls (hist ++ [entry]) = proxyCalls hist ++ entry.out.filterMap proxyCall := by
    rw [proxyCalls, List.flatMap_append, List.flatMap_singleton]
    rfl
  rw [InTurn, hcalls]
  rcases hout with ⟨hnone, hparked⟩ | ⟨hpause, hparked, hparked'⟩ | ⟨hresume, hparked, hparked'⟩
  · rw [hnone, List.append_nil, hparked]
    exact ⟨hchain, hhead, hlast⟩
  · rw [hpause, List.getLast?_concat, Option.getD_some, List.isChain_append]
    refine ⟨⟨hchain, List.isChain_singleton _, fun a ha b hb => ?_⟩, ?_, hparked'⟩
    · rw [hparked, Option.mem_def.1 ha] at hlast
      have ha' : a = false := hlast.symm
      rw [← Option.some.inj hb, ha']
      decide
    · cases hcalls : proxyCalls hist with
      | nil => exact nofun
      | cons a l => rwa [hcalls] at hhead
  · rw [hresume, List.getLast?_concat, Option.getD_some, List.isChain_append]
    refine ⟨⟨hchain, List.isChain_singleton _, fun a ha b hb => ?_⟩, ?_, hparked'⟩
    · rw [hparked, Option.mem_def.1 ha] at hlast
      have ha' : a = true := hlast.symm
      rw [← Option.some.inj hb, ha']
      decide
    · cases hcalls : proxyCalls hist with
      | nil =>
        rw [hcalls] at hlast
        exact absurd (hparked.symm.trans hlast) nofun
      | cons a l => rwa [hcalls] at hhead

end World

/-! ### Runs -/

namespace StopRun

variable (r : StopRun)

/-- At the start both modes are applied and nothing is under way. -/
lemma start_inv : StopInv r.start :=
  ⟨r.graceMs_nonpos, rfl, nofun, nofun, fun h => h.elim fun _ ht => absurd ht.1 nofun, nofun,
    nofun, rfl, nofun⟩

/-- The first events of a run in order keep the invariant, and the calls are in turn. -/
lemma InOrder.keeps {r : StopRun} (horder : r.InOrder) {l l' : List StopEvent}
    (hevents : r.events = l ++ l') :
    StopInv (final StopWorld.handle r.start l) ∧
      InTurn (history StopWorld.handle r.start l) (final StopWorld.handle r.start l) := by
  refine (history_rule StopWorld.handle r.start l (I := fun hist w => StopInv w ∧ InTurn hist w)
    (A := fun _ w e => w.Allowed e ∧ ¬ w.OutOfOrder e) (G := fun _ _ => True)
    ⟨r.start_inv, List.isChain_nil, nofun, rfl⟩ ?_ ?_).1
  · rintro hist w e ⟨hinv, hturn⟩ ⟨hallowed, horder⟩
    exact ⟨trivial, hinv.handle hallowed horder, hturn.concat (hinv.proxyStep e)⟩
  · intro l₁ entry l₂ h
    have hmem : entry ∈ history StopWorld.handle r.start r.events := by
      rw [hevents, history_append, h]
      exact List.mem_append_left _ (List.mem_append_right _ List.mem_cons_self)
    exact ⟨r.allowed entry hmem, horder entry hmem⟩

end StopRun

/-- **Without a grace period the modes follow the profile** in every run in which nothing that
resumes the modes is delivered while the user's stop is stopping the core, and no start is reported
when no profile runs.

**Proof sketch.** Whenever both modes are paused and a profile runs, a report that will resume them
is still to come. Whenever they are applied and no profile runs, a start is under way or failed, the
timer runs, or it will when the stop is reported. When nothing is under way neither is the case. -/
theorem stop_guarantees (r : StopRun) (horder : r.InOrder) : r.Guarantees where
  alternate := by
    obtain ⟨-, hchain, hhead, -⟩ := horder.keeps (List.append_nil r.events).symm
    exact ⟨hchain, hhead⟩
  agrees l l' hevents hsettled := (horder.keeps hevents).1.agrees hsettled

/-- The user stops the profile and starts it again. -/
def againRun : StopRun where
  graceMs := 0
  graceMs_nonpos := by decide
  events := [.userStop, .coreStopped true, .stopUnlocks, .post .stopped, .deliver,
    .userStart, .startGoesOn, .coreStarted true, .startPosts, .startUnlocks, .deliver]
  allowed := by decide

instance (w : StopWorld) : Decidable w.UserStopping :=
  decidable_of_iff (w.stopThread.any fun t => t.user && !t.ended) <| by
    rw [Option.any_eq_true, StopWorld.UserStopping]
    simp only [Bool.and_eq_true, Bool.not_eq_true']

instance (w : StopWorld) (e : StopEvent) : Decidable (w.OutOfOrder e) := by
  unfold StopWorld.OutOfOrder
  infer_instance

instance (r : StopRun) : Decidable r.InOrder := by
  unfold StopRun.InOrder
  infer_instance

/-- System Proxy is paused and resumed. -/
theorem stop_guarantees_againRun :
    againRun.InOrder ∧ proxyCalls againRun.entries = [true, false] ∧ againRun.Guarantees :=
  ⟨by decide, by decide, stop_guarantees againRun (by decide)⟩

/-- The user stops the profile again before it is reported that the first stop failed. -/
def twiceRun : StopRun where
  graceMs := 0
  graceMs_nonpos := by decide
  events := [.userStop, .coreStopped false, .stopUnlocks, .post .stopped, .userStop, .deliver,
    .coreStopped true, .stopUnlocks, .post .stopped, .deliver]
  allowed := by decide

instance (w : StopWorld) : Decidable w.Settled := by
  unfold StopWorld.Settled
  infer_instance

/-- **The modes may stay on without a profile**: the report of the failed stop resumes what the
second stop has paused. -/
theorem not_stop_guarantees : ¬ ∀ r : StopRun, r.Guarantees := by
  intro h
  have hagrees := (h twiceRun).agrees twiceRun.events [] rfl (by decide)
  exact absurd hagrees.2 (by decide)

end Proxor.Sys
