import Proxor.Platform.WakeCoordinator

set_option relaxedAutoImplicit false
set_option autoImplicit false

/-!
# Runs after a wake

A run begins with a wake that is accepted and lasts as long as the coordinator is active. In between
come steps, signals, cancellations and stops on purpose in any order, with any observations.

## Main definitions

* `Proxor.Platform.WakeEvent`, `Proxor.Platform.WakeCoordinator.handle` — what happens to the
  coordinator.
* `Proxor.Platform.WakeRun` — a run, with what happened before it.
* `Proxor.Platform.WakeRun.Guarantees` — what the caller relies on.

## Main results

* `Proxor.Platform.wake_run_guarantees` — every run gives it.
* `Proxor.Platform.wake_run_exceptions` — three things no run gives.

## Design

A step is said to see the core if it gets to the core phase and no start is pending: while one is, it
looks no further. The snapshot of a run is the one of the last sleep that no wake has used.
-/

namespace Proxor.Platform

/-! ### Runs -/

/-- What happens to the coordinator. -/
inductive WakeEvent
  | noteSleep (nowMs : ℤ) (before : WakeSnapshot)
  | noteWake (source : WakeSource) (nowMs : ℤ) (current : WakeSnapshot)
  | step (o : WakeObservation)
  | cancel
  | dropRestore

/-- What comes of it. -/
inductive WakeOut
  | nothing
  | accepted (b : Bool)
  | step (r : WakeStep)
deriving DecidableEq

/-- The time of an event. -/
def WakeEvent.time : WakeEvent → Option ℤ
  | .noteSleep nowMs _ => some nowMs
  | .noteWake _ nowMs _ => some nowMs
  | .step o => some o.nowMs
  | .cancel => none
  | .dropRestore => none

/-- One event. -/
def WakeCoordinator.handle (c : WakeCoordinator) : WakeEvent → WakeCoordinator × WakeOut
  | .noteSleep _ before => (c.noteSleep before, .nothing)
  | .noteWake source nowMs current =>
    ((c.noteWake source nowMs current).1, .accepted (c.noteWake source nowMs current).2)
  | .step o => ((c.step o).1, .step (c.step o).2)
  | .cancel => (c.cancel, .nothing)
  | .dropRestore => (c.dropRestore, .nothing)

/-- One event of a run. -/
abbrev WakeEntry : Type := Entry WakeCoordinator WakeEvent WakeOut

open WakeCoordinator

/-- The snapshot of the last sleep that no wake has used. -/
def pendingSleep (hist : List WakeEntry) : Option WakeSnapshot :=
  hist.foldl (fun pending entry =>
    match entry.event, entry.out with
    | .noteSleep _ before, _ => some before
    | .noteWake .., .accepted true => none
    | _, _ => pending) none

/-- A run: the events before it, the wake, and events while the coordinator is active. -/
structure WakeRun where
  earlier : List WakeEvent
  source : WakeSource
  nowMs : ℤ
  current : WakeSnapshot
  during : List WakeEvent
  times : ((earlier ++ .noteWake source nowMs current :: during).filterMap WakeEvent.time).Pairwise
    (· ≤ ·)
  accepted : ((final handle {} earlier).noteWake source nowMs current).2 = true
  active : ∀ entry ∈
    history handle ((final handle {} earlier).noteWake source nowMs current).1 during,
    entry.before.active = true

namespace WakeRun

/-- The state the run begins in. -/
def start (w : WakeRun) : WakeCoordinator :=
  ((final handle {} w.earlier).noteWake w.source w.nowMs w.current).1

/-- The events of the run. -/
def entries (w : WakeRun) : List WakeEntry := history handle w.start w.during

/-- What ran before: the snapshot of the last sleep that no wake has used, or of the wake. -/
def snapshot (w : WakeRun) : WakeSnapshot :=
  (pendingSleep (history handle {} w.earlier)).getD w.current

end WakeRun

/-! ### What a step sees -/

/-- An entry is a step with this property. -/
def OnStep (P : WakeCoordinator → WakeObservation → Prop) (entry : WakeEntry) : Prop :=
  ∃ o, entry.event = .step o ∧ P entry.before o

/-- The step finds the network ready. -/
def JudgesReady (wakeAtMs : ℤ) (c : WakeCoordinator) (o : WakeObservation) : Prop :=
  c.phase = .Network ∧ NetworkReady wakeAtMs o

/-- The step finds the network ready, or the time to wait for it over. -/
def Judges (wakeAtMs : ℤ) (c : WakeCoordinator) (o : WakeObservation) : Prop :=
  c.phase = .Network ∧ (NetworkReady wakeAtMs o ∨ NetworkWaitOver wakeAtMs o)

/-- The step is in the core phase, or gets to it. -/
def InCore (wakeAtMs : ℤ) (c : WakeCoordinator) (o : WakeObservation) : Prop :=
  c.phase = .Core ∨ Judges wakeAtMs c o

/-- The step sees the core running. -/
def SeesRunning (wakeAtMs : ℤ) (c : WakeCoordinator) (o : WakeObservation) : Prop :=
  InCore wakeAtMs c o ∧ o.startPending = false ∧ o.coreRunning = true

/-- The step sees the core dead. -/
def SeesDead (wakeAtMs : ℤ) (c : WakeCoordinator) (o : WakeObservation) : Prop :=
  InCore wakeAtMs c o ∧ o.startPending = false ∧ o.coreRunning = false

/-- The action of an entry, other than waiting and finishing. -/
def acted (entry : WakeEntry) : Option WakeAction :=
  match entry.out with
  | .step r => if r.action = .Wait ∨ r.action = .Finished then none else some r.action
  | _ => none

/-- What is guaranteed of a step from `c` to `c'`, after these entries of the run. -/
structure StepGuarantees (w : WakeRun) (hist : List WakeEntry) (c : WakeCoordinator)
    (o : WakeObservation) (c' : WakeCoordinator) (r : WakeStep) : Prop where
  acts : r.action ≠ .Wait → r.action ≠ .Finished →
    o.blocked = false ∧ o.nowMs - w.nowMs < kWakeRunMaxMs
  restores : r.action = .RestartProfile ∨ r.action = .CheckModes →
    o.startPending = false ∧ ∀ entry ∈ hist, entry.event ≠ .dropRestore
  profile : r.action = .RestartProfile → r.profileId = w.snapshot.profileId
  judged : r.action = .RestartProfile →
    (∃ entry ∈ hist, OnStep (Judges w.nowMs) entry) ∨ Judges w.nowMs c o
  dead : r.action = .RestartProfile → ∃ entry ∈ hist,
    OnStep (fun c' o' => SeesDead w.nowMs c' o' ∧ o'.nowMs + kWakeCoreGraceMs ≤ o.nowMs) entry
  ready : r.action = .UpdateSubscriptions →
    (∃ entry ∈ hist, OnStep (JudgesReady w.nowMs) entry) ∨ JudgesReady w.nowMs c o
  goesOn : 0 ≤ r.delayMs ↔ c'.active = true

/-! ### The invariant of a run -/

/-- The actions that come before a phase. -/
def actionsBefore : WakePhase → List WakeAction
  | .Network => []
  | .Core => []
  | .Modes => [.RestartProfile]
  | .Subs => [.RestartProfile, .CheckModes]

/-- The actions there may have been. -/
def allowed (c : WakeCoordinator) : List WakeAction :=
  if c.active then actionsBefore c.phase else [.RestartProfile, .CheckModes, .UpdateSubscriptions]

/-- The invariant of a run. -/
structure RunInv (w : WakeRun) (hist : List WakeEntry) (c : WakeCoordinator) : Prop where
  wakeAt : c.wakeAtMs = w.nowMs
  snapshot : c.snapshot = {} ∨ c.snapshot = w.snapshot ∧ ∀ entry ∈ hist, entry.event ≠ .dropRestore
  order : (hist.filterMap acted).Sublist (allowed c)
  judged : c.phase ≠ .Network → ∃ entry ∈ hist, OnStep (Judges w.nowMs) entry
  ready : c.networkReady = true → ∃ entry ∈ hist, OnStep (JudgesReady w.nowMs) entry
  unseen : c.active = true → c.phase = .Network ∨ c.phase = .Core →
    ∀ entry ∈ hist, ¬ OnStep (SeesRunning w.nowMs) entry
  restarted : .RestartProfile ∈ hist.filterMap acted →
    ∀ entry ∈ hist, ¬ OnStep (SeesRunning w.nowMs) entry
  dead : 0 ≤ c.coreDeadSinceMs → ∃ entry ∈ hist,
    OnStep (fun c' o' => SeesDead w.nowMs c' o' ∧ o'.nowMs = c.coreDeadSinceMs) entry

/-! ### What a step keeps -/

section Step

variable {w : WakeRun} {hist : List WakeEntry} {c₀ c c' : WakeCoordinator} {o : WakeObservation}

lemma onStep_step {P : WakeCoordinator → WakeObservation → Prop} {out : WakeOut} :
    OnStep P ⟨c, .step o, out⟩ ↔ P c o := by
  constructor
  · rintro ⟨o', ho, h⟩
    cases ho
    exact h
  · exact fun h => ⟨o, rfl, h⟩

lemma exists_concat {P : WakeEntry → Prop} {entry : WakeEntry} :
    (∃ e ∈ hist ++ [entry], P e) ↔ (∃ e ∈ hist, P e) ∨ P entry := by
  simp only [List.mem_append, List.mem_singleton, or_and_right, exists_or, exists_eq_left]

lemma forall_concat {P : WakeEntry → Prop} {entry : WakeEntry} :
    (∀ e ∈ hist ++ [entry], P e) ↔ (∀ e ∈ hist, P e) ∧ P entry := by
  simp only [List.forall_mem_append, List.forall_mem_singleton]

/-- The entry of a step. -/
abbrev stepEntry (c : WakeCoordinator) (o : WakeObservation) (r : WakeStep) : WakeEntry :=
  ⟨c, .step o, .step r⟩

/-- A step from `c` to `c'` gives what is guaranteed, and keeps the invariant. -/
def Kept (w : WakeRun) (hist : List WakeEntry) (c : WakeCoordinator) (o : WakeObservation)
    (c' : WakeCoordinator) (r : WakeStep) : Prop :=
  StepGuarantees w hist c o c' r ∧ RunInv w (hist ++ [stepEntry c o r]) c'

/-- What holds between two passes of a step that began in `c₀`. -/
structure Midway (w : WakeRun) (hist : List WakeEntry) (c₀ : WakeCoordinator) (o : WakeObservation)
    (c : WakeCoordinator) : Prop where
  wakeAt : c.wakeAtMs = w.nowMs
  snapshot : c.snapshot = c₀.snapshot
  order : (hist.filterMap acted).Sublist (actionsBefore c.phase)
  network : c.phase = .Network → c₀.phase = .Network
  core : c.phase = .Core → InCore w.nowMs c₀ o
  judged : c.phase ≠ .Network →
    (∃ entry ∈ hist, OnStep (Judges w.nowMs) entry) ∨ Judges w.nowMs c₀ o
  ready : c.networkReady = true →
    (∃ entry ∈ hist, OnStep (JudgesReady w.nowMs) entry) ∨ JudgesReady w.nowMs c₀ o
  unseen : c.phase = .Network ∨ c.phase = .Core →
    ∀ entry ∈ hist, ¬ OnStep (SeesRunning w.nowMs) entry
  dead : 0 ≤ c.coreDeadSinceMs → (∃ entry ∈ hist,
      OnStep (fun c' o' => SeesDead w.nowMs c' o' ∧ o'.nowMs = c.coreDeadSinceMs) entry) ∨
    SeesDead w.nowMs c₀ o ∧ o.nowMs = c.coreDeadSinceMs

/-- A step begins with the invariant. -/
lemma RunInv.midway (hinv : RunInv w hist c) (hactive : c.active = true) (o : WakeObservation) :
    Midway w hist c o c where
  wakeAt := hinv.wakeAt
  snapshot := rfl
  order := by
    have horder := hinv.order
    rwa [allowed, if_pos hactive] at horder
  network := id
  core := .inl
  judged h := .inl (hinv.judged h)
  ready h := .inl (hinv.ready h)
  unseen := hinv.unseen hactive
  dead h := .inl (hinv.dead h)

/-- A pass that goes on does not end the run. -/
lemma active_go (hactive : c.active = true) (hout : Outcome o c c' none) :
    c'.active = true := by
  generalize hr : (none : Option WakeStep) = r at hout
  cases hout <;> first | exact hactive | cases hr

/-- A pass that goes on. -/
lemma Midway.go (h : Midway w hist c₀ o c) (hout : Outcome o c c' none) :
    Midway w hist c₀ o c' := by
  generalize hr : (none : Option WakeStep) = r at hout
  cases hout with
  | ready hphase hready =>
    have hjudge : JudgesReady w.nowMs c₀ o := ⟨h.network hphase, h.wakeAt ▸ hready⟩
    have hjudges : Judges w.nowMs c₀ o := ⟨hjudge.1, .inl hjudge.2⟩
    have horder := h.order
    rw [hphase] at horder
    exact ⟨h.wakeAt, h.snapshot, horder, nofun, fun _ => .inr hjudges,
      fun _ => .inr hjudges, fun _ => .inr hjudge, fun _ => h.unseen (.inl hphase), h.dead⟩
  | waitOver hphase hover =>
    have hjudges : Judges w.nowMs c₀ o := ⟨h.network hphase, .inr (h.wakeAt ▸ hover)⟩
    have horder := h.order
    rw [hphase] at horder
    exact ⟨h.wakeAt, h.snapshot, horder, nofun, fun _ => .inr hjudges,
      fun _ => .inr hjudges, nofun, fun _ => h.unseen (.inl hphase), h.dead⟩
  | noProfile hphase hprofile =>
    have hjudged := h.judged (by rw [hphase]; decide)
    have horder := h.order
    rw [hphase] at horder
    exact ⟨h.wakeAt, h.snapshot, horder.trans (List.nil_sublist _), nofun, nofun,
      fun _ => hjudged, h.ready, nofun, h.dead⟩
  | running hphase hstart hcore =>
    have hjudged := h.judged (by rw [hphase]; decide)
    have horder := h.order
    rw [hphase] at horder
    exact ⟨h.wakeAt, h.snapshot, horder.trans (List.nil_sublist _), nofun, nofun,
      fun _ => hjudged, h.ready, nofun, fun hdead => absurd hdead (Int.negSucc_not_nonneg 0).1⟩
  | noModes hphase =>
    have hjudged := h.judged (by rw [hphase]; decide)
    have horder := h.order
    rw [hphase] at horder
    exact ⟨h.wakeAt, h.snapshot, horder.trans (List.sublist_append_left _ _), nofun, nofun,
      fun _ => hjudged, h.ready, nofun, h.dead⟩
  | _ => cases hr

/-- After a restart no step gets to the core. -/
lemma RunInv.not_inCore (hinv : RunInv w hist c) (hactive : c.active = true)
    (hrestart : .RestartProfile ∈ hist.filterMap acted) (o : WakeObservation) :
    ¬ InCore w.nowMs c o := by
  intro hcore
  have horder := hinv.order
  have hnil : actionsBefore c.phase = [] := by
    rcases hcore with hphase | ⟨hphase, -⟩ <;> rw [hphase] <;> rfl
  rw [allowed, if_pos hactive, hnil, List.sublist_nil] at horder
  rw [horder] at hrestart
  exact absurd hrestart List.not_mem_nil

/-- A step that returns keeps the invariant. -/
lemma Midway.runInv (h : Midway w hist c₀ o c) (hinv : RunInv w hist c₀)
    (hactive : c₀.active = true) {r : WakeStep}
    (horder : ((hist ++ [stepEntry c₀ o r]).filterMap acted).Sublist (allowed c))
    (hseen : c.active = true ∧ (c.phase = .Network ∨ c.phase = .Core) ∨
        r.action = .RestartProfile → (∀ entry ∈ hist, ¬ OnStep (SeesRunning w.nowMs) entry) ∧ ¬ SeesRunning w.nowMs c₀ o) :
    RunInv w (hist ++ [stepEntry c₀ o r]) c where
  wakeAt := h.wakeAt
  snapshot := by
    rw [h.snapshot]
    rcases hinv.snapshot with hs | ⟨hs, hdrop⟩
    · exact .inl hs
    · exact .inr ⟨hs, forall_concat.2 ⟨hdrop, nofun⟩⟩
  order := horder
  judged hphase := by
    rw [exists_concat, onStep_step]
    exact h.judged hphase
  ready hready := by
    rw [exists_concat, onStep_step]
    exact h.ready hready
  unseen hactive hphase := by
    rw [forall_concat, onStep_step]
    exact hseen (.inl ⟨hactive, hphase⟩)
  restarted hrestart := by
    rw [forall_concat, onStep_step]
    rw [List.filterMap_append, List.mem_append] at hrestart
    rcases hrestart with hrestart | hrestart
    · exact ⟨hinv.restarted hrestart, fun hsees => hinv.not_inCore hactive hrestart o hsees.1⟩
    · obtain ⟨entry, hentry, hact⟩ := List.mem_filterMap.1 hrestart
      rw [List.mem_singleton.1 hentry] at hact
      unfold acted at hact
      dsimp only at hact
      split_ifs at hact
      exact hseen (.inr (Option.some.inj hact))
  dead hdead := by
    rw [exists_concat, onStep_step]
    exact h.dead hdead

lemma Midway.inactive (h : Midway w hist c₀ o c) :
    Midway w hist c₀ o { c with active := false } :=
  ⟨h.wakeAt, h.snapshot, h.order, h.network, h.core, h.judged, h.ready, h.unseen, h.dead⟩

/-- The actions before a phase are in the order of all. -/
lemma sublist_all (phase : WakePhase) :
    (actionsBefore phase).Sublist [.RestartProfile, .CheckModes, .UpdateSubscriptions] := by
  cases phase <;> decide

/-- A step that waits or ends the run. -/
lemma Midway.quiet (h : Midway w hist c₀ o c) (hinv : RunInv w hist c₀)
    (hactive₀ : c₀.active = true) {r : WakeStep} (hr : r.action = .Wait ∨ r.action = .Finished)
    (hgoes : 0 ≤ r.delayMs ↔ c.active = true)
    (hseen : c.active = true → c.phase = .Network ∨ c.phase = .Core →
      ¬ SeesRunning w.nowMs c₀ o) :
    Kept w hist c₀ o c r := by
  have hne {a : WakeAction} (ha : r.action = a) (hwait : a ≠ .Wait) (hfinished : a ≠ .Finished) :
      False := hr.elim (fun h => hwait (ha.symm.trans h)) fun h => hfinished (ha.symm.trans h)
  constructor
  · exact ⟨fun hwait hfinished => absurd hr (not_or.2 ⟨hwait, hfinished⟩),
      fun h => h.elim (fun h => (hne h nofun nofun).elim) fun h => (hne h nofun nofun).elim,
      fun h => (hne h nofun nofun).elim, fun h => (hne h nofun nofun).elim,
      fun h => (hne h nofun nofun).elim, fun h => (hne h nofun nofun).elim, hgoes⟩
  · refine h.runInv hinv hactive₀ ?_ ?_
    · have hnone : acted (stepEntry c₀ o r) = none := if_pos hr
      rw [List.filterMap_append, List.filterMap_cons_none hnone, List.filterMap_nil,
        List.append_nil, allowed]
      split_ifs with hactive
      · exact h.order
      · exact h.order.trans (sublist_all c.phase)
    · rintro (⟨hactive, hphase⟩ | hrestart)
      · exact ⟨h.unseen hphase, hseen hactive hphase⟩
      · exact (hne hrestart nofun nofun).elim

/-- A pass that waits. -/
lemma Midway.wait (h : Midway w hist c₀ o c) (hactive : c.active = true) (hinv : RunInv w hist c₀)
    (hactive₀ : c₀.active = true) (ms : ℤ)
    (hseen : c.phase = .Network ∨ c.phase = .Core → ¬ SeesRunning w.nowMs c₀ o) :
    Kept w hist c₀ o c (waitStep ms) :=
  h.quiet hinv hactive₀ (.inl rfl) ⟨fun _ => hactive, fun _ => le_max_right ms 0⟩ fun _ => hseen

/-- A step that ends the run and does nothing else. -/
lemma Midway.ends (h : Midway w hist c₀ o c) (hinv : RunInv w hist c₀)
    (hactive₀ : c₀.active = true) (note : WakeNote) :
    Kept w hist c₀ o { c with active := false } { note := note } :=
  h.inactive.quiet hinv hactive₀ (.inr rfl) ⟨nofun, nofun⟩ nofun

/-- One more action, after the actions before a phase. -/
lemma Midway.sublist_concat (h : Midway w hist c₀ o c) {r : WakeStep} {a : WakeAction}
    {l : List WakeAction} (ha : acted (stepEntry c₀ o r) = some a)
    (hl : actionsBefore c.phase ++ [a] = l) :
    ((hist ++ [stepEntry c₀ o r]).filterMap acted).Sublist l := by
  rw [List.filterMap_append, List.filterMap_cons_some ha, List.filterMap_nil, ← hl]
  exact h.order.append (List.Sublist.refl [a])

/-- The time since which the core is dead is the time of a step that saw it dead. -/
lemma Midway.seenDead (h : Midway w hist c₀ o c) (hsees : SeesDead w.nowMs c₀ o) :
    (∃ entry ∈ hist, OnStep (fun c' o' =>
      SeesDead w.nowMs c' o' ∧ o'.nowMs = deadSince c o) entry) ∨
    SeesDead w.nowMs c₀ o ∧ o.nowMs = deadSince c o := by
  unfold deadSince
  split_ifs with hdead
  · exact .inr ⟨hsees, rfl⟩
  · exact h.dead (not_lt.1 hdead)

/-- A pass that returns gives what is guaranteed, and keeps the invariant. -/
lemma Midway.finish (h : Midway w hist c₀ o c) (hactive : c.active = true)
    (hinv : RunInv w hist c₀) (hactive₀ : c₀.active = true) (hblocked : o.blocked = false)
    (htime : o.nowMs - w.nowMs < kWakeRunMaxMs) {r : WakeStep}
    (hout : Outcome o c c' (some r)) :
    Kept w hist c₀ o c' r := by
  have hdrop (hs : c.snapshot ≠ {}) :
      c.snapshot = w.snapshot ∧ ∀ entry ∈ hist, entry.event ≠ .dropRestore := by
    rw [h.snapshot] at hs ⊢
    exact hinv.snapshot.resolve_left hs
  generalize hr : some r = r' at hout
  cases hout with
  | waitNetwork ms hphase hready hover =>
    obtain rfl := Option.some.inj hr
    refine h.wait hactive hinv hactive₀ ms fun _ hsees => ?_
    rcases hsees.1 with hcore | ⟨-, hjudge⟩
    · exact absurd ((h.network hphase).symm.trans hcore) (by decide)
    · rw [← h.wakeAt] at hjudge
      exact hjudge.elim hready hover
  | waitStart hphase hstart =>
    obtain rfl := Option.some.inj hr
    exact h.wait hactive hinv hactive₀ _ fun _ hsees =>
      absurd (hstart.symm.trans hsees.2.1) (by decide)
  | waitCore ms hphase hstart hcore =>
    obtain rfl := Option.some.inj hr
    have hmid : Midway w hist c₀ o { c with coreDeadSinceMs := deadSince c o } :=
      ⟨h.wakeAt, h.snapshot, h.order, h.network, h.core, h.judged, h.ready, h.unseen,
        fun _ => h.seenDead ⟨h.core hphase, hstart, hcore⟩⟩
    exact hmid.wait hactive hinv hactive₀ ms fun _ hsees =>
      absurd (hcore.symm.trans hsees.2.2) (by decide)
  | restart hphase hprofile hstart hcore hgrace =>
    obtain rfl := Option.some.inj hr
    have hdead := h.seenDead ⟨h.core hphase, hstart, hcore⟩
    have hjudged := h.judged (by rw [hphase]; decide)
    have hunseen := h.unseen (.inr hphase)
    obtain ⟨hsnapshot, hkept⟩ := hdrop fun hs => absurd (hs ▸ hprofile) (by decide)
    have horder := h.order
    rw [hphase] at horder
    have hmid : Midway w hist c₀ o { c with coreDeadSinceMs := deadSince c o, phase := .Modes } :=
      ⟨h.wakeAt, h.snapshot, horder.trans (List.nil_sublist _), nofun, nofun, fun _ => hjudged,
        h.ready, nofun, fun _ => hdead⟩
    refine ⟨⟨fun _ _ => ⟨hblocked, htime⟩, fun _ => ⟨hstart, hkept⟩, fun _ => by rw [hsnapshot],
      fun _ => hjudged, fun _ => ?_, nofun, fun _ => hactive,
      fun _ => (by decide : (0 : ℤ) ≤ kWakePollMs)⟩, ?_⟩
    · rcases hdead with ⟨entry, hentry, o', ho', hsees', htime'⟩ | ⟨-, hnow⟩
      · exact ⟨entry, hentry, o', ho', hsees', htime' ▸ hgrace⟩
      · rw [← hnow] at hgrace
        exact absurd hgrace (by simp [kWakeCoreGraceMs])
    · refine hmid.runInv hinv hactive₀ ?_ fun _ => ?_
      · rw [allowed, if_pos hactive]
        exact h.sublist_concat rfl (by rw [hphase]; rfl)
      · exact ⟨hunseen, fun hrun => absurd (hcore.symm.trans hrun.2.2) (by decide)⟩
  | checkModes hphase hstart hmodes =>
    obtain rfl := Option.some.inj hr
    obtain ⟨-, hkept⟩ := hdrop fun hs => hmodes (by rw [hs])
    have horder := h.order
    rw [hphase] at horder
    have hmid : Midway w hist c₀ o { c with phase := .Subs } :=
      ⟨h.wakeAt, h.snapshot, horder.trans (List.sublist_append_left _ _), nofun, nofun,
        fun _ => h.judged (by rw [hphase]; decide), h.ready, nofun, h.dead⟩
    refine ⟨⟨fun _ _ => ⟨hblocked, htime⟩, fun _ => ⟨hstart, hkept⟩, nofun, nofun, nofun, nofun,
      fun _ => hactive, fun _ => le_refl _⟩, hmid.runInv hinv hactive₀ ?_ ?_⟩
    rotate_left
    · exact fun hlive => hlive.elim (fun h => h.2.elim nofun nofun) nofun
    rw [allowed, if_pos hactive]
    exact h.sublist_concat rfl (by rw [hphase]; rfl)
  | update hphase hready =>
    obtain rfl := Option.some.inj hr
    refine ⟨⟨fun _ _ => ⟨hblocked, htime⟩, fun h => h.elim nofun nofun, nofun, nofun, nofun,
      fun _ => h.ready hready, nofun, nofun⟩, h.inactive.runInv hinv hactive₀ ?_ ?_⟩
    · exact h.sublist_concat rfl (by rw [hphase]; rfl)
    · exact fun hlive => hlive.elim (fun h => absurd h.1 nofun) nofun
  | finish hphase =>
    obtain rfl := Option.some.inj hr
    exact h.ends hinv hactive₀ .NetworkTimedOut
  | _ => cases hr

/-- A step gives what is guaranteed, and keeps the invariant.

**Proof sketch.** The passes that go on keep what holds midway (`Midway.go`), the one that returns
gives the guarantees (`Midway.finish`). -/
theorem RunInv.step (hinv : RunInv w hist c) (hactive : c.active = true) (o : WakeObservation) :
    Kept w hist c o (c.step o).1 (c.step o).2 := by
  have hmid := hinv.midway hactive o
  refine step_rule (Q := Kept w hist c o) hactive (fun _ => hmid.ends hinv hactive .Blocked)
    (fun _ _ => hmid.ends hinv hactive .RunTimedOut) fun hblocked htime c' r hloop => ?_
  rw [hinv.wakeAt] at htime
  refine loop_rule (I := fun c' => c'.active = true ∧ Midway w hist c o c')
    (Q := Kept w hist c o) (fun next next' hnext hpass => ?_) (fun next next' r hnext hpass => ?_) ⟨hactive, hmid⟩ hloop
  · have hout := pass_outcome o next
    rw [hpass] at hout
    exact ⟨active_go hnext.1 hout, hnext.2.go hout⟩
  · have hout := pass_outcome o next
    rw [hpass] at hout
    exact hnext.2.finish hnext.1 hinv hactive hblocked htime hout

/-- Another event keeps the invariant if it leaves most of the state. -/
lemma RunInv.other (hinv : RunInv w hist c) (hactive : c.active = true) {entry : WakeEntry}
    (hstep : ∀ o, entry.event ≠ .step o) (hacted : acted entry = none)
    (hwakeAt : c'.wakeAtMs = c.wakeAtMs) (hphase : c'.phase = c.phase)
    (hready : c'.networkReady = c.networkReady) (hdead : c'.coreDeadSinceMs = c.coreDeadSinceMs)
    (hsnapshot : c'.snapshot = {} ∨ c'.snapshot = c.snapshot ∧ entry.event ≠ .dropRestore) :
    RunInv w (hist ++ [entry]) c' where
  wakeAt := hwakeAt.trans hinv.wakeAt
  snapshot := by
    rcases hsnapshot with hs | ⟨hs, hkept⟩
    · exact .inl hs
    · rw [hs]
      rcases hinv.snapshot with hs | ⟨hs, hdrop⟩
      · exact .inl hs
      · exact .inr ⟨hs, forall_concat.2 ⟨hdrop, hkept⟩⟩
  order := by
    have horder := hinv.order
    rw [allowed, if_pos hactive] at horder
    rw [List.filterMap_append, List.filterMap_cons_none hacted, List.filterMap_nil,
      List.append_nil, allowed, hphase]
    split_ifs
    · exact horder
    · exact horder.trans (sublist_all c.phase)
  judged h := exists_concat.2 (.inl (hinv.judged (hphase ▸ h)))
  ready h := exists_concat.2 (.inl (hinv.ready (hready ▸ h)))
  unseen _ h := forall_concat.2 ⟨hinv.unseen hactive (hphase ▸ h), fun ⟨o, ho, _⟩ => hstep o ho⟩
  restarted h := by
    rw [List.filterMap_append, List.filterMap_cons_none hacted, List.filterMap_nil,
      List.append_nil] at h
    exact forall_concat.2 ⟨hinv.restarted h, fun ⟨o, ho, _⟩ => hstep o ho⟩
  dead h := exists_concat.2 (.inl (by
    rw [hdead] at h ⊢
    exact hinv.dead h))

/-- What every event of a run gives: steps give what is guaranteed. -/
def Good (w : WakeRun) (hist : List WakeEntry) (entry : WakeEntry) : Prop :=
  ∀ o r, entry.event = .step o → entry.out = .step r →
    StepGuarantees w hist entry.before o (entry.before.step o).1 r

/-- An event that is no step and leaves most of the state. -/
lemma RunInv.good_other (hinv : RunInv w hist c) (hactive : c.active = true) {entry : WakeEntry}
    (hstep : ∀ o, entry.event ≠ .step o) (hacted : acted entry = none)
    (hwakeAt : c'.wakeAtMs = c.wakeAtMs) (hphase : c'.phase = c.phase)
    (hready : c'.networkReady = c.networkReady) (hdead : c'.coreDeadSinceMs = c.coreDeadSinceMs)
    (hsnapshot : c'.snapshot = {} ∨ c'.snapshot = c.snapshot ∧ entry.event ≠ .dropRestore) :
    Good w hist entry ∧ RunInv w (hist ++ [entry]) c' :=
  ⟨fun o _ ho => absurd ho (hstep o),
    hinv.other hactive hstep hacted hwakeAt hphase hready hdead hsnapshot⟩

/-- One event of a run keeps the invariant and gives what is guaranteed. -/
theorem RunInv.handle (hinv : RunInv w hist c) (hactive : c.active = true) (e : WakeEvent) :
    Good w hist ⟨c, e, (c.handle e).2⟩ ∧
      RunInv w (hist ++ [⟨c, e, (c.handle e).2⟩]) (c.handle e).1 := by
  cases e with
  | noteSleep nowMs before =>
    exact hinv.good_other hactive (fun o => WakeEvent.noConfusion) rfl rfl rfl rfl rfl
      (.inr ⟨rfl, WakeEvent.noConfusion⟩)
  | noteWake source nowMs current =>
    have hsame : (c.handle (.noteWake source nowMs current)).1 = c := by
      rw [WakeCoordinator.handle, noteWake, if_pos hactive]
    rw [hsame]
    exact hinv.good_other hactive (fun o => WakeEvent.noConfusion) rfl rfl rfl rfl rfl
      (.inr ⟨rfl, WakeEvent.noConfusion⟩)
  | step o =>
    obtain ⟨hgood, hkept⟩ := hinv.step hactive o
    refine ⟨fun o' r ho hr => ?_, hkept⟩
    have hr' : WakeOut.step (c.step o).2 = .step r := hr
    rw [← WakeEvent.step.inj ho, ← WakeOut.step.inj hr']
    exact hgood
  | cancel =>
    exact hinv.good_other hactive (fun o => WakeEvent.noConfusion) rfl rfl rfl rfl rfl
      (.inr ⟨rfl, WakeEvent.noConfusion⟩)
  | dropRestore =>
    exact hinv.good_other hactive (fun o => WakeEvent.noConfusion) rfl rfl rfl rfl rfl (.inl rfl)

end Step

/-! ### The start of a run -/

/-- The coordinator holds the snapshot of the last sleep that no wake has used. -/
lemma pendingSleep_eq (events : List WakeEvent) :
    pendingSleep (history handle {} events) =
      if (final handle {} events).hasSleepSnapshot then some (final handle {} events).sleepSnapshot
      else none := by
  refine (history_rule handle {} events (I := fun hist c => pendingSleep hist =
      if c.hasSleepSnapshot then some c.sleepSnapshot else none)
    (A := fun _ _ _ => True) (G := fun _ _ => True) rfl
    (fun hist c e hinv _ => ⟨trivial, ?_⟩) fun _ _ _ _ => trivial).1
  rw [pendingSleep, List.foldl_concat, ← pendingSleep]
  cases e with
  | noteSleep nowMs before => rfl
  | noteWake source nowMs current =>
    rcases noteWake_cases c source nowMs current with h | h
    · simp only [WakeCoordinator.handle, h]
      exact hinv
    · simp only [WakeCoordinator.handle, h]
      rfl
  | step o =>
    obtain ⟨hsleep, hhas⟩ := step_sleep c o
    simp only [WakeCoordinator.handle, hsleep, hhas]
    exact hinv
  | cancel => exact hinv
  | dropRestore => exact hinv

namespace WakeRun

variable (w : WakeRun)

/-- A run begins with the snapshot of the run. -/
lemma start_eq : w.start = (final handle {} w.earlier).begun w.source w.nowMs w.snapshot := by
  rw [start, snapshot, pendingSleep_eq]
  rcases noteWake_cases (final handle {} w.earlier) w.source w.nowMs w.current with h | h
  · exact absurd (w.accepted.symm.trans (congrArg Prod.snd h)) Bool.noConfusion
  · rw [h]
    cases (final handle {} w.earlier).hasSleepSnapshot <;> rfl

/-- The invariant holds at the start. -/
lemma runInv_start : RunInv w [] w.start := by
  rw [start_eq]
  exact ⟨rfl, .inr ⟨rfl, fun _ h => absurd h List.not_mem_nil⟩, List.Sublist.refl [],
    fun h => absurd rfl h, nofun, fun _ _ _ h => absurd h List.not_mem_nil,
    fun h => absurd h List.not_mem_nil, nofun⟩

/-! ### What a run guarantees -/

/-- What the caller relies on: the actions and their order, what is guaranteed of each step, and that
a restart is for a core no step saw running and the first that saw it dead did long before. -/
structure Guarantees : Prop where
  order : (w.entries.filterMap acted).Sublist [.RestartProfile, .CheckModes, .UpdateSubscriptions]
  steps : ∀ l entry l', w.entries = l ++ entry :: l' → Good w l entry
  unseen : .RestartProfile ∈ w.entries.filterMap acted →
    ∀ entry ∈ w.entries, ¬ OnStep (SeesRunning w.nowMs) entry
  firstDead : ∀ l entry l' o r, w.entries = l ++ entry :: l' → entry.event = .step o →
    entry.out = .step r → r.action = .RestartProfile → ∃ l₁ first l₂ o', l = l₁ ++ first :: l₂ ∧
      first.event = .step o' ∧ SeesDead w.nowMs first.before o' ∧
      o'.nowMs + kWakeCoreGraceMs ≤ o.nowMs ∧ ∀ e ∈ l₁, ¬ OnStep (SeesDead w.nowMs) e

end WakeRun

/-- The times of a run do not decrease. -/
lemma WakeRun.time_le (w : WakeRun) {l l' : List WakeEntry} {entry entry' : WakeEntry}
    {o o' : WakeObservation} (h : w.entries = l ++ entry :: l') (hmem : entry' ∈ l')
    (ho : entry.event = .step o) (ho' : entry'.event = .step o') : o.nowMs ≤ o'.nowMs := by
  have hduring : w.during = l.map Entry.event ++ .step o :: l'.map Entry.event := by
    rw [← ho, ← map_event_history _ _ w.during]
    exact (congrArg (List.map Entry.event) h).trans (by rw [List.map_append, List.map_cons])
  have hsublist : (.step o :: l'.map Entry.event).Sublist
      (w.earlier ++ .noteWake w.source w.nowMs w.current :: w.during) := by
    rw [hduring]
    exact ((List.sublist_append_right _ _).trans (List.sublist_cons_self _ _)).trans
      (List.sublist_append_right _ _)
  have hpairwise := w.times.sublist (hsublist.filterMap WakeEvent.time)
  have htime : (WakeEvent.step o).time = some o.nowMs := rfl
  rw [List.filterMap_cons_some htime, List.pairwise_cons] at hpairwise
  refine hpairwise.1 _ (List.mem_filterMap.2 ⟨entry'.event, List.mem_map_of_mem hmem, ?_⟩)
  rw [ho']
  rfl

/-- **Every run after a wake gives what the caller relies on, and every step returns.**

**Proof sketch.** The invariant `RunInv` holds at the start and every event keeps it and gives the
guarantees of one step (`RunInv.handle`), so they hold of the whole run (`history_rule`). The first
step that saw the core dead was no later than the one whose time is remembered, as the times do not
decrease. -/
theorem wake_run_guarantees (w : WakeRun) :
    w.Guarantees ∧ ∀ c o, ∃ r, loop o 4 c = some r := by
  obtain ⟨hinv, hgood⟩ := history_rule handle w.start w.during (I := RunInv w)
    (A := fun _ c _ => c.active = true) (G := Good w) w.runInv_start
    (fun hist c e hinv hactive => hinv.handle hactive e)
    fun l entry l' h => w.active entry (h ▸ List.mem_append_cons_self)
  refine ⟨⟨?_, hgood, hinv.restarted, fun l entry l' o r h ho hr hrestart => ?_⟩,
    fun c o => loop_returns o c⟩
  · refine hinv.order.trans ?_
    unfold allowed
    split_ifs
    · exact sublist_all _
    · exact List.Sublist.refl _
  · obtain ⟨dead, hdead, o', ho', hsees, htime⟩ :=
      (hgood l entry l' h o r ho hr).dead hrestart
    obtain ⟨l₁, first, l₂, rfl, ⟨o₁, ho₁, hfirst⟩, hunseen⟩ :=
      exists_first (P := OnStep (SeesDead w.nowMs)) ⟨dead, hdead, o', ho', hsees⟩
    refine ⟨l₁, first, l₂, o₁, rfl, ho₁, hfirst, ?_, hunseen⟩
    have hle : o₁.nowMs ≤ o'.nowMs := by
      rcases List.mem_append.1 hdead with hdead | hdead
      · exact absurd ⟨o', ho', hsees⟩ (hunseen dead hdead)
      · rcases List.mem_cons.1 hdead with rfl | hdead
        · rw [WakeEvent.step.inj (ho₁.symm.trans ho')]
        · rw [List.append_assoc, List.cons_append] at h
          exact w.time_le h (List.mem_append_left _ hdead) ho₁ ho'
    omega

/-! ### What runs do not guarantee -/

/-- After a restart, no observation in the core phase says that the core runs. -/
def NeverRunning (w : WakeRun) : Prop :=
  .RestartProfile ∈ w.entries.filterMap acted →
    ∀ entry ∈ w.entries, ¬ OnStep (fun c o => InCore w.nowMs c o ∧ o.coreRunning = true) entry

/-- The snapshot of the last sleep. -/
def lastSleep (events : List WakeEvent) : Option WakeSnapshot :=
  events.foldl (fun last e =>
    match e with
    | .noteSleep _ before => some before
    | _ => last) none

/-- A restart is of the profile of the last sleep, used or not. -/
def NamesLastSleep (w : WakeRun) : Prop :=
  ∀ entry ∈ w.entries, ∀ r, entry.out = .step r → r.action = .RestartProfile →
    r.profileId = ((lastSleep w.earlier).getD w.current).profileId

/-- Before a restart an observation said that the network is there, or observations said for the
fixed delay that it is not known, or the time to wait for it was over. -/
def WaitsForNetwork (w : WakeRun) : Prop :=
  .RestartProfile ∈ w.entries.filterMap acted →
    (∃ entry ∈ w.entries, OnStep (fun _ o => o.reachability = .Online ∨
      kWakeNetworkWaitMaxMs ≤ o.nowMs - w.nowMs) entry) ∨
    ∃ entry ∈ w.entries, ∃ entry' ∈ w.entries, ∃ o o', entry.event = .step o ∧
      entry'.event = .step o' ∧ o.reachability = .Unknown ∧ o'.reachability = .Unknown ∧
      kWakeNoReachabilityDelayMs ≤ o'.nowMs - o.nowMs

/-- The core runs while a start is pending, and is dead from then on. -/
def pendingRun : WakeRun where
  earlier := [.noteSleep 0 { profileId := 5 }]
  source := .Native
  nowMs := 0
  current := {}
  during := [
    .step { nowMs := 0, reachability := .Online, startPending := true, coreRunning := true },
    .step { nowMs := 1000, reachability := .Online },
    .step { nowMs := 9000, reachability := .Online }]
  times := by decide
  accepted := by decide
  active := by decide

/-- A second wake, before which no sleep was noted. -/
def secondRun : WakeRun where
  earlier := [.noteSleep 0 { profileId := 5 }, .noteWake .Native 0 {},
    .step { nowMs := 0, reachability := .Online, coreRunning := true }]
  source := .TimerGap
  nowMs := 200000
  current := { profileId := 7 }
  during := [.step { nowMs := 200000, reachability := .Online },
    .step { nowMs := 208000, reachability := .Online }]
  times := by decide
  accepted := by decide
  active := by decide

/-- One observation does not know whether the network is there, all others say that it is not. -/
def unknownRun : WakeRun where
  earlier := []
  source := .Native
  nowMs := 0
  current := { profileId := 5 }
  during := [.step { nowMs := 1000, reachability := .Offline },
    .step { nowMs := 2500 },
    .step { nowMs := 10500, reachability := .Offline }]
  times := by decide
  accepted := by decide
  active := by decide

/-- Three things no run guarantees: a core that runs while a start is pending is not looked at, a
used snapshot is not used again, and one look that does not know the network is enough. -/
theorem wake_run_exceptions :
    ¬ NeverRunning pendingRun ∧ ¬ NamesLastSleep secondRun ∧ ¬ WaitsForNetwork unknownRun := by
  refine ⟨fun h => ?_, fun h => ?_, fun h => ?_⟩
  · have hrestart : .RestartProfile ∈ pendingRun.entries.filterMap acted := by decide
    exact h hrestart _ List.mem_cons_self ⟨_, rfl, .inr ⟨rfl, .inl (.inl rfl)⟩, rfl⟩
  · have hrestart := h _ (List.mem_cons_of_mem _ List.mem_cons_self) _ rfl (by decide)
    exact absurd hrestart (by decide)
  · have hrestart : .RestartProfile ∈ unknownRun.entries.filterMap acted := by decide
    have hsteps {entry : WakeEntry} (hentry : entry ∈ unknownRun.entries) {o : WakeObservation}
        (ho : entry.event = .step o) :
        o.reachability ≠ .Online ∧ o.nowMs < kWakeNetworkWaitMaxMs ∧
          (o.reachability = .Unknown → o.nowMs = 2500) := by
      have hmem : WakeEvent.step o ∈ unknownRun.during := by
        have hevents : (history handle unknownRun.start unknownRun.during).map Entry.event =
            unknownRun.during := map_event_history _ _ _
        rw [← hevents, ← ho]
        exact List.mem_map_of_mem hentry
      simp only [unknownRun, List.mem_cons, List.not_mem_nil, or_false, WakeEvent.step.injEq] at hmem
      rcases hmem with rfl | rfl | rfl <;> decide
    rcases h hrestart with ⟨entry, hentry, o, ho, honline | hover⟩ |
        ⟨entry, hentry, entry', hentry', o, o', ho, ho', hunknown, hunknown', hdelay⟩
    · exact (hsteps hentry ho).1 honline
    · exact absurd ((hsteps hentry ho).2.1) (not_lt.2 ((Int.sub_zero o.nowMs) ▸ hover))
    · rw [(hsteps hentry ho).2.2 hunknown, (hsteps hentry' ho').2.2 hunknown'] at hdelay
      exact absurd hdelay (by decide)

end Proxor.Platform
