import Proxor.Core.GrpcBox
import Proxor.Lib.Mutex
import Proxor.Lib.Run

set_option relaxedAutoImplicit false
set_option autoImplicit false

/-!
# Starting and stopping a profile

The window starts a profile in a thread of its own, and stops one in another; each kind has a mutex, so that there is
one of each at most. A start that finds a profile running has the window stop it first, and waits on a semaphore. The
core has its own idea of what runs.

## Main definitions

* `Proxor.Ui.StartStop.State` — what the threads share, the calls that are posted to the window, the threads and the
  core.
* `Proxor.Ui.StartStop.proxor_start`, `Proxor.Ui.StartStop.proxor_stop` — what the window does.
* `Proxor.Ui.StartStop.step` — the steps of the window and of the threads.
* `Proxor.Ui.StartStop.Sound` — the mutexes and the semaphore are kept.
* `Proxor.Ui.StartStop.work` — how many steps the threads may still take.

## Main results

* `Proxor.Ui.StartStop.settles` — along every run nobody waits for ever: without the user the threads come to their
  end, and leave no lock behind.

## Design

What the window does in one call is one step, and a call of the core is another. The core answers: a core that is not
up, or dies, is not modelled, nor is the exit of the program. `builtFrom` records from which profile an instance was
built.
-/

namespace Proxor.Ui.StartStop

open Text
open Core (Attempt)

/-! ### States -/

/-- Where the thread of a start is: in the validation, before it reads `start_cancel`, before it reads `started_id`, on
the semaphore, before a call of `Start`, behind one that worked or failed, before it unlocks, behind that, or at its
end. -/
inductive StartPc
  | validating
  | cancelling
  | replacing
  | waiting
  | starting (attempt : ℕ)
  | started
  | failed
  | unlocking
  | leaving
  | done
deriving DecidableEq

/-- The thread of a start, with the profile. -/
structure StartThread where
  ent : ℕ
  pc : StartPc := .validating
deriving DecidableEq

/-- Where the thread of a stop is: before the call of `Stop`, before it clears `started_id`, before it unlocks, before
it releases the semaphore, or at its end. -/
inductive StopPc
  | stopping
  | clearing
  | unlocking
  | releasing
  | done
deriving DecidableEq

/-- The thread of a stop, and whether somebody waits for it. -/
structure StopThread where
  sem : Bool
  pc : StopPc := .stopping
deriving DecidableEq

/-- A call that is posted to the window. -/
inductive Post
  | proxor_stop (sem : Bool)
  | started
deriving DecidableEq

/-- The state: a mutex is held by the thread with a number. -/
structure State where
  started_id : ℤ := -1919
  start_pending : Bool := false
  start_cancel : Bool := false
  mu_starting : Option ℕ := none
  mu_stopping : Option ℕ := none
  sem_stopped : ℕ := 0
  posted : List Post := []
  starts : List StartThread := []
  stops : List StopThread := []
  core : Core.State := {}
  builtFrom : ℕ → Option ℕ := fun _ => none

/-! ### The window -/

variable (s : State)

/-- `proxor_start` with a config that could be built. -/
def proxor_start (ent : ℕ) : State :=
  if s.mu_starting.isSome then s
  else if s.mu_stopping.isSome then { s with start_pending := false }
  else
    { s with
      start_pending := true
      start_cancel := false
      mu_starting := some s.starts.length
      starts := s.starts ++ [{ ent := ent }] }

/-- Somebody waits no longer. -/
def release (sem : Bool) : State := if sem then { s with sem_stopped := s.sem_stopped + 1 } else s

/-- A stop while nothing runs aborts a pending start: the thread of the start reads `start_cancel`. -/
def cancelPending : State :=
  if s.start_pending then
    if s.mu_starting.isNone then { s with start_cancel := true, start_pending := false }
    else { s with start_cancel := true }
  else s

def proxor_stop (sem : Bool) : State :=
  if s.started_id < 0 then release (cancelPending s) sem
  else if s.mu_stopping.isSome then release s sem
  else { s with mu_stopping := some s.stops.length, stops := s.stops ++ [{ sem := sem }] }

/-- A call that was posted. -/
def handle : Post → State
  | .proxor_stop sem => proxor_stop s sem
  | .started => { s with start_pending := false }

/-! ### The threads -/

/-- The thread of a start goes on to here. -/
def startAt (i : ℕ) (t : StartThread) (pc : StartPc) : State := { s with starts := s.starts.set i { t with pc := pc } }

/-- The thread of a stop goes on to here. -/
def stopAt (j : ℕ) (t : StopThread) (pc : StopPc) : State := { s with stops := s.stops.set j { t with pc := pc } }

/-- The validation: a config that the core does not take ends the start. -/
def validated (i : ℕ) (t : StartThread) (ok : Bool) : State :=
  if ok then startAt s i t .cancelling
  else startAt { s with start_pending := false, mu_starting := none } i t .done

/-- The call of `Start`. One that fails to bind is repeated: sockets are released with a delay. -/
def startRpc (i : ℕ) (t : StartThread) (attempt : ℕ) (attempts : ℕ → Attempt) : State :=
  let r := Core.start attempts s.core
  let s' : State := { s with
    core := r.2
    builtFrom := fun n => if s.core.built ≤ n then some t.ent else s.builtFrom n }
  match r.1 with
  | none => startAt s' i t .started
  | some err =>
    if attempt < 3 ∧ contains err "bind:" then startAt s' i t (.starting (attempt + 1)) else startAt s' i t .failed

/-- The other steps of the thread of a start. -/
def startGoes (i : ℕ) (t : StartThread) : Option State :=
  match t.pc with
  | .cancelling =>
    if s.start_cancel then some (startAt { s with start_pending := false, mu_starting := none } i t .done)
    else some (startAt s i t .replacing)
  | .replacing =>
    if 0 ≤ s.started_id then some (startAt { s with posted := s.posted ++ [.proxor_stop true] } i t .waiting)
    else some (startAt s i t (.starting 0))
  | .waiting =>
    if 0 < s.sem_stopped then some (startAt { s with sem_stopped := s.sem_stopped - 1 } i t (.starting 0)) else none
  | .started => some (startAt { s with started_id := t.ent, posted := s.posted ++ [.started] } i t .unlocking)
  | .failed => some (startAt { s with start_pending := false } i t .unlocking)
  | .unlocking => some (startAt { s with mu_starting := none } i t .leaving)
  | .leaving =>
    -- a stop was pressed while the core was loading the config: the start is undone
    if s.start_cancel ∧ 0 ≤ s.started_id then
      some (startAt { s with posted := s.posted ++ [.proxor_stop false] } i t .done)
    else some (startAt s i t .done)
  | _ => none

/-- The thread of a stop. -/
def stopGoes (j : ℕ) (t : StopThread) : Option State :=
  match t.pc with
  | .stopping => some (stopAt { s with core := Core.stop s.core } j t .clearing)
  | .clearing => some (stopAt { s with started_id := -1919 } j t .unlocking)
  | .unlocking => some (stopAt { s with mu_stopping := none } j t .releasing)
  | .releasing => some (stopAt (release s t.sem) j t .done)
  | .done => none

/-- What happens: the user starts a profile, starts one whose config cannot be built, or stops; the window handles what
is posted; and the threads go on, with what the core answers. -/
inductive Event
  | start (ent : ℕ)
  | buildFails
  | stop
  | post
  | validate (i : ℕ) (ok : Bool)
  | startRpc (i : ℕ) (attempts : ℕ → Attempt)
  | startGoes (i : ℕ)
  | stopGoes (j : ℕ)

/-- The user does it. -/
def Event.byUser : Event → Bool
  | .start _ | .buildFails | .stop => true
  | _ => false

/-- A step, where it can be taken. -/
def step : Event → Option State
  | .start ent => some (proxor_start s ent)
  | .buildFails => some { s with start_pending := false }
  | .stop => some (proxor_stop s false)
  | .post =>
    match s.posted with
    | [] => none
    | call :: posted => some (handle { s with posted := posted } call)
  | .validate i ok =>
    match s.starts[i]? with
    | some t => if t.pc = .validating then some (validated s i t ok) else none
    | none => none
  | .startRpc i attempts =>
    match s.starts[i]? with
    | some t =>
      match t.pc with
      | .starting attempt => some (startRpc s i t attempt attempts)
      | _ => none
    | none => none
  | .startGoes i => s.starts[i]?.bind (startGoes s i)
  | .stopGoes j => s.stops[j]?.bind (stopGoes s j)

/-- What cannot happen changes nothing. -/
def next (e : Event) : State := (step s e).getD s

/-! ### Locks and the semaphore -/

/-- The thread of a start holds its mutex. -/
def StartPc.holds : StartPc → Bool
  | .leaving | .done => false
  | _ => true

/-- The thread of a stop holds its mutex. -/
def StopPc.holds : StopPc → Bool
  | .stopping | .clearing | .unlocking => true
  | _ => false

/-- The thread of a start is on the semaphore. -/
def StartThread.waits (t : StartThread) : Bool := t.pc = .waiting

/-- The thread of a stop will release the semaphore. -/
def StopThread.owes (t : StopThread) : Bool := t.sem && t.pc ≠ .done

/-- The mutexes are held by the threads that are where they hold them, and for each start on the semaphore it is
released, will be by a thread, or a stop is posted that does so. -/
structure Sound : Prop where
  starting : Mutex.Guarded (fun t : StartThread => t.pc.holds) s.mu_starting s.starts
  stopping : Mutex.Guarded (fun t : StopThread => t.pc.holds) s.mu_stopping s.stops
  matched : s.starts.countP StartThread.waits =
    s.sem_stopped + s.posted.count (.proxor_stop true) + s.stops.countP StopThread.owes

variable {s} {s₁ s' : State} {i j : ℕ} {t : StartThread} {u : StopThread}

/-- At the beginning there are no threads. -/
lemma sound_init : Sound {} := ⟨Mutex.guarded_nil, Mutex.guarded_nil, rfl⟩

/-- The thread of a start goes on, and leaves the stops alone. -/
lemma Sound.startAt (hs : Sound s) (hi : s.starts[i]? = some t) {pc : StartPc} (hstarts : s₁.starts = s.starts)
    (hstops : s₁.stops = s.stops) (hstopping : s₁.mu_stopping = s.mu_stopping)
    (hmutex : (pc.holds = t.pc.holds ∧ s₁.mu_starting = s.mu_starting) ∨
      (t.pc.holds = true ∧ pc.holds = false ∧ s₁.mu_starting = none))
    (hcount : s₁.sem_stopped + s₁.posted.count (.proxor_stop true) + t.waits.toNat =
      s.sem_stopped + s.posted.count (.proxor_stop true) + (StartThread.waits { t with pc := pc }).toNat) :
    Sound (startAt s₁ i t pc) := by
  refine ⟨?_, ?_, ?_⟩
  · show Mutex.Guarded _ s₁.mu_starting (s₁.starts.set i _)
    rw [hstarts]
    rcases hmutex with ⟨hholds, hmutex⟩ | ⟨hholds, hfree, hmutex⟩
    · rw [hmutex]
      exact hs.starting.move hi hholds
    · rw [hmutex]
      exact hs.starting.unlock hi hholds hfree
  · show Mutex.Guarded _ s₁.mu_stopping s₁.stops
    rw [hstopping, hstops]
    exact hs.stopping
  · show (s₁.starts.set i _).countP _ = s₁.sem_stopped + s₁.posted.count _ + s₁.stops.countP _
    have hset := Mutex.countP_set StartThread.waits hi { t with pc := pc }
    have hmatched := hs.matched
    rw [hstarts, hstops]
    omega

/-- The thread of a stop goes on, and leaves the starts alone. -/
lemma Sound.stopAt (hs : Sound s) (hj : s.stops[j]? = some u) {pc : StopPc} (hstarts : s₁.starts = s.starts)
    (hstops : s₁.stops = s.stops) (hstarting : s₁.mu_starting = s.mu_starting)
    (hmutex : (pc.holds = u.pc.holds ∧ s₁.mu_stopping = s.mu_stopping) ∨
      (u.pc.holds = true ∧ pc.holds = false ∧ s₁.mu_stopping = none))
    (hcount : s₁.sem_stopped + s₁.posted.count (.proxor_stop true) + (StopThread.owes { u with pc := pc }).toNat =
      s.sem_stopped + s.posted.count (.proxor_stop true) + u.owes.toNat) :
    Sound (stopAt s₁ j u pc) := by
  refine ⟨?_, ?_, ?_⟩
  · show Mutex.Guarded _ s₁.mu_starting s₁.starts
    rw [hstarting, hstarts]
    exact hs.starting
  · show Mutex.Guarded _ s₁.mu_stopping (s₁.stops.set j _)
    rw [hstops]
    rcases hmutex with ⟨hholds, hmutex⟩ | ⟨hholds, hfree, hmutex⟩
    · rw [hmutex]
      exact hs.stopping.move hj hholds
    · rw [hmutex]
      exact hs.stopping.unlock hj hholds hfree
  · show s₁.starts.countP _ = s₁.sem_stopped + s₁.posted.count _ + (s₁.stops.set j _).countP _
    have hset := Mutex.countP_set StopThread.owes hj { u with pc := pc }
    have hmatched := hs.matched
    rw [hstarts, hstops]
    omega

/-- A call of `proxor_start`. -/
lemma sound_proxor_start (hs : Sound s) (ent : ℕ) : Sound (proxor_start s ent) := by
  rw [proxor_start]
  split
  · exact hs
  · next hstarting =>
    split
    · exact ⟨hs.starting, hs.stopping, hs.matched⟩
    · have hfree : s.mu_starting = none := by simpa using hstarting
      refine ⟨(hfree ▸ hs.starting).spawn rfl, hs.stopping, ?_⟩
      show (s.starts ++ [_]).countP _ = _
      rw [List.countP_append, hs.matched]
      rfl

/-- The state with another number of releases, posts and flags. -/
lemma Sound.congr (hs : Sound s) (hstarts : s₁.starts = s.starts) (hstops : s₁.stops = s.stops)
    (hstarting : s₁.mu_starting = s.mu_starting) (hstopping : s₁.mu_stopping = s.mu_stopping)
    (hcount : s₁.sem_stopped + s₁.posted.count (.proxor_stop true) =
      s.sem_stopped + s.posted.count (.proxor_stop true)) : Sound s₁ := by
  refine ⟨?_, ?_, ?_⟩
  · rw [hstarts, hstarting]
    exact hs.starting
  · rw [hstops, hstopping]
    exact hs.stopping
  · rw [hstarts, hstops, hcount]
    exact hs.matched

/-- What a cancelled start leaves alone. -/
lemma cancelPending_same (s : State) :
    (cancelPending s).starts = s.starts ∧ (cancelPending s).stops = s.stops ∧
      (cancelPending s).mu_starting = s.mu_starting ∧ (cancelPending s).mu_stopping = s.mu_stopping ∧
      (cancelPending s).sem_stopped = s.sem_stopped ∧ (cancelPending s).posted = s.posted ∧
      (cancelPending s).started_id = s.started_id ∧ (cancelPending s).core = s.core ∧
      (cancelPending s).builtFrom = s.builtFrom := by
  rw [cancelPending]
  split_ifs <;> exact ⟨rfl, rfl, rfl, rfl, rfl, rfl, rfl, rfl, rfl⟩

/-- A call of `proxor_stop`, from a state that lacks the release or the post that called it. -/
lemma sound_proxor_stop {sem : Bool} (hs : Sound s) (hstarts : s₁.starts = s.starts) (hstops : s₁.stops = s.stops)
    (hstarting : s₁.mu_starting = s.mu_starting) (hstopping : s₁.mu_stopping = s.mu_stopping)
    (hcount : s₁.sem_stopped + s₁.posted.count (.proxor_stop true) + sem.toNat =
      s.sem_stopped + s.posted.count (.proxor_stop true)) : Sound (proxor_stop s₁ sem) := by
  have hrelease : ∀ s₂ : State, s₂.starts = s₁.starts → s₂.stops = s₁.stops → s₂.mu_starting = s₁.mu_starting →
      s₂.mu_stopping = s₁.mu_stopping → s₂.sem_stopped = s₁.sem_stopped → s₂.posted = s₁.posted →
      Sound (release s₂ sem) := by
    intro s₂ h₁ h₂ h₃ h₄ h₅ h₆
    cases sem with
    | false =>
      refine hs.congr (h₁.trans hstarts) (h₂.trans hstops) (h₃.trans hstarting) (h₄.trans hstopping) ?_
      rw [← hcount, release, if_neg Bool.false_ne_true, h₅, h₆]
      rfl
    | true =>
      refine hs.congr (h₁.trans hstarts) (h₂.trans hstops) (h₃.trans hstarting) (h₄.trans hstopping) ?_
      show s₂.sem_stopped + 1 + s₂.posted.count _ = _
      rw [← hcount, h₅, h₆, Bool.toNat_true]
      omega
  rw [proxor_stop]
  split
  · obtain ⟨h₁, h₂, h₃, h₄, h₅, h₆, -⟩ := cancelPending_same s₁
    exact hrelease _ h₁ h₂ h₃ h₄ h₅ h₆
  · split
    · exact hrelease s₁ rfl rfl rfl rfl rfl rfl
    · next hbusy =>
      have hfree : s.mu_stopping = none := by
        rw [← hstopping]
        simpa using hbusy
      refine ⟨?_, ?_, ?_⟩
      · show Mutex.Guarded _ s₁.mu_starting s₁.starts
        rw [hstarting, hstarts]
        exact hs.starting
      · show Mutex.Guarded _ (some s₁.stops.length) (s₁.stops ++ [_])
        rw [hstops]
        exact (hfree ▸ hs.stopping).spawn rfl
      · show s₁.starts.countP _ = s₁.sem_stopped + s₁.posted.count _ + (s₁.stops ++ [_]).countP _
        have hmatched := hs.matched
        have howes : [({ sem := sem } : StopThread)].countP StopThread.owes = sem.toNat := by
          cases sem <;> rfl
        rw [List.countP_append, hstarts, hstops, howes]
        omega

/-- **Every step** keeps the locks and the semaphore. -/
lemma sound_step {e : Event} (hs : Sound s) (h : step s e = some s') : Sound s' := by
  cases e with
  | start ent =>
    obtain rfl := Option.some.inj h
    exact sound_proxor_start hs ent
  | buildFails =>
    obtain rfl := Option.some.inj h
    exact ⟨hs.starting, hs.stopping, hs.matched⟩
  | stop =>
    obtain rfl := Option.some.inj h
    exact sound_proxor_stop hs rfl rfl rfl rfl rfl
  | post =>
    rw [step] at h
    split at h
    · exact absurd h (by simp)
    · next call posted hposted =>
      obtain rfl := Option.some.inj h
      cases call with
      | proxor_stop sem =>
        refine sound_proxor_stop hs rfl rfl rfl rfl ?_
        rw [hposted, List.count_cons]
        cases sem <;> simp [Nat.add_assoc]
      | started =>
        refine hs.congr rfl rfl rfl rfl ?_
        show s.sem_stopped + posted.count _ = _
        rw [hposted, List.count_cons]
        simp
  | validate i ok =>
    rw [step] at h
    split at h
    · next t hi =>
      split at h
      · next hpc =>
        obtain rfl := Option.some.inj h
        rw [validated]
        split
        · exact hs.startAt hi rfl rfl rfl (Or.inl ⟨by rw [hpc]; rfl, rfl⟩) (by simp [StartThread.waits, hpc])
        · exact hs.startAt hi rfl rfl rfl (Or.inr ⟨by rw [hpc]; rfl, rfl, rfl⟩) (by simp [StartThread.waits, hpc])
      · exact absurd h (by simp)
    · exact absurd h (by simp)
  | startRpc i attempts =>
    rw [step] at h
    split at h
    · next t hi =>
      split at h
      · next attempt hpc =>
        obtain rfl := Option.some.inj h
        rw [startRpc]
        split
        · exact hs.startAt hi rfl rfl rfl (Or.inl ⟨by rw [hpc]; rfl, rfl⟩) (by simp [StartThread.waits, hpc])
        · split
          · exact hs.startAt hi rfl rfl rfl (Or.inl ⟨by rw [hpc]; rfl, rfl⟩) (by simp [StartThread.waits, hpc])
          · exact hs.startAt hi rfl rfl rfl (Or.inl ⟨by rw [hpc]; rfl, rfl⟩) (by simp [StartThread.waits, hpc])
      · exact absurd h (by simp)
    · exact absurd h (by simp)
  | startGoes i =>
    obtain ⟨t, hi, h⟩ := Option.bind_eq_some_iff.1 h
    rw [startGoes] at h
    split at h
    · next hpc =>
      split at h
      · obtain rfl := Option.some.inj h
        exact hs.startAt hi rfl rfl rfl (Or.inr ⟨by rw [hpc]; rfl, rfl, rfl⟩) (by simp [StartThread.waits, hpc])
      · obtain rfl := Option.some.inj h
        exact hs.startAt hi rfl rfl rfl (Or.inl ⟨by rw [hpc]; rfl, rfl⟩) (by simp [StartThread.waits, hpc])
    · next hpc =>
      split at h
      · obtain rfl := Option.some.inj h
        refine hs.startAt hi rfl rfl rfl (Or.inl ⟨by rw [hpc]; rfl, rfl⟩) ?_
        simp [StartThread.waits, hpc, Nat.add_assoc]
      · obtain rfl := Option.some.inj h
        exact hs.startAt hi rfl rfl rfl (Or.inl ⟨by rw [hpc]; rfl, rfl⟩) (by simp [StartThread.waits, hpc])
    · next hpc =>
      split at h
      · next hsem =>
        obtain rfl := Option.some.inj h
        refine hs.startAt hi rfl rfl rfl (Or.inl ⟨by rw [hpc]; rfl, rfl⟩) ?_
        simp only [StartThread.waits, hpc, decide_true, Bool.toNat_true, reduceCtorEq, decide_false, Bool.toNat_false]
        omega
      · exact absurd h (by simp)
    · next hpc =>
      obtain rfl := Option.some.inj h
      refine hs.startAt hi rfl rfl rfl (Or.inl ⟨by rw [hpc]; rfl, rfl⟩) ?_
      simp [StartThread.waits, hpc]
    · next hpc =>
      obtain rfl := Option.some.inj h
      exact hs.startAt hi rfl rfl rfl (Or.inl ⟨by rw [hpc]; rfl, rfl⟩) (by simp [StartThread.waits, hpc])
    · next hpc =>
      obtain rfl := Option.some.inj h
      exact hs.startAt hi rfl rfl rfl (Or.inr ⟨by rw [hpc]; rfl, rfl, rfl⟩) (by simp [StartThread.waits, hpc])
    · next hpc =>
      split at h
      · obtain rfl := Option.some.inj h
        refine hs.startAt hi rfl rfl rfl (Or.inl ⟨by rw [hpc]; rfl, rfl⟩) ?_
        simp [StartThread.waits, hpc]
      · obtain rfl := Option.some.inj h
        exact hs.startAt hi rfl rfl rfl (Or.inl ⟨by rw [hpc]; rfl, rfl⟩) (by simp [StartThread.waits, hpc])
    · exact absurd h (by simp)
  | stopGoes j =>
    obtain ⟨u, hj, h⟩ := Option.bind_eq_some_iff.1 h
    rw [stopGoes] at h
    split at h
    · next hpc =>
      obtain rfl := Option.some.inj h
      exact hs.stopAt hj rfl rfl rfl (Or.inl ⟨by rw [hpc]; rfl, rfl⟩) (by simp [StopThread.owes, hpc])
    · next hpc =>
      obtain rfl := Option.some.inj h
      exact hs.stopAt hj rfl rfl rfl (Or.inl ⟨by rw [hpc]; rfl, rfl⟩) (by simp [StopThread.owes, hpc])
    · next hpc =>
      obtain rfl := Option.some.inj h
      exact hs.stopAt hj rfl rfl rfl (Or.inr ⟨by rw [hpc]; rfl, rfl, rfl⟩) (by simp [StopThread.owes, hpc])
    · next hpc =>
      obtain rfl := Option.some.inj h
      rw [release]
      split
      · next hsem =>
        refine hs.stopAt hj rfl rfl rfl (Or.inl ⟨by rw [hpc]; rfl, rfl⟩) ?_
        simp only [StopThread.owes, hpc, hsem]
        simp
        omega
      · next hsem => exact hs.stopAt hj rfl rfl rfl (Or.inl ⟨by rw [hpc]; rfl, rfl⟩) (by simp [StopThread.owes, hsem])
    · exact absurd h (by simp)

/-- What cannot happen keeps everything. -/
lemma sound_next (hs : Sound s) (e : Event) : Sound (next s e) := by
  rw [next]
  cases h : step s e with
  | none => exact hs
  | some s' => exact sound_step hs h

/-- **Along every run** the locks and the semaphore are kept. -/
theorem sound_run (events : List Event) : Sound (events.foldl next {}) := by
  suffices hall : ∀ s : State, Sound s → Sound (events.foldl next s) from hall {} sound_init
  induction events with
  | nil => exact fun s hs => hs
  | cons e events ih => exact fun s hs => ih (next s e) (sound_next hs e)

/-! ### Nobody waits for ever -/

/-- How many steps the thread of a start may still take, with those that its posts lead to. A call of `Start` is
repeated three times. -/
def StartPc.work : StartPc → ℕ
  | .validating => 26
  | .cancelling => 25
  | .replacing => 24
  | .waiting => 18
  | .starting attempt => 14 + (3 - attempt)
  | .started => 13
  | .failed => 8
  | .unlocking => 7
  | .leaving => 6
  | .done => 0

/-- How many steps the thread of a stop may still take. -/
def StopPc.work : StopPc → ℕ
  | .stopping => 4
  | .clearing => 3
  | .unlocking => 2
  | .releasing => 1
  | .done => 0

/-- How many steps may still be taken without the user: a call that is posted may start a stop. -/
def work (s : State) : ℕ :=
  5 * s.posted.length + (s.starts.map fun t => t.pc.work).sum + (s.stops.map fun t => t.pc.work).sum

/-- Nothing is in flight: all threads are at their end, nothing is posted, and nothing is locked. -/
structure Quiet (s : State) : Prop where
  posted : s.posted = []
  starts : ∀ t ∈ s.starts, t.pc = .done
  stops : ∀ t ∈ s.stops, t.pc = .done
  mu_starting : s.mu_starting = none
  mu_stopping : s.mu_stopping = none
  sem_stopped : s.sem_stopped = 0

/-- A step of the thread of a start, with what it posts. -/
lemma work_startAt (hi : s.starts[i]? = some t) {pc : StartPc} (hstarts : s₁.starts = s.starts)
    (hstops : s₁.stops = s.stops) (hless : 5 * s₁.posted.length + pc.work < 5 * s.posted.length + t.pc.work) :
    work (startAt s₁ i t pc) < work s := by
  have hsum := Mutex.sum_set (fun t : StartThread => t.pc.work) hi { t with pc := pc }
  show 5 * s₁.posted.length + ((s₁.starts.set i { t with pc := pc }).map _).sum + (s₁.stops.map _).sum < _
  rw [hstarts, hstops, work]
  dsimp only at hsum
  omega

/-- A step of the thread of a stop. -/
lemma work_stopAt (hj : s.stops[j]? = some u) {pc : StopPc} (hstarts : s₁.starts = s.starts)
    (hstops : s₁.stops = s.stops) (hposted : s₁.posted = s.posted) (hless : pc.work < u.pc.work) :
    work (stopAt s₁ j u pc) < work s := by
  have hsum := Mutex.sum_set (fun u : StopThread => u.pc.work) hj { u with pc := pc }
  show 5 * s₁.posted.length + (s₁.starts.map _).sum + ((s₁.stops.set j { u with pc := pc }).map _).sum < _
  rw [hstarts, hstops, hposted, work]
  dsimp only at hsum
  omega

/-- A stop starts one thread at most. -/
lemma work_proxor_stop (s : State) (sem : Bool) : work (proxor_stop s sem) ≤ work s + 4 := by
  have hrelease : ∀ s : State, work (release s sem) = work s := by
    intro s
    cases sem <;> rfl
  rw [proxor_stop]
  split
  · obtain ⟨h₁, h₂, -, -, -, h₆, -⟩ := cancelPending_same s
    rw [hrelease, work, work, h₁, h₂, h₆]
    omega
  · split
    · rw [hrelease]
      omega
    · show 5 * s.posted.length + (s.starts.map _).sum + ((s.stops ++ [_]).map _).sum ≤ _
      rw [List.map_append, List.sum_append, work]
      simp [StopPc.work]
      omega

/-- **Every step without the user** leaves less to be done. -/
lemma work_step {e : Event} (he : e.byUser = false) (h : step s e = some s') : work s' < work s := by
  cases e with
  | start ent => exact absurd he (by simp [Event.byUser])
  | buildFails => exact absurd he (by simp [Event.byUser])
  | stop => exact absurd he (by simp [Event.byUser])
  | post =>
    rw [step] at h
    split at h
    · exact absurd h (by simp)
    · next call posted hposted =>
      obtain rfl := Option.some.inj h
      have hless : work { s with posted := posted } + 5 = work s := by
        rw [work, work, hposted, List.length_cons]
        dsimp only
        omega
      cases call with
      | proxor_stop sem =>
        have hle := work_proxor_stop { s with posted := posted } sem
        rw [handle]
        omega
      | started =>
        show work { s with posted := posted } < _
        omega
  | validate i ok =>
    rw [step] at h
    split at h
    · next t hi =>
      split at h
      · next hpc =>
        obtain rfl := Option.some.inj h
        rw [validated]
        split <;> exact work_startAt hi rfl rfl (by simp [hpc, StartPc.work])
      · exact absurd h (by simp)
    · exact absurd h (by simp)
  | startRpc i attempts =>
    rw [step] at h
    split at h
    · next t hi =>
      split at h
      · next attempt hpc =>
        obtain rfl := Option.some.inj h
        rw [startRpc]
        split
        · exact work_startAt hi rfl rfl (by simp only [hpc, StartPc.work]; omega)
        · split
          · next hretry => exact work_startAt hi rfl rfl (by simp only [hpc, StartPc.work]; omega)
          · exact work_startAt hi rfl rfl (by simp only [hpc, StartPc.work]; omega)
      · exact absurd h (by simp)
    · exact absurd h (by simp)
  | startGoes i =>
    obtain ⟨t, hi, h⟩ := Option.bind_eq_some_iff.1 h
    rw [startGoes] at h
    split at h
    · next hpc =>
      split at h <;>
      · obtain rfl := Option.some.inj h
        exact work_startAt hi rfl rfl (by simp [hpc, StartPc.work])
    · next hpc =>
      split at h <;>
      · obtain rfl := Option.some.inj h
        refine work_startAt hi rfl rfl ?_
        simp only [hpc, StartPc.work, List.length_append, List.length_singleton]
        omega
    · next hpc =>
      split at h
      · obtain rfl := Option.some.inj h
        exact work_startAt hi rfl rfl (by simp [hpc, StartPc.work])
      · exact absurd h (by simp)
    · next hpc =>
      obtain rfl := Option.some.inj h
      refine work_startAt hi rfl rfl ?_
      simp only [hpc, StartPc.work, List.length_append, List.length_singleton]
      omega
    · next hpc =>
      obtain rfl := Option.some.inj h
      exact work_startAt hi rfl rfl (by simp [hpc, StartPc.work])
    · next hpc =>
      obtain rfl := Option.some.inj h
      exact work_startAt hi rfl rfl (by simp [hpc, StartPc.work])
    · next hpc =>
      split at h <;>
      · obtain rfl := Option.some.inj h
        refine work_startAt hi rfl rfl ?_
        simp only [hpc, StartPc.work, List.length_append, List.length_singleton]
        omega
    · exact absurd h (by simp)
  | stopGoes j =>
    obtain ⟨u, hj, h⟩ := Option.bind_eq_some_iff.1 h
    rw [stopGoes] at h
    split at h
    · next hpc =>
      obtain rfl := Option.some.inj h
      exact work_stopAt hj rfl rfl rfl (by simp [hpc, StopPc.work])
    · next hpc =>
      obtain rfl := Option.some.inj h
      exact work_stopAt hj rfl rfl rfl (by simp [hpc, StopPc.work])
    · next hpc =>
      obtain rfl := Option.some.inj h
      exact work_stopAt hj rfl rfl rfl (by simp [hpc, StopPc.work])
    · next hpc =>
      obtain rfl := Option.some.inj h
      rw [release]
      split <;> exact work_stopAt hj rfl rfl rfl (by simp [hpc, StopPc.work])
    · exact absurd h (by simp)

/-- A stop that is not at its end can go on. -/
lemma exists_stopGoes (hu : u ∈ s.stops) (hpc : u.pc ≠ .done) : ∃ e, e.byUser = false ∧ step s e ≠ none := by
  obtain ⟨j, hj⟩ := List.getElem?_of_mem hu
  refine ⟨.stopGoes j, rfl, ?_⟩
  rw [step, hj, Option.bind_some, stopGoes]
  cases h : u.pc with
  | done => exact absurd h hpc
  | _ => simp

/-- A start that is not at its end and not on the semaphore can go on, and one on the semaphore when it was released. -/
lemma exists_startGoes (ht : t ∈ s.starts) (hpc : t.pc ≠ .done) (hwait : t.pc = .waiting → 0 < s.sem_stopped) :
    ∃ e, e.byUser = false ∧ step s e ≠ none := by
  obtain ⟨i, hi⟩ := List.getElem?_of_mem ht
  cases h : t.pc with
  | done => exact absurd h hpc
  | validating =>
    refine ⟨.validate i true, rfl, ?_⟩
    rw [step, hi]
    simp [h]
  | starting attempt =>
    refine ⟨.startRpc i fun _ => .runs, rfl, ?_⟩
    rw [step, hi]
    simp [h]
  | waiting =>
    refine ⟨.startGoes i, rfl, ?_⟩
    rw [step, hi, Option.bind_some, startGoes, h]
    simp [hwait h]
  | cancelling | replacing | leaving =>
    refine ⟨.startGoes i, rfl, ?_⟩
    rw [step, hi, Option.bind_some, startGoes, h]
    dsimp only
    split <;> simp
  | _ =>
    refine ⟨.startGoes i, rfl, ?_⟩
    rw [step, hi, Option.bind_some, startGoes, h]
    simp

/-- **When nothing can go on**, nothing is in flight. -/
lemma quiet_of_rests (hs : Sound s) (hrest : ∀ e : Event, e.byUser = false → step s e = none) : Quiet s := by
  have hgoes : ¬ ∃ e : Event, e.byUser = false ∧ step s e ≠ none := by
    intro h
    obtain ⟨e, he, hne⟩ := h
    exact hne (hrest e he)
  have hposted : s.posted = [] := by
    have hpost := hrest .post rfl
    rw [step] at hpost
    split at hpost
    · assumption
    · exact absurd hpost (by simp)
  have hstops : ∀ u ∈ s.stops, u.pc = .done := fun u hu => by
    by_contra hpc
    exact hgoes (exists_stopGoes hu hpc)
  have howes : s.stops.countP StopThread.owes = 0 :=
    List.countP_eq_zero.2 fun u hu => by simp [StopThread.owes, hstops u hu]
  have hmatched : s.starts.countP StartThread.waits = s.sem_stopped := by
    rw [hs.matched, hposted, howes]
    rfl
  have hstarts : ∀ t ∈ s.starts, t.pc = .done := fun t ht => by
    by_contra hpc
    refine hgoes (exists_startGoes ht hpc fun hwait => ?_)
    rw [← hmatched]
    exact List.countP_pos_iff.2 ⟨t, ht, by simp [StartThread.waits, hwait]⟩
  refine ⟨hposted, hstarts, hstops, ?_, ?_, ?_⟩
  · by_contra hm
    obtain ⟨t, ht⟩ := hs.starting.exists_holder hm
    obtain ⟨i, -, hi, hholds⟩ := hs.starting.of_holder ht
    rw [hstarts t (List.mem_of_getElem? hi)] at hholds
    exact absurd hholds (by simp [StartPc.holds])
  · by_contra hm
    obtain ⟨u, hu⟩ := hs.stopping.exists_holder hm
    obtain ⟨j, -, hj, hholds⟩ := hs.stopping.of_holder hu
    rw [hstops u (List.mem_of_getElem? hj)] at hholds
    exact absurd hholds (by simp [StopPc.holds])
  · rw [← hmatched]
    exact List.countP_eq_zero.2 fun t ht => by simp [StartThread.waits, hstarts t ht]

/-- **Nobody waits for ever.** After every run, whatever was started, stopped and cancelled at whatever time: each step
that is taken without the user leaves less to be done; and when no such step can be taken, all threads are at their
end, nothing is posted, both mutexes are free and the semaphore is used up.

**Proof sketch.** A start on the semaphore is matched by a release, by the thread of a stop that owes one, or by a stop
that is posted, whether that one finds the profile stopped, another stop at work, or stops it itself. -/
theorem settles (events : List Event) :
    (∀ (e : Event) (s' : State), e.byUser = false → step (events.foldl next {}) e = some s' →
      work s' < work (events.foldl next {})) ∧
    ((∀ e : Event, e.byUser = false → step (events.foldl next {}) e = none) → Quiet (events.foldl next {})) :=
  ⟨fun _ _ he h => work_step he h, quiet_of_rests (sound_run events)⟩

end Proxor.Ui.StartStop
