import Proxor.Ui.StartStop

set_option relaxedAutoImplicit false
set_option autoImplicit false

/-!
# What the window shows and what the core runs

The window takes a profile for running when `started_id` names it. A start that finds one running waits for the stop it
posts; but the window does not stop a profile that it is stopping already, and lets the start go on at once. As long as
that does not happen, `started_id` and the core agree whenever nothing is in flight, and the core never gets a `Start`
and a `Stop` at once. When it does happen, an instance can stay open that nobody knows.

## Main definitions

* `Proxor.Ui.StartStop.Orderly` — the step is not a stop for a start that finds another stop at work.
* `Proxor.Ui.StartStop.Agreeing` — the core is where the threads and `started_id` say.

## Main results

* `Proxor.Ui.StartStop.agrees_of_orderly` — along every orderly run the window and the core agree.
* `Proxor.Ui.StartStop.leaks` — a run that is not.
-/

namespace Proxor.Core

/-! ### A `Start` that works -/

/-- What an attempt leaves: an instance that was built in it, if there is no error. -/
lemma create_built (attempt : Attempt) (s : State) :
    s.built ≤ (create attempt s).2.built ∧
      ((create attempt s).1 = none → (create attempt s).2.boxInstance = some s.built) := by
  cases attempt <;> simp [create, createWithOptions]

/-- What the retry loop leaves. -/
lemma retry_built (attempts : ℕ → Attempt) (left attempt : ℕ) {err : Option String} {s : State} {n : ℕ}
    (hn : n ≤ s.built) (hs : err = none → ∃ i, s.boxInstance = some i ∧ n ≤ i) :
    (retry attempts left attempt err s).1 = none →
      ∃ i, (retry attempts left attempt err s).2.boxInstance = some i ∧ n ≤ i := by
  induction left generalizing attempt err s with
  | zero => exact hs
  | succ left ih =>
    rw [retry]
    split
    · have hclose : (closeInstance s).built = s.built := by
        rw [closeInstance]
        split <;> rfl
      obtain ⟨hbuilt, hrun⟩ := create_built (attempts attempt) (closeInstance s)
      refine ih (attempt + 1) (hn.trans (hclose ▸ hbuilt)) fun herr => ⟨_, hrun herr, ?_⟩
      rw [hclose]
      exact hn
    · exact hs

/-- **A `Start` that works** leaves an instance that was built in it. -/
lemma start_built {attempts : ℕ → Attempt} {s : State} (h : (start attempts s).1 = none) :
    ∃ i, (start attempts s).2.boxInstance = some i ∧ s.built ≤ i := by
  have hdeferred : ∀ r : Option String × State, (deferred r).1 = none → r.1 = none ∧ (deferred r).2 = r.2 := by
    intro r hr
    rw [deferred] at hr ⊢
    split at hr
    · exact absurd hr (by simp)
    · next hnone =>
      rw [hnone]
      exact ⟨rfl, rfl⟩
  unfold start at h ⊢
  obtain ⟨herr, heq⟩ := hdeferred _ h
  rw [heq]
  split at herr
  · exact absurd herr (by simp)
  · next hidle =>
    rw [if_neg hidle]
    obtain ⟨hbuilt, hrun⟩ := create_built (attempts 0) s
    exact retry_built attempts 3 1 hbuilt (fun hnone => ⟨_, hrun hnone, Nat.le_refl _⟩) herr

/-- An error clears the instance. -/
lemma deferred_failed {r : Option String × State} (h : (deferred r).1 ≠ none) : (deferred r).2.boxInstance = none := by
  rw [deferred] at h ⊢
  split at h
  · rfl
  · next hnone => exact absurd hnone h

/-- A `Start` that fails leaves no instance. -/
lemma start_failed {attempts : ℕ → Attempt} {s : State} (h : (start attempts s).1 ≠ none) :
    (start attempts s).2.boxInstance = none :=
  deferred_failed h

/-- A `Stop` leaves no instance. -/
lemma stop_boxInstance (s : State) : (stop s).boxInstance = none := by
  unfold stop
  split
  · assumption
  · rfl

end Proxor.Core

namespace Proxor.Ui.StartStop

open Core (Attempt)

variable {s s₁ s' : State} {i j : ℕ} {t : StartThread} {u : StopThread}

/-! ### The core, the threads and `started_id` -/

/-- A stop that was posted for a start finds nothing that runs, or no other stop at work. -/
def Orderly (s : State) : Event → Prop
  | .post => s.posted.head? = some (.proxor_stop true) → s.started_id < 0 ∨ s.mu_stopping = none
  | _ => True

instance (s : State) : (e : Event) → Decidable (Orderly s e)
  | .post => inferInstanceAs (Decidable (_ → _))
  | .start _ | .buildFails | .stop | .validate .. | .startRpc .. | .startGoes _ | .stopGoes _ => .isTrue trivial

/-- The start that has its mutex. -/
def starter (s : State) : Option StartThread := Mutex.holder s.mu_starting s.starts

/-- The stop that has its mutex. -/
def stopper (s : State) : Option StopThread := Mutex.holder s.mu_stopping s.stops

/-- The start calls the core, or has called it with success. -/
def StartPc.launches : StartPc → Bool
  | .starting _ | .started => true
  | _ => false

/-- The stop calls the core, or has called it. -/
def StopPc.stops : StopPc → Bool
  | .stopping | .clearing => true
  | _ => false

/-- The core runs an instance that was built from the profile. -/
def Runs (s : State) (ent : ℕ) : Prop := ∃ n, s.core.boxInstance = some n ∧ s.builtFrom n = some ent

/-- The core is where the threads and `started_id` say. -/
structure Agreeing (s : State) : Prop where
  book : Core.Book s.core
  launching : ∀ t ∈ starter s, t.pc.launches = true → s.started_id < 0
  stopping : ∀ u ∈ stopper s, u.pc.stops = true → 0 ≤ s.started_id
  launched : ∀ t ∈ starter s, t.pc = .started → Runs s t.ent
  idle : s.started_id < 0 → (∀ t ∈ starter s, t.pc ≠ .started) → s.core.boxInstance = none
  running : 0 ≤ s.started_id → (∀ u ∈ stopper s, u.pc ≠ .clearing) → Runs s s.started_id.toNat
  cleared : ∀ u ∈ stopper s, u.pc = .clearing → s.core.boxInstance = none
  /-- A start on the semaphore goes on only when nothing runs: the stop it posted is still to be handled, or the stop
  that will release it is at work, or nothing runs. -/
  released : ∀ t ∈ starter s, t.pc = .waiting → .proxor_stop true ∉ s.posted →
    (∀ u ∈ stopper s, u.sem = true → u.pc.stops = false) → s.started_id < 0

/-- At the beginning nothing runs. -/
lemma agreeing_init : Agreeing {} := by
  refine ⟨⟨rfl, by simp⟩, ?_, ?_, ?_, fun _ _ => rfl, ?_, ?_, ?_⟩
  · exact fun t ht => absurd ht (by simp [starter])
  · exact fun u hu => absurd hu (by simp [stopper])
  · exact fun t ht => absurd ht (by simp [starter])
  · exact fun h => absurd h (by decide)
  · exact fun u hu => absurd hu (by simp [stopper])
  · exact fun t ht => absurd ht (by simp [starter])

/-! ### Steps -/

/-- The thread of a start that holds the mutex goes on and keeps it. -/
lemma starter_startAt (hs : Sound s) (hi : s.starts[i]? = some t) (ht : t.pc.holds = true) (s₁ : State) (pc : StartPc)
    (hstarts : s₁.starts = s.starts) (hstarting : s₁.mu_starting = s.mu_starting) :
    starter s = some t ∧ starter (startAt s₁ i t pc) = some { t with pc := pc } := by
  refine ⟨hs.starting.holder_eq hi ht, ?_⟩
  show Mutex.holder s₁.mu_starting (s₁.starts.set i _) = _
  rw [hstarts, hstarting]
  exact hs.starting.holder_set hi ht

/-- The thread of a stop that holds the mutex goes on and keeps it. -/
lemma stopper_stopAt (hs : Sound s) (hj : s.stops[j]? = some u) (hu : u.pc.holds = true) (s₁ : State) (pc : StopPc)
    (hstops : s₁.stops = s.stops) (hstopping : s₁.mu_stopping = s.mu_stopping) :
    stopper s = some u ∧ stopper (stopAt s₁ j u pc) = some { u with pc := pc } := by
  refine ⟨hs.stopping.holder_eq hj hu, ?_⟩
  show Mutex.holder s₁.mu_stopping (s₁.stops.set j _) = _
  rw [hstops, hstopping]
  exact hs.stopping.holder_set hj hu

/-- What a step leaves that keeps the core and `started_id`: the threads may go on where neither the core nor
`started_id` is changed. -/
lemma Agreeing.frame (hs : Agreeing s) (hid : s'.started_id = s.started_id) (hcore : s'.core = s.core)
    (hbuilt : s'.builtFrom = s.builtFrom)
    (hlaunch : ∀ t' ∈ starter s', t'.pc.launches = true → t' ∈ starter s ∨ (s.started_id < 0 ∧ t'.pc ≠ .started))
    (hlaunched : ∀ t ∈ starter s, t.pc = .started → t ∈ starter s')
    (hstop : ∀ u' ∈ stopper s', u'.pc.stops = true → u' ∈ stopper s ∨ (0 ≤ s.started_id ∧ u'.pc ≠ .clearing))
    (hcleared : ∀ u ∈ stopper s, u.pc = .clearing → u ∈ stopper s')
    (hreleased : ∀ t' ∈ starter s', t'.pc = .waiting → .proxor_stop true ∉ s'.posted →
      (∀ u' ∈ stopper s', u'.sem = true → u'.pc.stops = false) → s.started_id < 0) : Agreeing s' := by
  have hruns : ∀ ent, Runs s' ent ↔ Runs s ent := fun ent => by rw [Runs, Runs, hcore, hbuilt]
  refine ⟨hcore ▸ hs.book, ?_, ?_, ?_, ?_, ?_, ?_, ?_⟩
  · intro t ht hpc
    rw [hid]
    rcases hlaunch t ht hpc with ht | ⟨hid, -⟩
    · exact hs.launching t ht hpc
    · exact hid
  · intro u hu hpc
    rw [hid]
    rcases hstop u hu hpc with hu | ⟨hid, -⟩
    · exact hs.stopping u hu hpc
    · exact hid
  · intro t ht hpc
    rw [hruns]
    rcases hlaunch t ht (by rw [hpc]; rfl) with ht | ⟨-, hne⟩
    · exact hs.launched t ht hpc
    · exact absurd hpc hne
  · intro hneg hnot
    rw [hcore]
    exact hs.idle (hid ▸ hneg) fun t ht hpc => hnot t (hlaunched t ht hpc) hpc
  · intro hpos hnot
    rw [hid] at hpos
    rw [hruns, hid]
    exact hs.running hpos fun u hu hpc => hnot u (hcleared u hu hpc) hpc
  · intro u hu hpc
    rw [hcore]
    rcases hstop u hu (by rw [hpc]; rfl) with hu | ⟨-, hne⟩
    · exact hs.cleared u hu hpc
    · exact absurd hpc hne
  · intro t ht hpc hposted hnot
    rw [hid]
    exact hreleased t ht hpc hposted hnot

/-- What happens to the threads that hold no mutex. -/
lemma Agreeing.same (hs : Agreeing s) (hid : s'.started_id = s.started_id) (hcore : s'.core = s.core)
    (hbuilt : s'.builtFrom = s.builtFrom) (hstarter : starter s' = starter s) (hstopper : stopper s' = stopper s)
    (hposted : .proxor_stop true ∉ s'.posted → .proxor_stop true ∉ s.posted) : Agreeing s' := by
  refine hs.frame hid hcore hbuilt ?_ ?_ ?_ ?_ ?_
  · exact fun t ht _ => Or.inl (hstarter ▸ ht)
  · exact fun t ht _ => hstarter ▸ ht
  · exact fun u hu _ => Or.inl (hstopper ▸ hu)
  · exact fun u hu _ => hstopper ▸ hu
  · exact fun t ht hpc hnot hsem => hs.released t (hstarter ▸ ht) hpc (hposted hnot) fun u hu => hsem u (hstopper ▸ hu)

/-- The start with the mutex goes on, between places where it does not touch the core or `started_id`. -/
lemma Agreeing.starterGoes (hs : Agreeing s) (ht : starter s = some t) (hid : s'.started_id = s.started_id)
    (hcore : s'.core = s.core) (hbuilt : s'.builtFrom = s.builtFrom) (hstopper : stopper s' = stopper s)
    (hpc : t.pc ≠ .started)
    (hstarter : ∀ t' ∈ starter s', t'.pc ≠ .started ∧ (t'.pc.launches = true → s.started_id < 0) ∧
      (t'.pc = .waiting → .proxor_stop true ∈ s'.posted)) : Agreeing s' := by
  refine hs.frame hid hcore hbuilt ?_ ?_ ?_ ?_ ?_
  · exact fun t' ht' hlaunch => Or.inr ⟨(hstarter t' ht').2.1 hlaunch, (hstarter t' ht').1⟩
  · intro t' ht' hpc'
    obtain rfl := Option.some.inj (ht.symm.trans ht')
    exact absurd hpc' hpc
  · exact fun u hu _ => Or.inl (hstopper ▸ hu)
  · exact fun u hu _ => hstopper ▸ hu
  · exact fun t' ht' hwait hnot _ => absurd ((hstarter t' ht').2.2 hwait) hnot

/-- A call of `proxor_start`. -/
lemma agreeing_proxor_start (hs : Agreeing s) (ent : ℕ) : Agreeing (proxor_start s ent) := by
  rw [proxor_start]
  split
  · exact hs
  · next hstarting =>
    have hfree : s.mu_starting = none := by simpa using hstarting
    split
    · exact hs.same rfl rfl rfl rfl rfl id
    · have hnone : starter s = none := by
        rw [starter, hfree, Mutex.holder_none]
      have hnew : starter { s with
          start_pending := true, start_cancel := false, mu_starting := some s.starts.length,
          starts := s.starts ++ [{ ent := ent }] } = some { ent := ent } := Mutex.holder_spawn
      refine hs.frame rfl rfl rfl ?_ ?_ ?_ ?_ ?_
      · intro t ht hlaunch
        obtain rfl := Option.some.inj (hnew.symm.trans ht)
        exact absurd hlaunch (by simp [StartPc.launches])
      · exact fun t ht _ => absurd (hnone.symm.trans ht) (by simp)
      · exact fun u hu _ => Or.inl hu
      · exact fun u hu _ => hu
      · intro t ht hpc
        obtain rfl := Option.some.inj (hnew.symm.trans ht)
        exact absurd hpc (by simp)

/-- A call of `proxor_stop`, for a start only if no other stop is at work. -/
lemma agreeing_proxor_stop {sem : Bool} (hs : Agreeing s) (posted : List Post)
    (horderly : sem = true → s.started_id < 0 ∨ s.mu_stopping = none)
    (hposted : sem = false → .proxor_stop true ∉ posted → .proxor_stop true ∉ s.posted) :
    Agreeing (proxor_stop { s with posted := posted } sem) := by
  rw [proxor_stop]
  split
  · next hneg =>
    obtain ⟨h₁, h₂, h₃, h₄, -, -, h₇, h₈, h₉⟩ := cancelPending_same { s with posted := posted }
    have hrelease : ∀ s₂ : State, (release s₂ sem).starts = s₂.starts ∧ (release s₂ sem).stops = s₂.stops ∧
        (release s₂ sem).mu_starting = s₂.mu_starting ∧ (release s₂ sem).mu_stopping = s₂.mu_stopping ∧
        (release s₂ sem).started_id = s₂.started_id ∧ (release s₂ sem).core = s₂.core ∧
        (release s₂ sem).builtFrom = s₂.builtFrom := by
      intro s₂
      cases sem <;> exact ⟨rfl, rfl, rfl, rfl, rfl, rfl, rfl⟩
    obtain ⟨r₁, r₂, r₃, r₄, r₅, r₆, r₇⟩ := hrelease (cancelPending { s with posted := posted })
    have hstarter : starter (release (cancelPending { s with posted := posted }) sem) = starter s := by
      rw [starter, r₁, r₃, h₁, h₃]
      rfl
    have hstopper : stopper (release (cancelPending { s with posted := posted }) sem) = stopper s := by
      rw [stopper, r₂, r₄, h₂, h₄]
      rfl
    refine hs.frame (r₅.trans h₇) (r₆.trans h₈) (r₇.trans h₉) ?_ ?_ ?_ ?_ fun _ _ _ _ _ => hneg
    · exact fun t ht _ => Or.inl (hstarter ▸ ht)
    · exact fun t ht _ => hstarter ▸ ht
    · exact fun u hu _ => Or.inl (hstopper ▸ hu)
    · exact fun u hu _ => hstopper ▸ hu
  · next hpos =>
    have hpos : 0 ≤ s.started_id := not_lt.1 hpos
    split
    · next hbusy =>
      have hsem : sem = false := by
        cases sem with
        | false => rfl
        | true =>
          rcases horderly rfl with hneg | hfree
          · exact absurd hneg (not_lt.2 hpos)
          · rw [show s.mu_stopping = none from hfree] at hbusy
            exact absurd hbusy (by simp)
      subst hsem
      exact hs.same rfl rfl rfl rfl rfl (hposted rfl)
    · next hbusy =>
      have hfree : s.mu_stopping = none := by simpa using hbusy
      have hnone : stopper s = none := by
        rw [stopper, hfree, Mutex.holder_none]
      have hnew : stopper { s with
          posted := posted, mu_stopping := some s.stops.length, stops := s.stops ++ [{ sem := sem }] } =
          some { sem := sem } := Mutex.holder_spawn
      refine hs.frame rfl rfl rfl ?_ ?_ ?_ ?_ ?_
      · exact fun t ht _ => Or.inl ht
      · exact fun t ht _ => ht
      · intro u hu _
        obtain rfl := Option.some.inj (hnew.symm.trans hu)
        exact Or.inr ⟨hpos, by simp⟩
      · exact fun u hu _ => absurd (hnone.symm.trans hu) (by simp)
      · intro t ht hpc hnot hsem
        cases sem with
        | false =>
          exact hs.released t ht hpc (hposted rfl hnot) fun u hu => absurd (hnone.symm.trans hu) (by simp)
        | true => exact absurd (hsem _ hnew rfl) (by simp [StopPc.stops])

/-- **A call of `Start`.** It finds no instance, and leaves one of its own if it works. -/
lemma agreeing_startRpc {attempt : ℕ} (hsound : Sound s) (hs : Agreeing s) (hi : s.starts[i]? = some t)
    (hpc : t.pc = .starting attempt) (attempts : ℕ → Attempt) : Agreeing (startRpc s i t attempt attempts) := by
  have hholds : t.pc.holds = true := by
    rw [hpc]
    rfl
  have hstarter : starter s = some t := hsound.starting.holder_eq hi hholds
  have hneg : s.started_id < 0 := hs.launching t hstarter (by rw [hpc]; rfl)
  have hidle : s.core.boxInstance = none := by
    refine hs.idle hneg fun t' ht' hpc' => ?_
    obtain rfl := Option.some.inj (hstarter.symm.trans ht')
    rw [hpc] at hpc'
    exact absurd hpc' (by simp)
  have hbook := Core.book_start hs.book hidle attempts
  -- where the thread goes on to, with what the core then runs
  have hgoes : ∀ (pc : StartPc), pc.holds = true → pc ≠ .waiting →
      (pc = .started → (Core.start attempts s.core).1 = none) →
      (pc ≠ .started → (Core.start attempts s.core).2.boxInstance = none) →
      Agreeing (startAt { s with
        core := (Core.start attempts s.core).2
        builtFrom := fun n => if s.core.built ≤ n then some t.ent else s.builtFrom n } i t pc) := by
    intro pc hpc' hwait hstarted hnot
    have hstarter' := (starter_startAt hsound hi hholds { s with
      core := (Core.start attempts s.core).2
      builtFrom := fun n => if s.core.built ≤ n then some t.ent else s.builtFrom n } pc rfl rfl).2
    have hall : ∀ t' ∈ starter (startAt { s with
        core := (Core.start attempts s.core).2
        builtFrom := fun n => if s.core.built ≤ n then some t.ent else s.builtFrom n } i t pc),
        t' = { t with pc := pc } := fun t' ht' => (Option.some.inj (hstarter'.symm.trans ht')).symm
    refine ⟨hbook, fun _ _ _ => hneg, hs.stopping, ?_, ?_, fun h => absurd h (not_le.2 hneg), ?_, ?_⟩
    · intro t' ht' hpc''
      rw [hall t' ht'] at hpc'' ⊢
      obtain ⟨n, hn, hle⟩ := Core.start_built (hstarted hpc'')
      exact ⟨n, hn, if_pos hle⟩
    · intro _ hne
      exact hnot (hne _ hstarter')
    · intro u hu hclear
      exact absurd (hs.stopping u hu (by rw [hclear]; rfl)) (not_le.2 hneg)
    · intro t' ht' hpc''
      rw [hall t' ht'] at hpc''
      exact absurd hpc'' hwait
  rw [startRpc]
  split
  · next hok => exact hgoes .started rfl (by simp) (fun _ => hok) fun h => absurd rfl h
  · next err herr =>
    have hfailed : (Core.start attempts s.core).2.boxInstance = none := Core.start_failed (by rw [herr]; simp)
    split
    · exact hgoes _ rfl (by simp) (by simp) fun _ => hfailed
    · exact hgoes _ rfl (by simp) (by simp) fun _ => hfailed

/-- **A start comes off the semaphore** only when nothing runs: it was released once for it. -/
lemma not_running_of_released (hsound : Sound s) (hs : Agreeing s) (hi : s.starts[i]? = some t)
    (hpc : t.pc = .waiting) (hsem : 0 < s.sem_stopped) : s.started_id < 0 := by
  have hholds : t.pc.holds = true := by
    rw [hpc]
    rfl
  have hstarter : starter s = some t := hsound.starting.holder_eq hi hholds
  have hone : s.starts.countP StartThread.waits ≤ 1 := by
    rw [hsound.starting.countP_eq fun t ht => ?_]
    · split <;> omega
    · rw [show t.pc = .waiting by simpa [StartThread.waits] using ht]
      rfl
  have hmatched := hsound.matched
  refine hs.released t hstarter hpc (fun hmem => ?_) fun u hu husem => ?_
  · have hpos : 0 < s.posted.count (.proxor_stop true) := List.count_pos_iff.2 hmem
    omega
  · obtain ⟨j, -, hj, -⟩ := hsound.stopping.of_holder hu
    by_contra hstops
    have howes : u.owes = true := by
      rw [StopThread.owes, husem]
      cases hpc : u.pc <;> simp_all [StopPc.stops]
    have hpos : 0 < s.stops.countP StopThread.owes := List.countP_pos_iff.2 ⟨u, List.mem_of_getElem? hj, howes⟩
    omega

/-- The other steps of the thread of a start. -/
lemma agreeing_startGoes (hsound : Sound s) (hs : Agreeing s) (hi : s.starts[i]? = some t)
    (h : startGoes s i t = some s') : Agreeing s' := by
  have hmove : ∀ (s₁ : State) (pc : StartPc), t.pc.holds = true → s₁.starts = s.starts →
      s₁.mu_starting = s.mu_starting → ∀ t' ∈ starter (startAt s₁ i t pc), t' = { t with pc := pc } := by
    intro s₁ pc hholds hstarts hstarting t' ht'
    exact (Option.some.inj ((starter_startAt hsound hi hholds s₁ pc hstarts hstarting).2.symm.trans ht')).symm
  rw [startGoes] at h
  split at h
  · next hpc =>
    have ht : starter s = some t := hsound.starting.holder_eq hi (by rw [hpc]; rfl)
    split at h
    · obtain rfl := Option.some.inj h
      exact hs.starterGoes ht rfl rfl rfl rfl (by simp [hpc]) fun t' ht' => absurd ht' (by simp [starter, startAt])
    · obtain rfl := Option.some.inj h
      refine hs.starterGoes ht rfl rfl rfl rfl (by simp [hpc]) fun t' ht' => ?_
      rw [hmove s _ (by rw [hpc]; rfl) rfl rfl t' ht']
      simp [StartPc.launches]
  · next hpc =>
    have ht : starter s = some t := hsound.starting.holder_eq hi (by rw [hpc]; rfl)
    split at h
    · obtain rfl := Option.some.inj h
      refine hs.starterGoes ht rfl rfl rfl rfl (by simp [hpc]) fun t' ht' => ?_
      rw [hmove _ _ (by rw [hpc]; rfl) rfl rfl t' ht']
      simp [StartPc.launches, startAt]
    · next hneg =>
      obtain rfl := Option.some.inj h
      refine hs.starterGoes ht rfl rfl rfl rfl (by simp [hpc]) fun t' ht' => ?_
      rw [hmove _ _ (by rw [hpc]; rfl) rfl rfl t' ht']
      exact ⟨by simp, fun _ => not_le.1 hneg, by simp⟩
  · next hpc =>
    have ht : starter s = some t := hsound.starting.holder_eq hi (by rw [hpc]; rfl)
    split at h
    · next hsem =>
      obtain rfl := Option.some.inj h
      refine hs.starterGoes ht rfl rfl rfl rfl (by simp [hpc]) fun t' ht' => ?_
      rw [hmove _ _ (by rw [hpc]; rfl) rfl rfl t' ht']
      exact ⟨by simp, fun _ => not_running_of_released hsound hs hi hpc hsem, by simp⟩
    · exact absurd h (by simp)
  · next hpc =>
    -- the profile is up: `started_id` names it from here on
    have hholds : t.pc.holds = true := by
      rw [hpc]
      rfl
    have ht : starter s = some t := hsound.starting.holder_eq hi hholds
    have hneg : s.started_id < 0 := hs.launching t ht (by rw [hpc]; rfl)
    have hnot : ∀ u ∈ stopper s, u.pc.stops ≠ true := fun u hu hstops =>
      absurd (hs.stopping u hu hstops) (not_le.2 hneg)
    have hruns := hs.launched t ht hpc
    obtain rfl := Option.some.inj h
    have hall := hmove { s with started_id := t.ent, posted := s.posted ++ [.started] } .unlocking hholds rfl rfl
    refine ⟨hs.book, ?_, fun u hu hstops => absurd hstops (hnot u hu), ?_, ?_, fun _ _ => hruns, ?_, ?_⟩
    · intro t' ht' hlaunch
      rw [hall t' ht'] at hlaunch
      exact absurd hlaunch (by simp [StartPc.launches])
    · intro t' ht' hstarted
      rw [hall t' ht'] at hstarted
      exact absurd hstarted (by simp)
    · exact fun hneg' => absurd hneg' (not_lt.2 (Int.natCast_nonneg t.ent))
    · exact fun u hu hclear => absurd (by rw [hclear]; rfl) (hnot u hu)
    · intro t' ht' hwait
      rw [hall t' ht'] at hwait
      exact absurd hwait (by simp)
  · next hpc =>
    have ht : starter s = some t := hsound.starting.holder_eq hi (by rw [hpc]; rfl)
    obtain rfl := Option.some.inj h
    refine hs.starterGoes ht rfl rfl rfl rfl (by simp [hpc]) fun t' ht' => ?_
    rw [hmove _ _ (by rw [hpc]; rfl) rfl rfl t' ht']
    simp [StartPc.launches]
  · next hpc =>
    have ht : starter s = some t := hsound.starting.holder_eq hi (by rw [hpc]; rfl)
    obtain rfl := Option.some.inj h
    exact hs.starterGoes ht rfl rfl rfl rfl (by simp [hpc]) fun t' ht' => absurd ht' (by simp [starter, startAt])
  · next hpc =>
    have hsame : ∀ s₁ : State, s₁.starts = s.starts → s₁.mu_starting = s.mu_starting →
        starter (startAt s₁ i t .done) = starter s := by
      intro s₁ hstarts hstarting
      show Mutex.holder s₁.mu_starting (s₁.starts.set i _) = _
      rw [hstarts, hstarting]
      exact hsound.starting.holder_set_of_not hi (by rw [hpc]; rfl)
    split at h
    · obtain rfl := Option.some.inj h
      refine hs.same rfl rfl rfl (hsame _ rfl rfl) rfl fun hnot hmem => hnot ?_
      exact List.mem_append_left _ hmem
    · obtain rfl := Option.some.inj h
      exact hs.same rfl rfl rfl (hsame _ rfl rfl) rfl id
  · exact absurd h (by simp)

/-- The thread of a stop. -/
lemma agreeing_stopGoes (hsound : Sound s) (hs : Agreeing s) (hj : s.stops[j]? = some u)
    (h : stopGoes s j u = some s') : Agreeing s' := by
  rw [stopGoes] at h
  split at h
  · next hpc =>
    -- the core stops what runs
    have hholds : u.pc.holds = true := by
      rw [hpc]
      rfl
    have hu : stopper s = some u := hsound.stopping.holder_eq hj hholds
    have hpos : 0 ≤ s.started_id := hs.stopping u hu (by rw [hpc]; rfl)
    have hnot : ∀ t ∈ starter s, t.pc.launches ≠ true := fun t ht hlaunch =>
      absurd (hs.launching t ht hlaunch) (not_lt.2 hpos)
    have hstopper :=
      (stopper_stopAt hsound hj hholds { s with core := Core.stop s.core } .clearing rfl rfl).2
    obtain rfl := Option.some.inj h
    refine ⟨(Core.book_stop hs.book).1, fun t ht hlaunch => absurd hlaunch (hnot t ht), fun _ _ _ => hpos, ?_, ?_, ?_,
      fun _ _ _ => Core.stop_boxInstance _, ?_⟩
    · exact fun t ht hstarted => absurd (by rw [hstarted]; rfl) (hnot t ht)
    · exact fun hneg => absurd hneg (not_lt.2 hpos)
    · exact fun _ hne => absurd rfl (hne _ hstopper)
    · intro t ht hwait hposted hsem
      refine hs.released t ht hwait hposted fun u' hu' husem => ?_
      obtain rfl := Option.some.inj (hu.symm.trans hu')
      exact absurd (hsem _ hstopper husem) (by simp [StopPc.stops])
  · next hpc =>
    -- `started_id` names nothing from here on
    have hholds : u.pc.holds = true := by
      rw [hpc]
      rfl
    have hu : stopper s = some u := hsound.stopping.holder_eq hj hholds
    have hpos : 0 ≤ s.started_id := hs.stopping u hu (by rw [hpc]; rfl)
    have hnot : ∀ t ∈ starter s, t.pc.launches ≠ true := fun t ht hlaunch =>
      absurd (hs.launching t ht hlaunch) (not_lt.2 hpos)
    have hidle := hs.cleared u hu hpc
    have hstopper := (stopper_stopAt hsound hj hholds { s with started_id := -1919 } .unlocking rfl rfl).2
    have hall : ∀ u' ∈ stopper (stopAt { s with started_id := -1919 } j u .unlocking),
        u' = { u with pc := .unlocking } := fun u' hu' => (Option.some.inj (hstopper.symm.trans hu')).symm
    obtain rfl := Option.some.inj h
    refine ⟨hs.book, fun _ _ _ => (by decide : (-1919 : ℤ) < 0), ?_, ?_, fun _ _ => hidle, ?_, ?_,
      fun _ _ _ _ _ => (by decide : (-1919 : ℤ) < 0)⟩
    · intro u' hu' hstops
      rw [hall u' hu'] at hstops
      exact absurd hstops (by simp [StopPc.stops])
    · exact fun t ht hstarted => absurd (by rw [hstarted]; rfl) (hnot t ht)
    · exact fun hpos' => absurd hpos' (by decide : ¬ (0 : ℤ) ≤ -1919)
    · intro u' hu' hclear
      rw [hall u' hu'] at hclear
      exact absurd hclear (by simp)
  · next hpc =>
    have hu : stopper s = some u := hsound.stopping.holder_eq hj (by rw [hpc]; rfl)
    obtain rfl := Option.some.inj h
    have hnone : stopper (stopAt { s with mu_stopping := none } j u .releasing) = none := rfl
    refine hs.frame rfl rfl rfl (fun t ht _ => Or.inl ht) (fun t ht _ => ht) ?_ ?_ ?_
    · exact fun u' hu' => absurd (hnone.symm.trans hu') (by simp)
    · intro u' hu' hclear
      obtain rfl := Option.some.inj (hu.symm.trans hu')
      rw [hpc] at hclear
      exact absurd hclear (by simp)
    · intro t ht hwait hposted _
      refine hs.released t ht hwait hposted fun u' hu' _ => ?_
      obtain rfl := Option.some.inj (hu.symm.trans hu')
      rw [hpc]
      rfl
  · next hpc =>
    obtain rfl := Option.some.inj h
    have hsame : ∀ s₁ : State, s₁.stops = s.stops → s₁.mu_stopping = s.mu_stopping →
        stopper (stopAt s₁ j u .done) = stopper s := by
      intro s₁ hstops hstopping
      show Mutex.holder s₁.mu_stopping (s₁.stops.set j _) = _
      rw [hstops, hstopping]
      exact hsound.stopping.holder_set_of_not hj (by rw [hpc]; rfl)
    rw [release]
    split
    · exact hs.same rfl rfl rfl rfl (hsame _ rfl rfl) id
    · exact hs.same rfl rfl rfl rfl (hsame _ rfl rfl) id
  · exact absurd h (by simp)

/-- **Every orderly step** keeps the core where the threads and `started_id` say. -/
lemma agreeing_step {e : Event} (hsound : Sound s) (hs : Agreeing s) (he : Orderly s e) (h : step s e = some s') :
    Agreeing s' := by
  cases e with
  | start ent =>
    obtain rfl := Option.some.inj h
    exact agreeing_proxor_start hs ent
  | buildFails =>
    obtain rfl := Option.some.inj h
    exact hs.same rfl rfl rfl rfl rfl id
  | stop =>
    obtain rfl := Option.some.inj h
    exact agreeing_proxor_stop hs s.posted (by simp) fun _ h => h
  | post =>
    rw [step] at h
    split at h
    · exact absurd h (by simp)
    · next call posted hposted =>
      obtain rfl := Option.some.inj h
      cases call with
      | proxor_stop sem =>
        refine agreeing_proxor_stop hs posted (fun hsem => he ?_) fun hsem hnot => ?_
        · rw [hposted, hsem]
          rfl
        · rw [hposted, hsem]
          simpa using hnot
      | started =>
        refine hs.same rfl rfl rfl rfl rfl fun hnot => ?_
        rw [hposted]
        simpa [handle] using hnot
  | validate i ok =>
    rw [step] at h
    split at h
    · next t hi =>
      split at h
      · next hpc =>
        have hholds : t.pc.holds = true := by
          rw [hpc]
          rfl
        have ht : starter s = some t := hsound.starting.holder_eq hi hholds
        obtain rfl := Option.some.inj h
        rw [validated]
        split
        · refine hs.starterGoes ht rfl rfl rfl rfl (by simp [hpc]) fun t' ht' => ?_
          rw [← Option.some.inj ((starter_startAt hsound hi hholds s .cancelling rfl rfl).2.symm.trans ht')]
          simp [StartPc.launches]
        · exact hs.starterGoes ht rfl rfl rfl rfl (by simp [hpc]) fun t' ht' => absurd ht' (by simp [starter, startAt])
      · exact absurd h (by simp)
    · exact absurd h (by simp)
  | startRpc i attempts =>
    rw [step] at h
    split at h
    · next t hi =>
      split at h
      · next attempt hpc =>
        obtain rfl := Option.some.inj h
        exact agreeing_startRpc hsound hs hi hpc attempts
      · exact absurd h (by simp)
    · exact absurd h (by simp)
  | startGoes i =>
    obtain ⟨t, hi, h⟩ := Option.bind_eq_some_iff.1 h
    exact agreeing_startGoes hsound hs hi h
  | stopGoes j =>
    obtain ⟨u, hj, h⟩ := Option.bind_eq_some_iff.1 h
    exact agreeing_stopGoes hsound hs hj h

/-! ### Runs -/

/-- What the window shows is what the core runs: the open instances are the one that was built from the profile that
`started_id` names, and none if it names none. And the core has no `Start` while it has a `Stop`. -/
structure Agrees (s : State) : Prop where
  shown : s.mu_starting = none → s.mu_stopping = none →
    (0 ≤ s.started_id → ∃ n, s.core.openInstances = {n} ∧ s.core.boxInstance = some n ∧
      s.builtFrom n = some s.started_id.toNat) ∧
    (s.started_id < 0 → s.core.openInstances = ∅ ∧ s.core.boxInstance = none)
  apart : ∀ t ∈ s.starts, ∀ u ∈ s.stops, t.pc.launches = true → u.pc.stops = true → False

/-- Where the core is as the threads say, the window shows it. -/
lemma Agreeing.agrees (hsound : Sound s) (hs : Agreeing s) : Agrees s := by
  refine ⟨fun hstarting hstopping => ⟨fun hpos => ?_, fun hneg => ?_⟩, fun t ht u hu hlaunch hstops => ?_⟩
  · obtain ⟨n, hn, hbuilt⟩ := hs.running hpos fun u hu => absurd hu (by simp [stopper, hstopping])
    exact ⟨n, by rw [hs.book.open_eq, hn]; rfl, hn, hbuilt⟩
  · have hidle := hs.idle hneg fun t ht => absurd ht (by simp [starter, hstarting])
    exact ⟨by rw [hs.book.open_eq, hidle]; rfl, hidle⟩
  · obtain ⟨i, hi⟩ := List.getElem?_of_mem ht
    obtain ⟨j, hj⟩ := List.getElem?_of_mem hu
    have hstarter : starter s = some t := by
      refine hsound.starting.holder_eq hi ?_
      cases hpc : t.pc <;> simp_all [StartPc.launches, StartPc.holds]
    have hstopper : stopper s = some u := by
      refine hsound.stopping.holder_eq hj ?_
      cases hpc : u.pc <;> simp_all [StopPc.stops, StopPc.holds]
    exact absurd (hs.launching t hstarter hlaunch) (not_lt.2 (hs.stopping u hstopper hstops))

/-- **Along every orderly run the window and the core agree**: in every run in which no stop that was posted for a
start finds a profile running that another stop is at work on, whenever no start and no stop holds its mutex, the core
runs the profile that `started_id` names, in the one instance that is open, and none if it names none; and the core
never has a `Start` and a `Stop` at once.

**Proof sketch.** By induction on the run: a start calls the core only when `started_id` names nothing, which it reads
itself or is sure of when it comes off the semaphore; and a stop does so only while it names something. -/
theorem agrees_of_orderly (events : List Event) (h : Each next Orderly {} events) :
    Agrees (events.foldl next {}) := by
  have hboth : Sound (events.foldl next {}) ∧ Agreeing (events.foldl next {}) := by
    refine h.invariant (I := fun s => Sound s ∧ Agreeing s) (fun s e hs he => ?_) ⟨sound_init, agreeing_init⟩
    refine ⟨sound_next hs.1 e, ?_⟩
    rw [next]
    cases hstep : step s e with
    | none => exact hs.2
    | some s' => exact agreeing_step hs.1 hs.2 he hstep
  exact hboth.2.agrees hboth.1

/-- A profile is started, and then another one, which has the first one stopped. -/
def replaced : List Event :=
  [.start 1, .validate 0 true, .startGoes 0, .startGoes 0, .startRpc 0 fun _ => .runs, .startGoes 0, .startGoes 0,
    .startGoes 0, .post, .start 2, .validate 1 true, .startGoes 1, .startGoes 1, .post, .stopGoes 0, .stopGoes 0,
    .stopGoes 0, .stopGoes 0, .startGoes 1, .startRpc 1 fun _ => .runs, .startGoes 1, .startGoes 1, .startGoes 1, .post]

/-- The second profile runs. -/
theorem agrees_replaced : Agrees (replaced.foldl next {}) ∧ (replaced.foldl next {}).started_id = 2 :=
  ⟨agrees_of_orderly replaced (by decide +kernel), by decide +kernel⟩

/-- A profile is up, another one is started, and a stop is pressed before its start reads `started_id`: the stop that
the start posts finds the other at work, and the core gets the `Start` first. -/
def overtaken : List Event :=
  [.start 1, .validate 0 true, .startGoes 0, .startGoes 0, .startRpc 0 fun _ => .runs, .startGoes 0, .startGoes 0,
    .startGoes 0, .post, .start 2, .validate 1 true, .startGoes 1, .stop, .startGoes 1, .post, .startGoes 1,
    .startRpc 1 fun _ => .runs, .startGoes 1, .startGoes 1, .startGoes 1, .stopGoes 0, .stopGoes 0, .stopGoes 0,
    .stopGoes 0]

/-- **A run that is not orderly**: at its end nothing is in flight and `started_id` names nothing, but an instance is
open that the core has forgotten. -/
theorem leaks : Quiet (overtaken.foldl next {}) ∧ (overtaken.foldl next {}).started_id < 0 ∧
    (overtaken.foldl next {}).core.openInstances = {0} ∧ (overtaken.foldl next {}).core.boxInstance = none := by
  refine ⟨⟨?_, ?_, ?_, ?_, ?_, ?_⟩, ?_, ?_, ?_⟩ <;> decide +kernel

end Proxor.Ui.StartStop
