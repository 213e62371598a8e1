import Mathlib.Algebra.Order.Ring.Int
import Mathlib.Data.Int.Cast.Basic
import Proxor.Lib.Run

set_option relaxedAutoImplicit false
set_option autoImplicit false

/-!
# Retrying the subscription update after a wake

After a wake a due subscription update is started as soon as that is possible, and again a few times, with
growing delays, while subscriptions are still due after it has ended.

## Main definitions

* `Proxor.Platform.WakeSubscriptionRetry` — the state, with `begin`, `step` and `cancel`.
* `Proxor.Platform.RetryGuarantees` — what the caller relies on from one `begin` to the next.

## Main results

* `Proxor.Platform.WakeSubscriptionRetry.step_cases` — what a step can do.
* `Proxor.Platform.retry_guarantees` — every run gives the guarantees.
-/

namespace Proxor.Platform

/-! ### The retry -/

/-- `kWakeSubscriptionRetryDelaysMs`: the delays after the attempts. -/
def kWakeSubscriptionRetryDelaysMs : List ℤ := [3000, 10000, 30000, 60000]

/-- `kWakeSubscriptionMaxAttempts`. -/
def kWakeSubscriptionMaxAttempts : ℤ := 5

/-- `kWakeSubscriptionPollMs`. -/
def kWakeSubscriptionPollMs : ℤ := 1000

/-- `kWakeSubscriptionMaxMs`. -/
def kWakeSubscriptionMaxMs : ℤ := 600000

/-- `kWakeSubscriptionRetryDelaysMs[i]`, if `i` is in the range of the table. -/
def retryDelay (i : ℤ) : Option ℤ :=
  if i < 0 then none else kWakeSubscriptionRetryDelaysMs[i.toNat]?

/-- `SubscriptionRetryInputs`. -/
structure SubscriptionRetryInputs where
  nowMs : ℤ := 0
  blocked : Bool := false
  scheduled : Bool := false
  startPending : Bool := false
  updateRunning : Bool := false
  anyDue : Bool := false

/-- `SubscriptionRetryAction`. -/
inductive SubscriptionRetryAction
  | wait
  | startUpdate
  | done
  | gaveUp
deriving DecidableEq

/-- `SubscriptionRetryStep`. -/
structure SubscriptionRetryStep where
  action : SubscriptionRetryAction := .done
  delayMs : ℤ := -1
  attempt : ℤ := 0
deriving DecidableEq

/-- `WakeSubscriptionRetry`. -/
structure WakeSubscriptionRetry where
  active : Bool := false
  inFlight : Bool := false
  attempts : ℤ := 0
  beganMs : ℤ := 0
  nextAtMs : ℤ := 0

namespace WakeSubscriptionRetry

/-- `begin`, which does not look at the state before. -/
def begin (nowMs : ℤ) : WakeSubscriptionRetry where
  active := true
  inFlight := false
  attempts := 0
  beganMs := nowMs
  nextAtMs := nowMs

/-- `cancel`. -/
def cancel (s : WakeSubscriptionRetry) : WakeSubscriptionRetry := { s with active := false }

/-- The retry has ended. -/
def finish (s : WakeSubscriptionRetry) (action : SubscriptionRetryAction) :
    WakeSubscriptionRetry × SubscriptionRetryStep :=
  (s.cancel, { action := action, attempt := s.attempts })

/-- The part of `step` for a retry whose last attempt has ended or that has had none. -/
def proceed (s : WakeSubscriptionRetry) (i : SubscriptionRetryInputs) :
    WakeSubscriptionRetry × SubscriptionRetryStep :=
  if !i.anyDue then s.finish .done
  else if i.nowMs < s.nextAtMs then
    (s, { action := .wait, delayMs := s.nextAtMs - i.nowMs, attempt := s.attempts })
  else
    ({ s with attempts := s.attempts + 1, inFlight := true },
      { action := .startUpdate, delayMs := kWakeSubscriptionPollMs, attempt := s.attempts + 1 })

/-- `step`: `none` if the table of delays is indexed out of its range. -/
def step (s : WakeSubscriptionRetry) (i : SubscriptionRetryInputs) :
    Option (WakeSubscriptionRetry × SubscriptionRetryStep) :=
  if !s.active then some (s, { action := .done, attempt := s.attempts })
  else if i.blocked || !i.scheduled then some (s.finish .done)
  else if i.nowMs - s.beganMs ≥ kWakeSubscriptionMaxMs then some (s.finish .gaveUp)
  else if i.startPending || i.updateRunning then
    some (s, { action := .wait, delayMs := kWakeSubscriptionPollMs, attempt := s.attempts })
  else if s.inFlight then
    let s := { s with inFlight := false }
    if !i.anyDue then some (s.finish .done)
    else if s.attempts ≥ kWakeSubscriptionMaxAttempts then some (s.finish .gaveUp)
    else (retryDelay (s.attempts - 1)).map fun delay =>
      ({ s with nextAtMs := i.nowMs + delay } : WakeSubscriptionRetry).proceed i
  else some (s.proceed i)

end WakeSubscriptionRetry

/-! ### Runs -/

/-- What happens to the retry. -/
inductive RetryEvent
  | begin (nowMs : ℤ)
  | step (i : SubscriptionRetryInputs)
  | cancel

/-- What comes of it. -/
inductive RetryOut
  | nothing
  | outOfRange
  | step (r : SubscriptionRetryStep)
deriving DecidableEq

/-- One event. -/
def WakeSubscriptionRetry.handle (s : WakeSubscriptionRetry) :
    RetryEvent → WakeSubscriptionRetry × RetryOut
  | .begin nowMs => (.begin nowMs, .nothing)
  | .cancel => (s.cancel, .nothing)
  | .step i =>
    match s.step i with
    | none => (s, .outOfRange)
    | some (s', r) => (s', .step r)

/-- One event of a run. -/
abbrev RetryEntry : Type := Entry WakeSubscriptionRetry RetryEvent RetryOut

/-- An update is started, as this attempt. -/
def Starts (entry : RetryEntry) (i : SubscriptionRetryInputs) (attempt : ℤ) : Prop :=
  entry.event = .step i ∧ ∃ r, entry.out = .step r ∧ r.action = .startUpdate ∧ r.attempt = attempt

/-- An update may be started, so long after `begin`. -/
structure MayStart (nowMs : ℤ) (i : SubscriptionRetryInputs) : Prop where
  blocked : i.blocked = false
  scheduled : i.scheduled = true
  startPending : i.startPending = false
  updateRunning : i.updateRunning = false
  anyDue : i.anyDue = true
  inTime : i.nowMs - nowMs < kWakeSubscriptionMaxMs

/-- A step has seen that no update was running, so long before `nowMs` as the delay after an attempt. -/
def SawEnd (attempt nowMs : ℤ) (entry : RetryEntry) : Prop :=
  ∃ i delay, entry.event = .step i ∧ i.updateRunning = false ∧
    retryDelay (attempt - 1) = some delay ∧ i.nowMs + delay ≤ nowMs

/-- The retry has ended. -/
def Ends (entry : RetryEntry) : Prop :=
  ∃ r, entry.out = .step r ∧ (r.action = .done ∨ r.action = .gaveUp)

/-- Does an update start? -/
def RetryOut.starts : RetryOut → Bool
  | .step r => r.action = .startUpdate
  | _ => false

/-- The entries of a run that start an update. -/
def startsIn (hist : List RetryEntry) : List RetryEntry := hist.filter (·.out.starts)

/-- What the caller relies on between a `begin` and the next. -/
structure RetryGuarantees (nowMs : ℤ) (hist : List RetryEntry) : Prop where
  bounded : ((startsIn hist).length : ℤ) ≤ kWakeSubscriptionMaxAttempts
  allowed : ∀ entry ∈ hist, ∀ i attempt, Starts entry i attempt → MayStart nowMs i
  spaced : ∀ l a m b r, hist = l ++ a :: (m ++ b :: r) → startsIn m = [] →
    ∀ i attempt i' attempt', Starts a i attempt → Starts b i' attempt' →
      ∃ entry ∈ m, SawEnd attempt i'.nowMs entry
  inRange : ∀ entry ∈ hist, entry.out ≠ .outOfRange
  ended : ∀ l a m b r, hist = l ++ a :: (m ++ b :: r) → Ends a → ∀ r', b.out = .step r' →
    r'.action = .done

/-! ### One step -/

/-- What holds of the retry since `begin`. -/
structure RetryInv (nowMs : ℤ) (s : WakeSubscriptionRetry) : Prop where
  began : s.beganMs = nowMs
  nonneg : 0 ≤ s.attempts
  bounded : s.attempts ≤ kWakeSubscriptionMaxAttempts
  inFlight : s.inFlight = true → 1 ≤ s.attempts
  more : s.active = true → s.inFlight = false → s.attempts < kWakeSubscriptionMaxAttempts

/-- How a step can end the retry, wait or start an update. -/
inductive RetryCase (nowMs : ℤ) (s : WakeSubscriptionRetry) (i : SubscriptionRetryInputs)
    (s' : WakeSubscriptionRetry) (r : SubscriptionRetryStep) : Prop
  | ends (hactive : s'.active = false) (hattempts : s'.attempts = s.attempts)
      (haction : r.action = .done ∨ (s.active = true ∧ r.action = .gaveUp))
  | waits (hactive : s.active = true) (haction : r.action = .wait) (hsame : s' = s)
  | delays (hactive : s.active = true) (haction : r.action = .wait) (hattempts : s'.attempts = s.attempts)
      (hrunning : i.updateRunning = false) (hdelay : ∃ delay,
        retryDelay (s.attempts - 1) = some delay ∧ s'.nextAtMs = i.nowMs + delay)
  | starts (hactive : s.active = true) (hinFlight : s.inFlight = false) (haction : r.action = .startUpdate)
      (hattempt : r.attempt = s.attempts + 1) (hmay : MayStart nowMs i) (hnext : s.nextAtMs ≤ i.nowMs)
      (hstate : s' = { s with attempts := s.attempts + 1, inFlight := true })

/-- The delays after the attempts but the last are in the table, and are positive. -/
lemma retryDelay_of_attempt {attempts : ℤ} (hpos : 1 ≤ attempts)
    (hlt : attempts < kWakeSubscriptionMaxAttempts) :
    ∃ delay, retryDelay (attempts - 1) = some delay ∧ 0 < delay := by
  have hattempts : attempts = 1 ∨ attempts = 2 ∨ attempts = 3 ∨ attempts = 4 := by
    unfold kWakeSubscriptionMaxAttempts at hlt
    omega
  rcases hattempts with rfl | rfl | rfl | rfl
  · exact ⟨3000, rfl, by decide⟩
  · exact ⟨10000, rfl, by decide⟩
  · exact ⟨30000, rfl, by decide⟩
  · exact ⟨60000, rfl, by decide⟩

namespace WakeSubscriptionRetry

variable {nowMs : ℤ} {s : WakeSubscriptionRetry} {i : SubscriptionRetryInputs}

lemma inv_begin (nowMs : ℤ) : RetryInv nowMs (.begin nowMs) where
  began := rfl
  nonneg := le_rfl
  bounded := (by decide : (0 : ℤ) ≤ kWakeSubscriptionMaxAttempts)
  inFlight := by rintro ⟨⟩
  more _ _ := (by decide : (0 : ℤ) < kWakeSubscriptionMaxAttempts)

lemma inv_cancel (h : RetryInv nowMs s) : RetryInv nowMs s.cancel :=
  { h with more := by rintro ⟨⟩ }

/-- **What a step can do.** It never indexes the table out of its range. -/
lemma step_cases (h : RetryInv nowMs s) (i : SubscriptionRetryInputs) :
    ∃ s' r, s.step i = some (s', r) ∧ RetryInv nowMs s' ∧ RetryCase nowMs s i s' r := by
  unfold step
  dsimp only
  split_ifs with hinactive hblocked htime hwait hflight hdue hmax
  · rw [Bool.not_eq_true'] at hinactive
    exact ⟨_, _, rfl, h, .ends hinactive rfl (.inl rfl)⟩
  · exact ⟨_, _, rfl, inv_cancel h, .ends rfl rfl (.inl rfl)⟩
  · rw [Bool.not_eq_true', Bool.not_eq_false] at hinactive
    exact ⟨_, _, rfl, inv_cancel h, .ends rfl rfl (.inr ⟨hinactive, rfl⟩)⟩
  · rw [Bool.not_eq_true', Bool.not_eq_false] at hinactive
    exact ⟨_, _, rfl, h, .waits hinactive rfl rfl⟩
  · have hended : RetryInv nowMs ({ s with inFlight := false } : WakeSubscriptionRetry).cancel :=
      { h with inFlight := by rintro ⟨⟩, more := by rintro ⟨⟩ }
    exact ⟨_, _, rfl, hended, .ends rfl rfl (.inl rfl)⟩
  · rw [Bool.not_eq_true', Bool.not_eq_false] at hinactive
    have hended : RetryInv nowMs ({ s with inFlight := false } : WakeSubscriptionRetry).cancel :=
      { h with inFlight := by rintro ⟨⟩, more := by rintro ⟨⟩ }
    exact ⟨_, _, rfl, hended, .ends rfl rfl (.inr ⟨hinactive, rfl⟩)⟩
  · -- the attempt has ended and subscriptions are still due: the next one is delayed
    rw [Bool.not_eq_true', Bool.not_eq_false] at hinactive
    rw [Bool.or_eq_true, not_or, Bool.not_eq_true, Bool.not_eq_true] at hwait
    have hlt := not_le.1 hmax
    obtain ⟨delay, hdelay, hpos⟩ := retryDelay_of_attempt (h.inFlight hflight) hlt
    rw [hdelay]
    refine ⟨{ s with inFlight := false, nextAtMs := i.nowMs + delay },
      { action := .wait, delayMs := i.nowMs + delay - i.nowMs, attempt := s.attempts },
      congrArg some ?_, ?_, .delays hinactive rfl rfl hwait.2 ⟨delay, hdelay, rfl⟩⟩
    · exact (if_neg hdue).trans (if_pos (by dsimp only; omega))
    · exact { h with inFlight := by rintro ⟨⟩, more := fun _ _ => hlt }
  · rw [Bool.not_eq_true', Bool.not_eq_false] at hinactive
    rw [Bool.or_eq_true, not_or, Bool.not_eq_true, Bool.not_eq_true', Bool.not_eq_false] at hblocked
    rw [Bool.or_eq_true, not_or, Bool.not_eq_true, Bool.not_eq_true] at hwait
    rw [Bool.not_eq_true] at hflight
    unfold proceed
    split_ifs with hdue hearly
    · exact ⟨_, _, rfl, inv_cancel h, .ends rfl rfl (.inl rfl)⟩
    · exact ⟨_, _, rfl, h, .waits hinactive rfl rfl⟩
    · rw [Bool.not_eq_true', Bool.not_eq_false] at hdue
      have hmay : MayStart nowMs i :=
        ⟨hblocked.1, hblocked.2, hwait.1, hwait.2, hdue, by rw [← h.began]; exact not_le.1 htime⟩
      have hmore := h.more hinactive hflight
      have hinv : RetryInv nowMs { s with attempts := s.attempts + 1, inFlight := true } :=
        { h with
          nonneg := by have := h.nonneg; dsimp only; omega
          bounded := by dsimp only; omega
          inFlight := fun _ => by have := h.nonneg; dsimp only; omega
          more := by rintro - ⟨⟩ }
      exact ⟨_, _, rfl, hinv, .starts hinactive hflight rfl rfl hmay (not_lt.1 hearly) rfl⟩

end WakeSubscriptionRetry

/-! ### A run -/

open WakeSubscriptionRetry

/-- What holds of the run since `begin` and of the state after it. -/
structure RetryRunInv (nowMs : ℤ) (hist : List RetryEntry) (s : WakeSubscriptionRetry) : Prop where
  inv : RetryInv nowMs s
  counted : s.attempts = (startsIn hist).length
  ended : (∃ entry ∈ hist, Ends entry) → s.active = false

/-- What an entry of a run adds. -/
structure EntryGood (nowMs : ℤ) (hist : List RetryEntry) (entry : RetryEntry) : Prop where
  before : RetryInv nowMs entry.before
  inRange : entry.out ≠ .outOfRange
  allowed : ∀ i attempt, Starts entry i attempt → MayStart nowMs i
  ended : (∃ entry' ∈ hist, Ends entry') → ∀ r, entry.out = .step r → r.action = .done

lemma startsIn_concat (hist : List RetryEntry) (entry : RetryEntry) :
    ((startsIn (hist ++ [entry])).length : ℤ) =
      (startsIn hist).length + if entry.out.starts then 1 else 0 := by
  rw [startsIn, List.filter_append, List.length_append, Nat.cast_add, List.filter_singleton]
  cases entry.out.starts <;> rfl

/-- One event of a run. -/
lemma RetryRunInv.handle {nowMs : ℤ} {hist : List RetryEntry} {s : WakeSubscriptionRetry}
    (h : RetryRunInv nowMs hist s) {e : RetryEvent} (he : ∀ t, e ≠ .begin t) :
    EntryGood nowMs hist ⟨s, e, (s.handle e).2⟩ ∧
      RetryRunInv nowMs (hist ++ [⟨s, e, (s.handle e).2⟩]) (s.handle e).1 := by
  have hends : ∀ entry : RetryEntry, (∃ entry' ∈ hist ++ [entry], Ends entry') →
      (∃ entry' ∈ hist, Ends entry') ∨ Ends entry := by
    rintro entry ⟨entry', hmem, hends⟩
    rcases List.mem_append.1 hmem with hmem | hmem
    · exact .inl ⟨entry', hmem, hends⟩
    · rw [List.mem_singleton.1 hmem] at hends
      exact .inr hends
  cases e with
  | begin t => exact absurd rfl (he t)
  | cancel =>
    refine ⟨⟨h.inv, ?_, ?_, ?_⟩, ⟨inv_cancel h.inv, ?_, fun _ => rfl⟩⟩
    · rintro ⟨⟩
    · rintro i attempt ⟨⟨⟩, -⟩
    · rintro - r ⟨⟩
    · rw [startsIn_concat]
      exact h.counted.trans (add_zero _).symm
  | step i =>
    obtain ⟨s', r, hstep, hinv, hcase⟩ := step_cases h.inv i
    have hhandle : s.handle (.step i) = (s', .step r) := by
      rw [WakeSubscriptionRetry.handle, hstep]
    rw [hhandle]
    have hover : (∃ entry' ∈ hist, Ends entry') → ¬ s.active = true := fun hended => by
      rw [h.ended hended]
      exact Bool.false_ne_true
    refine ⟨⟨h.inv, ?_, fun i' attempt hstarts => ?_, fun hended r' hr' => ?_⟩,
      ⟨hinv, ?_, fun hended => ?_⟩⟩
    · rintro ⟨⟩
    · obtain ⟨hevent, r', hr', haction, -⟩ := hstarts
      cases hevent
      cases hr'
      cases hcase with
      | ends _ _ hended => rcases hended with hend | ⟨-, hend⟩ <;> cases hend.symm.trans haction
      | waits _ hwait _ => cases hwait.symm.trans haction
      | delays _ hwait _ _ _ => cases hwait.symm.trans haction
      | starts _ _ _ _ hmay _ _ => exact hmay
    · cases hr'
      cases hcase with
      | ends _ _ haction => exact haction.resolve_right fun hgave => hover hended hgave.1
      | waits hactive _ _ => exact absurd hactive (hover hended)
      | delays hactive _ _ _ _ => exact absurd hactive (hover hended)
      | starts hactive _ _ _ _ _ _ => exact absurd hactive (hover hended)
    · rw [startsIn_concat, ← h.counted]
      cases hcase with
      | ends _ hattempts haction =>
        rw [hattempts, if_neg, add_zero]
        rcases haction with hdone | ⟨-, hgave⟩ <;> simp [RetryOut.starts, *]
      | waits _ haction hsame => rw [hsame, if_neg (by simp [RetryOut.starts, haction]), add_zero]
      | delays _ haction hattempts _ _ =>
        rw [hattempts, if_neg (by simp [RetryOut.starts, haction]), add_zero]
      | starts _ _ haction _ _ _ hstate =>
        rw [hstate, if_pos (by simp [RetryOut.starts, haction])]
    · rcases hends _ hended with hended | ⟨r', hr', haction⟩
      · cases hcase with
        | ends hactive _ _ => exact hactive
        | waits hactive _ _ => exact absurd hactive (hover hended)
        | delays hactive _ _ _ _ => exact absurd hactive (hover hended)
        | starts hactive _ _ _ _ _ _ => exact absurd hactive (hover hended)
      · cases hr'
        cases hcase with
        | ends hactive _ _ => exact hactive
        | waits _ hwait _ => rw [hwait] at haction; rcases haction with h | h <;> cases h
        | delays _ hwait _ _ _ => rw [hwait] at haction; rcases haction with h | h <;> cases h
        | starts _ _ hstart _ _ _ _ => rw [hstart] at haction; rcases haction with h | h <;> cases h

/-- What holds after an update was started, while no other one is. -/
structure Waiting (nowMs attempt : ℤ) (hist : List RetryEntry) (s : WakeSubscriptionRetry) : Prop where
  inv : RetryInv nowMs s
  current : s.active = true → s.attempts = attempt
  ended : s.active = true → s.inFlight = true ∨ ∃ entry ∈ hist, SawEnd attempt s.nextAtMs entry

/-- An event that starts no update. -/
lemma Waiting.handle {nowMs attempt : ℤ} {hist : List RetryEntry} {s : WakeSubscriptionRetry}
    (h : Waiting nowMs attempt hist s) {e : RetryEvent} (he : ∀ t, e ≠ .begin t)
    (hstarts : (s.handle e).2.starts = false) :
    Waiting nowMs attempt (hist ++ [⟨s, e, (s.handle e).2⟩]) (s.handle e).1 := by
  cases e with
  | begin t => exact absurd rfl (he t)
  | cancel => exact ⟨inv_cancel h.inv, by rintro ⟨⟩, by rintro ⟨⟩⟩
  | step i =>
    obtain ⟨s', r, hstep, hinv, hcase⟩ := step_cases h.inv i
    have hhandle : s.handle (.step i) = (s', .step r) := by
      rw [WakeSubscriptionRetry.handle, hstep]
    rw [hhandle] at hstarts ⊢
    refine ⟨hinv, fun hactive => ?_, fun hactive => ?_⟩
    · cases hcase with
      | ends hinactive _ _ => cases hinactive.symm.trans hactive
      | waits hactive _ hsame => rw [hsame, h.current hactive]
      | delays hactive _ hattempts _ _ => rw [hattempts, h.current hactive]
      | starts _ _ haction _ _ _ _ => simp [RetryOut.starts, haction] at hstarts
    · cases hcase with
      | ends hinactive _ _ => cases hinactive.symm.trans hactive
      | waits hactive _ hsame =>
        rw [hsame]
        refine (h.ended hactive).imp id ?_
        rintro ⟨entry, hmem, hend⟩
        exact ⟨entry, List.mem_append_left _ hmem, hend⟩
      | delays hactive _ _ hrunning hdelay =>
        obtain ⟨delay, hdelay, hnext⟩ := hdelay
        rw [h.current hactive] at hdelay
        exact .inr ⟨_, List.mem_append_right _ (List.mem_singleton_self _), i, delay, rfl, hrunning,
          hdelay, hnext.ge⟩
      | starts _ _ haction _ _ _ _ => simp [RetryOut.starts, haction] at hstarts

/-- **Spacing.** Between an update and the next one, a step saw that none was running, early enough.

**Proof sketch.** After the first update the retry waits for its end, and then for the delay; the second
one is started by a retry that waits for neither. -/
lemma saw_end {nowMs : ℤ} {s : WakeSubscriptionRetry} {events : List RetryEvent}
    {l m r : List RetryEntry} {a b : RetryEntry} (hm : startsIn m = [])
    (h : history WakeSubscriptionRetry.handle s events = l ++ a :: (m ++ b :: r))
    (hevents : ∀ e ∈ events, ∀ t, e ≠ .begin t) (ha : RetryInv nowMs a.before)
    {i i' : SubscriptionRetryInputs} {attempt attempt' : ℤ} (hstart : Starts a i attempt)
    (hstart' : Starts b i' attempt') : ∃ entry ∈ m, SawEnd attempt i'.nowMs entry := by
  obtain ⟨-, hout, htail⟩ := history_split h
  obtain ⟨hbefore, hout', -⟩ := history_split htail
  -- the state after the first update
  obtain ⟨s₁, r₁, hstep, hinv, hcase⟩ := step_cases ha i
  have hhandle : a.before.handle a.event = (s₁, .step r₁) := by
    rw [hstart.1, WakeSubscriptionRetry.handle, hstep]
  obtain ⟨r₁', hr₁, haction, hattempt⟩ := hstart.2
  rw [hout, hhandle] at hr₁
  cases hr₁
  have hwaiting : Waiting nowMs attempt [] s₁ := by
    cases hcase with
    | ends _ _ hended => rcases hended with hend | ⟨-, hend⟩ <;> cases hend.symm.trans haction
    | waits _ hwait _ => cases hwait.symm.trans haction
    | delays _ hwait _ _ _ => cases hwait.symm.trans haction
    | starts _ _ _ hnumber _ _ hstate =>
      rw [hstate] at hinv ⊢
      exact ⟨hinv, fun _ => hnumber.symm.trans hattempt, fun _ => .inl rfl⟩
  rw [hhandle] at hbefore htail
  have hmiddle : history WakeSubscriptionRetry.handle s₁ (m.map Entry.event) = m := by
    rw [List.map_append, history_append] at htail
    exact (List.append_inj htail (by rw [length_history, List.length_map])).1
  have hin : ∀ entry ∈ m, entry.event ∈ events := fun entry hmem => by
    rw [← map_event_history WakeSubscriptionRetry.handle s events, h]
    exact List.mem_map_of_mem (List.mem_append_right _ (List.mem_cons_of_mem _
      (List.mem_append_left _ hmem)))
  obtain ⟨hend, -⟩ := history_rule WakeSubscriptionRetry.handle s₁ (m.map Entry.event)
    (I := Waiting nowMs attempt)
    (A := fun _ s e => (∀ t, e ≠ .begin t) ∧ (s.handle e).2.starts = false) (G := fun _ _ => True)
    hwaiting (fun hist s e hI hA => ⟨trivial, hI.handle hA.1 hA.2⟩) (by
      intro l' entry r' hsplit
      have hmem : entry ∈ m := by
        rw [← hmiddle, hsplit]
        exact List.mem_append_right _ List.mem_cons_self
      obtain ⟨-, hout, -⟩ := history_split hsplit
      refine ⟨hevents _ (hin entry hmem), ?_⟩
      rw [← hout, ← Bool.not_eq_true]
      exact List.filter_eq_nil_iff.1 hm entry hmem)
  rw [hmiddle, ← hbefore] at hend
  -- the second update is started by a retry that is active and waits for nothing
  obtain ⟨s₂, r₂, hstep', -, hcase'⟩ := step_cases hend.inv i'
  obtain ⟨r₂', hr₂, haction', -⟩ := hstart'.2
  rw [hout', hstart'.1, WakeSubscriptionRetry.handle, hstep'] at hr₂
  cases hr₂
  cases hcase' with
  | ends _ _ hended => rcases hended with hend | ⟨-, hend⟩ <;> cases hend.symm.trans haction'
  | waits _ hwait _ => cases hwait.symm.trans haction'
  | delays _ hwait _ _ _ => cases hwait.symm.trans haction'
  | starts hactive hinFlight _ _ _ hnext _ =>
    rcases hend.ended hactive with hflight | ⟨entry, hmem, j, delay, hj, hrunning, hdelay, hle⟩
    · cases hinFlight.symm.trans hflight
    · exact ⟨entry, hmem, j, delay, hj, hrunning, hdelay, hle.trans hnext⟩

/-- **The guarantees.** Whatever was done before, every run from a `begin` up to the next one gives them.

**Proof sketch.** One event adds what the guarantees say of it and keeps what holds of the retry
(`RetryRunInv.handle`), so all of it holds of the whole run; the spacing is that of two updates with none
between them. -/
theorem retry_guarantees (s : WakeSubscriptionRetry) (earlier : List RetryEvent) (nowMs : ℤ)
    (events : List RetryEvent) (hevents : ∀ e ∈ events, ∀ t, e ≠ .begin t) :
    RetryGuarantees nowMs (history WakeSubscriptionRetry.handle
      (final WakeSubscriptionRetry.handle s (earlier ++ [.begin nowMs])) events) := by
  rw [final_concat]
  have hstart : RetryRunInv nowMs [] (.begin nowMs) :=
    ⟨inv_begin nowMs, rfl, by rintro ⟨entry, hmem, -⟩; cases hmem⟩
  change RetryGuarantees nowMs (history WakeSubscriptionRetry.handle (.begin nowMs) events)
  obtain ⟨hinv, hgood⟩ := history_rule WakeSubscriptionRetry.handle (.begin nowMs) events
    (I := RetryRunInv nowMs) (A := fun _ _ e => ∀ t, e ≠ .begin t) (G := EntryGood nowMs) hstart
    (fun hist s e hI hA => hI.handle hA) (by
      intro l entry r hsplit
      refine hevents _ ?_
      rw [← map_event_history WakeSubscriptionRetry.handle (.begin nowMs) events,
        hsplit]
      exact List.mem_map_of_mem (List.mem_append_right _ List.mem_cons_self))
  refine ⟨?_, fun entry hmem => ?_, fun l a m b r hsplit hm i attempt i' attempt' ha hb => ?_,
    fun entry hmem => ?_, fun l a m b r hsplit hended => ?_⟩
  · rw [← hinv.counted]
    exact hinv.inv.bounded
  · obtain ⟨l, r, hsplit⟩ := List.append_of_mem hmem
    exact (hgood l entry r hsplit).allowed
  · exact saw_end hm hsplit hevents (hgood l a _ hsplit).before ha hb
  · obtain ⟨l, r, hsplit⟩ := List.append_of_mem hmem
    exact (hgood l entry r hsplit).inRange
  · rw [← List.singleton_append, ← List.append_assoc, ← List.append_assoc] at hsplit
    exact (hgood _ b r hsplit).ended ⟨a, by simp, hended⟩

/-- A retry without any step gives the guarantees. -/
theorem retry_guarantees_start : RetryGuarantees 0 (history WakeSubscriptionRetry.handle
    (final WakeSubscriptionRetry.handle {} ([] ++ [.begin 0]))
    [.step { scheduled := true, anyDue := true }, .cancel]) :=
  retry_guarantees {} [] 0 [.step { scheduled := true, anyDue := true }, .cancel] (by
    intro e he t
    rcases List.mem_cons.1 he with rfl | he
    · rintro ⟨⟩
    · rw [List.mem_singleton.1 he]
      rintro ⟨⟩)

end Proxor.Platform
