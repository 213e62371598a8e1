import Mathlib.Data.List.Basic
import Proxor.Platform.WifiSsid

set_option relaxedAutoImplicit false
set_option autoImplicit false

/-!
# The Wi-Fi monitor

The monitor reads the Wi-Fi network on a thread of its own, at most once at a time. A request while a read
is in flight is remembered, and another read begins when that one is done. A reading that changes the
network is told by a signal.

## Main definitions

* `Proxor.Sys.WifiMonitor` — the monitor, its thread and what happened.
* `Proxor.Sys.WifiMonitor.step`, `Proxor.Sys.WifiMonitor.run` — events of both threads, in any order.
* `Proxor.Sys.WifiMonitor.Inv` — one read in flight, or none.
* `Proxor.Sys.WifiMonitor.Owed` — a read is still to begin.

## Main results

* `Proxor.Sys.WifiMonitor.step_inv`, `Proxor.Sys.WifiMonitor.step_owed` — what an event does.
* `Proxor.Sys.WifiMonitor.run_reads` — the reads and the signals of a run.
* `Proxor.Sys.WifiMonitor.not_run_reads_of_name` — a connection without a name is a change too.

## Design

The slots that are called when a signal is emitted may call the monitor again, so a completion comes with
the calls they make. What happened is counted and written down in fields that nothing depends on.
-/

namespace Proxor.Sys

open Proxor.Platform

namespace WifiMonitor

/-- The signals of the monitor. -/
inductive Signal
  | ssidChanged (ssid : String)
  | readingChanged (reading : WifiReading)
deriving DecidableEq

/-- The calls of the monitor. -/
inductive Call
  | refreshNow
  | setActive (active : Bool)

end WifiMonitor

open WifiMonitor in
/-- The monitor. -/
structure WifiMonitor where
  tracker : ChangeTracker := {}
  active : Bool := false
  inFlight : Bool := false
  again : Bool := false
  hasReading : Bool := false
  /-- `g_cachedSsid`. -/
  cachedSsid : String := ""
  /-- Reads that are posted to the thread and have not begun. -/
  posted : ℕ := 0
  /-- The thread is in `WifiBackend::read`. -/
  reading : Bool := false
  /-- Readings that are posted back. -/
  ready : List WifiReading := []
  /-- How many reads have begun. -/
  started : ℕ := 0
  /-- For each call of `refreshNow`, how many reads had begun before it. -/
  refreshes : List ℕ := []
  /-- The readings the monitor was given. -/
  completed : List WifiReading := []
  signals : List Signal := []
deriving DecidableEq

namespace WifiMonitor

/-! ### The monitor -/

/-- `requestRead`. -/
def requestRead (s : WifiMonitor) : WifiMonitor :=
  if s.inFlight then { s with again := true }
  else { s with inFlight := true, posted := s.posted + 1 }

/-- `setActive`. -/
def setActive (s : WifiMonitor) (active : Bool) : WifiMonitor :=
  if active = s.active then s
  else
    let s := { s with active }
    if active then s.requestRead else s

/-- `refreshNow`. -/
def refreshNow (s : WifiMonitor) : WifiMonitor :=
  { s with refreshes := s.refreshes ++ [s.started] }.requestRead

def perform (s : WifiMonitor) : Call → WifiMonitor
  | .refreshNow => s.refreshNow
  | .setActive active => s.setActive active

/-- A signal is emitted, and its slots make calls. -/
def emit (s : WifiMonitor) (signal : Signal) (calls : List Call) : WifiMonitor :=
  calls.foldl perform { s with signals := s.signals ++ [signal] }

/-- The end of `onReadingReady`. -/
def readAgain (s : WifiMonitor) : WifiMonitor :=
  if s.again then { s with again := false }.requestRead else s

/-- The signals of `onReadingReady`, with the calls of the slots of both. -/
def tell (s : WifiMonitor) (reading : WifiReading) (update : ChangeTracker.Update)
    (onReading onSsid : List Call) : WifiMonitor :=
  let s := if update.readingChanged then s.emit (.readingChanged reading) onReading else s
  if update.ssidChanged then s.emit (.ssidChanged update.ssid) onSsid else s

/-- `onReadingReady`. -/
def onReadingReady (s : WifiMonitor) (reading : WifiReading) (onReading onSsid : List Call) : WifiMonitor :=
  let s := { s with inFlight := false, hasReading := true, completed := s.completed ++ [reading] }
  let (tracker, update) := s.tracker.apply reading
  let s := { s with tracker, cachedSsid := tracker.ssid }
  (s.tell reading update onReading onSsid).readAgain

/-! ### Events -/

/-- What happens on the two threads. -/
inductive Event
  /-- A call from outside. -/
  | call (c : Call)
  /-- The timer fires. -/
  | timeout
  /-- The thread begins a read that was posted. -/
  | readBegins
  /-- The read returns. -/
  | readReturns (reading : WifiReading)
  /-- The reading is delivered, and the slots make calls. -/
  | readingReady (onReading onSsid : List Call)

/-- The event belongs to a read. -/
def Event.isRead : Event → Bool
  | .call _ | .timeout => false
  | .readBegins | .readReturns _ | .readingReady _ _ => true

/-- One event, where it is possible. The timer runs while the monitor is active. -/
def step (s : WifiMonitor) : Event → Option WifiMonitor
  | .call c => some (s.perform c)
  | .timeout => if s.active then some s.requestRead else none
  | .readBegins =>
    if 0 < s.posted ∧ s.reading = false then
      some { s with posted := s.posted - 1, reading := true, started := s.started + 1 }
    else none
  | .readReturns r => if s.reading then some { s with reading := false, ready := s.ready ++ [r] } else none
  | .readingReady onReading onSsid =>
    match s.ready with
    | [] => none
    | r :: ready => some ({ s with ready }.onReadingReady r onReading onSsid)

/-- Events one after another. -/
def run (s : WifiMonitor) : List Event → Option WifiMonitor
  | [] => some s
  | e :: events => (s.step e).bind fun s => s.run events

/-! ### Reads in flight -/

/-- The reads that have been posted and are not completed. -/
def reads (s : WifiMonitor) : ℕ := s.posted + s.reading.toNat + s.ready.length

/-- A read that has not begun is posted, or will be. -/
def Owed (s : WifiMonitor) : Prop := 0 < s.posted ∨ s.again = true

/-- A refresh has a read that began after it, or one that is still to begin. -/
def Served (s : WifiMonitor) : Prop := ∀ n ∈ s.refreshes, n < s.started ∨ n = s.started ∧ s.Owed

/-- Between two events, a request is remembered only while a read is in flight. -/
structure Inv (s : WifiMonitor) : Prop where
  reads : s.reads = s.inFlight.toNat
  again : s.again = true → s.inFlight = true
  served : s.Served

/-- What requests do: nothing but to post a read or to remember that one is needed. -/
structure Requests (s s' : WifiMonitor) : Prop where
  tracker : s'.tracker = s.tracker
  cachedSsid : s'.cachedSsid = s.cachedSsid
  reading : s'.reading = s.reading
  ready : s'.ready = s.ready
  started : s'.started = s.started
  completed : s'.completed = s.completed
  signals : s'.signals = s.signals
  posted : s.posted ≤ s'.posted
  again : s.again = true → s'.again = true
  reads : s.reads = s.inFlight.toNat → s'.reads = s'.inFlight.toNat
  remembered : (s.again = true → s.inFlight = true) → s'.again = true → s'.inFlight = true
  served : s.Served → s'.Served

lemma Requests.refl (s : WifiMonitor) : Requests s s where
  tracker := rfl
  cachedSsid := rfl
  reading := rfl
  ready := rfl
  started := rfl
  completed := rfl
  signals := rfl
  posted := le_rfl
  again := id
  reads := id
  remembered := id
  served := id

lemma Requests.trans {s s' s'' : WifiMonitor} (h : Requests s s') (h' : Requests s' s'') :
    Requests s s'' where
  tracker := h'.tracker.trans h.tracker
  cachedSsid := h'.cachedSsid.trans h.cachedSsid
  reading := h'.reading.trans h.reading
  ready := h'.ready.trans h.ready
  started := h'.started.trans h.started
  completed := h'.completed.trans h.completed
  signals := h'.signals.trans h.signals
  posted := h.posted.trans h'.posted
  again := h'.again ∘ h.again
  reads := h'.reads ∘ h.reads
  remembered := h'.remembered ∘ h.remembered
  served := h'.served ∘ h.served

lemma Owed.mono {s s' : WifiMonitor} (hposted : s.posted ≤ s'.posted)
    (hagain : s.again = true → s'.again = true) (h : s.Owed) : s'.Owed :=
  h.imp (fun h => h.trans_le hposted) hagain

lemma Served.mono {s s' : WifiMonitor} (hrefreshes : s'.refreshes = s.refreshes)
    (hstarted : s'.started = s.started) (howed : s.Owed → s'.Owed) (h : s.Served) : s'.Served := by
  rintro n hn
  rw [hrefreshes] at hn
  rw [hstarted]
  exact (h n hn).imp_right fun h => ⟨h.1, howed h.2⟩

/-- After a request a read is owed. -/
lemma owed_requestRead (s : WifiMonitor) : s.requestRead.Owed := by
  rw [requestRead]
  split
  · exact Or.inr rfl
  · exact Or.inl (Nat.succ_pos _)

lemma requests_requestRead (s : WifiMonitor) : Requests s s.requestRead := by
  have hserved : s.Served → s.requestRead.Served := by
    refine Served.mono ?_ ?_ fun _ => owed_requestRead s
    · rw [requestRead]
      split <;> rfl
    · rw [requestRead]
      split <;> rfl
  revert hserved
  rw [requestRead]
  split
  · next hflight =>
    exact fun hserved => { Requests.refl s with
      again := fun _ => rfl
      remembered := fun _ _ => hflight
      served := hserved }
  · next hflight =>
    have hzero : s.inFlight.toNat = 0 := by rw [Bool.eq_false_iff.2 hflight]; rfl
    exact fun hserved => { Requests.refl s with
      posted := Nat.le_succ _
      reads := by
        rintro h
        rw [hzero, WifiMonitor.reads] at h
        change s.posted + 1 + s.reading.toNat + s.ready.length = 1
        omega
      remembered := fun _ _ => rfl
      served := hserved }

lemma requests_refreshNow (s : WifiMonitor) : Requests s s.refreshNow := by
  have hrequest := requests_requestRead { s with refreshes := s.refreshes ++ [s.started] }
  exact { hrequest with
    served := by
      rintro h n hn
      have hstarted : s.refreshNow.started = s.started := hrequest.started
      have hrefreshes : s.refreshNow.refreshes = s.refreshes ++ [s.started] := by
        rw [refreshNow, requestRead]
        split <;> rfl
      rw [hstarted]
      rw [hrefreshes] at hn
      rcases List.mem_append.1 hn with hn | hn
      · exact (h n hn).imp_right fun h => ⟨h.1, owed_requestRead _⟩
      · exact Or.inr ⟨List.mem_singleton.1 hn, owed_requestRead _⟩ }

lemma requests_setActive (s : WifiMonitor) (active : Bool) : Requests s (s.setActive active) := by
  have hset : Requests s { s with active } := { Requests.refl s with }
  rw [setActive]
  split
  · exact Requests.refl s
  · dsimp only
    split
    · exact hset.trans (requests_requestRead _)
    · exact hset

/-- Calls are requests. -/
lemma requests_perform (s : WifiMonitor) (c : Call) : Requests s (s.perform c) := by
  cases c with
  | refreshNow => exact requests_refreshNow s
  | setActive active => exact requests_setActive s active

lemma requests_foldl (s : WifiMonitor) (calls : List Call) : Requests s (calls.foldl perform s) := by
  induction calls generalizing s with
  | nil => exact Requests.refl s
  | cons c calls ih => exact (requests_perform s c).trans (ih _)

lemma Requests.with_signals {s s' : WifiMonitor} (h : Requests s s') (signals : List Signal) :
    Requests { s with signals } { s' with signals } := { h with signals := rfl }

/-! ### What is told -/

/-- The network a signal tells. -/
def Signal.ssid? : Signal → Option String
  | .ssidChanged ssid => some ssid
  | .readingChanged _ => none

/-- The networks that have been told. -/
def ssidsTold (s : WifiMonitor) : List String := s.signals.filterMap Signal.ssid?

/-- A completion makes requests and emits its signals. -/
lemma requests_tell (s : WifiMonitor) (reading : WifiReading) (update : ChangeTracker.Update)
    (onReading onSsid : List Call) :
    ∃ told, Requests { s with signals := s.signals ++ told } (s.tell reading update onReading onSsid) ∧
      told.filterMap Signal.ssid? = if update.ssidChanged then [update.ssid] else [] := by
  have hfirst : ∃ told, Requests { s with signals := s.signals ++ told }
      (if update.readingChanged then s.emit (.readingChanged reading) onReading else s) ∧
      told.filterMap Signal.ssid? = [] := by
    split
    · exact ⟨[.readingChanged reading], requests_foldl _ _, rfl⟩
    · refine ⟨[], ?_, rfl⟩
      rw [List.append_nil]
      exact Requests.refl s
  obtain ⟨told, hrequests, htold⟩ := hfirst
  rw [tell]
  by_cases hchanged : update.ssidChanged = true
  · rw [if_pos hchanged, if_pos hchanged]
    refine ⟨told ++ [.ssidChanged update.ssid], ?_, ?_⟩
    · refine Requests.trans ?_ (requests_foldl _ onSsid)
      rw [hrequests.signals, ← List.append_assoc]
      exact hrequests.with_signals _
    · rw [List.filterMap_append, htold]
      rfl
  · rw [if_neg hchanged, if_neg hchanged]
    exact ⟨told, hrequests, htold⟩

/-! ### One completion -/

/-- What is remembered becomes a request. -/
lemma readAgain_eq (s : WifiMonitor) :
    s.readAgain.tracker = s.tracker ∧ s.readAgain.cachedSsid = s.cachedSsid ∧
      s.readAgain.reading = s.reading ∧ s.readAgain.ready = s.ready ∧ s.readAgain.started = s.started ∧
      s.readAgain.completed = s.completed ∧ s.readAgain.signals = s.signals ∧
      s.readAgain.refreshes = s.refreshes := by
  rw [readAgain]
  split
  · rw [requestRead]
    split <;> exact ⟨rfl, rfl, rfl, rfl, rfl, rfl, rfl, rfl⟩
  · exact ⟨rfl, rfl, rfl, rfl, rfl, rfl, rfl, rfl⟩

/-- With no read on the thread, what is owed is posted. -/
lemma posted_readAgain {s : WifiMonitor} (hreads : s.reads = s.inFlight.toNat)
    (hreading : s.reading = false) (hready : s.ready = []) (h : s.Owed) : 0 < s.readAgain.posted := by
  have hposted : s.posted = s.inFlight.toNat := by
    rw [← hreads, WifiMonitor.reads, hreading, hready]
    rfl
  rw [readAgain]
  split
  · rw [requestRead]
    split
    · next hflight =>
      rw [hposted, hflight]
      exact Nat.one_pos
    · exact Nat.succ_pos _
  · next hagain => exact h.resolve_right hagain

lemma reads_readAgain {s : WifiMonitor} (h : s.reads = s.inFlight.toNat) :
    s.readAgain.reads = s.readAgain.inFlight.toNat ∧
      (s.readAgain.again = true → s.readAgain.inFlight = true) := by
  rw [readAgain]
  split
  · have hrequest := requests_requestRead { s with again := false }
    exact ⟨hrequest.reads h, hrequest.remembered fun h => absurd h Bool.false_ne_true⟩
  · next hagain => exact ⟨h, fun h => absurd h hagain⟩

/-- What a completion does. -/
structure Completed (s : WifiMonitor) (r : WifiReading) (s' : WifiMonitor) : Prop where
  inv : s'.Inv
  started : s'.started = s.started
  completed : s'.completed = s.completed ++ [r]
  tracker : s'.tracker = (s.tracker.apply r).1
  cachedSsid : s'.cachedSsid = (s.tracker.apply r).1.ssid
  told : s'.ssidsTold = s.ssidsTold ++
    if (s.tracker.apply r).2.ssidChanged then [(s.tracker.apply r).2.ssid] else []
  owed : s.Owed → 0 < s'.posted

/-- With a reading posted back, no other read is in flight. -/
lemma Inv.eq_of_ready {s : WifiMonitor} (hs : s.Inv) {r : WifiReading} {ready : List WifiReading}
    (h : s.ready = r :: ready) : s.posted = 0 ∧ s.reading = false ∧ ready = [] := by
  have hreads := hs.reads
  have hle : s.inFlight.toNat ≤ 1 := Bool.toNat_le _
  rw [WifiMonitor.reads, h, List.length_cons] at hreads
  refine ⟨by omega, ?_, List.length_eq_zero_iff.1 (by omega)⟩
  rw [← Bool.toNat_eq_zero]
  omega

/-- **One completion.**

**Proof sketch.** When the reading is taken no read is in flight. The slots make requests, and what is
remembered from before or from them becomes a request at the end. -/
theorem completed_onReadingReady {s : WifiMonitor} (hs : s.Inv) {r : WifiReading}
    {ready : List WifiReading} (h : s.ready = r :: ready) (onReading onSsid : List Call) :
    Completed s r ({ s with ready }.onReadingReady r onReading onSsid) := by
  obtain ⟨hposted, hreading, rfl⟩ := hs.eq_of_ready h
  let taken : WifiMonitor :=
    { s with
      ready := [], inFlight := false, hasReading := true, completed := s.completed ++ [r]
      tracker := (s.tracker.apply r).1, cachedSsid := (s.tracker.apply r).1.ssid }
  obtain ⟨told, hrequests, htold⟩ := requests_tell taken r (s.tracker.apply r).2 onReading onSsid
  have hresult : { s with ready := [] }.onReadingReady r onReading onSsid =
    (taken.tell r (s.tracker.apply r).2 onReading onSsid).readAgain := rfl
  rw [hresult]
  generalize taken.tell r (s.tracker.apply r).2 onReading onSsid = t at hrequests
  have hreads : t.reads = t.inFlight.toNat := hrequests.reads (by
    change s.posted + s.reading.toNat + 0 = 0
    rw [hposted, hreading]
    rfl)
  have howed : s.Owed → t.Owed := Owed.mono hrequests.posted hrequests.again
  have hserved : t.Served := hrequests.served (Served.mono rfl rfl id hs.served)
  have hlast : t.Owed → 0 < t.readAgain.posted :=
    posted_readAgain hreads (hrequests.reading.trans hreading) hrequests.ready
  obtain ⟨htracker, hcached, -, -, hstarted, hcompleted, hsignals, hrefreshes⟩ := readAgain_eq t
  obtain ⟨hreads', hagain'⟩ := reads_readAgain hreads
  exact {
    inv := ⟨hreads', hagain', hserved.mono hrefreshes hstarted fun h => Or.inl (hlast h)⟩
    started := hstarted.trans hrequests.started
    completed := hcompleted.trans hrequests.completed
    tracker := htracker.trans hrequests.tracker
    cachedSsid := hcached.trans hrequests.cachedSsid
    told := by
      rw [ssidsTold, hsignals, hrequests.signals, List.filterMap_append, htold]
      rfl
    owed := fun h => hlast (howed h) }

/-! ### One event -/

/-- What an event may do. -/
theorem step_cases {s s' : WifiMonitor} {e : Event} (hs : s.Inv) (h : s.step e = some s') :
    (e.isRead = false ∧ Requests s s') ∨
      (e = .readBegins ∧ 0 < s.posted ∧ s.reading = false ∧
        s' = { s with posted := s.posted - 1, reading := true, started := s.started + 1 }) ∨
      (∃ r, e = .readReturns r ∧ s.reading = true ∧
        s' = { s with reading := false, ready := s.ready ++ [r] }) ∨
      ∃ onReading onSsid r ready, e = .readingReady onReading onSsid ∧ s.ready = r :: ready ∧
        Completed s r s' := by
  cases e with
  | call c =>
    obtain rfl := Option.some.inj h
    exact Or.inl ⟨rfl, requests_perform s c⟩
  | timeout =>
    rw [step] at h
    split at h
    · obtain rfl := Option.some.inj h
      exact Or.inl ⟨rfl, requests_requestRead s⟩
    · exact absurd h (Option.some_ne_none _).symm
  | readBegins =>
    rw [step] at h
    split at h
    · next hposted => exact Or.inr (Or.inl ⟨rfl, hposted.1, hposted.2, (Option.some.inj h).symm⟩)
    · exact absurd h (Option.some_ne_none _).symm
  | readReturns r =>
    rw [step] at h
    split at h
    · next hreading => exact Or.inr (Or.inr (Or.inl ⟨r, rfl, hreading, (Option.some.inj h).symm⟩))
    · exact absurd h (Option.some_ne_none _).symm
  | readingReady onReading onSsid =>
    rw [step] at h
    split at h
    · exact absurd h (Option.some_ne_none _).symm
    · next r ready hready =>
      obtain rfl := Option.some.inj h
      exact Or.inr (Or.inr (Or.inr ⟨onReading, onSsid, r, ready, rfl, hready,
        completed_onReadingReady hs hready onReading onSsid⟩))

/-- Every event keeps the invariant. -/
theorem step_inv {s s' : WifiMonitor} {e : Event} (hs : s.Inv) (h : s.step e = some s') : s'.Inv := by
  have hreads := hs.reads
  rcases step_cases hs h with ⟨-, h⟩ | ⟨-, hposted, hreading, rfl⟩ | ⟨r, -, hreading, rfl⟩ |
    ⟨-, -, r, -, -, -, h⟩
  · exact ⟨h.reads hs.reads, h.remembered hs.again, h.served hs.served⟩
  · refine ⟨?_, hs.again, fun n hn => Or.inl ?_⟩
    · rw [WifiMonitor.reads, hreading] at hreads
      change s.posted - 1 + 1 + s.ready.length = s.inFlight.toNat
      rw [← hreads, Nat.sub_add_cancel hposted]
      rfl
    · rcases hs.served n hn with hn | ⟨hn, -⟩
      · exact Nat.lt_succ_of_lt hn
      · exact Nat.lt_succ_of_le hn.le
  · refine ⟨?_, hs.again, hs.served⟩
    rw [WifiMonitor.reads, hreading] at hreads
    change s.posted + 0 + (s.ready ++ [r]).length = s.inFlight.toNat
    rw [← hreads, List.length_append, List.length_singleton]
    change s.posted + 0 + (s.ready.length + 1) = s.posted + 1 + s.ready.length
    omega
  · exact h.inv

/-- A read that has begun has begun. -/
lemma started_le_of_step {s s' : WifiMonitor} {e : Event} (hs : s.Inv) (h : s.step e = some s') :
    s.started ≤ s'.started := by
  rcases step_cases hs h with ⟨-, h⟩ | ⟨-, -, -, rfl⟩ | ⟨r, -, -, rfl⟩ | ⟨-, -, r, -, -, -, h⟩
  · exact h.started.ge
  · exact Nat.le_succ _
  · exact le_rfl
  · exact h.started.ge

/-- How many events of reads there are at most before the next read begins, where one is owed. -/
def distance (s : WifiMonitor) : ℕ := if 0 < s.posted then 1 else if s.ready ≠ [] then 2 else 3

lemma distance_le_of_requests {s s' : WifiMonitor} (h : Requests s s') : s'.distance ≤ s.distance := by
  rw [distance, distance, h.ready]
  have hposted := h.posted
  split_ifs <;> omega

/-- **A read that is owed.** An event begins it, or it is still owed and, after an event of a read, nearer
than before. -/
theorem step_owed {s s' : WifiMonitor} {e : Event} (hs : s.Inv) (howed : s.Owed)
    (h : s.step e = some s') :
    s.started < s'.started ∨
      s'.started = s.started ∧ s'.Owed ∧ s'.distance + e.isRead.toNat ≤ s.distance := by
  rcases step_cases hs h with ⟨hread, h⟩ | ⟨-, -, -, rfl⟩ | ⟨r, rfl, hreading, rfl⟩ |
    ⟨onReading, onSsid, r, ready, rfl, hready, h⟩
  · rw [hread]
    exact Or.inr ⟨h.started, howed.mono h.posted h.again, distance_le_of_requests h⟩
  · exact Or.inl (Nat.lt_succ_self _)
  · -- The read is the one in flight, so that nothing is posted either way.
    have hreads := hs.reads
    have hle : s.inFlight.toNat ≤ 1 := Bool.toNat_le _
    rw [WifiMonitor.reads, hreading] at hreads
    change s.posted + 1 + s.ready.length = _ at hreads
    have hposted : ¬ 0 < s.posted := by omega
    have hready : s.ready = [] := List.length_eq_zero_iff.1 (by omega)
    refine Or.inr ⟨rfl, howed, ?_⟩
    rw [distance, distance, if_neg hposted, if_neg hposted, hready, if_neg (not_not.2 rfl)]
    rfl
  · have hposted : ¬ 0 < s.posted := by rw [(hs.eq_of_ready hready).1]; exact lt_irrefl 0
    refine Or.inr ⟨h.started, Or.inl (h.owed howed), ?_⟩
    rw [distance, distance, if_pos (h.owed howed), if_neg hposted, hready,
      if_pos (List.cons_ne_nil _ _)]
    rfl

/-- Where a read is owed, an event of a read is possible. -/
lemma exists_step_of_owed {s : WifiMonitor} (hs : s.Inv) (howed : s.Owed) :
    ∃ e s', Event.isRead e = true ∧ s.step e = some s' := by
  cases hready : s.ready with
  | cons r ready => exact ⟨.readingReady [] [], _, rfl, by rw [step, hready]⟩
  | nil =>
    cases hreading : s.reading with
    | true => exact ⟨.readReturns {}, _, rfl, by rw [step, if_pos hreading]⟩
    | false =>
      have hreads := hs.reads
      rw [WifiMonitor.reads, hready, hreading] at hreads
      change s.posted + 0 + 0 = _ at hreads
      have hposted : 0 < s.posted := by
        rcases howed with h | h
        · exact h
        · rw [hs.again h] at hreads
          exact Nat.lt_of_lt_of_eq Nat.one_pos hreads.symm
      exact ⟨.readBegins, _, rfl, by rw [step, if_pos ⟨hposted, hreading⟩]⟩

/-! ### The networks of the readings -/

/-- The network of the last definite reading. -/
def lastSsid (readings : List WifiReading) : String :=
  ((readings.filterMap WifiReading.definite).getLast?).getD ""

/-- The texts of a list that are other than the one before, where `last` is the first of these. -/
def changes : (last : String) → List String → List String
  | _, [] => []
  | last, next :: texts => if next = last then changes last texts else next :: changes next texts

lemma changes_concat (last : String) (texts : List String) (next : String) :
    changes last (texts ++ [next]) =
      changes last texts ++ if next = (texts.getLast?).getD last then [] else [next] := by
  induction texts generalizing last with
  | nil => rfl
  | cons text texts ih =>
    have hlast : ((text :: texts).getLast?).getD last = (texts.getLast?).getD text := by
      rw [List.getLast?_cons]
      rfl
    rw [hlast, List.cons_append, changes, changes]
    split
    · next h => rw [ih, h]
    · rw [ih, List.cons_append]

/-- The network is known and every change of it has been told. -/
structure Told (s : WifiMonitor) : Prop where
  ssid : s.tracker.ssid = lastSsid s.completed
  cachedSsid : s.cachedSsid = lastSsid s.completed
  told : s.ssidsTold = changes "" (s.completed.filterMap WifiReading.definite)

lemma told_of_completed {s s' : WifiMonitor} {r : WifiReading} (hs : s.Told) (h : Completed s r s') :
    s'.Told := by
  have hlast : s'.tracker.ssid = lastSsid s'.completed ∧
      s'.ssidsTold = changes "" (s'.completed.filterMap WifiReading.definite) := by
    rw [h.tracker, h.told, h.completed, lastSsid, List.filterMap_append, List.filterMap_cons,
      List.filterMap_nil]
    cases hdefinite : r.definite with
    | none =>
      obtain ⟨hssid, hchanged⟩ := ChangeTracker.apply_indefinite (t := s.tracker) hdefinite
      rw [hssid, hchanged, if_neg Bool.false_ne_true, hs.ssid, hs.told]
      change _ = (List.getLast? (_ ++ [])).getD "" ∧ _ = changes "" (_ ++ [])
      rw [List.append_nil, List.append_nil]
      exact ⟨rfl, rfl⟩
    | some next =>
      obtain ⟨hssid, hnext, hchanged⟩ := ChangeTracker.apply_definite (t := s.tracker) hdefinite
      change _ = (List.getLast? (_ ++ [next])).getD "" ∧ _ = changes "" (_ ++ [next])
      rw [hs.ssid] at hchanged
      rw [hssid, hnext, hs.told, changes_concat, List.getLast?_concat]
      refine ⟨rfl, congrArg _ ?_⟩
      by_cases hsame : next = lastSsid s.completed
      · rw [if_neg (fun h => hchanged.1 h hsame)]
        exact (if_pos hsame).symm
      · rw [if_pos (hchanged.2 hsame)]
        exact (if_neg hsame).symm
  exact ⟨hlast.1, by rw [h.cachedSsid, ← h.tracker, hlast.1], hlast.2⟩

lemma told_of_requests {s s' : WifiMonitor} (hs : s.Told) (h : Requests s s') : s'.Told := by
  refine ⟨?_, ?_, ?_⟩
  · rw [h.tracker, h.completed, hs.ssid]
  · rw [h.cachedSsid, h.completed, hs.cachedSsid]
  · rw [ssidsTold, h.signals, h.completed, ← hs.told]
    rfl

/-- Every event keeps what is told. -/
theorem step_told {s s' : WifiMonitor} {e : Event} (hinv : s.Inv) (hs : s.Told)
    (h : s.step e = some s') : s'.Told := by
  rcases step_cases hinv h with ⟨-, h⟩ | ⟨-, -, -, rfl⟩ | ⟨r, -, -, rfl⟩ | ⟨-, -, r, -, -, -, h⟩
  · exact told_of_requests hs h
  · exact ⟨hs.ssid, hs.cachedSsid, hs.told⟩
  · exact ⟨hs.ssid, hs.cachedSsid, hs.told⟩
  · exact told_of_completed hs h

/-! ### Runs -/

/-- What every event keeps holds after a run. -/
lemma run_induction {P : WifiMonitor → Prop} (hstep : ∀ {s s' e}, P s → step s e = some s' → P s')
    {s s' : WifiMonitor} {events : List Event} (hs : P s) (h : s.run events = some s') : P s' := by
  induction events generalizing s with
  | nil => exact Option.some.inj h ▸ hs
  | cons e events ih =>
    obtain ⟨t, ht, h⟩ := Option.bind_eq_some_iff.1 h
    exact ih (hstep hs ht) h

lemma inv_start : Inv {} := ⟨rfl, fun h => absurd h Bool.false_ne_true, fun _ h => absurd h List.not_mem_nil⟩

lemma told_start : Told {} := ⟨rfl, rfl, rfl⟩

/-- A run keeps the invariant, and the reads that have begun. -/
lemma started_le_of_run {s s' : WifiMonitor} {events : List Event} (hs : s.Inv)
    (h : s.run events = some s') : s.started ≤ s'.started := by
  have hrun := run_induction (P := fun t => t.Inv ∧ s.started ≤ t.started)
    (fun ht hstep => ⟨step_inv ht.1 hstep, ht.2.trans (started_le_of_step ht.1 hstep)⟩) ⟨hs, le_rfl⟩ h
  exact hrun.2

/-- **A refresh has its read.** As long as no read has begun, one is owed, and three events of reads are
enough. -/
theorem run_owed {s s' : WifiMonitor} {events : List Event} (hs : s.Inv) (howed : s.Owed)
    (h : s.run events = some s') :
    s.started < s'.started ∨
      s'.started = s.started ∧ s'.Owed ∧ s'.distance + events.countP Event.isRead ≤ s.distance := by
  induction events generalizing s with
  | nil =>
    obtain rfl := Option.some.inj h
    exact Or.inr ⟨rfl, howed, le_rfl⟩
  | cons e events ih =>
    obtain ⟨t, ht, h⟩ := Option.bind_eq_some_iff.1 h
    have ht' := step_inv hs ht
    rcases step_owed hs howed ht with hbegun | ⟨hstarted, howed', hdistance⟩
    · exact Or.inl (hbegun.trans_le (started_le_of_run ht' h))
    · rw [← hstarted]
      refine (ih ht' howed' h).imp_right ?_
      rintro ⟨hsame, howed'', hdistance'⟩
      refine ⟨hsame, howed'', ?_⟩
      have hcount : (e :: events).countP Event.isRead = events.countP Event.isRead + e.isRead.toNat := by
        rw [List.countP_cons]
        cases e.isRead <;> rfl
      omega

/-- **Reads and notifications.** After every run at most one read is in flight. Every refresh, of the slots
too, is followed by a read that begins after it: while there is none a further event of a read is possible,
and after three of them it has begun. The networks that were told are the changes of those of the definite
readings, the first against none, and the last of these is the one that is known and cached.

A connection without a name is a definite reading: no network. -/
theorem run_reads {events : List Event} {s : WifiMonitor} (h : run {} events = some s) :
    s.reads ≤ 1 ∧
      (∀ n ∈ s.refreshes, ∀ later s', s.run later = some s' →
        (s'.started ≤ n → ∃ e s'', Event.isRead e = true ∧ s'.step e = some s'') ∧
          (3 ≤ later.countP Event.isRead → n < s'.started)) ∧
      s.ssidsTold = changes "" (s.completed.filterMap WifiReading.definite) ∧
      s.tracker.ssid = lastSsid s.completed ∧ s.cachedSsid = lastSsid s.completed := by
  obtain ⟨hinv, htold⟩ := run_induction (P := fun t => t.Inv ∧ t.Told)
    (fun ht hstep => ⟨step_inv ht.1 hstep, step_told ht.1 ht.2 hstep⟩) ⟨inv_start, told_start⟩ h
  refine ⟨hinv.reads.trans_le (Bool.toNat_le _), ?_, htold.told, htold.ssid, htold.cachedSsid⟩
  rintro n hn later s' hlater
  have hinv' : s'.Inv := run_induction step_inv hinv hlater
  rcases hinv.served n hn with hbegun | ⟨rfl, howed⟩
  · have hstarted := hbegun.trans_le (started_le_of_run hinv hlater)
    exact ⟨fun h => absurd h (not_le.2 hstarted), fun _ => hstarted⟩
  · rcases run_owed hinv howed hlater with hbegun | ⟨hstarted, howed', hdistance⟩
    · exact ⟨fun h => absurd h (not_le.2 hbegun), fun _ => hbegun⟩
    · refine ⟨fun _ => exists_step_of_owed hinv' howed', fun hcount => ?_⟩
      have hle : s.distance ≤ 3 := by
        rw [distance]
        split_ifs <;> omega
      have hpos : 0 < s'.distance := by
        rw [distance]
        split_ifs <;> omega
      omega

/-- A refresh while a read is in flight: another read begins after it, and the change is told. -/
theorem run_reads_coalesced :
    ∃ events s, run {} events = some s ∧ s.started = 2 ∧ s.refreshes = [0, 1] ∧ s.reads ≤ 1 ∧
      (∀ n ∈ s.refreshes, ∀ later s', s.run later = some s' →
        (s'.started ≤ n → ∃ e s'', Event.isRead e = true ∧ s'.step e = some s'') ∧
          (3 ≤ later.countP Event.isRead → n < s'.started)) ∧
      s.ssidsTold = ["home"] ∧ s.tracker.ssid = "home" ∧ s.cachedSsid = "home" := by
  let events : List Event :=
    [.call .refreshNow, .readBegins, .call .refreshNow, .readReturns (connected "home" "test"),
      .readingReady [] [], .readBegins]
  obtain ⟨s, h⟩ : ∃ s, run {} events = some s := Option.isSome_iff_exists.1 rfl
  obtain ⟨hreads, hserved, htold, hssid, hcached⟩ := run_reads h
  obtain rfl := Option.some.inj h
  exact ⟨events, _, rfl, rfl, rfl, hreads, hserved, htold.trans (by decide), hssid.trans rfl,
    hcached.trans rfl⟩

/-- **A connection without a name is a change.** A backend that says it is connected, with no name, after
a network with one: the change is told and cached. -/
theorem not_run_reads_of_name :
    ¬ ∀ events s, run {} events = some s →
      s.cachedSsid = (((s.completed.filterMap fun r =>
        match r.state with
        | .Connected => if r.ssid = "" then none else some r.ssid
        | .NotConnected => some ""
        | .PermissionNeeded | .Unavailable => none).getLast?).getD "") := by
  intro hall
  have h := hall
    [.call .refreshNow, .readBegins, .readReturns (connected "home" "test"), .readingReady [] [],
      .call .refreshNow, .readBegins, .readReturns (connected "" "test"), .readingReady [] []] _ rfl
  exact absurd h (by decide)

end WifiMonitor

end Proxor.Sys
