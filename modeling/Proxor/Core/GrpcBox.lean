import Mathlib.Data.Finset.Basic
import Mathlib.Data.Finset.Option
import Proxor.Lib.Text

set_option relaxedAutoImplicit false
set_option autoImplicit false

/-!
# The core's instance: `Start` and `Stop`

The core keeps its running sing-box instance in two globals, the instance and the function that
cancels its context. `Start` fills them, retrying when a leftover Tun address makes the creation
fail, and `Stop` empties them. The deferred function of `Start` clears the instance on every
error, also when the error is that an instance is running.

## Main definitions

* `Proxor.Core.State` — the globals, and which instances are open.
* `Proxor.Core.createWithOptions`, `Proxor.Core.start`, `Proxor.Core.stop` — the code.
* `Proxor.Core.Book` — the bookkeeping: the open instances are those the globals know.

## Main results

* `Proxor.Core.book_start`, `Proxor.Core.book_stop` — a call that finds no instance, and a stop, keep
  the bookkeeping.
* `Proxor.Core.kept_iff` — a run keeps the bookkeeping exactly when every `Start` of it finds no
  instance.
-/

namespace Proxor.Core

open Text

/-! ### The code -/

/-- What becomes of one attempt to create an instance: the configuration does not decode, the
instance cannot be built, it cannot be started, or it runs. -/
inductive Attempt
  | decodeFails (msg : String)
  | newFails (msg : String)
  | startFails (msg : String)
  | runs

/-- The globals `instance` and `instance_cancel`, the instances that are open, those whose context is
cancelled, and the number of instances built so far. -/
structure State where
  boxInstance : Option ℕ := none
  instanceCancel : Option ℕ := none
  openInstances : Finset ℕ := ∅
  cancelled : Finset ℕ := ∅
  built : ℕ := 0

/-- `boxmain.Create`: an instance that could be built but not started is cancelled and closed. -/
def createWithOptions (attempt : Attempt) (s : State) :
    (Option ℕ × Option ℕ × Option String) × State :=
  match attempt with
  | .decodeFails msg => ((none, none, some ("decode config: " ++ msg)), s)
  | .newFails msg => ((none, none, some ("create service: " ++ msg)), s)
  | .startFails msg =>
    ((none, none, some ("start service: " ++ msg)), {
      s with
      built := s.built + 1
      cancelled := insert s.built s.cancelled
      openInstances := (insert s.built s.openInstances).erase s.built })
  | .runs =>
    ((some s.built, some s.built, none),
      { s with built := s.built + 1, openInstances := insert s.built s.openInstances })

/-- Assign what `boxmain.Create` returns to the globals; the error is left. -/
def create (attempt : Attempt) (s : State) : Option String × State :=
  let r := createWithOptions attempt s
  (r.1.2.2, { r.2 with boxInstance := r.1.1, instanceCancel := r.1.2.1 })

/-- `strings.ToLower` as far as ASCII text in its result goes: two other letters become ASCII. -/
def toLower (s : String) : String :=
  String.ofList <| s.toList.map fun c =>
    if c = 'İ' then 'i' else if c = '\u212A' then 'k' else c.toLower

/-- A leftover adapter still holds the Tun address. -/
def isTunAddressConflict (err : String) : Bool :=
  contains (toLower err) "already exists" && contains (toLower err) "address"

/-- Close the instance, if there is one, and forget it. -/
def closeInstance (s : State) : State :=
  match s.boxInstance with
  | none => s
  | some i => { s with openInstances := s.openInstances.erase i, boxInstance := none }

/-- The retry loop: `left` attempts remain, the next of which is number `attempt`. -/
def retry (attempts : ℕ → Attempt) : ℕ → ℕ → Option String → State → Option String × State
  | 0, _, err, s => (err, s)
  | left + 1, attempt, err, s =>
    if err.any isTunAddressConflict then
      let r := create (attempts attempt) (closeInstance s)
      retry attempts left (attempt + 1) r.1 r.2
    else (err, s)

/-- The deferred function of `Start`: an error clears the instance. -/
def deferred (r : Option String × State) : Option String × State :=
  match r.1 with
  | some err => (some err, { r.2 with boxInstance := none })
  | none => r

/-- `Start`, with what becomes of the attempts it makes. -/
def start (attempts : ℕ → Attempt) (s : State) : Option String × State :=
  deferred <|
    if s.boxInstance.isSome then (some "instance already started", s)
    else
      let r := create (attempts 0) s
      retry attempts 3 1 r.1 r.2

/-- `Stop`. It calls the cancel function only when there is an instance, and then there is one
(`Book.cancel`). -/
def stop (s : State) : State :=
  match s.boxInstance with
  | none => s
  | some i =>
    { s with
      cancelled := s.cancelled ∪ s.instanceCancel.toFinset
      openInstances := s.openInstances.erase i
      boxInstance := none }

/-! ### The bookkeeping -/

/-- The open instances are exactly the one the globals know, if any, and the cancel function is its
own. -/
structure Book (s : State) : Prop where
  open_eq : s.openInstances = s.boxInstance.toFinset
  cancel : ∀ i, s.boxInstance = some i → s.instanceCancel = some i

/-- What an attempt does to the globals when nothing is open. -/
lemma book_create {s : State} (hopen : s.openInstances = ∅) (attempt : Attempt) :
    Book (create attempt s).2 ∧
      ((create attempt s).1.isSome → (create attempt s).2.boxInstance = none) := by
  cases attempt with
  | decodeFails msg => exact ⟨⟨hopen, by simp [create, createWithOptions]⟩, fun _ => rfl⟩
  | newFails msg => exact ⟨⟨hopen, by simp [create, createWithOptions]⟩, fun _ => rfl⟩
  | startFails msg =>
    refine ⟨⟨?_, by simp [create, createWithOptions]⟩, fun _ => rfl⟩
    simp [create, createWithOptions, hopen]
  | runs =>
    refine ⟨⟨?_, by simp [create, createWithOptions]⟩, by simp [create, createWithOptions]⟩
    simp [create, createWithOptions, hopen]

/-- The retry loop keeps the bookkeeping, and an error leaves no instance. -/
lemma book_retry (attempts : ℕ → Attempt) (left attempt : ℕ) {err : Option String} {s : State}
    (hs : Book s) (herr : err.isSome → s.boxInstance = none) :
    Book (retry attempts left attempt err s).2 ∧
      ((retry attempts left attempt err s).1.isSome →
        (retry attempts left attempt err s).2.boxInstance = none) := by
  induction left generalizing attempt err s with
  | zero => exact ⟨hs, herr⟩
  | succ left ih =>
    rw [retry]
    split
    · rename_i hconflict
      have hnone : s.boxInstance = none := herr (by cases err <;> simp_all)
      have hclose : closeInstance s = s := by rw [closeInstance, hnone]
      have hopen : s.openInstances = ∅ := by rw [hs.open_eq, hnone]; rfl
      rw [hclose]
      obtain ⟨hbook, hr⟩ := book_create hopen (attempts attempt)
      exact ih (attempt + 1) hbook hr
    · exact ⟨hs, herr⟩

/-- **A `Start` that finds no instance** keeps the bookkeeping. -/
theorem book_start {s : State} (hs : Book s) (hidle : s.boxInstance = none)
    (attempts : ℕ → Attempt) : Book (start attempts s).2 := by
  have hopen : s.openInstances = ∅ := by rw [hs.open_eq, hidle]; rfl
  obtain ⟨hbook, herr⟩ := book_create hopen (attempts 0)
  obtain ⟨hbook, herr⟩ := book_retry attempts 3 1 hbook herr
  unfold start deferred
  rw [hidle, Option.isSome_none, if_neg (by simp)]
  dsimp only
  split
  · rename_i e he
    have hnone := herr (by rw [he]; rfl)
    exact ⟨by rw [hbook.open_eq, hnone], by simp⟩
  · exact hbook

/-- **A `Stop`** keeps the bookkeeping and leaves nothing open. -/
theorem book_stop {s : State} (hs : Book s) : Book (stop s) ∧ (stop s).openInstances = ∅ := by
  unfold stop
  cases hi : s.boxInstance with
  | none =>
    have hopen : s.openInstances = ∅ := by rw [hs.open_eq, hi]; rfl
    exact ⟨hs, hopen⟩
  | some i =>
    have hopen : s.openInstances.erase i = ∅ := by rw [hs.open_eq, hi]; simp
    exact ⟨⟨hopen, by simp⟩, hopen⟩

/-- **A `Start` while an instance runs** forgets it: it stays open, and the globals have none. -/
lemma start_of_running {s : State} {i : ℕ} (hi : s.boxInstance = some i)
    (attempts : ℕ → Attempt) :
    start attempts s = (some "instance already started", { s with boxInstance := none }) := by
  simp [start, deferred, hi]

/-! ### Runs -/

/-- A call of the core. -/
inductive Call
  | start (attempts : ℕ → Attempt)
  | stop

namespace Call

/-- The state after the call. -/
def step : Call → State → State
  | start attempts, s => (Core.start attempts s).2
  | stop, s => Core.stop s

/-- The error the call returns. -/
def error : Call → State → Option String
  | start attempts, s => (Core.start attempts s).1
  | stop, _ => none

/-- A `Start` finds no instance. -/
def Idle : Call → State → Prop
  | start _, s => s.boxInstance = none
  | stop, _ => True

end Call

/-- A call keeps the bookkeeping; and when it returns an error, an instance that was running is
still current, with its cancel function, and the next `Stop` closes it. -/
structure KeptBy (c : Call) (s : State) : Prop where
  book : Book (c.step s)
  current : c.error s ≠ none → ∀ i, s.boxInstance = some i →
    (c.step s).boxInstance = some i ∧ (c.step s).instanceCancel = some i ∧
      i ∉ (stop (c.step s)).openInstances

/-- Every call of a run keeps the bookkeeping. -/
def Kept : List Call → State → Prop
  | [], _ => True
  | c :: calls, s => KeptBy c s ∧ Kept calls (c.step s)

/-- Every `Start` of a run finds no instance. -/
def StartsIdle : List Call → State → Prop
  | [], _ => True
  | c :: calls, s => c.Idle s ∧ StartsIdle calls (c.step s)

/-- One call keeps the bookkeeping exactly when it is not a `Start` that finds an instance. -/
lemma keptBy_iff {c : Call} {s : State} (hs : Book s) : KeptBy c s ↔ c.Idle s := by
  cases c with
  | stop => exact ⟨fun _ => trivial, fun _ => ⟨(book_stop hs).1, fun h => absurd rfl h⟩⟩
  | start attempts =>
    constructor
    · intro h
      by_contra hbusy
      obtain ⟨i, hi⟩ := Option.ne_none_iff_exists'.1 hbusy
      -- the instance is still open, but the globals have none
      have hopen := h.book.open_eq
      rw [Call.step, start_of_running hi] at hopen
      dsimp only at hopen
      rw [hs.open_eq, hi] at hopen
      exact absurd hopen (by simp)
    · intro hidle
      have hidle : s.boxInstance = none := hidle
      refine ⟨book_start hs hidle attempts, fun _ i hi => ?_⟩
      rw [hidle] at hi
      exact absurd hi (by simp)

/-- A run from good bookkeeping. -/
lemma kept_iff_of_book (calls : List Call) {s : State} (hs : Book s) :
    Kept calls s ↔ StartsIdle calls s := by
  induction calls generalizing s with
  | nil => rfl
  | cons c calls ih =>
    constructor
    · rintro ⟨hc, hcalls⟩
      exact ⟨(keptBy_iff hs).1 hc, (ih hc.book).1 hcalls⟩
    · rintro ⟨hc, hcalls⟩
      have hc := (keptBy_iff hs).2 hc
      exact ⟨hc, (ih hc.book).2 hcalls⟩

/-- **Instance bookkeeping.** Whatever becomes of the attempts to create an instance, a run of the
core keeps the bookkeeping in every call if and only if every `Start` in it is called while no
instance is running.

**Proof sketch.** Induction on the run. A `Start` that finds no instance keeps the bookkeeping, the
retry loop included, and so does a `Stop`; a `Start` that finds one leaves it open and unknown. -/
theorem kept_iff (calls : List Call) : Kept calls {} ↔ StartsIdle calls {} :=
  kept_iff_of_book calls ⟨rfl, by simp⟩

/-- The second `Start` of two forgets the instance of the first. -/
theorem start_forgets_instance : ¬ Kept [.start fun _ => .runs, .start fun _ => .runs] {} := by
  intro h
  have hopen := h.2.1.book.open_eq
  revert hopen
  decide

end Proxor.Core
