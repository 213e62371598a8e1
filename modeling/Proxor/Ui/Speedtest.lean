import Proxor.Db.ProfilePart

set_option relaxedAutoImplicit false
set_option autoImplicit false

/-!
# Latency tests and deleted profiles

A test takes the objects of its profiles when it starts. A result that arrives is written into the
object, which is then saved, and `SaveProfile` stores an object whose identifier it does not know.

## Main definitions

* `Proxor.Ui.Speedtest` — the store and the objects whose results are still to come.
* `Proxor.Ui.Speedtest.Event` — what the user does, a test that starts, a result that arrives.
* `Proxor.Ui.Speedtest.Finds` — a result that arrives finds its identifier stored.

## Main results

* `Proxor.Ui.Speedtest.stays_deleted_iff` — along every run whose results find their identifiers, what
  is deleted stays deleted and every row is that of the profile that is stored; the next event keeps
  it that way exactly if it finds its identifier as well.
* `Proxor.Ui.Speedtest.not_stays_deleted` — a run in which a deleted profile comes back.

## Design

A subscription update is a sequence of operations. A result can arrive between any two of them.
-/

namespace Proxor.Ui

open Db

variable {B : Type}

/-- What a worker writes into the profile before it saves it. -/
inductive TestResult where
  /-- The configuration could not be built. -/
  | notBuilt (error : String)
  | tested (error : String) (ms : ℤ) (full_report : String)

/-- The profile with the result. A latency of `0` would mean that it was not tested. -/
def TestResult.record (ent : ProxyEntity B) : TestResult → ProxyEntity B
  | .notBuilt error => { ent with full_test_report := error }
  | .tested error ms full_report =>
    { ent with
      latency := if error = "" then if ms = 0 then 1 else ms else -1
      full_test_report := full_report }

/-- The store and the objects whose results are still to come. -/
structure Speedtest (B : Type) where
  store : ProfileManager B
  inFlight : List Ref := []

namespace Speedtest

/-- What the user does, a test that starts, a result that arrives. -/
inductive Event (B : Type) where
  | user (op : Op B)
  | start (profiles : List Ref)
  | result (profile : Ref) (result : TestResult)

/-- An operation has its callers' promises, a test takes stored profiles, and a result is one that was
still to come. -/
def Allowed (t : Speedtest B) : Event B → Prop
  | .user op => op.Allowed t.store
  | .start profiles => ∀ p ∈ profiles, ∃ id, t.store.profiles.get? id = some p
  | .result p _ => p ∈ t.inFlight

/-- A result that arrives finds its identifier stored, for its own profile or another one. -/
def Finds (t : Speedtest B) : Event B → Prop
  | .result p _ => t.store.profiles.contains (t.store.objects p).id = true
  | _ => True

/-- An event. -/
def run [AbstractBean B] (t : Speedtest B) : Event B → Speedtest B
  | .user op => { t with store := op.run t.store }
  | .start profiles => { t with inFlight := t.inFlight ++ profiles }
  | .result p result =>
    { store := ProfileManager.saveProfile
        { t.store with
          objects := Function.update t.store.objects p (result.record (t.store.objects p)) } p
      inFlight := t.inFlight.erase p }

/-- The profiles and their rows agree, and every result still to come is that of a profile that was
stored. -/
structure Sane (R : Reading B) (t : Speedtest B) : Prop where
  agrees : t.store.part.Agrees R
  inFlight : ∀ p ∈ t.inFlight, p < t.store.next ∧ 0 ≤ (t.store.objects p).id

/-! ### A result -/

lemma record_id (ent : ProxyEntity B) (result : TestResult) : (result.record ent).id = ent.id := by
  cases result with
  | notBuilt error => rfl
  | tested error ms full_report => rfl

variable [AbstractBean B]

/-- A result whose identifier is stored is written into the object, and the row of the identifier is
written. -/
lemma part_result_of_stored (t : Speedtest B) {p q : Ref} (result : TestResult)
    (hpos : 0 ≤ (t.store.objects p).id)
    (hq : t.store.profiles.get? (t.store.objects p).id = some q) :
    (t.run (.result p result)).store.part =
      t.store.part.put p q (refreshed (result.record (t.store.objects p))) := by
  rw [← record_id (t.store.objects p) result] at hpos hq
  unfold run
  dsimp only
  rw [ProfileManager.part_saveProfile]
  exact ProfileManager.save_edited_of_stored t.store.part p q _ hpos hq

/-- A result whose identifier is not stored puts its object there. -/
lemma part_result_of_free (t : Speedtest B) {p : Ref} (result : TestResult)
    (hpos : 0 ≤ (t.store.objects p).id)
    (hfree : t.store.profiles.get? (t.store.objects p).id = none) :
    (t.run (.result p result)).store.part =
      t.store.part.store p (refreshed (result.record (t.store.objects p))) := by
  rw [← record_id (t.store.objects p) result] at hpos hfree
  unfold run
  dsimp only
  rw [ProfileManager.part_saveProfile]
  exact ProfileManager.save_edited_of_free t.store.part p _ hpos hfree

/-! ### Every event -/

variable {R : Reading B} {t : Speedtest B}

/-- An event keeps the identifiers of the objects. -/
lemma Sane.keeps (ht : Sane R t) {e : Event B} (he : t.Allowed e) {p : Ref} (hp : p < t.store.next) :
    p < (t.run e).store.next ∧ ((t.run e).store.objects p).id = (t.store.objects p).id := by
  cases e with
  | user op => exact (ProfileManager.part_run ht.agrees he).keeps ht.agrees hp
  | start profiles => exact ⟨hp, rfl⟩
  | result q result =>
    obtain ⟨-, hpos⟩ := ht.inFlight q he
    have hobj : (Function.update t.store.part.objects q
        (refreshed (result.record (t.store.objects q))) p).id = (t.store.objects p).id := by
      by_cases hpq : p = q
      · subst hpq
        rw [Function.update_self]
        exact record_id (t.store.objects p) result
      · rw [Function.update_of_ne hpq]
        rfl
    have hpart : p < (t.run (.result q result)).store.part.next ∧
        ((t.run (.result q result)).store.part.objects p).id = (t.store.objects p).id := by
      cases hq : t.store.profiles.get? (t.store.objects q).id with
      | some r =>
        rw [part_result_of_stored t result hpos hq]
        exact ⟨hp, hobj⟩
      | none =>
        rw [part_result_of_free t result hpos hq]
        exact ⟨hp, hobj⟩
    exact hpart

/-- An event keeps the agreement.

**Proof sketch.** An operation is a step of the profiles. A result that finds its identifier changes an
object and writes the row of the profile that is stored; one that does not stores the object under its
own identifier, where there was none. -/
lemma Sane.agrees_run (ht : Sane R t) {e : Event B} (he : t.Allowed e) :
    (t.run e).store.part.Agrees R := by
  cases e with
  | user op => exact ht.agrees.step (ProfileManager.part_run ht.agrees he)
  | start profiles => exact ht.agrees
  | result p result =>
    obtain ⟨hlt, hpos⟩ := ht.inFlight p he
    have hrec := record_id (t.store.objects p) result
    have hown : ∀ id, t.store.profiles.get? id = some p → (t.store.objects p).id = id :=
      fun id h => (ht.agrees.profile id p h).1
    cases hq : t.store.profiles.get? (t.store.objects p).id with
    | some q =>
      rw [part_result_of_stored t result hpos hq]
      exact ht.agrees.put (hrec.symm ▸ hq) fun id h => hrec.trans (hown id h)
    | none =>
      rw [part_result_of_free t result hpos hq]
      refine ht.agrees.store (hrec.symm ▸ hpos) hlt fun id h => ?_
      have hid := hown id h
      subst hid
      exact absurd (hq.symm.trans h) (by simp)

/-- Every event keeps the state sane. -/
lemma Sane.run (ht : Sane R t) {e : Event B} (he : t.Allowed e) : Sane R (t.run e) := by
  have hold : ∀ p ∈ t.inFlight, p < (t.run e).store.next ∧ 0 ≤ ((t.run e).store.objects p).id := by
    intro p hp
    obtain ⟨hlt, hpos⟩ := ht.inFlight p hp
    obtain ⟨hlt', hid⟩ := ht.keeps he hlt
    exact ⟨hlt', hpos.trans_eq hid.symm⟩
  refine ⟨ht.agrees_run he, fun p hp => ?_⟩
  cases e with
  | user op => exact hold p hp
  | start profiles =>
    rcases List.mem_append.1 hp with hp | hp
    · exact hold p hp
    · obtain ⟨id, hid⟩ := he p hp
      obtain ⟨heq, hpos, hlt⟩ := ht.agrees.profile id p hid
      exact ⟨hlt, hpos.trans_eq heq.symm⟩
  | result q result => exact hold p (List.mem_of_mem_erase hp)

/-- An event that finds its identifier brings nothing back.

**Proof sketch.** Only the object and the row of the identifier change, and the map does not. -/
lemma gone_run (ht : Sane R t) {e : Event B} (he : t.Allowed e) (hfinds : t.Finds e) {p : Ref}
    (hp : t.store.part.Gone p) : (t.run e).store.part.Gone p := by
  cases e with
  | user op => exact hp.step (ProfileManager.part_run ht.agrees he)
  | start profiles => exact hp
  | result q result =>
    obtain ⟨r, hr⟩ := Option.isSome_iff_exists.1 hfinds
    rw [part_result_of_stored t result (ht.inFlight q he).2 hr]
    exact hp

/-- An event that does not find its identifier brings a deleted profile back. -/
lemma not_gone_run (ht : Sane R t) {e : Event B} (he : t.Allowed e) (hfinds : ¬ t.Finds e) :
    ∃ p, t.store.part.Gone p ∧ ¬ (t.run e).store.part.Gone p := by
  cases e with
  | user op => exact absurd trivial hfinds
  | start profiles => exact absurd trivial hfinds
  | result p result =>
    obtain ⟨hlt, hpos⟩ := ht.inFlight p he
    have hfree : t.store.profiles.get? (t.store.objects p).id = none := by
      rw [Finds, OrdMap.contains, Bool.not_eq_true, Option.isSome_eq_false_iff,
        Option.isNone_iff_eq_none] at hfinds
      exact hfinds
    refine ⟨p, ⟨hlt, fun id h => ?_⟩, fun hgone => ?_⟩
    · have hid := (ht.agrees.profile id p h).1
      have hfree' : t.store.part.stored.get? (t.store.part.objects p).id = none := hfree
      rw [hid] at hfree'
      exact absurd (hfree'.symm.trans h) (by simp)
    · refine hgone.2 (result.record (t.store.objects p)).id ?_
      rw [part_result_of_free t result hpos hfree]
      exact OrdMap.get?_insert_self ..

/-- What an event removed from the map is gone. -/
lemma gone_of_removed (ht : Sane R t) {e : Event B} (he : t.Allowed e) {id : ℤ} {p : Ref}
    (hp : t.store.profiles.get? id = some p)
    (hremoved : (t.run e).store.profiles.get? id ≠ some p) : (t.run e).store.part.Gone p := by
  obtain ⟨hid, -, hlt⟩ := ht.agrees.profile id p hp
  obtain ⟨hlt', hid'⟩ := ht.keeps he hlt
  refine ⟨hlt', fun x hx => hremoved ?_⟩
  have hx' := ((ht.run he).agrees.profile x p hx).1
  have heq : x = id := hx'.symm.trans (hid'.trans hid)
  exact heq ▸ hx

/-! ### Every run -/

/-- Events one after the other, on a store that was just loaded. -/
def runAll (s : ProfileManager B) (events : List (Event B)) : Speedtest B :=
  events.foldl run { store := s.loadManager }

/-- Once an event has removed a profile from the store, the profile is not stored at the end. -/
def StaysDeleted (s : ProfileManager B) (events : List (Event B)) : Prop :=
  ∀ (before after : List (Event B)) (e : Event B), events = before ++ e :: after →
    ∀ (id : ℤ) (p : Ref), (runAll s before).store.profiles.get? id = some p →
      (runAll s (before ++ [e])).store.profiles.get? id ≠ some p →
        ∀ x, (runAll s events).store.profiles.get? x ≠ some p

/-- Every row is that of the profile that is stored under its identifier. -/
def RowsOfStored (t : Speedtest B) : Prop :=
  (∀ (id : ℤ) (p : Ref), t.store.profiles.get? id = some p →
    ∃ row, t.store.db.profiles.get? id = some row ∧
      Reading.reads.profile row (t.store.objects p)) ∧
  ∀ id, t.store.profiles.get? id = none → t.store.db.profiles.get? id = none

/-- A store that was just loaded is sane. -/
lemma sane_loadManager (s : ProfileManager B) (hdb : s.db.Sound)
    (hflag : s.dataStore.flag_reorder = false) :
    Sane .reads ({ store := s.loadManager } : Speedtest B) := by
  refine ⟨?_, fun p hp => absurd hp List.not_mem_nil⟩
  rw [loadManager_of_plain hflag]
  exact (consistent_loadStored s hdb).agrees

/-- **What is deleted stays deleted.** From a loaded store, as long as every result finds its identifier
stored, a profile that an event removed from the store is not stored again, and every row is that of
the profile that is stored under its identifier. The next event keeps it that way, for every profile
that is gone, exactly if it finds its identifier as well.

**Proof sketch.** Every event keeps the agreement of the profiles with their rows; one that finds its
identifier does not change the map, so nothing that is gone is stored again. One that does not stores
its object, which was gone. -/
theorem stays_deleted_iff (s : ProfileManager B) (hdb : s.db.Sound)
    (hflag : s.dataStore.flag_reorder = false) (events : List (Event B))
    (hevents : Each run (fun t e => t.Allowed e ∧ t.Finds e) { store := s.loadManager } events) :
    StaysDeleted s events ∧ RowsOfStored (runAll s events) ∧ ∀ e : Event B, (runAll s events).Allowed e →
      ((∀ p, (runAll s events).store.part.Gone p →
        ((runAll s events).run e).store.part.Gone p) ↔ (runAll s events).Finds e) := by
  have hstart := sane_loadManager s hdb hflag
  have hsane : Sane .reads (runAll s events) :=
    hevents.invariant (fun t e ht h => ht.run h.1) hstart
  refine ⟨?_, ⟨hsane.agrees.row, hsane.agrees.noRow⟩,
    fun e he => ⟨fun hgone => ?_, fun hfinds p hp => ?_⟩⟩
  · rintro before after e rfl id p hp hremoved x
    obtain ⟨hbefore, ⟨⟨he, -⟩, hafter⟩⟩ := Each.append.1 hevents
    have hsane₀ : Sane .reads (runAll s before) :=
      hbefore.invariant (fun t e ht h => ht.run h.1) hstart
    have hstep : runAll s (before ++ [e]) = (runAll s before).run e := by
      rw [runAll, List.foldl_append]
      rfl
    have hgone := gone_of_removed hsane₀ he hp (hstep ▸ hremoved)
    have hend := hafter.invariant (I := fun t => Sane .reads t ∧ t.store.part.Gone p)
      (fun t e ht h => ⟨ht.1.run h.1, gone_run ht.1 h.1 h.2 ht.2⟩) ⟨hsane₀.run he, hgone⟩
    have hall : runAll s (before ++ e :: after) = after.foldl run ((runAll s before).run e) := by
      rw [runAll, List.foldl_append]
      rfl
    rw [hall]
    exact hend.2.2 x
  · by_contra hfinds
    obtain ⟨p, hp, hback⟩ := not_gone_run hsane he hfinds
    exact hback (hgone p hp)
  · exact gone_run hsane he hfinds hp

/-! ### A run -/

/-- A profile is added, a test of it starts, and it is deleted. -/
def deletedInTest : List (Event Fmt.ChainBean) :=
  [.user (.addProfile { type := "chain", bean := {} } (-1)), .start [0], .user (.deleteProfile 0)]

/-- The result arrives, and the profile is back. -/
theorem not_stays_deleted :
    ¬ ∀ (s : ProfileManager Fmt.ChainBean), s.db.Sound → s.dataStore.flag_reorder = false →
      ∀ events : List (Event Fmt.ChainBean), Each run Allowed { store := s.loadManager } events →
        StaysDeleted s events := by
  intro h
  refine h freshStore sound_freshStore rfl
    [.user (.addProfile { type := "chain", bean := {} } (-1)), .start [0], .user (.deleteProfile 0),
      .result 0 (.tested "" 25 "")] ⟨trivial, ?_, trivial, List.mem_singleton_self _, trivial⟩
    [.user (.addProfile { type := "chain", bean := {} } (-1)), .start [0]]
    [.result 0 (.tested "" 25 "")] (.user (.deleteProfile 0)) rfl 0 0 ?_ ?_ 0 ?_
  · exact fun p hp => ⟨0, by rw [List.mem_singleton.1 hp]; decide⟩
  · decide
  · decide
  · decide

lemma deletedInTest_finds :
    Each run (fun t e => t.Allowed e ∧ t.Finds e) { store := freshStore.loadManager }
      deletedInTest :=
  ⟨⟨trivial, trivial⟩, ⟨fun p hp => ⟨0, by rw [List.mem_singleton.1 hp]; decide⟩, trivial⟩,
    ⟨trivial, trivial⟩, trivial⟩

/-- Before the result arrives the profile is deleted. -/
theorem stays_deleted_iff_deletedInTest :
    StaysDeleted freshStore deletedInTest ∧ RowsOfStored (runAll freshStore deletedInTest) ∧
      ∀ e : Event Fmt.ChainBean, (runAll freshStore deletedInTest).Allowed e →
        ((∀ p, (runAll freshStore deletedInTest).store.part.Gone p →
          ((runAll freshStore deletedInTest).run e).store.part.Gone p) ↔
            (runAll freshStore deletedInTest).Finds e) :=
  stays_deleted_iff freshStore sound_freshStore rfl deletedInTest deletedInTest_finds

end Speedtest

end Proxor.Ui
