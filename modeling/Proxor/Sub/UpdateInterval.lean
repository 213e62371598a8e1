import Proxor.Db.ConfigBuilder
import Proxor.Sub.GroupUpdater

set_option relaxedAutoImplicit false
set_option autoImplicit false

/-!
# When a subscription is updated by itself

A server says in a header after how many hours the subscription should be updated. The minutes are stored with
the group, and a timer compares them with the time since the last update.

## Main definitions

* `Proxor.Sub.parseAutoUpdateIntervalHeader` — the minutes of a header.
* `Proxor.Sub.groupAutoUpdateIntervalMinutes`, `Proxor.Sub.shouldAutoUpdateGroupOnTimer` — whether a group is due.
* `Proxor.Sub.StoredGroup`, `Proxor.Sub.UnixTime` — numbers that fit in their types.
* `Proxor.Sub.Recorded`, `Proxor.Sub.Due` — what should be recorded, and when a group should be due.

## Main results

* `Proxor.Sub.due_shouldAutoUpdate` — a group is due when it should be.
* `Proxor.Sub.recorded_and_due_iff` — which headers are recorded as they should be.
* `Proxor.Sub.not_recorded_and_due` — a number of hours that makes the minutes negative.
-/

namespace Proxor.Sub

open Db

/-! ### The source -/

/-- The value of an arithmetic operation on `int`, of which 32 bits are kept. -/
def int (n : ℤ) : ℤ := n.bmod (2 ^ 32)

/-- The value of an arithmetic operation on `qint64`. -/
def qint64 (n : ℤ) : ℤ := n.bmod (2 ^ 64)

/-- `kMinimumGlobalAutoUpdateMinutes`. -/
def kMinimumGlobalAutoUpdateMinutes : ℤ := 30

/-- `NormalizeGlobalAutoUpdateInterval`. -/
def normalizeGlobalAutoUpdateInterval (minutes : ℤ) : ℤ :=
  if kMinimumGlobalAutoUpdateMinutes ≤ minutes then minutes else 0

/-- `ParseAutoUpdateIntervalHeader`. -/
def parseAutoUpdateIntervalHeader (header : String) : ℤ :=
  match parseInt header with
  | some interval => if 0 < interval then int (interval * 60) else 0
  | none => 0

/-- `CanAutoUpdateGroup`. -/
def canAutoUpdateGroup (group : Option Group) : Bool :=
  group.any fun group => group.url != "" && !group.archive && !group.skip_auto_update

/-- `GlobalAutoUpdateIntervalMinutes`, for the setting `sub_auto_update`. -/
def globalAutoUpdateIntervalMinutes (sub_auto_update : ℤ) : ℤ :=
  normalizeGlobalAutoUpdateInterval (int |sub_auto_update|)

/-- `GroupAutoUpdateIntervalMinutes`. -/
def groupAutoUpdateIntervalMinutes (sub_auto_update : ℤ) (group : Option Group) : ℤ :=
  match group with
  | none => 0
  | some g =>
    if canAutoUpdateGroup group = false then 0
    else
      let specificInterval := if 0 < g.sub_update_interval then g.sub_update_interval else 0
      if 0 < specificInterval then specificInterval else globalAutoUpdateIntervalMinutes sub_auto_update

/-- `IsGroupUpdateDue`. -/
def isGroupUpdateDue (now : ℤ) (group : Option Group) (intervalMinutes : ℤ) : Bool :=
  match group with
  | none => false
  | some g =>
    if canAutoUpdateGroup group = false ∨ intervalMinutes ≤ 0 then false
    else if g.sub_last_update ≤ 0 then true
    else decide (qint64 (intervalMinutes * 60) ≤ qint64 (now - g.sub_last_update))

/-- `ShouldAutoUpdateGroupOnTimer`. -/
def shouldAutoUpdateGroupOnTimer (now sub_auto_update : ℤ) (group : Option Group) : Bool :=
  isGroupUpdateDue now group (groupAutoUpdateIntervalMinutes sub_auto_update group)

/-! ### Numbers of their types -/

/-- A group whose numbers fit in their types: an interval is an `int`, and a time is a `qint64`. -/
structure StoredGroup extends Group where
  interval_int : -2 ^ 31 ≤ sub_update_interval ∧ sub_update_interval < 2 ^ 31
  last_qint64 : -2 ^ 63 ≤ sub_last_update ∧ sub_last_update < 2 ^ 63

/-- The time of a clock that is not before the first second of 1970. -/
structure UnixTime where
  secs : ℤ
  fits : 0 ≤ secs ∧ secs < 2 ^ 63

lemma int_eq_iff {n : ℤ} : int n = n ↔ -2 ^ 31 ≤ n ∧ n < 2 ^ 31 := by
  constructor
  · rintro h
    have hlow := Int.le_bmod (x := n) (m := 2 ^ 32) (by decide)
    have hhigh := Int.bmod_lt (x := n) (m := 2 ^ 32) (by decide)
    rw [int] at h
    rw [h] at hlow hhigh
    norm_num at hlow hhigh
    omega
  · rintro ⟨hlow, hhigh⟩
    exact Int.bmod_eq_of_le (by norm_num; omega) (by norm_num; omega)

lemma qint64_of_fits {n : ℤ} (h : -2 ^ 63 ≤ n ∧ n < 2 ^ 63) : qint64 n = n :=
  Int.bmod_eq_of_le (by norm_num; omega) (by norm_num; omega)

/-- What is recorded fits in an `int`. -/
lemma parseAutoUpdateIntervalHeader_fits (header : String) :
    -2 ^ 31 ≤ parseAutoUpdateIntervalHeader header ∧ parseAutoUpdateIntervalHeader header < 2 ^ 31 := by
  have hint : ∀ n, -2 ^ 31 ≤ int n ∧ int n < 2 ^ 31 := fun n =>
    int_eq_iff.1 (Int.bmod_bmod ..)
  rw [parseAutoUpdateIntervalHeader]
  split
  · split
    · exact hint _
    · decide
  · decide

/-- A group with the interval of a header, if it may be updated by itself. -/
def StoredGroup.record (group : StoredGroup) (header : String) : StoredGroup :=
  { group with
    toGroup := ({ intervalMinutes := parseAutoUpdateIntervalHeader header } : Headers).apply group.toGroup
    interval_int := by
      rw [Headers.apply]
      split
      · exact group.interval_int
      · exact parseAutoUpdateIntervalHeader_fits header
    last_qint64 := by
      rw [Headers.apply]
      split <;> exact group.last_qint64 }

/-- The settings as they are read: `sub_auto_update` is an `int`. -/
lemma globalAutoUpdateIntervalMinutes_fits (sub_auto_update : ℤ) :
    0 ≤ globalAutoUpdateIntervalMinutes sub_auto_update ∧ globalAutoUpdateIntervalMinutes sub_auto_update < 2 ^ 31 := by
  have hint : int |sub_auto_update| < 2 ^ 31 := (int_eq_iff.1 (Int.bmod_bmod ..)).2
  rw [globalAutoUpdateIntervalMinutes, normalizeGlobalAutoUpdateInterval, kMinimumGlobalAutoUpdateMinutes]
  split
  · omega
  · decide

/-! ### What should be -/

/-- The interval of a header: sixty times a positive number of hours, and nothing for another header. It is never
negative. -/
structure Recorded (header : String) (minutes : ℤ) : Prop where
  hours : ∀ hours, parseInt header = some hours → 0 < hours → minutes = 60 * hours
  other : (∀ hours, parseInt header = some hours → hours ≤ 0) → minutes = 0
  nonneg : 0 ≤ minutes

/-- The interval of a group: its own if it is positive, and else the global one. -/
def effectiveInterval (sub_auto_update : ℤ) (group : Group) : ℤ :=
  if 0 < group.sub_update_interval then group.sub_update_interval
  else globalAutoUpdateIntervalMinutes sub_auto_update

/-- A group should be updated: it may be, it has an interval, and the interval is over or there was no update. -/
structure Due (now sub_auto_update : ℤ) (group : Group) : Prop where
  allowed : canAutoUpdateGroup (some group) = true
  positive : 0 < effectiveInterval sub_auto_update group
  elapsed : group.sub_last_update ≤ 0 ∨
    effectiveInterval sub_auto_update group * 60 ≤ now - group.sub_last_update

/-! ### The two laws -/

/-- The interval of a group that may be updated by itself is the effective one. -/
lemma groupAutoUpdateIntervalMinutes_eq (sub_auto_update : ℤ) {group : Group}
    (h : canAutoUpdateGroup (some group) = true) :
    groupAutoUpdateIntervalMinutes sub_auto_update (some group) = effectiveInterval sub_auto_update group := by
  rw [groupAutoUpdateIntervalMinutes, if_neg (by rw [h]; decide), effectiveInterval]
  by_cases hown : 0 < group.sub_update_interval
  · simp only [if_pos hown]
  · simp only [if_neg hown, lt_irrefl, if_false]

/-- **A group is due when it should be**: no number is outside of its type.

**Proof sketch.** The seconds of an interval are less than `2 ^ 37`, and the time since the last update is that
between two numbers that are not negative. -/
theorem due_shouldAutoUpdate (now : UnixTime) (sub_auto_update : ℤ) (group : StoredGroup) :
    shouldAutoUpdateGroupOnTimer now.secs sub_auto_update (some group.toGroup) = true ↔
      Due now.secs sub_auto_update group.toGroup := by
  obtain ⟨hnow, hnow'⟩ := now.fits
  obtain ⟨hlast, hlast'⟩ := group.last_qint64
  rw [shouldAutoUpdateGroupOnTimer]
  by_cases hallowed : canAutoUpdateGroup (some group.toGroup) = true
  · rw [groupAutoUpdateIntervalMinutes_eq sub_auto_update hallowed, isGroupUpdateDue]
    have hsmall : effectiveInterval sub_auto_update group.toGroup < 2 ^ 31 := by
      rw [effectiveInterval]
      split
      · exact group.interval_int.2
      · exact (globalAutoUpdateIntervalMinutes_fits sub_auto_update).2
    by_cases hpositive : 0 < effectiveInterval sub_auto_update group.toGroup
    · rw [if_neg (by rw [hallowed, not_or, not_le]; exact ⟨by decide, hpositive⟩)]
      by_cases hnone : group.sub_last_update ≤ 0
      · rw [if_pos hnone]
        exact ⟨fun _ => ⟨hallowed, hpositive, Or.inl hnone⟩, fun _ => rfl⟩
      · have hseconds := qint64_of_fits (n := effectiveInterval sub_auto_update group.toGroup * 60) (by omega)
        have helapsed := qint64_of_fits (n := now.secs - group.sub_last_update) (by omega)
        rw [if_neg hnone, decide_eq_true_eq, hseconds, helapsed]
        exact ⟨fun h => ⟨hallowed, hpositive, Or.inr h⟩, fun h => h.elapsed.resolve_left hnone⟩
    · rw [if_pos (Or.inr (not_lt.1 hpositive))]
      exact ⟨fun h => absurd h Bool.false_ne_true, fun h => absurd h.positive hpositive⟩
  · rw [isGroupUpdateDue, if_pos (Or.inl ((Bool.not_eq_true _).mp hallowed))]
    exact ⟨fun h => absurd h Bool.false_ne_true, fun h => absurd h.allowed hallowed⟩

/-- What is recorded of a header, if the minutes are an `int`. -/
lemma recorded_iff (header : String) :
    Recorded header (parseAutoUpdateIntervalHeader header) ↔
      ∀ hours, parseInt header = some hours → hours * 60 < 2 ^ 31 := by
  rw [parseAutoUpdateIntervalHeader]
  cases hparse : parseInt header with
  | none =>
    refine ⟨fun _ hours h => absurd h.symm (Option.some_ne_none _), fun _ => ⟨fun hours h => ?_, fun _ => rfl, le_refl _⟩⟩
    exact absurd (hparse.symm.trans h).symm (Option.some_ne_none _)
  | some interval =>
    dsimp only
    by_cases hpositive : 0 < interval
    · rw [if_pos hpositive]
      constructor
      · rintro ⟨hhours, -, -⟩ hours hsome
        obtain rfl := Option.some.inj hsome
        have hexact : int (interval * 60) = interval * 60 := by
          rw [hhours interval hparse hpositive, mul_comm]
        exact (int_eq_iff.1 hexact).2
      · rintro hfits
        have hexact : int (interval * 60) = interval * 60 := int_eq_iff.2 ⟨by omega, hfits interval rfl⟩
        rw [hexact]
        refine ⟨fun hours hsome _ => ?_, fun hother => ?_, by omega⟩
        · obtain rfl := Option.some.inj (hparse.symm.trans hsome)
          exact mul_comm _ _
        · exact absurd (hother interval hparse) (not_le.2 hpositive)
    · rw [if_neg hpositive]
      refine ⟨fun _ hours hsome => ?_, fun _ => ⟨fun hours hsome hpos => ?_, fun _ => rfl, le_refl _⟩⟩
      · obtain rfl := Option.some.inj hsome
        omega
      · obtain rfl := Option.some.inj (hparse.symm.trans hsome)
        exact absurd hpos hpositive

/-- **Which headers are recorded as they should be**: those whose minutes are an `int`. Every group is due exactly
when it should be, also with the interval of the header. -/
theorem recorded_and_due_iff (header : String) (now : UnixTime) (sub_auto_update : ℤ) (group : StoredGroup) :
    (Recorded header (parseAutoUpdateIntervalHeader header) ∧
      ∀ g ∈ [group, group.record header],
        (shouldAutoUpdateGroupOnTimer now.secs sub_auto_update (some g.toGroup) = true ↔
          Due now.secs sub_auto_update g.toGroup)) ↔
      ∀ hours, parseInt header = some hours → hours * 60 < 2 ^ 31 := by
  rw [recorded_iff]
  exact and_iff_left fun g _ => due_shouldAutoUpdate now sub_auto_update g

/-- **A number of hours** that makes the minutes negative. -/
theorem not_recorded_and_due :
    ¬ ∀ header, Recorded header (parseAutoUpdateIntervalHeader header) := by
  rintro h
  have hparse : parseAutoUpdateIntervalHeader "35791395" = -2147483596 := by decide +kernel
  have hnonneg := (h "35791395").nonneg
  rw [hparse] at hnonneg
  exact absurd hnonneg (by decide)

end Proxor.Sub
