import Proxor.Db.GroupPart
import Proxor.Db.BuildChain

set_option relaxedAutoImplicit false
set_option autoImplicit false

/-!
# What an identifier denotes

Identifiers are kept in settings, in groups and in chains, which a deletion does not clean. A new
profile or group gets the identifier after the greatest one that is stored, so the identifier of a
deleted one is given out again if it was the greatest.

## Main definitions

* `Proxor.Db.Tracked` — the store, and the identifiers that were stored at any time.
* `Proxor.Db.Tracked.Fresh` — what is added does not get an identifier that was stored before.
* `Proxor.Db.Tracked.Stays` — an identifier that was stored and is not any more does not come back.
* `Proxor.Db.Tracked.Stable` — what an identifier denotes after a run is what it denotes before it, or
  nothing.

## Main results

* `Proxor.Db.Tracked.ids_stable_iff` — along every run that adds nothing under an old identifier, the
  identifiers are stable; the next event keeps them so exactly if it does not either.
* `Proxor.Db.Tracked.front_proxy_changes` — a run after which the front proxy of a group is another
  profile.
-/

namespace Proxor.Db

variable {B : Type}

/-- One past the greatest of these identifiers, or `0` if there are none. -/
def IsNext (ids : List ℤ) (id : ℤ) : Prop :=
  (∀ k ∈ ids, k < id) ∧ (id - 1 ∈ ids ∨ ids = [] ∧ id = 0)

/-- The rows have identifiers. -/
structure Tables.Numbered (db : Tables B) : Prop where
  profile : ∀ (id : ℤ) (row : ProxyEntity B), db.profiles.get? id = some row → 0 ≤ id
  group : ∀ (gid : ℤ) (row : Group), db.groups.get? gid = some row → 0 ≤ gid

/-- The store, and the identifiers that were stored at any time. -/
structure Tracked (B : Type) where
  store : ProfileManager B
  usedProfiles : Set ℤ
  usedGroups : Set ℤ

namespace Tracked

/-- A store whose identifiers were not followed so far. -/
def start (s : ProfileManager B) : Tracked B :=
  ⟨s, {id | id ∈ s.profiles.keys}, {gid | gid ∈ s.groups.keys}⟩

/-- What is stored now was stored at some time. -/
def follow (t : Tracked B) (s : ProfileManager B) : Tracked B :=
  ⟨s, t.usedProfiles ∪ {id | id ∈ s.profiles.keys}, t.usedGroups ∪ {gid | gid ∈ s.groups.keys}⟩

/-- An operation, or the program is started again. -/
inductive Event (B : Type) where
  | op (op : Op B)
  | restart

/-- Whether an event adds a profile. -/
def Event.addsProfile : Event B → Bool
  | .op o => o.addsProfile
  | .restart => false

/-- Whether an event adds a group. -/
def Event.addsGroup : Event B → Bool
  | .op o => o.addsGroup
  | .restart => false

/-- The operations have their callers' promises. -/
def Allowed (t : Tracked B) : Event B → Prop
  | .op op => op.Allowed t.store
  | .restart => True

/-- The settings of a program that starts. Nothing is running, and no new numbering is asked for. -/
def restarted (dataStore : DataStore) : DataStore :=
  { dataStore with started_id := -1919, flag_reorder := false }

/-- An event. -/
def run [AbstractBean B] (t : Tracked B) : Event B → Tracked B
  | .op op => t.follow (op.run t.store)
  | .restart =>
    t.follow
      (ProfileManager.loadManager { t.store with dataStore := restarted t.store.dataStore })

/-- What is added does not get an identifier that was stored before. -/
def Fresh (t : Tracked B) (e : Event B) : Prop :=
  (e.addsProfile = true → ∀ id ∈ t.usedProfiles, ¬ IsNext t.store.profiles.keys id) ∧
    (e.addsGroup = true → ∀ gid ∈ t.usedGroups, ¬ IsNext t.store.groups.keys gid)

/-- An identifier that was stored and is not any more does not come back. -/
def Stays (t t' : Tracked B) : Prop :=
  (∀ id ∈ t.usedProfiles, id ∉ t.store.profiles.keys → id ∉ t'.store.profiles.keys) ∧
    ∀ gid ∈ t.usedGroups, gid ∉ t.store.groups.keys → gid ∉ t'.store.groups.keys

/-- The maps, their orders and the rows agree, and what is stored is followed. -/
structure Sane [AbstractBean B] (t : Tracked B) : Prop where
  profiles : t.store.part.Agrees .reads
  groups : t.store.groupPart.Agrees
  nonempty : t.store.groups.keys ≠ []
  usedProfiles : ∀ id ∈ t.store.profiles.keys, id ∈ t.usedProfiles
  usedGroups : ∀ gid ∈ t.store.groups.keys, gid ∈ t.usedGroups

end Tracked

/-- What an identifier denotes is the same object, or it was read back of its row. -/
def SameProfile [AbstractBean B] (s : ProfileManager B) (p : Ref) (s' : ProfileManager B) (q : Ref) :
    Prop :=
  p = q ∨ ∃ row, Reading.reads.profile row (s.objects p) ∧
    s'.objects q = loadProxyEntity (s.objects p).id row

/-! ### The next identifier -/

/-- The next identifier is the one after the greatest. -/
lemma isNext_iff {ids order : List ℤ} (hids : Enumerates ids (· ∈ ids))
    (horder : Enumerates order (· ∈ ids)) (id : ℤ) :
    IsNext ids id ↔ id = if ids = [] then 0 else order.getLast?.getD 0 + 1 := by
  rw [horder.unique hids]
  by_cases hnil : ids = []
  · subst hnil
    rw [if_pos rfl]
    constructor
    · rintro ⟨-, h | ⟨-, h⟩⟩
      · exact absurd h List.not_mem_nil
      · exact h
    · rintro rfl
      exact ⟨fun k hk => absurd hk List.not_mem_nil, .inr ⟨rfl, rfl⟩⟩
  · rw [if_neg hnil, List.getLast?_eq_some_getLast hnil, Option.getD_some]
    have hlast : ids.getLast hnil ∈ ids := List.getLast_mem hnil
    have hle : ∀ k ∈ ids, k ≤ ids.getLast hnil := by
      intro k hk
      have h := hids.le_getLast hk 0
      rw [List.getLast?_eq_some_getLast hnil, Option.getD_some] at h
      exact h
    constructor
    · rintro ⟨hlt, h | ⟨h, -⟩⟩
      · have h₁ := hlt _ hlast
        have h₂ := hle _ h
        omega
      · exact absurd h hnil
    · rintro rfl
      refine ⟨fun k hk => Int.lt_add_one_of_le (hle k hk), .inl ?_⟩
      rw [add_sub_cancel_right]
      exact hlast

/-- There is one next identifier. -/
lemma IsNext.unique {ids : List ℤ} {id id' : ℤ} (h : IsNext ids id) (h' : IsNext ids id') :
    id = id' := by
  have hle : ∀ {x y : ℤ}, IsNext ids x → IsNext ids y → ids ≠ [] → x ≤ y := by
    intro x y hx hy hne
    rcases hx.2 with hmem | ⟨hnil, -⟩
    · have hlt := hy.1 _ hmem
      omega
    · exact absurd hnil hne
  by_cases hnil : ids = []
  · rcases h.2 with hmem | ⟨-, h⟩
    · exact absurd hmem (hnil ▸ List.not_mem_nil)
    · rcases h'.2 with hmem | ⟨-, h'⟩
      · exact absurd hmem (hnil ▸ List.not_mem_nil)
      · rw [h, h']
  · exact le_antisymm (hle h h' hnil) (hle h' h hnil)

lemma Profiles.Agrees.isNext_iff {R : Reading B} {P : Profiles B} (hP : P.Agrees R) (id : ℤ) :
    IsNext P.stored.keys id ↔ id = P.nextId := by
  have hkeys : Enumerates P.stored.keys (· ∈ P.stored.keys) :=
    P.stored.enumerates_keys.congr fun k => P.stored.mem_keys.symm
  rw [Db.isNext_iff hkeys (hP.order.congr fun k => P.stored.mem_keys.symm), Profiles.nextId]
  have hsize : P.stored.keys = [] ↔ P.stored.size = 0 := by
    rw [← OrdMap.length_keys, List.length_eq_zero_iff]
  simp only [hsize]

lemma Groups.Agrees.isNext_iff {G : Groups} (hG : G.Agrees) (gid : ℤ) :
    IsNext G.stored.keys gid ↔ gid = G.nextId := by
  have hkeys : Enumerates G.stored.keys (· ∈ G.stored.keys) :=
    G.stored.enumerates_keys.congr fun k => G.stored.mem_keys.symm
  rw [Db.isNext_iff hkeys (hG.order.congr fun k => G.stored.mem_keys.symm), Groups.nextId]
  have hsize : G.stored.keys = [] ↔ G.stored.size = 0 := by
    rw [← OrdMap.length_keys, List.length_eq_zero_iff]
  simp only [hsize]

/-! ### Operations -/

/-- A step stores nothing but the next identifier, and keeps the objects of the others. -/
lemma Profiles.Step.stored {R : Reading B} {P P' : Profiles B} {adds : Bool} (h : Step P adds P')
    (hP : P.Agrees R) :
    (∀ (id : ℤ) (q : Ref), P'.stored.get? id = some q →
      P.stored.get? id = some q ∨ adds = true ∧ id = P.nextId ∧ P.stored.get? id = none) ∧
    (adds = true → ∃ q, P'.stored.get? P.nextId = some q) := by
  have hfree : P.stored.get? P.nextId = none := by
    rw [Option.eq_none_iff_forall_ne_some]
    intro q hq
    exact absurd (hP.lt_nextId hq) (lt_irrefl _)
  cases h with
  | same => exact ⟨fun id q h => .inl h, fun h => absurd h Bool.false_ne_true⟩
  | alloc ent => exact ⟨fun id q h => .inl h, fun h => absurd h Bool.false_ne_true⟩
  | append new ent hid =>
    unfold Profiles.append
    dsimp only
    rw [hid]
    refine ⟨fun id q h => ?_, fun _ => ⟨_, OrdMap.get?_insert_self ..⟩⟩
    rw [OrdMap.get?_insert] at h
    split_ifs at h with heq
    · exact .inr ⟨rfl, heq, heq ▸ hfree⟩
    · exact .inl h
  | put p ent hp => exact ⟨fun id q h => .inl h, fun h => absurd h Bool.false_ne_true⟩
  | erase ids =>
    refine ⟨fun id q h => .inl ?_, fun h => absurd h Bool.false_ne_true⟩
    have hfold : ∀ (ids : List ℤ) (P : Profiles B),
        (ids.foldl Profiles.erase P).stored.get? id = some q → P.stored.get? id = some q := by
      intro ids
      induction ids with
      | nil => exact fun P h => h
      | cons x ids ih =>
        intro P h
        have h' := ih (P.erase x) h
        unfold Profiles.erase at h'
        dsimp only at h'
        rw [OrdMap.get?_erase] at h'
        split_ifs at h'
        exact h'
    exact hfold ids P h

namespace Tracked

variable [AbstractBean B] {t : Tracked B}

/-! ### Loading -/

/-- What was read of the rows of a store has its identifiers, and its profiles read back of their
rows. -/
lemma loadStored_profiles {s : ProfileManager B} (hP : s.part.Agrees .reads) :
    s.loadStored.part.Agrees .reads ∧ s.loadStored.profiles.keys = s.profiles.keys ∧
      ∀ (id : ℤ) (p q : Ref), s.profiles.get? id = some p →
        s.loadStored.profiles.get? id = some q → SameProfile s p s.loadStored q := by
  obtain ⟨t, hread, hpart⟩ := part_loadStored s
  have hrows : ∀ (id : ℤ) (row : ProxyEntity B), s.db.profiles.get? id = some row →
      ∃ p, s.profiles.get? id = some p := by
    intro id row hrow
    by_contra hnone
    have hno := hP.noRow id (Option.eq_none_iff_forall_ne_some.2 fun p hp => hnone ⟨p, hp⟩)
    exact absurd (hno.symm.trans hrow) (by simp)
  have hstored : s.loadStored.profiles = t.profiles := congrArg Profiles.stored hpart
  have hobjects : s.loadStored.objects = t.objects := congrArg Profiles.objects hpart
  refine ⟨?_, ?_, fun id p q hp hq => .inr ?_⟩
  · rw [hpart]
    refine hread.agrees fun id row hrow => ?_
    obtain ⟨p, hp⟩ := hrows id row hrow
    exact (hP.profile id p hp).2.1
  · rw [hstored]
    refine OrdMap.keys_congr fun id => ?_
    cases hp : s.profiles.get? id with
    | none => rw [hread.noProfile id (hP.noRow id hp)]
    | some p =>
      obtain ⟨row, hrow, -⟩ := hP.row id p hp
      obtain ⟨q, hq, -⟩ := hread.profile id row hrow
      rw [hq]
      rfl
  · obtain ⟨row, hrow, hreads⟩ := hP.row id p hp
    obtain ⟨q', hq', hobj⟩ := hread.profile id row hrow
    obtain rfl := Option.some.inj (hq.symm.trans (congrArg (OrdMap.get? · id) hstored ▸ hq'))
    have hid : (s.objects p).id = id := (hP.profile id p hp).1
    exact ⟨row, hreads, by rw [hobjects, hobj, hid]⟩

/-- Starting again loads the store. -/
lemma run_restart (t : Tracked B) : t.run .restart =
    t.follow (ProfileManager.loadStored { t.store with dataStore := restarted t.store.dataStore }) := by
  have hflag := loadStored_flag_reorder { t.store with dataStore := restarted t.store.dataStore }
  unfold run ProfileManager.loadManager
  dsimp only
  rw [hflag]
  rfl

/-! ### One event -/

/-- What an event stores, and what becomes of what was stored. -/
structure Steps (t : Tracked B) (e : Event B) : Prop where
  sane : (t.run e).Sane
  profiles : ∀ id ∈ (t.run e).store.profiles.keys, id ∈ t.store.profiles.keys ∨
    e.addsProfile = true ∧ IsNext t.store.profiles.keys id
  groups : ∀ gid ∈ (t.run e).store.groups.keys, gid ∈ t.store.groups.keys ∨
    e.addsGroup = true ∧ IsNext t.store.groups.keys gid
  addsProfile : e.addsProfile = true →
    ∃ id ∈ (t.run e).store.profiles.keys, IsNext t.store.profiles.keys id
  addsGroup : e.addsGroup = true →
    ∃ gid ∈ (t.run e).store.groups.keys, IsNext t.store.groups.keys gid
  same : ∀ (id : ℤ) (p q : Ref), t.store.profiles.get? id = some p →
    (t.run e).store.profiles.get? id = some q → SameProfile t.store p (t.run e).store q

/-- What is followed stays followed. -/
lemma Sane.follow {s : ProfileManager B} (hP : s.part.Agrees .reads) (hG : s.groupPart.Agrees)
    (hne : s.groups.keys ≠ []) (t : Tracked B) : (t.follow s).Sane :=
  ⟨hP, hG, hne, fun _ h => .inr h, fun _ h => .inr h⟩

/-- An operation.

**Proof sketch.** It takes a step on the profiles and one on the groups. An identifier it does not add
keeps its object. -/
lemma Sane.run_op (ht : t.Sane) {op : Op B} (hop : op.Allowed t.store) : t.Steps (.op op) := by
  have hstep := ProfileManager.part_run ht.profiles hop
  obtain ⟨hstored, hadds⟩ := hstep.stored ht.profiles
  obtain ⟨hG, hgroups, haddsGroup, hne⟩ := ht.groups.run hop
  refine ⟨Sane.follow (ht.profiles.step hstep) hG (hne ht.nonempty) t, fun id hid => ?_,
    fun gid hgid => ?_, fun h => ?_, fun h => ?_, fun id p q hp hq => ?_⟩
  · obtain ⟨q, hq⟩ := (OrdMap.mem_keys _).1 hid
    rcases hstored id q hq with hq | ⟨hadd, heq, -⟩
    · exact .inl ((OrdMap.mem_keys _).2 ⟨q, hq⟩)
    · exact .inr ⟨hadd, (ht.profiles.isNext_iff id).2 heq⟩
  · exact (hgroups gid hgid).imp_right fun h => ⟨h.1, (ht.groups.isNext_iff gid).2 h.2⟩
  · obtain ⟨q, hq⟩ := hadds h
    exact ⟨_, (OrdMap.mem_keys _).2 ⟨q, hq⟩, (ht.profiles.isNext_iff _).2 rfl⟩
  · exact ⟨_, haddsGroup h, (ht.groups.isNext_iff _).2 rfl⟩
  · rcases hstored id q hq with hq' | ⟨-, -, hnone⟩
    · exact .inl (Option.some.inj (hp.symm.trans hq'))
    · exact absurd (hnone.symm.trans hp) (by simp)

/-- The rows of a sane store have identifiers. -/
lemma Sane.numbered (ht : t.Sane) : t.store.db.Numbered := by
  refine ⟨fun id row hrow => ?_, fun gid row hrow => ?_⟩
  · by_contra hneg
    have hnone : t.store.profiles.get? id = none := by
      rw [Option.eq_none_iff_forall_ne_some]
      exact fun p hp => hneg (ht.profiles.profile id p hp).2.1
    exact absurd ((ht.profiles.noRow id hnone).symm.trans hrow) (by simp)
  · have hmem : gid ∈ t.store.groupPart.rows.keys := (OrdMap.mem_keys _).2 ⟨row, hrow⟩
    rw [ht.groups.rows, OrdMap.mem_keys] at hmem
    obtain ⟨group, hg⟩ := hmem
    exact (ht.groups.group gid group hg).2

/-- Starting again.

**Proof sketch.** The tables have the identifiers of the maps, so the same are loaded. -/
lemma Sane.run_restart (ht : t.Sane) : t.Steps .restart := by
  obtain ⟨hP, hkeys, hsame⟩ :=
    loadStored_profiles (s := { t.store with dataStore := restarted t.store.dataStore }) ht.profiles
  obtain ⟨hG, hgroups⟩ := groupAgrees_loadStored
    { t.store with dataStore := restarted t.store.dataStore } ht.numbered.group
  have hrows : t.store.db.groups.keys = t.store.groups.keys := ht.groups.rows
  have hstored : (ProfileManager.loadStored
      { t.store with dataStore := restarted t.store.dataStore }).groups.keys =
      t.store.groups.keys :=
    hgroups.trans (by rw [hrows, if_neg ht.nonempty])
  have hrun := Tracked.run_restart t
  refine ⟨hrun ▸ Sane.follow hP hG (hstored ▸ ht.nonempty) t, fun id hid => .inl ?_,
    fun gid hgid => .inl ?_, fun h => absurd h Bool.false_ne_true,
    fun h => absurd h Bool.false_ne_true, ?_⟩
  · rw [hrun] at hid
    exact hkeys ▸ hid
  · rw [hrun] at hgid
    exact hstored ▸ hgid
  · rw [hrun]
    exact hsame

/-- An event. -/
lemma Sane.steps (ht : t.Sane) {e : Event B} (he : t.Allowed e) : t.Steps e := by
  cases e with
  | op op => exact ht.run_op he
  | restart => exact ht.run_restart

/-- An identifier does not come back exactly if nothing is added under it.

**Proof sketch.** What is added gets the next identifier, which is not stored. -/
lemma Steps.stays_iff {e : Event B} (h : t.Steps e) : t.Stays (t.run e) ↔ t.Fresh e := by
  constructor
  · rintro ⟨hprofiles, hgroups⟩
    refine ⟨fun hadds id hused hnext => ?_, fun hadds gid hused hnext => ?_⟩
    · obtain ⟨id', hid', hnext'⟩ := h.addsProfile hadds
      obtain rfl := hnext.unique hnext'
      exact hprofiles id hused (fun hmem => absurd (hnext.1 id hmem) (lt_irrefl _)) hid'
    · obtain ⟨gid', hgid', hnext'⟩ := h.addsGroup hadds
      obtain rfl := hnext.unique hnext'
      exact hgroups gid hused (fun hmem => absurd (hnext.1 gid hmem) (lt_irrefl _)) hgid'
  · rintro ⟨hprofiles, hgroups⟩
    refine ⟨fun id hused hnot hmem => ?_, fun gid hused hnot hmem => ?_⟩
    · rcases h.profiles id hmem with hmem | ⟨hadds, hnext⟩
      · exact hnot hmem
      · exact hprofiles hadds id hused hnext
    · rcases h.groups gid hmem with hmem | ⟨hadds, hnext⟩
      · exact hnot hmem
      · exact hgroups hadds gid hused hnext

/-! ### Runs -/

/-- Both before and after an event an identifier denotes the same profile. -/
def SameUnder (id : ℤ) (t : Tracked B) (e : Event B) : Prop :=
  ∃ p q, t.store.profiles.get? id = some p ∧ (t.run e).store.profiles.get? id = some q ∧
    SameProfile t.store p (t.run e).store q

/-- Both before and after an event a group is stored. -/
def GroupUnder (gid : ℤ) (t : Tracked B) (e : Event B) : Prop :=
  gid ∈ t.store.groups.keys ∧ gid ∈ (t.run e).store.groups.keys

/-- What an identifier denotes after a run is what it denotes before it, or nothing. -/
structure Stable (t : Tracked B) (es : List (Event B)) : Prop where
  profile : ∀ id ∈ t.store.profiles.keys, id ∈ (es.foldl run t).store.profiles.keys →
    Each run (SameUnder id) t es
  group : ∀ gid ∈ t.store.groups.keys, gid ∈ (es.foldl run t).store.groups.keys →
    Each run (GroupUnder gid) t es
  stays : t.Stays (es.foldl run t)

/-- Every step of a run is allowed and adds nothing under an old identifier. -/
abbrev Runs (t : Tracked B) (es : List (Event B)) : Prop :=
  Each run (fun t e => t.Allowed e ∧ t.Fresh e) t es

lemma Sane.run (ht : t.Sane) {es : List (Event B)} (hes : t.Runs es) : (es.foldl run t).Sane :=
  hes.invariant (I := Sane) (fun _ _ ht he => (ht.steps he.1).sane) ht

/-- What was stored at some time is still followed. -/
lemma used_subset (t : Tracked B) (e : Event B) :
    (∀ id ∈ t.usedProfiles, id ∈ (t.run e).usedProfiles) ∧
      ∀ gid ∈ t.usedGroups, gid ∈ (t.run e).usedGroups := by
  cases e with
  | op op => exact ⟨fun _ h => .inl h, fun _ h => .inl h⟩
  | restart => exact ⟨fun _ h => .inl h, fun _ h => .inl h⟩

/-- **Along a run that adds nothing under an old identifier, the identifiers are stable.**

**Proof sketch.** By induction on the events. An identifier that is stored at both ends was never
removed, as it would not have come back. -/
theorem Sane.stable (ht : t.Sane) {es : List (Event B)} (hes : t.Runs es) : t.Stable es := by
  induction es generalizing t with
  | nil => exact ⟨fun _ _ _ => trivial, fun _ _ _ => trivial, fun _ _ h => h, fun _ _ h => h⟩
  | cons e es ih =>
    obtain ⟨⟨hallowed, hfresh⟩, hes⟩ := hes
    have hsteps := ht.steps hallowed
    have hstays := hsteps.stays_iff.2 hfresh
    obtain ⟨hprofile, hgroup, hlater⟩ := ih hsteps.sane hes
    obtain ⟨hused, husedGroups⟩ := used_subset t e
    refine ⟨fun id hid hend => ?_, fun gid hgid hend => ?_,
      fun id hid hnot => hlater.1 id (hused id hid) (hstays.1 id hid hnot),
      fun gid hgid hnot => hlater.2 gid (husedGroups gid hgid) (hstays.2 gid hgid hnot)⟩
    · have hmid : id ∈ (t.run e).store.profiles.keys := by
        by_contra hmid
        exact hlater.1 id (hused id (ht.usedProfiles id hid)) hmid hend
      obtain ⟨p, hp⟩ := (OrdMap.mem_keys _).1 hid
      obtain ⟨q, hq⟩ := (OrdMap.mem_keys _).1 hmid
      exact ⟨⟨p, q, hp, hq, hsteps.same id p q hp hq⟩, hprofile id hmid hend⟩
    · have hmid : gid ∈ (t.run e).store.groups.keys := by
        by_contra hmid
        exact hlater.2 gid (husedGroups gid (ht.usedGroups gid hgid)) hmid hend
      exact ⟨⟨hgid, hmid⟩, hgroup gid hmid hend⟩

/-- A program that starts on a database whose rows have identifiers. -/
def opened (s : ProfileManager B) : Tracked B :=
  start (ProfileManager.loadManager { s with dataStore := restarted s.dataStore })

lemma sane_opened (s : ProfileManager B) (hdb : s.db.Numbered) : (opened s).Sane := by
  obtain ⟨hG, hgroups⟩ := groupAgrees_loadStored { s with dataStore := restarted s.dataStore }
    hdb.group
  obtain ⟨t, hread, hpart⟩ := part_loadStored { s with dataStore := restarted s.dataStore }
  have hload : ProfileManager.loadManager { s with dataStore := restarted s.dataStore } =
      ProfileManager.loadStored { s with dataStore := restarted s.dataStore } := by
    have hflag := loadStored_flag_reorder { s with dataStore := restarted s.dataStore }
    unfold ProfileManager.loadManager
    dsimp only
    rw [hflag]
    rfl
  unfold opened
  rw [hload]
  refine ⟨?_, hG, ?_, fun _ h => h, fun _ h => h⟩
  · have hagrees := hread.agrees hdb.profile
    exact hpart ▸ hagrees
  · unfold start
    dsimp only
    rw [hgroups]
    split_ifs with hnil
    · exact List.cons_ne_nil _ _
    · exact hnil

/-- What a configuration needs and is not stored is reported. -/
def Reports (s : ProfileManager B) : Prop :=
  ∀ p : Ref,
    (∀ group, s.groups.get? (s.objects p).gid = some group → 0 ≤ group.front_proxy_id →
      group.front_proxy_id ∉ s.profiles.keys → ∃ error, s.buildChain p = .error error) ∧
    ∀ id ∈ AbstractBean.list (s.objects p).bean, (s.objects p).type = "chain" →
      id ∉ s.profiles.keys → ∃ error, s.buildChain p = .error error

lemma reports (s : ProfileManager B) : Reports s := by
  refine fun p => ⟨fun group hgroup hfront hmissing => ?_, fun id hid htype hmissing => ?_⟩
  · exact ProfileManager.buildChain_front_missing hgroup hfront ((OrdMap.get?_eq_none _).2 hmissing)
  · exact ProfileManager.buildChain_chain_missing htype hid ((OrdMap.get?_eq_none _).2 hmissing)

/-- **Along every run that adds nothing under an old identifier, what an identifier denotes does not
change, and what is missing is reported; and the next event keeps it so exactly if it does not add
anything under an old identifier either.**

**Proof sketch.** The parts of the run are runs. -/
theorem ids_stable_iff (s : ProfileManager B) (hdb : s.db.Numbered) {es : List (Event B)}
    (hes : (opened s).Runs es) :
    (∀ before after, es = before ++ after → (before.foldl run (opened s)).Stable after) ∧
      Reports (es.foldl run (opened s)).store ∧
      ∀ e, (es.foldl run (opened s)).Allowed e →
        ((es.foldl run (opened s)).Stays ((es.foldl run (opened s)).run e) ↔
          (es.foldl run (opened s)).Fresh e) := by
  have hs := sane_opened s hdb
  refine ⟨?_, reports _, fun e he => ((hs.run hes).steps he).stays_iff⟩
  rintro before after rfl
  obtain ⟨hbefore, hafter⟩ := Each.append.1 hes
  exact (hs.run hbefore).stable hafter

/-! ### A run -/

lemma numbered_freshStore : freshStore.db.Numbered :=
  ⟨fun _ _ h => absurd h (by simp [freshStore]), fun _ _ h => absurd h (by simp [freshStore])⟩

open Fmt in
/-- A profile is added, and then it is the front proxy of its group. -/
def frontOps : List (Event ChainBean) :=
  [.op (.addProfile { type := "chain", bean := {} } (-1)),
    .op (.saveGroup { id := 0, name := "Default", toggle_proxy_ids := [0], front_proxy_id := 0 })]

open Fmt in
/-- And then the program is started again. -/
def restartedOps : List (Event ChainBean) := frontOps ++ [.restart]

lemma restartedOps_runs : (opened freshStore).Runs restartedOps := by
  unfold restartedOps
  refine ⟨⟨trivial, ?_⟩, ⟨?_, ?_⟩, ⟨trivial, ?_⟩, trivial⟩
  · exact ⟨fun _ id hid => absurd hid List.not_mem_nil, fun h => absurd h Bool.false_ne_true⟩
  · exact ⟨⟨_, rfl⟩, by decide⟩
  · exact ⟨fun h => absurd h Bool.false_ne_true, fun h => absurd h Bool.false_ne_true⟩
  · exact ⟨fun h => absurd h Bool.false_ne_true, fun h => absurd h Bool.false_ne_true⟩

/-- The front proxy is the same profile after the program is started again. -/
theorem ids_stable_iff_restartedOps :
    (∀ before after, restartedOps = before ++ after →
      (before.foldl run (opened freshStore)).Stable after) ∧
      Reports (restartedOps.foldl run (opened freshStore)).store ∧
      ∀ e, (restartedOps.foldl run (opened freshStore)).Allowed e →
        ((restartedOps.foldl run (opened freshStore)).Stays
          ((restartedOps.foldl run (opened freshStore)).run e) ↔
          (restartedOps.foldl run (opened freshStore)).Fresh e) :=
  ids_stable_iff freshStore numbered_freshStore restartedOps_runs

open Fmt in
/-- The front proxy is deleted, and another profile is added. -/
def replacedOps : List (Event ChainBean) :=
  [.op (.deleteProfile 0), .op (.addProfile { type := "vmess", bean := {} } (-1))]

lemma replacedOps_allowed :
    Each run (fun t e => t.Allowed e) (opened freshStore) (frontOps ++ replacedOps) :=
  ⟨trivial, ⟨⟨_, rfl⟩, by decide⟩, trivial, trivial, trivial⟩

/-- The profile that is added becomes the front proxy. -/
theorem front_proxy_changes :
    ¬ ∀ (s : ProfileManager Fmt.ChainBean), s.db.Numbered → ∀ es : List (Event Fmt.ChainBean),
      Each run (fun t e => t.Allowed e) (opened s) es →
        ∀ before after, es = before ++ after → (before.foldl run (opened s)).Stable after := by
  intro h
  have hstable := h freshStore numbered_freshStore _ replacedOps_allowed frontOps replacedOps rfl
  obtain ⟨⟨p, q, -, hq, -⟩, -⟩ := hstable.profile 0 (by decide) (by decide)
  have hnone : OrdMap.get?
      ((frontOps.foldl run (opened freshStore)).run (.op (.deleteProfile 0))).store.profiles 0 =
        none := rfl
  exact absurd (hnone.symm.trans hq) (by simp)

end Tracked

end Proxor.Db
