import Proxor.Db.Loaded

set_option relaxedAutoImplicit false
set_option autoImplicit false

/-!
# The invariant of the store

What the indexes and the tables say of the maps, clause by clause, and which runs of the operations
keep it. `DeleteProfile` refuses the running profile, and `DeleteGroup`, which calls it, goes on: the
profile is left behind in a group that does not exist.

## Main definitions

* `Proxor.Db.StoreInvariant` — the six clauses.
* `Proxor.Db.Tables.Kept` — reading the rows changes nothing of them.

## Main results

* `Proxor.Db.storeInvariant_iff` — the clauses hold along every run from a loaded store whose deletions
  of groups spare the running profile, and the next operation keeps them exactly if it does.
* `Proxor.Db.not_storeInvariant` — a run that breaks them.
-/

namespace Proxor.Db

variable {B : Type}

/-- What the indexes and the tables say of the maps. -/
structure StoreInvariant (s : ProfileManager B) : Prop where
  /-- The identifiers of the profiles, sorted. -/
  profilesIdOrder : s.profilesIdOrder = s.profiles.keys
  /-- The identifiers of the profiles of a group, sorted. -/
  groupProfileIds : ∀ (gid : ℤ) (group : Group), s.groups.get? gid = some group →
    ∃ ids, s.groupProfileIds.get? gid = some ids ∧ Enumerates ids fun id => s.gidOf id = some gid
  /-- Every profile is in a group. -/
  gid : ∀ (id : ℤ) (p : Ref), s.profiles.get? id = some p →
    ∃ group, s.groups.get? (s.objects p).gid = some group
  /-- The lists of a group name profiles of the group. -/
  lists : ∀ (gid : ℤ) (group : Group), s.groups.get? gid = some group →
    ∀ id, id ∈ group.order ∨ id ∈ group.toggle_proxy_ids → s.gidOf id = some gid
  /-- The tabs are the groups. -/
  groupsTabOrder : s.groupsTabOrder.Perm s.groups.keys
  /-- The rows are the profiles. -/
  profilesTable : ∀ id, s.db.profiles.get? id = (s.profiles.get? id).map s.objects
  /-- The rows are the groups. -/
  groupsTable : ∀ gid, s.db.groups.get? gid = s.groups.get? gid

/-- Reading a row changes nothing of it. -/
structure Tables.Kept [AbstractBean B] (db : Tables B) : Prop where
  profile : ∀ (id : ℤ) (row : ProxyEntity B), db.profiles.get? id = some row →
    loadProxyEntity id row = row
  group : ∀ (gid : ℤ) (row : Group), db.groups.get? gid = some row → loadGroup gid row = row

/-- A consistent store whose rows are what is in memory has the invariant. -/
theorem Consistent.storeInvariant {s : ProfileManager B} (hs : Consistent .exact s) :
    StoreInvariant s where
  profilesIdOrder := hs.profilesIdOrder.unique s.profiles.enumerates_keys
  groupProfileIds := hs.index
  gid := hs.gid
  lists := fun gid group h id hid => hs.order gid group h id (List.mem_append.2 hid)
  groupsTabOrder := hs.tabs
  profilesTable := fun id => by
    cases hp : s.profiles.get? id with
    | none => exact hs.noRow id hp
    | some p =>
      obtain ⟨row, hrow, rfl⟩ := hs.row id p hp
      exact hrow
  groupsTable := fun gid => by
    cases hg : s.groups.get? gid with
    | none => exact hs.noGroupRow gid hg
    | some group =>
      obtain ⟨row, hrow, rfl⟩ := hs.groupRow gid group hg
      exact hrow

/-! ### The loaded store -/

/-- The group that is added to an empty database is kept as well. -/
lemma kept_loadStored [AbstractBean B] (s : ProfileManager B) (hdb : s.db.Sound)
    (hkept : s.db.Kept) : s.loadStored.db.Kept := by
  obtain ⟨hload, -⟩ := isLoaded_loadFromSqlite s hdb
  unfold ProfileManager.loadStored
  obtain ⟨dataStore, heq, -⟩ := fixCurrentGroup_eq s.loadFromSqlite.ensureGroup
  rw [heq]
  unfold ProfileManager.ensureGroup
  dsimp only
  split_ifs with hsize
  · have hid : s.loadFromSqlite.newGroupID = 0 := if_pos hsize
    rw [Consistent.addGroup_eq (by decide) hid.ge]
    refine ⟨fun id row hrow => ?_, fun gid row hrow => ?_⟩
    · refine hkept.profile id row ?_
      rw [← hload.tables]
      exact hrow
    · unfold ProfileManager.insertGroup at hrow
      dsimp only at hrow
      rw [OrdMap.get?_insert, hload.tables] at hrow
      split_ifs at hrow with hgid
      · obtain rfl := Option.some.inj hrow
        rw [hgid, loadGroup, toDouble_zero]
      · exact hkept.group gid row hrow
  · rw [hload.tables]
    exact hkept

/-- A loaded store is consistent with its rows. -/
theorem consistent_loadManager [AbstractBean B] (s : ProfileManager B) (hdb : s.db.Sound)
    (hkept : s.db.Kept) (hflag : s.dataStore.flag_reorder = false) :
    Consistent .exact s.loadManager := by
  rw [loadManager_of_plain hflag]
  have hkept' := kept_loadStored s hdb hkept
  exact (consistent_loadStored s hdb).exact hkept'.profile hkept'.group

/-! ### What breaks it -/

/-- The running profile stays where it is when profiles are deleted. -/
lemma gidOf_started_deleteProfile {R : Reading B} {s : ProfileManager B} (hs : Consistent R s)
    (id : ℤ) : (s.deleteProfile id).gidOf s.dataStore.started_id = s.gidOf s.dataStore.started_id := by
  by_cases hrun : s.dataStore.started_id = id
  · rw [Consistent.deleteProfile_of_running (.inr hrun)]
  · refine Option.ext fun gid => ?_
    exact (hs.gidOf_deleteProfile hrun).trans (and_iff_left hrun)

/-- It stays where it is when all profiles of a group are deleted.

**Proof sketch.** By induction on the profiles. -/
lemma gidOf_started_foldl {R : Reading B} {ids : List ℤ} {s : ProfileManager B}
    (hs : Consistent R s) :
    (ids.foldl ProfileManager.deleteProfile s).gidOf s.dataStore.started_id =
      s.gidOf s.dataStore.started_id := by
  induction ids generalizing s with
  | nil => rfl
  | cons id ids ih =>
    have hstep := ih (hs.deleteProfile id)
    rw [(hs.deleteProfile_frame id).2, gidOf_started_deleteProfile hs] at hstep
    exact hstep

/-- The running profile is left behind by the deletion of its group. -/
theorem not_storeInvariant_deleteGroup {R : Reading B} {s : ProfileManager B} (hs : Consistent R s)
    {gid : ℤ} (hsize : 1 < s.groups.size) (hgid : s.gidOf s.dataStore.started_id = some gid) :
    ¬ StoreInvariant (s.deleteGroup gid) := by
  intro hinv
  have hleft : (s.deleteGroup gid).gidOf s.dataStore.started_id = some gid := by
    rw [Consistent.deleteGroup_eq (by omega)]
    exact (gidOf_started_foldl hs).trans hgid
  obtain ⟨p, hp, hpgid⟩ := ProfileManager.gidOf_eq_some.1 hleft
  obtain ⟨group, hgroup⟩ := hinv.gid _ p hp
  rw [hpgid, Consistent.deleteGroup_eq (by omega)] at hgroup
  exact absurd ((OrdMap.get?_erase_self ..).symm.trans hgroup) (by simp)

/-- **The invariant along every run.** From a loaded store, as long as no group with the running profile
is deleted, the invariant holds, and the next operation keeps it exactly if it does not delete the
group of the running profile either.

**Proof sketch.** The operations keep the store consistent with its rows, which implies the invariant.
The deletion of the group of the running profile leaves it in a group that does not exist. -/
theorem storeInvariant_iff [AbstractBean B] (s : ProfileManager B) (hdb : s.db.Sound)
    (hkept : s.db.Kept) (hflag : s.dataStore.flag_reorder = false) (ops : List (Op B))
    (hops : Each Op.run (fun s op => op.Allowed s ∧ op.SparesRunning s) s.loadManager ops) :
    StoreInvariant (runOps s.loadManager ops) ∧
      ∀ op : Op B, op.Allowed (runOps s.loadManager ops) →
        (StoreInvariant (op.run (runOps s.loadManager ops)) ↔
          op.SparesRunning (runOps s.loadManager ops)) := by
  have hcons := (consistent_loadManager s hdb hkept hflag).runOps hops
  refine ⟨hcons.storeInvariant, fun op hop => ⟨fun hinv => ?_, fun hrun => ?_⟩⟩
  · cases op with
    | deleteGroup gid =>
      intro hsize hgid
      exact not_storeInvariant_deleteGroup hcons hsize hgid hinv
    | _ => trivial
  · exact (hcons.run hop hrun).storeInvariant

/-! ### A run -/

lemma kept_freshStore : freshStore.db.Kept :=
  ⟨fun _ _ h => absurd h (by simp [freshStore]), fun _ _ h => absurd h (by simp [freshStore])⟩

open Fmt in
/-- A profile is added and started, and there is a second group. -/
def startedOps : List (Op ChainBean) :=
  [.addProfile { type := "chain", bean := {} } (-1), .addGroup {}, .setDataStore { started_id := 0 }]

lemma startedOps_allowed :
    Each Op.run (fun s op => op.Allowed s ∧ op.SparesRunning s) freshStore.loadManager startedOps :=
  ⟨⟨trivial, trivial⟩, ⟨⟨rfl, rfl⟩, trivial⟩, ⟨trivial, trivial⟩, trivial⟩

/-- The first group holds the running profile, and is deleted. -/
theorem not_storeInvariant :
    ¬ ∀ (s : ProfileManager Fmt.ChainBean), s.db.Sound → s.db.Kept →
      s.dataStore.flag_reorder = false → ∀ ops : List (Op Fmt.ChainBean),
        Each Op.run (fun s op => op.Allowed s) s.loadManager ops →
          StoreInvariant (runOps s.loadManager ops) := by
  intro h
  have hcons := (consistent_loadManager freshStore sound_freshStore kept_freshStore rfl).runOps
    startedOps_allowed
  refine @not_storeInvariant_deleteGroup _ _ _ hcons 0 (by decide) (by decide) ?_
  exact h freshStore sound_freshStore kept_freshStore rfl
    [.addProfile { type := "chain", bean := {} } (-1), .addGroup {},
      .setDataStore { started_id := 0 }, .deleteGroup 0]
    ⟨trivial, ⟨rfl, rfl⟩, trivial, trivial, trivial⟩

/-- The run without the deletion keeps the invariant. -/
theorem storeInvariant_iff_startedOps :
    StoreInvariant (runOps freshStore.loadManager startedOps) ∧
      ∀ op : Op Fmt.ChainBean, op.Allowed (runOps freshStore.loadManager startedOps) →
        (StoreInvariant (op.run (runOps freshStore.loadManager startedOps)) ↔
          op.SparesRunning (runOps freshStore.loadManager startedOps)) :=
  storeInvariant_iff freshStore sound_freshStore kept_freshStore rfl startedOps startedOps_allowed

end Proxor.Db
