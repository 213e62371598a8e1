import Proxor.Lib.Double
import Proxor.Db.ProfileManager

set_option relaxedAutoImplicit false
set_option autoImplicit false

/-!
# Loading the store

The store is read back from its database when the program starts. On request every profile and every
group then gets a new identifier, in the order in which they are displayed.

## Main definitions

* `Proxor.Db.ProfileManager.loadFromSqlite` — the maps and the indexes from the tables.
* `Proxor.Db.ProfileManager.reorder` — the block of `LoadManager` under `flag_reorder`.
* `Proxor.Db.ProfileManager.loadManager` — `LoadManager`, when the database exists.

## Design

The objects of an earlier run of the program stay in the heap, where nothing refers to them. Where
`LoadManager` migrates the files of an older version first is `Proxor.Db.Migrate`.
-/

namespace Proxor.Db

variable {B : Type}

/-- `LoadGroupFromBytes`, and the identifier of the row. -/
def loadGroup (id : ℤ) (row : Group) : Group :=
  { row with id, sub_last_update := toDouble row.sub_last_update }

/-- `LoadProxyEntityFromBytes`, and the identifier of the row. -/
def loadProxyEntity [AbstractBean B] (id : ℤ) (row : ProxyEntity B) : ProxyEntity B :=
  { row with
    id
    bean := AbstractBean.reload row.bean
    summary := AbstractBean.summary (AbstractBean.reload row.bean)
    traffic_data :=
      { downlink := toDouble row.traffic_data.downlink, uplink := toDouble row.traffic_data.uplink } }

/-- What the renumbering has built so far, and the store it walks over. -/
structure Reorder (B : Type) where
  store : ProfileManager B
  gidOld2New : OrdMap ℤ ℤ := .empty
  pidOld2New : OrdMap ℤ ℤ := .empty
  newProfiles : OrdMap ℤ Ref := .empty
  newGroups : OrdMap ℤ Group := .empty
  newProfilesIdOrder : List ℤ := []
  newGroupsIdOrder : List ℤ := []
  nextProfileId : ℤ := 0
  nextGroupId : ℤ := 0

namespace Reorder

/-- A profile gets the next identifier. -/
def renumberProfile (newGid : ℤ) (r : Reorder B) (profile : Ref) : Reorder B :=
  let ent := r.store.objects profile
  { r with
    pidOld2New := r.pidOld2New.insert ent.id r.nextProfileId
    store := { r.store with
      objects := Function.update r.store.objects profile
        { ent with id := r.nextProfileId, gid := newGid } }
    newProfiles := r.newProfiles.insert r.nextProfileId profile
    newProfilesIdOrder := r.newProfilesIdOrder ++ [r.nextProfileId]
    nextProfileId := r.nextProfileId + 1 }

/-- A group gets the next identifier, and so do its profiles as they are displayed. -/
def renumberGroup (r : Reorder B) (oldGid : ℤ) : Reorder B :=
  match r.store.getGroup oldGid with
  | none => r
  | some group =>
    let newGid := r.nextGroupId
    (r.store.profilesWithOrder group).foldl (renumberProfile newGid)
      { r with gidOld2New := r.gidOld2New.insert oldGid newGid, nextGroupId := r.nextGroupId + 1 }

/-- A group is put under its new identifier. Its order is dropped. -/
def regroup (r : Reorder B) (oldGid : ℤ) : Reorder B :=
  match r.store.getGroup oldGid with
  | none => r
  | some group =>
    match r.gidOld2New.get? oldGid with
    | none => r
    | some newGid =>
      let group := { group with
        toggle_proxy_ids := group.toggle_proxy_ids.filterMap r.pidOld2New.get?
        order := []
        id := newGid }
      { r with
        store := { r.store with groups := r.store.groups.insert oldGid group }
        newGroups := r.newGroups.insert newGid group
        newGroupsIdOrder := r.newGroupsIdOrder ++ [newGid] }

/-- An identifier that has a new one is replaced. -/
def mapped (old2New : OrdMap ℤ ℤ) (id : ℤ) : ℤ := (old2New.get? id).getD id

end Reorder

namespace ProfileManager

/-- The order of the tabs, without unknown groups and with those that are missing. -/
def normalizedOrder (s : ProfileManager B) : List ℤ :=
  s.groupsIdOrder.foldl (fun order id => if id ∈ order then order else order ++ [id])
    (s.groupsTabOrder.filter fun id => s.groups.contains id)

/-- A row of the groups. -/
def loadGroupRow (s : ProfileManager B) (row : ℤ × Group) : ProfileManager B :=
  { s with
    groups := s.groups.insert row.1 (loadGroup row.1 row.2)
    groupsIdOrder := s.groupsIdOrder ++ [row.1] }

/-- The new numbering, and the tables written anew. -/
def reorder (s : ProfileManager B) : ProfileManager B :=
  let r := s.groupsTabOrder.foldl Reorder.renumberGroup { store := s }
  let r := s.groupsTabOrder.foldl Reorder.regroup r
  let dataStore := { s.dataStore with
    current_group := Reorder.mapped r.gidOld2New s.dataStore.current_group
    started_id := Reorder.mapped r.pidOld2New s.dataStore.started_id
    remember_id := Reorder.mapped r.pidOld2New s.dataStore.remember_id }
  let s := rebuildGroupProfileIndex { r.store with
    profiles := r.newProfiles
    groups := r.newGroups
    profilesIdOrder := r.newProfilesIdOrder
    groupsIdOrder := r.newGroupsIdOrder
    groupsTabOrder := r.newGroupsIdOrder
    dataStore
    db := { s.db with profiles := .empty, groups := .empty } }
  let s := s.groups.keys.foldl saveGroupToDb s
  let s := s.profiles.keys.foldl saveProfileToDb s
  s.saveGroupsTabOrder

variable [AbstractBean B]

/-- A row of the profiles. -/
def loadProfileRow (s : ProfileManager B) (row : ℤ × ProxyEntity B) : ProfileManager B :=
  { s with
    objects := Function.update s.objects s.next (loadProxyEntity row.1 row.2)
    next := s.next + 1
    profiles := s.profiles.insert row.1 s.next
    profilesIdOrder := s.profilesIdOrder ++ [row.1] }

/-- The maps and the indexes from the tables. -/
def loadFromSqlite (s : ProfileManager B) : ProfileManager B :=
  let s := { s with
    profiles := .empty
    groups := .empty
    profilesIdOrder := []
    groupsIdOrder := []
    groupsTabOrder := []
    groupProfileIds := .empty }
  let s := s.db.groups.entries.foldl loadGroupRow s
  let s := s.db.profiles.entries.foldl loadProfileRow s
  let s := { s with groupsTabOrder := s.db.groupsTabOrder.getD [] }
  rebuildGroupProfileIndex { s with groupsTabOrder := s.normalizedOrder }

/-- A group, if there is none. -/
def ensureGroup (s : ProfileManager B) : ProfileManager B :=
  if s.groups.size = 0 then s.addGroup { name := "Default" } else s

/-- A current group that exists. -/
def fixCurrentGroup (s : ProfileManager B) : ProfileManager B :=
  match s.groups.contains s.dataStore.current_group, s.groupsTabOrder with
  | false, first :: _ => { s with dataStore := { s.dataStore with current_group := first } }
  | _, _ => s

/-- `LoadManager`, when the database exists, up to the new numbering. -/
def loadStored (s : ProfileManager B) : ProfileManager B :=
  s.loadFromSqlite.ensureGroup.fixCurrentGroup

/-- `LoadManager`, when the database exists. -/
def loadManager (s : ProfileManager B) : ProfileManager B :=
  let s := s.loadStored
  if s.dataStore.flag_reorder then s.reorder else s

end ProfileManager

end Proxor.Db
