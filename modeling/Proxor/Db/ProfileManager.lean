import Mathlib.Logic.Function.Basic
import Mathlib.Order.Lattice
import Mathlib.Data.Int.Basic
import Proxor.Lib.OrdMap

set_option relaxedAutoImplicit false
set_option autoImplicit false

/-!
# The profile store

Profiles and groups are kept in memory, with several indexes over them that the operations maintain
by hand, and in a database that every operation writes through to.

## Main definitions

* `Proxor.Db.ProxyEntity`, `Proxor.Db.Group` — what is stored.
* `Proxor.Db.Tables` — the database.
* `Proxor.Db.ProfileManager` — the state: the maps, the indexes and the database.
* `Proxor.Db.ProfileManager.addProfile` and its siblings — the operations.

## Design

A profile is an object that others hold references to, so the maps hold references into a heap. A
group is only reached through the map. A row of a table holds the values of the registered items, in
place of the JSON text they are written as; the flag an operation returns, whether that text has
changed, is left out. Identifiers are unbounded integers.
-/

namespace Proxor.Db

/-! ### What is stored -/

/-- What a profile shows of its bean. -/
structure Summary where
  name : String := ""
  serverAddress : String := ""
  serverPort : ℤ := 0
  displayType : String := ""
  displayAddress : String := ""
  displayName : String := ""
  displayTypeAndName : String := ""
deriving DecidableEq

/-- What the store asks of a bean: its summary, the list of a chain, what identifies it apart from its
metadata, and what is read back of it from its own JSON. -/
class AbstractBean (B : Type) where
  summary : B → Summary
  list : B → List ℤ
  metadataStrippedIdentity : B → String
  reload : B → B

/-- The traffic of a profile. -/
structure TrafficData where
  downlink : ℤ := 0
  uplink : ℤ := 0
deriving DecidableEq

/-- A profile. -/
structure ProxyEntity (B : Type) where
  type : String
  id : ℤ := -1
  gid : ℤ := 0
  latency : ℤ := 0
  bean : B
  summary : Summary := {}
  traffic_data : TrafficData := {}
  full_test_report : String := ""
deriving DecidableEq

/-- A group. `order` is the displayed order, if it is not that of the identifiers. -/
structure Group where
  id : ℤ := -1
  archive : Bool := false
  skip_auto_update : Bool := false
  sub_update_interval : ℤ := 0
  sub_update_always : Bool := false
  subscription_ping_onopen_enabled : Bool := false
  subscription_direct_sites : List String := []
  fallback_url : String := ""
  name : String := ""
  url : String := ""
  info : String := ""
  sub_last_update : ℤ := 0
  front_proxy_id : ℤ := -1
  manually_column_width : Bool := false
  column_width : List ℤ := []
  order : List ℤ := []
  toggle_proxy_ids : List ℤ := []
deriving DecidableEq

/-- A rule of `direct_site_rules`, which holds them as JSON text. -/
structure DirectSiteRule where
  sites : List String := []
  groups : List ℤ := []
  profiles : List ℤ := []
deriving DecidableEq

/-- The settings the store reads or writes, or that hold identifiers. -/
structure DataStore where
  started_id : ℤ := -1919
  current_group : ℤ := 0
  remember_id : ℤ := -1919
  ssid_on_demand_profile_id : ℤ := -1919
  direct_site_rules : List DirectSiteRule := []
  sub_clear : Bool := false
  flag_reorder : Bool := false
deriving DecidableEq

/-- The database: its two tables, and the saved order of the tabs. -/
structure Tables (B : Type) where
  profiles : OrdMap ℤ (ProxyEntity B) := .empty
  groups : OrdMap ℤ Group := .empty
  groupsTabOrder : Option (List ℤ) := none

/-- A reference to a profile object. -/
abbrev Ref := ℕ

/-- The store, with the profile objects, the database and the settings. -/
structure ProfileManager (B : Type) where
  objects : Ref → ProxyEntity B
  /-- The objects from here on are not allocated. -/
  next : Ref := 0
  profiles : OrdMap ℤ Ref := .empty
  groups : OrdMap ℤ Group := .empty
  profilesIdOrder : List ℤ := []
  groupsIdOrder : List ℤ := []
  groupsTabOrder : List ℤ := []
  groupProfileIds : OrdMap ℤ (List ℤ) := .empty
  db : Tables B := {}
  dataStore : DataStore := {}

/-- `std::sort` of identifiers. -/
def sortIds (l : List ℤ) : List ℤ := l.mergeSort fun a b => decide (a ≤ b)

/-- `removeAll` of a list of identifiers. -/
def removeAll (l : List ℤ) (id : ℤ) : List ℤ := l.filter fun x => x ≠ id

namespace ProfileManager

variable {B : Type}

/-! ### The database -/

/-- Write a profile's row. -/
def saveProfileToDb (s : ProfileManager B) (id : ℤ) : ProfileManager B :=
  match s.profiles.get? id with
  | none => s
  | some p => { s with db := { s.db with profiles := s.db.profiles.insert id (s.objects p) } }

/-- Write a group's row. -/
def saveGroupToDb (s : ProfileManager B) (id : ℤ) : ProfileManager B :=
  match s.groups.get? id with
  | none => s
  | some group => { s with db := { s.db with groups := s.db.groups.insert id group } }

/-- Delete a profile's row. -/
def deleteProfileFromDb (s : ProfileManager B) (id : ℤ) : ProfileManager B :=
  { s with db := { s.db with profiles := s.db.profiles.erase id } }

/-- Delete a group's row. -/
def deleteGroupFromDb (s : ProfileManager B) (id : ℤ) : ProfileManager B :=
  { s with db := { s.db with groups := s.db.groups.erase id } }

/-- Write the order of the tabs. -/
def saveGroupsTabOrder (s : ProfileManager B) : ProfileManager B :=
  { s with db := { s.db with groupsTabOrder := some s.groupsTabOrder } }

/-! ### The index of the profiles of a group -/

/-- `GroupProfileIds`. -/
def groupProfileIdsOf (s : ProfileManager B) (gid : ℤ) : List ℤ :=
  (s.groupProfileIds.get? gid).getD []

/-- Add a profile to the index of its group. -/
def addProfileToGroupIndex (s : ProfileManager B) (profileId gid : ℤ) : ProfileManager B :=
  if gid < 0 then s
  else
    let ids := s.groupProfileIdsOf gid
    { s with
      groupProfileIds := s.groupProfileIds.insert gid
        (if profileId ∈ ids then ids else sortIds (ids ++ [profileId])) }

/-- Remove a profile from the index of its group. -/
def removeProfileFromGroupIndex (s : ProfileManager B) (profileId gid : ℤ) : ProfileManager B :=
  match s.groupProfileIds.get? gid with
  | none => s
  | some ids =>
    { s with groupProfileIds := s.groupProfileIds.insert gid (removeAll ids profileId) }

/-- Build the index anew. -/
def rebuildGroupProfileIndex (s : ProfileManager B) : ProfileManager B :=
  s.profiles.entries.foldl (fun s e => s.addProfileToGroupIndex e.1 (s.objects e.2).gid)
    { s with groupProfileIds := s.groups.map fun _ => [] }

/-! ### Lookups -/

/-- `GetProfile`. -/
def getProfile (s : ProfileManager B) (id : ℤ) : Option Ref := s.profiles.get? id

/-- `GetGroup`. -/
def getGroup (s : ProfileManager B) (id : ℤ) : Option Group := s.groups.get? id

/-- `GroupProfiles`, `Group::Profiles`: the profiles of a group in the order of their
identifiers. -/
def groupProfiles (s : ProfileManager B) (gid : ℤ) : List Ref :=
  (s.groupProfileIdsOf gid).filterMap s.getProfile

/-- `Group::ProfilesWithOrder`: the profiles of a group in the order in which they are displayed. -/
def profilesWithOrder (s : ProfileManager B) (group : Group) : List Ref :=
  if group.order = [] then s.groupProfiles group.id else group.order.filterMap s.getProfile

/-! ### Groups -/

/-- `NewGroupID`. -/
def newGroupID (s : ProfileManager B) : ℤ :=
  if s.groups.size = 0 then 0 else s.groupsIdOrder.getLast?.getD 0 + 1

/-- Save a group, which is added if its identifier is not known. -/
def saveGroup (s : ProfileManager B) (ent : Group) : ProfileManager B :=
  if ent.id < 0 then s
  else
    let s :=
      if s.groups.contains ent.id then s
      else { s with
        groups := s.groups.insert ent.id ent
        groupsIdOrder :=
          if ent.id ∈ s.groupsIdOrder then s.groupsIdOrder else sortIds (s.groupsIdOrder ++ [ent.id])
        groupsTabOrder :=
          if ent.id ∈ s.groupsTabOrder then s.groupsTabOrder else s.groupsTabOrder ++ [ent.id]
        groupProfileIds :=
          if s.groupProfileIds.contains ent.id then s.groupProfileIds
          else s.groupProfileIds.insert ent.id [] }
    s.saveGroupToDb ent.id

/-- Change a group that is stored, and save it. -/
def editGroup (s : ProfileManager B) (gid : ℤ) (f : Group → Group) : ProfileManager B :=
  match s.getGroup gid with
  | none => s
  | some group => saveGroup { s with groups := s.groups.insert gid (f group) } (f group)

/-- Add a group that has no identifier yet. -/
def addGroup (s : ProfileManager B) (ent : Group) : ProfileManager B :=
  if 0 ≤ ent.id then s
  else
    let ent := { ent with id := s.newGroupID }
    let s := saveGroup { s with
      groups := s.groups.insert ent.id ent
      groupsIdOrder := s.groupsIdOrder ++ [ent.id]
      groupsTabOrder := s.groupsTabOrder ++ [ent.id]
      groupProfileIds := s.groupProfileIds.insert ent.id [] } ent
    let s := s.saveGroupsTabOrder
    if s.dataStore.current_group < 0 ∨ s.groups.contains s.dataStore.current_group = false then
      { s with dataStore := { s.dataStore with current_group := ent.id } }
    else s

/-! ### Profiles -/

variable [AbstractBean B]

/-- `RefreshSummaryFromBean`. -/
def refreshSummaryFromBean (s : ProfileManager B) (p : Ref) : ProfileManager B :=
  let ent := s.objects p
  { s with
    objects := Function.update s.objects p { ent with summary := AbstractBean.summary ent.bean } }

/-- `NewProfileID`. -/
def newProfileID (s : ProfileManager B) : ℤ :=
  if s.profiles.size = 0 then 0 else s.profilesIdOrder.getLast?.getD 0 + 1

/-- Save a profile, which is added if its identifier is not known. -/
def saveProfile (s : ProfileManager B) (p : Ref) : ProfileManager B :=
  let id := (s.objects p).id
  if id < 0 then s
  else
    let s :=
      if s.profiles.contains id then s
      else
        let s := s.refreshSummaryFromBean p
        addProfileToGroupIndex { s with
          profiles := s.profiles.insert id p
          profilesIdOrder :=
            if id ∈ s.profilesIdOrder then s.profilesIdOrder
            else sortIds (s.profilesIdOrder ++ [id]) } id (s.objects p).gid
    (s.refreshSummaryFromBean p).saveProfileToDb id

/-- The group a new profile is put into. -/
def targetGroup (s : ProfileManager B) (gid : ℤ) : ℤ :=
  let gid := if gid < 0 then s.dataStore.current_group else gid
  if s.groups.contains gid then gid else s.groupsTabOrder.head?.getD gid

/-- Add a profile that has no identifier yet. -/
def addProfile (s : ProfileManager B) (p : Ref) (gid : ℤ) : ProfileManager B :=
  if 0 ≤ (s.objects p).id then s
  else
    let gid := s.targetGroup gid
    let id := s.newProfileID
    let s := { s with objects := Function.update s.objects p { s.objects p with gid, id } }
    let s := s.refreshSummaryFromBean p
    let s := addProfileToGroupIndex { s with
      profiles := s.profiles.insert id p
      profilesIdOrder := s.profilesIdOrder ++ [id] } id gid
    let s := s.editGroup gid fun group =>
      { group with
        toggle_proxy_ids :=
          if group.toggle_proxy_ids = [] then [id] else group.toggle_proxy_ids }
    s.saveProfile p

/-- Delete a profile, unless it is running. -/
def deleteProfile (s : ProfileManager B) (id : ℤ) : ProfileManager B :=
  if id < 0 ∨ s.dataStore.started_id = id then s
  else
    let s :=
      match s.getProfile id with
      | none => s
      | some p =>
        let gid := (s.objects p).gid
        let s := s.editGroup gid fun group =>
          { group with
            toggle_proxy_ids := removeAll group.toggle_proxy_ids id
            order := removeAll group.order id }
        s.removeProfileFromGroupIndex id gid
    deleteProfileFromDb { s with
      profiles := s.profiles.erase id
      profilesIdOrder := removeAll s.profilesIdOrder id } id

/-- Move a profile to another group. -/
def moveProfile (s : ProfileManager B) (p : Ref) (gid : ℤ) : ProfileManager B :=
  let ent := s.objects p
  if gid = ent.gid ∨ gid < 0 then s
  else
    let s := s.editGroup ent.gid fun group =>
      { group with
        order := removeAll group.order ent.id
        toggle_proxy_ids := removeAll group.toggle_proxy_ids ent.id }
    let s := s.removeProfileFromGroupIndex ent.id ent.gid
    let s := s.editGroup gid fun group =>
      { group with
        order := if group.order = [] then [] else group.order ++ [ent.id]
        toggle_proxy_ids :=
          if group.toggle_proxy_ids = [] then [ent.id] else group.toggle_proxy_ids }
    let s := { s with objects := Function.update s.objects p { s.objects p with gid } }
    (s.addProfileToGroupIndex ent.id gid).saveProfile p

/-- Delete a group and its profiles, unless it is the last group. -/
def deleteGroup (s : ProfileManager B) (gid : ℤ) : ProfileManager B :=
  if s.groups.size ≤ 1 then s
  else
    let s := (s.groupProfileIdsOf gid).foldl deleteProfile s
    let s := deleteGroupFromDb { s with
      groups := s.groups.erase gid
      groupsIdOrder := removeAll s.groupsIdOrder gid
      groupsTabOrder := removeAll s.groupsTabOrder gid
      groupProfileIds := s.groupProfileIds.erase gid } gid
    let s := s.saveGroupsTabOrder
    if s.dataStore.current_group = gid then
      { s with
        dataStore := { s.dataStore with current_group := s.groupsTabOrder.head?.getD (-1) } }
    else s

end ProfileManager

end Proxor.Db
