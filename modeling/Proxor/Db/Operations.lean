import Proxor.Lib.Run
import Proxor.Db.Consistency

set_option relaxedAutoImplicit false
set_option autoImplicit false

/-!
# The operations on a consistent store

In a consistent store each operation is one of the changes of `Proxor.Db.Consistency` or a few of
them, so it keeps the store consistent.

## Main definitions

* `Proxor.Db.Op` — the operations with what they are given, and the settings changed by others.
* `Proxor.Db.Op.Allowed` — what the callers of an operation keep to.
* `Proxor.Db.runOps` — operations one after the other.

## Main results

* `Proxor.Db.Consistent.addProfile_eq` and its siblings — an operation as the changes it is made of.
* `Proxor.Db.Consistent.run` — an operation that does not delete the group of the running profile keeps
  the store consistent.
-/

namespace Proxor.Db

variable {B : Type}

/-- A profile with the summary of its bean. -/
def refreshed [AbstractBean B] (ent : ProxyEntity B) : ProxyEntity B :=
  { ent with summary := AbstractBean.summary ent.bean }

namespace ProfileManager

/-- A new object. -/
def alloc (s : ProfileManager B) (ent : ProxyEntity B) : ProfileManager B :=
  { s with objects := Function.update s.objects s.next ent, next := s.next + 1 }

/-- What a group looks like after a profile is added to it. -/
abbrev withAdded (group : Group) (id : ℤ) : Group :=
  { group with
    toggle_proxy_ids := if group.toggle_proxy_ids = [] then [id] else group.toggle_proxy_ids }

/-- What a group looks like after a profile is deleted from it. -/
abbrev withRemoved (group : Group) (id : ℤ) : Group :=
  { group with
    toggle_proxy_ids := removeAll group.toggle_proxy_ids id
    order := removeAll group.order id }

/-- What a group looks like after a profile is moved to it. -/
abbrev withMoved (group : Group) (id : ℤ) : Group :=
  { group with
    order := if group.order = [] then [] else group.order ++ [id]
    toggle_proxy_ids := if group.toggle_proxy_ids = [] then [id] else group.toggle_proxy_ids }

/-- The entity that `addProfile` stores. -/
def added [AbstractBean B] (s : ProfileManager B) (p : Ref) (gid : ℤ) : ProxyEntity B :=
  refreshed { s.objects p with gid := s.targetGroup gid, id := s.newProfileID }

end ProfileManager

/-! ### The operations -/

/-- The operations. -/
inductive Op (B : Type) where
  /-- The settings change, and with them which profile is running. -/
  | setDataStore (dataStore : DataStore)
  | addProfile (ent : ProxyEntity B) (gid : ℤ)
  /-- An object is edited, and saved. -/
  | saveProfile (p : Ref) (ent : ProxyEntity B)
  | deleteProfile (id : ℤ)
  | moveProfile (p : Ref) (gid : ℤ)
  | addGroup (group : Group)
  /-- A group is edited, and saved. -/
  | saveGroup (group : Group)
  | deleteGroup (gid : ℤ)

/-- What the callers of the operations keep to: they save and move profiles that are stored, move them
to groups that exist, and save groups that exist, whose lists name profiles of the group; a group is
new when it is added. -/
def Op.Allowed (s : ProfileManager B) : Op B → Prop
  | .setDataStore _ => True
  | .addProfile _ _ => True
  | .saveProfile p ent => s.profiles.get? ent.id = some p ∧ ent.gid = (s.objects p).gid
  | .deleteProfile _ => True
  | .moveProfile p gid =>
    s.profiles.get? (s.objects p).id = some p ∧ ∃ group, s.groups.get? gid = some group
  | .addGroup group => group.order = [] ∧ group.toggle_proxy_ids = []
  | .saveGroup group =>
    (∃ old, s.groups.get? group.id = some old) ∧
      ∀ id ∈ group.order ++ group.toggle_proxy_ids, s.gidOf id = some group.id
  | .deleteGroup _ => True

/-- An operation. -/
def Op.run [AbstractBean B] (s : ProfileManager B) : Op B → ProfileManager B
  | .setDataStore dataStore => { s with dataStore }
  | .addProfile ent gid => (s.alloc ent).addProfile s.next gid
  | .saveProfile p ent =>
    ProfileManager.saveProfile { s with objects := Function.update s.objects p ent } p
  | .deleteProfile id => s.deleteProfile id
  | .moveProfile p gid => s.moveProfile p gid
  | .addGroup group => s.addGroup group
  | .saveGroup group => s.editGroup group.id fun _ => group
  | .deleteGroup gid => s.deleteGroup gid

/-- The running profile is not of a group that is deleted with others left. -/
def Op.SparesRunning (s : ProfileManager B) : Op B → Prop
  | .deleteGroup gid => 1 < s.groups.size → s.gidOf s.dataStore.started_id ≠ some gid
  | _ => True

/-- Operations one after the other. -/
def runOps [AbstractBean B] (s : ProfileManager B) (ops : List (Op B)) : ProfileManager B :=
  ops.foldl Op.run s

namespace Consistent

variable {R : Reading B} {s : ProfileManager B}

/-! ### Saving a profile -/

/-- A stored profile is saved in place. -/
lemma saveProfile_eq [AbstractBean B] {s : ProfileManager B} {p : Ref}
    (hp : s.profiles.get? (s.objects p).id = some p) (hpos : 0 ≤ (s.objects p).id) : s.saveProfile p = s.putProfile p (refreshed (s.objects p)) := by
  unfold ProfileManager.saveProfile
  dsimp only
  rw [if_neg (by omega), if_pos (by simp [OrdMap.contains, hp])]
  unfold ProfileManager.saveProfileToDb ProfileManager.refreshSummaryFromBean
  dsimp only
  rw [hp]
  dsimp only
  rw [Function.update_self]
  rfl

/-- The edit of a stored profile. -/
lemma saveProfile_run [AbstractBean B] (hs : Consistent R s) {p : Ref} {ent : ProxyEntity B}
    (h : Op.Allowed s (.saveProfile p ent)) :
    Op.run s (.saveProfile p ent) = s.putProfile p (refreshed ent) := by
  obtain ⟨hp, -⟩ := h
  have hpos := (hs.profile ent.id p hp).2.1
  unfold Op.run
  dsimp only
  rw [saveProfile_eq]
  · unfold ProfileManager.putProfile
    dsimp only
    rw [Function.update_self, Function.update_idem]
  · dsimp only
    rw [Function.update_self, hp]
  · dsimp only
    rw [Function.update_self]
    exact hpos

/-! ### Adding a profile -/

/-- A new profile is stored, and noted in its group. -/
lemma addProfile_eq [AbstractBean B] (hs : Consistent R s) {p : Ref} {gid : ℤ}
    (hp : (s.objects p).id < 0) {group : Group} (hg : s.groups.get? (s.targetGroup gid) = some group) :
    s.addProfile p gid = (s.insertProfile p (s.added p gid)).putGroup (s.targetGroup gid)
      (ProfileManager.withAdded group s.newProfileID) := by
  obtain ⟨hgid, hpos⟩ := hs.group _ group hg
  obtain ⟨ids, hids, hen⟩ := hs.index _ group hg
  have hnot : s.newProfileID ∉ ids := by
    intro hmem
    obtain ⟨q, hq, -⟩ := ProfileManager.gidOf_eq_some.1 ((hen.2 _).1 hmem)
    exact absurd (hs.get?_newProfileID.symm.trans hq) (by simp)
  unfold ProfileManager.addProfile
  rw [if_neg (by omega)]
  dsimp only
  unfold ProfileManager.addProfileToGroupIndex
  rw [if_neg (by omega)]
  unfold ProfileManager.refreshSummaryFromBean ProfileManager.groupProfileIdsOf
  simp only [hids, Option.getD_some, if_neg hnot, Function.update_self, Function.update_idem]
  rw [@editGroup_eq B _ _ group, saveProfile_eq]
  · have hids' : s.groupProfileIds.get? (s.added p gid).gid = some ids := hids
    unfold ProfileManager.putProfile ProfileManager.putGroup ProfileManager.insertProfile
      ProfileManager.groupProfileIdsOf
    simp only [hids', Option.getD_some, Function.update_self, Function.update_idem]
    rfl
  · unfold ProfileManager.putGroup
    simp only [Function.update_self, OrdMap.get?_insert_self]
  · unfold ProfileManager.putGroup
    simp only [Function.update_self]
    exact hs.newProfileID_nonneg
  · exact hg
  · exact hgid
  · exact hpos

/-! ### Deleting a profile -/

lemma removeAll_of_not_mem {l : List ℤ} {id : ℤ} (h : id ∉ l) : removeAll l id = l := by
  unfold removeAll
  rw [List.filter_eq_self]
  intro x hx
  rw [decide_eq_true_iff]
  rintro rfl
  exact h hx

lemma erase_of_none {α : Type} {m : OrdMap ℤ α} {id : ℤ} (h : m.get? id = none) : m.erase id = m := by
  refine OrdMap.ext_get? fun x => ?_
  rw [OrdMap.get?_erase]
  split_ifs with hx
  · rw [hx, h]
  · rfl

/-- The running profile is not deleted. -/
lemma deleteProfile_of_running {s : ProfileManager B} {id : ℤ}
    (h : id < 0 ∨ s.dataStore.started_id = id) : s.deleteProfile id = s := if_pos h

/-- What is not stored is not deleted. -/
lemma deleteProfile_of_none (hs : Consistent R s) {id : ℤ} (h : s.profiles.get? id = none) :
    s.deleteProfile id = s := by
  unfold ProfileManager.deleteProfile ProfileManager.getProfile
  split_ifs with hrun
  · rfl
  · have hnot : id ∉ s.profilesIdOrder := fun hmem => by
      obtain ⟨p, hp⟩ := (hs.profilesIdOrder.2 id).1 hmem
      exact absurd (h.symm.trans hp) (by simp)
    simp only [h, erase_of_none h, removeAll_of_not_mem hnot]
    unfold ProfileManager.deleteProfileFromDb
    rw [erase_of_none (hs.noRow id h)]

/-- A stored profile is taken out of its group, and removed. -/
lemma deleteProfile_eq (hs : Consistent R s) {id : ℤ} {p : Ref} {group : Group}
    (hrun : s.dataStore.started_id ≠ id) (hp : s.profiles.get? id = some p)
    (hg : s.groups.get? (s.objects p).gid = some group) :
    s.deleteProfile id = (s.putGroup (s.objects p).gid
      (ProfileManager.withRemoved group id)).eraseProfile id (s.objects p).gid := by
  obtain ⟨hgid, hgpos⟩ := hs.group _ group hg
  obtain ⟨ids, hids, -⟩ := hs.index _ group hg
  have hpos := (hs.profile id p hp).2.1
  unfold ProfileManager.deleteProfile ProfileManager.getProfile
  rw [if_neg (by rintro (h | h); exacts [absurd hpos (by omega), hrun h])]
  simp only [hp]
  rw [@editGroup_eq B _ _ group _ hg hgid hgpos]
  unfold ProfileManager.removeProfileFromGroupIndex ProfileManager.putGroup
    ProfileManager.eraseProfile ProfileManager.groupProfileIdsOf
  simp only [hids, Option.getD_some]
  rfl

/-! ### Moving a profile -/

/-- A stored profile is taken out of its group and put into the other one. -/
lemma moveProfile_eq [AbstractBean B] (hs : Consistent R s) {p : Ref} {gid : ℤ} {old new : Group}
    (hp : s.profiles.get? (s.objects p).id = some p) (hne : gid ≠ (s.objects p).gid)
    (hold : s.groups.get? (s.objects p).gid = some old) (hnew : s.groups.get? gid = some new) :
    s.moveProfile p gid = ((s.putGroup (s.objects p).gid
      (ProfileManager.withRemoved old (s.objects p).id)).regroupProfile p
        (refreshed { s.objects p with gid }) (s.objects p).gid).putGroup gid
          (ProfileManager.withMoved new (s.objects p).id) := by
  obtain ⟨hgid, hgpos⟩ := hs.group _ old hold
  obtain ⟨hgid', hgpos'⟩ := hs.group _ new hnew
  obtain ⟨ids, hids, -⟩ := hs.index _ old hold
  obtain ⟨ids', hids', hen'⟩ := hs.index _ new hnew
  have hnot : (s.objects p).id ∉ ids' := by
    intro hmem
    obtain ⟨q, hq, hqgid⟩ := ProfileManager.gidOf_eq_some.1 ((hen'.2 _).1 hmem)
    obtain rfl := Option.some.inj (hq.symm.trans hp)
    exact hne hqgid.symm
  have hpos := (hs.profile _ p hp).2.1
  unfold ProfileManager.moveProfile
  dsimp only
  rw [if_neg (by rintro (h | h); exacts [hne h, absurd hgpos' (by omega)])]
  rw [@editGroup_eq B _ _ old (fun group => ProfileManager.withRemoved group (s.objects p).id) hold
    hgid hgpos]
  unfold ProfileManager.removeProfileFromGroupIndex
  have hids₁ : (s.putGroup (s.objects p).gid (ProfileManager.withRemoved old (s.objects p).id)
      ).groupProfileIds.get? (s.objects p).gid = some ids := hids
  simp only [hids₁]
  rw [@editGroup_eq B _ _ new fun group => ProfileManager.withMoved group (s.objects p).id]
  · unfold ProfileManager.addProfileToGroupIndex ProfileManager.groupProfileIdsOf
      ProfileManager.putGroup
    simp only [if_neg (show ¬ gid < 0 by omega), OrdMap.get?_insert_of_ne _ _ hne, hids',
      Option.getD_some, if_neg hnot]
    rw [saveProfile_eq]
    · have hidsₙ : (s.groupProfileIds.get? (refreshed { s.objects p with gid }).gid) = some ids' :=
        hids'
      unfold ProfileManager.putProfile ProfileManager.regroupProfile
        ProfileManager.groupProfileIdsOf
      simp only [hids, hidsₙ, Option.getD_some, Function.update_self, Function.update_idem]
      rfl
    · simp only [Function.update_self]
      exact hp
    · simp only [Function.update_self]
      exact hpos
  · exact (OrdMap.get?_insert_of_ne _ _ hne).trans hnew
  · exact hgid'
  · exact hgpos'

/-! ### Adding, saving and deleting a group -/

/-- A new group is stored, and becomes the current one if there is none. -/
lemma addGroup_eq {s : ProfileManager B} {group : Group} (hid : group.id < 0)
    (hpos : 0 ≤ s.newGroupID) :
    s.addGroup group = { s.insertGroup { group with id := s.newGroupID } with
      dataStore := if s.dataStore.current_group < 0 ∨
          (s.groups.insert s.newGroupID { group with id := s.newGroupID }).contains
            s.dataStore.current_group = false
        then { s.dataStore with current_group := s.newGroupID } else s.dataStore } := by
  unfold ProfileManager.addGroup
  rw [if_neg (by omega)]
  dsimp only
  unfold ProfileManager.saveGroup
  dsimp only
  rw [if_neg (not_lt.2 hpos)]
  simp only [OrdMap.contains_insert_self, if_true]
  unfold ProfileManager.saveGroupToDb ProfileManager.saveGroupsTabOrder
  simp only [OrdMap.get?_insert_self]
  split_ifs
  · rfl
  · rfl

/-- The state after the profiles of a group are deleted, without the group. -/
lemma deleteGroup_eq {s : ProfileManager B} {gid : ℤ} (hsize : ¬ s.groups.size ≤ 1) :
    s.deleteGroup gid =
      { ((s.groupProfileIdsOf gid).foldl ProfileManager.deleteProfile s).eraseGroup gid with
        dataStore :=
          let s := ((s.groupProfileIdsOf gid).foldl ProfileManager.deleteProfile s).eraseGroup gid
          if s.dataStore.current_group = gid then
            { s.dataStore with current_group := s.groupsTabOrder.head?.getD (-1) }
          else s.dataStore } := by
  unfold ProfileManager.deleteGroup
  rw [if_neg hsize]
  dsimp only
  split_ifs with h h' h'
  · rfl
  · exact absurd h h'
  · exact absurd h' h
  · rfl

/-! ### Each operation keeps the store consistent -/

/-- The settings have no part in it. -/
lemma setDataStore (hs : Consistent R s) (dataStore : DataStore) :
    Consistent R { s with dataStore } :=
  { hs with }

/-- Nor has an object that is not stored. -/
lemma alloc (hs : Consistent R s) (ent : ProxyEntity B) : Consistent R (s.alloc ent) := by
  have hobj : ∀ (id : ℤ) (p : Ref), s.profiles.get? id = some p →
      (s.alloc ent).objects p = s.objects p := by
    intro id p hp
    have hlt := (hs.profile id p hp).2.2
    exact Function.update_of_ne (Nat.ne_of_lt hlt) ..
  have hgidOf : ∀ id gid, (s.alloc ent).gidOf id = some gid ↔ s.gidOf id = some gid := by
    intro id gid
    rw [ProfileManager.gidOf_eq_some, ProfileManager.gidOf_eq_some]
    refine exists_congr fun p => and_congr_right fun hp => ?_
    rw [hobj id p hp]
  refine { hs with
    index := fun gid group h => ?_
    gid := fun id p hp => ?_
    order := fun gid group h id hid => (hgidOf id gid).2 (hs.order gid group h id hid)
    profile := fun id p hp => ?_
    row := fun id p hp => ?_ }
  · obtain ⟨ids, hids, hen⟩ := hs.index gid group h
    exact ⟨ids, hids, hen.congr fun id => (hgidOf id gid).symm⟩
  · rw [hobj id p hp]
    exact hs.gid id p hp
  · obtain ⟨hid, hpos, hlt⟩ := hs.profile id p hp
    rw [hobj id p hp]
    exact ⟨hid, hpos, Nat.lt_succ_of_lt hlt⟩
  · rw [hobj id p hp]
    exact hs.row id p hp

/-- A group keeps its profiles when another entry is added to it. -/
lemma mem_withAdded {group : Group} {id x : ℤ}
    (h : x ∈ (ProfileManager.withAdded group id).order ++
      (ProfileManager.withAdded group id).toggle_proxy_ids) :
    x ∈ group.order ++ group.toggle_proxy_ids ∨ x = id := by
  unfold ProfileManager.withAdded at h
  dsimp only at h
  split_ifs at h with ht
  · rw [List.mem_append, List.mem_singleton] at h
    rw [List.mem_append]
    tauto
  · exact .inl h

lemma mem_withRemoved {group : Group} {id x : ℤ} :
    x ∈ (ProfileManager.withRemoved group id).order ++
      (ProfileManager.withRemoved group id).toggle_proxy_ids ↔
    x ∈ group.order ++ group.toggle_proxy_ids ∧ x ≠ id := by
  unfold ProfileManager.withRemoved
  dsimp only
  rw [List.mem_append, mem_removeAll, mem_removeAll, List.mem_append]
  tauto

lemma mem_withMoved {group : Group} {id x : ℤ}
    (h : x ∈ (ProfileManager.withMoved group id).order ++
      (ProfileManager.withMoved group id).toggle_proxy_ids) :
    x ∈ group.order ++ group.toggle_proxy_ids ∨ x = id := by
  unfold ProfileManager.withMoved at h
  dsimp only at h
  rw [List.mem_append] at h ⊢
  rcases h with h | h
  · split_ifs at h
    · exact absurd h List.not_mem_nil
    · rw [List.mem_append, List.mem_singleton] at h
      tauto
  · split_ifs at h
    · exact .inr (List.mem_singleton.1 h)
    · exact .inl (.inr h)

/-- Adding a profile. -/
lemma addProfile [AbstractBean B] (hs : Consistent R s) {p : Ref} (hp : (s.objects p).id < 0)
    (hnext : p < s.next) (gid : ℤ) : Consistent R (s.addProfile p gid) := by
  obtain ⟨group, hg⟩ := hs.targetGroup_mem gid
  rw [hs.addProfile_eq hp hg]
  have hins : Consistent R (s.insertProfile p (s.added p gid)) :=
    hs.insertProfile (fun id q hq => hs.lt_newProfileID hq) hs.newProfileID_nonneg
      (hs.not_stored hp) hnext ⟨group, hg⟩
  refine @putGroup _ _ _ hins _ group _ hg (hs.group _ group hg).1 fun id hid => ?_
  rw [gidOf_insertProfile hs.get?_newProfileID (hs.not_stored hp)]
  rcases mem_withAdded hid with hid | rfl
  · exact .inl (hs.order _ group hg id hid)
  · exact .inr ⟨rfl, rfl⟩

/-- Deleting a profile. -/
lemma deleteProfile (hs : Consistent R s) (id : ℤ) : Consistent R (s.deleteProfile id) := by
  by_cases hrun : id < 0 ∨ s.dataStore.started_id = id
  · rw [deleteProfile_of_running hrun]
    exact hs
  · cases hp : s.profiles.get? id with
    | none =>
      rw [hs.deleteProfile_of_none hp]
      exact hs
    | some p =>
      obtain ⟨group, hg⟩ := hs.gid id p hp
      rw [hs.deleteProfile_eq (fun h => hrun (.inr h)) hp hg]
      have hput : Consistent R (s.putGroup (s.objects p).gid
          (ProfileManager.withRemoved group id)) :=
        hs.putGroup hg (hs.group _ group hg).1 fun x hx =>
          hs.order _ group hg x (mem_withRemoved.1 hx).1
      refine hput.eraseProfile (ProfileManager.gidOf_eq_some.2 ⟨p, hp, rfl⟩) fun group' hg' hid => ?_
      obtain rfl := Option.some.inj ((OrdMap.get?_insert_self ..).symm.trans hg')
      exact (mem_withRemoved.1 hid).2 rfl

/-- What is stored after a profile is deleted. -/
lemma gidOf_deleteProfile (hs : Consistent R s) {id : ℤ} (hrun : s.dataStore.started_id ≠ id)
    {x gid : ℤ} : (s.deleteProfile id).gidOf x = some gid ↔ s.gidOf x = some gid ∧ x ≠ id := by
  cases hp : s.profiles.get? id with
  | none =>
    rw [hs.deleteProfile_of_none hp]
    refine ⟨fun h => ⟨h, ?_⟩, fun h => h.1⟩
    rintro rfl
    obtain ⟨p, hp', -⟩ := ProfileManager.gidOf_eq_some.1 h
    exact absurd (hp.symm.trans hp') (by simp)
  | some p =>
    obtain ⟨group, hg⟩ := hs.gid id p hp
    rw [hs.deleteProfile_eq hrun hp hg, gidOf_eraseProfile]
    rfl

/-- Moving a stored profile to a group that exists. -/
lemma moveProfile [AbstractBean B] (hs : Consistent R s) {p : Ref} {gid : ℤ}
    (hp : s.profiles.get? (s.objects p).id = some p)
    (hgid : ∃ group, s.groups.get? gid = some group) : Consistent R (s.moveProfile p gid) := by
  by_cases hne : gid = (s.objects p).gid
  · unfold ProfileManager.moveProfile
    rw [if_pos (.inl hne)]
    exact hs
  · obtain ⟨old, hold⟩ := hs.gid _ p hp
    obtain ⟨new, hnew⟩ := hgid
    have hput : Consistent R (s.putGroup (s.objects p).gid
        (ProfileManager.withRemoved old (s.objects p).id)) :=
      hs.putGroup hold (hs.group _ old hold).1 fun x hx =>
        hs.order _ old hold x (mem_withRemoved.1 hx).1
    have hnew' : (s.putGroup (s.objects p).gid (ProfileManager.withRemoved old (s.objects p).id)
        ).groups.get? gid = some new := (OrdMap.get?_insert_of_ne _ _ hne).trans hnew
    have hregroup := hput.regroupProfile (refreshed { s.objects p with gid }) hp rfl hne
      ⟨new, hnew'⟩ fun group' hg' hid => by
        obtain rfl := Option.some.inj ((OrdMap.get?_insert_self ..).symm.trans hg')
        exact (mem_withRemoved.1 hid).2 rfl
    rw [hs.moveProfile_eq hp hne hold hnew]
    refine @putGroup _ _ _ hregroup _ new _ hnew' (hs.group _ new hnew).1 fun x hx => ?_
    rw [hput.gidOf_regroupProfile (refreshed { s.objects p with gid }) hp]
    split_ifs with hxid
    · rfl
    · rcases mem_withMoved hx with hx | hx
      · exact hs.order _ new hnew x hx
      · exact absurd hx hxid

/-- Adding a group. -/
lemma addGroup (hs : Consistent R s) {group : Group} (horder : group.order = [])
    (htoggle : group.toggle_proxy_ids = []) : Consistent R (s.addGroup group) := by
  by_cases hid : group.id < 0
  · rw [addGroup_eq hid hs.newGroupID_nonneg]
    have hlt : ∀ (gid : ℤ) (group' : Group), s.groups.get? gid = some group' → gid < s.newGroupID :=
      fun gid group' hgroup' => hs.lt_newGroupID hgroup'
    exact setDataStore (insertGroup hs.toCoherent { group with id := s.newGroupID }
      hs.newGroupID_nonneg hlt horder htoggle) _
  · unfold ProfileManager.addGroup
    rw [if_pos (by omega)]
    exact hs

/-- Saving a stored group. -/
lemma saveGroup (hs : Consistent R s) {group old : Group} (hg : s.groups.get? group.id = some old)
    (horder : ∀ id ∈ group.order ++ group.toggle_proxy_ids, s.gidOf id = some group.id) :
    Consistent R (s.editGroup group.id fun _ => group) := by
  rw [editGroup_eq hg rfl (hs.group _ old hg).2]
  exact hs.putGroup hg rfl horder

/-- The groups and the settings are as before a profile is deleted, but for the lists of its group. -/
lemma deleteProfile_frame (hs : Consistent R s) (id : ℤ) :
    (s.deleteProfile id).groups.keys = s.groups.keys ∧
      (s.deleteProfile id).dataStore = s.dataStore := by
  by_cases hrun : id < 0 ∨ s.dataStore.started_id = id
  · rw [deleteProfile_of_running hrun]
    exact ⟨rfl, rfl⟩
  · cases hp : s.profiles.get? id with
    | none =>
      rw [hs.deleteProfile_of_none hp]
      exact ⟨rfl, rfl⟩
    | some p =>
      obtain ⟨group, hg⟩ := hs.gid id p hp
      rw [hs.deleteProfile_eq (fun h => hrun (.inr h)) hp hg]
      exact ⟨s.groups.keys_insert_of_mem _ (s.groups.mem_keys.2 ⟨group, hg⟩), rfl⟩

/-- Deleting profiles that are not running.

**Proof sketch.** By induction on the profiles; each deletion keeps the store consistent and the running
profile as it is. -/
lemma foldl_deleteProfile {ids : List ℤ} (hs : Consistent R s)
    (hrun : s.dataStore.started_id ∉ ids) :
    Consistent R (ids.foldl ProfileManager.deleteProfile s) ∧
      (ids.foldl ProfileManager.deleteProfile s).groups.keys = s.groups.keys ∧
      ∀ x gid, (ids.foldl ProfileManager.deleteProfile s).gidOf x = some gid ↔
        s.gidOf x = some gid ∧ x ∉ ids := by
  induction ids generalizing s with
  | nil => simp [hs]
  | cons id ids ih =>
    rw [List.mem_cons, not_or] at hrun
    obtain ⟨hkeys, hdata⟩ := hs.deleteProfile_frame id
    obtain ⟨hcons, hkeys', hgid⟩ := ih (hs.deleteProfile id) (hdata ▸ hrun.2)
    rw [List.foldl_cons]
    refine ⟨hcons, hkeys'.trans hkeys, fun x gid => ?_⟩
    rw [hgid, hs.gidOf_deleteProfile hrun.1, List.mem_cons, not_or, and_assoc]

/-- Deleting a group that does not hold the running profile, or that is the last one. -/
lemma deleteGroup (hs : Consistent R s) {gid : ℤ}
    (hrun : 1 < s.groups.size → s.gidOf s.dataStore.started_id ≠ some gid) :
    Consistent R (s.deleteGroup gid) := by
  by_cases hsize : s.groups.size ≤ 1
  · unfold ProfileManager.deleteGroup
    rw [if_pos hsize]
    exact hs
  · have hids : ∀ id, id ∈ s.groupProfileIdsOf gid ↔ s.gidOf id = some gid := by
      intro id
      cases hg : s.groups.get? gid with
      | some group =>
        obtain ⟨ids, hids, hen⟩ := hs.index gid group hg
        rw [groupProfileIdsOf_eq hids]
        exact hen.2 id
      | none =>
        have hempty : s.groupProfileIdsOf gid = [] := by
          unfold ProfileManager.groupProfileIdsOf
          rw [hs.noIndex gid hg]
          rfl
        rw [hempty]
        refine ⟨fun h => absurd h List.not_mem_nil, fun h => ?_⟩
        obtain ⟨p, hp, rfl⟩ := ProfileManager.gidOf_eq_some.1 h
        obtain ⟨group, hg'⟩ := hs.gid id p hp
        exact absurd (hg.symm.trans hg') (by simp)
    have hnot : s.dataStore.started_id ∉ s.groupProfileIdsOf gid := by
      rw [hids]
      exact hrun (by omega)
    obtain ⟨hcons, hkeys, hgid⟩ := hs.foldl_deleteProfile hnot
    rw [deleteGroup_eq hsize]
    refine setDataStore (hcons.eraseGroup ?_ ?_) _
    · intro id hid
      rw [hgid, hids] at hid
      exact hid.2 hid.1
    · rw [← OrdMap.length_keys, hkeys, OrdMap.length_keys]
      exact hsize

/-- **An operation that spares the running profile keeps the store consistent.** -/
theorem run [AbstractBean B] (hs : Consistent R s) {op : Op B} (hop : op.Allowed s) (hrun : op.SparesRunning s) :
    Consistent R (op.run s) := by
  cases op with
  | setDataStore dataStore => exact hs.setDataStore dataStore
  | addProfile ent gid =>
    have hself : (s.alloc ent).objects s.next = ent := Function.update_self ..
    by_cases hid : ent.id < 0
    · refine (hs.alloc ent).addProfile ?_ (Nat.lt_succ_self _) gid
      rw [hself]
      exact hid
    · unfold Op.run ProfileManager.addProfile
      dsimp only
      rw [if_pos (by rw [hself]; omega)]
      exact hs.alloc ent
  | saveProfile p ent =>
    rw [hs.saveProfile_run hop]
    exact hs.putProfile hop.1 hop.2.symm
  | deleteProfile id => exact hs.deleteProfile id
  | moveProfile p gid => exact hs.moveProfile hop.1 hop.2
  | addGroup group => exact hs.addGroup hop.1 hop.2
  | saveGroup group =>
    obtain ⟨⟨old, hold⟩, horder⟩ := hop
    exact hs.saveGroup hold horder
  | deleteGroup gid => exact hs.deleteGroup hrun

/-- Operations that spare the running profile keep the store consistent. -/
theorem runOps [AbstractBean B] (hs : Consistent R s) {ops : List (Op B)}
    (hops : Each Op.run (fun s op => op.Allowed s ∧ op.SparesRunning s) s ops) :
    Consistent R (runOps s ops) :=
  hops.invariant (fun _ _ hs h => hs.run h.1 h.2) hs

end Consistent

end Proxor.Db
