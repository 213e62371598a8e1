import Mathlib.Data.Option.Basic
import Mathlib.Logic.Relation
import Proxor.Db.ProfileManager

set_option relaxedAutoImplicit false
set_option autoImplicit false

/-!
# What the store keeps consistent

The maps, the indexes over them and the tables agree. What the operations of the store are made of is
stated once, as the fields it changes; that it keeps the store consistent follows field by field.

## Main definitions

* `Proxor.Db.Reading` — how rows may relate to what is in memory.
* `Proxor.Db.Consistent` — the maps, the indexes and the tables agree, and there is a group.

## Main results

* `Proxor.Db.Consistent.insertProfile` and its siblings — each change keeps the store consistent.
-/

namespace Proxor.Db

variable {B : Type}

namespace ProfileManager

/-- The group of a stored profile. -/
def gidOf (s : ProfileManager B) (id : ℤ) : Option ℤ :=
  (s.profiles.get? id).map fun p => (s.objects p).gid

lemma gidOf_eq_some {s : ProfileManager B} {id gid : ℤ} :
    s.gidOf id = some gid ↔ ∃ p, s.profiles.get? id = some p ∧ (s.objects p).gid = gid := by
  unfold gidOf
  rw [Option.map_eq_some_iff]

/-- Replace a group, and its row. -/
def putGroup (s : ProfileManager B) (gid : ℤ) (group : Group) : ProfileManager B :=
  { s with
    groups := s.groups.insert gid group
    db := { s.db with groups := s.db.groups.insert gid group } }

/-- Replace a stored object, and its row. -/
def putProfile (s : ProfileManager B) (p : Ref) (ent : ProxyEntity B) : ProfileManager B :=
  { s with
    objects := Function.update s.objects p ent
    db := { s.db with profiles := s.db.profiles.insert ent.id ent } }

/-- Store a new object, index it and write its row. -/
def insertProfile (s : ProfileManager B) (p : Ref) (ent : ProxyEntity B) : ProfileManager B :=
  { s with
    objects := Function.update s.objects p ent
    profiles := s.profiles.insert ent.id p
    profilesIdOrder := s.profilesIdOrder ++ [ent.id]
    groupProfileIds :=
      s.groupProfileIds.insert ent.gid (sortIds (s.groupProfileIdsOf ent.gid ++ [ent.id]))
    db := { s.db with profiles := s.db.profiles.insert ent.id ent } }

/-- Remove a profile of a group, its index and its row. -/
def eraseProfile (s : ProfileManager B) (id gid : ℤ) : ProfileManager B :=
  { s with
    profiles := s.profiles.erase id
    profilesIdOrder := removeAll s.profilesIdOrder id
    groupProfileIds := s.groupProfileIds.insert gid (removeAll (s.groupProfileIdsOf gid) id)
    db := { s.db with profiles := s.db.profiles.erase id } }

/-- Put a profile of a group into another one. -/
def regroupProfile (s : ProfileManager B) (p : Ref) (ent : ProxyEntity B) (old : ℤ) :
    ProfileManager B :=
  { s with
    objects := Function.update s.objects p ent
    groupProfileIds :=
      (s.groupProfileIds.insert old (removeAll (s.groupProfileIdsOf old) ent.id)).insert ent.gid
        (sortIds (s.groupProfileIdsOf ent.gid ++ [ent.id]))
    db := { s.db with profiles := s.db.profiles.insert ent.id ent } }

/-- Store a new group, index it and write its row. -/
def insertGroup (s : ProfileManager B) (group : Group) : ProfileManager B :=
  { s with
    groups := s.groups.insert group.id group
    groupsIdOrder := s.groupsIdOrder ++ [group.id]
    groupsTabOrder := s.groupsTabOrder ++ [group.id]
    groupProfileIds := s.groupProfileIds.insert group.id []
    db := { s.db with
      groups := s.db.groups.insert group.id group
      groupsTabOrder := some (s.groupsTabOrder ++ [group.id]) } }

/-- Remove a group, its index and its row. -/
def eraseGroup (s : ProfileManager B) (gid : ℤ) : ProfileManager B :=
  { s with
    groups := s.groups.erase gid
    groupsIdOrder := removeAll s.groupsIdOrder gid
    groupsTabOrder := removeAll s.groupsTabOrder gid
    groupProfileIds := s.groupProfileIds.erase gid
    db := { s.db with
      groups := s.db.groups.erase gid
      groupsTabOrder := some (removeAll s.groupsTabOrder gid) } }

end ProfileManager

/-- How the rows may relate to what is in memory. A row that was just written does. -/
structure Reading (B : Type) where
  profile : ProxyEntity B → ProxyEntity B → Prop
  group : Group → Group → Prop
  profile_refl : ∀ ent, profile ent ent
  group_refl : ∀ ent, group ent ent

/-- The rows are what is in memory. -/
def Reading.exact : Reading B where
  profile := Eq
  group := Eq
  profile_refl _ := rfl
  group_refl _ := rfl

/-- The maps, the indexes and the tables agree. -/
structure Coherent (R : Reading B) (s : ProfileManager B) : Prop where
  profilesIdOrder : Enumerates s.profilesIdOrder fun id => ∃ p, s.profiles.get? id = some p
  groupsIdOrder : Enumerates s.groupsIdOrder fun gid => ∃ group, s.groups.get? gid = some group
  index : ∀ (gid : ℤ) (group : Group), s.groups.get? gid = some group →
    ∃ ids, s.groupProfileIds.get? gid = some ids ∧ Enumerates ids fun id => s.gidOf id = some gid
  noIndex : ∀ gid : ℤ, s.groups.get? gid = none → s.groupProfileIds.get? gid = none
  gid : ∀ (id : ℤ) (p : Ref), s.profiles.get? id = some p →
    ∃ group, s.groups.get? (s.objects p).gid = some group
  order : ∀ (gid : ℤ) (group : Group), s.groups.get? gid = some group →
    ∀ id ∈ group.order ++ group.toggle_proxy_ids, s.gidOf id = some gid
  tabs : s.groupsTabOrder.Perm s.groups.keys
  savedTabs : (s.db.groupsTabOrder.getD []).Nodup
  profile : ∀ (id : ℤ) (p : Ref), s.profiles.get? id = some p →
    (s.objects p).id = id ∧ 0 ≤ id ∧ p < s.next
  group : ∀ (gid : ℤ) (group : Group), s.groups.get? gid = some group → group.id = gid ∧ 0 ≤ gid
  row : ∀ (id : ℤ) (p : Ref), s.profiles.get? id = some p →
    ∃ row, s.db.profiles.get? id = some row ∧ R.profile row (s.objects p)
  noRow : ∀ id : ℤ, s.profiles.get? id = none → s.db.profiles.get? id = none
  groupRow : ∀ (gid : ℤ) (group : Group), s.groups.get? gid = some group →
    ∃ row, s.db.groups.get? gid = some row ∧ R.group row group
  noGroupRow : ∀ gid : ℤ, s.groups.get? gid = none → s.db.groups.get? gid = none

/-- They agree, and there is a group. -/
structure Consistent (R : Reading B) (s : ProfileManager B) : Prop extends Coherent R s where
  nonempty : s.groups.size ≠ 0

namespace Consistent

variable {R : Reading B} {s : ProfileManager B}

/-! ### Small steps -/

/-- Changing a stored group writes it through. -/
lemma editGroup_eq {s : ProfileManager B} {gid : ℤ} {group : Group} {f : Group → Group}
    (hg : s.groups.get? gid = some group) (hid : (f group).id = gid) (hpos : 0 ≤ gid) :
    s.editGroup gid f = s.putGroup gid (f group) := by
  unfold ProfileManager.editGroup ProfileManager.getGroup
  rw [hg]
  dsimp only
  unfold ProfileManager.saveGroup
  rw [if_neg (by omega)]
  simp only [hid, OrdMap.contains, OrdMap.get?_insert_self, Option.isSome_some, if_true]
  unfold ProfileManager.saveGroupToDb
  simp only [OrdMap.get?_insert_self]
  rfl

/-- Two stored profiles with the same object are the same. -/
lemma eq_of_ref (hs : Consistent R s) {id id' : ℤ} {p : Ref} (h : s.profiles.get? id = some p)
    (h' : s.profiles.get? id' = some p) : id = id' :=
  (hs.profile id p h).1.symm.trans (hs.profile id' p h').1

/-- An object without identifier is not stored. -/
lemma not_stored (hs : Consistent R s) {p : Ref} (hp : (s.objects p).id < 0) (id : ℤ) :
    s.profiles.get? id ≠ some p := by
  intro h
  obtain ⟨hid, hpos, -⟩ := hs.profile id p h
  omega

/-- A new identifier is greater than all. -/
lemma lt_newProfileID [AbstractBean B] (hs : Consistent R s) {id : ℤ} {p : Ref}
    (h : s.profiles.get? id = some p) : id < s.newProfileID := by
  have hsize : s.profiles.size ≠ 0 := fun hzero => by
    rw [OrdMap.size_eq_zero] at hzero
    exact absurd (hzero id) (by simp [h])
  unfold ProfileManager.newProfileID
  rw [if_neg hsize]
  exact Int.lt_add_one_of_le (hs.profilesIdOrder.le_getLast ⟨p, h⟩ 0)

lemma newProfileID_nonneg [AbstractBean B] (hs : Consistent R s) : 0 ≤ s.newProfileID := by
  by_cases hsize : s.profiles.size = 0
  · unfold ProfileManager.newProfileID
    rw [if_pos hsize]
  · obtain ⟨id, p, hp⟩ := s.profiles.exists_get? hsize
    have hlt := hs.lt_newProfileID hp
    have hpos := (hs.profile id p hp).2.1
    omega

lemma get?_newProfileID [AbstractBean B] (hs : Consistent R s) :
    s.profiles.get? s.newProfileID = none := by
  rw [Option.eq_none_iff_forall_ne_some]
  intro p hp
  exact absurd (hs.lt_newProfileID hp) (lt_irrefl _)

lemma lt_newGroupID (hs : Consistent R s) {gid : ℤ} {group : Group}
    (h : s.groups.get? gid = some group) : gid < s.newGroupID := by
  unfold ProfileManager.newGroupID
  rw [if_neg hs.nonempty]
  exact Int.lt_add_one_of_le (hs.groupsIdOrder.le_getLast ⟨group, h⟩ 0)

lemma newGroupID_nonneg (hs : Consistent R s) : 0 ≤ s.newGroupID := by
  obtain ⟨gid, group, hgroup⟩ := s.groups.exists_get? hs.nonempty
  have hlt := hs.lt_newGroupID hgroup
  have hpos := (hs.group gid group hgroup).2
  omega

/-- A new profile is put into a group that exists. -/
lemma targetGroup_mem [AbstractBean B] (hs : Consistent R s) (gid : ℤ) :
    ∃ group, s.groups.get? (s.targetGroup gid) = some group := by
  unfold ProfileManager.targetGroup
  set gid' := if gid < 0 then s.dataStore.current_group else gid
  dsimp only
  split_ifs with h
  · exact Option.isSome_iff_exists.1 h
  · obtain ⟨gid₀, group₀, hgroup₀⟩ := s.groups.exists_get? hs.nonempty
    have hmem : gid₀ ∈ s.groupsTabOrder := hs.tabs.mem_iff.2 (s.groups.mem_keys.2 ⟨_, hgroup₀⟩)
    cases htabs : s.groupsTabOrder with
    | nil => exact absurd (htabs ▸ hmem) List.not_mem_nil
    | cons first rest =>
      refine s.groups.mem_keys.1 (hs.tabs.mem_iff.1 ?_)
      rw [htabs]
      exact List.mem_cons_self

/-! ### Replacing a group -/

lemma putGroup (hs : Consistent R s) {gid : ℤ} {old group : Group}
    (hg : s.groups.get? gid = some old) (hid : group.id = gid)
    (horder : ∀ id ∈ group.order ++ group.toggle_proxy_ids, s.gidOf id = some gid) :
    Consistent R (s.putGroup gid group) := by
  have hpos := (hs.group gid old hg).2
  have hiff : ∀ gid' : ℤ, (∃ group', s.groups.get? gid' = some group') ↔
      ∃ group', (s.groups.insert gid group).get? gid' = some group' := by
    intro gid'
    rw [OrdMap.get?_insert]
    by_cases h : gid' = gid
    · simp [h, hg]
    · simp [h]
  have hold : ∀ (gid' : ℤ) (group' : Group), (s.groups.insert gid group).get? gid' = some group' →
      gid' = gid ∧ group' = group ∨ s.groups.get? gid' = some group' := by
    intro gid' group' h
    rw [OrdMap.get?_insert] at h
    split_ifs at h with heq
    · exact .inl ⟨heq, (Option.some.inj h).symm⟩
    · exact .inr h
  have hkeys : (s.groups.insert gid group).keys = s.groups.keys :=
    s.groups.keys_insert_of_mem group (s.groups.mem_keys.2 ⟨old, hg⟩)
  refine { hs with
    groupsIdOrder := hs.groupsIdOrder.congr hiff
    index := fun gid' group' h => ?_
    noIndex := fun gid' h => ?_
    gid := fun id p h => (hiff _).1 (hs.gid id p h)
    order := fun gid' group' h => ?_
    tabs := by rw [ProfileManager.putGroup, hkeys]; exact hs.tabs
    nonempty := by
      rw [ProfileManager.putGroup, ← OrdMap.length_keys, hkeys, OrdMap.length_keys]
      exact hs.nonempty
    group := fun gid' group' h => ?_
    groupRow := fun gid' group' h => ?_
    noGroupRow := fun gid' h => ?_ }
  · obtain ⟨group'', h⟩ := (hiff gid').2 ⟨group', h⟩
    exact hs.index gid' group'' h
  · refine hs.noIndex gid' (Option.eq_none_iff_forall_ne_some.2 fun group' hsome => ?_)
    obtain ⟨group'', hsome⟩ := (hiff gid').1 ⟨group', hsome⟩
    exact absurd (h.symm.trans hsome) (by simp)
  · rcases hold gid' group' h with ⟨rfl, rfl⟩ | h
    · exact horder
    · exact hs.order gid' group' h
  · rcases hold gid' group' h with ⟨rfl, rfl⟩ | h
    · exact ⟨hid, hpos⟩
    · exact hs.group gid' group' h
  · have h' := h
    unfold ProfileManager.putGroup at h' ⊢
    dsimp only at h' ⊢
    rw [OrdMap.get?_insert] at h' ⊢
    split_ifs at h' ⊢ with hg'
    · obtain rfl := Option.some.inj h'
      exact ⟨group, rfl, R.group_refl group⟩
    · exact hs.groupRow gid' group' h'
  · unfold ProfileManager.putGroup at h ⊢
    dsimp only at h ⊢
    rw [OrdMap.get?_insert] at h ⊢
    split_ifs at h ⊢
    exact hs.noGroupRow gid' h

/-! ### Replacing a profile -/

lemma gidOf_putProfile {p : Ref} {ent : ProxyEntity B}
    (hgid : (s.objects p).gid = ent.gid) (id gid : ℤ) :
    (s.putProfile p ent).gidOf id = some gid ↔ s.gidOf id = some gid := by
  rw [ProfileManager.gidOf_eq_some, ProfileManager.gidOf_eq_some]
  unfold ProfileManager.putProfile
  dsimp only
  refine exists_congr fun q => and_congr_right fun hq => ?_
  by_cases hqp : q = p
  · rw [hqp, Function.update_self, hgid]
  · rw [Function.update_of_ne hqp]

lemma putProfile (hs : Consistent R s) {p : Ref} {ent : ProxyEntity B}
    (hp : s.profiles.get? ent.id = some p) (hgid : (s.objects p).gid = ent.gid) :
    Consistent R (s.putProfile p ent) := by
  have hother : ∀ (id : ℤ) (q : Ref), s.profiles.get? id = some q → id ≠ ent.id → q ≠ p := by
    rintro id q hq hne rfl
    exact hne (hs.eq_of_ref hq hp)
  refine { hs with
    index := fun gid group h => ?_
    gid := fun id q hq => ?_
    order := fun gid group h id hid => (gidOf_putProfile hgid id gid).2 (hs.order gid group h id hid)
    profile := fun id q hq => ?_
    row := fun id q hq => ?_
    noRow := fun id hid => ?_ }
  · obtain ⟨ids, hids, hen⟩ := hs.index gid group h
    exact ⟨ids, hids, hen.congr fun id => (gidOf_putProfile hgid id gid).symm⟩
  · have hq' := hs.gid id q hq
    unfold ProfileManager.putProfile
    dsimp only
    by_cases hqp : q = p
    · rw [hqp, Function.update_self, ← hgid, ← hqp]
      exact hq'
    · rw [Function.update_of_ne hqp]
      exact hq'
  · obtain ⟨hid, hpos, hlt⟩ := hs.profile id q hq
    unfold ProfileManager.putProfile
    dsimp only
    refine ⟨?_, hpos, hlt⟩
    by_cases hqp : q = p
    · subst hqp
      rw [Function.update_self]
      exact hs.eq_of_ref hp hq
    · rw [Function.update_of_ne hqp]
      exact hid
  · unfold ProfileManager.putProfile
    dsimp only
    by_cases hid : id = ent.id
    · subst hid
      obtain rfl := Option.some.inj (hp.symm.trans hq)
      rw [OrdMap.get?_insert_self, Function.update_self]
      exact ⟨ent, rfl, R.profile_refl ent⟩
    · rw [OrdMap.get?_insert_of_ne _ _ hid, Function.update_of_ne (hother id q hq hid)]
      exact hs.row id q hq
  · unfold ProfileManager.putProfile
    dsimp only
    have hne : id ≠ ent.id := by
      rintro rfl
      exact absurd (hid.symm.trans hp) (by simp)
    rw [OrdMap.get?_insert_of_ne _ _ hne]
    exact hs.noRow id hid

/-! ### Adding a profile -/

lemma mem_removeAll {l : List ℤ} {id x : ℤ} : x ∈ removeAll l id ↔ x ∈ l ∧ x ≠ id := by
  rw [removeAll, List.mem_filter, decide_eq_true_iff]

/-- Removing an identifier from an enumeration. -/
lemma enumerates_removeAll {l : List ℤ} {q : ℤ → Prop} (h : Enumerates l q) (id : ℤ) :
    Enumerates (removeAll l id) fun x => q x ∧ x ≠ id :=
  (h.filter fun x => decide (x ≠ id)).congr fun x => by rw [decide_eq_true_iff]

/-- Adding an identifier to an enumeration. -/
lemma enumerates_sortIds {l : List ℤ} {q : ℤ → Prop} (h : Enumerates l q) {id : ℤ} (hid : ¬ q id) :
    Enumerates (sortIds (l ++ [id])) fun x => q x ∨ x = id := by
  have hnodup : (l ++ [id]).Nodup := by
    refine List.nodup_append.2 ⟨h.nodup, List.nodup_singleton id, fun a ha b hb => ?_⟩
    rintro rfl
    rw [List.mem_singleton] at hb
    exact hid (hb ▸ (h.2 a).1 ha)
  refine (enumerates_mergeSort hnodup).congr fun x => ?_
  rw [List.mem_append, List.mem_singleton, h.2]

lemma groupProfileIdsOf_eq {gid : ℤ} {ids : List ℤ} (h : s.groupProfileIds.get? gid = some ids) :
    s.groupProfileIdsOf gid = ids := by
  unfold ProfileManager.groupProfileIdsOf
  rw [h]
  rfl

lemma gidOf_insertProfile {p : Ref} {ent : ProxyEntity B} (hnew : s.profiles.get? ent.id = none)
    (hp : ∀ id, s.profiles.get? id ≠ some p) (id gid : ℤ) :
    (s.insertProfile p ent).gidOf id = some gid ↔
      s.gidOf id = some gid ∨ id = ent.id ∧ ent.gid = gid := by
  rw [ProfileManager.gidOf_eq_some, ProfileManager.gidOf_eq_some]
  unfold ProfileManager.insertProfile
  dsimp only
  rw [OrdMap.get?_insert]
  constructor
  · rintro ⟨q, hq, hgid⟩
    split_ifs at hq with hid
    · obtain rfl := Option.some.inj hq
      rw [Function.update_self] at hgid
      exact .inr ⟨hid, hgid⟩
    · have hqp : q ≠ p := fun h => hp id (h ▸ hq)
      rw [Function.update_of_ne hqp] at hgid
      exact .inl ⟨q, hq, hgid⟩
  · rintro (⟨q, hq, hgid⟩ | ⟨rfl, hgid⟩)
    · refine ⟨q, ?_, ?_⟩
      · rw [if_neg]
        · exact hq
        · rintro rfl
          exact absurd (hnew.symm.trans hq) (by simp)
      · have hqp : q ≠ p := fun h => hp id (h ▸ hq)
        rw [Function.update_of_ne hqp]
        exact hgid
    · exact ⟨p, if_pos rfl, by rw [Function.update_self, hgid]⟩

lemma insertProfile (hs : Consistent R s) {p : Ref} {ent : ProxyEntity B}
    (hlt : ∀ (id : ℤ) (q : Ref), s.profiles.get? id = some q → id < ent.id) (hpos : 0 ≤ ent.id)
    (hp : ∀ id, s.profiles.get? id ≠ some p) (hnext : p < s.next)
    (hgid : ∃ group, s.groups.get? ent.gid = some group) : Consistent R (s.insertProfile p ent) := by
  have hnew : s.profiles.get? ent.id = none :=
    Option.eq_none_iff_forall_ne_some.2 fun q hq => absurd (hlt _ _ hq) (lt_irrefl _)
  have hgidOf := gidOf_insertProfile hnew hp
  obtain ⟨group₀, hgroup₀⟩ := hgid
  obtain ⟨ids₀, hids₀, hen₀⟩ := hs.index ent.gid group₀ hgroup₀
  have hget : ∀ (id : ℤ) (q : Ref), (s.insertProfile p ent).profiles.get? id = some q →
      (id = ent.id ∧ q = p) ∨ id ≠ ent.id ∧ q ≠ p ∧ s.profiles.get? id = some q := by
    intro id q hq
    unfold ProfileManager.insertProfile at hq
    dsimp only at hq
    rw [OrdMap.get?_insert] at hq
    split_ifs at hq with hid
    · exact .inl ⟨hid, (Option.some.inj hq).symm⟩
    · exact .inr ⟨hid, fun h => hp id (h ▸ hq), hq⟩
  have hobj : ∀ q, q ≠ p → (s.insertProfile p ent).objects q = s.objects q :=
    fun q hq => Function.update_of_ne hq ..
  have hself : (s.insertProfile p ent).objects p = ent := Function.update_self ..
  have hrow : ∀ id, (s.insertProfile p ent).db.profiles.get? id =
      if id = ent.id then some ent else s.db.profiles.get? id := fun id => OrdMap.get?_insert ..
  refine { hs with
    profilesIdOrder := ?_
    index := fun gid group h => ?_
    noIndex := fun gid h => ?_
    gid := fun id q hq => ?_
    order := fun gid group h id hid => (hgidOf id gid).2 (.inl (hs.order gid group h id hid))
    profile := fun id q hq => ?_
    row := fun id q hq => ?_
    noRow := fun id hid => ?_ }
  · refine (hs.profilesIdOrder.concat (k := ent.id) ?_).congr fun id => ?_
    · rintro id ⟨q, hq⟩
      exact hlt id q hq
    · unfold ProfileManager.insertProfile
      dsimp only
      rw [OrdMap.get?_insert]
      by_cases hid : id = ent.id
      · simp [hid]
      · simp [hid]
  · by_cases hg : gid = ent.gid
    · subst hg
      refine ⟨_, OrdMap.get?_insert_self .., ?_⟩
      rw [groupProfileIdsOf_eq hids₀]
      refine (enumerates_sortIds hen₀ fun h => ?_).congr fun id => ?_
      · obtain ⟨q, hq, -⟩ := ProfileManager.gidOf_eq_some.1 h
        exact absurd (hnew.symm.trans hq) (by simp)
      · rw [hgidOf]
        simp
    · obtain ⟨ids, hids, hen⟩ := hs.index gid group h
      refine ⟨ids, (OrdMap.get?_insert_of_ne _ _ hg).trans hids, hen.congr fun id => ?_⟩
      rw [hgidOf]
      simp [Ne.symm hg]
  · have hne : gid ≠ ent.gid := by
      rintro rfl
      exact absurd (h.symm.trans hgroup₀) (by simp)
    exact (OrdMap.get?_insert_of_ne _ _ hne).trans (hs.noIndex gid h)
  · rcases hget id q hq with ⟨-, rfl⟩ | ⟨-, hqp, hq⟩
    · rw [hself]
      exact ⟨group₀, hgroup₀⟩
    · rw [hobj q hqp]
      exact hs.gid id q hq
  · rcases hget id q hq with ⟨rfl, rfl⟩ | ⟨-, hqp, hq⟩
    · rw [hself]
      exact ⟨rfl, hpos, hnext⟩
    · rw [hobj q hqp]
      exact hs.profile id q hq
  · rw [hrow]
    rcases hget id q hq with ⟨rfl, rfl⟩ | ⟨hid, hqp, hq⟩
    · rw [if_pos rfl, hself]
      exact ⟨ent, rfl, R.profile_refl ent⟩
    · rw [if_neg hid, hobj q hqp]
      exact hs.row id q hq
  · rw [hrow]
    have hid' : s.profiles.get? id = none ∧ id ≠ ent.id := by
      unfold ProfileManager.insertProfile at hid
      dsimp only at hid
      rw [OrdMap.get?_insert] at hid
      split_ifs at hid with h
      exact ⟨hid, h⟩
    rw [if_neg hid'.2]
    exact hs.noRow id hid'.1

/-! ### Removing a profile -/

lemma gidOf_eraseProfile (id gid' : ℤ) {x gid : ℤ} :
    (s.eraseProfile id gid').gidOf x = some gid ↔ s.gidOf x = some gid ∧ x ≠ id := by
  unfold ProfileManager.gidOf ProfileManager.eraseProfile
  dsimp only
  rw [OrdMap.get?_erase]
  by_cases hx : x = id
  · simp [hx]
  · simp [hx]

lemma eraseProfile (hs : Consistent R s) {id gid : ℤ} (hid : s.gidOf id = some gid)
    (horder : ∀ group, s.groups.get? gid = some group →
      id ∉ group.order ++ group.toggle_proxy_ids) : Consistent R (s.eraseProfile id gid) := by
  obtain ⟨p, hp, hpgid⟩ := ProfileManager.gidOf_eq_some.1 hid
  obtain ⟨group₀, hgroup₀⟩ := hs.gid id p hp
  rw [hpgid] at hgroup₀
  obtain ⟨ids₀, hids₀, hen₀⟩ := hs.index gid group₀ hgroup₀
  have hget : ∀ x, (s.eraseProfile id gid).profiles.get? x =
      if x = id then none else s.profiles.get? x := fun x => OrdMap.get?_erase ..
  have hsome : ∀ (x : ℤ) (q : Ref), (s.eraseProfile id gid).profiles.get? x = some q →
      x ≠ id ∧ s.profiles.get? x = some q := by
    intro x q hq
    rw [hget] at hq
    split_ifs at hq with hx
    exact ⟨hx, hq⟩
  have hrow : ∀ x, (s.eraseProfile id gid).db.profiles.get? x =
      if x = id then none else s.db.profiles.get? x := fun x => OrdMap.get?_erase ..
  refine { hs with
    profilesIdOrder := ?_
    index := fun gid' group h => ?_
    noIndex := fun gid' h => ?_
    gid := fun x q hq => hs.gid x q (hsome x q hq).2
    order := fun gid' group h x hx => ?_
    profile := fun x q hq => hs.profile x q (hsome x q hq).2
    row := fun x q hq => ?_
    noRow := fun x hx => ?_ }
  · refine (enumerates_removeAll hs.profilesIdOrder id).congr fun x => ?_
    rw [hget]
    by_cases hx : x = id
    · simp [hx]
    · simp [hx]
  · by_cases hg : gid' = gid
    · subst hg
      refine ⟨_, OrdMap.get?_insert_self .., ?_⟩
      rw [groupProfileIdsOf_eq hids₀]
      exact (enumerates_removeAll hen₀ id).congr fun x => (gidOf_eraseProfile id gid').symm
    · obtain ⟨ids, hids, hen⟩ := hs.index gid' group h
      refine ⟨ids, (OrdMap.get?_insert_of_ne _ _ hg).trans hids, hen.congr fun x => ?_⟩
      rw [gidOf_eraseProfile]
      refine ⟨fun hx => ⟨hx, ?_⟩, fun hx => hx.1⟩
      rintro rfl
      exact hg (Option.some.inj (hx.symm.trans hid))
  · have hne : gid' ≠ gid := by
      rintro rfl
      exact absurd (h.symm.trans hgroup₀) (by simp)
    exact (OrdMap.get?_insert_of_ne _ _ hne).trans (hs.noIndex gid' h)
  · refine (gidOf_eraseProfile id gid).2 ⟨hs.order gid' group h x hx, ?_⟩
    rintro rfl
    obtain rfl := Option.some.inj ((hs.order gid' group h x hx).symm.trans hid)
    exact horder group h hx
  · obtain ⟨hx, hq⟩ := hsome x q hq
    rw [hrow, if_neg hx]
    exact hs.row x q hq
  · rw [hrow]
    split_ifs with hne
    · rfl
    · rw [hget, if_neg hne] at hx
      exact hs.noRow x hx

/-! ### Moving a profile -/

lemma gidOf_regroupProfile (hs : Consistent R s) {p : Ref} (ent : ProxyEntity B) {old : ℤ}
    (hp : s.profiles.get? ent.id = some p) (id : ℤ) :
    (s.regroupProfile p ent old).gidOf id = if id = ent.id then some ent.gid else s.gidOf id := by
  unfold ProfileManager.gidOf ProfileManager.regroupProfile
  dsimp only
  split_ifs with hid
  · rw [hid, hp, Option.map_some, Function.update_self]
  · cases hq : s.profiles.get? id with
    | none => rfl
    | some q =>
      have hqp : q ≠ p := by
        rintro rfl
        exact hid (hs.eq_of_ref hq hp)
      rw [Option.map_some, Function.update_of_ne hqp]
      rfl

lemma regroupProfile (hs : Consistent R s) {p : Ref} (ent : ProxyEntity B)
    {old : ℤ} (hp : s.profiles.get? ent.id = some p) (hold : (s.objects p).gid = old)
    (hne : ent.gid ≠ old) (hgid : ∃ group, s.groups.get? ent.gid = some group)
    (horder : ∀ group, s.groups.get? old = some group →
      ent.id ∉ group.order ++ group.toggle_proxy_ids) :
    Consistent R (s.regroupProfile p ent old) := by
  have hgidOf := @gidOf_regroupProfile B R s hs p ent old hp
  have hpold : s.gidOf ent.id = some old := ProfileManager.gidOf_eq_some.2 ⟨p, hp, hold⟩
  obtain ⟨group₀, hgroup₀⟩ := hs.gid ent.id p hp
  rw [hold] at hgroup₀
  obtain ⟨group₁, hgroup₁⟩ := hgid
  obtain ⟨ids₀, hids₀, hen₀⟩ := hs.index old group₀ hgroup₀
  obtain ⟨ids₁, hids₁, hen₁⟩ := hs.index ent.gid group₁ hgroup₁
  have hindex : ∀ gid, (s.regroupProfile p ent old).groupProfileIds.get? gid =
      if gid = ent.gid then some (sortIds (ids₁ ++ [ent.id]))
      else if gid = old then some (removeAll ids₀ ent.id) else s.groupProfileIds.get? gid := by
    intro gid
    unfold ProfileManager.regroupProfile
    dsimp only
    rw [OrdMap.get?_insert, OrdMap.get?_insert, groupProfileIdsOf_eq hids₀,
      groupProfileIdsOf_eq hids₁]
  have hobj : ∀ (id : ℤ) (q : Ref), s.profiles.get? id = some q → id ≠ ent.id →
      (s.regroupProfile p ent old).objects q = s.objects q := by
    intro id q hq hid
    refine Function.update_of_ne ?_ ..
    rintro rfl
    exact hid (hs.eq_of_ref hq hp)
  have hself : (s.regroupProfile p ent old).objects p = ent := Function.update_self ..
  have hrow : ∀ id, (s.regroupProfile p ent old).db.profiles.get? id =
      if id = ent.id then some ent else s.db.profiles.get? id := fun id => OrdMap.get?_insert ..
  have hpid : ∀ q, s.profiles.get? ent.id = some q → q = p :=
    fun q hq => Option.some.inj (hq.symm.trans hp)
  refine { hs with
    index := fun gid group h => ?_
    noIndex := fun gid h => ?_
    gid := fun id q hq => ?_
    order := fun gid group h id hid => ?_
    profile := fun id q hq => ?_
    row := fun id q hq => ?_
    noRow := fun id hid => ?_ }
  · rw [hindex]
    split_ifs with hg hg'
    · refine ⟨_, rfl, (enumerates_sortIds hen₁ fun h => ?_).congr fun id => ?_⟩
      · exact hne (Option.some.inj (h.symm.trans hpold))
      · rw [hgidOf, hg]
        by_cases hid : id = ent.id
        · simp [hid]
        · simp [hid]
    · refine ⟨_, rfl, (enumerates_removeAll hen₀ ent.id).congr fun id => ?_⟩
      rw [hgidOf, hg']
      by_cases hid : id = ent.id
      · simp [hid, hne]
      · simp [hid]
    · obtain ⟨ids, hids, hen⟩ := hs.index gid group h
      refine ⟨ids, hids, hen.congr fun id => ?_⟩
      rw [hgidOf]
      by_cases hid : id = ent.id
      · simp [hid, hpold, Ne.symm hg, Ne.symm hg']
      · simp [hid]
  · rw [hindex, if_neg, if_neg]
    · exact hs.noIndex gid h
    · rintro rfl
      exact absurd (h.symm.trans hgroup₀) (by simp)
    · rintro rfl
      exact absurd (h.symm.trans hgroup₁) (by simp)
  · by_cases hid : id = ent.id
    · subst hid
      rw [hpid q hq, hself]
      exact ⟨group₁, hgroup₁⟩
    · rw [hobj id q hq hid]
      exact hs.gid id q hq
  · have hgid := hs.order gid group h id hid
    rw [hgidOf, if_neg]
    · exact hgid
    · rintro rfl
      obtain rfl := Option.some.inj (hgid.symm.trans hpold)
      exact horder group h hid
  · by_cases hid : id = ent.id
    · subst hid
      rw [hpid q hq, hself]
      exact ⟨rfl, (hs.profile _ p hp).2⟩
    · rw [hobj id q hq hid]
      exact hs.profile id q hq
  · rw [hrow]
    split_ifs with hid
    · subst hid
      rw [hpid q hq, hself]
      exact ⟨ent, rfl, R.profile_refl ent⟩
    · rw [hobj id q hq hid]
      exact hs.row id q hq
  · have hid' : id ≠ ent.id := by
      rintro rfl
      exact absurd (hid.symm.trans hp) (by simp)
    rw [hrow, if_neg hid']
    exact hs.noRow id hid

/-! ### Adding and removing a group -/

lemma insertGroup (hs : Coherent R s) (group : Group) (hpos : 0 ≤ group.id)
    (hlt : ∀ (gid : ℤ) (group' : Group), s.groups.get? gid = some group' → gid < group.id)
    (horder : group.order = []) (htoggle : group.toggle_proxy_ids = []) :
    Consistent R (s.insertGroup group) := by
  have hnew : s.groups.get? group.id = none :=
    Option.eq_none_iff_forall_ne_some.2 fun g hg => absurd (hlt _ _ hg) (lt_irrefl _)
  have hget : ∀ gid, (s.insertGroup group).groups.get? gid =
      if gid = group.id then some group else s.groups.get? gid := fun gid => OrdMap.get?_insert ..
  have hrow : ∀ gid, (s.insertGroup group).db.groups.get? gid =
      if gid = group.id then some group else s.db.groups.get? gid :=
    fun gid => OrdMap.get?_insert ..
  have hindex : ∀ gid, (s.insertGroup group).groupProfileIds.get? gid =
      if gid = group.id then some [] else s.groupProfileIds.get? gid :=
    fun gid => OrdMap.get?_insert ..
  have hkeys : (s.insertGroup group).groups.keys = s.groups.keys ++ [group.id] := by
    refine s.groups.keys_insert_of_lt group fun gid hgid => ?_
    obtain ⟨group', hgroup'⟩ := s.groups.mem_keys.1 hgid
    exact hlt gid group' hgroup'
  have htabs : (s.groupsTabOrder ++ [group.id]).Perm (s.insertGroup group).groups.keys := by
    rw [hkeys]
    exact hs.tabs.append_right _
  have hgid : ∀ id gid, s.gidOf id = some gid → gid ≠ group.id := by
    rintro id gid hid rfl
    obtain ⟨p, hp, hpgid⟩ := ProfileManager.gidOf_eq_some.1 hid
    obtain ⟨group', hgroup'⟩ := hs.gid id p hp
    rw [hpgid] at hgroup'
    exact absurd (hnew.symm.trans hgroup') (by simp)
  refine { hs with
    groupsIdOrder := ?_
    index := fun gid group' h => ?_
    noIndex := fun gid h => ?_
    gid := fun id p hp => ?_
    order := fun gid group' h id hid => ?_
    tabs := ?_
    savedTabs := ?_
    nonempty := ?_
    group := fun gid group' h => ?_
    groupRow := fun gid group' h => ?_
    noGroupRow := fun gid h => ?_ }
  · refine (hs.groupsIdOrder.concat (k := group.id) ?_).congr fun gid => ?_
    · rintro gid ⟨group', hgroup'⟩
      exact hlt gid group' hgroup'
    · rw [hget]
      by_cases hg : gid = group.id
      · simp [hg]
      · simp [hg]
  · rw [hindex]
    split_ifs with hg
    · refine ⟨[], rfl, List.Pairwise.nil, fun id => ?_⟩
      refine ⟨fun h => absurd h List.not_mem_nil, fun h => ?_⟩
      exact absurd hg (hgid id gid h)
    · rw [hget, if_neg hg] at h
      exact hs.index gid group' h
  · rw [hget] at h
    split_ifs at h with hg
    rw [hindex, if_neg hg]
    exact hs.noIndex gid h
  · obtain ⟨group', hgroup'⟩ := hs.gid id p hp
    refine ⟨group', ?_⟩
    rw [hget, if_neg]
    · exact hgroup'
    · exact hgid id _ (ProfileManager.gidOf_eq_some.2 ⟨p, hp, rfl⟩)
  · rw [hget] at h
    split_ifs at h with hg
    · obtain rfl := Option.some.inj h
      rw [horder, htoggle] at hid
      exact absurd hid List.not_mem_nil
    · exact hs.order gid group' h id hid
  · exact htabs
  · exact htabs.nodup_iff.2 (OrdMap.nodup_keys _)
  · rw [hget] at h
    split_ifs at h with hg
    · obtain rfl := Option.some.inj h
      exact ⟨hg.symm, hg ▸ hpos⟩
    · exact hs.group gid group' h
  · rw [hget] at h
    rw [hrow]
    split_ifs at h ⊢ with hg
    · obtain rfl := Option.some.inj h
      exact ⟨group, rfl, R.group_refl group⟩
    · exact hs.groupRow gid group' h
  · rw [hget] at h
    rw [hrow]
    split_ifs at h ⊢
    exact hs.noGroupRow gid h
  · rw [← OrdMap.length_keys, hkeys]
    simp

lemma length_le_removeAll {l : List ℤ} (h : l.Nodup) (id : ℤ) :
    l.length ≤ (removeAll l id).length + 1 := by
  have herase : removeAll l id = l.erase id := by
    rw [h.erase_eq_filter, removeAll]
    congr 1
    funext x
    simp [bne, beq_eq_decide]
  rw [herase, List.length_erase]
  split_ifs
  · omega
  · omega

lemma eraseGroup (hs : Consistent R s) {gid : ℤ} (hempty : ∀ id, s.gidOf id ≠ some gid)
    (hsize : ¬ s.groups.size ≤ 1) : Consistent R (s.eraseGroup gid) := by
  have hget : ∀ gid', (s.eraseGroup gid).groups.get? gid' =
      if gid' = gid then none else s.groups.get? gid' := fun gid' => OrdMap.get?_erase ..
  have hrow : ∀ gid', (s.eraseGroup gid).db.groups.get? gid' =
      if gid' = gid then none else s.db.groups.get? gid' := fun gid' => OrdMap.get?_erase ..
  have hindex : ∀ gid', (s.eraseGroup gid).groupProfileIds.get? gid' =
      if gid' = gid then none else s.groupProfileIds.get? gid' := fun gid' => OrdMap.get?_erase ..
  have hkeys : (s.eraseGroup gid).groups.keys = removeAll s.groups.keys gid :=
    s.groups.keys_erase gid
  have hsome : ∀ (gid' : ℤ) (group : Group), (s.eraseGroup gid).groups.get? gid' = some group →
      gid' ≠ gid ∧ s.groups.get? gid' = some group := by
    intro gid' group h
    rw [hget] at h
    split_ifs at h with hg
    exact ⟨hg, h⟩
  refine { hs with
    groupsIdOrder := ?_
    index := fun gid' group h => ?_
    noIndex := fun gid' h => ?_
    gid := fun id p hp => ?_
    order := fun gid' group h => hs.order gid' group (hsome gid' group h).2
    tabs := ?_
    savedTabs := (hs.tabs.nodup_iff.2 s.groups.nodup_keys).filter _
    nonempty := ?_
    group := fun gid' group h => hs.group gid' group (hsome gid' group h).2
    groupRow := fun gid' group h => ?_
    noGroupRow := fun gid' h => ?_ }
  · refine (enumerates_removeAll hs.groupsIdOrder gid).congr fun gid' => ?_
    rw [hget]
    by_cases hg : gid' = gid
    · simp [hg]
    · simp [hg]
  · obtain ⟨hg, h⟩ := hsome gid' group h
    rw [hindex, if_neg hg]
    exact hs.index gid' group h
  · rw [hindex]
    split_ifs with hg
    · rfl
    · rw [hget, if_neg hg] at h
      exact hs.noIndex gid' h
  · obtain ⟨group, hgroup⟩ := hs.gid id p hp
    refine ⟨group, ?_⟩
    rw [hget, if_neg]
    · exact hgroup
    · exact fun h => hempty id (ProfileManager.gidOf_eq_some.2 ⟨p, hp, h⟩)
  · rw [hkeys]
    exact hs.tabs.filter _
  · obtain ⟨hg, h⟩ := hsome gid' group h
    rw [hrow, if_neg hg]
    exact hs.groupRow gid' group h
  · rw [hrow]
    split_ifs with hg
    · rfl
    · rw [hget, if_neg hg] at h
      exact hs.noGroupRow gid' h
  · have hlen := length_le_removeAll s.groups.nodup_keys gid
    rw [OrdMap.length_keys] at hlen
    rw [← OrdMap.length_keys, hkeys]
    omega

end Consistent

end Proxor.Db
