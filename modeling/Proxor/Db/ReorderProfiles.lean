import Proxor.Db.Renumbering

set_option relaxedAutoImplicit false
set_option autoImplicit false

/-!
# The new numbering of the profiles

When a new numbering is asked for, the tables are cleared and only what is visited is written again. A
group displays its profiles in the order of their identifiers, or in its own order. A profile that is
added to a group with an order of its own is not put into it, so it is not visited.

## Main definitions

* `Proxor.Db.Renumbers` — a store is another one with new identifiers.
* `Proxor.Db.ProfileManager.Ordered` — the orders of the groups list their profiles.

## Main results

* `Proxor.Db.renumbers_reorder_iff` — the new numbering changes nothing but the identifiers exactly if
  the orders of the groups list their profiles.
* `Proxor.Db.renumbers_loadManager_iff` — the same for a program that is started again.
-/

namespace Proxor.Db

variable {B : Type}

/-- The second store is the first one with new identifiers: every profile and every group is there once,
with what it had, where it was. -/
structure Renumbers (s s' : ProfileManager B) (p g : ℤ → ℤ) : Prop where
  profile : ∀ (id : ℤ) (q : Ref), s.profiles.get? id = some q →
    ∃ q', s'.profiles.get? (p id) = some q' ∧
      s'.objects q' = { s.objects q with id := p id, gid := g (s.objects q).gid }
  profileOnce : ∀ id ∈ s.profiles.keys, ∀ id' ∈ s.profiles.keys, p id = p id' → id = id'
  profileOnly : ∀ id' ∈ s'.profiles.keys, ∃ id ∈ s.profiles.keys, p id = id'
  group : ∀ (gid : ℤ) (group : Group), s.groups.get? gid = some group →
    ∃ group', s'.groups.get? (g gid) = some group' ∧
      group = { group' with
        id := group.id, order := group.order, toggle_proxy_ids := group.toggle_proxy_ids }
  groupOnce : ∀ gid ∈ s.groups.keys, ∀ gid' ∈ s.groups.keys, g gid = g gid' → gid = gid'
  groupOnly : ∀ gid' ∈ s'.groups.keys, ∃ gid ∈ s.groups.keys, g gid = gid'
  tabs : s'.groupsTabOrder = s.groupsTabOrder.map g
  displayed : ∀ gid ∈ s.groups.keys,
    (s'.displayed (g gid)).map (fun q => (s'.objects q).id) =
      (s.displayed gid).map fun q => p (s.objects q).id
  rows : ∀ id, s'.db.profiles.get? id = (s'.profiles.get? id).map s'.objects
  groupRows : ∀ gid, s'.db.groups.get? gid = s'.groups.get? gid

namespace ProfileManager

/-- The order of a group is none, or lists its profiles. -/
def Ordered (s : ProfileManager B) : Prop :=
  ∀ (gid : ℤ) (group : Group), s.groups.get? gid = some group →
    group.order = [] ∨ group.order.Perm (s.groupProfileIdsOf gid)

/-- The identifiers of a group as they are displayed. -/
def shownIds (s : ProfileManager B) (gid : ℤ) : List ℤ :=
  match s.groups.get? gid with
  | none => []
  | some group => if group.order = [] then s.groupProfileIdsOf gid else group.order

/-- The identifiers as they are displayed, tab by tab. -/
def visitedIds (s : ProfileManager B) : List ℤ := s.groupsTabOrder.flatMap s.shownIds

/-- The new identifier of a profile: where it is displayed. -/
def newId (s : ProfileManager B) (id : ℤ) : ℤ := s.visitedIds.idxOf id

/-- The new identifier of a group: where its tab is. -/
def newGid (s : ProfileManager B) (gid : ℤ) : ℤ := s.groupsTabOrder.idxOf gid

/-- Looking up what is stored, and asking for its identifier. -/
lemma map_id_filterMap {s : ProfileManager B} {ids : List ℤ}
    (hids : ∀ id ∈ ids, ∃ p, s.profiles.get? id = some p ∧ (s.objects p).id = id) :
    (ids.filterMap s.getProfile).map (fun q => (s.objects q).id) = ids := by
  induction ids with
  | nil => rfl
  | cons id ids ih =>
    obtain ⟨p, hp, hid⟩ := hids id List.mem_cons_self
    have hp' : s.getProfile id = some p := hp
    rw [List.filterMap_cons, hp', List.map_cons, hid,
      ih fun x hx => hids x (List.mem_cons_of_mem _ hx)]

end ProfileManager

namespace Coherent

variable {R : Reading B} {s : ProfileManager B}

/-- What is displayed of a group is stored in it. -/
lemma gidOf_of_mem_shownIds (hs : Coherent R s) {gid id : ℤ} (hid : id ∈ s.shownIds gid) :
    s.gidOf id = some gid := by
  unfold ProfileManager.shownIds at hid
  cases hg : s.groups.get? gid with
  | none =>
    rw [hg] at hid
    exact absurd hid List.not_mem_nil
  | some group =>
    rw [hg] at hid
    dsimp only at hid
    split_ifs at hid
    · obtain ⟨ids, hids, hen⟩ := hs.index gid group hg
      rw [Consistent.groupProfileIdsOf_eq hids] at hid
      exact (hen.2 id).1 hid
    · exact hs.order gid group hg id (List.mem_append_left _ hid)

lemma displayed_eq (hs : Coherent R s) (gid : ℤ) :
    s.displayed gid = (s.shownIds gid).filterMap s.getProfile := by
  unfold ProfileManager.displayed ProfileManager.shownIds ProfileManager.getGroup
  cases hg : s.groups.get? gid with
  | none => rfl
  | some group =>
    dsimp only
    unfold ProfileManager.profilesWithOrder ProfileManager.groupProfiles
    rw [(hs.group gid group hg).1]
    split_ifs
    · rfl
    · rfl

/-- The identifiers of what is displayed. -/
lemma map_id_displayed (hs : Coherent R s) (gid : ℤ) :
    (s.displayed gid).map (fun q => (s.objects q).id) = s.shownIds gid := by
  rw [hs.displayed_eq]
  refine ProfileManager.map_id_filterMap fun id hid => ?_
  obtain ⟨p, hp, -⟩ := ProfileManager.gidOf_eq_some.1 (hs.gidOf_of_mem_shownIds hid)
  exact ⟨p, hp, (hs.profile id p hp).1⟩

/-- The identifiers of what is visited. -/
lemma map_id_visited (hs : Coherent R s) :
    (s.visited.map fun e => (s.objects e.1).id) = s.visitedIds := by
  have hfrom : ∀ (gids : List ℤ) (k : ℕ),
      ((s.visitedFrom k gids).map fun e => (s.objects e.1).id) = gids.flatMap s.shownIds := by
    intro gids
    induction gids with
    | nil => exact fun _ => rfl
    | cons gid gids ih =>
      intro k
      unfold ProfileManager.visitedFrom
      rw [List.map_append, ih, List.flatMap_cons, ← hs.map_id_displayed gid, List.map_map]
      rfl
  exact hfrom s.groupsTabOrder 0

/-- Every tab is a group. -/
lemma tab_stored (hs : Coherent R s) :
    ∀ gid ∈ s.groupsTabOrder, ∃ group, s.groups.get? gid = some group :=
  fun _ hgid => s.groups.mem_keys.1 (hs.tabs.subset hgid)

lemma nodup_tabs (hs : Coherent R s) : s.groupsTabOrder.Nodup :=
  hs.tabs.nodup_iff.2 s.groups.nodup_keys

/-! ### Where the orders list the profiles -/

/-- Every profile of a group is displayed, once. -/
lemma shownIds_of_ordered (hs : Coherent R s) (hord : s.Ordered) {gid : ℤ} {group : Group}
    (hg : s.groups.get? gid = some group) :
    (s.shownIds gid).Nodup ∧ ∀ id, id ∈ s.shownIds gid ↔ s.gidOf id = some gid := by
  obtain ⟨ids, hids, hen⟩ := hs.index gid group hg
  have hperm : (s.shownIds gid).Perm ids := by
    unfold ProfileManager.shownIds
    rw [hg]
    dsimp only
    rw [Consistent.groupProfileIdsOf_eq hids]
    split_ifs with hnil
    · exact .refl ids
    · have hlist := (hord gid group hg).resolve_left hnil
      rwa [Consistent.groupProfileIdsOf_eq hids] at hlist
  exact ⟨hperm.nodup_iff.2 hen.nodup, fun id => hperm.mem_iff.trans (hen.2 id)⟩

/-- Every profile is visited, once. -/
lemma visitedIds_of_ordered (hs : Coherent R s) (hord : s.Ordered) :
    s.visitedIds.Nodup ∧ ∀ id, id ∈ s.visitedIds ↔ ∃ p, s.profiles.get? id = some p := by
  refine ⟨List.nodup_flatMap.2 ⟨fun gid hgid => ?_, ?_⟩, fun id => ?_⟩
  · obtain ⟨group, hg⟩ := hs.tab_stored gid hgid
    exact (hs.shownIds_of_ordered hord hg).1
  · refine hs.nodup_tabs.imp fun hne id hid hid' => hne ?_
    exact Option.some.inj
      ((hs.gidOf_of_mem_shownIds hid).symm.trans (hs.gidOf_of_mem_shownIds hid'))
  · unfold ProfileManager.visitedIds
    rw [List.mem_flatMap]
    constructor
    · rintro ⟨gid, -, hid⟩
      obtain ⟨p, hp, -⟩ := ProfileManager.gidOf_eq_some.1 (hs.gidOf_of_mem_shownIds hid)
      exact ⟨p, hp⟩
    · rintro ⟨p, hp⟩
      obtain ⟨group, hg⟩ := hs.gid id p hp
      refine ⟨(s.objects p).gid, hs.tabs.mem_iff.2 (s.groups.mem_keys.2 ⟨group, hg⟩), ?_⟩
      exact ((hs.shownIds_of_ordered hord hg).2 id).2 (ProfileManager.gidOf_eq_some.2 ⟨p, hp, rfl⟩)

/-- A profile is visited at its new identifier, with the new identifier of its group.

**Proof sketch.** It is in the list at the position of its identifier, and the group it is displayed in
is the group it is in. -/
lemma visited_newId (hs : Coherent R s) (hord : s.Ordered) {id : ℤ} {p : Ref}
    (hp : s.profiles.get? id = some p) :
    s.visited[s.visitedIds.idxOf id]? = some (p, s.newGid (s.objects p).gid) := by
  have hmem : id ∈ s.visitedIds := ((hs.visitedIds_of_ordered hord).2 id).2 ⟨p, hp⟩
  have hget := List.getElem?_idxOf hmem
  rw [← hs.map_id_visited, List.getElem?_map, Option.map_eq_some_iff, hs.map_id_visited] at hget
  obtain ⟨⟨q, x⟩, hget, hid⟩ := hget
  rw [hget]
  obtain ⟨k, gid, rfl, htab, hq⟩ := (s.mem_visited q x).1 (List.mem_of_getElem? hget)
  rw [hs.displayed_eq, List.mem_filterMap] at hq
  obtain ⟨id', hid', hq⟩ := hq
  have hq' : s.profiles.get? id' = some q := hq
  obtain rfl : id' = id := (hs.profile id' q hq').1.symm.trans hid
  obtain rfl := Option.some.inj (hp.symm.trans hq')
  obtain ⟨p', hp', hgid⟩ := ProfileManager.gidOf_eq_some.1 (hs.gidOf_of_mem_shownIds hid')
  obtain rfl := Option.some.inj (hp.symm.trans hp')
  obtain ⟨hlt, hget'⟩ := List.getElem?_eq_some_iff.1 htab
  have hidx : s.groupsTabOrder.idxOf gid = k := hget' ▸ hs.nodup_tabs.idxOf_getElem k hlt
  unfold ProfileManager.newGid
  rw [hgid, hidx]

/-- What is visited at a position is the profile with that new identifier. -/
lemma exists_of_visited (hs : Coherent R s) (hord : s.Ordered) {j : ℕ} {e : Ref × ℤ}
    (hget : s.visited[j]? = some e) :
    ∃ id, s.profiles.get? id = some e.1 ∧ s.visitedIds.idxOf id = j := by
  have hid : s.visitedIds[j]? = some (s.objects e.1).id := by
    rw [← hs.map_id_visited, List.getElem?_map, hget]
    rfl
  obtain ⟨hnodup, hmem⟩ := hs.visitedIds_of_ordered hord
  obtain ⟨hlt, hget'⟩ := List.getElem?_eq_some_iff.1 hid
  have hidx : s.visitedIds.idxOf (s.objects e.1).id = j := hget' ▸ hnodup.idxOf_getElem j hlt
  obtain ⟨p, hp⟩ := (hmem _).1 (List.mem_of_getElem? hid)
  have hvisited := hs.visited_newId hord hp
  rw [hidx, hget] at hvisited
  obtain rfl := Option.some.inj hvisited
  exact ⟨_, hp, hidx⟩

end Coherent

/-! ### Where the orders list the profiles, everything is kept -/

/-- The positions of the elements of a list. -/
lemma map_idxOf {l : List ℤ} (hl : l.Nodup) : l.map (fun x => (l.idxOf x : ℤ)) = below l.length := by
  unfold below
  refine List.ext_getElem (by simp) fun j hj hj' => ?_
  rw [List.getElem_map, List.getElem_map, List.getElem_range, hl.idxOf_getElem]

lemma pairwise_below (n : ℕ) : (below n).Pairwise (· < ·) := by
  unfold below
  rw [List.pairwise_map]
  exact List.pairwise_lt_range.imp fun h => Int.ofNat_lt.2 h

section

variable {R : Reading B} {s s' : ProfileManager B} {pids : OrdMap ℤ ℤ}

/-- What is displayed of a group that was put under its new identifier: its index. -/
lemma IsReordered.displayed_eq (h : IsReordered s s' pids) {gid : ℤ} {group : Group}
    (hg : s'.groups.get? gid = some group) :
    s'.displayed gid = (s'.groupProfileIdsOf gid).filterMap s'.getProfile := by
  obtain ⟨j, gid', group', rfl, -, -, rfl⟩ := (h.groups _ _).1 hg
  have hg' : s'.getGroup (j : ℤ) = some (Reorder.regrouped pids group' j) := hg
  unfold ProfileManager.displayed
  rw [hg']
  exact if_pos rfl

/-- Where a profile is afterwards, and what it is.

**Proof sketch.** It was visited once, so its object was changed once. -/
lemma IsReordered.profile_newId (h : IsReordered s s' pids) (hs : Coherent R s) (hord : s.Ordered)
    {id : ℤ} {q : Ref} (hq : s.profiles.get? id = some q) :
    s'.profiles.get? (s.newId id) = some q ∧
      s'.objects q = { s.objects q with id := s.newId id, gid := s.newGid (s.objects q).gid } := by
  have hget := hs.visited_newId hord hq
  obtain ⟨j, gid, hget', hobj⟩ := h.seen _ (List.mem_of_getElem? hget)
  obtain ⟨id', hq', hj⟩ := hs.exists_of_visited hord hget'
  obtain rfl : id' = id := (hs.profile id' q hq').1.symm.trans (hs.profile id q hq).1
  subst hj
  rw [hget] at hget'
  obtain ⟨-, rfl⟩ := Prod.mk.inj (Option.some.inj hget')
  exact ⟨(h.profiles _ q).2 ⟨_, _, rfl, hget⟩, hobj⟩

/-- Where a group is afterwards, and what it is. -/
lemma IsReordered.group_newGid (h : IsReordered s s' pids) (hs : Coherent R s) {gid : ℤ}
    {group : Group} (hg : s.groups.get? gid = some group) :
    s'.groups.get? (s.newGid gid) = some (Reorder.regrouped pids group (s.newGid gid)) := by
  have htab : gid ∈ s.groupsTabOrder := hs.tabs.mem_iff.2 (s.groups.mem_keys.2 ⟨group, hg⟩)
  exact (h.groups _ _).2 ⟨_, gid, group, rfl, List.getElem?_idxOf htab, hg, rfl⟩

/-- **Where the orders list the profiles, the store is the same with new identifiers.**

**Proof sketch.** Every profile is visited once, at its new identifier. The index of a group lists the new
identifiers upwards, which is the order in which its profiles were visited. -/
theorem IsReordered.renumbers (hs : Coherent R s) (hord : s.Ordered) (h : IsReordered s s' pids) :
    Renumbers s s' s.newId s.newGid := by
  obtain ⟨hnodup, hmem⟩ := hs.visitedIds_of_ordered hord
  have hprofile : ∀ (id : ℤ) (q : Ref), s.profiles.get? id = some q →
      s'.profiles.get? (s.newId id) = some q ∧
        s'.objects q = { s.objects q with id := s.newId id, gid := s.newGid (s.objects q).gid } :=
    fun id q hq => h.profile_newId hs hord hq
  have honly : ∀ (id' : ℤ) (q : Ref), s'.profiles.get? id' = some q →
      ∃ id, s.profiles.get? id = some q ∧ s.newId id = id' := by
    intro id' q hq
    obtain ⟨j, gid, rfl, hget⟩ := (h.profiles id' q).1 hq
    obtain ⟨id, hid, rfl⟩ := hs.exists_of_visited hord hget
    exact ⟨id, hid, rfl⟩
  refine {
    profile := fun id q hq => ⟨q, hprofile id q hq⟩
    profileOnce := fun id hid id' _ heq => ?_
    profileOnly := fun id' hid' => ?_
    group := fun gid group hg => ⟨_, h.group_newGid hs hg, rfl⟩
    groupOnce := fun gid hgid gid' _ heq => ?_
    groupOnly := fun gid' hgid' => ?_
    tabs := h.tabs.trans (map_idxOf hs.nodup_tabs).symm
    displayed := fun gid hgid => ?_
    rows := h.rows
    groupRows := h.groupRows }
  · exact (List.idxOf_inj ((hmem id).2 (s.profiles.mem_keys.1 hid))).1 (Int.ofNat_inj.1 heq)
  · obtain ⟨q, hq⟩ := s'.profiles.mem_keys.1 hid'
    obtain ⟨id, hid, heq⟩ := honly id' q hq
    exact ⟨id, s.profiles.mem_keys.2 ⟨q, hid⟩, heq⟩
  · exact (List.idxOf_inj (hs.tabs.mem_iff.2 hgid)).1 (Int.ofNat_inj.1 heq)
  · obtain ⟨group', hg'⟩ := s'.groups.mem_keys.1 hgid'
    obtain ⟨j, gid, group, rfl, htab, hg, -⟩ := (h.groups gid' group').1 hg'
    obtain ⟨hlt, hget⟩ := List.getElem?_eq_some_iff.1 htab
    refine ⟨gid, s.groups.mem_keys.2 ⟨group, hg⟩, ?_⟩
    unfold ProfileManager.newGid
    rw [← hget, hs.nodup_tabs.idxOf_getElem j hlt]
  · obtain ⟨group, hg⟩ := s.groups.mem_keys.1 hgid
    have hg' := h.group_newGid hs hg
    obtain ⟨ids, hids, hen⟩ := h.index _ _ hg'
    have hidOf : ∀ (id' : ℤ) (q : Ref), s'.profiles.get? id' = some q → (s'.objects q).id = id' := by
      intro id' q hq
      obtain ⟨id, hid, rfl⟩ := honly id' q hq
      rw [(hprofile id q hid).2]
    have hleft : (s'.displayed (s.newGid gid)).map (fun q => (s'.objects q).id) = ids := by
      rw [h.displayed_eq hg', Consistent.groupProfileIdsOf_eq hids]
      refine ProfileManager.map_id_filterMap fun id' hid' => ?_
      obtain ⟨q, hq, -⟩ := ProfileManager.gidOf_eq_some.1 ((hen.2 id').1 hid')
      exact ⟨q, hq, hidOf id' q hq⟩
    have hright : (s.displayed gid).map (fun q => s.newId (s.objects q).id) =
        (s.shownIds gid).map s.newId := by
      rw [← hs.map_id_displayed, List.map_map]
      rfl
    rw [hleft, hright]
    refine hen.unique ⟨?_, fun id' => ?_⟩
    · -- the identifiers of a group are a part of the list of all, and grow along it
      have hsub : (s.shownIds gid).Sublist s.visitedIds := by
        unfold ProfileManager.visitedIds
        rw [List.flatMap_def]
        exact List.sublist_flatten_of_mem (List.mem_map_of_mem (hs.tabs.mem_iff.2 hgid))
      have hall : (s.visitedIds.map s.newId).Pairwise (· < ·) := by
        have hmap : s.visitedIds.map s.newId = below s.visitedIds.length := map_idxOf hnodup
        rw [hmap]
        exact pairwise_below _
      exact hall.sublist (hsub.map _)
    · rw [List.mem_map]
      constructor
      · rintro ⟨id, hid, rfl⟩
        obtain ⟨q, hq, hgid'⟩ := ProfileManager.gidOf_eq_some.1 (hs.gidOf_of_mem_shownIds hid)
        refine ProfileManager.gidOf_eq_some.2 ⟨q, (hprofile id q hq).1, ?_⟩
        rw [(hprofile id q hq).2, hgid']
      · intro hid'
        obtain ⟨q, hq, hgid'⟩ := ProfileManager.gidOf_eq_some.1 hid'
        obtain ⟨id, hid, rfl⟩ := honly id' q hq
        refine ⟨id, ((hs.shownIds_of_ordered hord hg).2 id).2 ?_, rfl⟩
        refine ProfileManager.gidOf_eq_some.2 ⟨q, hid, ?_⟩
        rw [(hprofile id q hid).2] at hgid'
        obtain ⟨group', hg'⟩ := hs.gid id q hid
        refine (List.idxOf_inj ?_).1 (Int.ofNat_inj.1 hgid')
        exact hs.tabs.mem_iff.2 (s.groups.mem_keys.2 ⟨group', hg'⟩)

/-- **A store that is the same with new identifiers has orders that list the profiles.**

**Proof sketch.** After the new numbering a group displays its index, which lists every profile once; and
what it displays is what it displayed before. -/
theorem IsReordered.ordered (hs : Coherent R s) (h : IsReordered s s' pids) {p g : ℤ → ℤ}
    (hr : Renumbers s s' p g) : s.Ordered := by
  intro gid group hg
  by_cases hnil : group.order = []
  · exact .inl hnil
  refine .inr ?_
  obtain ⟨ids, hids, hen⟩ := hs.index gid group hg
  rw [Consistent.groupProfileIdsOf_eq hids]
  have hshown : s.shownIds gid = group.order := by
    unfold ProfileManager.shownIds
    rw [hg]
    exact if_neg hnil
  obtain ⟨group', hg', -⟩ := hr.group gid group hg
  obtain ⟨ids', hids', hen'⟩ := h.index _ _ hg'
  have hidOf : ∀ (id' : ℤ) (q : Ref), s'.profiles.get? id' = some q → (s'.objects q).id = id' := by
    intro id' q hq
    obtain ⟨id, hid, rfl⟩ := hr.profileOnly id' (s'.profiles.mem_keys.2 ⟨q, hq⟩)
    obtain ⟨r, hr'⟩ := s.profiles.mem_keys.1 hid
    obtain ⟨q', hq', hobj⟩ := hr.profile id r hr'
    obtain rfl := Option.some.inj (hq.symm.trans hq')
    rw [hobj]
  have hsame : ids' = group.order.map p := by
    have hdisplayed := hr.displayed gid (s.groups.mem_keys.2 ⟨group, hg⟩)
    have hright : (s.displayed gid).map (fun q => p (s.objects q).id) = group.order.map p := by
      rw [← hshown, ← hs.map_id_displayed, List.map_map]
      rfl
    rw [h.displayed_eq hg', Consistent.groupProfileIdsOf_eq hids', hright,
      ProfileManager.map_id_filterMap] at hdisplayed
    · exact hdisplayed
    · intro id' hid'
      obtain ⟨q, hq, -⟩ := ProfileManager.gidOf_eq_some.1 ((hen'.2 id').1 hid')
      exact ⟨q, hq, hidOf id' q hq⟩
  have hnodup : group.order.Nodup := List.Nodup.of_map p (hsame ▸ hen'.nodup)
  refine (List.perm_ext_iff_of_nodup hnodup hen.nodup).2 fun id => ?_
  rw [hen.2]
  constructor
  · exact fun hid => hs.gidOf_of_mem_shownIds (hshown ▸ hid)
  · intro hgid
    obtain ⟨q, hq, hqgid⟩ := ProfileManager.gidOf_eq_some.1 hgid
    obtain ⟨q', hq', hobj⟩ := hr.profile id q hq
    have hmem : p id ∈ ids' := by
      refine (hen'.2 _).2 (ProfileManager.gidOf_eq_some.2 ⟨q', hq', ?_⟩)
      rw [hobj, hqgid]
    rw [hsame, List.mem_map] at hmem
    obtain ⟨id', hid', heq⟩ := hmem
    obtain ⟨q'', hq'', -⟩ :=
      ProfileManager.gidOf_eq_some.1 (hs.gidOf_of_mem_shownIds (hshown ▸ hid'))
    have hid := hr.profileOnce id' (s.profiles.mem_keys.2 ⟨q'', hq''⟩) id
      (s.profiles.mem_keys.2 ⟨q, hq⟩) heq
    exact hid ▸ hid'

end

/-- **The new numbering changes nothing but the identifiers exactly if the orders of the groups list
their profiles.** -/
theorem renumbers_reorder_iff {R : Reading B} {s : ProfileManager B} (hs : Coherent R s) :
    (∃ p g, Renumbers s s.reorder p g) ↔ s.Ordered := by
  obtain ⟨pids, h⟩ := isReordered_reorder hs.tab_stored hs.nodup_tabs
  constructor
  · rintro ⟨p, g, hr⟩
    exact h.ordered hs hr
  · exact fun hord => ⟨_, _, h.renumbers hs hord⟩

/-! ### Starting the program again -/

/-- What is loaded has the profiles and the orders that were left.

**Proof sketch.** A row has the group and the order of what it is a row of. -/
lemma Consistent.ordered_iff [AbstractBean B] {s t : ProfileManager B} (hs : Consistent .reads s)
    (ht : IsLoaded s.db t) : t.Ordered ↔ s.Ordered := by
  have hgidOf : ∀ id, t.gidOf id = s.gidOf id := by
    intro id
    cases hp : s.profiles.get? id with
    | none =>
      have hnone := ht.noProfile id (hs.noRow id hp)
      unfold ProfileManager.gidOf
      rw [hnone, hp]
      rfl
    | some p =>
      obtain ⟨row, hrow, hread⟩ := hs.row id p hp
      obtain ⟨q, hq, hobj⟩ := ht.profile id row hrow
      have hgid : (s.objects p).gid = row.gid := by
        rcases hread with hread | hread
        · rw [hread]
        · rw [hread]
          rfl
      unfold ProfileManager.gidOf
      rw [hq, hp, Option.map_some, Option.map_some, hobj, hgid]
      rfl
  have hgroup : ∀ (gid : ℤ) (group : Group), s.groups.get? gid = some group →
      ∃ group', t.groups.get? gid = some group' ∧ group'.order = group.order := by
    intro gid group hg
    obtain ⟨row, hrow, hread⟩ := hs.groupRow gid group hg
    refine ⟨loadGroup gid row, by rw [ht.groups, hrow]; rfl, ?_⟩
    rcases hread with hread | hread
    · rw [hread]
      rfl
    · rw [hread]
      rfl
  have hids : ∀ (gid : ℤ) (group group' : Group), s.groups.get? gid = some group →
      t.groups.get? gid = some group' → t.groupProfileIdsOf gid = s.groupProfileIdsOf gid := by
    intro gid group group' hg hg'
    obtain ⟨ids, hids, hen⟩ := hs.index gid group hg
    obtain ⟨ids', hids', hen'⟩ := ht.index gid group' hg'
    rw [Consistent.groupProfileIdsOf_eq hids, Consistent.groupProfileIdsOf_eq hids']
    exact hen'.unique (hen.congr fun id => by rw [hgidOf])
  constructor
  · intro hord gid group hg
    obtain ⟨group', hg', horder⟩ := hgroup gid group hg
    rw [← horder, ← hids gid group group' hg hg']
    exact hord gid group' hg'
  · intro hord gid group' hg'
    cases hg : s.groups.get? gid with
    | none =>
      have hnone := ht.groups gid
      rw [hs.noGroupRow gid hg, hg'] at hnone
      exact absurd hnone (by simp)
    | some group =>
      obtain ⟨group'', hg'', horder⟩ := hgroup gid group hg
      obtain rfl := Option.some.inj (hg'.symm.trans hg'')
      rw [horder, hids gid group _ hg hg']
      exact hord gid group hg

/-- A program that is started again on what a consistent store left, and asked for a new numbering. -/
lemma Consistent.renumbers_iff [AbstractBean B] {s : ProfileManager B} (hs : Consistent .reads s)
    {dataStore : DataStore} (hflag : dataStore.flag_reorder = true) :
    (∃ p g, Renumbers (ProfileManager.loadStored { s with dataStore })
      (ProfileManager.loadManager { s with dataStore }) p g) ↔ s.Ordered := by
  have hload := hs.isLoaded dataStore
  have hreorder : ProfileManager.loadManager { s with dataStore } =
      (ProfileManager.loadStored { s with dataStore }).reorder := by
    have hflag' := (loadStored_flag_reorder { s with dataStore }).trans hflag
    unfold ProfileManager.loadManager
    dsimp only
    rw [hflag', if_pos rfl]
  rw [hreorder, renumbers_reorder_iff (hload.coherent hs.sound), hs.ordered_iff hload]

/-- **The new numbering of a reachable store changes nothing but the identifiers exactly if the orders
of the groups list their profiles.** -/
theorem renumbers_loadManager_iff [AbstractBean B] {s : ProfileManager B} (hs : Reachable s)
    {dataStore : DataStore} (hflag : dataStore.flag_reorder = true) :
    (∃ p g, Renumbers (ProfileManager.loadStored { s with dataStore })
      (ProfileManager.loadManager { s with dataStore }) p g) ↔ s.Ordered :=
  hs.consistent.renumbers_iff hflag

/-! ### A run -/

open Fmt in
/-- A profile is added, and its group gets an order. -/
def orderedStore : ProfileManager ChainBean :=
  Op.run (Op.run freshStore.loadManager (.addProfile { type := "chain", bean := {} } (-1)))
    (.saveGroup { id := 0, name := "Default", order := [0], toggle_proxy_ids := [0] })

lemma reachable_orderedStore : Reachable orderedStore := by
  have hadd : Reachable (Op.run freshStore.loadManager
      (.addProfile { type := "chain", bean := {} } (-1))) :=
    (Reachable.load sound_freshStore rfl).op trivial trivial
  have hsave : Op.Allowed (Op.run freshStore.loadManager
      (.addProfile { type := "chain", bean := {} } (-1)))
      (.saveGroup { id := 0, name := "Default", order := [0], toggle_proxy_ids := [0] }) :=
    ⟨⟨_, rfl⟩, by decide⟩
  exact hadd.op hsave trivial

/-- The profile is kept. -/
theorem renumbers_loadManager_iff_orderedStore :
    (∃ p g, Renumbers
      (ProfileManager.loadStored { orderedStore with dataStore := { flag_reorder := true } })
      (ProfileManager.loadManager { orderedStore with dataStore := { flag_reorder := true } }) p g) ↔
      orderedStore.Ordered :=
  renumbers_loadManager_iff reachable_orderedStore rfl

/-- A profile that is added after that is lost. -/
theorem not_renumbers_loadManager :
    ¬ ∀ s : ProfileManager Fmt.ChainBean, Reachable s → ∀ dataStore : DataStore,
      dataStore.flag_reorder = true →
        ∃ p g, Renumbers (ProfileManager.loadStored { s with dataStore })
          (ProfileManager.loadManager { s with dataStore }) p g := by
  intro h
  have hs : Reachable (Op.run orderedStore (.addProfile { type := "vmess", bean := {} } (-1))) :=
    reachable_orderedStore.op trivial trivial
  have hord := (hs.consistent.renumbers_iff rfl).1 (h _ hs { flag_reorder := true } rfl)
  have hgroup : OrdMap.get?
      (Op.run orderedStore (.addProfile { type := "vmess", bean := {} } (-1))).groups 0 =
        some { id := 0, name := "Default", order := [0], toggle_proxy_ids := [0] } := rfl
  have hshown : (Op.run orderedStore
      (.addProfile { type := "vmess", bean := {} } (-1))).shownIds 0 = [0] := by
    unfold ProfileManager.shownIds
    rw [hgroup]
    exact if_neg (List.cons_ne_nil _ _)
  have hmem := ((hs.consistent.toCoherent.shownIds_of_ordered hord hgroup).2 1).2 rfl
  rw [hshown] at hmem
  exact absurd hmem (by decide)

end Proxor.Db
