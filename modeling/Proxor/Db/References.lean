import Proxor.Db.ReorderProfiles
import Proxor.Db.BuildChain

set_option relaxedAutoImplicit false
set_option autoImplicit false

/-!
# The new numbering and what refers to it

Settings, groups and chains keep identifiers. The new numbering replaces some of them: those of the
running and the remembered profile, of the current group and of the proxies a group toggles. The others
are kept as they are.

## Main definitions

* `Proxor.Db.Follows` — a reference denotes afterwards what it denoted before.
* `Proxor.Db.ReferencesFollow` — every reference does.
* `Proxor.Db.SameConfig` — every profile has the same chain of servers, and the same direct sites.
* `Proxor.Db.ProfileManager.Fixed` — what is not replaced need not be.

## Main results

* `Proxor.Db.references_follow_iff` — the references denote what they denoted before exactly if the new
  numbering does not change the identifiers that it does not replace.
-/

namespace Proxor.Db

variable {B : Type}

/-- A reference to one of these identifiers is the one it has become; and what denoted nothing denotes
nothing. -/
def Follows (ids ids' : List ℤ) (f : ℤ → ℤ) (old new : ℤ) : Prop :=
  if old ∈ ids then new = f old else new ∉ ids'

/-- Every reference denotes afterwards what it denoted before. -/
structure ReferencesFollow [AbstractBean B] (s s' : ProfileManager B) (p g : ℤ → ℤ) : Prop where
  front_proxy_id : ∀ (gid : ℤ) (group group' : Group), s.groups.get? gid = some group →
    s'.groups.get? (g gid) = some group' →
      Follows s.profiles.keys s'.profiles.keys p group.front_proxy_id group'.front_proxy_id
  toggle_proxy_ids : ∀ (gid : ℤ) (group group' : Group), s.groups.get? gid = some group →
    s'.groups.get? (g gid) = some group' →
      List.Forall₂ (Follows s.profiles.keys s'.profiles.keys p) group.toggle_proxy_ids
        group'.toggle_proxy_ids
  list : ∀ (id : ℤ) (q q' : Ref), s.profiles.get? id = some q →
    s'.profiles.get? (p id) = some q' → (s.objects q).type = "chain" →
      List.Forall₂ (Follows s.profiles.keys s'.profiles.keys p)
        (AbstractBean.list (s.objects q).bean) (AbstractBean.list (s'.objects q').bean)
  started_id : Follows s.profiles.keys s'.profiles.keys p s.dataStore.started_id
    s'.dataStore.started_id
  remember_id : Follows s.profiles.keys s'.profiles.keys p s.dataStore.remember_id
    s'.dataStore.remember_id
  current_group : Follows s.groups.keys s'.groups.keys g s.dataStore.current_group
    s'.dataStore.current_group
  ssid_on_demand_profile_id : Follows s.profiles.keys s'.profiles.keys p
    s.dataStore.ssid_on_demand_profile_id s'.dataStore.ssid_on_demand_profile_id
  direct_site_rules : List.Forall₂ (fun rule rule' : DirectSiteRule => rule'.sites = rule.sites ∧
    List.Forall₂ (Follows s.groups.keys s'.groups.keys g) rule.groups rule'.groups ∧
      List.Forall₂ (Follows s.profiles.keys s'.profiles.keys p) rule.profiles rule'.profiles)
    s.dataStore.direct_site_rules s'.dataStore.direct_site_rules

/-- Every profile has the same chain of servers as before, and the same direct sites. -/
structure SameConfig [AbstractBean B] (s s' : ProfileManager B) (p g : ℤ → ℤ) : Prop where
  buildChain : ∀ (id : ℤ) (q : Ref), s.profiles.get? id = some q →
    s'.profiles.get? (p id) = some q ∧ s'.buildChain q = s.buildChain q
  directSites : ∀ (id : ℤ) (q : Ref), s.profiles.get? id = some q →
    ProfileManager.directSites s'.dataStore.direct_site_rules (g (s.objects q).gid) (p id) =
      ProfileManager.directSites s.dataStore.direct_site_rules (s.objects q).gid id

namespace ProfileManager

/-- A reference to a profile that is not replaced need not be: the profile keeps its identifier, or there
is none, and no profile gets it. -/
def FixedProfile (s : ProfileManager B) (id : ℤ) : Prop :=
  if id ∈ s.profiles.keys then s.newId id = id else ¬ (0 ≤ id ∧ id < s.profiles.size)

/-- A reference to a group that is not replaced need not be. -/
def FixedGroup (s : ProfileManager B) (gid : ℤ) : Prop :=
  if gid ∈ s.groups.keys then s.newGid gid = gid else ¬ (0 ≤ gid ∧ gid < s.groups.size)

/-- What is not replaced need not be. What is replaced if it denotes a profile is only asked for where it
denotes none. -/
structure Fixed [AbstractBean B] (s : ProfileManager B) : Prop where
  front_proxy_id : ∀ (gid : ℤ) (group : Group), s.groups.get? gid = some group →
    s.FixedProfile group.front_proxy_id
  list : ∀ (id : ℤ) (q : Ref), s.profiles.get? id = some q → (s.objects q).type = "chain" →
    ∀ id' ∈ AbstractBean.list (s.objects q).bean, s.FixedProfile id'
  started_id : s.dataStore.started_id ∉ s.profiles.keys → s.FixedProfile s.dataStore.started_id
  remember_id : s.dataStore.remember_id ∉ s.profiles.keys → s.FixedProfile s.dataStore.remember_id
  current_group : s.dataStore.current_group ∉ s.groups.keys →
    s.FixedGroup s.dataStore.current_group
  ssid_on_demand_profile_id : s.FixedProfile s.dataStore.ssid_on_demand_profile_id
  direct_site_rules : ∀ rule ∈ s.dataStore.direct_site_rules,
    (∀ gid ∈ rule.groups, s.FixedGroup gid) ∧ ∀ id ∈ rule.profiles, s.FixedProfile id

end ProfileManager

/-! ### Which identifiers there are afterwards -/

section

variable {R : Reading B} {s s' : ProfileManager B} {pids : OrdMap ℤ ℤ}

lemma length_visited (hs : Coherent R s) (hord : s.Ordered) : s.visited.length = s.profiles.size := by
  obtain ⟨hnodup, hmem⟩ := hs.visitedIds_of_ordered hord
  have hperm : s.visitedIds.Perm s.profiles.keys :=
    (List.perm_ext_iff_of_nodup hnodup s.profiles.nodup_keys).2 fun id => by
      rw [hmem, OrdMap.mem_keys]
  rw [← s.profiles.length_keys, ← hperm.length_eq, ← hs.map_id_visited, List.length_map]

/-- The profiles are numbered from zero. -/
lemma IsReordered.mem_profiles (h : IsReordered s s' pids) (hs : Coherent R s) (hord : s.Ordered)
    (id : ℤ) : id ∈ s'.profiles.keys ↔ 0 ≤ id ∧ id < s.profiles.size := by
  rw [OrdMap.mem_keys, ← length_visited hs hord]
  constructor
  · rintro ⟨q, hq⟩
    obtain ⟨j, gid, rfl, hget⟩ := (h.profiles id q).1 hq
    have hlt := (List.getElem?_eq_some_iff.1 hget).1
    omega
  · rintro ⟨hpos, hlt⟩
    obtain ⟨j, rfl⟩ := Int.eq_ofNat_of_zero_le hpos
    have hj : j < s.visited.length := Int.ofNat_lt.1 hlt
    exact ⟨s.visited[j].1, (h.profiles _ _).2 ⟨j, s.visited[j].2, rfl, List.getElem?_eq_getElem hj⟩⟩

/-- The groups are numbered from zero. -/
lemma IsReordered.mem_groups (h : IsReordered s s' pids) (hs : Coherent R s) (gid : ℤ) :
    gid ∈ s'.groups.keys ↔ 0 ≤ gid ∧ gid < s.groups.size := by
  rw [OrdMap.mem_keys, ← s.groups.length_keys, ← hs.tabs.length_eq]
  constructor
  · rintro ⟨group', hg'⟩
    obtain ⟨j, gid', group, rfl, hget, -⟩ := (h.groups gid group').1 hg'
    have hlt := (List.getElem?_eq_some_iff.1 hget).1
    omega
  · rintro ⟨hpos, hlt⟩
    obtain ⟨j, rfl⟩ := Int.eq_ofNat_of_zero_le hpos
    have hj : j < s.groupsTabOrder.length := Int.ofNat_lt.1 hlt
    obtain ⟨group, hg⟩ := hs.tab_stored _ (List.getElem_mem hj)
    exact ⟨_, (h.groups _ _).2 ⟨j, _, group, rfl, List.getElem?_eq_getElem hj, hg, rfl⟩⟩

/-- Where a profile went. -/
lemma IsReordered.pids_get? (h : IsReordered s s' pids) (hs : Coherent R s) (hord : s.Ordered)
    (id : ℤ) : pids.get? id = if id ∈ s.profiles.keys then some (s.newId id) else none := by
  obtain ⟨hnodup, hmem⟩ := hs.visitedIds_of_ordered hord
  have hpids := h.renumbered (hs.map_id_visited ▸ hnodup) id
  split_ifs with hid
  · obtain ⟨p, hp⟩ := s.profiles.mem_keys.1 hid
    refine (hpids _).2 ⟨_, _, rfl, hs.visited_newId hord hp, (hs.profile id p hp).1⟩
  · rw [Option.eq_none_iff_forall_ne_some]
    intro x hx
    obtain ⟨j, e, -, hget, heid⟩ := (hpids x).1 hx
    obtain ⟨id', hid', -⟩ := hs.exists_of_visited hord hget
    rw [(hs.profile id' e.1 hid').1] at heid
    exact hid (s.profiles.mem_keys.2 ⟨e.1, heid ▸ hid'⟩)

/-! ### The references -/

/-- A reference to a profile that is kept. -/
lemma IsReordered.follows_kept (h : IsReordered s s' pids) (hs : Coherent R s) (hord : s.Ordered)
    (id : ℤ) : Follows s.profiles.keys s'.profiles.keys s.newId id id ↔ s.FixedProfile id := by
  unfold Follows ProfileManager.FixedProfile
  split_ifs
  · exact eq_comm
  · rw [h.mem_profiles hs hord]

/-- A reference to a group that is kept. -/
lemma IsReordered.follows_kept_group (h : IsReordered s s' pids) (hs : Coherent R s) (gid : ℤ) :
    Follows s.groups.keys s'.groups.keys s.newGid gid gid ↔ s.FixedGroup gid := by
  unfold Follows ProfileManager.FixedGroup
  split_ifs
  · exact eq_comm
  · rw [h.mem_groups hs]

/-- A reference that is replaced if it denotes something. -/
lemma follows_mapped {ids ids' : List ℤ} {f : ℤ → ℤ} {old2New : OrdMap ℤ ℤ} {old : ℤ}
    (hget : old2New.get? old = if old ∈ ids then some (f old) else none) :
    Follows ids ids' f old (Reorder.mapped old2New old) ↔ old ∉ ids → old ∉ ids' := by
  unfold Follows Reorder.mapped
  rw [hget]
  split_ifs with hold
  · exact ⟨fun _ h => absurd hold h, fun _ => rfl⟩
  · exact ⟨fun h _ => h, fun h => h hold⟩

/-- References to profiles that are all replaced. -/
lemma forall₂_filterMap {ids ids' l : List ℤ} {f : ℤ → ℤ} {old2New : OrdMap ℤ ℤ}
    (hget : ∀ id : ℤ, old2New.get? id = if id ∈ ids then some (f id) else none)
    (hl : ∀ id ∈ l, id ∈ ids) : List.Forall₂ (Follows ids ids' f) l (l.filterMap old2New.get?) := by
  induction l with
  | nil => exact .nil
  | cons id l ih =>
    have hid := hl id List.mem_cons_self
    have hsome : old2New.get? id = some (f id) := by rw [hget, if_pos hid]
    rw [List.filterMap_cons, hsome]
    refine .cons ?_ (ih fun x hx => hl x (List.mem_cons_of_mem _ hx))
    unfold Follows
    rw [if_pos hid]

/-! ### The configurations -/

/-- A profile that is looked up by an identifier that need not be replaced. -/
lemma IsReordered.getProfile_fixed (h : IsReordered s s' pids) (hs : Coherent R s)
    (hord : s.Ordered) {id : ℤ} (hfixed : s.FixedProfile id) : s'.getProfile id = s.getProfile id := by
  unfold ProfileManager.FixedProfile at hfixed
  unfold ProfileManager.getProfile
  split_ifs at hfixed with hid
  · obtain ⟨q, hq⟩ := s.profiles.mem_keys.1 hid
    have hget := (h.profile_newId hs hord hq).1
    rw [hfixed] at hget
    rw [hget, hq]
  · rw [← h.mem_profiles hs hord, ← OrdMap.get?_eq_none] at hfixed
    rw [hfixed, (OrdMap.get?_eq_none _).2 hid]

/-- Whether a list of identifiers that need not be replaced names a profile. -/
lemma IsReordered.newId_mem (h : IsReordered s s' pids) (hs : Coherent R s) (hord : s.Ordered)
    {ids : List ℤ} (hfixed : ∀ id ∈ ids, s.FixedProfile id) {id : ℤ} {q : Ref}
    (hq : s.profiles.get? id = some q) : s.newId id ∈ ids ↔ id ∈ ids := by
  have hid : id ∈ s.profiles.keys := s.profiles.mem_keys.2 ⟨q, hq⟩
  have hfix : ∀ x ∈ s.profiles.keys, s.FixedProfile x → s.newId x = x := by
    intro x hx hfx
    unfold ProfileManager.FixedProfile at hfx
    rwa [if_pos hx] at hfx
  constructor
  · intro hmem
    have hnew : s.newId id ∈ s'.profiles.keys :=
      s'.profiles.mem_keys.2 ⟨q, (h.profile_newId hs hord hq).1⟩
    have hstored : s.newId id ∈ s.profiles.keys := by
      by_contra hnot
      have hfx := hfixed _ hmem
      unfold ProfileManager.FixedProfile at hfx
      rw [if_neg hnot] at hfx
      exact hfx ((h.mem_profiles hs hord _).1 hnew)
    -- the new identifier is that of a profile that keeps it, so it is the same profile
    have hsame := (h.renumbers hs hord).profileOnce _ hstored id hid
      (hfix _ hstored (hfixed _ hmem))
    exact hsame ▸ hmem
  · intro hmem
    rw [hfix id hid (hfixed id hmem)]
    exact hmem

/-- Whether a list of identifiers that need not be replaced names a group. -/
lemma IsReordered.newGid_mem (h : IsReordered s s' pids) (hs : Coherent R s) (hord : s.Ordered)
    {gids : List ℤ} (hfixed : ∀ gid ∈ gids, s.FixedGroup gid) {gid : ℤ} {group : Group}
    (hg : s.groups.get? gid = some group) : s.newGid gid ∈ gids ↔ gid ∈ gids := by
  have hgid : gid ∈ s.groups.keys := s.groups.mem_keys.2 ⟨group, hg⟩
  have hfix : ∀ x ∈ s.groups.keys, s.FixedGroup x → s.newGid x = x := by
    intro x hx hfx
    unfold ProfileManager.FixedGroup at hfx
    rwa [if_pos hx] at hfx
  constructor
  · intro hmem
    have hnew : s.newGid gid ∈ s'.groups.keys :=
      s'.groups.mem_keys.2 ⟨_, h.group_newGid hs hg⟩
    have hstored : s.newGid gid ∈ s.groups.keys := by
      by_contra hnot
      have hfx := hfixed _ hmem
      unfold ProfileManager.FixedGroup at hfx
      rw [if_neg hnot] at hfx
      exact hfx ((h.mem_groups hs _).1 hnew)
    have hsame := (h.renumbers hs hord).groupOnce _ hstored gid hgid
      (hfix _ hstored (hfixed _ hmem))
    exact hsame ▸ hmem
  · intro hmem
    rw [hfix gid hgid (hfixed gid hmem)]
    exact hmem

/-- The profiles of identifiers that need not be replaced.

**Proof sketch.** By induction on the identifiers. -/
lemma IsReordered.resolveIds_fixed (h : IsReordered s s' pids) (hs : Coherent R s)
    (hord : s.Ordered) {ids : List ℤ} (hfixed : ∀ id ∈ ids, s.FixedProfile id) :
    s'.resolveIds ids = s.resolveIds ids := by
  induction ids with
  | nil => rfl
  | cons id ids ih =>
    unfold ProfileManager.resolveIds
    rw [h.getProfile_fixed hs hord (hfixed id List.mem_cons_self)]
    cases hq : s.getProfile id with
    | none => rfl
    | some q =>
      dsimp only
      rw [(h.profile_newId hs hord hq).2, ih fun x hx => hfixed x (List.mem_cons_of_mem _ hx)]

variable [AbstractBean B]

/-- The chain of a profile whose identifiers need not be replaced. -/
lemma IsReordered.resolveChain_fixed (h : IsReordered s s' pids) (hs : Coherent R s)
    (hord : s.Ordered) (hfixed : s.Fixed) {id : ℤ} {q : Ref} (hq : s.profiles.get? id = some q) :
    s'.resolveChain q = s.resolveChain q := by
  unfold ProfileManager.resolveChain
  rw [(h.profile_newId hs hord hq).2]
  dsimp only
  split_ifs with htype
  · exact h.resolveIds_fixed hs hord fun x hx =>
      hfixed.list id q hq htype x (List.mem_reverse.1 hx)
  · rfl

/-- **The configurations are the same if what is not replaced need not be.**

**Proof sketch.** Every lookup finds the same profile as before. A rule names the new identifier of a
group or a profile exactly if it named the old one, as no other takes an identifier that is kept. -/
theorem IsReordered.sameConfig (h : IsReordered s s' pids) (hs : Coherent R s) (hord : s.Ordered)
    (hfixed : s.Fixed) : SameConfig s s' s.newId s.newGid := by
  refine ⟨fun id q hq => ?_, fun id q hq => ?_⟩
  · obtain ⟨hget, hobj⟩ := h.profile_newId hs hord hq
    refine ⟨hget, ?_⟩
    obtain ⟨group, hg⟩ := hs.gid id q hq
    have hg' : s'.getGroup (s.newGid (s.objects q).gid) = _ := h.group_newGid hs hg
    have hgs : s.getGroup (s.objects q).gid = some group := hg
    have hfront := hfixed.front_proxy_id _ group hg
    unfold ProfileManager.buildChain
    rw [h.resolveChain_fixed hs hord hfixed hq, hobj, hg', hgs]
    refine congrArg (Except.bind _) (funext fun ents => ?_)
    unfold Reorder.regrouped
    dsimp only
    rw [h.getProfile_fixed hs hord hfront]
    cases hf : s.getProfile group.front_proxy_id with
    | none => rfl
    | some front =>
      dsimp only
      rw [h.resolveChain_fixed hs hord hfixed hf]
  · obtain ⟨gids, -, hdata⟩ := h.dataStore
    obtain ⟨group, hg⟩ := hs.gid id q hq
    rw [hdata]
    unfold ProfileManager.directSites
    refine congrArg (List.flatMap _) (List.filter_congr fun rule hrule => ?_)
    obtain ⟨hgroups, hprofiles⟩ := hfixed.direct_site_rules rule hrule
    exact decide_eq_decide.2
      (or_congr (h.newGid_mem hs hord hgroups hg) (h.newId_mem hs hord hprofiles hq))

/-! ### The references -/

/-- **The references denote what they denoted before exactly if what is not replaced need not be.**

**Proof sketch.** Clause by clause. The proxies that a group toggles are profiles of the group, so all of
them are replaced. -/
theorem IsReordered.follow_iff (h : IsReordered s s' pids) (hs : Coherent R s) (hord : s.Ordered) :
    ReferencesFollow s s' s.newId s.newGid ↔ s.Fixed := by
  obtain ⟨gids, hgids, hdata⟩ := h.dataStore
  have hkept := h.follows_kept hs hord
  have hkeptGroup := h.follows_kept_group hs
  have hmapped : ∀ id, Follows s.profiles.keys s'.profiles.keys s.newId id
      (Reorder.mapped pids id) ↔ (id ∉ s.profiles.keys → s.FixedProfile id) := by
    intro id
    rw [follows_mapped (h.pids_get? hs hord id)]
    refine forall_congr' fun hid => ?_
    unfold ProfileManager.FixedProfile
    rw [if_neg hid, h.mem_profiles hs hord]
  have hmappedGroup : ∀ gid, Follows s.groups.keys s'.groups.keys s.newGid gid
      (Reorder.mapped gids gid) ↔ (gid ∉ s.groups.keys → s.FixedGroup gid) := by
    intro gid
    have hget : gids.get? gid = if gid ∈ s.groups.keys then some (s.newGid gid) else none := by
      rw [hgids]
      simp only [hs.tabs.mem_iff]
      rfl
    rw [follows_mapped hget]
    refine forall_congr' fun hgid => ?_
    unfold ProfileManager.FixedGroup
    rw [if_neg hgid, h.mem_groups hs]
  constructor
  · intro hfollow
    have hssid := hfollow.ssid_on_demand_profile_id
    have hrules := hfollow.direct_site_rules
    have hstarted := hfollow.started_id
    have hremember := hfollow.remember_id
    have hcurrent := hfollow.current_group
    rw [hdata] at hssid hrules hstarted hremember hcurrent
    refine {
      front_proxy_id := fun gid group hg => ?_
      list := fun id q hq htype id' hid' => ?_
      started_id := (hmapped _).1 hstarted
      remember_id := (hmapped _).1 hremember
      current_group := (hmappedGroup _).1 hcurrent
      ssid_on_demand_profile_id := (hkept _).1 hssid
      direct_site_rules := fun rule hrule => ?_ }
    · have hfront := hfollow.front_proxy_id gid group _ hg (h.group_newGid hs hg)
      exact (hkept _).1 hfront
    · obtain ⟨hq', hobj⟩ := h.profile_newId hs hord hq
      have hlist := hfollow.list id q q hq hq' htype
      rw [hobj] at hlist
      exact (hkept id').1 (List.forall₂_same.1 hlist id' hid')
    · obtain ⟨-, hgroups, hprofiles⟩ := List.forall₂_same.1 hrules rule hrule
      exact ⟨fun gid hgid => (hkeptGroup gid).1 (List.forall₂_same.1 hgroups gid hgid),
        fun id hid => (hkept id).1 (List.forall₂_same.1 hprofiles id hid)⟩
  · intro hfixed
    refine {
      front_proxy_id := fun gid group group' hg hg' => ?_
      toggle_proxy_ids := fun gid group group' hg hg' => ?_
      list := fun id q q' hq hq' htype => ?_
      started_id := ?_
      remember_id := ?_
      current_group := ?_
      ssid_on_demand_profile_id := ?_
      direct_site_rules := ?_ }
    · obtain rfl := Option.some.inj ((h.group_newGid hs hg).symm.trans hg')
      exact (hkept _).2 (hfixed.front_proxy_id gid group hg)
    · obtain rfl := Option.some.inj ((h.group_newGid hs hg).symm.trans hg')
      refine forall₂_filterMap (h.pids_get? hs hord) fun id hid => ?_
      obtain ⟨p, hp, -⟩ :=
        ProfileManager.gidOf_eq_some.1 (hs.order gid group hg id (List.mem_append_right _ hid))
      exact s.profiles.mem_keys.2 ⟨p, hp⟩
    · obtain ⟨hget, hobj⟩ := h.profile_newId hs hord hq
      obtain rfl := Option.some.inj (hget.symm.trans hq')
      rw [hobj]
      exact List.forall₂_same.2 fun id' hid' => (hkept id').2 (hfixed.list id q hq htype id' hid')
    · rw [hdata]
      exact (hmapped _).2 hfixed.started_id
    · rw [hdata]
      exact (hmapped _).2 hfixed.remember_id
    · rw [hdata]
      exact (hmappedGroup _).2 hfixed.current_group
    · rw [hdata]
      exact (hkept _).2 hfixed.ssid_on_demand_profile_id
    · rw [hdata]
      refine List.forall₂_same.2 fun rule hrule => ⟨rfl, ?_, ?_⟩
      · exact List.forall₂_same.2 fun gid hgid =>
          (hkeptGroup gid).2 ((hfixed.direct_site_rules rule hrule).1 gid hgid)
      · exact List.forall₂_same.2 fun id hid =>
          (hkept id).2 ((hfixed.direct_site_rules rule hrule).2 id hid)

end

/-! ### Starting the program -/

/-- A program that starts on a sound database, and is asked for a new numbering. -/
lemma reorder_loadStored [AbstractBean B] {s : ProfileManager B} (hdb : s.db.Sound)
    (hflag : s.dataStore.flag_reorder = true) :
    ∃ pids, Coherent .reads s.loadStored ∧ IsReordered s.loadStored s.loadManager pids := by
  have hcons := (consistent_loadStored s hdb).toCoherent
  have hreorder : s.loadManager = s.loadStored.reorder := by
    have hflag' := (loadStored_flag_reorder s).trans hflag
    unfold ProfileManager.loadManager
    dsimp only
    rw [hflag', if_pos rfl]
  obtain ⟨pids, h⟩ := isReordered_reorder hcons.tab_stored hcons.nodup_tabs
  exact ⟨pids, hcons, hreorder ▸ h⟩

/-- **Where the orders of the groups list their profiles, every reference denotes afterwards what it
denoted before, and every configuration is the same, exactly if the new numbering does not change the
identifiers that it does not replace.** -/
theorem references_follow_iff [AbstractBean B] {s : ProfileManager B} (hdb : s.db.Sound)
    (hflag : s.dataStore.flag_reorder = true) (hord : s.loadStored.Ordered) :
    (Renumbers s.loadStored s.loadManager s.loadStored.newId s.loadStored.newGid ∧
      ReferencesFollow s.loadStored s.loadManager s.loadStored.newId s.loadStored.newGid ∧
      SameConfig s.loadStored s.loadManager s.loadStored.newId s.loadStored.newGid) ↔
      s.loadStored.Fixed := by
  obtain ⟨pids, hcoh, h⟩ := reorder_loadStored hdb hflag
  constructor
  · rintro ⟨-, hfollow, -⟩
    exact (h.follow_iff hcoh hord).1 hfollow
  · intro hfixed
    exact ⟨h.renumbers hcoh hord, (h.follow_iff hcoh hord).2 hfixed,
      h.sameConfig hcoh hord hfixed⟩

/-! ### A front proxy -/

open Fmt in
/-- A group of one profile, which is its front proxy. -/
def frontStore : ProfileManager ChainBean where
  objects _ := { type := "chain", bean := {} }
  db :=
    { profiles := OrdMap.empty.insert 1 { type := "chain", id := 1, bean := {} }
      groups := OrdMap.empty.insert 0 { id := 0, order := [1], front_proxy_id := 1 }
      groupsTabOrder := some [0] }
  dataStore := { flag_reorder := true }

lemma sound_frontStore : frontStore.db.Sound := by
  refine ⟨fun id row hrow => ?_, fun gid row hrow => ?_, by decide⟩
  · unfold frontStore at hrow
    dsimp only at hrow
    rw [OrdMap.get?_insert] at hrow
    split_ifs at hrow with hid
    · obtain rfl := Option.some.inj hrow
      exact ⟨hid ▸ by decide, _, rfl⟩
    · exact absurd hrow (by simp)
  · unfold frontStore at hrow
    dsimp only at hrow
    rw [OrdMap.get?_insert] at hrow
    split_ifs at hrow with hgid
    · obtain rfl := Option.some.inj hrow
      subst hgid
      refine ⟨le_rfl, fun id hid => ?_⟩
      obtain rfl : id = 1 := List.mem_singleton.1 hid
      exact ⟨_, rfl, rfl⟩
    · exact absurd hrow (by simp)

lemma ordered_frontStore : frontStore.loadStored.Ordered := by
  have hcoh := (consistent_loadStored frontStore sound_frontStore).toCoherent
  have hgroups : frontStore.loadStored.groups =
      OrdMap.empty.insert 0 { id := 0, order := [1], front_proxy_id := 1 } := rfl
  have hprofiles : frontStore.loadStored.profiles = OrdMap.empty.insert 1 0 := rfl
  intro gid group hg
  obtain ⟨ids, hids, hen⟩ := hcoh.index gid group hg
  rw [Consistent.groupProfileIdsOf_eq hids]
  rw [hgroups, OrdMap.get?_insert] at hg
  split_ifs at hg with hgid
  · obtain rfl := Option.some.inj hg
    refine .inr ((List.perm_ext_iff_of_nodup (List.nodup_singleton 1) hen.nodup).2 fun id => ?_)
    rw [hen.2, List.mem_singleton]
    dsimp only
    rw [ProfileManager.gidOf_eq_some, hprofiles]
    simp only [OrdMap.get?_insert]
    subst hgid
    split_ifs with hid
    · exact iff_of_true hid ⟨0, rfl, rfl⟩
    · exact iff_of_false hid (by simp)
  · exact absurd hg (by simp)

/-- What that needs to keep its configurations. -/
theorem references_follow_iff_frontStore :
    (Renumbers frontStore.loadStored frontStore.loadManager frontStore.loadStored.newId
        frontStore.loadStored.newGid ∧
      ReferencesFollow frontStore.loadStored frontStore.loadManager frontStore.loadStored.newId
        frontStore.loadStored.newGid ∧
      SameConfig frontStore.loadStored frontStore.loadManager frontStore.loadStored.newId
        frontStore.loadStored.newGid) ↔
      frontStore.loadStored.Fixed :=
  references_follow_iff sound_frontStore rfl ordered_frontStore

/-- Its only profile gets another identifier, and the group keeps the old one for its front proxy. -/
theorem not_references_follow :
    ¬ ∀ s : ProfileManager Fmt.ChainBean, s.db.Sound → s.dataStore.flag_reorder = true →
      s.loadStored.Ordered →
        ReferencesFollow s.loadStored s.loadManager s.loadStored.newId s.loadStored.newGid := by
  intro h
  have hfollow := h frontStore sound_frontStore rfl ordered_frontStore
  obtain ⟨pids, hcoh, hre⟩ := reorder_loadStored sound_frontStore rfl
  have hfixed := (hre.follow_iff hcoh ordered_frontStore).1 hfollow
  have hfront := hfixed.front_proxy_id 0 { id := 0, order := [1], front_proxy_id := 1 } rfl
  unfold ProfileManager.FixedProfile at hfront
  rw [if_pos (by decide)] at hfront
  exact absurd hfront (by decide)

end Proxor.Db
