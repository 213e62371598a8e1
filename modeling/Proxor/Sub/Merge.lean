import Proxor.Db.ReorderProfiles
import Proxor.Sub.GroupUpdater

set_option relaxedAutoImplicit false
set_option autoImplicit false

/-!
# What an update does to the store

The new profiles get identifiers that were not stored, and each entry of the subscription stands in the
new order under the last profile of the group that had its identity, or under its new copy.

## Main definitions

* `Proxor.Db.ProfileManager.Holds`, `Proxor.Db.ProfileManager.IsLatest` — a profile of a group with an
  identity, and the last one.
* `Proxor.Sub.Adds` — the entries are new profiles of the group.
* `Proxor.Sub.Merges` — what is stored after an update.

## Main results

* `Proxor.Sub.adds_foldl` — reading a body adds its entries.
* `Proxor.Sub.merges_updateGroup` — an update that does not clear the group merges.
-/

namespace Proxor.Db

variable {B : Type}

section GroupProfiles

variable {R : Reading B} {s : ProfileManager B} {gid : ℤ}

/-- The profiles of a group are those stored in it. -/
lemma Coherent.mem_groupProfiles (hs : Coherent R s) {group : Group}
    (hg : s.groups.get? gid = some group) {p : Ref} : p ∈ s.groupProfiles gid ↔
      ∃ id, s.profiles.get? id = some p ∧ (s.objects p).gid = gid := by
  obtain ⟨ids, hids, hen⟩ := hs.index gid group hg
  unfold ProfileManager.groupProfiles
  rw [Consistent.groupProfileIdsOf_eq hids, List.mem_filterMap]
  constructor
  · rintro ⟨id, hid, hp⟩
    obtain ⟨q, hq, hgid⟩ := ProfileManager.gidOf_eq_some.1 ((hen.2 id).1 hid)
    obtain rfl := Option.some.inj (hp.symm.trans hq)
    exact ⟨id, hp, hgid⟩
  · rintro ⟨id, hp, hgid⟩
    exact ⟨id, (hen.2 id).2 (ProfileManager.gidOf_eq_some.2 ⟨p, hp, hgid⟩), hp⟩

/-- They are in the order of their identifiers. -/
lemma Coherent.pairwise_groupProfiles (hs : Coherent R s) {group : Group}
    (hg : s.groups.get? gid = some group) :
    (s.groupProfiles gid).Pairwise fun p q => (s.objects p).id < (s.objects q).id := by
  obtain ⟨ids, hids, hen⟩ := hs.index gid group hg
  have hmap : (s.groupProfiles gid).map (fun p => (s.objects p).id) = ids := by
    unfold ProfileManager.groupProfiles
    rw [Consistent.groupProfileIdsOf_eq hids]
    refine ProfileManager.map_id_filterMap fun id hid => ?_
    obtain ⟨p, hp, -⟩ := ProfileManager.gidOf_eq_some.1 ((hen.2 id).1 hid)
    exact ⟨p, hp, (hs.profile id p hp).1⟩
  rw [← List.pairwise_map (f := fun p => (s.objects p).id) (R := (· < ·)), hmap]
  exact hen.1

end GroupProfiles

/-- A profile of a group with an identity. -/
def ProfileManager.Holds [AbstractBean B] (s : ProfileManager B) (gid : ℤ) (identity : String)
    (id : ℤ) : Prop :=
  ∃ p, s.profiles.get? id = some p ∧ (s.objects p).gid = gid ∧
    AbstractBean.metadataStrippedIdentity (s.objects p).bean = identity

/-- The last profile of a group with an identity. -/
def ProfileManager.IsLatest [AbstractBean B] (s : ProfileManager B) (gid : ℤ) (identity : String)
    (id : ℤ) : Prop :=
  s.Holds gid identity id ∧ ∀ id', s.Holds gid identity id' → id' ≤ id

/-- **What the map of the profiles of a group finds is the last one.**

**Proof sketch.** What comes after it in the order of the identifiers has another key. -/
lemma Coherent.isLatest_of_keyed [AbstractBean B] {R : Reading B} {s : ProfileManager B} {gid : ℤ}
    (hs : Coherent R s) {group : Group} (hg : s.groups.get? gid = some group) {identity : String}
    {q : Ref} (hq : (s.keyed false (s.groupProfiles gid)).get? identity = some q) :
    s.IsLatest gid identity (s.objects q).id := by
  rw [ProfileManager.get?_keyed, List.find?_eq_some_iff_append] at hq
  obtain ⟨hkey, later, earlier, hrev, hlater⟩ := hq
  have hsplit : s.groupProfiles gid = earlier.reverse ++ q :: later.reverse := by
    rw [← List.reverse_reverse (s.groupProfiles gid), hrev]
    simp
  have hmem : q ∈ s.groupProfiles gid := hsplit ▸ by simp
  obtain ⟨id, hid, hgid⟩ := (hs.mem_groupProfiles hg).1 hmem
  have hsorted := hs.pairwise_groupProfiles hg
  rw [hsplit, List.pairwise_append] at hsorted
  refine ⟨⟨q, (hs.profile id q hid).1 ▸ hid, hgid, of_decide_eq_true hkey⟩, ?_⟩
  rintro id' ⟨p, hp, hpgid, hpkey⟩
  rw [← (hs.profile id' p hp).1]
  have hpmem := (hs.mem_groupProfiles hg).2 ⟨id', hp, hpgid⟩
  rw [hsplit, List.mem_append, List.mem_cons] at hpmem
  rcases hpmem with hpmem | rfl | hpmem
  · exact (hsorted.2.2 p hpmem q List.mem_cons_self).le
  · exact le_refl _
  · have hne := hlater p (List.mem_reverse.1 hpmem)
    exact absurd hpkey (of_decide_eq_false (Bool.not_eq_true' _ |>.mp hne))

/-- What it does not find is not in the group. -/
lemma Coherent.not_holds_of_keyed [AbstractBean B] {R : Reading B} {s : ProfileManager B} {gid : ℤ}
    (hs : Coherent R s) {group : Group} (hg : s.groups.get? gid = some group) {identity : String}
    (h : (s.keyed false (s.groupProfiles gid)).get? identity = none) (id : ℤ) :
    ¬ s.Holds gid identity id := by
  rintro ⟨p, hp, hgid, hkey⟩
  rw [ProfileManager.get?_keyed, List.find?_eq_none] at h
  exact h p (List.mem_reverse.2 ((hs.mem_groupProfiles hg).2 ⟨id, hp, hgid⟩))
    (decide_eq_true hkey)

end Proxor.Db
namespace Proxor.Sub

open Db

variable {B : Type}

/-! ### Lists element by element -/

section Forall₂

variable {α β : Type} {r : α → β → Prop} {l : List α} {l' : List β}

/-- What an element of the second list goes with. -/
lemma exists_left (h : List.Forall₂ r l l') {b : β} (hb : b ∈ l') : ∃ a ∈ l, r a b := by
  induction h with
  | nil => exact absurd hb List.not_mem_nil
  | cons hab _ ih =>
    rcases List.mem_cons.1 hb with rfl | hb
    · exact ⟨_, List.mem_cons_self, hab⟩
    · obtain ⟨a, ha, hr⟩ := ih hb
      exact ⟨a, List.mem_cons_of_mem _ ha, hr⟩

/-- What an element of the first list goes with. -/
lemma exists_right (h : List.Forall₂ r l l') {a : α} (ha : a ∈ l) : ∃ b ∈ l', r a b := by
  obtain ⟨b, hb, hr⟩ := exists_left h.flip ha
  exact ⟨b, hb, hr⟩

/-- A weaker relation between the elements. -/
lemma imp_of_mem {r' : α → β → Prop} (h : List.Forall₂ r l l')
    (himp : ∀ a b, a ∈ l → b ∈ l' → r a b → r' a b) : List.Forall₂ r' l l' := by
  induction h with
  | nil => exact .nil
  | cons hab _ ih =>
    exact .cons (himp _ _ List.mem_cons_self List.mem_cons_self hab)
      (ih fun a b ha hb => himp a b (List.mem_cons_of_mem _ ha) (List.mem_cons_of_mem _ hb))

end Forall₂

/-! ### Deleting profiles -/

/-- Some profiles are gone, and the orders that do not name them are as before. -/
structure Deletes (s s' : ProfileManager B) (gone : ℤ → Prop) : Prop where
  next : s'.next = s.next
  dataStore : s'.dataStore = s.dataStore
  objects : s'.objects = s.objects
  profiles : ∀ (id : ℤ) (p : Ref), s'.profiles.get? id = some p ↔
    s.profiles.get? id = some p ∧ ¬ gone id
  group : ∀ (gid : ℤ) (group : Db.Group), s.groups.get? gid = some group →
    (∀ id ∈ group.order, ¬ gone id) →
      ∃ group', s'.groups.get? gid = some group' ∧ group'.order = group.order

namespace Deletes

variable {R : Reading B} {s s₁ s₂ : ProfileManager B}

lemma refl {gone : ℤ → Prop} (h : ∀ (id : ℤ) (p : Ref), s.profiles.get? id = some p → ¬ gone id) :
    Deletes s s gone :=
  ⟨rfl, rfl, rfl, fun id p => ⟨fun hp => ⟨hp, h id p hp⟩, fun hp => hp.1⟩,
    fun _ group hg _ => ⟨group, hg, rfl⟩⟩

lemma trans {gone gone' : ℤ → Prop} (h : Deletes s s₁ gone) (h' : Deletes s₁ s₂ gone') :
    Deletes s s₂ fun id => gone id ∨ gone' id := by
  refine ⟨h'.next.trans h.next, h'.dataStore.trans h.dataStore, h'.objects.trans h.objects,
    fun id p => ?_, fun gid group hg horder => ?_⟩
  · rw [h'.profiles, h.profiles, not_or, and_assoc]
  · obtain ⟨group₁, hg₁, horder₁⟩ := h.group gid group hg fun id hid hgone =>
      horder id hid (.inl hgone)
    obtain ⟨group₂, hg₂, horder₂⟩ := h'.group gid group₁ hg₁ fun id hid hgone =>
      horder id (horder₁ ▸ hid) (.inr hgone)
    exact ⟨group₂, hg₂, horder₂.trans horder₁⟩

lemma congr {gone gone' : ℤ → Prop} (h : Deletes s s₁ gone) (hiff : ∀ id, gone id ↔ gone' id) :
    Deletes s s₁ gone' := by
  have heq : gone = gone' := funext fun id => propext (hiff id)
  exact heq ▸ h

/-- One profile is deleted, unless it is running. -/
lemma deleteProfile (hs : Consistent R s) (id : ℤ) :
    Deletes s (s.deleteProfile id) fun x => x = id ∧ s.dataStore.started_id ≠ x := by
  by_cases hrun : s.dataStore.started_id = id
  · rw [Consistent.deleteProfile_of_running (.inr hrun)]
    refine refl fun x p _ => ?_
    rintro ⟨rfl, hne⟩
    exact hne hrun
  · cases hp : s.profiles.get? id with
    | none =>
      rw [hs.deleteProfile_of_none hp]
      refine refl fun x p hx => ?_
      rintro ⟨rfl, -⟩
      exact absurd (hp.symm.trans hx) (by simp)
    | some p =>
      obtain ⟨group, hg⟩ := hs.gid id p hp
      rw [hs.deleteProfile_eq hrun hp hg]
      refine ⟨rfl, rfl, rfl, fun x q => ?_, fun gid group' hg' horder => ?_⟩
      · unfold ProfileManager.eraseProfile ProfileManager.putGroup
        dsimp only
        rw [OrdMap.get?_erase]
        split_ifs with hx
        · subst hx
          exact ⟨fun h => absurd h (by simp), fun h => absurd ⟨rfl, hrun⟩ h.2⟩
        · exact ⟨fun h => ⟨h, fun h' => hx h'.1⟩, fun h => h.1⟩
      · unfold ProfileManager.eraseProfile ProfileManager.putGroup
        dsimp only
        rw [OrdMap.get?_insert]
        split_ifs with hgid
        · obtain rfl := Option.some.inj (hg.symm.trans (hgid ▸ hg'))
          exact ⟨_, rfl, Consistent.removeAll_of_not_mem fun hmem => horder id hmem ⟨rfl, hrun⟩⟩
        · exact ⟨group', hg', rfl⟩

/-- Several profiles are deleted, but not the running one.

**Proof sketch.** By induction on the profiles. -/
lemma foldl_deleteProfile (ids : List ℤ) (hs : Consistent R s) :
    Consistent R (ids.foldl ProfileManager.deleteProfile s) ∧
      Deletes s (ids.foldl ProfileManager.deleteProfile s)
        fun x => x ∈ ids ∧ s.dataStore.started_id ≠ x := by
  induction ids generalizing s with
  | nil => exact ⟨hs, refl fun x p _ h => List.not_mem_nil h.1⟩
  | cons id ids ih =>
    obtain ⟨hcons, hdel⟩ := ih (hs.deleteProfile id)
    refine ⟨hcons, ((deleteProfile hs id).trans hdel).congr fun x => ?_⟩
    rw [(deleteProfile hs id).dataStore, List.mem_cons, or_and_right]

end Deletes

/-- The objects that are cleared have their identifiers throughout. -/
lemma foldl_clear_eq {R : Reading B} {s : ProfileManager B} (hs : Consistent R s) (refs : List Ref) :
    refs.foldl (fun s p => s.deleteProfile (s.objects p).id) s =
      (refs.map fun p => (s.objects p).id).foldl ProfileManager.deleteProfile s := by
  induction refs generalizing s with
  | nil => rfl
  | cons p refs ih =>
    rw [List.foldl_cons, ih (hs.deleteProfile _), (Deletes.deleteProfile hs _).objects]
    rfl

/-- The cleanup deletes what is not in the order of the group.

**Proof sketch.** The order stays as it is, since nothing in it is deleted. -/
lemma foldl_cleanup_eq {R : Reading B} {s : ProfileManager B} (hs : Consistent R s) {gid : ℤ}
    {group : Db.Group} (hg : s.groups.get? gid = some group) (refs : List Ref) :
    refs.foldl (cleanup gid) s =
      ((refs.map fun p => (s.objects p).id).filter fun id => id ∉ group.order).foldl
        ProfileManager.deleteProfile s := by
  induction refs generalizing s group with
  | nil => rfl
  | cons p refs ih =>
    have hg' : s.getGroup gid = some group := hg
    rw [List.foldl_cons, cleanup, hg', List.map_cons, List.filter_cons]
    dsimp only
    by_cases hmem : (s.objects p).id ∈ group.order
    · rw [if_pos hmem, if_neg (by simpa using hmem)]
      exact ih hs hg
    · have hdel := Deletes.deleteProfile hs (s.objects p).id
      obtain ⟨group', hgroup', horder⟩ := hdel.group gid group hg fun id hid h =>
        hmem (h.1 ▸ hid)
      rw [if_neg hmem, if_pos (by simpa using hmem), ih (hs.deleteProfile _) hgroup', hdel.objects,
        horder]
      rfl


/-! ### Adding the entries -/

/-- The entries are new profiles of the group. `refs` are the new objects. -/
structure Adds (s s' : ProfileManager B) (gid : ℤ) (entries : List (Parsed B)) (refs : List Ref) :
    Prop where
  next : s.next ≤ s'.next
  dataStore : s'.dataStore = s.dataStore
  objects : ∀ p, p < s.next → s'.objects p = s.objects p
  kept : ∀ (id : ℤ) (p : Ref), s.profiles.get? id = some p → s'.profiles.get? id = some p
  added : ∀ (id : ℤ) (p : Ref), s'.profiles.get? id = some p →
    s.profiles.get? id = some p ∨ p ∈ refs
  entries : List.Forall₂ (fun e r => (s.next ≤ r ∧ r < s'.next) ∧
    s'.profiles.get? (s'.objects r).id = some r ∧ (s'.objects r).gid = gid ∧
    (s'.objects r).bean = e.bean) entries refs
  nodup : refs.Nodup
  group : ∀ group, s.groups.get? gid = some group →
    ∃ toggle, s'.groups.get? gid = some { group with toggle_proxy_ids := toggle }
  groups : ∀ gid', gid' ≠ gid → s'.groups.get? gid' = s.groups.get? gid'

/-- No entry is added. -/
lemma Adds.refl (s : ProfileManager B) (gid : ℤ) : Adds s s gid [] [] :=
  ⟨Nat.le_refl _, rfl, fun _ _ => rfl, fun _ _ h => h, fun _ _ h => .inl h, .nil, List.nodup_nil,
    fun group h => ⟨group.toggle_proxy_ids, h⟩, fun _ _ => rfl⟩

/-- An entry is added, and then others.

**Proof sketch.** What was added first is kept, since its object was there before the others. -/
lemma Adds.trans {s s₁ s₂ : ProfileManager B} {gid : ℤ} {e : Parsed B} {entries : List (Parsed B)}
    {r : Ref} {refs : List Ref} (h : Adds s s₁ gid [e] [r]) (h' : Adds s₁ s₂ gid entries refs) :
    Adds s s₂ gid (e :: entries) (r :: refs) := by
  obtain ⟨⟨hle, hlt⟩, hr, hgid, hbean⟩ := (List.forall₂_cons.1 h.entries).1
  have hobject := h'.objects r hlt
  refine ⟨h.next.trans h'.next, h'.dataStore.trans h.dataStore, fun p hp => ?_, fun id p hp => ?_,
    fun id p hp => ?_, .cons ?_ ?_, ?_, fun group hg => ?_, fun gid' hgid' => ?_⟩
  · exact (h'.objects p (hp.trans_le h.next)).trans (h.objects p hp)
  · exact h'.kept id p (h.kept id p hp)
  · rcases h'.added id p hp with hp | hp
    · rcases h.added id p hp with hp | hp
      · exact .inl hp
      · exact .inr (List.mem_singleton.1 hp ▸ List.mem_cons_self)
    · exact .inr (List.mem_cons_of_mem _ hp)
  · rw [hobject]
    exact ⟨⟨hle, hlt.trans_le h'.next⟩, h'.kept _ _ hr, hgid, hbean⟩
  · exact h'.entries.imp fun e' r' hr' => ⟨⟨h.next.trans hr'.1.1, hr'.1.2⟩, hr'.2⟩
  · refine List.nodup_cons.2 ⟨fun hmem => ?_, h'.nodup⟩
    obtain ⟨e', -, hr'⟩ := exists_left h'.entries hmem
    exact absurd hr'.1.1 (not_le.2 hlt)
  · obtain ⟨toggle, hg₁⟩ := h.group group hg
    obtain ⟨toggle', hg₂⟩ := h'.group _ hg₁
    exact ⟨toggle', hg₂⟩
  · exact (h'.groups gid' hgid').trans (h.groups gid' hgid')

variable [AbstractBean B]

/-- The identity of an entry. -/
def Parsed.identity (e : Parsed B) : String := AbstractBean.metadataStrippedIdentity e.bean

/-- One entry is added. -/
lemma adds_add {R : Reading B} {s : ProfileManager B} (hs : Consistent R s) {gid : ℤ}
    {group : Db.Group} (hg : s.groups.get? gid = some group) (e : Parsed B) :
    Adds s (Op.run s (.addProfile (newProxyEntity e) gid)) gid [e] [s.next] := by
  have hself : (s.alloc (newProxyEntity e)).objects s.next = newProxyEntity e :=
    Function.update_self ..
  have hpos := (hs.group gid group hg).2
  have htarget : (s.alloc (newProxyEntity e)).targetGroup gid = gid := by
    have hcontains : s.groups.contains gid = true := Option.isSome_iff_exists.2 ⟨group, hg⟩
    unfold ProfileManager.targetGroup
    dsimp only
    rw [if_neg (not_lt.2 hpos)]
    exact if_pos hcontains
  have hgroup : (s.alloc (newProxyEntity e)).groups.get?
      ((s.alloc (newProxyEntity e)).targetGroup gid) = some group := by
    rw [htarget]
    exact hg
  have hid : ((s.alloc (newProxyEntity e)).objects s.next).id < 0 := by
    rw [hself]
    exact neg_one_lt_zero
  have hadd := (hs.alloc (newProxyEntity e)).addProfile_eq hid hgroup
  have hbean : ((s.alloc (newProxyEntity e)).added s.next gid).bean = e.bean := by
    unfold ProfileManager.added refreshed
    rw [hself]
    rfl
  have hobject : ((Op.run s (.addProfile (newProxyEntity e) gid)).objects s.next) =
      (s.alloc (newProxyEntity e)).added s.next gid := by
    unfold Op.run
    dsimp only
    rw [hadd]
    exact Function.update_self ..
  have hprofiles : (Op.run s (.addProfile (newProxyEntity e) gid)).profiles =
      s.profiles.insert s.newProfileID s.next := by
    unfold Op.run
    dsimp only
    rw [hadd]
    rfl
  have hgroups : (Op.run s (.addProfile (newProxyEntity e) gid)).groups =
      s.groups.insert gid (ProfileManager.withAdded group s.newProfileID) := by
    unfold Op.run
    dsimp only
    rw [hadd, htarget]
    rfl
  refine ⟨?_, ?_, fun p hp => ?_, fun id p hp => ?_, fun id p hp => ?_, ?_, List.nodup_singleton _,
    fun group' hg' => ?_, fun gid' hgid' => ?_⟩
  · unfold Op.run
    dsimp only
    rw [hadd]
    exact Nat.le_succ _
  · unfold Op.run
    dsimp only
    rw [hadd]
    rfl
  · unfold Op.run
    dsimp only
    rw [hadd]
    have hne : p ≠ s.next := Nat.ne_of_lt hp
    exact (Function.update_of_ne hne ..).trans (Function.update_of_ne hne ..)
  · rw [hprofiles, OrdMap.get?_insert_of_ne]
    · exact hp
    · rintro rfl
      exact absurd (hs.get?_newProfileID.symm.trans hp) (by simp)
  · rw [hprofiles, OrdMap.get?_insert] at hp
    split_ifs at hp with hid'
    · exact .inr (List.mem_singleton.2 (Option.some.inj hp).symm)
    · exact .inl hp
  · refine .cons ⟨⟨Nat.le_refl _, ?_⟩, ?_, ?_, ?_⟩ .nil
    · unfold Op.run
      dsimp only
      rw [hadd]
      exact Nat.lt_succ_self _
    · rw [hobject, hprofiles]
      exact OrdMap.get?_insert_self ..
    · rw [hobject]
      exact htarget
    · rw [hobject]
      exact hbean
  · obtain rfl := Option.some.inj (hg.symm.trans hg')
    rw [hgroups]
    exact ⟨_, OrdMap.get?_insert_self ..⟩
  · rw [hgroups]
    exact OrdMap.get?_insert_of_ne _ _ hgid'

/-- The store is consistent after entries are added, and they are what was added.

**Proof sketch.** By induction on the entries. -/
theorem adds_foldl {R : Reading B} (entries : List (Parsed B)) {u : RawUpdater B}
    (hs : Consistent R u.store) {group : Db.Group}
    (hg : u.store.groups.get? u.gid_add_to = some group) :
    ∃ refs, (entries.foldl RawUpdater.add u).updated_order = u.updated_order ++ refs ∧
      Consistent R (entries.foldl RawUpdater.add u).store ∧
      Adds u.store (entries.foldl RawUpdater.add u).store u.gid_add_to entries refs := by
  induction entries generalizing u group with
  | nil => exact ⟨[], (List.append_nil _).symm, hs, .refl ..⟩
  | cons e entries ih =>
    have hadd := adds_add hs hg e
    have hcons : Consistent R (Op.run u.store (.addProfile (newProxyEntity e) u.gid_add_to)) :=
      hs.run trivial trivial
    obtain ⟨toggle, hg'⟩ := hadd.group group hg
    obtain ⟨refs, horder, hcons', hadds⟩ := @ih (u.add e) hcons _ hg'
    refine ⟨u.store.next :: refs, ?_, hcons', hadd.trans hadds⟩
    rw [List.foldl_cons, horder]
    exact List.append_assoc ..


/-! ### Merging -/

/-- The running profile, if there is one, is stored. -/
def RunningStored (s : ProfileManager B) : Prop :=
  0 ≤ s.dataStore.started_id → ∃ p, s.profiles.get? s.dataStore.started_id = some p

/-- What is stored after an update: `order` names for each entry the last profile of the group that had
its identity, or its new copy; the other profiles of the group are gone, except the running one. -/
structure Merges (R : Reading B) (s s' : ProfileManager B) (gid : ℤ) (remote : List (Parsed B))
    (order : List ℤ) : Prop where
  consistent : Consistent R s'
  dataStore : s'.dataStore = s.dataStore
  group : ∃ group, s'.groups.get? gid = some group ∧ group.order = order
  entries : List.Forall₂ (fun e id => s'.Holds gid e.identity id ∧
    (s.IsLatest gid e.identity id ∨
      (∀ id', ¬ s.Holds gid e.identity id') ∧ s.profiles.get? id = none)) remote order
  objects : ∀ (id : ℤ) (p : Ref), s.profiles.get? id = some p → s'.objects p = s.objects p
  stored : ∀ (id : ℤ) (p : Ref), s.profiles.get? id = some p →
    (s'.profiles.get? id = some p ↔
      (s.gidOf id = some gid → id ∈ order ∨ s.dataStore.started_id = id))
  added : ∀ (id : ℤ) (p : Ref), s'.profiles.get? id = some p →
    s.profiles.get? id = some p ∨ s.profiles.get? id = none ∧ id ∈ order

omit [AbstractBean B] in
lemma prepared_id (now : ℤ) (headers : Option Headers) (group : Db.Group) :
    (prepared now headers group).id = group.id ∧
      (prepared now headers group).toggle_proxy_ids = group.toggle_proxy_ids := by
  cases headers with
  | none => exact ⟨rfl, rfl⟩
  | some headers =>
    unfold prepared Headers.apply
    dsimp only [Option.elim_some]
    split_ifs <;> exact ⟨rfl, rfl⟩

section Merging

variable {R : Reading B} {s : ProfileManager B} {gid : ℤ} {group : Db.Group}

omit [AbstractBean B] in
/-- The group is prepared. -/
lemma prepared_spec (hs : Consistent R s) (hg : s.groups.get? gid = some group) (now : ℤ)
    (headers : Option Headers) :
    s.editGroup gid (prepared now headers) = s.putGroup gid (prepared now headers group) ∧
      Consistent R (s.putGroup gid (prepared now headers group)) := by
  obtain ⟨hid, hpos⟩ := hs.group gid group hg
  obtain ⟨hpid, htoggle⟩ := prepared_id now headers group
  refine ⟨Consistent.editGroup_eq hg (hpid.trans hid) hpos, hs.putGroup hg (hpid.trans hid) ?_⟩
  intro id hmem
  rw [htoggle] at hmem
  exact hs.order gid group hg id (List.mem_append_right _ hmem)

/-- The profile that stands for a new one. -/
def standsFor (s : ProfileManager B) (before : List Ref) (p : Ref) : ℤ :=
  (s.objects (((s.keyed false before).get? ((s.objects p).key false)).getD p)).id

/-- The new order, profile by profile. -/
lemma remoteOrder_eq (s : ProfileManager B) {before out refs : List Ref} (hout : out.Nodup)
    (hrefs : ∀ r ∈ refs, r ∈ out) :
    remoteOrder s refs (s.common before out false).1 (s.common before out false).2 =
      refs.map (standsFor s before) := by
  unfold remoteOrder
  rw [← List.filterMap_eq_map]
  refine List.filterMap_congr fun r hr => ?_
  rw [Function.comp_apply, standsFor]
  cases hq : (s.keyed false before).get? ((s.objects r).key false) with
  | none =>
    rw [if_neg (ProfileManager.not_mem_common hq)]
    rfl
  | some q =>
    obtain ⟨hmem, hget⟩ := ProfileManager.idxOf_common hout (hrefs r hr) hq
    rw [if_pos hmem, hget]
    rfl

/-- The map of the profiles that were there before is that of the store before. -/
lemma keyed_congr {s s' : ProfileManager B} {src : List Ref}
    (h : ∀ p ∈ src, s'.objects p = s.objects p) (by_address : Bool) :
    s'.keyed by_address src = s.keyed by_address src := by
  unfold ProfileManager.keyed
  refine List.foldl_ext _ _ _ fun hashMap p hp => ?_
  rw [h p hp]

/-- Each entry stands in the new order under the last profile with its identity, or under its copy. -/
lemma Adds.standsFor {s' : ProfileManager B} {remote : List (Parsed B)} {refs : List Ref}
    (hs : Consistent R s) (hg : s.groups.get? gid = some group)
    (h : Adds s s' gid remote refs) :
    List.Forall₂ (fun e id => s'.Holds gid e.identity id ∧
      (s.IsLatest gid e.identity id ∨
        (∀ id', ¬ s.Holds gid e.identity id') ∧ s.profiles.get? id = none)) remote
      (refs.map (standsFor s' (s.groupProfiles gid))) := by
  have hobjects : ∀ p ∈ s.groupProfiles gid, s'.objects p = s.objects p := by
    intro p hp
    obtain ⟨id, hid, -⟩ := (hs.mem_groupProfiles hg).1 hp
    exact h.objects p (hs.profile id p hid).2.2
  rw [List.forall₂_map_right_iff]
  refine h.entries.imp ?_
  rintro e r ⟨⟨hle, -⟩, hr, hgid, hbean⟩
  have hkey : (s'.objects r).key false = e.identity := by
    unfold ProxyEntity.key Parsed.identity
    rw [if_neg (by simp), hbean]
  unfold Sub.standsFor
  rw [hkey, keyed_congr hobjects]
  cases hq : (s.keyed false (s.groupProfiles gid)).get? e.identity with
  | none =>
    rw [Option.getD_none]
    refine ⟨⟨r, hr, hgid, congrArg _ hbean⟩, .inr ⟨hs.not_holds_of_keyed hg hq, ?_⟩⟩
    cases hp : s.profiles.get? (s'.objects r).id with
    | none => rfl
    | some p =>
      obtain rfl := Option.some.inj (hr.symm.trans (h.kept _ p hp))
      exact absurd hle (not_le.2 (hs.profile _ _ hp).2.2)
  | some q =>
    have hlatest := hs.isLatest_of_keyed hg hq
    obtain ⟨p, hp, hpgid, hpkey⟩ := hlatest.1
    have hobject := h.objects p (hs.profile _ p hp).2.2
    have hqmem : q ∈ s.groupProfiles gid := by
      rw [ProfileManager.get?_keyed] at hq
      exact List.mem_reverse.1 (List.mem_of_find?_eq_some hq)
    rw [Option.getD_some, hobjects q hqmem]
    refine ⟨⟨p, h.kept _ p hp, ?_, ?_⟩, .inl hlatest⟩
    · rw [hobject, hpgid]
    · rw [hobject, hpkey]

omit [AbstractBean B] in
/-- The identifiers of the profiles of a group. -/
lemma mem_map_groupProfiles (hs : Coherent R s) (hg : s.groups.get? gid = some group) {id : ℤ} :
    id ∈ (s.groupProfiles gid).map (fun p => (s.objects p).id) ↔ s.gidOf id = some gid := by
  rw [List.mem_map, ProfileManager.gidOf_eq_some]
  constructor
  · rintro ⟨p, hp, rfl⟩
    obtain ⟨id, hid, hgid⟩ := (hs.mem_groupProfiles hg).1 hp
    exact ⟨p, (hs.profile id p hid).1 ▸ hid, hgid⟩
  · rintro ⟨p, hp, hgid⟩
    exact ⟨p, (hs.mem_groupProfiles hg).2 ⟨id, hp, hgid⟩, (hs.profile id p hp).1⟩

omit [AbstractBean B] in
/-- What is left of the group after the new order is put into it and the rest is deleted. -/
lemma cleanup_spec (hs : Consistent R s) (hg : s.groups.get? gid = some group) {order : List ℤ}
    (horder : ∀ id ∈ order, s.gidOf id = some gid) {s' : ProfileManager B}
    (hs' : s' = (s.groupProfiles gid).foldl (cleanup gid)
      (s.editGroup gid fun group => { group with order })) :
    Consistent R s' ∧ s'.dataStore = s.dataStore ∧ s'.objects = s.objects ∧
      (∃ group, s'.groups.get? gid = some group ∧ group.order = order) ∧
      ∀ (id : ℤ) (p : Ref), s'.profiles.get? id = some p ↔ s.profiles.get? id = some p ∧
        (s.gidOf id = some gid → id ∈ order ∨ s.dataStore.started_id = id) := by
  obtain ⟨hid, hpos⟩ := hs.group gid group hg
  have hput : s.editGroup gid (fun group => { group with order }) =
      s.putGroup gid { group with order } := Consistent.editGroup_eq hg hid hpos
  have hcons : Consistent R (s.putGroup gid { group with order }) := by
    refine hs.putGroup hg hid fun id hmem => ?_
    rcases List.mem_append.1 hmem with hmem | hmem
    · exact horder id hmem
    · exact hs.order gid group hg id (List.mem_append_right _ hmem)
  have hg' : (s.putGroup gid { group with order }).groups.get? gid = some { group with order } :=
    OrdMap.get?_insert_self ..
  rw [hput, foldl_cleanup_eq hcons hg'] at hs'
  obtain ⟨hcons', hdel⟩ := Deletes.foldl_deleteProfile
    (((s.groupProfiles gid).map fun p => (s.objects p).id).filter fun id => id ∉ order) hcons
  have hgone : ∀ id, (id ∈ ((s.groupProfiles gid).map fun p => (s.objects p).id).filter
      (fun id => id ∉ order) ∧ s.dataStore.started_id ≠ id) ↔
        ¬ (s.gidOf id = some gid → id ∈ order ∨ s.dataStore.started_id = id) := by
    intro id
    rw [List.mem_filter, mem_map_groupProfiles hs.toCoherent hg, decide_eq_true_iff]
    tauto
  rw [hs']
  refine ⟨hcons', hdel.dataStore, hdel.objects, ?_, fun id p => ?_⟩
  · exact hdel.group gid _ hg' fun id hmem hgone' =>
      (hgone id).1 hgone' fun _ => .inl hmem
  · refine (hdel.profiles id p).trans (and_congr_right fun _ => ?_)
    exact (not_congr (hgone id)).trans not_not

/-- The entry at each place of the new order, and what the store `s₁` has when it is made. -/
structure Orders (R : Reading B) (s s₁ : ProfileManager B) (gid : ℤ) (remote : List (Parsed B))
    (order : List ℤ) : Prop where
  consistent : Consistent R s₁
  group : ∃ group, s₁.groups.get? gid = some group
  adds : ∃ refs, Adds s s₁ gid remote refs
  entries : List.Forall₂ (fun e id => s₁.Holds gid e.identity id ∧
    (s.IsLatest gid e.identity id ∨
      (∀ id', ¬ s.Holds gid e.identity id') ∧ s.profiles.get? id = none)) remote order

/-- What the order names is in the group. -/
lemma Orders.gidOf {s₁ : ProfileManager B} {remote : List (Parsed B)} {order : List ℤ}
    (h : Orders R s s₁ gid remote order) {id : ℤ} (hid : id ∈ order) : s₁.gidOf id = some gid := by
  obtain ⟨e, -, ⟨p, hp, hgid, -⟩, -⟩ := exists_left h.entries hid
  exact ProfileManager.gidOf_eq_some.2 ⟨p, hp, hgid⟩

/-- The new profiles are those that are not among the old ones. -/
lemma Adds.mem_out {s' : ProfileManager B} {remote : List (Parsed B)} {refs : List Ref}
    (hs : Consistent R s) (hg : s.groups.get? gid = some group) (hs' : Consistent R s')
    (h : Adds s s' gid remote refs) {r : Ref} (hr : r ∈ refs) :
    r ∈ ProfileManager.onlyInSrcByPointer (s'.groupProfiles gid) (s.groupProfiles gid) := by
  obtain ⟨e, -, ⟨hle, -⟩, hstored, hgid, -⟩ := exists_left h.entries hr
  obtain ⟨toggle, hg'⟩ := h.group group hg
  refine List.mem_filter.2 ⟨(hs'.mem_groupProfiles hg').2 ⟨_, hstored, hgid⟩, ?_⟩
  refine decide_eq_true fun hbefore => ?_
  obtain ⟨id, hid, -⟩ := (hs.mem_groupProfiles hg).1 hbefore
  exact absurd hle (not_le.2 (hs.profile id r hid).2.2)

/-- **How an update goes that does not clear the group.** The entries are added to the prepared group,
the new order is put into it, and what is not in it is deleted. -/
theorem updateGroup_orders (hs : Consistent R s) (hg : s.groups.get? gid = some group)
    (hclear : s.dataStore.sub_clear = false) (rd : Reader B) (now : ℤ) (content : String)
    (headers : Option Headers) :
    ∃ order, Orders R (s.editGroup gid (prepared now headers))
        (rd.update { gid_add_to := gid, store := s.editGroup gid (prepared now headers) } content).store
        gid (rd.parsed content) order ∧
      updateGroup rd now s gid content headers =
        ((rd.update { gid_add_to := gid, store := s.editGroup gid (prepared now headers) }
            content).store.groupProfiles gid).foldl (cleanup gid)
          ((rd.update { gid_add_to := gid, store := s.editGroup gid (prepared now headers) }
            content).store.editGroup gid fun group => { group with order }) := by
  obtain ⟨hprepared, hs₀⟩ := prepared_spec hs hg now headers
  rw [hprepared]
  set s₀ := s.putGroup gid (prepared now headers group) with hs₀_def
  have hg₀ : s₀.groups.get? gid = some (prepared now headers group) := OrdMap.get?_insert_self ..
  obtain ⟨refs, hupdated, hs₁, hadds⟩ :=
    @adds_foldl B _ R (rd.parsed content) { gid_add_to := gid, store := s₀ } hs₀ _ hg₀
  rw [← rd.update_eq] at hupdated hs₁ hadds
  set u := rd.update { gid_add_to := gid, store := s₀ } content with hu
  dsimp only at hadds
  obtain ⟨toggle, hg₁⟩ := hadds.group _ hg₀
  have hnodup : (u.store.groupProfiles gid).Nodup := by
    refine (hs₁.pairwise_groupProfiles hg₁).imp ?_
    rintro p q hlt rfl
    exact lt_irrefl _ hlt
  have horder : remoteOrder u.store u.updated_order
      (u.store.common (s.groupProfiles gid)
        (ProfileManager.onlyInSrcByPointer (u.store.groupProfiles gid) (s.groupProfiles gid)) false).1
      (u.store.common (s.groupProfiles gid)
        (ProfileManager.onlyInSrcByPointer (u.store.groupProfiles gid) (s.groupProfiles gid)) false).2 =
      refs.map (standsFor u.store (s.groupProfiles gid)) := by
    rw [hupdated]
    exact remoteOrder_eq u.store (hnodup.filter _) fun r hr => hadds.mem_out hs₀ hg₀ hs₁ hr
  refine ⟨refs.map (standsFor u.store (s.groupProfiles gid)),
    ⟨hs₁, ⟨_, hg₁⟩, ⟨refs, hadds⟩, hadds.standsFor hs₀ hg₀⟩, ?_⟩
  have hclear₀ : s₀.dataStore.sub_clear = false := hclear
  have hclear₁ : u.store.dataStore.sub_clear = false := by
    rw [hadds.dataStore]
    exact hclear
  unfold updateGroup
  rw [hprepared]
  dsimp only
  rw [hclear₀]
  simp only [Bool.false_eq_true, if_false]
  rw [← hu, hclear₁, ← horder]
  rfl

/-- **An update that does not clear the group merges.**

**Proof sketch.** What was stored before is kept until the cleanup, and so is what is new; the cleanup
deletes the profiles of the group that are not in the order. -/
theorem merges_updateGroup (hs : Consistent R s) (hg : s.groups.get? gid = some group)
    (hclear : s.dataStore.sub_clear = false) (hrunning : RunningStored s) (rd : Reader B) (now : ℤ)
    (content : String) (headers : Option Headers) :
    ∃ order, Merges R s (updateGroup rd now s gid content headers) gid (rd.parsed content) order := by
  obtain ⟨order, horders, hupdate⟩ := updateGroup_orders hs hg hclear rd now content headers
  obtain ⟨hprepared, -⟩ := prepared_spec hs hg now headers
  rw [hprepared] at horders hupdate
  set s₁ := (rd.update { gid_add_to := gid, store := s.putGroup gid (prepared now headers group) }
    content).store
  have hs₁ := horders.consistent
  obtain ⟨group₁, hg₁⟩ := horders.group
  obtain ⟨refs, hadds⟩ := horders.adds
  obtain ⟨hcons, hdataStore, hobjects, hgroup, hprofiles⟩ :=
    cleanup_spec hs₁ hg₁ (fun id hid => horders.gidOf hid) hupdate
  have hkept : ∀ (id : ℤ) (p : Ref), s.profiles.get? id = some p →
      s₁.profiles.get? id = some p ∧ s₁.objects p = s.objects p :=
    fun id p hp => ⟨hadds.kept id p hp, hadds.objects p (hs.profile id p hp).2.2⟩
  have hstarted : s₁.dataStore.started_id = s.dataStore.started_id := by
    rw [hadds.dataStore]
    rfl
  refine ⟨order, hcons, hdataStore.trans hadds.dataStore, hgroup, ?_, fun id p hp => ?_,
    fun id p hp => ?_, fun id p hp => ?_⟩
  · refine imp_of_mem horders.entries ?_
    rintro e id - hmem ⟨⟨p, hp, hgid, hkey⟩, hcase⟩
    refine ⟨⟨p, (hprofiles id p).2 ⟨hp, fun _ => .inl hmem⟩, ?_, ?_⟩, hcase⟩
    · rw [hobjects, hgid]
    · rw [hobjects, hkey]
  · rw [hobjects]
    exact (hkept id p hp).2
  · have hgid : s₁.gidOf id = s.gidOf id := by
      unfold ProfileManager.gidOf
      rw [hp, (hkept id p hp).1, Option.map_some, Option.map_some, (hkept id p hp).2]
    rw [hprofiles, hgid, hstarted]
    exact and_iff_right (hkept id p hp).1
  · obtain ⟨hp', hleft⟩ := (hprofiles id p).1 hp
    rcases hadds.added id p hp' with hold | hnew
    · exact .inl hold
    · obtain ⟨e, -, ⟨hle, -⟩, hstored, hgid, -⟩ := exists_left hadds.entries hnew
      have hnone : s.profiles.get? id = none := by
        cases hq : s.profiles.get? id with
        | none => rfl
        | some q =>
          obtain rfl := Option.some.inj (hp'.symm.trans (hkept id q hq).1)
          exact absurd hle (not_le.2 (hs.profile id p hq).2.2)
      refine .inr ⟨hnone, ?_⟩
      rcases hleft (ProfileManager.gidOf_eq_some.2 ⟨p, hp', hgid⟩) with hmem | hrun
      · exact hmem
      · rw [hstarted] at hrun
        obtain ⟨q, hq⟩ := hrunning (hrun ▸ (hs₁.profile id p hp').2.1)
        rw [hrun, hnone] at hq
        exact absurd hq (by simp)

/-- **How an update goes that clears the group.** The profiles of the prepared group are deleted, and the
entries are added. -/
theorem updateGroup_clears (hs : Consistent R s) (hg : s.groups.get? gid = some group)
    (hclear : s.dataStore.sub_clear = true) (rd : Reader B) (now : ℤ) (content : String)
    (headers : Option Headers) :
    updateGroup rd now s gid content headers =
      (rd.update
        { gid_add_to := gid
          store := List.foldl ProfileManager.deleteProfile (s.editGroup gid (prepared now headers))
            ((s.groupProfiles gid).map fun p =>
              ((s.editGroup gid (prepared now headers)).objects p).id) }
        content).store := by
  obtain ⟨hprepared, hs₀⟩ := prepared_spec hs hg now headers
  rw [hprepared, ← foldl_clear_eq hs₀]
  set s₀ := s.putGroup gid (prepared now headers group) with hs₀_def
  have hg₀ : s₀.groups.get? gid = some (prepared now headers group) := OrdMap.get?_insert_self ..
  obtain ⟨hs₁, hdel⟩ := Deletes.foldl_deleteProfile
    ((s.groupProfiles gid).map fun p => (s₀.objects p).id) hs₀
  rw [← foldl_clear_eq hs₀] at hs₁ hdel
  set s₁ := (s.groupProfiles gid).foldl (fun s p => s.deleteProfile (s.objects p).id) s₀ with hs₁_def
  obtain ⟨group₁, hg₁, -⟩ := hdel.group gid _ hg₀ fun id hid => absurd hid List.not_mem_nil
  obtain ⟨refs, -, -, hadds⟩ :=
    @adds_foldl B _ R (rd.parsed content) { gid_add_to := gid, store := s₁ } hs₁ _ hg₁
  rw [← rd.update_eq] at hadds
  have hclear₀ : s₀.dataStore.sub_clear = true := hclear
  unfold updateGroup
  rw [hprepared]
  dsimp only
  rw [hclear₀, if_pos rfl, ← hs₁_def, hadds.dataStore, hdel.dataStore, hclear₀, if_pos rfl]

end Merging

end Proxor.Sub
