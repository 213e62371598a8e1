import Proxor.Db.LoadManager
import Proxor.Db.Operations
import Proxor.Fmt.ChainBean

set_option relaxedAutoImplicit false
set_option autoImplicit false

/-!
# What is loaded

A database whose rows refer to each other properly is loaded into a consistent store, and a
consistent store leaves such a database.

## Main definitions

* `Proxor.Db.Tables.Sound` — the rows refer to each other properly.
* `Proxor.Db.Reading.reads` — what is in memory is a row, or what was read back of one.

## Main results

* `Proxor.Db.Consistent.sound` — a consistent store leaves a sound database.
* `Proxor.Db.consistent_loadFromSqlite` — a sound database with a group is loaded into a consistent
  store.
-/

namespace Proxor.Db

variable {B : Type}

/-- The rows of the tables refer to each other properly. -/
structure Tables.Sound (db : Tables B) : Prop where
  profile : ∀ (id : ℤ) (row : ProxyEntity B), db.profiles.get? id = some row →
    0 ≤ id ∧ ∃ group, db.groups.get? row.gid = some group
  group : ∀ (gid : ℤ) (row : Group), db.groups.get? gid = some row →
    0 ≤ gid ∧ ∀ id ∈ row.order ++ row.toggle_proxy_ids,
      ∃ ent, db.profiles.get? id = some ent ∧ ent.gid = gid
  tabs : (db.groupsTabOrder.getD []).Nodup

/-- What is in memory is a row, or what was read back of it. -/
def Reading.reads [AbstractBean B] : Reading B where
  profile row ent := ent = row ∨ ent = loadProxyEntity ent.id row
  group row group := group = row ∨ group = loadGroup group.id row
  profile_refl _ := .inl rfl
  group_refl _ := .inl rfl

/-- A consistent store leaves a sound database.

**Proof sketch.** A row and what is in memory have the same group, and the same lists. -/
theorem Consistent.sound [AbstractBean B] {s : ProfileManager B} (hs : Consistent .reads s) :
    s.db.Sound := by
  have hrow : ∀ (id : ℤ) (p : Ref) (row : ProxyEntity B), s.profiles.get? id = some p →
      s.db.profiles.get? id = some row → row.gid = (s.objects p).gid := by
    intro id p row hp hrow
    obtain ⟨row', hrow', hread⟩ := hs.row id p hp
    obtain rfl := Option.some.inj (hrow.symm.trans hrow')
    rcases hread with hread | hread
    · rw [hread]
    · rw [hread]
      rfl
  have hprofile : ∀ (id : ℤ) (row : ProxyEntity B), s.db.profiles.get? id = some row →
      ∃ p, s.profiles.get? id = some p := by
    intro id row h
    by_contra hnone
    rw [hs.noRow id (Option.eq_none_iff_forall_ne_some.2 fun p hp => hnone ⟨p, hp⟩)] at h
    exact absurd h (by simp)
  refine ⟨fun id row h => ?_, fun gid row h => ?_, hs.savedTabs⟩
  · obtain ⟨p, hp⟩ := hprofile id row h
    obtain ⟨group, hgroup⟩ := hs.gid id p hp
    obtain ⟨grow, hgrow, -⟩ := hs.groupRow _ group hgroup
    rw [hrow id p row hp h]
    exact ⟨(hs.profile id p hp).2.1, grow, hgrow⟩
  · obtain ⟨group, hgroup⟩ : ∃ group, s.groups.get? gid = some group := by
      by_contra hnone
      rw [hs.noGroupRow gid (Option.eq_none_iff_forall_ne_some.2 fun g hg => hnone ⟨g, hg⟩)] at h
      exact absurd h (by simp)
    obtain ⟨row', hrow', hread⟩ := hs.groupRow gid group hgroup
    obtain rfl := Option.some.inj (h.symm.trans hrow')
    refine ⟨(hs.group gid group hgroup).2, fun id hid => ?_⟩
    have hmem : id ∈ group.order ++ group.toggle_proxy_ids := by
      rcases hread with hread | hread
      · rw [hread]
        exact hid
      · rw [hread]
        exact hid
    obtain ⟨p, hp, hgid⟩ := ProfileManager.gidOf_eq_some.1 (hs.order gid group hgroup id hmem)
    obtain ⟨ent, hent, -⟩ := hs.row id p hp
    exact ⟨ent, hent, (hrow id p ent hp hent).trans hgid⟩

/-! ### Reading the rows -/

lemma foldl_loadGroupRow (l : List (ℤ × Group)) (s : ProfileManager B) :
    l.foldl ProfileManager.loadGroupRow s = { s with
      groups := l.foldl (fun m e => m.insert e.1 (loadGroup e.1 e.2)) s.groups
      groupsIdOrder := s.groupsIdOrder ++ l.map Prod.fst } := by
  induction l generalizing s with
  | nil => simp
  | cons e l ih =>
    rw [List.foldl_cons, ih]
    simp [ProfileManager.loadGroupRow]

/-- The rows of the profiles become objects.

**Proof sketch.** By induction on the rows; an object that was read is below the next free one, so no
later row overwrites it. -/
lemma foldl_loadProfileRow [AbstractBean B] {l : List (ℤ × ProxyEntity B)}
    (hl : (l.map Prod.fst).Nodup) (s : ProfileManager B)
    (hs : ∀ (id : ℤ) (p : Ref), s.profiles.get? id = some p → p < s.next) :
    ∃ objects next profiles,
      l.foldl ProfileManager.loadProfileRow s = { s with
        objects, next, profiles, profilesIdOrder := s.profilesIdOrder ++ l.map Prod.fst } ∧
      s.next ≤ next ∧
      (∀ p, p < s.next → objects p = s.objects p) ∧
      (∀ (id : ℤ) (p : Ref), profiles.get? id = some p → p < next) ∧
      (∀ (id : ℤ) (row : ProxyEntity B), (id, row) ∈ l →
        ∃ p, profiles.get? id = some p ∧ objects p = loadProxyEntity id row) ∧
      ∀ id, id ∉ l.map Prod.fst → profiles.get? id = s.profiles.get? id := by
  induction l generalizing s with
  | nil =>
    refine ⟨s.objects, s.next, s.profiles, ?_, le_rfl, fun _ _ => rfl, hs, ?_, fun _ _ => rfl⟩
    · simp
    · exact fun id row h => absurd h List.not_mem_nil
  | cons e l ih =>
    rw [List.map_cons, List.nodup_cons] at hl
    obtain ⟨objects, next, profiles, heq, hnext, hold, hlt, hmem, hnot⟩ :=
      ih hl.2 (s.loadProfileRow e) fun id p hp => by
        unfold ProfileManager.loadProfileRow at hp ⊢
        dsimp only at hp ⊢
        rw [OrdMap.get?_insert] at hp
        split_ifs at hp with hid
        · obtain rfl := Option.some.inj hp
          exact Nat.lt_succ_self _
        · exact Nat.lt_succ_of_lt (hs id p hp)
    have hnext' : s.next + 1 ≤ next := hnext
    refine ⟨objects, next, profiles, ?_, Nat.le_of_succ_le hnext', fun p hp => ?_, hlt,
      fun id row h => ?_, fun id hid => ?_⟩
    · rw [List.foldl_cons, heq]
      simp [ProfileManager.loadProfileRow]
    · rw [hold p (Nat.lt_succ_of_lt hp)]
      exact Function.update_of_ne (Nat.ne_of_lt hp) ..
    · rcases List.mem_cons.1 h with rfl | h
      · refine ⟨s.next, ?_, ?_⟩
        · rw [hnot id hl.1]
          exact OrdMap.get?_insert_self ..
        · rw [hold s.next (Nat.lt_succ_self _)]
          exact Function.update_self ..
      · exact hmem id row h
    · rw [List.map_cons, List.mem_cons, not_or] at hid
      rw [hnot id hid.2]
      exact OrdMap.get?_insert_of_ne _ _ hid.1

/-! ### The index -/

/-- The index after a profile is added to it.

**Proof sketch.** An identifier that is listed is not listed again. -/
lemma enumerates_add {l : List ℤ} {q : ℤ → Prop} (h : Enumerates l q) (id : ℤ) :
    Enumerates (if id ∈ l then l else sortIds (l ++ [id])) fun x => q x ∨ x = id := by
  split_ifs with hid
  · refine h.congr fun x => ⟨.inl, ?_⟩
    rintro (hx | rfl)
    · exact hx
    · exact (h.2 x).1 hid
  · exact Consistent.enumerates_sortIds h fun hq => hid ((h.2 id).2 hq)

/-- The index after profiles are added to it. -/
lemma foldl_addProfileToGroupIndex {l : List (ℤ × Ref)} (s : ProfileManager B) (q : ℤ → ℤ → Prop)
    (hindex : ∀ (gid : ℤ) (group : Group), s.groups.get? gid = some group →
      ∃ ids, s.groupProfileIds.get? gid = some ids ∧ Enumerates ids (q gid))
    (hno : ∀ gid, s.groups.get? gid = none → s.groupProfileIds.get? gid = none)
    (hl : ∀ e ∈ l, 0 ≤ (s.objects e.2).gid ∧ ∃ group, s.groups.get? (s.objects e.2).gid = some group) :
    ∃ groupProfileIds : OrdMap ℤ (List ℤ),
      l.foldl (fun s e => s.addProfileToGroupIndex e.1 (s.objects e.2).gid) s =
        { s with groupProfileIds } ∧
      (∀ (gid : ℤ) (group : Group), s.groups.get? gid = some group →
        ∃ ids, groupProfileIds.get? gid = some ids ∧
          Enumerates ids fun id => q gid id ∨ ∃ p, (id, p) ∈ l ∧ (s.objects p).gid = gid) ∧
      ∀ gid, s.groups.get? gid = none → groupProfileIds.get? gid = none := by
  induction l generalizing s q with
  | nil =>
    refine ⟨s.groupProfileIds, rfl, fun gid group h => ?_, hno⟩
    obtain ⟨ids, hids, hen⟩ := hindex gid group h
    exact ⟨ids, hids, hen.congr fun id => by simp⟩
  | cons e l ih =>
    obtain ⟨hpos, group₀, hgroup₀⟩ := hl e List.mem_cons_self
    obtain ⟨ids₀, hids₀, hen₀⟩ := hindex _ group₀ hgroup₀
    have hstep : s.addProfileToGroupIndex e.1 (s.objects e.2).gid = { s with
        groupProfileIds := s.groupProfileIds.insert (s.objects e.2).gid
          (if e.1 ∈ ids₀ then ids₀ else sortIds (ids₀ ++ [e.1])) } := by
      unfold ProfileManager.addProfileToGroupIndex
      rw [if_neg (not_lt.2 hpos)]
      simp only [Consistent.groupProfileIdsOf_eq hids₀]
    have hindex' : ∀ (gid : ℤ) (group : Group), s.groups.get? gid = some group →
        ∃ ids, (s.groupProfileIds.insert (s.objects e.2).gid
            (if e.1 ∈ ids₀ then ids₀ else sortIds (ids₀ ++ [e.1]))).get? gid = some ids ∧
          Enumerates ids fun id => q gid id ∨ id = e.1 ∧ gid = (s.objects e.2).gid := by
      intro gid group h
      by_cases hgid : gid = (s.objects e.2).gid
      · subst hgid
        refine ⟨_, OrdMap.get?_insert_self .., (enumerates_add hen₀ e.1).congr fun id => ?_⟩
        simp
      · obtain ⟨ids, hids, hen⟩ := hindex gid group h
        refine ⟨ids, (OrdMap.get?_insert_of_ne _ _ hgid).trans hids, hen.congr fun id => ?_⟩
        simp [hgid]
    have hno' : ∀ gid, s.groups.get? gid = none →
        (s.groupProfileIds.insert (s.objects e.2).gid
          (if e.1 ∈ ids₀ then ids₀ else sortIds (ids₀ ++ [e.1]))).get? gid = none := by
      intro gid h
      rw [OrdMap.get?_insert_of_ne]
      · exact hno gid h
      · rintro rfl
        exact absurd (h.symm.trans hgroup₀) (by simp)
    rw [List.foldl_cons, hstep]
    obtain ⟨index, heq, hin, hnone⟩ := ih { s with
        groupProfileIds := s.groupProfileIds.insert (s.objects e.2).gid
          (if e.1 ∈ ids₀ then ids₀ else sortIds (ids₀ ++ [e.1])) }
      (fun gid id => q gid id ∨ id = e.1 ∧ gid = (s.objects e.2).gid) hindex' hno'
      fun e' he' => hl e' (List.mem_cons_of_mem _ he')
    refine ⟨index, heq, fun gid group h => ?_, hnone⟩
    obtain ⟨ids, hids, hen⟩ := hin gid group h
    refine ⟨ids, hids, hen.congr fun id => ?_⟩
    constructor
    · rintro ((hq | ⟨rfl, rfl⟩) | ⟨p, hp, hgid⟩)
      · exact .inl hq
      · exact .inr ⟨e.2, List.mem_cons_self, rfl⟩
      · exact .inr ⟨p, List.mem_cons_of_mem _ hp, hgid⟩
    · rintro (hq | ⟨p, hp, hgid⟩)
      · exact .inl (.inl hq)
      · rcases List.mem_cons.1 hp with rfl | hp
        · exact .inl (.inr ⟨rfl, hgid.symm⟩)
        · exact .inr ⟨p, hp, hgid⟩

/-- The index built anew. -/
lemma rebuildGroupProfileIndex_spec (s : ProfileManager B)
    (hgid : ∀ (id : ℤ) (p : Ref), s.profiles.get? id = some p →
      0 ≤ (s.objects p).gid ∧ ∃ group, s.groups.get? (s.objects p).gid = some group) :
    ∃ groupProfileIds : OrdMap ℤ (List ℤ),
      s.rebuildGroupProfileIndex = { s with groupProfileIds } ∧
      (∀ (gid : ℤ) (group : Group), s.groups.get? gid = some group →
        ∃ ids, groupProfileIds.get? gid = some ids ∧
          Enumerates ids fun id => s.gidOf id = some gid) ∧
      ∀ gid, s.groups.get? gid = none → groupProfileIds.get? gid = none := by
  obtain ⟨index, heq, hin, hno⟩ := foldl_addProfileToGroupIndex
    { s with groupProfileIds := s.groups.map fun _ => [] } (fun _ _ => False)
    (fun gid group h => ⟨[], by rw [OrdMap.get?_map, h]; rfl, .nil, fun id => by simp⟩)
    (fun gid h => by rw [OrdMap.get?_map, h]; rfl)
    fun e he => hgid e.1 e.2 (s.profiles.mem_entries.1 he)
  refine ⟨index, heq, fun gid group h => ?_, hno⟩
  obtain ⟨ids, hids, hen⟩ := hin gid group h
  refine ⟨ids, hids, hen.congr fun id => ?_⟩
  rw [ProfileManager.gidOf_eq_some, false_or]
  exact exists_congr fun p => and_congr_left fun _ => s.profiles.mem_entries

/-! ### The order of the tabs -/

/-- What is missing from a list is put at its end. -/
lemma foldl_missing {l : List ℤ} (hl : l.Nodup) (known : List ℤ) :
    l.foldl (fun order id => if id ∈ order then order else order ++ [id]) known =
      known ++ l.filter fun id => id ∉ known := by
  induction l generalizing known with
  | nil => simp
  | cons x l ih =>
    obtain ⟨hx, hl⟩ := List.nodup_cons.1 hl
    rw [List.foldl_cons, List.filter_cons]
    by_cases hmem : x ∈ known
    · rw [if_pos hmem, ih hl, if_neg (by simp [hmem])]
    · rw [if_neg hmem, ih hl, if_pos (by simp [hmem]), List.append_assoc, List.singleton_append]
      refine congrArg (fun rest => known ++ x :: rest) (List.filter_congr fun y hy => ?_)
      have hne : y ≠ x := fun h => hx (h ▸ hy)
      simp [hne]

/-- An order of the tabs, without what is not a group and with the groups that are missing. -/
def tabsOf (groups : OrdMap ℤ Group) (order : List ℤ) : List ℤ :=
  groups.keys.foldl (fun order id => if id ∈ order then order else order ++ [id])
    (order.filter fun id => groups.contains id)

lemma tabsOf_eq (groups : OrdMap ℤ Group) (order : List ℤ) : tabsOf groups order =
    (order.filter fun id => groups.contains id) ++ groups.keys.filter fun id => id ∉ order := by
  have hrest := foldl_missing groups.nodup_keys (order.filter fun id => groups.contains id)
  refine hrest.trans (congrArg _ (List.filter_congr fun id hid => ?_))
  have hcontains : groups.contains id = true := (groups.contains_iff).2 hid
  simp [hcontains]

lemma mem_tabsOf {groups : OrdMap ℤ Group} {order : List ℤ} {id : ℤ} :
    id ∈ tabsOf groups order ↔ id ∈ groups.keys := by
  rw [tabsOf_eq, List.mem_append, List.mem_filter, List.mem_filter, OrdMap.contains_iff,
    decide_eq_true_iff]
  tauto

/-- The order of the tabs lists every group once. -/
lemma tabsOf_perm {groups : OrdMap ℤ Group} {order : List ℤ} (horder : order.Nodup) :
    (tabsOf groups order).Perm groups.keys := by
  have hnodup : (tabsOf groups order).Nodup := by
    rw [tabsOf_eq, List.nodup_append]
    refine ⟨horder.filter _, groups.nodup_keys.filter _, fun a ha b hb heq => ?_⟩
    rw [List.mem_filter] at ha hb
    exact of_decide_eq_true hb.2 (heq ▸ ha.1)
  exact (List.perm_ext_iff_of_nodup hnodup groups.nodup_keys).2 fun id => mem_tabsOf

/-! ### The loaded store -/

/-- The store holds what was read back of the rows. -/
structure IsRead [AbstractBean B] (db : Tables B) (t : ProfileManager B) : Prop where
  tables : t.db = db
  groups : ∀ gid, t.groups.get? gid = (db.groups.get? gid).map (loadGroup gid)
  profile : ∀ (id : ℤ) (row : ProxyEntity B), db.profiles.get? id = some row →
    ∃ p, t.profiles.get? id = some p ∧ t.objects p = loadProxyEntity id row
  noProfile : ∀ id, db.profiles.get? id = none → t.profiles.get? id = none
  next : ∀ (id : ℤ) (p : Ref), t.profiles.get? id = some p → p < t.next
  profilesIdOrder : t.profilesIdOrder = t.profiles.keys
  groupsIdOrder : t.groupsIdOrder = t.groups.keys

/-- It is indexed as well. -/
structure IsLoaded [AbstractBean B] (db : Tables B) (t : ProfileManager B) : Prop
    extends IsRead db t where
  tabs : t.groupsTabOrder.Perm t.groups.keys
  index : ∀ (gid : ℤ) (group : Group), t.groups.get? gid = some group →
    ∃ ids, t.groupProfileIds.get? gid = some ids ∧ Enumerates ids fun id => t.gidOf id = some gid
  noIndex : ∀ gid, t.groups.get? gid = none → t.groupProfileIds.get? gid = none

section

variable [AbstractBean B] {db : Tables B} {t : ProfileManager B}

/-- Every stored profile comes from a row. -/
lemma IsRead.exists_row (ht : IsRead db t) {id : ℤ} {p : Ref} (hp : t.profiles.get? id = some p) :
    ∃ row, db.profiles.get? id = some row ∧ t.objects p = loadProxyEntity id row := by
  cases hrow : db.profiles.get? id with
  | none => exact absurd (hp.symm.trans (ht.noProfile id hrow)) (by simp)
  | some row =>
    obtain ⟨q, hq, hobj⟩ := ht.profile id row hrow
    obtain rfl := Option.some.inj (hp.symm.trans hq)
    exact ⟨row, rfl, hobj⟩

/-- What the rows of the profiles become. -/
lemma IsRead.map_objects (ht : IsRead db t) (id : ℤ) :
    (t.profiles.get? id).map t.objects = (db.profiles.get? id).map (loadProxyEntity id) := by
  cases hrow : db.profiles.get? id with
  | none =>
    rw [ht.noProfile id hrow]
    rfl
  | some row =>
    obtain ⟨p, hp, hobj⟩ := ht.profile id row hrow
    rw [hp, Option.map_some, hobj]
    rfl

/-- Every stored group comes from a row. -/
lemma IsRead.exists_groupRow (ht : IsRead db t) {gid : ℤ} {group : Group}
    (hg : t.groups.get? gid = some group) :
    ∃ row, db.groups.get? gid = some row ∧ group = loadGroup gid row := by
  rw [ht.groups, Option.map_eq_some_iff] at hg
  obtain ⟨row, hrow, rfl⟩ := hg
  exact ⟨row, hrow, rfl⟩

/-- What is loaded from a sound database agrees. -/
lemma IsLoaded.coherent (ht : IsLoaded db t) (hdb : db.Sound) : Coherent .reads t := by
  have hgid : ∀ id gid, (∃ row, db.profiles.get? id = some row ∧ row.gid = gid) →
      t.gidOf id = some gid := by
    rintro id gid ⟨row, hrow, hgid⟩
    obtain ⟨p, hp, hobj⟩ := ht.profile id row hrow
    exact ProfileManager.gidOf_eq_some.2 ⟨p, hp, by rw [hobj]; exact hgid⟩
  refine {
    profilesIdOrder := ht.profilesIdOrder ▸ t.profiles.enumerates_keys
    groupsIdOrder := ht.groupsIdOrder ▸ t.groups.enumerates_keys
    index := ht.index
    noIndex := ht.noIndex
    gid := fun id p hp => ?_
    order := fun gid group hg id hid => ?_
    tabs := ht.tabs
    savedTabs := ht.tables ▸ hdb.tabs
    profile := fun id p hp => ?_
    group := fun gid group hg => ?_
    row := fun id p hp => ?_
    noRow := fun id hid => ?_
    groupRow := fun gid group hg => ?_
    noGroupRow := fun gid hg => ?_ }
  · obtain ⟨row, hrow, hobj⟩ := ht.exists_row hp
    obtain ⟨group, hgroup⟩ := (hdb.profile id row hrow).2
    refine ⟨loadGroup row.gid group, ?_⟩
    rw [hobj, ht.groups]
    exact Option.map_eq_some_iff.2 ⟨group, hgroup, rfl⟩
  · obtain ⟨row, hrow, rfl⟩ := ht.exists_groupRow hg
    exact hgid id gid ((hdb.group gid row hrow).2 id hid)
  · obtain ⟨row, hrow, hobj⟩ := ht.exists_row hp
    rw [hobj]
    exact ⟨rfl, (hdb.profile id row hrow).1, ht.next id p hp⟩
  · obtain ⟨row, hrow, rfl⟩ := ht.exists_groupRow hg
    exact ⟨rfl, (hdb.group gid row hrow).1⟩
  · obtain ⟨row, hrow, hobj⟩ := ht.exists_row hp
    refine ⟨row, ht.tables ▸ hrow, .inr ?_⟩
    rw [hobj]
    rfl
  · rw [ht.tables]
    by_contra hrow
    obtain ⟨row, hrow⟩ := Option.ne_none_iff_exists'.1 hrow
    obtain ⟨p, hp, -⟩ := ht.profile id row hrow
    exact absurd (hid.symm.trans hp) (by simp)
  · obtain ⟨row, hrow, rfl⟩ := ht.exists_groupRow hg
    exact ⟨row, ht.tables ▸ hrow, .inr rfl⟩
  · rw [ht.groups, Option.map_eq_none_iff] at hg
    rw [ht.tables]
    exact hg

end

/-- Only the index is built anew. -/
lemma rebuildGroupProfileIndex_frame (s : ProfileManager B) :
    ∃ groupProfileIds, s.rebuildGroupProfileIndex = { s with groupProfileIds } := by
  have hfold : ∀ (l : List (ℤ × Ref)) (s : ProfileManager B), ∃ groupProfileIds,
      l.foldl (fun s e => s.addProfileToGroupIndex e.1 (s.objects e.2).gid) s =
        { s with groupProfileIds } := by
    intro l
    induction l with
    | nil => exact fun s => ⟨s.groupProfileIds, rfl⟩
    | cons e l ih =>
      intro s
      obtain ⟨index, hindex⟩ : ∃ groupProfileIds,
          s.addProfileToGroupIndex e.1 (s.objects e.2).gid = { s with groupProfileIds } := by
        unfold ProfileManager.addProfileToGroupIndex
        split
        · exact ⟨s.groupProfileIds, rfl⟩
        · exact ⟨_, rfl⟩
      obtain ⟨index', hindex'⟩ := ih { s with groupProfileIds := index }
      refine ⟨index', ?_⟩
      rw [List.foldl_cons, hindex]
      exact hindex'
  exact hfold _ { s with groupProfileIds := s.groups.map fun _ => [] }

/-- Loading reads the rows, and then builds the index.

**Proof sketch.** The groups and the profiles are read row by row, each under its own identifier. -/
lemma isRead_loadFromSqlite [AbstractBean B] (s : ProfileManager B) :
    ∃ t : ProfileManager B, s.loadFromSqlite = t.rebuildGroupProfileIndex ∧ IsRead s.db t ∧
      t.dataStore = s.dataStore ∧
      t.groupsTabOrder = tabsOf t.groups (s.db.groupsTabOrder.getD []) := by
  let groups : OrdMap ℤ Group :=
    s.db.groups.entries.foldl (fun m e => m.insert e.1 (loadGroup e.1 e.2)) .empty
  have hgroups : ∀ gid, groups.get? gid = (s.db.groups.get? gid).map (loadGroup gid) :=
    fun gid => OrdMap.get?_foldl_entries loadGroup s.db.groups gid
  have hkeys : s.db.groups.entries.map Prod.fst = groups.keys :=
    OrdMap.keys_congr fun gid => by rw [hgroups, Option.isSome_map]
  obtain ⟨objects, next, profiles, heq, -, -, hlt, hmem, hnot⟩ :=
    foldl_loadProfileRow s.db.profiles.nodup_keys { s with
      profiles := .empty, groups, profilesIdOrder := [], groupsIdOrder := groups.keys
      groupsTabOrder := [], groupProfileIds := .empty } fun id p hp => absurd hp (by simp)
  have hprofile : ∀ (id : ℤ) (row : ProxyEntity B), s.db.profiles.get? id = some row →
      ∃ p, profiles.get? id = some p ∧ objects p = loadProxyEntity id row :=
    fun id row hrow => hmem id row (s.db.profiles.mem_entries.2 hrow)
  have hno : ∀ id, s.db.profiles.get? id = none → profiles.get? id = none :=
    fun id hid => hnot id (s.db.profiles.get?_eq_none.1 hid)
  have hprofkeys : s.db.profiles.keys = profiles.keys := by
    refine OrdMap.keys_congr fun id => ?_
    cases hid : s.db.profiles.get? id with
    | none => rw [hno id hid]; rfl
    | some row =>
      obtain ⟨p, hp, -⟩ := hprofile id row hid
      rw [hp]
      rfl
  let t : ProfileManager B := { s with
    objects, next, profiles, groups, profilesIdOrder := profiles.keys, groupsIdOrder := groups.keys
    groupsTabOrder := s.db.groupsTabOrder.getD [], groupProfileIds := .empty }
  refine ⟨{ t with groupsTabOrder := t.normalizedOrder }, ?_, ?_, rfl, rfl⟩
  · have hk : s.db.profiles.entries.map Prod.fst = profiles.keys := hprofkeys
    unfold ProfileManager.loadFromSqlite
    dsimp only
    rw [foldl_loadGroupRow]
    dsimp only
    rw [List.nil_append, hkeys, heq]
    dsimp only
    rw [List.nil_append, hk]
  · exact {
      tables := rfl
      groups := hgroups
      profile := hprofile
      noProfile := hno
      next := hlt
      profilesIdOrder := rfl
      groupsIdOrder := rfl }

/-- Loading a sound database.

**Proof sketch.** Every profile's group is there because the database is sound, so the index is complete
and has no other groups. -/
theorem isLoaded_loadFromSqlite [AbstractBean B] (s : ProfileManager B) (hdb : s.db.Sound) :
    IsLoaded s.db s.loadFromSqlite ∧ s.loadFromSqlite.dataStore = s.dataStore := by
  obtain ⟨t, hload, hread, hdata, htabs⟩ := isRead_loadFromSqlite s
  obtain ⟨index, hindex, hin, hnone⟩ := rebuildGroupProfileIndex_spec t fun id p hp => by
    obtain ⟨row, hrow, hobj⟩ := hread.exists_row hp
    obtain ⟨group, hgroup⟩ := (hdb.profile id row hrow).2
    rw [hobj]
    refine ⟨(hdb.group row.gid group hgroup).1, loadGroup row.gid group, ?_⟩
    exact (hread.groups row.gid).trans (by rw [hgroup]; rfl)
  rw [hload, hindex]
  refine ⟨{ hread with tabs := ?_, index := hin, noIndex := hnone }, hdata⟩
  have hperm : (tabsOf t.groups (s.db.groupsTabOrder.getD [])).Perm t.groups.keys :=
    tabsOf_perm hdb.tabs
  exact htabs ▸ hperm

/-- A current group is chosen, and nothing else changes. -/
lemma fixCurrentGroup_eq (s : ProfileManager B) :
    ∃ dataStore, s.fixCurrentGroup = { s with dataStore } ∧
      dataStore.flag_reorder = s.dataStore.flag_reorder := by
  unfold ProfileManager.fixCurrentGroup
  split
  · exact ⟨_, rfl, rfl⟩
  · exact ⟨s.dataStore, rfl, rfl⟩

/-- Whether a new numbering is asked for is not changed. -/
lemma loadStored_flag_reorder [AbstractBean B] (s : ProfileManager B) :
    s.loadStored.dataStore.flag_reorder = s.dataStore.flag_reorder := by
  have hdata : s.loadFromSqlite.dataStore = s.dataStore := by
    obtain ⟨t, hload, -, hdata, -⟩ := isRead_loadFromSqlite s
    obtain ⟨index, hindex⟩ := rebuildGroupProfileIndex_frame t
    rw [hload, hindex]
    exact hdata
  unfold ProfileManager.loadStored
  obtain ⟨dataStore, heq, hflag⟩ := fixCurrentGroup_eq s.loadFromSqlite.ensureGroup
  rw [heq, hflag, ← hdata]
  unfold ProfileManager.ensureGroup
  split_ifs with hsize
  · have hid : s.loadFromSqlite.newGroupID = 0 := if_pos hsize
    rw [Consistent.addGroup_eq (by decide) hid.ge]
    dsimp only
    split_ifs
    · rfl
    · rfl
  · rfl

/-- **What is loaded from a sound database is consistent.**

**Proof sketch.** A database without groups has no profiles either, and the group that is then added
is the only thing stored. -/
theorem consistent_loadStored [AbstractBean B] (s : ProfileManager B) (hdb : s.db.Sound) :
    Consistent .reads s.loadStored := by
  obtain ⟨hload, -⟩ := isLoaded_loadFromSqlite s hdb
  have hcoh := hload.coherent hdb
  unfold ProfileManager.loadStored
  obtain ⟨dataStore, heq, -⟩ := fixCurrentGroup_eq s.loadFromSqlite.ensureGroup
  rw [heq]
  refine Consistent.setDataStore ?_ dataStore
  unfold ProfileManager.ensureGroup
  split_ifs with hsize
  · have hid : s.loadFromSqlite.newGroupID = 0 := if_pos hsize
    have hpos : 0 ≤ s.loadFromSqlite.newGroupID := hid.ge
    rw [Consistent.addGroup_eq (by decide) hpos]
    refine Consistent.setDataStore (Consistent.insertGroup hcoh _ hpos ?_ rfl rfl) _
    intro gid group hgroup
    exact absurd (((OrdMap.size_eq_zero _).1 hsize gid).symm.trans hgroup) (by simp)
  · exact { hcoh with nonempty := hsize }

/-- What is in memory is what the rows say, when reading a row changes nothing of it. -/
theorem Consistent.exact [AbstractBean B] {s : ProfileManager B} (hs : Consistent .reads s)
    (hprofile : ∀ (id : ℤ) (row : ProxyEntity B), s.db.profiles.get? id = some row →
      loadProxyEntity id row = row)
    (hgroup : ∀ (gid : ℤ) (row : Group), s.db.groups.get? gid = some row →
      loadGroup gid row = row) : Consistent .exact s := by
  refine { hs with
    row := fun id p hp => ?_
    groupRow := fun gid group hg => ?_ }
  · obtain ⟨row, hrow, hread⟩ := hs.row id p hp
    refine ⟨row, hrow, ?_⟩
    rcases hread with hread | hread
    · exact hread.symm
    · rw [(hs.profile id p hp).1, hprofile id row hrow] at hread
      exact hread.symm
  · obtain ⟨row, hrow, hread⟩ := hs.groupRow gid group hg
    refine ⟨row, hrow, ?_⟩
    rcases hread with hread | hread
    · exact hread.symm
    · rw [(hs.group gid group hg).1, hgroup gid row hrow] at hread
      exact hread.symm

/-! ### Reachable stores -/

/-- Without a request for a new numbering the store is only loaded. -/
lemma loadManager_of_plain [AbstractBean B] {s : ProfileManager B}
    (hflag : s.dataStore.flag_reorder = false) : s.loadManager = s.loadStored := by
  have hflag' := (loadStored_flag_reorder s).trans hflag
  unfold ProfileManager.loadManager
  dsimp only
  rw [hflag', if_neg (by decide)]

/-- The stores of a program that starts on a sound database, changes it, and is started again at
times. -/
inductive Reachable [AbstractBean B] : ProfileManager B → Prop where
  | load {s : ProfileManager B} (hdb : s.db.Sound) (hflag : s.dataStore.flag_reorder = false) :
    Reachable s.loadManager
  | op {s : ProfileManager B} {op : Op B} (hs : Reachable s) (hop : op.Allowed s)
    (hrun : op.SparesRunning s) : Reachable (op.run s)
  | restart {s : ProfileManager B} (hs : Reachable s) (dataStore : DataStore)
    (hflag : dataStore.flag_reorder = false) :
    Reachable (ProfileManager.loadManager { s with dataStore })

/-- **A reachable store is consistent.**

**Proof sketch.** By induction on how it was reached: the operations keep it consistent, and then its
database is sound. -/
theorem Reachable.consistent [AbstractBean B] {s : ProfileManager B} (hs : Reachable s) :
    Consistent .reads s := by
  induction hs with
  | load hdb hflag =>
    rw [loadManager_of_plain hflag]
    exact consistent_loadStored _ hdb
  | op hs hop hrun ih => exact ih.run hop hrun
  | @restart s hs dataStore hflag ih =>
    rw [loadManager_of_plain hflag]
    exact consistent_loadStored { s with dataStore } ih.sound

/-- What a consistent store left is loaded as it is.

**Proof sketch.** There is a group, so none is added. -/
lemma Consistent.isLoaded [AbstractBean B] {s : ProfileManager B} (hs : Consistent .reads s)
    (dataStore : DataStore) : IsLoaded s.db (ProfileManager.loadStored { s with dataStore }) := by
  obtain ⟨hload, -⟩ := isLoaded_loadFromSqlite { s with dataStore } hs.sound
  set t := ProfileManager.loadFromSqlite { s with dataStore } with ht
  have hsize : t.groups.size ≠ 0 := by
    intro hzero
    obtain ⟨gid, group, hgroup⟩ := s.groups.exists_get? hs.nonempty
    obtain ⟨row, hrow, -⟩ := hs.groupRow gid group hgroup
    have hnone := hload.groups gid
    rw [(OrdMap.size_eq_zero _).1 hzero gid] at hnone
    have hrow' : (Option.map (loadGroup gid) (s.db.groups.get? gid)) = some (loadGroup gid row) := by
      rw [hrow]
      rfl
    exact absurd (hnone.trans hrow') (by simp)
  have hensure : t.ensureGroup = t := if_neg hsize
  obtain ⟨dataStore', heq, -⟩ := fixCurrentGroup_eq t
  unfold ProfileManager.loadStored
  rw [← ht, hensure, heq]
  exact ⟨⟨hload.tables, hload.groups, hload.profile, hload.noProfile, hload.next,
    hload.profilesIdOrder, hload.groupsIdOrder⟩, hload.tabs, hload.index, hload.noIndex⟩

/-! ### An empty database -/

open Fmt in
/-- A program that starts with an empty database. -/
def freshStore : ProfileManager ChainBean where
  objects _ := { type := "chain", bean := {} }

/-- An empty database is sound. -/
lemma sound_freshStore : freshStore.db.Sound :=
  ⟨fun _ _ h => absurd h (by simp [freshStore]), fun _ _ h => absurd h (by simp [freshStore]),
    List.nodup_nil⟩

end Proxor.Db
