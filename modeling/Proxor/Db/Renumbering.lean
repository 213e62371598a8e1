import Proxor.Db.Loaded

set_option relaxedAutoImplicit false
set_option autoImplicit false

/-!
# What the new numbering builds

The new numbering walks over the groups as their tabs are ordered, and over the profiles of each as
they are displayed. What it visits, in this order, says what it builds, also if a profile is visited
twice or not at all.

## Main definitions

* `Proxor.Db.ProfileManager.visited` — what is visited, with the new identifiers of the groups.
* `Proxor.Db.Reorder.Walked`, `Proxor.Db.Reorder.Regrouped` — what was built so far.
* `Proxor.Db.IsReordered` — the store that was built.

## Main results

* `Proxor.Db.isReordered_reorder` — the new numbering builds such a store.
-/

namespace Proxor.Db

variable {B : Type}

namespace ProfileManager

/-- The profiles of a group as they are displayed. -/
def displayed (s : ProfileManager B) (gid : ℤ) : List Ref :=
  match s.getGroup gid with
  | none => []
  | some group => s.profilesWithOrder group

/-- The profiles of these groups, the first of which gets the identifier `k`. -/
def visitedFrom (s : ProfileManager B) : ℕ → List ℤ → List (Ref × ℤ)
  | _, [] => []
  | k, gid :: gids =>
    (s.displayed gid).map (fun p => (p, (k : ℤ))) ++ s.visitedFrom (k + 1) gids

/-- What is visited, with the new identifiers of the groups. -/
def visited (s : ProfileManager B) : List (Ref × ℤ) := s.visitedFrom 0 s.groupsTabOrder

end ProfileManager

/-- The identifiers below a length. -/
def below (n : ℕ) : List ℤ := (List.range n).map Nat.cast

lemma below_succ (n : ℕ) : below (n + 1) = below n ++ [(n : ℤ)] := by
  unfold below
  rw [List.range_succ, List.map_append]
  rfl

/-! ### The walk over the profiles -/

namespace Reorder

variable {s : ProfileManager B} {V : List (Ref × ℤ)} {T : List ℤ} {r : Reorder B}

/-- What was built from the profiles `V` that were visited so far in the groups `T`. -/
structure Walked (s : ProfileManager B) (V : List (Ref × ℤ)) (T : List ℤ) (r : Reorder B) :
    Prop where
  store : r.store = { s with objects := r.store.objects }
  newGroups : r.newGroups = .empty ∧ r.newGroupsIdOrder = []
  nextProfileId : r.nextProfileId = V.length
  nextGroupId : r.nextGroupId = T.length
  newProfilesIdOrder : r.newProfilesIdOrder = below V.length
  newProfiles : ∀ (id : ℤ) (p : Ref), r.newProfiles.get? id = some p ↔
    ∃ (j : ℕ) (gid : ℤ), id = j ∧ V[j]? = some (p, gid)
  seen : ∀ e ∈ V, ∃ (j : ℕ) (gid : ℤ), V[j]? = some (e.1, gid) ∧
    r.store.objects e.1 = { s.objects e.1 with id := j, gid }
  unseen : ∀ p, (∀ e ∈ V, e.1 ≠ p) → r.store.objects p = s.objects p
  gidOld2New : ∀ gid : ℤ, r.gidOld2New.get? gid = if gid ∈ T then some (T.idxOf gid : ℤ) else none
  pidOld2New : (V.map fun e => (s.objects e.1).id).Nodup → ∀ id x : ℤ,
    r.pidOld2New.get? id = some x ↔
      ∃ (j : ℕ) (e : Ref × ℤ), x = j ∧ V[j]? = some e ∧ (s.objects e.1).id = id

/-- The element at a position of a list with one more element. -/
lemma getElem?_concat {α : Type} (l : List α) (a b : α) (j : ℕ) :
    (l ++ [a])[j]? = some b ↔ l[j]? = some b ∨ j = l.length ∧ b = a := by
  rw [List.getElem?_append]
  split_ifs with h
  · exact ⟨.inl, fun h' => h'.resolve_right fun h'' => absurd h''.1 (Nat.ne_of_lt h)⟩
  · rw [List.getElem?_eq_none (not_lt.1 h), List.getElem?_singleton]
    simp only [reduceCtorEq, false_or]
    split_ifs with h'
    · constructor
      · intro heq
        exact ⟨by omega, (Option.some.inj heq).symm⟩
      · rintro ⟨-, rfl⟩
        rfl
    · constructor
      · exact fun heq => absurd heq (by simp)
      · rintro ⟨rfl, -⟩
        exact absurd (Nat.sub_self _) h'

/-- One more profile is visited. It may have been visited before.

**Proof sketch.** Its object keeps what is not an identifier, whether or not it was changed before. -/
lemma Walked.renumberProfile (h : Walked s V T r) (newGid : ℤ) (p : Ref) :
    Walked s (V ++ [(p, newGid)]) T (renumberProfile newGid r p) := by
  have hlen : (V ++ [(p, newGid)]).length = V.length + 1 := by simp
  have hent : ∀ (id gid : ℤ), { r.store.objects p with id, gid } = { s.objects p with id, gid } := by
    intro id gid
    by_cases hp : ∀ e ∈ V, e.1 ≠ p
    · rw [h.unseen p hp]
    · push Not at hp
      obtain ⟨e, he, rfl⟩ := hp
      obtain ⟨j, gid', -, hobj⟩ := h.seen e he
      rw [hobj]
  have hobjects : (Reorder.renumberProfile newGid r p).store.objects =
      Function.update r.store.objects p { s.objects p with id := V.length, gid := newGid } := by
    rw [← hent, ← h.nextProfileId]
    rfl
  refine {
    store := ?_
    newGroups := h.newGroups
    nextProfileId := ?_
    nextGroupId := h.nextGroupId
    newProfilesIdOrder := ?_
    newProfiles := fun id q => ?_
    seen := fun e he => ?_
    unseen := fun q hq => ?_
    gidOld2New := h.gidOld2New
    pidOld2New := fun hnodup id x => ?_ }
  · unfold Reorder.renumberProfile
    dsimp only
    rw [h.store]
  · unfold Reorder.renumberProfile
    dsimp only
    rw [h.nextProfileId, hlen]
    rfl
  · unfold Reorder.renumberProfile
    dsimp only
    rw [h.newProfilesIdOrder, h.nextProfileId, hlen, below_succ]
  · unfold Reorder.renumberProfile
    dsimp only
    rw [OrdMap.get?_insert, h.nextProfileId]
    simp only [getElem?_concat, Prod.mk.injEq]
    split_ifs with hid
    · constructor
      · rintro heq
        exact ⟨V.length, newGid, hid, .inr ⟨rfl, (Option.some.inj heq).symm, rfl⟩⟩
      · rintro ⟨j, gid, hj, hget | ⟨-, rfl, -⟩⟩
        · have hlt := (List.getElem?_eq_some_iff.1 hget).1
          omega
        · rfl
    · rw [h.newProfiles]
      constructor
      · rintro ⟨j, gid, hj, hget⟩
        exact ⟨j, gid, hj, .inl hget⟩
      · rintro ⟨j, gid, hj, hget | ⟨rfl, -, -⟩⟩
        · exact ⟨j, gid, hj, hget⟩
        · exact absurd hj hid
  · rw [hobjects]
    by_cases hep : e.1 = p
    · refine ⟨V.length, newGid, (getElem?_concat ..).2 (.inr ⟨rfl, by rw [hep]⟩), ?_⟩
      rw [hep, Function.update_self]
    · have heV : e ∈ V := by
        rcases List.mem_append.1 he with he | he
        · exact he
        · exact absurd (congrArg Prod.fst (List.mem_singleton.1 he)) hep
      obtain ⟨j, gid, hget, hobj⟩ := h.seen e heV
      exact ⟨j, gid, (getElem?_concat ..).2 (.inl hget), by rw [Function.update_of_ne hep, hobj]⟩
  · rw [hobjects, Function.update_of_ne]
    · exact h.unseen q fun e he => hq e (List.mem_append_left _ he)
    · exact fun heq => hq (p, newGid) (List.mem_append_right _ (List.mem_singleton_self _)) heq.symm
  · rw [List.map_append, List.nodup_append] at hnodup
    obtain ⟨hV, -, hdisj⟩ := hnodup
    have hnew : ∀ e ∈ V, (s.objects e.1).id ≠ (s.objects p).id := fun e he =>
      hdisj _ (List.mem_map_of_mem he) _ (List.mem_map_of_mem (List.mem_singleton_self (p, newGid)))
    have hold : (r.store.objects p).id = (s.objects p).id := by
      rw [h.unseen p fun e he hep => hnew e he (by rw [hep])]
    unfold Reorder.renumberProfile
    dsimp only
    rw [OrdMap.get?_insert, h.nextProfileId, hold]
    simp only [getElem?_concat]
    split_ifs with hid
    · constructor
      · intro heq
        exact ⟨V.length, (p, newGid), (Option.some.inj heq).symm, .inr ⟨rfl, rfl⟩, hid.symm⟩
      · rintro ⟨j, e, rfl, hget | ⟨rfl, -⟩, he⟩
        · exact absurd (he.trans hid) (hnew e (List.mem_of_getElem? hget))
        · rfl
    · rw [h.pidOld2New hV]
      constructor
      · rintro ⟨j, e, rfl, hget, he⟩
        exact ⟨j, e, rfl, .inl hget, he⟩
      · rintro ⟨j, e, rfl, hget | ⟨-, rfl⟩, he⟩
        · exact ⟨j, e, rfl, hget, he⟩
        · exact absurd he.symm hid

/-- The profiles of a group are visited.

**Proof sketch.** By induction on the profiles. -/
lemma Walked.renumberProfiles (newGid : ℤ) (ps : List Ref) (h : Walked s V T r) :
    Walked s (V ++ ps.map fun p => (p, newGid)) T (ps.foldl (Reorder.renumberProfile newGid) r) := by
  induction ps generalizing V r with
  | nil =>
    rw [List.map_nil, List.append_nil]
    exact h
  | cons p ps ih =>
    have hstep := ih (h.renumberProfile newGid p)
    rw [List.append_assoc] at hstep
    exact hstep

/-- One more group is visited. -/
lemma Walked.renumberGroup (h : Walked s V T r) {gid : ℤ} {group : Group}
    (hgroup : s.groups.get? gid = some group) (hgid : gid ∉ T) :
    Walked s (V ++ (s.displayed gid).map fun p => (p, (T.length : ℤ))) (T ++ [gid])
      (Reorder.renumberGroup r gid) := by
  have hget : r.store.getGroup gid = some group := by
    rw [h.store]
    exact hgroup
  have hdisplayed : r.store.profilesWithOrder group = s.displayed gid := by
    have hget' : s.getGroup gid = some group := hgroup
    unfold ProfileManager.displayed
    rw [h.store, hget']
    rfl
  unfold Reorder.renumberGroup
  rw [hget]
  dsimp only
  rw [hdisplayed, h.nextGroupId]
  refine Walked.renumberProfiles _ _ { h with
    nextGroupId := by simp
    gidOld2New := fun x => ?_ }
  dsimp only
  rw [OrdMap.get?_insert, h.gidOld2New]
  by_cases hx : x = gid
  · subst hx
    rw [if_pos rfl, if_pos (by simp), List.idxOf_append, if_neg hgid]
    simp
  · rw [if_neg hx]
    simp only [List.mem_append, List.mem_singleton, hx, or_false]
    split_ifs with hxT
    · rw [List.idxOf_append, if_pos hxT]
    · rfl

/-- The groups are visited.

**Proof sketch.** By induction on the groups. -/
lemma Walked.renumberGroups {gids : List ℤ} (h : Walked s V T r)
    (hstored : ∀ gid ∈ gids, ∃ group, s.groups.get? gid = some group) (hnodup : (T ++ gids).Nodup) :
    Walked s (V ++ s.visitedFrom T.length gids) (T ++ gids)
      (gids.foldl Reorder.renumberGroup r) := by
  induction gids generalizing V T r with
  | nil =>
    unfold ProfileManager.visitedFrom
    rw [List.append_nil, List.append_nil]
    exact h
  | cons gid gids ih =>
    obtain ⟨group, hgroup⟩ := hstored gid List.mem_cons_self
    have hgid : gid ∉ T := fun hmem =>
      (List.nodup_append.1 hnodup).2.2 gid hmem gid List.mem_cons_self rfl
    rw [List.append_cons] at hnodup ⊢
    have hrest := ih (h.renumberGroup hgroup hgid)
      (fun x hx => hstored x (List.mem_cons_of_mem _ hx)) hnodup
    rw [List.length_append, List.length_singleton, List.append_assoc] at hrest
    exact hrest

/-! ### The walk over the groups -/

/-- A group under its new identifier. -/
def regrouped (pidOld2New : OrdMap ℤ ℤ) (group : Group) (id : ℤ) : Group :=
  { group with
    toggle_proxy_ids := group.toggle_proxy_ids.filterMap pidOld2New.get?
    order := []
    id }

/-- What was built from the groups `T` that were put under new identifiers so far. -/
structure Regrouped (s : ProfileManager B) (r₀ : Reorder B) (T : List ℤ) (r : Reorder B) : Prop where
  frame : r = { r₀ with
    store := { r₀.store with groups := r.store.groups }
    newGroups := r.newGroups
    newGroupsIdOrder := r.newGroupsIdOrder }
  untouched : ∀ gid ∉ T, r.store.groups.get? gid = s.groups.get? gid
  newGroupsIdOrder : r.newGroupsIdOrder = below T.length
  newGroups : ∀ (id : ℤ) (group' : Group), r.newGroups.get? id = some group' ↔
    ∃ (j : ℕ) (gid : ℤ) (group : Group), id = j ∧ T[j]? = some gid ∧
      s.groups.get? gid = some group ∧ group' = regrouped r₀.pidOld2New group j

/-- One more group. -/
lemma Regrouped.regroup {r₀ : Reorder B} (h : Regrouped s r₀ T r) {gid : ℤ} {group : Group}
    (hgroup : s.groups.get? gid = some group) (hgid : gid ∉ T)
    (hnew : r₀.gidOld2New.get? gid = some (T.length : ℤ)) :
    Regrouped s r₀ (T ++ [gid]) (Reorder.regroup r gid) := by
  have hget : r.store.getGroup gid = some group := (h.untouched gid hgid).trans hgroup
  have hnew' : r.gidOld2New.get? gid = some (T.length : ℤ) := by
    rw [h.frame]
    exact hnew
  have hpids : r.pidOld2New = r₀.pidOld2New := by
    rw [h.frame]
  have hstep : Reorder.regroup r gid = { r with
      store := { r.store with
        groups := r.store.groups.insert gid (regrouped r₀.pidOld2New group T.length) }
      newGroups := r.newGroups.insert T.length (regrouped r₀.pidOld2New group T.length)
      newGroupsIdOrder := r.newGroupsIdOrder ++ [(T.length : ℤ)] } := by
    unfold Reorder.regroup
    rw [hget]
    dsimp only
    rw [hnew', hpids]
    rfl
  rw [hstep]
  refine ⟨?_, fun x hx => ?_, ?_, fun id group' => ?_⟩
  · rw [h.frame]
  · have hne : x ≠ gid := fun hxg => hx (List.mem_append_right _ (hxg ▸ List.mem_singleton_self _))
    exact (OrdMap.get?_insert_of_ne _ _ hne).trans
      (h.untouched x fun hxT => hx (List.mem_append_left _ hxT))
  · dsimp only
    rw [h.newGroupsIdOrder, List.length_append, List.length_singleton, below_succ]
  · dsimp only
    rw [OrdMap.get?_insert]
    simp only [getElem?_concat]
    split_ifs with hid
    · constructor
      · intro heq
        exact ⟨T.length, gid, group, hid, .inr ⟨rfl, rfl⟩, hgroup, (Option.some.inj heq).symm⟩
      · rintro ⟨j, x, g, hj, hget | ⟨rfl, rfl⟩, hg, rfl⟩
        · have hlt := (List.getElem?_eq_some_iff.1 hget).1
          omega
        · obtain rfl := Option.some.inj (hg.symm.trans hgroup)
          rfl
    · rw [h.newGroups]
      constructor
      · rintro ⟨j, x, g, hj, hget, hg⟩
        exact ⟨j, x, g, hj, .inl hget, hg⟩
      · rintro ⟨j, x, g, hj, hget | ⟨rfl, -⟩, hg⟩
        · exact ⟨j, x, g, hj, hget, hg⟩
        · exact absurd hj hid

/-- The groups are put under their new identifiers.

**Proof sketch.** By induction on the groups. -/
lemma Regrouped.regroups {r₀ : Reorder B} {gids : List ℤ} (h : Regrouped s r₀ T r)
    (hstored : ∀ gid ∈ gids, ∃ group, s.groups.get? gid = some group) (hnodup : (T ++ gids).Nodup)
    (hnew : ∀ gid ∈ gids, r₀.gidOld2New.get? gid = some ((T ++ gids).idxOf gid : ℤ)) :
    Regrouped s r₀ (T ++ gids) (gids.foldl Reorder.regroup r) := by
  induction gids generalizing T r with
  | nil =>
    rw [List.append_nil]
    exact h
  | cons gid gids ih =>
    obtain ⟨group, hgroup⟩ := hstored gid List.mem_cons_self
    have hgid : gid ∉ T := fun hmem =>
      (List.nodup_append.1 hnodup).2.2 gid hmem gid List.mem_cons_self rfl
    have hidx : (T ++ gid :: gids).idxOf gid = T.length := by
      rw [List.idxOf_append, if_neg hgid]
      simp
    have hstep := h.regroup hgroup hgid (hidx ▸ hnew gid List.mem_cons_self)
    rw [List.append_cons] at hnodup hnew ⊢
    exact ih hstep (fun x hx => hstored x (List.mem_cons_of_mem _ hx)) hnodup
      fun x hx => hnew x (List.mem_cons_of_mem _ hx)

end Reorder

/-! ### The store -/

/-- The store that was built. `pids` says where the profiles went, if none was visited twice. -/
structure IsReordered (s s' : ProfileManager B) (pids : OrdMap ℤ ℤ) : Prop where
  renumbered : (s.visited.map fun e => (s.objects e.1).id).Nodup → ∀ id x : ℤ, pids.get? id = some x ↔
    ∃ (j : ℕ) (e : Ref × ℤ), x = j ∧ s.visited[j]? = some e ∧ (s.objects e.1).id = id
  profiles : ∀ (id : ℤ) (p : Ref), s'.profiles.get? id = some p ↔
    ∃ (j : ℕ) (gid : ℤ), id = j ∧ s.visited[j]? = some (p, gid)
  seen : ∀ e ∈ s.visited, ∃ (j : ℕ) (gid : ℤ), s.visited[j]? = some (e.1, gid) ∧
    s'.objects e.1 = { s.objects e.1 with id := j, gid }
  groups : ∀ (id : ℤ) (group' : Group), s'.groups.get? id = some group' ↔
    ∃ (j : ℕ) (gid : ℤ) (group : Group), id = j ∧ s.groupsTabOrder[j]? = some gid ∧
      s.groups.get? gid = some group ∧ group' = Reorder.regrouped pids group j
  tabs : s'.groupsTabOrder = below s.groupsTabOrder.length
  index : ∀ (gid : ℤ) (group : Group), s'.groups.get? gid = some group →
    ∃ ids, s'.groupProfileIds.get? gid = some ids ∧ Enumerates ids fun id => s'.gidOf id = some gid
  rows : ∀ id, s'.db.profiles.get? id = (s'.profiles.get? id).map s'.objects
  groupRows : ∀ gid, s'.db.groups.get? gid = s'.groups.get? gid
  dataStore : ∃ gids : OrdMap ℤ ℤ,
    (∀ gid : ℤ, gids.get? gid =
      if gid ∈ s.groupsTabOrder then some (s.groupsTabOrder.idxOf gid : ℤ) else none) ∧
    s'.dataStore = { s.dataStore with
      current_group := Reorder.mapped gids s.dataStore.current_group
      started_id := Reorder.mapped pids s.dataStore.started_id
      remember_id := Reorder.mapped pids s.dataStore.remember_id }

/-- The rows of the groups are written.

**Proof sketch.** By induction on the groups. -/
lemma foldl_saveGroupToDb (gids : List ℤ) (s : ProfileManager B)
    (hgids : ∀ gid ∈ gids, ∃ group, s.groups.get? gid = some group) :
    ∃ rows : OrdMap ℤ Group,
      gids.foldl ProfileManager.saveGroupToDb s = { s with db := { s.db with groups := rows } } ∧
      ∀ gid, rows.get? gid = if gid ∈ gids then s.groups.get? gid else s.db.groups.get? gid := by
  induction gids generalizing s with
  | nil => exact ⟨s.db.groups, rfl, fun gid => by simp⟩
  | cons x gids ih =>
    obtain ⟨group, hgroup⟩ := hgids x List.mem_cons_self
    have hstep : s.saveGroupToDb x =
        { s with db := { s.db with groups := s.db.groups.insert x group } } := by
      unfold ProfileManager.saveGroupToDb
      rw [hgroup]
    obtain ⟨rows, heq, hrows⟩ := ih { s with
      db := { s.db with groups := s.db.groups.insert x group } }
      fun gid hgid => hgids gid (List.mem_cons_of_mem _ hgid)
    refine ⟨rows, by rw [List.foldl_cons, hstep, heq], fun gid => ?_⟩
    rw [hrows]
    simp only [List.mem_cons]
    by_cases hgid : gid ∈ gids
    · rw [if_pos hgid, if_pos (.inr hgid)]
    · rw [if_neg hgid, OrdMap.get?_insert]
      by_cases hx : gid = x
      · rw [if_pos hx, if_pos (.inl hx), hx, hgroup]
      · rw [if_neg hx, if_neg (not_or.2 ⟨hx, hgid⟩)]

/-- The rows of the profiles are written.

**Proof sketch.** By induction on the profiles. -/
lemma foldl_saveProfileToDb (ids : List ℤ) (s : ProfileManager B)
    (hids : ∀ id ∈ ids, ∃ p, s.profiles.get? id = some p) :
    ∃ rows : OrdMap ℤ (ProxyEntity B),
      ids.foldl ProfileManager.saveProfileToDb s = { s with db := { s.db with profiles := rows } } ∧
      ∀ id, rows.get? id =
        if id ∈ ids then (s.profiles.get? id).map s.objects else s.db.profiles.get? id := by
  induction ids generalizing s with
  | nil => exact ⟨s.db.profiles, rfl, fun id => by simp⟩
  | cons x ids ih =>
    obtain ⟨p, hp⟩ := hids x List.mem_cons_self
    have hstep : s.saveProfileToDb x =
        { s with db := { s.db with profiles := s.db.profiles.insert x (s.objects p) } } := by
      unfold ProfileManager.saveProfileToDb
      rw [hp]
    obtain ⟨rows, heq, hrows⟩ := ih { s with
      db := { s.db with profiles := s.db.profiles.insert x (s.objects p) } }
      fun id hid => hids id (List.mem_cons_of_mem _ hid)
    refine ⟨rows, by rw [List.foldl_cons, hstep, heq], fun id => ?_⟩
    rw [hrows]
    simp only [List.mem_cons]
    by_cases hid : id ∈ ids
    · rw [if_pos hid, if_pos (.inr hid)]
    · rw [if_neg hid, OrdMap.get?_insert]
      by_cases hx : id = x
      · rw [if_pos hx, if_pos (.inl hx), hx, hp]
        rfl
      · rw [if_neg hx, if_neg (not_or.2 ⟨hx, hid⟩)]

namespace ProfileManager

/-- What is visited is a displayed profile, with the position of its tab. -/
lemma mem_visitedFrom (s : ProfileManager B) (k : ℕ) (gids : List ℤ) (p : Ref) (x : ℤ) :
    (p, x) ∈ s.visitedFrom k gids ↔
      ∃ (j : ℕ) (gid : ℤ), x = (k + j : ℕ) ∧ gids[j]? = some gid ∧ p ∈ s.displayed gid := by
  induction gids generalizing k with
  | nil => simp [visitedFrom]
  | cons gid gids ih =>
    unfold visitedFrom
    rw [List.mem_append, ih, List.mem_map]
    constructor
    · rintro (⟨q, hq, heq⟩ | ⟨j, gid', rfl, hget, hp⟩)
      · obtain ⟨rfl, rfl⟩ := Prod.mk.inj heq
        exact ⟨0, gid, rfl, rfl, hq⟩
      · refine ⟨j + 1, gid', ?_, hget, hp⟩
        rw [Nat.add_assoc, Nat.add_comm 1 j]
    · rintro ⟨j, gid', rfl, hget, hp⟩
      cases j with
      | zero =>
        obtain rfl := Option.some.inj hget
        exact .inl ⟨p, hp, rfl⟩
      | succ j =>
        refine .inr ⟨j, gid', ?_, hget, hp⟩
        rw [Nat.add_assoc, Nat.add_comm 1 j]

/-- What is visited is a displayed profile, with the position of its tab. -/
lemma mem_visited (s : ProfileManager B) (p : Ref) (x : ℤ) : (p, x) ∈ s.visited ↔
    ∃ (j : ℕ) (gid : ℤ), x = j ∧ s.groupsTabOrder[j]? = some gid ∧ p ∈ s.displayed gid := by
  have h := s.mem_visitedFrom 0 s.groupsTabOrder p x
  simp only [Nat.zero_add] at h
  exact h

end ProfileManager

/-- **The new numbering builds such a store.**

**Proof sketch.** The tables are cleared before they are written, and every profile that is visited has a
group, so the index is complete. -/
theorem isReordered_reorder {s : ProfileManager B}
    (htabs : ∀ gid ∈ s.groupsTabOrder, ∃ group, s.groups.get? gid = some group)
    (hnodup : s.groupsTabOrder.Nodup) : ∃ pids, IsReordered s s.reorder pids := by
  have hstart : Reorder.Walked s [] [] { store := s } :=
    ⟨rfl, ⟨rfl, rfl⟩, rfl, rfl, rfl, fun id p => by simp, fun e he => absurd he List.not_mem_nil,
      fun p _ => rfl, fun gid => by simp, fun _ id x => by simp⟩
  have hwalked := hstart.renumberGroups htabs hnodup
  set r₀ := s.groupsTabOrder.foldl Reorder.renumberGroup { store := s } with hr₀
  have hregrouped : Reorder.Regrouped s r₀ ([] ++ s.groupsTabOrder)
      (s.groupsTabOrder.foldl Reorder.regroup r₀) := by
    refine Reorder.Regrouped.regroups ⟨rfl, fun gid _ => ?_, ?_, fun id group' => ?_⟩ htabs hnodup
      fun gid hgid => ?_
    · rw [hwalked.store]
    · exact hwalked.newGroups.2
    · rw [hwalked.newGroups.1]
      simp
    · rw [hwalked.gidOld2New, if_pos (List.mem_append_right _ hgid)]
  set r := s.groupsTabOrder.foldl Reorder.regroup r₀ with hr
  replace hwalked : Reorder.Walked s s.visited s.groupsTabOrder r₀ := hwalked
  replace hregrouped : Reorder.Regrouped s r₀ s.groupsTabOrder r := hregrouped
  have hprofiles : r.newProfiles = r₀.newProfiles := by rw [hregrouped.frame]
  have hobjects : r.store.objects = r₀.store.objects := by rw [hregrouped.frame]
  have hpids : r.pidOld2New = r₀.pidOld2New := by rw [hregrouped.frame]
  have hgids : r.gidOld2New = r₀.gidOld2New := by rw [hregrouped.frame]
  have hdata : r.store.dataStore = s.dataStore := by rw [hregrouped.frame, hwalked.store]
  let u : ProfileManager B := { r.store with
    profiles := r.newProfiles
    groups := r.newGroups
    profilesIdOrder := r.newProfilesIdOrder
    groupsIdOrder := r.newGroupsIdOrder
    groupsTabOrder := r.newGroupsIdOrder
    dataStore := { s.dataStore with
      current_group := Reorder.mapped r.gidOld2New s.dataStore.current_group
      started_id := Reorder.mapped r.pidOld2New s.dataStore.started_id
      remember_id := Reorder.mapped r.pidOld2New s.dataStore.remember_id }
    db := { s.db with profiles := .empty, groups := .empty } }
  obtain ⟨index, hindex, hin, -⟩ := rebuildGroupProfileIndex_spec u fun id p hp => by
    obtain ⟨j, x, -, hget⟩ := (hwalked.newProfiles id p).1 (hprofiles ▸ hp)
    obtain ⟨j', x', hget', hobj⟩ := hwalked.seen (p, x) (List.mem_of_getElem? hget)
    obtain ⟨k, gid, rfl, hgid, -⟩ := (s.mem_visited p x').1 (List.mem_of_getElem? hget')
    obtain ⟨group, hgroup⟩ := htabs gid (List.mem_of_getElem? hgid)
    have hobj' : u.objects p = { s.objects p with id := j', gid := k } :=
      (congrFun hobjects p).trans hobj
    rw [hobj']
    exact ⟨Int.natCast_nonneg k, _, (hregrouped.newGroups k _).2 ⟨k, gid, group, rfl, hgid, hgroup, rfl⟩⟩
  obtain ⟨grows, hgrows, hgget⟩ := foldl_saveGroupToDb r.newGroups.keys
    { u with groupProfileIds := index } fun gid hgid => r.newGroups.mem_keys.1 hgid
  obtain ⟨rows, hrows, hget⟩ := foldl_saveProfileToDb r.newProfiles.keys
    { u with groupProfileIds := index, db := { u.db with groups := grows } }
    fun id hid => r.newProfiles.mem_keys.1 hid
  have heq : s.reorder = { u with
      groupProfileIds := index
      db := { u.db with
        groups := grows
        profiles := rows
        groupsTabOrder := some r.newGroupsIdOrder } } := by
    have hu : { r.store with
        profiles := r.newProfiles
        groups := r.newGroups
        profilesIdOrder := r.newProfilesIdOrder
        groupsIdOrder := r.newGroupsIdOrder
        groupsTabOrder := r.newGroupsIdOrder
        dataStore := { s.dataStore with
          current_group := Reorder.mapped r.gidOld2New s.dataStore.current_group
          started_id := Reorder.mapped r.pidOld2New s.dataStore.started_id
          remember_id := Reorder.mapped r.pidOld2New s.dataStore.remember_id }
        db := { s.db with profiles := .empty, groups := .empty } } = u := rfl
    unfold ProfileManager.reorder
    dsimp only
    rw [← hr₀, ← hr, hu, hindex]
    dsimp only
    have hgkeys : u.groups = r.newGroups := rfl
    have hpkeys : u.profiles = r.newProfiles := rfl
    rw [hgkeys, hgrows]
    dsimp only
    rw [hpkeys, hrows]
    rfl
  rw [heq]
  refine ⟨r₀.pidOld2New, {
    renumbered := hwalked.pidOld2New
    profiles := fun id p => ?_
    seen := fun e he => ?_
    groups := hregrouped.newGroups
    tabs := hregrouped.newGroupsIdOrder
    index := hin
    rows := fun id => ?_
    groupRows := fun gid => ?_
    dataStore := ⟨r₀.gidOld2New, hwalked.gidOld2New, ?_⟩ }⟩
  · have hnew := hwalked.newProfiles id p
    rw [← hprofiles] at hnew
    exact hnew
  · obtain ⟨j, gid, hget, hobj⟩ := hwalked.seen e he
    exact ⟨j, gid, hget, (congrFun hobjects e.1).trans hobj⟩
  · dsimp only
    rw [hget]
    split_ifs with hid
    · rfl
    · have hnone : r.newProfiles.get? id = none := r.newProfiles.get?_eq_none.2 hid
      exact (congrArg (Option.map r.store.objects) hnone).symm
  · dsimp only
    rw [hgget]
    split_ifs with hgid
    · rfl
    · exact (r.newGroups.get?_eq_none.2 hgid).symm
  · rw [← hpids, ← hgids]

end Proxor.Db
