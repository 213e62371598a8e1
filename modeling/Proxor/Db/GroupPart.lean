import Proxor.Db.ProfilePart

set_option relaxedAutoImplicit false
set_option autoImplicit false

/-!
# The groups apart from the profiles

What the operations do to the groups and their rows, but for what their lists say.

## Main definitions

* `Proxor.Db.Groups` — the map of the groups, its order, and the rows.
* `Proxor.Db.Groups.Edit` — a group is replaced.
* `Proxor.Db.Groups.Agrees` — they agree.

## Main results

* `Proxor.Db.Groups.Agrees.edits`, `Proxor.Db.Groups.Agrees.erase`, `Proxor.Db.Groups.Agrees.append` —
  what keeps the groups in agreement, and which groups there are then.
* `Proxor.Db.Groups.Agrees.run` — an operation keeps them in agreement, and adds none but the next one.
-/

namespace Proxor.Db

variable {B : Type}

/-- The groups apart from the profiles. -/
structure Groups where
  stored : OrdMap ℤ Group
  order : List ℤ
  rows : OrdMap ℤ Group

namespace Groups

/-- Replace a group. -/
def put (G : Groups) (group : Group) : Groups :=
  { G with
    stored := G.stored.insert group.id group
    rows := G.rows.insert group.id group }

/-- Add a group. -/
def append (G : Groups) (group : Group) : Groups :=
  { stored := G.stored.insert group.id group
    order := G.order ++ [group.id]
    rows := G.rows.insert group.id group }

/-- Remove a group. -/
def erase (G : Groups) (gid : ℤ) : Groups :=
  { stored := G.stored.erase gid
    order := removeAll G.order gid
    rows := G.rows.erase gid }

/-- The identifier after the greatest one. -/
def nextId (G : Groups) : ℤ := if G.stored.size = 0 then 0 else G.order.getLast?.getD 0 + 1

/-- A group is replaced. -/
def Edit (G G' : Groups) : Prop :=
  ∃ group old : Group, G.stored.get? group.id = some old ∧ G' = G.put group

/-- The map, its order and the rows agree. -/
structure Agrees (G : Groups) : Prop where
  order : Enumerates G.order fun gid => ∃ group, G.stored.get? gid = some group
  group : ∀ (gid : ℤ) (group : Group), G.stored.get? gid = some group → group.id = gid ∧ 0 ≤ gid
  rows : G.rows.keys = G.stored.keys

namespace Agrees

variable {G : Groups}

lemma lt_nextId (hG : G.Agrees) {gid : ℤ} {group : Group} (h : G.stored.get? gid = some group) :
    gid < G.nextId := by
  have hsize : G.stored.size ≠ 0 := fun hzero => by
    rw [OrdMap.size_eq_zero] at hzero
    exact absurd (hzero gid) (by simp [h])
  unfold Groups.nextId
  rw [if_neg hsize]
  exact Int.lt_add_one_of_le (hG.order.le_getLast ⟨group, h⟩ 0)

lemma nextId_nonneg (hG : G.Agrees) : 0 ≤ G.nextId := by
  by_cases hsize : G.stored.size = 0
  · exact (if_pos hsize).ge
  · obtain ⟨gid, group, h⟩ := G.stored.exists_get? hsize
    exact (hG.group gid group h).2.trans (hG.lt_nextId h).le

/-- Replacing a group. -/
lemma edit (hG : G.Agrees) {G' : Groups} (h : Edit G G') :
    G'.Agrees ∧ G'.stored.keys = G.stored.keys := by
  obtain ⟨group, old, hold, rfl⟩ := h
  have hmem : group.id ∈ G.stored.keys := G.stored.mem_keys.2 ⟨old, hold⟩
  have hkeys : (G.put group).stored.keys = G.stored.keys :=
    G.stored.keys_insert_of_mem group hmem
  have hrows : (G.put group).rows.keys = G.rows.keys :=
    G.rows.keys_insert_of_mem group (hG.rows ▸ hmem)
  refine ⟨⟨?_, fun gid g hg => ?_, hrows.trans (hG.rows.trans hkeys.symm)⟩, hkeys⟩
  · refine hG.order.congr fun gid => ?_
    rw [← OrdMap.mem_keys, ← OrdMap.mem_keys, hkeys]
  · unfold Groups.put at hg
    dsimp only at hg
    rw [OrdMap.get?_insert] at hg
    split_ifs at hg with hgid
    · obtain rfl := Option.some.inj hg
      exact ⟨hgid.symm, hgid ▸ (hG.group _ old hold).2⟩
    · exact hG.group gid g hg

/-- Replacing groups.

**Proof sketch.** By induction on the replacements. -/
lemma edits (hG : G.Agrees) {G' : Groups} (h : Relation.ReflTransGen Edit G G') :
    G'.Agrees ∧ G'.stored.keys = G.stored.keys := by
  induction h with
  | refl => exact ⟨hG, rfl⟩
  | tail _ hstep ih =>
    obtain ⟨hagrees, hkeys⟩ := ih.1.edit hstep
    exact ⟨hagrees, hkeys.trans ih.2⟩

/-- Removing a group. -/
lemma erase (hG : G.Agrees) (gid : ℤ) :
    (G.erase gid).Agrees ∧ (G.erase gid).stored.keys = removeAll G.stored.keys gid := by
  have hkeys : (G.erase gid).stored.keys = removeAll G.stored.keys gid := G.stored.keys_erase gid
  have hrows : (G.erase gid).rows.keys = removeAll G.rows.keys gid := G.rows.keys_erase gid
  refine ⟨⟨?_, fun x g hg => ?_, hrows.trans (hG.rows ▸ hkeys.symm)⟩, hkeys⟩
  · refine (Consistent.enumerates_removeAll hG.order gid).congr fun x => ?_
    rw [← OrdMap.mem_keys, ← OrdMap.mem_keys, hkeys, Consistent.mem_removeAll]
  · unfold Groups.erase at hg
    dsimp only at hg
    rw [OrdMap.get?_erase] at hg
    split_ifs at hg
    exact hG.group x g hg

/-- Adding a group. -/
lemma append (hG : G.Agrees) (group : Group) (hid : group.id = G.nextId) :
    (G.append group).Agrees ∧ (G.append group).stored.keys = G.stored.keys ++ [G.nextId] := by
  have hlt : ∀ gid ∈ G.stored.keys, gid < group.id := by
    intro gid hgid
    obtain ⟨g, hg⟩ := G.stored.mem_keys.1 hgid
    exact hid ▸ hG.lt_nextId hg
  have hkeys : (G.append group).stored.keys = G.stored.keys ++ [group.id] :=
    G.stored.keys_insert_of_lt group hlt
  have hrows : (G.append group).rows.keys = G.rows.keys ++ [group.id] :=
    G.rows.keys_insert_of_lt group fun gid h => hlt gid (hG.rows ▸ h)
  refine ⟨⟨?_, fun gid g hg => ?_, hrows.trans (hG.rows ▸ hkeys.symm)⟩, hid ▸ hkeys⟩
  · refine (hG.order.concat fun gid h => hlt gid (G.stored.mem_keys.2 h)).congr fun gid => ?_
    rw [← OrdMap.mem_keys, ← OrdMap.mem_keys, hkeys, List.mem_append, List.mem_singleton]
  · unfold Groups.append at hg
    dsimp only at hg
    rw [OrdMap.get?_insert] at hg
    split_ifs at hg with hgid
    · obtain rfl := Option.some.inj hg
      exact ⟨hgid.symm, hgid ▸ hid ▸ hG.nextId_nonneg⟩
    · exact hG.group gid g hg

end Agrees

end Groups

namespace ProfileManager

/-- The groups of a store. -/
def groupPart (s : ProfileManager B) : Groups := ⟨s.groups, s.groupsIdOrder, s.db.groups⟩

/-! ### What the operations do to the groups -/

/-- A group is edited, if it is stored. -/
lemma groupPart_editGroup {s : ProfileManager B} (hG : s.groupPart.Agrees) (gid : ℤ)
    {f : Group → Group} (hf : ∀ group, (f group).id = group.id) :
    Relation.ReflTransGen Groups.Edit s.groupPart (s.editGroup gid f).groupPart := by
  cases hg : s.groups.get? gid with
  | none =>
    unfold editGroup getGroup
    rw [hg]
  | some group =>
    obtain ⟨hgid, hpos⟩ := hG.group gid group hg
    have hid : (f group).id = gid := (hf group).trans hgid
    rw [Consistent.editGroup_eq hg hid hpos]
    subst hid
    exact .single ⟨f group, group, hg, rfl⟩

lemma groupPart_addProfileToGroupIndex (s : ProfileManager B) (id gid : ℤ) :
    (s.addProfileToGroupIndex id gid).groupPart = s.groupPart := by
  unfold addProfileToGroupIndex
  split
  · rfl
  · rfl

lemma groupPart_removeProfileFromGroupIndex (s : ProfileManager B) (id gid : ℤ) :
    (s.removeProfileFromGroupIndex id gid).groupPart = s.groupPart := by
  unfold removeProfileFromGroupIndex
  split
  · rfl
  · rfl

lemma groupPart_deleteProfile {s : ProfileManager B} (hG : s.groupPart.Agrees) (id : ℤ) :
    Relation.ReflTransGen Groups.Edit s.groupPart (s.deleteProfile id).groupPart := by
  by_cases h : id < 0 ∨ s.dataStore.started_id = id
  · rw [Consistent.deleteProfile_of_running h]
  · cases hp : s.getProfile id with
    | none =>
      have heq : (s.deleteProfile id).groupPart = s.groupPart := by
        unfold deleteProfile
        rw [if_neg h, hp]
        rfl
      rw [heq]
    | some p =>
      have heq : (s.deleteProfile id).groupPart =
          (s.editGroup (s.objects p).gid fun group => withRemoved group id).groupPart := by
        unfold deleteProfile
        rw [if_neg h, hp]
        exact groupPart_removeProfileFromGroupIndex _ id (s.objects p).gid
      rw [heq]
      exact groupPart_editGroup hG _ fun _ => rfl

lemma groupPart_foldl_deleteProfile (ids : List ℤ) {s : ProfileManager B}
    (hG : s.groupPart.Agrees) :
    Relation.ReflTransGen Groups.Edit s.groupPart (ids.foldl deleteProfile s).groupPart := by
  induction ids generalizing s with
  | nil => exact .refl
  | cons id ids ih =>
    have hstep := groupPart_deleteProfile hG id
    exact hstep.trans (ih (hG.edits hstep).1)

/-- A group that has no identifier gets the next one. -/
lemma groupPart_addGroup {s : ProfileManager B} (hG : s.groupPart.Agrees) (group : Group) :
    (s.addGroup group).groupPart =
      if 0 ≤ group.id then s.groupPart
      else s.groupPart.append { group with id := s.groupPart.nextId } := by
  split_ifs with hid
  · unfold addGroup
    rw [if_pos hid]
  · rw [Consistent.addGroup_eq (not_le.1 hid) hG.nextId_nonneg]
    rfl

variable [AbstractBean B]

lemma groupPart_saveProfile (s : ProfileManager B) (p : Ref) :
    (s.saveProfile p).groupPart = s.groupPart := by
  have hrow : ∀ (t : ProfileManager B) (id : ℤ), (t.saveProfileToDb id).groupPart = t.groupPart := by
    intro t id
    unfold saveProfileToDb
    split
    · rfl
    · rfl
  unfold saveProfile
  dsimp only
  by_cases hid : (s.objects p).id < 0
  · rw [if_pos hid]
  · rw [if_neg hid, hrow]
    by_cases hstored : s.profiles.contains (s.objects p).id = true
    · rw [if_pos hstored]
      rfl
    · rw [if_neg hstored]
      exact groupPart_addProfileToGroupIndex ..

lemma groupPart_addProfile {s : ProfileManager B} (hG : s.groupPart.Agrees) (p : Ref) (gid : ℤ) :
    Relation.ReflTransGen Groups.Edit s.groupPart (s.addProfile p gid).groupPart := by
  unfold addProfile
  split_ifs
  · exact .refl
  · dsimp only
    rw [groupPart_saveProfile]
    have hedit : ∀ t : ProfileManager B, t.groupPart = s.groupPart → ∀ gid f,
        (∀ group : Group, (f group).id = group.id) →
          Relation.ReflTransGen Groups.Edit s.groupPart (t.editGroup gid f).groupPart := by
      intro t ht gid f hf
      rw [← ht] at hG ⊢
      exact groupPart_editGroup hG gid hf
    refine hedit _ ?_ _ _ fun _ => rfl
    exact groupPart_addProfileToGroupIndex ..

lemma groupPart_moveProfile {s : ProfileManager B} (hG : s.groupPart.Agrees) (p : Ref) (gid : ℤ) :
    Relation.ReflTransGen Groups.Edit s.groupPart (s.moveProfile p gid).groupPart := by
  unfold moveProfile
  dsimp only
  split_ifs
  · exact .refl
  · rw [groupPart_saveProfile, groupPart_addProfileToGroupIndex]
    set s₁ := s.editGroup (s.objects p).gid fun group =>
      { group with
        order := removeAll group.order (s.objects p).id
        toggle_proxy_ids := removeAll group.toggle_proxy_ids (s.objects p).id }
    have h₁ : Relation.ReflTransGen Groups.Edit s.groupPart s₁.groupPart :=
      groupPart_editGroup hG _ fun _ => rfl
    rw [← groupPart_removeProfileFromGroupIndex s₁ (s.objects p).id (s.objects p).gid] at h₁
    exact h₁.trans (groupPart_editGroup (hG.edits h₁).1 _ fun _ => rfl)

end ProfileManager

/-- Whether an operation adds a group. What has an identifier is not added. -/
def Op.addsGroup : Op B → Bool
  | .addGroup group => decide (group.id < 0)
  | _ => false

/-- **An operation keeps the groups in agreement, adds none but the next one, and leaves one.**

**Proof sketch.** Case by case over the operations: they replace groups, remove one of several, or append
one. -/
theorem Groups.Agrees.run [AbstractBean B] {s : ProfileManager B} (hG : s.groupPart.Agrees)
    {op : Op B} (hop : op.Allowed s) :
    (op.run s).groupPart.Agrees ∧
      (∀ gid ∈ (op.run s).groups.keys, gid ∈ s.groups.keys ∨
        op.addsGroup = true ∧ gid = s.groupPart.nextId) ∧
      (op.addsGroup = true → s.groupPart.nextId ∈ (op.run s).groups.keys) ∧
      (s.groups.keys ≠ [] → (op.run s).groups.keys ≠ []) := by
  have hedits : ∀ {G' : Groups}, Relation.ReflTransGen Groups.Edit s.groupPart G' →
      G'.Agrees ∧ G'.stored.keys = s.groups.keys := fun h => hG.edits h
  have hkept : ∀ t : ProfileManager B, t.groups.keys = s.groups.keys →
      (∀ gid ∈ t.groups.keys, gid ∈ s.groups.keys ∨
        op.addsGroup = true ∧ gid = s.groupPart.nextId) ∧
      (s.groups.keys ≠ [] → t.groups.keys ≠ []) := fun t ht =>
    ⟨fun gid h => .inl (ht ▸ h), fun h => ht ▸ h⟩
  cases op with
  | setDataStore dataStore =>
    obtain ⟨hmem, hne⟩ := hkept s rfl
    exact ⟨hG, hmem, fun h => absurd h Bool.false_ne_true, hne⟩
  | addProfile ent gid =>
    obtain ⟨hagrees, hkeys⟩ := hedits (ProfileManager.groupPart_addProfile
      (s := s.alloc ent) hG s.next gid)
    obtain ⟨hmem, hne⟩ := hkept _ hkeys
    exact ⟨hagrees, hmem, fun h => absurd h Bool.false_ne_true, hne⟩
  | saveProfile p ent =>
    have heq : (Op.run s (.saveProfile p ent)).groupPart = s.groupPart :=
      ProfileManager.groupPart_saveProfile ..
    obtain ⟨hmem, hne⟩ := hkept (Op.run s (.saveProfile p ent))
      (congrArg (fun G : Groups => G.stored.keys) heq)
    exact ⟨heq ▸ hG, hmem, fun h => absurd h Bool.false_ne_true, hne⟩
  | deleteProfile id =>
    obtain ⟨hagrees, hkeys⟩ := hedits (ProfileManager.groupPart_deleteProfile hG id)
    obtain ⟨hmem, hne⟩ := hkept _ hkeys
    exact ⟨hagrees, hmem, fun h => absurd h Bool.false_ne_true, hne⟩
  | moveProfile p gid =>
    obtain ⟨hagrees, hkeys⟩ := hedits (ProfileManager.groupPart_moveProfile hG p gid)
    obtain ⟨hmem, hne⟩ := hkept _ hkeys
    exact ⟨hagrees, hmem, fun h => absurd h Bool.false_ne_true, hne⟩
  | addGroup group =>
    have heq := ProfileManager.groupPart_addGroup hG group
    have hrun : Op.run s (.addGroup group) = s.addGroup group := rfl
    rw [hrun]
    by_cases hid : 0 ≤ group.id
    · rw [if_pos hid] at heq
      obtain ⟨hmem, hne⟩ := hkept (s.addGroup group)
        (congrArg (fun G : Groups => G.stored.keys) heq)
      exact ⟨heq ▸ hG, hmem, fun h => absurd (of_decide_eq_true h) (not_lt.2 hid), hne⟩
    · rw [if_neg hid] at heq
      obtain ⟨hagrees, hkeys⟩ := hG.append { group with id := s.groupPart.nextId } rfl
      have hstored : (s.addGroup group).groups.keys = s.groups.keys ++ [s.groupPart.nextId] :=
        (congrArg (fun G : Groups => G.stored.keys) heq).trans hkeys
      rw [hstored]
      refine ⟨heq ▸ hagrees, fun gid h => ?_, fun _ => ?_, fun _ => by simp⟩
      · rw [List.mem_append, List.mem_singleton] at h
        exact h.imp_right fun h => ⟨decide_eq_true (not_le.1 hid), h⟩
      · exact List.mem_append_right _ (List.mem_singleton_self _)
  | saveGroup group =>
    obtain ⟨⟨old, hold⟩, -⟩ := hop
    have hrun : (Op.run s (.saveGroup group)) = s.putGroup group.id group :=
      Consistent.editGroup_eq hold rfl (hG.group _ old hold).2
    obtain ⟨hagrees, hkeys⟩ := hedits (.single ⟨group, old, hold, rfl⟩)
    obtain ⟨hmem, hne⟩ := hkept (s.putGroup group.id group) hkeys
    rw [hrun]
    exact ⟨hagrees, hmem, fun h => absurd h Bool.false_ne_true, hne⟩
  | deleteGroup gid =>
    have hrun : Op.run s (.deleteGroup gid) = s.deleteGroup gid := rfl
    rw [hrun]
    by_cases hsize : s.groups.size ≤ 1
    · have heq : s.deleteGroup gid = s := by
        unfold ProfileManager.deleteGroup
        rw [if_pos hsize]
      obtain ⟨hmem, hne⟩ := hkept s rfl
      rw [heq]
      exact ⟨hG, hmem, fun h => absurd h Bool.false_ne_true, hne⟩
    · obtain ⟨hagrees, hkeys⟩ :=
        hG.edits (ProfileManager.groupPart_foldl_deleteProfile (s.groupProfileIdsOf gid) hG)
      obtain ⟨hagrees', hkeys'⟩ := hagrees.erase gid
      have hstored : (s.deleteGroup gid).groups.keys = removeAll s.groups.keys gid := by
        rw [Consistent.deleteGroup_eq hsize]
        exact hkeys'.trans (congrArg (removeAll · gid) hkeys)
      have hlen := Consistent.length_le_removeAll s.groups.nodup_keys gid
      rw [hstored]
      refine ⟨?_, fun x hx => .inl (Consistent.mem_removeAll.1 hx).1,
        fun h => absurd h Bool.false_ne_true, fun _ hnil => ?_⟩
      · rw [Consistent.deleteGroup_eq hsize]
        exact hagrees'
      · rw [hnil, OrdMap.length_keys] at hlen
        simp at hlen
        omega

/-! ### Loading -/

/-- What is read from the rows agrees with them. -/
lemma IsRead.groupAgrees [AbstractBean B] {db : Tables B} {t : ProfileManager B} (ht : IsRead db t)
    (hdb : ∀ (gid : ℤ) (row : Group), db.groups.get? gid = some row → 0 ≤ gid) :
    t.groupPart.Agrees ∧ t.groups.keys = db.groups.keys := by
  have hkeys : t.groups.keys = db.groups.keys :=
    OrdMap.keys_congr fun gid => by rw [ht.groups, Option.isSome_map]
  refine ⟨⟨?_, fun gid group hg => ?_, ?_⟩, hkeys⟩
  · have horder : t.groupPart.order = t.groups.keys := ht.groupsIdOrder
    rw [horder]
    exact t.groups.enumerates_keys
  · obtain ⟨row, hrow, rfl⟩ := ht.exists_groupRow hg
    exact ⟨rfl, hdb gid row hrow⟩
  · have hrows : t.groupPart.rows = db.groups := congrArg Tables.groups ht.tables
    rw [hrows]
    exact hkeys.symm

/-- Loading reads the groups, and adds one if there is none.

**Proof sketch.** The group that is added gets the identifier `0`. -/
lemma groupAgrees_loadStored [AbstractBean B] (s : ProfileManager B)
    (hdb : ∀ (gid : ℤ) (row : Group), s.db.groups.get? gid = some row → 0 ≤ gid) :
    s.loadStored.groupPart.Agrees ∧
      s.loadStored.groups.keys = if s.db.groups.keys = [] then [0] else s.db.groups.keys := by
  obtain ⟨t, hload, hread, -, -⟩ := isRead_loadFromSqlite s
  obtain ⟨index, hindex⟩ := rebuildGroupProfileIndex_frame t
  obtain ⟨hagrees, hkeys⟩ := hread.groupAgrees hdb
  have hpart : s.loadFromSqlite.groupPart = t.groupPart := by
    rw [hload, hindex]
    rfl
  have hgroups : s.loadFromSqlite.groups = t.groups := congrArg Groups.stored hpart
  have hnil : s.db.groups.keys = [] ↔ t.groups.size = 0 := by
    rw [← hkeys, ← OrdMap.length_keys, List.length_eq_zero_iff]
  unfold ProfileManager.loadStored
  obtain ⟨dataStore, heq, -⟩ := fixCurrentGroup_eq s.loadFromSqlite.ensureGroup
  rw [heq]
  have hfix : ∀ t : ProfileManager B,
      ProfileManager.groupPart { t with dataStore } = t.groupPart := fun _ => rfl
  have hensure : s.loadFromSqlite.ensureGroup.groupPart =
      if t.groups.size = 0 then t.groupPart.append { name := "Default", id := t.groupPart.nextId }
      else t.groupPart := by
    have hadd := ProfileManager.groupPart_addGroup (hpart ▸ hagrees) { name := "Default" }
    rw [if_neg (by decide), hpart] at hadd
    unfold ProfileManager.ensureGroup
    rw [hgroups, apply_ite ProfileManager.groupPart, hadd, hpart]
  have hstored : s.loadFromSqlite.ensureGroup.groups.keys =
      s.loadFromSqlite.ensureGroup.groupPart.stored.keys := rfl
  rw [hfix]
  dsimp only
  rw [hstored, hensure]
  by_cases hsize : t.groups.size = 0
  · obtain ⟨hagrees', hkeys'⟩ :=
      hagrees.append { name := "Default", id := t.groupPart.nextId } rfl
    have hnext : t.groupPart.nextId = 0 := if_pos hsize
    have hempty : t.groupPart.stored.keys = [] := hkeys.trans (hnil.2 hsize)
    rw [if_pos hsize, if_pos (hnil.2 hsize)]
    refine ⟨hagrees', ?_⟩
    rw [hkeys', hempty, hnext]
    rfl
  · rw [if_neg hsize, if_neg (mt hnil.1 hsize)]
    exact ⟨hagrees, hkeys⟩

end Proxor.Db
