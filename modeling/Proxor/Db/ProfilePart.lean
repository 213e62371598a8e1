import Proxor.Db.Loaded

set_option relaxedAutoImplicit false
set_option autoImplicit false

/-!
# The profiles apart from the groups

What the operations do to the profiles and their rows depends on the groups only where they say which
profiles to delete. So it can be said without them, also for a store whose groups are not consistent.

## Main definitions

* `Proxor.Db.Profiles` — the objects, the map of the profiles, its order, and the rows.
* `Proxor.Db.Profiles.Step` — what an operation can do to them.
* `Proxor.Db.Profiles.Agrees` — they agree.
* `Proxor.Db.Profiles.Gone` — an object that is no longer stored.

## Main results

* `Proxor.Db.ProfileManager.part_saveProfile` and its siblings — what each operation does to the
  profiles.
* `Proxor.Db.ProfileManager.part_run` — every operation takes such a step.
* `Proxor.Db.Profiles.Agrees.step` — every step keeps the profiles and their rows in agreement.
* `Proxor.Db.Profiles.Gone.step` — no step brings back what is gone.
-/

namespace Proxor.Db

variable {B : Type}

/-- The profiles apart from the groups. -/
structure Profiles (B : Type) where
  objects : Ref → ProxyEntity B
  next : Ref
  stored : OrdMap ℤ Ref
  order : List ℤ
  rows : OrdMap ℤ (ProxyEntity B)

namespace Profiles

/-- Change an object that is stored, or whose identifier is, and write the row of the identifier. -/
def put (P : Profiles B) (p q : Ref) (ent : ProxyEntity B) : Profiles B :=
  { P with
    objects := Function.update P.objects p ent
    rows := P.rows.insert ent.id (Function.update P.objects p ent q) }

/-- Store an object under its identifier. -/
def store (P : Profiles B) (p : Ref) (ent : ProxyEntity B) : Profiles B :=
  { P with
    objects := Function.update P.objects p ent
    stored := P.stored.insert ent.id p
    order := if ent.id ∈ P.order then P.order else sortIds (P.order ++ [ent.id])
    rows := P.rows.insert ent.id ent }

/-- Store an object under the next identifier. -/
def append (P : Profiles B) (p : Ref) (ent : ProxyEntity B) : Profiles B :=
  { P with
    objects := Function.update P.objects p ent
    stored := P.stored.insert ent.id p
    order := P.order ++ [ent.id]
    rows := P.rows.insert ent.id ent }

/-- Write the row of an identifier. -/
def write (P : Profiles B) (id : ℤ) : Profiles B :=
  match P.stored.get? id with
  | none => P
  | some p => { P with rows := P.rows.insert id (P.objects p) }

/-- Refresh an object. -/
def refresh [AbstractBean B] (P : Profiles B) (p : Ref) : Profiles B :=
  { P with objects := Function.update P.objects p (refreshed (P.objects p)) }

/-- Save an object. It is stored if its identifier is not; and otherwise the row of the identifier is
written for the object that is stored. -/
def save [AbstractBean B] (P : Profiles B) (p : Ref) : Profiles B :=
  if (P.objects p).id < 0 then P
  else match P.stored.get? (P.objects p).id with
    | some q => P.put p q (refreshed (P.objects p))
    | none => P.store p (refreshed (P.objects p))

/-- Remove an identifier. -/
def erase (P : Profiles B) (id : ℤ) : Profiles B :=
  { P with
    stored := P.stored.erase id
    order := removeAll P.order id
    rows := P.rows.erase id }

/-- The identifier after the greatest one. -/
def nextId (P : Profiles B) : ℤ := if P.stored.size = 0 then 0 else P.order.getLast?.getD 0 + 1

/-- A new object. -/
def alloc (P : Profiles B) (ent : ProxyEntity B) : Profiles B :=
  { P with objects := Function.update P.objects P.next ent, next := P.next + 1 }

/-- What an operation can do to the profiles, and whether it adds one. -/
inductive Step (P : Profiles B) : Bool → Profiles B → Prop where
  /-- Nothing. -/
  | same : Step P false P
  /-- A new object is not stored. -/
  | alloc (ent : ProxyEntity B) : Step P false (P.alloc ent)
  /-- A new object is stored under the next identifier. -/
  | append (new ent : ProxyEntity B) (hid : ent.id = P.nextId) :
    Step P true ((P.alloc new).append P.next ent)
  /-- A stored object is changed. -/
  | put (p : Ref) (ent : ProxyEntity B) (hp : P.stored.get? ent.id = some p) :
    Step P false (P.put p p ent)
  /-- Identifiers are removed. -/
  | erase (ids : List ℤ) : Step P false (ids.foldl erase P)

/-- The map, its order and the rows agree. -/
structure Agrees (R : Reading B) (P : Profiles B) : Prop where
  order : Enumerates P.order fun id => ∃ p, P.stored.get? id = some p
  profile : ∀ (id : ℤ) (p : Ref), P.stored.get? id = some p →
    (P.objects p).id = id ∧ 0 ≤ id ∧ p < P.next
  row : ∀ (id : ℤ) (p : Ref), P.stored.get? id = some p →
    ∃ row, P.rows.get? id = some row ∧ R.profile row (P.objects p)
  noRow : ∀ id : ℤ, P.stored.get? id = none → P.rows.get? id = none

end Profiles

namespace ProfileManager

/-- The profiles of a store. -/
def part (s : ProfileManager B) : Profiles B :=
  ⟨s.objects, s.next, s.profiles, s.profilesIdOrder, s.db.profiles⟩

/-! ### What the operations do to the profiles -/

lemma saveGroupToDb_frame (s : ProfileManager B) (id : ℤ) :
    (s.saveGroupToDb id).part = s.part ∧ (s.saveGroupToDb id).dataStore = s.dataStore := by
  unfold saveGroupToDb
  split
  · exact ⟨rfl, rfl⟩
  · exact ⟨rfl, rfl⟩

lemma saveGroup_frame (s : ProfileManager B) (ent : Group) :
    (s.saveGroup ent).part = s.part ∧ (s.saveGroup ent).dataStore = s.dataStore := by
  unfold saveGroup
  by_cases hid : ent.id < 0
  · rw [if_pos hid]
    exact ⟨rfl, rfl⟩
  · rw [if_neg hid]
    dsimp only
    by_cases hstored : s.groups.contains ent.id = true
    · rw [if_pos hstored]
      exact saveGroupToDb_frame s ent.id
    · rw [if_neg hstored]
      exact saveGroupToDb_frame _ ent.id

lemma editGroup_frame (s : ProfileManager B) (gid : ℤ) (f : Group → Group) :
    (s.editGroup gid f).part = s.part ∧ (s.editGroup gid f).dataStore = s.dataStore := by
  unfold editGroup
  split
  · exact ⟨rfl, rfl⟩
  · exact saveGroup_frame _ _

lemma addProfileToGroupIndex_frame (s : ProfileManager B) (id gid : ℤ) :
    (s.addProfileToGroupIndex id gid).part = s.part ∧
      (s.addProfileToGroupIndex id gid).dataStore = s.dataStore := by
  unfold addProfileToGroupIndex
  split
  · exact ⟨rfl, rfl⟩
  · exact ⟨rfl, rfl⟩

lemma removeProfileFromGroupIndex_frame (s : ProfileManager B) (id gid : ℤ) :
    (s.removeProfileFromGroupIndex id gid).part = s.part ∧
      (s.removeProfileFromGroupIndex id gid).dataStore = s.dataStore := by
  unfold removeProfileFromGroupIndex
  split
  · exact ⟨rfl, rfl⟩
  · exact ⟨rfl, rfl⟩

/-- A profile is removed unless it is running. -/
lemma part_deleteProfile (s : ProfileManager B) (id : ℤ) :
    (s.deleteProfile id).part =
      (if id < 0 ∨ s.dataStore.started_id = id then s.part else s.part.erase id) ∧
      (s.deleteProfile id).dataStore = s.dataStore := by
  unfold deleteProfile
  split_ifs with h
  · exact ⟨rfl, rfl⟩
  · dsimp only
    cases hp : s.getProfile id with
    | none => exact ⟨rfl, rfl⟩
    | some p =>
      dsimp only
      set s₁ := s.editGroup (s.objects p).gid fun group =>
        { group with
          toggle_proxy_ids := removeAll group.toggle_proxy_ids id
          order := removeAll group.order id } with hs₁
      have h₁ := editGroup_frame s (s.objects p).gid fun group =>
        { group with
          toggle_proxy_ids := removeAll group.toggle_proxy_ids id
          order := removeAll group.order id }
      have h₂ := removeProfileFromGroupIndex_frame s₁ id (s.objects p).gid
      have hpart := h₂.1.trans h₁.1
      have hdata := h₂.2.trans h₁.2
      refine ⟨?_, hdata⟩
      rw [← hpart]
      rfl

/-- The profiles of a group are removed, except the running one. -/
lemma part_foldl_deleteProfile (ids : List ℤ) (s : ProfileManager B) :
    (ids.foldl deleteProfile s).part =
      (ids.filter fun id => ¬ (id < 0 ∨ s.dataStore.started_id = id)).foldl Profiles.erase s.part ∧
      (ids.foldl deleteProfile s).dataStore = s.dataStore := by
  induction ids generalizing s with
  | nil => exact ⟨rfl, rfl⟩
  | cons id ids ih =>
    obtain ⟨hpart, hdata⟩ := part_deleteProfile s id
    obtain ⟨ihpart, ihdata⟩ := ih (s.deleteProfile id)
    rw [List.foldl_cons]
    refine ⟨?_, ihdata.trans hdata⟩
    rw [ihpart, hpart, hdata, List.filter_cons]
    split_ifs with h h' h'
    · exact absurd h (of_decide_eq_true h')
    · rfl
    · rfl
    · exact absurd (decide_eq_true h) h'

lemma part_deleteGroup (s : ProfileManager B) (gid : ℤ) :
    (s.deleteGroup gid).part =
      if s.groups.size ≤ 1 then s.part
      else ((s.groupProfileIdsOf gid).filter fun id =>
        ¬ (id < 0 ∨ s.dataStore.started_id = id)).foldl Profiles.erase s.part := by
  split_ifs with h
  · unfold deleteGroup
    rw [if_pos h]
  · rw [Consistent.deleteGroup_eq h]
    exact (part_foldl_deleteProfile _ s).1

lemma part_addGroup (s : ProfileManager B) (group : Group) : (s.addGroup group).part = s.part := by
  unfold addGroup
  split_ifs
  · rfl
  · dsimp only
    split_ifs
    · exact (saveGroup_frame _ _).1
    · exact (saveGroup_frame _ _).1

lemma part_saveProfileToDb (s : ProfileManager B) (id : ℤ) :
    (s.saveProfileToDb id).part = s.part.write id := by
  unfold saveProfileToDb Profiles.write
  cases hp : s.profiles.get? id with
  | none =>
    have hp' : s.part.stored.get? id = none := hp
    rw [hp']
  | some p =>
    have hp' : s.part.stored.get? id = some p := hp
    rw [hp']
    rfl

variable [AbstractBean B]

/-- Saving an object. -/
lemma part_saveProfile (s : ProfileManager B) (p : Ref) : (s.saveProfile p).part = s.part.save p := by
  have hobj : s.part.objects p = s.objects p := rfl
  have hget : ∀ id, s.part.stored.get? id = s.profiles.get? id := fun _ => rfl
  unfold saveProfile Profiles.save
  rw [hobj, hget]
  dsimp only
  by_cases hid : (s.objects p).id < 0
  · rw [if_pos hid, if_pos hid]
  · rw [if_neg hid, if_neg hid, part_saveProfileToDb]
    cases hq : s.profiles.get? (s.objects p).id with
    | some q =>
      have hq' : (s.part.refresh p).stored.get? (s.objects p).id = some q := hq
      have hpart : (s.refreshSummaryFromBean p).part = s.part.refresh p := rfl
      rw [if_pos (by simp [OrdMap.contains, hq]), hpart, Profiles.write, hq']
      rfl
    | none =>
      rw [if_neg (by simp [OrdMap.contains, hq])]
      have hindex := (addProfileToGroupIndex_frame { s.refreshSummaryFromBean p with
        profiles := s.profiles.insert (s.objects p).id p
        profilesIdOrder := if (s.objects p).id ∈ s.profilesIdOrder then s.profilesIdOrder
          else sortIds (s.profilesIdOrder ++ [(s.objects p).id]) } (s.objects p).id
            ((s.refreshSummaryFromBean p).objects p).gid).1
      have hrefresh : ∀ t : ProfileManager B, (t.refreshSummaryFromBean p).part = t.part.refresh p :=
        fun t => rfl
      rw [hrefresh]
      refine (congrArg (fun P : Profiles B => (P.refresh p).write (s.objects p).id) hindex).trans ?_
      unfold Profiles.refresh Profiles.write part refreshSummaryFromBean
      simp only [OrdMap.get?_insert_self, Function.update_self, Function.update_idem]
      rfl

/-- An edited object whose identifier is stored. -/
lemma save_edited_of_stored (P : Profiles B) (p q : Ref) (ent : ProxyEntity B) (hpos : 0 ≤ ent.id)
    (hq : P.stored.get? ent.id = some q) :
    Profiles.save { P with objects := Function.update P.objects p ent } p =
      P.put p q (refreshed ent) := by
  unfold Profiles.save
  simp only [Function.update_self]
  rw [if_neg (not_lt.2 hpos), hq]
  unfold Profiles.put
  simp only [Function.update_idem]

/-- An edited object whose identifier is free. -/
lemma save_edited_of_free (P : Profiles B) (p : Ref) (ent : ProxyEntity B) (hpos : 0 ≤ ent.id)
    (hfree : P.stored.get? ent.id = none) :
    Profiles.save { P with objects := Function.update P.objects p ent } p =
      P.store p (refreshed ent) := by
  unfold Profiles.save
  simp only [Function.update_self]
  rw [if_neg (not_lt.2 hpos), hfree]
  unfold Profiles.store
  simp only [Function.update_idem]

/-- A new object is stored under the next identifier. -/
lemma part_addProfile (s : ProfileManager B) (p : Ref) (gid : ℤ) (hnext : 0 ≤ s.part.nextId) :
    (s.addProfile p gid).part =
      if 0 ≤ (s.objects p).id then s.part else s.part.append p (s.added p gid) := by
  unfold addProfile
  split_ifs with hid
  · rfl
  · dsimp only
    rw [part_saveProfile, (editGroup_frame _ _ _).1, (addProfileToGroupIndex_frame _ _ _).1]
    have hid' : ¬ (s.added p gid).id < 0 := not_lt.2 hnext
    unfold Profiles.save part refreshSummaryFromBean
    simp only [Function.update_self, Function.update_idem]
    refine (if_neg hid').trans ?_
    rw [OrdMap.get?_insert_self]
    unfold Profiles.put Profiles.append
    simp only [Function.update_self, Function.update_idem]
    rfl

/-- A stored profile gets another group. -/
lemma part_moveProfile (s : ProfileManager B) {p : Ref} (gid : ℤ) (hid : 0 ≤ (s.objects p).id)
    (hp : s.profiles.get? (s.objects p).id = some p) :
    (s.moveProfile p gid).part =
      if gid = (s.objects p).gid ∨ gid < 0 then s.part
      else s.part.put p p (refreshed { s.objects p with gid }) := by
  unfold moveProfile
  dsimp only
  split_ifs with hgid
  · rfl
  · rw [part_saveProfile, (addProfileToGroupIndex_frame _ _ _).1]
    set s₁ := s.editGroup (s.objects p).gid fun group =>
      { group with
        order := removeAll group.order (s.objects p).id
        toggle_proxy_ids := removeAll group.toggle_proxy_ids (s.objects p).id }
    have h₁ : s₁.part = s.part := (editGroup_frame ..).1
    have h₂ := (removeProfileFromGroupIndex_frame s₁ (s.objects p).id (s.objects p).gid).1.trans h₁
    set s₂ := s₁.removeProfileFromGroupIndex (s.objects p).id (s.objects p).gid
    set s₃ := s₂.editGroup gid fun group =>
      { group with
        order := if group.order = [] then [] else group.order ++ [(s.objects p).id]
        toggle_proxy_ids :=
          if group.toggle_proxy_ids = [] then [(s.objects p).id] else group.toggle_proxy_ids }
    have h₃ : s₃.part = s.part := (editGroup_frame ..).1.trans h₂
    have hobj : s₃.objects = s.objects := congrArg Profiles.objects h₃
    have hstored : s₃.profiles = s.profiles := congrArg Profiles.stored h₃
    have hpart : part { s₃ with
        objects := Function.update s₃.objects p { s₃.objects p with gid } } =
        { s.part with objects := Function.update s.objects p { s.objects p with gid } } := by
      rw [← h₃, ← hobj]
      rfl
    refine (congrArg (fun P => Profiles.save P p) hpart).trans ?_
    exact save_edited_of_stored s.part p p { s.objects p with gid } hid hp

end ProfileManager

/-! ### The profiles stay in agreement -/

namespace Profiles.Agrees

variable {R : Reading B} {P : Profiles B}

/-- What is stored under an identifier has it. -/
lemma eq_of_ref (hP : Agrees R P) {id id' : ℤ} {p : Ref} (h : P.stored.get? id = some p)
    (h' : P.stored.get? id' = some p) : id = id' :=
  (hP.profile id p h).1.symm.trans (hP.profile id' p h').1

lemma lt_nextId (hP : Agrees R P) {id : ℤ} {p : Ref} (h : P.stored.get? id = some p) :
    id < P.nextId := by
  have hsize : P.stored.size ≠ 0 := fun hzero => by
    rw [OrdMap.size_eq_zero] at hzero
    exact absurd (hzero id) (by simp [h])
  unfold Profiles.nextId
  rw [if_neg hsize]
  exact Int.lt_add_one_of_le (hP.order.le_getLast ⟨p, h⟩ 0)

lemma nextId_nonneg (hP : Agrees R P) : 0 ≤ P.nextId := by
  by_cases hsize : P.stored.size = 0
  · exact (if_pos hsize).ge
  · obtain ⟨id, p, hp⟩ := P.stored.exists_get? hsize
    exact (hP.profile id p hp).2.1.trans (hP.lt_nextId hp).le

/-- An object is changed, and the row of its identifier is written. -/
lemma put (hP : Agrees R P) {p q : Ref} {ent : ProxyEntity B} (hq : P.stored.get? ent.id = some q)
    (hid : ∀ id, P.stored.get? id = some p → ent.id = id) : Agrees R (P.put p q ent) := by
  have hother : ∀ (id : ℤ) (r : Ref), P.stored.get? id = some r → id ≠ ent.id → r ≠ p := by
    rintro id r hr hne rfl
    exact hne (hid id hr).symm
  refine { hP with
    profile := fun id r hr => ?_
    row := fun id r hr => ?_
    noRow := fun id h => ?_ }
  · obtain ⟨hrid, hpos, hlt⟩ := hP.profile id r hr
    refine ⟨?_, hpos, hlt⟩
    unfold Profiles.put
    dsimp only
    by_cases hrp : r = p
    · subst hrp
      rw [Function.update_self]
      exact hid id hr
    · rw [Function.update_of_ne hrp]
      exact hrid
  · unfold Profiles.put
    dsimp only
    by_cases heq : id = ent.id
    · subst heq
      obtain rfl := Option.some.inj (hq.symm.trans hr)
      rw [OrdMap.get?_insert_self]
      exact ⟨_, rfl, R.profile_refl _⟩
    · rw [OrdMap.get?_insert_of_ne _ _ heq, Function.update_of_ne (hother id r hr heq)]
      exact hP.row id r hr
  · unfold Profiles.put
    dsimp only
    rw [OrdMap.get?_insert_of_ne]
    · exact hP.noRow id h
    · rintro rfl
      exact absurd (h.symm.trans hq) (by simp)

/-- An object is stored. -/
lemma insert (hP : Agrees R P) {p : Ref} {ent : ProxyEntity B} {order : List ℤ}
    (hpos : 0 ≤ ent.id) (hlt : p < P.next) (hp : ∀ id, P.stored.get? id ≠ some p)
    (horder : Enumerates order fun id => (∃ q, P.stored.get? id = some q) ∨ id = ent.id) :
    Agrees R { P with
      objects := Function.update P.objects p ent
      stored := P.stored.insert ent.id p
      order
      rows := P.rows.insert ent.id ent } := by
  have hget : ∀ (id : ℤ) (q : Ref), (P.stored.insert ent.id p).get? id = some q →
      id = ent.id ∧ q = p ∨ id ≠ ent.id ∧ q ≠ p ∧ P.stored.get? id = some q := by
    intro id q hq
    rw [OrdMap.get?_insert] at hq
    split_ifs at hq with hid
    · exact .inl ⟨hid, (Option.some.inj hq).symm⟩
    · exact .inr ⟨hid, fun h => hp id (h ▸ hq), hq⟩
  refine {
    order := horder.congr fun id => ?_
    profile := fun id q hq => ?_
    row := fun id q hq => ?_
    noRow := fun id h => ?_ }
  · rw [OrdMap.get?_insert]
    by_cases hid : id = ent.id
    · simp [hid]
    · simp [hid]
  · dsimp only
    rcases hget id q hq with ⟨rfl, rfl⟩ | ⟨-, hqp, hq⟩
    · rw [Function.update_self]
      exact ⟨rfl, hpos, hlt⟩
    · rw [Function.update_of_ne hqp]
      exact hP.profile id q hq
  · dsimp only
    rcases hget id q hq with ⟨rfl, rfl⟩ | ⟨hid, hqp, hq⟩
    · rw [OrdMap.get?_insert_self, Function.update_self]
      exact ⟨ent, rfl, R.profile_refl ent⟩
    · rw [OrdMap.get?_insert_of_ne _ _ hid, Function.update_of_ne hqp]
      exact hP.row id q hq
  · dsimp only at h ⊢
    rw [OrdMap.get?_insert] at h ⊢
    split_ifs at h ⊢
    exact hP.noRow id h

/-- An object is stored under the next identifier. -/
lemma append (hP : Agrees R P) {p : Ref} {ent : ProxyEntity B} (hid : ent.id = P.nextId)
    (hlt : p < P.next) (hp : ∀ id, P.stored.get? id ≠ some p) : Agrees R (P.append p ent) := by
  refine hP.insert (hid ▸ hP.nextId_nonneg) hlt hp (hP.order.concat fun id h => ?_)
  obtain ⟨q, hq⟩ := h
  exact hid ▸ hP.lt_nextId hq

/-- An object is stored under its own identifier. -/
lemma store (hP : Agrees R P) {p : Ref} {ent : ProxyEntity B}
    (hpos : 0 ≤ ent.id) (hlt : p < P.next) (hp : ∀ id, P.stored.get? id ≠ some p) :
    Agrees R (P.store p ent) :=
  hP.insert hpos hlt hp (enumerates_add hP.order ent.id)

/-- An identifier is removed. -/
lemma erase (hP : Agrees R P) (id : ℤ) : Agrees R (P.erase id) := by
  have hget : ∀ x q, (P.stored.erase id).get? x = some q → x ≠ id ∧ P.stored.get? x = some q := by
    intro x q hq
    rw [OrdMap.get?_erase] at hq
    split_ifs at hq with hx
    exact ⟨hx, hq⟩
  refine {
    order := (Consistent.enumerates_removeAll hP.order id).congr fun x => ?_
    profile := fun x q hq => hP.profile x q (hget x q hq).2
    row := fun x q hq => ?_
    noRow := fun x h => ?_ }
  · unfold Profiles.erase
    dsimp only
    rw [OrdMap.get?_erase]
    by_cases hx : x = id
    · simp [hx]
    · simp [hx]
  · obtain ⟨hx, hq⟩ := hget x q hq
    unfold Profiles.erase
    dsimp only
    rw [OrdMap.get?_erase_of_ne _ hx]
    exact hP.row x q hq
  · unfold Profiles.erase at h ⊢
    dsimp only at h ⊢
    rw [OrdMap.get?_erase] at h ⊢
    split_ifs at h ⊢
    · rfl
    · exact hP.noRow x h

/-- Identifiers are removed. -/
lemma foldl_erase (ids : List ℤ) (hP : Agrees R P) : Agrees R (ids.foldl Profiles.erase P) := by
  induction ids generalizing P with
  | nil => exact hP
  | cons id ids ih => exact ih (hP.erase id)

/-- A new object is not stored. -/
lemma alloc (hP : Agrees R P) (ent : ProxyEntity B) : Agrees R (P.alloc ent) := by
  have hobj : ∀ (id : ℤ) (p : Ref), P.stored.get? id = some p →
      (P.alloc ent).objects p = P.objects p := fun id p hp =>
    Function.update_of_ne (Nat.ne_of_lt (hP.profile id p hp).2.2) ..
  refine { hP with
    profile := fun id p hp => ?_
    row := fun id p hp => ?_ }
  · obtain ⟨hid, hpos, hlt⟩ := hP.profile id p hp
    rw [hobj id p hp]
    exact ⟨hid, hpos, Nat.lt_succ_of_lt hlt⟩
  · rw [hobj id p hp]
    exact hP.row id p hp

/-- **Every step keeps the profiles and their rows in agreement.** -/
theorem step (hP : Agrees R P) {adds : Bool} {P' : Profiles B} (h : Step P adds P') :
    Agrees R P' := by
  cases h with
  | same => exact hP
  | alloc ent => exact hP.alloc ent
  | append new ent hid =>
    refine (hP.alloc new).append hid (Nat.lt_succ_self _) fun id h => ?_
    exact absurd (hP.profile id _ h).2.2 (lt_irrefl _)
  | put p ent hp => exact hP.put hp fun id h => hP.eq_of_ref hp h
  | erase ids => exact hP.foldl_erase ids

end Profiles.Agrees

/-- In a consistent store they agree. -/
lemma Consistent.agrees {R : Reading B} {s : ProfileManager B} (hs : Consistent R s) :
    s.part.Agrees R :=
  ⟨hs.profilesIdOrder, hs.profile, hs.row, hs.noRow⟩

/-! ### What is gone -/

/-- Nothing is stored under the identifier of an object any more, nor was it ever. -/
def Profiles.Gone (P : Profiles B) (p : Ref) : Prop := p < P.next ∧ ∀ id, P.stored.get? id ≠ some p

lemma Profiles.Gone.foldl_erase {P : Profiles B} {p : Ref} (hp : P.Gone p) (ids : List ℤ) :
    (ids.foldl Profiles.erase P).Gone p := by
  induction ids generalizing P with
  | nil => exact hp
  | cons id ids ih =>
    refine ih ⟨hp.1, fun x hx => ?_⟩
    unfold Profiles.erase at hx
    dsimp only at hx
    rw [OrdMap.get?_erase] at hx
    split_ifs at hx
    exact hp.2 x hx

/-- A step keeps the identifiers of the objects. -/
lemma Profiles.Step.keeps {R : Reading B} {P P' : Profiles B} {adds : Bool} (h : Step P adds P')
    (hP : P.Agrees R) {p : Ref} (hp : p < P.next) : p < P'.next ∧ (P'.objects p).id = (P.objects p).id := by
  cases h with
  | same => exact ⟨hp, rfl⟩
  | alloc ent =>
    exact ⟨Nat.lt_succ_of_lt hp, congrArg ProxyEntity.id (Function.update_of_ne (Nat.ne_of_lt hp) ..)⟩
  | append new ent hid =>
    refine ⟨Nat.lt_succ_of_lt hp, congrArg ProxyEntity.id ?_⟩
    exact (Function.update_of_ne (Nat.ne_of_lt hp) ..).trans
      (Function.update_of_ne (Nat.ne_of_lt hp) ..)
  | put q ent hq =>
    refine ⟨hp, ?_⟩
    unfold Profiles.put
    dsimp only
    by_cases hpq : p = q
    · subst hpq
      rw [Function.update_self]
      exact (hP.profile _ p hq).1.symm
    · rw [Function.update_of_ne hpq]
  | erase ids =>
    have hfold : ∀ (ids : List ℤ) (P : Profiles B), (ids.foldl Profiles.erase P).next = P.next ∧
        (ids.foldl Profiles.erase P).objects = P.objects := by
      intro ids
      induction ids with
      | nil => exact fun P => ⟨rfl, rfl⟩
      | cons id ids ih => exact fun P => ih (P.erase id)
    obtain ⟨hnext, hobj⟩ := hfold ids P
    rw [hnext, hobj]
    exact ⟨hp, rfl⟩

/-- **No step brings back what is gone.** -/
theorem Profiles.Gone.step {P P' : Profiles B} {adds : Bool} {p : Ref} (hp : P.Gone p)
    (h : Step P adds P') : P'.Gone p := by
  have hinsert : ∀ (q : Ref) (id : ℤ), q ≠ p → ∀ x, (P.stored.insert id q).get? x ≠ some p := by
    intro q id hq x hx
    rw [OrdMap.get?_insert] at hx
    split_ifs at hx
    · exact hq (Option.some.inj hx)
    · exact hp.2 x hx
  cases h with
  | same => exact hp
  | alloc ent => exact ⟨Nat.lt_succ_of_lt hp.1, hp.2⟩
  | append new ent hid =>
    exact ⟨Nat.lt_succ_of_lt hp.1, hinsert _ _ (Nat.ne_of_lt hp.1).symm⟩
  | put q ent hq => exact hp
  | erase ids =>
    exact hp.foldl_erase ids

/-! ### Operations -/

/-- Whether an operation adds a profile. What has an identifier is not added. -/
def Op.addsProfile : Op B → Bool
  | .addProfile ent _ => decide (ent.id < 0)
  | _ => false

/-- **Every operation takes such a step**, also on a store whose groups are not consistent.

**Proof sketch.** Case by case over the operations. What is saved or moved is stored, so it is changed in
place. -/
theorem ProfileManager.part_run [AbstractBean B] {R : Reading B} {s : ProfileManager B}
    (hP : s.part.Agrees R) {op : Op B} (hop : op.Allowed s) :
    Profiles.Step s.part op.addsProfile (op.run s).part := by
  cases op with
  | setDataStore dataStore => exact .same
  | addProfile ent gid =>
    have halloc : (s.alloc ent).part.Agrees R := hP.alloc ent
    unfold Op.run
    dsimp only
    have hself : (s.alloc ent).objects s.next = ent := Function.update_self ..
    rw [part_addProfile _ _ _ halloc.nextId_nonneg, hself]
    unfold Op.addsProfile
    dsimp only
    split_ifs with hid
    · rw [decide_eq_false (not_lt.2 hid)]
      exact .alloc ent
    · rw [decide_eq_true (not_le.1 hid)]
      exact .append ent _ rfl
  | saveProfile p ent =>
    obtain ⟨hp, -⟩ := hop
    have hsave : Profiles.save { s.part with objects := Function.update s.objects p ent } p =
        s.part.put p p (refreshed ent) := 
      save_edited_of_stored s.part p p ent (hP.profile _ p hp).2.1 hp
    unfold Op.run
    dsimp only
    rw [ProfileManager.part_saveProfile]
    exact hsave ▸ .put p (refreshed ent) hp
  | deleteProfile id =>
    unfold Op.run
    dsimp only
    rw [(ProfileManager.part_deleteProfile s id).1]
    split_ifs
    · exact .same
    · exact .erase [id]
  | moveProfile p gid =>
    obtain ⟨hp, -⟩ := hop
    unfold Op.run
    dsimp only
    rw [ProfileManager.part_moveProfile s gid (hP.profile _ p hp).2.1 hp]
    split_ifs
    · exact .same
    · exact .put p _ hp
  | addGroup group =>
    unfold Op.run
    dsimp only
    rw [ProfileManager.part_addGroup]
    exact .same
  | saveGroup group =>
    unfold Op.run
    dsimp only
    rw [(ProfileManager.editGroup_frame ..).1]
    exact .same
  | deleteGroup gid =>
    unfold Op.run
    dsimp only
    rw [ProfileManager.part_deleteGroup]
    split_ifs
    · exact .same
    · exact .erase _

/-! ### Loading -/

/-- What is read from the rows agrees with them. -/
lemma IsRead.agrees [AbstractBean B] {db : Tables B} {t : ProfileManager B} (ht : IsRead db t)
    (hdb : ∀ (id : ℤ) (row : ProxyEntity B), db.profiles.get? id = some row → 0 ≤ id) :
    t.part.Agrees .reads := by
  refine ⟨?_, fun id p hp => ?_, fun id p hp => ?_, fun id hid => ?_⟩
  · have horder : t.part.order = t.profiles.keys := ht.profilesIdOrder
    rw [horder]
    exact t.profiles.enumerates_keys
  · obtain ⟨row, hrow, hobj⟩ := ht.exists_row hp
    have hobj' : t.part.objects p = loadProxyEntity id row := hobj
    rw [hobj']
    exact ⟨rfl, hdb id row hrow, ht.next id p hp⟩
  · obtain ⟨row, hrow, hobj⟩ := ht.exists_row hp
    have hobj' : t.part.objects p = loadProxyEntity id row := hobj
    refine ⟨row, ?_, .inr ?_⟩
    · exact (congrArg (fun db : Tables B => db.profiles.get? id) ht.tables).trans hrow
    · rw [hobj']
      rfl
  · have hrows : t.part.rows = db.profiles := congrArg Tables.profiles ht.tables
    rw [hrows]
    by_contra hrow
    obtain ⟨row, hrow⟩ := Option.ne_none_iff_exists'.1 hrow
    obtain ⟨p, hp, -⟩ := ht.profile id row hrow
    exact absurd (hid.symm.trans hp) (by simp)

/-- Loading reads the profiles, also where the groups are not consistent. -/
lemma part_loadStored [AbstractBean B] (s : ProfileManager B) :
    ∃ t : ProfileManager B, IsRead s.db t ∧ s.loadStored.part = t.part := by
  obtain ⟨t, hload, hread, -, -⟩ := isRead_loadFromSqlite s
  obtain ⟨index, hindex⟩ := rebuildGroupProfileIndex_frame t
  refine ⟨t, hread, ?_⟩
  unfold ProfileManager.loadStored
  obtain ⟨dataStore, heq, -⟩ := fixCurrentGroup_eq s.loadFromSqlite.ensureGroup
  have hpart : s.loadFromSqlite.part = t.part := by
    rw [hload, hindex]
    rfl
  rw [heq, ← hpart]
  have hensure : s.loadFromSqlite.ensureGroup.part = s.loadFromSqlite.part := by
    unfold ProfileManager.ensureGroup
    split_ifs
    · exact ProfileManager.part_addGroup _ _
    · rfl
  exact hensure

end Proxor.Db
