import Proxor.Sub.SubscriptionMerge

set_option relaxedAutoImplicit false
set_option autoImplicit false

/-!
# An update that fails

The parser tells nobody that it failed: a body that is no subscription is one without entries, and a
document that throws half way is one with the entries up to there. The order of the group has been
cleared before, and what is not in the new one is deleted.

## Main definitions

* `Proxor.Sub.Harmless` — the group has the profiles it had, in the order it had.
* `Proxor.Sub.NothingToLose` — when an update leaves it so.

## Main results

* `Proxor.Sub.update_harmless_iff` — an update is harmless exactly then.
* `Proxor.Sub.not_update_harmless` — an error page and a group with a profile.
-/

namespace Proxor.Sub

open Db

variable {B : Type}

/-- The group has the profiles it had, under their identifiers, and is displayed as it was. -/
structure Harmless (s s' : ProfileManager B) (gid : ℤ) : Prop where
  profiles : ∀ (id : ℤ) (p : Ref), s'.profiles.get? id = some p ∧ (s'.objects p).gid = gid ↔
    s.profiles.get? id = some p ∧ (s.objects p).gid = gid
  objects : ∀ (id : ℤ) (p : Ref), s.profiles.get? id = some p → s'.objects p = s.objects p
  displayed : s'.shownIds gid = s.shownIds gid

/-- A body without entries finds at most the running profile in the group; the entries of another one are
what is displayed, and what is not displayed is running. -/
def NothingToLose [AbstractBean B] (s : ProfileManager B) (gid : ℤ) (remote : List (Parsed B)) :
    Prop :=
  (remote = [] ∧ (∀ id, s.gidOf id = some gid → id = s.dataStore.started_id) ∧
      (s.shownIds gid).Nodup) ∨
    (remote ≠ [] ∧ s.dataStore.sub_clear = false ∧
      List.Forall₂ (fun e id => s.IsLatest gid (Parsed.identity e) id) remote (s.shownIds gid) ∧
      ∀ id, s.gidOf id = some gid → id ∈ s.shownIds gid ∨ id = s.dataStore.started_id)

section Displayed

variable {R : Reading B} {s s' : ProfileManager B} {gid : ℤ} {group : Db.Group}

/-- A group with an order is displayed in it. -/
lemma shownIds_of_order (hg : s.groups.get? gid = some group) (horder : group.order ≠ []) :
    s.shownIds gid = group.order := by
  unfold ProfileManager.shownIds
  rw [hg]
  exact if_neg horder

/-- A group without an order shows its profiles in the order of their identifiers. -/
lemma enumerates_shownIds (hs : Coherent R s) (hg : s.groups.get? gid = some group)
    (horder : group.order = []) : Enumerates (s.shownIds gid) fun id => s.gidOf id = some gid := by
  obtain ⟨ids, hids, hen⟩ := hs.index gid group hg
  unfold ProfileManager.shownIds
  rw [hg]
  dsimp only
  rw [if_pos horder, Consistent.groupProfileIdsOf_eq hids]
  exact hen

/-- A group that has at most the running profile and shows nothing twice shows its profiles in the order
of their identifiers. -/
lemma enumerates_shownIds_of_running (hs : Coherent R s) (hg : s.groups.get? gid = some group)
    {started : ℤ} (hall : ∀ id, s.gidOf id = some gid → id = started)
    (hnodup : (s.shownIds gid).Nodup) :
    Enumerates (s.shownIds gid) fun id => s.gidOf id = some gid := by
  by_cases horder : group.order = []
  · exact enumerates_shownIds hs hg horder
  · have hshown : ∀ id ∈ s.shownIds gid, id = started := fun id hid =>
      hall id (hs.gidOf_of_mem_shownIds hid)
    refine ⟨hnodup.imp_of_mem fun {a b} ha hb hne => ?_, fun id => ?_⟩
    · exact absurd ((hshown a ha).trans (hshown b hb).symm) hne
    · refine ⟨hs.gidOf_of_mem_shownIds, fun hid => ?_⟩
      obtain ⟨x, hx⟩ := List.exists_mem_of_ne_nil _ horder
      rw [← shownIds_of_order hg horder] at hx
      rw [hall id hid, ← hshown x hx]
      exact hx

/-- Of a body without entries the running profile is left. -/
lemma harmless_iff_of_empty (hs : Consistent R s) (hg : s.groups.get? gid = some group)
    (hs' : Consistent R s') {group' : Db.Group} (hg' : s'.groups.get? gid = some group')
    (horder : group'.order = [])
    (hobjects : ∀ (id : ℤ) (p : Ref), s.profiles.get? id = some p → s'.objects p = s.objects p)
    (hprofiles : ∀ (id : ℤ) (p : Ref), s'.profiles.get? id = some p ↔
      s.profiles.get? id = some p ∧ (s.gidOf id = some gid → s.dataStore.started_id = id)) :
    Harmless s s' gid ↔ (∀ id, s.gidOf id = some gid → id = s.dataStore.started_id) ∧
      (s.shownIds gid).Nodup := by
  have hen := enumerates_shownIds hs'.toCoherent hg' horder
  constructor
  · intro h
    refine ⟨fun id hid => ?_, h.displayed ▸ hen.nodup⟩
    obtain ⟨p, hp, hgid⟩ := ProfileManager.gidOf_eq_some.1 hid
    exact (((hprofiles id p).1 ((h.profiles id p).2 ⟨hp, hgid⟩).1).2 hid).symm
  · rintro ⟨hall, hnodup⟩
    have hsame : ∀ id p, s'.profiles.get? id = some p ∧ (s'.objects p).gid = gid ↔
        s.profiles.get? id = some p ∧ (s.objects p).gid = gid := by
      intro id p
      rw [hprofiles, and_assoc]
      refine and_congr_right fun hp => ?_
      rw [hobjects id p hp]
      refine and_iff_right_of_imp fun hgid hid => ?_
      exact (hall id hid).symm
    refine ⟨hsame, hobjects, ?_⟩
    refine hen.unique ((enumerates_shownIds_of_running hs.toCoherent hg hall hnodup).congr ?_)
    intro id
    rw [ProfileManager.gidOf_eq_some, ProfileManager.gidOf_eq_some]
    exact exists_congr fun p => (hsame id p).symm

end Displayed

variable [AbstractBean B]

section Failing

variable {R : Reading B} {s s' : ProfileManager B} {gid : ℤ} {group : Db.Group}
  {remote : List (Parsed B)} {order : List ℤ}

/-- When an update that merges is harmless.

**Proof sketch.** The new order is what is displayed, unless it is empty. -/
lemma Merges.harmless_iff (hs : Consistent R s) (hg : s.groups.get? gid = some group)
    (hclear : s.dataStore.sub_clear = false) (h : Merges R s s' gid remote order) :
    Harmless s s' gid ↔ NothingToLose s gid remote := by
  obtain ⟨group', hg', rfl⟩ := h.group
  by_cases hremote : remote = []
  · subst hremote
    have horder : group'.order = [] := List.forall₂_nil_left_iff.1 h.entries
    rw [harmless_iff_of_empty hs hg h.consistent hg' horder h.objects fun id p => ?_]
    · exact ⟨fun hall => .inl ⟨rfl, hall⟩, fun hlose => (hlose.resolve_right fun hne => hne.1 rfl).2⟩
    · constructor
      · intro hp
        rcases h.added id p hp with hold | ⟨-, hmem⟩
        · refine ⟨hold, fun hgid => ?_⟩
          exact ((h.stored id p hold).1 hp hgid).resolve_left (horder ▸ List.not_mem_nil)
        · exact absurd hmem (horder ▸ List.not_mem_nil)
      · exact fun hp => (h.stored id p hp.1).2 fun hgid => .inr (hp.2 hgid)
  · have horder : group'.order ≠ [] := by
      intro hnil
      have hentries := h.entries
      rw [hnil, List.forall₂_nil_right_iff] at hentries
      exact hremote hentries
    have hshown := shownIds_of_order hg' horder
    constructor
    · intro hharmless
      refine .inr ⟨hremote, hclear, ?_, fun id hid => ?_⟩
      · rw [← hharmless.displayed, hshown]
        refine h.entries.imp ?_
        rintro e id ⟨⟨p, hp, hgid, -⟩, hlatest | ⟨-, hnone⟩⟩
        · exact hlatest
        · have hold := ((hharmless.profiles id p).1 ⟨hp, hgid⟩).1
          exact absurd (hnone.symm.trans hold) (by simp)
      · obtain ⟨p, hp, hgid⟩ := ProfileManager.gidOf_eq_some.1 hid
        rw [← hharmless.displayed, hshown]
        exact ((h.stored id p hp).1 ((hharmless.profiles id p).2 ⟨hp, hgid⟩).1 hid).imp_right Eq.symm
    · rintro (hempty | ⟨-, -, hentries, hrest⟩)
      · exact absurd hempty.1 hremote
      · have heq : group'.order = s.shownIds gid := by
          refine List.right_unique_forall₂' ?_ (imp_of_mem h.entries ?_) hentries
          · exact fun e id id' hid hid' => le_antisymm (hid'.2 id hid.1) (hid.2 id' hid'.1)
          · rintro e id he - ⟨-, hlatest | ⟨hnot, -⟩⟩
            · exact hlatest
            · obtain ⟨id', -, hlatest⟩ := exists_right hentries he
              exact absurd hlatest.1 (hnot id')
        refine ⟨fun id p => ⟨?_, ?_⟩, h.objects, hshown.trans heq⟩
        · rintro ⟨hp, hgid⟩
          rcases h.added id p hp with hold | ⟨hnone, hmem⟩
          · exact ⟨hold, by rw [← h.objects id p hold, hgid]⟩
          · obtain ⟨q, hq, -⟩ := ProfileManager.gidOf_eq_some.1
              (hs.gidOf_of_mem_shownIds (heq ▸ hmem))
            exact absurd (hnone.symm.trans hq) (by simp)
        · rintro ⟨hp, hgid⟩
          refine ⟨(h.stored id p hp).2 fun hid => ?_, by rw [h.objects id p hp, hgid]⟩
          rw [heq]
          exact (hrest id hid).imp_right Eq.symm

/-- When an update that clears the group is harmless.

**Proof sketch.** What was in the group is deleted, but for the running profile, and an entry is a new
profile. -/
lemma harmless_cleared_iff (hs : Consistent R s) (hg : s.groups.get? gid = some group)
    (hclear : s.dataStore.sub_clear = true) (rd : Reader B) (now : ℤ) (content : String)
    (headers : Option Headers) :
    Harmless s (updateGroup rd now s gid content headers) gid ↔
      NothingToLose s gid (rd.parsed content) := by
  obtain ⟨hprepared, hs₀⟩ := prepared_spec hs hg now headers
  set s₀ := s.putGroup gid (prepared now headers group) with hs₀_def
  have hg₀ : s₀.groups.get? gid = some (prepared now headers group) := OrdMap.get?_insert_self ..
  obtain ⟨hs₁, hdel⟩ := Deletes.foldl_deleteProfile
    ((s.groupProfiles gid).map fun p => (s₀.objects p).id) hs₀
  have hupdate := updateGroup_clears hs hg hclear rd now content headers
  rw [hprepared] at hupdate
  set s₁ := ((s.groupProfiles gid).map fun p => (s₀.objects p).id).foldl
    ProfileManager.deleteProfile s₀
  obtain ⟨group₁, hg₁, horder₁⟩ := hdel.group gid _ hg₀ fun id hid => absurd hid List.not_mem_nil
  obtain ⟨refs, -, hs', hadds⟩ :=
    @adds_foldl B _ R (rd.parsed content) { gid_add_to := gid, store := s₁ } hs₁ _ hg₁
  rw [← rd.update_eq] at hs' hadds
  rw [hupdate]
  set s' := (rd.update { gid_add_to := gid, store := s₁ } content).store
  dsimp only at hadds
  have hold : ∀ (id : ℤ) (p : Ref), s₁.profiles.get? id = some p ↔ s.profiles.get? id = some p ∧
      (s.gidOf id = some gid → s.dataStore.started_id = id) := by
    intro id p
    refine (hdel.profiles id p).trans (and_congr_right fun _ => ?_)
    have hmem := @mem_map_groupProfiles B R s gid group hs.toCoherent hg id
    exact (not_congr (and_congr_left fun _ => hmem)).trans (by tauto)
  by_cases hremote : rd.parsed content = []
  · rw [hremote] at hadds ⊢
    obtain rfl := List.forall₂_nil_left_iff.1 hadds.entries
    obtain ⟨toggle, hg'⟩ := hadds.group _ hg₁
    rw [harmless_iff_of_empty hs hg hs' hg' horder₁ (fun id p hp => ?_) fun id p => ?_]
    · exact ⟨fun hall => .inl ⟨rfl, hall⟩, fun hlose => (hlose.resolve_right fun hne => hne.1 rfl).2⟩
    · have hlt : p < s₁.next := by
        rw [hdel.next]
        exact (hs.profile id p hp).2.2
      rw [hadds.objects p hlt, hdel.objects]
      rfl
    · rw [← hold]
      exact ⟨fun hp => (hadds.added id p hp).resolve_right List.not_mem_nil, hadds.kept id p⟩
  · constructor
    · intro hharmless
      obtain ⟨e, he⟩ := List.exists_mem_of_ne_nil _ hremote
      obtain ⟨r, -, ⟨hle, -⟩, hstored, hgid, -⟩ := exists_right hadds.entries he
      have hp := ((hharmless.profiles _ r).1 ⟨hstored, hgid⟩).1
      rw [hdel.next] at hle
      exact absurd hle (not_le.2 (hs.profile _ r hp).2.2)
    · rintro (hempty | ⟨-, hclear', -⟩)
      · exact absurd hempty.1 hremote
      · exact absurd (hclear.symm.trans hclear') (by simp)

end Failing

/-! ### An error page -/

end Proxor.Sub
