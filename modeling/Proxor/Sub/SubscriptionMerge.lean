import Proxor.Sub.Merge

set_option relaxedAutoImplicit false
set_option autoImplicit false

/-!
# What an update is for

After an update the group has what the subscription says, in its order, and what the group had before is
kept. This is so if no two entries of the subscription have the same identity, and the running profile
of the group, which is not deleted, is one that is kept.

## Main definitions

* `Proxor.Sub.Merged` — the group has what the subscription says.
* `Proxor.Sub.Mergeable` — when it will.

## Main results

* `Proxor.Sub.update_merges_iff` — an update merges exactly then, and another one changes nothing.
* `Proxor.Sub.not_update_merges` — an entry that is there twice.
-/

namespace Proxor.Sub

open Db

variable {B : Type} [AbstractBean B]

/-- The identity of a stored profile. -/
def identityOf (s : ProfileManager B) (id : ℤ) : Option String :=
  (s.profiles.get? id).map fun p => AbstractBean.metadataStrippedIdentity (s.objects p).bean

/-- The group has what the subscription says: `order` is its order after the update. -/
structure Merged (s s' : ProfileManager B) (gid : ℤ) (remote : List (Parsed B)) (order : List ℤ) :
    Prop where
  nodup : order.Nodup
  /-- It lists the profiles of the group. -/
  lists : ∀ id, id ∈ order ↔ s'.gidOf id = some gid
  /-- It reads as the subscription does, with repeats removed. -/
  identities : order.map (identityOf s') = ((remote.map Parsed.identity).eraseDups).map some
  /-- What the group had is kept as it was. -/
  keeps : ∀ e ∈ remote, (∃ id, s.Holds gid e.identity id) →
    ∃ id ∈ order, ∃ p, s.Holds gid e.identity id ∧ s.profiles.get? id = some p ∧
      s'.profiles.get? id = some p ∧ s'.objects p = s.objects p

/-- Nothing is added, deleted, or in another place. -/
structure Unchanged (s s' : ProfileManager B) (gid : ℤ) (order : List ℤ) : Prop where
  profiles : ∀ id, s'.profiles.get? id = s.profiles.get? id
  objects : ∀ (id : ℤ) (p : Ref), s.profiles.get? id = some p → s'.objects p = s.objects p
  order : ∃ group, s'.groups.get? gid = some group ∧ group.order = order

/-- No two entries have the same identity, and the running profile of the group is the last one with the
identity of an entry. -/
def Mergeable (s : ProfileManager B) (gid : ℤ) (remote : List (Parsed B)) : Prop :=
  (remote.map Parsed.identity).Nodup ∧
    (s.gidOf s.dataStore.started_id = some gid →
      ∃ e ∈ remote, s.IsLatest gid e.identity s.dataStore.started_id)

section Merging

variable {R : Reading B} {s s' s'' : ProfileManager B} {gid : ℤ} {remote : List (Parsed B)}
  {order order' : List ℤ}

lemma identityOf_of_holds {k : String} {id : ℤ} (h : s.Holds gid k id) :
    identityOf s id = some k ∧ s.gidOf id = some gid := by
  obtain ⟨p, hp, hgid, hkey⟩ := h
  refine ⟨?_, ProfileManager.gidOf_eq_some.2 ⟨p, hp, hgid⟩⟩
  rw [identityOf, hp, Option.map_some, hkey]

/-- The new order reads as the subscription does. -/
lemma Merges.map_identityOf (h : Merges R s s' gid remote order) :
    order.map (identityOf s') = remote.map (some ∘ Parsed.identity) := by
  have heq : List.Forall₂ (fun e id => some (Parsed.identity e) = identityOf s' id) remote order :=
    h.entries.imp fun e id hid => (identityOf_of_holds hid.1).1.symm
  rw [← List.forall₂_eq_eq_eq, List.forall₂_map_left_iff, List.forall₂_map_right_iff]
  exact heq.flip.imp fun id e hid => hid.symm

omit [AbstractBean B] in
/-- Nothing is removed exactly if there are no repeats.

**Proof sketch.** By induction on the list: if nothing is removed, the first element does not come
again. -/
lemma eraseDups_eq_self {l : List String} : l.eraseDups = l ↔ l.Nodup := by
  induction l with
  | nil => exact ⟨fun _ => List.nodup_nil, fun _ => rfl⟩
  | cons a l ih =>
    have hfilter : a ∉ l → (l.filter fun b => !b == a) = l := by
      intro hmem
      refine List.filter_eq_self.2 fun b hb => ?_
      have hne : b ≠ a := fun h => hmem (h ▸ hb)
      simpa using hne
    rw [List.eraseDups_cons, List.nodup_cons]
    constructor
    · intro h
      have htail := (List.cons.inj h).2
      have hmem : a ∉ l := by
        intro hmem
        rw [← htail, List.mem_eraseDups, List.mem_filter] at hmem
        simp at hmem
      rw [hfilter hmem] at htail
      exact ⟨hmem, ih.1 htail⟩
    · rintro ⟨hmem, hl⟩
      rw [hfilter hmem, ih.2 hl]

/-- **When the group has what the subscription says.** -/
theorem Merges.merged_iff (h : Merges R s s' gid remote order) :
    Merged s s' gid remote order ↔ Mergeable s gid remote := by
  have hmap := h.map_identityOf
  constructor
  · intro hmerged
    constructor
    · have heq := hmap.symm.trans hmerged.identities
      rw [← List.map_map] at heq
      exact eraseDups_eq_self.1 ((List.map_injective_iff.2 (Option.some_injective _)) heq).symm
    · intro hrun
      obtain ⟨p, hp, hgid⟩ := ProfileManager.gidOf_eq_some.1 hrun
      have hp' : s'.profiles.get? s.dataStore.started_id = some p :=
        (h.stored _ p hp).2 fun _ => .inr rfl
      have hmem : s.dataStore.started_id ∈ order := by
        refine (hmerged.lists _).2 (ProfileManager.gidOf_eq_some.2 ⟨p, hp', ?_⟩)
        rw [h.objects _ p hp, hgid]
      obtain ⟨e, he, -, hlatest | ⟨-, hnone⟩⟩ := exists_left h.entries hmem
      · exact ⟨e, he, hlatest⟩
      · exact absurd (hnone.symm.trans hp) (by simp)
  · rintro ⟨hnodup, hrunning⟩
    have hnodup' : (order.map (identityOf s')).Nodup := by
      rw [hmap, ← List.map_map]
      exact hnodup.map (Option.some_injective _)
    refine ⟨hnodup'.of_map _, fun id => ⟨fun hid => ?_, fun hid => ?_⟩, ?_, fun e he hold => ?_⟩
    · obtain ⟨e, -, hholds, -⟩ := exists_left h.entries hid
      exact (identityOf_of_holds hholds).2
    · obtain ⟨p, hp, hgid⟩ := ProfileManager.gidOf_eq_some.1 hid
      rcases h.added id p hp with hp' | ⟨-, hmem⟩
      · rw [h.objects id p hp'] at hgid
        have hgidOf := ProfileManager.gidOf_eq_some.2 ⟨p, hp', hgid⟩
        rcases (h.stored id p hp').1 hp hgidOf with hmem | rfl
        · exact hmem
        · obtain ⟨e, he, hlatest⟩ := hrunning hgidOf
          obtain ⟨id, hmem, -, hlatest' | ⟨hnot, -⟩⟩ := exists_right h.entries he
          · have heq := le_antisymm (hlatest.2 id hlatest'.1) (hlatest'.2 _ hlatest.1)
            exact heq ▸ hmem
          · exact absurd hlatest.1 (hnot _)
      · exact hmem
    · rw [hmap, eraseDups_eq_self.2 hnodup, List.map_map]
    · obtain ⟨id, hmem, -, hlatest | ⟨hnot, -⟩⟩ := exists_right h.entries he
      · obtain ⟨p, hp, -⟩ := hlatest.1
        exact ⟨_, hmem, p, hlatest.1, hp, (h.stored _ p hp).2 fun _ => .inl hmem, h.objects _ p hp⟩
      · obtain ⟨id', hold⟩ := hold
        exact absurd hold (hnot id')

/-- **Another update changes nothing.**

**Proof sketch.** Each entry finds its own profile, since no other profile of the group has its
identity. -/
theorem Merges.unchanged (h : Merges R s s' gid remote order) (hmerged : Merged s s' gid remote order)
    (hnodup : (remote.map Parsed.identity).Nodup) (h' : Merges R s' s'' gid remote order') :
    Unchanged s' s'' gid order := by
  have hnodup' : (order.map (identityOf s')).Nodup := by
    rw [h.map_identityOf, ← List.map_map]
    exact hnodup.map (Option.some_injective _)
  have hunique : ∀ (e : Parsed B) (id id' : ℤ), s'.Holds gid e.identity id →
      s'.Holds gid e.identity id' → id = id' := by
    intro e id id' hid hid'
    obtain ⟨hkey, hgid⟩ := identityOf_of_holds hid
    obtain ⟨hkey', hgid'⟩ := identityOf_of_holds hid'
    exact List.inj_on_of_nodup_map hnodup' ((hmerged.lists id).2 hgid) ((hmerged.lists id').2 hgid')
      (hkey.trans hkey'.symm)
  have horder : order = order' := by
    have hentries : List.Forall₂ (fun e id => s'.Holds gid (Parsed.identity e) id) remote order :=
      h.entries.imp fun e id hid => hid.1
    refine List.right_unique_forall₂' ?_ hentries (imp_of_mem h'.entries ?_)
    · exact fun e id id' => hunique e id id'
    · rintro e id he - ⟨-, hlatest | ⟨hnot, -⟩⟩
      · exact hlatest.1
      · obtain ⟨id', -, hholds⟩ := exists_right hentries he
        exact absurd hholds (hnot id')
  obtain ⟨group, hgroup, hgorder⟩ := h'.group
  refine ⟨fun id => ?_, h'.objects, group, hgroup, hgorder.trans horder.symm⟩
  cases hp : s'.profiles.get? id with
  | some p =>
    refine (h'.stored id p hp).2 fun hgid => .inl ?_
    rw [← horder]
    exact (hmerged.lists id).2 hgid
  | none =>
    cases hp' : s''.profiles.get? id with
    | none => rfl
    | some p =>
      rcases h'.added id p hp' with hold | ⟨-, hmem⟩
      · exact absurd (hp.symm.trans hold) (by simp)
      · rw [← horder] at hmem
        obtain ⟨q, hq, -⟩ := ProfileManager.gidOf_eq_some.1 ((hmerged.lists id).1 hmem)
        exact absurd (hp.symm.trans hq) (by simp)

/-- An update with a body is what is done with it. -/
lemma update_eq_updateGroup {rd : Reader B} {httpGet : String → Response} {now : ℤ} {str : String}
    {not_sub_as_url : Bool} {group : Db.Group} (hg : s.groups.get? gid = some group)
    (harchive : group.archive = false) {content : String} {headers : Option Headers}
    (hbody : download rd httpGet (Text.trimSpace str) (decide (0 ≤ gid) || not_sub_as_url)
      (some group) = some (content, headers)) :
    update rd httpGet now s str gid not_sub_as_url = updateGroup rd now s gid content headers := by
  have hg' : s.getGroup gid = some group := hg
  unfold update
  dsimp only
  rw [hg']
  dsimp only
  rw [harchive, hbody]
  rfl

/-- What an update is for: the group has what the subscription says, and another update with the same
body changes nothing. -/
structure UpdateMerges (rd : Reader B) (s s' : ProfileManager B) (gid : ℤ) (content : String) :
    Prop where
  group : ∃ group, s'.groups.get? gid = some group
  merged : ∀ group, s'.groups.get? gid = some group →
    Merged s s' gid (rd.parsed content) group.order
  again : ∀ (group : Db.Group) (httpGet : String → Response) (now : ℤ) (str : String)
    (not_sub_as_url : Bool) (headers : Option Headers), s'.groups.get? gid = some group →
      download rd httpGet (Text.trimSpace str) (decide (0 ≤ gid) || not_sub_as_url) (some group) =
        some (content, headers) →
      Unchanged s' (update rd httpGet now s' str gid not_sub_as_url) gid group.order

/-- **An update merges exactly if it can.** The body of the update of a group that is not archived is
read with any number of entries.

**Proof sketch.** The update merges in the sense of `Merges`, with the order that is in the group
afterwards. -/
theorem update_merges_iff {rd : Reader B} {httpGet : String → Response} {now : ℤ} {str : String}
    {not_sub_as_url : Bool} {group : Db.Group} (hs : Consistent R s)
    (hg : s.groups.get? gid = some group) (harchive : group.archive = false)
    (hclear : s.dataStore.sub_clear = false) (hrunning : RunningStored s) {content : String}
    {headers : Option Headers}
    (hbody : download rd httpGet (Text.trimSpace str) (decide (0 ≤ gid) || not_sub_as_url)
      (some group) = some (content, headers)) :
    UpdateMerges rd s (update rd httpGet now s str gid not_sub_as_url) gid content ↔
      Mergeable s gid (rd.parsed content) := by
  rw [update_eq_updateGroup hg harchive hbody]
  obtain ⟨order, h⟩ := merges_updateGroup hs hg hclear hrunning rd now content headers
  set s' := updateGroup rd now s gid content headers
  obtain ⟨group', hgroup', rfl⟩ := h.group
  have hiff := h.merged_iff
  constructor
  · exact fun hupdate => hiff.1 (hupdate.merged group' hgroup')
  · intro hmergeable
    have hmerged := hiff.2 hmergeable
    refine ⟨⟨group', hgroup'⟩, fun group'' hgroup'' => ?_, ?_⟩
    · obtain rfl := Option.some.inj (hgroup'.symm.trans hgroup'')
      exact hmerged
    · intro group'' httpGet' now' str' not_sub_as_url' headers' hgroup'' hbody'
      obtain rfl := Option.some.inj (hgroup'.symm.trans hgroup'')
      by_cases harchive' : group'.archive = true
      · have hsame : update rd httpGet' now' s' str' gid not_sub_as_url' = s' := by
          have hg' : s'.getGroup gid = some group' := hgroup'
          unfold update
          dsimp only
          rw [hg']
          exact if_pos harchive'
        rw [hsame]
        exact ⟨fun _ => rfl, fun _ _ _ => rfl, group', hgroup', rfl⟩
      · rw [update_eq_updateGroup hgroup' (by simpa using harchive') hbody']
        have hclear' : s'.dataStore.sub_clear = false := h.dataStore ▸ hclear
        have hrunning' : RunningStored s' := by
          intro hpos
          rw [h.dataStore] at hpos ⊢
          obtain ⟨p, hp⟩ := hrunning hpos
          exact ⟨p, (h.stored _ p hp).2 fun _ => .inr rfl⟩
        obtain ⟨order', h'⟩ := merges_updateGroup h.consistent hgroup' hclear' hrunning' rd now'
          content headers'
        exact h.unchanged hmerged hmergeable.1 h'

end Merging

/-! ### Updates among the operations -/

section Reaching

variable {s : ProfileManager B} {gid : ℤ}

/-- Deleting profiles is an operation after the other. -/
lemma reachable_foldl_deleteProfile (ids : List ℤ) (hs : Reachable s) :
    Reachable (ids.foldl ProfileManager.deleteProfile s) := by
  induction ids generalizing s with
  | nil => exact hs
  | cons id ids ih =>
    have hdelete : Reachable (Op.run s (.deleteProfile id)) := hs.op trivial trivial
    exact ih hdelete

/-- So is adding entries. -/
lemma reachable_foldl_add (entries : List (Parsed B)) {u : RawUpdater B} (hu : Reachable u.store) :
    Reachable (entries.foldl RawUpdater.add u).store := by
  induction entries generalizing u with
  | nil => exact hu
  | cons e entries ih =>
    have hadd : Reachable (Op.run u.store (.addProfile (newProxyEntity e) u.gid_add_to)) :=
      hu.op trivial trivial
    exact @ih (u.add e) hadd

/-- And changing a stored group, as long as its lists name its profiles. -/
lemma reachable_editGroup (hs : Reachable s) {group : Db.Group} (hg : s.groups.get? gid = some group)
    {f : Db.Group → Db.Group} (hid : (f group).id = gid)
    (hlists : ∀ id ∈ (f group).order ++ (f group).toggle_proxy_ids, s.gidOf id = some gid) :
    Reachable (s.editGroup gid f) := by
  have hedit : s.editGroup gid f = s.editGroup gid fun _ => f group := by
    unfold ProfileManager.editGroup ProfileManager.getGroup
    rw [hg]
  have hsave : Op.Allowed s (.saveGroup (f group)) :=
    ⟨⟨group, hid.symm ▸ hg⟩, hid.symm ▸ hlists⟩
  have hreach : Reachable (s.editGroup (f group).id fun _ => f group) := hs.op hsave trivial
  rw [hedit, ← hid]
  exact hreach

/-- What is done with a body is a sequence of operations.

**Proof sketch.** The group is saved, perhaps profiles are deleted, the entries are added, and if the
group was not cleared, it is saved again and profiles are deleted. -/
lemma reachable_updateGroup (hs : Reachable s) {group : Db.Group}
    (hg : s.groups.get? gid = some group) (rd : Reader B) (now : ℤ) (content : String)
    (headers : Option Headers) : Reachable (updateGroup rd now s gid content headers) := by
  obtain ⟨hid, hpos⟩ := hs.consistent.group gid group hg
  obtain ⟨hpid, htoggle⟩ := prepared_id now headers group
  have hs₀ : Reachable (s.editGroup gid (prepared now headers)) := by
    refine reachable_editGroup hs hg (hpid.trans hid) fun id hmem => ?_
    rw [htoggle] at hmem
    exact hs.consistent.order gid group hg id (List.mem_append_right _ hmem)
  cases hclear : s.dataStore.sub_clear with
  | false =>
    obtain ⟨order, horders, hupdate⟩ := updateGroup_orders hs.consistent hg hclear rd now content
      headers
    rw [hupdate]
    have hs₁ : Reachable (rd.update { gid_add_to := gid, store := s.editGroup gid (prepared now headers) }
        content).store := by
      rw [rd.update_eq]
      exact reachable_foldl_add _ hs₀
    set s₁ := (rd.update { gid_add_to := gid, store := s.editGroup gid (prepared now headers) }
      content).store
    obtain ⟨group₁, hg₁⟩ := horders.group
    have hid₁ := (hs₁.consistent.group gid group₁ hg₁).1
    have hs₂ : Reachable (s₁.editGroup gid fun group => { group with order }) := by
      refine reachable_editGroup hs₁ hg₁ hid₁ fun id hmem => ?_
      rcases List.mem_append.1 hmem with hmem | hmem
      · exact horders.gidOf hmem
      · exact hs₁.consistent.order gid group₁ hg₁ id (List.mem_append_right _ hmem)
    have hg₂ : (s₁.editGroup gid fun group => { group with order }).groups.get? gid =
        some { group₁ with order } := by
      rw [Consistent.editGroup_eq hg₁ hid₁ hpos]
      exact OrdMap.get?_insert_self ..
    rw [foldl_cleanup_eq hs₂.consistent hg₂]
    exact reachable_foldl_deleteProfile _ hs₂
  | true =>
    rw [updateGroup_clears hs.consistent hg hclear, rd.update_eq]
    exact reachable_foldl_add _ (reachable_foldl_deleteProfile _ hs₀)

/-- **An update is a sequence of operations.** A store is reachable after an update of one of its groups. -/
theorem reachable_update (hs : Reachable s) {group : Db.Group} (hg : s.groups.get? gid = some group)
    (rd : Reader B) (httpGet : String → Response) (now : ℤ) (str : String) (not_sub_as_url : Bool) :
    Reachable (update rd httpGet now s str gid not_sub_as_url) := by
  have hg' : s.getGroup gid = some group := hg
  unfold update
  dsimp only
  rw [hg']
  dsimp only
  split_ifs with harchive
  · exact hs
  · cases download rd httpGet (Text.trimSpace str) (decide (0 ≤ gid) || not_sub_as_url) (some group) with
    | none => exact hs
    | some answer => exact reachable_updateGroup hs hg rd now answer.1 answer.2

end Reaching

/-! ### An update -/

open Fmt in
/-- A reader of bodies that are lists of servers. -/
def serversReader (servers : List (Parsed ChainBean)) : Reader ChainBean where
  decodeB64IfValid _ := ""
  length_decode _ h := absurd rfl h
  clash _ := []
  sip008 _ := some servers
  link _ := none
  isHttpUrl _ := false

/-- What it reads of a body that is no Clash document. -/
lemma parsed_serversReader (servers : List (Parsed Fmt.ChainBean)) {content : String}
    (h : Text.contains content "proxies:" = false) :
    (serversReader servers).parsed content = servers := by
  have hdecode : ¬ (serversReader servers).decodeB64IfValid content ≠ "" := fun h => h rfl
  rw [Reader.parsed, dif_neg hdecode, h]
  rfl

lemma reachable_freshStore : Reachable freshStore.loadManager := .load sound_freshStore rfl

/-- One entry is merged into an empty group. -/
theorem update_merges_iff_freshStore :
    UpdateMerges (serversReader [⟨"chain", {}⟩]) freshStore.loadManager
        (update (serversReader [⟨"chain", {}⟩]) (fun _ => { data := "servers" }) 0
          freshStore.loadManager "url" 0 false) 0 "servers" ↔
      Mergeable freshStore.loadManager 0 ((serversReader [⟨"chain", {}⟩]).parsed "servers") :=
  @update_merges_iff _ _ _ _ _ _ _ _ _ false _ reachable_freshStore.consistent rfl rfl rfl
    (fun h => absurd h (by decide)) _ _ rfl

/-- An entry that is there twice is in the order twice. -/
theorem not_update_merges :
    ¬ ∀ (rd : Reader Fmt.ChainBean) (httpGet : String → Response) (now : ℤ) (str : String)
      (s : ProfileManager Fmt.ChainBean) (gid : ℤ) (group : Db.Group) (content : String)
      (headers : Option Headers), Reachable s → s.groups.get? gid = some group →
        group.archive = false → s.dataStore.sub_clear = false → RunningStored s →
        download rd httpGet (Text.trimSpace str) true (some group) = some (content, headers) →
        rd.parsed content ≠ [] →
        UpdateMerges rd s (update rd httpGet now s str gid false) gid content := by
  intro h
  have hparsed : (serversReader [⟨"chain", {}⟩, ⟨"chain", {}⟩]).parsed "servers" =
      [⟨"chain", {}⟩, ⟨"chain", {}⟩] := parsed_serversReader _ (by decide)
  have hrunning : RunningStored freshStore.loadManager := fun h => absurd h (by decide)
  have hupdate := h (serversReader [⟨"chain", {}⟩, ⟨"chain", {}⟩]) (fun _ => { data := "servers" }) 0
    "url" freshStore.loadManager 0 _ _ _ reachable_freshStore rfl rfl rfl hrunning rfl
    (by rw [hparsed]; exact List.cons_ne_nil _ _)
  rw [update_eq_updateGroup rfl rfl rfl] at hupdate
  have hg : freshStore.loadManager.groups.get? 0 = some { id := 0, name := "Default" } := rfl
  obtain ⟨order, hmerges⟩ := merges_updateGroup reachable_freshStore.consistent hg rfl hrunning
    (serversReader [⟨"chain", {}⟩, ⟨"chain", {}⟩]) 0 "servers" (some {})
  obtain ⟨group, hgroup, rfl⟩ := hmerges.group
  have hmergeable := hmerges.merged_iff.1 (hupdate.merged group hgroup)
  rw [hparsed] at hmergeable
  exact absurd hmergeable.1 (by simp)

end Proxor.Sub
