import Proxor.Db.ProfileManager

set_option relaxedAutoImplicit false
set_option autoImplicit false

/-!
# Where a configuration looks up identifiers

A configuration is built for a chain of servers: the profile, or the profiles of its chain, and the
front proxy of its group. Direct sites are chosen by the identifiers of the profile and of its group.

## Main definitions

* `Proxor.Db.ProfileManager.buildChain` — the servers of `BuildChain`, or its error.
* `Proxor.Db.ProfileManager.directSites` — the sites of `direct_site_rules` that apply.

## Main results

* `Proxor.Db.ProfileManager.buildChain_front_missing`,
  `Proxor.Db.ProfileManager.buildChain_chain_missing` — what is not stored is an error.
-/

namespace Proxor.Db

variable {B : Type}

namespace ProfileManager

/-- The profiles of these identifiers, which may not be chains. -/
def resolveIds (s : ProfileManager B) : List ℤ → Except String (List Ref)
  | [] => .ok []
  | id :: ids =>
    match s.getProfile id with
    | none => .error ("chain missing ent: " ++ toString id)
    | some p =>
      if (s.objects p).type = "chain" then
        .error ("chain in chain is not allowed: " ++ toString id)
      else (s.resolveIds ids).map fun resolved => p :: resolved

/-- `resolveChain`: a chain from out to in, or the profile itself. -/
def resolveChain [AbstractBean B] (s : ProfileManager B) (p : Ref) : Except String (List Ref) :=
  if (s.objects p).type = "chain" then s.resolveIds (AbstractBean.list (s.objects p).bean).reverse
  else .ok [p]

/-- The servers of `BuildChain`, the front proxy last. -/
def buildChain [AbstractBean B] (s : ProfileManager B) (p : Ref) : Except String (List Ref) :=
  match s.getGroup (s.objects p).gid with
  | none => .error "This profile is not in any group, your data may be corrupted."
  | some group =>
    (s.resolveChain p).bind fun ents =>
      if 0 ≤ group.front_proxy_id then
        match s.getProfile group.front_proxy_id with
        | none => .error "front proxy ent not found."
        | some front => (s.resolveChain front).map fun resolved => ents ++ resolved
      else .ok ents

/-- `QChar::isSpace`. -/
def isSpace (c : Char) : Bool :=
  (9 ≤ c.toNat && c.toNat ≤ 13) || c.toNat == 32 || c.toNat == 133 || c.toNat == 160 ||
    c.toNat == 5760 || (8192 ≤ c.toNat && c.toNat ≤ 8202) || c.toNat == 8232 || c.toNat == 8233 ||
    c.toNat == 8239 || c.toNat == 8287 || c.toNat == 12288

/-- `QString::trimmed`. -/
def trimmed (s : String) : String :=
  String.ofList ((s.toList.dropWhile isSpace).reverse.dropWhile isSpace).reverse

/-- The direct sites of the rules that name the group of a profile, or the profile. -/
def directSites (rules : List DirectSiteRule) (gid id : ℤ) : List String :=
  (rules.filter fun rule => decide (gid ∈ rule.groups ∨ id ∈ rule.profiles)).flatMap fun rule =>
    (rule.sites.map trimmed).filter fun site => site ≠ ""

/-! ### What is not stored -/

lemma resolveIds_missing {s : ProfileManager B} {ids : List ℤ} {id : ℤ} (hid : id ∈ ids)
    (hmissing : s.profiles.get? id = none) : ∃ error, s.resolveIds ids = .error error := by
  induction ids with
  | nil => exact absurd hid List.not_mem_nil
  | cons x ids ih =>
    unfold resolveIds
    cases hx : s.getProfile x with
    | none => exact ⟨_, rfl⟩
    | some p =>
      dsimp only
      split_ifs
      · exact ⟨_, rfl⟩
      · rcases List.mem_cons.1 hid with rfl | hid
        · exact absurd (hmissing.symm.trans hx) (by simp)
        · obtain ⟨error, herror⟩ := ih hid
          rw [herror]
          exact ⟨error, rfl⟩

variable [AbstractBean B]

/-- A front proxy that is not stored is an error. -/
theorem buildChain_front_missing {s : ProfileManager B} {p : Ref} {group : Group}
    (hgroup : s.groups.get? (s.objects p).gid = some group) (hfront : 0 ≤ group.front_proxy_id)
    (hmissing : s.profiles.get? group.front_proxy_id = none) :
    ∃ error, s.buildChain p = .error error := by
  unfold buildChain getGroup getProfile
  rw [hgroup]
  dsimp only
  rw [hmissing]
  cases s.resolveChain p with
  | error error => exact ⟨error, rfl⟩
  | ok ents => exact ⟨_, if_pos hfront⟩

/-- A profile of a chain that is not stored is an error. -/
theorem buildChain_chain_missing {s : ProfileManager B} {p : Ref} {id : ℤ}
    (htype : (s.objects p).type = "chain") (hid : id ∈ AbstractBean.list (s.objects p).bean)
    (hmissing : s.profiles.get? id = none) : ∃ error, s.buildChain p = .error error := by
  unfold buildChain
  cases s.getGroup (s.objects p).gid with
  | none => exact ⟨_, rfl⟩
  | some group =>
    obtain ⟨error, herror⟩ := resolveIds_missing (List.mem_reverse.2 hid) hmissing
    have hresolve : s.resolveChain p = .error error := (if_pos htype).trans herror
    dsimp only
    rw [hresolve]
    exact ⟨error, rfl⟩

end ProfileManager

end Proxor.Db
