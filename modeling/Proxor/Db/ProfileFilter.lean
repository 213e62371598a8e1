import Mathlib.Data.String.Basic
import Mathlib.Data.List.Induction
import Proxor.Db.Operations

set_option relaxedAutoImplicit false
set_option autoImplicit false

/-!
# Comparing profiles

Two lists of profiles are compared by a key. The map from keys to profiles keeps the last profile of a
key.

## Main definitions

* `Proxor.Db.ProxyEntity.key` — the key of a profile.
* `Proxor.Db.ProfileManager.common` — what is in both lists, as two parallel lists.

## Main results

* `Proxor.Db.ProfileManager.get?_keyed` — the last profile of a key.
* `Proxor.Db.ProfileManager.idxOf_common` — at the position of a profile in the second list of `common`
  is the profile of its key in the first.
-/

namespace Proxor.Db

variable {B : Type} [AbstractBean B]

/-- `ProfileFilter_ent_key`. -/
def ProxyEntity.key (ent : ProxyEntity B) (by_address : Bool) : String :=
  if by_address = true ∧ ent.type ≠ "custom" then
    ent.summary.displayAddress ++ ent.summary.displayType
  else AbstractBean.metadataStrippedIdentity ent.bean

namespace ProfileManager

/-- The profiles by their keys, where a later one replaces an earlier one. -/
def keyed (s : ProfileManager B) (by_address : Bool) (src : List Ref) : OrdMap String Ref :=
  src.foldl (fun hashMap p => hashMap.insert ((s.objects p).key by_address) p) .empty

/-- `ProfileFilter::Common`: the profiles of `dst` whose key is that of a profile of `src`, after these
profiles of `src`. -/
def common (s : ProfileManager B) (src dst : List Ref) (by_address : Bool) : List Ref × List Ref :=
  dst.foldl (fun (out : List Ref × List Ref) p =>
    match (s.keyed by_address src).get? ((s.objects p).key by_address) with
    | none => out
    | some q => (out.1 ++ [q], out.2 ++ [p])) ([], [])

/-- `ProfileFilter::OnlyInSrc_ByPointer`. -/
def onlyInSrcByPointer (src dst : List Ref) : List Ref := src.filter fun p => p ∉ dst

/-- **The map keeps the last profile of a key.**

**Proof sketch.** By induction on the profiles, the last one first. -/
theorem get?_keyed (s : ProfileManager B) (by_address : Bool) (src : List Ref) (k : String) :
    (s.keyed by_address src).get? k =
      src.reverse.find? fun p => (s.objects p).key by_address = k := by
  induction src using List.reverseRecOn with
  | nil => rfl
  | append_singleton src p ih =>
    rw [keyed, List.foldl_append, List.foldl_cons, List.foldl_nil, OrdMap.get?_insert,
      List.reverse_append, List.reverse_singleton, List.singleton_append, List.find?_cons, ← ih]
    by_cases hk : k = (s.objects p).key by_address
    · rw [if_pos hk, decide_eq_true hk.symm]
    · rw [if_neg hk, decide_eq_false fun h => hk h.symm]
      rfl

/-- The two lists are as long as each other, and `dst` comes in its order.

**Proof sketch.** By induction on `dst`, from its end. -/
lemma common_eq (s : ProfileManager B) (src dst : List Ref) (by_address : Bool) :
    s.common src dst by_address =
      ((dst.filterMap fun p => ((s.keyed by_address src).get? ((s.objects p).key by_address)).map
          fun q => (q, p)).map Prod.fst,
        (dst.filterMap fun p => ((s.keyed by_address src).get? ((s.objects p).key by_address)).map
          fun q => (q, p)).map Prod.snd) := by
  induction dst using List.reverseRecOn with
  | nil => rfl
  | append_singleton dst p ih =>
    unfold common at ih ⊢
    rw [List.foldl_append, ih, List.foldl_cons, List.foldl_nil, List.filterMap_append]
    cases hq : (s.keyed by_address src).get? ((s.objects p).key by_address) with
    | none => simp [hq]
    | some q => simp [hq]

/-- A profile of `dst` whose key is not known is not in the second list. -/
lemma not_mem_common {s : ProfileManager B} {src dst : List Ref} {by_address : Bool} {p : Ref}
    (h : (s.keyed by_address src).get? ((s.objects p).key by_address) = none) :
    p ∉ (s.common src dst by_address).2 := by
  rw [common_eq, List.mem_map]
  rintro ⟨⟨q, p'⟩, hmem, rfl⟩
  obtain ⟨r, -, hr⟩ := List.mem_filterMap.1 hmem
  obtain ⟨q', hq', heq⟩ := Option.map_eq_some_iff.1 hr
  obtain ⟨rfl, rfl⟩ := Prod.mk.inj heq
  exact absurd (h.symm.trans hq') (by simp)

/-- **Where a profile of `dst` is.** If its key is known, it is in the second list, and at its position
in the first list is the last profile of `src` with the key.

**Proof sketch.** The two lists are the parts of one list of pairs, and no profile is there twice. -/
theorem idxOf_common {s : ProfileManager B} {src dst : List Ref} (hdst : dst.Nodup)
    {by_address : Bool} {p q : Ref} (hp : p ∈ dst)
    (h : (s.keyed by_address src).get? ((s.objects p).key by_address) = some q) :
    p ∈ (s.common src dst by_address).2 ∧
      (s.common src dst by_address).1[(s.common src dst by_address).2.idxOf p]? = some q := by
  rw [common_eq]
  set pairs := dst.filterMap fun p =>
    ((s.keyed by_address src).get? ((s.objects p).key by_address)).map fun q => (q, p) with hpairs
  have hmem : (q, p) ∈ pairs := List.mem_filterMap.2 ⟨p, hp, by rw [h]; rfl⟩
  have hsnd : pairs.map Prod.snd = dst.filter fun p =>
      ((s.keyed by_address src).get? ((s.objects p).key by_address)).isSome := by
    rw [hpairs, List.map_filterMap, ← List.filterMap_eq_filter]
    refine List.filterMap_congr fun p _ => ?_
    cases hp : (s.keyed by_address src).get? ((s.objects p).key by_address) <;>
      simp [Option.guard, hp]
  have hnodup : (pairs.map Prod.snd).Nodup := hsnd ▸ hdst.filter _
  obtain ⟨i, hi, hget⟩ := List.mem_iff_getElem.1 hmem
  have hidx : (pairs.map Prod.snd).idxOf p = i := by
    have hi' : i < (pairs.map Prod.snd).length := by rwa [List.length_map]
    have hget' : (pairs.map Prod.snd)[i] = p := by rw [List.getElem_map, hget]
    rw [← hget', hnodup.idxOf_getElem]
  refine ⟨List.mem_map_of_mem hmem, ?_⟩
  rw [hidx, List.getElem?_map, List.getElem?_eq_getElem hi, hget]
  rfl

end ProfileManager

end Proxor.Db
