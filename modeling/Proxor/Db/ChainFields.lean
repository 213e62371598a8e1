import Std.Data.String.ToInt
import Proxor.Db.ChainRuns

set_option relaxedAutoImplicit false
set_option autoImplicit false

/-!
# Tags, detours and multiplexing of the servers of a chain

What the outbounds of a chain have under the keys `tag`, `detour` and `multiplex`. No builder sets the
last two: they are those of the loop, or those in the JSON text of a custom bean.

## Main definitions

* `Proxor.Db.textField` — the text of a field.
* `Proxor.Db.customField` — a field in the JSON text of a custom bean.

## Main results

* `Proxor.Db.get?_builtOutbound` — what a builder leaves under the keys.
* `Proxor.Db.tags_hops`, `Proxor.Db.nodup_tags_hops` — the tags, and when they are distinct.
-/

namespace Proxor.Db

open Fmt (Bean V2rayStreamSettings)

/-- The text of a field. -/
def textField (o : JsonObject) (key : String) : Option String :=
  match o.get? key with
  | some (.str s) => some s
  | _ => none

lemma textField_set (o : JsonObject) (k key s : String) :
    textField (o.set k (.str s)) key = if k = key then some s else textField o key := by
  rw [textField, JsonObject.get?_set]
  split_ifs <;> rfl

lemma textField_set_of_ne (o : JsonObject) {k key : String} (h : k ≠ key) (v : Json) :
    textField (o.set k v) key = textField o key := by
  rw [textField, JsonObject.get?_set, if_neg h]
  rfl

/-! ### Builders -/

lemma get?_set_eq_none {o : JsonObject} {k key : String} (hk : k ≠ key) {v : Json}
    (h : o.get? key = none) : (o.set k v).get? key = none := by
  rw [JsonObject.get?_set, if_neg hk, h]

lemma get?_ite_eq_none {c : Prop} [Decidable c] {o o' : JsonObject} {key : String}
    (h : o.get? key = none) (h' : o'.get? key = none) : (if c then o else o').get? key = none := by
  split_ifs
  · exact h
  · exact h'

lemma get?_buildStreamSettingsSingBox (skip_cert : Bool) (stream : V2rayStreamSettings)
    (outbound : JsonObject) {key : String} (hkey : key ∉ ["transport", "tls", "packet_encoding"]) :
    (stream.buildStreamSettingsSingBox skip_cert outbound).get? key = outbound.get? key := by
  simp only [List.mem_cons, List.not_mem_nil, or_false, not_or] at hkey
  obtain ⟨htransport, htls, hpacket⟩ := hkey
  unfold V2rayStreamSettings.buildStreamSettingsSingBox
  dsimp only
  split_ifs <;>
    simp only [JsonObject.get?_set, if_neg (Ne.symm htransport), if_neg (Ne.symm htls),
      if_neg (Ne.symm hpacket)]

section Fields

variable [Qt] {env : BuildEnv} {s : Settings}

/-- A field in the JSON text of a custom bean that the software's own core uses. -/
def customField (bean : Bean) (key : String) : Option Json :=
  match bean with
  | .custom b => if b.core = "internal" then (Qt.parseObject b.config_simple).get? key else none
  | _ => none

/-- A key that only the loop sets. -/
abbrev LoopKey (key : String) : Prop := key = "detour" ∨ key = "multiplex"

/-- What a builder leaves under a key that only the loop sets. -/
lemma get?_buildCoreObjSingBox (skip_cert : Bool) (bean : Bean) {key : String} (hkey : LoopKey key) :
    (bean.buildCoreObjSingBox skip_cert).outbound.get? key = customField bean key := by
  have hstream : key ∉ ["transport", "tls", "packet_encoding"] := by
    rcases hkey with rfl | rfl <;> decide
  cases bean with
  | socks b | http b | shadowsocks b =>
    refine (get?_buildStreamSettingsSingBox _ _ _ hstream).trans ?_
    rcases hkey with rfl | rfl <;> split_ifs <;> rfl
  | vmess b | trojan b | vless b =>
    refine (get?_buildStreamSettingsSingBox _ _ _ hstream).trans ?_
    rcases hkey with rfl | rfl <;> rfl
  | hysteria2 b | tuic b =>
    unfold Bean.buildCoreObjSingBox Fmt.QUICBean.buildCoreObjSingBox customField
    rcases hkey with rfl | rfl <;> dsimp only <;>
      (repeat' first
        | with_reducible apply get?_set_eq_none (by decide)
        | with_reducible apply get?_ite_eq_none) <;> rfl
  | naive b =>
    unfold Bean.buildCoreObjSingBox Fmt.NaiveBean.buildCoreObjSingBox customField
    rcases hkey with rfl | rfl <;> dsimp only <;> split_ifs <;>
      (repeat' first
        | with_reducible apply get?_set_eq_none (by decide)) <;> rfl
  | custom b =>
    rw [Bean.buildCoreObjSingBox, Fmt.CustomBean.buildCoreObjSingBox, customField]
    split_ifs <;> rfl
  | chain b => rfl

/-- A custom bean that the software's own core uses needs no other one. -/
lemma needExternal_of_customField {bean : Bean} {key : String} (h : customField bean key ≠ none)
    (vpn isFirstProfile : Bool) : bean.needExternal vpn isFirstProfile = 0 := by
  cases bean with
  | custom b =>
    rw [customField] at h
    by_cases hcore : b.core = "internal"
    · rw [Bean.needExternal, Bean.CustomBean.isInternal, decide_eq_true hcore]
      rfl
    · rw [if_neg hcore] at h
      exact absurd rfl h
  | _ => exact absurd rfl h

/-- What the outbound of a server has under a key that only the loop sets. -/
lemma get?_builtOutbound {index : ℕ} {bean : Bean} {vpn isFirstProfile : Bool} {key : String}
    (hkey : LoopKey key) :
    (builtOutbound env s index bean (bean.needExternal vpn isFirstProfile)).get? key =
      customField bean key := by
  rw [builtOutbound]
  split_ifs with hstat
  · have hnone : customField bean key = none := by
      by_contra hne
      exact absurd (needExternal_of_customField hne vpn isFirstProfile) hstat.ne'
    rw [hnone]
    rcases hkey with rfl | rfl <;> rfl
  · exact get?_buildCoreObjSingBox _ _ hkey

/-- Nothing of the user is merged into the outbound of a bean. -/
def NoCustomOutbound (bean : Bean) : Prop := Qt.parseObject bean.base.custom_outbound = []

section Finish

variable {mux : Bool} {bean : Bean} {tag : String} {outbound : JsonObject}

lemma textField_tag_finishOutbound (hcustom : NoCustomOutbound bean) :
    textField (finishOutbound s mux bean tag outbound).1 "tag" = some tag := by
  rw [finishOutbound, hcustom, mergeJson]
  dsimp only
  split_ifs
  · rw [textField_set_of_ne _ (by decide), textField_set, if_neg (by decide), textField_set, if_pos rfl]
  · rw [textField_set, if_neg (by decide), textField_set, if_pos rfl]

lemma get?_detour_finishOutbound (hcustom : NoCustomOutbound bean) :
    (finishOutbound s mux bean tag outbound).1.get? "detour" = outbound.get? "detour" := by
  rw [finishOutbound, hcustom, mergeJson]
  dsimp only
  split_ifs
  · rw [JsonObject.get?_set, if_neg (by decide), JsonObject.get?_set, if_neg (by decide),
      JsonObject.get?_set, if_neg (by decide)]
  · rw [JsonObject.get?_set, if_neg (by decide), JsonObject.get?_set, if_neg (by decide)]

lemma isSome_multiplex_finishOutbound (hcustom : NoCustomOutbound bean) :
    ((finishOutbound s mux bean tag outbound).1.get? "multiplex").isSome =
      ((!mux && needMux s bean outbound) || (outbound.get? "multiplex").isSome) := by
  rw [finishOutbound, hcustom, mergeJson]
  dsimp only
  split_ifs with hmux
  · rw [hmux, JsonObject.get?_set, if_pos rfl, Option.isSome_some, Bool.true_or]
  · rw [Bool.eq_false_of_not_eq_true hmux, JsonObject.get?_set, if_neg (by decide),
      JsonObject.get?_set, if_neg (by decide), Bool.false_or]

end Finish

end Fields

/-! ### Tags -/

lemma int2String_injective : Function.Injective int2String := fun _ _ h => Int.repr_injective h

@[simp] lemma id_writtenObjects (s : Settings) (n index : ℕ) (objects : Ref → ProxyEntity Bean) (p q : Ref) :
    (writtenObjects s n index objects p q).id = (objects q).id := by
  rw [writtenObjects]
  split_ifs
  · by_cases hq : q = p
    · subst hq
      rw [Function.update_self]
    · rw [Function.update_of_ne hq]
  · rfl

/-- The tags of the servers of a chain of `n`. -/
def chainTags (n : ℕ) (objects : Ref → ProxyEntity Bean) (index : ℕ) : List Ref → List String
  | [] => []
  | p :: ps => tagOut 0 n index (objects p).id :: chainTags n objects (index + 1) ps

lemma chainTags_congr {n : ℕ} {objects objects' : Ref → ProxyEntity Bean}
    (h : ∀ q, (objects' q).id = (objects q).id) (index : ℕ) (ps : List Ref) :
    chainTags n objects' index ps = chainTags n objects index ps := by
  induction ps generalizing index with
  | nil => rfl
  | cons p ps ih => rw [chainTags, chainTags, h, ih]

/-- The tag of a server between the first and the last. -/
def innerTag (id : ℤ) : String := "c-" ++ int2String 0 ++ "-" ++ int2String id

/-- The tag of the last server, if it is not the first. -/
def outerTag (id : ℤ) : String := "g-" ++ int2String id

lemma innerTag_injective : Function.Injective innerTag := by
  intro id id' h
  exact int2String_injective ((String.append_right_inj _).1 h)

lemma innerTag_ne_outerTag (id id' : ℤ) : innerTag id ≠ outerTag id' := by
  intro h
  have hlist := congrArg String.toList h
  unfold innerTag outerTag at hlist
  simp only [String.toList_append] at hlist
  exact absurd (List.cons.inj hlist).1 (by decide)

lemma innerTag_ne_proxy (id : ℤ) : innerTag id ≠ "proxy" := by
  intro h
  have hlist := congrArg String.toList h
  unfold innerTag at hlist
  simp only [String.toList_append] at hlist
  exact absurd (List.cons.inj hlist).1 (by decide)

lemma outerTag_ne_proxy (id : ℤ) : outerTag id ≠ "proxy" := by
  intro h
  have hlist := congrArg String.toList h
  unfold outerTag at hlist
  simp only [String.toList_append] at hlist
  exact absurd (List.cons.inj hlist).1 (by decide)

lemma tagOut_first (n : ℕ) (id : ℤ) : tagOut 0 n 0 id = "proxy" := if_pos ⟨rfl, rfl⟩

lemma tagOut_last {n index : ℕ} (hindex : 0 < index) (hn : index + 1 = n) (id : ℤ) :
    tagOut 0 n index id = outerTag id := by
  rw [tagOut, if_neg fun h => hindex.ne' h.2, if_pos hn, outerTag]

lemma tagOut_inner {n index : ℕ} (hindex : 0 < index) (hn : index + 1 ≠ n) (id : ℤ) :
    tagOut 0 n index id = innerTag id := by
  rw [tagOut, if_neg fun h => hindex.ne' h.2, if_neg hn, innerTag]

/-- The tags after the first one. -/
lemma chainTags_of_pos {n index : ℕ} {objects : Ref → ProxyEntity Bean} {ps : List Ref}
    (hindex : 0 < index) (hn : index + ps.length = n) :
    chainTags n objects index ps =
      (ps.dropLast.map fun p => innerTag (objects p).id) ++
        (ps.getLast?.map fun p => outerTag (objects p).id).toList := by
  induction ps generalizing index with
  | nil => rfl
  | cons p ps ih =>
    rw [List.length_cons] at hn
    rw [chainTags, ih (Nat.succ_pos _) (by omega)]
    cases ps with
    | nil => rw [tagOut_last hindex hn]; rfl
    | cons q qs =>
      rw [List.length_cons] at hn
      rw [tagOut_inner hindex (by omega)]
      rfl

/-- **The tags are distinct** exactly if no server occurs twice between the first and the last. -/
theorem nodup_chainTags {objects : Ref → ProxyEntity Bean} (ps : List Ref) :
    (chainTags ps.length objects 0 ps).Nodup ↔
      ((ps.drop 1).dropLast.map fun p => (objects p).id).Nodup := by
  cases ps with
  | nil => exact iff_of_true List.nodup_nil List.nodup_nil
  | cons p ps =>
    have hmap : (ps.dropLast.map fun p => innerTag (objects p).id) =
        (ps.dropLast.map fun p => (objects p).id).map innerTag := by
      rw [List.map_map]
      rfl
    rw [chainTags, tagOut_first, chainTags_of_pos (Nat.succ_pos 0)
      (by rw [List.length_cons]; omega), List.nodup_cons, List.nodup_append, hmap,
      List.nodup_map_iff innerTag_injective, List.drop_one, List.tail_cons]
    constructor
    · exact fun h => h.2.1
    · intro h
      refine ⟨?_, h, ?_, ?_⟩
      · intro hmem
        rcases List.mem_append.1 hmem with hmem | hmem
        · obtain ⟨id, -, hid⟩ := List.mem_map.1 hmem
          exact innerTag_ne_proxy id hid
        · obtain ⟨p, -, hp⟩ := Option.map_eq_some_iff.1 (Option.mem_toList.1 hmem)
          exact outerTag_ne_proxy _ hp
      · cases ps.getLast? with
        | none => exact List.nodup_nil
        | some p => exact List.nodup_singleton _
      · rintro tag hmem tag' hmem' rfl
        obtain ⟨id, -, rfl⟩ := List.mem_map.1 hmem
        obtain ⟨p, -, hp⟩ := Option.map_eq_some_iff.1 (Option.mem_toList.1 hmem')
        exact innerTag_ne_outerTag _ _ hp.symm

/-- No server occurs twice between the first and the last if the tags after the first are distinct. -/
lemma nodup_inner_of_tail {objects : Ref → ProxyEntity Bean} {ps : List Ref}
    (h : (chainTags ps.length objects 0 ps).tail.Nodup) :
    ((ps.drop 1).dropLast.map fun p => (objects p).id).Nodup := by
  cases ps with
  | nil => exact List.nodup_nil
  | cons p ps =>
    rw [chainTags, List.tail_cons, chainTags_of_pos (Nat.succ_pos 0)
      (by rw [List.length_cons]; omega), List.nodup_append] at h
    have hmap : (ps.dropLast.map fun p => innerTag (objects p).id) =
        (ps.dropLast.map fun p => (objects p).id).map innerTag := by
      rw [List.map_map]
      rfl
    rw [hmap, List.nodup_map_iff innerTag_injective] at h
    exact h.1

/-- No tag is empty, or that of an outbound that every configuration has. -/
lemma ne_of_mem_chainTags {n index : ℕ} {objects : Ref → ProxyEntity Bean} {ps : List Ref}
    {tag : String} (h : tag ∈ chainTags n objects index ps) :
    tag ≠ "" ∧ tag ≠ "direct" ∧ tag ≠ "bypass" := by
  have hhead {c : Char} {rest : List Char} (hc : c = 'p' ∨ c = 'g' ∨ c = 'c') {name : String}
      (hname : name.toList = c :: rest) : name ≠ "" ∧ name ≠ "direct" ∧ name ≠ "bypass" := by
    refine ⟨?_, ?_, ?_⟩ <;> rintro rfl
    · exact absurd hname (by simp)
    · rcases hc with rfl | rfl | rfl <;> exact absurd (List.cons.inj hname).1 (by decide)
    · rcases hc with rfl | rfl | rfl <;> exact absurd (List.cons.inj hname).1 (by decide)
  induction ps generalizing index with
  | nil => exact absurd h List.not_mem_nil
  | cons p ps ih =>
    rcases List.mem_cons.1 h with rfl | h
    · rw [tagOut]
      split_ifs
      · exact hhead (.inl rfl) rfl
      · exact hhead (.inr (.inl rfl)) (by rw [String.toList_append]; rfl)
      · exact hhead (.inr (.inr rfl)) (by simp only [String.toList_append]; rfl)
    · exact ih h

section Hops

variable [Qt] (env : BuildEnv) (s : Settings)

/-- The tags of the servers as the loop comes to them. -/
theorem tags_hops (n : ℕ) (objects : Ref → ProxyEntity Bean) (mux : Bool) (index : ℕ)
    (ps : List Ref) :
    (hops env s n objects mux index ps).map Hop.tag = chainTags n objects index ps := by
  induction ps generalizing objects mux index with
  | nil => rfl
  | cons p ps ih =>
    rw [hops, List.map_cons, ih, chainTags, chainTags_congr fun q => id_writtenObjects _ _ _ _ _ q]
    rfl

/-! ### What does not depend on flows -/

lemma map_p_hops (n : ℕ) (objects : Ref → ProxyEntity Bean) (mux : Bool) (index : ℕ)
    (ps : List Ref) : (hops env s n objects mux index ps).map Hop.p = ps := by
  induction ps generalizing objects mux index with
  | nil => rfl
  | cons p ps ih =>
    rw [hops, List.map_cons, ih]
    rfl

/-- What is no different with a flow that was written is as it was. -/
lemma writtenObjects_invariant {α : Type} {f : Bean → α} (hf : ∀ bean, f bean.afterBuild = f bean)
    (n index : ℕ) (objects : Ref → ProxyEntity Bean) (p q : Ref) :
    f (writtenObjects s n index objects p q).bean = f (objects q).bean := by
  rw [writtenObjects]
  split_ifs
  · by_cases hq : q = p
    · subst hq
      rw [Function.update_self]
      exact hf _
    · rw [Function.update_of_ne hq]
  · rfl

lemma map_bean_hops {α : Type} {f : Bean → α} (hf : ∀ bean, f bean.afterBuild = f bean) (n : ℕ)
    (objects : Ref → ProxyEntity Bean) (mux : Bool) (index : ℕ) (ps : List Ref) :
    (hops env s n objects mux index ps).map (fun h => f h.bean) =
      ps.map fun p => f (objects p).bean := by
  induction ps generalizing objects mux index with
  | nil => rfl
  | cons p ps ih =>
    rw [hops, List.map_cons, List.map_cons, ih]
    refine congrArg₂ List.cons rfl (List.map_congr_left fun q _ => ?_)
    exact writtenObjects_invariant s hf n index objects p q

lemma customField_afterBuild (key : String) (bean : Bean) :
    customField bean.afterBuild key = customField bean key := by
  cases bean <;> rfl

lemma base_afterBuild (bean : Bean) : bean.afterBuild.base = bean.base := by
  cases bean <;> rfl

lemma noCustomOutbound_afterBuild (bean : Bean) :
    NoCustomOutbound bean.afterBuild = NoCustomOutbound bean := by
  rw [NoCustomOutbound, NoCustomOutbound, base_afterBuild]

variable {env s} in
/-- What holds of the first server and of all others, however they were written, holds of all. -/
lemma forall_mem_hops {n : ℕ} {P : Hop → Prop} {Q : (Ref → ProxyEntity Bean) → List Ref → Prop}
    (hQ : ∀ objects index p ps, Q objects (p :: ps) → Q (writtenObjects s n index objects p) ps)
    (hP : ∀ objects mux index p ps, Q objects (p :: ps) → P (hop env s n objects mux index p))
    {objects : Ref → ProxyEntity Bean} {mux : Bool} {index : ℕ} {ps : List Ref} (h : Q objects ps) :
    ∀ h ∈ hops env s n objects mux index ps, P h := by
  induction ps generalizing objects mux index with
  | nil => exact fun _ hmem => absurd hmem List.not_mem_nil
  | cons p ps ih =>
    intro g hmem
    rcases List.mem_cons.1 hmem with rfl | hmem
    · exact hP _ _ _ _ _ h
    · exact ih (hQ _ _ _ _ h) g hmem

omit [Qt] in
lemma needExternal_cases (vpn : Bool) (bean : Bean) :
    bean.needExternal vpn false < 0 ∨ bean.needExternal vpn false = 0 ∨
      bean.needExternal vpn false = 1 := by
  cases bean with
  | hysteria2 b | tuic b =>
    dsimp only [Bean.needExternal]
    rw [if_neg Bool.false_ne_true]
    split_ifs
    · exact .inr (.inl rfl)
    · exact .inl (by decide)
    · exact .inr (.inr rfl)
  | custom b =>
    dsimp only [Bean.needExternal]
    split_ifs
    · exact .inr (.inl rfl)
    · exact .inr (.inr rfl)
  | _ => exact .inr (.inl rfl)

/-- The servers before the last one are those of the software's own core, or are reached through a
mapping. -/
lemma stat_of_mem_dropLast {n : ℕ} {objects : Ref → ProxyEntity Bean} {mux : Bool} {index : ℕ}
    {ps : List Ref} (hn : index + ps.length = n) (haccepted : AllAccepted env s n objects index ps) :
    ∀ h ∈ (hops env s n objects mux index ps).dropLast, h.stat = 0 ∨ h.stat = 1 := by
  induction ps generalizing objects mux index with
  | nil => exact fun _ h => absurd h List.not_mem_nil
  | cons p ps ih =>
    rw [List.length_cons] at hn
    intro h hmem
    cases ps with
    | nil => exact absurd hmem List.not_mem_nil
    | cons q ps =>
      rcases List.mem_cons.1 hmem with rfl | hmem
      · have hfirst : isFirst n index = false := by
          rw [List.length_cons] at hn
          exact decide_eq_false (by omega)
        have hneg : ¬ (objects p).bean.needExternal s.spmode_vpn (isFirst n index) < 0 := by
          intro hneg
          refine haccepted.1 ?_
          unfold Rejects
          rw [if_pos hneg]
          trivial
        rw [hfirst] at hneg
        rw [hop, hfirst]
        exact (needExternal_cases s.spmode_vpn (objects p).bean).resolve_left hneg
      · exact ih (by omega) haccepted.2 h hmem

/-- A custom bean is not multiplexed by the loop. -/
lemma needMux_of_customField {bean : Bean} {key : String} (h : customField bean key ≠ none)
    (outbound : JsonObject) : needMux s bean outbound = false := by
  cases bean with
  | custom b => rfl
  | _ => exact absurd rfl h

/-- What the outbounds of a chain have under keys of the loop. -/
lemma fields_of_mem_hops (n : ℕ) {objects : Ref → ProxyEntity Bean} (mux : Bool) (index : ℕ)
    {ps : List Ref} (hcustom : ∀ p ∈ ps, NoCustomOutbound (objects p).bean) :
    ∀ h ∈ hops env s n objects mux index ps,
      textField h.outbound "tag" = some h.tag ∧
        h.outbound.get? "detour" = customField h.bean "detour" ∧
          (h.stat ≠ 0 → h.outbound.get? "detour" = none) := by
  refine forall_mem_hops (Q := fun objects ps => ∀ p ∈ ps, NoCustomOutbound (objects p).bean)
    ?_ ?_ hcustom
  · intro objects index p ps h q hq
    have hsame := writtenObjects_invariant s noCustomOutbound_afterBuild n index objects p q
    rw [hsame]
    exact h q (List.mem_cons_of_mem _ hq)
  · intro objects mux index p ps h
    have hp := h p List.mem_cons_self
    have hdetour : (hop env s n objects mux index p).outbound.get? "detour" =
        customField (objects p).bean "detour" :=
      (get?_detour_finishOutbound hp).trans (get?_builtOutbound (.inl rfl))
    refine ⟨textField_tag_finishOutbound hp, hdetour, fun hstat => ?_⟩
    rw [hdetour]
    by_contra hne
    exact hstat (needExternal_of_customField hne _ _)

end Hops

end Proxor.Db
