import Proxor.Db.ChainRuns
import Proxor.Db.ConfigBuilder
import Proxor.Db.ExternalHop

set_option relaxedAutoImplicit false
set_option autoImplicit false

/-!
# What building a configuration does to the profiles

The builder of a VLESS bean writes to it: the suffix `-udp443` of its flow is cut off, and the flow
`none` is cleared.

## Main definitions

* `Proxor.Db.BuildHarmless` — the beans are as before, and so is the next configuration.
* `Proxor.Db.KeptFrom` — no bean that is built has a flow of these.

## Main results

* `Proxor.Db.buildHarmless_iff` — the former holds exactly if the latter does.
* `Proxor.Db.not_buildHarmless` — so a profile may change when its configuration is built.
-/

namespace Proxor.Db

open Fmt (Bean TrojanVLESSBean V2rayStreamSettings builtFlow)

/-- The builder leaves the flow of a bean. -/
def KeepsFlow : Bean → Prop
  | .vless b => Text.hasSuffix b.flow "-udp443" = false ∧ b.flow ≠ "none"
  | _ => True

section Effects

variable [Qt] (env : BuildEnv) (s : Settings)

/-- The beans of a chain of `n` servers keep their flows, up to the first that is rejected. -/
def KeptFrom (objects : Ref → ProxyEntity Bean) (n index : ℕ) : List Ref → Prop
  | [] => True
  | p :: ps => KeepsFlow (objects p).bean ∧
      (¬ Rejects env s n index (objects p).bean → KeptFrom objects n (index + 1) ps)

/-- What is stored of every bean and its identity are as before, and a second configuration is the
first. -/
def BuildHarmless (forTest forExport : Bool) (m : ProfileManager Bean) (ent : Ref) : Prop :=
  let r := buildConfig env s forTest forExport m ent
  (∀ p, (r.1.objects p).bean.toJson = (m.objects p).bean.toJson ∧
      (r.1.objects p).bean.metadataStrippedIdentity =
        (m.objects p).bean.metadataStrippedIdentity) ∧
    (buildConfig env s forTest forExport { m with objects := r.1.objects } ent).2 = r.2

end Effects

/-! ### Flows -/

/-- The flow in what is stored of a bean. -/
def storedFlow (o : JsonObject) : String := ((o.get? "flow").map jsonToString).getD ""

lemma storedFlow_vless (b : TrojanVLESSBean) : storedFlow (Bean.vless b).toJson = b.flow := by
  have hfilter : (Bean.vless b).items.filter (fun field => field.1 ∉ ([] : List String)) =
      (b.toAbstractBean.items ++ [("pass", .string b.password)]) ++
        [("flow", .string b.flow), ("stream", .jsonStore b.stream.items)] :=
    List.filter_eq_self.2 fun _ _ => rfl
  rw [storedFlow, Bean.toJson, JsonStore.toJson, hfilter, get?_fieldsToJson_append]
  · by_cases hflow : b.flow = ""
    · rw [hflow]
      rfl
    · rw [fieldsToJson, fieldToJson, Item.toJson, if_neg hflow]
      rfl
  · show "flow" ∉ ["_v", "name", "addr", "port", "c_cfg", "c_out", "pass"]
    decide

lemma builtFlow_of_keepsFlow {flow : String} (hsuffix : Text.hasSuffix flow "-udp443" = false)
    (hnone : flow ≠ "none") : builtFlow flow = flow := by
  rw [builtFlow, if_neg (by rw [hsuffix]; exact Bool.false_ne_true), if_neg hnone]

/-- A flow that is written gets shorter. -/
lemma length_builtFlow_lt {flow : String}
    (h : ¬ (Text.hasSuffix flow "-udp443" = false ∧ flow ≠ "none")) :
    (builtFlow flow).length < flow.length := by
  rw [builtFlow]
  by_cases hsuffix : Text.hasSuffix flow "-udp443" = true
  · have hle := (List.isSuffixOf_iff_suffix.1 hsuffix).length_le
    have h7 : "-udp443".toList.length = 7 := by decide
    have h7' : "-udp443".length = 7 := by decide
    rw [h7, String.length_toList] at hle
    rw [if_pos hsuffix, Text.trimSuffix, if_pos hsuffix, String.length_ofList, List.length_take,
      String.length_toList, h7']
    omega
  · have hnone : flow = "none" := by
      by_contra hnone
      exact h ⟨Bool.eq_false_of_not_eq_true hsuffix, hnone⟩
    rw [if_neg hsuffix, if_pos hnone, hnone]
    decide

/-- The length of the flow that is stored of a bean. -/
def flowLength (bean : Bean) : ℕ := (storedFlow bean.toJson).length

lemma afterBuild_of_keepsFlow {bean : Bean} (h : KeepsFlow bean) : bean.afterBuild = bean := by
  cases bean with
  | vless b => rw [Bean.afterBuild, builtFlow_of_keepsFlow h.1 h.2]
  | _ => rfl

/-- The flow of a bean that does not keep it gets shorter. -/
lemma flowLength_afterBuild_lt {bean : Bean} (h : ¬ KeepsFlow bean) :
    flowLength bean.afterBuild < flowLength bean := by
  cases bean with
  | vless b =>
    rw [flowLength, flowLength, Bean.afterBuild, storedFlow_vless, storedFlow_vless]
    exact length_builtFlow_lt h
  | _ => exact absurd trivial h

lemma flowLength_afterBuild_le (bean : Bean) : flowLength bean.afterBuild ≤ flowLength bean := by
  by_cases h : KeepsFlow bean
  · rw [afterBuild_of_keepsFlow h]
  · exact (flowLength_afterBuild_lt h).le

/-! ### The chain -/

section Loop

variable [Qt] {env : BuildEnv} {s : Settings}

omit [Qt] in
lemma writtenObjects_of_keepsFlow {objects : Ref → ProxyEntity Bean} {p : Ref} (n index : ℕ)
    (h : KeepsFlow (objects p).bean) : writtenObjects s n index objects p = objects := by
  rw [writtenObjects]
  split_ifs
  · rw [afterBuild_of_keepsFlow h]
    exact Function.update_eq_self p objects
  · rfl

omit [Qt] in
lemma flowLength_writtenObjects_le (n index : ℕ) (objects : Ref → ProxyEntity Bean) (p q : Ref) :
    flowLength (writtenObjects s n index objects p q).bean ≤ flowLength (objects q).bean := by
  rw [writtenObjects]
  split_ifs
  · by_cases hq : q = p
    · subst hq
      rw [Function.update_self]
      exact flowLength_afterBuild_le _
    · rw [Function.update_of_ne hq]
  · exact le_rfl

omit [Qt] in
/-- A bean that does not keep its flow is built by the software's own core, and written. -/
lemma flowLength_writtenObjects_lt {objects : Ref → ProxyEntity Bean} {p : Ref} (n index : ℕ)
    (h : ¬ KeepsFlow (objects p).bean) :
    flowLength (writtenObjects s n index objects p p).bean < flowLength (objects p).bean := by
  have hstat : (objects p).bean.needExternal s.spmode_vpn (isFirst n index) = 0 := by
    cases hbean : (objects p).bean with
    | vless b => rfl
    | _ =>
      rw [hbean] at h
      exact absurd trivial h
  rw [writtenObjects, if_pos hstat, Function.update_self]
  exact flowLength_afterBuild_lt h

omit [Qt] in
lemma buildStreamSettingsSingBox_ne_nil (skip_cert : Bool) (stream : V2rayStreamSettings)
    {outbound : JsonObject} (h : outbound ≠ []) :
    stream.buildStreamSettingsSingBox skip_cert outbound ≠ [] := by
  unfold V2rayStreamSettings.buildStreamSettingsSingBox
  dsimp only
  split_ifs <;> first | exact JsonObject.set_ne_nil _ _ _ | exact h

/-- A bean that does not keep its flow is not rejected. -/
lemma not_rejects_of_not_keepsFlow {n index : ℕ} {bean : Bean} (h : ¬ KeepsFlow bean) :
    ¬ Rejects env s n index bean := by
  cases bean with
  | vless b =>
    unfold Rejects
    dsimp only [Bean.needExternal]
    rw [if_neg (lt_irrefl 0), if_neg (lt_irrefl 0), not_or]
    refine ⟨?_, not_not.2 rfl⟩
    rw [List.isEmpty_iff]
    exact buildStreamSettingsSingBox_ne_nil _ _ (List.cons_ne_nil _ _)
  | _ => exact absurd trivial h

variable {n : ℕ} {c : ChainLoop} {ps : List Ref}

/-- What the loop goes on with after a server that is not rejected. -/
lemma buildElement_next {p : Ref} (hglobal : c.globalProfiles = [])
    (hrejects : ¬ Rejects env s n c.index (c.objects p).bean) :
    ∃ c', buildElement env s 0 n c p = .ok c' ∧
      c'.objects = writtenObjects s n c.index c.objects p ∧ c'.index = c.index + 1 ∧
        (c.index + 1 < n → c'.globalProfiles = []) := by
  obtain ⟨extRs, hbuilt⟩ := buildElement_of_not_rejects hglobal hrejects
  refine ⟨_, hbuilt, rfl, rfl, fun hlast => ?_⟩
  exact (prepare_globalProfiles env s p hlast).trans hglobal

/-- No flow gets longer. -/
lemma flowLength_ending_le (env : BuildEnv) (s : Settings) (hglobal : ps ≠ [] → c.globalProfiles = [])
    (hn : c.index + ps.length = n) (q : Ref) :
    flowLength ((ending (ps.foldlM (buildElement env s 0 n) c)).objects q).bean ≤
      flowLength (c.objects q).bean := by
  induction ps generalizing c with
  | nil => exact le_rfl
  | cons p ps ih =>
    rw [List.length_cons] at hn
    rw [List.foldlM_cons]
    by_cases hrejects : Rejects env s n c.index (c.objects p).bean
    · obtain ⟨c', hc', hobjects, -⟩ :=
        buildElement_of_rejects (hglobal (List.cons_ne_nil _ _)) hrejects
      rw [hc']
      have hending : (ending (Except.error c' >>= fun c => ps.foldlM (buildElement env s 0 n) c)) = c' :=
        rfl
      rw [hending]
      rcases hobjects with hobjects | hobjects <;> rw [hobjects]
      exact flowLength_writtenObjects_le n c.index c.objects p q
    · obtain ⟨c', hc', hobjects, hindex, hglobal'⟩ :=
        buildElement_next (hglobal (List.cons_ne_nil _ _)) hrejects
      rw [hc']
      have hrest := ih (c := c')
        (fun hps => hglobal' (by have := List.length_pos_of_ne_nil hps; omega)) (by omega)
      rw [hobjects] at hrest
      exact hrest.trans (flowLength_writtenObjects_le n c.index c.objects p q)

/-- Beans that keep their flows are left as they are. -/
lemma ending_objects_of_kept (hglobal : ps ≠ [] → c.globalProfiles = [])
    (hn : c.index + ps.length = n) (hkept : KeptFrom env s c.objects n c.index ps) :
    (ending (ps.foldlM (buildElement env s 0 n) c)).objects = c.objects := by
  induction ps generalizing c with
  | nil => rfl
  | cons p ps ih =>
    rw [List.length_cons] at hn
    rw [List.foldlM_cons]
    have hwritten := writtenObjects_of_keepsFlow (s := s) n c.index hkept.1
    by_cases hrejects : Rejects env s n c.index (c.objects p).bean
    · obtain ⟨c', hc', hobjects, -⟩ :=
        buildElement_of_rejects (hglobal (List.cons_ne_nil _ _)) hrejects
      rw [hc']
      rw [hwritten, or_self] at hobjects
      exact hobjects
    · obtain ⟨c', hc', hobjects, hindex, hglobal'⟩ :=
        buildElement_next (hglobal (List.cons_ne_nil _ _)) hrejects
      rw [hwritten] at hobjects
      rw [hc', ← hobjects]
      refine ih (fun hps => hglobal' (by have := List.length_pos_of_ne_nil hps; omega)) (by omega) ?_
      rw [hobjects, hindex]
      exact hkept.2 hrejects

/-- A flow that is as long as before was kept. -/
lemma kept_of_flowLength_ending (hglobal : ps ≠ [] → c.globalProfiles = [])
    (hn : c.index + ps.length = n)
    (hlength : ∀ q, flowLength ((ending (ps.foldlM (buildElement env s 0 n) c)).objects q).bean =
      flowLength (c.objects q).bean) :
    KeptFrom env s c.objects n c.index ps := by
  induction ps generalizing c with
  | nil => trivial
  | cons p ps ih =>
    rw [List.length_cons] at hn
    rw [List.foldlM_cons] at hlength
    by_cases hrejects : Rejects env s n c.index (c.objects p).bean
    · refine ⟨?_, fun h => absurd hrejects h⟩
      by_contra hkeeps
      exact not_rejects_of_not_keepsFlow hkeeps hrejects
    · obtain ⟨c', hc', hobjects, hindex, hglobal'⟩ :=
        buildElement_next (hglobal (List.cons_ne_nil _ _)) hrejects
      have hglobals (hps : ps ≠ []) : c'.globalProfiles = [] :=
        hglobal' (by have := List.length_pos_of_ne_nil hps; omega)
      rw [hc'] at hlength
      have hkeeps : KeepsFlow (c.objects p).bean := by
        by_contra hkeeps
        have hrest := flowLength_ending_le env s (n := n) (c := c') hglobals
          (by omega) p
        have hlt := flowLength_writtenObjects_lt (s := s) n c.index hkeeps
        rw [hobjects] at hrest
        exact absurd (hlength p) (hrest.trans_lt hlt).ne
      rw [writtenObjects_of_keepsFlow n c.index hkeeps] at hobjects
      refine ⟨hkeeps, fun _ => ?_⟩
      rw [← hobjects, ← hindex]
      exact ih hglobals (by omega) fun q => by rw [hobjects]; exact hlength q

end Loop

/-! ### The configuration -/

section Config

variable [Qt] (env : BuildEnv) (s : Settings) (forTest forExport : Bool)

/-- The profiles after a chain. -/
lemma objects_buildChainInternal (ents : List Ref) (status : BuildStatus) :
    (buildChainInternal env s 0 ents status).1.objects =
      (ending (ents.foldlM (buildElement env s 0 ents.length)
        { toBuildStatus := status })).objects := by
  unfold buildChainInternal
  cases ents.foldlM (buildElement env s 0 ents.length) { toBuildStatus := status } <;> rfl

/-- The profiles after the servers of a chain were built, if there is a chain. -/
def chainObjects (m : ProfileManager Bean) : Except String (List Ref) → Ref → ProxyEntity Bean
  | .ok ents => (ending (ents.foldlM (buildElement env s 0 ents.length)
      { objects := m.objects, inbounds := firstInbounds env s forTest })).objects
  | .error _ => m.objects

/-- The profiles after a configuration are those after its chain. -/
lemma objects_buildConfig (m : ProfileManager Bean) (ent : Ref) :
    (buildConfig env s forTest forExport m ent).1.objects =
      if fullConfig (m.objects ent).bean = none then
        chainObjects env s forTest m (m.buildChain ent)
      else m.objects := by
  unfold buildConfig
  dsimp only
  cases fullConfig (m.objects ent).bean with
  | some config => rfl
  | none =>
    have hchain : (buildConfigSingBox env s forTest forExport m ent).1.objects =
        (buildChain env s m ent
          { objects := m.objects, inbounds := firstInbounds env s forTest }).1.objects := by
      unfold buildConfigSingBox
      dsimp only
      split_ifs <;> rfl
    rw [if_pos rfl, hchain, buildChain]
    cases m.buildChain ent with
    | error e => rfl
    | ok ents =>
      have hinternal := objects_buildChainInternal env s ents
        { objects := m.objects, inbounds := firstInbounds env s forTest }
      dsimp only
      split_ifs <;> exact hinternal

variable {env s forTest forExport}

/-- Where building has no effect, no flow is written: the stored flow of a bean only gets shorter. -/
lemma kept_of_buildHarmless {m : ProfileManager Bean} {ent : Ref}
    (h : BuildHarmless env s forTest forExport m ent) (hfull : fullConfig (m.objects ent).bean = none)
    {ents : List Ref} (hents : m.buildChain ent = .ok ents) :
    KeptFrom env s m.objects ents.length 0 ents := by
  have hobjects := objects_buildConfig env s forTest forExport m ent
  rw [if_pos hfull, hents] at hobjects
  let c : ChainLoop := { objects := m.objects, inbounds := firstInbounds env s forTest }
  refine kept_of_flowLength_ending (c := c) (fun _ => rfl) (Nat.zero_add _) fun q => ?_
  have hq := (h.1 q).1
  rw [hobjects] at hq
  exact congrArg (fun o => (storedFlow o).length) hq

/-- **Building a configuration has no effect on profiles** exactly if no server that it builds has a
flow that the builder writes.

**Proof sketch.** A bean that is built with a flow that is written has a shorter one afterwards, and no
builder makes it longer again. All other beans are left as they are. -/
theorem buildHarmless_iff (env : BuildEnv) (s : Settings) (forTest forExport : Bool)
    (m : ProfileManager Bean) (ent : Ref) :
    BuildHarmless env s forTest forExport m ent ↔
      (fullConfig (m.objects ent).bean = none → ∀ ents, m.buildChain ent = .ok ents →
        KeptFrom env s m.objects ents.length 0 ents) := by
  constructor
  · intro h hfull ents hents
    exact kept_of_buildHarmless h hfull hents
  · intro hkept
    have hobjects := objects_buildConfig env s forTest forExport m ent
    have hsame : (buildConfig env s forTest forExport m ent).1.objects = m.objects := by
      rw [hobjects]
      split_ifs with hfull
      · cases hents : m.buildChain ent with
        | error e => rfl
        | ok ents =>
          let c : ChainLoop := { objects := m.objects, inbounds := firstInbounds env s forTest }
          exact ending_objects_of_kept (c := c) (fun _ => rfl) (Nat.zero_add _)
            (hkept hfull ents hents)
      · rfl
    unfold BuildHarmless
    dsimp only
    rw [hsame]
    exact ⟨fun p => ⟨rfl, rfl⟩, rfl⟩

end Config

/-- **A profile may change when its configuration is built**: the flow of a VLESS bean loses its
suffix. -/
theorem not_buildHarmless : ¬ ∀ (_ : Qt) (env : BuildEnv) (s : Settings) (forTest forExport : Bool)
    (m : ProfileManager Bean) (ent : Ref), BuildHarmless env s forTest forExport m ent := by
  intro h
  let _ := plainQt
  let bean : Bean := .vless { flow := "xtls-rprx-vision-udp443" }
  let m : ProfileManager Bean :=
    { objects := fun _ => { type := "vless", id := 0, bean := bean }
      next := 1
      profiles := OrdMap.empty.insert 0 0
      groups := OrdMap.empty.insert 0 { id := 0 } }
  have hents : m.buildChain 0 = .ok [0] := rfl
  have hkept := kept_of_buildHarmless (h plainQt plainEnv {} false false m 0) rfl hents
  exact absurd hkept.1.1 (by decide)

end Proxor.Db
