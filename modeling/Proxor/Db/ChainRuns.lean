import Proxor.Db.ChainBuilder

set_option relaxedAutoImplicit false
set_option autoImplicit false

/-!
# What the loop over a chain builds

The loop patches what it appended last when it comes to the next server. Its result is told here
server by server: each has an outbound that is linked to the next one, or a mapping inbound with a rule
that leads to the next one.

## Main definitions

* `Proxor.Db.Rejects` — a server ends the loop.
* `Proxor.Db.Hop`, `Proxor.Db.hops` — the servers as the loop came to them.
* `Proxor.Db.linkedOutbounds`, `Proxor.Db.chainRules`, `Proxor.Db.mappingInbounds` — what is built for
  them.

## Main results

* `Proxor.Db.buildElement_of_not_rejects`, `Proxor.Db.buildElement_of_rejects` — one server.
* `Proxor.Db.foldlM_buildElement` — a loop that ends without an error has built all of it.

## Design

The configuration has one chain, so no profile is global before its last server, and none is passed
over.
-/

namespace Proxor.Db

open Fmt (Bean)

/-- The variables of the loop when it has ended. -/
def ending : Except ChainLoop ChainLoop → ChainLoop
  | .ok c => c
  | .error c => c

/-! ### One server -/

/-- The index is that of the last server of a chain of `n`, the first that traffic leaves. -/
abbrev isFirst (n index : ℕ) : Bool := decide (index + 1 = n)

section Element

variable [Qt] (env : BuildEnv) (s : Settings)

/-- The outbound of a server as its builder leaves it. -/
def builtOutbound (index : ℕ) (bean : Bean) (stat : ℤ) : JsonObject :=
  if 0 < stat then socksOutbound (externalPorts env index bean).2
  else (bean.buildCoreObjSingBox s.skip_cert).outbound

/-- A server ends the loop: it cannot be used in its place, its core is missing, or its builder rejects
it. -/
def Rejects (n index : ℕ) (bean : Bean) : Prop :=
  let stat := bean.needExternal s.spmode_vpn (isFirst n index)
  if stat < 0 then True
  else if 0 < stat then
    let ports := externalPorts env index bean
    let extR := bean.buildExternal (extraCore s) (env.files index) ports.1 ports.2 stat
    extR.program = "" ∨ extR.error ≠ ""
  else
    let coreR := bean.buildCoreObjSingBox s.skip_cert
    coreR.outbound.isEmpty = true ∨ coreR.error ≠ ""

omit [Qt] in
/-- The profiles after the outbound of a server was built. -/
def writtenObjects (n index : ℕ) (objects : Ref → ProxyEntity Bean) (p : Ref) :
    Ref → ProxyEntity Bean :=
  if (objects p).bean.needExternal s.spmode_vpn (isFirst n index) = 0 then
    Function.update objects p { objects p with bean := (objects p).bean.afterBuild }
  else objects

variable {env s}

section Prepare

variable {chainId : ℤ} {n : ℕ} {c : ChainLoop} {p : Ref}

omit [Qt] in
@[simp] lemma link_objects (tag : String) : (c.link p tag).objects = c.objects := by
  unfold ChainLoop.link
  split_ifs <;> rfl

omit [Qt] in
@[simp] lemma link_outboundStats (tag : String) : (c.link p tag).outboundStats = c.outboundStats := by
  unfold ChainLoop.link
  split_ifs <;> rfl

omit [Qt] in
@[simp] lemma link_index (tag : String) : (c.link p tag).index = c.index := by
  unfold ChainLoop.link
  split_ifs <;> rfl

omit [Qt] in
@[simp] lemma link_muxApplied (tag : String) : (c.link p tag).muxApplied = c.muxApplied := by
  unfold ChainLoop.link
  split_ifs <;> rfl

omit [Qt] in
@[simp] lemma prepare_objects : (prepare env s chainId n c p).objects = c.objects := by
  unfold prepare
  dsimp only
  split_ifs <;> exact link_objects _

omit [Qt] in
@[simp] lemma prepare_outboundStats :
    (prepare env s chainId n c p).outboundStats = c.outboundStats := by
  unfold prepare
  dsimp only
  split_ifs <;> exact link_outboundStats _

omit [Qt] in
@[simp] lemma prepare_index : (prepare env s chainId n c p).index = c.index := by
  unfold prepare
  dsimp only
  split_ifs <;> exact link_index _

omit [Qt] in
@[simp] lemma prepare_muxApplied : (prepare env s chainId n c p).muxApplied = c.muxApplied := by
  unfold prepare
  dsimp only
  split_ifs <;> exact link_muxApplied _

end Prepare

/-- The outbound of a server that is not rejected. -/
lemma buildOutbound_of_not_rejects (env : BuildEnv) (s : Settings) {n : ℕ} {c : ChainLoop} {p : Ref} {stat : ℤ}
    (hstat : (c.objects p).bean.needExternal s.spmode_vpn (isFirst n c.index) = stat)
    (hrejects : ¬ Rejects env s n c.index (c.objects p).bean) :
    ∃ extRs, buildOutbound env s c p stat (externalPorts env c.index (c.objects p).bean) =
      .ok ({ c with objects := writtenObjects s n c.index c.objects p, extRs := extRs },
        builtOutbound env s c.index (c.objects p).bean stat) := by
  unfold Rejects at hrejects
  rw [hstat] at hrejects
  dsimp only at hrejects
  unfold buildOutbound builtOutbound writtenObjects
  rw [hstat]
  dsimp only
  by_cases hneg : stat < 0
  · rw [if_pos hneg] at hrejects
    exact absurd trivial hrejects
  rw [if_neg hneg] at hrejects
  by_cases hpos : 0 < stat
  · rw [if_pos hpos, not_or, not_ne_iff] at hrejects
    rw [if_pos hpos, if_neg hrejects.1, if_neg (not_not.2 hrejects.2), if_pos hpos,
      if_neg (ne_of_gt hpos)]
    exact ⟨_, rfl⟩
  · rw [if_neg hpos, not_or, not_ne_iff] at hrejects
    refine ⟨c.extRs, ?_⟩
    rw [if_neg hpos, if_neg hrejects.1, if_neg (not_not.2 hrejects.2), if_neg hpos,
      if_pos (le_antisymm (not_lt.1 hpos) (not_lt.1 hneg))]

/-- The profiles and the traffic objects after a server that is rejected. -/
lemma buildOutbound_of_rejects (env : BuildEnv) (s : Settings) {n : ℕ} {c : ChainLoop} {p : Ref} {stat : ℤ} (hneg : ¬ stat < 0)
    (hstat : (c.objects p).bean.needExternal s.spmode_vpn (isFirst n c.index) = stat)
    (hrejects : Rejects env s n c.index (c.objects p).bean) :
    ∃ c', buildOutbound env s c p stat (externalPorts env c.index (c.objects p).bean) = .error c' ∧
      c'.objects = writtenObjects s n c.index c.objects p ∧
        c'.outboundStats = c.outboundStats ∧ c'.error ≠ "" := by
  unfold Rejects at hrejects
  rw [hstat, if_neg hneg] at hrejects
  unfold buildOutbound writtenObjects
  rw [hstat]
  dsimp only at hrejects ⊢
  by_cases hpos : 0 < stat
  · rw [if_pos hpos] at hrejects
    rw [if_pos hpos, if_neg (ne_of_gt hpos)]
    split_ifs with hprogram herror
    · refine ⟨_, rfl, rfl, rfl, ?_⟩
      intro h
      exact absurd (String.append_eq_empty_iff.1 h).1 (by decide)
    · exact ⟨_, rfl, rfl, rfl, herror⟩
    · exact absurd hrejects (not_or.2 ⟨hprogram, herror⟩)
  · rw [if_neg hpos] at hrejects
    rw [if_neg hpos, if_pos (le_antisymm (not_lt.1 hpos) (not_lt.1 hneg))]
    split_ifs with hempty herror
    · refine ⟨_, rfl, rfl, rfl, ?_⟩
      show "unsupported outbound" ≠ ""
      decide
    · exact ⟨_, rfl, rfl, rfl, herror⟩
    · exact absurd hrejects (not_or.2 ⟨hempty, herror⟩)

variable {n : ℕ} {c : ChainLoop} {p : Ref}

/-- The loop after a server that is not rejected. -/
theorem buildElement_of_not_rejects (hglobal : c.globalProfiles = [])
    (hrejects : ¬ Rejects env s n c.index (c.objects p).bean) :
    ∃ extRs, buildElement env s 0 n c p =
      .ok (append s
        { prepare env s 0 n c p with
          objects := writtenObjects s n c.index c.objects p
          extRs := extRs
          index := c.index }
        p (c.objects p).bean (tagOut 0 n c.index (c.objects p).id)
        ((c.objects p).bean.needExternal s.spmode_vpn (isFirst n c.index))
        (builtOutbound env s c.index (c.objects p).bean
          ((c.objects p).bean.needExternal s.spmode_vpn (isFirst n c.index)))) := by
  have hneg : ¬ (c.objects p).bean.needExternal s.spmode_vpn (isFirst n c.index) < 0 := by
    intro hneg
    refine hrejects ?_
    unfold Rejects
    rw [if_pos hneg]
    trivial
  have hbuilt := buildOutbound_of_not_rejects env s (n := n)
    (c := prepare env s 0 n c p) (p := p) rfl
  rw [prepare_objects, prepare_index] at hbuilt
  obtain ⟨extRs, hbuilt⟩ := hbuilt hrejects
  refine ⟨extRs, ?_⟩
  unfold buildElement
  dsimp only
  rw [if_neg (by rw [hglobal]; exact fun h => List.not_mem_nil h.2), if_neg hneg, hbuilt]
  rfl

/-- The loop after a server that is rejected. -/
theorem buildElement_of_rejects (hglobal : c.globalProfiles = [])
    (hrejects : Rejects env s n c.index (c.objects p).bean) :
    ∃ c', buildElement env s 0 n c p = .error c' ∧
      (c'.objects = c.objects ∨ c'.objects = writtenObjects s n c.index c.objects p) ∧
        c'.outboundStats = c.outboundStats ∧ c'.error ≠ "" := by
  unfold buildElement
  dsimp only
  rw [if_neg (by rw [hglobal]; exact fun h => List.not_mem_nil h.2)]
  by_cases hneg : (c.objects p).bean.needExternal s.spmode_vpn (isFirst n c.index) < 0
  · rw [if_pos hneg]
    refine ⟨_, rfl, .inl prepare_objects, prepare_outboundStats, ?_⟩
    show "This configuration cannot be set automatically, please try another." ≠ ""
    decide
  · have hbuilt := buildOutbound_of_rejects env s (n := n)
      (c := prepare env s 0 n c p) (p := p) (by rw [prepare_objects, prepare_index]; exact hneg) rfl
    rw [prepare_objects, prepare_index, prepare_outboundStats] at hbuilt
    obtain ⟨c', hbuilt, hobjects, hstats, herror⟩ := hbuilt hrejects
    rw [if_neg hneg, hbuilt]
    exact ⟨c', rfl, .inr hobjects, hstats, herror⟩

end Element

/-! ### The whole chain -/

/-- A server as the loop came to it, with its outbound before it was linked. -/
structure Hop where
  p : Ref
  bean : Bean
  tag : String
  stat : ℤ
  port : ℤ
  outbound : JsonObject

namespace Hop

/-- The outbound, linked to the next tag. -/
def linked (h : Hop) (tag : String) : JsonObject :=
  if h.stat = 0 then h.outbound.set "detour" (.str tag) else h.outbound

/-- The rule that links a mapping to the next tag. -/
def rule (h : Hop) (tag : String) : List JsonObject :=
  if h.stat = 0 then [] else [inboundRule (mappingTag h.tag) tag]

/-- The rule for the mapping of the last server. -/
def lastRule (h : Hop) : List JsonObject :=
  if h.stat = 1 then [inboundRule (mappingTag h.tag) "direct"] else []

/-- The mapping inbound, if another core is reached through one. -/
def mapping (h : Hop) : List JsonObject :=
  if h.stat = 1 then [mappingInbound h.tag h.port h.bean] else []

end Hop

/-- The outbounds of the servers, each linked to the next. -/
def linkedOutbounds : List Hop → List JsonObject
  | [] => []
  | [h] => [h.outbound]
  | h :: h' :: hs => h.linked h'.tag :: linkedOutbounds (h' :: hs)

/-- The rules for the mappings of the servers. -/
def chainRules : List Hop → List JsonObject
  | [] => []
  | [h] => h.lastRule
  | h :: h' :: hs => h.rule h'.tag ++ chainRules (h' :: hs)

section Chain

variable [Qt] (env : BuildEnv) (s : Settings) (n : ℕ)

/-- A server as the loop comes to it. -/
def hop (objects : Ref → ProxyEntity Bean) (mux : Bool) (index : ℕ) (p : Ref) : Hop :=
  let bean := (objects p).bean
  let tag := tagOut 0 n index (objects p).id
  let stat := bean.needExternal s.spmode_vpn (isFirst n index)
  { p := p
    bean := bean
    tag := tag
    stat := stat
    port := (externalPorts env index bean).1
    outbound := (finishOutbound s mux bean tag (builtOutbound env s index bean stat)).1 }

/-- A multiplex object was set by now. -/
def muxAfter (objects : Ref → ProxyEntity Bean) (mux : Bool) (index : ℕ) (p : Ref) : Bool :=
  let bean := (objects p).bean
  let stat := bean.needExternal s.spmode_vpn (isFirst n index)
  mux || needMux s bean (builtOutbound env s index bean stat)

/-- The servers as the loop comes to them, each with the profiles as the builders before left them. -/
def hops (objects : Ref → ProxyEntity Bean) (mux : Bool) (index : ℕ) : List Ref → List Hop
  | [] => []
  | p :: ps =>
    hop env s n objects mux index p ::
      hops (writtenObjects s n index objects p) (muxAfter env s n objects mux index p) (index + 1) ps

/-- What the loop has when it comes to a server: the one before, if there is one, was appended last
and is not linked yet. -/
structure Pending (c : ChainLoop) (pending : List Hop) (outbounds : List JsonObject) : Prop where
  outbounds_eq : c.outbounds = outbounds ++ pending.map Hop.outbound
  length_le : pending.length ≤ 1
  index_eq : c.index = 0 ↔ pending = []
  past : ∀ h ∈ pending, c.pastTag = h.tag ∧ c.pastExternalStat = h.stat

variable {env s n} {c : ChainLoop} {pending : List Hop} {outbounds : List JsonObject}

omit [Qt] in
lemma Pending.link_outbounds (hpending : Pending c pending outbounds) (p : Ref) (tag : String) :
    (c.link p tag).outbounds = outbounds ++ pending.map fun h => h.linked tag := by
  unfold ChainLoop.link
  cases pending with
  | nil =>
    rw [if_neg (by have := hpending.index_eq.2 rfl; omega)]
    exact hpending.outbounds_eq
  | cons h rest =>
    have hrest : rest = [] := List.length_eq_zero_iff.1 (by
      have := hpending.length_le
      rw [List.length_cons] at this
      omega)
    subst hrest
    have hindex : 0 < c.index := Nat.pos_of_ne_zero fun h0 =>
      List.cons_ne_nil _ _ (hpending.index_eq.1 h0)
    have houtbounds : c.outbounds = outbounds ++ [h.outbound] := hpending.outbounds_eq
    rw [if_pos hindex, (hpending.past h List.mem_cons_self).2, List.map_singleton, Hop.linked]
    split_ifs
    · dsimp only
      rw [houtbounds, List.dropLast_concat, List.getLast?_concat]
      rfl
    · exact houtbounds

omit [Qt] in
lemma Pending.link_routingRules (hpending : Pending c pending outbounds) (p : Ref) (tag : String) :
    (c.link p tag).routingRules = c.routingRules ++ pending.flatMap fun h => h.rule tag := by
  unfold ChainLoop.link
  cases pending with
  | nil =>
    rw [if_neg (by have := hpending.index_eq.2 rfl; omega)]
    exact (List.append_nil _).symm
  | cons h rest =>
    have hrest : rest = [] := List.length_eq_zero_iff.1 (by
      have := hpending.length_le
      rw [List.length_cons] at this
      omega)
    subst hrest
    have hindex : 0 < c.index := Nat.pos_of_ne_zero fun h0 =>
      List.cons_ne_nil _ _ (hpending.index_eq.1 h0)
    rw [if_pos hindex, (hpending.past h List.mem_cons_self).2, (hpending.past h List.mem_cons_self).1,
      List.flatMap_singleton, Hop.rule]
    split_ifs
    · exact (List.append_nil _).symm
    · rfl

/-! #### One step -/

section Step

variable (mux : Bool) {p : Ref}

lemma prepare_outbounds :
    (prepare env s 0 n c p).outbounds =
      (c.link p (hop env s n c.objects mux c.index p).tag).outbounds := by
  unfold prepare
  dsimp only
  split_ifs <;> rfl

lemma prepare_routingRules :
    (prepare env s 0 n c p).routingRules =
      (c.link p (hop env s n c.objects mux c.index p).tag).routingRules ++
        if isFirst n c.index then (hop env s n c.objects mux c.index p).lastRule else [] := by
  unfold prepare Hop.lastRule
  by_cases hstat : (hop env s n c.objects mux c.index p).stat = 1
  · rw [if_pos hstat]
    dsimp only
    rw [if_pos (by exact hstat), ChainLoop.addMapping]
    dsimp only
    by_cases hfirst : isFirst n c.index = true
    · rw [if_pos hfirst, if_pos hfirst]
      rfl
    · rw [if_neg hfirst, if_neg hfirst]
      exact (List.append_nil _).symm
  · rw [if_neg hstat, ite_self, List.append_nil]
    dsimp only
    rw [if_neg (by exact hstat)]
    rfl

omit [Qt] in
lemma link_inbounds (tag : String) : (c.link p tag).inbounds = c.inbounds := by
  unfold ChainLoop.link
  split_ifs <;> rfl

lemma prepare_inbounds :
    (prepare env s 0 n c p).inbounds =
      c.inbounds ++ (hop env s n c.objects mux c.index p).mapping := by
  unfold prepare Hop.mapping
  by_cases hstat : (hop env s n c.objects mux c.index p).stat = 1
  · rw [if_pos hstat]
    dsimp only
    rw [if_pos (by exact hstat), ChainLoop.addMapping]
    dsimp only
    rw [link_inbounds]
    rfl
  · rw [if_neg hstat, List.append_nil]
    dsimp only
    rw [if_neg (by exact hstat), link_inbounds]

lemma prepare_chainTagOut :
    (prepare env s 0 n c p).chainTagOut =
      if c.index = 0 then (hop env s n c.objects mux c.index p).tag else c.chainTagOut := by
  have hlink (tag : String) : (c.link p tag).chainTagOut = if c.index = 0 then tag else c.chainTagOut := by
    unfold ChainLoop.link
    by_cases hindex : c.index = 0
    · rw [if_neg (Nat.not_lt.2 (Nat.le_zero.2 hindex)), if_pos hindex]
    · rw [if_pos (Nat.pos_of_ne_zero hindex), if_neg hindex]
      split_ifs <;> rfl
  unfold prepare
  dsimp only
  split_ifs with hstat hindex hindex <;> exact (hlink _).trans (by simp only [hindex]; rfl)

omit [Qt] in
lemma link_error (tag : String) : (c.link p tag).error = c.error := by
  unfold ChainLoop.link
  split_ifs <;> rfl

omit [Qt] in
lemma prepare_error : (prepare env s 0 n c p).error = c.error := by
  unfold prepare
  dsimp only
  split_ifs <;> exact link_error _

omit [Qt] in
omit [Qt] in
lemma prepare_globalProfiles (env : BuildEnv) (s : Settings) (p : Ref) (hlast : c.index + 1 < n) :
    (prepare env s 0 n c p).globalProfiles = c.globalProfiles := by
  unfold prepare
  dsimp only
  rw [decide_eq_false (by omega), Bool.false_and, if_neg Bool.false_ne_true]

/-- What the loop has built with one server more. -/
structure StepBuilt (env : BuildEnv) (s : Settings) (n : ℕ) (c c' : ChainLoop) (p : Ref)
    (pending : List Hop) : Prop where
  routingRules : c'.routingRules =
    c.routingRules ++
      ((pending.flatMap fun h => h.rule (hop env s n c.objects c.muxApplied c.index p).tag) ++
        if isFirst n c.index then (hop env s n c.objects c.muxApplied c.index p).lastRule else [])
  inbounds : c'.inbounds = c.inbounds ++ (hop env s n c.objects c.muxApplied c.index p).mapping
  outboundStats : c'.outboundStats =
    c.outboundStats ++ [(p, (hop env s n c.objects c.muxApplied c.index p).tag)]
  objects : c'.objects = writtenObjects s n c.index c.objects p
  muxApplied : c'.muxApplied = muxAfter env s n c.objects c.muxApplied c.index p
  index : c'.index = c.index + 1
  globalProfiles : c.index + 1 < n → c'.globalProfiles = []
  chainTagOut : c'.chainTagOut =
    if c.index = 0 then (hop env s n c.objects c.muxApplied c.index p).tag else c.chainTagOut
  error : c'.error = c.error

/-- A server that is not rejected is built, and is pending then. -/
theorem Pending.step (hpending : Pending c pending outbounds) (hglobal : c.globalProfiles = [])
    (hrejects : ¬ Rejects env s n c.index (c.objects p).bean) :
    ∃ c', buildElement env s 0 n c p = .ok c' ∧ StepBuilt env s n c c' p pending ∧
      Pending c' [hop env s n c.objects c.muxApplied c.index p]
        (outbounds ++ pending.map fun h =>
          h.linked (hop env s n c.objects c.muxApplied c.index p).tag) := by
  obtain ⟨extRs, hbuilt⟩ := buildElement_of_not_rejects hglobal hrejects
  refine ⟨_, hbuilt, ?_, ?_⟩
  · constructor
    · rw [append]
      dsimp only
      rw [prepare_routingRules c.muxApplied, hpending.link_routingRules, List.append_assoc]
    · rw [append]
      dsimp only
      rw [prepare_inbounds c.muxApplied]
    · rw [append]
      dsimp only
      rw [prepare_outboundStats]
      rfl
    · rfl
    · rw [append]
      dsimp only
      rw [prepare_muxApplied]
      rfl
    · rfl
    · intro hlast
      rw [append]
      dsimp only
      rw [prepare_globalProfiles env s p hlast, hglobal]
    · rw [append]
      dsimp only
      rw [prepare_chainTagOut c.muxApplied]
    · rw [append]
      dsimp only
      rw [prepare_error]
  · constructor
    · rw [append]
      dsimp only
      rw [prepare_outbounds c.muxApplied, hpending.link_outbounds, prepare_muxApplied]
      rfl
    · exact le_rfl
    · exact iff_of_false (Nat.succ_ne_zero _) (List.cons_ne_nil _ _)
    · intro h hmem
      rw [List.mem_singleton.1 hmem]
      exact ⟨rfl, rfl⟩

end Step

/-! #### All steps -/

omit [Qt] in
lemma linkedOutbounds_append (hlength : pending.length ≤ 1) (h : Hop) (hs : List Hop) :
    linkedOutbounds (pending ++ h :: hs) =
      (pending.map fun h' => h'.linked h.tag) ++ linkedOutbounds (h :: hs) := by
  match pending, hlength with
  | [], _ => rfl
  | [_], _ => rfl
  | _ :: _ :: _, hlength => exact absurd hlength (by simp)

omit [Qt] in
lemma chainRules_append (hlength : pending.length ≤ 1) (h : Hop) (hs : List Hop) :
    chainRules (pending ++ h :: hs) =
      (pending.flatMap fun h' => h'.rule h.tag) ++ chainRules (h :: hs) := by
  match pending, hlength with
  | [], _ => rfl
  | [h'], _ => exact congrArg (· ++ _) (List.append_nil (h'.rule h.tag)).symm
  | _ :: _ :: _, hlength => exact absurd hlength (by simp)

/-- The profiles after all builders. -/
def objectsAfter (s : Settings) (n : ℕ) (objects : Ref → ProxyEntity Bean) (index : ℕ) :
    List Ref → Ref → ProxyEntity Bean
  | [] => objects
  | p :: ps => objectsAfter s n (writtenObjects s n index objects p) (index + 1) ps

/-- No server is rejected. -/
def AllAccepted (env : BuildEnv) (s : Settings) (n : ℕ) (objects : Ref → ProxyEntity Bean)
    (index : ℕ) : List Ref → Prop
  | [] => True
  | p :: ps => ¬ Rejects env s n index (objects p).bean ∧
      AllAccepted env s n (writtenObjects s n index objects p) (index + 1) ps

/-- What the loop has built with all servers. -/
structure ChainBuilt (c c' : ChainLoop) (hs pending : List Hop) (outbounds : List JsonObject) :
    Prop where
  outbounds_eq : c'.outbounds = outbounds ++ linkedOutbounds (pending ++ hs)
  routingRules : c'.routingRules = c.routingRules ++ chainRules (pending ++ hs)
  inbounds : c'.inbounds = c.inbounds ++ hs.flatMap Hop.mapping
  outboundStats : c'.outboundStats = c.outboundStats ++ hs.map fun h => (h.p, h.tag)
  chainTagOut : c'.chainTagOut =
    if c.index = 0 then (hs.head?.map Hop.tag).getD "" else c.chainTagOut
  error : c'.error = c.error

/-- **What the loop builds**: the outbounds of all servers, each linked to the next one.

**Proof sketch.** Induction over the servers; the one before is pending. -/
theorem Pending.foldlM {ps : List Ref} (hps : ps ≠ []) (hpending : Pending c pending outbounds)
    (hglobal : c.globalProfiles = []) (hn : c.index + ps.length = n)
    (haccepted : AllAccepted env s n c.objects c.index ps) :
    ∃ c', ps.foldlM (buildElement env s 0 n) c = .ok c' ∧
      ChainBuilt c c' (hops env s n c.objects c.muxApplied c.index ps) pending outbounds ∧
        c'.objects = objectsAfter s n c.objects c.index ps := by
  induction ps generalizing c pending outbounds with
  | nil => exact absurd rfl hps
  | cons p ps ih =>
    obtain ⟨c₁, hc₁, hbuilt, hpending₁⟩ := hpending.step hglobal haccepted.1
    rw [List.length_cons] at hn
    rw [List.foldlM_cons, hc₁]
    by_cases hlast : ps = []
    · subst hlast
      have hfirst : isFirst n c.index = true := decide_eq_true hn
      refine ⟨c₁, rfl, ?_, hbuilt.objects⟩
      constructor
      · rw [hops, linkedOutbounds_append hpending.length_le, ← List.append_assoc]
        exact hpending₁.outbounds_eq
      · rw [hops, chainRules_append hpending.length_le, hbuilt.routingRules, if_pos hfirst]
        rfl
      · rw [hbuilt.inbounds, hops, List.flatMap_cons, hops, List.flatMap_nil, List.append_nil]
      · exact hbuilt.outboundStats
      · exact hbuilt.chainTagOut
      · exact hbuilt.error
    · have hpos : 0 < ps.length := List.length_pos_of_ne_nil hlast
      have hfirst : ¬ isFirst n c.index = true := by
        rw [decide_eq_true_eq]
        omega
      obtain ⟨c', hc', hrest, hobjects⟩ := ih hlast hpending₁ (hbuilt.globalProfiles (by omega))
        (by rw [hbuilt.index]; omega) (by rw [hbuilt.objects, hbuilt.index]; exact haccepted.2)
      rw [hbuilt.objects, hbuilt.index] at hrest hobjects
      rw [hbuilt.muxApplied] at hrest
      refine ⟨c', hc', ?_, hobjects⟩
      constructor
      · rw [hrest.outbounds_eq, hops, linkedOutbounds_append hpending.length_le, List.append_assoc]
        rfl
      · rw [hrest.routingRules, hbuilt.routingRules, if_neg hfirst, hops,
          chainRules_append hpending.length_le, List.append_nil, List.append_assoc]
        rfl
      · rw [hrest.inbounds, hbuilt.inbounds, hops, List.flatMap_cons, List.append_assoc]
      · rw [hrest.outboundStats, hbuilt.outboundStats, hops, List.map_cons, List.append_assoc]
        rfl
      · rw [hrest.chainTagOut, hbuilt.index, if_neg (Nat.succ_ne_zero _), hbuilt.chainTagOut]
        rfl
      · rw [hrest.error, hbuilt.error]

/-- A loop with a server that is rejected ends with an error, and has noted the tags of the servers
before it. -/
theorem Pending.foldlM_rejected {ps : List Ref} (hpending : Pending c pending outbounds)
    (hglobal : ps ≠ [] → c.globalProfiles = []) (hn : c.index + ps.length = n)
    (haccepted : ¬ AllAccepted env s n c.objects c.index ps) :
    ∃ c' k, ps.foldlM (buildElement env s 0 n) c = .error c' ∧ c'.error ≠ "" ∧
      c'.outboundStats = c.outboundStats ++
        ((hops env s n c.objects c.muxApplied c.index ps).map fun h => (h.p, h.tag)).take k := by
  induction ps generalizing c pending outbounds with
  | nil => exact absurd trivial haccepted
  | cons p ps ih =>
    rw [List.length_cons] at hn
    rw [List.foldlM_cons]
    have hglobal := hglobal (List.cons_ne_nil _ _)
    by_cases hrejects : Rejects env s n c.index (c.objects p).bean
    · obtain ⟨c', hc', -, hstats, herror⟩ := buildElement_of_rejects hglobal hrejects
      rw [hc']
      exact ⟨c', 0, rfl, herror, by rw [hstats, List.take_zero, List.append_nil]⟩
    · obtain ⟨c₁, hc₁, hbuilt, hpending₁⟩ := hpending.step hglobal hrejects
      rw [hc₁]
      have hrest : ¬ AllAccepted env s n c₁.objects c₁.index ps := by
        rw [hbuilt.objects, hbuilt.index]
        exact fun h => haccepted ⟨hrejects, h⟩
      obtain ⟨c', k, hc', herror, hstats⟩ := ih hpending₁
        (fun hps => hbuilt.globalProfiles (by have := List.length_pos_of_ne_nil hps; omega))
        (by rw [hbuilt.index]; omega) hrest
      refine ⟨c', k + 1, hc', herror, ?_⟩
      rw [hstats, hbuilt.outboundStats, hbuilt.objects, hbuilt.muxApplied, hbuilt.index,
        List.append_assoc, hops, List.map_cons, List.take_succ_cons]
      rfl

omit [Qt] in
/-- The loop begins without a server before. -/
lemma pending_start (status : BuildStatus) (houtbounds : status.outbounds = []) :
    Pending { toBuildStatus := status } [] [] :=
  ⟨houtbounds, Nat.zero_le _, iff_of_true rfl rfl, fun _ h => absurd h List.not_mem_nil⟩

end Chain

/-! ### The chain of a profile -/

/-- What a chain has left in a status, with the tag that it returns. -/
structure ChainResult (status : BuildStatus) (tagOut : String) (first : List JsonObject) (ent : Ref)
    (hs : List Hop) : Prop where
  outbounds : status.outbounds = linkedOutbounds hs
  routingRules : status.routingRules = chainRules hs
  inbounds : status.inbounds = first ++ hs.flatMap Hop.mapping
  outboundStats : status.outboundStats =
    (hs.map fun h => (h.p, h.tag)) ++ if 1 < hs.length then [(ent, tagOut)] else []
  tagOut_eq : tagOut = (hs.head?.map Hop.tag).getD ""

namespace ProfileManager

lemma resolveIds_error_ne {m : ProfileManager Bean} {ids : List ℤ} {e : String}
    (h : m.resolveIds ids = .error e) : e ≠ "" := by
  induction ids with
  | nil => exact absurd h (by rintro ⟨⟩)
  | cons id ids ih =>
    unfold resolveIds at h
    cases hp : m.getProfile id with
    | none =>
      rw [hp] at h
      intro he
      rw [← Except.error.inj h] at he
      exact absurd (String.append_eq_empty_iff.1 he).1 (by decide)
    | some p =>
      rw [hp] at h
      dsimp only at h
      split_ifs at h
      · intro he
        rw [← Except.error.inj h] at he
        exact absurd (String.append_eq_empty_iff.1 he).1 (by decide)
      · cases hids : m.resolveIds ids with
        | error e' =>
          rw [hids] at h
          exact ih (hids.trans h)
        | ok resolved =>
          rw [hids] at h
          exact absurd h (by rintro ⟨⟩)

variable [Qt]

lemma resolveChain_error_ne {m : ProfileManager Bean} {p : Ref} {e : String}
    (h : m.resolveChain p = .error e) : e ≠ "" := by
  unfold resolveChain at h
  split_ifs at h
  exact resolveIds_error_ne h

/-- An error has a text. -/
lemma buildChain_error_ne {m : ProfileManager Bean} {p : Ref} {e : String}
    (h : m.buildChain p = .error e) : e ≠ "" := by
  unfold buildChain at h
  cases hgroup : m.getGroup (m.objects p).gid with
  | none =>
    rw [hgroup] at h
    rw [← Except.error.inj h]
    decide
  | some group =>
    rw [hgroup] at h
    dsimp only at h
    cases hents : m.resolveChain p with
    | error e' =>
      rw [hents] at h
      exact resolveChain_error_ne (hents.trans h)
    | ok ents =>
      rw [hents, Except.bind] at h
      split_ifs at h
      cases hfront : m.getProfile group.front_proxy_id with
      | none =>
        rw [hfront] at h
        rw [← Except.error.inj h]
        decide
      | some front =>
        rw [hfront] at h
        dsimp only at h
        cases hresolved : m.resolveChain front with
        | error e' =>
          rw [hresolved] at h
          exact resolveChain_error_ne (hresolved.trans h)
        | ok resolved =>
          rw [hresolved] at h
          exact absurd h (by rintro ⟨⟩)

end ProfileManager

section Result

variable [Qt] {env : BuildEnv} {s : Settings}

lemma length_hops (n : ℕ) (objects : Ref → ProxyEntity Bean) (mux : Bool) (index : ℕ)
    (ps : List Ref) : (hops env s n objects mux index ps).length = ps.length := by
  induction ps generalizing objects mux index with
  | nil => rfl
  | cons p ps ih => rw [hops, List.length_cons, List.length_cons, ih]

/-- What a chain without rejected servers has left in a status. -/
lemma buildChainInternal_of_accepted {ents : List Ref} (status : BuildStatus)
    (houtbounds : status.outbounds = []) (hrules : status.routingRules = [])
    (hstats : status.outboundStats = []) (hglobal : status.globalProfiles = [])
    (haccepted : AllAccepted env s ents.length status.objects 0 ents) :
    let r := buildChainInternal env s 0 ents status
    let hs := hops env s ents.length status.objects false 0 ents
    r.1.outbounds = linkedOutbounds hs ∧ r.1.routingRules = chainRules hs ∧
      r.1.inbounds = status.inbounds ++ hs.flatMap Hop.mapping ∧
        r.1.outboundStats = (hs.map fun h => (h.p, h.tag)) ∧
          r.2 = (hs.head?.map Hop.tag).getD "" := by
  intro r hs
  by_cases hents : ents = []
  · subst hents
    exact ⟨houtbounds, hrules, (List.append_nil _).symm, hstats, rfl⟩
  · obtain ⟨c', hc', hbuilt, -⟩ := (pending_start status houtbounds).foldlM hents
      hglobal (Nat.zero_add _) haccepted
    have hr : r = (c'.toBuildStatus, c'.chainTagOut) := by
      show buildChainInternal env s 0 ents status = _
      unfold buildChainInternal
      rw [hc']
    rw [hr]
    refine ⟨hbuilt.outbounds_eq, ?_, hbuilt.inbounds, ?_, hbuilt.chainTagOut⟩
    · exact hbuilt.routingRules.trans (by rw [hrules]; rfl)
    · exact hbuilt.outboundStats.trans (by rw [hstats]; rfl)

/-- **The chain of a profile**: if it is built without an error, no server was rejected, and each is
linked to the next. -/
theorem buildChain_result {m : ProfileManager Bean} {ent : Ref} {first : List JsonObject}
    (hok : (buildChain env s m ent { objects := m.objects, inbounds := first }).1.error = "") :
    ∃ ents, m.buildChain ent = .ok ents ∧ AllAccepted env s ents.length m.objects 0 ents ∧
      ChainResult (buildChain env s m ent { objects := m.objects, inbounds := first }).1
        (buildChain env s m ent { objects := m.objects, inbounds := first }).2 first ent
        (hops env s ents.length m.objects false 0 ents) := by
  unfold buildChain at hok ⊢
  cases hents : m.buildChain ent with
  | error e =>
    rw [hents] at hok
    exact absurd hok (ProfileManager.buildChain_error_ne hents)
  | ok ents =>
    rw [hents] at hok
    dsimp only at hok ⊢
    have haccepted : AllAccepted env s ents.length m.objects 0 ents := by
      by_contra hrejected
      obtain ⟨c', k, hc', herror, -⟩ :=
        (pending_start { objects := m.objects, inbounds := first } rfl).foldlM_rejected
          (fun _ => rfl) (Nat.zero_add _) hrejected
      unfold buildChainInternal at hok
      rw [hc'] at hok
      refine herror ?_
      split_ifs at hok <;> exact hok
    obtain ⟨houtbounds, hrules, hinbounds, hstats, htag⟩ := buildChainInternal_of_accepted
      { objects := m.objects, inbounds := first } rfl rfl rfl rfl haccepted
    refine ⟨ents, rfl, haccepted, ?_⟩
    split_ifs with hlength
    · refine ⟨houtbounds, hrules, hinbounds, ?_, htag⟩
      rw [length_hops, if_pos hlength, hstats]
    · refine ⟨houtbounds, hrules, hinbounds, ?_, htag⟩
      rw [length_hops, if_neg hlength, List.append_nil, hstats]

end Result

end Proxor.Db
