import Proxor.Db.ChainLinks

set_option relaxedAutoImplicit false
set_option autoImplicit false

/-!
# References between the parts of a configuration

Parts of a configuration refer to outbounds, inbounds and DNS servers by their tags. The core refuses
a configuration with a reference to what is not there, or is there twice.

## Main definitions

* `Proxor.Db.outboundRefs`, `Proxor.Db.inboundRefs`, `Proxor.Db.serverRefs` — the references.
* `Proxor.Db.Closed` — each tag that is referred to is defined once.
* `Proxor.Db.Closable` — when the parts fit together.

## Main results

* `Proxor.Db.closed_iff` — without JSON texts of the user, a configuration that is built without an
  error is closed exactly if it is closable.
* `Proxor.Db.not_closed` — so it may not be closed.

## Design

The outbound `any` of a DNS rule is a keyword of the core, not a reference. An empty detour is none.
-/

namespace Proxor.Db

open Fmt (Bean ExternalBuildResult)
open ProfileManager (trimmed)
open Platform (splitLinesSkipSharp hostsBlock hostsRule)

/-! ### References -/

/-- The objects in the array of a field. -/
def objectsOf (o : JsonObject) (key : String) : List JsonObject :=
  (((o.get? key).map jsonToArray).getD []).map jsonToObject

/-- The object of a field. -/
def objectOf (o : JsonObject) (key : String) : JsonObject := ((o.get? key).map jsonToObject).getD []

/-- The tags that are defined. -/
def tagsOf (parts : List JsonObject) : List String := parts.filterMap fun o => textField o "tag"

/-- The texts of a field. -/
def textsOf (parts : List JsonObject) (key : String) : List String :=
  parts.filterMap fun o => textField o key

/-- The inbounds of a rule. -/
def inboundsOf (rule : JsonObject) : List String :=
  match rule.get? "inbound" with
  | some (.str tag) => [tag]
  | some (.arr tags) => tags.map jsonToString
  | _ => []

/-- The detours: an empty one is none. -/
def detoursOf (parts : List JsonObject) : List String :=
  (textsOf parts "detour").filter fun tag => tag ≠ ""

/-- The outbounds that a configuration refers to. -/
def outboundRefs (config : JsonObject) : List String :=
  let route := objectOf config "route"
  detoursOf (objectsOf config "outbounds") ++
    detoursOf (objectsOf (objectOf config "dns") "servers") ++
    textsOf (objectsOf route "rules") "outbound" ++ (textField route "final").toList

/-- The inbounds that a configuration refers to. -/
def inboundRefs (config : JsonObject) : List String :=
  (objectsOf (objectOf config "route") "rules").flatMap inboundsOf ++
    (objectsOf (objectOf config "dns") "rules").flatMap inboundsOf

/-- The DNS servers that a configuration refers to. -/
def serverRefs (config : JsonObject) : List String :=
  textsOf (objectsOf (objectOf config "dns") "rules") "server" ++
    textsOf (objectsOf (objectOf config "dns") "servers") "domain_resolver" ++
    (textField (objectOf (objectOf config "route") "default_domain_resolver") "server").toList

/-- Every tag that is referred to is defined exactly once. -/
structure Closed (config : JsonObject) : Prop where
  outbounds : ∀ tag ∈ outboundRefs config, (tagsOf (objectsOf config "outbounds")).count tag = 1
  inbounds : ∀ tag ∈ inboundRefs config, (tagsOf (objectsOf config "inbounds")).count tag = 1
  servers : ∀ tag ∈ serverRefs config,
    (tagsOf (objectsOf (objectOf config "dns") "servers")).count tag = 1

section Config

variable [Qt] (env : BuildEnv) (s : Settings) (forTest : Bool)

/-- The settings have no JSON texts of the user. -/
structure NoUserJson : Prop where
  inbounds : forTest = false → userArray s.custom_inbound "inbounds" = []
  rules : forTest = false → userArray s.custom "rules" = []
  globalRules : forTest = false → userArray s.custom_route_global "rules" = []
  dns : s.use_dns_object = false

/-- The tags of the outbounds: those of the chain, and the two direct ones. -/
def definedTags (objects : Ref → ProxyEntity Bean) (ents : List Ref) : List String :=
  chainTags ents.length objects 0 ents ++ ["direct", "bypass"]

/-- What a list is routed by: nothing in a test. -/
def userLines (text : String) : List String := if forTest then [] else splitLinesSkipSharp text

/-- The parts of a configuration fit together: no server occurs twice between the first and the last,
a detour of the last server's own is defined, and so is the default outbound. Without servers, there
is no rule for the proxy. -/
structure Closable (objects : Ref → ProxyEntity Bean) (ents : List Ref) : Prop where
  inner : ((ents.drop 1).dropLast.map fun p => (objects p).id).Nodup
  last : ∀ p ∈ ents.getLast?, ∀ tag, customField (objects p).bean "detour" = some (.str tag) →
    tag ≠ "" → tag ∈ definedTags objects ents
  final : forTest = false → (useInternalTun env s && s.spmode_vpn && s.vpn_rule_white) = false →
    s.def_outbound ∈ definedTags objects ents
  proxyDomain : ents = [] → makeRule Qt.toLower (userLines forTest s.proxy_domain) false = []
  proxyIp : ents = [] → makeRule Qt.toLower (userLines forTest s.proxy_ip) true = []
  white : ents = [] → tunIn env s forTest = true → s.vpn_rule_white = true →
    trimmed s.vpn_rule_process = "" ∧ trimmed s.vpn_rule_cidr = ""

/-! ### The parts of a configuration -/

/-- The chain of a configuration. -/
def chainOf (m : ProfileManager Bean) (ent : Ref) : BuildStatus × String :=
  buildChain env s m ent { objects := m.objects, inbounds := firstInbounds env s forTest }

/-- The outbound for what no rule is for. -/
def finalOut : String :=
  if useInternalTun env s && s.spmode_vpn && s.vpn_rule_white then "bypass" else s.def_outbound

variable {env s forTest}

omit [Qt] in
lemma map_jsonToObject_obj (parts : List JsonObject) :
    (parts.map Json.obj).map jsonToObject = parts := by
  rw [List.map_map]
  exact List.map_id _

/-- Where the parts of a configuration are. -/
structure Parts (env : BuildEnv) (s : Settings) (forTest : Bool) (m : ProfileManager Bean) (ent : Ref)
    (config : JsonObject) : Prop where
  outbounds : objectsOf config "outbounds" = (chainOf env s forTest m ent).1.outbounds ++ directOutbounds
  inbounds : objectsOf config "inbounds" = (chainOf env s forTest m ent).1.inbounds
  servers : objectsOf (objectOf config "dns") "servers" =
    dnsServers env s forTest (chainOf env s forTest m ent).2
  dnsRules : objectsOf (objectOf config "dns") "rules" = dnsRules env s forTest m (m.objects ent)
    (chainOf env s forTest m ent).1.domainListDNSDirect
  rules : objectsOf (objectOf config "route") "rules" =
    (chainOf env s forTest m ent).1.routingRules ++
      routeRules env s forTest m (m.objects ent) (chainOf env s forTest m ent).2
        (chainOf env s forTest m ent).1.extRs
  final : textField (objectOf config "route") "final" =
    if forTest then none else some (finalOut env s)
  resolver : textField (objectOf (objectOf config "route") "default_domain_resolver") "server" =
    some "dns-direct"

omit [Qt] in
lemma routeObj_rules (forExport : Bool) (rules : List Json) :
    objectsOf (routeObj env s forTest forExport rules) "rules" = rules.map jsonToObject := by
  rw [routeObj]
  split_ifs <;> rfl

omit [Qt] in
lemma routeObj_final (forExport : Bool) (rules : List Json) :
    textField (routeObj env s forTest forExport rules) "final" =
      if forTest then none else some (finalOut env s) := by
  rw [routeObj, finalOut]
  dsimp only
  cases forTest <;> cases forExport <;> rfl

omit [Qt] in
lemma routeObj_resolver (forExport : Bool) (rules : List Json) :
    textField (objectOf (routeObj env s forTest forExport rules) "default_domain_resolver") "server" =
      some "dns-direct" := by
  rw [routeObj]
  dsimp only
  split_ifs <;> rfl

/-- The parts of a configuration that is built without an error. -/
theorem parts_of_ok {forExport : Bool} {m : ProfileManager Bean} {ent : Ref}
    (huser : NoUserJson s forTest)
    (hok : (buildConfigSingBox env s forTest forExport m ent).1.error = "") :
    (chainOf env s forTest m ent).1.error = "" ∧
      Parts env s forTest m ent (buildConfigSingBox env s forTest forExport m ent).2 := by
  have hchain : (chainOf env s forTest m ent).1.error = "" := by
    by_contra hne
    unfold buildConfigSingBox at hok
    dsimp only at hok
    rw [if_pos (by exact hne)] at hok
    exact hne hok
  refine ⟨hchain, ?_⟩
  have hinbounds : (if forTest then [] else userArray s.custom_inbound "inbounds") = [] := by
    split_ifs with htest
    · rfl
    · exact huser.inbounds (Bool.eq_false_of_not_eq_true htest)
  have hrules : (if forTest then []
      else userArray s.custom "rules" ++ userArray s.custom_route_global "rules") = [] := by
    split_ifs with htest
    · rfl
    · rw [huser.rules (Bool.eq_false_of_not_eq_true htest),
        huser.globalRules (Bool.eq_false_of_not_eq_true htest)]
      rfl
  have hconfig : ∃ rest, (buildConfigSingBox env s forTest forExport m ent).2 =
      [("log", .obj [("level", .str s.log_level)]),
        ("inbounds", .arr ((chainOf env s forTest m ent).1.inbounds.map Json.obj)),
        ("outbounds", .arr (((chainOf env s forTest m ent).1.outbounds ++ directOutbounds).map
          Json.obj)),
        ("dns", .obj
          [("servers", .arr ((dnsServers env s forTest (chainOf env s forTest m ent).2).map Json.obj)),
            ("rules", .arr ((dnsRules env s forTest m (m.objects ent)
              (chainOf env s forTest m ent).1.domainListDNSDirect).map Json.obj)),
            ("independent_cache", .bool true)]),
        ("route", .obj (routeObj env s forTest forExport
          (((chainOf env s forTest m ent).1.routingRules ++
            routeRules env s forTest m (m.objects ent) (chainOf env s forTest m ent).2
              (chainOf env s forTest m ent).1.extRs).map Json.obj)))] ++ rest := by
    unfold buildConfigSingBox
    dsimp only
    rw [if_neg (by exact not_not.2 hchain), hinbounds, hrules, List.append_nil, List.nil_append,
      huser.dns, if_neg Bool.false_ne_true]
    dsimp only
    split_ifs
    · exact ⟨[], rfl⟩
    · exact ⟨_, rfl⟩
  obtain ⟨rest, hconfig⟩ := hconfig
  rw [hconfig]
  constructor
  · exact map_jsonToObject_obj _
  · exact map_jsonToObject_obj _
  · exact map_jsonToObject_obj _
  · exact map_jsonToObject_obj _
  · exact (routeObj_rules forExport _).trans (map_jsonToObject_obj _)
  · exact routeObj_final forExport _
  · exact routeObj_resolver forExport _

/-! ### Rules -/

omit [Qt] in
lemma textsOf_append (parts parts' : List JsonObject) (key : String) :
    textsOf (parts ++ parts') key = textsOf parts key ++ textsOf parts' key :=
  List.filterMap_append

omit [Qt] in
/-- A rule that is made of a list refers to nothing. -/
lemma get?_makeRule (toLower : String → String) (list : List String) (isIP : Bool) {key : String}
    (hkey : key = "inbound" ∨ key = "outbound" ∨ key = "server") :
    (makeRule toLower list isIP).get? key = none := by
  rw [makeRule]
  dsimp only
  rcases hkey with rfl | rfl | rfl <;> split_ifs <;> rfl

omit [Qt] in
lemma textField_makeRule (toLower : String → String) (list : List String) (isIP : Bool) {key : String}
    (hkey : key = "inbound" ∨ key = "outbound" ∨ key = "server") :
    textField (makeRule toLower list isIP) key = none := by
  rw [textField, get?_makeRule toLower list isIP hkey]

omit [Qt] in
/-- What the rule of a list refers to. -/
lemma textsOf_addRule (toLower : String → String) (list : List String) (isIP : Bool)
    {key : String} (hkey : key = "inbound" ∨ key = "outbound" ∨ key = "server") (field value : String) :
    textsOf (addRule (makeRule toLower list isIP) field value) key =
      if field = key ∧ makeRule toLower list isIP ≠ [] then [value] else [] := by
  rw [addRule]
  by_cases hrule : makeRule toLower list isIP = []
  · rw [if_pos (List.isEmpty_iff.2 hrule), if_neg fun h => h.2 hrule]
    rfl
  · rw [if_neg (mt List.isEmpty_iff.1 hrule), textsOf, List.filterMap_cons, List.filterMap_nil,
      textField_set]
    by_cases hfield : field = key
    · rw [if_pos hfield, if_pos ⟨hfield, hrule⟩]
    · rw [if_neg hfield, textField_makeRule toLower list isIP hkey, if_neg fun h => hfield h.1]

section Rules

variable (m : ProfileManager Bean) (entity : ProxyEntity Bean) (tagProxy : String)
  (extRs : List ExternalBuildResult)

/-- The rules of the user name the proxy, or go past it. -/
lemma mem_textsOf_userRules {tag : String} :
    tag ∈ textsOf (userRules s forTest m entity tagProxy) "outbound" →
      tag = "bypass" ∨ tag = tagProxy ∧
        (makeRule Qt.toLower (userLines forTest s.proxy_domain) false ≠ [] ∨
          makeRule Qt.toLower (userLines forTest s.proxy_ip) true ≠ []) := by
  have hkey : ("outbound" : String) = "inbound" ∨ ("outbound" : String) = "outbound" ∨
      ("outbound" : String) = "server" := .inr (.inl rfl)
  unfold userRules
  simp only [textsOf_append, textsOf_addRule _ _ _ hkey, List.mem_append, List.mem_ite_nil_right,
    List.mem_singleton]
  rintro (((((h | h) | h) | h) | h) | h)
  · exact absurd h.1.1 (by decide)
  · exact .inr ⟨h.2, .inl h.1.2⟩
  · exact .inl h.2
  · exact absurd h.1.1 (by decide)
  · exact .inr ⟨h.2, .inr h.1.2⟩
  · exact .inl h.2

/-- A rule for the proxy names it. -/
lemma tagProxy_mem_textsOf_userRules
    (h : makeRule Qt.toLower (userLines forTest s.proxy_domain) false ≠ [] ∨
      makeRule Qt.toLower (userLines forTest s.proxy_ip) true ≠ []) :
    tagProxy ∈ textsOf (userRules s forTest m entity tagProxy) "outbound" := by
  have hkey : ("outbound" : String) = "inbound" ∨ ("outbound" : String) = "outbound" ∨
      ("outbound" : String) = "server" := .inr (.inl rfl)
  unfold userRules
  simp only [textsOf_append, textsOf_addRule _ _ _ hkey, List.mem_append, List.mem_ite_nil_right,
    List.mem_singleton]
  rcases h with h | h
  · exact .inl (.inl (.inl (.inl (.inr ⟨⟨trivial, h⟩, trivial⟩))))
  · exact .inl (.inr ⟨⟨trivial, h⟩, trivial⟩)

omit [Qt] in
lemma textsOf_ite (c : Prop) [Decidable c] (parts : List JsonObject) (key : String) :
    textsOf (if c then [] else parts) key = if c then [] else textsOf parts key := by
  split_ifs <;> rfl

omit [Qt] in
/-- The rules of the Tun name the proxy, or go past it. -/
lemma mem_textsOf_tunRules {tag : String} :
    tag ∈ textsOf (tunRules env s forTest extRs) "outbound" →
      tag = "bypass" ∨ tag = "proxy" ∧ tunIn env s forTest = true ∧ s.vpn_rule_white = true ∧
        ¬ (trimmed s.vpn_rule_process = "" ∧ trimmed s.vpn_rule_cidr = "") := by
  intro h
  rw [tunRules] at h
  by_cases htun : tunIn env s forTest = true
  · rw [if_pos htun] at h
    dsimp only at h
    simp only [textsOf_append, textsOf_ite, List.mem_append, List.mem_ite_nil_left] at h
    have hout : (if s.vpn_rule_white then "proxy" else "bypass") = "bypass" ∨
        (if s.vpn_rule_white then "proxy" else "bypass") = "proxy" ∧ s.vpn_rule_white = true := by
      split_ifs with hwhite
      · exact .inr ⟨rfl, hwhite⟩
      · exact .inl rfl
    rcases h with ((h | h) | h) | h
    · rw [List.mem_singleton.1 h.2]
      exact hout.imp_right fun hout => ⟨hout.1, htun, hout.2, fun hnone => h.1 hnone.1⟩
    · rw [List.mem_singleton.1 h.2]
      exact hout.imp_right fun hout => ⟨hout.1, htun, hout.2, fun hnone => h.1 hnone.2⟩
    · exact .inl (List.mem_singleton.1 h.2)
    · exact .inl (List.mem_singleton.1 h.2)
  · rw [if_neg htun] at h
    exact absurd h List.not_mem_nil

omit [Qt] in
/-- The rules of the Tun name the proxy if only some traffic is to go through it. -/
lemma proxy_mem_textsOf_tunRules (htun : tunIn env s forTest = true) (hwhite : s.vpn_rule_white = true)
    (h : ¬ (trimmed s.vpn_rule_process = "" ∧ trimmed s.vpn_rule_cidr = "")) :
    "proxy" ∈ textsOf (tunRules env s forTest extRs) "outbound" := by
  rw [tunRules, if_pos htun]
  dsimp only
  rw [if_pos hwhite]
  simp only [textsOf_append, textsOf_ite, List.mem_append, List.mem_ite_nil_left]
  by_cases hprocess : trimmed s.vpn_rule_process = ""
  · exact .inl (.inl (.inr ⟨fun hcidr => h ⟨hprocess, hcidr⟩, List.mem_singleton_self _⟩))
  · exact .inl (.inl (.inl ⟨hprocess, List.mem_singleton_self _⟩))

/-- The outbounds that the rules of the route name. -/
lemma mem_textsOf_routeRules {tag : String} :
    tag ∈ textsOf (routeRules env s forTest m entity tagProxy extRs) "outbound" ↔
      tag ∈ textsOf (userRules s forTest m entity tagProxy) "outbound" ∨
        tag ∈ textsOf (tunRules env s forTest extRs) "outbound" := by
  unfold routeRules
  simp only [textsOf_append, List.mem_append]
  constructor
  · rintro (((((h | h) | h) | h) | h) | h)
    · split_ifs at h <;> exact absurd h List.not_mem_nil
    · split_ifs at h <;> exact absurd h List.not_mem_nil
    · split_ifs at h <;> exact absurd h List.not_mem_nil
    · exact .inl h
    · exact absurd h List.not_mem_nil
    · exact .inr h
  · rintro (h | h)
    · exact .inl (.inl (.inr h))
    · exact .inr h

omit [Qt] in
lemma inboundsOf_addRule (toLower : String → String) (list : List String) (isIP : Bool)
    {field value : String} (hfield : field ≠ "inbound") {rule : JsonObject}
    (hrule : rule ∈ addRule (makeRule toLower list isIP) field value) : inboundsOf rule = [] := by
  rw [addRule] at hrule
  split_ifs at hrule
  · exact absurd hrule List.not_mem_nil
  · rw [List.mem_singleton.1 hrule, inboundsOf, JsonObject.get?_set, if_neg hfield,
      get?_makeRule toLower list isIP (.inl rfl)]

/-- The rules of the route apart from those of the chain name no inbound. -/
lemma inboundsOf_routeRules {rule : JsonObject}
    (hrule : rule ∈ routeRules env s forTest m entity tagProxy extRs) : inboundsOf rule = [] := by
  have haction : ("action" : String) ≠ "inbound" := by decide
  have houtbound : ("outbound" : String) ≠ "inbound" := by decide
  unfold routeRules userRules at hrule
  simp only [List.mem_append] at hrule
  rcases hrule with ((((h | h) | h) | (((((h | h) | h) | h) | h) | h)) | h) | h
  · split_ifs at h
    · exact absurd h List.not_mem_nil
    · rw [List.mem_singleton.1 h]
      rfl
  · split_ifs at h
    · exact absurd h List.not_mem_nil
    · rw [List.mem_singleton.1 h]
      rfl
    · rw [List.mem_singleton.1 h]
      rfl
  · split_ifs at h
    · exact absurd h List.not_mem_nil
    · rw [List.mem_singleton.1 h]
      rfl
  · exact inboundsOf_addRule _ _ _ haction h
  · exact inboundsOf_addRule _ _ _ houtbound h
  · exact inboundsOf_addRule _ _ _ houtbound h
  · exact inboundsOf_addRule _ _ _ haction h
  · exact inboundsOf_addRule _ _ _ houtbound h
  · exact inboundsOf_addRule _ _ _ houtbound h
  · simp only [List.mem_cons, List.not_mem_nil, or_false] at h
    rcases h with rfl | rfl | rfl | rfl <;> rfl
  · rw [tunRules] at h
    by_cases htun : tunIn env s forTest = true
    · rw [if_pos htun] at h
      dsimp only at h
      simp only [List.mem_append, List.mem_ite_nil_left, List.mem_singleton] at h
      rcases h with ((⟨-, rfl⟩ | ⟨-, rfl⟩) | ⟨-, rfl⟩) | ⟨-, rfl⟩ <;> rfl
    · rw [if_neg htun] at h
      exact absurd h List.not_mem_nil

/-! ### DNS -/

/-- The servers that the DNS rules name are there. -/
lemma mem_textsOf_dnsRules (chain : List String) {tag : String} :
    tag ∈ textsOf (dnsRules env s forTest m entity chain) "server" →
      tag = "dns-direct" ∨ (forTest = false ∧ (tag = "dns-remote" ∨ tag = "dns-block")) ∨
        (tag = "dns-fake" ∧ (s.fake_dns && tunIn env s forTest) = true) ∨
          (tag = "dns-hosts" ∧
            (hostsBlock isIpAddress s.hosts_mapping env.currentSsid).1.isEmpty = false) := by
  have hkey : ("server" : String) = "inbound" ∨ ("server" : String) = "outbound" ∨
      ("server" : String) = "server" := .inr (.inr rfl)
  unfold dnsRules
  simp only [textsOf_append, textsOf_addRule _ _ _ hkey, List.mem_append]
  rintro (((((h | h) | h) | h) | h) | h)
  · cases hrule : hostsRule isIpAddress Qt.toLower s.hosts_mapping env.currentSsid with
    | none =>
      rw [hrule] at h
      exact absurd h List.not_mem_nil
    | some rule =>
      rw [hrule] at h
      have htag : tag = "dns-hosts" := by
        rw [Platform.hostsRule_eq] at hrule
        dsimp only at hrule
        split_ifs at hrule
        rw [← Option.some.inj hrule] at h
        exact List.mem_singleton.1 h
      refine .inr (.inr (.inr ⟨htag, ?_⟩))
      rw [Bool.eq_false_iff, ne_eq, List.isEmpty_iff]
      exact Platform.hostsPredefined_ne_nil _ _ hrule
  · exact .inl (List.mem_singleton.1 h)
  · split_ifs at h with hremote
    · refine .inr (.inl ⟨?_, .inl (List.mem_singleton.1 h)⟩)
      by_contra htest
      rw [domainListDNSRemote, if_pos (Bool.eq_true_of_not_eq_false htest)] at hremote
      exact hremote.2 rfl
    · exact absurd h List.not_mem_nil
  · split_ifs at h
    · exact .inl (List.mem_singleton.1 h)
    · exact absurd h List.not_mem_nil
  · split_ifs at h with htest
    · exact absurd h List.not_mem_nil
    · refine .inr (.inl ⟨Bool.eq_false_of_not_eq_true htest, .inr ?_⟩)
      have hmem : tag ∈ ["dns-block", "dns-block"] := h
      simpa using hmem
  · split_ifs at h with hfake
    · exact .inr (.inr (.inl ⟨List.mem_singleton.1 h, hfake⟩))
    · exact absurd h List.not_mem_nil

/-- The DNS rules name the inbound of the Tun if it is there. -/
lemma inboundsOf_dnsRules (chain : List String) {rule : JsonObject}
    (hrule : rule ∈ dnsRules env s forTest m entity chain) {tag : String}
    (htag : tag ∈ inboundsOf rule) : tag = "tun-in" ∧ tunIn env s forTest = true := by
  have hserver : ("server" : String) ≠ "inbound" := by decide
  have hnone {rule : JsonObject} (htag : tag ∈ inboundsOf rule) (hnil : inboundsOf rule = []) :
      tag = "tun-in" ∧ tunIn env s forTest = true := by
    rw [hnil] at htag
    exact absurd htag List.not_mem_nil
  unfold dnsRules at hrule
  simp only [List.mem_append] at hrule
  rcases hrule with ((((h | h) | h) | h) | h) | h
  · rw [Option.mem_toList, Platform.hostsRule_eq] at h
    dsimp only at h
    split_ifs at h
    rw [← Option.some.inj h] at htag
    exact hnone htag rfl
  · rw [List.mem_singleton.1 h] at htag
    exact hnone htag rfl
  · exact hnone htag (inboundsOf_addRule _ _ _ hserver h)
  · exact hnone htag (inboundsOf_addRule _ _ _ hserver h)
  · split_ifs at h
    · exact absurd h List.not_mem_nil
    · simp only [List.mem_cons, List.not_mem_nil, or_false] at h
      rcases h with rfl | rfl <;> exact hnone htag rfl
  · split_ifs at h with hfake
    · rw [List.mem_singleton.1 h] at htag
      exact ⟨List.mem_singleton.1 htag, (Bool.and_eq_true_iff.1 hfake).2⟩
    · exact absurd h List.not_mem_nil

omit [Qt] in
lemma textField_set_eq {o : JsonObject} {k key : String} (hk : k ≠ key) {v : Json}
    {P : Option String → Prop} (h : P (textField o key)) : P (textField (o.set k v) key) := by
  rw [textField_set_of_ne o hk]
  exact h

omit [Qt] in
lemma textField_ite_eq {c : Prop} [Decidable c] {o o' : JsonObject} {key : String}
    {P : Option String → Prop} (h : P (textField o key)) (h' : P (textField o' key)) :
    P (textField (if c then o else o') key) := by
  split_ifs
  · exact h
  · exact h'

/-- The tag of a DNS server. -/
lemma textField_tag_buildTypedDnsServer {tag : String} (htag : tag ≠ "")
    (address detour strategy : String) :
    textField (buildTypedDnsServer tag address detour strategy) "tag" = some tag := by
  unfold buildTypedDnsServer
  dsimp only
  rw [if_neg htag]
  repeat' first
    | with_reducible apply textField_set_eq (P := fun v => v = some tag) (by decide)
    | with_reducible apply textField_ite_eq (P := fun v => v = some tag)
  all_goals rfl

/-- The detour of a DNS server. -/
lemma textField_detour_buildTypedDnsServer (tag address detour strategy : String) :
    textField (buildTypedDnsServer tag address detour strategy) "detour" = none ∨
      textField (buildTypedDnsServer tag address detour strategy) "detour" = some detour := by
  unfold buildTypedDnsServer
  dsimp only
  repeat' first
    | with_reducible apply textField_set_eq (P := fun v => v = none ∨ v = some detour) (by decide)
    | with_reducible apply textField_ite_eq (P := fun v => v = none ∨ v = some detour)
  all_goals first
    | with_reducible exact .inr ((textField_set _ _ _ _).trans (if_pos rfl))
    | exact .inl rfl

/-- The resolver of a DNS server. -/
lemma textField_resolver_buildTypedDnsServer (tag address detour strategy : String) :
    textField (buildTypedDnsServer tag address detour strategy) "domain_resolver" = none ∨
      textField (buildTypedDnsServer tag address detour strategy) "domain_resolver" =
        some "dns-local" := by
  unfold buildTypedDnsServer
  dsimp only
  repeat' first
    | with_reducible apply textField_set_eq (P := fun v => v = none ∨ v = some "dns-local") (by decide)
    | with_reducible apply textField_ite_eq (P := fun v => v = none ∨ v = some "dns-local")
  all_goals first
    | with_reducible exact .inr ((textField_set _ _ _ _).trans (if_pos rfl))
    | exact .inl rfl

omit [Qt] in
/-- The tags of the DNS servers. -/
def serverTags (env : BuildEnv) (s : Settings) (forTest : Bool) : List String :=
  let remote := if forTest then [] else ["dns-remote"]
  (if s.dns_final_out = "bypass" then "dns-direct" :: remote else remote ++ ["dns-direct"]) ++
    (if forTest then [] else ["dns-block"]) ++
    (if s.fake_dns && tunIn env s forTest then ["dns-fake"] else []) ++ ["dns-local"] ++
    (if (hostsBlock isIpAddress s.hosts_mapping env.currentSsid).1.isEmpty then []
      else ["dns-hosts"])

lemma tagsOf_dnsServers :
    tagsOf (dnsServers env s forTest tagProxy) = serverTags env s forTest := by
  have hremote := textField_tag_buildTypedDnsServer (show "dns-remote" ≠ "" by decide)
  have hdirect := textField_tag_buildTypedDnsServer (show "dns-direct" ≠ "" by decide)
  have hfake := textField_tag_buildTypedDnsServer (show "dns-fake" ≠ "" by decide)
  have hlocal := textField_tag_buildTypedDnsServer (show "dns-local" ≠ "" by decide)
  have hblock : textField [("tag", .str "dns-block"), ("address", .str "rcode://success")] "tag" =
      some "dns-block" := rfl
  have hhosts (predefined : JsonObject) :
      textField [("tag", .str "dns-hosts"), ("type", .str "hosts"),
        ("predefined", .obj predefined)] "tag" = some "dns-hosts" := rfl
  unfold dnsServers serverTags
  dsimp only
  by_cases hmapping : (hostsBlock isIpAddress s.hosts_mapping env.currentSsid).1.isEmpty = true <;>
    by_cases hfakes : (s.fake_dns && tunIn env s forTest) = true <;>
    by_cases hbypass : s.dns_final_out = "bypass" <;> cases forTest <;>
    simp only [hmapping, hfakes, hbypass, tagsOf, if_true, if_false, List.cons_append,
      List.nil_append, List.filterMap_cons, List.filterMap_nil, hremote, hdirect, hfake, hlocal,
      hblock, hhosts, Bool.false_eq_true]

/-- What holds of a DNS server of each kind holds of all. -/
lemma forall_mem_dnsServers {P : JsonObject → Prop}
    (htyped : ∀ tag address detour strategy, detour = tagProxy ∨ detour = "" →
      P (buildTypedDnsServer tag address detour strategy))
    (hblock : P [("tag", .str "dns-block"), ("address", .str "rcode://success")])
    (hhosts : ∀ predefined, P [("tag", .str "dns-hosts"), ("type", .str "hosts"),
      ("predefined", .obj predefined)]) :
    ∀ o ∈ dnsServers env s forTest tagProxy, P o := by
  unfold dnsServers
  dsimp only
  by_cases hmapping : (hostsBlock isIpAddress s.hosts_mapping env.currentSsid).1.isEmpty = true <;>
    by_cases hfakes : (s.fake_dns && tunIn env s forTest) = true <;>
    by_cases hbypass : s.dns_final_out = "bypass" <;> cases forTest <;>
    simp only [hmapping, hfakes, hbypass, if_true, if_false, List.cons_append, List.nil_append,
      Bool.false_eq_true, List.forall_mem_cons, List.not_mem_nil, IsEmpty.forall_iff, implies_true,
      and_true, hblock, hhosts, htyped, true_or, or_true]

/-- A DNS server that is named is there once. -/
lemma count_serverTags {tag : String}
    (h : tag = "dns-direct" ∨ tag = "dns-local" ∨
      (forTest = false ∧ (tag = "dns-remote" ∨ tag = "dns-block")) ∨
        (tag = "dns-fake" ∧ (s.fake_dns && tunIn env s forTest) = true) ∨
          (tag = "dns-hosts" ∧
            (hostsBlock isIpAddress s.hosts_mapping env.currentSsid).1.isEmpty = false)) :
    (serverTags env s forTest).count tag = 1 := by
  unfold serverTags
  dsimp only
  rcases h with rfl | rfl | ⟨rfl, rfl | rfl⟩ | ⟨rfl, h⟩ | ⟨rfl, h⟩
  · split_ifs <;> decide
  · split_ifs <;> decide
  · split_ifs <;> first | contradiction | decide
  · split_ifs <;> first | contradiction | decide
  · rw [if_pos h]
    split_ifs <;> decide
  · rw [h]
    split_ifs <;> first | contradiction | decide

end Rules

/-! ### The chain -/

omit [Qt] in
/-- The outbounds that the rules of a chain lead to. -/
lemma mem_textsOf_chainRules {hs : List Hop} {tag : String}
    (h : tag ∈ textsOf (chainRules hs) "outbound") : tag ∈ hs.map Hop.tag ∨ tag = "direct" := by
  induction hs with
  | nil => exact absurd h List.not_mem_nil
  | cons g hs ih =>
    cases hs with
    | nil =>
      rw [chainRules, Hop.lastRule] at h
      split_ifs at h
      · exact .inr (List.mem_singleton.1 h)
      · exact absurd h List.not_mem_nil
    | cons g' hs =>
      rw [chainRules, textsOf_append, List.mem_append, Hop.rule] at h
      rcases h with h | h
      · split_ifs at h
        · exact absurd h List.not_mem_nil
        · rw [List.mem_singleton.1 h]
          exact .inl (List.mem_cons_of_mem _ List.mem_cons_self)
      · exact (ih h).imp_left (List.mem_cons_of_mem _)

omit [Qt] in
/-- The rules of a chain name mappings that are there. -/
lemma inboundsOf_chainRules {hs : List Hop} (hstat : ∀ g ∈ hs.dropLast, g.stat = 0 ∨ g.stat = 1)
    {rule : JsonObject} (hrule : rule ∈ chainRules hs) {tag : String}
    (htag : tag ∈ inboundsOf rule) : ∃ g ∈ hs, g.stat = 1 ∧ tag = mappingTag g.tag := by
  induction hs with
  | nil => exact absurd hrule List.not_mem_nil
  | cons g hs ih =>
    cases hs with
    | nil =>
      rw [chainRules, Hop.lastRule] at hrule
      split_ifs at hrule with hone
      · rw [List.mem_singleton.1 hrule] at htag
        exact ⟨g, List.mem_cons_self, hone, List.mem_singleton.1 htag⟩
      · exact absurd hrule List.not_mem_nil
    | cons g' hs =>
      rw [chainRules, List.mem_append, Hop.rule] at hrule
      rcases hrule with hrule | hrule
      · split_ifs at hrule with hzero
        · exact absurd hrule List.not_mem_nil
        · rw [List.mem_singleton.1 hrule] at htag
          exact ⟨g, List.mem_cons_self, (hstat g List.mem_cons_self).resolve_left hzero,
            List.mem_singleton.1 htag⟩
      · obtain ⟨x, hx, hone, heq⟩ :=
          ih (fun x hx => hstat x (List.mem_cons_of_mem _ hx)) hrule
        exact ⟨x, List.mem_cons_of_mem _ hx, hone, heq⟩

omit [Qt] in
/-- The tags of the inbounds of a chain. -/
lemma tagsOf_mappings (hs : List Hop) :
    tagsOf (hs.flatMap Hop.mapping) =
      (hs.filter fun g => g.stat = 1).map fun g => mappingTag g.tag := by
  induction hs with
  | nil => rfl
  | cons g hs ih =>
    have happend : tagsOf (g.mapping ++ hs.flatMap Hop.mapping) =
        tagsOf g.mapping ++ tagsOf (hs.flatMap Hop.mapping) := List.filterMap_append
    rw [List.flatMap_cons, happend, ih, Hop.mapping]
    by_cases hone : g.stat = 1
    · rw [if_pos hone, List.filter_cons_of_pos (by simpa using hone)]
      rfl
    · rw [if_neg hone, List.filter_cons_of_neg (by simpa using hone)]
      rfl

omit [Qt] in
/-- The tags of the inbounds before those of a chain. -/
lemma tagsOf_firstInbounds :
    tagsOf (firstInbounds env s forTest) =
      (if isValidPort s.inbound_socks_port && !forTest then ["mixed-in"] else []) ++
        if tunIn env s forTest then ["tun-in"] else [] := by
  have hmixed : textField (mixedIn s) "tag" = some "mixed-in" := by
    rw [mixedIn]
    split_ifs <;> rfl
  have htun : textField (tunInbound env s) "tag" = some "tun-in" := by
    rw [tunInbound]
    split_ifs <;> rfl
  unfold firstInbounds tagsOf
  split_ifs <;> simp only [List.filterMap_append, List.filterMap_cons, List.filterMap_nil, hmixed, htun]

/-! ### Closed configurations -/

section Closed

variable {m : ProfileManager Bean} {ent : Ref} {ents : List Ref} {config : JsonObject} {hs : List Hop}

omit [Qt] in
lemma mappingTag_ne {name : String} (hname : name.toList.getLast? = some 'n') (tag : String) :
    name ≠ mappingTag tag := by
  intro h
  have htext : (mappingTag tag).toList = tag.toList ++ ("-mapping".toList.dropLast ++ ['g']) := by
    rw [mappingTag, String.toList_append]
    rfl
  rw [h, htext, ← List.append_assoc, List.getLast?_concat] at hname
  exact absurd (Option.some.inj hname) (by decide)

omit [Qt] in
/-- A mapping that a rule names is there once. -/
lemma count_mapping (hnodup : (hs.map Hop.tag).Nodup) {g : Hop} (hg : g ∈ hs) (hone : g.stat = 1) :
    (tagsOf (firstInbounds env s forTest ++ hs.flatMap Hop.mapping)).count (mappingTag g.tag) = 1 := by
  have happend : tagsOf (firstInbounds env s forTest ++ hs.flatMap Hop.mapping) =
      tagsOf (firstInbounds env s forTest) ++ tagsOf (hs.flatMap Hop.mapping) :=
    List.filterMap_append
  have hfirst : mappingTag g.tag ∉ tagsOf (firstInbounds env s forTest) := by
    rw [tagsOf_firstInbounds]
    intro hmem
    rcases List.mem_append.1 hmem with hmem | hmem
    · split_ifs at hmem
      · exact mappingTag_ne (by decide) g.tag (List.mem_singleton.1 hmem).symm
      · exact absurd hmem List.not_mem_nil
    · split_ifs at hmem
      · exact mappingTag_ne (by decide) g.tag (List.mem_singleton.1 hmem).symm
      · exact absurd hmem List.not_mem_nil
  have hmaps : ((hs.filter fun g => g.stat = 1).map fun g => mappingTag g.tag).Nodup := by
    have hsub : ((hs.filter fun g => g.stat = 1).map Hop.tag).Nodup :=
      (List.filter_sublist.map _).nodup hnodup
    have hmap : ((hs.filter fun g => g.stat = 1).map fun g => mappingTag g.tag) =
        ((hs.filter fun g => g.stat = 1).map Hop.tag).map mappingTag := by
      rw [List.map_map]
      rfl
    rw [hmap]
    exact hsub.map mappingTag_injective
  rw [happend, List.count_append, List.count_eq_zero.2 hfirst, tagsOf_mappings, Nat.zero_add]
  refine List.count_eq_one_of_mem hmaps ?_
  exact List.mem_map.2 ⟨g, List.mem_filter.2 ⟨hg, decide_eq_true hone⟩, rfl⟩

omit [Qt] in
/-- The inbound of the Tun is there once, if it is there. -/
lemma count_tunIn (htun : tunIn env s forTest = true) :
    (tagsOf (firstInbounds env s forTest ++ hs.flatMap Hop.mapping)).count "tun-in" = 1 := by
  have happend : tagsOf (firstInbounds env s forTest ++ hs.flatMap Hop.mapping) =
      tagsOf (firstInbounds env s forTest) ++ tagsOf (hs.flatMap Hop.mapping) :=
    List.filterMap_append
  have hmaps : "tun-in" ∉ tagsOf (hs.flatMap Hop.mapping) := by
    rw [tagsOf_mappings]
    intro hmem
    obtain ⟨g, -, hg⟩ := List.mem_map.1 hmem
    exact mappingTag_ne (by decide) g.tag hg.symm
  rw [happend, List.count_append, List.count_eq_zero.2 hmaps, tagsOf_firstInbounds, if_pos htun]
  split_ifs <;> decide

omit [Qt] in
/-- What the outbounds of a chain lead to. -/
lemma mem_detoursOf_chain {tag : String} (h : tag ∈ detoursOf (linkedOutbounds hs))
    (hself : ∀ g ∈ hs, g.stat ≠ 0 → g.outbound.get? "detour" = none) :
    tag ∈ hs.map Hop.tag ∨
      ∃ g ∈ hs.getLast?, g.outbound.get? "detour" = some (.str tag) ∧ tag ≠ "" := by
  obtain ⟨htag, hne⟩ := List.mem_filter.1 h
  obtain ⟨o, ho, htext⟩ := List.mem_filterMap.1 htag
  rcases of_mem_linkedOutbounds ho with ⟨pre, g, g', rest, hhs, rfl⟩ | ⟨pre, g, hhs, rfl⟩
  · rw [Hop.linked] at htext
    split_ifs at htext with hzero
    · rw [textField_set, if_pos rfl] at htext
      rw [← Option.some.inj htext, hhs, List.map_append]
      exact .inl (List.mem_append_right _ (List.mem_cons_of_mem _ List.mem_cons_self))
    · rw [textField, hself g (by rw [hhs]; exact List.mem_append_right _ List.mem_cons_self) hzero]
        at htext
      exact absurd htext (by rintro ⟨⟩)
  · refine .inr ⟨g, by rw [hhs, List.getLast?_concat]; rfl, ?_, of_decide_eq_true hne⟩
    rw [textField] at htext
    split at htext
    · rename_i heq
      rw [heq, Option.some.inj htext]
    · exact absurd htext (by rintro ⟨⟩)

omit [Qt] in
/-- Every server after the first is led to: by a detour, or by a rule. -/
lemma mem_refs_of_next {pre rest : List Hop} {g g' : Hop} (hhs : hs = pre ++ g :: g' :: rest)
    (hne : g'.tag ≠ "") :
    g'.tag ∈ detoursOf (linkedOutbounds hs) ∨ g'.tag ∈ textsOf (chainRules hs) "outbound" := by
  by_cases hzero : g.stat = 0
  · refine .inl (List.mem_filter.2 ⟨List.mem_filterMap.2 ⟨g.linked g'.tag, ?_, ?_⟩, decide_eq_true hne⟩)
    · rw [hhs]
      exact mem_linkedOutbounds pre g g' rest
    · rw [Hop.linked, if_pos hzero, textField_set, if_pos rfl]
  · refine .inr (List.mem_filterMap.2 ⟨inboundRule (mappingTag g.tag) g'.tag, ?_, rfl⟩)
    rw [hhs]
    refine mem_chainRules pre g g' rest ?_
    rw [Hop.rule, if_neg hzero]
    exact List.mem_singleton_self _

omit [Qt] in
/-- What is not first comes after something. -/
lemma exists_before_of_mem_tail {α : Type} {l : List α} {x : α} (h : x ∈ l.tail) :
    ∃ pre y rest, l = pre ++ y :: x :: rest := by
  cases l with
  | nil => exact absurd h List.not_mem_nil
  | cons y l =>
    obtain ⟨pre, rest, rfl⟩ := List.append_of_mem h
    rcases List.eq_nil_or_concat pre with rfl | ⟨pre, z, rfl⟩
    · exact ⟨[], y, rest, rfl⟩
    · refine ⟨y :: pre, z, rest, ?_⟩
      rw [List.concat_eq_append, List.append_assoc]
      rfl

omit [Qt] in
lemma tagsOf_chain {status : BuildStatus} (h : Carries status hs) :
    tagsOf status.outbounds = hs.map Hop.tag := by
  have htags := congrArg (List.filterMap id) h.outboundTags
  rw [outboundTags, List.filterMap_map, List.filterMap_map] at htags
  exact htags.trans (congrFun List.filterMap_eq_map' hs)

end Closed

/-- A configuration with the servers of its chain. -/
structure Described (env : BuildEnv) (s : Settings) (forTest : Bool) (m : ProfileManager Bean)
    (ent : Ref) (ents : List Ref) (config : JsonObject) (hs : List Hop) : Prop where
  parts : Parts env s forTest m ent config
  result : ChainResult (chainOf env s forTest m ent).1 (chainOf env s forTest m ent).2
    (firstInbounds env s forTest) ent hs
  tags : hs.map Hop.tag = chainTags ents.length m.objects 0 ents
  fields : ∀ g ∈ hs, textField g.outbound "tag" = some g.tag ∧
    g.outbound.get? "detour" = customField g.bean "detour" ∧
      (g.stat ≠ 0 → g.outbound.get? "detour" = none)
  stat : ∀ g ∈ hs.dropLast, g.stat = 0 ∨ g.stat = 1
  last : (hs.getLast?.map fun g => customField g.bean "detour") =
    ents.getLast?.map fun p => customField (m.objects p).bean "detour"

namespace Described

variable {m : ProfileManager Bean} {ent : Ref} {ents : List Ref} {config : JsonObject} {hs : List Hop}

lemma carries (h : Described env s forTest m ent ents config hs) :
    Carries (chainOf env s forTest m ent).1 hs :=
  ⟨h.result.outbounds, h.result.routingRules,
    ⟨_, h.result.inbounds, fun _ ho tag => firstInbounds_ne_mappingTag ho tag⟩,
    fun g hg => (h.fields g hg).1⟩

lemma outboundTags (h : Described env s forTest m ent ents config hs) :
    tagsOf (objectsOf config "outbounds") = definedTags m.objects ents := by
  have happend : tagsOf ((chainOf env s forTest m ent).1.outbounds ++ directOutbounds) =
      tagsOf (chainOf env s forTest m ent).1.outbounds ++ tagsOf directOutbounds :=
    List.filterMap_append
  rw [h.parts.outbounds, happend, tagsOf_chain h.carries, h.tags]
  rfl

lemma inboundTags (h : Described env s forTest m ent ents config hs) :
    tagsOf (objectsOf config "inbounds") =
      tagsOf (firstInbounds env s forTest ++ hs.flatMap Hop.mapping) := by
  rw [h.parts.inbounds, h.result.inbounds]

/-- The tag of the chain: there is none without servers. -/
lemma tagProxy (h : Described env s forTest m ent ents config hs) :
    (chainOf env s forTest m ent).2 = if ents = [] then "" else "proxy" := by
  have hhead := congrArg List.head? h.tags
  rw [List.head?_map] at hhead
  rw [h.result.tagOut_eq, hhead]
  cases ents with
  | nil => rfl
  | cons p ps => exact tagOut_first _ _

/-- The outbounds that are referred to. -/
lemma mem_outboundRefs (h : Described env s forTest m ent ents config hs) (tag : String) :
    tag ∈ outboundRefs config ↔
      (tag ∈ detoursOf (linkedOutbounds hs) ∨ tag ∈ textsOf (chainRules hs) "outbound") ∨
        tag ∈ detoursOf (dnsServers env s forTest (chainOf env s forTest m ent).2) ∨
          tag ∈ textsOf (routeRules env s forTest m (m.objects ent) (chainOf env s forTest m ent).2
            (chainOf env s forTest m ent).1.extRs) "outbound" ∨
              (forTest = false ∧ tag = finalOut env s) := by
  have hdetours (parts parts' : List JsonObject) :
      detoursOf (parts ++ parts') = detoursOf parts ++ detoursOf parts' := by
    rw [detoursOf, textsOf_append, List.filter_append, detoursOf, detoursOf]
  have hdirect : detoursOf directOutbounds = [] := rfl
  have hfinal : tag ∈ (if forTest then none else some (finalOut env s)).toList ↔
      forTest = false ∧ tag = finalOut env s := by
    split_ifs with htest
    · exact iff_of_false List.not_mem_nil fun h => absurd htest (by rw [h.1]; exact Bool.false_ne_true)
    · rw [Option.toList_some, List.mem_singleton]
      exact ⟨fun heq => ⟨Bool.eq_false_of_not_eq_true htest, heq⟩, fun heq => heq.2⟩
  have hshuffle {a b c d e : Prop} : ((a ∨ c) ∨ (b ∨ d)) ∨ e ↔ (a ∨ b) ∨ c ∨ d ∨ e := by tauto
  rw [outboundRefs, h.parts.outbounds, h.parts.servers, h.parts.rules, h.parts.final,
    h.result.outbounds, h.result.routingRules, hdetours, hdirect, List.append_nil, textsOf_append,
    List.mem_append, List.mem_append, List.mem_append, List.mem_append, hfinal]
  exact hshuffle

/-- What is always there is there once, as the tags of the chain are if they are distinct. -/
lemma count_eq_one (h : Described env s forTest m ent ents config hs)
    (hnodup : (chainTags ents.length m.objects 0 ents).Nodup) {tag : String}
    (htag : tag ∈ definedTags m.objects ents) :
    (tagsOf (objectsOf config "outbounds")).count tag = 1 := by
  rw [h.outboundTags]
  refine List.count_eq_one_of_mem ?_ htag
  rw [definedTags, List.nodup_append]
  refine ⟨hnodup, by decide, ?_⟩
  rintro a ha b hb rfl
  have hne := ne_of_mem_chainTags ha
  simp only [List.mem_cons, List.not_mem_nil, or_false] at hb
  exact hb.elim hne.2.1 hne.2.2

/-- A configuration with closable parts is closed. -/
theorem closed (h : Described env s forTest m ent ents config hs)
    (hclosable : Closable env s forTest m.objects ents) : Closed config := by
  have hnodup : (chainTags ents.length m.objects 0 ents).Nodup :=
    (nodup_chainTags ents).2 hclosable.inner
  have hhops : (hs.map Hop.tag).Nodup := by
    rw [h.tags]
    exact hnodup
  have hchain {tag : String} (htag : tag ∈ hs.map Hop.tag) : tag ∈ definedTags m.objects ents := by
    rw [h.tags] at htag
    exact List.mem_append_left _ htag
  have hdirect : "direct" ∈ definedTags m.objects ents :=
    List.mem_append_right _ List.mem_cons_self
  have hbypass : "bypass" ∈ definedTags m.objects ents :=
    List.mem_append_right _ (List.mem_cons_of_mem _ List.mem_cons_self)
  have hproxy (hne : ents ≠ []) : "proxy" ∈ definedTags m.objects ents := by
    refine List.mem_append_left _ ?_
    obtain ⟨p, ps, rfl⟩ := List.exists_cons_of_ne_nil hne
    rw [chainTags, tagOut_first]
    exact List.mem_cons_self
  constructor
  · intro tag htag
    refine h.count_eq_one hnodup ?_
    rcases (h.mem_outboundRefs tag).1 htag with (htag | htag) | htag | htag | ⟨htest, rfl⟩
    · rcases mem_detoursOf_chain htag fun g hg => (h.fields g hg).2.2 with htag | ⟨g, hg, hdetour, hne⟩
      · exact hchain htag
      · have hlast := h.last
        rw [hg, Option.map_some, eq_comm, Option.map_eq_some_iff] at hlast
        obtain ⟨p, hp, hfield⟩ := hlast
        refine hclosable.last p hp tag ?_ hne
        rw [hfield, ← (h.fields g (List.mem_of_getLast? hg)).2.1, hdetour]
    · rcases mem_textsOf_chainRules htag with htag | rfl
      · exact hchain htag
      · exact hdirect
    · obtain ⟨htext, hne⟩ := List.mem_filter.1 htag
      obtain ⟨o, ho, htag⟩ := List.mem_filterMap.1 htext
      have hdetour := forall_mem_dnsServers (chainOf env s forTest m ent).2
        (P := fun o => ∀ tag, textField o "detour" = some tag →
          tag = (chainOf env s forTest m ent).2 ∨ tag = "")
        (fun name address detour strategy hdetour tag htag => by
          rcases textField_detour_buildTypedDnsServer name address detour strategy with hnone | hsome
          · rw [hnone] at htag
            exact absurd htag (by rintro ⟨⟩)
          · rw [hsome] at htag
            rw [← Option.some.inj htag]
            exact hdetour)
        (fun tag htag => absurd htag (by rintro ⟨⟩)) (fun _ tag htag => absurd htag (by rintro ⟨⟩)) o ho tag htag
      have htagProxy := hdetour.resolve_right (of_decide_eq_true hne)
      rw [h.tagProxy] at htagProxy
      split_ifs at htagProxy with hents
      · exact absurd htagProxy (of_decide_eq_true hne)
      · rw [htagProxy]
        exact hproxy hents
    · rw [mem_textsOf_routeRules] at htag
      rcases htag with htag | htag
      · rcases mem_textsOf_userRules _ _ _ htag with rfl | ⟨htagProxy, hrule⟩
        · exact hbypass
        · rw [h.tagProxy] at htagProxy
          split_ifs at htagProxy with hents
          · exact absurd hrule (not_or.2 ⟨not_not.2 (hclosable.proxyDomain hents),
              not_not.2 (hclosable.proxyIp hents)⟩)
          · rw [htagProxy]
            exact hproxy hents
      · rcases mem_textsOf_tunRules _ htag with rfl | ⟨rfl, htun, hwhite, hrules⟩
        · exact hbypass
        · exact hproxy fun hents => hrules (hclosable.white hents htun hwhite)
    · rw [finalOut]
      split_ifs with hwhite
      · exact hbypass
      · exact hclosable.final htest (Bool.eq_false_of_not_eq_true hwhite)
  · intro tag htag
    rw [h.inboundTags]
    rw [inboundRefs, h.parts.rules, h.parts.dnsRules] at htag
    rcases List.mem_append.1 htag with htag | htag
    · obtain ⟨rule, hrule, htag⟩ := List.mem_flatMap.1 htag
      rcases List.mem_append.1 hrule with hrule | hrule
      · rw [h.result.routingRules] at hrule
        obtain ⟨g, hg, hone, rfl⟩ := inboundsOf_chainRules h.stat hrule htag
        exact count_mapping hhops hg hone
      · rw [inboundsOf_routeRules _ _ _ _ hrule] at htag
        exact absurd htag List.not_mem_nil
    · obtain ⟨rule, hrule, htag⟩ := List.mem_flatMap.1 htag
      obtain ⟨rfl, htun⟩ := inboundsOf_dnsRules _ _ _ hrule htag
      exact count_tunIn htun
  · intro tag htag
    rw [h.parts.servers, tagsOf_dnsServers]
    rw [serverRefs, h.parts.dnsRules, h.parts.servers, h.parts.resolver] at htag
    refine count_serverTags ?_
    rcases List.mem_append.1 htag with htag | htag
    · rcases List.mem_append.1 htag with htag | htag
      · rcases mem_textsOf_dnsRules _ _ _ htag with h | h | h | h
        · exact .inl h
        · exact .inr (.inr (.inl h))
        · exact .inr (.inr (.inr (.inl h)))
        · exact .inr (.inr (.inr (.inr h)))
      · obtain ⟨o, ho, htag⟩ := List.mem_filterMap.1 htag
        refine .inr (.inl ?_)
        refine forall_mem_dnsServers (chainOf env s forTest m ent).2
          (P := fun o => ∀ tag, textField o "domain_resolver" = some tag → tag = "dns-local")
          (fun name address detour strategy _ tag htag => ?_)
          (fun tag htag => absurd htag (by rintro ⟨⟩)) (fun _ tag htag => absurd htag (by rintro ⟨⟩)) o ho tag htag
        rcases textField_resolver_buildTypedDnsServer name address detour strategy with hnone | hsome
        · rw [hnone] at htag
          exact absurd htag (by rintro ⟨⟩)
        · rw [hsome] at htag
          exact (Option.some.inj htag).symm
    · exact .inl (Option.some.inj (Option.mem_toList.1 htag)).symm

/-- What is there once is there. -/
lemma mem_of_closed (h : Described env s forTest m ent ents config hs) (hclosed : Closed config)
    {tag : String} (htag : tag ∈ outboundRefs config) : tag ∈ definedTags m.objects ents := by
  have hcount := hclosed.outbounds tag htag
  rw [h.outboundTags] at hcount
  exact List.count_pos_iff.1 (by omega)

/-- A closed configuration has closable parts. -/
theorem closable (h : Described env s forTest m ent ents config hs) (hclosed : Closed config) :
    Closable env s forTest m.objects ents := by
  have hproxy {tag : String} (hents : ents = []) (htag : tag ∈ outboundRefs config) :
      tag = "direct" ∨ tag = "bypass" := by
    have hmem := h.mem_of_closed hclosed htag
    rw [hents, definedTags, chainTags, List.nil_append] at hmem
    simpa using hmem
  have htagProxy (hents : ents = []) : (chainOf env s forTest m ent).2 = "" := by
    rw [h.tagProxy, if_pos hents]
  have hrule (hents : ents = [])
      (hrule : makeRule Qt.toLower (userLines forTest s.proxy_domain) false ≠ [] ∨
        makeRule Qt.toLower (userLines forTest s.proxy_ip) true ≠ []) : False := by
    have hmem := tagProxy_mem_textsOf_userRules m (m.objects ent) (chainOf env s forTest m ent).2 hrule
    have hrefs := (h.mem_outboundRefs _).2
      (.inr (.inr (.inl ((mem_textsOf_routeRules _ _ _ _).2 (.inl hmem)))))
    rw [htagProxy hents] at hrefs
    exact absurd (hproxy hents hrefs) (by decide)
  constructor
  · refine nodup_inner_of_tail (List.nodup_iff_count_le_one.2 fun tag => ?_)
    by_cases hmem : tag ∈ (chainTags ents.length m.objects 0 ents).tail
    · have htail : tag ∈ (hs.map Hop.tag).tail := by
        rw [h.tags]
        exact hmem
      rw [← List.map_tail] at htail
      obtain ⟨g', hg', rfl⟩ := List.mem_map.1 htail
      obtain ⟨pre, g, rest, hhs⟩ := exists_before_of_mem_tail hg'
      have hne := (ne_of_mem_chainTags (List.mem_of_mem_tail hmem)).1
      have hcount := hclosed.outbounds g'.tag
        ((h.mem_outboundRefs _).2 (.inl (mem_refs_of_next hhs hne)))
      rw [h.outboundTags, definedTags, List.count_append] at hcount
      have hsub := (List.tail_sublist (chainTags ents.length m.objects 0 ents)).count_le g'.tag
      omega
    · rw [List.count_eq_zero.2 hmem]
      exact Nat.zero_le 1
  · intro p hp tag hfield hne
    have hlast := h.last
    rw [hp, Option.map_some, Option.map_eq_some_iff] at hlast
    obtain ⟨g, hg, hdetour⟩ := hlast
    refine h.mem_of_closed hclosed ((h.mem_outboundRefs _).2 (.inl (.inl ?_)))
    refine List.mem_filter.2 ⟨List.mem_filterMap.2 ⟨g.outbound, ?_, ?_⟩, decide_eq_true hne⟩
    · refine List.mem_of_getLast? ?_
      rw [getLast?_linkedOutbounds, hg]
      rfl
    · rw [textField, (h.fields g (List.mem_of_getLast? hg)).2.1, hdetour, hfield]
  · intro htest hwhite
    refine h.mem_of_closed hclosed ((h.mem_outboundRefs _).2 (.inr (.inr (.inr ⟨htest, ?_⟩))))
    rw [finalOut, hwhite]
    rfl
  · intro hents
    by_contra hne
    exact hrule hents (.inl hne)
  · intro hents
    by_contra hne
    exact hrule hents (.inr hne)
  · intro hents htun hwhite
    by_contra hne
    have hmem := proxy_mem_textsOf_tunRules (chainOf env s forTest m ent).1.extRs htun hwhite hne
    have hrefs := (h.mem_outboundRefs _).2
      (.inr (.inr (.inl ((mem_textsOf_routeRules _ _ _ _).2 (.inr hmem)))))
    exact absurd (hproxy hents hrefs) (by decide)

end Described

variable {forExport : Bool} {m : ProfileManager Bean} {ent : Ref} {ents : List Ref}

/-- A configuration that is built without an error has its parts, and the servers of its chain. -/
lemma described_of_ok (hents : m.buildChain ent = .ok ents)
    (hcustom : ∀ p ∈ ents, NoCustomOutbound (m.objects p).bean) (huser : NoUserJson s forTest)
    (hok : (buildConfigSingBox env s forTest forExport m ent).1.error = "") :
    Described env s forTest m ent ents (buildConfigSingBox env s forTest forExport m ent).2
      (hops env s ents.length m.objects false 0 ents) := by
  obtain ⟨hchain, hparts⟩ := parts_of_ok huser hok
  obtain ⟨ents', hents', hbuilt⟩ := buildChain_result hchain
  rw [Except.ok.inj (hents'.symm.trans hents)] at hbuilt
  obtain ⟨haccepted, hresult⟩ := hbuilt
  have hlast := congrArg List.getLast? (map_bean_hops env s (f := fun bean => customField bean "detour")
    (customField_afterBuild "detour") ents.length m.objects false 0 ents)
  rw [List.getLast?_map, List.getLast?_map] at hlast
  exact ⟨hparts, hresult, tags_hops env s ents.length m.objects false 0 ents,
    fields_of_mem_hops env s ents.length false 0 hcustom,
    stat_of_mem_dropLast env s (Nat.zero_add _) haccepted, hlast⟩

/-- **A configuration that is built without an error is closed** exactly if it is closable.

**Proof sketch.** Each server after the first is led to, so its tag is to be there once, which it is if
no server occurs twice between the first and the last. The other references go to what is always
there, or there under the same condition, apart from those that the conditions name. -/
theorem closed_iff (env : BuildEnv) (s : Settings) (forTest forExport : Bool)
    (m : ProfileManager Bean) (ent : Ref) (ents : List Ref) (hents : m.buildChain ent = .ok ents)
    (hcustom : ∀ p ∈ ents, NoCustomOutbound (m.objects p).bean) (huser : NoUserJson s forTest)
    (hok : (buildConfigSingBox env s forTest forExport m ent).1.error = "") :
    Closed (buildConfigSingBox env s forTest forExport m ent).2 ↔
      Closable env s forTest m.objects ents := by
  have hdescribed := described_of_ok hents hcustom huser hok
  exact ⟨hdescribed.closable, hdescribed.closed⟩

end Config

/-- The plain server, without JSON texts of the user. -/
theorem closed_iff_repeatingManager :
    let _ := plainQt
    Closed (buildConfigSingBox plainEnv {} false false repeatingManager 1).2 ↔
      Closable plainEnv {} false repeatingManager.objects [1] :=
  let _ := plainQt
  closed_iff plainEnv {} false false repeatingManager 1 [1] rfl (fun _ _ => rfl)
    ⟨fun _ => rfl, fun _ => rfl, fun _ => rfl, rfl⟩ rfl

/-- **A configuration may not be closed**: the outbound `block` can be chosen for what no rule is for,
and is in no configuration. -/
theorem not_closed : ¬ ∀ (_ : Qt) (env : BuildEnv) (s : Settings) (forTest forExport : Bool)
    (m : ProfileManager Bean) (ent : Ref) (ents : List Ref), m.buildChain ent = .ok ents →
    (∀ p ∈ ents, NoCustomOutbound (m.objects p).bean) → NoUserJson s forTest →
    (buildConfigSingBox env s forTest forExport m ent).1.error = "" →
    Closed (buildConfigSingBox env s forTest forExport m ent).2 := by
  intro h
  let _ := plainQt
  let s : Settings := { def_outbound := "block" }
  have huser : NoUserJson s false := ⟨fun _ => rfl, fun _ => rfl, fun _ => rfl, rfl⟩
  have hclosed := h plainQt plainEnv s false false repeatingManager 1 [1] rfl (fun _ _ => rfl) huser rfl
  have hents : repeatingManager.buildChain 1 = .ok [1] := rfl
  have hok : (buildConfigSingBox plainEnv s false false repeatingManager 1).1.error = "" := rfl
  have hdescribed := described_of_ok hents (fun _ _ => rfl) huser hok
  have hfinal := (hdescribed.closable hclosed).final rfl rfl
  exact absurd hfinal (by decide)

end Proxor.Db
