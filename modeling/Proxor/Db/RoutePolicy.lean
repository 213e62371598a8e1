import Proxor.Db.RuleKinds
import Proxor.Db.TagClosure
import Proxor.Lib.RuleList

set_option relaxedAutoImplicit false
set_option autoImplicit false

/-!
# Where a connection goes

The rules of a configuration mean something to the core: it tries them in their order, and the arrays of a rule are
conditions on a connection. What the settings say about a connection is said here without rules, line by line, and
compared with what the core makes of the rules.

## Main definitions

* `Proxor.Db.Matcher`, `Proxor.Db.Matcher.meaning` — what the core makes of a rule.
* `Proxor.Db.Matcher.policy` — what the settings say about a connection.
* `Proxor.Db.Matcher.sent`, `Proxor.Db.Matcher.wants` — where a connection goes, and where it should.
* `Proxor.Db.HasLines` — a list of processes or addresses that has a text has a line.

## Main results

* `Proxor.Db.Matcher.route_routeRules` — what the rules of the route make of a connection.
* `Proxor.Db.routed_iff` — exactly then the core does with every connection what the settings say.
* `Proxor.Db.not_routed_commentedSettings` — a list that is commented out.

## Design

Whether a value of a field fits a connection, and what sniffing finds out, are the core's: they are parameters. How a
rule combines its fields is documented by it: the fields of an address are alternatives, and so are those of a port, an
empty array is no condition, and a rule without conditions fits every connection.
-/

namespace Proxor.Db

open Fmt RuleList
open ProfileManager (trimmed)
open Platform (splitLinesSkipSharp)

/-! ### What a rule means -/

/-- What becomes of a connection. -/
inductive Verdict
  | outbound (tag : String)
  | reject
  | hijackDns
deriving DecidableEq

/-- What the core finds out about connections: whether a value of a field fits, and what is known after sniffing. -/
structure Matcher (C : Type) where
  fits : (field : String) → Json → C → Bool
  sniff : (overrideDestination : Bool) → C → C

/-- The fields that say what is done. -/
def actionFields : List String := ["action", "outbound", "override_destination"]

/-- Fields of which one is enough. -/
def groupOf (field : String) : String :=
  if ["domain", "domain_suffix", "domain_keyword", "domain_regex", "geosite", "geoip", "ip_cidr"].contains field then
    "destination"
  else if ["source_geoip", "source_ip_cidr"].contains field then "source"
  else if ["port", "port_range"].contains field then "port"
  else if ["source_port", "source_port_range"].contains field then "source_port"
  else field

/-- The values of a field: a single one stands for itself. -/
def valuesOf : Json → List Json
  | .arr items => items
  | v => [v]

namespace Matcher

variable {C : Type} (m : Matcher C)

/-- A field of which one of its values fits. -/
def fitsOne (field : String × Json) (c : C) : Bool := (valuesOf field.2).any fun v => m.fits field.1 v c

/-- The fields that are conditions. -/
def conditionsOf (rule : JsonObject) : List (String × Json) :=
  rule.filter fun field => !actionFields.contains field.1 && !(valuesOf field.2).isEmpty

/-- **What a rule means.** -/
def meaning (rule : JsonObject) : Rule String C Verdict where
  conditions := (conditionsOf rule).map fun field => (groupOf field.1, m.fitsOne field)
  effect c :=
    if textField rule "action" = some "reject" then .error .reject
    else if textField rule "action" = some "hijack-dns" then .error .hijackDns
    else if textField rule "action" = some "sniff" then
      .ok (m.sniff (match rule.get? "override_destination" with
        | some (.bool b) => b
        | _ => false) c)
    else match textField rule "outbound" with
      | some tag => .error (.outbound tag)
      | none => .ok c

/-- What rules make of a connection. -/
def route (rules : List JsonObject) (c : C) : Except Verdict C := run (rules.map m.meaning) c

/-! ### What the settings say -/

variable [Qt]

/-- A line of a list fits, by its kind. -/
def onLine (isIP : Bool) (c : C) (line : String) : Bool :=
  m.fits (kindOf isIP line).field (.str (written Qt.toLower isIP line)) c

/-- One of some texts fits. -/
def oneOf (field : String) (items : List String) (c : C) : Bool := items.any fun item => m.fits field (.str item) c

/-- What is said apart from the lists of the Tun: QUIC is refused, name requests are answered, and then the lists of the
user decide, first by name, then by address, each time what is blocked before what goes through the chain before what
goes past it; what a tunnel cannot carry is refused. -/
def commonPolicy (env : BuildEnv) (s : Settings) (forTest : Bool) (mgr : ProfileManager Bean)
    (ent : ProxyEntity Bean) (tagProxy : String) (c : C) : Except Verdict C := do
  let direct := if forTest then [] else splitLinesSkipSharp s.direct_domain ++ directSites s mgr ent
  decides (!forTest && (m.fits "network" (.str "udp") c && m.fits "port" (.num 443) c)) .reject
  let c := if forTest || decide (s.sniffing_mode = .disable) then c
    else m.sniff (decide (s.sniffing_mode = .forDestination)) c
  decides (!forTest && m.fits "protocol" (.str "dns") c) .hijackDns
  decides ((userLines forTest s.block_domain).any (m.onLine false c)) .reject
  decides ((userLines forTest s.proxy_domain).any (m.onLine false c)) (.outbound tagProxy)
  decides (direct.any (m.onLine false c)) (.outbound "bypass")
  decides ((userLines forTest s.block_ip).any (m.onLine true c)) .reject
  decides ((userLines forTest s.proxy_ip).any (m.onLine true c)) (.outbound tagProxy)
  decides ((userLines forTest s.direct_ip).any (m.onLine true c)) (.outbound "bypass")
  decides (m.fits "network" (.str "udp") c &&
    [135, 137, 138, 139, 5353].any fun port => m.fits "port" (.num port) c) .reject
  decides (m.oneOf "ip_cidr" ["224.0.0.0/3", "ff00::/8"] c) .reject
  decides (m.oneOf "source_ip_cidr" ["224.0.0.0/3", "ff00::/8"] c) .reject
  decides (m.oneOf "ip_cidr" env.tunAddresses c) .reject
  return c

omit [Qt] in
/-- What is said about processes and addresses while Tun is on, when its lists are `process` and `cidr`. -/
def tunPolicy (process cidr : C → Bool) (env : BuildEnv) (s : Settings) (forTest : Bool)
    (extRs : List ExternalBuildResult) (c : C) : Except Verdict C := do
  let match_out := if s.vpn_rule_white then "proxy" else "bypass"
  let autoBypass := env.autoBypass (externalCorePrograms env extRs) s.vpn_bypass_vpn_clients
  decides (tunIn env s forTest && process c) (.outbound match_out)
  decides (tunIn env s forTest && cidr c) (.outbound match_out)
  decides (tunIn env s forTest && m.oneOf "process_path" autoBypass.1 c) (.outbound "bypass")
  decides (tunIn env s forTest && m.oneOf "process_name" autoBypass.2 c) (.outbound "bypass")
  return c

omit [Qt] in
/-- The lines of a text that may be blank. -/
def linesOfText (text : String) : List String := if trimmed text = "" then [] else splitLinesSkipSharp (trimmed text)

/-- **What the settings say about a connection.** -/
def policy (env : BuildEnv) (s : Settings) (forTest : Bool) (mgr : ProfileManager Bean) (ent : ProxyEntity Bean)
    (tagProxy : String) (extRs : List ExternalBuildResult) (c : C) : Except Verdict C := do
  let c ← m.commonPolicy env s forTest mgr ent tagProxy c
  m.tunPolicy (m.oneOf "process_name" (linesOfText s.vpn_rule_process))
    (m.oneOf "ip_cidr" (linesOfText s.vpn_rule_cidr)) env s forTest extRs c

/-! ### The meaning of single rules -/

omit [Qt] in
lemma route_append (rules rules' : List JsonObject) (c : C) :
    m.route (rules ++ rules') c = (m.route rules c).bind (m.route rules') := by
  rw [route, List.map_append, run_append]
  rfl

omit [Qt] in
/-- A rule that decides, and then others. -/
lemma route_append_of_decides {rules : List JsonObject} {b : Bool} {v : Verdict} {c : C}
    (h : m.route rules c = (decides b v).map fun _ => c) (rules' : List JsonObject) :
    m.route (rules ++ rules') c = (decides b v).bind fun _ => m.route rules' c := by
  rw [route_append, h]
  cases b <;> rfl

omit [Qt] in
/-- A rule with a verdict. -/
lemma route_verdict {rule : JsonObject} {v : Verdict} (h : ∀ c, (m.meaning rule).effect c = .error v) (c : C) :
    m.route [rule] c = (decides ((m.meaning rule).fits c) v).map fun _ => c := run_verdict h c

omit [Qt] in
/-- What a rule with an outbound does. -/
lemma effect_outbound {rule : JsonObject} (haction : textField rule "action" = none) {tag : String}
    (htag : textField rule "outbound" = some tag) (c : C) : (m.meaning rule).effect c = .error (.outbound tag) := by
  rw [meaning, haction, htag]
  rfl

omit [Qt] in
/-- What a rule that refuses does. -/
lemma effect_reject {rule : JsonObject} (haction : textField rule "action" = some "reject") (c : C) :
    (m.meaning rule).effect c = .error .reject := by
  rw [meaning, haction]
  rfl

omit [Qt] in
/-- A rule with one group fits if one of its values does. -/
lemma fits_meaning {rule : JsonObject} {g : String} (hgroup : ∀ field ∈ conditionsOf rule, groupOf field.1 = g)
    (hne : conditionsOf rule ≠ []) (c : C) :
    (m.meaning rule).fits c = (conditionsOf rule).any fun field => m.fitsOne field c := by
  have hall : ∀ x ∈ (m.meaning rule).conditions, x.1 = g := by
    intro x hx
    obtain ⟨field, hfield, rfl⟩ := List.mem_map.1 hx
    exact hgroup field hfield
  rw [Bool.eq_iff_iff, Rule.fits_iff_of_group hall, List.any_eq_true]
  constructor
  · intro h
    rcases h with hnil | ⟨x, hx, hfits⟩
    · exact absurd (List.map_eq_nil_iff.1 hnil) hne
    · obtain ⟨field, hfield, rfl⟩ := List.mem_map.1 hx
      exact ⟨field, hfield, hfits⟩
  · intro h
    obtain ⟨field, hfield, hfits⟩ := h
    exact Or.inr ⟨_, List.mem_map_of_mem hfield, hfits⟩

/-! ### The rules of a list -/

omit [Qt] in
/-- What is done is no condition. -/
lemma conditionsOf_set (rule : JsonObject) {key : String} (hkey : actionFields.contains key = true) (v : Json) :
    conditionsOf (rule.set key v) = conditionsOf rule := by
  have hout : ∀ w, (!actionFields.contains key && !(valuesOf w).isEmpty) = false := by
    intro w
    rw [hkey]
    rfl
  induction rule with
  | nil => exact List.filter_cons_of_neg (by rw [hout]; exact Bool.false_ne_true)
  | cons field rule ih =>
    obtain ⟨k, w⟩ := field
    rw [JsonObject.set]
    by_cases hk : k = key
    · subst hk
      rw [if_pos rfl, conditionsOf, conditionsOf, List.filter_cons_of_neg (by rw [hout]; exact Bool.false_ne_true),
        List.filter_cons_of_neg (by rw [hout]; exact Bool.false_ne_true)]
    · rw [if_neg hk]
      simp only [conditionsOf, List.filter_cons] at ih ⊢
      rw [ih]

omit [Qt] in
/-- The arrays of a rule are alternatives, and none says what is done. -/
lemma mem_ruleFields {isIP : Bool} {field : String} (h : field ∈ ruleFields isIP) :
    groupOf field = "destination" ∧ actionFields.contains field = false := by
  have hall : ((ruleFields isIP).all fun f => decide (groupOf f = "destination") && !actionFields.contains f) = true := by
    cases isIP <;> decide +kernel
  have hfield := List.all_eq_true.1 hall field h
  rw [Bool.and_eq_true, decide_eq_true_eq, Bool.not_eq_true'] at hfield
  exact hfield

/-- The conditions of the rule of a list: an array without lines is none. -/
lemma mem_conditionsOf_makeRule {list : List String} {isIP : Bool} {field : String × Json} :
    field ∈ conditionsOf (makeRule Qt.toLower list isIP) ↔
      ∃ f ∈ ruleFields isIP, linesOf isIP list f ≠ [] ∧
        (f, texts ((linesOf isIP list f).map (written Qt.toLower isIP))) = field := by
  rw [conditionsOf, makeRule_eq, List.mem_filter]
  constructor
  · intro h
    obtain ⟨hmem, hcond⟩ := h
    split_ifs at hmem with hlist
    · exact absurd hmem List.not_mem_nil
    · obtain ⟨f, hf, rfl⟩ := List.mem_map.1 hmem
      refine ⟨f, hf, ?_, rfl⟩
      intro hnil
      simp [hnil, texts, valuesOf] at hcond
  · intro h
    obtain ⟨f, hf, hne, rfl⟩ := h
    have hlist : list ≠ [] := fun hnil => hne (by rw [hnil]; rfl)
    rw [if_neg hlist]
    refine ⟨List.mem_map_of_mem hf, ?_⟩
    rw [(mem_ruleFields hf).2]
    simp [texts, valuesOf, hne]

/-- A line of the list fits. -/
lemma any_conditionsOf_makeRule (list : List String) (isIP : Bool) (c : C) :
    ((conditionsOf (makeRule Qt.toLower list isIP)).any fun field => m.fitsOne field c) =
      list.any (m.onLine isIP c) := by
  rw [Bool.eq_iff_iff, List.any_eq_true, List.any_eq_true]
  constructor
  · intro h
    obtain ⟨field, hfield, hfits⟩ := h
    obtain ⟨f, -, -, rfl⟩ := mem_conditionsOf_makeRule.1 hfield
    obtain ⟨v, hv, hfits⟩ := List.any_eq_true.1 hfits
    obtain ⟨text, htext, rfl⟩ := List.mem_map.1 hv
    obtain ⟨item, hitem, rfl⟩ := List.mem_map.1 htext
    obtain ⟨hitem, hkind⟩ := List.mem_filter.1 hitem
    refine ⟨item, hitem, ?_⟩
    rw [onLine, eq_of_beq hkind]
    exact hfits
  · intro h
    obtain ⟨item, hitem, hfits⟩ := h
    have hmem : item ∈ linesOf isIP list (kindOf isIP item).field := List.mem_filter.2 ⟨hitem, beq_self_eq_true _⟩
    refine ⟨_, mem_conditionsOf_makeRule.2 ⟨_, field_mem isIP item, List.ne_nil_of_mem hmem, rfl⟩, ?_⟩
    exact List.any_eq_true.2 ⟨_, List.mem_map_of_mem (List.mem_map_of_mem hmem), hfits⟩

/-- **The rule of a list** decides about what one of its lines fits.

**Proof sketch.** Every line is in the array of its kind, the arrays are alternatives, and one of them has a line if
the list has; without lines there is no rule. -/
lemma route_addRule (list : List String) (isIP : Bool) {key value : String} (hkey : actionFields.contains key = true)
    {v : Verdict} (heffect : ∀ c, (m.meaning ((makeRule Qt.toLower list isIP).set key (.str value))).effect c = .error v)
    (c : C) :
    m.route (addRule (makeRule Qt.toLower list isIP) key value) c =
      (decides (list.any (m.onLine isIP c)) v).map fun _ => c := by
  have hrule := makeRule_eq Qt.toLower list isIP
  by_cases hlist : list = []
  · rw [if_pos hlist] at hrule
    rw [addRule, hrule, hlist]
    rfl
  · have hconditions : conditionsOf (makeRule Qt.toLower list isIP) ≠ [] := by
      obtain ⟨item, list', rfl⟩ := List.exists_cons_of_ne_nil hlist
      have hmem : item ∈ linesOf isIP (item :: list') (kindOf isIP item).field :=
        List.mem_filter.2 ⟨List.mem_cons_self, beq_self_eq_true _⟩
      exact List.ne_nil_of_mem
        (mem_conditionsOf_makeRule.2 ⟨_, field_mem isIP item, List.ne_nil_of_mem hmem, rfl⟩)
    have hne : makeRule Qt.toLower list isIP ≠ [] := fun hnil => hconditions (by rw [hnil]; rfl)
    have hset := conditionsOf_set (makeRule Qt.toLower list isIP) hkey (.str value)
    rw [addRule, if_neg (mt List.isEmpty_iff.1 hne), m.route_verdict heffect, ← any_conditionsOf_makeRule, ← hset,
      m.fits_meaning (g := "destination")]
    · intro field hfield
      rw [hset] at hfield
      obtain ⟨f, hf, -, rfl⟩ := mem_conditionsOf_makeRule.1 hfield
      exact (mem_ruleFields hf).1
    · rw [hset]
      exact hconditions

/-- What a list of the user lets through an outbound. -/
lemma route_outbound (list : List String) (isIP : Bool) (tag : String) (c : C) :
    m.route (addRule (makeRule Qt.toLower list isIP) "outbound" tag) c =
      (decides (list.any (m.onLine isIP c)) (.outbound tag)).map fun _ => c := by
  refine m.route_addRule list isIP rfl (m.effect_outbound ?_ ?_) c
  · rw [textField_set, if_neg (by decide), textField, makeRule]
    dsimp only
    split_ifs <;> rfl
  · rw [textField_set, if_pos rfl]

/-- What a list of the user blocks. -/
lemma route_reject (list : List String) (isIP : Bool) (c : C) :
    m.route (addRule (makeRule Qt.toLower list isIP) "action" "reject") c =
      (decides (list.any (m.onLine isIP c)) .reject).map fun _ => c :=
  m.route_addRule list isIP rfl (m.effect_reject (by rw [textField_set, if_pos rfl])) c

omit [Qt] in
/-- A rule with one condition. -/
lemma route_field {rule : JsonObject} {f : String × Json} (hconditions : conditionsOf rule = [f]) {v : Verdict}
    (heffect : ∀ c, (m.meaning rule).effect c = .error v) (c : C) :
    m.route [rule] c = (decides (m.fitsOne f c) v).map fun _ => c := by
  have hgroup : ∀ f' ∈ conditionsOf rule, groupOf f'.1 = groupOf f.1 := by
    intro f' hf'
    rw [hconditions, List.mem_singleton] at hf'
    rw [hf']
  have hne : conditionsOf rule ≠ [] := by
    rw [hconditions]
    exact List.cons_ne_nil _ _
  rw [m.route_verdict heffect, m.fits_meaning hgroup hne, hconditions, List.any_cons, List.any_nil, Bool.or_false]

omit [Qt] in
/-- The rule of some texts decides about what one of them fits. -/
lemma route_texts {rule : JsonObject} {field : String} {items : List String}
    (hconditions : conditionsOf rule = [(field, texts items)]) {v : Verdict}
    (heffect : ∀ c, (m.meaning rule).effect c = .error v) (c : C) :
    m.route [rule] c = (decides (m.oneOf field items c) v).map fun _ => c := by
  rw [m.route_field hconditions heffect]
  simp [fitsOne, oneOf, texts, valuesOf, List.any_map, Function.comp_def]

omit [Qt] in
/-- A rule with two groups. -/
lemma route_pair {rule : JsonObject} {f g : String × Json} (hconditions : conditionsOf rule = [f, g])
    (hgroup : groupOf f.1 ≠ groupOf g.1) {v : Verdict} (heffect : ∀ c, (m.meaning rule).effect c = .error v) (c : C) :
    m.route [rule] c = (decides (m.fitsOne f c && m.fitsOne g c) v).map fun _ => c := by
  have hpair : (m.meaning rule).conditions = [(groupOf f.1, m.fitsOne f), (groupOf g.1, m.fitsOne g)] := by
    rw [meaning, hconditions]
    rfl
  rw [m.route_verdict heffect, Rule.fits_pair hpair hgroup]

/-! ### The lists of the Tun -/

omit [Qt] in
/-- A text has no line, but is not blank either. -/
def onlyComments (text : String) : Bool := decide (trimmed text ≠ "") && (splitLinesSkipSharp (trimmed text)).isEmpty

omit [Qt] in
/-- Some texts are a condition, and no texts are none. -/
lemma conditionsOf_texts {field : String} (hfield : actionFields.contains field = false) (items : List String)
    (rule : JsonObject) :
    conditionsOf ((field, texts items) :: rule) =
      (if items = [] then [] else [(field, texts items)]) ++ conditionsOf rule := by
  rw [conditionsOf, List.filter_cons, hfield]
  by_cases hitems : items = []
  · rw [if_pos hitems, hitems]
    rfl
  · rw [if_neg hitems, if_pos]
    · rfl
    · simp [texts, valuesOf, hitems]

omit [Qt] in
lemma conditionsOf_outbound (out : String) {field : String} (hfield : actionFields.contains field = false)
    (items : List String) :
    conditionsOf [("outbound", .str out), (field, texts items)] =
      if items = [] then [] else [(field, texts items)] :=
  (conditionsOf_texts hfield items []).trans (List.append_nil _)

omit [Qt] in
/-- **The rule of a text of the user** decides about what one of its lines fits; if it has none but is not blank, it
decides about everything. -/
lemma route_text (text out : String) {field : String} (hfield : actionFields.contains field = false)
    (heffect : ∀ items c, (m.meaning [("outbound", .str out), (field, texts items)]).effect c =
      .error (.outbound out)) (c : C) :
    m.route (if trimmed text = "" then []
        else [[("outbound", .str out), (field, texts (splitLinesSkipSharp (trimmed text)))]]) c =
      (decides (m.oneOf field (linesOfText text) c || onlyComments text) (.outbound out)).map fun _ => c := by
  have hconditions := conditionsOf_outbound out hfield (splitLinesSkipSharp (trimmed text))
  by_cases hblank : trimmed text = ""
  · rw [if_pos hblank, linesOfText, if_pos hblank, onlyComments, decide_eq_false (not_not.2 hblank)]
    rfl
  rw [if_neg hblank, linesOfText, if_neg hblank, onlyComments, decide_eq_true hblank, Bool.true_and]
  by_cases hlines : splitLinesSkipSharp (trimmed text) = []
  · rw [if_pos hlines] at hconditions
    have hfits : (m.meaning [("outbound", .str out), (field, texts (splitLinesSkipSharp (trimmed text)))]).fits c =
        true := by
      rw [Rule.fits, meaning, hconditions]
      rfl
    rw [m.route_verdict (heffect _), hfits, hlines, List.isEmpty_nil, Bool.or_true]
  · rw [if_neg hlines] at hconditions
    rw [m.route_texts hconditions (heffect _), List.isEmpty_eq_false_iff.2 hlines, Bool.or_false]

omit [Qt] in
/-- The rule of texts that there may be none of. -/
lemma route_items (items : List String) (out : String) {field : String}
    (hfield : actionFields.contains field = false)
    (heffect : ∀ items c, (m.meaning [("outbound", .str out), (field, texts items)]).effect c =
      .error (.outbound out)) (c : C) :
    m.route (if items = [] then [] else [[("outbound", .str out), (field, texts items)]]) c =
      (decides (m.oneOf field items c) (.outbound out)).map fun _ => c := by
  by_cases hitems : items = []
  · rw [if_pos hitems, hitems]
    rfl
  · have hconditions := conditionsOf_outbound out hfield items
    rw [if_neg hitems] at hconditions
    rw [if_neg hitems, m.route_texts hconditions (heffect _)]

/-! ### All rules -/

omit [Qt] in
/-- The lists of the Tun, as their rules mean them. -/
lemma route_tunRules (env : BuildEnv) (s : Settings) (forTest : Bool) (extRs : List ExternalBuildResult) (c : C) :
    m.route (tunRules env s forTest extRs) c =
      m.tunPolicy
        (fun c => m.oneOf "process_name" (linesOfText s.vpn_rule_process) c || onlyComments s.vpn_rule_process)
        (fun c => m.oneOf "ip_cidr" (linesOfText s.vpn_rule_cidr) c || onlyComments s.vpn_rule_cidr)
        env s forTest extRs c := by
  rw [tunRules, tunPolicy]
  cases htun : tunIn env s forTest with
  | false => rfl
  | true =>
    rw [if_pos rfl]
    dsimp only
    rw [List.append_assoc, List.append_assoc,
      m.route_append_of_decides (m.route_text _ _ (by decide) (fun _ _ => rfl) c),
      m.route_append_of_decides (m.route_text _ _ (by decide) (fun _ _ => rfl) c),
      m.route_append_of_decides (m.route_items _ _ (by decide) (fun _ _ => rfl) c),
      m.route_items _ _ (by decide) (fun _ _ => rfl) c]
    simp only [Bool.true_and]
    rfl

/-- The rules of the user. -/
lemma route_userRules (s : Settings) (forTest : Bool) (mgr : ProfileManager Bean) (ent : ProxyEntity Bean)
    (tagProxy : String) (rules : List JsonObject) (c : C) :
    m.route (userRules s forTest mgr ent tagProxy ++ rules) c = (do
      let direct := if forTest then [] else splitLinesSkipSharp s.direct_domain ++ directSites s mgr ent
      decides ((userLines forTest s.block_domain).any (m.onLine false c)) .reject
      decides ((userLines forTest s.proxy_domain).any (m.onLine false c)) (.outbound tagProxy)
      decides (direct.any (m.onLine false c)) (.outbound "bypass")
      decides ((userLines forTest s.block_ip).any (m.onLine true c)) .reject
      decides ((userLines forTest s.proxy_ip).any (m.onLine true c)) (.outbound tagProxy)
      decides ((userLines forTest s.direct_ip).any (m.onLine true c)) (.outbound "bypass")
      m.route rules c) := by
  rw [userRules]
  simp only [List.append_assoc]
  rw [m.route_append_of_decides (m.route_reject _ false c), m.route_append_of_decides (m.route_outbound _ false _ c),
    m.route_append_of_decides (m.route_outbound _ false _ c), m.route_append_of_decides (m.route_reject _ true c),
    m.route_append_of_decides (m.route_outbound _ true _ c), m.route_append_of_decides (m.route_outbound _ true _ c)]
  rfl

omit [Qt] in
/-- The rules for what a tunnel cannot carry. -/
lemma route_builtIn {tunAddresses : List String} (htun : tunAddresses ≠ []) (rules : List JsonObject) (c : C) :
    m.route ([[("network", .str "udp"), ("port", .arr [.num 135, .num 137, .num 138, .num 139, .num 5353]),
        ("action", .str "reject")],
      [("ip_cidr", texts ["224.0.0.0/3", "ff00::/8"]), ("action", .str "reject")],
      [("source_ip_cidr", texts ["224.0.0.0/3", "ff00::/8"]), ("action", .str "reject")],
      [("ip_cidr", texts tunAddresses), ("action", .str "reject")]] ++ rules) c = (do
      decides (m.fits "network" (.str "udp") c &&
        [135, 137, 138, 139, 5353].any fun port => m.fits "port" (.num port) c) .reject
      decides (m.oneOf "ip_cidr" ["224.0.0.0/3", "ff00::/8"] c) .reject
      decides (m.oneOf "source_ip_cidr" ["224.0.0.0/3", "ff00::/8"] c) .reject
      decides (m.oneOf "ip_cidr" tunAddresses c) .reject
      m.route rules c) := by
  have hports : m.route [[("network", .str "udp"),
      ("port", .arr [.num 135, .num 137, .num 138, .num 139, .num 5353]), ("action", .str "reject")]] c =
        (decides (m.fits "network" (.str "udp") c &&
          [135, 137, 138, 139, 5353].any fun port => m.fits "port" (.num port) c) .reject).map fun _ => c := by
    rw [m.route_pair (f := ("network", .str "udp"))
      (g := ("port", .arr [.num 135, .num 137, .num 138, .num 139, .num 5353])) rfl (by decide) (v := .reject)
      (fun _ => rfl)]
    simp [fitsOne, valuesOf]
  have haddresses : conditionsOf [("ip_cidr", texts tunAddresses), ("action", .str "reject")] =
      [("ip_cidr", texts tunAddresses)] := by
    rw [conditionsOf_texts (by decide), if_neg htun]
    rfl
  have hmulticast : m.route [[("ip_cidr", texts ["224.0.0.0/3", "ff00::/8"]), ("action", .str "reject")]] c =
      (decides (m.oneOf "ip_cidr" ["224.0.0.0/3", "ff00::/8"] c) .reject).map fun _ => c :=
    m.route_texts rfl (fun _ => rfl) c
  have hsource : m.route [[("source_ip_cidr", texts ["224.0.0.0/3", "ff00::/8"]), ("action", .str "reject")]] c =
      (decides (m.oneOf "source_ip_cidr" ["224.0.0.0/3", "ff00::/8"] c) .reject).map fun _ => c :=
    m.route_texts rfl (fun _ => rfl) c
  show m.route ([_] ++ ([_] ++ ([_] ++ ([_] ++ rules)))) c = _
  rw [m.route_append_of_decides hports, m.route_append_of_decides hmulticast, m.route_append_of_decides hsource,
    m.route_append_of_decides (m.route_texts haddresses (v := .reject) (fun _ => rfl) c)]
  rfl

omit [Qt] in
/-- The rule for QUIC. -/
lemma route_quic (forTest : Bool) (c : C) :
    m.route (if forTest then [] else [[("network", .str "udp"), ("port", .num 443), ("action", .str "reject")]]) c =
      (decides (!forTest && (m.fits "network" (.str "udp") c && m.fits "port" (.num 443) c)) .reject).map
        fun _ => c := by
  cases forTest with
  | true => rfl
  | false =>
    rw [if_neg Bool.false_ne_true, m.route_pair (f := ("network", .str "udp")) (g := ("port", .num 443)) rfl
      (by decide) (v := .reject) (fun _ => rfl)]
    simp [fitsOne, valuesOf]

omit [Qt] in
/-- The rule for sniffing. -/
lemma route_sniff (s : Settings) (forTest : Bool) (c : C) :
    m.route (if forTest || decide (s.sniffing_mode = .disable) then []
      else if s.sniffing_mode = .forDestination then
        [[("action", .str "sniff"), ("override_destination", .bool true)]]
      else [[("action", .str "sniff")]]) c =
        .ok (if forTest || decide (s.sniffing_mode = .disable) then c
          else m.sniff (decide (s.sniffing_mode = .forDestination)) c) := by
  by_cases hoff : (forTest || decide (s.sniffing_mode = .disable)) = true
  · rw [if_pos hoff, if_pos hoff]
    rfl
  · rw [if_neg hoff, if_neg hoff]
    by_cases hdestination : s.sniffing_mode = .forDestination
    · rw [if_pos hdestination, decide_eq_true hdestination]
      rfl
    · rw [if_neg hdestination, decide_eq_false hdestination]
      rfl

omit [Qt] in
/-- The rule for name requests. -/
lemma route_hijack (forTest : Bool) (c : C) :
    m.route (if forTest then [] else [[("protocol", .str "dns"), ("action", .str "hijack-dns")]]) c =
      (decides (!forTest && m.fits "protocol" (.str "dns") c) .hijackDns).map fun _ => c := by
  cases forTest with
  | true => rfl
  | false =>
    rw [if_neg Bool.false_ne_true, m.route_field (f := ("protocol", .str "dns")) rfl (v := .hijackDns) (fun _ => rfl)]
    simp [fitsOne, valuesOf]

/-- **What the rules make of a connection**: what the settings say, apart from a list of the Tun that has a text and no
line, which decides about everything. -/
theorem route_routeRules {env : BuildEnv} (htun : env.tunAddresses ≠ []) (s : Settings) (forTest : Bool)
    (mgr : ProfileManager Bean) (ent : ProxyEntity Bean) (tagProxy : String) (extRs : List ExternalBuildResult)
    (c : C) :
    m.route (routeRules env s forTest mgr ent tagProxy extRs) c = (do
      let c ← m.commonPolicy env s forTest mgr ent tagProxy c
      m.tunPolicy
        (fun c => m.oneOf "process_name" (linesOfText s.vpn_rule_process) c || onlyComments s.vpn_rule_process)
        (fun c => m.oneOf "ip_cidr" (linesOfText s.vpn_rule_cidr) c || onlyComments s.vpn_rule_cidr)
        env s forTest extRs c) := by
  rw [routeRules]
  simp only [List.append_assoc]
  rw [m.route_append_of_decides (m.route_quic forTest c), m.route_append, m.route_sniff]
  dsimp only [Except.bind]
  rw [m.route_append_of_decides (m.route_hijack forTest _), m.route_userRules, m.route_builtIn htun,
    m.route_tunRules]
  simp only [commonPolicy, bind_assoc, pure_bind]
  rfl

/-! ### A configuration -/

/-- Where the core of a configuration sends a connection: what no rule decides about goes to the default outbound,
which is the first one if none is named. -/
def sent (config : JsonObject) (c : C) : Verdict :=
  otherwise (.outbound ((textField (objectOf config "route") "final").getD
    ((tagsOf (objectsOf config "outbounds")).headD ""))) (m.route (objectsOf (objectOf config "route") "rules") c)

/-- The default outbound. -/
def defaultOut (env : BuildEnv) (s : Settings) (forTest : Bool) (mgr : ProfileManager Bean) (ent : Ref) : String :=
  if forTest then (tagsOf ((chainOf env s forTest mgr ent).1.outbounds ++ directOutbounds)).headD ""
  else finalOut env s

/-- Where the settings send it. -/
def wants (env : BuildEnv) (s : Settings) (forTest : Bool) (mgr : ProfileManager Bean) (ent : Ref) (c : C) : Verdict :=
  otherwise (.outbound (defaultOut env s forTest mgr ent))
    (m.policy env s forTest mgr (mgr.objects ent) (chainOf env s forTest mgr ent).2
      (chainOf env s forTest mgr ent).1.extRs c)

/-- A connection does not come from another core of the chain. -/
def FromOutside (status : BuildStatus) (c : C) : Prop :=
  ∀ rule ∈ status.routingRules, ∀ tag ∈ inboundsOf rule, m.fits "inbound" (.str tag) c = false

omit [Qt] in
/-- The rules of a chain are for its mappings. -/
lemma mem_chainRules {hs : List Hop} {rule : JsonObject} (hrule : rule ∈ chainRules hs) :
    ∃ inbound out, rule = inboundRule inbound out := by
  induction hs with
  | nil => exact absurd hrule List.not_mem_nil
  | cons h hs ih =>
    cases hs with
    | nil =>
      rw [chainRules, Hop.lastRule] at hrule
      split_ifs at hrule
      · exact ⟨_, _, List.mem_singleton.1 hrule⟩
      · exact absurd hrule List.not_mem_nil
    | cons h' hs =>
      rw [chainRules, Hop.rule] at hrule
      rcases List.mem_append.1 hrule with hrule | hrule
      · split_ifs at hrule
        · exact absurd hrule List.not_mem_nil
        · exact ⟨_, _, List.mem_singleton.1 hrule⟩
      · exact ih hrule

omit [Qt] in
/-- The rules of a chain let a connection from outside go on. -/
lemma route_chainRules {hs : List Hop} {c : C}
    (houtside : ∀ rule ∈ chainRules hs, ∀ tag ∈ inboundsOf rule, m.fits "inbound" (.str tag) c = false) :
    m.route (chainRules hs) c = .ok c := by
  have hall : ∀ rules : List JsonObject, (∀ rule ∈ rules, (∃ inbound out, rule = inboundRule inbound out) ∧
      ∀ tag ∈ inboundsOf rule, m.fits "inbound" (.str tag) c = false) → m.route rules c = .ok c := by
    intro rules hrules
    induction rules with
    | nil => rfl
    | cons rule rules ih =>
      obtain ⟨⟨inbound, out, rfl⟩, hfits⟩ := hrules rule List.mem_cons_self
      have hfalse : m.fitsOne ("inbound", texts [inbound]) c = false := by
        rw [fitsOne]
        show (m.fits "inbound" (.str inbound) c || false) = false
        rw [hfits inbound (List.mem_singleton_self _)]
        rfl
      have hone : m.route [inboundRule inbound out] c =
          (decides (m.fitsOne ("inbound", texts [inbound]) c) (.outbound out)).map fun _ => c :=
        m.route_field rfl (fun _ => rfl) c
      rw [hfalse] at hone
      rw [← List.singleton_append, m.route_append, hone]
      exact ih fun rule' hrule' => hrules rule' (List.mem_cons_of_mem _ hrule')
  exact hall _ fun rule hrule => ⟨mem_chainRules hrule, houtside rule hrule⟩

end Matcher

/-! ### Lists without lines -/

variable [Qt]

/-- While Tun is on, a list of processes or addresses that is not blank has a line, unless everything goes past the
proxy. -/
def HasLines (env : BuildEnv) (s : Settings) (forTest : Bool) : Prop :=
  tunIn env s forTest = true →
    (Matcher.onlyComments s.vpn_rule_process || Matcher.onlyComments s.vpn_rule_cidr) = true →
      s.vpn_rule_white = false ∧ s.def_outbound = "bypass"

variable {env : BuildEnv} {s : Settings} {forTest forExport : Bool} {mgr : ProfileManager Bean} {ent : Ref}

/-- Where the core sends a connection from outside. -/
lemma sent_eq {C : Type} (m : Matcher C) (htun : env.tunAddresses ≠ []) (huser : NoUserJson s forTest)
    (hok : (buildConfigSingBox env s forTest forExport mgr ent).1.error = "") {c : C}
    (houtside : m.FromOutside (chainOf env s forTest mgr ent).1 c) :
    m.sent (buildConfigSingBox env s forTest forExport mgr ent).2 c =
      otherwise (.outbound (Matcher.defaultOut env s forTest mgr ent)) (do
        let c ← m.commonPolicy env s forTest mgr (mgr.objects ent) (chainOf env s forTest mgr ent).2 c
        m.tunPolicy
          (fun c => m.oneOf "process_name" (Matcher.linesOfText s.vpn_rule_process) c ||
            Matcher.onlyComments s.vpn_rule_process)
          (fun c => m.oneOf "ip_cidr" (Matcher.linesOfText s.vpn_rule_cidr) c || Matcher.onlyComments s.vpn_rule_cidr)
          env s forTest (chainOf env s forTest mgr ent).1.extRs c) := by
  obtain ⟨hchain, hparts⟩ := parts_of_ok huser hok
  obtain ⟨ents, -, -, hresult⟩ := buildChain_result hchain
  have hrules := hresult.routingRules
  have hgoes : m.route (chainOf env s forTest mgr ent).1.routingRules c = .ok c := by
    rw [Matcher.FromOutside, chainOf, hrules] at houtside
    rw [chainOf, hrules]
    exact m.route_chainRules houtside
  rw [Matcher.sent, hparts.rules, m.route_append, hgoes, hparts.final, hparts.outbounds]
  dsimp only [Except.bind]
  rw [m.route_routeRules htun]
  cases forTest <;> rfl

/-- Tun is not on in a test. -/
lemma defaultOut_of_tunIn (htun : tunIn env s forTest = true) :
    Matcher.defaultOut env s forTest mgr ent = finalOut env s := by
  have htest : forTest = false := by
    rw [tunIn, Bool.and_eq_true, Bool.not_eq_true'] at htun
    exact htun.2
  rw [Matcher.defaultOut, htest]
  rfl

/-- Lists that decide about everything make no difference if everything goes past the proxy. -/
lemma otherwise_tunPolicy {C : Type} (m : Matcher C) (hlines : HasLines env s forTest) (process cidr : C → Bool)
    (extRs : List ExternalBuildResult) (c : C) :
    otherwise (.outbound (Matcher.defaultOut env s forTest mgr ent))
        (m.tunPolicy (fun c => process c || Matcher.onlyComments s.vpn_rule_process)
          (fun c => cidr c || Matcher.onlyComments s.vpn_rule_cidr) env s forTest extRs c) =
      otherwise (.outbound (Matcher.defaultOut env s forTest mgr ent))
        (m.tunPolicy process cidr env s forTest extRs c) := by
  rw [Matcher.tunPolicy, Matcher.tunPolicy]
  cases htun : tunIn env s forTest with
  | false => rfl
  | true =>
    cases hcomments : (Matcher.onlyComments s.vpn_rule_process || Matcher.onlyComments s.vpn_rule_cidr) with
    | false =>
      obtain ⟨hprocess, hcidr⟩ := Bool.or_eq_false_iff.1 hcomments
      rw [hprocess, hcidr]
      simp only [Bool.or_false]
    | true =>
      obtain ⟨hwhite, hout⟩ := hlines htun hcomments
      have hdefault : Matcher.defaultOut env s forTest mgr ent = "bypass" := by
        rw [defaultOut_of_tunIn htun, finalOut, hwhite, Bool.and_false, if_neg Bool.false_ne_true, hout]
      -- whatever decides, and what is done if nothing does, is the same
      have hall : ∀ a b a' b' : Bool, otherwise (Verdict.outbound "bypass") (do
          decides a (Verdict.outbound "bypass")
          decides b (Verdict.outbound "bypass")
          decides a' (Verdict.outbound "bypass")
          decides b' (Verdict.outbound "bypass")
          return c) = Verdict.outbound "bypass" := by
        intro a b a' b'
        cases a <;> cases b <;> cases a' <;> cases b' <;> rfl
      rw [hdefault, hwhite]
      exact (hall _ _ _ _).trans (hall _ _ _ _).symm

/-- Nothing is known about a connection. -/
def blankMatcher : Matcher Unit := ⟨fun _ _ _ => false, fun _ c => c⟩

omit [Qt] in
lemma blankMatcher_oneOf (field : String) (items : List String) (c : Unit) :
    blankMatcher.oneOf field items c = false :=
  List.any_eq_false.2 fun _ _ => Bool.false_ne_true

lemma blankMatcher_commonPolicy (ent : ProxyEntity Bean) (tagProxy : String) :
    blankMatcher.commonPolicy env s forTest mgr ent tagProxy () = pure () := by
  have hline : ∀ (isIP : Bool) (list : List String), list.any (blankMatcher.onLine isIP ()) = false := by
    intro isIP list
    exact List.any_eq_false.2 fun _ _ => Bool.false_ne_true
  have hfits : ∀ field v, blankMatcher.fits field v () = false := fun _ _ => rfl
  rw [Matcher.commonPolicy]
  simp only [hline, blankMatcher_oneOf, hfits, Bool.false_and, Bool.and_false]
  rfl

omit [Qt] in
lemma blankMatcher_tunPolicy (process cidr : Unit → Bool) (extRs : List ExternalBuildResult) :
    blankMatcher.tunPolicy process cidr env s forTest extRs () =
      decides (tunIn env s forTest && (process () || cidr ()))
        (.outbound (if s.vpn_rule_white then "proxy" else "bypass")) := by
  rw [Matcher.tunPolicy]
  simp only [blankMatcher_oneOf, Bool.and_false]
  cases tunIn env s forTest <;> cases process () <;> cases cidr () <;> rfl

/-- **The core does with every connection what the settings say** exactly if the lists of the Tun have lines, or
everything goes past the proxy.

**Proof sketch.** Rule by rule, what is there decides about what the settings name: the arrays of a list are
alternatives, and there is no rule without lines. Only a list of the Tun with comments alone has a rule, and that has no
condition. It decides about every connection that nothing else decides about, which is seen of one that fits nothing. -/
theorem routed_iff (htun : env.tunAddresses ≠ []) (huser : NoUserJson s forTest)
    (hok : (buildConfigSingBox env s forTest forExport mgr ent).1.error = "") :
    (∀ (C : Type) (m : Matcher C) (c : C), m.FromOutside (chainOf env s forTest mgr ent).1 c →
        m.sent (buildConfigSingBox env s forTest forExport mgr ent).2 c = m.wants env s forTest mgr ent c) ↔
      HasLines env s forTest := by
  constructor
  · intro h hon hcomments
    have hblank := h Unit blankMatcher () fun _ _ _ _ => rfl
    rw [sent_eq blankMatcher htun huser hok fun _ _ _ _ => rfl, Matcher.wants, Matcher.policy,
      blankMatcher_commonPolicy, pure_bind, pure_bind, blankMatcher_tunPolicy, blankMatcher_tunPolicy,
      defaultOut_of_tunIn hon] at hblank
    have hsends : Verdict.outbound (if s.vpn_rule_white then "proxy" else "bypass") = .outbound (finalOut env s) := by
      simp only [blankMatcher_oneOf, hon, Bool.false_or, Bool.true_and] at hblank
      rw [hcomments] at hblank
      exact hblank
    have hout := Verdict.outbound.inj hsends
    rw [finalOut] at hout
    rw [tunIn, Bool.and_eq_true] at hon
    cases hwhite : s.vpn_rule_white with
    | true =>
      rw [hwhite, hon.1, Bool.true_and, if_pos rfl, if_pos rfl] at hout
      exact absurd hout (by decide)
    | false =>
      rw [hwhite, Bool.and_false] at hout
      exact ⟨rfl, hout.symm⟩
  · intro hlines C m c houtside
    rw [sent_eq m htun huser hok houtside, Matcher.wants, Matcher.policy]
    cases m.commonPolicy env s forTest mgr (mgr.objects ent) (chainOf env s forTest mgr ent).2 c with
    | error v => rfl
    | ok c' => exact otherwise_tunPolicy m hlines _ _ _ c'

/-- Tun is on, and its list of processes is commented out. -/
def commentedSettings : Settings :=
  { vpn_internal_tun := true, spmode_vpn := true, def_outbound := "proxy", vpn_rule_process := "# curl" }

/-- Tun is in the core. -/
def tunEnv : BuildEnv := { plainEnv with internalTunPossible := true, tunAddresses := ["172.19.0.1/28"] }

omit [Qt] in
/-- **A list that is commented out may decide about everything.** -/
theorem not_routed_commentedSettings :
    let _ := plainQt
    ¬ ∀ (C : Type) (m : Matcher C) (c : C),
      m.FromOutside (chainOf tunEnv commentedSettings false repeatingManager 1).1 c →
        m.sent (buildConfigSingBox tunEnv commentedSettings false false repeatingManager 1).2 c =
          m.wants tunEnv commentedSettings false repeatingManager 1 c := by
  let _ := plainQt
  intro _ h
  have huser : NoUserJson commentedSettings false := ⟨fun _ => rfl, fun _ => rfl, fun _ => rfl, rfl⟩
  have hlines := (routed_iff (List.cons_ne_nil _ _) huser rfl).1 h rfl (by decide +kernel)
  exact absurd hlines.2 (by decide)

end Proxor.Db
