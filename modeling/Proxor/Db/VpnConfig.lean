import Mathlib.Data.Bool.AllAny
import Proxor.Db.VpnTemplate

set_option relaxedAutoImplicit false
set_option autoImplicit false

/-!
# What the configuration of the Tun process is

The template in parts, which its marks do not overlap, so that every mark has its text in what is written. With
the settings in their places the parts are read as the tree.

## Main definitions

* `Proxor.Db.Vpn.later` — the marks that are replaced later.
* `Proxor.Db.Vpn.configParts` — the configuration in parts.
* `Proxor.Db.Vpn.Plain`, `Proxor.Db.Vpn.PlainCredentials` — texts that stand for themselves in a string.

## Main results

* `Proxor.Db.Vpn.writeVPNSingBoxConfig_eq` — every mark has its text.
* `Proxor.Db.Vpn.exec_config` — the parts are read as the tree.
-/

namespace Proxor.Db.Vpn

open JsonText Template

/-! ### The parts of the template -/

/-- The template up to the DNS servers. -/
def logParts : List Part :=
  [.sign '\x7b', .line 1, .text "log", .sign ':', .blank, .value false 1 (.obj [("level", .str "info")]),
   .sign ',', .line 1, .text "dns", .sign ':', .blank, .sign '\x7b', .line 2, .text "servers", .sign ':',
   .blank, .sign '[', .line 3]

/-- The template between two DNS servers. -/
def commaParts : List Part :=
  [.sign ',', .line 3]

/-- The template behind the DNS servers, up to the name of an inbound. -/
def fakeIpParts : List Part :=
  [.sign ',', .line 3,
   .value false 3 (.obj [("type", .str "fakeip"), ("tag", .str "dns-fake"),
     ("inet4_range", .str "198.18.0.0/15"), ("inet6_range", .str "fc00::/18")]),
   .sign ',', .line 3,
   .value false 3 (.obj [("address", .str "rcode://success"), ("tag", .str "dns-block")]), .line 2,
   .sign ']', .sign ',', .line 2, .text "rules", .sign ':', .blank, .sign '[', .line 3,
   .value false 3 (.obj [("query_type", .arr [.num 32, .num 33]), ("server", .str "dns-block")]), .sign ',',
   .line 3, .value false 3 (.obj [("domain_suffix", .arr [.str ".lan"]), ("server", .str "dns-block")]),
   .sign ',', .line 3,
   .value false 3 (.obj [("process_name", .arr [.str "proxor_core", .str "proxor_core.exe"]),
     ("server", .str "dns-direct")]),
   .sign ',', .line 3, .sign '\x7b', .line 4, .text "inbound", .sign ':', .blank]

/-- The template behind it, up to the name of the Tun. -/
def fakeRuleParts : List Part :=
  [.sign ',', .line 4, .text "query_type", .sign ':', .blank, .value false 4 (.arr [.num 1, .num 28]),
   .sign ',', .line 4, .text "server", .sign ':', .blank, .text "dns-fake", .line 3, .sign '\x7d', .line 2,
   .sign ']', .line 1, .sign '\x7d', .sign ',', .line 1, .text "inbounds", .sign ':', .blank, .sign '[',
   .line 2, .sign '\x7b', .line 3, .text "type", .sign ':', .blank, .text "tun", .sign ',', .line 3,
   .text "tag", .sign ':', .blank, .text "tun-in", .sign ',', .line 3, .text "interface_name", .sign ':',
   .blank]

/-- The template behind it, up to the addresses. -/
def addressParts : List Part :=
  [.sign ',', .line 3, .text "address", .sign ':', .blank]

/-- The template behind them, up to the size of packets. -/
def mtuParts : List Part :=
  [.sign ',', .line 3, .text "mtu", .sign ':', .blank]

/-- The template behind it, up to the strictness of the routes. -/
def autoRouteParts : List Part :=
  [.sign ',', .line 3, .text "auto_route", .sign ':', .blank, .value false 0 (.bool true), .sign ',', .line 3,
   .text "strict_route", .sign ':', .blank]

/-- The template behind it, up to the implementation. -/
def stackParts : List Part :=
  [.sign ',', .line 3, .text "stack", .sign ':', .blank]

/-- The template behind it, up to the networks that are kept out. -/
def sniffParts : List Part :=
  [.sign ',', .line 3, .text "endpoint_independent_nat", .sign ':', .blank, .value false 0 (.bool true),
   .sign ',', .line 3, .text "sniff", .sign ':', .blank, .value false 0 (.bool false), .sign ',', .line 3,
   .text "route_exclude_address", .sign ':', .blank]

/-- The template behind them, up to the user name. -/
def socksParts : List Part :=
  [.line 2, .sign '\x7d', .line 1, .sign ']', .sign ',', .line 1, .text "outbounds", .sign ':', .blank,
   .sign '[', .line 2, .sign '\x7b', .line 3, .text "type", .sign ':', .blank, .text "socks", .sign ',',
   .line 3, .text "tag", .sign ':', .blank, .text "proxor-socks", .sign ',', .line 3, .text "udp_fragment",
   .sign ':', .blank, .value false 0 (.bool true), .sign ',', .line 3]

/-- The template behind the password, up to the port. -/
def serverParts : List Part :=
  [.line 3, .text "server", .sign ':', .blank, .text "127.0.0.1", .sign ',', .line 3, .text "server_port",
   .sign ':', .blank]

/-- The template behind the port, up to the last outbound. -/
def directParts : List Part :=
  [.line 2, .sign '\x7d', .sign ',', .line 2,
   .value false 2 (.obj [("type", .str "direct"), ("tag", .str "direct")]), .sign ',', .line 2,
   .value false 2 (.obj [("type", .str "direct"), ("tag", .str "bypass")]), .line 1, .sign ']', .sign ',',
   .line 1, .text "route", .sign ':', .blank, .sign '\x7b', .line 2, .text "final", .sign ':', .blank]

/-- The template behind it, up to the addresses of the rule. -/
def finalParts : List Part :=
  [.sign ',', .line 2, .text "auto_detect_interface", .sign ':', .blank, .value false 0 (.bool true),
   .sign ',', .line 2, .text "find_process", .sign ':', .blank, .value false 0 (.bool true), .sign ',',
   .line 2, .text "rules", .sign ':', .blank, .sign '[', .line 3,
   .value false 3 (.obj [("network", .str "udp"),
     ("port", .arr [.num 135, .num 137, .num 138, .num 139, .num 5353]), ("action", .str "reject")]),
   .sign ',', .line 3,
   .value false 3 (.obj [("ip_cidr", .arr [.str "224.0.0.0/3", .str "ff00::/8"]), ("action", .str "reject")]),
   .sign ',', .line 3,
   .value false 3 (.obj [("source_ip_cidr", .arr [.str "224.0.0.0/3", .str "ff00::/8"]),
     ("action", .str "reject")]),
   .sign ',', .line 3, .sign '\x7b', .line 4, .text "ip_cidr", .sign ':', .blank]

/-- The template behind them, up to the rules of the user. -/
def rejectParts : List Part :=
  [.sign ',', .line 4, .text "action", .sign ':', .blank, .text "reject", .line 3, .sign '\x7d', .sign ',',
   .line 3,
   .value false 3 (.obj [("port", .num 53),
     ("process_name", .arr [.str "proxor_core", .str "proxor_core.exe"]), ("action", .str "hijack-dns")]),
   .sign ',', .line 3,
   .value false 3 (.obj [("process_name", .arr [.str "proxor_core", .str "proxor_core.exe"]),
     ("outbound", .str "direct")]),
   .line 3]

/-- The template between the two lists of rules. -/
def betweenRulesParts : List Part :=
  [.line 3]

/-- The template behind them. -/
def hijackParts : List Part :=
  [.line 3, .sign ',', .line 3, .value false 3 (.obj [("port", .num 53), ("action", .str "hijack-dns")]),
   .line 2, .sign ']', .line 1, .sign '\x7d', .line 0, .sign '\x7d', .line 0]

/-- **The template in parts.** -/
lemma template_eq :
    template = ⟨writeParts logParts, [
      (.dnsRemoteServer, writeParts commaParts),
      (.dnsDirectServer, writeParts commaParts),
      (.dnsLocalServer, writeParts fakeIpParts ++ ['"']),
      (.fakeDnsInbound, '"' :: writeParts fakeRuleParts ++ ['"']),
      (.tunName, '"' :: writeParts addressParts),
      (.tunAddresses, writeParts mtuParts),
      (.mtu, writeParts autoRouteParts),
      (.strictRoute, writeParts stackParts ++ ['"']),
      (.stack, '"' :: writeParts sniffParts),
      (.routeExcludeAddresses, writeParts socksParts),
      (.socksUserPass, writeParts serverParts),
      (.port, writeParts directParts ++ ['"']),
      (.finalOut, '"' :: writeParts finalParts),
      (.tunAddresses, writeParts rejectParts),
      (.processNameRule, writeParts betweenRulesParts),
      (.cidrRule, writeParts hijackParts)]⟩ := by
  decide +kernel

/-! ### Every mark has its text -/

/-- The marks that are replaced later than one. -/
def later (h : Hole) : List Hole := (order.dropWhile (· != h)).drop 1

lemma mem_order (h : Hole) : h ∈ order := by
  cases h <;> decide

/-- No mark begins or ends in a text of the template. -/
lemma wellMarked : WellMarked mark template := by
  have htexts : ∀ text ∈ template.first :: template.rest.map Prod.snd, text ≠ [] ∧ '%' ∉ text := by
    decide +kernel
  have hends : ∀ text ∈ template.first :: template.rest.map Prod.snd,
      (text.head?.all fun c => order.all fun h => !(mark h).contains c) = true ∧
        (text.getLast?.all fun c => order.all fun h => !(mark h).contains c) = true := by
    decide +kernel
  have hnone : ∀ {c : Char}, (order.all fun h => !(mark h).contains c) = true → ∀ h, c ∉ mark h := by
    intro c hall h hmem
    have hfalse := List.all_eq_true.1 hall h (mem_order h)
    rw [List.contains_iff_mem.2 hmem] at hfalse
    exact Bool.false_ne_true hfalse
  have hmarks : ∀ h ∈ order, mark h ≠ [] ∧ '%' ∈ mark h ∧ ∀ h' ∈ order, h ≠ h' → ¬ mark h <:+: mark h' := by
    decide +kernel
  have hseparate : ∀ text ∈ template.first :: template.rest.map Prod.snd, ∀ h, Separate (mark h) text := by
    rintro text htext h
    obtain ⟨hne, hpercent⟩ := htexts text htext
    obtain ⟨hfirst, hlast⟩ := hends text htext
    refine ⟨fun c hc => ?_, fun c hc => ?_, hne,
      fun hwithin => hpercent (hwithin.subset (hmarks h (mem_order h)).2.1)⟩
    · rw [Option.mem_def.1 hc] at hfirst
      exact hnone hfirst h
    · rw [Option.mem_def.1 hc] at hlast
      exact hnone hlast h
  exact ⟨fun h => (hmarks h (mem_order h)).1, fun h h' hne => (hmarks h (mem_order h)).2.2 h' (mem_order h') hne,
    fun h => hseparate _ List.mem_cons_self h,
    fun h p hp => hseparate _ (List.mem_cons_of_mem _ (List.mem_map_of_mem hp)) h⟩

/-- The rules in parts, each with a comma before it. -/
def rulesParts (rules : List JsonObject) : List Part :=
  rules.flatMap fun rule => [.sign ',', .value false 0 (ordered rule), .line 0]

lemma writeParts_rulesParts (rules : List JsonObject) : writeParts (rulesParts rules) = rulesText rules := by
  induction rules with
  | nil => rfl
  | cons rule rules ih =>
    have hrule : writeParts [.sign ',', .value false 0 (ordered rule), .line 0] =
        ',' :: qJsonObject2QString rule false := by
      rw [writeParts_cons, writeParts_cons, writeParts_cons]
      rfl
    rw [rulesParts, List.flatMap_cons, writeParts_append, hrule, rulesText, List.flatMap_cons]
    exact congrArg _ ih

/-- A text stands for itself in a string: no character of it ends the string, begins an escape sequence or is a
control character. -/
def Plain (text : String) : Prop := ∀ c ∈ text.toList, c ≠ '"' ∧ c ≠ '\\' ∧ ¬ c.toNat < 32

lemma writeString_of_plain {text : String} (h : Plain text) :
    writeString text.toList = '"' :: (text.toList ++ ['"']) := by
  have hself : ∀ cs : List Char, (∀ c ∈ cs, c ≠ '"' ∧ c ≠ '\\' ∧ ¬ c.toNat < 32) →
      cs.flatMap escapeChar = cs := by
    rintro cs hcs
    induction cs with
    | nil => rfl
    | cons c cs ih =>
      rw [List.forall_mem_cons] at hcs
      obtain ⟨hquote, hback, hcontrol⟩ := hcs.1
      have hne : ∀ d : Char, d.toNat < 32 → c ≠ d := by
        rintro d hd rfl
        exact hcontrol hd
      have hc : escapeChar c = [c] := by
        rw [escapeChar, if_neg hquote, if_neg hback, if_neg (by omega), if_neg (by omega),
          if_neg (hne _ (by decide)), if_neg (hne _ (by decide)), if_neg (hne _ (by decide)), if_neg hcontrol]
      rw [List.flatMap_cons, hc, ih hcs.2]
      rfl
  rw [writeString, hself _ h]

section Values

variable [Qt] (env : VpnEnv) (s : Settings)

/-- A text in the place of a mark, when the marks that are replaced later are. -/
def final (h : Hole) (text : List Char) : List Char := fill mark (value env s) (later h) text

/-- **Every mark has its text** in the configuration, in which later marks are replaced. -/
theorem writeVPNSingBoxConfig_eq :
    writeVPNSingBoxConfig env s = template.render fun h => final env s h (value env s h) := by
  have horder : ∀ h ∈ order, order = order.takeWhile (· != h) ++ h :: later h ∧
      h ∉ order.takeWhile (· != h) := by decide
  have hfill : (fun h => fill mark (value env s) order (mark h)) = fun h => final env s h (value env s h) := by
    funext h
    obtain ⟨hsplit, hfront⟩ := horder h (mem_order h)
    rw [hsplit, fill_mark wellMarked hfront]
    rfl
  rw [writeVPNSingBoxConfig, fill_render (value env s) wellMarked, hfill]

/-! ### The configuration in parts -/

/-- The user name and the password in parts. -/
def credentialParts : List Part :=
  if needAuth s then
    [.blank, .text "username", .sign ':', .blank, .text s.inbound_username, .sign ',', .blank,
      .text "password", .sign ':', .blank, .text s.inbound_password, .sign ',', .blank]
  else []

/-- The configuration up to the rule of the false addresses. -/
def dnsParts : List Part :=
  logParts ++ ([.value true 0 (ordered (dnsRemote s))] ++ (commaParts ++
    ([.value true 0 (ordered (dnsDirect s))] ++ (commaParts ++ ([.value true 0 (ordered (dnsLocal s))] ++
      (fakeIpParts ++ [.text (fakeDnsInbound s)]))))))

/-- The configuration between this rule and the user name. -/
def tunParts : List Part :=
  fakeRuleParts ++ ([.text (genTunName env.os)] ++ (addressParts ++
    ([.value true 0 (texts (tunAddresses env.tunIncludesIpv6))] ++ (mtuParts ++ ([.number s.vpn_mtu] ++
      (autoRouteParts ++ ([.value true 0 (.bool s.vpn_strict_route)] ++ (stackParts ++
        ([.text (listValue vpnImplementation s.vpn_implementation)] ++ (sniffParts ++
          ([.value true 0 (texts (routeExclusions env))] ++ socksParts)))))))))))

/-- The configuration between the password and the rules of the user. -/
def middleParts : List Part :=
  serverParts ++ ([.number s.inbound_socks_port] ++ (directParts ++ ([.text (noMatchOut s)] ++
    (finalParts ++ ([.value true 0 (texts (tunAddresses env.tunIncludesIpv6))] ++ rejectParts)))))

/-- The configuration in parts. -/
def configParts : List Part :=
  dnsParts s ++ (tunParts env s ++ (credentialParts s ++ (middleParts env s ++ (rulesParts (processRules env s) ++
    (betweenRulesParts ++ (rulesParts (userRule s "ip_cidr" s.vpn_rule_cidr) ++ hijackParts))))))

/-- If there are a user name and a password, they stand for themselves. -/
def PlainCredentials : Prop := needAuth s = true → Plain s.inbound_username ∧ Plain s.inbound_password

/-- The texts that the code chooses itself. -/
def fixedTexts : List String :=
  ["tun-in", "empty", "utun9", "proxor-tun", "direct", "proxor-socks", "gvisor", "system", "mixed", ""]

lemma mem_fixedTexts :
    fakeDnsInbound s ∈ fixedTexts ∧ genTunName env.os ∈ fixedTexts ∧
      listValue vpnImplementation s.vpn_implementation ∈ fixedTexts ∧ noMatchOut s ∈ fixedTexts := by
  have himpl : ∀ i : ℤ, listValue vpnImplementation i ∈ fixedTexts := by
    intro i
    rw [listValue]
    split
    · decide
    · match i.toNat with
      | 0 => decide
      | 1 => decide
      | 2 => decide
      | _ + 3 => exact (by decide : "" ∈ fixedTexts)
  refine ⟨?_, ?_, himpl _, ?_⟩
  · rw [fakeDnsInbound]
    split <;> decide
  · rw [genTunName.eq_def]
    split <;> decide
  · rw [noMatchOut]
    split <;> decide

/-- These texts stand for themselves. -/
lemma plain_fixed :
    Plain (fakeDnsInbound s) ∧ Plain (genTunName env.os) ∧
      Plain (listValue vpnImplementation s.vpn_implementation) ∧ Plain (noMatchOut s) := by
  have hall : ∀ text ∈ fixedTexts, Plain text := by
    have hchars : ∀ text ∈ fixedTexts,
        (text.toList.all fun c => decide (c ≠ '"' ∧ c ≠ '\\' ∧ ¬ c.toNat < 32)) = true := by
      decide
    exact fun text htext => List.all_iff_forall_prop.1 (hchars text htext)
  obtain ⟨hfake, hname, himpl, hfinal⟩ := mem_fixedTexts env s
  exact ⟨hall _ hfake, hall _ hname, hall _ himpl, hall _ hfinal⟩

/-! ### Reading the configuration -/

/-- The fields of the tree before the outbounds. -/
def frontFields : JsonObject :=
  [("log", .obj [("level", .str "info")]),
    ("dns", .obj [
      ("servers", .arr [ordered (dnsRemote s), ordered (dnsDirect s), ordered (dnsLocal s),
        .obj [("type", .str "fakeip"), ("tag", .str "dns-fake"), ("inet4_range", .str "198.18.0.0/15"),
          ("inet6_range", .str "fc00::/18")],
        .obj [("address", .str "rcode://success"), ("tag", .str "dns-block")]]),
      ("rules", .arr [
        .obj [("query_type", .arr [.num 32, .num 33]), ("server", .str "dns-block")],
        .obj [("domain_suffix", .arr [.str ".lan"]), ("server", .str "dns-block")],
        .obj [("process_name", .arr [.str "proxor_core", .str "proxor_core.exe"]), ("server", .str "dns-direct")],
        .obj [("inbound", .str (fakeDnsInbound s)), ("query_type", .arr [.num 1, .num 28]),
          ("server", .str "dns-fake")]])]),
    ("inbounds", .arr [
      .obj [("type", .str "tun"), ("tag", .str "tun-in"), ("interface_name", .str (genTunName env.os)),
        ("address", texts (tunAddresses env.tunIncludesIpv6)), ("mtu", .num s.vpn_mtu),
        ("auto_route", .bool true), ("strict_route", .bool s.vpn_strict_route),
        ("stack", .str (listValue vpnImplementation s.vpn_implementation)),
        ("endpoint_independent_nat", .bool true), ("sniff", .bool false),
        ("route_exclude_address", texts (routeExclusions env))]])]

/-- The fields of the outbound to the proxy before the user name. -/
def socksFields : JsonObject := [("type", .str "socks"), ("tag", .str "proxor-socks"), ("udp_fragment", .bool true)]

/-- The state of the reader in this outbound, with these fields. -/
def socksState (fields : JsonObject) : State :=
  .reading [.obj fields, .arr [], .field (frontFields env s) "outbounds"] .key

/-- The fields of the tree before the route. -/
def outboundFields : JsonObject :=
  frontFields env s ++ [("outbounds", .arr [
    .obj (socksFields ++ authFields s ++
      [("server", .str "127.0.0.1"), ("server_port", .num s.inbound_socks_port)]),
    .obj [("type", .str "direct"), ("tag", .str "direct")],
    .obj [("type", .str "direct"), ("tag", .str "bypass")]])]

/-- The rules before those of the user. -/
def firstRules : List Json :=
  [.obj [("network", .str "udp"),
      ("port", .arr [.num 135, .num 137, .num 138, .num 139, .num 5353]), ("action", .str "reject")],
    .obj [("ip_cidr", .arr [.str "224.0.0.0/3", .str "ff00::/8"]), ("action", .str "reject")],
    .obj [("source_ip_cidr", .arr [.str "224.0.0.0/3", .str "ff00::/8"]), ("action", .str "reject")],
    .obj [("ip_cidr", texts (tunAddresses env.tunIncludesIpv6)), ("action", .str "reject")],
    .obj [("port", .num 53), ("process_name", .arr [.str "proxor_core", .str "proxor_core.exe"]),
      ("action", .str "hijack-dns")],
    .obj [("process_name", .arr [.str "proxor_core", .str "proxor_core.exe"]), ("outbound", .str "direct")]]

/-- The state of the reader behind a rule, with these rules. -/
def rulesState (rules : List Json) : State :=
  .reading [.arr rules, .field [("final", .str (noMatchOut s)), ("auto_detect_interface", .bool true),
    ("find_process", .bool true)] "rules", .field (outboundFields env s) "route"] .next

/-- The state of the reader behind the name of the inbound. -/
def dnsState : State :=
  .reading [.obj [("inbound", .str (fakeDnsInbound s))],
    .arr [.obj [("query_type", .arr [.num 32, .num 33]), ("server", .str "dns-block")],
      .obj [("domain_suffix", .arr [.str ".lan"]), ("server", .str "dns-block")],
      .obj [("process_name", .arr [.str "proxor_core", .str "proxor_core.exe"]), ("server", .str "dns-direct")]],
    .field [("servers", .arr [ordered (dnsRemote s), ordered (dnsDirect s), ordered (dnsLocal s),
      .obj [("type", .str "fakeip"), ("tag", .str "dns-fake"), ("inet4_range", .str "198.18.0.0/15"),
        ("inet6_range", .str "fc00::/18")],
      .obj [("address", .str "rcode://success"), ("tag", .str "dns-block")]])] "rules",
    .field [("log", .obj [("level", .str "info")])] "dns"] .next

set_option maxRecDepth 2000 in
lemma exec_dns : (dnsParts s).foldlM Part.exec (.reading [] .value) = some (dnsState s) := rfl

set_option maxRecDepth 2000 in
lemma exec_tun : (tunParts env s).foldlM Part.exec (dnsState s) = some (socksState env s socksFields) := rfl

lemma exec_credentials :
    (credentialParts s).foldlM Part.exec (socksState env s socksFields) =
      some (socksState env s (socksFields ++ authFields s)) := by
  rw [credentialParts, authFields]
  split <;> rfl

set_option maxRecDepth 2000 in
lemma exec_middle :
    (middleParts env s).foldlM Part.exec (socksState env s (socksFields ++ authFields s)) =
      some (rulesState env s (firstRules env)) := by
  have hfields : ∀ fields, (middleParts env s).foldlM Part.exec (socksState env s fields) =
      some (.reading [.arr (firstRules env), .field [("final", .str (noMatchOut s)),
        ("auto_detect_interface", .bool true), ("find_process", .bool true)] "rules",
        .field (frontFields env s ++ [("outbounds", .arr [
          .obj (fields ++ [("server", .str "127.0.0.1")] ++ [("server_port", .num s.inbound_socks_port)]),
          .obj [("type", .str "direct"), ("tag", .str "direct")],
          .obj [("type", .str "direct"), ("tag", .str "bypass")]])]) "route"] .next) := fun _ => rfl
  rw [hfields, List.append_assoc (socksFields ++ authFields s)]
  rfl

/-- Rules are read one after another. -/
lemma exec_rules (rules : List JsonObject) (before : List Json) :
    (rulesParts rules).foldlM Part.exec (rulesState env s before) =
      some (rulesState env s (before ++ rules.map ordered)) := by
  induction rules generalizing before with
  | nil =>
    rw [List.map_nil, List.append_nil]
    rfl
  | cons rule rules ih =>
    have hstep : [.sign ',', .value false 0 (ordered rule), .line 0].foldlM Part.exec (rulesState env s before) =
        some (rulesState env s (before ++ [ordered rule])) := rfl
    have hcons : rulesParts (rule :: rules) =
        [.sign ',', .value false 0 (ordered rule), .line 0] ++ rulesParts rules := rfl
    rw [hcons, exec_append _ hstep, ih, List.append_assoc]
    rfl

/-- **The configuration is read as the tree**, if it is written in its parts. -/
lemma exec_config :
    (configParts env s).foldlM Part.exec (.reading [] .value) = some (.done (vpnTree env s)) := by
  rw [configParts, exec_append _ (exec_dns s), exec_append _ (exec_tun env s),
    exec_append _ (exec_credentials env s), exec_append _ (exec_middle env s),
    exec_append _ (exec_rules env s _ _)]
  have hbetween : ∀ rules, betweenRulesParts.foldlM Part.exec (rulesState env s rules) =
      some (rulesState env s rules) := fun _ => rfl
  rw [exec_append _ (hbetween _), exec_append _ (exec_rules env s _ _)]
  rfl

/-! ### The tree -/

lemma ended_credentials : Part.ended false (credentialParts s) = true := by
  rw [credentialParts]
  split <;> rfl

lemma ended_rules (rules : List JsonObject) : Part.ended false (rulesParts rules) = true := by
  induction rules with
  | nil => rfl
  | cons rule rules ih => exact ih

/-- Every number in the configuration ends. -/
lemma ended_config : Part.ended false (configParts env s) = true := by
  have hdns : Part.ended false (dnsParts s) = true := rfl
  have htun : Part.ended false (tunParts env s) = true := rfl
  have hmiddle : Part.ended false (middleParts env s) = true := rfl
  have hback : Part.ended false hijackParts = true := rfl
  rw [configParts]
  refine Part.ended_append hdns (Part.ended_append htun (Part.ended_append (ended_credentials s)
    (Part.ended_append hmiddle (Part.ended_append (ended_rules _) (Part.ended_append rfl
      (Part.ended_append (ended_rules _) hback))))))

end Values

end Proxor.Db.Vpn
