import Proxor.Db.ChainBuilder
import Proxor.Platform.HostsMapping

set_option relaxedAutoImplicit false
set_option autoImplicit false

/-!
# The configuration of a profile

The configuration has inbounds, the outbounds of the chain with two direct ones, DNS servers and rules,
and a route. Parts refer to others by tags.

## Main definitions

* `Proxor.Db.buildTypedDnsServer` — a DNS server.
* `Proxor.Db.dnsServers`, `Proxor.Db.dnsRules`, `Proxor.Db.routeRules` — the parts.
* `Proxor.Db.buildConfigSingBox`, `Proxor.Db.buildConfig` — the configuration.

## Design

The lists of a status that only the configuration itself writes are functions of the settings. Tun in
the core (`tunIn`) and what is built for a test only select parts.
-/

namespace Proxor.Db

open Fmt (Bean ExternalBuildResult)
open ProfileManager (trimmed)
open Platform (splitLinesSkipSharp hostsBlock hostsRule)

variable [Qt]

/-! ### DNS servers -/

/-- `QString::toInt` with its flag. -/
def parseInt (s : String) : Option ℤ :=
  (Text.atoi (trimmed s)).filter fun n => decide (-2 ^ 31 ≤ n ∧ n < 2 ^ 31)

/-- `TrimIpv6Brackets`. -/
def trimIpv6Brackets (value : String) : String :=
  if Text.hasPrefix value "[" && Text.hasSuffix value "]" then
    String.ofList (value.toList.drop 1).dropLast
  else value

/-- `ParseDnsServerHostPort`. -/
def parseDnsServerHostPort (input : String) : String × ℤ :=
  let server := trimmed input
  let parsed : Option (String × ℤ) :=
    if Text.hasPrefix server "[" then
      (Text.cut server "]").bind fun p =>
        if Text.hasPrefix p.2 ":" then
          (parseInt (Text.trimPrefix p.2 ":")).map fun port => (p.1 ++ "]", port)
        else none
    else if server.toList.count ':' = 1 then
      (Text.cut server ":").bind fun p => (parseInt p.2).map fun port => (p.1, port)
    else none
  let r := parsed.getD (server, -1)
  (trimIpv6Brackets r.1, r.2)

/-- The transport of a DNS server: an unknown one is `udp`. -/
def dnsScheme (scheme : String) : String :=
  let scheme := if scheme = "http3" then "h3" else scheme
  if scheme ∈ ["udp", "tcp", "tls", "https", "quic", "h3"] then scheme else "udp"

/-- `BuildTypedDnsServer`. -/
def buildTypedDnsServer (tag address detour strategy : String) : JsonObject :=
  let address := trimmed address
  let folded := address.map Text.foldCase
  let dnsServer : JsonObject := if tag = "" then [] else [("tag", .str tag)]
  let dnsServer :=
    if strategy = "" then dnsServer else dnsServer.set "strategy" (.str strategy)
  let withDetour (o : JsonObject) : JsonObject :=
    if detour = "" then o else o.set "detour" (.str detour)
  if folded = "local" then dnsServer.set "type" (.str "local")
  else if folded = "fakeip" then
    ((dnsServer.set "type" (.str "fakeip")).set "inet4_range" (.str "198.18.0.0/15")).set
      "inet6_range" (.str "fc00::/18")
  else if Text.hasPrefix folded "rcode://" then withDetour (dnsServer.set "address" (.str address))
  else
    let isUrl := Text.contains address "://"
    let url := Qt.url address
    let urlHost := trimIpv6Brackets url.host
    let hostPort := parseDnsServerHostPort address
    let server :=
      if isUrl then if urlHost = "" then trimIpv6Brackets url.authority else urlHost
      else hostPort.1
    let port := if isUrl then url.port else hostPort.2
    let path := if isUrl then url.path else ""
    let scheme := dnsScheme (if isUrl then Qt.toLower url.scheme else "udp")
    let dnsServer := dnsServer.set "type" (.str scheme)
    let dnsServer := dnsServer.set "server" (.str server)
    let dnsServer := if 0 < port then dnsServer.set "server_port" (.num port) else dnsServer
    let dnsServer :=
      if scheme = "https" ∨ scheme = "h3" then
        dnsServer.set "path" (.str (if path = "" ∨ path = "/" then "/dns-query" else path))
      else dnsServer
    let dnsServer :=
      if tag ≠ "dns-local" ∧ server ≠ "" ∧ isIpAddress server = false then
        dnsServer.set "domain_resolver" (.str "dns-local")
      else dnsServer
    withDetour dnsServer

section Build

variable (env : BuildEnv) (s : Settings) (forTest : Bool)

/-- Tun is one of the inbounds. -/
def tunIn : Bool := useInternalTun env s && s.spmode_vpn && !forTest

/-- The DNS servers, with the tag of the chain. -/
def dnsServers (tagProxy : String) : List JsonObject :=
  let remote :=
    if forTest then []
    else [buildTypedDnsServer "dns-remote" s.remote_dns tagProxy s.remote_dns_strategy]
  let directObj := buildTypedDnsServer "dns-direct"
    (if tunIn env s forTest then "local" else s.direct_dns) "" s.direct_dns_strategy
  let servers := if s.dns_final_out = "bypass" then directObj :: remote else remote ++ [directObj]
  let servers :=
    if forTest then servers
    else servers ++ [[("tag", .str "dns-block"), ("address", .str "rcode://success")]]
  let servers :=
    if s.fake_dns && tunIn env s forTest then
      servers ++ [buildTypedDnsServer "dns-fake" "fakeip" "" ""]
    else servers
  let servers := servers ++ [buildTypedDnsServer "dns-local"
    (if s.core_box_underlying_dns = "" then "local" else s.core_box_underlying_dns) "" ""]
  let predefined := (hostsBlock isIpAddress s.hosts_mapping env.currentSsid).1
  if predefined.isEmpty then servers
  else
    servers ++
      [[("tag", .str "dns-hosts"), ("type", .str "hosts"), ("predefined", .obj predefined)]]

/-! ### Rules -/

/-- The sites that go past the proxy: those of the group, and those of the rules. -/
def directSites (m : ProfileManager Bean) (ent : ProxyEntity Bean) : List String :=
  ((m.getGroup ent.gid).map Group.subscription_direct_sites).getD [] ++
    ProfileManager.directSites s.direct_site_rules ent.gid ent.id

/-- `domainListDNSRemote`. -/
def domainListDNSRemote : List String :=
  if forTest then [] else if s.dns_routing then splitLinesSkipSharp s.proxy_domain else []

/-- `domainListDNSDirect`, after the servers of the chain. -/
def domainListDNSDirect (m : ProfileManager Bean) (ent : ProxyEntity Bean)
    (chain : List String) : List String :=
  if forTest then chain
  else chain ++ (if s.dns_routing then splitLinesSkipSharp s.direct_domain else []) ++
    directSites s m ent

/-- A rule with a field more, unless it is empty. -/
def addRule (rule : JsonObject) (key value : String) : List JsonObject :=
  if rule.isEmpty then [] else [rule.set key (.str value)]

/-- The DNS rules. -/
def dnsRules (m : ProfileManager Bean) (ent : ProxyEntity Bean) (chain : List String) :
    List JsonObject :=
  (hostsRule isIpAddress Qt.toLower s.hosts_mapping env.currentSsid).toList ++
    [[("outbound", .str "any"), ("server", .str "dns-direct")]] ++
    addRule (makeRule Qt.toLower (domainListDNSRemote s forTest) false) "server" "dns-remote" ++
    addRule (makeRule Qt.toLower (domainListDNSDirect s forTest m ent chain) false) "server"
      "dns-direct" ++
    (if forTest then []
      else [[("query_type", .arr [.num 32, .num 33]), ("server", .str "dns-block")],
        [("domain_suffix", .str ".lan"), ("server", .str "dns-block")]]) ++
    (if s.fake_dns && tunIn env s forTest then
      [[("inbound", .str "tun-in"), ("query_type", .arr [.num 1, .num 28]),
        ("server", .str "dns-fake")]]
    else [])

/-- The rules of the user: what is blocked, what goes through the chain and what goes past it. -/
def userRules (m : ProfileManager Bean) (ent : ProxyEntity Bean) (tagProxy : String) :
    List JsonObject :=
  let lines (text : String) : List String := if forTest then [] else splitLinesSkipSharp text
  let domainListDirect :=
    if forTest then [] else splitLinesSkipSharp s.direct_domain ++ directSites s m ent
  addRule (makeRule Qt.toLower (lines s.block_domain) false) "action" "reject" ++
    addRule (makeRule Qt.toLower (lines s.proxy_domain) false) "outbound" tagProxy ++
    addRule (makeRule Qt.toLower domainListDirect false) "outbound" "bypass" ++
    addRule (makeRule Qt.toLower (lines s.block_ip) true) "action" "reject" ++
    addRule (makeRule Qt.toLower (lines s.proxy_ip) true) "outbound" tagProxy ++
    addRule (makeRule Qt.toLower (lines s.direct_ip) true) "outbound" "bypass"

/-- `externalCorePrograms`. -/
def externalCorePrograms (extRs : List ExternalBuildResult) : List String :=
  ((extRs.map fun r => trimmed r.program).filter fun p => p ≠ "").map env.absoluteProgram

/-- The rules for processes and addresses while Tun is on. -/
def tunRules (extRs : List ExternalBuildResult) : List JsonObject :=
  if tunIn env s forTest then
    let match_out := if s.vpn_rule_white then "proxy" else "bypass"
    let autoBypass := env.autoBypass (externalCorePrograms env extRs) s.vpn_bypass_vpn_clients
    (if trimmed s.vpn_rule_process = "" then []
      else [[("outbound", .str match_out),
        ("process_name", texts (splitLinesSkipSharp (trimmed s.vpn_rule_process)))]]) ++
      (if trimmed s.vpn_rule_cidr = "" then []
        else [[("outbound", .str match_out),
          ("ip_cidr", texts (splitLinesSkipSharp (trimmed s.vpn_rule_cidr)))]]) ++
      (if autoBypass.1 = [] then []
        else [[("outbound", .str "bypass"), ("process_path", texts autoBypass.1)]]) ++
      (if autoBypass.2 = [] then []
        else [[("outbound", .str "bypass"), ("process_name", texts autoBypass.2)]])
  else []

/-- The rules of the route after those of the chain. -/
def routeRules (m : ProfileManager Bean) (ent : ProxyEntity Bean) (tagProxy : String)
    (extRs : List ExternalBuildResult) : List JsonObject :=
  (if forTest then []
    else [[("network", .str "udp"), ("port", .num 443), ("action", .str "reject")]]) ++
    (if forTest || decide (s.sniffing_mode = .disable) then []
      else if s.sniffing_mode = .forDestination then
        [[("action", .str "sniff"), ("override_destination", .bool true)]]
      else [[("action", .str "sniff")]]) ++
    (if forTest then [] else [[("protocol", .str "dns"), ("action", .str "hijack-dns")]]) ++
    userRules s forTest m ent tagProxy ++
    [[("network", .str "udp"),
        ("port", .arr [.num 135, .num 137, .num 138, .num 139, .num 5353]),
        ("action", .str "reject")],
      [("ip_cidr", texts ["224.0.0.0/3", "ff00::/8"]), ("action", .str "reject")],
      [("source_ip_cidr", texts ["224.0.0.0/3", "ff00::/8"]), ("action", .str "reject")],
      [("ip_cidr", texts env.tunAddresses), ("action", .str "reject")]] ++
    tunRules env s forTest extRs

/-! ### The configuration -/

/-- `mixed-in`. -/
def mixedIn : JsonObject :=
  let inbound : JsonObject :=
    [("tag", .str "mixed-in"), ("type", .str "mixed"), ("listen", .str s.inbound_address),
      ("listen_port", .num s.inbound_socks_port)]
  if trimmed s.inbound_username ≠ "" ∧ trimmed s.inbound_password ≠ "" then
    inbound.set "users" (.arr [.obj [("username", .str s.inbound_username),
      ("password", .str s.inbound_password)]])
  else inbound

/-- `tun-in`. -/
def tunInbound : JsonObject :=
  let inbound : JsonObject :=
    [("tag", .str "tun-in"), ("type", .str "tun"), ("interface_name", .str env.tunName),
      ("auto_route", .bool true), ("endpoint_independent_nat", .bool true),
      ("mtu", .num s.vpn_mtu), ("stack", .str (env.vpnImplementation s.vpn_implementation)),
      ("strict_route", .bool s.vpn_strict_route), ("address", texts env.tunAddresses)]
  if env.routeExclusions = [] then inbound
  else inbound.set "route_exclude_address" (texts env.routeExclusions)

/-- The inbounds before those of the chain. -/
def firstInbounds : List JsonObject :=
  (if isValidPort s.inbound_socks_port && !forTest then [mixedIn s] else []) ++
    (if tunIn env s forTest then [tunInbound env s] else [])

/-- The two direct outbounds. -/
def directOutbounds : List JsonObject :=
  [[("type", .str "direct"), ("tag", .str "direct")],
    [("type", .str "direct"), ("tag", .str "bypass")]]

/-- The array of a field of a JSON text of the user. -/
def userArray (text key : String) : List Json :=
  (((Qt.parseObject text).get? key).map jsonToArray).getD []

/-- The `route` object. -/
def routeObj (forExport : Bool) (rules : List Json) : JsonObject :=
  let route : JsonObject := [("rules", .arr rules)]
  let route :=
    if forExport then route
    else ((route.set "auto_detect_interface" (.bool s.spmode_vpn)).set "geoip"
      (.obj [("path", .str env.geoip)])).set "geosite" (.obj [("path", .str env.geosite)])
  let route :=
    if forTest then route
    else
      let whitelistTun := useInternalTun env s && s.spmode_vpn && s.vpn_rule_white
      route.set "final" (.str (if whitelistTun then "bypass" else s.def_outbound))
  let domainResolver : JsonObject := [("server", .str "dns-direct")]
  let domainResolver :=
    if s.domain_strategy = "" then domainResolver
    else domainResolver.set "strategy" (.str s.domain_strategy)
  let route := route.set "default_domain_resolver" (.obj domainResolver)
  if forTest then route else route.set "find_process" (.bool true)

/-- The `experimental` object. -/
def experimentalObj : JsonObject :=
  if forTest then []
  else
    [("clash_api", .obj (if 0 < s.core_box_clash_api then
      [("external_controller", .str ("127.0.0.1:" ++ int2String s.core_box_clash_api)),
        ("secret", .str s.core_box_clash_api_secret), ("external_ui", .str "dashboard")]
      else [("default_mode", .str "")]))]

/-- `BuildConfigSingBox`: the status and the configuration. -/
def buildConfigSingBox (forExport : Bool) (m : ProfileManager Bean) (ent : Ref) :
    BuildStatus × JsonObject :=
  let entity := m.objects ent
  let log : JsonObject := [("log", .obj [("level", .str s.log_level)])]
  let r := buildChain env s m ent
    { objects := m.objects, inbounds := firstInbounds env s forTest }
  let status := r.1
  let tagProxy := r.2
  if status.error ≠ "" then (status, log)
  else
    let inbounds := status.inbounds.map Json.obj ++
      if forTest then [] else userArray s.custom_inbound "inbounds"
    let outbounds := status.outbounds ++ directOutbounds
    let dns : JsonObject :=
      if s.use_dns_object then Qt.parseObject s.dns_object
      else [("servers", .arr ((dnsServers env s forTest tagProxy).map Json.obj)),
        ("rules", .arr ((dnsRules env s forTest m entity status.domainListDNSDirect).map Json.obj)),
        ("independent_cache", .bool true)]
    let rules :=
      (if forTest then []
        else userArray s.custom "rules" ++ userArray s.custom_route_global "rules") ++
      (status.routingRules ++ routeRules env s forTest m entity tagProxy status.extRs).map Json.obj
    let error :=
      if env.geosite = "" then "geosite.db not found"
      else if env.geoip = "" then "geoip.db not found"
      else ""
    let config : JsonObject := log ++
      [("inbounds", .arr inbounds), ("outbounds", .arr (outbounds.map Json.obj)),
        ("dns", .obj dns), ("route", .obj (routeObj env s forTest forExport rules))]
    let experimental := experimentalObj s forTest
    ({ status with error := error },
      if experimental.isEmpty then config else config ++ [("experimental", .obj experimental)])

/-- The configuration is that of a custom bean as it is. -/
def fullConfig : Bean → Option JsonObject
  | .custom b => if b.core = "internal-full" then some (Qt.parseObject b.config_simple) else none
  | _ => none

/-- `BuildConfig`: the status and the configuration, with what the user merges into it. -/
def buildConfig (forExport : Bool) (m : ProfileManager Bean) (ent : Ref) :
    BuildStatus × JsonObject :=
  let bean := (m.objects ent).bean
  let r :=
    match fullConfig bean with
    | some config => (({ objects := m.objects } : BuildStatus), config)
    | none => buildConfigSingBox env s forTest forExport m ent
  (r.1, mergeJson r.2 (Qt.parseObject bean.base.custom_config))

end Build

end Proxor.Db
