import Proxor.Db.ConfigBuilder
import Proxor.Lib.JsonText
import Proxor.Lib.Template

set_option relaxedAutoImplicit false
set_option autoImplicit false

/-!
# The configuration of the Tun process

The Tun that runs in a process of its own has a configuration made from a template: every mark is replaced by
the text of a setting, one after the other.

## Main definitions

* `Proxor.Db.Vpn.template` — the template that is built in.
* `Proxor.Db.Vpn.value` — the text for every mark.
* `Proxor.Db.Vpn.writeVPNSingBoxConfig` — the configuration.
* `Proxor.Db.Vpn.vpnTree` — the tree that it is meant to be.
-/

namespace Proxor.Db.Vpn

open Text Template
open Platform (splitLinesSkipSharp)
open ProfileManager (trimmed)

/-! ### The template -/

/-- The marks of the template. -/
inductive Hole
  | tunAddresses
  | routeExcludeAddresses
  | dnsRemoteServer
  | dnsDirectServer
  | dnsLocalServer
  | socksUserPass
  | processNameRule
  | cidrRule
  | mtu
  | stack
  | tunName
  | strictRoute
  | finalOut
  | fakeDnsInbound
  | port
deriving DecidableEq

/-- The mark as it stands in the template. -/
def mark : Hole → List Char
  | .tunAddresses => "%TUN_ADDRESSES%".toList
  | .routeExcludeAddresses => "%ROUTE_EXCLUDE_ADDRESSES%".toList
  | .dnsRemoteServer => "%DNS_REMOTE_SERVER%".toList
  | .dnsDirectServer => "%DNS_DIRECT_SERVER%".toList
  | .dnsLocalServer => "%DNS_LOCAL_SERVER%".toList
  | .socksUserPass => "//%SOCKS_USER_PASS%".toList
  | .processNameRule => "//%PROCESS_NAME_RULE%".toList
  | .cidrRule => "//%CIDR_RULE%".toList
  | .mtu => "%MTU%".toList
  | .stack => "%STACK%".toList
  | .tunName => "%TUN_NAME%".toList
  | .strictRoute => "%STRICT_ROUTE%".toList
  | .finalOut => "%FINAL_OUT%".toList
  | .fakeDnsInbound => "%FAKE_DNS_INBOUND%".toList
  | .port => "%PORT%".toList

/-- The marks in the order in which they are replaced. -/
def order : List Hole :=
  [.tunAddresses, .routeExcludeAddresses, .dnsRemoteServer, .dnsDirectServer, .dnsLocalServer,
   .socksUserPass, .processNameRule, .cidrRule, .mtu, .stack, .tunName, .strictRoute, .finalOut,
   .fakeDnsInbound, .port]

/-- Lines of a text with their newlines between them. -/
def lines (ls : List String) : List Char := ['\n'].intercalate (ls.map String.toList)

/-- `sing-box-vpn.json`. -/
def template : Template Hole where
  first := lines
    ["\x7b",
     "    \"log\": \x7b",
     "        \"level\": \"info\"",
     "    \x7d,",
     "    \"dns\": \x7b",
     "        \"servers\": [",
     "            "]
  rest :=
    [(.dnsRemoteServer, lines
        [",",
         "            "]),
      (.dnsDirectServer, lines
        [",",
         "            "]),
      (.dnsLocalServer, lines
        [",",
         "            \x7b",
         "                \"type\": \"fakeip\",",
         "                \"tag\": \"dns-fake\",",
         "                \"inet4_range\": \"198.18.0.0/15\",",
         "                \"inet6_range\": \"fc00::/18\"",
         "            \x7d,",
         "            \x7b",
         "                \"address\": \"rcode://success\",",
         "                \"tag\": \"dns-block\"",
         "            \x7d",
         "        ],",
         "        \"rules\": [",
         "            \x7b",
         "                \"query_type\": [",
         "                    32,",
         "                    33",
         "                ],",
         "                \"server\": \"dns-block\"",
         "            \x7d,",
         "            \x7b",
         "                \"domain_suffix\": [",
         "                    \".lan\"",
         "                ],",
         "                \"server\": \"dns-block\"",
         "            \x7d,",
         "            \x7b",
         "                \"process_name\": [",
         "                    \"proxor_core\",",
         "                    \"proxor_core.exe\"",
         "                ],",
         "                \"server\": \"dns-direct\"",
         "            \x7d,",
         "            \x7b",
         "                \"inbound\": \""]),
      (.fakeDnsInbound, lines
        ["\",",
         "                \"query_type\": [",
         "                    1,",
         "                    28",
         "                ],",
         "                \"server\": \"dns-fake\"",
         "            \x7d",
         "        ]",
         "    \x7d,",
         "    \"inbounds\": [",
         "        \x7b",
         "            \"type\": \"tun\",",
         "            \"tag\": \"tun-in\",",
         "            \"interface_name\": \""]),
      (.tunName, lines
        ["\",",
         "            \"address\": "]),
      (.tunAddresses, lines
        [",",
         "            \"mtu\": "]),
      (.mtu, lines
        [",",
         "            \"auto_route\": true,",
         "            \"strict_route\": "]),
      (.strictRoute, lines
        [",",
         "            \"stack\": \""]),
      (.stack, lines
        ["\",",
         "            \"endpoint_independent_nat\": true,",
         "            \"sniff\": false,",
         "            \"route_exclude_address\": "]),
      (.routeExcludeAddresses, lines
        ["",
         "        \x7d",
         "    ],",
         "    \"outbounds\": [",
         "        \x7b",
         "            \"type\": \"socks\",",
         "            \"tag\": \"proxor-socks\",",
         "            \"udp_fragment\": true,",
         "            "]),
      (.socksUserPass, lines
        ["",
         "            \"server\": \"127.0.0.1\",",
         "            \"server_port\": "]),
      (.port, lines
        ["",
         "        \x7d,",
         "        \x7b",
         "            \"type\": \"direct\",",
         "            \"tag\": \"direct\"",
         "        \x7d,",
         "        \x7b",
         "            \"type\": \"direct\",",
         "            \"tag\": \"bypass\"",
         "        \x7d",
         "    ],",
         "    \"route\": \x7b",
         "        \"final\": \""]),
      (.finalOut, lines
        ["\",",
         "        \"auto_detect_interface\": true,",
         "        \"find_process\": true,",
         "        \"rules\": [",
         "            \x7b",
         "                \"network\": \"udp\",",
         "                \"port\": [",
         "                    135,",
         "                    137,",
         "                    138,",
         "                    139,",
         "                    5353",
         "                ],",
         "                \"action\": \"reject\"",
         "            \x7d,",
         "            \x7b",
         "                \"ip_cidr\": [",
         "                    \"224.0.0.0/3\",",
         "                    \"ff00::/8\"",
         "                ],",
         "                \"action\": \"reject\"",
         "            \x7d,",
         "            \x7b",
         "                \"source_ip_cidr\": [",
         "                    \"224.0.0.0/3\",",
         "                    \"ff00::/8\"",
         "                ],",
         "                \"action\": \"reject\"",
         "            \x7d,",
         "            \x7b",
         "                \"ip_cidr\": "]),
      (.tunAddresses, lines
        [",",
         "                \"action\": \"reject\"",
         "            \x7d,",
         "            \x7b",
         "                \"port\": 53,",
         "                \"process_name\": [",
         "                    \"proxor_core\",",
         "                    \"proxor_core.exe\"",
         "                ],",
         "                \"action\": \"hijack-dns\"",
         "            \x7d,",
         "            \x7b",
         "                \"process_name\": [",
         "                    \"proxor_core\",",
         "                    \"proxor_core.exe\"",
         "                ],",
         "                \"outbound\": \"direct\"",
         "            \x7d",
         "            "]),
      (.processNameRule, lines
        ["",
         "            "]),
      (.cidrRule, lines
        ["",
         "            ,",
         "            \x7b",
         "                \"port\": 53,",
         "                \"action\": \"hijack-dns\"",
         "            \x7d",
         "        ]",
         "    \x7d",
         "\x7d",
         ""])]

/-! ### The texts of the settings -/

/-- `HostOs`. -/
inductive HostOs
  | windows
  | linux
  | macOS
  | other
deriving DecidableEq

/-- `KnownVpnClientProcessNames`. -/
def knownVpnClientProcessNames : HostOs → List String
  | .windows => ["wireguard.exe", "openvpn.exe", "tailscaled.exe"]
  | .linux => ["wireguard-go", "openvpn", "tailscaled"]
  | .macOS => ["wireguard-go", "openvpn", "tailscaled", "WireGuard"]
  | .other => []

/-- `genTunName`. -/
def genTunName : HostOs → String
  | .macOS => "utun9"
  | _ => "proxor-tun"

/-- `TunAddresses`. -/
def tunAddresses (includeIpv6 : Bool) : List String :=
  ["172.19.0.1/28"] ++ if includeIpv6 then ["fdfe:dcba:9876::1/126"] else []

/-- `Preset::SingBox::VpnImplementation`. -/
def vpnImplementation : List String := ["gvisor", "system", "mixed"]

/-- `QStringList::value`. -/
def listValue (list : List String) (i : ℤ) : String := if i < 0 then "" else list.getD i.toNat ""

/-- The fields of an object in the order of their keys, in which `QJsonObject` has them. -/
def sorted (o : JsonObject) : JsonObject := o.insertionSort fun a b => a.1 ≤ b.1

/-- `QJsonObject2QString`. -/
def qJsonObject2QString (o : JsonObject) (compact : Bool) : List Char :=
  JsonText.writeValue compact 0 (.obj (sorted o)) ++ if compact then [] else ['\n']

/-- `QJsonArray2QStringCompact` of texts. -/
def qJsonArray2QStringCompact (items : List String) : List Char := JsonText.writeValue true 0 (texts items)

/-- What decides about a configuration apart from the settings: the system, whether the Tun has an address of
IPv6 (`TunIncludesIpv6`), and the networks that are kept out of it (`BuildTunRouteExclusions`). -/
structure VpnEnv where
  os : HostOs
  tunIncludesIpv6 : Bool
  routeExclusions : List String

section Values

variable [Qt] (env : VpnEnv) (s : Settings)

/-- Where the processes and addresses of the rules go. -/
def matchOut : String := if s.vpn_rule_white then "proxor-socks" else "direct"

/-- Where the others go. -/
def noMatchOut : String := if s.vpn_rule_white then "direct" else "proxor-socks"

/-- `NeedAuth`. -/
def needAuth : Bool := trimmed s.inbound_username != "" && trimmed s.inbound_password != ""

/-- The rule of the lines of a setting, if it has any. -/
def userRule (key text : String) : List JsonObject :=
  if trimmed text = "" then []
  else [[("outbound", .str (matchOut s)), (key, texts (splitLinesSkipSharp (trimmed text)))]]

/-- The rules for processes: that of the user, and one for the programs of other networks. -/
def processRules : List JsonObject :=
  userRule s "process_name" s.vpn_rule_process ++
    if knownVpnClientProcessNames env.os = [] then []
    else [[("outbound", .str "direct"), ("process_name", texts (knownVpnClientProcessNames env.os))]]

/-- Every rule with a comma before it. -/
def rulesText (rules : List JsonObject) : List Char :=
  rules.flatMap fun rule => ',' :: qJsonObject2QString rule false

/-- The user name and the password as they are pasted into the template. -/
def socksUserPass : List Char :=
  if needAuth s then
    " \"username\": \"".toList ++ s.inbound_username.toList ++ "\", \"password\": \"".toList ++
      s.inbound_password.toList ++ "\", ".toList
  else []

/-- The DNS servers. -/
def dnsRemote : JsonObject :=
  buildTypedDnsServer "dns-remote" s.remote_dns "proxor-socks" s.remote_dns_strategy

def dnsDirect : JsonObject := buildTypedDnsServer "dns-direct" "local" "" s.direct_dns_strategy

def dnsLocal : JsonObject :=
  buildTypedDnsServer "dns-local"
    (if s.core_box_underlying_dns = "" then "local" else s.core_box_underlying_dns) "" ""

/-- The networks that are kept out of the Tun. -/
def routeExclusions : List String :=
  env.routeExclusions ++ ["13.107.4.52/32", "23.103.160.10/32", "131.107.255.255/32"]

/-- The name of the inbound for which the rule of the false addresses is. -/
def fakeDnsInbound : String := if s.fake_dns then "tun-in" else "empty"

/-- The text for every mark. -/
def value : Hole → List Char
  | .tunAddresses => qJsonArray2QStringCompact (tunAddresses env.tunIncludesIpv6)
  | .routeExcludeAddresses => qJsonArray2QStringCompact (routeExclusions env)
  | .dnsRemoteServer => qJsonObject2QString (dnsRemote s) true
  | .dnsDirectServer => qJsonObject2QString (dnsDirect s) true
  | .dnsLocalServer => qJsonObject2QString (dnsLocal s) true
  | .socksUserPass => socksUserPass s
  | .processNameRule => rulesText (processRules env s)
  | .cidrRule => rulesText (userRule s "ip_cidr" s.vpn_rule_cidr)
  | .mtu => (toString s.vpn_mtu).toList
  | .stack => (listValue vpnImplementation s.vpn_implementation).toList
  | .tunName => (genTunName env.os).toList
  | .strictRoute => (if s.vpn_strict_route then "true" else "false").toList
  | .finalOut => (noMatchOut s).toList
  | .fakeDnsInbound => (fakeDnsInbound s).toList
  | .port => (toString s.inbound_socks_port).toList

/-- `WriteVPNSingBoxConfig`: the text that is written, with the template that is built in. -/
def writeVPNSingBoxConfig : List Char := fill mark (value env s) order (template.render mark)

/-! ### The tree -/

/-- Texts as they are in the tree. -/
def authFields : JsonObject :=
  if needAuth s then [("username", .str s.inbound_username), ("password", .str s.inbound_password)] else []

/-- An object as `QJsonObject` has it. -/
def ordered (o : JsonObject) : Json := .obj (sorted o)

/-- **The tree of the configuration**: that of the template with the settings in the places of the marks. -/
def vpnTree : Json :=
  .obj [
    ("log", .obj [("level", .str "info")]),
    ("dns", .obj [
      ("servers", .arr [
        ordered (dnsRemote s),
        ordered (dnsDirect s),
        ordered (dnsLocal s),
        .obj [("type", .str "fakeip"), ("tag", .str "dns-fake"), ("inet4_range", .str "198.18.0.0/15"),
          ("inet6_range", .str "fc00::/18")],
        .obj [("address", .str "rcode://success"), ("tag", .str "dns-block")]]),
      ("rules", .arr [
        .obj [("query_type", .arr [.num 32, .num 33]), ("server", .str "dns-block")],
        .obj [("domain_suffix", .arr [.str ".lan"]), ("server", .str "dns-block")],
        .obj [("process_name", .arr [.str "proxor_core", .str "proxor_core.exe"]),
          ("server", .str "dns-direct")],
        .obj [("inbound", .str (fakeDnsInbound s)), ("query_type", .arr [.num 1, .num 28]),
          ("server", .str "dns-fake")]])]),
    ("inbounds", .arr [
      .obj [("type", .str "tun"), ("tag", .str "tun-in"), ("interface_name", .str (genTunName env.os)),
        ("address", texts (tunAddresses env.tunIncludesIpv6)), ("mtu", .num s.vpn_mtu),
        ("auto_route", .bool true), ("strict_route", .bool s.vpn_strict_route),
        ("stack", .str (listValue vpnImplementation s.vpn_implementation)),
        ("endpoint_independent_nat", .bool true), ("sniff", .bool false),
        ("route_exclude_address", texts (routeExclusions env))]]),
    ("outbounds", .arr [
      .obj ([("type", .str "socks"), ("tag", .str "proxor-socks"), ("udp_fragment", .bool true)] ++
        authFields s ++ [("server", .str "127.0.0.1"), ("server_port", .num s.inbound_socks_port)]),
      .obj [("type", .str "direct"), ("tag", .str "direct")],
      .obj [("type", .str "direct"), ("tag", .str "bypass")]]),
    ("route", .obj [
      ("final", .str (noMatchOut s)),
      ("auto_detect_interface", .bool true),
      ("find_process", .bool true),
      ("rules", .arr ([
        .obj [("network", .str "udp"),
          ("port", .arr [.num 135, .num 137, .num 138, .num 139, .num 5353]), ("action", .str "reject")],
        .obj [("ip_cidr", .arr [.str "224.0.0.0/3", .str "ff00::/8"]), ("action", .str "reject")],
        .obj [("source_ip_cidr", .arr [.str "224.0.0.0/3", .str "ff00::/8"]), ("action", .str "reject")],
        .obj [("ip_cidr", texts (tunAddresses env.tunIncludesIpv6)), ("action", .str "reject")],
        .obj [("port", .num 53), ("process_name", .arr [.str "proxor_core", .str "proxor_core.exe"]),
          ("action", .str "hijack-dns")],
        .obj [("process_name", .arr [.str "proxor_core", .str "proxor_core.exe"]),
          ("outbound", .str "direct")]] ++
        (processRules env s).map ordered ++ (userRule s "ip_cidr" s.vpn_rule_cidr).map ordered ++
        [.obj [("port", .num 53), ("action", .str "hijack-dns")]]))])]

end Values

end Proxor.Db.Vpn
