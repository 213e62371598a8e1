import Proxor.Fmt.External

set_option relaxedAutoImplicit false
set_option autoImplicit false

/-!
# What a configuration is made from

Apart from the profiles, a configuration is made from the settings, and from answers of the system
while it is built.

## Main definitions

* `Proxor.Db.Settings` — the settings.
* `Proxor.Db.BuildEnv` — the answers of the system.
* `Proxor.Db.mergeJson` — how an object of the user is merged into one that was built.
-/

namespace Proxor.Db

/-- `SniffingMode`. -/
inductive SniffingMode
  | disable | forRouting | forDestination
deriving DecidableEq

/-- The settings of `DataStore` and of its `Routing` and `ExtraCore` that a configuration is made
from. -/
structure Settings where
  spmode_vpn : Bool := false
  log_level : String := "info"
  mux_protocol : String := "h2mux"
  mux_padding : Bool := false
  mux_concurrency : ℤ := 8
  mux_default_on : Bool := false
  skip_cert : Bool := false
  inbound_address : String := "127.0.0.1"
  inbound_socks_port : ℤ := 2080
  inbound_username : String := ""
  inbound_password : String := ""
  custom_inbound : String := "\x7b\"inbounds\": []\x7d"
  custom_route_global : String := "\x7b\"rules\": []\x7d"
  direct_site_rules : List DirectSiteRule := []
  fake_dns : Bool := true
  vpn_internal_tun : Bool := true
  vpn_implementation : ℤ := 0
  vpn_mtu : ℤ := 9000
  vpn_strict_route : Bool := false
  vpn_rule_white : Bool := false
  vpn_bypass_vpn_clients : Bool := true
  vpn_rule_process : String := ""
  vpn_rule_cidr : String := ""
  core_box_clash_api : ℤ := -9090
  core_box_clash_api_secret : String := ""
  core_box_underlying_dns : String := ""
  core_map : String := ""
  direct_ip : String := ""
  direct_domain : String := ""
  proxy_ip : String := ""
  proxy_domain : String := ""
  block_ip : String := ""
  block_domain : String := ""
  def_outbound : String := "proxy"
  custom : String := "\x7b\"rules\": []\x7d"
  remote_dns : String := "https://dns.google/dns-query"
  remote_dns_strategy : String := ""
  direct_dns : String := "https://doh.pub/dns-query"
  direct_dns_strategy : String := ""
  dns_routing : Bool := true
  use_dns_object : Bool := false
  dns_object : String := ""
  dns_final_out : String := "proxy"
  hosts_mapping : String := ""
  domain_strategy : String := ""
  outbound_domain_strategy : String := ""
  sniffing_mode : SniffingMode := .forRouting

/-- The answers of the system while a configuration is built: the free ports that `MkPort` finds for
an element of the chain and the temporary files of its core, whether a Tun in the core is possible
here (`UseInternalTun` apart from the setting), the name and the addresses of the Tun (`genTunName`,
`TunAddresses`), the networks that are kept out of it (`BuildTunRouteExclusions` and those of the
system), the names of the implementations of a Tun, the paths and names of the processes that stay out
of it for a list of programs (`BuildAutoBypassProcesses`), the absolute path of a program, the Wi-Fi
the machine is in (`cachedSsid`), and the paths of the two data files, empty if there are none
(`FindCoreAsset`). -/
structure BuildEnv where
  mappingPort : ℕ → ℤ
  socksPort : ℕ → ℤ
  files : ℕ → Fmt.TempFiles
  internalTunPossible : Bool
  tunName : String
  tunAddresses : List String
  routeExclusions : List String
  autoBypass : (programs : List String) → (includeVpnClients : Bool) → List String × List String
  absoluteProgram : String → String
  currentSsid : String
  vpnImplementation : ℤ → String
  geoip : String
  geosite : String

/-- `UseInternalTun`. -/
def useInternalTun (env : BuildEnv) (s : Settings) : Bool :=
  env.internalTunPossible && s.vpn_internal_tun

/-- `ExtraCore::Get`. -/
def extraCore [Qt] (s : Settings) (id : String) : String :=
  ((Qt.parseObject s.core_map).get? id).map jsonToString |>.getD ""

/-! ### Objects of the user -/

/-- `QJsonValue::toArray`. -/
def jsonToArray : Json → List Json
  | .arr items => items
  | _ => []

/-- `QJsonValue::toObject`. -/
def jsonToObject : Json → JsonObject
  | .obj fields => fields
  | _ => []

mutual

/-- `MergeJson`: the fields of an object one after the other. -/
def mergeJson (dst : JsonObject) : JsonObject → JsonObject
  | [] => dst
  | field :: src => mergeJson (mergeField dst field) src

/-- A field: objects are merged, and an array whose key begins or ends with a plus sign is put before
or after the one that is there. -/
def mergeField (dst : JsonObject) : String × Json → JsonObject
  | (key, v) => mergeValue dst key v

/-- The value of a field. -/
def mergeValue (dst : JsonObject) (key : String) : Json → JsonObject
  | .obj o =>
    match dst.get? key with
    | some (.obj d) => dst.set key (.obj (mergeJson d o))
    | _ => dst.set key (.obj o)
  | .arr items =>
    if (dst.get? key).isSome then dst.set key (.arr items)
    else if Text.hasPrefix key "+" then
      let key2 := subStrAfter key "+"
      dst.set key2 (.arr (items ++ ((dst.get? key2).map jsonToArray).getD []))
    else if Text.hasSuffix key "+" then
      let key2 := subStrBefore key "+"
      dst.set key2 (.arr (((dst.get? key2).map jsonToArray).getD [] ++ items))
    else dst.set key (.arr items)
  | v => dst.set key v

end

end Proxor.Db
