import Proxor.Lib.Reflect
import Proxor.MacHelper.SysproxyPlan

set_option relaxedAutoImplicit false
set_option autoImplicit false

/-!
# The check of a Tun config

The helper runs sing-box as root from JSON that a user-level process sends. The config is decoded, and what comes out
is walked field by field: what the template does not need is rejected with a reason that names the key. What is
returned is normalised: the name of the interface is cleared, routes are always installed, and local DNS servers get
`prefer_go`.

## Main definitions

* `Proxor.MacHelper.Options` — what the decoder returns.
* `Proxor.MacHelper.denyKeys` — a struct has no field but the allowed ones.
* `Proxor.MacHelper.validateRules` — the rules, nested to any depth.
* `Proxor.MacHelper.validateOptions` — all the checks, with the options normalised.
* `Proxor.MacHelper.validateTunConfig` — the decoder and the checks.

## Design

The structs of sing-box have the fields that are read by name, and the list of their other fields as reflection sees
them. A pointer in an interface is not nil, as the decoder makes it. How a string is quoted in a reason, and the
decoder, are parameters.
-/

namespace Proxor.MacHelper

open Reflect

/-! ### Options -/

/-- An exported field with a JSON key. -/
def jsonField (name key : String) : StructField := { name := name, jsonTag := some (key ++ ",omitempty") }

/-- An embedded struct. -/
def embeddedField (name : String) : StructField := { name := name, anonymous := true }

/-- A string as a value. -/
def stringValue (s : String) : Value := .scalar (s = "")

/-- The fields of a struct that are not read by name. -/
abbrev OtherFields := List (StructField × Value)

/-- The server that resolves the name of another. -/
structure DomainResolveOptions where
  server : String

/-- How a connection is made. -/
structure DialerOptions where
  detour : String := ""
  domainResolver : Option DomainResolveOptions := none
  rest : OtherFields := []

/-- The struct as reflection sees it. -/
def DialerOptions.value (o : DialerOptions) : Value :=
  .struct ((jsonField "Detour" "detour", stringValue o.detour) ::
    (jsonField "DomainResolver" "domain_resolver", .ref (o.domainResolver.map fun dr =>
      .struct [(jsonField "Server" "server", stringValue dr.server)])) :: o.rest)

/-- The options of a SOCKS outbound. -/
structure SOCKSOutboundOptions where
  server : String
  serverPort : UInt16
  rest : OtherFields := []

/-- The struct as reflection sees it: the server and its port are embedded. -/
def SOCKSOutboundOptions.value (o : SOCKSOutboundOptions) : Value :=
  .struct ((embeddedField "ServerOptions", .struct [(jsonField "Server" "server", stringValue o.server),
    (jsonField "ServerPort" "server_port", .scalar (o.serverPort = 0))]) :: o.rest)

/-- The options of an outbound: what is no pointer to one of these types has only the name of its own. -/
inductive OutboundOptions
  | socks (o : SOCKSOutboundOptions)
  | direct (fields : OtherFields)
  | other (typeName : String)

/-- An outbound of a config. -/
structure Outbound where
  type : String
  tag : String
  options : OutboundOptions

/-- The options of a Tun inbound. -/
structure TunInboundOptions where
  interfaceName : String := ""
  autoRoute : Bool := false
  stack : String := ""
  rest : OtherFields := []

/-- The struct as reflection sees it. -/
def TunInboundOptions.value (o : TunInboundOptions) : Value :=
  .struct ((jsonField "InterfaceName" "interface_name", stringValue o.interfaceName) ::
    (jsonField "AutoRoute" "auto_route", .scalar (!o.autoRoute)) ::
    (jsonField "Stack" "stack", stringValue o.stack) :: o.rest)

/-- The options of an inbound. -/
inductive InboundOptions
  | tun (o : TunInboundOptions)
  | other (typeName : String)

/-- An inbound of a config. -/
structure Inbound where
  type : String
  tag : String
  options : InboundOptions

/-- The options of the resolver of the system. -/
structure LocalDNSServerOptions where
  dialer : DialerOptions := {}
  preferGo : Bool := false
  rest : OtherFields := []

/-- The struct as reflection sees it. -/
def LocalDNSServerOptions.value (o : LocalDNSServerOptions) : Value :=
  .struct ((embeddedField "DialerOptions", o.dialer.value) ::
    (jsonField "PreferGo" "prefer_go", .scalar (!o.preferGo)) :: o.rest)

/-- The options of a server over UDP or TCP. -/
structure RemoteDNSServerOptions where
  dialer : DialerOptions := {}
  rest : OtherFields := []

/-- The struct as reflection sees it. -/
def RemoteDNSServerOptions.value (o : RemoteDNSServerOptions) : Value :=
  .struct ((embeddedField "DialerOptions", o.dialer.value) :: o.rest)

/-- The options of a server over TLS or QUIC. -/
structure RemoteTLSDNSServerOptions where
  dialer : DialerOptions := {}
  tls : Option OtherFields := none
  rest : OtherFields := []

/-- The struct as reflection sees it. -/
def RemoteTLSDNSServerOptions.value (o : RemoteTLSDNSServerOptions) : Value :=
  .struct ((embeddedField "DialerOptions", o.dialer.value) ::
    (jsonField "TLS" "tls", .ref (o.tls.map .struct)) :: o.rest)

/-- The options of a server over HTTPS. -/
structure RemoteHTTPSDNSServerOptions where
  dialer : DialerOptions := {}
  tls : Option OtherFields := none
  path : String := ""
  rest : OtherFields := []

/-- The struct as reflection sees it. -/
def RemoteHTTPSDNSServerOptions.value (o : RemoteHTTPSDNSServerOptions) : Value :=
  .struct ((embeddedField "DialerOptions", o.dialer.value) ::
    (jsonField "TLS" "tls", .ref (o.tls.map .struct)) ::
    (jsonField "Path" "path", stringValue o.path) :: o.rest)

/-- The options of a DNS server, by their type. -/
inductive DNSOptions.ServerOptions
  | local (o : LocalDNSServerOptions)
  | remote (o : RemoteDNSServerOptions)
  | remoteTLS (o : RemoteTLSDNSServerOptions)
  | remoteHTTPS (o : RemoteHTTPSDNSServerOptions)
  | fakeIP (fields : OtherFields)
  | other (typeName : String)

/-- A DNS server of a config. -/
structure DNSServerOptions where
  type : String
  tag : String
  options : DNSOptions.ServerOptions

/-- What a default rule matches by sets that are read from files or downloaded, and its action. -/
structure DefaultRule (A : Type) where
  ruleSet : List String := []
  geosite : List String := []
  geoIP : List String := []
  sourceGeoIP : List String := []
  action : A

/-- A rule of either kind: the options of both are there, whatever the type says. -/
inductive Rule (A : Type)
  | mk (type : String) (defaultOptions : DefaultRule A) (rules : List (Rule A)) (action : A)

namespace Rule

variable {A : Type}

/-- The type of a rule. -/
def type : Rule A → String
  | mk type _ _ _ => type

/-- The options of a default rule. -/
def defaultOptions : Rule A → DefaultRule A
  | mk _ defaultOptions _ _ => defaultOptions

/-- The rules of a logical rule. -/
def rules : Rule A → List (Rule A)
  | mk _ _ rules _ => rules

/-- The action of a logical rule. -/
def action : Rule A → A
  | mk _ _ _ action => action

end Rule

/-- What a DNS rule does. -/
structure DNSRuleAction where
  action : String
  server : String := ""

/-- What a route rule does. -/
structure RuleAction where
  action : String
  outbound : String := ""
  resolveServer : String := ""

/-- The DNS section of a config. -/
structure DNSOptions where
  servers : List DNSServerOptions := []
  rules : List (Rule DNSRuleAction) := []
  final : String := ""
  fakeIP : Option Value := none

/-- The route section of a config. -/
structure RouteOptions where
  rules : List (Rule RuleAction) := []
  final : String := ""
  defaultDomainResolver : Option DomainResolveOptions := none
  rest : OtherFields := []

/-- The struct as reflection sees it. -/
def RouteOptions.value (o : RouteOptions) : Value :=
  .struct ((jsonField "Rules" "rules", .seq (some o.rules.length)) ::
    (jsonField "Final" "final", stringValue o.final) ::
    (jsonField "DefaultDomainResolver" "default_domain_resolver", .ref (o.defaultDomainResolver.map fun dr =>
      .struct [(jsonField "Server" "server", stringValue dr.server)])) :: o.rest)

/-- The log section of a config. -/
structure LogOptions where
  output : String := ""

/-- A config, as the decoder returns it. -/
structure Options where
  log : Option LogOptions := none
  dns : Option DNSOptions := none
  ntp : Option Value := none
  certificate : Option Value := none
  endpoints : List Value := []
  services : List Value := []
  experimental : Option Value := none
  inbounds : List Inbound := []
  outbounds : List Outbound := []
  route : Option RouteOptions := none

/-! ### Checks -/

/-- The name of the type of options. -/
def OutboundOptions.typeName : OutboundOptions → String
  | socks _ => "*option.SOCKSOutboundOptions"
  | direct _ => "*option.DirectOutboundOptions"
  | other typeName => typeName

section Checks

variable (quote : String → String)

/-- No field but the allowed ones may be there. -/
def denyKeys (place : String) (v : Value) (allowed : List String) : Except Err Unit :=
  match v.extraKeys allowed with
  | [] => .ok ()
  | key :: _ => .error (.text (place ++ ": field " ++ quote key ++ " is not allowed"))

/-- The options are not of the type that belongs to the outbound, the inbound or the server. -/
def unexpectedType (place typeName : String) : Err :=
  .text (place ++ ": unexpected options type " ++ typeName)

/-- Only server, auth and version: the dial fields would let the config steer root traffic. -/
def socksKeys : List String := ["server", "server_port", "version", "username", "password", "udp_fragment"]

/-- What a direct outbound may have. -/
def directKeys : List String := ["udp_fragment"]

/-- The check of an outbound with its tag behind it: how many outbounds to the core it is. -/
def validateOutbound (socksPort : ℤ) (out : Outbound) : Except Err ℕ :=
  let place := "outbound " ++ quote out.tag
  if out.type = "socks" then
    match out.options with
    | .socks o =>
      denyKeys quote (place ++ " (socks)") o.value socksKeys >>= fun _ =>
      if o.server ≠ "127.0.0.1" ∧ o.server ≠ "::1" then
        .error (.text (place ++ ": socks server must be 127.0.0.1 or ::1, got " ++ quote o.server))
      else if (o.serverPort.toNat : ℤ) ≠ socksPort then
        .error (.text (place ++ ": socks server_port " ++ toString o.serverPort.toNat ++
          " does not match the core port " ++ toString socksPort))
      else .ok 1
    | options => .error (unexpectedType place options.typeName)
  else if out.type = "direct" then
    match out.options with
    | .direct fields => denyKeys quote (place ++ " (direct)") (.struct fields) directKeys >>= fun _ => .ok 0
    | options => .error (unexpectedType place options.typeName)
  else .error (.text (place ++ ": outbound type " ++ quote out.type ++ " is not allowed (only socks and direct)"))

/-- The loop over the outbounds, with the tags and the number of outbounds to the core so far. -/
def validateOutboundsFrom (socksPort : ℤ) : List Outbound → List String → ℕ → Except Err (List String)
  | [], tags, socks =>
    if socks = 0 then .error (.text "outbounds: a socks outbound to the core is required") else .ok tags
  | out :: outbounds, tags, socks =>
    if out.tag = "" then .error (.text ("outbound of type " ++ quote out.type ++ " has no tag"))
    else if out.tag ∈ tags then .error (.text ("outbound " ++ quote out.tag ++ ": duplicate tag"))
    else validateOutbound quote socksPort out >>= fun n =>
      validateOutboundsFrom socksPort outbounds (tags ++ [out.tag]) (socks + n)

/-- The outbounds: their tags come out. -/
def validateOutbounds (outbounds : List Outbound) (socksPort : ℤ) : Except Err (List String) :=
  validateOutboundsFrom quote socksPort outbounds [] 0

/-- What a Tun inbound may have. -/
def tunKeys : List String :=
  ["interface_name", "mtu", "address", "auto_route", "strict_route", "route_address", "route_exclude_address", "stack",
    "endpoint_independent_nat", "udp_timeout", "sniff", "sniff_override_destination", "sniff_timeout",
    "domain_strategy", "udp_disable_domain_unmapping"]

/-- The network stacks. -/
def tunStacks : List String := ["", "system", "gvisor", "mixed"]

/-- sing-box picks the next free interface, and the helper always installs routes. -/
def TunInboundOptions.normalized (tun : TunInboundOptions) : TunInboundOptions :=
  { tun with interfaceName := "", autoRoute := true }

/-- There is one inbound, a Tun. -/
def validateInbounds (inbounds : List Inbound) : Except Err (List Inbound) :=
  match inbounds with
  | [inbound] =>
    if inbound.type ≠ "tun" then
      .error (.text ("inbound " ++ quote inbound.tag ++ ": type " ++ quote inbound.type ++
        " is not allowed (only tun)"))
    else match inbound.options with
      | .tun tun =>
        let place := "inbound " ++ quote inbound.tag ++ " (tun)"
        denyKeys quote place tun.value tunKeys >>= fun _ =>
        if tun.stack ∉ tunStacks then
          .error (.text (place ++ ": stack " ++ quote tun.stack ++ " is not allowed"))
        else .ok [{ inbound with options := .tun tun.normalized }]
      | .other typeName => .error (unexpectedType ("inbound " ++ quote inbound.tag) typeName)
  | _ =>
    .error (.text ("exactly one tun inbound is required, got " ++ toString inbounds.length ++ " inbounds"))

/-- What every DNS server may have of its dialer. -/
def dnsDialKeys : List String := ["detour", "domain_resolver", "udp_fragment"]

/-- What a TLS section may have. -/
def tlsKeys : List String :=
  ["enabled", "disable_sni", "server_name", "insecure", "alpn", "min_version", "max_version", "cipher_suites",
    "curve_preferences", "certificate", "certificate_public_key_sha256", "fragment", "fragment_fallback_delay",
    "record_fragment"]

/-- Only options that carry no file path and no client identity. -/
def validateTLS (place : String) (tls : Option OtherFields) : Except Err Unit :=
  match tls with
  | none => .ok ()
  | some fields => denyKeys quote (place ++ " tls") (.struct fields) tlsKeys

/-- The types of DNS servers. -/
def dnsTypes : List String := ["local", "udp", "tcp", "tls", "https", "quic", "h3", "fakeip"]

/-- The server that resolves names must be declared, if there is one. -/
def checkResolver (what : String) (dnsTags : List String) (resolver : Option DomainResolveOptions) :
    Except Err Unit :=
  match resolver with
  | none => .ok ()
  | some dr =>
    if dr.server ≠ "" ∧ dr.server ∉ dnsTags then
      .error (.text (what ++ " " ++ quote dr.server ++ " is not a dns server tag"))
    else .ok ()

/-- What a DNS server is reached through must be declared. -/
def validateDial (place : String) (dnsTags outboundTags : List String) (dial : DialerOptions) : Except Err Unit :=
  if dial.detour ≠ "" ∧ dial.detour ∉ outboundTags then
    .error (.text (place ++ ": detour " ++ quote dial.detour ++ " is not an outbound tag"))
  else checkResolver quote (place ++ ": domain_resolver") dnsTags dial.domainResolver

/-- A local server resolves without cgo: that path misbehaves under Tun. -/
def LocalDNSServerOptions.normalized (o : LocalDNSServerOptions) : LocalDNSServerOptions := { o with preferGo := true }

/-- A DNS server: of its type, with what that allows. -/
def validateDNSServer (dnsTags outboundTags : List String) (s : DNSServerOptions) : Except Err DNSServerOptions :=
  let place := "dns server " ++ quote s.tag
  if s.type ∉ dnsTypes then .error (.text (place ++ ": dns server type " ++ quote s.type ++ " is not allowed"))
  else match s.options with
    | .local o =>
      denyKeys quote place o.value ("prefer_go" :: dnsDialKeys) >>= fun _ =>
      validateDial quote place dnsTags outboundTags o.dialer >>= fun _ =>
      .ok { s with options := .local o.normalized }
    | .remote o =>
      denyKeys quote place o.value ("server" :: "server_port" :: dnsDialKeys) >>= fun _ =>
      validateDial quote place dnsTags outboundTags o.dialer >>= fun _ => .ok s
    | .remoteTLS o =>
      denyKeys quote place o.value ("server" :: "server_port" :: "tls" :: dnsDialKeys) >>= fun _ =>
      validateTLS quote place o.tls >>= fun _ =>
      validateDial quote place dnsTags outboundTags o.dialer >>= fun _ => .ok s
    | .remoteHTTPS o =>
      denyKeys quote place o.value
        ("server" :: "server_port" :: "tls" :: "path" :: "method" :: "headers" :: dnsDialKeys) >>= fun _ =>
      if o.path ≠ "" ∧ ¬ (['/'] <+: o.path.toList) then
        .error (.text (place ++ ": path " ++ quote o.path ++ " must be a URL path starting with /"))
      else
        validateTLS quote place o.tls >>= fun _ =>
        validateDial quote place dnsTags outboundTags o.dialer >>= fun _ => .ok s
    | .fakeIP fields => denyKeys quote place (.struct fields) ["inet4_range", "inet6_range"] >>= fun _ => .ok s
    | .other typeName => .error (unexpectedType place typeName)

/-- The rule matches by a set that is read from a file or downloaded. -/
def checkMatch {A : Type} (kind : String) (d : DefaultRule A) : Except Err Unit :=
  if d.ruleSet ≠ [] then .error (.text (kind ++ ": \"rule_set\" is not allowed"))
  else if d.geosite ≠ [] ∨ d.geoIP ≠ [] ∨ d.sourceGeoIP ≠ [] then
    .error (.text (kind ++ ": geosite/geoip matching is not allowed"))
  else .ok ()

mutual

/-- The check of a rule: of a logical one the rules in it are checked before its action. -/
def validateRule {A : Type} (kind : String) (check : A → Except Err Unit) : Rule A → Except Err Unit
  | .mk type defaultOptions rules action =>
    if type = "default" then checkMatch kind defaultOptions >>= fun _ => check defaultOptions.action
    else if type = "logical" then validateRules kind check rules >>= fun _ => check action
    else .error (.text (kind ++ ": unknown rule type " ++ quote type))

/-- The check of rules, in their order. -/
def validateRules {A : Type} (kind : String) (check : A → Except Err Unit) : List (Rule A) → Except Err Unit
  | [] => .ok ()
  | r :: rules => validateRule kind check r >>= fun _ => validateRules kind check rules

end

/-- The action of a DNS rule. -/
def checkDNSAction (dnsTags : List String) (a : DNSRuleAction) : Except Err Unit :=
  if a.action = "route" then
    if a.server ∉ dnsTags then .error (.text ("dns rule: server " ++ quote a.server ++ " is not a dns server tag"))
    else .ok ()
  else if a.action = "route-options" ∨ a.action = "reject" ∨ a.action = "predefined" then .ok ()
  else .error (.text ("dns rule: action " ++ quote a.action ++ " is not allowed"))

/-- The rules of the DNS section. -/
def validateDNSRules (rules : List (Rule DNSRuleAction)) (dnsTags : List String) : Except Err Unit :=
  validateRules quote "dns rule" (checkDNSAction quote dnsTags) rules

/-- The tags of the servers that have one: none may be there twice. -/
def dnsServerTags : List DNSServerOptions → List String → Except Err (List String)
  | [], tags => .ok tags
  | s :: servers, tags =>
    if s.tag = "" then dnsServerTags servers tags
    else if s.tag ∈ tags then .error (.text ("dns server " ++ quote s.tag ++ ": duplicate tag"))
    else dnsServerTags servers (tags ++ [s.tag])

/-- The DNS section: the tags of its servers come out with it. -/
def validateDNS (dns : Option DNSOptions) (outboundTags : List String) :
    Except Err (Option DNSOptions × List String) :=
  match dns with
  | none => .ok (none, [])
  | some dns =>
    if dns.fakeIP.isSome then .error (.text "dns: legacy \"fakeip\" block is not allowed")
    else
      dnsServerTags quote dns.servers [] >>= fun tags =>
      dns.servers.mapM (validateDNSServer quote tags outboundTags) >>= fun servers =>
      if dns.final ≠ "" ∧ dns.final ∉ tags then
        .error (.text ("dns.final " ++ quote dns.final ++ " is not a dns server tag"))
      else validateDNSRules quote dns.rules tags >>= fun _ => .ok (some { dns with servers := servers }, tags)

/-- What the route section may have. -/
def routeKeys : List String := ["rules", "final", "find_process", "auto_detect_interface", "default_domain_resolver"]

/-- The action of a route rule. -/
def checkRouteAction (outboundTags dnsTags : List String) (a : RuleAction) : Except Err Unit :=
  if a.action = "route" then
    if a.outbound ∉ outboundTags then
      .error (.text ("route rule: outbound " ++ quote a.outbound ++ " is not an outbound tag"))
    else .ok ()
  else if a.action = "resolve" then
    if a.resolveServer ≠ "" ∧ a.resolveServer ∉ dnsTags then
      .error (.text ("route rule: resolve server " ++ quote a.resolveServer ++ " is not a dns server tag"))
    else .ok ()
  else if a.action = "route-options" ∨ a.action = "reject" ∨ a.action = "hijack-dns" ∨ a.action = "sniff" then .ok ()
  -- direct and bypass carry dial fields
  else .error (.text ("route rule: action " ++ quote a.action ++ " is not allowed"))

/-- The rules of the route section. -/
def validateRouteRules (rules : List (Rule RuleAction)) (outboundTags dnsTags : List String) : Except Err Unit :=
  validateRules quote "route rule" (checkRouteAction quote outboundTags dnsTags) rules

/-- The route section. -/
def validateRoute (route : Option RouteOptions) (outboundTags dnsTags : List String) : Except Err Unit :=
  match route with
  | none => .error (.text "route: \"final\" is required")
  | some route =>
    denyKeys quote "route" route.value routeKeys >>= fun _ =>
    if route.final ∉ outboundTags then
      .error (.text ("route.final " ++ quote route.final ++ " is not an outbound tag"))
    else
      checkResolver quote "route.default_domain_resolver" dnsTags route.defaultDomainResolver >>= fun _ =>
      validateRouteRules quote route.rules outboundTags dnsTags

/-- All the checks: the options that come out are normalised. -/
def validateOptions (opts : Options) (socksPort : ℤ) : Except Err Options :=
  if opts.ntp.isSome then .error (.text "\"ntp\" is not allowed")
  else if opts.certificate.isSome then .error (.text "\"certificate\" is not allowed")
  else if opts.endpoints ≠ [] then .error (.text "\"endpoints\" is not allowed")
  else if opts.services ≠ [] then .error (.text "\"services\" is not allowed")
  else if opts.experimental.isSome then .error (.text "\"experimental\" is not allowed")
  else if (opts.log.map LogOptions.output).getD "" ≠ "" then .error (.text "\"log.output\" is not allowed")
  else
    validateOutbounds quote opts.outbounds socksPort >>= fun outboundTags =>
    validateInbounds quote opts.inbounds >>= fun inbounds =>
    validateDNS quote opts.dns outboundTags >>= fun dns =>
    validateRoute quote opts.route outboundTags dns.2 >>= fun _ =>
    .ok { opts with inbounds := inbounds, dns := dns.1 }

/-- The decoder and the checks: what comes out is what must run. -/
def validateTunConfig (decode : String → Except Err Options) (config : String) (socksPort : ℤ) : Except Err Options :=
  if socksPort < 1 ∨ 65535 < socksPort then .error (.text ("invalid socksPort " ++ toString socksPort))
  else (decode config).mapError (.wrap "decode config") >>= fun opts => validateOptions quote opts socksPort

end Checks

end Proxor.MacHelper
