import Proxor.Fmt.ChainBean
import Proxor.Main.JsonStore
import Proxor.Main.Qt

set_option relaxedAutoImplicit false
set_option autoImplicit false

/-!
# The beans

What a profile holds of a server, by the kind of server, with the fields that are stored.

## Main definitions

* `Proxor.Fmt.V2rayStreamSettings` — the transport and the TLS settings of some beans.
* `Proxor.Fmt.Bean` — the bean of a profile; its constructor is the type of the profile.
* `Proxor.Fmt.Bean.toJson` — what is stored of it.
* `Proxor.Fmt.Bean.needExternal` — whether another core is needed for it.

## Design

The type of a server never changes, so `proxy_type` is the constructor.
-/

namespace Proxor.Fmt

open Db.ProfileManager (trimmed)

/-- `AbstractBean`. -/
structure AbstractBean where
  version : ℤ := 0
  name : String := ""
  serverAddress : String := "127.0.0.1"
  serverPort : ℤ := 1080
  custom_config : String := ""
  custom_outbound : String := ""
deriving DecidableEq

/-- The registered fields of every bean. -/
def AbstractBean.items (b : AbstractBean) : JsonStore :=
  [("_v", .integer b.version), ("name", .string b.name), ("addr", .string b.serverAddress),
    ("port", .integer b.serverPort), ("c_cfg", .string b.custom_config),
    ("c_out", .string b.custom_outbound)]

/-- `V2rayStreamSettings`. -/
structure V2rayStreamSettings where
  network : String := "tcp"
  security : String := ""
  packet_encoding : String := ""
  path : String := ""
  host : String := ""
  header_type : String := ""
  sni : String := ""
  alpn : String := ""
  certificate : String := ""
  utlsFingerprint : String := ""
  allow_insecure : Bool := false
  ws_early_data_name : String := ""
  ws_early_data_length : ℤ := 0
  reality_pbk : String := ""
  reality_sid : String := ""
  reality_spx : String := ""
  multiplex_status : ℤ := 0
deriving DecidableEq

/-- The registered fields of the stream settings. -/
def V2rayStreamSettings.items (b : V2rayStreamSettings) : JsonStore :=
  [("net", .string b.network), ("sec", .string b.security), ("pac_enc", .string b.packet_encoding),
    ("path", .string b.path), ("host", .string b.host), ("sni", .string b.sni),
    ("alpn", .string b.alpn), ("cert", .string b.certificate),
    ("insecure", .boolean b.allow_insecure), ("h_type", .string b.header_type),
    ("ed_name", .string b.ws_early_data_name), ("ed_len", .integer b.ws_early_data_length),
    ("utls", .string b.utlsFingerprint), ("pbk", .string b.reality_pbk),
    ("sid", .string b.reality_sid), ("spx", .string b.reality_spx),
    ("mux_s", .integer b.multiplex_status)]

/-! ### The kinds of servers -/

/-- `SocksHttpBean`. -/
structure SocksHttpBean extends AbstractBean where
  socks_http_type : ℤ
  username : String := ""
  password : String := ""
  stream : V2rayStreamSettings := {}
deriving DecidableEq

/-- `type_HTTP`. -/
def type_HTTP : ℤ := -80

/-- `type_Socks4`. -/
def type_Socks4 : ℤ := 4

/-- `type_Socks5`. -/
def type_Socks5 : ℤ := 5

/-- The registered fields. -/
def SocksHttpBean.items (b : SocksHttpBean) : JsonStore :=
  b.toAbstractBean.items ++
    [("v", .integer b.socks_http_type), ("username", .string b.username),
      ("password", .string b.password), ("stream", .jsonStore b.stream.items)]

/-- `ShadowSocksBean`. -/
structure ShadowSocksBean extends AbstractBean where
  method : String := "aes-128-gcm"
  password : String := ""
  plugin : String := ""
  uot : ℤ := 0
  stream : V2rayStreamSettings := {}
deriving DecidableEq

/-- The registered fields. -/
def ShadowSocksBean.items (b : ShadowSocksBean) : JsonStore :=
  b.toAbstractBean.items ++
    [("method", .string b.method), ("pass", .string b.password), ("plugin", .string b.plugin),
      ("uot", .integer b.uot), ("stream", .jsonStore b.stream.items)]

/-- `PluginName`. -/
def ShadowSocksBean.pluginName (b : ShadowSocksBean) : String := trimmed (subStrBefore b.plugin ";")

/-- `PluginOptions`. -/
def ShadowSocksBean.pluginOptions (b : ShadowSocksBean) : String :=
  if b.pluginName = "" then "" else trimmed (subStrAfter b.plugin ";")

/-- `VMessBean`. -/
structure VMessBean extends AbstractBean where
  uuid : String := ""
  aid : ℤ := 0
  security : String := "auto"
  stream : V2rayStreamSettings := {}
deriving DecidableEq

/-- The registered fields. -/
def VMessBean.items (b : VMessBean) : JsonStore :=
  b.toAbstractBean.items ++
    [("id", .string b.uuid), ("aid", .integer b.aid), ("sec", .string b.security),
      ("stream", .jsonStore b.stream.items)]

/-- `TrojanVLESSBean`. -/
structure TrojanVLESSBean extends AbstractBean where
  password : String := ""
  flow : String := ""
  stream : V2rayStreamSettings := {}
deriving DecidableEq

/-- The registered fields. -/
def TrojanVLESSBean.items (b : TrojanVLESSBean) : JsonStore :=
  b.toAbstractBean.items ++
    [("pass", .string b.password), ("flow", .string b.flow), ("stream", .jsonStore b.stream.items)]

/-- `NaiveBean`. -/
structure NaiveBean extends AbstractBean where
  username : String := ""
  password : String := ""
  protocol : String := "https"
  extra_headers : String := ""
  sni : String := ""
  certificate : String := ""
  insecure_concurrency : ℤ := 0
  disable_log : Bool := false
deriving DecidableEq

/-- The registered fields. -/
def NaiveBean.items (b : NaiveBean) : JsonStore :=
  b.toAbstractBean.items ++
    [("username", .string b.username), ("password", .string b.password),
      ("protocol", .string b.protocol), ("extra_headers", .string b.extra_headers),
      ("sni", .string b.sni), ("certificate", .string b.certificate),
      ("insecure_concurrency", .integer b.insecure_concurrency),
      ("disable_log", .boolean b.disable_log)]

/-- `QUICBean`. -/
structure QUICBean extends AbstractBean where
  forceExternal : Bool := false
  obfsPassword : String := ""
  uploadMbps : ℤ := 0
  downloadMbps : ℤ := 0
  streamReceiveWindow : ℤ := 0
  connectionReceiveWindow : ℤ := 0
  disableMtuDiscovery : Bool := false
  hopInterval : ℤ := 10
  hopPort : String := ""
  uuid : String := ""
  congestionControl : String := "bbr"
  udpRelayMode : String := "native"
  zeroRttHandshake : Bool := false
  heartbeat : String := "10s"
  uos : Bool := false
  password : String := ""
  allowInsecure : Bool := false
  sni : String := ""
  alpn : String := ""
  caText : String := ""
  disableSni : Bool := false
deriving DecidableEq

/-- `proxy_type` of a `QUICBean`. -/
inductive QUICType
  | hysteria2 | tuic
deriving DecidableEq

/-- The registered fields. -/
def QUICBean.items (proxy_type : QUICType) (b : QUICBean) : JsonStore :=
  b.toAbstractBean.items ++
    (match proxy_type with
      | .hysteria2 =>
        [("obfsPassword", .string b.obfsPassword), ("uploadMbps", .integer b.uploadMbps),
          ("downloadMbps", .integer b.downloadMbps),
          ("streamReceiveWindow", .integer64 b.streamReceiveWindow),
          ("connectionReceiveWindow", .integer64 b.connectionReceiveWindow),
          ("disableMtuDiscovery", .boolean b.disableMtuDiscovery),
          ("hopInterval", .integer b.hopInterval), ("hopPort", .string b.hopPort),
          ("password", .string b.password)]
      | .tuic =>
        [("uuid", .string b.uuid), ("password", .string b.password),
          ("congestionControl", .string b.congestionControl),
          ("udpRelayMode", .string b.udpRelayMode),
          ("zeroRttHandshake", .boolean b.zeroRttHandshake), ("heartbeat", .string b.heartbeat),
          ("uos", .boolean b.uos)]) ++
    [("forceExternal", .boolean b.forceExternal), ("allowInsecure", .boolean b.allowInsecure),
      ("sni", .string b.sni), ("alpn", .string b.alpn), ("caText", .string b.caText),
      ("disableSni", .boolean b.disableSni)]

/-- `CustomBean`. -/
structure CustomBean extends AbstractBean where
  core : String := ""
  command : List String := []
  config_suffix : String := ""
  config_simple : String := ""
  mapping_port : ℤ := 0
  socks_port : ℤ := 0
deriving DecidableEq

/-- The registered fields. -/
def CustomBean.items (b : CustomBean) : JsonStore :=
  b.toAbstractBean.items ++
    [("core", .string b.core), ("cmd", .stringList b.command), ("cs", .string b.config_simple),
      ("cs_suffix", .string b.config_suffix), ("mapping_port", .integer b.mapping_port),
      ("socks_port", .integer b.socks_port)]

/-- The bean of a profile, by the type of the profile (`NewProxyEntity`). -/
inductive Bean
  | socks (b : SocksHttpBean)
  | http (b : SocksHttpBean)
  | shadowsocks (b : ShadowSocksBean)
  | chain (b : ChainBean)
  | vmess (b : VMessBean)
  | trojan (b : TrojanVLESSBean)
  | vless (b : TrojanVLESSBean)
  | naive (b : NaiveBean)
  | hysteria2 (b : QUICBean)
  | tuic (b : QUICBean)
  | custom (b : CustomBean)
deriving DecidableEq

/-- The software's own core (`software_core_name`). -/
def softwareCoreName : String := "sing-box"

namespace Bean

/-- The type of the profile. -/
def type : Bean → String
  | .socks _ => "socks"
  | .http _ => "http"
  | .shadowsocks _ => "shadowsocks"
  | .chain _ => "chain"
  | .vmess _ => "vmess"
  | .trojan _ => "trojan"
  | .vless _ => "vless"
  | .naive _ => "naive"
  | .hysteria2 _ => "hysteria2"
  | .tuic _ => "tuic"
  | .custom _ => "custom"

/-- What every bean has. -/
def base : Bean → AbstractBean
  | .socks b | .http b => b.toAbstractBean
  | .shadowsocks b => b.toAbstractBean
  | .chain b =>
    ⟨b.version, b.name, b.serverAddress, b.serverPort, b.custom_config, b.custom_outbound⟩
  | .vmess b => b.toAbstractBean
  | .trojan b | .vless b => b.toAbstractBean
  | .naive b => b.toAbstractBean
  | .hysteria2 b | .tuic b => b.toAbstractBean
  | .custom b => b.toAbstractBean

/-- `GetStreamSettings`. -/
def stream : Bean → Option V2rayStreamSettings
  | .socks b | .http b => some b.stream
  | .shadowsocks b => some b.stream
  | .vmess b => some b.stream
  | .trojan b | .vless b => some b.stream
  | _ => none

/-- The registered fields. -/
def items : Bean → JsonStore
  | .socks b | .http b => b.items
  | .shadowsocks b => b.items
  | .chain b => (Bean.chain b).base.items ++ [("list", .integerList b.list)]
  | .vmess b => b.items
  | .trojan b | .vless b => b.items
  | .naive b => b.items
  | .hysteria2 b => b.items .hysteria2
  | .tuic b => b.items .tuic
  | .custom b => b.items

/-- `ToJson`. -/
def toJson (b : Bean) : JsonObject := b.items.toJson []

/-- The core of a custom bean is the software's own. -/
def CustomBean.isInternal (b : CustomBean) : Bool := b.core = "internal" || b.core = "internal-full"

/-- `NeedExternal`: −1 for what cannot be used, 0 for the software's own core, 1 for another core that
is reached through a mapping, 2 for one that connects itself. -/
def needExternal (spmode_vpn : Bool) (isFirstProfile : Bool) : Bean → ℤ
  | .hysteria2 b | .tuic b =>
    if !b.forceExternal then 0
    else if isFirstProfile then
      if spmode_vpn && trimmed b.hopPort == "" then 1 else 2
    else if trimmed b.hopPort ≠ "" then -1
    else 1
  | .custom b => if CustomBean.isInternal b then 0 else 1
  | _ => 0

variable [Qt]

/-- `DisplayType`. -/
def displayType : Bean → String
  | .socks b | .http b => if b.socks_http_type = type_HTTP then "HTTP" else "Socks"
  | .shadowsocks _ => "Shadowsocks"
  | .chain _ => ChainBean.displayType
  | .vmess _ => "VMess"
  | .trojan _ => "Trojan"
  | .vless _ => "VLESS"
  | .naive _ => "Naive"
  | .hysteria2 _ => "Hysteria2"
  | .tuic _ => "TUIC"
  | .custom b =>
    if b.core = "internal" then
      (((Qt.parseObject b.config_simple).get? "type").map jsonToString).getD ""
    else if b.core = "internal-full" then softwareCoreName ++ " config"
    else b.core

/-- `DisplayCoreType`. -/
def displayCoreType (spmode_vpn : Bool) : Bean → String
  | .naive _ => "Naive"
  | .hysteria2 b =>
    if needExternal spmode_vpn true (.hysteria2 b) = 0 then softwareCoreName else "hysteria2"
  | .tuic b => if needExternal spmode_vpn true (.tuic b) = 0 then softwareCoreName else "tuic"
  | .custom b =>
    if needExternal spmode_vpn true (.custom b) = 0 then softwareCoreName else b.core
  | _ => softwareCoreName

/-- `DisplayAddress`. -/
def displayAddress : Bean → String
  | .chain _ => ChainBean.displayAddress
  | .hysteria2 b | .tuic b =>
    if trimmed b.hopPort ≠ "" then wrapIPV6Host b.serverAddress ++ ":" ++ b.hopPort
    else Proxor.displayAddress b.serverAddress b.serverPort
  | .custom b =>
    if b.core = "internal" then
      let obj := Qt.parseObject b.config_simple
      Proxor.displayAddress ((obj.get? "server").map jsonToString |>.getD "")
        ((obj.get? "server_port").map jsonToInt |>.getD 0)
    else if b.core = "internal-full" then ""
    else Proxor.displayAddress b.serverAddress b.serverPort
  | b => Proxor.displayAddress b.base.serverAddress b.base.serverPort

/-- `DisplayName`. -/
def displayName (b : Bean) : String := if b.base.name = "" then b.displayAddress else b.base.name

/-- `DisplayTypeAndName`. -/
def displayTypeAndName (b : Bean) : String := "[" ++ b.displayType ++ "] " ++ b.displayName

/-- `MetadataStrippedIdentity`. -/
def metadataStrippedIdentity (b : Bean) : String :=
  Qt.objectText (b.items.toJson ["c_cfg", "c_out", "name"]) true ++ b.displayType

end Bean

/-! ### What is read back

A bean that is loaded from what was stored of it. An empty text is not stored, so its field keeps the
default, as a field does that is not registered. -/

/-- A text that is read back. -/
def readText (s default : String) : String := if s = "" then default else s

/-- What every bean has, read back. -/
def AbstractBean.reload (b : AbstractBean) : AbstractBean :=
  { b with
    version := toInt b.version
    serverAddress := readText b.serverAddress "127.0.0.1"
    serverPort := toInt b.serverPort }

/-- The stream settings, read back. -/
def V2rayStreamSettings.reload (b : V2rayStreamSettings) : V2rayStreamSettings :=
  { b with
    network := readText b.network "tcp"
    ws_early_data_length := toInt b.ws_early_data_length
    multiplex_status := toInt b.multiplex_status }

/-- A socks or HTTP bean, read back. -/
def SocksHttpBean.reload (b : SocksHttpBean) : SocksHttpBean :=
  { b with
    toAbstractBean := b.toAbstractBean.reload
    socks_http_type := toInt b.socks_http_type
    stream := b.stream.reload }

/-- A Trojan or VLESS bean, read back. -/
def TrojanVLESSBean.reload (b : TrojanVLESSBean) : TrojanVLESSBean :=
  { b with toAbstractBean := b.toAbstractBean.reload, stream := b.stream.reload }

/-- A bean, read back. -/
def Bean.reload : Bean → Bean
  | .socks b => .socks b.reload
  | .http b => .http b.reload
  | .shadowsocks b =>
    .shadowsocks { b with
      toAbstractBean := b.toAbstractBean.reload
      method := readText b.method "aes-128-gcm"
      uot := toInt b.uot
      stream := b.stream.reload }
  | .chain b =>
    .chain { b with
      version := toInt b.version
      serverAddress := readText b.serverAddress "127.0.0.1"
      serverPort := toInt b.serverPort
      list := b.list.map toInt }
  | .vmess b =>
    .vmess { b with
      toAbstractBean := b.toAbstractBean.reload
      aid := toInt b.aid
      security := readText b.security "auto"
      stream := b.stream.reload }
  | .trojan b => .trojan b.reload
  | .vless b => .vless b.reload
  | .naive b =>
    .naive { b with
      toAbstractBean := b.toAbstractBean.reload
      protocol := readText b.protocol "https"
      insecure_concurrency := toInt b.insecure_concurrency }
  | .hysteria2 b =>
    .hysteria2
      { toAbstractBean := b.toAbstractBean.reload
        forceExternal := b.forceExternal
        obfsPassword := b.obfsPassword
        uploadMbps := toInt b.uploadMbps
        downloadMbps := toInt b.downloadMbps
        streamReceiveWindow := toDouble b.streamReceiveWindow
        connectionReceiveWindow := toDouble b.connectionReceiveWindow
        disableMtuDiscovery := b.disableMtuDiscovery
        hopInterval := toInt b.hopInterval
        hopPort := b.hopPort
        password := b.password
        allowInsecure := b.allowInsecure
        sni := b.sni
        alpn := b.alpn
        caText := b.caText
        disableSni := b.disableSni }
  | .tuic b =>
    .tuic
      { toAbstractBean := b.toAbstractBean.reload
        forceExternal := b.forceExternal
        uuid := b.uuid
        password := b.password
        congestionControl := readText b.congestionControl "bbr"
        udpRelayMode := readText b.udpRelayMode "native"
        zeroRttHandshake := b.zeroRttHandshake
        heartbeat := readText b.heartbeat "10s"
        uos := b.uos
        allowInsecure := b.allowInsecure
        sni := b.sni
        alpn := b.alpn
        caText := b.caText
        disableSni := b.disableSni }
  | .custom b =>
    .custom { b with
      toAbstractBean := b.toAbstractBean.reload
      mapping_port := toInt b.mapping_port
      socks_port := toInt b.socks_port }

/-- The list of a chain. -/
def Bean.list : Bean → List ℤ
  | .chain b => b.list
  | _ => []

instance [Qt] : Db.AbstractBean Bean where
  summary b :=
    { name := b.base.name
      serverAddress := b.base.serverAddress
      serverPort := b.base.serverPort
      displayType := b.displayType
      displayAddress := b.displayAddress
      displayName := b.displayName
      displayTypeAndName := b.displayTypeAndName }
  list := Bean.list
  metadataStrippedIdentity := Bean.metadataStrippedIdentity
  reload := Bean.reload

end Proxor.Fmt
