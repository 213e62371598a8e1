import Proxor.Fmt.Beans

set_option relaxedAutoImplicit false
set_option autoImplicit false

/-!
# Outbounds of the software's own core

The outbound object of a bean. One of the builders writes to its bean: the flow of a VLESS bean loses
a suffix, or is cleared.

## Main definitions

* `Proxor.Fmt.V2rayStreamSettings.buildStreamSettingsSingBox` — the transport and the TLS settings.
* `Proxor.Fmt.Bean.buildCoreObjSingBox` — the outbound of a bean.
* `Proxor.Fmt.Bean.afterBuild` — the bean after its outbound was built.
-/

namespace Proxor.Fmt

open Db (texts)
open Db.ProfileManager (trimmed)

/-- `CoreObjOutboundBuildResult`. -/
structure CoreObjOutboundBuildResult where
  outbound : JsonObject := []
  error : String := ""

/-! ### Stream settings -/

/-- `QString::toInt`: 0 for what is no `int`. -/
def textToInt (s : String) : ℤ := ((Text.atoi (trimmed s)).map toInt).getD 0

namespace V2rayStreamSettings

/-- The transport object of a network other than `tcp`. -/
def transport (s : V2rayStreamSettings) : JsonObject :=
  let transport : JsonObject := [("type", .str s.network)]
  if s.network = "ws" then
    let transport :=
      if s.host = "" then transport else transport.set "headers" (.obj [("Host", .str s.host)])
    let pathWithoutEd := subStrBefore s.path "?ed="
    let transport :=
      if pathWithoutEd = "" then transport else transport.set "path" (.str pathWithoutEd)
    let ed := textToInt (subStrAfter s.path "?ed=")
    let transport :=
      if pathWithoutEd ≠ s.path ∧ 0 < ed then
        (transport.set "max_early_data" (.num ed)).set "early_data_header_name"
          (.str "Sec-WebSocket-Protocol")
      else transport
    if 0 < s.ws_early_data_length then
      (transport.set "max_early_data" (.num s.ws_early_data_length)).set "early_data_header_name"
        (.str s.ws_early_data_name)
    else transport
  else if s.network = "http" then
    let transport := if s.path = "" then transport else transport.set "path" (.str s.path)
    if s.host = "" then transport else transport.set "host" (texts (split s.host ','))
  else if s.network = "grpc" then
    if s.path = "" then transport else transport.set "service_name" (.str s.path)
  else if s.network = "httpupgrade" then
    let transport := if s.path = "" then transport else transport.set "path" (.str s.path)
    if s.host = "" then transport else transport.set "host" (.str s.host)
  else transport

/-- The TLS object. -/
def tls (skip_cert : Bool) (s : V2rayStreamSettings) : JsonObject :=
  let tls : JsonObject := [("enabled", .bool true)]
  let tls := if s.allow_insecure || skip_cert then tls.set "insecure" (.bool true) else tls
  let tls := if trimmed s.sni = "" then tls else tls.set "server_name" (.str s.sni)
  let tls :=
    if trimmed s.certificate = "" then tls else tls.set "certificate" (.str (trimmed s.certificate))
  let tls := if trimmed s.alpn = "" then tls else tls.set "alpn" (texts (split s.alpn ','))
  let reality := trimmed s.reality_pbk ≠ ""
  let tls :=
    if reality then
      tls.set "reality" (.obj [("enabled", .bool true), ("public_key", .str s.reality_pbk),
        ("short_id", .str ((split s.reality_sid ',').headD ""))])
    else tls
  let fp := if reality ∧ s.utlsFingerprint = "" then "random" else s.utlsFingerprint
  if fp = "" then tls
  else tls.set "utls" (.obj [("enabled", .bool true), ("fingerprint", .str fp)])

/-- `BuildStreamSettingsSingBox`. -/
def buildStreamSettingsSingBox (skip_cert : Bool) (s : V2rayStreamSettings)
    (outbound : JsonObject) : JsonObject :=
  let outbound :=
    if s.network ≠ "tcp" then outbound.set "transport" (.obj s.transport)
    else if s.header_type = "http" then
      outbound.set "transport" (.obj [("type", .str "http"), ("method", .str "GET"),
        ("path", .str s.path), ("headers", .obj [("Host", texts (split s.host ','))])])
    else outbound
  let outbound :=
    if s.security = "tls" then outbound.set "tls" (.obj (s.tls skip_cert)) else outbound
  let type := (outbound.get? "type").map jsonToString |>.getD ""
  if type = "vmess" ∨ type = "vless" then
    outbound.set "packet_encoding" (.str s.packet_encoding)
  else outbound

end V2rayStreamSettings

/-! ### Outbounds -/

/-- `SocksHttpBean::BuildCoreObjSingBox`. -/
def SocksHttpBean.buildCoreObjSingBox (skip_cert : Bool) (b : SocksHttpBean) :
    CoreObjOutboundBuildResult :=
  let outbound : JsonObject :=
    [("type", .str (if b.socks_http_type = type_HTTP then "http" else "socks"))]
  let outbound :=
    if b.socks_http_type = type_Socks4 then outbound.set "version" (.str "4") else outbound
  let outbound := outbound.set "server" (.str b.serverAddress)
  let outbound := outbound.set "server_port" (.num b.serverPort)
  let outbound :=
    if b.username ≠ "" ∧ b.password ≠ "" then
      (outbound.set "username" (.str b.username)).set "password" (.str b.password)
    else outbound
  { outbound := b.stream.buildStreamSettingsSingBox skip_cert outbound }

/-- `ShadowSocksBean::BuildCoreObjSingBox`. -/
def ShadowSocksBean.buildCoreObjSingBox (skip_cert : Bool) (b : ShadowSocksBean) :
    CoreObjOutboundBuildResult :=
  let outbound : JsonObject :=
    [("type", .str "shadowsocks"), ("server", .str b.serverAddress),
      ("server_port", .num b.serverPort), ("method", .str b.method),
      ("password", .str b.password),
      ("udp_over_tcp",
        if b.uot ≠ 0 then .obj [("enabled", .bool true), ("version", .num b.uot)]
        else .bool false)]
  let outbound :=
    if b.pluginName = "" then outbound else outbound.set "plugin" (.str b.pluginName)
  let outbound :=
    if b.pluginName = "" ∨ b.pluginOptions = "" then outbound
    else outbound.set "plugin_opts" (.str b.pluginOptions)
  { outbound := b.stream.buildStreamSettingsSingBox skip_cert outbound }

/-- `VMessBean::BuildCoreObjSingBox`. -/
def VMessBean.buildCoreObjSingBox (skip_cert : Bool) (b : VMessBean) :
    CoreObjOutboundBuildResult :=
  let outbound : JsonObject :=
    [("type", .str "vmess"), ("server", .str b.serverAddress), ("server_port", .num b.serverPort),
      ("uuid", .str (trimmed b.uuid)), ("alter_id", .num b.aid), ("security", .str b.security)]
  { outbound := b.stream.buildStreamSettingsSingBox skip_cert outbound }

/-- The flow that a VLESS bean is left with. -/
def builtFlow (flow : String) : String :=
  if Text.hasSuffix flow "-udp443" then Text.trimSuffix flow "-udp443"
  else if flow = "none" then ""
  else flow

/-- `TrojanVLESSBean::BuildCoreObjSingBox` of a Trojan bean. -/
def TrojanVLESSBean.buildTrojan (skip_cert : Bool) (b : TrojanVLESSBean) :
    CoreObjOutboundBuildResult :=
  let outbound : JsonObject :=
    [("type", .str "trojan"), ("server", .str b.serverAddress), ("server_port", .num b.serverPort),
      ("password", .str b.password)]
  { outbound := b.stream.buildStreamSettingsSingBox skip_cert outbound }

/-- `TrojanVLESSBean::BuildCoreObjSingBox` of a VLESS bean, with the flow the bean is left with. -/
def TrojanVLESSBean.buildVLESS (skip_cert : Bool) (b : TrojanVLESSBean) :
    CoreObjOutboundBuildResult :=
  let outbound : JsonObject :=
    [("type", .str "vless"), ("server", .str b.serverAddress), ("server_port", .num b.serverPort),
      ("uuid", .str (trimmed b.password)), ("flow", .str (builtFlow b.flow))]
  { outbound := b.stream.buildStreamSettingsSingBox skip_cert outbound }

/-- `QUICBean::BuildCoreObjSingBox`. -/
def QUICBean.buildCoreObjSingBox (proxy_type : QUICType) (b : QUICBean) :
    CoreObjOutboundBuildResult :=
  let coreTlsObj : JsonObject :=
    [("enabled", .bool true), ("disable_sni", .bool b.disableSni),
      ("insecure", .bool b.allowInsecure), ("certificate", .str (trimmed b.caText)),
      ("server_name", .str b.sni)]
  let coreTlsObj :=
    if trimmed b.alpn = "" then coreTlsObj else coreTlsObj.set "alpn" (texts (split b.alpn ','))
  let coreTlsObj :=
    if proxy_type = .hysteria2 then coreTlsObj.set "alpn" (.str "h3") else coreTlsObj
  let outbound : JsonObject :=
    [("server", .str b.serverAddress), ("server_port", .num b.serverPort),
      ("tls", .obj coreTlsObj)]
  match proxy_type with
  | .hysteria2 =>
    let outbound := outbound.set "type" (.str "hysteria2")
    let outbound := outbound.set "password" (.str b.password)
    let outbound := outbound.set "up_mbps" (.num b.uploadMbps)
    let outbound := outbound.set "down_mbps" (.num b.downloadMbps)
    let outbound :=
      if trimmed b.hopPort = "" then outbound
      else (outbound.set "hop_ports" (.str b.hopPort)).set "hop_interval" (.num b.hopInterval)
    let outbound :=
      if b.obfsPassword = "" then outbound
      else outbound.set "obfs"
        (.obj [("type", .str "salamander"), ("password", .str b.obfsPassword)])
    { outbound := outbound }
  | .tuic =>
    let outbound := outbound.set "type" (.str "tuic")
    let outbound := outbound.set "uuid" (.str b.uuid)
    let outbound := outbound.set "password" (.str b.password)
    let outbound := outbound.set "congestion_control" (.str b.congestionControl)
    let outbound :=
      if b.uos then outbound.set "udp_over_stream" (.bool true)
      else outbound.set "udp_relay_mode" (.str b.udpRelayMode)
    let outbound := outbound.set "zero_rtt_handshake" (.bool b.zeroRttHandshake)
    let outbound :=
      if trimmed b.heartbeat = "" then outbound else outbound.set "heartbeat" (.str b.heartbeat)
    { outbound := outbound }

variable [Qt]

/-- `NaiveBean::BuildCoreObjSingBox`. -/
def NaiveBean.buildCoreObjSingBox (b : NaiveBean) : CoreObjOutboundBuildResult :=
  let tls : JsonObject := [("enabled", .bool true)]
  let tls := if trimmed b.sni = "" then tls else tls.set "server_name" (.str (trimmed b.sni))
  let tls :=
    if trimmed b.certificate = "" then tls else tls.set "certificate" (.str (trimmed b.certificate))
  let outbound : JsonObject :=
    [("type", .str "naive"), ("server", .str b.serverAddress), ("server_port", .num b.serverPort),
      ("username", .str (stripLeadingFlag b.username)), ("password", .str b.password),
      ("tls", .obj tls), ("udp_over_tcp", .bool true)]
  let outbound := if b.protocol = "quic" then outbound.set "quic" (.bool true) else outbound
  let outbound :=
    if 0 < b.insecure_concurrency then
      outbound.set "insecure_concurrency" (.num b.insecure_concurrency)
    else outbound
  if trimmed b.extra_headers = "" then { outbound := outbound }
  else
    let headers := Qt.parseObject b.extra_headers
    if headers.isEmpty then
      { error := "Naive extra headers must be a JSON object for sing-box." }
    else { outbound := outbound.set "extra_headers" (.obj headers) }

/-- `CustomBean::BuildCoreObjSingBox`. -/
def CustomBean.buildCoreObjSingBox (b : CustomBean) : CoreObjOutboundBuildResult :=
  if b.core = "internal" then { outbound := Qt.parseObject b.config_simple } else {}

/-- `BuildCoreObjSingBox`. -/
def Bean.buildCoreObjSingBox (skip_cert : Bool) : Bean → CoreObjOutboundBuildResult
  | .socks b | .http b => b.buildCoreObjSingBox skip_cert
  | .shadowsocks b => b.buildCoreObjSingBox skip_cert
  | .chain _ => {}
  | .vmess b => b.buildCoreObjSingBox skip_cert
  | .trojan b => b.buildTrojan skip_cert
  | .vless b => b.buildVLESS skip_cert
  | .naive b => b.buildCoreObjSingBox
  | .hysteria2 b => b.buildCoreObjSingBox .hysteria2
  | .tuic b => b.buildCoreObjSingBox .tuic
  | .custom b => b.buildCoreObjSingBox

omit [Qt] in
/-- The bean after its outbound was built: the flow of a VLESS bean is written. -/
def Bean.afterBuild : Bean → Bean
  | .vless b => .vless { b with flow := builtFlow b.flow }
  | b => b

end Proxor.Fmt
