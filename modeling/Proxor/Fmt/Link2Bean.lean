import Proxor.Fmt.Beans
import Proxor.Main.QUrl

set_option relaxedAutoImplicit false
set_option autoImplicit false

/-!
# Beans from share links

`TryParseLink` of the beans that have it. A link that is not accepted gives nothing: its caller drops the
bean then.

## Main definitions

* `Proxor.Fmt.SocksHttpBean.tryParseLink` and its siblings — the parsers.
* `Proxor.Fmt.Bean.tryParseLink` — the parser of a bean, by the type of the profile.

## Design

A parser writes into a bean that has values already, which is a parameter here. The fingerprint of the
settings is one too.
-/

namespace Proxor.Fmt

open Text (hasPrefix)

/-- `proxy_type` of a `TrojanVLESSBean`. -/
inductive TrojanVLESSType
  | trojan | vless
deriving DecidableEq

/-- The network of a link: h2 is another name of http. -/
def linkNetwork (type : String) : String := if type = "h2" then "http" else type

variable [Qt] [QtUrl]

/-- The user name and the password of a v2rayN link: both are in the user name. -/
def v2rayNUser (username password : String) : String × String :=
  if password = "" ∧ username ≠ "" then
    let n := fromUtf8 (decodeB64IfValid username false)
    if n ≠ "" then (subStrBefore n ":", subStrAfter n ":") else (username, password)
  else (username, password)

/-- `SocksHttpBean::TryParseLink`. -/
def SocksHttpBean.tryParseLink (b : SocksHttpBean) (link : String) : Option SocksHttpBean :=
  let url := parseUrlWithUnicodeFragment link
  if !url.isValid then none
  else
    let query := url.queryFullyDecoded
    let socks_http_type := if hasPrefix link "socks4" then type_Socks4 else b.socks_http_type
    let socks_http_type := if hasPrefix link "http" then type_HTTP else socks_http_type
    let serverPort :=
      if url.port = -1 then (if socks_http_type = type_HTTP then 443 else 1080) else url.port
    let user := v2rayNUser url.userName url.password
    let security := if hasPrefix link "https" then "tls" else getQueryValue query "security" ""
    if url.host = "" then none
    else some
      { b with
        socks_http_type
        name := decodePercentEncodedText url.fragmentFullyDecoded
        serverAddress := url.host
        serverPort
        username := user.1
        password := user.2
        stream := { b.stream with security, sni := getQueryValue query "sni" "" } }

/-- What the queries of Trojan, VLESS and VMess links say about the transport, by the network. -/
def transportFromQuery (query : String) (stream : V2rayStreamSettings) : V2rayStreamSettings :=
  if stream.network = "ws" then
    { stream with path := getQueryValue query "path" "", host := getQueryValue query "host" "" }
  else if stream.network = "http" then
    { stream with
      path := getQueryValue query "path" ""
      host := replaceAll (getQueryValue query "host" "") "|" "," }
  else if stream.network = "httpupgrade" then
    { stream with path := getQueryValue query "path" "", host := getQueryValue query "host" "" }
  else if stream.network = "grpc" then { stream with path := getQueryValue query "serviceName" "" }
  else if stream.network = "tcp" then
    if getQueryValue query "headerType" "" = "http" then
      { stream with
        header_type := "http"
        host := getQueryValue query "host" ""
        path := getQueryValue query "path" "" }
    else stream
  else stream

/-- The server names of a link: the last one that is there. -/
def sniFromQuery (query sni : String) : String :=
  let sni := if getQueryValue query "sni" "" ≠ "" then getQueryValue query "sni" "" else sni
  if getQueryValue query "peer" "" ≠ "" then getQueryValue query "peer" "" else sni

/-- The fingerprint of a link, or that of the settings. -/
def fingerprintFromQuery (utlsFingerprint query : String) : String :=
  if getQueryValue query "fp" "" = "" then utlsFingerprint else getQueryValue query "fp" ""

/-- `TrojanVLESSBean::TryParseLink`. -/
def TrojanVLESSBean.tryParseLink (proxy_type : TrojanVLESSType) (utlsFingerprint : String)
    (b : TrojanVLESSBean) (link : String) : Option TrojanVLESSBean :=
  let url := parseUrlWithUnicodeFragment link
  if !url.isValid then none
  else
    let query := url.queryFullyDecoded
    let security := match proxy_type with
      | .trojan => getQueryValue query "security" "tls"
      | .vless => getQueryValue query "security" ""
    let stream := transportFromQuery query
      { b.stream with
        network := linkNetwork (getQueryValue query "type" "tcp")
        security := replaceAll (replaceAll security "reality" "tls") "none" ""
        sni := sniFromQuery query b.stream.sni
        alpn := getQueryValue query "alpn" ""
        allow_insecure := QtUrl.queryItemValue query "allowInsecure" ≠ "" || b.stream.allow_insecure
        reality_pbk := getQueryValue query "pbk" ""
        reality_sid := getQueryValue query "sid" ""
        reality_spx := getQueryValue query "spx" ""
        utlsFingerprint := fingerprintFromQuery utlsFingerprint query }
    let b : TrojanVLESSBean :=
      { b with
        name := decodePercentEncodedText url.fragmentFullyDecoded
        serverAddress := url.host
        serverPort := if url.port = -1 then 443 else url.port
        password := url.userName }
    if url.userName = "" ∨ url.host = "" then none
    else match proxy_type with
      | .trojan => some { b with stream }
      | .vless => some
          { b with
            flow := getQueryValue query "flow" ""
            stream := { stream with packet_encoding := getQueryValue query "packetEncoding" "" } }

/-- `SetPluginParts`. -/
def ShadowSocksBean.setPluginParts (b : ShadowSocksBean) (name options : String) : ShadowSocksBean :=
  let plugin := Db.ProfileManager.trimmed name
  let trimmedOptions := Db.ProfileManager.trimmed options
  { b with
    plugin := if plugin ≠ "" ∧ trimmedOptions ≠ "" then plugin ++ ";" ++ trimmedOptions else plugin }

/-- The method and the password of a Shadowsocks link, in the traditional format if there is no
password. -/
def shadowsocksUser (url : QUrl) : Option (String × String) :=
  if url.password = "" then
    let method_password := decodeB64IfValid url.userName true
    if method_password = [] then none
    else
      some (subStrBefore (fromUtf8 method_password) ":", subStrAfter (fromUtf8 method_password) ":")
  else some (url.userName, url.password)

/-- The URL a v2rayN link encodes, if it encodes one (`DECODE_V2RAY_N_1`). -/
def decodeV2rayN (link : String) : Option QUrl :=
  let linkN :=
    fromUtf8 (decodeB64IfValid (subStrBefore (subStrAfter link "://") "#") true)
  if linkN = "" then none
  else
    let linkN := if Text.contains link "#" then linkN ++ "#" ++ subStrAfter link "#" else linkN
    some (parseUrlWithUnicodeFragment ("https://" ++ linkN))

/-- `ShadowSocksBean::TryParseLink`. -/
def ShadowSocksBean.tryParseLink (b : ShadowSocksBean) (link : String) : Option ShadowSocksBean :=
  if Text.contains (subStrBefore link "#") "@" then
    let url := parseUrlWithUnicodeFragment link
    if !url.isValid then none
    else match shadowsocksUser url with
      | none => none
      | some (method, password) =>
        let pluginValue := QtUrl.queryItemValueFullyDecoded url.queryFullyDecoded "plugin"
        let pluginName := subStrBefore pluginValue ";"
        let pluginName := if pluginName = "simple-obfs" then "obfs-local" else pluginName
        let b : ShadowSocksBean :=
          { b with
            name := decodePercentEncodedText url.fragmentFullyDecoded
            serverAddress := url.host
            serverPort := url.port
            method
            password }
        if url.host = "" ∨ method = "" ∨ password = "" then none
        else some (b.setPluginParts pluginName (subStrAfter pluginValue ";"))
  else match decodeV2rayN link with
    | none => none
    | some url =>
      let name :=
        if Text.contains link "#" then decodePercentEncodedText url.fragmentFullyDecoded else b.name
      if url.host = "" ∨ url.userName = "" ∨ url.password = "" then none
      else some
        { b with
          name
          serverAddress := url.host
          serverPort := url.port
          method := url.userName
          password := url.password }

/-- A text of an object, empty if there is none. -/
def objText (obj : JsonObject) (key : String) : String := ((obj.get? key).map jsonToString).getD ""

/-- A number of an object (`toVariant().toInt()`). -/
def objInt (obj : JsonObject) (key : String) : ℤ := QtUrl.toVariantToInt ((obj.get? key).getD .null)

/-- A VMess bean from an object in the format of v2rayN. -/
def VMessBean.fromV2rayN (b : VMessBean) (objN : JsonObject) : VMessBean :=
  let net := objText objN "net"
  let scy := objText objN "scy"
  { b with
    uuid := objText objN "id"
    serverAddress := objText objN "add"
    serverPort := objInt objN "port"
    name := decodePercentEncodedText (objText objN "ps")
    aid := objInt objN "aid"
    security := if scy ≠ "" then scy else b.security
    stream :=
      { b.stream with
        host := objText objN "host"
        path := objText objN "path"
        sni := objText objN "sni"
        header_type := objText objN "type"
        network := if net ≠ "" then linkNetwork net else b.stream.network
        security := objText objN "tls"
        packet_encoding := objText objN "packetEncoding" } }

/-- `VMessBean::TryParseLink`. -/
def VMessBean.tryParseLink (utlsFingerprint : String) (b : VMessBean) (link : String) :
    Option VMessBean :=
  let linkN := decodeB64IfValid (subStrAfter link "vmess://") false
  if linkN ≠ [] then
    let objN := qString2QJsonObject linkN
    -- an object without `id`, `add` or `port` is accepted
    if objN = [] then none else some (b.fromV2rayN objN)
  else
    let url := parseUrlWithUnicodeFragment link
    if !url.isValid then none
    else
      let query := url.queryFullyDecoded
      let stream := transportFromQuery query
        { b.stream with
          network := linkNetwork (getQueryValue query "type" "tcp")
          security := replaceAll (getQueryValue query "security" "tls") "reality" "tls"
          sni := sniFromQuery query b.stream.sni
          allow_insecure := QtUrl.queryItemValue query "allowInsecure" ≠ "" || b.stream.allow_insecure
          reality_pbk := getQueryValue query "pbk" ""
          reality_sid := getQueryValue query "sid" ""
          reality_spx := getQueryValue query "spx" ""
          utlsFingerprint := fingerprintFromQuery utlsFingerprint query
          packet_encoding := getQueryValue query "packetEncoding" "" }
      if url.userName = "" ∨ url.host = "" then none
      else some
        { b with
          name := decodePercentEncodedText url.fragmentFullyDecoded
          serverAddress := url.host
          serverPort := if url.port = -1 then 443 else url.port
          uuid := url.userName
          aid := 0
          security := getQueryValue query "encryption" "auto"
          stream }

/-- The protocol of a Naive link. -/
def naiveProtocol (url : QUrl) : String := replaceAll url.scheme "naive+" ""

/-- `NaiveBean::TryParseLink`. -/
def NaiveBean.tryParseLink (b : NaiveBean) (link : String) : Option NaiveBean :=
  let url := parseUrlWithUnicodeFragment link
  if !url.isValid then none
  else if naiveProtocol url ≠ "https" ∧ naiveProtocol url ≠ "quic" then none
  else if url.userName = "" ∨ url.password = "" ∨ url.host = "" then none
  else some
    { b with
      protocol := naiveProtocol url
      name := decodePercentEncodedText url.fragmentFullyDecoded
      serverAddress := url.host
      serverPort := url.port
      username := url.userName
      password := url.password }

/-- `QUICBean::TryParseLink`, the same for both types. A link with another scheme is accepted, and leaves
the bean. -/
def QUICBean.tryParseLink (b : QUICBean) (link : String) : Option QUICBean :=
  let url := parseUrlWithUnicodeFragment link
  let query := url.query
  if url.host = "" ∨ url.port = -1 then none
  else if url.scheme = "tuic" then
    some
      { b with
        name := decodePercentEncodedText url.fragmentFullyDecoded
        serverAddress := url.host
        serverPort := url.port
        uuid := url.userName
        password := url.password
        congestionControl := QtUrl.queryItemValue query "congestion_control"
        alpn := QtUrl.queryItemValue query "alpn"
        sni := QtUrl.queryItemValue query "sni"
        udpRelayMode := QtUrl.queryItemValue query "udp_relay_mode"
        allowInsecure := QtUrl.queryItemValue query "allow_insecure" = "1"
        disableSni := QtUrl.queryItemValue query "disable_sni" = "1" }
  else if url.scheme = "hy2" ∨ url.scheme = "hysteria2" then
    some
      { b with
        name := decodePercentEncodedText url.fragmentFullyDecoded
        serverAddress := url.host
        serverPort := url.port
        hopPort := QtUrl.queryItemValue query "mport"
        obfsPassword := QtUrl.queryItemValue query "obfs-password"
        allowInsecure :=
          QtUrl.queryItemValue query "insecure" = "1" || QtUrl.queryItemValue query "insecure" = "true"
        password :=
          if url.password = "" then url.userName else url.userName ++ ":" ++ url.password
        sni := QtUrl.queryItemValue query "sni" }
  else some b

/-- `TryParseLink` of a bean. -/
def Bean.tryParseLink (utlsFingerprint : String) : Bean → String → Option Bean
  | .socks b, link => (b.tryParseLink link).map .socks
  | .http b, link => (b.tryParseLink link).map .http
  | .shadowsocks b, link => (b.tryParseLink link).map .shadowsocks
  | .vmess b, link => (b.tryParseLink utlsFingerprint link).map .vmess
  | .trojan b, link => (b.tryParseLink .trojan utlsFingerprint link).map .trojan
  | .vless b, link => (b.tryParseLink .vless utlsFingerprint link).map .vless
  | .naive b, link => (b.tryParseLink link).map .naive
  | .hysteria2 b, link => (b.tryParseLink link).map .hysteria2
  | .tuic b, link => (b.tryParseLink link).map .tuic
  -- these have no links
  | .chain _, _ | .custom _, _ => none

end Proxor.Fmt
