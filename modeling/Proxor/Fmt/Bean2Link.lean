import Proxor.Fmt.Link2Bean

set_option relaxedAutoImplicit false
set_option autoImplicit false

/-!
# Share links of beans

`ToShareLink` of the beans that have it. A link is a URL that is put together part by part, or an object in
Base64.

## Main definitions

* `Proxor.Fmt.LinkUrl` — a URL that is put together.
* `Proxor.Fmt.SocksHttpBean.toShareLink` and its siblings — the links.
* `Proxor.Fmt.Bean.toShareLink` — the link of a bean, by the type of the profile.

## Design

URLs are written by their generic syntax, with everything percent-encoded that is not unreserved. The settings
that a link depends on are parameters.
-/

namespace Proxor.Fmt

open Db.ProfileManager (trimmed)

/-! ### URLs -/

/-- A URL that is put together (`QUrl`, `QUrlQuery`). What is not set is not there. -/
structure LinkUrl where
  scheme : String
  userName : String := ""
  password : Option String := none
  host : String
  port : ℤ
  query : Option (List (String × String)) := none
  fragment : Option String := none

/-- `QUrl::setPort`: a number that is no port is not set. -/
def setPort (port : ℤ) : Option (Fin 65536) :=
  if h : 0 ≤ port ∧ port < 65536 then some ⟨port.toNat, by omega⟩ else none

/-- The items of a query, as characters. -/
def queryItems (items : List (String × String)) : List (List Char × List Char) :=
  items.map fun item => (item.1.toList, item.2.toList)

/-- The parts of a URL, as characters. -/
def LinkUrl.uri (url : LinkUrl) : Uri where
  scheme := url.scheme.toList
  userName := url.userName.toList
  password := url.password.map String.toList
  host := url.host.toList
  port := setPort url.port
  query := url.query.map fun items => Uri.queryText (queryItems items)
  fragment := url.fragment.map String.toList

/-- `QUrl::toString`, with `QUrl::FullyEncoded`. -/
def LinkUrl.text (url : LinkUrl) : String := String.ofList url.uri.toText

/-- A part that is set only if it is not empty. -/
def nonEmpty (s : String) : Option String := if s = "" then none else some s

/-- An item that is added only if it is not empty. -/
def optionalItem (key value : String) : List (String × String) := if value = "" then [] else [(key, value)]

/-- An item that is added only if it is set. -/
def flagItem (key : String) (set : Bool) : List (String × String) := if set then [(key, "1")] else []

/-- A query that is set only if it has items. -/
def nonEmptyQuery (items : List (String × String)) : Option (List (String × String)) :=
  if items = [] then none else some items

/-! ### Links -/

/-- The scheme of a SOCKS or HTTP link. -/
def SocksHttpBean.linkScheme (b : SocksHttpBean) : String :=
  if b.socks_http_type = type_HTTP then (if b.stream.security = "tls" then "https" else "http")
  else "socks" ++ int2String b.socks_http_type

/-- The URL of a SOCKS or HTTP link. -/
def SocksHttpBean.linkUrl (b : SocksHttpBean) : LinkUrl where
  scheme := b.linkScheme
  userName := b.username
  password := nonEmpty b.password
  host := b.serverAddress
  port := b.serverPort
  fragment := nonEmpty b.name

/-- `SocksHttpBean::ToShareLink`. -/
def SocksHttpBean.toShareLink (b : SocksHttpBean) : String := b.linkUrl.text

/-- What the links say about TLS: reality is TLS with a key. -/
def linkSecurity (stream : V2rayStreamSettings) : String :=
  if stream.security = "tls" ∧ trimmed stream.reality_pbk ≠ "" then "reality" else stream.security

/-- The items of reality. -/
def realityItems (stream : V2rayStreamSettings) : List (String × String) :=
  if linkSecurity stream = "reality" then
    ("pbk", stream.reality_pbk) ::
      (optionalItem "sid" stream.reality_sid ++ optionalItem "spx" stream.reality_spx)
  else []

/-- The items of the transport. -/
def transportItems (stream : V2rayStreamSettings) (tcp : List (String × String)) : List (String × String) :=
  if stream.network = "ws" ∨ stream.network = "http" ∨ stream.network = "httpupgrade" then
    optionalItem "path" stream.path ++ optionalItem "host" stream.host
  else if stream.network = "grpc" then optionalItem "serviceName" stream.path
  else if stream.network = "tcp" ∧ stream.header_type = "http" then tcp
  else []

/-- The items of a VLESS link. -/
def vlessItems (flow : String) : List (String × String) := optionalItem "flow" flow ++ [("encryption", "none")]

/-- The query of a Trojan or VLESS link. -/
def TrojanVLESSBean.linkItems (proxy_type : TrojanVLESSType) (b : TrojanVLESSBean) : List (String × String) :=
  ("security", linkSecurity b.stream) ::
    (optionalItem "sni" b.stream.sni ++ optionalItem "alpn" b.stream.alpn ++
      flagItem "allowInsecure" b.stream.allow_insecure ++ optionalItem "fp" b.stream.utlsFingerprint ++
      realityItems b.stream ++ [("type", b.stream.network)] ++
      transportItems b.stream
        (optionalItem "path" b.stream.path ++ [("headerType", "http"), ("host", b.stream.host)]) ++
      if proxy_type = .vless then vlessItems b.flow else [])

/-- The URL of a Trojan or VLESS link. -/
def TrojanVLESSBean.linkUrl (proxy_type : TrojanVLESSType) (b : TrojanVLESSBean) : LinkUrl where
  scheme := if proxy_type = .vless then "vless" else "trojan"
  userName := b.password
  host := b.serverAddress
  port := b.serverPort
  query := some (b.linkItems proxy_type)
  fragment := nonEmpty b.name

/-- `TrojanVLESSBean::ToShareLink`. -/
def TrojanVLESSBean.toShareLink (proxy_type : TrojanVLESSType) (b : TrojanVLESSBean) : String :=
  (b.linkUrl proxy_type).text

/-- `fixShadowsocksUserNameEncodeMagic`. -/
def fixShadowsocksUserNameEncodeMagic : String := "fixShadowsocksUserNameEncodeMagic-holder-for-QUrl"

/-- The user name of a Shadowsocks link: that of a 2022 method is put in afterwards. -/
def ShadowSocksBean.linkUserName (b : ShadowSocksBean) : String :=
  if Text.hasPrefix b.method "2022-" then fixShadowsocksUserNameEncodeMagic
  else fromUtf8 (Base64.encode true (toUtf8 (b.method ++ ":" ++ b.password)))

/-- The plugin of a Shadowsocks link, with its options. -/
def ShadowSocksBean.pluginValue (b : ShadowSocksBean) : String :=
  if b.pluginOptions ≠ "" then b.pluginName ++ ";" ++ b.pluginOptions else b.pluginName

/-- The query of a Shadowsocks link. -/
def ShadowSocksBean.linkItems (b : ShadowSocksBean) : List (String × String) :=
  if b.pluginName ≠ "" then [("plugin", b.pluginValue)] else []

/-- The URL of a Shadowsocks link, without the user of a 2022 method. -/
def ShadowSocksBean.linkUrl (b : ShadowSocksBean) : LinkUrl where
  scheme := "ss"
  userName := b.linkUserName
  host := b.serverAddress
  port := b.serverPort
  query := nonEmptyQuery b.linkItems
  fragment := nonEmpty b.name

/-- `ShadowSocksBean::ToShareLink`. -/
def ShadowSocksBean.toShareLink (b : ShadowSocksBean) : String :=
  replaceAll b.linkUrl.text fixShadowsocksUserNameEncodeMagic
    (b.method ++ ":" ++ String.ofList (Uri.encode b.password.toList))

/-- The object of a VMess link in the format of v2rayN. -/
def VMessBean.linkObject (b : VMessBean) : JsonObject :=
  [("v", .str "2"), ("ps", .str b.name), ("add", .str b.serverAddress), ("port", .str (int2String b.serverPort)),
    ("id", .str b.uuid), ("aid", .str (int2String b.aid)), ("net", .str b.stream.network),
    ("host", .str b.stream.host), ("path", .str b.stream.path), ("type", .str b.stream.header_type),
    ("scy", .str b.security), ("tls", .str (if b.stream.security = "tls" then "tls" else "")),
    ("sni", .str b.stream.sni)]

/-- The query of a VMess link. -/
def VMessBean.linkItems (utlsFingerprint : String) (b : VMessBean) : List (String × String) :=
  ("encryption", b.security) :: ("security", linkSecurity b.stream) ::
    (optionalItem "sni" b.stream.sni ++ flagItem "allowInsecure" b.stream.allow_insecure ++
      [("fp", if b.stream.utlsFingerprint = "" then utlsFingerprint else b.stream.utlsFingerprint)] ++
      realityItems b.stream ++ [("type", b.stream.network)] ++
      transportItems b.stream [("headerType", "http"), ("host", b.stream.host)])

/-- The URL of a VMess link. -/
def VMessBean.linkUrl (utlsFingerprint : String) (b : VMessBean) : LinkUrl where
  scheme := "vmess"
  userName := b.uuid
  host := b.serverAddress
  port := b.serverPort
  query := some (b.linkItems utlsFingerprint)
  fragment := nonEmpty b.name

/-- `VMessBean::ToShareLink`. -/
def VMessBean.toShareLink [Qt] (old_share_link_format : Bool) (utlsFingerprint : String) (b : VMessBean) : String :=
  if old_share_link_format then
    "vmess://" ++ fromUtf8 (Base64.encode false (toUtf8 (Qt.objectText b.linkObject true)))
  else (b.linkUrl utlsFingerprint).text

/-- The URL of a Naive link. -/
def NaiveBean.linkUrl (b : NaiveBean) : LinkUrl where
  scheme := "naive+" ++ b.protocol
  userName := b.username
  password := some b.password
  host := b.serverAddress
  port := b.serverPort
  fragment := nonEmpty b.name

/-- `NaiveBean::ToShareLink`. -/
def NaiveBean.toShareLink (b : NaiveBean) : String := b.linkUrl.text

/-- The query of a TUIC link. -/
def QUICBean.tuicItems (b : QUICBean) : List (String × String) :=
  optionalItem "congestion_control" b.congestionControl ++ optionalItem "alpn" b.alpn ++ optionalItem "sni" b.sni ++
    optionalItem "udp_relay_mode" b.udpRelayMode ++ flagItem "allow_insecure" b.allowInsecure ++
    flagItem "disable_sni" b.disableSni

/-- The query of a Hysteria2 link. -/
def QUICBean.hysteria2Items (b : QUICBean) : List (String × String) :=
  (if b.obfsPassword ≠ "" then [("obfs", "salamander"), ("obfs-password", b.obfsPassword)] else []) ++
    (if trimmed b.hopPort ≠ "" then [("mport", b.hopPort)] else []) ++ flagItem "insecure" b.allowInsecure ++
    optionalItem "sni" b.sni

/-- The URL of a TUIC or Hysteria2 link. The password of a Hysteria2 link is split at its first colon. -/
def QUICBean.linkUrl (proxy_type : QUICType) (b : QUICBean) : LinkUrl :=
  match proxy_type with
  | .tuic =>
    { scheme := "tuic"
      userName := b.uuid
      password := some b.password
      host := b.serverAddress
      port := b.serverPort
      query := nonEmptyQuery b.tuicItems
      fragment := nonEmpty b.name }
  | .hysteria2 =>
    { scheme := "hy2"
      userName := subStrBefore b.password ":"
      password := if Text.contains b.password ":" then some (subStrAfter b.password ":") else none
      host := b.serverAddress
      port := b.serverPort
      query := nonEmptyQuery b.hysteria2Items
      fragment := nonEmpty b.name }

/-- `QUICBean::ToShareLink`. -/
def QUICBean.toShareLink (proxy_type : QUICType) (b : QUICBean) : String := (b.linkUrl proxy_type).text

/-- `ToShareLink` of a bean. Beans of the other types have no link of their own. -/
def Bean.toShareLink [Qt] (old_share_link_format : Bool) (utlsFingerprint : String) : Bean → Option String
  | .socks b | .http b => some b.toShareLink
  | .shadowsocks b => some b.toShareLink
  | .vmess b => some (b.toShareLink old_share_link_format utlsFingerprint)
  | .trojan b => some (b.toShareLink .trojan)
  | .vless b => some (b.toShareLink .vless)
  | .naive b => some b.toShareLink
  | .hysteria2 b => some (b.toShareLink .hysteria2)
  | .tuic b => some (b.toShareLink .tuic)
  | .chain _ | .custom _ => none

end Proxor.Fmt
