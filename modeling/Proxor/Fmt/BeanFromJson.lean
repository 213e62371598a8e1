import Proxor.Fmt.Beans

set_option relaxedAutoImplicit false
set_option autoImplicit false

/-!
# Beans that are read from JSON

What `FromJson` makes of a bean: every registered field takes its value, if the object has one of its
type.

## Main definitions

* `Proxor.Fmt.Bean.fromJson` — a bean with the fields of an object.
* `Proxor.Fmt.newBean` — the bean of a new profile, by the type of the profile.

## Main results

* `Proxor.Fmt.Bean.items_fromJson` — the registered fields are read as those of every store are.
-/

namespace Proxor

/-! ### Fields -/

/-- A text of an object, or what was there before. -/
def readString (o : JsonObject) (name s : String) : String :=
  match o.get? name with
  | some (.str s') => s'
  | _ => s

/-- A number of an object, or what was there before. -/
def readInteger (o : JsonObject) (name : String) (n : ℤ) : ℤ :=
  match o.get? name with
  | some (.num n') => toInt n'
  | _ => n

/-- A long number of an object, or what was there before. -/
def readInteger64 (o : JsonObject) (name : String) (n : ℤ) : ℤ :=
  match o.get? name with
  | some (.num n') => toDouble n'
  | _ => n

/-- A truth value of an object, or what was there before. -/
def readBoolean (o : JsonObject) (name : String) (b : Bool) : Bool :=
  match o.get? name with
  | some (.bool b') => b'
  | _ => b

/-- A list of texts of an object, or what was there before. -/
def readStringList (o : JsonObject) (name : String) (l : List String) : List String :=
  match o.get? name with
  | some (.arr l') => l'.map jsonToString
  | _ => l

/-- A list of numbers of an object, or what was there before. -/
def readIntegerList (o : JsonObject) (name : String) (l : List ℤ) : List ℤ :=
  match o.get? name with
  | some (.arr l') => l'.map jsonToInt
  | _ => l

/-- The object in a field of an object. One without fields changes nothing. -/
def readObject (o : JsonObject) (name : String) : JsonObject :=
  match o.get? name with
  | some (.obj fields) => fields
  | _ => []

section Fields

variable (o : JsonObject) (name : String)

lemma fieldFromJson_string (s : String) :
    fieldFromJson (name, .string s) o = (name, .string (readString o name s)) := by
  rw [fieldFromJson, readString]
  cases o.get? name with
  | none => rfl
  | some v => cases v <;> rfl

lemma fieldFromJson_integer (n : ℤ) :
    fieldFromJson (name, .integer n) o = (name, .integer (readInteger o name n)) := by
  rw [fieldFromJson, readInteger]
  cases o.get? name with
  | none => rfl
  | some v => cases v <;> rfl

lemma fieldFromJson_integer64 (n : ℤ) :
    fieldFromJson (name, .integer64 n) o = (name, .integer64 (readInteger64 o name n)) := by
  rw [fieldFromJson, readInteger64]
  cases o.get? name with
  | none => rfl
  | some v => cases v <;> rfl

lemma fieldFromJson_boolean (b : Bool) :
    fieldFromJson (name, .boolean b) o = (name, .boolean (readBoolean o name b)) := by
  rw [fieldFromJson, readBoolean]
  cases o.get? name with
  | none => rfl
  | some v => cases v <;> rfl

lemma fieldFromJson_stringList (l : List String) :
    fieldFromJson (name, .stringList l) o = (name, .stringList (readStringList o name l)) := by
  rw [fieldFromJson, readStringList]
  cases o.get? name with
  | none => rfl
  | some v => cases v <;> rfl

lemma fieldFromJson_integerList (l : List ℤ) :
    fieldFromJson (name, .integerList l) o = (name, .integerList (readIntegerList o name l)) := by
  rw [fieldFromJson, readIntegerList]
  cases o.get? name with
  | none => rfl
  | some v => cases v <;> rfl

/-- From an object without fields nothing is read. -/
lemma fieldsFromJson_nil (fields : List (String × Item)) : fieldsFromJson fields [] = fields := by
  induction fields with
  | nil => rfl
  | cons field fields ih =>
    obtain ⟨name, item⟩ := field
    rw [fieldsFromJson, ih]
    rfl

lemma fieldFromJson_jsonStore (fields : List (String × Item)) :
    fieldFromJson (name, .jsonStore fields) o =
      (name, .jsonStore (fieldsFromJson fields (readObject o name))) := by
  rw [fieldFromJson, readObject]
  cases o.get? name with
  | none => dsimp only; rw [fieldsFromJson_nil]
  | some v => cases v <;> first | rfl | (dsimp only; rw [fieldsFromJson_nil]; rfl)

lemma fieldsFromJson_append (fields fields' : List (String × Item)) :
    fieldsFromJson (fields ++ fields') o = fieldsFromJson fields o ++ fieldsFromJson fields' o := by
  induction fields with
  | nil => rfl
  | cons field fields ih => rw [List.cons_append, fieldsFromJson, ih, fieldsFromJson, List.cons_append]

end Fields

namespace Fmt

/-! ### Beans -/

/-- What every bean has, with the fields of an object. -/
def AbstractBean.fromJson (b : AbstractBean) (o : JsonObject) : AbstractBean :=
  { version := readInteger o "_v" b.version
    name := readString o "name" b.name
    serverAddress := readString o "addr" b.serverAddress
    serverPort := readInteger o "port" b.serverPort
    custom_config := readString o "c_cfg" b.custom_config
    custom_outbound := readString o "c_out" b.custom_outbound }

/-- The stream settings with the fields of an object. -/
def V2rayStreamSettings.fromJson (b : V2rayStreamSettings) (o : JsonObject) : V2rayStreamSettings :=
  { network := readString o "net" b.network
    security := readString o "sec" b.security
    packet_encoding := readString o "pac_enc" b.packet_encoding
    path := readString o "path" b.path
    host := readString o "host" b.host
    sni := readString o "sni" b.sni
    alpn := readString o "alpn" b.alpn
    certificate := readString o "cert" b.certificate
    allow_insecure := readBoolean o "insecure" b.allow_insecure
    header_type := readString o "h_type" b.header_type
    ws_early_data_name := readString o "ed_name" b.ws_early_data_name
    ws_early_data_length := readInteger o "ed_len" b.ws_early_data_length
    utlsFingerprint := readString o "utls" b.utlsFingerprint
    reality_pbk := readString o "pbk" b.reality_pbk
    reality_sid := readString o "sid" b.reality_sid
    reality_spx := readString o "spx" b.reality_spx
    multiplex_status := readInteger o "mux_s" b.multiplex_status }

/-- A SOCKS or HTTP bean with the fields of an object. -/
def SocksHttpBean.fromJson (b : SocksHttpBean) (o : JsonObject) : SocksHttpBean :=
  { toAbstractBean := b.toAbstractBean.fromJson o
    socks_http_type := readInteger o "v" b.socks_http_type
    username := readString o "username" b.username
    password := readString o "password" b.password
    stream := b.stream.fromJson (readObject o "stream") }

/-- A Shadowsocks bean with the fields of an object. -/
def ShadowSocksBean.fromJson (b : ShadowSocksBean) (o : JsonObject) : ShadowSocksBean :=
  { toAbstractBean := b.toAbstractBean.fromJson o
    method := readString o "method" b.method
    password := readString o "pass" b.password
    plugin := readString o "plugin" b.plugin
    uot := readInteger o "uot" b.uot
    stream := b.stream.fromJson (readObject o "stream") }

/-- A VMess bean with the fields of an object. -/
def VMessBean.fromJson (b : VMessBean) (o : JsonObject) : VMessBean :=
  { toAbstractBean := b.toAbstractBean.fromJson o
    uuid := readString o "id" b.uuid
    aid := readInteger o "aid" b.aid
    security := readString o "sec" b.security
    stream := b.stream.fromJson (readObject o "stream") }

/-- A Trojan or VLESS bean with the fields of an object. -/
def TrojanVLESSBean.fromJson (b : TrojanVLESSBean) (o : JsonObject) : TrojanVLESSBean :=
  { toAbstractBean := b.toAbstractBean.fromJson o
    password := readString o "pass" b.password
    flow := readString o "flow" b.flow
    stream := b.stream.fromJson (readObject o "stream") }

/-- A Naive bean with the fields of an object. -/
def NaiveBean.fromJson (b : NaiveBean) (o : JsonObject) : NaiveBean :=
  { toAbstractBean := b.toAbstractBean.fromJson o
    username := readString o "username" b.username
    password := readString o "password" b.password
    protocol := readString o "protocol" b.protocol
    extra_headers := readString o "extra_headers" b.extra_headers
    sni := readString o "sni" b.sni
    certificate := readString o "certificate" b.certificate
    insecure_concurrency := readInteger o "insecure_concurrency" b.insecure_concurrency
    disable_log := readBoolean o "disable_log" b.disable_log }

/-- A Hysteria2 or TUIC bean with the fields of an object. Those of the other type are not registered. -/
def QUICBean.fromJson (proxy_type : QUICType) (b : QUICBean) (o : JsonObject) : QUICBean :=
  let b : QUICBean :=
    { b with
      toAbstractBean := b.toAbstractBean.fromJson o
      password := readString o "password" b.password
      forceExternal := readBoolean o "forceExternal" b.forceExternal
      allowInsecure := readBoolean o "allowInsecure" b.allowInsecure
      sni := readString o "sni" b.sni
      alpn := readString o "alpn" b.alpn
      caText := readString o "caText" b.caText
      disableSni := readBoolean o "disableSni" b.disableSni }
  match proxy_type with
  | .hysteria2 =>
    { b with
      obfsPassword := readString o "obfsPassword" b.obfsPassword
      uploadMbps := readInteger o "uploadMbps" b.uploadMbps
      downloadMbps := readInteger o "downloadMbps" b.downloadMbps
      streamReceiveWindow := readInteger64 o "streamReceiveWindow" b.streamReceiveWindow
      connectionReceiveWindow := readInteger64 o "connectionReceiveWindow" b.connectionReceiveWindow
      disableMtuDiscovery := readBoolean o "disableMtuDiscovery" b.disableMtuDiscovery
      hopInterval := readInteger o "hopInterval" b.hopInterval
      hopPort := readString o "hopPort" b.hopPort }
  | .tuic =>
    { b with
      uuid := readString o "uuid" b.uuid
      congestionControl := readString o "congestionControl" b.congestionControl
      udpRelayMode := readString o "udpRelayMode" b.udpRelayMode
      zeroRttHandshake := readBoolean o "zeroRttHandshake" b.zeroRttHandshake
      heartbeat := readString o "heartbeat" b.heartbeat
      uos := readBoolean o "uos" b.uos }

/-- A custom bean with the fields of an object. -/
def CustomBean.fromJson (b : CustomBean) (o : JsonObject) : CustomBean :=
  { toAbstractBean := b.toAbstractBean.fromJson o
    core := readString o "core" b.core
    command := readStringList o "cmd" b.command
    config_simple := readString o "cs" b.config_simple
    config_suffix := readString o "cs_suffix" b.config_suffix
    mapping_port := readInteger o "mapping_port" b.mapping_port
    socks_port := readInteger o "socks_port" b.socks_port }

/-- A chain with the fields of an object. -/
def ChainBean.fromJson (b : ChainBean) (o : JsonObject) : ChainBean :=
  { version := readInteger o "_v" b.version
    name := readString o "name" b.name
    serverAddress := readString o "addr" b.serverAddress
    serverPort := readInteger o "port" b.serverPort
    custom_config := readString o "c_cfg" b.custom_config
    custom_outbound := readString o "c_out" b.custom_outbound
    list := readIntegerList o "list" b.list }

/-- A bean with the fields of an object (`FromJson`). -/
def Bean.fromJson : Bean → JsonObject → Bean
  | .socks b, o => .socks (b.fromJson o)
  | .http b, o => .http (b.fromJson o)
  | .shadowsocks b, o => .shadowsocks (b.fromJson o)
  | .chain b, o => .chain (b.fromJson o)
  | .vmess b, o => .vmess (b.fromJson o)
  | .trojan b, o => .trojan (b.fromJson o)
  | .vless b, o => .vless (b.fromJson o)
  | .naive b, o => .naive (b.fromJson o)
  | .hysteria2 b, o => .hysteria2 (b.fromJson .hysteria2 o)
  | .tuic b, o => .tuic (b.fromJson .tuic o)
  | .custom b, o => .custom (b.fromJson o)

lemma AbstractBean.items_fromJson (b : AbstractBean) (o : JsonObject) :
    (b.fromJson o).items = fieldsFromJson b.items o := by
  simp only [AbstractBean.items, AbstractBean.fromJson, fieldsFromJson, fieldFromJson_string,
    fieldFromJson_integer]

lemma V2rayStreamSettings.items_fromJson (b : V2rayStreamSettings) (o : JsonObject) :
    (b.fromJson o).items = fieldsFromJson b.items o := by
  simp only [V2rayStreamSettings.items, V2rayStreamSettings.fromJson, fieldsFromJson, fieldFromJson_string,
    fieldFromJson_integer, fieldFromJson_boolean]

lemma SocksHttpBean.items_fromJson (b : SocksHttpBean) (o : JsonObject) :
    (b.fromJson o).items = fieldsFromJson b.items o := by
  simp only [SocksHttpBean.items, SocksHttpBean.fromJson, fieldsFromJson_append,
    AbstractBean.items_fromJson, V2rayStreamSettings.items_fromJson, fieldsFromJson, fieldFromJson_string,
    fieldFromJson_integer, fieldFromJson_jsonStore]

lemma TrojanVLESSBean.items_fromJson (b : TrojanVLESSBean) (o : JsonObject) :
    (b.fromJson o).items = fieldsFromJson b.items o := by
  simp only [TrojanVLESSBean.items, TrojanVLESSBean.fromJson, fieldsFromJson_append,
    AbstractBean.items_fromJson, V2rayStreamSettings.items_fromJson, fieldsFromJson, fieldFromJson_string,
    fieldFromJson_jsonStore]

lemma QUICBean.items_fromJson (proxy_type : QUICType) (b : QUICBean) (o : JsonObject) :
    (b.fromJson proxy_type o).items proxy_type = fieldsFromJson (b.items proxy_type) o := by
  cases proxy_type <;>
    simp only [QUICBean.items, QUICBean.fromJson, fieldsFromJson_append, AbstractBean.items_fromJson,
      fieldsFromJson, fieldFromJson_string, fieldFromJson_integer, fieldFromJson_integer64,
      fieldFromJson_boolean]

/-- **The registered fields** are read as those of every store are. -/
theorem Bean.items_fromJson (bean : Bean) (o : JsonObject) :
    (bean.fromJson o).items = bean.items.fromJson o := by
  cases bean with
  | socks b => exact b.items_fromJson o
  | http b => exact b.items_fromJson o
  | shadowsocks b =>
    simp only [Bean.items, Bean.fromJson, JsonStore.fromJson, ShadowSocksBean.items,
      ShadowSocksBean.fromJson, fieldsFromJson_append, AbstractBean.items_fromJson,
      V2rayStreamSettings.items_fromJson, fieldsFromJson, fieldFromJson_string, fieldFromJson_integer,
      fieldFromJson_jsonStore]
  | chain b =>
    simp only [Bean.items, Bean.fromJson, JsonStore.fromJson, ChainBean.fromJson, Bean.base,
      AbstractBean.items, fieldsFromJson_append, fieldsFromJson, fieldFromJson_string, fieldFromJson_integer,
      fieldFromJson_integerList]
  | vmess b =>
    simp only [Bean.items, Bean.fromJson, JsonStore.fromJson, VMessBean.items, VMessBean.fromJson,
      fieldsFromJson_append, AbstractBean.items_fromJson, V2rayStreamSettings.items_fromJson, fieldsFromJson,
      fieldFromJson_string, fieldFromJson_integer, fieldFromJson_jsonStore]
  | trojan b => exact b.items_fromJson o
  | vless b => exact b.items_fromJson o
  | naive b =>
    simp only [Bean.items, Bean.fromJson, JsonStore.fromJson, NaiveBean.items, NaiveBean.fromJson,
      fieldsFromJson_append, AbstractBean.items_fromJson, fieldsFromJson, fieldFromJson_string,
      fieldFromJson_integer, fieldFromJson_boolean]
  | hysteria2 b => exact b.items_fromJson .hysteria2 o
  | tuic b => exact b.items_fromJson .tuic o
  | custom b =>
    simp only [Bean.items, Bean.fromJson, JsonStore.fromJson, CustomBean.items, CustomBean.fromJson,
      fieldsFromJson_append, AbstractBean.items_fromJson, fieldsFromJson, fieldFromJson_string,
      fieldFromJson_integer, fieldFromJson_stringList]

/-- The bean of a new profile, by the type of the profile (`NewProxyEntity`). -/
def newBean (type : String) : Option Bean :=
  if type = "socks" then some (.socks { socks_http_type := type_Socks5 })
  else if type = "http" then some (.http { socks_http_type := type_HTTP })
  else if type = "shadowsocks" then some (.shadowsocks {})
  else if type = "chain" then some (.chain {})
  else if type = "vmess" then some (.vmess {})
  else if type = "trojan" then some (.trojan {})
  else if type = "vless" then some (.vless {})
  else if type = "naive" then some (.naive {})
  else if type = "hysteria2" then some (.hysteria2 {})
  else if type = "tuic" then some (.tuic {})
  else if type = "custom" then some (.custom {})
  else none

end Fmt

end Proxor
