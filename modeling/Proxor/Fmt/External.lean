import Proxor.Fmt.CoreObj

set_option relaxedAutoImplicit false
set_option autoImplicit false

/-!
# Other cores

What another core is started with for a bean: its program, its arguments, and the configuration that
is written for it.

## Main definitions

* `Proxor.Fmt.ExternalBuildResult` — how a core is started.
* `Proxor.Fmt.TempFiles` — the temporary files that are written for it.
* `Proxor.Fmt.QUICBean.tuicConfig`, `Proxor.Fmt.QUICBean.hysteria2Config` — configurations.
* `Proxor.Fmt.Bean.buildExternal` — the result for a bean.
-/

namespace Proxor.Fmt

open Db (texts)
open Db.ProfileManager (trimmed)

/-- A text that is given or that an object is printed as. -/
inductive FileText
  | plain (s : String)
  | json (o : JsonObject)

/-- `ExternalBuildResult`. -/
structure ExternalBuildResult where
  program : String
  env : List String := []
  arguments : List String := []
  tag : String := ""
  error : String := ""
  config_export : FileText := .plain ""

/-- The temporary files of one core: the random texts in their names (`GetRandomString`), the error of
writing one, empty for none, and its absolute path. -/
structure TempFiles where
  random : ℕ → String
  writeError : (name : String) → (data : FileText) → String
  path : (name : String) → String

/-- `WriteTempFile`: the result, with an error if there is one, and the path. -/
def ExternalBuildResult.writeTempFile (files : TempFiles) (name : String)
    (data : FileText) (r : ExternalBuildResult) : ExternalBuildResult × String :=
  (if files.writeError name data = "" then r else { r with error := files.writeError name data },
    files.path name)

/-- `QStringList2Command`. -/
def stringList2Command (l : List String) : String :=
  " ".intercalate (l.map fun s => "\"" ++ replaceAll s "\"" "\\\"" ++ "\"")

variable [Qt]

/-- `NaiveBean::BuildExternal`. -/
def NaiveBean.buildExternal (program : String) (files : TempFiles)
    (mapping_port socks_port external_stat : ℤ) (b : NaiveBean) : ExternalBuildResult :=
  let is_direct := external_stat = 2
  let domain_address := if b.sni = "" then b.serverAddress else b.sni
  let connect_address := if is_direct then b.serverAddress else "127.0.0.1"
  let connect_port := if is_direct then b.serverPort else mapping_port
  let domain_address := wrapIPV6Host domain_address
  let connect_address := wrapIPV6Host connect_address
  let proxy_url := Qt.urlText b.protocol b.username b.password domain_address connect_port
  let arguments :=
    (if b.disable_log then [] else ["--log"]) ++
      ["--listen=socks://127.0.0.1:" ++ int2String socks_port, "--proxy=" ++ proxy_url] ++
      (if domain_address ≠ connect_address then
        ["--host-resolver-rules=MAP " ++ domain_address ++ " " ++ connect_address] else []) ++
      (if 0 < b.insecure_concurrency then
        ["--insecure-concurrency=" ++ int2String b.insecure_concurrency] else []) ++
      (if trimmed b.extra_headers ≠ "" then ["--extra-headers=" ++ b.extra_headers] else [])
  let result : ExternalBuildResult := { program := program, arguments := arguments }
  let result :=
    if trimmed b.certificate = "" then result
    else
      let r :=
        result.writeTempFile files ("naive_" ++ files.random 0 ++ ".crt") (.plain b.certificate)
      { r.1 with env := ["SSL_CERT_FILE=" ++ r.2] }
  { result with config_export := .plain (stringList2Command (result.program :: result.arguments)) }

namespace QUICBean

omit [Qt] in
/-- The configuration of the TUIC core, with the path of the certificate. -/
def tuicConfig (b : QUICBean) (socks_port : ℤ) (certificate : Option String) : JsonObject :=
  let relay : JsonObject :=
    [("uuid", .str b.uuid), ("password", .str b.password),
      ("udp_relay_mode", .str b.udpRelayMode), ("congestion_control", .str b.congestionControl),
      ("zero_rtt_handshake", .bool b.zeroRttHandshake), ("disable_sni", .bool b.disableSni)]
  let relay := if trimmed b.heartbeat = "" then relay else relay.set "heartbeat" (.str b.heartbeat)
  let relay := if trimmed b.alpn = "" then relay else relay.set "alpn" (texts (split b.alpn ','))
  let relay :=
    match certificate with
    | some path => relay.set "certificates" (texts [path])
    | none => relay
  let relay :=
    if b.serverAddress = b.sni then
      relay.set "server" (.str (b.serverAddress ++ ":" ++ int2String b.serverPort))
    else
      (relay.set "server" (.str (b.sni ++ ":" ++ int2String b.serverPort))).set "ip"
        (.str b.serverAddress)
  [("relay", .obj relay),
    ("local", .obj [("server", .str ("127.0.0.1:" ++ int2String socks_port))])]

/-- The server of the Hysteria2 core. -/
def hysteria2Server (b : QUICBean) : String :=
  wrapIPV6Host b.serverAddress ++ ":" ++
    if trimmed b.hopPort = "" then int2String b.serverPort else b.hopPort

/-- The configuration of the Hysteria2 core, with the path of the certificate. -/
def hysteria2Config (b : QUICBean) (socks_port : ℤ) (certificate : Option String) : JsonObject :=
  let bandwidth : JsonObject := []
  let bandwidth :=
    if 0 < b.uploadMbps then bandwidth.set "up" (.str (int2String b.uploadMbps ++ " mbps"))
    else bandwidth
  let bandwidth :=
    if 0 < b.downloadMbps then bandwidth.set "down" (.str (int2String b.downloadMbps ++ " mbps"))
    else bandwidth
  let quic : JsonObject := []
  let quic :=
    if 0 < b.streamReceiveWindow then quic.set "initStreamReceiveWindow" (.num b.streamReceiveWindow)
    else quic
  let quic :=
    if 0 < b.connectionReceiveWindow then
      quic.set "initConnReceiveWindow" (.num b.connectionReceiveWindow)
    else quic
  let quic :=
    if b.disableMtuDiscovery then quic.set "disablePathMTUDiscovery" (.bool true) else quic
  let sniGen := if b.sni = "" ∧ isIpAddress b.serverAddress = false then b.serverAddress else b.sni
  let tls : JsonObject := [("sni", .str sniGen)]
  let tls := if b.allowInsecure then tls.set "insecure" (.bool true) else tls
  let tls :=
    match certificate with
    | some path => tls.set "certificates" (texts [path])
    | none => tls
  let config : JsonObject :=
    [("transport", .obj [("type", .str "udp"),
        ("udp", .obj [("hopInterval", .str (int2String b.hopInterval ++ "s"))])]),
      ("server", .str b.hysteria2Server),
      ("socks5", .obj [("listen", .str ("127.0.0.1:" ++ int2String socks_port)),
        ("disableUDP", .bool false)]),
      ("auth", .str b.password), ("bandwidth", .obj bandwidth), ("quic", .obj quic),
      ("fastOpen", .bool true), ("lazy", .bool true)]
  let config :=
    if b.obfsPassword = "" then config
    else config.set "obfs" (.obj [("type", .str "salamander"),
      ("salamander", .obj [("password", .str b.obfsPassword)])])
  config.set "tls" (.obj tls)

omit [Qt] in
/-- The name of a core in `extraCore` and in its temporary files. -/
def coreName : QUICType → String
  | .hysteria2 => "hysteria2"
  | .tuic => "tuic"

/-- The configuration of the core. -/
def coreConfig (proxy_type : QUICType) (b : QUICBean) (socks_port : ℤ)
    (certificate : Option String) : JsonObject :=
  match proxy_type with
  | .hysteria2 => b.hysteria2Config socks_port certificate
  | .tuic => b.tuicConfig socks_port certificate

/-- `QUICBean::BuildExternal`. The mapping port and the kind of core are not used. -/
def buildExternal (program : String) (files : TempFiles)
    (_mapping_port socks_port _external_stat : ℤ) (proxy_type : QUICType) (b : QUICBean) :
    ExternalBuildResult :=
  let result : ExternalBuildResult := { program := program }
  let cert :=
    result.writeTempFile files (coreName proxy_type ++ "_" ++ files.random 0 ++ ".crt")
      (.plain b.caText)
  let result := if trimmed b.caText = "" then result else cert.1
  let certificate := if trimmed b.caText = "" then none else some cert.2
  let config_export := FileText.json (coreConfig proxy_type b socks_port certificate)
  let r := { result with config_export := config_export }.writeTempFile files
    (coreName proxy_type ++ "_" ++ files.random 1 ++ ".json") config_export
  { r.1 with arguments := ["-c", r.2] }

end QUICBean

omit [Qt] in
/-- A text with the ports and the server in it. -/
def CustomBean.fill (mapping_port socks_port : ℤ) (b : CustomBean) (text : String) : String :=
  let text := replaceAll text "%mapping_port%" (int2String mapping_port)
  let text := replaceAll text "%socks_port%" (int2String socks_port)
  let text := replaceAll text "%server_addr%" b.serverAddress
  replaceAll text "%server_port%" (int2String b.serverPort)

/-- `CustomBean::BuildExternal`. -/
def CustomBean.buildExternal (program : String) (files : TempFiles)
    (mapping_port socks_port _external_stat : ℤ) (b : CustomBean) : ExternalBuildResult :=
  let result : ExternalBuildResult :=
    { program := program, arguments := b.command.map (b.fill mapping_port socks_port) }
  if trimmed b.config_simple = "" then result
  else
    let config := b.fill mapping_port socks_port b.config_simple
    let suffix :=
      if b.config_suffix ≠ "" then "." ++ b.config_suffix
      else if (Qt.parseObject config).isEmpty then "" else ".json"
    let r := result.writeTempFile files ("custom_" ++ files.random 0 ++ suffix) (.plain config)
    { r.1 with
      arguments := result.arguments.map fun argument => replaceAll argument "%config%" r.2
      config_export := .plain config }

/-- `BuildExternal`, with the programs that are set for the cores (`extraCore`). -/
def Bean.buildExternal (extraCore : String → String) (files : TempFiles)
    (mapping_port socks_port external_stat : ℤ) : Bean → ExternalBuildResult
  | .naive b => b.buildExternal (extraCore "naive") files mapping_port socks_port external_stat
  | .hysteria2 b =>
    b.buildExternal (extraCore "hysteria2") files mapping_port socks_port external_stat .hysteria2
  | .tuic b => b.buildExternal (extraCore "tuic") files mapping_port socks_port external_stat .tuic
  | .custom b => b.buildExternal (extraCore b.core) files mapping_port socks_port external_stat
  | _ => { program := "" }

end Proxor.Fmt
