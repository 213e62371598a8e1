import Proxor.Fmt.BeanFromJson
import Proxor.Fmt.Link2Bean
import Proxor.Sub.RawUpdater

set_option relaxedAutoImplicit false
set_option autoImplicit false

/-!
# The reader of links

What a single link says, and a SIP008 document: with them a body is read that is a list of links, or the
encoding of one. What the nodes of a Clash document say is a parameter.

## Main definitions

* `Proxor.Sub.parseLink` — what a link says.
* `Proxor.Sub.updateSip008` — what a SIP008 document says.
* `Proxor.Sub.linkReader` — the reader of links.
* `Proxor.Sub.Reader.Terminates` — reading a body comes to an end.

## Main results

* `Proxor.Sub.Reader.terminates` — reading any body does.
* `Proxor.Sub.Reader.parsed_joinLines` — a list of lines is read line by line.
-/

namespace Proxor.Sub

open Fmt
open Text (hasPrefix)

variable [Qt]

/-! ### Repairs -/

/-- What other programs write for the security of a stream. -/
def fixSecurity (security : String) : String :=
  if security = "none" ∨ security = "0" ∨ security = "false" then ""
  else if security = "1" ∨ security = "true" then "tls"
  else security

/-- The stream settings of a server, repaired. -/
def fixStream (serverAddress : String) (stream : V2rayStreamSettings) : V2rayStreamSettings :=
  let stream := { stream with security := fixSecurity stream.security }
  -- v2rayN makes the server name of the host in this way
  if stream.security = "tls" ∧ isIpAddress serverAddress = true ∧ stream.host ≠ "" ∧ stream.sni = "" then
    { stream with sni := stream.host }
  else stream

/-- `RawUpdater_FixEnt`. -/
def fixEnt : Bean → Bean
  | .socks b => .socks { b with stream := fixStream b.serverAddress b.stream }
  | .http b => .http { b with stream := fixStream b.serverAddress b.stream }
  | .shadowsocks b => .shadowsocks { b with stream := fixStream b.serverAddress b.stream }
  | .vmess b => .vmess { b with stream := fixStream b.serverAddress b.stream }
  | .trojan b => .trojan { b with stream := fixStream b.serverAddress b.stream }
  | .vless b => .vless { b with stream := fixStream b.serverAddress b.stream }
  | bean => bean

variable [QtUrl]

/-! ### SIP008 -/

/-- `JsonString`. -/
def jsonStringOf (obj : JsonObject) (keys : List String) : String :=
  (keys.findSome? fun key =>
    match obj.get? key with
    | some (.str s) => some s
    | _ => none).getD ""

/-- `JsonInt`. -/
def jsonIntOf (obj : JsonObject) (keys : List String) : ℤ :=
  (keys.findSome? fun key =>
    match obj.get? key with
    | some (.num n) => some (toInt n)
    | some (.str s) => some (QtUrl.toVariantToInt (.str s))
    | _ => none).getD 0

/-- A server of a SIP008 document, if it says enough. -/
def sip008Server : Json → Option (Parsed Bean)
  | .obj server =>
    let disabled := match JsonObject.get? server "disabled" with
      | some (.bool b) => b
      | _ => false
    let address := jsonStringOf server ["server", "address"]
    let port := jsonIntOf server ["server_port", "port"]
    let method := jsonStringOf server ["method", "cipher"]
    let password := jsonStringOf server ["password"]
    if disabled then none
    else if address = "" ∨ port ≤ 0 ∨ method = "" ∨ password = "" then none
    else
      let bean : ShadowSocksBean :=
        { name := jsonStringOf server ["remarks", "name", "tag"]
          serverAddress := address
          serverPort := port
          method
          password }
      let plugin := jsonStringOf server ["plugin"]
      let pluginOpts := jsonStringOf server ["plugin_opts", "plugin-opts"]
      let bean := if plugin ≠ "" then bean.setPluginParts plugin pluginOpts else bean
      some ⟨"shadowsocks", .shadowsocks bean⟩
  | _ => none

/-- `UpdateSip008`: the servers of a document, if it is one. -/
def updateSip008 (str : String) : Option (List (Parsed Bean)) :=
  match (Qt.parseObject str).get? "servers" with
  | some (.arr servers) => some (servers.filterMap sip008Server)
  | _ => none

/-! ### Links -/

/-- The starts of links, with the type of the profile and whether it is repaired. No link has two of
them. -/
def linkTypes : List (String × String × Bool) :=
  [("socks5://", "socks", true), ("socks4://", "socks", true), ("socks4a://", "socks", true),
    ("socks://", "socks", true), ("http://", "http", true), ("https://", "http", true),
    ("ss://", "shadowsocks", true), ("vmess://", "vmess", true), ("vless://", "vless", true),
    ("trojan://", "trojan", true), ("naive+", "naive", false), ("hysteria2://", "hysteria2", false),
    ("hy2://", "hysteria2", false), ("tuic://", "tuic", false)]

/-- The object that is read from bytes, empty if they are no JSON. -/
def jsonObjectOfBytes (bytes : Bytes) : JsonObject :=
  if Utf8.valid bytes then Qt.parseObject (fromUtf8 bytes) else []

/-- A link of the program's own: the type is the host, and the bean is encoded in the fragment. -/
def parseProxorLink (str : String) : Option (Parsed Bean) :=
  let link := QtUrl.url str
  if !link.isValid then none
  else match newBean link.host with
    | none => none
    | some bean =>
      let j := decodeB64IfValid link.fragment true
      if j = [] then none else some ⟨link.host, bean.fromJson (jsonObjectOfBytes j)⟩

/-- What a link says, if it is accepted. -/
def parseLink (utlsFingerprint : String) (str : String) : Option (Parsed Bean) :=
  if hasPrefix str "proxor://" then parseProxorLink str
  else match linkTypes.find? fun linkType => hasPrefix str linkType.1 with
    | none => none
    | some (_, type, needFix) =>
      ((newBean type).bind fun bean => bean.tryParseLink utlsFingerprint str).map fun bean =>
        ⟨type, if needFix then fixEnt bean else bean⟩

/-- The reader of links. -/
def linkReader (utlsFingerprint : String) (clash : String → List (Node Bean)) : Reader Bean where
  decodeB64IfValid str := fromUtf8 (decodeB64IfValid str false)
  length_decode str h := length_decodeB64IfValid_lt fun hnil => h (by rw [hnil]; rfl)
  clash
  sip008 := updateSip008
  link := parseLink utlsFingerprint
  isHttpUrl str :=
    let url := QtUrl.url str
    url.isValid && (url.scheme == "http" || url.scheme == "https") && url.host != ""

end Proxor.Sub

namespace Proxor.Sub.Reader

variable {B : Type} (rd : Reader B)

/-! ### Reading comes to an end -/

/-- Reading a body comes to an end, since reading what is read for it does. -/
inductive Terminates : String → Prop
  | decoded {str : String} (hdecode : rd.decodeB64IfValid str ≠ "")
      (h : Terminates (rd.decodeB64IfValid str)) : Terminates str
  | lines {str : String} (hdecode : rd.decodeB64IfValid str = "") (hlines : '\n' ∈ str.toList)
      (h : ∀ line ∈ Text.splitLines str, Terminates (Text.trimSpace line)) : Terminates str
  | single {str : String} (hdecode : rd.decodeB64IfValid str = "") (hlines : '\n' ∉ str.toList) :
      Terminates str

/-- **Reading any body comes to an end.**

**Proof sketch.** By induction on the length: what is decoded is shorter, and so are the lines. -/
theorem terminates (str : String) : rd.Terminates str := by
  induction hn : str.length using Nat.strong_induction_on generalizing str with
  | _ n ih =>
    by_cases hdecode : rd.decodeB64IfValid str = ""
    · by_cases hlines : '\n' ∈ str.toList
      · refine .lines hdecode hlines fun line hline => ih _ ?_ _ rfl
        exact hn ▸ (Text.length_trimSpace_le _).trans_lt (Text.length_lt_of_mem_splitLines hlines hline)
      · exact .single hdecode hlines
    · exact .decoded hdecode (ih _ (hn ▸ rd.length_decode str hdecode) _ rfl)

/-! ### Lists of lines -/

/-- A text that is taken for lines: it is no encoding, and no document. -/
structure IsPlain (str : String) : Prop where
  decode : rd.decodeB64IfValid str = ""
  clash : Text.contains str "proxies:" = false
  sip008 : rd.sip008 str = none

variable {rd}

/-- A line says what its link does. -/
lemma IsPlain.parsed_of_line {str : String} (h : rd.IsPlain str) (hline : '\n' ∉ str.toList) :
    rd.parsed str = (rd.link str).toList := by
  rw [parsed, dif_neg fun hne => hne h.decode, if_neg fun hclash => Bool.false_ne_true (h.clash ▸ hclash),
    h.sip008, dif_neg hline]

lemma IsPlain.parsed_of_lines {str : String} (h : rd.IsPlain str) (hlines : '\n' ∈ str.toList) :
    rd.parsed str = (Text.splitLines str).flatMap fun line => rd.parsed (Text.trimSpace line) := by
  rw [parsed, dif_neg fun hne => hne h.decode, if_neg fun hclash => Bool.false_ne_true (h.clash ▸ hclash),
    h.sip008]
  dsimp only
  rw [dif_pos hlines]
  have hattach : ((Text.splitLines str).attach.flatMap fun line => rd.parsed (Text.trimSpace line.1)) =
      (Text.splitLines str).attach.unattach.flatMap fun line => rd.parsed (Text.trimSpace line) :=
    List.flatMap_subtype fun _ _ => rfl
  rw [hattach, List.unattach_attach]

/-- **A list of lines** is read line by line, if the text is plain and the lines are. -/
theorem parsed_joinLines {links : List String} (hne : links ≠ [])
    (htext : rd.IsPlain (Text.joinLines links))
    (hlinks : ∀ link ∈ links, rd.IsPlain link ∧ '\n' ∉ link.toList ∧ Text.trimSpace link = link) :
    rd.parsed (Text.joinLines links) = links.filterMap rd.link := by
  have hlines : ∀ link ∈ links, '\n' ∉ link.toList := fun link hlink => (hlinks link hlink).2.1
  have hread : ∀ link ∈ links, rd.parsed (Text.trimSpace link) = (rd.link link).toList := by
    intro link hlink
    obtain ⟨hplain, hline, htrim⟩ := hlinks link hlink
    rw [htrim, hplain.parsed_of_line hline]
  have hall : (links.flatMap fun link => rd.parsed (Text.trimSpace link)) = links.filterMap rd.link := by
    rw [List.filterMap_eq_flatMap_toList]
    exact List.flatMap_congr hread
  by_cases hmem : '\n' ∈ (Text.joinLines links).toList
  · rw [htext.parsed_of_lines hmem, Text.splitLines_joinLines hlines hne, hall]
  · obtain ⟨link, rest, rfl⟩ := List.exists_cons_of_ne_nil hne
    obtain rfl : rest = [] := by
      by_contra hrest
      refine hmem ?_
      rw [Text.toList_joinLines_cons link hrest]
      exact List.mem_append_right _ List.mem_cons_self
    rw [htext.parsed_of_line hmem, Text.joinLines_singleton]
    cases hlink : rd.link link with
    | none => rw [List.filterMap_cons_none hlink]; rfl
    | some e => rw [List.filterMap_cons_some hlink]; rfl

end Proxor.Sub.Reader
