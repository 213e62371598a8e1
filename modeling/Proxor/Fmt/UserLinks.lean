import Proxor.Db.ExternalHop
import Proxor.Fmt.ShareLink

set_option relaxedAutoImplicit false
set_option autoImplicit false

/-!
# Links with a user

The links of SOCKS, HTTP, Naive, TUIC and Hysteria2 beans, and what a fresh bean reads of them. What is lost is
lost by a second decoding of the name, by a user name that is taken for two things in Base64, by a password that
ends at its first colon, and by a port range of blanks.

## Main definitions

* `Proxor.Fmt.Bean.UserLinked` — the beans and what their links need.
* `Proxor.Fmt.Bean.Restored` — a bean that has what the link of another carries.
* `Proxor.Fmt.Bean.UserReady` — what must hold of a bean for its link to be read back.

## Main results

* `Proxor.Fmt.restored_iff` — exactly these are read back.
* `Proxor.Fmt.not_restored` — a name with a percent sign is not.
-/

namespace Proxor.Fmt

open Db.ProfileManager (trimmed)

/-! ### Texts -/

/-- A text is what is before an occurrence, the occurrence and what is behind it. -/
lemma eq_of_cut {s sub before after : String} (h : Text.cut s sub = some (before, after)) :
    s = before ++ sub ++ after := by
  obtain ⟨p, hcut, hp⟩ := Option.map_eq_some_iff.1 h
  obtain ⟨rfl, rfl⟩ := Prod.mk.inj hp
  rw [← String.toList_inj, String.toList_append, String.toList_append, String.toList_ofList, String.toList_ofList]
  exact Text.eq_of_cutFirst hcut

/-- What stands before something in a text is not longer than the text. -/
lemma length_subStrBefore_le (s sub : String) : (subStrBefore s sub).length ≤ s.length := by
  rw [subStrBefore]
  cases hcut : Text.cut s sub with
  | none => exact Nat.le_refl _
  | some p =>
    dsimp only
    rw [eq_of_cut hcut, String.length_append, String.length_append]
    omega

/-- **A user name** is kept with its password, unless it stands for both in Base64. -/
lemma v2rayNUser_eq_iff (username password : String) :
    v2rayNUser username password = (username, password) ↔
      password ≠ "" ∨ username = "" ∨ fromUtf8 (decodeB64IfValid username false) = "" := by
  unfold v2rayNUser
  by_cases h : password = "" ∧ username ≠ ""
  · rw [if_pos h]
    dsimp only
    by_cases hn : fromUtf8 (decodeB64IfValid username false) = ""
    · rw [if_neg (fun hne => hne hn)]
      exact iff_of_true rfl (Or.inr (Or.inr hn))
    · rw [if_pos hn]
      refine iff_of_false (fun heq => ?_) (by rw [not_or, not_or]; exact ⟨fun hne => hne h.1, h.2, hn⟩)
      have hne : decodeB64IfValid username false ≠ [] := fun hnil => hn (by rw [hnil]; rfl)
      have hlt := length_decodeB64IfValid_lt hne
      have hle := length_subStrBefore_le (fromUtf8 (decodeB64IfValid username false)) ":"
      rw [(Prod.mk.inj heq).1] at hle
      omega
  · rw [if_neg h]
    refine iff_of_true rfl ?_
    by_cases hp : password = ""
    · exact Or.inr (Or.inl (by by_contra hne; exact h ⟨hp, hne⟩))
    · exact Or.inl hp

/-- The characters a link begins with are those of its scheme. -/
lemma hasPrefix_text (url : LinkUrl) (s : String) : ∃ rest, Text.hasPrefix url.text s =
    s.toList.isPrefixOf (url.scheme.toList ++ ':' :: '/' :: '/' :: rest) := by
  refine ⟨url.uri.userInfo ++ url.uri.host ++ Uri.part ':' (url.uri.port.map fun p => Nat.toDigits 10 p.val) ++
    Uri.part '?' url.uri.query ++ Uri.part '#' (url.uri.fragment.map Uri.encode), ?_⟩
  rw [Text.hasPrefix, LinkUrl.text, String.toList_ofList, Uri.toText]
  simp only [List.append_assoc]
  rfl

/-! ### What the links carry -/

/-- The beans with these links, and what their servers need. -/
def Bean.UserLinked : Bean → Prop
  | .socks b => b.toAbstractBean.Located ∧ b.socks_http_type ≠ type_HTTP
  | .http b => b.toAbstractBean.Located ∧ b.socks_http_type = type_HTTP
  | .naive b =>
    b.toAbstractBean.Located ∧ (b.protocol = "https" ∨ b.protocol = "quic") ∧ b.username ≠ "" ∧ b.password ≠ ""
  | .tuic b | .hysteria2 b => b.toAbstractBean.Located
  | _ => False

/-- The user is the same. -/
def SocksHttpBean.SameUser (b b' : SocksHttpBean) : Prop :=
  SameServer b.toAbstractBean b'.toAbstractBean ∧ b'.socks_http_type = b.socks_http_type ∧
    b'.username = b.username ∧ b'.password = b.password

/-- The second bean has what the link of the first one carries. -/
def Bean.UserRestored : Bean → Bean → Prop
  | .socks b, .socks b' => b.SameUser b'
  | .http b, .http b' => b.SameUser b' ∧ (b'.stream.security = "tls" ↔ b.stream.security = "tls")
  | .naive b, .naive b' =>
    SameServer b.toAbstractBean b'.toAbstractBean ∧ b'.protocol = b.protocol ∧ b'.username = b.username ∧
      b'.password = b.password
  | .tuic b, .tuic b' =>
    SameServer b.toAbstractBean b'.toAbstractBean ∧ b'.uuid = b.uuid ∧ b'.password = b.password ∧
      b'.congestionControl = b.congestionControl ∧ b'.alpn = b.alpn ∧ b'.sni = b.sni ∧
      b'.udpRelayMode = b.udpRelayMode ∧ b'.allowInsecure = b.allowInsecure ∧ b'.disableSni = b.disableSni
  | .hysteria2 b, .hysteria2 b' =>
    SameServer b.toAbstractBean b'.toAbstractBean ∧ b'.password = b.password ∧ b'.obfsPassword = b.obfsPassword ∧
      b'.hopPort = b.hopPort ∧ b'.allowInsecure = b.allowInsecure ∧ b'.sni = b.sni
  | _, _ => False

/-- A user name that is not taken for two things. -/
def KeepsUser (username password : String) : Prop :=
  password ≠ "" ∨ username = "" ∨ fromUtf8 (decodeB64IfValid username false) = ""

/-- What must hold of a bean for its link to be read back. -/
def Bean.UserReady : Bean → Prop
  | .socks b =>
    Plain b.name ∧ KeepsUser b.username b.password ∧
      (b.socks_http_type = type_Socks4 ∨ b.socks_http_type = type_Socks5)
  | .http b => Plain b.name ∧ KeepsUser b.username b.password
  | .naive b => Plain b.name
  | .tuic b => Plain b.name
  | .hysteria2 b =>
    Plain b.name ∧ (b.hopPort = "" ∨ trimmed b.hopPort ≠ "") ∧
      (Text.contains b.password ":" = true → subStrAfter b.password ":" ≠ "")
  | _ => False

/-! ### SOCKS and HTTP -/

namespace SocksHttpBean

variable {b : SocksHttpBean}

lemma proper_linkUrl (h : b.toAbstractBean.Located) : b.linkUrl.Proper where
  scheme c hc := by
    change c ∉ b.linkScheme.toList
    unfold linkScheme
    simp only [List.mem_cons, List.not_mem_nil, or_false] at hc
    split_ifs
    · rcases hc with rfl | rfl | rfl <;> decide
    · rcases hc with rfl | rfl | rfl <;> decide
    · rw [String.toList_append, List.mem_append, not_or]
      refine ⟨by rcases hc with rfl | rfl | rfl <;> decide, fun hmem => ?_⟩
      rcases Text.isDigit_or_of_mem_toString hmem with hdigit | rfl
      · rcases hc with rfl | rfl | rfl <;> exact absurd hdigit (by decide)
      · rcases hc with hc | hc | hc <;> exact absurd hc (by decide)
  host := h.host

/-- What is read of the link. -/
lemma tryParseLink_toShareLink (h : b.toAbstractBean.Located) (fresh : SocksHttpBean) :
    @tryParseLink genericUrl fresh b.toShareLink = some
      { fresh with
        socks_http_type :=
          if Text.hasPrefix b.toShareLink "http" then type_HTTP
          else if Text.hasPrefix b.toShareLink "socks4" then type_Socks4 else fresh.socks_http_type
        name := @decodePercentEncodedText genericUrl b.name
        serverAddress := b.serverAddress
        serverPort := b.serverPort
        username := (v2rayNUser b.username b.password).1
        password := (v2rayNUser b.username b.password).2
        stream :=
          { fresh.stream with
            security := if Text.hasPrefix b.toShareLink "https" then "tls" else ""
            sni := "" } } := by
  have hport : b.linkUrl.read.port = b.serverPort := LinkUrl.port_read h.port
  have hnone : ∀ key, @getQueryValue genericUrl b.linkUrl.read.queryFullyDecoded key "" = "" := fun key => by
    have hvalue : @QtUrl.queryItemValue genericUrl b.linkUrl.read.queryFullyDecoded key = "" :=
      congrArg String.ofList (Uri.queryValue_nil key.toList)
    unfold getQueryValue
    rw [hvalue]
    rfl
  have hvalid : ¬(!b.linkUrl.read.isValid) = true := Bool.false_ne_true
  have hhost : b.linkUrl.read.host ≠ "" := h.host.ne
  unfold tryParseLink
  rw [toShareLink, parseUrlWithUnicodeFragment_text (proper_linkUrl h)]
  have hpassword : b.linkUrl.read.password = b.password := getD_nonEmpty _
  have hname : b.linkUrl.read.fragmentFullyDecoded = b.name := getD_nonEmpty _
  dsimp only
  rw [hport, hnone, hnone, hpassword, hname, if_neg hvalid, if_neg hhost,
    if_neg (show b.serverPort ≠ -1 by have := h.port; omega)]
  rfl

/-- The user is found again. -/
lemma sameUser_iff {b' : SocksHttpBean} (hname : b'.name = @decodePercentEncodedText genericUrl b.name)
    (haddress : b'.serverAddress = b.serverAddress) (hport : b'.serverPort = b.serverPort)
    (husername : b'.username = (v2rayNUser b.username b.password).1)
    (hpassword : b'.password = (v2rayNUser b.username b.password).2) :
    b.SameUser b' ↔ Plain b.name ∧ KeepsUser b.username b.password ∧ b'.socks_http_type = b.socks_http_type := by
  have huser : b'.username = b.username ∧ b'.password = b.password ↔ KeepsUser b.username b.password := by
    rw [KeepsUser, ← v2rayNUser_eq_iff, Prod.ext_iff, husername, hpassword]
  rw [SameUser, sameServer_iff hname haddress hport, huser, and_comm (a := b'.socks_http_type = _)]

/-- A SOCKS link begins with its version. -/
lemma hasPrefix_socks (h : b.socks_http_type ≠ type_HTTP) (s : String) :
    ∃ rest, Text.hasPrefix b.toShareLink s =
      s.toList.isPrefixOf ("socks".toList ++ (int2String b.socks_http_type).toList ++ ':' :: rest) := by
  obtain ⟨rest, hprefix⟩ := hasPrefix_text b.linkUrl s
  refine ⟨'/' :: '/' :: rest, ?_⟩
  rw [toShareLink, hprefix, ← String.toList_append]
  change _ = s.toList.isPrefixOf (("socks" ++ int2String b.socks_http_type).toList ++ _)
  rw [show b.linkUrl.scheme = "socks" ++ int2String b.socks_http_type from if_neg h]

/-- The version is found again if there is one. -/
lemma version_iff (h : b.socks_http_type ≠ type_HTTP) :
    (if Text.hasPrefix b.toShareLink "http" then type_HTTP
      else if Text.hasPrefix b.toShareLink "socks4" then type_Socks4 else type_Socks5) = b.socks_http_type ↔
    b.socks_http_type = type_Socks4 ∨ b.socks_http_type = type_Socks5 := by
  obtain ⟨rest, hhttp⟩ := hasPrefix_socks h "http"
  obtain ⟨rest', hsocks⟩ := hasPrefix_socks h "socks4"
  have hnot : ¬"http".toList.isPrefixOf
      ("socks".toList ++ (int2String b.socks_http_type).toList ++ ':' :: rest) = true := Bool.false_ne_true
  rw [hhttp, hsocks, if_neg hnot]
  constructor
  · intro heq
    rw [← heq]
    split_ifs
    · exact Or.inl rfl
    · exact Or.inr rfl
  · intro hversion
    rcases hversion with h4 | h5
    · rw [h4]
      rfl
    · rw [h5]
      rfl

/-- An HTTP link begins with its scheme. -/
lemma hasPrefix_http (h : b.socks_http_type = type_HTTP) :
    Text.hasPrefix b.toShareLink "http" = true ∧
      (Text.hasPrefix b.toShareLink "https" = true ↔ b.stream.security = "tls") := by
  obtain ⟨rest, hhttp⟩ := hasPrefix_text b.linkUrl "http"
  obtain ⟨rest', hhttps⟩ := hasPrefix_text b.linkUrl "https"
  have hscheme : b.linkUrl.scheme = if b.stream.security = "tls" then "https" else "http" := if_pos h
  rw [toShareLink, hhttp, hhttps, hscheme]
  by_cases htls : b.stream.security = "tls"
  · rw [if_pos htls]
    exact ⟨rfl, iff_of_true rfl htls⟩
  · rw [if_neg htls]
    exact ⟨rfl, iff_of_false Bool.false_ne_true htls⟩

end SocksHttpBean

/-! ### Naive -/

namespace NaiveBean

variable {b : NaiveBean}

lemma proper_linkUrl (h : b.toAbstractBean.Located) (hprotocol : b.protocol = "https" ∨ b.protocol = "quic") :
    b.linkUrl.Proper where
  scheme c hc := by
    change c ∉ ("naive+" ++ b.protocol).toList
    simp only [List.mem_cons, List.not_mem_nil, or_false] at hc
    rcases hprotocol with hprotocol | hprotocol
    · rw [hprotocol]
      rcases hc with rfl | rfl | rfl <;> decide
    · rw [hprotocol]
      rcases hc with rfl | rfl | rfl <;> decide
  host := h.host

/-- The protocol is found again. -/
lemma naiveProtocol_read (hprotocol : b.protocol = "https" ∨ b.protocol = "quic") :
    naiveProtocol b.linkUrl.read = b.protocol := by
  change replaceAll ("naive+" ++ b.protocol) "naive+" "" = b.protocol
  rcases hprotocol with hprotocol | hprotocol
  · rw [hprotocol]
    decide
  · rw [hprotocol]
    decide

/-- What is read of the link. -/
lemma tryParseLink_toShareLink (h : b.toAbstractBean.Located)
    (hprotocol : b.protocol = "https" ∨ b.protocol = "quic") (husername : b.username ≠ "")
    (hpassword : b.password ≠ "") (fresh : NaiveBean) :
    @tryParseLink genericUrl fresh b.toShareLink = some
      { fresh with
        protocol := b.protocol
        name := @decodePercentEncodedText genericUrl b.name
        serverAddress := b.serverAddress
        serverPort := b.serverPort
        username := b.username
        password := b.password } := by
  have hport : b.linkUrl.read.port = b.serverPort := LinkUrl.port_read h.port
  have hvalid : ¬(!b.linkUrl.read.isValid) = true := Bool.false_ne_true
  have hcredentials : ¬(b.linkUrl.read.userName = "" ∨ b.linkUrl.read.password = "" ∨ b.linkUrl.read.host = "") := by
    rw [not_or, not_or]
    exact ⟨husername, hpassword, h.host.ne⟩
  have hname : b.linkUrl.read.fragmentFullyDecoded = b.name := getD_nonEmpty _
  have hknown : ¬(b.protocol ≠ "https" ∧ b.protocol ≠ "quic") := by
    rw [not_and_or, not_not, not_not]
    exact hprotocol
  unfold tryParseLink
  rw [toShareLink, parseUrlWithUnicodeFragment_text (proper_linkUrl h hprotocol)]
  dsimp only
  rw [hport, naiveProtocol_read hprotocol, hname, if_neg hvalid, if_neg hknown, if_neg hcredentials]
  rfl

end NaiveBean

/-! ### TUIC and Hysteria2 -/

namespace QUICBean

variable {b : QUICBean}

lemma proper_linkUrl (proxy_type : QUICType) (h : b.toAbstractBean.Located) : (b.linkUrl proxy_type).Proper where
  scheme := by
    cases proxy_type with
    | tuic =>
      change ∀ c ∈ ['#', '?', ':'], c ∉ ("tuic" : String).toList
      exact scheme_of_all (by decide)
    | hysteria2 =>
      change ∀ c ∈ ['#', '?', ':'], c ∉ ("hy2" : String).toList
      exact scheme_of_all (by decide)
  host := by
    cases proxy_type with
    | tuic => exact h.host
    | hysteria2 => exact h.host

lemma getD_nonEmptyQuery (items : List (String × String)) : (nonEmptyQuery items).getD [] = items := by
  unfold nonEmptyQuery
  split_ifs with h
  · exact h.symm
  · rfl

/-- What is read of a TUIC link. -/
lemma tryParseLink_toShareLink_tuic (h : b.toAbstractBean.Located) (fresh : QUICBean) :
    @tryParseLink genericUrl fresh (b.toShareLink .tuic) = some
      { fresh with
        name := @decodePercentEncodedText genericUrl b.name
        serverAddress := b.serverAddress
        serverPort := b.serverPort
        uuid := b.uuid
        password := b.password
        congestionControl := b.congestionControl
        alpn := b.alpn
        sni := b.sni
        udpRelayMode := b.udpRelayMode
        allowInsecure := b.allowInsecure
        disableSni := b.disableSni } := by
  have hport : (b.linkUrl .tuic).read.port = b.serverPort := LinkUrl.port_read h.port
  have hsome : ¬((b.linkUrl .tuic).read.host = "" ∨ b.serverPort = -1) := by
    rw [not_or]
    exact ⟨h.host.ne, by have := h.port; omega⟩
  have hname : (b.linkUrl .tuic).read.fragmentFullyDecoded = b.name := getD_nonEmpty _
  have hvalue : ∀ key, @QtUrl.queryItemValue genericUrl (b.linkUrl .tuic).read.query key =
      (lookup? b.tuicItems key).getD "" := by
    intro key
    rw [← getD_nonEmptyQuery b.tuicItems]
    exact queryItemValue_queryText _ _
  have hflag : ∀ set : Bool, decide (((if set = true then some "1" else none : Option String).getD "") = "1") = set := by
    decide
  unfold tryParseLink
  rw [toShareLink, parseUrlWithUnicodeFragment_text (proper_linkUrl .tuic h)]
  dsimp only
  rw [hport, if_neg hsome, if_pos (show (b.linkUrl .tuic).read.scheme = "tuic" from rfl), hname]
  simp only [hvalue, tuicItems, lookup?_append, lookup?_optionalItem, lookup?_flagItem, String.reduceEq, if_true,
    if_false, true_and, false_and, Option.or_none, Option.none_or, getD_nonEmpty, hflag]
  rfl

/-- The password of a Hysteria2 link is found again, unless it ends at its first colon. -/
lemma hysteria2Password_iff (password : String) :
    (if (if Text.contains password ":" then some (subStrAfter password ":") else none).getD "" = "" then
        subStrBefore password ":"
      else subStrBefore password ":" ++ ":" ++
        (if Text.contains password ":" then some (subStrAfter password ":") else none).getD "") = password ↔
      (Text.contains password ":" = true → subStrAfter password ":" ≠ "") := by
  unfold Text.contains subStrBefore subStrAfter
  cases hcut : Text.cut password ":" with
  | none => exact iff_of_true rfl fun h => absurd h Bool.false_ne_true
  | some p =>
    obtain ⟨before, after⟩ := p
    have hsplit := eq_of_cut hcut
    dsimp only
    rw [Option.isSome_some, if_pos rfl, Option.getD_some]
    by_cases hafter : after = ""
    · rw [if_pos hafter]
      refine iff_of_false (fun heq => ?_) fun hne => hne rfl hafter
      have hlength := congrArg String.length hsplit
      rw [String.length_append, String.length_append, heq, show (":" : String).length = 1 from rfl] at hlength
      omega
    · rw [if_neg hafter]
      exact iff_of_true hsplit.symm fun _ => hafter

/-- What is read of a Hysteria2 link. -/
lemma tryParseLink_toShareLink_hysteria2 (h : b.toAbstractBean.Located) (fresh : QUICBean) :
    @tryParseLink genericUrl fresh (b.toShareLink .hysteria2) = some
      { fresh with
        name := @decodePercentEncodedText genericUrl b.name
        serverAddress := b.serverAddress
        serverPort := b.serverPort
        hopPort := if trimmed b.hopPort ≠ "" then b.hopPort else ""
        obfsPassword := b.obfsPassword
        allowInsecure := b.allowInsecure
        password :=
          if (if Text.contains b.password ":" then some (subStrAfter b.password ":") else none).getD "" = "" then
            subStrBefore b.password ":"
          else subStrBefore b.password ":" ++ ":" ++
            (if Text.contains b.password ":" then some (subStrAfter b.password ":") else none).getD ""
        sni := b.sni } := by
  have hport : (b.linkUrl .hysteria2).read.port = b.serverPort := LinkUrl.port_read h.port
  have hsome : ¬((b.linkUrl .hysteria2).read.host = "" ∨ b.serverPort = -1) := by
    rw [not_or]
    exact ⟨h.host.ne, by have := h.port; omega⟩
  have hname : (b.linkUrl .hysteria2).read.fragmentFullyDecoded = b.name := getD_nonEmpty _
  have hvalue : ∀ key, @QtUrl.queryItemValue genericUrl (b.linkUrl .hysteria2).read.query key =
      (lookup? b.hysteria2Items key).getD "" := by
    intro key
    rw [← getD_nonEmptyQuery b.hysteria2Items]
    exact queryItemValue_queryText _ _
  have hother : (b.linkUrl .hysteria2).read.scheme ≠ "tuic" := by
    change ("hy2" : String) ≠ "tuic"
    decide
  have hobfs : (lookup? b.hysteria2Items "obfs-password").getD "" = b.obfsPassword := by
    unfold hysteria2Items
    by_cases hobfs : b.obfsPassword = ""
    · rw [if_neg (not_not.2 hobfs), hobfs]
      by_cases hhop : trimmed b.hopPort = ""
      · rw [if_neg (not_not.2 hhop)]
        simp
      · rw [if_pos hhop]
        simp
    · rw [if_pos hobfs]
      simp
  have hhop : (lookup? b.hysteria2Items "mport").getD "" = if trimmed b.hopPort ≠ "" then b.hopPort else "" := by
    unfold hysteria2Items
    split_ifs <;> simp
  have hinsecure : (lookup? b.hysteria2Items "insecure").getD "" = if b.allowInsecure = true then "1" else "" := by
    unfold hysteria2Items
    split_ifs <;> simp_all
  have hsni : (lookup? b.hysteria2Items "sni").getD "" = b.sni := by
    unfold hysteria2Items
    split_ifs <;> simp
  have hflag : ∀ set : Bool, (decide ((if set = true then "1" else "") = "1") ||
      decide ((if set = true then "1" else "") = "true")) = set := by
    decide
  unfold tryParseLink
  rw [toShareLink, parseUrlWithUnicodeFragment_text (proper_linkUrl .hysteria2 h)]
  dsimp only
  rw [hport, if_neg hsome, if_neg hother, if_pos (show (b.linkUrl .hysteria2).read.scheme = "hy2" ∨ _ from Or.inl rfl),
    hname, hvalue, hvalue, hvalue, hvalue, hobfs, hhop, hinsecure, hsni, hflag]
  rfl

/-- A port range is found again if it is empty or more than blanks. -/
lemma hopPort_iff (hopPort : String) :
    (if trimmed hopPort ≠ "" then hopPort else "") = hopPort ↔ hopPort = "" ∨ trimmed hopPort ≠ "" := by
  by_cases h : trimmed hopPort = ""
  · rw [if_neg (not_not.2 h)]
    exact ⟨fun heq => Or.inl heq.symm, fun hor => (hor.resolve_right fun hne => hne h).symm⟩
  · rw [if_pos h]
    exact iff_of_true rfl (Or.inr h)

end QUICBean

/-! ### Round trips -/

lemma newBean_socks : newBean "socks" = some (.socks { socks_http_type := type_Socks5 }) := rfl

lemma newBean_http : newBean "http" = some (.http { socks_http_type := type_HTTP }) := rfl

lemma newBean_naive : newBean "naive" = some (.naive {}) := rfl

lemma newBean_tuic : newBean "tuic" = some (.tuic {}) := rfl

lemma newBean_hysteria2 : newBean "hysteria2" = some (.hysteria2 {}) := rfl

variable [Qt] {old_share_link_format : Bool} {utlsFingerprint : String}

lemma tryParseLink_socks (b : SocksHttpBean) (link : String) : @Bean.tryParseLink _ genericUrl utlsFingerprint (.socks b) link =
    (@SocksHttpBean.tryParseLink genericUrl b link).map .socks := by
  unfold Bean.tryParseLink
  rfl

lemma tryParseLink_http (b : SocksHttpBean) (link : String) : @Bean.tryParseLink _ genericUrl utlsFingerprint (.http b) link =
    (@SocksHttpBean.tryParseLink genericUrl b link).map .http := by
  unfold Bean.tryParseLink
  rfl

lemma tryParseLink_naive (b : NaiveBean) (link : String) : @Bean.tryParseLink _ genericUrl utlsFingerprint (.naive b) link =
    (@NaiveBean.tryParseLink genericUrl b link).map .naive := by
  unfold Bean.tryParseLink
  rfl

lemma tryParseLink_tuic (b : QUICBean) (link : String) : @Bean.tryParseLink _ genericUrl utlsFingerprint (.tuic b) link =
    (@QUICBean.tryParseLink genericUrl b link).map .tuic := by
  unfold Bean.tryParseLink
  rfl

lemma tryParseLink_hysteria2 (b : QUICBean) (link : String) : @Bean.tryParseLink _ genericUrl utlsFingerprint (.hysteria2 b) link =
    (@QUICBean.tryParseLink genericUrl b link).map .hysteria2 := by
  unfold Bean.tryParseLink
  rfl

/-- A SOCKS link. -/
lemma restored_iff_socks {b : SocksHttpBean} (h : (Bean.socks b).UserLinked) :
    (Bean.socks b).ReadBack old_share_link_format utlsFingerprint Bean.UserRestored ↔ (Bean.socks b).UserReady := by
  have hread := SocksHttpBean.tryParseLink_toShareLink h.1 { socks_http_type := type_Socks5 }
  refine Iff.trans (Bean.readBack_iff .socks newBean_socks rfl (tryParseLink_socks _ _) hread) ?_
  change b.SameUser _ ↔ _
  refine Iff.trans (SocksHttpBean.sameUser_iff rfl rfl rfl rfl rfl) ?_
  dsimp only
  rw [SocksHttpBean.version_iff h.2]
  rfl

/-- An HTTP link. -/
lemma restored_iff_http {b : SocksHttpBean} (h : (Bean.http b).UserLinked) :
    (Bean.http b).ReadBack old_share_link_format utlsFingerprint Bean.UserRestored ↔ (Bean.http b).UserReady := by
  have hread := SocksHttpBean.tryParseLink_toShareLink h.1 { socks_http_type := type_HTTP }
  obtain ⟨hhttp, hhttps⟩ := SocksHttpBean.hasPrefix_http h.2
  refine Iff.trans (Bean.readBack_iff .http newBean_http rfl (tryParseLink_http _ _) hread) ?_
  have hversion : (if Text.hasPrefix b.toShareLink "http" then type_HTTP
      else if Text.hasPrefix b.toShareLink "socks4" then type_Socks4 else type_HTTP) = b.socks_http_type := by
    rw [if_pos hhttp, h.2]
  have htls : (if Text.hasPrefix b.toShareLink "https" then "tls" else "") = "tls" ↔ b.stream.security = "tls" := by
    rw [← hhttps]
    split_ifs with hset
    · exact iff_of_true rfl hset
    · exact iff_of_false (by decide) hset
  change b.SameUser _ ∧ (_ ↔ _) ↔ _
  rw [and_iff_left htls]
  refine Iff.trans (SocksHttpBean.sameUser_iff rfl rfl rfl rfl rfl) ?_
  dsimp only
  rw [and_iff_left hversion]
  rfl

/-- A Naive link. -/
lemma restored_iff_naive {b : NaiveBean} (h : (Bean.naive b).UserLinked) :
    (Bean.naive b).ReadBack old_share_link_format utlsFingerprint Bean.UserRestored ↔ (Bean.naive b).UserReady := by
  obtain ⟨hlocated, hprotocol, husername, hpassword⟩ := h
  have hread := NaiveBean.tryParseLink_toShareLink hlocated hprotocol husername hpassword {}
  refine Iff.trans (Bean.readBack_iff .naive newBean_naive rfl (tryParseLink_naive _ _) hread) ?_
  exact (and_iff_left ⟨rfl, rfl, rfl⟩).trans (sameServer_iff rfl rfl rfl)

/-- A TUIC link. -/
lemma restored_iff_tuic {b : QUICBean} (h : (Bean.tuic b).UserLinked) :
    (Bean.tuic b).ReadBack old_share_link_format utlsFingerprint Bean.UserRestored ↔ (Bean.tuic b).UserReady := by
  have hread := QUICBean.tryParseLink_toShareLink_tuic h {}
  refine Iff.trans (Bean.readBack_iff .tuic newBean_tuic rfl (tryParseLink_tuic _ _) hread) ?_
  exact (and_iff_left ⟨rfl, rfl, rfl, rfl, rfl, rfl, rfl, rfl⟩).trans (sameServer_iff rfl rfl rfl)

/-- A Hysteria2 link. -/
lemma restored_iff_hysteria2 {b : QUICBean} (h : (Bean.hysteria2 b).UserLinked) :
    (Bean.hysteria2 b).ReadBack old_share_link_format utlsFingerprint Bean.UserRestored ↔
      (Bean.hysteria2 b).UserReady := by
  have hread := QUICBean.tryParseLink_toShareLink_hysteria2 h {}
  refine Iff.trans (Bean.readBack_iff .hysteria2 newBean_hysteria2 rfl (tryParseLink_hysteria2 _ _) hread) ?_
  change SameServer _ _ ∧ _ = b.password ∧ b.obfsPassword = b.obfsPassword ∧ _ = b.hopPort ∧ _ ∧ _ ↔ _
  refine Iff.trans (and_congr (sameServer_iff rfl rfl rfl) (and_congr (QUICBean.hysteria2Password_iff _)
    (and_congr_right fun _ => and_congr_left fun _ => QUICBean.hopPort_iff _))) ?_
  constructor
  · intro hall
    exact ⟨hall.1, hall.2.2.2.1, hall.2.1⟩
  · intro hall
    exact ⟨hall.1, hall.2.2, rfl, hall.2.1, rfl, rfl⟩

/-- **Links with a user.** A fresh bean accepts the link of a SOCKS, HTTP, Naive, TUIC or Hysteria2 bean, and has
the user, the server and the settings of it, exactly if the name has no escapes, the user name is not taken for
two things in Base64, the version of SOCKS is one of two, the port range is not blank, and the password does not
end at its first colon.

**Proof sketch.** What is read of the link is what the URL was put together of, part by part and item by item; by
the type of the bean, what the parser makes of it is compared with the bean. -/
theorem restored_iff {bean : Bean} (h : bean.UserLinked) :
    bean.ReadBack old_share_link_format utlsFingerprint Bean.UserRestored ↔ bean.UserReady := by
  cases bean with
  | socks b => exact restored_iff_socks h
  | http b => exact restored_iff_http h
  | naive b => exact restored_iff_naive h
  | tuic b => exact restored_iff_tuic h
  | hysteria2 b => exact restored_iff_hysteria2 h
  | shadowsocks b => exact absurd h id
  | chain b => exact absurd h id
  | vmess b => exact absurd h id
  | trojan b => exact absurd h id
  | vless b => exact absurd h id
  | custom b => exact absurd h id

omit [Qt]

/-- A server with a name. -/
def namedBean (name : String) : Bean :=
  .naive { serverAddress := "a.b", name, username := "u", password := "p" }

lemma userLinked_namedBean (name : String) : (namedBean name).UserLinked := by
  have hhost : IsHostName "a.b" := isHostName_of_all (by decide) (by decide)
  have hport : (1 : ℤ) ≤ 1080 ∧ (1080 : ℤ) ≤ 65535 := by decide
  have hu : ("u" : String) ≠ "" := by decide
  have hp : ("p" : String) ≠ "" := by decide
  exact ⟨⟨hhost, hport⟩, Or.inl rfl, hu, hp⟩

/-- A bean whose name is plain is found again. -/
theorem restored_namedBean :
    (namedBean "100 %").UserLinked ∧
      (@Bean.ReadBack Db.plainQt false "" Bean.UserRestored (namedBean "100 %") ↔ (namedBean "100 %").UserReady) :=
  ⟨userLinked_namedBean _, @restored_iff Db.plainQt false "" _ (userLinked_namedBean _)⟩

/-- **Not every bean is found again.** A name with an escape is decoded twice. -/
theorem not_restored :
    ¬ ∀ (_ : Qt) (old_share_link_format : Bool) (utlsFingerprint : String) (bean : Bean), bean.UserLinked →
      bean.ReadBack old_share_link_format utlsFingerprint Bean.UserRestored := by
  intro h
  have hready := (@restored_iff_naive Db.plainQt false "" _ (userLinked_namedBean "100%41")).1
    (h Db.plainQt false "" (namedBean "100%41") (userLinked_namedBean _))
  exact absurd hready (show ¬Plain "100%41" by decide)

end Proxor.Fmt
