import Proxor.Fmt.StreamLinks

set_option relaxedAutoImplicit false
set_option autoImplicit false

/-!
# Trojan, VLESS and VMess links

The links of the beans with a transport, and what a fresh bean reads of them, whatever the fingerprint of the
settings is. Their queries are decoded as a whole, so that a value with a sign between items or with an escape is
lost; names are decoded twice; and what is empty gets the default of another type.

## Main definitions

* `Proxor.Fmt.Bean.TransportLinked` — the beans and what their links need.
* `Proxor.Fmt.Bean.TransportRestored` — a bean that has what the link of another carries.
* `Proxor.Fmt.Bean.TransportReady` — what must hold of a bean for its link to be read back.

## Main results

* `Proxor.Fmt.transport_restored_iff` — exactly these are read back.
-/

namespace Proxor.Fmt

open Db.ProfileManager (trimmed)

/-! ### What the links carry -/

/-- The beans with these links, and what their servers need. A VMess link is one of the newer format. -/
def Bean.TransportLinked (old_share_link_format : Bool) : Bean → Prop
  | .trojan b | .vless b => b.toAbstractBean.Located ∧ b.password ≠ "" ∧ StreamLinked b.stream
  | .vmess b =>
    b.toAbstractBean.Located ∧ b.uuid ≠ "" ∧ b.aid = 0 ∧ StreamLinked b.stream ∧ old_share_link_format = false
  | _ => False

/-- The second bean has what the link of the first one carries. -/
def Bean.TransportRestored : Bean → Bean → Prop
  | .trojan b, .trojan b' =>
    SameServer b.toAbstractBean b'.toAbstractBean ∧ b'.password = b.password ∧
      b'.stream.security = b.stream.security ∧ b'.stream.alpn = b.stream.alpn ∧ SameStream b.stream b'.stream
  | .vless b, .vless b' =>
    SameServer b.toAbstractBean b'.toAbstractBean ∧ b'.password = b.password ∧ b'.flow = b.flow ∧
      b'.stream.security = b.stream.security ∧ b'.stream.alpn = b.stream.alpn ∧ SameStream b.stream b'.stream
  | .vmess b, .vmess b' =>
    SameServer b.toAbstractBean b'.toAbstractBean ∧ b'.uuid = b.uuid ∧ b'.aid = b.aid ∧ b'.security = b.security ∧
      b'.stream.security = b.stream.security ∧ SameStream b.stream b'.stream
  | _, _ => False

/-- What must hold of a bean for its link to be read back. -/
def Bean.TransportReady : Bean → Prop
  | .trojan b =>
    Plain b.name ∧ b.stream.security = "tls" ∧ Stable b.stream.alpn ∧ StreamReady b.stream b.stream.path
  | .vless b => Plain b.name ∧ Stable b.flow ∧ Stable b.stream.alpn ∧ StreamReady b.stream b.stream.path
  | .vmess b =>
    Plain b.name ∧ b.stream.security = "tls" ∧ Stable b.security ∧ b.security ≠ "" ∧ StreamReady b.stream ""
  | _ => False

/-! ### Security -/

/-- What is read of the security, where reality is TLS with a key. -/
lemma security_of_linkSecurity {stream : V2rayStreamSettings} (h : StreamLinked stream) :
    replaceAll (linkSecurity stream) "reality" "tls" = stream.security := by
  rw [linkSecurity_eq]
  split_ifs with hreality
  · rw [hreality.1]
    decide
  · rcases h.security with hsecurity | hsecurity
    · rw [hsecurity]
      decide
    · rw [hsecurity]
      decide

lemma linkSecurity_eq_empty_iff {stream : V2rayStreamSettings} (h : StreamLinked stream) :
    linkSecurity stream = "" ↔ stream.security = "" := by
  rw [linkSecurity_eq]
  split_ifs with hreality
  · rw [hreality.1]
    decide
  · exact Iff.rfl

/-- Nothing is replaced in the security of a transport. -/
lemma replaceAll_none {security : String} (h : security = "" ∨ security = "tls") :
    replaceAll security "none" "" = security := by
  rcases h with rfl | rfl <;> decide

/-! ### Trojan and VLESS -/

namespace TrojanVLESSBean

variable {b : TrojanVLESSBean} {proxy_type : TrojanVLESSType}

/-- The items of a link, with a fingerprint. -/
lemma linkItems_eq (h : StreamLinked b.stream) : b.linkItems proxy_type =
    allItems [] (if proxy_type = .vless then vlessItems b.flow else []) b.stream b.stream.alpn b.stream.path := by
  have hfp : optionalItem "fp" b.stream.utlsFingerprint = [("fp", b.stream.utlsFingerprint)] :=
    if_neg h.utlsFingerprint
  rw [linkItems, hfp, allItems, streamItems, frontItems, headerItems]
  simp only [List.nil_append, List.cons_append, List.append_assoc]

lemma extra_vlessItems (proxy_type : TrojanVLESSType) (flow : String) : Extra [] (if proxy_type = .vless then vlessItems flow else []) := by
  refine ⟨?_⟩
  rw [List.nil_append]
  split_ifs
  · rw [vlessItems, List.map_append]
    exact (optionalItem_keys "flow" flow).append (List.Sublist.refl ["encryption"])
  · exact List.nil_sublist _

lemma proper_linkUrl (h : b.toAbstractBean.Located) : (b.linkUrl proxy_type).Proper where
  scheme := by
    change ∀ c ∈ ['#', '?', ':'], c ∉ (if proxy_type = .vless then "vless" else "trojan" : String).toList
    split_ifs
    · exact scheme_of_all (by decide)
    · exact scheme_of_all (by decide)
  host := h.host

/-- What is read of the security and the protocols, with a default. -/
def readBase (items : List (String × String)) (default : String) : V2rayStreamSettings :=
  { security := replaceAll (replaceAll
      (@getQueryValue genericUrl (plainQuery items) "security" default) "reality" "tls") "none" ""
    alpn := @getQueryValue genericUrl (plainQuery items) "alpn" "" }

/-- What is read of a Trojan link with these items. -/
def trojanRead (utlsFingerprint : String) (items : List (String × String)) (b : TrojanVLESSBean) : TrojanVLESSBean :=
  { ({} : TrojanVLESSBean) with
    name := @decodePercentEncodedText genericUrl b.name
    serverAddress := b.serverAddress
    serverPort := b.serverPort
    password := b.password
    stream := readStream utlsFingerprint (plainQuery items) (readBase items "tls") }

/-- What is read of a VLESS link with these items. -/
def vlessRead (utlsFingerprint : String) (items : List (String × String)) (b : TrojanVLESSBean) : TrojanVLESSBean :=
  { ({} : TrojanVLESSBean) with
    name := @decodePercentEncodedText genericUrl b.name
    serverAddress := b.serverAddress
    serverPort := b.serverPort
    password := b.password
    flow := @getQueryValue genericUrl (plainQuery items) "flow" ""
    stream :=
      { readStream utlsFingerprint (plainQuery items) (readBase items "") with
        packet_encoding := @getQueryValue genericUrl (plainQuery items) "packetEncoding" "" } }

lemma stream_trojanRead (utlsFingerprint : String) (items : List (String × String)) :
    (b.trojanRead utlsFingerprint items).stream =
      readStream utlsFingerprint (plainQuery items) (readBase items "tls") := by
  rw [trojanRead]

lemma tryParseLink_toShareLink_trojan (utlsFingerprint : String) (h : b.toAbstractBean.Located)
    (hpassword : b.password ≠ "") :
    @tryParseLink genericUrl .trojan utlsFingerprint {} (b.toShareLink .trojan) =
      some (b.trojanRead utlsFingerprint (b.linkItems .trojan)) := by
  have hport : (b.linkUrl .trojan).read.port = b.serverPort := LinkUrl.port_read h.port
  have hvalid : ¬(!(b.linkUrl .trojan).read.isValid) = true := Bool.false_ne_true
  have hcredentials : ¬((b.linkUrl .trojan).read.userName = "" ∨ (b.linkUrl .trojan).read.host = "") := by
    rw [not_or]
    exact ⟨hpassword, h.host.ne⟩
  have hname : (b.linkUrl .trojan).read.fragmentFullyDecoded = b.name := getD_nonEmpty _
  have hquery : (b.linkUrl .trojan).read.queryFullyDecoded = plainQuery (b.linkItems .trojan) := rfl
  have hset : b.serverPort ≠ -1 := by have := h.port; omega
  unfold tryParseLink trojanRead readBase readStream
  rw [toShareLink, parseUrlWithUnicodeFragment_text (proper_linkUrl h)]
  dsimp only
  rw [hport, hname, hquery, if_neg hvalid, if_neg hcredentials, if_neg hset]
  rfl

lemma vlessRead_eq (utlsFingerprint : String) (items : List (String × String)) :
    (b.vlessRead utlsFingerprint items).flow = itemValue items "flow" ∧
      (b.vlessRead utlsFingerprint items).stream =
        { readStream utlsFingerprint (plainQuery items) (readBase items "") with
          packet_encoding := @getQueryValue genericUrl (plainQuery items) "packetEncoding" "" } := by
  rw [vlessRead]
  dsimp only
  rw [getQueryValue_plainQuery items "flow"]
  exact ⟨rfl, rfl⟩

lemma tryParseLink_toShareLink_vless (utlsFingerprint : String) (h : b.toAbstractBean.Located)
    (hpassword : b.password ≠ "") :
    @tryParseLink genericUrl .vless utlsFingerprint {} (b.toShareLink .vless) =
      some (b.vlessRead utlsFingerprint (b.linkItems .vless)) := by
  have hport : (b.linkUrl .vless).read.port = b.serverPort := LinkUrl.port_read h.port
  have hvalid : ¬(!(b.linkUrl .vless).read.isValid) = true := Bool.false_ne_true
  have hcredentials : ¬((b.linkUrl .vless).read.userName = "" ∨ (b.linkUrl .vless).read.host = "") := by
    rw [not_or]
    exact ⟨hpassword, h.host.ne⟩
  have hname : (b.linkUrl .vless).read.fragmentFullyDecoded = b.name := getD_nonEmpty _
  have hquery : (b.linkUrl .vless).read.queryFullyDecoded = plainQuery (b.linkItems .vless) := rfl
  have hset : b.serverPort ≠ -1 := by have := h.port; omega
  unfold tryParseLink vlessRead readBase readStream
  rw [toShareLink, parseUrlWithUnicodeFragment_text (proper_linkUrl h)]
  dsimp only
  rw [hport, hname, hquery, if_neg hvalid, if_neg hcredentials, if_neg hset]
  rfl

end TrojanVLESSBean

/-! ### VMess -/

/-- A text with a question mark is not Base64. -/
lemma decodeB64IfValid_of_mem {input : String} {base64UrlEncoding : Bool} (h : '?' ∈ input.toList) :
    decodeB64IfValid input base64UrlEncoding = [] := by
  unfold decodeB64IfValid
  cases hdecode : Base64.decode base64UrlEncoding (toUtf8 input) with
  | none => rfl
  | some bs =>
    obtain ⟨front, back, hsplit⟩ := List.append_of_mem h
    have hmem : (63 : UInt8) ∈ toUtf8 input := by
      rw [toUtf8, hsplit, Utf8.encode_append, Utf8.encode_cons]
      exact List.mem_append_right _ (List.mem_append_left _ (by decide))
    rcases Base64.isDigit_of_decode hdecode hmem with hdigit | heq
    · cases base64UrlEncoding <;> exact absurd hdigit (by decide)
    · exact absurd heq (by decide)

/-- What is behind a text that is at the front. -/
lemma subStrAfter_append {sub : String} (hsub : sub ≠ "") (rest : String) : subStrAfter (sub ++ rest) sub = rest := by
  have hpre : sub.toList.isPrefixOf (sub.toList ++ rest.toList) = true :=
    List.isPrefixOf_iff_prefix.2 (List.prefix_append _ _)
  have hcut : Text.cutFirst sub.toList (sub.toList ++ rest.toList) = some ([], rest.toList) := by
    cases hlist : sub.toList ++ rest.toList with
    | nil => exact absurd (String.toList_inj.1 (List.append_eq_nil_iff.1 hlist).1) hsub
    | cons c cs =>
      rw [hlist] at hpre
      rw [Text.cutFirst, if_pos hpre, ← hlist, List.drop_left]
  rw [subStrAfter, Text.cut, String.toList_append, hcut, Option.map_some]
  exact String.ofList_toList

/-- The text of a URL begins with its scheme. -/
lemma exists_text_vmess (url : LinkUrl) (h : url.scheme = "vmess") : ∃ rest, url.text = "vmess://" ++ rest := by
  have hscheme : url.uri.scheme = "vmess".toList := congrArg String.toList h
  obtain ⟨rest, hrest⟩ : ∃ rest, url.uri.toText = "vmess://".toList ++ rest := by
    refine ⟨url.uri.userInfo ++ (url.uri.host ++ (Uri.part ':' (url.uri.port.map fun p => Nat.toDigits 10 p.val) ++
      (Uri.part '?' url.uri.query ++ Uri.part '#' (url.uri.fragment.map Uri.encode)))), ?_⟩
    rw [Uri.toText, hscheme]
    simp only [List.append_assoc]
    rfl
  refine ⟨String.ofList rest, ?_⟩
  rw [← String.toList_inj, String.toList_append]
  exact String.toList_ofList.trans (hrest.trans (congrArg _ String.toList_ofList.symm))

namespace VMessBean

variable {b : VMessBean}

/-- The items of a link, with a fingerprint. -/
lemma linkItems_eq (utlsFingerprint : String) (h : StreamLinked b.stream) :
    b.linkItems utlsFingerprint = allItems [("encryption", b.security)] [] b.stream "" "" := by
  have hempty : ∀ key, optionalItem key "" = [] := fun key => if_pos rfl
  rw [linkItems, if_neg h.utlsFingerprint, allItems, streamItems, frontItems, headerItems, hempty, hempty]
  simp only [List.nil_append, List.cons_append, List.append_assoc, List.append_nil]

lemma extra_encryption (security : String) : Extra [("encryption", security)] [] :=
  ⟨List.sublist_append_right ["flow"] ["encryption"]⟩

lemma proper_linkUrl (utlsFingerprint : String) (h : b.toAbstractBean.Located) :
    (b.linkUrl utlsFingerprint).Proper where
  scheme := by
    change ∀ c ∈ ['#', '?', ':'], c ∉ ("vmess" : String).toList
    exact scheme_of_all (by decide)
  host := h.host

/-- A link of the newer format is not one of the older: it has a query. -/
lemma decodeB64IfValid_toShareLink (utlsFingerprint : String) :
    decodeB64IfValid (subStrAfter (b.linkUrl utlsFingerprint).text "vmess://") false = [] := by
  obtain ⟨rest, hrest⟩ := exists_text_vmess (b.linkUrl utlsFingerprint) rfl
  rw [hrest, subStrAfter_append (by decide)]
  refine decodeB64IfValid_of_mem ?_
  have htext : "vmess://".toList ++ rest.toList = (b.linkUrl utlsFingerprint).uri.toText := by
    rw [← String.toList_append, ← hrest, LinkUrl.text, String.toList_ofList]
  have hmem : '?' ∈ (b.linkUrl utlsFingerprint).uri.toText := by
    rw [Uri.toText]
    exact List.mem_append_left _ (List.mem_append_right _ List.mem_cons_self)
  rw [← htext, List.mem_append] at hmem
  exact hmem.resolve_left (by decide)

/-- What is read of the security. -/
def readBase (items : List (String × String)) : V2rayStreamSettings :=
  { security := replaceAll (@getQueryValue genericUrl (plainQuery items) "security" "tls") "reality" "tls"
    packet_encoding := @getQueryValue genericUrl (plainQuery items) "packetEncoding" "" }

/-- What is read of a link of the newer format with these items. -/
def linkRead (utlsFingerprint : String) (items : List (String × String)) (b : VMessBean) : VMessBean :=
  { ({} : VMessBean) with
    name := @decodePercentEncodedText genericUrl b.name
    serverAddress := b.serverAddress
    serverPort := b.serverPort
    uuid := b.uuid
    aid := 0
    security := @getQueryValue genericUrl (plainQuery items) "encryption" "auto"
    stream := readStream utlsFingerprint (plainQuery items) (readBase items) }

lemma linkRead_eq (utlsFingerprint : String) (items : List (String × String)) :
    (b.linkRead utlsFingerprint items).security =
        (if itemValue items "encryption" = "" then "auto" else itemValue items "encryption") ∧
      (b.linkRead utlsFingerprint items).stream = readStream utlsFingerprint (plainQuery items) (readBase items) := by
  have hget : @getQueryValue genericUrl (plainQuery items) "encryption" "auto" =
      if itemValue items "encryption" = "" then "auto" else itemValue items "encryption" := by
    unfold getQueryValue itemValue
    rfl
  rw [linkRead]
  dsimp only
  rw [hget]
  exact ⟨rfl, rfl⟩

lemma tryParseLink_toShareLink [Qt] (utlsFingerprint : String) (h : b.toAbstractBean.Located) (huuid : b.uuid ≠ "") :
    @tryParseLink _ genericUrl utlsFingerprint {} (b.toShareLink false utlsFingerprint) =
      some (b.linkRead utlsFingerprint (b.linkItems utlsFingerprint)) := by
  have hport : (b.linkUrl utlsFingerprint).read.port = b.serverPort := LinkUrl.port_read h.port
  have hvalid : ¬(!(b.linkUrl utlsFingerprint).read.isValid) = true := Bool.false_ne_true
  have hcredentials :
      ¬((b.linkUrl utlsFingerprint).read.userName = "" ∨ (b.linkUrl utlsFingerprint).read.host = "") := by
    rw [not_or]
    exact ⟨huuid, h.host.ne⟩
  have hname : (b.linkUrl utlsFingerprint).read.fragmentFullyDecoded = b.name := getD_nonEmpty _
  have hquery : (b.linkUrl utlsFingerprint).read.queryFullyDecoded = plainQuery (b.linkItems utlsFingerprint) := rfl
  have hset : b.serverPort ≠ -1 := by have := h.port; omega
  have hlink : b.toShareLink false utlsFingerprint = (b.linkUrl utlsFingerprint).text := if_neg Bool.false_ne_true
  unfold tryParseLink linkRead readBase readStream
  rw [hlink, decodeB64IfValid_toShareLink, parseUrlWithUnicodeFragment_text (proper_linkUrl utlsFingerprint h)]
  dsimp only
  rw [hport, hname, hquery, if_neg (not_not.2 rfl), if_neg hvalid, if_neg hcredentials, if_neg hset]
  rfl

end VMessBean

/-! ### Round trips -/

lemma newBean_trojan : newBean "trojan" = some (.trojan {}) := rfl

lemma newBean_vless : newBean "vless" = some (.vless {}) := rfl

lemma newBean_vmess : newBean "vmess" = some (.vmess {}) := rfl

/-- What is read of the security of a link, where TLS is the default: it is always TLS. -/
lemma security_tls {items : List (String × String)} {stream : V2rayStreamSettings} (h : StreamLinked stream)
    (hvalue : itemValue items "security" = linkSecurity stream) :
    replaceAll (@getQueryValue genericUrl (plainQuery items) "security" "tls") "reality" "tls" = "tls" := by
  have hget : @getQueryValue genericUrl (plainQuery items) "security" "tls" =
      if linkSecurity stream = "" then "tls" else linkSecurity stream := by
    rw [← hvalue]
    unfold getQueryValue itemValue
    rfl
  rw [hget]
  by_cases hempty : linkSecurity stream = ""
  · rw [if_pos hempty]
    decide
  · rw [if_neg hempty, security_of_linkSecurity h]
    exact h.security.resolve_left fun heq => hempty ((linkSecurity_eq_empty_iff h).2 heq)

/-- What is read of the transport leaves the security and the protocols. -/
lemma readStream_base (utlsFingerprint : String) (items : List (String × String)) (base : V2rayStreamSettings) :
    (readStream utlsFingerprint (plainQuery items) base).security = base.security ∧
      (readStream utlsFingerprint (plainQuery items) base).alpn = base.alpn := by
  unfold readStream
  exact ⟨(transportFromQuery_frame _ _).2.1, (transportFromQuery_frame _ _).2.2.2.1⟩

lemma alpn_readStream (utlsFingerprint : String) (items : List (String × String)) (default : String) :
    (readStream utlsFingerprint (plainQuery items) (TrojanVLESSBean.readBase items default)).alpn =
      itemValue items "alpn" := by
  rw [(readStream_base _ _ _).2, TrojanVLESSBean.readBase]
  dsimp only
  rw [getQueryValue_plainQuery]

/-- What is read of the security of a Trojan link. -/
lemma security_trojan (utlsFingerprint : String) {items : List (String × String)} {stream : V2rayStreamSettings}
    (h : StreamLinked stream) (hvalue : itemValue items "security" = linkSecurity stream) :
    (readStream utlsFingerprint (plainQuery items) (TrojanVLESSBean.readBase items "tls")).security = "tls" := by
  rw [(readStream_base _ _ _).1, TrojanVLESSBean.readBase]
  dsimp only
  rw [security_tls h hvalue, replaceAll_none (Or.inr rfl)]

/-- What is read of the security of a VLESS link. -/
lemma security_vless (utlsFingerprint : String) {items : List (String × String)} {stream : V2rayStreamSettings}
    (h : StreamLinked stream) (hvalue : itemValue items "security" = linkSecurity stream) :
    (readStream utlsFingerprint (plainQuery items) (TrojanVLESSBean.readBase items "")).security = stream.security := by
  rw [(readStream_base _ _ _).1, TrojanVLESSBean.readBase]
  dsimp only
  rw [getQueryValue_plainQuery, hvalue, security_of_linkSecurity h, replaceAll_none h.security]

/-- What is read of the security of a VMess link. -/
lemma security_vmess (utlsFingerprint : String) {items : List (String × String)} {stream : V2rayStreamSettings}
    (h : StreamLinked stream) (hvalue : itemValue items "security" = linkSecurity stream) :
    (readStream utlsFingerprint (plainQuery items) (VMessBean.readBase items)).security = "tls" := by
  rw [(readStream_base _ _ _).1, VMessBean.readBase]
  dsimp only
  rw [security_tls h hvalue]

variable [Qt] {old_share_link_format : Bool}

lemma tryParseLink_trojan (utlsFingerprint : String) (b : TrojanVLESSBean) (link : String) :
    @Bean.tryParseLink _ genericUrl utlsFingerprint (.trojan b) link =
      (@TrojanVLESSBean.tryParseLink genericUrl .trojan utlsFingerprint b link).map .trojan := by
  unfold Bean.tryParseLink
  rfl

lemma tryParseLink_vless (utlsFingerprint : String) (b : TrojanVLESSBean) (link : String) :
    @Bean.tryParseLink _ genericUrl utlsFingerprint (.vless b) link =
      (@TrojanVLESSBean.tryParseLink genericUrl .vless utlsFingerprint b link).map .vless := by
  unfold Bean.tryParseLink
  rfl

lemma tryParseLink_vmess (utlsFingerprint : String) (b : VMessBean) (link : String) :
    @Bean.tryParseLink _ genericUrl utlsFingerprint (.vmess b) link =
      (@VMessBean.tryParseLink _ genericUrl utlsFingerprint b link).map .vmess := by
  unfold Bean.tryParseLink
  rfl

/-- A Trojan link. -/
lemma transport_restored_iff_trojan {b : TrojanVLESSBean} (h : (Bean.trojan b).TransportLinked old_share_link_format) :
    (∀ utlsFingerprint, (Bean.trojan b).ReadBack old_share_link_format utlsFingerprint Bean.TransportRestored) ↔
      (Bean.trojan b).TransportReady := by
  obtain ⟨hlocated, hpassword, hstream⟩ := h
  have hback : ∀ utlsFingerprint,
      (Bean.trojan b).ReadBack old_share_link_format utlsFingerprint Bean.TransportRestored ↔
      Bean.TransportRestored (.trojan b) (.trojan (b.trojanRead utlsFingerprint (b.linkItems .trojan))) :=
    fun utlsFingerprint => Bean.readBack_iff .trojan newBean_trojan rfl (tryParseLink_trojan utlsFingerprint _ _)
      (TrojanVLESSBean.tryParseLink_toShareLink_trojan utlsFingerprint hlocated hpassword)
  have hextra := TrojanVLESSBean.extra_vlessItems .trojan b.flow
  rw [TrojanVLESSBean.linkItems_eq hstream] at hback
  rw [forall_congr' hback]
  have hnone : ∀ item ∈ [] ++ (if TrojanVLESSType.trojan = .vless then vlessItems b.flow else []), Stable item.2 :=
    fun item hitem => absurd hitem List.not_mem_nil
  have hrestored : ∀ utlsFingerprint items,
      Bean.TransportRestored (.trojan b) (.trojan (b.trojanRead utlsFingerprint items)) ↔
        Plain b.name ∧
          (readStream utlsFingerprint (plainQuery items) (TrojanVLESSBean.readBase items "tls")).security =
            b.stream.security ∧
          itemValue items "alpn" = b.stream.alpn ∧
          SameStream b.stream (readStream utlsFingerprint (plainQuery items) (TrojanVLESSBean.readBase items "tls")) := by
    intro utlsFingerprint items
    have hserver : SameServer b.toAbstractBean (b.trojanRead utlsFingerprint items).toAbstractBean ↔ Plain b.name :=
      sameServer_iff rfl rfl rfl
    rw [Bean.TransportRestored, TrojanVLESSBean.stream_trojanRead, alpn_readStream, hserver]
    exact and_congr_right fun _ => and_iff_right rfl
  simp only [hrestored]
  constructor
  · intro hall
    obtain ⟨hname, hsecurity, halpn, hsame⟩ := hall ""
    obtain ⟨hready, hstable, -⟩ := ready_of_sameStream hextra hstream rfl rfl (Or.inl rfl) rfl
      hstream.utlsFingerprint.symm hsame (Or.inr halpn) fun item hitem => Or.inl (hnone item hitem)
    obtain ⟨hvalue, -, -⟩ := itemValue_of_ready hextra hstream hready hstable hnone
    rw [security_trojan "" hstream hvalue] at hsecurity
    exact ⟨hname, hsecurity.symm, hstable, hready⟩
  · intro hall utlsFingerprint
    obtain ⟨hname, hsecurity, hstable, hready⟩ := hall
    obtain ⟨hvalue, halpn, -⟩ := itemValue_of_ready hextra hstream hready hstable hnone
    refine ⟨hname, ?_, halpn, sameStream_of_ready hextra hstream rfl rfl hready hstable hnone⟩
    rw [security_trojan utlsFingerprint hstream hvalue, hsecurity]

omit [Qt] in
/-- A field that a link does not carry. -/
lemma sameStream_packet_encoding {stream stream' : V2rayStreamSettings} (packet_encoding : String) :
    SameStream stream { stream' with packet_encoding } ↔ SameStream stream stream' :=
  ⟨fun h => ⟨h.network, h.sni, h.allow_insecure, h.utlsFingerprint, h.reality, h.path, h.host, h.header_type⟩,
    fun h => ⟨h.network, h.sni, h.allow_insecure, h.utlsFingerprint, h.reality, h.path, h.host, h.header_type⟩⟩

/-- A VLESS link. -/
lemma transport_restored_iff_vless {b : TrojanVLESSBean} (h : (Bean.vless b).TransportLinked old_share_link_format) :
    (∀ utlsFingerprint, (Bean.vless b).ReadBack old_share_link_format utlsFingerprint Bean.TransportRestored) ↔
      (Bean.vless b).TransportReady := by
  obtain ⟨hlocated, hpassword, hstream⟩ := h
  have hback : ∀ utlsFingerprint,
      (Bean.vless b).ReadBack old_share_link_format utlsFingerprint Bean.TransportRestored ↔
      Bean.TransportRestored (.vless b) (.vless (b.vlessRead utlsFingerprint (b.linkItems .vless))) :=
    fun utlsFingerprint => Bean.readBack_iff .vless newBean_vless rfl (tryParseLink_vless utlsFingerprint _ _)
      (TrojanVLESSBean.tryParseLink_toShareLink_vless utlsFingerprint hlocated hpassword)
  have hextra := TrojanVLESSBean.extra_vlessItems .vless b.flow
  rw [TrojanVLESSBean.linkItems_eq hstream] at hback
  rw [if_pos rfl] at hback hextra
  rw [forall_congr' hback]
  have hrestored : ∀ utlsFingerprint items,
      Bean.TransportRestored (.vless b) (.vless (b.vlessRead utlsFingerprint items)) ↔
        Plain b.name ∧ itemValue items "flow" = b.flow ∧
          (readStream utlsFingerprint (plainQuery items) (TrojanVLESSBean.readBase items "")).security =
            b.stream.security ∧
          itemValue items "alpn" = b.stream.alpn ∧
          SameStream b.stream (readStream utlsFingerprint (plainQuery items) (TrojanVLESSBean.readBase items "")) := by
    intro utlsFingerprint items
    have hserver : SameServer b.toAbstractBean (b.vlessRead utlsFingerprint items).toAbstractBean ↔ Plain b.name :=
      sameServer_iff rfl rfl rfl
    rw [Bean.TransportRestored, (TrojanVLESSBean.vlessRead_eq utlsFingerprint items).1,
      (TrojanVLESSBean.vlessRead_eq utlsFingerprint items).2, sameStream_packet_encoding, hserver]
    dsimp only
    rw [alpn_readStream]
    exact and_congr_right fun _ => and_iff_right rfl
  simp only [hrestored]
  have hothers : (∀ item ∈ [] ++ vlessItems b.flow, Stable item.2) ↔ Stable b.flow := by
    rw [List.nil_append, vlessItems, List.forall_mem_append, forall_optionalItem, List.forall_mem_singleton]
    exact and_iff_left rfl
  have hflow : (lookup? [] "flow").or (lookup? (vlessItems b.flow) "flow") = nonEmpty b.flow := by
    rw [vlessItems]
    simp
  constructor
  · intro hall
    obtain ⟨hname, hread, hsecurity, halpn, hsame⟩ := hall ""
    have hkept : ∀ item ∈ [] ++ vlessItems b.flow, Stable item.2 ∨
        itemValue (allItems [] (vlessItems b.flow) b.stream b.stream.alpn b.stream.path) item.1 = item.2 := by
      intro item hitem
      rw [List.nil_append, vlessItems, List.mem_append, List.mem_singleton] at hitem
      rcases hitem with hitem | rfl
      · unfold optionalItem at hitem
        split_ifs at hitem
        · exact absurd hitem List.not_mem_nil
        · rw [List.mem_singleton] at hitem
          subst hitem
          exact Or.inr hread
      · exact Or.inl (show Stable "none" from rfl)
    obtain ⟨hready, hstable, hflow⟩ := ready_of_sameStream hextra hstream rfl rfl (Or.inl rfl) rfl
      hstream.utlsFingerprint.symm hsame (Or.inr halpn) hkept
    exact ⟨hname, hothers.1 hflow, hstable, hready⟩
  · intro hall utlsFingerprint
    obtain ⟨hname, hstable', hstable, hready⟩ := hall
    obtain ⟨hvalue, halpn, hextraValue⟩ := itemValue_of_ready hextra hstream hready hstable (hothers.2 hstable')
    refine ⟨hname, ?_, security_vless utlsFingerprint hstream hvalue, halpn,
      sameStream_of_ready hextra hstream rfl rfl hready hstable (hothers.2 hstable')⟩
    rw [hextraValue "flow" (by decide), hflow, getD_nonEmpty]

/-- A VMess link of the newer format. -/
lemma transport_restored_iff_vmess {b : VMessBean} (h : (Bean.vmess b).TransportLinked old_share_link_format) :
    (∀ utlsFingerprint, (Bean.vmess b).ReadBack old_share_link_format utlsFingerprint Bean.TransportRestored) ↔
      (Bean.vmess b).TransportReady := by
  obtain ⟨hlocated, huuid, haid, hstream, rfl⟩ := h
  have hextra := VMessBean.extra_encryption b.security
  have hback : ∀ utlsFingerprint,
      (Bean.vmess b).ReadBack false utlsFingerprint Bean.TransportRestored ↔
      Bean.TransportRestored (.vmess b)
        (.vmess (b.linkRead utlsFingerprint (allItems [("encryption", b.security)] [] b.stream "" ""))) := by
    intro utlsFingerprint
    rw [← VMessBean.linkItems_eq utlsFingerprint hstream]
    exact Bean.readBack_iff .vmess newBean_vmess rfl (tryParseLink_vmess utlsFingerprint _ _)
      (VMessBean.tryParseLink_toShareLink utlsFingerprint hlocated huuid)
  rw [forall_congr' hback]
  have hserver : ∀ utlsFingerprint items,
      SameServer b.toAbstractBean (b.linkRead utlsFingerprint items).toAbstractBean ↔ Plain b.name :=
    fun _ _ => sameServer_iff rfl rfl rfl
  have hothers : (∀ item ∈ [("encryption", b.security)] ++ [], Stable item.2) ↔ Stable b.security :=
    List.forall_mem_singleton
  constructor
  · intro hall
    obtain ⟨hname, -, -, hread, hsecurity, hsame⟩ := hall ""
    obtain ⟨hget, hbase⟩ := VMessBean.linkRead_eq (b := b) ""
      (allItems [("encryption", b.security)] [] b.stream "" "")
    rw [hbase] at hsame hsecurity
    rw [hget] at hread
    have hkept : ∀ item ∈ [("encryption", b.security)] ++ [], Stable item.2 ∨
        itemValue (allItems [("encryption", b.security)] [] b.stream "" "") item.1 = item.2 := by
      intro item hitem
      rw [List.append_nil, List.mem_singleton] at hitem
      subst hitem
      split_ifs at hread with hempty
      · exact Or.inl (hread ▸ show Stable "auto" from rfl)
      · exact Or.inr hread
    obtain ⟨hready, -, hstable⟩ := ready_of_sameStream hextra hstream rfl rfl (Or.inr rfl) rfl
      hstream.utlsFingerprint.symm hsame (Or.inl stable_empty) hkept
    obtain ⟨hvalue, -, hextraValue⟩ := itemValue_of_ready hextra hstream hready stable_empty hstable
    rw [security_vmess "" hstream hvalue] at hsecurity
    refine ⟨(hserver _ _).1 hname, hsecurity.symm, hothers.1 hstable, fun hempty => ?_, hready⟩
    have hnone : itemValue (allItems [("encryption", b.security)] [] b.stream "" "") "encryption" = "" := by
      rw [hextraValue "encryption" (by decide), hempty]
      rfl
    rw [if_pos hnone, hempty] at hread
    exact absurd hread (by decide)
  · intro hall utlsFingerprint
    obtain ⟨hname, hsecurity, hstable, hne, hready⟩ := hall
    obtain ⟨hget, hbase⟩ := VMessBean.linkRead_eq (b := b) utlsFingerprint
      (allItems [("encryption", b.security)] [] b.stream "" "")
    obtain ⟨hvalue, -, hextraValue⟩ := itemValue_of_ready hextra hstream hready stable_empty (hothers.2 hstable)
    have hread : itemValue (allItems [("encryption", b.security)] [] b.stream "" "") "encryption" = b.security := by
      rw [hextraValue "encryption" (by decide)]
      simp
    refine ⟨(hserver _ _).2 hname, rfl, haid.symm, ?_, ?_, ?_⟩
    · rw [hget, hread, if_neg hne]
    · rw [hbase, security_vmess utlsFingerprint hstream hvalue, hsecurity]
    · rw [hbase]
      exact sameStream_of_ready hextra hstream rfl rfl hready stable_empty (hothers.2 hstable)

omit [Qt]

/-- A server with a path. -/
def pathBean (path : String) : Bean :=
  .vless
    { serverAddress := "a.b"
      password := "p"
      stream := { network := "ws", path, utlsFingerprint := "chrome" } }

end Proxor.Fmt
