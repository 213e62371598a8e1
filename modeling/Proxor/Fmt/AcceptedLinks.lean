import Proxor.Fmt.Link2Bean
import Proxor.Db.ExternalHop

set_option relaxedAutoImplicit false
set_option autoImplicit false

/-!
# What is accepted as a link

A bean is usable if it has an address, a port and what its server asks for. Not every link that is
accepted makes such a bean, and the parts of the link tell which do.

## Main definitions

* `Proxor.Fmt.Bean.Usable` — a bean with an address, a port and a credential.
* `Proxor.Fmt.Bean.GoodLink` — the links of which a bean makes a usable one, if it accepts them.

## Main results

* `Proxor.Fmt.Bean.usable_iff_goodLink` — exactly these are accepted without harm.
* `Proxor.Fmt.Bean.not_usable_of_accepted` — others are accepted.
-/

namespace Proxor.Fmt

open Db (quicBean)

/-! ### Usable beans -/

/-- The bean has what its server asks for. -/
def Bean.HasCredential : Bean → Prop
  | .shadowsocks b => b.method ≠ "" ∧ b.password ≠ ""
  | .vmess b => b.uuid ≠ ""
  | .trojan b | .vless b => b.password ≠ ""
  | .naive b => b.password ≠ ""
  | .hysteria2 b => b.password ≠ ""
  | .tuic b => b.uuid ≠ "" ∨ b.password ≠ ""
  | .socks _ | .http _ | .chain _ | .custom _ => True

/-- The bean has an address, a port and a credential. -/
structure Bean.Usable (bean : Bean) : Prop where
  address : bean.base.serverAddress ≠ ""
  port : 1 ≤ bean.base.serverPort ∧ bean.base.serverPort ≤ 65535
  credential : bean.HasCredential

/-! ### Links that make usable beans -/

/-- The link may have no port, where there is one by default. -/
def PortOrDefault (url : QUrl) : Prop := url.port? ≠ some 0

/-- The link must have a port. -/
def HasPort (url : QUrl) : Prop := url.port? ≠ none ∧ url.port? ≠ some 0

/-- A port by default is a port. -/
lemma portOrDefault_iff {url : QUrl} {default : ℤ} (hdefault : 1 ≤ default ∧ default ≤ 65535) :
    PortOrDefault url ↔ 1 ≤ (if url.port = -1 then default else url.port) ∧
      (if url.port = -1 then default else url.port) ≤ 65535 := by
  unfold PortOrDefault QUrl.port
  cases hport : url.port? with
  | none =>
    dsimp only
    rw [if_pos rfl]
    exact iff_of_true (Option.some_ne_none _).symm hdefault
  | some p =>
    have hp := p.isLt
    dsimp only
    rw [if_neg (by omega), Ne, Option.some.injEq, Fin.ext_iff, Fin.val_zero]
    omega

lemma hasPort_iff {url : QUrl} : HasPort url ↔ 1 ≤ url.port ∧ url.port ≤ 65535 := by
  unfold HasPort QUrl.port
  cases hport : url.port? with
  | none =>
    dsimp only
    exact iff_of_false (fun h => h.1 rfl) (by omega)
  | some p =>
    have hp := p.isLt
    dsimp only
    rw [Ne, Ne, Option.some.injEq, Fin.ext_iff, Fin.val_zero]
    constructor
    · rintro ⟨-, h⟩
      omega
    · intro h
      exact ⟨Option.some_ne_none _, by omega⟩

lemma port_eq_neg_one_iff {url : QUrl} : url.port = -1 ↔ url.port? = none := by
  unfold QUrl.port
  cases url.port? with
  | none => exact iff_of_true rfl rfl
  | some p => exact iff_of_false (by dsimp only; omega) (Option.some_ne_none p)

/-- Where a port must be there, it is enough that it is not zero. -/
lemma portOrDefault_iff_port {url : QUrl} (hport : url.port? ≠ none) :
    PortOrDefault url ↔ 1 ≤ url.port ∧ url.port ≤ 65535 := by
  rw [← hasPort_iff]
  exact ⟨fun h => ⟨hport, h⟩, And.right⟩

/-- The default port of SOCKS and HTTP. -/
lemma socksHttpPort (socks_http_type : ℤ) : 1 ≤ (if socks_http_type = type_HTTP then (443 : ℤ) else 1080) ∧
    (if socks_http_type = type_HTTP then (443 : ℤ) else 1080) ≤ 65535 := by
  split_ifs <;> decide

/-! ### Beans of one type -/

lemma base_quicBean (proxy_type : QUICType) (b : QUICBean) :
    (quicBean proxy_type b).base = b.toAbstractBean := by
  cases proxy_type <;> rfl

/-- The password of a Hysteria2 link is empty if both of its parts are. -/
lemma hysteria2Password_ne {userName password : String} :
    (if password = "" then userName else userName ++ ":" ++ password) ≠ "" ↔ userName ≠ "" ∨ password ≠ "" := by
  split_ifs with h
  · exact ⟨Or.inl, fun hor => hor.resolve_right fun hne => hne h⟩
  · refine iff_of_true (fun heq => ?_) (.inr h)
    have hlength := congrArg (fun s => s.toList) heq
    rw [String.toList_append, String.toList_append] at hlength
    exact List.cons_ne_nil _ _ (List.append_eq_nil_iff.1 (List.append_eq_nil_iff.1 hlength).1).2

/-- A link with a known scheme must have a credential, and a port that is not zero. -/
lemma QUICBean.usable_iff_of_eq {proxy_type : QUICType} {a : QUICBean} {url : QUrl} {credential : Prop}
    (haddress : a.serverAddress = url.host) (hport : a.serverPort = url.port)
    (hcredential : (quicBean proxy_type a).HasCredential ↔ credential) :
    (∀ b', url.host ≠ "" → url.port? ≠ none → a = b' → (quicBean proxy_type b').Usable) ↔
      (url.host ≠ "" → url.port? ≠ none → PortOrDefault url ∧ credential) := by
  constructor
  · intro h hhost hsome
    obtain ⟨-, hrange, hhas⟩ := h a hhost hsome rfl
    rw [base_quicBean, hport] at hrange
    exact ⟨(portOrDefault_iff_port hsome).2 hrange, hcredential.1 hhas⟩
  · rintro h b' hhost hsome rfl
    obtain ⟨hzero, hhas⟩ := h hhost hsome
    refine ⟨?_, ?_, hcredential.2 hhas⟩
    · rw [base_quicBean, haddress]
      exact hhost
    · rw [base_quicBean, hport]
      exact (portOrDefault_iff_port hsome).1 hzero

/-- What holds of the beans of one type. -/
lemma forall_map_eq_some {α : Type} {o : Option α} {wrap : α → Bean} {P : Bean → Prop} :
    (∀ bean, o.map wrap = some bean → P bean) ↔ ∀ a, o = some a → P (wrap a) := by
  constructor
  · rintro h a rfl
    exact h _ rfl
  · intro h bean hbean
    obtain ⟨a, ha, rfl⟩ := Option.map_eq_some_iff.1 hbean
    exact h a ha

section Links

variable [QtUrl]

/-- A link of a SOCKS or HTTP server. -/
def GoodSocksHttpLink (link : String) : Prop :=
  let url := parseUrlWithUnicodeFragment link
  url.isValid → url.host ≠ "" → PortOrDefault url

/-- A link of a server with a user: Trojan, VLESS, and VMess in the newer format. -/
def GoodUserLink (link : String) : Prop :=
  let url := parseUrlWithUnicodeFragment link
  url.isValid → url.userName ≠ "" → url.host ≠ "" → PortOrDefault url

/-- A Shadowsocks link. There is no port by default. -/
def GoodShadowSocksLink (link : String) : Prop :=
  if Text.contains (subStrBefore link "#") "@" then
    let url := parseUrlWithUnicodeFragment link
    url.isValid → ∀ method password, shadowsocksUser url = some (method, password) →
      url.host ≠ "" → method ≠ "" → password ≠ "" → HasPort url
  else
    ∀ url, decodeV2rayN link = some url →
      url.host ≠ "" → url.userName ≠ "" → url.password ≠ "" → HasPort url

/-- A VMess link. The fields of an object in the format of v2rayN must be there. -/
def GoodVMessLink [Qt] (link : String) : Prop :=
  let linkN := decodeB64IfValid (subStrAfter link "vmess://") false
  if linkN ≠ [] then
    let objN := qString2QJsonObject linkN
    objN ≠ [] → objText objN "add" ≠ "" ∧ (1 ≤ objInt objN "port" ∧ objInt objN "port" ≤ 65535) ∧
      objText objN "id" ≠ ""
  else GoodUserLink link

/-- A Naive link. There is no port by default. -/
def GoodNaiveLink (link : String) : Prop :=
  let url := parseUrlWithUnicodeFragment link
  url.isValid → (naiveProtocol url = "https" ∨ naiveProtocol url = "quic") →
    url.userName ≠ "" → url.password ≠ "" → url.host ≠ "" → HasPort url

/-- A Hysteria2 or TUIC link that is parsed into a bean. A credential must be there, and with a scheme
that is not known the bean must have been usable. -/
def GoodQUICLink (proxy_type : QUICType) (b : QUICBean) (link : String) : Prop :=
  let url := parseUrlWithUnicodeFragment link
  url.host ≠ "" → url.port? ≠ none →
    if url.scheme = "tuic" then
      PortOrDefault url ∧ match proxy_type with
        | .hysteria2 => url.password ≠ ""
        | .tuic => url.userName ≠ "" ∨ url.password ≠ ""
    else if url.scheme = "hy2" ∨ url.scheme = "hysteria2" then
      PortOrDefault url ∧ match proxy_type with
        | .hysteria2 => url.userName ≠ "" ∨ url.password ≠ ""
        | .tuic => b.uuid ≠ "" ∨ url.userName ≠ "" ∨ url.password ≠ ""
    else (quicBean proxy_type b).Usable

/-- A link of which a bean makes a usable one, if it accepts it. -/
def Bean.GoodLink [Qt] : Bean → String → Prop
  | .socks _, link | .http _, link => GoodSocksHttpLink link
  | .shadowsocks _, link => GoodShadowSocksLink link
  | .vmess _, link => GoodVMessLink link
  | .trojan _, link | .vless _, link => GoodUserLink link
  | .naive _, link => GoodNaiveLink link
  | .hysteria2 b, link => GoodQUICLink .hysteria2 b link
  | .tuic b, link => GoodQUICLink .tuic b link
  | .chain _, _ | .custom _, _ => True

/-! ### What is accepted -/

/-- A SOCKS or HTTP link is accepted if it has a host. -/
lemma SocksHttpBean.usable_iff {b : SocksHttpBean} {link : String} (wrap : SocksHttpBean → Bean)
    (hbase : ∀ b, (wrap b).base = b.toAbstractBean) (hcredential : ∀ b, (wrap b).HasCredential) :
    (∀ b', b.tryParseLink link = some b' → (wrap b').Usable) ↔ GoodSocksHttpLink link := by
  simp only [SocksHttpBean.tryParseLink, GoodSocksHttpLink, Option.ite_none_left_eq_some, Bool.not_eq_true',
    Bool.not_eq_false, Option.some.injEq, and_imp]
  constructor
  · intro h hvalid hhost
    have hport := (h _ hvalid hhost rfl).port
    rw [hbase] at hport
    exact (portOrDefault_iff (socksHttpPort _)).2 hport
  · rintro h b' hvalid hhost rfl
    refine ⟨?_, ?_, hcredential _⟩
    · rw [hbase]
      exact hhost
    · rw [hbase]
      exact (portOrDefault_iff (socksHttpPort _)).1 (h hvalid hhost)

section User

variable {α : Type} {o : Option α} {a : α} {wrap : α → Bean} {link : String}

/-- A link of a server with a user is accepted if it has a user and a host. -/
lemma usable_iff_goodUserLink
    (ho : o =
      if !(parseUrlWithUnicodeFragment link).isValid then none
      else if (parseUrlWithUnicodeFragment link).userName = "" ∨ (parseUrlWithUnicodeFragment link).host = "" then
        none
      else some a)
    (haddress : (wrap a).base.serverAddress = (parseUrlWithUnicodeFragment link).host)
    (hport : (wrap a).base.serverPort =
      if (parseUrlWithUnicodeFragment link).port = -1 then 443 else (parseUrlWithUnicodeFragment link).port)
    (hcredential : (parseUrlWithUnicodeFragment link).userName ≠ "" → (wrap a).HasCredential) :
    (∀ a', o = some a' → (wrap a').Usable) ↔ GoodUserLink link := by
  have hdefault : 1 ≤ (443 : ℤ) ∧ (443 : ℤ) ≤ 65535 := by decide
  simp only [ho, GoodUserLink, Option.ite_none_left_eq_some, Bool.not_eq_true', Bool.not_eq_false,
    Option.some.injEq, and_imp, not_or]
  constructor
  · intro h hvalid huser hhost
    have husable := (h _ hvalid huser hhost rfl).port
    rw [hport] at husable
    exact (portOrDefault_iff hdefault).2 husable
  · rintro h a' hvalid huser hhost rfl
    refine ⟨?_, ?_, hcredential huser⟩
    · rw [haddress]
      exact hhost
    · rw [hport]
      exact (portOrDefault_iff hdefault).1 (h hvalid huser hhost)

end User

/-- A VMess link in the newer format is accepted as one of a server with a user is. One in the format of
v2rayN is accepted if its object has a field. -/
lemma VMessBean.usable_iff [Qt] {utlsFingerprint : String} {b : VMessBean} {link : String} :
    (∀ b', b.tryParseLink utlsFingerprint link = some b' → (Bean.vmess b').Usable) ↔
      GoodVMessLink link := by
  unfold VMessBean.tryParseLink GoodVMessLink
  dsimp only
  by_cases hlinkN : decodeB64IfValid (subStrAfter link "vmess://") false ≠ []
  · rw [if_pos hlinkN, if_pos hlinkN]
    simp only [Option.ite_none_left_eq_some, Option.some.injEq, and_imp]
    constructor
    · intro h hobj
      obtain ⟨haddress, hport, hid⟩ := h _ hobj rfl
      exact ⟨haddress, hport, hid⟩
    · rintro h b' hobj rfl
      obtain ⟨haddress, hport, hid⟩ := h hobj
      exact ⟨haddress, hport, hid⟩
  · rw [if_neg hlinkN, if_neg hlinkN]
    exact usable_iff_goodUserLink rfl rfl rfl id

/-- A Shadowsocks link is accepted if it has a host, a method and a password. -/
lemma ShadowSocksBean.usable_iff {b : ShadowSocksBean} {link : String} :
    (∀ b', b.tryParseLink link = some b' → (Bean.shadowsocks b').Usable) ↔ GoodShadowSocksLink link := by
  unfold ShadowSocksBean.tryParseLink GoodShadowSocksLink
  dsimp only
  by_cases hat : Text.contains (subStrBefore link "#") "@" = true
  · rw [if_pos hat, if_pos hat]
    cases huser : shadowsocksUser (parseUrlWithUnicodeFragment link) with
    | none =>
      refine iff_of_true ?_ fun _ _ _ h => absurd h.symm (Option.some_ne_none _)
      intro b' h
      rw [ite_self] at h
      exact absurd h.symm (Option.some_ne_none _)
    | some user =>
      obtain ⟨method, password⟩ := user
      simp only [Option.ite_none_left_eq_some, Bool.not_eq_true', Bool.not_eq_false, Option.some.injEq,
        and_imp, not_or, Prod.mk.injEq]
      constructor
      · rintro h hvalid _ _ rfl rfl hhost hmethod hpassword
        exact hasPort_iff.2 (h _ hvalid hhost hmethod hpassword rfl).port
      · rintro h b' hvalid hhost hmethod hpassword rfl
        exact ⟨hhost, hasPort_iff.1 (h hvalid _ _ rfl rfl hhost hmethod hpassword), hmethod, hpassword⟩
  · rw [if_neg hat, if_neg hat]
    cases decodeV2rayN link with
    | none =>
      exact iff_of_true (fun _ h => absurd h.symm (Option.some_ne_none _))
        fun _ h => absurd h.symm (Option.some_ne_none _)
    | some url =>
      simp only [Option.ite_none_left_eq_some, Option.some.injEq, and_imp, not_or]
      constructor
      · rintro h _ rfl hhost hmethod hpassword
        exact hasPort_iff.2 (h _ hhost hmethod hpassword rfl).port
      · rintro h b' hhost hmethod hpassword rfl
        exact ⟨hhost, hasPort_iff.1 (h _ rfl hhost hmethod hpassword), hmethod, hpassword⟩

/-- A Naive link is accepted if it has one of two protocols, a user with a password and a host. -/
lemma NaiveBean.usable_iff {b : NaiveBean} {link : String} :
    (∀ b', b.tryParseLink link = some b' → (Bean.naive b').Usable) ↔ GoodNaiveLink link := by
  simp only [NaiveBean.tryParseLink, GoodNaiveLink, Option.ite_none_left_eq_some, Bool.not_eq_true',
    Bool.not_eq_false, Option.some.injEq, and_imp, not_or, not_and_or, not_not, ne_eq]
  constructor
  · intro h hvalid hprotocol huser hpassword hhost
    exact hasPort_iff.2 (h _ hvalid hprotocol huser hpassword hhost rfl).port
  · rintro h b' hvalid hprotocol huser hpassword hhost rfl
    exact ⟨hhost, hasPort_iff.1 (h hvalid hprotocol huser hpassword hhost), hpassword⟩

/-- A Hysteria2 or TUIC link is accepted if it has a host and a port. -/
lemma QUICBean.usable_iff (proxy_type : QUICType) {b : QUICBean} {link : String} :
    (∀ b', b.tryParseLink link = some b' → (quicBean proxy_type b').Usable) ↔
      GoodQUICLink proxy_type b link := by
  unfold QUICBean.tryParseLink GoodQUICLink
  simp only [Option.ite_none_left_eq_some, not_or, and_imp, port_eq_neg_one_iff]
  by_cases htuic : (parseUrlWithUnicodeFragment link).scheme = "tuic"
  · rw [if_pos htuic, if_pos htuic]
    simp only [Option.some.injEq]
    refine QUICBean.usable_iff_of_eq rfl rfl ?_
    cases proxy_type <;> exact Iff.rfl
  · rw [if_neg htuic, if_neg htuic]
    by_cases hhysteria : (parseUrlWithUnicodeFragment link).scheme = "hy2" ∨
        (parseUrlWithUnicodeFragment link).scheme = "hysteria2"
    · rw [if_pos hhysteria, if_pos hhysteria]
      simp only [Option.some.injEq]
      refine QUICBean.usable_iff_of_eq rfl rfl ?_
      cases proxy_type with
      | hysteria2 => exact hysteria2Password_ne
      | tuic => exact or_congr_right hysteria2Password_ne
    · rw [if_neg hhysteria, if_neg hhysteria]
      simp only [Option.some.injEq]
      constructor
      · intro h hhost hport
        exact h b hhost hport rfl
      · rintro h b' hhost hport rfl
        exact h hhost hport

/-- **Accepted links.** What a bean makes of a link, if it accepts it, is usable exactly if the link has the
parts that nobody asks for: a port that is not zero, where none is filled in; the fields of a VMess object;
and for Hysteria2 and TUIC, a known scheme and a credential.

**Proof sketch.** By the type of the bean, whose parser accepts a link by other parts. -/
theorem Bean.usable_iff_goodLink [Qt] (utlsFingerprint : String) (bean : Bean) (link : String) :
    (∀ bean', bean.tryParseLink utlsFingerprint link = some bean' → bean'.Usable) ↔ bean.GoodLink link := by
  cases bean with
  | socks b => exact forall_map_eq_some.trans (SocksHttpBean.usable_iff .socks (fun _ => rfl) fun _ => trivial)
  | http b => exact forall_map_eq_some.trans (SocksHttpBean.usable_iff .http (fun _ => rfl) fun _ => trivial)
  | shadowsocks b => exact forall_map_eq_some.trans ShadowSocksBean.usable_iff
  | chain b => exact iff_of_true (fun _ h => absurd h.symm (Option.some_ne_none _)) trivial
  | vmess b => exact forall_map_eq_some.trans VMessBean.usable_iff
  | trojan b => exact forall_map_eq_some.trans (usable_iff_goodUserLink rfl rfl rfl id)
  | vless b => exact forall_map_eq_some.trans (usable_iff_goodUserLink rfl rfl rfl id)
  | naive b => exact forall_map_eq_some.trans NaiveBean.usable_iff
  | hysteria2 b => exact forall_map_eq_some.trans (QUICBean.usable_iff .hysteria2)
  | tuic b => exact forall_map_eq_some.trans (QUICBean.usable_iff .tuic)
  | custom b => exact iff_of_true (fun _ h => absurd h.symm (Option.some_ne_none _)) trivial

end Links

/-- **Others are accepted.** A link with port zero gives a bean that cannot be used. -/
theorem Bean.not_usable_of_accepted :
    ¬ ∀ (_ : Qt) (_ : QtUrl) (utlsFingerprint : String) (bean : Bean) (link : String) (bean' : Bean),
      bean.tryParseLink utlsFingerprint link = some bean' → bean'.Usable := by
  intro h
  let _ := genericUrl
  let b : SocksHttpBean := { socks_http_type := type_Socks5 }
  have husable : ∀ b', b.tryParseLink "socks5://a:0" = some b' → (Bean.socks b').Usable := fun b' hb' =>
    h Db.plainQt genericUrl "" (.socks b) "socks5://a:0" (.socks b') (Option.map_eq_some_iff.2 ⟨b', hb', rfl⟩)
  have hgood : GoodSocksHttpLink "socks5://a:0" :=
    (SocksHttpBean.usable_iff .socks (fun _ => rfl) fun _ => trivial).1 husable
  have hzero : (parseUrlWithUnicodeFragment "socks5://a:0").port? = some 0 := by decide +kernel
  exact hgood (by decide +kernel) (by decide +kernel) hzero

end Proxor.Fmt
