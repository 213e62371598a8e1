import Proxor.Fmt.BeanFromJson
import Proxor.Main.Restart

set_option relaxedAutoImplicit false
set_option autoImplicit false

/-!
# What a restart leaves of a bean

The bean of a profile that is loaded is a fresh one of its type, into which what was stored is read.

## Main definitions

* `Proxor.Fmt.Bean.restart` — a bean that was stored and is loaded.

## Main results

* `Proxor.Fmt.Bean.restart_eq` — it is `Proxor.Fmt.Bean.reload`, for every bean.
-/

namespace Proxor.Fmt

/-! ### The registered fields -/

/-- What every bean has is known from its fields. -/
lemma AbstractBean.items_inj {b b' : AbstractBean} : b.items = b'.items ↔ b = b' := by
  cases b
  cases b'
  simp [AbstractBean.items]

/-- So are the stream settings. -/
lemma V2rayStreamSettings.items_inj {b b' : V2rayStreamSettings} : b.items = b'.items ↔ b = b' := by
  cases b
  cases b'
  simp [V2rayStreamSettings.items]
  tauto

/-- So are the fields of a socks or HTTP bean. -/
lemma SocksHttpBean.items_inj {b b' : SocksHttpBean} (h : b.items = b'.items) : b = b' := by
  obtain ⟨hbase, hown⟩ := List.append_inj h rfl
  have hbase := AbstractBean.items_inj.1 hbase
  cases b
  cases b'
  simp [V2rayStreamSettings.items_inj] at hbase hown ⊢
  tauto

/-- So are the fields of a Shadowsocks bean. -/
lemma ShadowSocksBean.items_inj {b b' : ShadowSocksBean} (h : b.items = b'.items) : b = b' := by
  obtain ⟨hbase, hown⟩ := List.append_inj h rfl
  have hbase := AbstractBean.items_inj.1 hbase
  cases b
  cases b'
  simp [V2rayStreamSettings.items_inj] at hbase hown ⊢
  tauto

/-- So are the fields of a VMess bean. -/
lemma VMessBean.items_inj {b b' : VMessBean} (h : b.items = b'.items) : b = b' := by
  obtain ⟨hbase, hown⟩ := List.append_inj h rfl
  have hbase := AbstractBean.items_inj.1 hbase
  cases b
  cases b'
  simp [V2rayStreamSettings.items_inj] at hbase hown ⊢
  tauto

/-- So are the fields of a Trojan or VLESS bean. -/
lemma TrojanVLESSBean.items_inj {b b' : TrojanVLESSBean} (h : b.items = b'.items) : b = b' := by
  obtain ⟨hbase, hown⟩ := List.append_inj h rfl
  have hbase := AbstractBean.items_inj.1 hbase
  cases b
  cases b'
  simp [V2rayStreamSettings.items_inj] at hbase hown ⊢
  tauto

/-- So are the fields of a Naive bean. -/
lemma NaiveBean.items_inj {b b' : NaiveBean} (h : b.items = b'.items) : b = b' := by
  obtain ⟨hbase, hown⟩ := List.append_inj h rfl
  have hbase := AbstractBean.items_inj.1 hbase
  cases b
  cases b'
  simp at hbase hown ⊢
  tauto

/-- The chain is known from its fields. -/
lemma ChainBean.items_inj {b b' : ChainBean} (h : (Bean.chain b).items = (Bean.chain b').items) : b = b' := by
  obtain ⟨hbase, hown⟩ := List.append_inj h rfl
  have hbase := AbstractBean.items_inj.1 hbase
  cases b
  cases b'
  simp [Bean.base] at hbase hown ⊢
  tauto

/-- The fields that the other type registers. -/
def QUICBean.unregistered (proxy_type : QUICType) (b : QUICBean) : JsonStore :=
  match proxy_type with
  | .hysteria2 =>
    [("uuid", .string b.uuid), ("congestionControl", .string b.congestionControl),
      ("udpRelayMode", .string b.udpRelayMode), ("zeroRttHandshake", .boolean b.zeroRttHandshake),
      ("heartbeat", .string b.heartbeat), ("uos", .boolean b.uos)]
  | .tuic =>
    [("obfsPassword", .string b.obfsPassword), ("uploadMbps", .integer b.uploadMbps),
      ("downloadMbps", .integer b.downloadMbps), ("streamReceiveWindow", .integer64 b.streamReceiveWindow),
      ("connectionReceiveWindow", .integer64 b.connectionReceiveWindow),
      ("disableMtuDiscovery", .boolean b.disableMtuDiscovery), ("hopInterval", .integer b.hopInterval),
      ("hopPort", .string b.hopPort)]

/-- A Hysteria2 or TUIC bean is known from its fields and those of the other type. -/
lemma QUICBean.items_inj (proxy_type : QUICType) {b b' : QUICBean} (h : b.items proxy_type = b'.items proxy_type)
    (hother : b.unregistered proxy_type = b'.unregistered proxy_type) : b = b' := by
  cases proxy_type
  all_goals
    obtain ⟨hregistered, hshared⟩ := List.append_inj h rfl
    obtain ⟨hbase, hown⟩ := List.append_inj hregistered rfl
    have hbase := AbstractBean.items_inj.1 hbase
    cases b
    cases b'
    simp [QUICBean.unregistered] at hbase hown hshared hother ⊢
    tauto

/-- So are the fields of a custom bean. -/
lemma CustomBean.items_inj {b b' : CustomBean} (h : b.items = b'.items) : b = b' := by
  obtain ⟨hbase, hown⟩ := List.append_inj h rfl
  have hbase := AbstractBean.items_inj.1 hbase
  cases b
  cases b'
  simp at hbase hown ⊢
  tauto

/-- What comes back of the stream settings. -/
lemma V2rayStreamSettings.readBack (b : V2rayStreamSettings) :
    fieldsSameType ({} : V2rayStreamSettings).items b.items ∧
      fieldsReadBack ({} : V2rayStreamSettings).items b.items = b.reload.items := by
  constructor
  · simp [V2rayStreamSettings.items, fieldsSameType, fieldSameType, Item.SameType]
  · simp [V2rayStreamSettings.items, V2rayStreamSettings.reload, fieldsReadBack, fieldReadBack, Item.readBack, readText]

/-- **What comes back of the fields** of a bean is what its reload has. -/
lemma Bean.readBack (b : Bean) : ∃ fresh, newBean b.type = some fresh ∧ fieldsSameType fresh.items b.items ∧
    fieldsReadBack fresh.items b.items = b.reload.items := by
  have hstream := V2rayStreamSettings.readBack
  -- every kind registers fields of its own, and each of them is computed
  cases b <;> refine ⟨_, rfl, ?_, ?_⟩
  all_goals simp [Bean.items, Bean.base, AbstractBean.items, SocksHttpBean.items, ShadowSocksBean.items,
    VMessBean.items, TrojanVLESSBean.items, NaiveBean.items, QUICBean.items, CustomBean.items, Bean.reload,
    SocksHttpBean.reload, TrojanVLESSBean.reload, AbstractBean.reload, fieldsSameType, fieldSameType, Item.SameType,
    fieldsReadBack, fieldReadBack, Item.readBack, readText, hstream]

/-- A bean that was stored and is loaded: it is read into a fresh one of its type. -/
def Bean.restart (b : Bean) : Option Bean := (newBean b.type).map fun fresh => fresh.fromJson b.toJson

/-- A bean that is read back is of its type, and the next time it comes back as it is. -/
lemma Bean.reload_reload (b : Bean) : b.reload.type = b.type ∧ b.reload.reload = b.reload := by
  have htext : ∀ s default, readText (readText s default) default = readText s default := by
    intro s default
    unfold readText
    split_ifs <;> simp_all
  have hint : ∀ n, toInt (toInt n) = toInt n := by
    intro n
    by_cases hn : -2 ^ 31 ≤ n ∧ n < 2 ^ 31
    · have heq : toInt n = n := if_pos hn
      rw [heq, heq]
    · have heq : toInt n = 0 := if_neg hn
      rw [heq]
      rfl
  cases b <;> refine ⟨rfl, ?_⟩
  all_goals simp [Bean.reload, SocksHttpBean.reload, TrojanVLESSBean.reload, AbstractBean.reload,
    V2rayStreamSettings.reload, htext, hint, toDouble_toDouble]

/-- A bean that is stored and loaded: the registered fields come back one by one, and a bean is known from them, apart
from the fields that its type does not register. -/
lemma Bean.restart_eq_reload (b : Bean) : b.restart = some b.reload := by
  obtain ⟨fresh, hfresh, htype, hback⟩ := b.readBack
  have hitems : (fresh.fromJson b.toJson).items = b.reload.items := by
    rw [Bean.items_fromJson, ← hback]
    exact JsonStore.restart_eq_fieldsReadBack htype
  rw [Bean.restart, hfresh, Option.map_some]
  congr 1
  cases b with
  | socks b =>
    cases hfresh
    exact congrArg Bean.socks (SocksHttpBean.items_inj hitems)
  | http b =>
    cases hfresh
    exact congrArg Bean.http (SocksHttpBean.items_inj hitems)
  | shadowsocks b =>
    cases hfresh
    exact congrArg Bean.shadowsocks (ShadowSocksBean.items_inj hitems)
  | chain b =>
    cases hfresh
    exact congrArg Bean.chain (ChainBean.items_inj hitems)
  | vmess b =>
    cases hfresh
    exact congrArg Bean.vmess (VMessBean.items_inj hitems)
  | trojan b =>
    cases hfresh
    exact congrArg Bean.trojan (TrojanVLESSBean.items_inj hitems)
  | vless b =>
    cases hfresh
    exact congrArg Bean.vless (TrojanVLESSBean.items_inj hitems)
  | naive b =>
    cases hfresh
    exact congrArg Bean.naive (NaiveBean.items_inj hitems)
  | hysteria2 b =>
    cases hfresh
    exact congrArg Bean.hysteria2 (QUICBean.items_inj .hysteria2 hitems rfl)
  | tuic b =>
    cases hfresh
    exact congrArg Bean.tuic (QUICBean.items_inj .tuic hitems rfl)
  | custom b =>
    cases hfresh
    exact congrArg Bean.custom (CustomBean.items_inj hitems)

/-- **A profile after a restart.** The bean of a profile that is stored and loaded is what its reload says, for every
bean of every type: a text that is not stored is that of a fresh bean, and so is a field that is not registered.
Another restart gives the same bean.

**Proof sketch.** A bean is known from its registered fields, and what is read back of them is read back as it is. -/
theorem Bean.restart_eq (b : Bean) : b.restart = some b.reload ∧ b.reload.restart = some b.reload := by
  exact ⟨b.restart_eq_reload, by rw [b.reload.restart_eq_reload, b.reload_reload.2]⟩

end Proxor.Fmt
