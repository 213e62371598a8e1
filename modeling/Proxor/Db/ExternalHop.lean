import Proxor.Db.ChainBuilder

set_option relaxedAutoImplicit false
set_option autoImplicit false

/-!
# Where another core connects

A server of a chain whose core is another one is to be reached through the mapping inbound, unless the
core connects itself.

## Main definitions

* `Proxor.Db.dials` — where a core connects, by its configuration.
* `Proxor.Db.HopKept` — a core connects where the chain needs it to.

## Main results

* `Proxor.Db.hopKept_iff` — it does exactly if it need not be reached through a mapping and its ports
  are written as the core reads them.
* `Proxor.Db.not_hopKept` — so a hop of a chain may be bypassed.
-/

namespace Proxor.Db

open Fmt (Bean FileText QUICBean QUICType)
open ProfileManager (trimmed)

/-- A bean of either kind. -/
def quicBean (proxy_type : QUICType) (b : QUICBean) : Bean :=
  match proxy_type with
  | .hysteria2 => .hysteria2 b
  | .tuic => .tuic b

/-- An address as a core reads it: the host without brackets, and the ports. -/
def hostPorts (s : String) : Option (String × String) :=
  (Text.cutAtLast s ":").map fun p => (unwrapIPV6Host p.1, p.2)

/-- Where a core connects, by its configuration: to `server`, but the TUIC core to the host `ip` of
its `relay` if there is one. -/
def dials (proxy_type : QUICType) : FileText → Option (String × String)
  | .json config =>
    match proxy_type with
    | .hysteria2 => (config.get? "server").bind fun server => hostPorts (jsonToString server)
    | .tuic =>
      (config.get? "relay").bind fun relay =>
        ((jsonToObject relay).get? "server").bind fun server =>
          (hostPorts (jsonToString server)).map fun p =>
            (match (jsonToObject relay).get? "ip" with
              | some ip => unwrapIPV6Host (jsonToString ip)
              | none => p.1, p.2)
  | .plain _ => none

/-- The server of a bean: its host without brackets, and its ports. -/
def serverOf (proxy_type : QUICType) (b : QUICBean) : String × String :=
  (unwrapIPV6Host b.serverAddress,
    if proxy_type = .hysteria2 ∧ trimmed b.hopPort ≠ "" then b.hopPort
    else int2String b.serverPort)

/-- The core of an element of a chain of `n` connects to the mapping inbound and not to the server if
it is to be reached through the former (1), and to the server if it connects itself (2). -/
def HopKept [Qt] (env : BuildEnv) (s : Settings) (n index : ℕ) (proxy_type : QUICType)
    (b : QUICBean) : Prop :=
  let bean := quicBean proxy_type b
  let stat := bean.needExternal s.spmode_vpn (decide (index + 1 = n))
  let ports := externalPorts env index bean
  let extR := bean.buildExternal (extraCore s) (env.files index) ports.1 ports.2 stat
  (stat = 1 → dials proxy_type extR.config_export = some ("127.0.0.1", int2String ports.1) ∧
      dials proxy_type extR.config_export ≠ some (serverOf proxy_type b)) ∧
    (stat = 2 → dials proxy_type extR.config_export = some (serverOf proxy_type b))

/-! ### Addresses -/

lemma toList_unwrapIPV6Host (s : String) :
    (unwrapIPV6Host s).toList = s.toList.filter fun c => c ≠ '[' ∧ c ≠ ']' :=
  String.toList_ofList

/-- Brackets around a host do not matter. -/
lemma unwrap_wrapIPV6Host [Qt] (s : String) : unwrapIPV6Host (wrapIPV6Host s) = unwrapIPV6Host s := by
  rw [wrapIPV6Host]
  split_ifs
  · rw [unwrapIPV6Host, String.toList_append, String.toList_append, List.filter_append,
      List.filter_append, toList_unwrapIPV6Host, List.filter_filter]
    simp only [Bool.and_self]
    exact congrArg String.ofList (List.append_nil _)
  · rfl

/-- Ports without a colon are read as they were written. -/
lemma hostPorts_append {ports : String} (hports : ':' ∉ ports.toList) (host : String) :
    hostPorts (host ++ ":" ++ ports) = some (unwrapIPV6Host host, ports) := by
  have hlist : (host ++ ":" ++ ports).toList = host.toList ++ ':' :: ports.toList := by
    rw [String.toList_append, String.toList_append, List.append_assoc]
    rfl
  have hcut : Text.cutLast [':'] (host ++ ":" ++ ports).toList =
      some (host.toList, ports.toList) := by
    rw [hlist]
    exact Text.cutLast_append hports _
  have hcut' : Text.cutAtLast (host ++ ":" ++ ports) ":" = some (host, ports) := by
    rw [Text.cutAtLast]
    exact (congrArg (Option.map _) hcut).trans
      (by rw [Option.map_some, String.ofList_toList, String.ofList_toList])
  rw [hostPorts, hcut', Option.map_some]

/-- Ports with a colon are not. -/
lemma hostPorts_ne {ports : String} (hports : ':' ∈ ports.toList) (s host : String) :
    hostPorts s ≠ some (host, ports) := by
  intro h
  rw [hostPorts, Text.cutAtLast, Option.map_map] at h
  obtain ⟨p, hp, heq⟩ := Option.map_eq_some_iff.1 h
  have hnot := Text.not_mem_of_cutLast (c := ':') hp
  have hports' : String.ofList p.2 = ports := congrArg Prod.snd heq
  rw [← hports', String.toList_ofList] at hports
  exact hnot hports

lemma colon_notMem_int2String (n : ℤ) : ':' ∉ (int2String n).toList := by
  intro h
  rcases Text.isDigit_or_of_mem_toString h with h | h
  · exact absurd h (by decide)
  · exact absurd h (by decide)

/-! ### The configurations -/

section Core

variable [Qt] {env : BuildEnv} {s : Settings} {n index : ℕ} {proxy_type : QUICType} {b : QUICBean}

/-- What is written for the core, whatever the mapping port and the kind of core. -/
lemma config_export_eq (proxy_type : QUICType) (b : QUICBean) (program : String) (files : Fmt.TempFiles) (mapping socks stat : ℤ) :
    ∃ certificate, (b.buildExternal program files mapping socks stat proxy_type).config_export =
      .json (QUICBean.coreConfig proxy_type b socks certificate) := by
  refine ⟨if trimmed b.caText = "" then none
    else some (files.path (QUICBean.coreName proxy_type ++ "_" ++ files.random 0 ++ ".crt")), ?_⟩
  unfold QUICBean.buildExternal Fmt.ExternalBuildResult.writeTempFile
  dsimp only
  split_ifs <;> rfl

omit [Qt] in
/-- The core of a TUIC bean connects to its server. -/
lemma dials_tuic (socks : ℤ) (certificate : Option String) :
    dials .tuic (.json (b.tuicConfig socks certificate)) = some (serverOf .tuic b) := by
  have hports := hostPorts_append (colon_notMem_int2String b.serverPort)
  have hserver : serverOf .tuic b = (unwrapIPV6Host b.serverAddress, int2String b.serverPort) :=
    congrArg (Prod.mk _) (if_neg fun h => absurd h.1 nofun)
  rw [hserver]
  by_cases hsni : b.serverAddress = b.sni
  · have hserver : ∃ relay : JsonObject,
        (b.tuicConfig socks certificate).get? "relay" = some (.obj relay) ∧
          relay.get? "server" = some (.str (b.serverAddress ++ ":" ++ int2String b.serverPort)) ∧
          relay.get? "ip" = none := by
      refine ⟨_, rfl, ?_, ?_⟩
      · rw [if_pos hsni, JsonObject.get?_set, if_pos rfl]
      · rw [if_pos hsni, JsonObject.get?_set, if_neg (by decide)]
        cases certificate <;> split_ifs <;> simp [JsonObject.get?_set, JsonObject.get?]
    obtain ⟨relay, hrelay, hserver, hip⟩ := hserver
    rw [dials, hrelay]
    simp only [Option.bind_some, jsonToObject, hserver, hip, jsonToString, hports, Option.map_some]
  · have hserver : ∃ relay : JsonObject,
        (b.tuicConfig socks certificate).get? "relay" = some (.obj relay) ∧
          relay.get? "server" = some (.str (b.sni ++ ":" ++ int2String b.serverPort)) ∧
          relay.get? "ip" = some (.str b.serverAddress) := by
      refine ⟨_, rfl, ?_, ?_⟩
      · rw [if_neg hsni, JsonObject.get?_set, if_neg (by decide), JsonObject.get?_set, if_pos rfl]
      · rw [if_neg hsni, JsonObject.get?_set, if_pos rfl]
    obtain ⟨relay, hrelay, hserver, hip⟩ := hserver
    rw [dials, hrelay]
    simp only [Option.bind_some, jsonToObject, hserver, hip, jsonToString, hports, Option.map_some]

/-- The core of a Hysteria2 bean connects to its server, as far as its ports can be read. -/
lemma dials_hysteria2 (socks : ℤ) (certificate : Option String) :
    dials .hysteria2 (.json (b.hysteria2Config socks certificate)) = hostPorts b.hysteria2Server := by
  have hserver : (b.hysteria2Config socks certificate).get? "server" =
      some (.str b.hysteria2Server) := by
    unfold QUICBean.hysteria2Config
    dsimp only
    rw [JsonObject.get?_set, if_neg (by decide)]
    by_cases hobfs : b.obfsPassword = ""
    · rw [if_pos hobfs]
      rfl
    · rw [if_neg hobfs, JsonObject.get?_set, if_neg (by decide)]
      rfl
  rw [dials]
  simp only [hserver, Option.bind_some, jsonToString]

/-- A core that is reached through a mapping has no ports to hop between. -/
lemma hopPort_of_needExternal {vpn isFirstProfile : Bool}
    (h : (quicBean proxy_type b).needExternal vpn isFirstProfile = 1) : trimmed b.hopPort = "" := by
  have hstat : (if !b.forceExternal then (0 : ℤ) else if isFirstProfile then
      if vpn && trimmed b.hopPort == "" then 1 else 2
      else if trimmed b.hopPort ≠ "" then -1 else 1) = 1 := by
    cases proxy_type <;> exact h
  by_contra hhop
  have hbeq : (trimmed b.hopPort == "") = false := by simpa using hhop
  rw [hbeq, Bool.and_false, if_neg Bool.false_ne_true, if_pos hhop] at hstat
  split_ifs at hstat <;> exact absurd hstat (by decide)

/-- Where the core of a bean connects. -/
lemma dials_core (proxy_type : QUICType) (b : QUICBean) (program : String) (files : Fmt.TempFiles)
    (mapping socks stat : ℤ) :
    dials proxy_type (Bean.buildExternal (fun _ => program) files mapping socks stat
      (quicBean proxy_type b)).config_export = some (serverOf proxy_type b) ↔
        (proxy_type = .hysteria2 → trimmed b.hopPort ≠ "" → ':' ∉ b.hopPort.toList) := by
  obtain ⟨certificate, hexport⟩ := config_export_eq proxy_type b program files mapping socks stat
  cases proxy_type with
  | tuic =>
    have hdials : dials .tuic (Bean.buildExternal (fun _ => program) files mapping socks stat
        (quicBean .tuic b)).config_export = some (serverOf .tuic b) := by
      rw [quicBean, Bean.buildExternal, hexport]
      exact dials_tuic socks certificate
    exact ⟨fun _ h => absurd h nofun, fun _ => hdials⟩
  | hysteria2 =>
    have hdials : dials .hysteria2 (Bean.buildExternal (fun _ => program) files mapping socks stat
        (quicBean .hysteria2 b)).config_export = hostPorts b.hysteria2Server := by
      rw [quicBean, Bean.buildExternal, hexport]
      exact dials_hysteria2 socks certificate
    rw [hdials, QUICBean.hysteria2Server, serverOf, ← unwrap_wrapIPV6Host b.serverAddress]
    by_cases hhop : trimmed b.hopPort = ""
    · rw [if_pos hhop, if_neg fun h => h.2 hhop, hostPorts_append (colon_notMem_int2String _)]
      exact ⟨fun _ _ h => absurd hhop h, fun _ => rfl⟩
    · rw [if_neg hhop, if_pos ⟨rfl, hhop⟩]
      constructor
      · intro h _ _ hcolon
        exact hostPorts_ne hcolon _ _ h
      · intro h
        exact hostPorts_append (h rfl hhop) _

end Core

/-- **A core connects where the chain needs it to** exactly if it need not be reached through a mapping
inbound and, when it connects itself, the ports that it hops between are written without a colon.

**Proof sketch.** The mapping port is in no configuration: each names the server of the bean. -/
theorem hopKept_iff [Qt] (env : BuildEnv) (s : Settings) (n index : ℕ) (proxy_type : QUICType)
    (b : QUICBean) :
    HopKept env s n index proxy_type b ↔
      (quicBean proxy_type b).needExternal s.spmode_vpn (decide (index + 1 = n)) ≠ 1 ∧
        ((quicBean proxy_type b).needExternal s.spmode_vpn (decide (index + 1 = n)) = 2 →
          proxy_type = .hysteria2 → trimmed b.hopPort ≠ "" → ':' ∉ b.hopPort.toList) := by
  have hextern (files : Fmt.TempFiles) (mapping socks stat : ℤ) :
      ∃ program, (quicBean proxy_type b).buildExternal (extraCore s) files mapping socks stat =
        (quicBean proxy_type b).buildExternal (fun _ => program) files mapping socks stat := by
    cases proxy_type
    · exact ⟨extraCore s "hysteria2", rfl⟩
    · exact ⟨extraCore s "tuic", rfl⟩
  obtain ⟨program, hprogram⟩ := hextern (env.files index)
    (externalPorts env index (quicBean proxy_type b)).1
    (externalPorts env index (quicBean proxy_type b)).2
    ((quicBean proxy_type b).needExternal s.spmode_vpn (decide (index + 1 = n)))
  unfold HopKept
  dsimp only
  rw [hprogram, dials_core]
  constructor
  · rintro ⟨hmapped, hdirect⟩
    refine ⟨fun hstat => (hmapped hstat).2 ?_, hdirect⟩
    exact (dials_core proxy_type b program (env.files index) _ _ _).2 fun _ h =>
      absurd (hopPort_of_needExternal hstat) h
  · rintro ⟨hstat, hdirect⟩
    exact ⟨fun h => absurd h hstat, hdirect⟩

/-- What the framework answers about a plain server. -/
abbrev plainQt : Qt where
  parseObject _ := []
  parseArray _ := []
  objectText _ _ := ""
  isIpAddressV4 s := s == "127.0.0.1"
  isIpAddressV6 _ := false
  url _ := {}
  urlText _ _ _ _ _ := ""
  toLower s := s

/-- Answers of a system on which nothing is found. -/
def plainEnv : BuildEnv where
  mappingPort index := 20000 + index
  socksPort index := 30000 + index
  files _ := ⟨fun _ => "x", fun _ _ => "", fun name => "/temp/" ++ name⟩
  internalTunPossible := false
  tunName := "proxor-tun"
  tunAddresses := []
  routeExclusions := []
  autoBypass _ _ := ([], [])
  absoluteProgram program := program
  currentSsid := ""
  vpnImplementation _ := ""
  geoip := "geoip.db"
  geosite := "geosite.db"

/-- **A hop may be bypassed**: the other core of the first of two servers is to be reached through the
mapping inbound, and connects to its server. -/
theorem not_hopKept : ¬ ∀ (_ : Qt) (env : BuildEnv) (s : Settings) (n index : ℕ)
    (proxy_type : QUICType) (b : QUICBean), HopKept env s n index proxy_type b := by
  intro h
  let b : QUICBean := { serverAddress := "hop.example", serverPort := 443, forceExternal := true }
  letI := plainQt
  have hkept := h plainQt plainEnv {} 2 0 .hysteria2 b
  have hdials := (dials_core .hysteria2 b (extraCore {} "hysteria2")
    (plainEnv.files 0) 20000 30000 1).2 fun _ hhop => absurd rfl hhop
  exact (hkept.1 (by decide)).2 hdials

end Proxor.Db
