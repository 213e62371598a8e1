import Proxor.Db.BuildChain
import Proxor.Db.ConfigSettings

set_option relaxedAutoImplicit false
set_option autoImplicit false

/-!
# The chain of a configuration

The servers of a configuration are handled from out to in. Each gets an outbound under a tag of its
own, and the one before it is linked to that tag: by its `detour` if the software's own core connects
to it, by a rule for the mapping inbound of its core if another core does.

## Main definitions

* `Proxor.Db.BuildStatus` — what has been built, with the profiles as the builders left them.
* `Proxor.Db.ChainLoop` — the variables of the loop.
* `Proxor.Db.buildElement` — one server.
* `Proxor.Db.buildChainInternal`, `Proxor.Db.buildChain` — all of them.
-/

namespace Proxor.Db

open Fmt (Bean ExternalBuildResult CoreObjOutboundBuildResult)

/-- `BuildConfigStatus` and its result, as far as the chain writes them. A traffic object is written by
the profile it is of: `outboundStats` has its tag too. -/
structure BuildStatus where
  objects : Ref → ProxyEntity Bean
  error : String := ""
  outboundStats : List (Ref × String) := []
  outboundStat : Option Ref := none
  ignoreConnTag : List String := []
  extRs : List ExternalBuildResult := []
  need_keep_vpn_off : Bool := false
  globalProfiles : List ℤ := []
  domainListDNSDirect : List String := []
  routingRules : List JsonObject := []
  inbounds : List JsonObject := []
  outbounds : List JsonObject := []

/-- The variables of the loop. -/
structure ChainLoop extends BuildStatus where
  chainTagOut : String := ""
  muxApplied : Bool := false
  pastTag : String := ""
  pastExternalStat : ℤ := 0
  index : ℕ := 0

/-- The tag of the inbound through which another core reaches its server. -/
def mappingTag (tag : String) : String := tag ++ "-mapping"

/-- The tag of a server of a chain of `n`. -/
def tagOut (chainId : ℤ) (n index : ℕ) (id : ℤ) : String :=
  if chainId = 0 ∧ index = 0 then "proxy"
  else if index + 1 = n then "g-" ++ int2String id
  else "c-" ++ int2String chainId ++ "-" ++ int2String id

/-- A rule for what comes from an inbound. -/
def inboundRule (inbound outbound : String) : JsonObject :=
  [("inbound", texts [inbound]), ("outbound", .str outbound)]

/-- The inbound through which another core reaches its server. -/
def mappingInbound (tag : String) (port : ℤ) (bean : Bean) : JsonObject :=
  [("type", .str "direct"), ("tag", .str (mappingTag tag)), ("listen", .str "127.0.0.1"),
    ("listen_port", .num port), ("override_address", .str bean.base.serverAddress),
    ("override_port", .num bean.base.serverPort)]

namespace ChainLoop

/-- The server before is linked to this one, or this one is the first. -/
def link (c : ChainLoop) (p : Ref) (tag : String) : ChainLoop :=
  if 0 < c.index then
    if c.pastExternalStat = 0 then
      { c with
        outbounds := c.outbounds.dropLast ++
          (c.outbounds.getLast?.map fun outbound => outbound.set "detour" (.str tag)).toList }
    else { c with routingRules := c.routingRules ++ [inboundRule (mappingTag c.pastTag) tag] }
  else { c with chainTagOut := tag, outboundStat := some p }

/-- The mapping inbound of a server, which leads nowhere else if the server is the last. -/
def addMapping (c : ChainLoop) (tag : String) (port : ℤ) (isFirstProfile : Bool) (bean : Bean) :
    ChainLoop :=
  { c with
    inbounds := c.inbounds ++ [mappingInbound tag port bean]
    routingRules :=
      if isFirstProfile then c.routingRules ++ [inboundRule (mappingTag tag) "direct"]
      else c.routingRules }

end ChainLoop

/-- The two ports of another core. -/
def externalPorts (env : BuildEnv) (index : ℕ) : Bean → ℤ × ℤ
  | .custom b =>
    (if isValidPort b.mapping_port then b.mapping_port else env.mappingPort index,
      if isValidPort b.socks_port then b.socks_port else env.socksPort index)
  | _ => (env.mappingPort index, env.socksPort index)

/-- `outbound["flow"] != ""`. -/
def hasFlow (outbound : JsonObject) : Bool :=
  match outbound.get? "flow" with
  | some (.str flow) => flow ≠ ""
  | _ => true

/-- `needMux`. -/
def needMux (s : Settings) (bean : Bean) (outbound : JsonObject) : Bool :=
  let needMux := (bean.type == "vmess" || bean.type == "trojan" || bean.type == "vless") &&
    decide (0 < s.mux_concurrency)
  let needMux :=
    match bean.stream with
    | some stream =>
      let needMux := needMux && !(stream.network == "grpc" || stream.network == "quic" ||
        (stream.network == "http" && stream.security == "tls"))
      if stream.multiplex_status = 0 then needMux && s.mux_default_on
      else if stream.multiplex_status = 1 then true
      else if stream.multiplex_status = 2 then false
      else needMux
    | none => needMux
  needMux && !(bean.type == "vless" && hasFlow outbound)

/-- The multiplex object. -/
def multiplex (s : Settings) : Json :=
  .obj [("enabled", .bool true), ("protocol", .str s.mux_protocol),
    ("padding", .bool s.mux_padding), ("max_streams", .num s.mux_concurrency)]

/-- The outbound to another core. -/
def socksOutbound (port : ℤ) : JsonObject :=
  [("type", .str "socks"), ("server", .str "127.0.0.1"), ("server_port", .num port)]

variable [Qt]

/-- The address whose name is looked up directly. -/
def lookupAddress : Bean → String
  | .custom b =>
    if b.core = "internal" then
      let server := ((Qt.parseObject b.config_simple).get? "server").map jsonToString |>.getD ""
      if server = "" then b.serverAddress else server
    else b.serverAddress
  | bean => bean.base.serverAddress

/-- The core of a server, and the outbound to it: another core is built and gets the traffic on its
port, the software's own core gets an outbound and may leave the bean changed. -/
def buildOutbound (env : BuildEnv) (s : Settings) (c : ChainLoop) (p : Ref) (stat : ℤ)
    (ports : ℤ × ℤ) : Except ChainLoop (ChainLoop × JsonObject) :=
  let bean := (c.objects p).bean
  if 0 < stat then
    let extR := bean.buildExternal (extraCore s) (env.files c.index) ports.1 ports.2 stat
    if extR.program = "" then
      .error { c with error := "Core not found: " ++ bean.displayCoreType s.spmode_vpn }
    else if extR.error ≠ "" then .error { c with error := extR.error }
    else .ok ({ c with extRs := c.extRs ++ [{ extR with tag := bean.displayType }] },
      socksOutbound ports.2)
  else
    let coreR := bean.buildCoreObjSingBox s.skip_cert
    let c := { c with
      objects := Function.update c.objects p { c.objects p with bean := bean.afterBuild } }
    if coreR.outbound.isEmpty then .error { c with error := "unsupported outbound" }
    else if coreR.error ≠ "" then .error { c with error := coreR.error }
    else .ok (c, coreR.outbound)

/-- The outbound of a server with its tag and the common settings. -/
def finishOutbound (s : Settings) (muxApplied : Bool) (bean : Bean) (tag : String)
    (outbound : JsonObject) : JsonObject × Bool :=
  let mux := needMux s bean outbound
  let outbound := outbound.set "tag" (.str tag)
  let outbound := outbound.set "domain_strategy" (.str s.outbound_domain_strategy)
  let outbound :=
    if !muxApplied && mux then outbound.set "multiplex" (multiplex s) else outbound
  (mergeJson outbound (Qt.parseObject bean.base.custom_outbound), muxApplied || mux)

omit [Qt] in
/-- What is done for a server before its outbound is built: its tag is noted, the server before is
linked to it, and it gets a mapping if another core needs one. -/
def prepare (env : BuildEnv) (s : Settings) (chainId : ℤ) (n : ℕ) (c : ChainLoop) (p : Ref) :
    ChainLoop :=
  let ent := c.objects p
  let tag := tagOut chainId n c.index ent.id
  let isFirstProfile := decide (c.index + 1 = n)
  let needGlobal := isFirstProfile && !decide (chainId = 0 ∧ c.index = 0)
  let stat := ent.bean.needExternal s.spmode_vpn isFirstProfile
  let linked := c.link p tag
  let mapped :=
    if stat = 1 then
      linked.addMapping tag (externalPorts env c.index ent.bean).1 isFirstProfile ent.bean
    else linked
  { mapped with
    ignoreConnTag := if c.index = 0 then c.ignoreConnTag else c.ignoreConnTag ++ [tag]
    globalProfiles := if needGlobal then c.globalProfiles ++ [ent.id] else c.globalProfiles
    need_keep_vpn_off := decide (stat = 2) || c.need_keep_vpn_off }

/-- What is done with the outbound of a server. -/
def append (s : Settings) (c : ChainLoop) (p : Ref) (bean : Bean) (tag : String) (stat : ℤ)
    (outbound : JsonObject) : ChainLoop :=
  let finished := finishOutbound s c.muxApplied bean tag outbound
  let address := lookupAddress bean
  { c with
    outboundStats := c.outboundStats ++ [(p, tag)]
    domainListDNSDirect :=
      if isIpAddress address then c.domainListDNSDirect
      else c.domainListDNSDirect ++ ["full:" ++ address]
    outbounds := c.outbounds ++ [finished.1]
    muxApplied := finished.2
    pastTag := tag
    pastExternalStat := stat
    index := c.index + 1 }

/-- One server of `BuildChainInternal`. A server that is global already is passed over. -/
def buildElement (env : BuildEnv) (s : Settings) (chainId : ℤ) (n : ℕ) (c : ChainLoop) (p : Ref) :
    Except ChainLoop ChainLoop :=
  let ent := c.objects p
  let tag := tagOut chainId n c.index ent.id
  let isFirstProfile := decide (c.index + 1 = n)
  if (isFirstProfile && !decide (chainId = 0 ∧ c.index = 0)) = true ∧ ent.id ∈ c.globalProfiles then
    .ok (if c.index = 0 then c else { c with ignoreConnTag := c.ignoreConnTag ++ [tag] })
  else
    let stat := ent.bean.needExternal s.spmode_vpn isFirstProfile
    if stat < 0 then
      .error { prepare env s chainId n c p with
        error := "This configuration cannot be set automatically, please try another." }
    else
      (buildOutbound env s (prepare env s chainId n c p) p stat
        (externalPorts env c.index ent.bean)).map fun r => append s r.1 p ent.bean tag stat r.2

/-- `BuildChainInternal`: the status and the tag of the first outbound, which is empty after an
error. -/
def buildChainInternal (env : BuildEnv) (s : Settings) (chainId : ℤ) (ents : List Ref)
    (status : BuildStatus) : BuildStatus × String :=
  match ents.foldlM (buildElement env s chainId ents.length) { toBuildStatus := status } with
  | .ok c => (c.toBuildStatus, c.chainTagOut)
  | .error c => (c.toBuildStatus, "")

/-- `BuildChain`: a chain counts its traffic with its own profile too. -/
def buildChain (env : BuildEnv) (s : Settings) (m : ProfileManager Bean) (ent : Ref)
    (status : BuildStatus) : BuildStatus × String :=
  match m.buildChain ent with
  | .error e => ({ status with error := e }, "")
  | .ok ents =>
    let r := buildChainInternal env s 0 ents status
    if 1 < ents.length then
      ({ r.1 with outboundStats := r.1.outboundStats ++ [(ent, r.2)] }, r.2)
    else r

end Proxor.Db
