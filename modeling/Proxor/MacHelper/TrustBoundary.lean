import Proxor.MacHelper.ValidateOptions

set_option relaxedAutoImplicit false
set_option autoImplicit false

/-!
# What a Tun config may do

What passes the check of a Tun config, said without the check: outbounds to the core on its port or direct ones, one
Tun inbound, no field outside the allowlists at any depth of embedding, no reference to what is not declared and no
rule set at any depth of nesting. The check accepts exactly this, and changes only what it normalises.

## Main definitions

* `Proxor.MacHelper.Rule.Within` — a rule is among some rules, at any depth.
* `Proxor.MacHelper.Options.Safe` — what a config may contain.
* `Proxor.MacHelper.Options.normalized` — what the check changes.

## Main results

* `Proxor.MacHelper.validateTunConfig_eq_ok` — exactly the safe configs pass.
* `Proxor.MacHelper.validateOptions_normalized` — what comes out passes again as it is.
-/

namespace Proxor.MacHelper

open Reflect Text

/-! ### What a config may contain -/

/-- The outbound to the core. -/
def Outbound.ToCore (out : Outbound) (socksPort : ℤ) : Prop :=
  out.type = "socks" ∧ ∃ o, out.options = .socks o ∧ o.value.Only socksKeys ∧
    (o.server = "127.0.0.1" ∨ o.server = "::1") ∧ (o.serverPort.toNat : ℤ) = socksPort

/-- An outbound past the core, with nothing to steer it. -/
def Outbound.Direct (out : Outbound) : Prop :=
  out.type = "direct" ∧ ∃ fields, out.options = .direct fields ∧ (Value.struct fields).Only directKeys

/-- The inbound is a Tun. -/
def Inbound.IsTun (inbound : Inbound) : Prop :=
  inbound.type = "tun" ∧ ∃ o, inbound.options = .tun o ∧ o.value.Only tunKeys ∧ o.stack ∈ tunStacks

/-- The tag is one of those, if it is there. -/
def Declared (tags : List String) (tag : String) : Prop := tag = "" ∨ tag ∈ tags

/-- What a DNS server is reached through is declared. -/
def DialerOptions.Safe (dnsTags outboundTags : List String) (dial : DialerOptions) : Prop :=
  Declared outboundTags dial.detour ∧ ∀ dr ∈ dial.domainResolver, Declared dnsTags dr.server

/-- The options of a DNS server have nothing but what is allowed for their type. -/
def DNSOptions.ServerOptions.Safe (dnsTags outboundTags : List String) : DNSOptions.ServerOptions → Prop
  | .local o => o.value.Only ("prefer_go" :: dnsDialKeys) ∧ o.dialer.Safe dnsTags outboundTags
  | .remote o => o.value.Only ("server" :: "server_port" :: dnsDialKeys) ∧ o.dialer.Safe dnsTags outboundTags
  | .remoteTLS o =>
    o.value.Only ("server" :: "server_port" :: "tls" :: dnsDialKeys) ∧
      (∀ fields ∈ o.tls, (Value.struct fields).Only tlsKeys) ∧ o.dialer.Safe dnsTags outboundTags
  | .remoteHTTPS o =>
    o.value.Only ("server" :: "server_port" :: "tls" :: "path" :: "method" :: "headers" :: dnsDialKeys) ∧
      (o.path = "" ∨ ['/'] <+: o.path.toList) ∧
      (∀ fields ∈ o.tls, (Value.struct fields).Only tlsKeys) ∧ o.dialer.Safe dnsTags outboundTags
  | .fakeIP fields => (Value.struct fields).Only ["inet4_range", "inet6_range"]
  | .other _ => False

/-- The rule is among some rules, or in a logical one of them, at any depth. -/
inductive Rule.Within {A : Type} : Rule A → List (Rule A) → Prop
  | here {r : Rule A} {rules : List (Rule A)} : r ∈ rules → Rule.Within r rules
  | nested {r r' : Rule A} {rules : List (Rule A)} :
    r' ∈ rules → r'.type = "logical" → Rule.Within r r'.rules → Rule.Within r rules

/-- A default rule matches by nothing that is read from a file or downloaded. -/
def DefaultRule.Plain {A : Type} (d : DefaultRule A) : Prop :=
  d.ruleSet = [] ∧ d.geosite = [] ∧ d.geoIP = [] ∧ d.sourceGeoIP = []

/-- What a rule may be, besides the rules in it. -/
def Rule.Safe {A : Type} (P : A → Prop) (r : Rule A) : Prop :=
  (r.type = "default" ∧ r.defaultOptions.Plain ∧ P r.defaultOptions.action) ∨ (r.type = "logical" ∧ P r.action)

/-- What a DNS rule may do. -/
def DNSRuleAction.Safe (dnsTags : List String) (a : DNSRuleAction) : Prop :=
  (a.action = "route" ∧ a.server ∈ dnsTags) ∨ a.action = "route-options" ∨ a.action = "reject" ∨
    a.action = "predefined"

/-- What a route rule may do. -/
def RuleAction.Safe (outboundTags dnsTags : List String) (a : RuleAction) : Prop :=
  (a.action = "route" ∧ a.outbound ∈ outboundTags) ∨ (a.action = "resolve" ∧ Declared dnsTags a.resolveServer) ∨
    a.action = "route-options" ∨ a.action = "reject" ∨ a.action = "hijack-dns" ∨ a.action = "sniff"

/-- The tags of the DNS servers that have one. -/
def DNSOptions.tags (dns : DNSOptions) : List String := (dns.servers.map DNSServerOptions.tag).filter (· ≠ "")

/-- What the DNS section may contain. -/
structure DNSOptions.Safe (outboundTags : List String) (dns : DNSOptions) : Prop where
  fakeIP : dns.fakeIP = none
  nodup : dns.tags.Nodup
  servers : ∀ s ∈ dns.servers, s.type ∈ dnsTypes ∧ s.options.Safe dns.tags outboundTags
  final : Declared dns.tags dns.final
  rules : ∀ r : Rule DNSRuleAction, r.Within dns.rules → r.Safe (DNSRuleAction.Safe dns.tags)

/-- What the route section may contain. -/
structure RouteOptions.Safe (outboundTags dnsTags : List String) (route : RouteOptions) : Prop where
  keys : route.value.Only routeKeys
  final : route.final ∈ outboundTags
  resolver : ∀ dr ∈ route.defaultDomainResolver, Declared dnsTags dr.server
  rules : ∀ r : Rule RuleAction, r.Within route.rules → r.Safe (RuleAction.Safe outboundTags dnsTags)

namespace Options

/-- The tags of the outbounds. -/
def outboundTags (opts : Options) : List String := opts.outbounds.map Outbound.tag

/-- The tags of the DNS servers. -/
def dnsTags (opts : Options) : List String := (opts.dns.map DNSOptions.tags).getD []

/-- What a config may contain. -/
structure Safe (socksPort : ℤ) (opts : Options) : Prop where
  ntp : opts.ntp = none
  certificate : opts.certificate = none
  endpoints : opts.endpoints = []
  services : opts.services = []
  experimental : opts.experimental = none
  log : ∀ log ∈ opts.log, log.output = ""
  nodup : opts.outboundTags.Nodup
  outbounds : ∀ out ∈ opts.outbounds, out.tag ≠ "" ∧ (out.ToCore socksPort ∨ out.Direct)
  core : ∃ out ∈ opts.outbounds, out.ToCore socksPort
  inbounds : ∃ inbound : Inbound, opts.inbounds = [inbound] ∧ inbound.IsTun
  dns : ∀ dns ∈ opts.dns, dns.Safe opts.outboundTags
  route : ∃ route, opts.route = some route ∧ route.Safe opts.outboundTags opts.dnsTags

end Options

/-- A Tun inbound gets its interface from sing-box, and installs routes. -/
def Inbound.normalized (inbound : Inbound) : Inbound :=
  match inbound.options with
  | .tun tun => { inbound with options := .tun tun.normalized }
  | .other _ => inbound

/-- A local DNS server resolves without cgo. -/
def DNSServerOptions.normalized (s : DNSServerOptions) : DNSServerOptions :=
  match s.options with
  | .local o => { s with options := .local o.normalized }
  | _ => s

/-- What the check changes. -/
def Options.normalized (opts : Options) : Options :=
  { opts with
    inbounds := opts.inbounds.map Inbound.normalized
    dns := opts.dns.map fun dns => { dns with servers := dns.servers.map DNSServerOptions.normalized } }

/-! ### Fields -/

section Checks

variable {quote : String → String} {place : String}

/-- A check succeeds before what is behind it. -/
lemma then_eq_ok {B : Type} {p : Except Err Unit} {f : Unit → Except Err B} {b : B} :
    (p >>= f) = .ok b ↔ p = .ok () ∧ f () = .ok b := by
  rw [bind_eq_ok]
  exact ⟨fun h => h.elim fun _ h => h, fun h => ⟨(), h⟩⟩

/-- **The walk denies** what is not allowed. -/
lemma denyKeys_eq_ok {v : Value} {allowed : List String} :
    denyKeys quote place v allowed = .ok () ↔ v.Only allowed := by
  rw [← Value.extraKeys_eq_nil, denyKeys]
  cases v.extraKeys allowed with
  | nil => exact iff_of_true rfl rfl
  | cons key keys => exact iff_of_false nofun (List.cons_ne_nil _ _)

/-- The reason of a denial names the least key that is not allowed. -/
lemma denyKeys_eq_error {v : Value} {allowed : List String} {err : Err}
    (h : denyKeys quote place v allowed = .error err) :
    ∃ key, v.Carries key ∧ key ∉ allowed ∧ (∀ other, v.Carries other → other ∉ allowed → key ≤ other) ∧
      err = .text (place ++ ": field " ++ quote key ++ " is not allowed") := by
  rw [denyKeys] at h
  cases hkeys : v.extraKeys allowed with
  | nil =>
    rw [hkeys] at h
    exact absurd h nofun
  | cons key keys =>
    rw [hkeys] at h
    obtain ⟨hcarries, hnot, hleast⟩ := Value.head_extraKeys hkeys
    exact ⟨key, hcarries, hnot, hleast, (Except.error.inj h).symm⟩

/-! ### Outbounds -/

variable {socksPort : ℤ}

/-- What an outbound must be. -/
lemma validateOutbound_eq_ok {out : Outbound} {n : ℕ} :
    validateOutbound quote socksPort out = .ok n ↔ (out.ToCore socksPort ∧ n = 1) ∨ (out.Direct ∧ n = 0) := by
  have hsocks : out.type = "socks" → out.type ≠ "direct" := fun h => by
    rw [h]
    decide
  by_cases htype : out.type = "socks"
  · have hdirect : ¬ out.Direct := fun h => hsocks htype h.1
    rw [validateOutbound, if_pos htype, Outbound.ToCore, and_iff_right htype, or_iff_left fun h => hdirect h.1]
    cases hoptions : out.options with
    | socks o =>
      simp only [then_eq_ok, denyKeys_eq_ok, guard_eq_ok, not_and_or, not_not, Except.ok.injEq, ne_eq,
        OutboundOptions.socks.injEq, exists_eq_left', and_assoc, eq_comm (a := n)]
    | direct fields => simp
    | other typeName => simp
  · rw [validateOutbound, if_neg htype, or_iff_right fun h => htype h.1.1]
    by_cases hdirect : out.type = "direct"
    · rw [if_pos hdirect, Outbound.Direct, and_iff_right hdirect]
      cases hoptions : out.options with
      | socks o => simp
      | direct fields =>
        simp only [then_eq_ok, denyKeys_eq_ok, Except.ok.injEq, OutboundOptions.direct.injEq, exists_eq_left',
          eq_comm (a := n)]
      | other typeName => simp
    · rw [if_neg hdirect]
      exact iff_of_false nofun fun h => hdirect h.1.1

/-- The loop over the outbounds, from any number of them and any tags. -/
lemma validateOutboundsFrom_eq_ok {outbounds : List Outbound} {tags tags' : List String} {socks : ℕ}
    (htags : tags.Nodup) :
    validateOutboundsFrom quote socksPort outbounds tags socks = .ok tags' ↔
      (∀ out ∈ outbounds, out.tag ≠ "" ∧ (out.ToCore socksPort ∨ out.Direct)) ∧
        (tags ++ outbounds.map Outbound.tag).Nodup ∧ (socks ≠ 0 ∨ ∃ out ∈ outbounds, out.ToCore socksPort) ∧
        tags' = tags ++ outbounds.map Outbound.tag := by
  induction outbounds generalizing tags socks with
  | nil =>
    rw [validateOutboundsFrom, guard_eq_ok, List.map_nil, List.append_nil, Except.ok.injEq, eq_comm (a := tags)]
    simp [htags]
  | cons out outbounds ih =>
    rw [validateOutboundsFrom, guard_eq_ok, guard_eq_ok, bind_eq_ok]
    have hshift : tags ++ (out :: outbounds).map Outbound.tag = (tags ++ [out.tag]) ++ outbounds.map Outbound.tag := by
      simp
    rw [hshift]
    constructor
    · intro h
      obtain ⟨htag, hnew, n, hout, hrest⟩ := h
      have htags' : (tags ++ [out.tag]).Nodup := List.nodup_append.2 ⟨htags, List.nodup_singleton _, fun a ha b hb => by
        rw [List.mem_singleton.1 hb]
        exact fun heq => hnew (heq ▸ ha)⟩
      obtain ⟨hall, hnodup, hsocks, rfl⟩ := (ih htags').1 hrest
      have hkind := validateOutbound_eq_ok.1 hout
      refine ⟨?_, hnodup, ?_, rfl⟩
      · intro out' hmem
        rcases List.mem_cons.1 hmem with rfl | hmem
        · exact ⟨htag, hkind.imp And.left And.left⟩
        · exact hall out' hmem
      · rcases hsocks with hsocks | ⟨out', hmem, hcore⟩
        · rcases hkind with ⟨hcore, rfl⟩ | ⟨-, rfl⟩
          · exact Or.inr ⟨out, List.mem_cons_self, hcore⟩
          · exact Or.inl hsocks
        · exact Or.inr ⟨out', List.mem_cons_of_mem _ hmem, hcore⟩
    · intro h
      obtain ⟨hall, hnodup, hsocks, rfl⟩ := h
      have htags' : (tags ++ [out.tag]).Nodup := (List.nodup_append.1 hnodup).1
      obtain ⟨htag, hkind⟩ := hall out List.mem_cons_self
      have hnew : out.tag ∉ tags := fun hmem =>
        (List.nodup_append.1 htags').2.2 _ hmem _ (List.mem_singleton_self _) rfl
      have hrest := fun out' hmem => hall out' (List.mem_cons_of_mem _ hmem)
      rcases hkind with hcore | hdirect
      · exact ⟨htag, hnew, 1, validateOutbound_eq_ok.2 (Or.inl ⟨hcore, rfl⟩),
          (ih htags').2 ⟨hrest, hnodup, Or.inl (Nat.succ_ne_zero _), rfl⟩⟩
      · refine ⟨htag, hnew, 0, validateOutbound_eq_ok.2 (Or.inr ⟨hdirect, rfl⟩),
          (ih htags').2 ⟨hrest, hnodup, ?_, rfl⟩⟩
        rcases hsocks with hsocks | ⟨out', hmem, hcore⟩
        · exact Or.inl hsocks
        · rcases List.mem_cons.1 hmem with rfl | hmem
          · exact absurd (hcore.1.symm.trans hdirect.1) (by decide)
          · exact Or.inr ⟨out', hmem, hcore⟩

/-! ### The inbound -/

/-- **The inbounds** are one Tun, and it is normalised. -/
lemma validateInbounds_eq_ok {inbounds inbounds' : List Inbound} :
    validateInbounds quote inbounds = .ok inbounds' ↔
      (∃ inbound : Inbound, inbounds = [inbound] ∧ inbound.IsTun) ∧ inbounds' = inbounds.map Inbound.normalized := by
  match inbounds with
  | [] =>
    rw [validateInbounds]
    · simp
    · simp
  | [inbound] =>
    rw [validateInbounds, guard_eq_ok, not_not]
    have hone : (∃ inbound' : Inbound, [inbound] = [inbound'] ∧ inbound'.IsTun) ↔ inbound.IsTun := by simp
    rw [hone, Inbound.IsTun, and_assoc]
    refine and_congr_right fun _ => ?_
    cases hoptions : inbound.options with
    | tun tun =>
      simp only [then_eq_ok, denyKeys_eq_ok, guard_eq_ok, not_not, Except.ok.injEq, InboundOptions.tun.injEq,
        exists_eq_left', and_assoc, List.map_cons, List.map_nil, Inbound.normalized, hoptions,
        eq_comm (a := inbounds')]
    | other typeName => simp
  | inbound :: inbound' :: rest =>
    rw [validateInbounds]
    · simp
    · simp

/-! ### DNS servers -/

variable {dnsTags outboundTags : List String}

/-- What is declared, as the checks ask. -/
lemma declared_iff {tags : List String} {tag : String} : Declared tags tag ↔ ¬ (tag ≠ "" ∧ tag ∉ tags) := by
  rw [Declared]
  tauto

/-- What a TLS section may have. -/
lemma validateTLS_eq_ok {tls : Option OtherFields} :
    validateTLS quote place tls = .ok () ↔ ∀ fields ∈ tls, (Value.struct fields).Only tlsKeys := by
  cases tls with
  | none => simp [validateTLS]
  | some fields => simp [validateTLS, denyKeys_eq_ok]

/-- The server that resolves names. -/
lemma checkResolver_eq_ok {what : String} {resolver : Option DomainResolveOptions} :
    checkResolver quote what dnsTags resolver = .ok () ↔ ∀ dr ∈ resolver, Declared dnsTags dr.server := by
  cases resolver with
  | none => simp [checkResolver]
  | some dr => simp [checkResolver, guard_eq_ok, declared_iff]

/-- What a server is reached through. -/
lemma validateDial_eq_ok {dial : DialerOptions} :
    validateDial quote place dnsTags outboundTags dial = .ok () ↔ dial.Safe dnsTags outboundTags := by
  rw [validateDial, guard_eq_ok, DialerOptions.Safe, declared_iff, checkResolver_eq_ok]

/-- **A DNS server** is one of the allowed types with allowed options, and a local one is normalised. -/
lemma validateDNSServer_eq_ok {s s' : DNSServerOptions} :
    validateDNSServer quote dnsTags outboundTags s = .ok s' ↔
      (s.type ∈ dnsTypes ∧ s.options.Safe dnsTags outboundTags) ∧ s' = s.normalized := by
  rw [validateDNSServer, guard_eq_ok, not_not, and_assoc]
  refine and_congr_right fun _ => ?_
  cases hoptions : s.options with
  | other typeName => simp [DNSOptions.ServerOptions.Safe]
  | _ =>
    simp only [then_eq_ok, denyKeys_eq_ok, validateDial_eq_ok, validateTLS_eq_ok, guard_eq_ok, Except.ok.injEq,
      DNSOptions.ServerOptions.Safe, DNSServerOptions.normalized, hoptions, and_assoc, not_and_or,
      not_not, ne_eq, eq_comm (a := s')]

/-- The tags of the servers. -/
lemma dnsServerTags_eq_ok {servers : List DNSServerOptions} {tags tags' : List String} (htags : tags.Nodup) :
    dnsServerTags quote servers tags = .ok tags' ↔
      (tags ++ (servers.map DNSServerOptions.tag).filter (· ≠ "")).Nodup ∧
        tags' = tags ++ (servers.map DNSServerOptions.tag).filter (· ≠ "") := by
  induction servers generalizing tags with
  | nil =>
    rw [dnsServerTags]
    simp [htags, eq_comm]
  | cons s servers ih =>
    rw [dnsServerTags]
    split
    · next htag =>
      rw [ih htags]
      simp [htag]
    · next htag =>
      rw [guard_eq_ok]
      have hshift : tags ++ ((s :: servers).map DNSServerOptions.tag).filter (· ≠ "") =
          (tags ++ [s.tag]) ++ (servers.map DNSServerOptions.tag).filter (· ≠ "") := by
        simp [htag]
      rw [hshift]
      constructor
      · intro h
        have htags' : (tags ++ [s.tag]).Nodup := List.nodup_append.2 ⟨htags, List.nodup_singleton _, fun a ha b hb => by
          rw [List.mem_singleton.1 hb]
          exact fun heq => h.1 (heq ▸ ha)⟩
        exact (ih htags').1 h.2
      · intro h
        have htags' : (tags ++ [s.tag]).Nodup := (List.nodup_append.1 h.1).1
        exact ⟨fun hmem => (List.nodup_append.1 htags').2.2 _ hmem _ (List.mem_singleton_self _) rfl,
          (ih htags').2 h⟩

/-! ### Rules -/

section Rules

variable {A : Type} {kind : String} {check : A → Except Err Unit} {P : A → Prop}

/-- The matching of a default rule. -/
lemma checkMatch_eq_ok {d : DefaultRule A} : checkMatch kind d = .ok () ↔ d.Plain := by
  rw [checkMatch, guard_eq_ok, guard_eq_ok, DefaultRule.Plain]
  simp

/-- The rules of a list, at any depth, are the first one, those in it, and those of the rest. -/
lemma Rule.within_cons {r r' : Rule A} {rules : List (Rule A)} :
    r.Within (r' :: rules) ↔ r = r' ∨ (r'.type = "logical" ∧ r.Within r'.rules) ∨ r.Within rules := by
  constructor
  · intro h
    cases h with
    | here hmem =>
      rcases List.mem_cons.1 hmem with rfl | hmem
      · exact Or.inl rfl
      · exact Or.inr (Or.inr (.here hmem))
    | nested hmem htype hwithin =>
      rcases List.mem_cons.1 hmem with rfl | hmem
      · exact Or.inr (Or.inl ⟨htype, hwithin⟩)
      · exact Or.inr (Or.inr (.nested hmem htype hwithin))
  · intro h
    rcases h with rfl | ⟨htype, hwithin⟩ | hwithin
    · exact .here List.mem_cons_self
    · exact .nested List.mem_cons_self htype hwithin
    · cases hwithin with
      | here hmem => exact .here (List.mem_cons_of_mem _ hmem)
      | nested hmem htype hwithin => exact .nested (List.mem_cons_of_mem _ hmem) htype hwithin

mutual

/-- A rule passes if it is safe, and all rules in it are. -/
lemma validateRule_eq_ok (hcheck : ∀ a, check a = .ok () ↔ P a) : (rule : Rule A) →
    (validateRule quote kind check rule = .ok () ↔
      rule.Safe P ∧ (rule.type = "logical" → ∀ r : Rule A, r.Within rule.rules → r.Safe P))
  | .mk type defaultOptions rules action => by
    have hrules := validateRules_eq_ok hcheck rules
    rw [validateRule, Rule.Safe]
    show _ ↔ ((type = "default" ∧ defaultOptions.Plain ∧ P defaultOptions.action) ∨ (type = "logical" ∧ P action)) ∧
      (type = "logical" → ∀ r : Rule A, r.Within rules → r.Safe P)
    by_cases hdefault : type = "default"
    · have hlogical : type ≠ "logical" := by
        rw [hdefault]
        decide
      rw [if_pos hdefault, then_eq_ok, checkMatch_eq_ok, hcheck]
      simp [hdefault]
    · by_cases hlogical : type = "logical"
      · rw [if_neg hdefault, if_pos hlogical, then_eq_ok]
        constructor
        · intro h
          obtain ⟨hok, haction⟩ := h
          exact ⟨Or.inr ⟨hlogical, (hcheck _).1 haction⟩, fun _ => hrules.1 hok⟩
        · intro h
          obtain ⟨hsafe, hall⟩ := h
          have haction := (hsafe.resolve_left fun h => hdefault h.1).2
          exact ⟨hrules.2 (hall hlogical), (hcheck _).2 haction⟩
      · rw [if_neg hdefault, if_neg hlogical]
        exact iff_of_false nofun fun h => h.1.elim (hdefault ·.1) (hlogical ·.1)

/-- **Rules pass** if all rules are safe, at every depth. -/
lemma validateRules_eq_ok (hcheck : ∀ a, check a = .ok () ↔ P a) : (rules : List (Rule A)) →
    (validateRules quote kind check rules = .ok () ↔ ∀ r : Rule A, r.Within rules → r.Safe P)
  | [] => by
    rw [validateRules]
    refine iff_of_true rfl fun r hr => ?_
    cases hr with
    | here hmem => exact absurd hmem List.not_mem_nil
    | nested hmem _ _ => exact absurd hmem List.not_mem_nil
  | r' :: rules => by
    have hfirst := validateRule_eq_ok hcheck r'
    have hrest := validateRules_eq_ok hcheck rules
    rw [validateRules, then_eq_ok]
    constructor
    · intro h
      obtain ⟨hok, hoks⟩ := h
      obtain ⟨hsafe, hin⟩ := hfirst.1 hok
      intro r hr
      rcases Rule.within_cons.1 hr with rfl | ⟨htype, hwithin⟩ | hwithin
      · exact hsafe
      · exact hin htype r hwithin
      · exact hrest.1 hoks r hwithin
    · intro h
      refine ⟨hfirst.2 ⟨h r' (.here List.mem_cons_self), fun htype r hwithin => ?_⟩, hrest.2 fun r hwithin => ?_⟩
      · exact h r (Rule.within_cons.2 (Or.inr (Or.inl ⟨htype, hwithin⟩)))
      · exact h r (Rule.within_cons.2 (Or.inr (Or.inr hwithin)))

end

end Rules

/-- What a DNS rule may do. -/
lemma checkDNSAction_eq_ok {a : DNSRuleAction} : checkDNSAction quote dnsTags a = .ok () ↔ a.Safe dnsTags := by
  rw [checkDNSAction, DNSRuleAction.Safe]
  by_cases hroute : a.action = "route"
  · rw [if_pos hroute, guard_eq_ok, not_not]
    simp [hroute]
  · rw [if_neg hroute]
    split
    · next h => simp [h]
    · next h => simp [h, hroute]

/-- The DNS rules. -/
lemma validateDNSRules_eq_ok {rules : List (Rule DNSRuleAction)} :
    validateDNSRules quote rules dnsTags = .ok () ↔
      ∀ r : Rule DNSRuleAction, r.Within rules → r.Safe (DNSRuleAction.Safe dnsTags) :=
  validateRules_eq_ok (fun _ => checkDNSAction_eq_ok) rules

/-- What a route rule may do. -/
lemma checkRouteAction_eq_ok {a : RuleAction} :
    checkRouteAction quote outboundTags dnsTags a = .ok () ↔ a.Safe outboundTags dnsTags := by
  rw [checkRouteAction, RuleAction.Safe]
  by_cases hroute : a.action = "route"
  · rw [if_pos hroute, guard_eq_ok, not_not]
    simp [hroute]
  · rw [if_neg hroute]
    by_cases hresolve : a.action = "resolve"
    · rw [if_pos hresolve, guard_eq_ok, ← declared_iff]
      simp [hresolve]
    · rw [if_neg hresolve]
      split
      · next h => simp [h]
      · next h => simp [h, hroute, hresolve]

/-- The route rules. -/
lemma validateRouteRules_eq_ok {rules : List (Rule RuleAction)} :
    validateRouteRules quote rules outboundTags dnsTags = .ok () ↔
      ∀ r : Rule RuleAction, r.Within rules → r.Safe (RuleAction.Safe outboundTags dnsTags) :=
  validateRules_eq_ok (fun _ => checkRouteAction_eq_ok) rules

/-! ### The sections -/

/-- A list of servers that each pass is the list of what they are normalised to. -/
lemma mapM_validateDNSServer {servers servers' : List DNSServerOptions} :
    servers.mapM (validateDNSServer quote dnsTags outboundTags) = .ok servers' ↔
      (∀ s ∈ servers, s.type ∈ dnsTypes ∧ s.options.Safe dnsTags outboundTags) ∧
        servers' = servers.map DNSServerOptions.normalized := by
  rw [mapM_eq_ok]
  simp only [validateDNSServer_eq_ok]
  induction servers generalizing servers' with
  | nil =>
    rw [List.forall₂_nil_left_iff]
    simp
  | cons s servers ih =>
    rw [List.forall₂_cons_left_iff]
    simp only [ih]
    constructor
    · intro h
      obtain ⟨s', rest, ⟨hs, rfl⟩, ⟨hall, rfl⟩, rfl⟩ := h
      exact ⟨List.forall_mem_cons.2 ⟨hs, hall⟩, rfl⟩
    · intro h
      obtain ⟨hall, rfl⟩ := h
      obtain ⟨hs, hall⟩ := List.forall_mem_cons.1 hall
      exact ⟨_, _, ⟨hs, rfl⟩, ⟨hall, rfl⟩, rfl⟩

/-- **The DNS section**. -/
lemma validateDNS_eq_ok {dns dns' : Option DNSOptions} {tags : List String} :
    validateDNS quote dns outboundTags = .ok (dns', tags) ↔
      (∀ d ∈ dns, d.Safe outboundTags) ∧
        dns' = dns.map (fun d => { d with servers := d.servers.map DNSServerOptions.normalized }) ∧
        tags = (dns.map DNSOptions.tags).getD [] := by
  cases dns with
  | none => simp [validateDNS, eq_comm]
  | some dns =>
    rw [validateDNS, guard_eq_ok]
    simp only [dnsServerTags_eq_ok List.nodup_nil, List.nil_append, bind_eq_ok, mapM_validateDNSServer, guard_eq_ok,
      Option.mem_some_iff,
      forall_eq', Option.map_some, Option.getD_some]
    constructor
    · intro h
      obtain ⟨hfake, _, ⟨hnodup, rfl⟩, servers, ⟨hservers, rfl⟩, hfinal, _, hrules, heq⟩ := h
      obtain ⟨rfl, rfl⟩ := Prod.mk.inj (Except.ok.inj heq)
      exact ⟨⟨by simpa using hfake, hnodup, hservers, declared_iff.2 hfinal, validateDNSRules_eq_ok.1 hrules⟩, rfl, rfl⟩
    · intro h
      obtain ⟨hsafe, rfl, rfl⟩ := h
      exact ⟨by simp [hsafe.fakeIP], _, ⟨hsafe.nodup, rfl⟩, _, ⟨hsafe.servers, rfl⟩, declared_iff.1 hsafe.final, (),
        validateDNSRules_eq_ok.2 hsafe.rules, rfl⟩

/-- **The route section**. -/
lemma validateRoute_eq_ok {route : Option RouteOptions} :
    validateRoute quote route outboundTags dnsTags = .ok () ↔
      ∃ r, route = some r ∧ r.Safe outboundTags dnsTags := by
  cases route with
  | none => simp [validateRoute]
  | some route =>
    rw [validateRoute, then_eq_ok]
    simp only [denyKeys_eq_ok, guard_eq_ok, not_not, then_eq_ok, checkResolver_eq_ok, validateRouteRules_eq_ok,
      Option.some.injEq, exists_eq_left']
    constructor
    · intro h
      exact ⟨h.1, h.2.1, h.2.2.1, h.2.2.2⟩
    · intro h
      exact ⟨h.keys, h.final, h.resolver, h.rules⟩

/-! ### The whole config -/

variable {opts opts' : Options}

/-- **Exactly the safe options pass**, and what comes out differs only by what is normalised. -/
theorem validateOptions_eq_ok :
    validateOptions quote opts socksPort = .ok opts' ↔ opts.Safe socksPort ∧ opts' = opts.normalized := by
  have hlog : ¬ (opts.log.map LogOptions.output).getD "" ≠ "" ↔ ∀ log ∈ opts.log, log.output = "" := by
    cases opts.log with
    | none => simp
    | some log => simp
  rw [validateOptions]
  simp only [guard_eq_ok, hlog, validateOutbounds, validateOutboundsFrom_eq_ok List.nodup_nil,
    List.nil_append, validateInbounds_eq_ok, Bool.not_eq_true, Option.isSome_eq_false_iff,
    Option.isNone_iff_eq_none, not_not, ne_eq, bind_eq_ok, not_true_eq_false, false_or]
  constructor
  · intro h
    obtain ⟨hntp, hcertificate, hendpoints, hservices, hexperimental, hlog, _, ⟨hall, hnodup, hsocks, rfl⟩, _,
      ⟨hinbound, rfl⟩, ⟨dns', tags⟩, hdns, _, hroute, heq⟩ := h
    obtain ⟨hsafe, rfl, rfl⟩ := validateDNS_eq_ok.1 hdns
    exact ⟨⟨hntp, hcertificate, hendpoints, hservices, hexperimental, hlog, hnodup, hall,
      hsocks, hinbound, hsafe, validateRoute_eq_ok.1 hroute⟩, (Except.ok.inj heq).symm⟩
  · intro h
    obtain ⟨hsafe, rfl⟩ := h
    exact ⟨hsafe.ntp, hsafe.certificate, hsafe.endpoints, hsafe.services, hsafe.experimental, hsafe.log, _,
      ⟨hsafe.outbounds, hsafe.nodup, hsafe.core, rfl⟩, _, ⟨hsafe.inbounds, rfl⟩, (_, _),
      validateDNS_eq_ok.2 ⟨hsafe.dns, rfl, rfl⟩, (), validateRoute_eq_ok.2 hsafe.route, rfl⟩

/-- **Exactly the safe configs pass**: the port is one of a core, the config is decoded, and what it contains is
safe. What comes out is that, normalised.

**Proof sketch.** Each check succeeds exactly if its part is safe: the loops over the outbounds and the tags by
induction with the tags so far, the rules by induction over their nesting. -/
theorem validateTunConfig_eq_ok {decode : String → Except Err Options} {config : String} :
    validateTunConfig quote decode config socksPort = .ok opts ↔
      (1 ≤ socksPort ∧ socksPort ≤ 65535) ∧
        ∃ decoded, decode config = .ok decoded ∧ decoded.Safe socksPort ∧ opts = decoded.normalized := by
  rw [validateTunConfig, guard_eq_ok, bind_eq_ok]
  simp only [mapError_eq_ok, validateOptions_eq_ok]
  refine and_congr_left fun _ => ?_
  omega

example : (validateOptions id
    { outbounds := [⟨"socks", "core", .socks ⟨"127.0.0.1", 2080, []⟩⟩, ⟨"direct", "direct", .direct []⟩]
      inbounds := [⟨"tun", "tun-in", .tun { stack := "gvisor" }⟩]
      route := some { final := "core" } } 2080).isOk = true := by
  decide +kernel

/-! ### What comes out -/

/-- A normalised Tun has only what is allowed. -/
lemma TunInboundOptions.only_normalized {o : TunInboundOptions} (h : o.value.Only tunKeys) :
    o.normalized.value.Only tunKeys := by
  have hauto : (jsonField "AutoRoute" "auto_route").flattened = false ∧
      (jsonField "AutoRoute" "auto_route").key ∈ tunKeys := by decide +kernel
  have hname : (jsonField "InterfaceName" "interface_name").flattened = false ∧
      (jsonField "InterfaceName" "interface_name").key ∈ tunKeys := by decide +kernel
  refine Value.only_cons_of_mem hname.1 hname.2 (Value.only_cons_of_mem hauto.1 hauto.2 (h.mono fun field hmem => ?_))
  exact List.mem_cons_of_mem _ (List.mem_cons_of_mem _ hmem)

/-- A normalised local DNS server has only what is allowed. -/
lemma LocalDNSServerOptions.only_normalized {o : LocalDNSServerOptions}
    (h : o.value.Only ("prefer_go" :: dnsDialKeys)) : o.normalized.value.Only ("prefer_go" :: dnsDialKeys) := by
  have hprefer : (jsonField "PreferGo" "prefer_go").flattened = false ∧
      (jsonField "PreferGo" "prefer_go").key ∈ "prefer_go" :: dnsDialKeys := by decide +kernel
  have hfields : (Value.struct ((jsonField "PreferGo" "prefer_go", .scalar false) ::
      (embeddedField "DialerOptions", o.dialer.value) :: o.rest)).Only ("prefer_go" :: dnsDialKeys) := by
    refine Value.only_cons_of_mem hprefer.1 hprefer.2 (h.mono fun field hmem => ?_)
    rcases List.mem_cons.1 hmem with rfl | hmem
    · exact List.mem_cons_self
    · exact List.mem_cons_of_mem _ (List.mem_cons_of_mem _ hmem)
  refine hfields.mono fun field hmem => ?_
  rcases List.mem_cons.1 hmem with rfl | hmem
  · exact List.mem_cons_of_mem _ List.mem_cons_self
  · rcases List.mem_cons.1 hmem with rfl | hmem
    · exact List.mem_cons_self
    · exact List.mem_cons_of_mem _ (List.mem_cons_of_mem _ hmem)

/-- Normalising keeps the type and the tag of a server. -/
lemma DNSServerOptions.same_normalized (s : DNSServerOptions) :
    s.normalized.type = s.type ∧ s.normalized.tag = s.tag := by
  rw [DNSServerOptions.normalized]
  cases s.options <;> exact ⟨rfl, rfl⟩

/-- The options of a normalised server are what they may be. -/
lemma DNSServerOptions.safe_normalized {s : DNSServerOptions} (h : s.options.Safe dnsTags outboundTags) :
    s.normalized.options.Safe dnsTags outboundTags := by
  rw [DNSServerOptions.normalized]
  cases hoptions : s.options with
  | «local» o =>
    rw [hoptions] at h
    exact ⟨LocalDNSServerOptions.only_normalized h.1, h.2⟩
  | _ => simpa [hoptions] using h

/-- The tags of the servers are those of the normalised ones. -/
lemma DNSOptions.tags_normalized (dns : DNSOptions) :
    ({ dns with servers := dns.servers.map DNSServerOptions.normalized } : DNSOptions).tags = dns.tags := by
  rw [DNSOptions.tags, DNSOptions.tags, List.map_map]
  congr 2
  funext s
  exact s.same_normalized.2

/-- **What is normalised is safe** if the config was. -/
lemma Options.Safe.normalized (h : opts.Safe socksPort) : opts.normalized.Safe socksPort := by
  have hdnsTags : opts.normalized.dnsTags = opts.dnsTags := by
    cases hdns : opts.dns with
    | none => simp [Options.dnsTags, Options.normalized, hdns]
    | some dns => simp [Options.dnsTags, Options.normalized, hdns, DNSOptions.tags_normalized]
  obtain ⟨inbound, hinbounds, htype, tun, htun, honly, hstack⟩ := h.inbounds
  refine ⟨h.ntp, h.certificate, h.endpoints, h.services, h.experimental, h.log, h.nodup, h.outbounds, h.core,
    ⟨inbound.normalized, by rw [Options.normalized, hinbounds, List.map_singleton], ?_⟩, fun dns hdns => ?_, ?_⟩
  · rw [Inbound.normalized, htun]
    exact ⟨htype, _, rfl, TunInboundOptions.only_normalized honly, hstack⟩
  · obtain ⟨dns, hmem, rfl⟩ := Option.map_eq_some_iff.1 (show opts.dns.map _ = some dns from hdns)
    have hsafe := h.dns dns hmem
    refine ⟨hsafe.fakeIP, ?_, ?_, ?_, ?_⟩
    · rw [DNSOptions.tags_normalized]
      exact hsafe.nodup
    · intro s hs
      obtain ⟨s', hs', rfl⟩ := List.mem_map.1 hs
      obtain ⟨htype, hoptions⟩ := hsafe.servers s' hs'
      rw [s'.same_normalized.1, DNSOptions.tags_normalized]
      exact ⟨htype, DNSServerOptions.safe_normalized hoptions⟩
    · rw [DNSOptions.tags_normalized]
      exact hsafe.final
    · rw [DNSOptions.tags_normalized]
      exact hsafe.rules
  · rw [hdnsTags]
    exact h.route

/-- Normalising twice is normalising once. -/
lemma Options.normalized_normalized (opts : Options) : opts.normalized.normalized = opts.normalized := by
  have hinbound : Inbound.normalized ∘ Inbound.normalized = Inbound.normalized := by
    funext inbound
    rw [Function.comp_apply, Inbound.normalized]
    cases hoptions : inbound.options <;> simp [Inbound.normalized, hoptions, TunInboundOptions.normalized]
  have hserver : DNSServerOptions.normalized ∘ DNSServerOptions.normalized = DNSServerOptions.normalized := by
    funext s
    rw [Function.comp_apply, DNSServerOptions.normalized]
    cases hoptions : s.options <;> simp [DNSServerOptions.normalized, hoptions, LocalDNSServerOptions.normalized]
  rw [Options.normalized, Options.normalized]
  simp only [List.map_map, Option.map_map, hinbound]
  congr 1
  refine congrArg (Option.map · opts.dns) ?_
  funext dns
  simp [hserver]

/-- **What comes out of the check passes again** as it is: nothing that is normalised leads out of what is safe. -/
theorem validateOptions_normalized (h : validateOptions quote opts socksPort = .ok opts') :
    validateOptions quote opts' socksPort = .ok opts' := by
  obtain ⟨hsafe, rfl⟩ := validateOptions_eq_ok.1 h
  exact validateOptions_eq_ok.2 ⟨hsafe.normalized, (Options.normalized_normalized opts).symm⟩

end Checks

end Proxor.MacHelper
