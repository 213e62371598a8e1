import Proxor.Lib.Text

set_option relaxedAutoImplicit false
set_option autoImplicit false

/-!
# The system proxy plan: what is read from and written to networksetup

The pure half of the system proxy manager: the settings of a network service, the parsers of
networksetup's output, the commands an apply and a restore issue, and the check of a bypass list.

## Main definitions

* `Proxor.MacHelper.ServiceSnapshot`, `Proxor.MacHelper.Snapshot` — recorded settings.
* `Proxor.MacHelper.parseServiceOrder`, `Proxor.MacHelper.parseAllServices`,
  `Proxor.MacHelper.eligibleServices` — the service listings.
* `Proxor.MacHelper.parseProxyState` and its siblings — the getters.
* `Proxor.MacHelper.applyPlan`, `Proxor.MacHelper.restorePlan` — the commands.
* `Proxor.MacHelper.validateBypass` — the deny-by-default check of a bypass list.

## Design

An argument list is a value of `Proxor.MacHelper.Argv`, one constructor for each networksetup
command with its arguments; a port argument is the number `strconv.Itoa` prints. Go's errors are
`Proxor.MacHelper.Err`, with the text of each message.
-/

namespace Proxor.MacHelper

open Text

/-! ### Data -/

/-- Errors: a message, a context put before a cause, command output put after one, several
joined, and the `%q` of a character. -/
inductive Err
  | text (msg : String)
  | wrap (context : String) (cause : Err)
  | withOutput (cause : Err) (out : String)
  | join (causes : List Err)
  | forbiddenCharacter (entry : ℕ) (c : Char)

/-- One entry of `-listnetworkserviceorder`. VPN services show an empty hardware device. -/
structure NetworkService where
  name : String
  device : String := ""
  disabled : Bool := false
deriving DecidableEq

/-- One of the three proxies of a service. -/
structure ProxyState where
  enabled : Bool
  server : String
  port : ℤ
deriving DecidableEq

/-- The PAC (`-getautoproxyurl`) state. -/
structure AutoProxy where
  url : String
  enabled : Bool
deriving DecidableEq

/-- The proxy settings of a service. -/
structure Settings where
  web : ProxyState
  secure : ProxyState
  socks : ProxyState
  bypass : List String
  autoURL : String
  autoURLEnabled : Bool
  autoDiscovery : Bool
deriving DecidableEq

/-- The recorded settings of a service. -/
structure ServiceSnapshot extends Settings where
  name : String
deriving DecidableEq

/-- What is persisted before the first write. `appliedBypass` is the list an apply wrote; `none`
(Go's nil) means unknown, and the recorded list is always written back. -/
structure Snapshot where
  applied : Bool := false
  port : ℤ := 0
  services : List ServiceSnapshot := []
  appliedBypass : Option (List String) := none
deriving DecidableEq

/-- The three proxies of a service. -/
inductive ProxyKind
  | web | secure | socks
deriving DecidableEq

/-- The argument lists networksetup is run with. -/
inductive Argv
  | listNetworkServiceOrder
  | listAllNetworkServices
  | getInfo (service : String)
  | getProxy (kind : ProxyKind) (service : String)
  | getProxyBypassDomains (service : String)
  | getAutoProxyURL (service : String)
  | getProxyAutoDiscovery (service : String)
  | setProxy (kind : ProxyKind) (service server : String) (port : ℤ)
  | setProxyState (kind : ProxyKind) (service : String) (on : Bool)
  | setProxyBypassDomains (service : String) (domains : List String)
  | setAutoProxyURL (service url : String)
  | setAutoProxyState (service : String) (on : Bool)
  | setProxyAutoDiscovery (service : String) (on : Bool)
deriving DecidableEq

/-- The first argument, networksetup's own name of the command. -/
def Argv.arg0 : Argv → String
  | listNetworkServiceOrder => "-listnetworkserviceorder"
  | listAllNetworkServices => "-listallnetworkservices"
  | getInfo _ => "-getinfo"
  | getProxy .web _ => "-getwebproxy"
  | getProxy .secure _ => "-getsecurewebproxy"
  | getProxy .socks _ => "-getsocksfirewallproxy"
  | getProxyBypassDomains _ => "-getproxybypassdomains"
  | getAutoProxyURL _ => "-getautoproxyurl"
  | getProxyAutoDiscovery _ => "-getproxyautodiscovery"
  | setProxy .web _ _ _ => "-setwebproxy"
  | setProxy .secure _ _ _ => "-setsecurewebproxy"
  | setProxy .socks _ _ _ => "-setsocksfirewallproxy"
  | setProxyState .web _ _ => "-setwebproxystate"
  | setProxyState .secure _ _ => "-setsecurewebproxystate"
  | setProxyState .socks _ _ => "-setsocksfirewallproxystate"
  | setProxyBypassDomains _ _ => "-setproxybypassdomains"
  | setAutoProxyURL _ _ => "-setautoproxyurl"
  | setAutoProxyState _ _ => "-setautoproxystate"
  | setProxyAutoDiscovery _ _ => "-setproxyautodiscovery"

/-- The service a command names, if it names one. -/
def Argv.service : Argv → Option String
  | listNetworkServiceOrder | listAllNetworkServices => none
  | getInfo name | getProxy _ name | getProxyBypassDomains name | getAutoProxyURL name
  | getProxyAutoDiscovery name | setProxy _ name _ _ | setProxyState _ name _
  | setProxyBypassDomains name _ | setAutoProxyURL name _ | setAutoProxyState name _
  | setProxyAutoDiscovery name _ => some name

/-- The service a command may change. -/
def Argv.target : Argv → Option String
  | setProxy _ name _ _ | setProxyState _ name _ | setProxyBypassDomains name _
  | setAutoProxyURL name _ | setAutoProxyState name _ | setProxyAutoDiscovery name _ => some name
  | _ => none

lemma Argv.service_of_target {args : Argv} {name : String} (h : args.target = some name) :
    args.service = some name := by
  cases args <;> simp_all [target, service]

/-- The list applied when the client sends none. -/
def defaultBypass : List String :=
  ["127.0.0.1", "localhost", "*.local", "169.254.0.0/16", "10.0.0.0/8", "172.16.0.0/12",
    "192.168.0.0/16", "100.64.0.0/10"]

/-! ### Parsing networksetup's output -/

/-- The error networksetup printed, if any. -/
def checkNoError (out : String) : Except Err Unit :=
  match (splitLines out).find? fun line => hasPrefix (trimSpace line) "** Error:" with
  | some line => .error (.text (trimSpace line))
  | none => .ok ()

/-- Recognises `(N) Name` and `(*) Name`; returns the name and whether it is disabled. -/
def parseServiceHeader (line : String) : Option (String × Bool) :=
  if hasPrefix line "(" then
    match cut line ") " with
    | none => none
    | some (before, name) =>
      let marker := trimPrefix before "("
      if marker = "*" then
        if name = "" then none else some (name, true)
      else if (atoi marker).isNone then none
      else if name = "" then none else some (name, false)
  else none

/-- Set the device of the last service read. -/
def setLastDevice (device : String) : List NetworkService → List NetworkService
  | [] => []
  | [s] => [{ s with device }]
  | s :: ss => s :: setLastDevice device ss

/-- What one line of `-listnetworkserviceorder` adds to the services read so far. -/
def parseServiceOrderLine (services : List NetworkService) (raw : String) : List NetworkService :=
  let line := trimRight [' ', '\t', '\r'] raw
  if line = "" then services
  else match parseServiceHeader line with
    | some (name, disabled) => services ++ [{ name, disabled }]
    | none =>
      if hasPrefix line "(Hardware Port:" && hasSuffix line ")" && !services.isEmpty then
        -- the hardware port may itself contain ", " but never ", Device: "
        match cutAtLast (trimSuffix line ")") ", Device:" with
        | some (_, device) => setLastDevice (trimSpace device) services
        | none => services
      else services

/-- Parses `-listnetworkserviceorder`. -/
def parseServiceOrder (out : String) : Except Err (List NetworkService) := do
  checkNoError out
  return (splitLines out).foldl parseServiceOrderLine []

/-- What one line of `-listallnetworkservices` adds to the services read so far. -/
def parseAllServicesLine (services : List NetworkService) (raw : String) : List NetworkService :=
  let line := trimRight [' ', '\t', '\r'] raw
  if line = "" || hasPrefix line "An asterisk (*) denotes" then services
  else if hasPrefix line "*" then
    services ++ [{ name := trimPrefix line "*", disabled := true }]
  else services ++ [{ name := line }]

/-- Parses `-listallnetworkservices`. -/
def parseAllServices (out : String) : Except Err (List NetworkService) := do
  checkNoError out
  return (splitLines out).foldl parseAllServicesLine []

/-- The services, in `order`'s order, that are enabled (per either listing) and have a non-empty
hardware device. -/
def eligibleServices (order all : List NetworkService) : List NetworkService :=
  order.filter fun s =>
    !(s.disabled || (all.any fun a => a.disabled && a.name == s.name) || s.device == "")

/-- ASCII case folding, enough to compare with an ASCII word. -/
def foldCase (s : String) : String := String.ofList (s.toList.map Char.toLower)

/-- Whether `-getinfo` shows an IPv4 address; only the first `IP address:` line counts. -/
def parseHasIPv4 (out : String) : Except Err Bool := do
  checkNoError out
  match (splitLines out).findSome? fun line =>
      (cut line ":").filter fun kv => trimSpace kv.1 == "IP address" with
  | none => return false
  | some (_, v) => return trimSpace v != "" && foldCase (trimSpace v) != "none"

/-- The `Key: value` lines; a later line overrides an earlier one of the same key. -/
def keyValues (out : String) : List (String × String) :=
  ((splitLines out).filterMap fun line =>
    (cut line ":").map fun kv => (trimSpace kv.1, trimSpace kv.2)).reverse

/-- A boolean as networksetup prints it. -/
def parseYesNo (v : String) : Except Err Bool :=
  if foldCase v = "yes" ∨ foldCase v = "on" ∨ foldCase v = "1" then .ok true
  else if foldCase v = "no" ∨ foldCase v = "off" ∨ foldCase v = "0" then .ok false
  else .error (.wrap "unexpected boolean" (.text v))

/-- Parses the output of the three proxy getters. -/
def parseProxyState (out : String) : Except Err ProxyState := do
  checkNoError out
  let kv := keyValues out
  match kv.lookup "Enabled", kv.lookup "Port" with
  | none, _ => throw (.text "proxy state: missing Enabled")
  | some _, none => throw (.text "proxy state: missing Port")
  | some enabledRaw, some portRaw =>
    let enabled ← (parseYesNo enabledRaw).mapError (.wrap "proxy state")
    match atoi portRaw with
    | none => throw (.wrap "proxy state: bad Port" (.text portRaw))
    | some port =>
      if port < 0 ∨ 65535 < port then throw (.wrap "proxy state: bad Port" (.text portRaw))
      else return { enabled, server := (kv.lookup "Server").getD "", port }

/-- Parses `-getproxybypassdomains`: one entry per line, or a sentence when there is none. -/
def parseBypassDomains (out : String) : Except Err (List String) := do
  checkNoError out
  if contains out "There aren't any bypass domains set" then return []
  else return ((splitLines out).map trimSpace).filter fun t => t != ""

/-- Parses `-getautoproxyurl` (`URL: (null)` means none). -/
def parseAutoProxyURL (out : String) : Except Err AutoProxy := do
  checkNoError out
  let kv := keyValues out
  match kv.lookup "Enabled" with
  | none => throw (.text "auto proxy url: missing Enabled")
  | some enabledRaw =>
    let enabled ← (parseYesNo enabledRaw).mapError (.wrap "auto proxy url")
    let url := (kv.lookup "URL").getD ""
    return { url := if url = "(null)" then "" else url, enabled }

/-- Parses `-getproxyautodiscovery`. -/
def parseAutoDiscovery (out : String) : Except Err Bool := do
  checkNoError out
  match (keyValues out).lookup "Auto Proxy Discovery" with
  | none => throw (.text "auto discovery: missing 'Auto Proxy Discovery'")
  | some v => parseYesNo v

/-! ### Plans -/

/-- The commands that point every recorded service at `127.0.0.1:port` with the bypass list. PAC
and WPAD are turned off only where they were on. -/
def applyPlan (snap : Snapshot) (port : ℤ) (bypass : List String) : List Argv :=
  snap.services.flatMap fun s =>
    [.setProxy .web s.name "127.0.0.1" port,
      .setProxy .secure s.name "127.0.0.1" port,
      .setProxy .socks s.name "127.0.0.1" port,
      .setProxyBypassDomains s.name bypass] ++
    (if s.autoURLEnabled then [.setAutoProxyState s.name false] else []) ++
    (if s.autoDiscovery then [.setProxyAutoDiscovery s.name false] else [])

/-- The two commands that write one recorded proxy back; an empty record clears what an apply
left in the server fields. -/
def restoreProxy (service : String) (kind : ProxyKind) (st : ProxyState) : List Argv :=
  [if st.server ≠ "" then .setProxy kind service st.server st.port
    else .setProxy kind service "" 0,
   .setProxyState kind service st.enabled]

/-- The two lists have the same entries. -/
def equalStrings (a b : List String) : Bool := a == b

/-- The commands that write the recorded settings back, only what an apply changed: the bypass
list only when it differs from `appliedBypass`, PAC and WPAD only when they were on. -/
def restorePlan (snap : Snapshot) (appliedBypass : Option (List String)) : List Argv :=
  snap.services.flatMap fun s =>
    restoreProxy s.name .web s.web ++
    restoreProxy s.name .secure s.secure ++
    restoreProxy s.name .socks s.socks ++
    (if appliedBypass.all fun l => !equalStrings s.bypass l then
      [.setProxyBypassDomains s.name (if s.bypass.length = 0 then ["Empty"] else s.bypass)]
    else []) ++
    (if s.autoURLEnabled then
      (if s.autoURL ≠ "" then [.setAutoProxyURL s.name s.autoURL] else []) ++
        [.setAutoProxyState s.name true]
    else []) ++
    (if s.autoDiscovery then [.setProxyAutoDiscovery s.name true] else [])

/-! ### The bypass list -/

def maxBypassEntries : ℕ := 64

def maxBypassLen : ℕ := 253

/-- The characters a bypass entry is built from. -/
def bypassChar (c : Char) : Bool :=
  ('a' ≤ c && c ≤ 'z') || ('A' ≤ c && c ≤ 'Z') || ('0' ≤ c && c ≤ '9') ||
    ['.', '*', '/', ':', '_', '-', '[', ']'].contains c

/-- The check of the `i`-th entry. -/
def validateBypassEntry (i : ℕ) (tok : String) : Except Err Unit :=
  if tok = "" then .error (.text ("bypass entry " ++ toString i ++ " is empty"))
  else if maxBypassLen < tok.utf8ByteSize then
    .error (.text ("bypass entry " ++ toString i ++ " is longer than " ++ toString maxBypassLen))
  else if hasPrefix tok "-" then
    .error (.text ("bypass entry " ++ toString i ++ " starts with '-'"))
  else match tok.toList.find? fun c => !bypassChar c with
    | some c => .error (.forbiddenCharacter i c)
    | none => .ok ()

/-- Entries become arguments of a root process: anything but host names, wildcards, IPs and CIDRs
built from a small character set is rejected. -/
def validateBypass (list : List String) : Except Err Unit :=
  if maxBypassEntries < list.length then
    .error (.text ("bypass list has " ++ toString list.length ++ " entries, max " ++
      toString maxBypassEntries))
  else (list.zipIdx).forM fun p => validateBypassEntry p.2 p.1

/-- The default list passes the check. -/
lemma validateBypass_defaultBypass : (validateBypass defaultBypass).isOk = true := by
  decide +kernel

end Proxor.MacHelper
