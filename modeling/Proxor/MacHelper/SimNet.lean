import Proxor.MacHelper.SysproxyManager

set_option relaxedAutoImplicit false
set_option autoImplicit false

/-!
# networksetup and the snapshot file

The environment of the system proxy manager: networksetup as the tests' `simNet` has it (getters
print the current settings, setters change them, a failed command changes nothing), and the file of
the snapshot store.

## Main definitions

* `Proxor.MacHelper.Hardware` — the services of a machine, which no command changes.
* `Proxor.MacHelper.World` — the settings of every service and the snapshot file.
* `Proxor.MacHelper.Hardware.handler` — what each operation does, given which operations fail.
* `Proxor.MacHelper.Machine` — a machine whose settings networksetup can print.

## Main results

* `Proxor.MacHelper.Hardware.handler_cmd_net` — a command changes the settings of its own service
  only.
-/

namespace Proxor.MacHelper

open Resumption Text

/-- The network services of a machine, in order, with their hardware device, whether each is
disabled and whether it has no IPv4 address. -/
structure Hardware where
  order : List String
  device : String → String
  disabled : String → Bool
  noIP : String → Bool

/-- What is at the path of the snapshot store. -/
inductive StoreFile
  | absent
  | corrupt
  | stored (snap : Snapshot)
deriving DecidableEq

/-- What the file keeps of a snapshot: `json.Marshal` omits an empty `appliedBypass`. -/
def Snapshot.persisted (snap : Snapshot) : Snapshot :=
  { snap with appliedBypass := snap.appliedBypass.filter fun l => l ≠ [] }

/-- The settings of every service and the snapshot file. -/
structure World where
  net : String → Settings
  file : StoreFile

/-! ### Setters -/

/-- One of the three proxies. -/
def Settings.proxy (st : Settings) : ProxyKind → ProxyState
  | .web => st.web
  | .secure => st.secure
  | .socks => st.socks

/-- Replace one of the three proxies. -/
def Settings.setProxy (st : Settings) (p : ProxyState) : ProxyKind → Settings
  | .web => { st with web := p }
  | .secure => { st with secure := p }
  | .socks => { st with socks := p }

/-- What a successful setter does to the settings of its service. Setting a proxy or a PAC URL also
enables it; the bypass list `Empty` clears the list. -/
def Argv.effect : Argv → Settings → Settings
  | setProxy kind _ server port, st => st.setProxy { enabled := true, server, port } kind
  | setProxyState kind _ on, st => st.setProxy { st.proxy kind with enabled := on } kind
  | setProxyBypassDomains _ domains, st =>
    { st with bypass := if domains = ["Empty"] then [] else domains }
  | setAutoProxyURL _ url, st => { st with autoURL := url, autoURLEnabled := true }
  | setAutoProxyState _ on, st => { st with autoURLEnabled := on }
  | setProxyAutoDiscovery _ on, st => { st with autoDiscovery := on }
  | _, st => st

/-! ### Getters -/

/-- `Yes` or `No`. -/
def yesNo (b : Bool) : String := if b then "Yes" else "No"

/-- A `Key: value` line. -/
def keyLine (key value : String) : String := key ++ (":" ++ (" " ++ value))

/-- The output of a proxy getter. -/
def fmtProxy (p : ProxyState) : String :=
  unlines [keyLine "Enabled" (yesNo p.enabled), keyLine "Server" p.server,
    keyLine "Port" (toString p.port), keyLine "Authenticated Proxy Enabled" "0"]

/-- The sentence printed instead of an empty bypass list. -/
def noBypass : String := "There aren't any bypass domains set"

/-- The output of the bypass getter. -/
def fmtBypass (name : String) (bypass : List String) : String :=
  if bypass = [] then unlines [noBypass ++ " on " ++ name ++ "."] else unlines bypass

/-- The output of the PAC getter. -/
def fmtAutoProxy (url : String) (enabled : Bool) : String :=
  unlines [keyLine "URL" (if url = "" then "(null)" else url), keyLine "Enabled" (yesNo enabled)]

/-- The output of the WPAD getter. -/
def fmtAutoDiscovery (on : Bool) : String :=
  unlines [keyLine "Auto Proxy Discovery" (if on then "On" else "Off")]

/-- The header of both listings. -/
def listingHeader : String := "An asterisk (*) denotes that a network service is disabled."

namespace Hardware

variable (hw : Hardware)

/-- The three lines of a service in the first listing. -/
def orderLines (p : String × ℕ) : List String :=
  ["(" ++ (toString ((p.2 : ℤ) + 1) ++ (") " ++ p.1)),
    "(Hardware Port: " ++ (p.1 ++ (", Device: " ++ (hw.device p.1 ++ ")"))), ""]

/-- The output of `-listnetworkserviceorder`. -/
def fmtServiceOrder : String := unlines (listingHeader :: hw.order.zipIdx.flatMap hw.orderLines)

/-- The output of `-listallnetworkservices`. -/
def fmtAllServices : String :=
  unlines (listingHeader :: hw.order.map fun name => (if hw.disabled name then "*" else "") ++ name)

/-- The output of `-getinfo`. -/
def fmtInfo (name : String) : String :=
  if hw.noIP name then
    unlines ["Manual Configuration", "IP address: none", "Subnet mask: none", "Router: none"]
  else unlines ["DHCP Configuration", "IP address: 192.168.1.20", "Subnet mask: 255.255.255.0",
    "Router: 192.168.1.1"]

/-- What a successful command prints. -/
def output (net : String → Settings) : Argv → String
  | .listNetworkServiceOrder => hw.fmtServiceOrder
  | .listAllNetworkServices => hw.fmtAllServices
  | .getInfo name => hw.fmtInfo name
  | .getProxy kind name => fmtProxy ((net name).proxy kind)
  | .getProxyBypassDomains name => fmtBypass name (net name).bypass
  | .getAutoProxyURL name => fmtAutoProxy (net name).autoURL (net name).autoURLEnabled
  | .getProxyAutoDiscovery name => fmtAutoDiscovery (net name).autoDiscovery
  | _ => ""

/-- One networksetup command: output, error and the settings afterwards. -/
def exec (args : Argv) (net : String → Settings) : (String × Option Err) × (String → Settings) :=
  match args.service with
  | none => ((hw.output net args, none), net)
  | some name =>
    if name ∈ hw.order then
      ((hw.output net args, none), Function.update net name (args.effect (net name)))
    else
      (("** Error: Unable to find item in network database.\n", some (.text "exit status 1")), net)

/-- What each operation does when `fails` says which operations fail. A failed command changes
nothing, and a failed file operation leaves the file as it is. -/
def handler (fails : Op → Bool) : Handler Op Op.Res World
  | .cmd phase retry args, w =>
    if fails (.cmd phase retry args) then (("", some (.text "exit status 1")), w)
    else ((hw.exec args w.net).1, { w with net := (hw.exec args w.net).2 })
  | .readStore, w =>
    if fails .readStore then (.error (.text "read error"), w)
    else match w.file with
      | .absent => (.ok none, w)
      | .corrupt => (.error (.text "snapshot: invalid JSON"), w)
      | .stored snap => (.ok (some snap), w)
  | .replaceStore again snap, w =>
    if fails (.replaceStore again snap) then (some (.text "write error"), w)
    else (none, { w with file := .stored snap.persisted })
  | .removeStore, w =>
    if fails .removeStore then (some (.text "remove error"), w)
    else (none, { w with file := .absent })
  | .renameStore, w =>
    if fails .renameStore then (some (.text "rename error"), w)
    else (none, { w with file := .absent })

/-! ### What an operation does -/

variable {hw} {fails : Op → Bool}

lemma exec_of_mem {args : Argv} {name : String} (hs : args.service = some name)
    (hm : name ∈ hw.order) (net : String → Settings) :
    hw.exec args net =
      ((hw.output net args, none), Function.update net name (args.effect (net name))) := by
  simp [exec, hs, hm]

lemma handler_cmd_of_fails {phase : Phase} {retry : Bool} {args : Argv}
    (hf : fails (.cmd phase retry args) = true) (w : World) :
    hw.handler fails (.cmd phase retry args) w = (("", some (.text "exit status 1")), w) :=
  if_pos hf

lemma handler_cmd_of_not_fails {phase : Phase} {retry : Bool} {args : Argv}
    (hf : fails (.cmd phase retry args) = false) (w : World) :
    hw.handler fails (.cmd phase retry args) w =
      ((hw.exec args w.net).1, { w with net := (hw.exec args w.net).2 }) :=
  if_neg (by simp [hf])

/-- A command does not touch the file. -/
@[simp] lemma handler_cmd_file (phase : Phase) (retry : Bool) (args : Argv) (w : World) :
    (hw.handler fails (.cmd phase retry args) w).2.file = w.file := by
  cases hf : fails (.cmd phase retry args)
  · rw [handler_cmd_of_not_fails hf]
  · rw [handler_cmd_of_fails hf]

/-- A command changes the settings of the service it names only, if it changes anything. -/
lemma handler_cmd_net (phase : Phase) (retry : Bool) (args : Argv) (w : World) :
    (hw.handler fails (.cmd phase retry args) w).2.net = w.net ∨
      ∃ name ∈ hw.order, args.service = some name ∧ fails (.cmd phase retry args) = false ∧
        (hw.handler fails (.cmd phase retry args) w).2.net =
          Function.update w.net name (args.effect (w.net name)) := by
  cases hf : fails (.cmd phase retry args)
  · rw [handler_cmd_of_not_fails hf]
    cases hs : args.service with
    | none => exact Or.inl (by simp [exec, hs])
    | some name =>
      by_cases hm : name ∈ hw.order
      · exact Or.inr ⟨name, hm, rfl, rfl, by rw [exec_of_mem hs hm]⟩
      · exact Or.inl (by simp [exec, hs, hm])
  · exact Or.inl (by rw [handler_cmd_of_fails hf])

lemma handler_removeStore_of_not_fails (hf : fails .removeStore = false) (w : World) :
    hw.handler fails .removeStore w = (none, { w with file := .absent }) :=
  if_neg (by simp [hf])

lemma handler_replaceStore_of_not_fails {again : Bool} {snap : Snapshot}
    (hf : fails (.replaceStore again snap) = false) (w : World) :
    hw.handler fails (.replaceStore again snap) w =
      (none, { w with file := .stored snap.persisted }) :=
  if_neg (by simp [hf])

lemma handler_removeStore_of_fails (hf : fails .removeStore = true) (w : World) :
    hw.handler fails .removeStore w = (some (.text "remove error"), w) :=
  if_pos hf

lemma handler_replaceStore_of_fails {again : Bool} {snap : Snapshot}
    (hf : fails (.replaceStore again snap) = true) (w : World) :
    hw.handler fails (.replaceStore again snap) w = (some (.text "write error"), w) :=
  if_pos hf

/-- Replacing the file does not touch the settings. -/
@[simp] lemma handler_replaceStore_net (again : Bool) (snap : Snapshot) (w : World) :
    (hw.handler fails (.replaceStore again snap) w).2.net = w.net := by
  cases hf : fails (.replaceStore again snap)
  · rw [handler_replaceStore_of_not_fails hf]
  · rw [handler_replaceStore_of_fails hf]

/-- Nor does removing it. -/
@[simp] lemma handler_removeStore_net (w : World) :
    (hw.handler fails .removeStore w).2.net = w.net := by
  cases hf : fails .removeStore
  · rw [handler_removeStore_of_not_fails hf]
  · rw [handler_removeStore_of_fails hf]

end Hardware

namespace ProxyManager

variable {hw : Hardware} {fails : Op → Bool} {phase : Phase} {retry : Bool} {args : Argv}

/-- Running a command issues that command only. -/
lemma opsIn_run {D : Op → Prop} (hD : D (.cmd phase retry args)) :
    (run phase retry args).OpsIn D := by
  refine ⟨hD, fun r => ?_⟩
  dsimp only
  split
  · split <;> trivial
  · split <;> trivial

/-- A failed command is an error and changes nothing. -/
lemma run_of_fails (hf : fails (.cmd phase retry args) = true) (w : World) :
    ∃ err, (run phase retry args).run (hw.handler fails) w = (.error err, w) := by
  refine ⟨.text "exit status 1", ?_⟩
  rw [run, Prog.run_op, Hardware.handler_cmd_of_fails hf]
  rfl

/-- A setter of an existing service that does not fail takes effect. -/
lemma run_setter {name : String} (ht : args.target = some name) (hm : name ∈ hw.order)
    (hf : fails (.cmd phase retry args) = false) (w : World) :
    (run phase retry args).run (hw.handler fails) w =
      (.ok "", { w with net := Function.update w.net name (args.effect (w.net name)) }) := by
  have hout : hw.output w.net args = "" := by
    cases args <;> simp_all [Argv.target, Hardware.output]
  rw [run, Prog.run_op, Hardware.handler_cmd_of_not_fails hf,
    Hardware.exec_of_mem (Argv.service_of_target ht) hm, hout]
  rfl

/-- What the service listing printed, when it is no error. -/
lemma listing_eq_ok {out : String} {w : World}
    (h : ((run phase retry .listNetworkServiceOrder).run (hw.handler fails) w).1 = .ok out) :
    out = hw.fmtServiceOrder := by
  cases hf : fails (.cmd phase retry .listNetworkServiceOrder) with
  | true =>
    obtain ⟨err, hrun⟩ := @run_of_fails hw _ _ _ _ hf w
    simp [hrun] at h
  | false =>
    rw [run, Prog.run_op, Hardware.handler_cmd_of_not_fails hf] at h
    dsimp only [Hardware.exec, Argv.service] at h
    split at h
    · exact (Except.ok.inj h).symm
    · exact absurd h (by simp)

/-- What a command that names a service printed, when it is no error. -/
lemma run_eq_ok {name out : String} (hs : args.service = some name) {w : World}
    (h : ((run phase retry args).run (hw.handler fails) w).1 = .ok out) :
    name ∈ hw.order ∧ out = hw.output w.net args := by
  cases hf : fails (.cmd phase retry args) with
  | true =>
    obtain ⟨err, hrun⟩ := @run_of_fails hw _ _ _ _ hf w
    simp [hrun] at h
  | false =>
    by_cases hm : name ∈ hw.order
    · refine ⟨hm, ?_⟩
      rw [run, Prog.run_op, Hardware.handler_cmd_of_not_fails hf,
        Hardware.exec_of_mem hs hm] at h
      dsimp only at h
      split at h
      · exact (Except.ok.inj h).symm
      · exact absurd h (by simp)
    · have hexec : hw.exec args w.net =
          (("** Error: Unable to find item in network database.\n",
            some (.text "exit status 1")), w.net) := by
        simp [Hardware.exec, hs, hm]
      rw [run, Prog.run_op, Hardware.handler_cmd_of_not_fails hf, hexec] at h
      dsimp only at h
      split at h <;> exact absurd h (by simp)

end ProxyManager

/-! ### What networksetup can print -/

/-- A value that fills the rest of a line: no newline, no blanks around it. -/
structure Line (s : String) : Prop where
  newline : '\n' ∉ s.toList
  trimmed : trimSpace s = s

/-- Settings whose getters print them faithfully, as one line for each value, and which the setters
can write back: a proxy without server has port 0, and the bypass list is not the literal
`Empty` that stands for none. -/
structure Settings.Printable (st : Settings) : Prop where
  server : ∀ kind, Line (st.proxy kind).server
  port : ∀ kind, (st.proxy kind).server = "" → (st.proxy kind).port = 0
  bypass : ∀ d ∈ st.bypass, Line d ∧ d ≠ "" ∧ ¬ noBypass.toList <:+: d.toList
  bypass_ne : st.bypass ≠ ["Empty"]
  autoURL : Line st.autoURL
  autoURL_ne : st.autoURL ≠ "(null)"

/-- A machine before the manager first touches it: distinct service names that the listings print
faithfully, and printable settings. -/
structure Machine extends Hardware where
  net : String → Settings
  order_nodup : order.Nodup
  order_line : ∀ name ∈ order, '\n' ∉ name.toList ∧ name ≠ "" ∧
    ∀ c, name.toList.getLast? = some c → c ∉ [' ', '\t', '\r']
  device_line : ∀ name ∈ order, '\n' ∉ (device name).toList
  printable : ∀ name ∈ order, (net name).Printable

/-- A proxy that was never set. -/
def proxyOff : ProxyState := { enabled := false, server := "", port := 0 }

/-- A machine with one service, whose only proxy is a secure one and whose bypass list is
`localhost`. -/
def laptop : Machine where
  order := ["Wi-Fi"]
  device _ := "en0"
  disabled _ := false
  noIP _ := false
  net _ := {
    web := proxyOff
    secure := { enabled := true, server := "10.0.0.1", port := 3128 }
    socks := proxyOff
    bypass := ["localhost"]
    autoURL := ""
    autoURLEnabled := false
    autoDiscovery := true }
  order_nodup := by decide
  order_line := fun name hname => by
    obtain rfl := List.mem_singleton.1 hname
    refine ⟨by decide, by decide, fun c hc => ?_⟩
    have hlast : "Wi-Fi".toList.getLast? = some 'i' := rfl
    obtain rfl := Option.some.inj (hlast.symm.trans hc)
    decide
  device_line := by decide
  printable _ _ := {
    server := fun kind => by cases kind <;> exact ⟨by decide, by decide⟩
    port := fun kind => by cases kind <;> decide
    bypass := fun d hd => by
      obtain rfl := List.mem_singleton.1 hd
      exact ⟨⟨by decide, by decide⟩, by decide, by decide⟩
    bypass_ne := by decide
    autoURL := ⟨by decide, by decide⟩
    autoURL_ne := by decide }

end Proxor.MacHelper
