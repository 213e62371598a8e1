import Proxor.Lib.Prog
import Proxor.MacHelper.SysproxyPlan

set_option relaxedAutoImplicit false
set_option autoImplicit false

/-!
# The system proxy manager

`ProxyManager` points the network services at the local proxy and restores them, through
networksetup and a persisted snapshot. Its methods are resumption programs over two kinds of
operations, networksetup commands and file operations on the snapshot store, so that a failed
command, a crash and the interleaving of the services handled concurrently are all covered by what
the handler, the cut and the schedule do.

## Main definitions

* `Proxor.MacHelper.Op` — the operations.
* `Proxor.MacHelper.ProxyManager.apply`, `Proxor.MacHelper.ProxyManager.restore`,
  `Proxor.MacHelper.ProxyManager.recoverAtStart` — the methods. Each takes the manager's current
  snapshot and returns the new one with its result.

## Design

An operation carries the place that issues it (the phase, and whether it is the sequential retry).
The program does not depend on it; it lets a failure pattern name each command of a call.

`forEachService` runs at most eight services at a time; a schedule of `Prog.par` is any
interleaving, which includes those. The getters of one service run concurrently in the source;
they are read-only and run here one after another.
-/

namespace Proxor.MacHelper

open Resumption Text

/-- The part of a call that issues a command. -/
inductive Phase
  | capture | apply | rollback | restore
deriving DecidableEq

/-- One networksetup command, or one file operation of the snapshot store: reading and decoding the
file, replacing it atomically, removing it, and renaming it to `.corrupt`. -/
inductive Op
  | cmd (phase : Phase) (retry : Bool) (args : Argv)
  | readStore
  | replaceStore (again : Bool) (snap : Snapshot)
  | removeStore
  | renameStore
deriving DecidableEq

/-- What an operation returns: output and error, the decoded snapshot, or an error. -/
@[reducible] def Op.Res : Op → Type
  | cmd .. => String × Option Err
  | readStore => Except Err (Option Snapshot)
  | replaceStore .. => Option Err
  | removeStore => Option Err
  | renameStore => Option Err

/-- Programs of the manager. -/
abbrev Act := Prog Op Op.Res

/-- A name that is not empty and cannot be read as an option. -/
def safeServiceName (name : String) : Bool := name ≠ "" && !hasPrefix name "-"

/-! ### The snapshot store -/

namespace SnapshotStore

/-- `none` when there is no snapshot; unsafe service names are an error. -/
def load : Act (Except Err (Option Snapshot)) :=
  .op .readStore fun (stored : Except Err (Option Snapshot)) =>
    match stored with
    | .error err => .ret (.error err)
    | .ok none => .ret (.ok none)
    | .ok (some snap) =>
      match snap.services.find? fun svc => !safeServiceName svc.name with
      | some svc => .ret (.error (.wrap "unsafe service name" (.text svc.name)))
      | none => .ret (.ok (some snap))

/-- Replaces the snapshot; a failure leaves the old one. -/
def save (again : Bool) (snap : Snapshot) : Act (Option Err) :=
  .op (.replaceStore again snap) fun (err : Option Err) => .ret err

/-- Removes the snapshot. -/
def clear : Act (Option Err) := .op .removeStore fun (err : Option Err) => .ret err

/-- Renames the file to `<name>.corrupt`. -/
def quarantine : Act (Option Err) := .op .renameStore fun (err : Option Err) => .ret err

end SnapshotStore

namespace ProxyManager

/-! ### Running commands -/

/-- Runs networksetup. Printed `** Error:` output is a failure even when the exit status is 0. -/
def run (phase : Phase) (retry : Bool) (args : Argv) : Act (Except Err String) :=
  .op (.cmd phase retry args) fun (res : String × Option Err) =>
    match res.2 with
    | none =>
      match checkNoError res.1 with
      | .ok () => .ret (.ok res.1)
      | .error err => .ret (.error err)
    | some err =>
      if trimSpace res.1 ≠ "" then .ret (.error (.withOutput err (trimSpace res.1)))
      else .ret (.error err)

/-- Runs every argument list, stopping at the first failure. -/
def runPlan (phase : Phase) (retry : Bool) : List Argv → Act (Option Err)
  | [] => return none
  | argv :: plan => do
    match ← run phase retry argv with
    | .error err => return some (.wrap argv.arg0 err)
    | .ok _ => runPlan phase retry plan

/-- Runs one program for each service, interleaved in any way. -/
def forEachService {α : Type} (sched : List ℕ) (fns : List (Act α)) : Act (List α) :=
  Prog.par sched fns

/-! ### Capturing the settings -/

/-- The services that have an IPv4 address; one whose check fails counts as active. -/
def activeServices (sched : List ℕ) (services : List NetworkService) :
    Act (List NetworkService) := do
  let active ← forEachService sched <| services.map fun s =>
    if !safeServiceName s.name then return true
    else do
      match ← run .capture false (.getInfo s.name) with
      | .error _ => return true
      | .ok out =>
        match parseHasIPv4 out with
        | .ok has => return has
        | .error _ => return true
  return ((services.zip active).filter fun p => p.2).map fun p => p.1

/-- Runs one getter and parses its output. -/
def getter {α : Type} (args : Argv) (parse : String → Except Err α) : Act (Except Err α) := do
  match ← run .capture false args with
  | .error err => return .error (.wrap args.arg0 err)
  | .ok out =>
    match parse out with
    | .error err => return .error (.wrap args.arg0 err)
    | .ok a => return .ok a

/-- Reads the six getters of one service; the first failing one, in this order, is the error. -/
def snapshotService (name : String) : Act (Except Err ServiceSnapshot) := do
  let web ← getter (.getProxy .web name) parseProxyState
  let secure ← getter (.getProxy .secure name) parseProxyState
  let socks ← getter (.getProxy .socks name) parseProxyState
  let bypass ← getter (.getProxyBypassDomains name) parseBypassDomains
  let auto ← getter (.getAutoProxyURL name) parseAutoProxyURL
  let autoDiscovery ← getter (.getProxyAutoDiscovery name) parseAutoDiscovery
  return do
    let web ← web
    let secure ← secure
    let socks ← socks
    let bypass ← bypass
    let auto ← auto
    let autoDiscovery ← autoDiscovery
    return {
      name, web, secure, socks, bypass, autoDiscovery
      autoURL := auto.url
      autoURLEnabled := auto.enabled }

/-- The services read and the errors of those that could not be. -/
def collect (services : List NetworkService) (results : List (Except Err ServiceSnapshot)) :
    List ServiceSnapshot × List Err :=
  ((results.filterMap fun r => r.toOption),
    (services.zip results).filterMap fun p =>
      match p.2 with
      | .error err => some (.wrap p.1.name err)
      | .ok _ => none)

/-- Snapshots every eligible active service. An error comes with the services that failed. -/
def capture (schedActive schedSnapshot : List ℕ) :
    Act (Except (List Err × Err) (Snapshot × List Err)) := do
  match ← run .capture false .listNetworkServiceOrder with
  | .error err => return .error ([], .wrap "listing network services" err)
  | .ok orderOut =>
  match parseServiceOrder orderOut with
  | .error err => return .error ([], err)
  | .ok order =>
  match ← run .capture false .listAllNetworkServices with
  | .error err => return .error ([], .wrap "listing network services" err)
  | .ok allOut =>
  match parseAllServices allOut with
  | .error err => return .error ([], err)
  | .ok all =>
  let eligible := eligibleServices order all
  if eligible.isEmpty then
    return .error ([], .text "no network service with a hardware device")
  else
  let eligible ← activeServices schedActive eligible
  if eligible.isEmpty then return .error ([], .text "no active network service")
  else
  let results ← forEachService schedSnapshot <| eligible.map fun s =>
    if !safeServiceName s.name then return .error (.text "unsafe service name")
    else snapshotService s.name
  let (services, failed) := collect eligible results
  if services.isEmpty then return .error (failed, .text "no network service could be read")
  else return .ok ({ services }, failed)

/-! ### Applying and restoring -/

/-- Applies every service concurrently, then retries each failed one, in service order. One error,
or none, for each service. -/
def applyServices (sched : List ℕ) (services : List ServiceSnapshot) (port : ℤ)
    (bypass : List String) : Act (List (Option Err)) := do
  let one := fun (retry : Bool) (svc : ServiceSnapshot) =>
    runPlan .apply retry (applyPlan { services := [svc] } port bypass)
  let errs ← forEachService sched (services.map (one false))
  Prog.all <| (services.zip errs).map fun p => if p.2.isSome then one true p.1 else return p.2

/-- Runs every command even after one fails; the errors, in order. -/
def runAll (phase : Phase) (retry : Bool) (name : String) : List Argv → Act (List Err)
  | [] => return []
  | argv :: plan => do
    let res ← run phase retry argv
    let errs ← runAll phase retry name plan
    match res with
    | .error err => return .wrap name (.wrap argv.arg0 err) :: errs
    | .ok _ => return errs

/-- Writes back every service's recorded state, concurrently, and retries each service with an
error once. Returns the services that did not restore cleanly, and their errors. -/
def restoreServices (phase : Phase) (sched : List ℕ) (services : List ServiceSnapshot)
    (appliedBypass : Option (List String)) : Act (List ServiceSnapshot × List Err) := do
  let one := fun (retry : Bool) (svc : ServiceSnapshot) =>
    runAll phase retry svc.name (restorePlan { services := [svc] } appliedBypass)
  let results ← forEachService sched (services.map (one false))
  let results ← Prog.all <| (services.zip results).map fun p =>
    if p.2.isEmpty then return p.2 else one true p.1
  return (((services.zip results).filter fun p => !p.2.isEmpty).map fun p => p.1, results.flatten)

/-- Records the outcome of a restore: fully restored clears the store, otherwise only the services
that failed stay recorded, as applied. Returns the error and the new current snapshot. -/
def finishRestore (snap : Snapshot) (remaining : List ServiceSnapshot) (errs : List Err) :
    Act (Option Err × Option Snapshot) := do
  if remaining.isEmpty then
    match ← SnapshotStore.clear with
    | some err => return (some (.wrap "clearing proxy snapshot" err), none)
    | none => return (none, none)
  else
    let snap := { snap with services := remaining, applied := true }
    let serr ← SnapshotStore.save false snap
    let errs := errs ++ (serr.map (Err.wrap "persisting remaining proxy snapshot")).toList
    return (some (.wrap "system proxy restore incomplete" (.join errs)), some snap)

/-- The interleavings of the parts of a call that handle several services. -/
structure Schedule where
  active : List ℕ := []
  snapshot : List ℕ := []
  apply : List ℕ := []
  rollback : List ℕ := []
  restore : List ℕ := []

/-- What an apply returns. -/
structure ApplyResult where
  applied : List String := []
  failed : List Err := []
  err : Option Err := none

/-- The services without an error. -/
def appliedNames (services : List ServiceSnapshot) (errs : List (Option Err)) : List String :=
  ((services.zip errs).filter fun p => p.2.isNone).map fun p => p.1.name

/-- The errors of the services with one. -/
def failedErrors (services : List ServiceSnapshot) (errs : List (Option Err)) : List Err :=
  (services.zip errs).filterMap fun p => p.2.map (Err.wrap p.1.name)

/-- The part of an apply after the snapshot was taken over or captured. -/
def applySnapshot (sched : Schedule) (current : Option Snapshot) (wasApplied : Bool)
    (snap : Snapshot) (failed : List Err) (port : ℤ) (bypass : List String) :
    Act (ApplyResult × Option Snapshot) := do
  let snap := { snap with applied := true, port, appliedBypass := some bypass }
  match ← SnapshotStore.save false snap with
  | some err => return ({ failed, err := some (.wrap "persisting proxy snapshot" err) }, current)
  | none =>
  let errs ← applyServices sched.apply snap.services port bypass
  let failed := failed ++ failedErrors snap.services errs
  let applied := appliedNames snap.services errs
  if applied.isEmpty then
    let err := Err.text "system proxy could not be applied to any network service"
    if wasApplied then return ({ failed, err := some err }, some snap)
    else
      -- roll back whatever the failed attempts changed, then forget the snapshot
      let _ ← restoreServices .rollback sched.rollback snap.services none
      let _ ← SnapshotStore.clear
      return ({ failed, err := some err }, none)
  else if errs.any (·.isSome) then
    -- a service that failed part-way may hold another bypass list than the recorded one
    let snap := { snap with appliedBypass := none }
    let _ ← SnapshotStore.save true snap
    return ({ applied, failed }, some snap)
  else return ({ applied, failed }, some snap)

/-- Points every eligible service at `127.0.0.1:port`. Applying again while applied keeps the
original snapshot. -/
def apply (sched : Schedule) (current : Option Snapshot) (port : ℤ) (bypass : List String) :
    Act (ApplyResult × Option Snapshot) :=
  if port < 1 ∨ 65535 < port then
    return ({ err := some (.text ("invalid proxy port " ++ toString port)) }, current)
  else
  let bypass := if bypass.length = 0 then defaultBypass else bypass
  match validateBypass bypass with
  | .error err => return ({ err := some err }, current)
  | .ok () =>
  match current.filter (·.applied) with
  | some snap => applySnapshot sched current true snap [] port bypass
  | none => do
    match ← capture sched.active sched.snapshot with
    | .error (failed, err) => return ({ failed, err := some err }, current)
    | .ok (snap, failed) => applySnapshot sched current false snap failed port bypass

/-- Writes back the recorded settings. Nothing applied is a no-op. -/
def restore (sched : Schedule) (current : Option Snapshot) : Act (Option Err × Option Snapshot) :=
  match current with
  | none => return (none, none)
  | some snap => do
    let (remaining, errs) ← restoreServices .restore sched.restore snap.services snap.appliedBypass
    finishRestore snap remaining errs

/-- Runs when the helper starts: a persisted snapshot marked applied is restored now. -/
def recoverAtStart (sched : Schedule) (current : Option Snapshot) :
    Act (Option Err × Option Snapshot) := do
  match ← SnapshotStore.load with
  | .error _ =>
    match ← SnapshotStore.quarantine with
    | some err => return (some (.wrap "quarantining corrupt proxy snapshot" err), current)
    | none => return (none, current)
  | .ok none => return (none, current)
  | .ok (some snap) =>
    if !snap.applied then
      match ← SnapshotStore.clear with
      | some err => return (some (.wrap "clearing stale proxy snapshot" err), current)
      | none => return (none, current)
    else
      let (remaining, errs) ←
        restoreServices .restore sched.restore snap.services snap.appliedBypass
      finishRestore snap remaining errs

end ProxyManager

end Proxor.MacHelper
