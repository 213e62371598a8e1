import Proxor.Lib.Monitor
import Proxor.MacHelper.SysproxyManager

set_option relaxedAutoImplicit false
set_option autoImplicit false

/-!
# The helper's request loop

The handlers of the privileged helper, as resumption programs over the lease table, the Tun runner
and the proxy backend. `Server.mu` serialises them over all connections; the lease table has a
mutex of its own, so that events of Tun instances are routed while a handler runs.

## Main definitions

* `Proxor.MacHelper.ServerOp` — the operations: one critical section of the lease table, or one
  call of a backend.
* `Proxor.MacHelper.Server.tunStart` and its siblings — the handlers.
* `Proxor.MacHelper.Section`, `Proxor.MacHelper.Section.body` — what runs under `Server.mu`.
* `Proxor.MacHelper.LeaseTable` — who owns what.

## Design

A lease is its id, and a connection its lease. What a handler does before it takes the mutex (the
checks of a request) and after it (writing the reply) touches nothing shared; both are part of the
section here. `hello` allocates a lease and `status` reads; neither takes the mutex.
-/

namespace Proxor.MacHelper

open Resumption

/-! ### The protocol -/

/-- The names of the events. -/
inductive EventName
  | tunReady | tunStopped | log
deriving DecidableEq

/-- An event: what a Tun instance reports, or the server to an owner that lost its Tun. -/
structure Event where
  event : EventName
  line : String := ""
  reason : String := ""
deriving DecidableEq

/-- The requests that take the mutex. -/
inductive Request
  | tunStart (id : ℤ) (config : String) (socksPort : ℤ)
  | tunStop (id : ℤ)
  | sysproxyApply (id : ℤ) (port : ℤ) (bypass : List String)
  | sysproxyRestore (id : ℤ)
  | uninstall (id : ℤ)

/-- The reply to such a request. -/
structure Response where
  id : ℤ
  ok : Bool := false
  error : Option Err := none
  applied : List String := []
  failed : List Err := []

/-! ### Operations -/

/-- What a handler does in one step. -/
inductive ServerOp
  | isDown
  | setDown
  | takeTun
  | claimTun (lease : ℕ)
  | dropTun (lease : ℕ)
  | clearTun
  | setProxyOwner (lease : Option ℕ)
  | release (lease : ℕ)
  | tunRunning
  | tunStart (lease gen : ℕ) (config : String) (socksPort : ℤ)
  | tunStop
  | proxyApply (port : ℤ) (bypass : List String)
  | proxyRestore
  | write (lease : ℕ) (ev : Event)

/-- What each operation returns. -/
@[reducible] def ServerOp.Res : ServerOp → Type
  | isDown => Bool
  | takeTun => Option ℕ
  | claimTun _ => ℕ
  | release _ => Bool × Bool
  | tunRunning => Bool
  | tunStart .. => Option Err
  | tunStop => Option Err
  | proxyApply .. => ProxyManager.ApplyResult
  | proxyRestore => Option Err
  | _ => Unit

/-- Programs of the server. -/
abbrev ServerAct := Prog ServerOp ServerOp.Res

/-! ### Handlers -/

namespace Server

/-- A reply that says what failed. -/
def failure (id : ℤ) (err : Err) : Response := { id, error := some err }

/-- `prev != nil || s.Tun.Running()`. -/
def tunHeld (prev : Option ℕ) : ServerAct Bool :=
  if prev.isSome then .ret true else .op .tunRunning fun (running : Bool) => .ret running

/-- Stop Tun when `held`. -/
def stopHeld (held : Bool) : ServerAct (Option Err) :=
  if held then .op .tunStop fun (err : Option Err) => .ret err else .ret none

/-- `errors.Join`: no error when there is none to join. -/
def joinErrs : List Err → Option Err
  | [] => none
  | errs => some (.join errs)

/-- Stops Tun (if we started it or it is running) and restores the system proxy. Proxy ownership is
kept if the restore fails. -/
def teardownLocked : ServerAct (Option Err) :=
  .op .takeTun fun (prev : Option ℕ) =>
  (tunHeld prev).bind fun held =>
  (stopHeld held).bind fun stopErr =>
  let errs := (stopErr.map (Err.wrap "stop tun")).toList
  .op .proxyRestore fun (restoreErr : Option Err) =>
    match restoreErr with
    | some err => .ret (joinErrs (errs ++ [.wrap "restore system proxy" err]))
    | none => .op (.setProxyOwner none) fun _ => .ret (joinErrs errs)

/-- Whether a port number is valid. -/
def validPort (p : ℤ) : Bool := 1 ≤ p && p ≤ 65535

/-- The event an owner gets when another connection takes its Tun over. -/
def takenOver : Event := {
  event := .tunStopped
  reason := "Tun was taken over by another connection" }

/-- Tell a previous owner on another connection that it lost the Tun. -/
def notifyPrev (lease : ℕ) : Option ℕ → ServerAct Unit
  | some prev => if prev ≠ lease then .op (.write prev takenOver) fun _ => .ret () else .ret ()
  | none => .ret ()

/-- `tun_start`: a new instance supersedes any running one, whoever owns it. -/
def tunStart (lease : ℕ) (id : ℤ) (config : String) (socksPort : ℤ) : ServerAct Response :=
  if !validPort socksPort then
    .ret (failure id (.text ("invalid socksPort " ++ toString socksPort)))
  else if config = "" then .ret (failure id (.text "config is required"))
  else
    .op .isDown fun (down : Bool) =>
    if down then .ret (failure id (.text "helper is shutting down"))
    else
      .op .takeTun fun (prev : Option ℕ) =>
      (tunHeld prev).bind fun held =>
      (stopHeld held).bind fun stopErr =>
      match stopErr with
      | some err => .ret (failure id (.wrap "stop previous tun" err))
      | none =>
        (if held then notifyPrev lease prev else .ret ()).bind fun _ =>
        .op (.claimTun lease) fun (gen : ℕ) =>
        .op (.tunStart lease gen config socksPort) fun (startErr : Option Err) =>
          match startErr with
          | some err => .op (.dropTun lease) fun _ => .ret (failure id err)
          | none => .ret { id, ok := true }

/-- `tun_stop`, by any connection. Ownership is kept when the stop fails. -/
def tunStop (id : ℤ) : ServerAct Response :=
  .op .tunStop fun (err : Option Err) =>
    match err with
    | some err => .ret (failure id err)
    | none => .op .clearTun fun _ => .ret { id, ok := true }

/-- `sysproxy_apply`. -/
def sysproxyApply (lease : ℕ) (id : ℤ) (port : ℤ) (bypass : List String) : ServerAct Response :=
  if !validPort port then .ret (failure id (.text ("invalid port " ++ toString port)))
  else match validateBypass bypass with
  | .error err => .ret (failure id err)
  | .ok () =>
    .op .isDown fun (down : Bool) =>
    if down then .ret (failure id (.text "helper is shutting down"))
    else
      .op (.proxyApply port bypass) fun (res : ProxyManager.ApplyResult) =>
        match res.err with
        | some err =>
          .ret { id, error := some err, applied := res.applied, failed := res.failed }
        | none => .op (.setProxyOwner (some lease)) fun _ =>
          .ret { id, ok := true, applied := res.applied, failed := res.failed }

/-- `sysproxy_restore`, by any connection. Ownership is kept when the restore fails. -/
def sysproxyRestore (id : ℤ) : ServerAct Response :=
  .op .proxyRestore fun (err : Option Err) =>
    match err with
    | some err => .ret (failure id err)
    | none => .op (.setProxyOwner none) fun _ => .ret { id, ok := true }

/-- `uninstall`: refused unless everything could be torn down. -/
def uninstall (available : Bool) (id : ℤ) : ServerAct Response :=
  if !available then .ret (failure id (.text "uninstall unavailable"))
  else
    teardownLocked.bind fun err =>
      match err with
      | some err => .ret (failure id err)
      | none => .op .setDown fun _ => .ret { id, ok := true }

/-- `Shutdown`. -/
def shutdown : ServerAct Unit :=
  .op .setDown fun _ => teardownLocked.bind fun _ => .ret ()

/-- What the release of a lease does after it has looked at the table. -/
def releaseOwned (stopTun restoreProxy : Bool) : ServerAct Unit :=
  (stopHeld stopTun).bind fun _ =>
    if restoreProxy then .op .proxyRestore fun _ => .ret () else .ret ()

/-- The end of a connection: whatever it owned is stopped or restored. -/
def releaseLocked (lease : ℕ) : ServerAct Unit :=
  .op (.release lease) fun (owned : Bool × Bool) => releaseOwned owned.1 owned.2

end Server

/-- What takes `Server.mu`: a request on a connection, the end of a connection, and `Shutdown`. -/
inductive Section
  | request (lease : ℕ) (req : Request)
  | release (lease : ℕ)
  | shutdown

/-- The program of a section, and its reply. -/
def Section.body (available : Bool) : Section → ServerAct (Option Response)
  | request lease (.tunStart id config socksPort) =>
    (Server.tunStart lease id config socksPort).bind fun resp => .ret (some resp)
  | request _ (.tunStop id) => (Server.tunStop id).bind fun resp => .ret (some resp)
  | request lease (.sysproxyApply id port bypass) =>
    (Server.sysproxyApply lease id port bypass).bind fun resp => .ret (some resp)
  | request _ (.sysproxyRestore id) => (Server.sysproxyRestore id).bind fun resp => .ret (some resp)
  | request _ (.uninstall id) => (Server.uninstall available id).bind fun resp => .ret (some resp)
  | release lease => (Server.releaseLocked lease).bind fun _ => .ret none
  | shutdown => Server.shutdown.bind fun _ => .ret none

/-! ### The lease table -/

/-- Who owns what. `tunGen` is bumped whenever a Tun instance is superseded. -/
structure LeaseTable where
  nextID : ℕ := 0
  tunOwner : Option ℕ := none
  tunGen : ℕ := 0
  proxyOwner : Option ℕ := none

namespace LeaseTable

/-- Drop the owner and invalidate the event stream of the running instance. -/
def takeTun (t : LeaseTable) : Option ℕ × LeaseTable :=
  (t.tunOwner, { t with tunOwner := none, tunGen := t.tunGen + 1 })

/-- Make `lease` the owner of the instance about to start. -/
def claimTun (t : LeaseTable) (lease : ℕ) : ℕ × LeaseTable :=
  (t.tunGen, { t with tunOwner := some lease })

/-- Clear the ownership of `lease`, if it still has it. -/
def dropTun (t : LeaseTable) (lease : ℕ) : LeaseTable :=
  if t.tunOwner = some lease then { t with tunOwner := none } else t

/-- End Tun ownership. The generation is kept. -/
def clearTun (t : LeaseTable) : LeaseTable := { t with tunOwner := none }

/-- The first half of a release: what the lease owned, which it owns no more. -/
def release (t : LeaseTable) (lease : ℕ) : (Bool × Bool) × LeaseTable :=
  let stopTun := t.tunOwner = some lease
  let restoreProxy := t.proxyOwner = some lease
  let t := if stopTun then { t with tunOwner := none, tunGen := t.tunGen + 1 } else t
  ((stopTun, restoreProxy), if restoreProxy then { t with proxyOwner := none } else t)

/-- The first half of routing an event of the instance that `lease` started in generation `gen`:
whether it is delivered. A `tun_stopped` event also ends the lease's ownership. -/
def route (t : LeaseTable) (lease gen : ℕ) (ev : Event) : Bool × LeaseTable :=
  let current := t.tunGen = gen
  (current, if current ∧ ev.event = .tunStopped ∧ t.tunOwner = some lease then
    { t with tunOwner := none } else t)

/-! ### Generations -/

section Generations

variable (t : LeaseTable) (lease : ℕ)

@[simp] lemma takeTun_tunGen : t.takeTun.2.tunGen = t.tunGen + 1 := rfl

@[simp] lemma claimTun_tunGen : (t.claimTun lease).2.tunGen = t.tunGen := rfl

@[simp] lemma clearTun_tunGen : t.clearTun.tunGen = t.tunGen := rfl

@[simp] lemma dropTun_tunGen : (t.dropTun lease).tunGen = t.tunGen := by
  unfold dropTun
  split <;> rfl

@[simp] lemma route_tunGen (gen : ℕ) (ev : Event) : (t.route lease gen ev).2.tunGen = t.tunGen := by
  unfold route
  dsimp only
  split <;> rfl

lemma release_tunGen : (t.release lease).2.tunGen =
    if t.tunOwner = some lease then t.tunGen + 1 else t.tunGen := by
  unfold release
  dsimp only
  split_ifs <;> rfl

/-- An event of an older generation is dropped, and leaves the table as it is. -/
lemma route_of_ne {gen : ℕ} (h : t.tunGen ≠ gen) (ev : Event) :
    t.route lease gen ev = (false, t) := by
  simp [route, h]

end Generations

end LeaseTable

end Proxor.MacHelper
