import Mathlib.Data.Finset.Basic
import Proxor.MacHelper.Server

set_option relaxedAutoImplicit false
set_option autoImplicit false

/-!
# The helper as a whole

The handlers run on the lease table and two backends, while connections come and Tun instances fail
and emit events. An event is routed in two halves: the table decides whether it is delivered, and it
is written after the table's mutex is released, so it may still be on its way when a later handler
runs.

## Main definitions

* `Proxor.MacHelper.Helper` — the state: the table, the backends, and the events on their way.
* `Proxor.MacHelper.Helper.Exec` — what each operation of a handler returns and leaves.
* `Proxor.MacHelper.Helper.Interferes` — what happens without `Server.mu`.
* `Proxor.MacHelper.helper` — the monitor of these, for given failures.
* `Proxor.MacHelper.HelperConfig` — the state and the section that holds the mutex.
-/

namespace Proxor.MacHelper

open Resumption

/-- A Tun instance: the lease whose `tun_start` created it and the generation of its `emit`. -/
structure Instance where
  lease : ℕ
  gen : ℕ
deriving DecidableEq

/-- Who wrote an event: the instance of a number, or the server. -/
inductive Source
  | fromInstance (k : ℕ)
  | server
deriving DecidableEq

/-- The state of the helper: the lease table and the flag of `Server`; the leases whose release has
begun; what the backends report; every instance ever started; the events an instance has emitted but
that are not yet routed, those routed but not yet written, and those written, with the lease of the
connection they were written to. -/
structure Helper where
  table : LeaseTable := {}
  down : Bool := false
  released : Finset ℕ := ∅
  running : Bool := false
  applied : Bool := false
  instances : List Instance := []
  pending : List (ℕ × Event) := []
  sending : List (ℕ × Event) := []
  written : List (ℕ × Source × Event) := []

namespace Helper

/-- The lease is of a connection whose release has not run. -/
def Live (s : Helper) (lease : ℕ) : Prop :=
  1 ≤ lease ∧ lease ≤ s.table.nextID ∧ lease ∉ s.released

/-- What an operation may return and leave. A `Start` that fails leaves Tun not running, and an
`Apply` that fails leaves the proxy as it was; a `Stop` or `Restore` that fails leaves anything. An
instance exists from its `Start` on, whatever that returns, since it may emit at once. -/
def Exec : (o : ServerOp) → Helper → o.Res → Helper → Prop
  | .isDown, s, r, s' => r = s.down ∧ s' = s
  | .setDown, s, _, s' => s' = { s with down := true }
  | .takeTun, s, r, s' => r = s.table.takeTun.1 ∧ s' = { s with table := s.table.takeTun.2 }
  | .claimTun lease, s, r, s' =>
    r = (s.table.claimTun lease).1 ∧ s' = { s with table := (s.table.claimTun lease).2 }
  | .dropTun lease, s, _, s' => s' = { s with table := s.table.dropTun lease }
  | .clearTun, s, _, s' => s' = { s with table := s.table.clearTun }
  | .setProxyOwner lease, s, _, s' => s' = { s with table := { s.table with proxyOwner := lease } }
  | .release lease, s, r, s' =>
    r = (s.table.release lease).1 ∧
      s' = { s with table := (s.table.release lease).2, released := insert lease s.released }
  | .tunRunning, s, r, s' => r = s.running ∧ s' = s
  | .tunStart lease gen _ _, s, r, s' =>
    s' = { s with running := r.isNone, instances := s.instances ++ [⟨lease, gen⟩] }
  | .tunStop, s, r, s' => ∃ running, (r = none → running = false) ∧ s' = { s with running }
  | .proxyApply .., s, r, s' => s' = { s with applied := r.err.isNone || s.applied }
  | .proxyRestore, s, r, s' => ∃ applied, (r = none → applied = false) ∧ s' = { s with applied }
  | .write lease ev, s, _, s' => s' = { s with written := s.written ++ [(lease, .server, ev)] }

/-- The state after an event of instance `k` began to be routed. -/
def route (s : Helper) (k : ℕ) (inst : Instance) (ev : Event) : Helper :=
  let r := s.table.route inst.lease inst.gen ev
  { s with
    table := r.2
    pending := s.pending.erase (k, ev)
    sending := if r.1 then (k, ev) :: s.sending else s.sending }

/-- What happens without the mutex, where `mayEmit` says when an instance emits an event: a
connection says hello, the running instance ends by itself, and an event is emitted, routed or
written. -/
inductive Interferes (mayEmit : Helper → ℕ → Event → Prop) : Helper → Helper → Prop
  | hello (s : Helper) :
    Interferes mayEmit s { s with table := { s.table with nextID := s.table.nextID + 1 } }
  | ends (s : Helper) : Interferes mayEmit s { s with running := false }
  | emit (s : Helper) (k : ℕ) (ev : Event) (hk : k < s.instances.length) (h : mayEmit s k ev) :
    Interferes mayEmit s { s with pending := (k, ev) :: s.pending }
  | route (s : Helper) (k : ℕ) (inst : Instance) (ev : Event) (hev : (k, ev) ∈ s.pending)
    (hk : s.instances[k]? = some inst) : Interferes mayEmit s (s.route k inst ev)
  | deliver (s : Helper) (k : ℕ) (inst : Instance) (ev : Event) (hev : (k, ev) ∈ s.sending)
    (hk : s.instances[k]? = some inst) :
    Interferes mayEmit s { s with
      sending := s.sending.erase (k, ev)
      written := s.written ++ [(inst.lease, .fromInstance k, ev)] }

/-- When a section may begin: a request on a live connection, the one release of a connection, and
`Shutdown` at any time. -/
def Enters : Section → Helper → Prop
  | .request lease _, s => s.Live lease
  | .release lease, s => s.Live lease
  | .shutdown, _ => True

end Helper

/-- The helper, where `mayReturn` says what the operations may return and `mayEmit` when an instance
emits an event. -/
def helper (available : Bool) (mayReturn : (o : ServerOp) → o.Res → Prop)
    (mayEmit : Helper → ℕ → Event → Prop) :
    Monitor ServerOp ServerOp.Res Section Helper (Option Response) where
  body := Section.body available
  exec o s r s' := Helper.Exec o s r s' ∧ mayReturn o r
  env := Helper.Interferes mayEmit
  enter := Helper.Enters

/-- The state of the helper and the section that holds `Server.mu`. -/
abbrev HelperConfig := Monitor.Config ServerOp ServerOp.Res Section Helper (Option Response)

/-- The helper as it starts. -/
def HelperConfig.start : HelperConfig := ⟨{}, none⟩

end Proxor.MacHelper
