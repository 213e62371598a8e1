import Mathlib.Data.Finset.Basic
import Proxor.MacHelper.Helper
import Proxor.MacHelper.TunRunner

set_option relaxedAutoImplicit false
set_option autoImplicit false

/-!
# The helper over its Tun runner

The handlers of the helper, with `Start` and `Stop` of the runner run step by step in them: the
goroutines of the runner go on between any two steps of a handler, and so do the events they emit.

## Main definitions

* `Proxor.MacHelper.TunOp` — a step of a handler, or of a method of the runner it calls.
* `Proxor.MacHelper.Section.tunBody` — a section with the runner's methods in place.
* `Proxor.MacHelper.TunServer` — the state, with the Tuns that were lost to somebody else.
* `Proxor.MacHelper.tunServer` — the monitor of these.

## Design

The `emit` of a start is the lease and the generation it carries. Two fields are history: `lost`
records the starts whose Tun stopped being active through no doing of their own lease, and `taker`
the section that last took the Tun in the lease table.
-/

namespace Proxor.MacHelper

open Resumption

/-! ### Operations -/

/-- A step of a section: one of its own, or one of a method of the runner that it calls. -/
inductive TunOp
  | server (sect : Section) (o : ServerOp)
  | runner (sect : Section) (o : RunnerOp Instance)

/-- What each operation returns. -/
@[reducible] def TunOp.Res : TunOp → Type
  | server _ o => o.Res
  | runner _ o => o.Res

/-- Programs of sections. -/
abbrev TunAct := Prog TunOp TunOp.Res

/-- A step of the runner, on behalf of a section. -/
def Section.onRunner (sect : Section) (o : RunnerOp Instance) : TunAct o.Res :=
  Prog.perform (TunOp.runner sect o)

/-- An operation of a handler: `Start` and `Stop` are programs of the runner. -/
def Section.tunOp (sect : Section) : (o : ServerOp) → TunAct o.Res
  | .tunStart lease gen config socksPort =>
    (BoxTunRunner.start config socksPort (⟨lease, gen⟩ : Instance)).interp sect.onRunner
  | .tunStop => BoxTunRunner.stop.interp sect.onRunner
  | o => Prog.perform (TunOp.server sect o)

/-- A section, step by step. -/
def Section.tunBody (available : Bool) (sect : Section) : TunAct (Option Response) :=
  (sect.body available).interp sect.tunOp

/-- The section is not the doing of `lease`: a request or the close of another connection. -/
def Section.foreign (lease : ℕ) : Section → Bool
  | request l _ => l ≠ lease
  | release l => l ≠ lease
  | shutdown => false

/-! ### State -/

/-- The state of the helper over its runner. `emitting` holds the events that passed the runner's
check and are not yet routed, `sending` those routed and not yet written, `written` those written:
to which lease, about which start, and what. -/
structure TunServer where
  table : LeaseTable := {}
  down : Bool := false
  released : Finset ℕ := ∅
  applied : Bool := false
  runner : BoxTunRunner Instance := {}
  emitting : List (ℕ × Event) := []
  sending : List (ℕ × Event) := []
  written : List (ℕ × ℕ × Event) := []
  /-- The section that last took the Tun in the lease table. -/
  taker : Option Section := none
  /-- The starts whose Tun stopped being active for a reason that is not their lease's. -/
  lost : List ℕ := []

namespace TunServer

/-- The lease is of a connection whose release has not run. -/
def Live (s : TunServer) (lease : ℕ) : Prop :=
  1 ≤ lease ∧ lease ≤ s.table.nextID ∧ lease ∉ s.released

/-- The runner changes. When it stops being active, its last start has lost its Tun if that is not
its own lease's doing. -/
def setRunner (s : TunServer) (foreign : ℕ → Bool) (runner : BoxTunRunner Instance) : TunServer := {
  s with
  runner
  lost :=
    match s.runner.lastRun with
    | none => s.lost
    | some run =>
      if s.runner.active ∧ runner.active = false ∧ foreign run.emit.lease then
        (s.runner.runs.length - 1) :: s.lost
      else s.lost }

/-- What an operation of a handler may return and leave, except for the methods of the runner. An
event the server writes is about the last start. -/
def ServerExec (sect : Section) : (o : ServerOp) → TunServer → o.Res → TunServer → Prop
  | .isDown, s, r, s' => r = s.down ∧ s' = s
  | .setDown, s, _, s' => s' = { s with down := true }
  | .takeTun, s, r, s' =>
    r = s.table.takeTun.1 ∧ s' = { s with table := s.table.takeTun.2, taker := some sect }
  | .claimTun lease, s, r, s' =>
    r = (s.table.claimTun lease).1 ∧ s' = { s with table := (s.table.claimTun lease).2 }
  | .dropTun lease, s, _, s' => s' = { s with table := s.table.dropTun lease }
  | .clearTun, s, _, s' => s' = { s with table := s.table.clearTun }
  | .setProxyOwner lease, s, _, s' => s' = { s with table := { s.table with proxyOwner := lease } }
  | .release lease, s, r, s' =>
    r = (s.table.release lease).1 ∧
      s' = { s with
        table := (s.table.release lease).2
        released := insert lease s.released
        taker := if r.1 then some sect else s.taker }
  | .tunRunning, s, r, s' => r = s.runner.active ∧ s' = s
  | .tunStart .., _, _, _ => False
  | .tunStop, _, _, _ => False
  | .proxyApply .., s, r, s' => s' = { s with applied := r.err.isNone || s.applied }
  | .proxyRestore, s, r, s' => ∃ applied, (r = none → applied = false) ∧ s' = { s with applied }
  | .write lease ev, s, _, s' =>
    s' = { s with written := s.written ++ [(lease, s.runner.runs.length - 1, ev)] }

/-- What a step of a section may return and leave. -/
def Exec : (o : TunOp) → TunServer → o.Res → TunServer → Prop
  | .server sect o, s, r, s' => ServerExec sect o s r s'
  | .runner sect o, s, r, s' =>
    ∃ runner, BoxTunRunner.Exec o s.runner r runner ∧
      s' = s.setRunner (fun lease => sect.foreign lease) runner

/-- The state after an event of start `n` began to be routed. -/
def route (s : TunServer) (n : ℕ) (inst : Instance) (ev : Event) : TunServer :=
  let r := s.table.route inst.lease inst.gen ev
  { s with
    table := r.2
    emitting := s.emitting.erase (n, ev)
    sending := if r.1 then (n, ev) :: s.sending else s.sending }

/-- What happens without the mutex: a connection says hello, the goroutines of the runner go on and
events pass its check, and an event is routed or written. -/
inductive Interferes : TunServer → TunServer → Prop
  | hello (s : TunServer) :
    Interferes s { s with table := { s.table with nextID := s.table.nextID + 1 } }
  | goes (s : TunServer) (runner : BoxTunRunner Instance) (passed : List (ℕ × Event))
    (h : BoxTunRunner.Goes s.runner runner) (hpassed : runner.passed = passed ++ s.runner.passed) :
    Interferes s { s.setRunner (fun _ => true) runner with emitting := passed ++ s.emitting }
  | route (s : TunServer) (n : ℕ) (run : Run Instance) (ev : Event) (hev : (n, ev) ∈ s.emitting)
    (hn : s.runner.runs[n]? = some run) : Interferes s (s.route n run.emit ev)
  | deliver (s : TunServer) (n : ℕ) (run : Run Instance) (ev : Event) (hev : (n, ev) ∈ s.sending)
    (hn : s.runner.runs[n]? = some run) :
    Interferes s { s with
      sending := s.sending.erase (n, ev)
      written := s.written ++ [(run.emit.lease, n, ev)] }

/-- When a section may begin. -/
def Enters : Section → TunServer → Prop
  | .request lease _, s => s.Live lease
  | .release lease, s => s.Live lease
  | .shutdown, _ => True

end TunServer

/-- The helper over its runner, where `mayDo` says which steps a section may take and `mayGo` which
interference there is. -/
def tunServer (available : Bool) (mayDo : (o : TunOp) → TunServer → o.Res → Prop)
    (mayGo : TunServer → TunServer → Prop) :
    Monitor TunOp TunOp.Res Section TunServer (Option Response) where
  body := Section.tunBody available
  exec o s r s' := TunServer.Exec o s r s' ∧ mayDo o s r
  env s s' := TunServer.Interferes s s' ∧ mayGo s s'
  enter := TunServer.Enters

/-- The state and the section that holds `Server.mu`. -/
abbrev TunConfig := Monitor.Config TunOp TunOp.Res Section TunServer (Option Response)

/-- The helper as it starts. -/
def TunConfig.start : TunConfig := ⟨{}, none⟩

end Proxor.MacHelper
