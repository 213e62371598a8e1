import Proxor.MacHelper.Server

set_option relaxedAutoImplicit false
set_option autoImplicit false

/-!
# The Tun runner

The runner brings up the Tun instance in a goroutine: it waits for the core's SOCKS port, installs
the log writer, creates the instance and publishes it. `Stop` may land anywhere in between. Every
`Start` and every `Stop` bumps a generation, under the runner's mutex; a goroutine looks at it
before it installs, publishes, fails or sends.

## Main definitions

* `Proxor.MacHelper.BoxTunRunner` — the state: the fields, the goroutines and the instances.
* `Proxor.MacHelper.BoxTunRunner.stop`, `Proxor.MacHelper.BoxTunRunner.start` — the methods, as
  programs.
* `Proxor.MacHelper.BoxTunRunner.Exec` — what each of their operations does.
* `Proxor.MacHelper.BoxTunRunner.Goes` — what the goroutines do meanwhile.
* `Proxor.MacHelper.tunRunner` — the monitor of these; the server serialises the methods.

## Design

An operation is one critical section of the runner's mutex, or one call outside it. The function
that emits events is a parameter of `Start`, of any type. What passed the check of the generation is
recorded; emitting it follows at any later time.
-/

namespace Proxor.MacHelper

open Resumption

/-! ### State -/

/-- Where the goroutine of a start is. -/
inductive RunPc
  | waiting
  | installing
  | creating
  | created (i : ℕ)
  | closing (i : ℕ)
  | cancelling (i : ℕ)
  | ready
  | failing (reason : String)
  | exiting
  | finished
deriving DecidableEq

/-- The goroutine of a start: its generation, its `emit`, and whether its context is cancelled. -/
structure Run (E : Type) where
  gen : ℕ
  emit : E
  pc : RunPc := .waiting
  cancelled : Bool := false

/-- An instance that was created: how often it was closed, and whether its cancel function was
called. -/
structure BoxInstance where
  closes : ℕ := 0
  cancelled : Bool := false
deriving DecidableEq

/-- The runner. A context and a done channel are named by their goroutine, and a log writer too; a
closer and a cancel function by their instance. -/
structure BoxTunRunner (E : Type) where
  gen : ℕ := 0
  active : Bool := false
  stopWait : Option ℕ := none
  closer : Option ℕ := none
  cancel : Option ℕ := none
  done : Option ℕ := none
  logWriter : Option ℕ := none
  runs : List (Run E) := []
  instances : List BoxInstance := []
  /-- The instances whose last `Close` by a `Stop` failed. -/
  unclosed : List ℕ := []
  /-- The events that passed the check of the generation, with their goroutines. -/
  passed : List (ℕ × Event) := []

/-! ### Methods -/

/-- What `Stop` takes out of the runner. -/
structure Taken where
  stopWait : Option ℕ
  closer : Option ℕ
  cancel : Option ℕ
  done : Option ℕ

/-- The operations of the methods. -/
inductive RunnerOp (E : Type)
  | takeAll
  | close (i : ℕ)
  | callCancel (i : ℕ)
  | stopWait (n : ℕ)
  | awaitDone (n : ℕ)
  | clearLogWriter
  | validate (config : String) (socksPort : ℤ)
  | check (config : String)
  | launch (emit : E)

/-- What each operation returns. -/
@[reducible] def RunnerOp.Res {E : Type} : RunnerOp E → Type
  | takeAll => Taken
  | close _ => Option Err
  | validate .. => Option Err
  | check _ => Option Err
  | _ => Unit

/-- Programs of the runner. -/
abbrev RunnerAct (E : Type) := Prog (RunnerOp E) RunnerOp.Res

namespace BoxTunRunner

variable {E : Type}

/-- Close what was running, and cancel its context whether that worked or not. -/
def closeTaken (closer cancel : Option ℕ) : RunnerAct E (Option Err) :=
  match closer with
  | none => .ret none
  | some i =>
    .op (.close i) fun (err : Option Err) =>
      match cancel with
      | none => .ret err
      | some j => .op (.callCancel j) fun _ => .ret err

/-- Abort the wait or an in-flight create, and wait for the goroutine to return. -/
def abort (stopWait done : Option ℕ) : RunnerAct E Unit :=
  (match stopWait with
    | none => .ret ()
    | some n => .op (.stopWait n) fun _ => .ret () : RunnerAct E Unit).bind fun _ =>
  match done with
  | none => .ret ()
  | some n => .op (.awaitDone n) fun _ => .ret ()

/-- What `Stop` does with what it has taken out. -/
def stopTaken (t : Taken) : RunnerAct E (Option Err) :=
  (closeTaken t.closer t.cancel).bind fun err =>
  (abort t.stopWait t.done).bind fun _ =>
  .op .clearLogWriter fun _ => .ret err

/-- `Stop` tears down whatever is running or starting. -/
def stop : RunnerAct E (Option Err) := .op .takeAll fun (t : Taken) => stopTaken t

/-- `Start`: an error means nothing was started. -/
def start (config : String) (socksPort : ℤ) (emit : E) : RunnerAct E (Option Err) :=
  stop.bind fun err =>
    match err with
    | some err => .ret (some (.wrap "stop previous tun" err))
    | none =>
      .op (.validate config socksPort) fun (err : Option Err) =>
        match err with
        | some err => .ret (some err)
        | none =>
          .op (.check config) fun (err : Option Err) =>
            match err with
            | some err => .ret (some (.wrap "check config" err))
            | none => .op (.launch emit) fun _ => .ret none

/-! ### What happens -/

/-- The goroutine of the last start. -/
def lastRun (r : BoxTunRunner E) : Option (Run E) := r.runs[r.runs.length - 1]?

/-- `Close` is called on an instance. -/
def closeInstance (r : BoxTunRunner E) (i : ℕ) : BoxTunRunner E :=
  { r with instances := r.instances.modify i fun x => { x with closes := x.closes + 1 } }

/-- The cancel function of an instance is called. -/
def cancelInstance (r : BoxTunRunner E) (i : ℕ) : BoxTunRunner E :=
  { r with instances := r.instances.modify i fun x => { x with cancelled := true } }

/-- What `Stop` takes. -/
def taken (r : BoxTunRunner E) : Taken := ⟨r.stopWait, r.closer, r.cancel, r.done⟩

/-- The critical section of `Stop`. -/
def takeAll (r : BoxTunRunner E) : BoxTunRunner E := {
  r with
  gen := r.gen + 1
  stopWait := none
  closer := none
  cancel := none
  done := none
  active := false }

/-- The critical section of `Start`, and its goroutine. -/
def launch (r : BoxTunRunner E) (emit : E) : BoxTunRunner E := {
  r with
  gen := r.gen + 1
  active := true
  stopWait := some r.runs.length
  done := some r.runs.length
  runs := r.runs ++ [{ gen := r.gen + 1, emit }] }

/-- The state after a `Close` by `Stop`, for what it returned. -/
def closeByStop (r : BoxTunRunner E) (i : ℕ) (err : Option Err) : BoxTunRunner E :=
  { r.closeInstance i with
    unclosed := if err.isSome then i :: r.unclosed else r.unclosed.filter (· ≠ i) }

/-- What an operation may return and leave. The wait for the goroutine is not cut short. -/
def Exec : (o : RunnerOp E) → BoxTunRunner E → o.Res → BoxTunRunner E → Prop
  | .takeAll, r, t, r' => t = r.taken ∧ r' = r.takeAll
  | .close i, r, err, r' => r' = r.closeByStop i err
  | .callCancel i, r, _, r' => r' = r.cancelInstance i
  | .stopWait n, r, _, r' =>
    r' = { r with runs := r.runs.modify n fun run => { run with cancelled := true } }
  | .awaitDone n, r, _, r' => (∃ run, r.runs[n]? = some run ∧ run.pc = .finished) ∧ r' = r
  | .clearLogWriter, r, _, r' => r' = { r with logWriter := none }
  | .validate .., r, _, r' => r' = r
  | .check _, r, _, r' => r' = r
  | .launch emit, r, _, r' => r' = r.launch emit

/-- Send an event of a goroutine, unless it is superseded. -/
def send (r : BoxTunRunner E) (n : ℕ) (run : Run E) (ev : Event) : BoxTunRunner E :=
  if r.gen = run.gen then { r with passed := (n, ev) :: r.passed } else r

/-- The event of an instance that is up. -/
def tunReady : Event := { event := .tunReady }

/-- The event of a start that failed. -/
def tunStopped (reason : String) : Event := { event := .tunStopped, reason }

/-- One step of the goroutine `run`, number `n`: where it is next, and the runner then. -/
inductive RunStep (r : BoxTunRunner E) (n : ℕ) (run : Run E) : RunPc → BoxTunRunner E → Prop
  | socksUp (hpc : run.pc = .waiting) : RunStep r n run .installing r
  | waitAborted (hpc : run.pc = .waiting) (hc : run.cancelled = true) : RunStep r n run .exiting r
  | waitFailed (hpc : run.pc = .waiting) (hc : run.cancelled = false) (err : String) :
    RunStep r n run (.failing err) r
  | install (hpc : run.pc = .installing) (hgen : r.gen = run.gen) :
    RunStep r n run .creating { r with logWriter := some n }
  | installStale (hpc : run.pc = .installing) (hgen : r.gen ≠ run.gen) : RunStep r n run .exiting r
  | createAborted (hpc : run.pc = .creating) (hc : run.cancelled = true) :
    RunStep r n run .exiting r
  | createFailed (hpc : run.pc = .creating) (hc : run.cancelled = false) (err : String) :
    RunStep r n run (.failing ("start tun: " ++ err)) r
  | create (hpc : run.pc = .creating) :
    RunStep r n run (.created r.instances.length) { r with instances := r.instances ++ [{}] }
  | publish (i : ℕ) (hpc : run.pc = .created i) (hgen : r.gen = run.gen) :
    RunStep r n run .ready { r with closer := some i, cancel := some i }
  | publishStale (i : ℕ) (hpc : run.pc = .created i) (hgen : r.gen ≠ run.gen) :
    RunStep r n run (.closing i) r
  | close (i : ℕ) (hpc : run.pc = .closing i) : RunStep r n run (.cancelling i) (r.closeInstance i)
  | cancel (i : ℕ) (hpc : run.pc = .cancelling i) : RunStep r n run .exiting (r.cancelInstance i)
  | sendReady (hpc : run.pc = .ready) : RunStep r n run .exiting (r.send n run tunReady)
  | fail (reason : String) (hpc : run.pc = .failing reason) (hgen : r.gen = run.gen) :
    RunStep r n run .exiting
      { r with
        active := false, stopWait := none, logWriter := none
        passed := (n, tunStopped reason) :: r.passed }
  | failStale (reason : String) (hpc : run.pc = .failing reason) (hgen : r.gen ≠ run.gen) :
    RunStep r n run .exiting r
  | exit (hpc : run.pc = .exiting) : RunStep r n run .finished r

/-- What happens without the methods: a goroutine takes a step, or a line is written to its log. -/
inductive Goes (r : BoxTunRunner E) : BoxTunRunner E → Prop
  | step (n : ℕ) (run : Run E) (pc : RunPc) (r' : BoxTunRunner E) (hn : r.runs[n]? = some run)
    (h : RunStep r n run pc r') : Goes r { r' with runs := r.runs.set n { run with pc } }
  | log (n : ℕ) (run : Run E) (line : String) (hn : r.runs[n]? = some run) :
    Goes r (r.send n run { event := .log, line })

end BoxTunRunner

/-- A call of the runner. -/
inductive RunnerCall (E : Type)
  | start (config : String) (socksPort : ℤ) (emit : E)
  | stop

/-- The runner: its methods one at a time, its goroutines meanwhile. -/
def tunRunner (E : Type) :
    Monitor (RunnerOp E) RunnerOp.Res (RunnerCall E) (BoxTunRunner E) (Option Err) where
  body
    | .start config socksPort emit => BoxTunRunner.start config socksPort emit
    | .stop => BoxTunRunner.stop
  exec := BoxTunRunner.Exec
  env := BoxTunRunner.Goes
  enter _ _ := True

end Proxor.MacHelper
