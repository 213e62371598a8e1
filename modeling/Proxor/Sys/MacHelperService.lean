import Proxor.Lib.Json
import Proxor.Lib.Run
import Proxor.Lib.Text

set_option relaxedAutoImplicit false
set_option autoImplicit false

/-!
# The service in front of the helper's client

`MacHelperService` hands requests to a client on a worker thread and answers on the thread that owns
the context of the request. After `shutdown` requests are refused.

## Main definitions

* `Proxor.Sys.MacHelperProbe`, `Proxor.Sys.classifyMacHelper` — what a probe saw and means.
* `Proxor.Sys.Request` — what is asked of the service.
* `Proxor.Sys.MacHelperService` — the service, its worker and the answers on their way.
* `Proxor.Sys.MacHelperService.handle` — its events.

## Design

What the client does is an `Outcome`, given when a job ends. A context lives on the thread it was
created on. A worker that has counted a job as done may be slow to post its answer.
-/

namespace Proxor.Sys

/-! ### Probes -/

/-- `MacHelperProbe`. -/
structure MacHelperProbe where
  plistPresent : Bool := false
  binaryPresent : Bool := false
  connected : Bool := false
  helloOk : Bool := false
  rejected : Bool := false
  protocol : ℤ := 0
  build : String := ""
  singbox : String := ""
  error : String := ""

/-- `MacHelperState`. -/
inductive MacHelperState
  | notInstalled | installedNotRunning | notAuthorized | outdated | ready
deriving DecidableEq

/-- `kMacHelperProtocolVersion`. -/
def macHelperProtocolVersion : ℤ := 1

/-- `ClassifyMacHelper`. -/
def classifyMacHelper (probe : MacHelperProbe) : MacHelperState :=
  if !probe.plistPresent || !probe.binaryPresent then .notInstalled
  else if !probe.connected then .installedNotRunning
  else if probe.rejected then .notAuthorized
  else if probe.helloOk then
    if probe.protocol = macHelperProtocolVersion then .ready else .outdated
  else if Text.contains (probe.error.map Text.foldCase) "protocol mismatch" then .outdated
  else if probe.protocol ≠ 0 ∧ probe.protocol ≠ macHelperProtocolVersion then .outdated
  else .installedNotRunning

/-! ### Requests -/

/-- `MacHelperClient::Reply`. -/
structure Reply where
  ok : Bool := false
  error : String := ""
  body : JsonObject := []

/-- `ShutDownReply`. -/
def shutDownReply : Reply := { ok := false, error := "the Proxor service client is shut down" }

/-- What a callback is given. -/
inductive Answer
  | reply (r : Reply)
  | probe (p : MacHelperProbe) (s : MacHelperState)

/-- What the client is asked for by `submit`. -/
inductive Work
  | tunStart (config : List UInt8) (socksPort timeoutMs : ℤ)
  | tunStop (timeoutMs : ℤ)
  | sysproxyApply (port : ℤ) (bypass : List String) (timeoutMs : ℤ)
  | sysproxyRestore (timeoutMs : ℤ)
  | status (timeoutMs : ℤ)
  | uninstall (timeoutMs : ℤ)

/-- A thread that owns contexts. -/
abbrev Thread := ℕ

/-- What is asked of the service: a context is null or lives on a thread, a callback may be missing. -/
inductive Request
  | submit (context : Option Thread) (work : Work) (done : Bool)
  | probe (context : Option Thread) (timeoutMs : ℤ) (done : Bool)
  | disconnectFromHelper

namespace Request

/-- The thread on which an answer is wanted (`context && done`). -/
def wantsReply : Request → Option Thread
  | .submit context _ done => if done then context else none
  | .probe context _ done => if done then context else none
  | .disconnectFromHelper => none

/-- The answer after `shutdown`. -/
def refusal : Request → Answer
  | .probe _ _ _ => .probe { error := shutDownReply.error } .notInstalled
  | _ => .reply shutDownReply

end Request

/-- What the client did for a job: its reply, what it probed, and whether it is connected then. -/
structure Outcome where
  reply : Reply := {}
  probe : MacHelperProbe := {}
  connected : Bool := false

/-! ### The service -/

/-- An accepted request, with its number among those issued. -/
structure Job where
  number : ℕ
  request : Request

/-- What is posted to the worker: a job, or the end (`disconnectFromHelper` and `quit`). -/
inductive Posting
  | job (j : Job)
  | close

/-- What is posted to the thread of a context. -/
structure Delivery where
  number : ℕ
  thread : Thread
  answer : Answer

/-- What the worker is doing. -/
inductive Activity
  | running (p : Posting)
  | answering (d : Delivery)

/-- The worker runs what was posted. -/
def Activity.isRunning : Activity → Bool
  | .running _ => true
  | .answering _ => false

/-- The service, with the queues of its worker and of the threads that own contexts, `waiting` while
the thread `issuer` waits in `shutdown`, and the number of requests issued. -/
structure MacHelperService where
  issuer : Thread
  down : Bool := false
  pending : ℤ := 0
  connected : Bool := false
  state : MacHelperState := .notInstalled
  queue : List Posting := []
  current : Option Activity := none
  ended : Bool := false
  deliveries : List Delivery := []
  waiting : Bool := false
  issued : ℕ := 0

/-- What can be seen of the service. -/
inductive Output
  | executed (number : ℕ)
  | disconnected
  | callback (d : Delivery)
  | shutDown (stopped : Bool)

/-- What happens: a request is issued, `shutdown` is called and returns, the worker takes what was
posted, ends it and posts its answer, the client loses the connection, a thread runs a callback. -/
inductive ServiceEvent
  | issue (request : Request)
  | shutdown
  | waitEnds
  | take
  | finish (o : Outcome)
  | answer
  | connectionLost
  | run (t : Thread)

namespace MacHelperService

/-- `enqueue`: none after `shutdown`. -/
def enqueue (s : MacHelperService) (j : Job) : Option MacHelperService :=
  if s.down then none
  else some { s with pending := s.pending + 1, queue := s.queue ++ [.job j] }

/-- `deliver`. -/
def deliver (s : MacHelperService) (d : Delivery) : MacHelperService :=
  { s with deliveries := s.deliveries ++ [d] }

/-- `submit`, `probe` and `disconnectFromHelper`. -/
def issue (s : MacHelperService) (request : Request) : MacHelperService :=
  let n := s.issued
  let s := { s with issued := n + 1 }
  match s.enqueue ⟨n, request⟩ with
  | some s => s
  | none =>
    match request.wantsReply with
    | some t => s.deliver ⟨n, t, request.refusal⟩
    | none => s

/-- `shutdown`, up to the wait. -/
def shutdown (s : MacHelperService) : MacHelperService :=
  if s.down then { s with waiting := true }
  else { s with waiting := true, down := true, queue := s.queue ++ [.close] }

/-- The end of a job. -/
def finish (s : MacHelperService) (j : Job) (o : Outcome) : MacHelperService :=
  match j.request with
  | .submit _ _ _ =>
    { s with
      connected := o.connected
      state := if o.reply.ok || o.connected then .ready else s.state
      pending := s.pending - 1
      current := j.request.wantsReply.map fun t => .answering ⟨j.number, t, .reply o.reply⟩ }
  | .probe _ _ _ =>
    { s with
      connected := o.connected
      state := classifyMacHelper o.probe
      pending := s.pending - 1
      current := j.request.wantsReply.map fun t =>
        .answering ⟨j.number, t, .probe o.probe (classifyMacHelper o.probe)⟩ }
  | .disconnectFromHelper =>
    { s with connected := false, pending := s.pending - 1, current := none }

/-- The end of the worker. -/
def close (s : MacHelperService) : MacHelperService :=
  { s with connected := false, current := none, ended := true }

/-- The first delivery to a thread. -/
def next (s : MacHelperService) (t : Thread) : Option Delivery :=
  s.deliveries.find? fun d => d.thread = t

/-- The event may happen: the issuing thread does nothing while it waits. -/
def Allowed (s : MacHelperService) : ServiceEvent → Prop
  | .issue _ => s.waiting = false
  | .shutdown => s.waiting = false
  | .waitEnds => s.waiting = true
  | .take => s.current.isNone = true ∧ s.queue.isEmpty = false ∧ s.ended = false
  | .finish _ => s.current.any Activity.isRunning = true
  | .answer => s.current.any (fun a => !a.isRunning) = true
  | .connectionLost => s.ended = false
  | .run t => (s.next t).isSome = true ∧ (t = s.issuer → s.waiting = false)

instance (s : MacHelperService) (e : ServiceEvent) : Decidable (s.Allowed e) := by
  cases e <;> unfold Allowed <;> infer_instance

/-- One event. -/
def handle (s : MacHelperService) : ServiceEvent → MacHelperService × List Output
  | .issue request => (s.issue request, [])
  | .shutdown => (s.shutdown, [])
  | .waitEnds => ({ s with waiting := false }, [.shutDown s.ended])
  | .take =>
    match s.queue with
    | [] => (s, [])
    | p :: queue => ({ s with queue := queue, current := some (.running p) }, [])
  | .finish o =>
    match s.current with
    | some (.running (.job j)) => (s.finish j o, [.executed j.number])
    | some (.running .close) => (s.close, [.disconnected])
    | _ => (s, [])
  | .answer =>
    match s.current with
    | some (.answering d) => ({ s with current := none }.deliver d, [])
    | _ => (s, [])
  | .connectionLost => ({ s with connected := false }, [])
  | .run t =>
    match s.next t with
    | some d =>
      ({ s with deliveries := s.deliveries.eraseP fun d => d.thread = t }, [.callback d])
    | none => (s, [])

end MacHelperService

end Proxor.Sys
