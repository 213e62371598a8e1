import Mathlib.Data.Rat.Defs
import Proxor.Lib.Framing
import Proxor.Main.JsonStore
import Proxor.Sys.MacHelperService

set_option relaxedAutoImplicit false
set_option autoImplicit false

/-!
# The client of the helper

The client sends requests to the helper over one connection, each on a line, and reads replies and events
from it. A request waits for its reply. What arrives is read by the slot for it while nobody waits, and by
whoever waits otherwise; events are queued as signals.

## Main definitions

* `Proxor.Sys.MacHelperClient` — the client, with what the event loop has yet to deliver.
* `Proxor.Sys.MacHelperClient.takeObject` — the next object of the buffer that is no event.
* `Proxor.Sys.MacHelperClient.waitReply` — wait for the reply to a request.
* `Proxor.Sys.MacHelperClient.ensureSession`, `Proxor.Sys.MacHelperClient.request` — sessions and requests.
* `Proxor.Sys.MacHelperClient.run` — what the client does for the events of its event loop.

## Design

What the socket does while the client is in it is given with each call: what is read, how much time passed,
and which signals it emits. What happened is written to a log that nothing depends on. A JSON text is
parsed by a parameter.
-/

namespace Proxor.Sys

namespace MacHelperClient

/-! ### Objects -/

/-- A value of an object. -/
inductive Value
  | num (x : ℚ)
  | bool (b : Bool)
  | str (s : String)
  | other
deriving DecidableEq

/-- An object. -/
abbrev Object := List (String × Value)

/-- `QJsonObject::value`. -/
def Object.value (obj : Object) (key : String) : Option Value := obj.lookup key

/-- `QJsonObject::contains`. -/
def Object.contains (obj : Object) (key : String) : Bool := (obj.value key).isSome

/-- `toString` of the value of a key. -/
def Object.text (obj : Object) (key : String) : String :=
  match obj.value key with
  | some (.str s) => s
  | _ => ""

/-- `toBool` of the value of a key. -/
def Object.flag (obj : Object) (key : String) : Bool :=
  match obj.value key with
  | some (.bool b) => b
  | _ => false

/-- `toDouble` of the value of a key. -/
def Object.toDouble (obj : Object) (key : String) (default : ℚ) : ℚ :=
  match obj.value key with
  | some (.num x) => x
  | _ => default

/-- `toInt(0)` of the value of a key. -/
def Object.toInt (obj : Object) (key : String) : ℤ :=
  match obj.value key with
  | some (.num x) => if x.den = 1 then Proxor.toInt x.num else 0
  | _ => 0

/-- A floating point number, cut off to an integer. -/
def truncated (x : ℚ) : ℤ := x.num.tdiv x.den

/-- The object is the reply to a request. A fraction of the number does not matter. -/
def Object.carries (obj : Object) (id : ℤ) : Bool :=
  obj.contains "id" && truncated (obj.toDouble "id" (-1)) == id

/-- A line of white space. -/
def isBlank (line : Bytes) : Bool := line.all fun b => b = 32 || (9 ≤ b.toNat && b.toNat ≤ 13)

/-- The object of a line, if it is one. -/
def objectOf (parse : Bytes → Option Object) (line : Bytes) : Option Object :=
  if isBlank line then none else parse line

/-! ### Signals -/

/-- The signals of the client. -/
inductive Signal
  | tunReady
  | tunStopped (reason : String)
  | helperLog (line : String)
  | connectionLost
deriving DecidableEq

/-- The signal for an event, if it is known. -/
def signalOf (obj : Object) : Option Signal :=
  if obj.text "event" = "tun_ready" then some .tunReady
  else if obj.text "event" = "tun_stopped" then some (.tunStopped (obj.text "reason"))
  else if obj.text "event" = "log" then some (.helperLog (obj.text "line"))
  else none

/-! ### Waits -/

/-- What the socket emits while the client is in it: `readyRead`, with what there is to read, and
`disconnected`. -/
structure Emitted where
  readyRead : Option Bytes := none
  disconnected : Bool := false

/-- A round of a wait: what there is to read, the time that has passed, and what the socket emits while the
client waits for more. -/
structure Round where
  data : Bytes := []
  elapsed : ℤ := 0
  emitted : Emitted := {}

/-- How a wait ends (`WaitResult`), with the reply. -/
inductive WaitResult
  | got (reply : Object)
  | timeout
  | closed
  | overflow

/-- A wait that is over. -/
structure Waited where
  id : ℤ
  budgetMs : ℤ
  rounds : List Round
  /-- What had been read on the connection before it. -/
  before : Bytes
  /-- What has been read after it. -/
  after : Bytes
  result : WaitResult
  connected : Bool

/-! ### The log -/

/-- An entry of the log. -/
inductive Note
  /-- A connection is made. -/
  | connect
  /-- Bytes are read. -/
  | read (data : Bytes)
  /-- A signal is queued. -/
  | post (s : Signal)
  /-- A signal is delivered. -/
  | emit (s : Signal)
  /-- A hello is completed. -/
  | hello
  /-- The client disconnects. -/
  | disconnect
  /-- A line is written. -/
  | sent (obj : Object)
  /-- A wait ends. -/
  | waited (w : Waited)

/-- The state of the socket. -/
inductive SocketState
  | unconnected | connecting | connected
deriving DecidableEq

/-- `kMaxLineBytes`. -/
def kMaxLineBytes : ℕ := 1024 * 1024

/-- `kMaxHelloBudgetMs`. -/
def kMaxHelloBudgetMs : ℤ := 3000

end MacHelperClient

open MacHelperClient in
/-- The client. -/
structure MacHelperClient where
  sock : SocketState := .unconnected
  buf : Bytes := []
  nextId : ℤ := 1
  helloDone : Bool := false
  inWait : Bool := false
  gotBytes : Bool := false
  overflow : Bool := false
  hello : MacHelperProbe := {}
  /-- What the event loop has yet to deliver. -/
  queue : List Signal := []
  log : List Note := []

namespace MacHelperClient

/-- What was read on the connection. -/
def stream (log : List Note) : Bytes :=
  log.foldl (fun s note =>
    match note with
    | .connect => []
    | .read data => s ++ data
    | _ => s) []

/-- Write to the log. -/
def write (c : MacHelperClient) (note : Note) : MacHelperClient := { c with log := c.log ++ [note] }

/-- Queue a signal. -/
def post (c : MacHelperClient) (s : Signal) : MacHelperClient :=
  { c with queue := c.queue ++ [s] }.write (.post s)

/-- `isConnected`. -/
def isConnected (c : MacHelperClient) : Bool := c.helloDone && c.sock == .connected

/-! ### The buffer -/

/-- `drain`, with what the socket has to read. -/
def drain (data : Bytes) (c : MacHelperClient) : MacHelperClient :=
  if data = [] then c else { c with gotBytes := true, buf := c.buf ++ data }.write (.read data)

/-- `dispatchEvent`. -/
def dispatchEvent (obj : Object) (c : MacHelperClient) : MacHelperClient :=
  match signalOf obj with
  | some s => c.post s
  | none => c

/-- `noteDisconnected`. -/
def noteDisconnected (c : MacHelperClient) : MacHelperClient :=
  if !c.helloDone then c else { c with helloDone := false, buf := [] }.post .connectionLost

/-- `abort` of the socket, which emits `disconnected`. -/
def abort (c : MacHelperClient) : MacHelperClient :=
  if c.sock = .unconnected then c else { c with sock := .unconnected }.noteDisconnected

/-- `dropConnection`. -/
def dropConnection (c : MacHelperClient) : MacHelperClient :=
  { c.abort.noteDisconnected with buf := [] }

lemma buf_dispatchEvent (obj : Object) (c : MacHelperClient) : (c.dispatchEvent obj).buf = c.buf := by
  rw [dispatchEvent]
  cases signalOf obj <;> rfl

section Parse

variable (parse : Bytes → Option Object)

/-- `takeObject`: the next complete object that is no event. Events are queued on the way. -/
def takeObject (c : MacHelperClient) : Option Object × MacHelperClient :=
  if hnl : 10 ∈ c.buf then
    let nl := c.buf.idxOf 10
    if nl > kMaxLineBytes then (none, { c with overflow := true })
    else
      let line := c.buf.take nl
      let c' := { c with buf := c.buf.drop (nl + 1) }
      match objectOf parse line with
      | none => takeObject c'
      | some obj => if obj.contains "event" then takeObject (c'.dispatchEvent obj) else (some obj, c')
  else if c.buf.length > kMaxLineBytes then (none, { c with overflow := true })
  else (none, c)
termination_by c.buf.length
decreasing_by
  all_goals
    have hpos := List.length_pos_of_mem hnl
    simp only [buf_dispatchEvent, List.length_drop]
    omega

/-- What an object is taken from gets shorter. -/
lemma length_takeObject_lt {c c' : MacHelperClient} {obj : Object}
    (h : takeObject parse c = (some obj, c')) : c'.buf.length < c.buf.length := by
  fun_induction takeObject parse c with
  | case1 c hnl nl hlong => exact absurd (congrArg Prod.fst h).symm (Option.some_ne_none obj)
  | case2 c hnl nl hlong line next hnone ih =>
    have hlt := ih h
    have hpos := List.length_pos_of_mem hnl
    rw [List.length_drop] at hlt
    omega
  | case3 c hnl nl hlong line next obj' hobj hevent ih =>
    have hlt := ih h
    have hpos := List.length_pos_of_mem hnl
    rw [buf_dispatchEvent, List.length_drop] at hlt
    omega
  | case4 c hnl nl hlong line next obj' hobj hevent =>
    have hpos := List.length_pos_of_mem hnl
    obtain ⟨-, rfl⟩ := Prod.mk.inj h
    rw [List.length_drop]
    omega
  | case5 => exact absurd (congrArg Prod.fst h).symm (Option.some_ne_none obj)
  | case6 => exact absurd (congrArg Prod.fst h).symm (Option.some_ne_none obj)

/-- The objects nobody waits for are dropped, the events among them are queued. -/
def takeAll (c : MacHelperClient) : MacHelperClient :=
  match h : takeObject parse c with
  | (none, c') => c'
  | (some _, c') => takeAll c'
termination_by c.buf.length
decreasing_by exact length_takeObject_lt parse h

/-- `processBuffered`. -/
def processBuffered (c : MacHelperClient) : MacHelperClient :=
  let c := takeAll parse c
  if c.overflow then c.dropConnection else c

/-- `settle`, with what the socket has to read. -/
def settle (data : Bytes) (c : MacHelperClient) : MacHelperClient :=
  let c := if c.sock = .connected then c.drain data else c
  let c := processBuffered parse c
  if c.sock ≠ .connected then c.noteDisconnected else c

/-! ### The socket -/

/-- `onReadyRead`. -/
def onReadyRead (data : Bytes) (c : MacHelperClient) : MacHelperClient :=
  if c.inWait then c else processBuffered parse (c.drain data)

/-- What the client makes of it. -/
def onEmitted (e : Emitted) (c : MacHelperClient) : MacHelperClient :=
  let c := match e.readyRead with
    | some data => onReadyRead parse data c
    | none => c
  if e.disconnected = true ∧ c.sock = .connected then { c with sock := .unconnected }.noteDisconnected else c

/-- How a line is written. -/
structure Writing where
  /-- All of it is taken. -/
  taken : Bool := true
  emitted : Emitted := {}
  /-- Some of it is yet to be written. -/
  pending : Bool := false
  waiting : Emitted := {}

/-- `sendObject`. -/
def sendObject (obj : Object) (w : Writing) (c : MacHelperClient) : Bool × MacHelperClient :=
  let c := onEmitted parse w.emitted (c.write (.sent obj))
  if !w.taken then (false, c)
  else if w.pending then (true, onEmitted parse w.waiting c)
  else (true, c)

/-! ### Waiting -/

/-- The reply among the objects of the buffer. Other replies are dropped. -/
def findReply (id : ℤ) (c : MacHelperClient) : Option Object × MacHelperClient :=
  match h : takeObject parse c with
  | (none, c') => (none, c')
  | (some obj, c') => if obj.carries id then (some obj, c') else findReply id c'
termination_by c.buf.length
decreasing_by exact length_takeObject_lt parse h

/-- A round of the loop of `waitReply`. It says how the wait ends, if it does. -/
def waitRound (id budgetMs : ℤ) (r : Round) (c : MacHelperClient) : Option WaitResult × MacHelperClient :=
  let c := if c.sock = .connected then c.drain r.data else c
  match findReply parse id c with
  | (some reply, c) => (some (.got reply), processBuffered parse c)
  | (none, c) =>
    if c.overflow then (some .overflow, c.dropConnection)
    else if c.sock ≠ .connected then (some .closed, c)
    else if budgetMs - r.elapsed ≤ 0 then (some .timeout, c)
    else (none, onEmitted parse r.emitted c)

/-- The rounds of `waitReply`. After the last one nothing more is read, and the time is up. -/
def waitRounds (id budgetMs : ℤ) : List Round → MacHelperClient → WaitResult × MacHelperClient
  | [], c =>
    let (result, c) := waitRound parse id budgetMs { elapsed := budgetMs } c
    (result.getD .timeout, c)
  | r :: rounds, c =>
    match waitRound parse id budgetMs r c with
    | (some result, c) => (result, c)
    | (none, c) => waitRounds id budgetMs rounds c

/-- `waitReply`. -/
def waitReply (id budgetMs : ℤ) (rounds : List Round) (c : MacHelperClient) : WaitResult × MacHelperClient :=
  let (result, c') := waitRounds parse id budgetMs rounds c
  (result, c'.write (.waited {
    id
    budgetMs
    rounds
    before := stream c.log
    after := stream c'.log
    result
    connected := c'.sock == .connected }))

/-! ### Sessions -/

/-- A call during which the client reads for itself (`WaitScope`). -/
def inScope {α : Type} (f : MacHelperClient → α × MacHelperClient) (c : MacHelperClient) : α × MacHelperClient :=
  let r := f { c with inWait := true }
  (r.1, { r.2 with inWait := c.inWait })

/-- What the socket does while a session is made sure of. -/
structure Opening where
  early : Emitted := {}
  settled : Bytes := []
  /-- `waitForConnected`. -/
  connects : Bool := true
  errorString : String := ""
  writing : Writing := {}
  elapsed : ℤ := 0
  rounds : List Round := []

/-- The hello that is sent. -/
def helloRequest (id : ℤ) : Object :=
  [("id", .num id), ("cmd", .str "hello"), ("protocol", .num macHelperProtocolVersion)]

/-- The connection that says hello, and what it learns of the helper. -/
def sayHello (budget : ℤ) (o : Opening) (p : MacHelperProbe) (c : MacHelperClient) :
    (Bool × MacHelperProbe) × MacHelperClient :=
  let p := { p with connected := true }
  let id := c.nextId
  let (sent, c) := sendObject parse (helloRequest id) o.writing { c with nextId := id + 1 }
  let (result, c) :=
    if sent then waitReply parse id (max 1 (budget - o.elapsed)) o.rounds c else (.closed, c)
  match result with
  | .closed =>
    let rejected := !c.gotBytes
    let error := if rejected then "connection closed by the helper" else "connection lost"
    ((false, { p with rejected, error }), c.abort)
  | .timeout => ((false, { p with error := "timeout" }), c.abort)
  | .overflow => ((false, { p with error := "reply too long" }), c)
  | .got reply =>
    let p := { p with protocol := reply.toInt "protocol" }
    if !reply.flag "ok" then
      let error := if reply.text "error" = "" then "hello rejected" else reply.text "error"
      ((false, { p with error }), c.abort)
    else
      let p := { p with helloOk := true, build := reply.text "build", singbox := reply.text "singbox" }
      if p.protocol ≠ macHelperProtocolVersion then
        ((false, { p with error := "protocol mismatch" }), c.abort)
      else
        let c := { c with hello := p, helloDone := true }.write .hello
        -- the helper may have answered and closed in the same read
        if c.sock ≠ .connected then ((false, p), c.noteDisconnected) else ((true, p), c)

/-- `ensureSession`. -/
def ensureSession (budgetMs : ℤ) (o : Opening) (p : MacHelperProbe) :
    MacHelperClient → (Bool × MacHelperProbe) × MacHelperClient :=
  inScope fun c =>
    let c := if c.helloDone = true ∧ c.sock = .connected then
        settle parse o.settled (onEmitted parse o.early c)
      else c
    if c.helloDone = true ∧ c.sock = .connected then
      ((true, { p with
        connected := true
        helloOk := true
        protocol := c.hello.protocol
        build := c.hello.build
        singbox := c.hello.singbox }), c)
    else
      let budget := max 1 (min budgetMs kMaxHelloBudgetMs)
      let c := { c with helloDone := false }.abort
      let c := { c with buf := [], overflow := false, gotBytes := false, sock := .connecting }
      if !o.connects then ((false, { p with error := o.errorString }), c.abort)
      else sayHello parse budget o p ({ c with sock := .connected }.write .connect)

/-- `probe`, with the files that are there. -/
def probe (plistPresent binaryPresent : Bool) (timeoutMs : ℤ) (o : Opening) (settled : Bytes)
    (c : MacHelperClient) : MacHelperProbe × MacHelperClient :=
  let ((_, p), c) := ensureSession parse timeoutMs o { plistPresent, binaryPresent } c
  inScope (fun c => (p, settle parse settled c)) c

/-- `MacHelperClient::Reply`. -/
structure Reply where
  ok : Bool := false
  error : String := ""
  body : Object := []

/-- What the socket does during a request. -/
structure Requesting where
  opening : Opening := {}
  writing : Writing := {}
  rounds : List Round := []
  settled : Bytes := []

/-- `request`. -/
def request (req : Object) (timeoutMs : ℤ) (r : Requesting) : MacHelperClient → Reply × MacHelperClient :=
  inScope fun c =>
    let ((usable, p), c) := ensureSession parse timeoutMs r.opening {} c
    if !usable then
      let error := if p.error = "" then "the Proxor service is not available" else p.error
      ({ error }, settle parse r.settled c)
    else
      let id := c.nextId
      let (sent, c) := sendObject parse (("id", .num id) :: req) r.writing { c with nextId := id + 1 }
      if !sent then ({ error := "connection lost" }, settle parse r.settled c)
      else
        let (result, c) := waitReply parse id (max 1 timeoutMs) r.rounds c
        let out : Reply := match result with
          | .got reply => { body := reply, ok := reply.flag "ok", error := reply.text "error" }
          | .timeout => { error := "timeout" }
          | .closed => { error := "connection lost" }
          | .overflow => { error := "reply too long" }
        (out, settle parse r.settled c)

/-- `disconnectFromHelper`. -/
def disconnectFromHelper (c : MacHelperClient) : MacHelperClient :=
  ({ c with helloDone := false, buf := [] }.write .disconnect).abort

/-! ### Runs -/

/-- An event of the event loop. -/
inductive Event
  /-- The socket has something to read. -/
  | readyRead (data : Bytes)
  /-- The helper is gone. -/
  | disconnected
  | probe (plistPresent binaryPresent : Bool) (timeoutMs : ℤ) (o : Opening) (settled : Bytes)
  | request (req : Object) (timeoutMs : ℤ) (r : Requesting)
  | disconnectFromHelper
  /-- The next queued signal is delivered. -/
  | deliver

/-- Deliver the next queued signal. -/
def deliver (c : MacHelperClient) : MacHelperClient :=
  match c.queue with
  | [] => c
  | s :: queue => { c with queue }.write (.emit s)

/-- What the client does for an event. The socket emits only while it is connected. -/
def handle (c : MacHelperClient) : Event → MacHelperClient
  | .readyRead data => if c.sock = .connected then onReadyRead parse data c else c
  | .disconnected => onEmitted parse { disconnected := true } c
  | .probe plistPresent binaryPresent timeoutMs o settled =>
    (probe parse plistPresent binaryPresent timeoutMs o settled c).2
  | .request req timeoutMs r => (request parse req timeoutMs r c).2
  | .disconnectFromHelper => c.disconnectFromHelper
  | .deliver => c.deliver

/-- The client after some events. -/
def run (events : List Event) : MacHelperClient := events.foldl (handle parse) {}

end Parse

end MacHelperClient

end Proxor.Sys
