import Proxor.Lib.Run
import Proxor.Sys.MacHelperClient

set_option relaxedAutoImplicit false
set_option autoImplicit false

/-!
# Runs of the client of the helper

What the client does with the lines of a connection is a ledger: every event among them is queued once, in
their order, every wait ends with the first reply of its number, and a loss belongs to one hello. The log of
every run is accepted by it, wherever the reads are cut.

## Main definitions

* `Proxor.Sys.MacHelperClient.eventsOf`, `Proxor.Sys.MacHelperClient.repliesOf` — what lines say.
* `Proxor.Sys.MacHelperClient.Ledger` — the ledger, with the notes it accepts.

## Main results

* `Proxor.Sys.MacHelperClient.run_accepted` — the log of every run is accepted.
* `Proxor.Sys.MacHelperClient.not_run_accepted` — a number with a fraction is taken for the number, and a loss
  that is queued is delivered after the client disconnects.
-/

namespace Proxor.Sys.MacHelperClient

open Framing

variable (parse : Bytes → Option Object)

/-! ### What lines say -/

/-- The signals for the events among some lines. -/
def eventsOf (ls : List Bytes) : List Signal :=
  (ls.filterMap (objectOf parse)).filterMap fun obj => if obj.contains "event" then signalOf obj else none

/-- The other objects among some lines. -/
def repliesOf (ls : List Bytes) : List Object :=
  (ls.filterMap (objectOf parse)).filter fun obj => !obj.contains "event"

lemma eventsOf_append (ls ls' : List Bytes) :
    eventsOf parse (ls ++ ls') = eventsOf parse ls ++ eventsOf parse ls' := by
  rw [eventsOf, List.filterMap_append, List.filterMap_append, eventsOf, eventsOf]

lemma repliesOf_append (ls ls' : List Bytes) :
    repliesOf parse (ls ++ ls') = repliesOf parse ls ++ repliesOf parse ls' := by
  rw [repliesOf, List.filterMap_append, List.filter_append, repliesOf, repliesOf]

/-- A loss is no event of the helper. -/
lemma connectionLost_not_mem_eventsOf (ls : List Bytes) : .connectionLost ∉ eventsOf parse ls := by
  intro h
  obtain ⟨obj, -, hobj⟩ := List.mem_filterMap.1 h
  unfold signalOf at hobj
  split_ifs at hobj <;> cases Option.some.inj hobj

/-- The complete lines of a stream, up to one that is too long. -/
abbrev linesOf (s : Bytes) : List Bytes := goodLines kMaxLineBytes s

/-! ### The ledger -/

/-- What is known of the connection and of the signals. -/
structure Ledger where
  stream : Bytes := []
  /-- The signals that were queued for events of the connection. -/
  events : List Signal := []
  /-- There was a hello, and no loss or disconnection after it. -/
  armed : Bool := false
  pending : List Signal := []
  /-- What was sent last, and what had been read on the connection before. -/
  asked : Object := []
  mark : Bytes := []
  lastId : ℤ := 0

/-- The reply a wait ends with. -/
def WaitResult.reply : WaitResult → Option Object
  | .got reply => some reply
  | _ => none

/-- What there is to read until the time is up. -/
def inTime (budgetMs : ℤ) : List Round → Bytes
  | [] => []
  | r :: rounds => if budgetMs - r.elapsed ≤ 0 then r.data else r.data ++ inTime budgetMs rounds

/-- A wait without a reply ends when the time is up, with all that there was to read until then, or without a
connection. -/
def Ends (budgetMs : ℤ) (rounds : List Round) (before after : Bytes) (connected : Bool) : WaitResult → Prop
  | .got _ => True
  | .timeout => after = before ++ inTime budgetMs rounds
  | .closed => connected = false
  | .overflow => connected = false

/-- A wait ends with the first reply with the number of the request that is read after the request, if there is
one. No other wait before had a number that is as large. -/
structure WaitOk (l : Ledger) (w : Waited) : Prop where
  asked : l.asked.value "id" = some (.num w.id)
  next : l.lastId < w.id
  before : w.before = l.mark
  after : w.after = l.stream
  reply : ∃ new, repliesOf parse (linesOf w.after) = repliesOf parse (linesOf w.before) ++ new ∧
    new.find? (·.carries w.id) = w.result.reply
  ends : Ends w.budgetMs w.rounds w.before w.after w.connected w.result

namespace Ledger

/-- The ledger after a note. -/
def step (l : Ledger) : Note → Ledger
  | .connect => { l with stream := [], events := [], armed := false }
  | .read data => { l with stream := l.stream ++ data }
  | .post .connectionLost => { l with armed := false, pending := l.pending ++ [.connectionLost] }
  | .post s => { l with events := l.events ++ [s], pending := l.pending ++ [s] }
  | .emit _ => { l with pending := l.pending.tail }
  | .hello => { l with armed := true }
  | .disconnect => { l with armed := false }
  | .sent obj => { l with asked := obj, mark := l.stream }
  | .waited w => { l with lastId := w.id }

/-- The events of the connection are queued, each once and in their order. -/
def Settled (l : Ledger) : Prop := l.events = eventsOf parse (linesOf l.stream)

/-- The notes that may come next. -/
def Accepts (l : Ledger) : Note → Prop
  | .connect => l.Settled parse
  -- a line that is too long ends the connection
  | .read _ => overlong kMaxLineBytes l.stream = false
  | .post .connectionLost => l.armed = true
  | .post _ => True
  -- signals are delivered in the order in which they are queued
  | .emit s => l.pending.head? = some s
  | .hello => True
  | .disconnect => True
  | .sent _ => True
  | .waited w => WaitOk parse l w

end Ledger

/-- The ledger after a log. -/
def ledger (log : List Note) : Ledger := log.foldl Ledger.step {}

/-- Every note of a log is accepted. -/
def Accepted (log : List Note) : Prop := Each Ledger.step (Ledger.Accepts parse) {} log

variable {parse}

lemma ledger_concat (log : List Note) (note : Note) : ledger (log ++ [note]) = (ledger log).step note := by
  rw [ledger, List.foldl_append]
  rfl

lemma accepted_concat {log : List Note} {note : Note} (h : Accepted parse log)
    (hnote : (ledger log).Accepts parse note) : Accepted parse (log ++ [note]) :=
  Each.append.2 ⟨h, hnote, trivial⟩

/-- The stream of the log. -/
lemma stream_eq_ledger (log : List Note) : stream log = (ledger log).stream := by
  induction log using List.reverseRecOn with
  | nil => rfl
  | append_singleton log note ih =>
    rw [ledger_concat, stream, List.foldl_append, List.foldl_cons, List.foldl_nil, ← stream, ih]
    cases note with
    | post s => cases s <;> rfl
    | _ => rfl

/-- Events that are queued. -/
lemma ledger_posts {log : List Note} {signals : List Signal} (h : .connectionLost ∉ signals) :
    ledger (log ++ signals.map .post) =
      { ledger log with
        events := (ledger log).events ++ signals
        pending := (ledger log).pending ++ signals } := by
  induction signals using List.reverseRecOn with
  | nil => rw [List.map_nil, List.append_nil, List.append_nil, List.append_nil]
  | append_singleton signals s ih =>
    rw [List.mem_append, not_or] at h
    rw [List.map_append, ← List.append_assoc, List.map_singleton, ledger_concat, ih h.1]
    cases s with
    | connectionLost => exact absurd List.mem_cons_self h.2
    | _ => simp only [Ledger.step, List.append_assoc]

lemma accepted_posts {log : List Note} {signals : List Signal} (h : .connectionLost ∉ signals)
    (hlog : Accepted parse log) : Accepted parse (log ++ signals.map .post) := by
  induction signals using List.reverseRecOn with
  | nil => rwa [List.map_nil, List.append_nil]
  | append_singleton signals s ih =>
    rw [List.mem_append, not_or] at h
    rw [List.map_append, ← List.append_assoc, List.map_singleton]
    refine accepted_concat (ih h.1) ?_
    cases s with
    | connectionLost => exact absurd List.mem_cons_self h.2
    | _ => trivial

/-! ### Taking objects -/

/-- The client after some lines of its buffer. -/
def absorb (parse : Bytes → Option Object) (ls : List Bytes) (rest : Bytes) (long : Bool)
    (c : MacHelperClient) : MacHelperClient :=
  { c with
    buf := rest
    overflow := c.overflow || long
    queue := c.queue ++ eventsOf parse ls
    log := c.log ++ (eventsOf parse ls).map .post }

lemma absorb_absorb (c : MacHelperClient) (ls ls' : List Bytes) (rest rest' : Bytes) (long : Bool) :
    absorb parse ls' rest' long (absorb parse ls rest false c) = absorb parse (ls ++ ls') rest' long c := by
  simp only [absorb, Bool.or_false, eventsOf_append, List.map_append, List.append_assoc]

lemma absorb_nil (c : MacHelperClient) (long : Bool) :
    absorb parse [] c.buf long c = { c with overflow := c.overflow || long } := by
  simp only [absorb, eventsOf, List.filterMap_nil, List.map_nil, List.append_nil]

/-- The line at the newline. -/
lemma line_at {buf : Bytes} (h : 10 ∈ buf) :
    buf = buf.take (buf.idxOf 10) ++ 10 :: buf.drop (buf.idxOf 10 + 1) ∧ 10 ∉ buf.take (buf.idxOf 10) ∧
      (buf.take (buf.idxOf 10)).length = buf.idxOf 10 := by
  obtain ⟨l, s, rfl, hl⟩ := List.eq_append_cons_of_mem h
  have hidx : (l ++ 10 :: s).idxOf 10 = l.length := by
    rw [List.idxOf_append_of_notMem hl, List.idxOf_cons_self, Nat.add_zero]
  rw [hidx, List.take_left, ← List.drop_drop, List.drop_left]
  exact ⟨rfl, hl, rfl⟩

lemma overlong_line_at {buf : Bytes} (h : 10 ∈ buf) (hlong : kMaxLineBytes < buf.idxOf 10) :
    linesOf buf = [] ∧ overlong kMaxLineBytes buf = true := by
  obtain ⟨hbuf, hline, hlength⟩ := line_at h
  rw [← hlength] at hlong
  rw [hbuf]
  exact ⟨goodLines_long hline hlong _, overlong_long hline hlong _⟩

/-- Lines of the buffer are read, up to the first reply, or all of them. -/
def Takes (parse : Bytes → Option Object) (c : MacHelperClient) (r : Option Object × MacHelperClient) : Prop :=
  ∃ ls rest, c.buf = joined ls ++ rest ∧ (∀ l ∈ ls, Good kMaxLineBytes l) ∧
    match r.1 with
    | some obj => repliesOf parse ls = [obj] ∧ r.2 = absorb parse ls rest false c
    | none => repliesOf parse ls = [] ∧ linesOf rest = [] ∧
        r.2 = absorb parse ls rest (overlong kMaxLineBytes rest) c

/-- A line without a reply is read, and then others. -/
lemma Takes.cons {c : MacHelperClient} {line rest : Bytes} {r : Option Object × MacHelperClient}
    (hbuf : c.buf = line ++ 10 :: rest) (hline : Good kMaxLineBytes line) (hreply : repliesOf parse [line] = [])
    (h : Takes parse (absorb parse [line] rest false c) r) : Takes parse c r := by
  obtain ⟨ls, rest', hrest, hls, hspec⟩ := h
  refine ⟨line :: ls, rest', ?_, List.forall_mem_cons.2 ⟨hline, hls⟩, ?_⟩
  · rw [hbuf, joined_cons, List.append_assoc, List.cons_append]
    exact congrArg (fun s => line ++ 10 :: s) hrest
  · rw [← List.singleton_append, repliesOf_append, hreply, List.nil_append, ← absorb_absorb c [line] ls rest,
      ← absorb_absorb c [line] ls rest]
    exact hspec

/-- What a line with an object says. -/
lemma eventsOf_singleton {line : Bytes} {obj : Object} (hobj : objectOf parse line = some obj) :
    eventsOf parse [line] = if obj.contains "event" then (signalOf obj).toList else [] := by
  rw [eventsOf, List.filterMap_cons_some hobj, List.filterMap_nil]
  split_ifs with hevent
  · cases hsignal : signalOf obj with
    | none => rw [List.filterMap_cons_none (by rw [if_pos hevent, hsignal])]; rfl
    | some s => rw [List.filterMap_cons_some (by rw [if_pos hevent, hsignal])]; rfl
  · rw [List.filterMap_cons_none (by rw [if_neg hevent])]
    rfl

lemma repliesOf_singleton {line : Bytes} {obj : Object} (hobj : objectOf parse line = some obj) :
    repliesOf parse [line] = if obj.contains "event" then [] else [obj] := by
  rw [repliesOf, List.filterMap_cons_some hobj, List.filterMap_nil]
  split_ifs with hevent
  · exact List.filter_cons_of_neg (by rw [hevent]; exact Bool.false_ne_true)
  · exact List.filter_cons_of_pos (by rw [Bool.eq_false_of_not_eq_true hevent]; rfl)

/-- What `takeObject` does: it reads lines up to the first reply, or all of them.

**Proof sketch.** By the recursion of `takeObject`: it ends with a reply, with a line that is too long, or
when there is no complete line. -/
theorem takeObject_spec (parse : Bytes → Option Object) (c : MacHelperClient) : Takes parse c (takeObject parse c) := by
  fun_induction takeObject parse c with
  | case1 c hnl nl hlong =>
    obtain ⟨hlines, hover⟩ := overlong_line_at hnl hlong
    refine ⟨[], c.buf, rfl, fun _ h => absurd h List.not_mem_nil, rfl, hlines, ?_⟩
    rw [absorb_nil, hover, Bool.or_true]
  | case2 c hnl nl hlong line next hnone ih =>
    obtain ⟨hbuf, hline, hlength⟩ := line_at hnl
    refine Takes.cons hbuf ⟨hline, by omega⟩ ?_ ?_
    · rw [repliesOf, List.filterMap_cons_none hnone]
      rfl
    · have hevents : eventsOf parse [c.buf.take (c.buf.idxOf 10)] = [] := by
        rw [eventsOf, List.filterMap_cons_none hnone]
        rfl
      rw [absorb, hevents, List.map_nil, List.append_nil, List.append_nil, Bool.or_false]
      exact ih
  | case3 c hnl nl hlong line next obj hobj hevent ih =>
    obtain ⟨hbuf, hline, hlength⟩ := line_at hnl
    refine Takes.cons hbuf ⟨hline, by omega⟩ (by rw [repliesOf_singleton hobj, if_pos hevent]) ?_
    have hdispatch : dispatchEvent obj next =
        absorb parse [c.buf.take (c.buf.idxOf 10)] (c.buf.drop (c.buf.idxOf 10 + 1)) false c := by
      rw [absorb, eventsOf_singleton hobj, if_pos hevent, dispatchEvent, Bool.or_false]
      cases signalOf obj with
      | none => simp only [Option.toList_none, List.map_nil, List.append_nil]; rfl
      | some s => rfl
    rw [← hdispatch]
    exact ih
  | case4 c hnl nl hlong line next obj hobj hevent =>
    obtain ⟨hbuf, hline, hlength⟩ := line_at hnl
    have hgood : Good kMaxLineBytes line := ⟨hline, hlength.trans_le (by omega)⟩
    refine ⟨[line], c.buf.drop (c.buf.idxOf 10 + 1), ?_, List.forall_mem_singleton.2 hgood,
      by rw [repliesOf_singleton hobj, if_neg hevent], ?_⟩
    · rw [joined_cons, joined_nil, List.append_assoc]
      exact hbuf
    · rw [absorb, eventsOf_singleton hobj, if_neg hevent, List.map_nil, List.append_nil, List.append_nil,
        Bool.or_false]
  | case5 c hnl hlong =>
    refine ⟨[], c.buf, rfl, fun _ h => absurd h List.not_mem_nil, rfl, goodLines_of_not_mem hnl, ?_⟩
    rw [absorb_nil, overlong_of_not_mem hnl, decide_eq_true hlong, Bool.or_true]
  | case6 c hnl hlong =>
    refine ⟨[], c.buf, rfl, fun _ h => absurd h List.not_mem_nil, rfl, goodLines_of_not_mem hnl, ?_⟩
    rw [absorb_nil, overlong_of_not_mem hnl, decide_eq_false hlong, Bool.or_false]

/-- The client after all lines of its buffer. -/
abbrev absorbAll (parse : Bytes → Option Object) (c : MacHelperClient) : MacHelperClient :=
  absorb parse (linesOf c.buf) (unread kMaxLineBytes c.buf) (overlong kMaxLineBytes c.buf) c

/-- After some lines, the others are left. -/
lemma absorbAll_absorb {c : MacHelperClient} {ls : List Bytes} {rest : Bytes} (hbuf : c.buf = joined ls ++ rest)
    (hls : ∀ l ∈ ls, Good kMaxLineBytes l) :
    absorbAll parse (absorb parse ls rest false c) = absorbAll parse c := by
  rw [absorbAll, absorb_absorb, absorbAll, hbuf, linesOf, linesOf, goodLines_joined hls, unread_joined hls,
    overlong_joined hls]
  rfl

/-- All lines of the buffer are read. -/
lemma absorb_eq_absorbAll {c : MacHelperClient} {ls : List Bytes} {rest : Bytes}
    (hbuf : c.buf = joined ls ++ rest) (hls : ∀ l ∈ ls, Good kMaxLineBytes l) (hrest : linesOf rest = []) :
    absorb parse ls rest (overlong kMaxLineBytes rest) c = absorbAll parse c := by
  obtain ⟨hlines, hunread⟩ := eq_goodLines hls hrest
  rw [absorbAll, hbuf, linesOf, hlines, hunread, overlong_joined hls]

/-- `takeAll` reads all lines of the buffer. -/
theorem takeAll_eq (c : MacHelperClient) : takeAll parse c = absorbAll parse c := by
  fun_induction takeAll parse c with
  | case1 c c' h =>
    obtain ⟨ls, rest, hbuf, hls, hspec⟩ := takeObject_spec parse c
    rw [h] at hspec
    obtain ⟨-, hrest, hc'⟩ := hspec
    exact hc'.trans (absorb_eq_absorbAll hbuf hls hrest)
  | case2 c obj c' h ih =>
    obtain ⟨ls, rest, hbuf, hls, hspec⟩ := takeObject_spec parse c
    rw [h] at hspec
    obtain ⟨-, hc'⟩ := hspec
    rw [ih]
    exact (congrArg _ hc').trans (absorbAll_absorb hbuf hls)

/-- `findReply` reads lines up to the first reply with the number, or all of them. -/
theorem findReply_spec (parse : Bytes → Option Object) (id : ℤ) (c : MacHelperClient) :
    match (findReply parse id c).1 with
    | some reply => (repliesOf parse (linesOf c.buf)).find? (·.carries id) = some reply ∧
        absorbAll parse (findReply parse id c).2 = absorbAll parse c
    | none => (repliesOf parse (linesOf c.buf)).find? (·.carries id) = none ∧
        (findReply parse id c).2 = absorbAll parse c := by
  fun_induction findReply parse id c with
  | case1 c c' h =>
    obtain ⟨ls, rest, hbuf, hls, hspec⟩ := takeObject_spec parse c
    rw [h] at hspec
    obtain ⟨hreplies, hrest, hc'⟩ := hspec
    refine ⟨?_, hc'.trans (absorb_eq_absorbAll hbuf hls hrest)⟩
    rw [hbuf, linesOf, (eq_goodLines hls hrest).1, hreplies]
    rfl
  | case2 c obj c' h hcarries =>
    obtain ⟨ls, rest, hbuf, hls, hspec⟩ := takeObject_spec parse c
    rw [h] at hspec
    obtain ⟨hreplies, hc'⟩ := hspec
    refine ⟨?_, (congrArg _ hc').trans (absorbAll_absorb hbuf hls)⟩
    rw [hbuf, linesOf, goodLines_joined hls, repliesOf_append, hreplies, List.singleton_append]
    exact List.find?_cons_of_pos hcarries
  | case3 c obj c' h hcarries ih =>
    obtain ⟨ls, rest, hbuf, hls, hspec⟩ := takeObject_spec parse c
    rw [h] at hspec
    obtain ⟨hreplies, hc'⟩ := hspec
    have hall : absorbAll parse c' = absorbAll parse c := (congrArg _ hc').trans (absorbAll_absorb hbuf hls)
    have hfind : (repliesOf parse (linesOf c.buf)).find? (·.carries id) =
        (repliesOf parse (linesOf c'.buf)).find? (·.carries id) := by
      rw [hbuf, linesOf, goodLines_joined hls, repliesOf_append, hreplies, List.singleton_append,
        List.find?_cons, Bool.eq_false_of_not_eq_true hcarries, show c' = absorb parse ls rest false c from hc']
      rfl
    rw [hfind, ← hall]
    exact ih

/-! ### The invariant -/

/-- What a wait leaves as it is. -/
structure Frame where
  inWait : Bool
  nextId : ℤ
  asked : Object
  mark : Bytes
  lastId : ℤ

/-- The frame from the ledger. -/
def Ledger.frame (l : Ledger) (inWait : Bool) (nextId : ℤ) : Frame where
  inWait
  nextId
  asked := l.asked
  mark := l.mark
  lastId := l.lastId

/-- The log is accepted, and the client agrees with the ledger. -/
structure Kept (parse : Bytes → Option Object) (φ : Frame) (c : MacHelperClient) : Prop where
  accepted : Accepted parse c.log
  armed : (ledger c.log).armed = c.helloDone
  pending : (ledger c.log).pending = c.queue
  frame : (ledger c.log).frame c.inWait c.nextId = φ

/-- Nothing is left to do with what was read. -/
structure Inv (parse : Bytes → Option Object) (φ : Frame) (c : MacHelperClient) : Prop extends
    Kept parse φ c where
  settled : (ledger c.log).Settled parse
  quiet : linesOf c.buf = []
  live : c.helloDone = true → c.sock = .connected
  fresh : c.sock = .connected → c.overflow = false ∧ c.buf = unread kMaxLineBytes (ledger c.log).stream ∧
    overlong kMaxLineBytes (ledger c.log).stream = false

variable {φ : Frame} {c : MacHelperClient}

/-- Notes that read nothing leave the client up to date. -/
lemma Inv.fresh_log (h : Inv parse φ c) {log : List Note} (hstream : (ledger log).stream = (ledger c.log).stream) :
    c.sock = .connected → c.overflow = false ∧ c.buf = unread kMaxLineBytes (ledger log).stream ∧
      overlong kMaxLineBytes (ledger log).stream = false := by
  rw [hstream]
  exact h.fresh

/-- The ledger after lines are read. -/
lemma ledger_absorb (ls : List Bytes) (rest : Bytes) (long : Bool) (c : MacHelperClient) :
    ledger (absorb parse ls rest long c).log =
      { ledger c.log with
        events := (ledger c.log).events ++ eventsOf parse ls
        pending := (ledger c.log).pending ++ eventsOf parse ls } :=
  ledger_posts (connectionLost_not_mem_eventsOf parse ls)

lemma Kept.absorb (h : Kept parse φ c) (ls : List Bytes) (rest : Bytes) (long : Bool) :
    Kept parse φ (absorb parse ls rest long c) where
  accepted := accepted_posts (connectionLost_not_mem_eventsOf parse ls) h.accepted
  armed := by rw [ledger_absorb]; exact h.armed
  pending := by rw [ledger_absorb]; exact congrArg (· ++ eventsOf parse ls) h.pending
  frame := by rw [ledger_absorb]; exact h.frame

lemma unconnected_ne_connected : SocketState.unconnected ≠ .connected := by decide

lemma connecting_ne_connected : SocketState.connecting ≠ .connected := by decide

/-- A session is lost once. -/
lemma Inv.lost (h : Kept parse φ c) (hsettled : (ledger c.log).Settled parse) (hquiet : linesOf c.buf = [])
    (hsock : c.sock ≠ .connected) : Inv parse φ c.noteDisconnected := by
  unfold noteDisconnected
  by_cases hhello : c.helloDone = true
  · rw [if_neg (by rw [hhello]; exact Bool.false_ne_true)]
    have hledger : ledger (c.log ++ [.post .connectionLost]) = (ledger c.log).step (.post .connectionLost) :=
      ledger_concat _ _
    exact
      { accepted := accepted_concat h.accepted (h.armed.trans hhello)
        armed := congrArg Ledger.armed hledger
        pending := (congrArg Ledger.pending hledger).trans (congrArg (· ++ [Signal.connectionLost]) h.pending)
        frame := (congrArg (Ledger.frame · c.inWait c.nextId) hledger).trans h.frame
        settled := by
          change (ledger (c.log ++ [.post .connectionLost])).Settled parse
          rw [hledger]
          exact hsettled
        quiet := goodLines_of_not_mem List.not_mem_nil
        live := fun hdone => absurd hdone Bool.false_ne_true
        fresh := fun hconnected => absurd hconnected hsock }
  · rw [if_pos (by rw [Bool.eq_false_of_not_eq_true hhello]; rfl)]
    exact
      { accepted := h.accepted
        armed := h.armed
        pending := h.pending
        frame := h.frame
        settled := hsettled
        quiet := hquiet
        live := fun hdone => absurd hdone hhello
        fresh := fun hconnected => absurd hconnected hsock }

/-- The socket emits `disconnected`. -/
lemma Inv.closed (h : Kept parse φ c) (hsettled : (ledger c.log).Settled parse) (hquiet : linesOf c.buf = []) :
    Inv parse φ { c with sock := .unconnected }.noteDisconnected :=
  have hkept : Kept parse φ { c with sock := .unconnected } := ⟨h.accepted, h.armed, h.pending, h.frame⟩
  Inv.lost hkept hsettled hquiet unconnected_ne_connected

lemma sock_noteDisconnected (c : MacHelperClient) : c.noteDisconnected.sock = c.sock := by
  unfold noteDisconnected
  split_ifs <;> rfl

/-- Without a connection there is no session. -/
lemma Inv.noteDisconnected_eq (h : Inv parse φ c) (hsock : c.sock ≠ .connected) :
    c.noteDisconnected = c := by
  have hhello : c.helloDone = false := Bool.eq_false_of_not_eq_true fun hdone => hsock (h.live hdone)
  rw [noteDisconnected, if_pos (by rw [hhello]; rfl)]

lemma Inv.abort (h : Kept parse φ c) (hsettled : (ledger c.log).Settled parse) (hquiet : linesOf c.buf = [])
    (hlive : c.helloDone = true → c.sock = .connected) :
    Inv parse φ c.abort ∧ c.abort.sock = .unconnected := by
  unfold MacHelperClient.abort
  by_cases hsock : c.sock = .unconnected
  · rw [if_pos hsock]
    have hne : c.sock ≠ .connected := fun hconnected => unconnected_ne_connected (hsock.symm.trans hconnected)
    have hinv : Inv parse φ c :=
      { toKept := h
        settled := hsettled
        quiet := hquiet
        live := hlive
        fresh := fun hconnected => absurd hconnected hne }
    exact ⟨hinv, hsock⟩
  · rw [if_neg hsock]
    exact ⟨Inv.closed h hsettled hquiet, sock_noteDisconnected _⟩

/-- What is left of a connection that is gone may be dropped. -/
lemma Inv.clear (h : Inv parse φ c) (hsock : c.sock ≠ .connected) :
    Inv parse φ { c with buf := [] } where
  accepted := h.accepted
  armed := h.armed
  pending := h.pending
  frame := h.frame
  settled := h.settled
  quiet := goodLines_of_not_mem List.not_mem_nil
  live := h.live
  fresh := fun hconnected => absurd hconnected hsock

/-- The connection is dropped. -/
lemma Inv.dropped (h : Kept parse φ c) (hsettled : (ledger c.log).Settled parse)
    (hquiet : linesOf c.buf = []) (hlive : c.helloDone = true → c.sock = .connected) :
    Inv parse φ c.dropConnection := by
  obtain ⟨hinv, hsock⟩ := Inv.abort h hsettled hquiet hlive
  have hne : c.abort.sock ≠ .connected := fun hconnected => unconnected_ne_connected (hsock.symm.trans hconnected)
  rw [dropConnection, hinv.noteDisconnected_eq hne]
  exact hinv.clear hne

/-! ### The stream -/

lemma stream_noteDisconnected (c : MacHelperClient) :
    (ledger c.noteDisconnected.log).stream = (ledger c.log).stream := by
  unfold noteDisconnected
  split_ifs
  · rfl
  · exact (congrArg Ledger.stream (ledger_concat c.log (.post .connectionLost))).trans rfl

lemma stream_abort (c : MacHelperClient) : (ledger c.abort.log).stream = (ledger c.log).stream := by
  unfold MacHelperClient.abort
  split_ifs
  · rfl
  · exact stream_noteDisconnected _

lemma stream_dropConnection (c : MacHelperClient) :
    (ledger c.dropConnection.log).stream = (ledger c.log).stream := by
  rw [dropConnection]
  exact (stream_noteDisconnected _).trans (stream_abort c)

/-! ### Reading -/

/-- The client with what the socket has to read. -/
abbrev drained (data : Bytes) (c : MacHelperClient) : MacHelperClient :=
  if c.sock = .connected then c.drain data else c

lemma ledger_drain (data : Bytes) (c : MacHelperClient) :
    ledger (c.drain data).log = { ledger c.log with stream := (ledger c.log).stream ++ data } := by
  unfold drain
  split_ifs with hdata
  · rw [hdata, List.append_nil]
  · exact ledger_concat c.log (.read data)

lemma Kept.drain (h : Kept parse φ c) (hover : overlong kMaxLineBytes (ledger c.log).stream = false)
    (data : Bytes) : Kept parse φ (c.drain data) := by
  have hledger := ledger_drain data c
  refine ⟨?_, ?_, ?_, ?_⟩
  · unfold MacHelperClient.drain
    split_ifs
    · exact h.accepted
    · exact accepted_concat h.accepted hover
  · rw [hledger]
    unfold MacHelperClient.drain
    split_ifs <;> exact h.armed
  · rw [hledger]
    unfold MacHelperClient.drain
    split_ifs <;> exact h.pending
  · rw [hledger]
    unfold MacHelperClient.drain
    split_ifs <;> exact h.frame

lemma buf_drain (data : Bytes) (c : MacHelperClient) : (c.drain data).buf = c.buf ++ data := by
  unfold drain
  split_ifs with hdata
  · rw [hdata, List.append_nil]
  · rfl

lemma drain_same (data : Bytes) (c : MacHelperClient) : (c.drain data).sock = c.sock ∧
    (c.drain data).helloDone = c.helloDone ∧ (c.drain data).overflow = c.overflow := by
  unfold drain
  split_ifs <;> exact ⟨rfl, rfl, rfl⟩

/-- The client has read all lines, of which some are new replies, and a line that is too long was noticed. -/
structure Absorbed (parse : Bytes → Option Object) (φ : Frame) (before c : MacHelperClient)
    (new : List Object) : Prop extends Kept parse φ c where
  settled : (ledger c.log).Settled parse
  quiet : linesOf c.buf = []
  live : c.helloDone = true → c.sock = .connected
  done : c.overflow = false → Inv parse φ c
  replies : repliesOf parse (linesOf (ledger c.log).stream) =
    repliesOf parse (linesOf (ledger before.log).stream) ++ new

/-- **Reading.** All lines that are complete are read, wherever the stream is cut. -/
lemma Inv.absorbed (h : Inv parse φ c) (data : Bytes) :
    Absorbed parse φ c (absorbAll parse (drained data c)) (repliesOf parse (linesOf (drained data c).buf)) := by
  by_cases hsock : c.sock = .connected
  · obtain ⟨hover, hbuf, hshort⟩ := h.fresh hsock
    obtain ⟨hdsock, hdhello, hdover⟩ := drain_same data c
    have hlines : linesOf (ledger (c.drain data).log).stream =
        linesOf (ledger c.log).stream ++ linesOf (c.drain data).buf := by
      rw [ledger_drain, buf_drain, hbuf]
      exact goodLines_append _ _
    have hkept := (h.drain hshort data).absorb (linesOf (c.drain data).buf)
      (unread kMaxLineBytes (c.drain data).buf) (overlong kMaxLineBytes (c.drain data).buf)
    have hsettled : (ledger (absorbAll parse (c.drain data)).log).Settled parse := by
      rw [Ledger.Settled, ledger_absorb]
      dsimp only
      rw [hlines, eventsOf_append, ledger_drain]
      exact congrArg (· ++ _) h.settled
    have hlive : (c.drain data).helloDone = true → (c.drain data).sock = .connected := fun _ => hdsock.trans hsock
    rw [drained, if_pos hsock]
    exact
      { toKept := hkept
        settled := hsettled
        quiet := goodLines_unread _ _
        live := hlive
        done := by
          intro hfalse
          obtain ⟨-, hfine⟩ := Bool.or_eq_false_iff.1 hfalse
          rw [buf_drain, hbuf] at hfine
          refine { toKept := hkept, settled := hsettled, quiet := goodLines_unread _ _, live := hlive, fresh := ?_ }
          intro _
          rw [ledger_absorb]
          dsimp only
          rw [ledger_drain]
          dsimp only
          refine ⟨hfalse, ?_, (overlong_append _ _).trans hfine⟩
          change unread kMaxLineBytes (c.drain data).buf = _
          rw [buf_drain, hbuf, ← unread_append]
        replies := by
          rw [ledger_absorb]
          dsimp only
          rw [hlines, repliesOf_append] }
  · rw [drained, if_neg hsock]
    have hnone : linesOf c.buf = [] := h.quiet
    have hkept := h.toKept.absorb (linesOf c.buf) (unread kMaxLineBytes c.buf) (overlong kMaxLineBytes c.buf)
    have hledger : ledger (absorbAll parse c).log = ledger c.log := by
      rw [ledger_absorb, hnone]
      simp only [eventsOf, List.filterMap_nil, List.append_nil]
    have hsettled : (ledger (absorbAll parse c).log).Settled parse := by
      rw [hledger]
      exact h.settled
    have hlive : c.helloDone = true → c.sock = .connected := h.live
    have hquiet : linesOf (absorbAll parse c).buf = [] := goodLines_unread _ _
    exact
      { toKept := hkept
        settled := hsettled
        quiet := hquiet
        live := hlive
        done := fun _ =>
          { toKept := hkept
            settled := hsettled
            quiet := hquiet
            live := hlive
            fresh := fun hconnected => absurd hconnected hsock }
        replies := by
          rw [hledger, hnone]
          exact (List.append_nil _).symm }

/-- After some reading the client has nothing left to do with what was read, and has read some replies. -/
structure Reads (parse : Bytes → Option Object) (φ : Frame) (before c : MacHelperClient)
    (new : List Object) : Prop extends Inv parse φ c where
  replies : repliesOf parse (linesOf (ledger c.log).stream) =
    repliesOf parse (linesOf (ledger before.log).stream) ++ new

lemma Absorbed.dropped {before : MacHelperClient} {new : List Object} (h : Absorbed parse φ before c new) :
    Reads parse φ before c.dropConnection new where
  toInv := Inv.dropped h.toKept h.settled h.quiet h.live
  replies := by rw [stream_dropConnection]; exact h.replies

/-- `processBuffered`, with what the socket has to read. -/
lemma Inv.processBuffered (h : Inv parse φ c) (data : Bytes) :
    Reads parse φ c (processBuffered parse (drained data c)) (repliesOf parse (linesOf (drained data c).buf)) := by
  have habsorbed := h.absorbed data
  unfold MacHelperClient.processBuffered
  dsimp only
  rw [takeAll_eq]
  split_ifs with hover
  · exact habsorbed.dropped
  · exact ⟨habsorbed.done (Bool.eq_false_of_not_eq_true hover), habsorbed.replies⟩

/-! ### Waiting -/

lemma sock_abort (c : MacHelperClient) : c.abort.sock = .unconnected := by
  unfold MacHelperClient.abort
  split_ifs with hsock
  · exact hsock
  · exact sock_noteDisconnected _

lemma sock_dropConnection (c : MacHelperClient) : c.dropConnection.sock ≠ .connected := by
  rw [dropConnection]
  change c.abort.noteDisconnected.sock ≠ .connected
  rw [sock_noteDisconnected, sock_abort]
  exact unconnected_ne_connected

/-- While the client reads for itself, only a loss matters of what the socket emits. -/
lemma onEmitted_inWait (hscope : c.inWait = true) (e : Emitted) : onEmitted parse e c =
    if e.disconnected = true ∧ c.sock = .connected then { c with sock := .unconnected }.noteDisconnected
    else c := by
  obtain ⟨readyRead, disconnected⟩ := e
  cases readyRead with
  | none => rfl
  | some data =>
    have hread : onReadyRead parse data c = c := if_pos hscope
    simp only [onEmitted, hread]

lemma Inv.onEmitted (h : Inv parse φ c) (hφ : φ.inWait = true) (e : Emitted) :
    Inv parse φ (onEmitted parse e c) ∧
      (ledger (onEmitted parse e c).log).stream = (ledger c.log).stream := by
  have hscope : c.inWait = true := (congrArg Frame.inWait h.frame).trans hφ
  rw [onEmitted_inWait hscope]
  split_ifs
  · exact ⟨Inv.closed h.toKept h.settled h.quiet, stream_noteDisconnected _⟩
  · exact ⟨h, rfl⟩

lemma stream_absorbAll_drain (data : Bytes) (c : MacHelperClient) :
    (ledger (absorbAll parse (c.drain data)).log).stream = (ledger c.log).stream ++ data := by
  rw [ledger_absorb, ledger_drain]

/-- How a round ends a wait, and that all that there was to read was read. -/
def RoundEnds (budgetMs : ℤ) (r : Round) (before after : Bytes) (connected : Bool) : Option WaitResult → Prop
  | some .timeout => budgetMs - r.elapsed ≤ 0 ∧ after = before ++ r.data
  | some (.got _) => True
  | some .closed => connected = false
  | some .overflow => connected = false
  | none => ¬budgetMs - r.elapsed ≤ 0 ∧ after = before ++ r.data

/-- A round that ends the wait. -/
lemma RoundEnds.ends {budgetMs : ℤ} {r : Round} {rounds : List Round} {before after : Bytes} {connected : Bool}
    {result : WaitResult} (h : RoundEnds budgetMs r before after connected (some result)) :
    Ends budgetMs (r :: rounds) before after connected result := by
  cases result with
  | timeout =>
    obtain ⟨htime, hafter⟩ := h
    rw [Ends, inTime, if_pos htime]
    exact hafter
  | got _ => trivial
  | closed => exact h
  | overflow => exact h

/-- A round, and those after it. -/
lemma Ends.cons {budgetMs : ℤ} {r : Round} {rounds : List Round} {before middle after : Bytes} {connected : Bool}
    {result : WaitResult} (htime : ¬budgetMs - r.elapsed ≤ 0) (hmiddle : middle = before ++ r.data)
    (h : Ends budgetMs rounds middle after connected result) :
    Ends budgetMs (r :: rounds) before after connected result := by
  cases result with
  | timeout =>
    rw [Ends] at h ⊢
    rw [inTime, if_neg htime, h, hmiddle, List.append_assoc]
  | got _ => trivial
  | closed => exact h
  | overflow => exact h

/-- A round of a wait reads replies. It ends the wait if one of them has the number, with the first such. -/
theorem Inv.waitRound (h : Inv parse φ c) (hφ : φ.inWait = true) (id budgetMs : ℤ) (r : Round) :
    ∃ new, Reads parse φ c (waitRound parse id budgetMs r c).2 new ∧
      new.find? (·.carries id) = (waitRound parse id budgetMs r c).1.bind WaitResult.reply ∧
      RoundEnds budgetMs r (ledger c.log).stream (ledger (waitRound parse id budgetMs r c).2.log).stream
        ((waitRound parse id budgetMs r c).2.sock == .connected) (waitRound parse id budgetMs r c).1 := by
  refine ⟨repliesOf parse (linesOf (drained r.data c).buf), ?_⟩
  have habsorbed := h.absorbed r.data
  have hprocess := h.processBuffered r.data
  have hspec := findReply_spec parse id (drained r.data c)
  unfold MacHelperClient.waitRound
  dsimp only
  generalize findReply parse id (drained r.data c) = found at hspec
  obtain ⟨reply, c'⟩ := found
  cases reply with
  | some reply =>
    obtain ⟨hfind, hall⟩ := hspec
    have hsame : MacHelperClient.processBuffered parse c' =
        MacHelperClient.processBuffered parse (drained r.data c) := by
      unfold MacHelperClient.processBuffered
      dsimp only at hall ⊢
      rw [takeAll_eq, takeAll_eq, hall]
    dsimp only
    rw [hsame]
    exact ⟨hprocess, hfind, trivial⟩
  | none =>
    obtain ⟨hfind, hc'⟩ := hspec
    dsimp only at hc' ⊢
    subst hc'
    split_ifs with hover hsock htime
    · exact ⟨habsorbed.dropped, hfind, beq_false_of_ne (sock_dropConnection _)⟩
    · exact ⟨⟨habsorbed.done (Bool.eq_false_of_not_eq_true hover), habsorbed.replies⟩, hfind,
        beq_false_of_ne hsock⟩
    · have hconnected : c.sock = .connected := by
        by_contra hne
        rw [drained, if_neg hne] at hsock
        exact hsock hne
      refine ⟨⟨habsorbed.done (Bool.eq_false_of_not_eq_true hover), habsorbed.replies⟩, hfind, htime, ?_⟩
      rw [drained, if_pos hconnected]
      exact stream_absorbAll_drain r.data c
    · have hconnected : c.sock = .connected := by
        by_contra hne
        rw [drained, if_neg hne] at hsock
        exact hsock hne
      obtain ⟨hinv, hstream⟩ :=
        (habsorbed.done (Bool.eq_false_of_not_eq_true hover)).onEmitted hφ r.emitted
      refine ⟨⟨hinv, ?_⟩, hfind, htime, ?_⟩
      · rw [hstream]
        exact habsorbed.replies
      · rw [hstream, drained, if_pos hconnected]
        exact stream_absorbAll_drain r.data c

lemma Reads.append {before middle c : MacHelperClient} {new new' : List Object}
    (h : Reads parse φ before middle new) (h' : Reads parse φ middle c new') :
    Reads parse φ before c (new ++ new') where
  toInv := h'.toInv
  replies := by rw [h'.replies, h.replies, List.append_assoc]

/-- **A wait.** It ends with the first reply with its number that is read during it.

**Proof sketch.** By induction on the rounds. -/
theorem Inv.waitRounds (h : Inv parse φ c) (hφ : φ.inWait = true) (id budgetMs : ℤ) (rounds : List Round) :
    ∃ new, Reads parse φ c (waitRounds parse id budgetMs rounds c).2 new ∧
      new.find? (·.carries id) = (waitRounds parse id budgetMs rounds c).1.reply ∧
      Ends budgetMs rounds (ledger c.log).stream (ledger (waitRounds parse id budgetMs rounds c).2.log).stream
        ((waitRounds parse id budgetMs rounds c).2.sock == .connected)
        (waitRounds parse id budgetMs rounds c).1 := by
  induction rounds generalizing c with
  | nil =>
    obtain ⟨new, hreads, hfind, hends⟩ := h.waitRound hφ id budgetMs { elapsed := budgetMs }
    refine ⟨new, ?_⟩
    unfold MacHelperClient.waitRounds
    generalize MacHelperClient.waitRound parse id budgetMs { elapsed := budgetMs } c = round at hreads hfind hends
    obtain ⟨result, c'⟩ := round
    cases result with
    | none => exact absurd (le_of_eq (sub_self budgetMs)) hends.1
    | some result =>
      refine ⟨hreads, hfind, ?_⟩
      cases result with
      | timeout => exact hends.2
      | got _ => trivial
      | closed => exact hends
      | overflow => exact hends
  | cons r rounds ih =>
    obtain ⟨new, hreads, hfind, hends⟩ := h.waitRound hφ id budgetMs r
    unfold MacHelperClient.waitRounds
    generalize MacHelperClient.waitRound parse id budgetMs r c = round at hreads hfind hends
    obtain ⟨result, c'⟩ := round
    cases result with
    | some result => exact ⟨new, hreads, hfind, hends.ends⟩
    | none =>
      obtain ⟨new', hreads', hfind', hends'⟩ := ih hreads.toInv
      refine ⟨new ++ new', hreads.append hreads', ?_, hends'.cons hends.1 hends.2⟩
      rw [List.find?_append, hfind]
      exact hfind'

/-! ### Requests -/

/-- A note that leaves the connection and the signals as they are. -/
lemma Inv.note (h : Inv parse φ c) (note : Note) {asked : Object} {mark : Bytes} {lastId : ℤ}
    (haccepts : (ledger c.log).Accepts parse note)
    (hstep : (ledger c.log).step note = { ledger c.log with asked, mark, lastId }) (nextId : ℤ) :
    Inv parse { φ with nextId, asked, mark, lastId } ({ c with nextId }.write note) := by
  have hledger : ledger (c.log ++ [note]) = { ledger c.log with asked, mark, lastId } :=
    (ledger_concat _ _).trans hstep
  have hstream : (ledger (c.log ++ [note])).stream = (ledger c.log).stream :=
    (congrArg Ledger.stream hledger).trans rfl
  exact
    { accepted := accepted_concat h.accepted haccepts
      armed := (congrArg Ledger.armed hledger).trans h.armed
      pending := (congrArg Ledger.pending hledger).trans h.pending
      frame := (congrArg (Ledger.frame · c.inWait nextId) hledger).trans
        (congrArg (fun ψ : Frame => { ψ with nextId, asked, mark, lastId }) h.frame)
      settled := by
        change (ledger (c.log ++ [note])).Settled parse
        rw [hledger]
        exact h.settled
      quiet := h.quiet
      live := h.live
      fresh := h.fresh_log hstream }

/-- `sendObject` reads nothing. -/
lemma Inv.sendObject (h : Inv parse φ c) (hφ : φ.inWait = true) (obj : Object) (w : Writing) (nextId : ℤ) :
    Inv parse { φ with nextId, asked := obj, mark := (ledger c.log).stream }
        (sendObject parse obj w { c with nextId }).2 ∧
      (ledger (sendObject parse obj w { c with nextId }).2.log).stream = (ledger c.log).stream := by
  have hlast : (ledger c.log).lastId = φ.lastId := congrArg Frame.lastId h.frame
  have hsent := h.note (.sent obj) trivial rfl nextId
  rw [hlast] at hsent
  have hstream : (ledger (c.log ++ [.sent obj])).stream = (ledger c.log).stream :=
    (congrArg Ledger.stream (ledger_concat c.log (.sent obj))).trans rfl
  obtain ⟨hemitted, hsame⟩ := hsent.onEmitted hφ w.emitted
  obtain ⟨hwaiting, hsame'⟩ := hemitted.onEmitted hφ w.waiting
  unfold MacHelperClient.sendObject
  dsimp only
  split_ifs
  · exact ⟨hemitted, hsame.trans hstream⟩
  · exact ⟨hwaiting, hsame'.trans (hsame.trans hstream)⟩
  · exact ⟨hemitted, hsame.trans hstream⟩

/-- `waitReply`, after the request. -/
lemma Inv.waitReply (h : Inv parse φ c) (hφ : φ.inWait = true) {id : ℤ}
    (hasked : φ.asked.value "id" = some (.num id)) (hnext : φ.lastId < id)
    (hmark : (ledger c.log).stream = φ.mark) (budgetMs : ℤ) (rounds : List Round) :
    Inv parse { φ with lastId := id } (waitReply parse id budgetMs rounds c).2 := by
  obtain ⟨new, hreads, hfind, hends⟩ := h.waitRounds hφ id budgetMs rounds
  unfold MacHelperClient.waitReply
  generalize MacHelperClient.waitRounds parse id budgetMs rounds c = waited at hreads hfind hends
  obtain ⟨result, c'⟩ := waited
  have hframe := hreads.frame
  have hreplies := hreads.replies
  rw [← stream_eq_ledger, ← stream_eq_ledger] at hreplies hends
  have hwaited : WaitOk parse (ledger c'.log)
      { id, budgetMs, rounds, before := stream c.log, after := stream c'.log, result,
        connected := c'.sock == .connected } :=
    { asked := (congrArg (·.asked.value "id") hframe).trans hasked
      next := (congrArg Frame.lastId hframe).trans_lt hnext
      before := (stream_eq_ledger _).trans (hmark.trans (congrArg Frame.mark hframe).symm)
      after := stream_eq_ledger _
      reply := ⟨new, hreplies, hfind⟩
      ends := hends }
  have hnote : Inv parse
      { φ with
        nextId := c'.nextId
        asked := (ledger c'.log).asked
        mark := (ledger c'.log).mark
        lastId := id }
      (c'.write (.waited _)) := hreads.toInv.note (.waited _) hwaited rfl c'.nextId
  rw [show c'.nextId = φ.nextId from congrArg Frame.nextId hframe,
    show (ledger c'.log).asked = φ.asked from congrArg Frame.asked hframe,
    show (ledger c'.log).mark = φ.mark from congrArg Frame.mark hframe] at hnote
  exact hnote

/-- The client between two operations: the numbers of its requests so far are below the next one. -/
def Ready (parse : Bytes → Option Object) (inWait : Bool) (c : MacHelperClient) : Prop :=
  ∃ φ : Frame, φ.inWait = inWait ∧ φ.lastId < φ.nextId ∧ Inv parse φ c

variable {inWait : Bool}

/-- A line is sent, and its reply is waited for. -/
lemma Ready.sendObject (h : Ready parse true c) (obj : Object)
    (hobj : obj.value "id" = some (.num c.nextId)) (w : Writing) :
    Ready parse true (sendObject parse obj w { c with nextId := c.nextId + 1 }).2 ∧
      ∀ budgetMs rounds, Ready parse true (waitReply parse c.nextId budgetMs rounds
        (sendObject parse obj w { c with nextId := c.nextId + 1 }).2).2 := by
  obtain ⟨φ, hφ, hids, hinv⟩ := h
  have hnext : c.nextId = φ.nextId := congrArg Frame.nextId hinv.frame
  have hlast : φ.lastId < c.nextId := hids.trans_eq hnext.symm
  obtain ⟨hsent, hstream⟩ := hinv.sendObject hφ obj w (c.nextId + 1)
  constructor
  · refine ⟨_, ?_, ?_, hsent⟩
    · exact hφ
    · exact hlast.trans (lt_add_one c.nextId)
  · intro budgetMs rounds
    refine ⟨_, ?_, ?_, hsent.waitReply hφ hobj hlast hstream budgetMs rounds⟩
    · exact hφ
    · exact lt_add_one c.nextId

lemma Ready.abort (h : Ready parse inWait c) : Ready parse inWait c.abort := by
  obtain ⟨φ, hφ, hids, hinv⟩ := h
  exact ⟨φ, hφ, hids, (Inv.abort hinv.toKept hinv.settled hinv.quiet hinv.live).1⟩

/-- `settle`, which queues all events that there are to read. -/
lemma Ready.settle (h : Ready parse inWait c) (data : Bytes) : Ready parse inWait (settle parse data c) := by
  obtain ⟨φ, hφ, hids, hinv⟩ := h
  have hreads := hinv.processBuffered data
  refine ⟨φ, hφ, hids, ?_⟩
  unfold MacHelperClient.settle
  change Inv parse φ (if (MacHelperClient.processBuffered parse (drained data c)).sock ≠ .connected then
    (MacHelperClient.processBuffered parse (drained data c)).noteDisconnected
    else MacHelperClient.processBuffered parse (drained data c))
  split_ifs with hsock
  · exact Inv.lost hreads.toKept hreads.settled hreads.quiet hsock
  · exact hreads.toInv

/-- `onEmitted`, while the client reads for itself. -/
lemma Ready.onEmitted (h : Ready parse true c) (e : Emitted) : Ready parse true (onEmitted parse e c) := by
  obtain ⟨φ, hφ, hids, hinv⟩ := h
  exact ⟨φ, hφ, hids, (hinv.onEmitted hφ e).1⟩

/-- A hello is completed. -/
lemma Ready.greeted (h : Ready parse inWait c) (hello : MacHelperProbe) :
    let c' := { c with hello, helloDone := true }.write .hello
    Ready parse inWait (if c'.sock ≠ .connected then c'.noteDisconnected else c') := by
  obtain ⟨φ, hφ, hids, hinv⟩ := h
  have hledger : ledger (c.log ++ [.hello]) = (ledger c.log).step .hello := ledger_concat _ _
  have hstream : (ledger (c.log ++ [.hello])).stream = (ledger c.log).stream :=
    (congrArg Ledger.stream hledger).trans rfl
  have hkept : Kept parse φ ({ c with hello, helloDone := true }.write .hello) :=
    { accepted := accepted_concat hinv.accepted trivial
      armed := congrArg Ledger.armed hledger
      pending := (congrArg Ledger.pending hledger).trans hinv.pending
      frame := (congrArg (Ledger.frame · c.inWait c.nextId) hledger).trans hinv.frame }
  have hsettled : (ledger (c.log ++ [.hello])).Settled parse := by
    rw [hledger]
    exact hinv.settled
  refine ⟨φ, hφ, hids, ?_⟩
  split_ifs with hsock
  · exact Inv.lost hkept hsettled hinv.quiet hsock
  · exact
      { toKept := hkept
        settled := hsettled
        quiet := hinv.quiet
        live := fun _ => not_not.1 hsock
        fresh := hinv.fresh_log hstream }

/-! ### Sessions -/

lemma Ready.sayHello (h : Ready parse true c) (budget : ℤ) (o : Opening) (p : MacHelperProbe) :
    Ready parse true (sayHello parse budget o p c).2 := by
  obtain ⟨hsent, hwaits⟩ := h.sendObject (helloRequest c.nextId) rfl o.writing
  unfold MacHelperClient.sayHello
  dsimp only
  generalize MacHelperClient.sendObject parse (helloRequest c.nextId) o.writing
    { c with nextId := c.nextId + 1 } = sending at hsent hwaits
  obtain ⟨sent, c'⟩ := sending
  have hwaited : Ready parse true (if sent = true then
      waitReply parse c.nextId (max 1 (budget - o.elapsed)) o.rounds c' else (.closed, c')).2 := by
    cases sent with
    | true => exact hwaits _ _
    | false => exact hsent
  dsimp only
  generalize (if sent = true then
      waitReply parse c.nextId (max 1 (budget - o.elapsed)) o.rounds c' else (.closed, c')) = waiting at hwaited
  obtain ⟨result, c''⟩ := waiting
  cases result with
  | closed => exact hwaited.abort
  | timeout => exact hwaited.abort
  | overflow => exact hwaited
  | got reply =>
    dsimp only
    by_cases hok : (!reply.flag "ok") = true
    · rw [if_pos hok]
      exact hwaited.abort
    · rw [if_neg hok]
      by_cases hprotocol : reply.toInt "protocol" ≠ macHelperProtocolVersion
      · rw [if_pos hprotocol]
        exact hwaited.abort
      · rw [if_neg hprotocol, apply_ite Prod.snd]
        exact hwaited.greeted _

/-- A call during which the client reads for itself. -/
lemma Ready.inScope (h : Ready parse inWait c) {α : Type} {f : MacHelperClient → α × MacHelperClient}
    (hf : ∀ c, Ready parse true c → Ready parse true (f c).2) : Ready parse inWait (inScope f c).2 := by
  have hscope : ∀ {b b' : Bool} {c : MacHelperClient}, Ready parse b c →
      Ready parse b' { c with inWait := b' } := by
    intro b b' c h
    obtain ⟨φ, hφ, hids, hinv⟩ := h
    refine ⟨{ φ with inWait := b' }, rfl, hids, ?_⟩
    exact
      { accepted := hinv.accepted
        armed := hinv.armed
        pending := hinv.pending
        frame := congrArg (fun ψ : Frame => { ψ with inWait := b' }) hinv.frame
        settled := hinv.settled
        quiet := hinv.quiet
        live := hinv.live
        fresh := hinv.fresh }
  have hb : c.inWait = inWait := by
    obtain ⟨φ, hφ, -, hinv⟩ := h
    exact (congrArg Frame.inWait hinv.frame).trans hφ
  unfold MacHelperClient.inScope
  dsimp only
  rw [hb]
  exact hscope (hf _ (hscope h))

/-- A connection is tried. -/
lemma Ready.connecting (h : Ready parse inWait c) (hsock : c.sock = .unconnected) :
    Ready parse inWait { c with buf := [], overflow := false, gotBytes := false, sock := .connecting } := by
  obtain ⟨φ, hφ, hids, hinv⟩ := h
  have hhello : ¬c.helloDone = true := fun hdone => unconnected_ne_connected (hsock.symm.trans (hinv.live hdone))
  refine ⟨φ, hφ, hids, ?_⟩
  exact
    { accepted := hinv.accepted
      armed := hinv.armed
      pending := hinv.pending
      frame := hinv.frame
      settled := hinv.settled
      quiet := goodLines_of_not_mem List.not_mem_nil
      live := fun hdone => absurd hdone hhello
      fresh := fun hconnected => absurd hconnected connecting_ne_connected }

/-- A connection is made, when all events of the one before are queued. -/
lemma Ready.connect (h : Ready parse inWait c) (hsock : c.sock = .unconnected) :
    Ready parse inWait
      ({ c with buf := [], overflow := false, gotBytes := false, sock := .connected }.write .connect) := by
  obtain ⟨φ, hφ, hids, hinv⟩ := h
  have hledger : ledger (c.log ++ [.connect]) = (ledger c.log).step .connect := ledger_concat _ _
  have hhello : c.helloDone = false := Bool.eq_false_of_not_eq_true fun hdone =>
    unconnected_ne_connected (hsock.symm.trans (hinv.live hdone))
  refine ⟨φ, hφ, hids, ?_⟩
  exact
    { accepted := accepted_concat hinv.accepted hinv.settled
      armed := (congrArg Ledger.armed hledger).trans hhello.symm
      pending := (congrArg Ledger.pending hledger).trans hinv.pending
      frame := (congrArg (Ledger.frame · c.inWait c.nextId) hledger).trans hinv.frame
      settled := by
        change (ledger (c.log ++ [.connect])).Settled parse
        rw [hledger]
        rfl
      quiet := goodLines_of_not_mem List.not_mem_nil
      live := fun _ => rfl
      fresh := by
        intro _
        have hstream : (ledger (c.log ++ [.connect])).stream = [] := congrArg Ledger.stream hledger
        have hunread : [] = unread kMaxLineBytes (ledger (c.log ++ [.connect])).stream := by
          rw [hstream]
          rfl
        have hshort : overlong kMaxLineBytes (ledger (c.log ++ [.connect])).stream = false := by
          rw [hstream]
          rfl
        exact ⟨rfl, hunread, hshort⟩ }

/-- `ensureSession`. -/
lemma Ready.ensureSession (h : Ready parse inWait c) (budgetMs : ℤ) (o : Opening) (p : MacHelperProbe) :
    Ready parse inWait (ensureSession parse budgetMs o p c).2 := by
  refine h.inScope fun c h => ?_
  have hearly : Ready parse true (if c.helloDone = true ∧ c.sock = .connected then
      MacHelperClient.settle parse o.settled (MacHelperClient.onEmitted parse o.early c) else c) := by
    split_ifs
    · exact (h.onEmitted o.early).settle o.settled
    · exact h
  dsimp only
  generalize (if c.helloDone = true ∧ c.sock = .connected then
      MacHelperClient.settle parse o.settled (MacHelperClient.onEmitted parse o.early c) else c) = c' at hearly
  by_cases hsession : c'.helloDone = true ∧ c'.sock = .connected
  · rw [if_pos hsession]
    exact hearly
  · rw [if_neg hsession]
    have hhello : c'.helloDone = false := by
      obtain ⟨φ, -, -, hinv⟩ := hearly
      exact Bool.eq_false_of_not_eq_true fun hdone => hsession ⟨hdone, hinv.live hdone⟩
    have hsame : { c' with helloDone := false } = c' := by rw [← hhello]
    rw [hsame]
    cases hconnects : o.connects with
    | false => exact (hearly.abort.connecting (sock_abort c')).abort
    | true => exact (hearly.abort.connect (sock_abort c')).sayHello _ o p

/-! ### Runs -/

lemma Ready.probe (h : Ready parse inWait c) (plistPresent binaryPresent : Bool) (timeoutMs : ℤ) (o : Opening)
    (settled : Bytes) : Ready parse inWait (probe parse plistPresent binaryPresent timeoutMs o settled c).2 := by
  have hsession := h.ensureSession timeoutMs o { plistPresent, binaryPresent }
  unfold MacHelperClient.probe
  generalize MacHelperClient.ensureSession parse timeoutMs o { plistPresent, binaryPresent } c = session at hsession
  exact hsession.inScope fun c h => h.settle settled

lemma Ready.request (h : Ready parse inWait c) (req : Object) (timeoutMs : ℤ) (r : Requesting) :
    Ready parse inWait (request parse req timeoutMs r c).2 := by
  refine h.inScope fun c h => ?_
  have hsession := h.ensureSession timeoutMs r.opening {}
  generalize MacHelperClient.ensureSession parse timeoutMs r.opening {} c = session at hsession
  obtain ⟨⟨usable, p⟩, c'⟩ := session
  cases usable with
  | false => exact hsession.settle r.settled
  | true =>
    obtain ⟨hsent, hwaits⟩ := Ready.sendObject hsession (("id", .num c'.nextId) :: req) rfl r.writing
    dsimp only
    generalize MacHelperClient.sendObject parse (("id", .num c'.nextId) :: req) r.writing
      { c' with nextId := c'.nextId + 1 } = sending at hsent hwaits
    obtain ⟨sent, c''⟩ := sending
    cases sent with
    | false => exact hsent.settle r.settled
    | true => exact (hwaits _ _).settle r.settled

lemma Ready.disconnectFromHelper (h : Ready parse inWait c) : Ready parse inWait c.disconnectFromHelper := by
  obtain ⟨φ, hφ, hids, hinv⟩ := h
  have hledger : ledger (c.log ++ [.disconnect]) = (ledger c.log).step .disconnect := ledger_concat _ _
  have hkept : Kept parse φ ({ c with helloDone := false, buf := [] }.write .disconnect) :=
    { accepted := accepted_concat hinv.accepted trivial
      armed := congrArg Ledger.armed hledger
      pending := (congrArg Ledger.pending hledger).trans hinv.pending
      frame := (congrArg (Ledger.frame · c.inWait c.nextId) hledger).trans hinv.frame }
  have hsettled : (ledger (c.log ++ [.disconnect])).Settled parse := by
    rw [hledger]
    exact hinv.settled
  exact ⟨φ, hφ, hids, (Inv.abort hkept hsettled (goodLines_of_not_mem List.not_mem_nil)
    fun hdone => absurd hdone Bool.false_ne_true).1⟩

lemma Ready.deliver (h : Ready parse inWait c) : Ready parse inWait c.deliver := by
  obtain ⟨φ, hφ, hids, hinv⟩ := h
  unfold MacHelperClient.deliver
  cases hqueue : c.queue with
  | nil => exact ⟨φ, hφ, hids, hinv⟩
  | cons s queue =>
    have hledger : ledger (c.log ++ [.emit s]) = (ledger c.log).step (.emit s) := ledger_concat _ _
    have hstream : (ledger (c.log ++ [.emit s])).stream = (ledger c.log).stream :=
      (congrArg Ledger.stream hledger).trans rfl
    have hpending : (ledger c.log).pending = s :: queue := hinv.pending.trans hqueue
    refine ⟨φ, hφ, hids, ?_⟩
    exact
      { accepted := accepted_concat hinv.accepted (congrArg List.head? hpending)
        armed := (congrArg Ledger.armed hledger).trans hinv.armed
        pending := (congrArg Ledger.pending hledger).trans (congrArg List.tail hpending)
        frame := (congrArg (Ledger.frame · c.inWait c.nextId) hledger).trans hinv.frame
        settled := by
          change (ledger (c.log ++ [.emit s])).Settled parse
          rw [hledger]
          exact hinv.settled
        quiet := hinv.quiet
        live := hinv.live
        fresh := hinv.fresh_log hstream }

/-- The slot reads when nobody waits. -/
lemma Ready.onReadyRead (h : Ready parse false c) (hsock : c.sock = .connected) (data : Bytes) :
    Ready parse false (onReadyRead parse data c) := by
  obtain ⟨φ, hφ, hids, hinv⟩ := h
  have hscope : c.inWait = false := (congrArg Frame.inWait hinv.frame).trans hφ
  have hreads := hinv.processBuffered data
  rw [drained, if_pos hsock] at hreads
  unfold MacHelperClient.onReadyRead
  rw [if_neg (by rw [hscope]; exact Bool.false_ne_true)]
  exact ⟨φ, hφ, hids, hreads.toInv⟩

/-- An event of the event loop. -/
theorem Ready.handle (h : Ready parse false c) (e : Event) : Ready parse false (handle parse c e) := by
  cases e with
  | readyRead data =>
    unfold MacHelperClient.handle
    dsimp only
    split_ifs with hsock
    · exact h.onReadyRead hsock data
    · exact h
  | disconnected =>
    obtain ⟨φ, hφ, hids, hinv⟩ := h
    refine ⟨φ, hφ, hids, ?_⟩
    unfold MacHelperClient.handle MacHelperClient.onEmitted
    dsimp only
    split_ifs
    · exact Inv.closed hinv.toKept hinv.settled hinv.quiet
    · exact hinv
  | probe plistPresent binaryPresent timeoutMs o settled => exact h.probe _ _ timeoutMs o settled
  | request req timeoutMs r => exact h.request req timeoutMs r
  | disconnectFromHelper => exact h.disconnectFromHelper
  | deliver => exact h.deliver

/-- The client at the start. -/
lemma ready_init : Ready parse false {} := by
  refine ⟨{ inWait := false, nextId := 1, asked := [], mark := [], lastId := 0 }, rfl, Int.zero_lt_one, ?_⟩
  exact
    { accepted := trivial
      armed := rfl
      pending := rfl
      frame := rfl
      settled := rfl
      quiet := goodLines_of_not_mem List.not_mem_nil
      live := fun hdone => absurd hdone Bool.false_ne_true
      fresh := fun hconnected => absurd hconnected unconnected_ne_connected }

lemma ready_run (parse : Bytes → Option Object) (events : List Event) : Ready parse false (run parse events) := by
  induction events using List.reverseRecOn with
  | nil => exact ready_init
  | append_singleton events e ih =>
    rw [run, List.foldl_append]
    exact ih.handle e

/-- **The client of the helper.** The log of every run is accepted: wherever the reads are cut and whoever
reads, the events of a connection are queued each once and in their order, up to a line that is too long, every
wait ends with the first reply with its number that is read after its request, if there is one, and a loss is
queued at most once for a hello, and not after the client disconnects. What is queued is delivered in that
order. After a line that is too long there is no connection.

**Proof sketch.** Every event of the event loop keeps the invariant. -/
theorem run_accepted (parse : Bytes → Option Object) (events : List Event) :
    Accepted parse (run parse events).log ∧
      (ledger (run parse events).log).Settled parse ∧
      (ledger (run parse events).log).pending = (run parse events).queue ∧
      (overlong kMaxLineBytes (ledger (run parse events).log).stream = true →
        (run parse events).sock ≠ .connected) := by
  obtain ⟨φ, -, -, hinv⟩ := ready_run parse events
  refine ⟨hinv.accepted, hinv.settled, hinv.pending, fun hover hsock => ?_⟩
  obtain ⟨-, -, hshort⟩ := hinv.fresh hsock
  exact Bool.false_ne_true (hshort.symm.trans hover)

/-! ### Fractions, losses and unread lines -/

/-- The numbers of the waits, and their replies. -/
def waits (log : List Note) : List (ℤ × Option Object) :=
  log.filterMap fun
    | .waited w => some (w.id, w.result.reply)
    | _ => none

/-- The signals that were delivered. -/
def delivered (log : List Note) : List Signal :=
  log.filterMap fun
    | .emit s => some s
    | _ => none

/-- The reply to the hello. -/
def helloReply : Bytes := Bytes.ofString "\x7b\"id\":1,\"ok\":true,\"protocol\":1\x7d"

/-- A reply whose number is a fraction. -/
def fractionReply : Bytes := Bytes.ofString "\x7b\"id\":2.5\x7d"

/-- An event. -/
def readyEvent : Bytes := Bytes.ofString "\x7b\"event\":\"tun_ready\"\x7d"

/-- The objects of these lines. -/
def parseLine (line : Bytes) : Option Object :=
  if line = helloReply then some [("id", .num 1), ("ok", .bool true), ("protocol", .num 1)]
  else if line = fractionReply then some [("id", .num (5 / 2))]
  else if line = readyEvent then some [("event", .str "tun_ready")]
  else none

/-- A connection whose hello is completed. -/
def opened : Opening := { rounds := [{ data := helloReply ++ [10] }] }

/-- The number 5/2 is taken for the request 2. A loss that is queued is delivered after the client disconnects.
An event that the socket has to read when the helper closes the connection, while a request is written, is
never read. -/
theorem not_run_accepted :
    waits (run parseLine [.request [("cmd", .str "status")] 1000
      { opening := opened, rounds := [{ data := fractionReply ++ [10] }] }]).log =
        [(1, some [("id", .num 1), ("ok", .bool true), ("protocol", .num 1)]), (2, some [("id", .num (5 / 2))])] ∧
      delivered (run parseLine [.probe true true 1000 opened [], .disconnected, .disconnectFromHelper]).log = [] ∧
      delivered (run parseLine [.probe true true 1000 opened [], .disconnected, .disconnectFromHelper,
        .deliver]).log = [.connectionLost] ∧
      delivered (run parseLine [.request [("cmd", .str "status")] 1000
        { opening := opened
          writing := {
            pending := true
            waiting := { readyRead := some (readyEvent ++ [10]), disconnected := true } } },
        .deliver, .deliver]).log = [.connectionLost] := by
  decide +kernel

end Proxor.Sys.MacHelperClient
