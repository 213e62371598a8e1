import Mathlib.Data.List.Nodup
import Proxor.Sys.MacHelperService

set_option relaxedAutoImplicit false
set_option autoImplicit false

/-!
# What the service answers

Any sequence of requests and shutdowns, with the steps of the worker and of the threads that own
contexts in between.

## Main definitions

* `Proxor.Sys.ServiceRun` — any interleaving, from a new service.
* `Proxor.Sys.ServiceRun.Guarantees` — every callback runs once, in order, and the worker does the
  jobs in order.
* `Proxor.Sys.ServiceRun.Prompt` — no request is refused before those it comes after are answered.

## Main results

* `Proxor.Sys.delivery_guarantees` — in such runs every guarantee holds.
* `Proxor.Sys.not_delivery_guarantees` — in another an answer overtakes one that was asked for
  before.
-/

namespace Proxor.Sys

/-! ### Runs -/

/-- One event of a run. -/
abbrev ServiceEntry : Type := Entry MacHelperService ServiceEvent (List Output)

namespace ServiceEntry

/-- The number of a request that was accepted. -/
def accepted (entry : ServiceEntry) : Option ℕ :=
  match entry.event with
  | .issue _ => if entry.before.down then none else some entry.before.issued
  | _ => none

/-- The number of a request that wants its answer on a thread. -/
def wanted (t : Thread) (entry : ServiceEntry) : Option ℕ :=
  match entry.event with
  | .issue request => if request.wantsReply = some t then some entry.before.issued else none
  | _ => none

end ServiceEntry

/-- The callbacks on a thread. -/
def Output.called (t : Thread) : Output → Option ℕ
  | .callback d => if d.thread = t then some d.number else none
  | _ => none

/-- What the worker did: a job, or the disconnect. -/
def Output.worked : Output → Option (Option ℕ)
  | .executed n => some (some n)
  | .disconnected => some none
  | _ => none

/-- The requests accepted, by number. -/
def accepted (entries : List ServiceEntry) : List ℕ := entries.filterMap ServiceEntry.accepted

/-- The requests that want their answer on a thread, by number. -/
def wanted (t : Thread) (entries : List ServiceEntry) : List ℕ :=
  entries.filterMap (ServiceEntry.wanted t)

/-- The callbacks that ran on a thread, by the number of the request. -/
def called (t : Thread) (entries : List ServiceEntry) : List ℕ :=
  entries.flatMap fun entry => entry.out.filterMap (Output.called t)

/-- What the worker did: the jobs by number, and none for the disconnect. -/
def worked (entries : List ServiceEntry) : List (Option ℕ) :=
  entries.flatMap fun entry => entry.out.filterMap Output.worked

namespace MacHelperService

/-- What the worker has to do: what it runs, and its queue. -/
def backlog (s : MacHelperService) : List Posting :=
  match s.current with
  | some (.running p) => p :: s.queue
  | _ => s.queue

/-- The answer that the worker has to post on a thread, by number. -/
def answering (s : MacHelperService) (t : Thread) : List ℕ :=
  match s.current with
  | some (.answering d) => if d.thread = t then [d.number] else []
  | _ => []

end MacHelperService

/-- A job that is to be answered on a thread. -/
def Posting.wanted (t : Thread) : Posting → Option ℕ
  | .job j => if j.request.wantsReply = some t then some j.number else none
  | .close => none

namespace MacHelperService

/-- The answers on a thread that are to come from the worker, by number. -/
def toCome (s : MacHelperService) (t : Thread) : List ℕ :=
  s.answering t ++ s.backlog.filterMap (Posting.wanted t)

/-- A request is refused while the worker has to answer another on the same thread. -/
def OutOfOrder (s : MacHelperService) : ServiceEvent → Prop
  | .issue request => ∃ t ∈ request.wantsReply, s.down = true ∧ s.toCome t ≠ []
  | _ => False

instance (s : MacHelperService) : (e : ServiceEvent) → Decidable (s.OutOfOrder e)
  | .issue request =>
    decidable_of_iff
      (request.wantsReply.any fun t => s.down && !(s.toCome t).isEmpty) (by simp [OutOfOrder, Option.any_eq_true])
  | .shutdown | .waitEnds | .take | .finish _ | .answer | .connectionLost | .run _ => isFalse id

/-- Nothing is under way. -/
def Idle (s : MacHelperService) : Prop :=
  s.queue = [] ∧ s.current.isNone = true ∧ s.deliveries = []

end MacHelperService

/-- A step of the worker, of a thread that owns contexts, or the end of a wait. -/
def ServiceEvent.Works : ServiceEvent → Prop
  | .waitEnds | .take | .finish _ | .answer | .run _ => True
  | _ => False

/-- A run of a new service. -/
structure ServiceRun where
  issuer : Thread
  events : List ServiceEvent
  allowed : ∀ entry ∈ history MacHelperService.handle { issuer := issuer } events,
    entry.before.Allowed entry.event

namespace ServiceRun

variable (r : ServiceRun)

/-- A new service. -/
def start : MacHelperService := { issuer := r.issuer }

/-- The entries of a run. -/
def entries : List ServiceEntry := history MacHelperService.handle r.start r.events

/-- The service after a run. -/
def last : MacHelperService := final MacHelperService.handle r.start r.events

/-- No request is refused while the worker has to answer another on the same thread. -/
def Prompt : Prop := ∀ entry ∈ r.entries, ¬ entry.before.OutOfOrder entry.event

/-- What is promised of a run, and so of every beginning of it. -/
structure Guarantees : Prop where
  /-- A callback runs at most once, on the thread of its context. -/
  once : ∀ t, (called t r.entries).Nodup ∧ called t r.entries ⊆ wanted t r.entries
  /-- When nothing is under way every callback has run. -/
  answered : r.last.Idle → ∀ t, wanted t r.entries ⊆ called t r.entries
  /-- The run can go on until nothing is under way, without another request. -/
  completes : ∃ l, (∀ e ∈ l, e.Works) ∧
    (∀ entry ∈ history MacHelperService.handle r.last l, entry.before.Allowed entry.event) ∧
    (final MacHelperService.handle r.last l).Idle
  /-- Callbacks run in the order the requests were issued. -/
  ordered : ∀ t, (called t r.entries).Pairwise (· < ·)
  /-- The worker does the accepted jobs in order and then disconnects; `pending` counts those that
  are left, none when the worker has ended. -/
  worker : ∃ executed left, executed ++ left = accepted r.entries ∧
    (accepted r.entries).Pairwise (· < ·) ∧
    worked r.entries = executed.map some ++ (if r.last.ended then [none] else []) ∧
    r.last.pending = left.length ∧ (r.last.ended = true → left = [])

end ServiceRun

/-! ### The worker -/

section Service

variable {s : MacHelperService} {hist : List ServiceEntry} {jobs : List Job} {t : Thread}

/-- The invariant of the worker: the jobs that are left, with the end after them once `shutdown` was
called. -/
structure WorkerInv (hist : List ServiceEntry) (s : MacHelperService) (jobs : List Job) : Prop where
  backlog : s.backlog =
    jobs.map Posting.job ++ if s.down && !s.ended then [Posting.close] else []
  ended : s.ended = true → s.down = true ∧ jobs = []
  pending : s.pending = jobs.length
  executed : ∃ executed, executed ++ jobs.map Job.number = accepted hist ∧
    worked hist = executed.map some ++ if s.ended then [none] else []
  issued : ∀ n ∈ accepted hist, n < s.issued
  increasing : (accepted hist).Pairwise (· < ·)

lemma accepted_concat (entry : ServiceEntry) :
    accepted (hist ++ [entry]) = accepted hist ++ entry.accepted.toList := by
  rw [accepted, List.filterMap_append]
  cases h : entry.accepted <;> simp [accepted, h]

lemma accepted_concat_none (hist : List ServiceEntry) {entry : ServiceEntry} (h : entry.accepted = none) :
    accepted (hist ++ [entry]) = accepted hist := by
  rw [accepted_concat, h, Option.toList_none, List.append_nil]

lemma wanted_concat (entry : ServiceEntry) :
    wanted t (hist ++ [entry]) = wanted t hist ++ (entry.wanted t).toList := by
  rw [wanted, List.filterMap_append]
  cases h : entry.wanted t <;> simp [wanted, h]

lemma called_concat (entry : ServiceEntry) :
    called t (hist ++ [entry]) = called t hist ++ entry.out.filterMap (Output.called t) := by
  rw [called, List.flatMap_append, List.flatMap_singleton]
  rfl

lemma worked_concat (entry : ServiceEntry) :
    worked (hist ++ [entry]) = worked hist ++ entry.out.filterMap Output.worked := by
  rw [worked, List.flatMap_append, List.flatMap_singleton]
  rfl

/-- What leaves the worker alone keeps its invariant. -/
lemma WorkerInv.frame (hinv : WorkerInv hist s jobs) {s' : MacHelperService} (entry : ServiceEntry)
    (hbacklog : s'.backlog = s.backlog) (hdown : s'.down = s.down) (hended : s'.ended = s.ended)
    (hpending : s'.pending = s.pending) (hissued : s.issued ≤ s'.issued)
    (haccepted : entry.accepted = none) (hworked : entry.out.filterMap Output.worked = []) :
    WorkerInv (hist ++ [entry]) s' jobs := by
  have hacc := accepted_concat_none hist haccepted
  refine ⟨?_, ?_, ?_, ?_, ?_, ?_⟩
  · rw [hbacklog, hdown, hended]
    exact hinv.backlog
  · rw [hended, hdown]
    exact hinv.ended
  · rw [hpending]
    exact hinv.pending
  · rw [hacc, worked_concat, hworked, List.append_nil, hended]
    exact hinv.executed
  · rw [hacc]
    exact fun n hn => (hinv.issued n hn).trans_le hissued
  · rw [hacc]
    exact hinv.increasing

/-- A refused request that wants no answer is only counted. -/
lemma MacHelperService.issue_refused_none {request : Request} (hdown : s.down = true)
    (hreply : request.wantsReply = none) :
    s.issue request = { s with issued := s.issued + 1 } := by
  rw [MacHelperService.issue, MacHelperService.enqueue, if_pos hdown]
  dsimp only
  rw [hreply]

/-- A refused request that wants an answer gets one at once. -/
lemma MacHelperService.issue_refused_some {request : Request} {t : Thread} (hdown : s.down = true)
    (hreply : request.wantsReply = some t) :
    s.issue request = { s with
      issued := s.issued + 1
      deliveries := s.deliveries ++ [⟨s.issued, t, request.refusal⟩] } := by
  rw [MacHelperService.issue, MacHelperService.enqueue, if_pos hdown]
  dsimp only
  rw [hreply]
  rfl

/-- A request that is issued. -/
lemma WorkerInv.issue (hinv : WorkerInv hist s jobs) (request : Request) :
    ∃ jobs', WorkerInv (hist ++ [⟨s, .issue request, []⟩]) (s.issue request) jobs' := by
  cases hdown : s.down with
  | true =>
    refine ⟨jobs, ?_⟩
    cases hreply : request.wantsReply with
    | none =>
      rw [MacHelperService.issue_refused_none hdown hreply]
      exact hinv.frame _ rfl rfl rfl rfl (Nat.le_succ _) (if_pos hdown) rfl
    | some t =>
      rw [MacHelperService.issue_refused_some hdown hreply]
      exact hinv.frame _ rfl rfl rfl rfl (Nat.le_succ _) (if_pos hdown) rfl
  | false =>
    refine ⟨jobs ++ [⟨s.issued, request⟩], ?_⟩
    have hended : s.ended = false := by
      by_contra h
      exact absurd (hdown.symm.trans (hinv.ended ((Bool.not_eq_false _).mp h)).1) nofun
    have hissue : s.issue request = { s with
        issued := s.issued + 1
        pending := s.pending + 1
        queue := s.queue ++ [.job ⟨s.issued, request⟩] } := by
      rw [MacHelperService.issue, MacHelperService.enqueue, if_neg (by rw [hdown]; decide)]
    have hacc : accepted (hist ++ [⟨s, .issue request, []⟩]) = accepted hist ++ [s.issued] := by
      rw [accepted_concat]
      exact congrArg (_ ++ ·) (congrArg Option.toList (if_neg (by rw [hdown]; decide)))
    have hbacklog : (s.issue request).backlog = s.backlog ++ [.job ⟨s.issued, request⟩] := by
      rw [hissue]
      rcases hcurrent : s.current with _ | (p | d) <;>
        simp only [MacHelperService.backlog, hcurrent, List.cons_append]
    obtain ⟨executed, hexecuted, hworked⟩ := hinv.executed
    refine ⟨?_, ?_, ?_, ⟨executed, ?_, ?_⟩, ?_, ?_⟩
    · have hb := hinv.backlog
      rw [hdown, Bool.false_and, if_neg (by decide), List.append_nil] at hb
      rw [hbacklog, hb, hissue, List.map_append]
      simp only [hdown, Bool.false_and, List.map_cons, List.map_nil]
      exact (List.append_nil _).symm
    · rw [hissue]
      exact fun h => absurd (hended.symm.trans h) nofun
    · rw [hissue, List.length_append, List.length_singleton, Nat.cast_succ]
      exact congrArg (· + 1) hinv.pending
    · rw [List.map_append, ← List.append_assoc, hexecuted, hacc]
      rfl
    · rw [worked_concat, hworked, hissue]
      exact List.append_nil _
    · rw [hacc, hissue]
      intro n hn
      rcases List.mem_append.1 hn with hn | hn
      · exact (hinv.issued n hn).trans (Nat.lt_succ_self _)
      · rw [List.mem_singleton.1 hn]
        exact Nat.lt_succ_self _
    · rw [hacc, List.pairwise_append]
      exact ⟨hinv.increasing, List.pairwise_singleton _ _, fun a ha b hb =>
        List.mem_singleton.1 hb ▸ hinv.issued a ha⟩

/-- What the end of a job changes for the worker. -/
lemma MacHelperService.finish_fields (s : MacHelperService) (j : Job) (o : Outcome) :
    (s.finish j o).backlog = s.queue ∧ (s.finish j o).down = s.down ∧
      (s.finish j o).ended = s.ended ∧ (s.finish j o).pending = s.pending - 1 ∧
      (s.finish j o).issued = s.issued := by
  rw [MacHelperService.finish]
  obtain ⟨n, request⟩ := j
  cases request with
  | submit context work done =>
    refine ⟨?_, rfl, rfl, rfl, rfl⟩
    rw [backlog]
    cases Request.wantsReply (.submit context work done) <;> rfl
  | probe context timeoutMs done =>
    refine ⟨?_, rfl, rfl, rfl, rfl⟩
    rw [backlog]
    cases Request.wantsReply (.probe context timeoutMs done) <;> rfl
  | disconnectFromHelper => exact ⟨rfl, rfl, rfl, rfl, rfl⟩

/-- The end of a job or of the worker. -/
lemma WorkerInv.finish (hinv : WorkerInv hist s jobs) {o : Outcome}
    (hallowed : s.Allowed (.finish o)) :
    ∃ jobs', WorkerInv (hist ++ [⟨s, .finish o, (s.handle (.finish o)).2⟩])
      (s.handle (.finish o)).1 jobs' := by
  rw [MacHelperService.handle]
  have hb := hinv.backlog
  obtain ⟨executed, hexecuted, hworked⟩ := hinv.executed
  rw [MacHelperService.Allowed] at hallowed
  rcases hcurrent : s.current with _ | ((j | _) | d) <;> rw [hcurrent] at hallowed
  · exact absurd hallowed nofun
  · -- The job is the first of those that are left.
    rw [MacHelperService.backlog, hcurrent] at hb
    cases jobs with
    | nil =>
      split_ifs at hb
      · exact absurd (List.cons.inj hb).1 nofun
      · exact absurd hb (List.cons_ne_nil _ _)
    | cons j' jobs =>
      obtain ⟨hj, hqueue⟩ := List.cons.inj hb
      obtain rfl := Posting.job.inj hj
      have hended : s.ended = false := by
        by_contra h
        exact absurd (hinv.ended ((Bool.not_eq_false _).mp h)).2 (List.cons_ne_nil _ _)
      obtain ⟨hbacklog, hdown, hended', hpending, hissued⟩ := s.finish_fields j o
      refine ⟨jobs, ?_, ?_, ?_, ⟨executed ++ [j.number], ?_, ?_⟩, ?_, ?_⟩
      · rw [hbacklog, hdown, hended', hqueue, List.append_eq]
      · rw [hended']
        exact fun h => absurd (hended.symm.trans h) nofun
      · rw [hpending, hinv.pending, List.length_cons]
        rw [Nat.cast_succ, Int.add_sub_cancel]
      · rw [accepted_concat_none _ rfl, List.append_assoc]
        exact hexecuted
      · rw [worked_concat, hworked, hended', hended, List.map_append]
        simp only [Bool.false_eq_true, if_false, List.append_nil]
        rfl
      · rw [accepted_concat_none _ rfl, hissued]
        exact hinv.issued
      · rw [accepted_concat_none _ rfl]
        exact hinv.increasing
  · -- The end was posted after every job.
    rw [MacHelperService.backlog, hcurrent] at hb
    cases jobs with
    | cons j jobs => exact absurd (List.cons.inj hb).1 nofun
    | nil =>
      have hboth : (s.down && !s.ended) = true := by
        by_contra h
        rw [if_neg h] at hb
        exact absurd hb (List.cons_ne_nil _ _)
      obtain ⟨hdown, hended⟩ := Bool.and_eq_true_iff.1 hboth
      rw [hboth] at hb
      rw [Bool.not_eq_true'] at hended
      rw [hended] at hworked
      refine ⟨[], ?_, fun _ => ⟨hdown, rfl⟩, hinv.pending, ⟨executed, ?_, ?_⟩, ?_, ?_⟩
      · rw [MacHelperService.close, Bool.not_true, Bool.and_false]
        exact (List.cons.inj hb).2
      · rw [accepted_concat_none _ rfl]
        exact hexecuted
      · rw [worked_concat, hworked, List.append_assoc]
        rfl
      · rw [accepted_concat_none _ rfl]
        exact hinv.issued
      · rw [accepted_concat_none _ rfl]
        exact hinv.increasing
  · exact absurd hallowed nofun

/-- The invariant of the worker is kept. -/
lemma WorkerInv.handle (hinv : WorkerInv hist s jobs) {e : ServiceEvent} (hallowed : s.Allowed e) :
    ∃ jobs', WorkerInv (hist ++ [⟨s, e, (s.handle e).2⟩]) (s.handle e).1 jobs' := by
  cases e with
  | issue request => exact hinv.issue request
  | shutdown =>
    refine ⟨jobs, ?_⟩
    rw [MacHelperService.handle, MacHelperService.shutdown]
    cases hdown : s.down with
    | true => exact hinv.frame _ rfl hdown.symm rfl rfl le_rfl rfl rfl
    | false =>
      have hended : s.ended = false := by
        by_contra h
        exact absurd (hdown.symm.trans (hinv.ended ((Bool.not_eq_false _).mp h)).1) nofun
      have hkeeps := hinv.frame ⟨s, .shutdown, []⟩ rfl rfl rfl rfl le_rfl rfl rfl
      have hb := hinv.backlog
      rw [hdown, Bool.false_and, if_neg (by decide), List.append_nil] at hb
      refine ⟨?_, fun h => absurd (hended.symm.trans h) nofun, hinv.pending, hkeeps.executed,
        hkeeps.issued, hkeeps.increasing⟩
      have hbacklog : MacHelperService.backlog
          { s with waiting := true, down := true, queue := s.queue ++ [.close] } =
            s.backlog ++ [.close] := by
        rcases hcurrent : s.current with _ | (p | d) <;>
          simp only [MacHelperService.backlog, hcurrent, List.cons_append]
      rw [if_neg (by decide), hbacklog, hb]
      simp only [hended, Bool.not_false, Bool.and_self, if_true]
  | waitEnds => exact ⟨jobs, hinv.frame _ rfl rfl rfl rfl le_rfl rfl rfl⟩
  | take =>
    obtain ⟨hcurrent, hqueue, -⟩ := hallowed
    rw [Option.isNone_iff_eq_none] at hcurrent
    rw [MacHelperService.handle]
    cases hq : s.queue with
    | nil => exact absurd (hq ▸ hqueue) nofun
    | cons p queue =>
      refine ⟨jobs, hinv.frame _ ?_ rfl rfl rfl le_rfl rfl rfl⟩
      rw [MacHelperService.backlog, MacHelperService.backlog, hcurrent, hq]
  | finish o => exact hinv.finish hallowed
  | answer =>
    rw [MacHelperService.Allowed] at hallowed
    rw [MacHelperService.handle]
    rcases hcurrent : s.current with _ | (p | d) <;> rw [hcurrent] at hallowed
    · exact absurd hallowed nofun
    · exact absurd hallowed nofun
    · refine ⟨jobs, hinv.frame _ ?_ rfl rfl rfl le_rfl rfl rfl⟩
      rw [MacHelperService.backlog, MacHelperService.backlog, hcurrent]
      rfl
  | connectionLost => exact ⟨jobs, hinv.frame _ rfl rfl rfl rfl le_rfl rfl rfl⟩
  | run t =>
    rw [MacHelperService.handle]
    cases s.next t with
    | none => exact ⟨jobs, hinv.frame _ rfl rfl rfl rfl le_rfl rfl rfl⟩
    | some d => exact ⟨jobs, hinv.frame _ rfl rfl rfl rfl le_rfl rfl rfl⟩

/-! ### The answers -/

/-- The answers on a thread that are posted or to come from the worker, by number. -/
def MacHelperService.due (s : MacHelperService) (t : Thread) : List ℕ :=
  (s.deliveries.filter fun d => d.thread = t).map Delivery.number ++ s.toCome t

/-- The first delivery to a thread. -/
lemma next_some {d : Delivery} (h : s.next t = some d) :
    d.thread = t ∧ ∃ l l', s.deliveries = l ++ d :: l' ∧ (∀ d' ∈ l, d'.thread ≠ t) ∧
      (s.deliveries.eraseP fun d => d.thread = t) = l ++ l' := by
  obtain ⟨hd, l, l', hl, hnone⟩ := List.find?_eq_some_iff_append.1 h
  have hbefore (d' : Delivery) (hd' : d' ∈ l) : d'.thread ≠ t := by simpa using hnone d' hd'
  refine ⟨by simpa using hd, l, l', hl, hbefore, ?_⟩
  have herase : ((d :: l').eraseP fun d => d.thread = t) = l' := List.eraseP_cons_of_pos hd
  rw [hl, List.eraseP_append_right _ (by simpa using hbefore), herase]

/-- A request that is issued has to be answered, after every other on its thread unless it is
refused too early. -/
lemma due_issue (request : Request) :
    (s.issue request).due t = s.due t ++ (ServiceEntry.wanted t ⟨s, .issue request, []⟩).toList ∨
      s.OutOfOrder (.issue request) ∧
        ((s.issue request).due t).Perm
          (s.due t ++ (ServiceEntry.wanted t ⟨s, .issue request, []⟩).toList) := by
  have hwanted : ServiceEntry.wanted t ⟨s, .issue request, []⟩ =
      if request.wantsReply = some t then some s.issued else none := rfl
  cases hdown : s.down with
  | false =>
    left
    have hissue : s.issue request = { s with
        issued := s.issued + 1
        pending := s.pending + 1
        queue := s.queue ++ [.job ⟨s.issued, request⟩] } := by
      rw [MacHelperService.issue, MacHelperService.enqueue, if_neg (by rw [hdown]; decide)]
    have hcome : (s.issue request).toCome t =
        s.toCome t ++ [Posting.job ⟨s.issued, request⟩].filterMap (Posting.wanted t) := by
      rw [hissue]
      rcases hcurrent : s.current with _ | (p | d) <;>
        simp only [MacHelperService.toCome, MacHelperService.answering, MacHelperService.backlog,
          hcurrent, List.filterMap_append, List.append_assoc, ← List.cons_append]
    have hjob : [Posting.job ⟨s.issued, request⟩].filterMap (Posting.wanted t) =
        (if request.wantsReply = some t then some s.issued else none).toList := by
      rw [List.filterMap_cons, Posting.wanted]
      split_ifs <;> rfl
    have hdeliveries : (s.issue request).deliveries = s.deliveries := by rw [hissue]
    rw [MacHelperService.due, hcome, hdeliveries, hjob, hwanted, ← List.append_assoc]
    rfl
  | true =>
    cases hreply : request.wantsReply with
    | none =>
      left
      rw [MacHelperService.issue_refused_none hdown hreply, hwanted, hreply, if_neg (by rintro ⟨⟩)]
      exact (List.append_nil _).symm
    | some t' =>
      have hdue : (s.issue request).due t = (s.deliveries.filter fun d => d.thread = t).map
          Delivery.number ++ (if t' = t then [s.issued] else []) ++ s.toCome t := by
        rw [MacHelperService.issue_refused_some hdown hreply, MacHelperService.due]
        simp only [List.filter_append, List.map_append]
        by_cases ht : t' = t
        · rw [if_pos ht, List.filter_cons_of_pos (by simpa using ht)]
          rfl
        · rw [if_neg ht, List.filter_cons_of_neg (by simpa using ht)]
          rfl
      rw [hdue, hwanted, hreply]
      by_cases ht : t' = t
      · rw [if_pos ht, if_pos (congrArg some ht), MacHelperService.due]
        by_cases hcome : s.toCome t = []
        · left
          rw [hcome, List.append_nil, List.append_nil]
          rfl
        · refine .inr ⟨⟨t, hreply.trans (congrArg some ht), hdown, hcome⟩, ?_⟩
          rw [List.append_assoc, List.append_assoc]
          exact (List.perm_append_comm).append_left _
      · left
        rw [if_neg ht, if_neg fun h => ht (Option.some.inj h), List.append_nil]
        exact (List.append_nil _).symm

/-- The end of a job leaves its answer to be posted. -/
lemma MacHelperService.due_finish (s : MacHelperService) {j : Job}
    (hcurrent : s.current = some (.running (.job j))) (o : Outcome) :
    (s.finish j o).due t = s.due t := by
  have hcome : (s.finish j o).toCome t = s.toCome t := by
    have hbacklog : s.backlog = .job j :: s.queue := by rw [backlog, hcurrent]
    have hnone : s.answering t = [] := by rw [answering, hcurrent]
    rw [toCome, toCome, (s.finish_fields j o).1, hbacklog, hnone, List.filterMap_cons,
      Posting.wanted, List.nil_append]
    have hanswering : (s.finish j o).answering t =
        if j.request.wantsReply = some t then [j.number] else [] := by
      rw [answering, finish]
      obtain ⟨n, request⟩ := j
      cases request with
      | submit context work done =>
        cases Request.wantsReply (.submit context work done) with
        | none => rfl
        | some t' => simp only [Option.map_some, Option.some.injEq]
      | probe context timeoutMs done =>
        cases Request.wantsReply (.probe context timeoutMs done) with
        | none => rfl
        | some t' => simp only [Option.map_some, Option.some.injEq]
      | disconnectFromHelper => rfl
    rw [hanswering]
    split_ifs <;> rfl
  have hdeliveries : (s.finish j o).deliveries = s.deliveries := by
    rw [finish]
    cases j.request <;> rfl
  rw [due, due, hcome, hdeliveries]

/-- **The answers to come**: a callback is the first of them on its thread, and no other is lost. -/
lemma due_handle {e : ServiceEvent} (hallowed : s.Allowed e) :
    (s.handle e).2.filterMap (Output.called t) ++ (s.handle e).1.due t =
        s.due t ++ (ServiceEntry.wanted t ⟨s, e, (s.handle e).2⟩).toList ∨
      s.OutOfOrder e ∧
        ((s.handle e).2.filterMap (Output.called t) ++ (s.handle e).1.due t).Perm
          (s.due t ++ (ServiceEntry.wanted t ⟨s, e, (s.handle e).2⟩).toList) := by
  cases e with
  | issue request => exact due_issue request
  | shutdown =>
    left
    refine Eq.trans ?_ (List.append_nil _).symm
    rw [MacHelperService.handle, MacHelperService.shutdown]
    cases s.down with
    | true => rfl
    | false =>
      have hcome : (MacHelperService.backlog
          { s with waiting := true, down := true, queue := s.queue ++ [.close] }).filterMap
            (Posting.wanted t) = s.backlog.filterMap (Posting.wanted t) := by
        have hclose : [Posting.close].filterMap (Posting.wanted t) = [] := rfl
        rcases hcurrent : s.current with _ | (p | d) <;>
          simp only [MacHelperService.backlog, hcurrent, List.filterMap_append, hclose,
            List.append_nil, ← List.cons_append]
      exact congrArg (fun l => (s.deliveries.filter fun d => d.thread = t).map Delivery.number ++
        (s.answering t ++ l)) hcome
  | waitEnds => exact .inl (List.append_nil _).symm
  | take =>
    left
    obtain ⟨hcurrent, -, -⟩ := hallowed
    rw [Option.isNone_iff_eq_none] at hcurrent
    refine Eq.trans ?_ (List.append_nil _).symm
    rw [MacHelperService.handle]
    cases hq : s.queue with
    | nil => rfl
    | cons p queue =>
      simp only [MacHelperService.due, MacHelperService.toCome, MacHelperService.answering,
        MacHelperService.backlog, hcurrent, hq, List.filterMap_nil, List.nil_append]
  | finish o =>
    left
    refine Eq.trans ?_ (List.append_nil _).symm
    rw [MacHelperService.Allowed] at hallowed
    rw [MacHelperService.handle]
    rcases hcurrent : s.current with _ | ((j | _) | d) <;> rw [hcurrent] at hallowed
    · exact absurd hallowed nofun
    · exact s.due_finish hcurrent o
    · simp only [MacHelperService.due, MacHelperService.toCome, MacHelperService.answering,
        MacHelperService.backlog, hcurrent]
      rfl
    · exact absurd hallowed nofun
  | answer =>
    left
    refine Eq.trans ?_ (List.append_nil _).symm
    rw [MacHelperService.Allowed] at hallowed
    rw [MacHelperService.handle]
    rcases hcurrent : s.current with _ | (p | d) <;> rw [hcurrent] at hallowed
    · exact absurd hallowed nofun
    · exact absurd hallowed nofun
    · simp only [MacHelperService.due, MacHelperService.deliver, MacHelperService.toCome,
        MacHelperService.answering, MacHelperService.backlog, hcurrent, List.filter_append,
        List.map_append, List.append_assoc]
      by_cases ht : d.thread = t
      · rw [List.filter_cons_of_pos (by simpa using ht), if_pos ht]
        rfl
      · rw [List.filter_cons_of_neg (by simpa using ht), if_neg ht]
        rfl
  | connectionLost => exact .inl (List.append_nil _).symm
  | run t' =>
    left
    refine Eq.trans ?_ (List.append_nil _).symm
    rw [MacHelperService.handle]
    cases hnext : s.next t' with
    | none => rfl
    | some d =>
      obtain ⟨hd, l, l', hl, hnone, herase⟩ := next_some hnext
      simp only [MacHelperService.due, herase]
      rw [hl]
      by_cases ht : t' = t
      · have hnil : (l.filter fun d => d.thread = t) = [] :=
          List.filter_eq_nil_iff.2 fun d' hd' => by simpa [← ht] using hnone d' hd'
        rw [List.filter_append, List.filter_append, hnil,
          List.filter_cons_of_pos (by simpa [← ht] using hd), List.filterMap_cons, Output.called,
          if_pos (hd.trans ht)]
        rfl
      · have hne : d.thread ≠ t := fun h => ht (hd.symm.trans h)
        rw [List.filter_append, List.filter_append, List.filter_cons_of_neg (by simpa using hne),
          List.filterMap_cons, Output.called, if_neg hne]
        rfl

/-- The invariant of the answers on a thread: those that were wanted ran, are posted or will be. -/
structure AnswerInv (hist : List ServiceEntry) (s : MacHelperService) (t : Thread) : Prop where
  due : (called t hist ++ s.due t).Perm (wanted t hist)
  issued : ∀ n ∈ wanted t hist, n < s.issued
  increasing : (wanted t hist).Pairwise (· < ·)

lemma issued_issue (request : Request) : (s.issue request).issued = s.issued + 1 := by
  rw [MacHelperService.issue, MacHelperService.enqueue]
  cases s.down with
  | true => cases request.wantsReply <;> rfl
  | false => rfl

lemma issued_le_handle (e : ServiceEvent) : s.issued ≤ (s.handle e).1.issued := by
  cases e with
  | issue request => exact (issued_issue request).symm ▸ Nat.le_succ _
  | shutdown =>
    rw [MacHelperService.handle, MacHelperService.shutdown]
    split_ifs <;> exact le_rfl
  | take =>
    rw [MacHelperService.handle]
    cases s.queue <;> exact le_rfl
  | finish o =>
    rw [MacHelperService.handle]
    rcases s.current with _ | ((j | _) | d)
    · exact le_rfl
    · exact (s.finish_fields j o).2.2.2.2.ge
    · exact le_rfl
    · exact le_rfl
  | answer =>
    rw [MacHelperService.handle]
    rcases s.current with _ | (p | d) <;> exact le_rfl
  | run t =>
    rw [MacHelperService.handle]
    cases s.next t <;> exact le_rfl
  | waitEnds => exact le_rfl
  | connectionLost => exact le_rfl

/-- The requests that want an answer on a thread are numbered in order. -/
lemma AnswerInv.wanted (hinv : AnswerInv hist s t) (e : ServiceEvent) :
    (∀ n ∈ wanted t (hist ++ [⟨s, e, (s.handle e).2⟩]), n < (s.handle e).1.issued) ∧
      (Proxor.Sys.wanted t (hist ++ [⟨s, e, (s.handle e).2⟩])).Pairwise (· < ·) := by
  rw [wanted_concat]
  cases hwanted : ServiceEntry.wanted t ⟨s, e, (s.handle e).2⟩ with
  | none =>
    rw [Option.toList_none, List.append_nil]
    exact ⟨fun n hn => (hinv.issued n hn).trans_le (issued_le_handle e), hinv.increasing⟩
  | some n =>
    obtain ⟨request, rfl⟩ : ∃ request, e = .issue request := by
      cases e with
      | issue request => exact ⟨request, rfl⟩
      | _ => exact absurd hwanted nofun
    have hn : n = s.issued := by
      have h : (if request.wantsReply = some t then some s.issued else none) = some n := hwanted
      split_ifs at h
      exact (Option.some.inj h).symm
    have hissued : (s.handle (.issue request)).1.issued = s.issued + 1 := issued_issue request
    subst hn
    refine ⟨fun m hm => ?_, List.pairwise_append.2 ⟨hinv.increasing, List.pairwise_singleton _ _,
      fun a ha b hb => List.mem_singleton.1 hb ▸ hinv.issued a ha⟩⟩
    rw [hissued]
    rcases List.mem_append.1 hm with hm | hm
    · exact (hinv.issued m hm).trans (Nat.lt_succ_self _)
    · rw [List.mem_singleton.1 hm]
      exact Nat.lt_succ_self _

/-- The answers on a thread are kept in view, in order if nothing is refused too early. -/
lemma AnswerInv.handle (hinv : AnswerInv hist s t) {e : ServiceEvent} (hallowed : s.Allowed e) :
    AnswerInv (hist ++ [⟨s, e, (s.handle e).2⟩]) (s.handle e).1 t := by
  obtain ⟨hissued, hincreasing⟩ := hinv.wanted e
  refine ⟨?_, hissued, hincreasing⟩
  rw [called_concat, wanted_concat, List.append_assoc]
  have hstep : ((s.handle e).2.filterMap (Output.called t) ++ (s.handle e).1.due t).Perm
      (s.due t ++ (ServiceEntry.wanted t ⟨s, e, (s.handle e).2⟩).toList) := by
    rcases due_handle (t := t) hallowed with h | ⟨-, h⟩
    · exact h ▸ List.Perm.refl _
    · exact h
  refine (hstep.append_left (called t hist)).trans ?_
  rw [← List.append_assoc]
  exact hinv.due.append_right _

/-- The answers on a thread are in order if nothing is refused too early. -/
lemma inOrder_handle {e : ServiceEvent} (horder : called t hist ++ s.due t = wanted t hist)
    (hallowed : s.Allowed e) (hprompt : ¬ s.OutOfOrder e) :
    called t (hist ++ [⟨s, e, (s.handle e).2⟩]) ++ (s.handle e).1.due t =
      wanted t (hist ++ [⟨s, e, (s.handle e).2⟩]) := by
  have hstep := (due_handle (t := t) hallowed).resolve_right fun h => hprompt h.1
  rw [called_concat, wanted_concat, List.append_assoc, hstep, ← horder, List.append_assoc]

/-! ### The end of a run -/

/-- How much is left to do: a job has to be taken, ended, answered and the answer run. -/
def MacHelperService.measure (s : MacHelperService) : ℕ :=
  4 * s.queue.length + (s.current.elim 0 fun a => if a.isRunning then 3 else 2) +
    s.deliveries.length + s.waiting.toNat

/-- The end of a job leaves its answer at most. -/
lemma MacHelperService.measure_finish (s : MacHelperService) {j : Job}
    (hcurrent : s.current = some (.running (.job j))) (o : Outcome) :
    (s.finish j o).measure < s.measure := by
  have hmeasure : s.measure = 4 * s.queue.length + 3 + s.deliveries.length + s.waiting.toNat := by
    rw [measure, hcurrent]
    rfl
  have hleft (f : Thread → Delivery) (reply : Option Thread) :
      ((reply.map fun t => Activity.answering (f t)).elim 0
        fun a => if a.isRunning then 3 else 2) ≤ 2 := by
    cases reply with
    | none => exact Nat.zero_le _
    | some t => exact le_rfl
  rw [hmeasure, finish]
  obtain ⟨n, request⟩ := j
  cases request with
  | submit context work done =>
    have h := hleft (fun t => ⟨n, t, .reply o.reply⟩) (Request.wantsReply (.submit context work done))
    dsimp only [measure]
    omega
  | probe context timeoutMs done =>
    have h := hleft (fun t => ⟨n, t, .probe o.probe (classifyMacHelper o.probe)⟩)
      (Request.wantsReply (.probe context timeoutMs done))
    dsimp only [measure]
    omega
  | disconnectFromHelper =>
    dsimp only [measure, Option.elim_none]
    omega

/-- While something is under way, a thread can go on with it. -/
lemma WorkerInv.progress (hinv : WorkerInv hist s jobs) (hidle : ¬ s.Idle) :
    ∃ e, e.Works ∧ s.Allowed e ∧ (s.handle e).1.measure < s.measure := by
  cases hwaiting : s.waiting with
  | true =>
    refine ⟨.waitEnds, trivial, hwaiting, ?_⟩
    simp only [MacHelperService.measure, MacHelperService.handle, hwaiting, Bool.toNat_true,
      Bool.toNat_false]
    omega
  | false =>
    rcases hcurrent : s.current with _ | (p | d)
    · cases hq : s.queue with
      | nil =>
        cases hd : s.deliveries with
        | nil => exact absurd ⟨hq, by rw [hcurrent]; rfl, hd⟩ hidle
        | cons d l =>
          have hnext : s.next d.thread = some d := by
            rw [MacHelperService.next, hd, List.find?_cons_of_pos (by simp)]
          refine ⟨.run d.thread, trivial, ⟨by rw [hnext]; rfl, fun _ => hwaiting⟩, ?_⟩
          have herase : ((d :: l).eraseP fun d' => d'.thread = d.thread) = l :=
            List.eraseP_cons_of_pos (by simp)
          simp only [MacHelperService.measure, MacHelperService.handle, hnext, herase, hcurrent, hq,
            hd, List.length_cons]
          omega
      | cons p queue =>
        have hended : s.ended = false := by
          by_contra h
          have h := (Bool.not_eq_false _).mp h
          have hb := hinv.backlog
          rw [(hinv.ended h).2, h, Bool.not_true, Bool.and_false, MacHelperService.backlog,
            hcurrent, hq] at hb
          exact absurd hb (List.cons_ne_nil _ _)
        refine ⟨.take, trivial, ⟨by rw [hcurrent]; rfl, by rw [hq]; rfl, hended⟩, ?_⟩
        simp only [MacHelperService.measure, MacHelperService.handle, hcurrent, hq,
          List.length_cons, Option.elim_some, Option.elim_none, Activity.isRunning, if_true]
        omega
    · have hallowed : s.Allowed (.finish {}) := by
        rw [MacHelperService.Allowed, hcurrent]
        rfl
      refine ⟨.finish {}, trivial, hallowed, ?_⟩
      cases p with
      | job j =>
        have hhandle : (s.handle (.finish {})).1 = s.finish j {} := by
          rw [MacHelperService.handle, hcurrent]
        rw [hhandle]
        exact s.measure_finish hcurrent {}
      | close =>
        simp only [MacHelperService.measure, MacHelperService.handle, MacHelperService.close,
          hcurrent, Option.elim_some, Option.elim_none, Activity.isRunning, if_true]
        omega
    · refine ⟨.answer, trivial, by rw [MacHelperService.Allowed, hcurrent]; rfl, ?_⟩
      simp only [MacHelperService.measure, MacHelperService.handle, MacHelperService.deliver,
        hcurrent, Option.elim_some, Option.elim_none, Activity.isRunning, List.length_append,
        List.length_singleton, Bool.false_eq_true, if_false]
      omega

/-- The run can go on until nothing is under way. -/
theorem WorkerInv.completes (hinv : WorkerInv hist s jobs) :
    ∃ l, (∀ e ∈ l, e.Works) ∧
      (∀ entry ∈ history MacHelperService.handle s l, entry.before.Allowed entry.event) ∧
      (final MacHelperService.handle s l).Idle := by
  induction hmeasure : s.measure using Nat.strong_induction_on generalizing hist s jobs with
  | h n ih =>
    by_cases hidle : s.Idle
    · exact ⟨[], fun _ h => absurd h List.not_mem_nil, fun _ h => absurd h List.not_mem_nil, hidle⟩
    · obtain ⟨e, hworks, hallowed, hless⟩ := hinv.progress hidle
      obtain ⟨jobs', hinv'⟩ := hinv.handle hallowed
      obtain ⟨l, hl, hentries, hidle'⟩ := ih _ (hmeasure ▸ hless) hinv' rfl
      refine ⟨e :: l, fun e' he' => ?_, fun entry hentry => ?_, hidle'⟩
      · rcases List.mem_cons.1 he' with rfl | he'
        · exact hworks
        · exact hl e' he'
      · rcases List.mem_cons.1 hentry with rfl | hentry
        · exact hallowed
        · exact hentries entry hentry

end Service

/-! ### Every run -/

namespace ServiceRun

variable (r : ServiceRun)

/-- A new service has nothing to do. -/
lemma start_worker : WorkerInv [] r.start [] where
  backlog := rfl
  ended := nofun
  pending := rfl
  executed := ⟨[], rfl, rfl⟩
  issued := nofun
  increasing := List.Pairwise.nil

/-- A new service has nothing to answer. -/
lemma start_answer (t : Thread) : AnswerInv [] r.start t where
  due := List.Perm.refl []
  issued := nofun
  increasing := List.Pairwise.nil

/-- The invariants hold at the end of every run. -/
lemma inv : (∃ jobs, WorkerInv r.entries r.last jobs) ∧ ∀ t, AnswerInv r.entries r.last t := by
  refine (history_rule MacHelperService.handle r.start r.events
    (I := fun hist s => (∃ jobs, WorkerInv hist s jobs) ∧ ∀ t, AnswerInv hist s t)
    (A := fun _ s e => s.Allowed e) (G := fun _ _ => True)
    ⟨⟨[], r.start_worker⟩, r.start_answer⟩ ?_ ?_).1
  · rintro hist s e ⟨⟨jobs, hworker⟩, hanswer⟩ hallowed
    exact ⟨trivial, hworker.handle hallowed, fun t => (hanswer t).handle hallowed⟩
  · intro l entry l' h
    have hmem : entry ∈ r.entries := by
      rw [entries, h]
      exact List.mem_append_right _ List.mem_cons_self
    exact r.allowed entry hmem

/-- The answers are in order when none is refused too early. -/
lemma Prompt.inOrder {r : ServiceRun} (hprompt : r.Prompt) (t : Thread) :
    called t r.entries ++ r.last.due t = wanted t r.entries := by
  refine (history_rule MacHelperService.handle r.start r.events
    (I := fun hist s => called t hist ++ s.due t = wanted t hist)
    (A := fun _ s e => s.Allowed e ∧ ¬ s.OutOfOrder e) (G := fun _ _ => True)
    rfl ?_ ?_).1
  · rintro hist s e horder ⟨hallowed, hprompt⟩
    exact ⟨trivial, inOrder_handle horder hallowed hprompt⟩
  · intro l entry l' h
    have hmem : entry ∈ r.entries := by
      rw [entries, h]
      exact List.mem_append_right _ List.mem_cons_self
    exact ⟨r.allowed entry hmem, hprompt entry hmem⟩

end ServiceRun

/-- **Every callback runs once, in the order of the requests**, and the worker does the accepted jobs
in order before it disconnects, in every run in which no request is refused while the worker has to
answer another on the same thread.

**Proof sketch.** The answers posted on a thread and those that the worker still has to give make up,
after the callbacks that ran there, the requests that want their answer there. A refusal is posted
behind the former and before the latter, so it keeps the order only if the latter are none. -/
theorem delivery_guarantees (r : ServiceRun) (hprompt : r.Prompt) : r.Guarantees := by
  obtain ⟨⟨jobs, hworker⟩, hanswer⟩ := r.inv
  have hincreasing (t : Thread) : (called t r.entries).Pairwise (· < ·) :=
    (List.pairwise_append.1 (hprompt.inOrder t ▸ (hanswer t).increasing)).1
  refine ⟨fun t => ⟨(hincreasing t).imp fun h => h.ne, fun n hn => ?_⟩, fun hidle t n hn => ?_,
    hworker.completes, hincreasing, ?_⟩
  · exact (hanswer t).due.subset (List.mem_append_left _ hn)
  · obtain ⟨hqueue, hcurrent, hdeliveries⟩ := hidle
    rw [Option.isNone_iff_eq_none] at hcurrent
    have hdue : r.last.due t = [] := by
      simp only [MacHelperService.due, MacHelperService.toCome, MacHelperService.answering,
        MacHelperService.backlog, hqueue, hcurrent, hdeliveries]
      rfl
    have hperm := (hanswer t).due
    rw [hdue, List.append_nil] at hperm
    exact hperm.symm.subset hn
  · obtain ⟨executed, hexecuted, hworked⟩ := hworker.executed
    refine ⟨executed, jobs.map Job.number, hexecuted, hworker.increasing, hworked, ?_,
      fun h => by rw [(hworker.ended h).2, List.map_nil]⟩
    rw [hworker.pending, List.length_map]

/-- Two requests and a shutdown. -/
def plainRun : ServiceRun where
  issuer := 0
  events := [.issue (.submit (some 0) (.tunStop 5000) true), .issue .disconnectFromHelper, .shutdown,
    .take, .finish { connected := true }, .answer, .take, .finish {}, .take, .finish {}, .waitEnds,
    .issue (.probe (some 0) 1000 true), .run 0, .run 0]
  allowed := by decide

/-- The service closes after the worker has stopped: a later probe is refused behind its answer. -/
theorem delivery_guarantees_plainRun :
    plainRun.Prompt ∧ called 0 plainRun.entries = [0, 2] ∧ plainRun.Guarantees := by
  have hprompt : plainRun.Prompt := by
    unfold ServiceRun.Prompt
    decide
  exact ⟨hprompt, by decide, delivery_guarantees plainRun hprompt⟩

/-- The wait ends while the worker is busy, and a request is refused. -/
def busyRun : ServiceRun where
  issuer := 0
  events := [.issue (.submit (some 0) (.sysproxyRestore 20000) true), .take, .shutdown, .waitEnds,
    .issue (.submit (some 0) (.status 2000) true), .run 0, .finish { reply := { ok := true } },
    .answer, .run 0]
  allowed := by decide

/-- **A refusal may overtake an answer**: the callback of the second request runs first. -/
theorem not_delivery_guarantees : ¬ ∀ r : ServiceRun, r.Guarantees := by
  intro h
  have hordered := (h busyRun).ordered 0
  have hcalled : called 0 busyRun.entries = [1, 0] := by decide
  rw [hcalled] at hordered
  exact absurd hordered (by decide)

end Proxor.Sys
