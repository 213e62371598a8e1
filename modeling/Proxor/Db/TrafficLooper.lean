import Mathlib.Algebra.Order.Group.Int
import Proxor.Db.ProfileManager
import Proxor.Lib.Run

set_option relaxedAutoImplicit false
set_option autoImplicit false

/-!
# Counting traffic

While a profile runs, the looper asks the core from time to time how much went through an outbound since it was asked
last, and adds it to the profiles of that outbound. An outbound is asked for once in a round, and its answer is shared.

## Main definitions

* `Proxor.Db.TrafficLooper` — the traffic objects, the ones in use, and what the core has counted since it was asked.
* `Proxor.Db.TrafficLooper.updateStats`, `Proxor.Db.TrafficLooper.updateAll` — one outbound, and a round.
* `Proxor.Db.TrafficLooper.Event` — bytes go through an outbound, a round, a config that is built.
* `Proxor.Db.TrafficLooper.Timely` — a round comes after the last one and loses no answer, and a config keeps the
  tags in use.

## Main results

* `Proxor.Db.TrafficLooper.attributed` — along a run every byte reaches every profile of its outbound once, and no other.

## Design

The clock and what becomes of a request are given for each call. The counters are in a library that the core uses: what
one of them does when it is asked is a parameter, `query`, of which the results assume that what it answers it no
longer counts. Sums do not overflow.
-/

namespace Proxor.Db

/-! ### The looper -/

/-- Where bytes go. -/
inductive Direction
  | uplink
  | downlink
deriving DecidableEq

/-- The traffic object of a profile: the tag of its outbound, the bytes, the rates, and when it was updated last. -/
structure TrafficItem where
  tag : String
  downlink : ℤ := 0
  uplink : ℤ := 0
  downlink_rate : ℤ := 0
  uplink_rate : ℤ := 0
  last_update : ℤ
deriving DecidableEq

/-- The bytes in a direction. -/
def TrafficItem.bytes (item : TrafficItem) : Direction → ℤ
  | .uplink => item.uplink
  | .downlink => item.downlink

/-- The state: the objects of the profiles, those of the running config, the one for direct traffic, and what the core
has counted for a tag since it was asked last. -/
structure TrafficLooper where
  objects : Ref → TrafficItem
  items : List Ref
  bypass : TrafficItem
  counted : String → Direction → ℤ

/-- What becomes of a request: it is answered, it does not reach the core, or its answer does not come back. -/
inductive Call
  | answered
  | unreached
  | lost
deriving DecidableEq

/-- What a round finds: whether there is a client, and for each call of `update_stats` the clock and what becomes of its
two requests. -/
structure Round where
  connected : Bool := true
  elapsed : ℕ → ℤ
  call : ℕ → Direction → Call := fun _ _ => .answered

namespace TrafficLooper

section Model

variable (query : ℤ → ℤ × ℤ)

/-- The counters after the core was asked for one of them. -/
def asked (tag : String) (d : Direction) (counted : String → Direction → ℤ) : String → Direction → ℤ :=
  fun tag' d' => if tag' = tag ∧ d' = d then (query (counted tag d)).2 else counted tag' d'

/-- `QueryStats`: what the core answers, and zero without an answer. -/
def queryStats (call : Call) (tag : String) (d : Direction) (counted : String → Direction → ℤ) :
    ℤ × (String → Direction → ℤ) :=
  match call with
  | .answered => ((query (counted tag d)).1, asked query tag d counted)
  | .unreached => (0, counted)
  | .lost => (0, asked query tag d counted)

/-- `update_stats`, in call number `k` of a round: the diff, if there is one, the object and the counts. -/
def updateStats (round : Round) (k : ℕ) (item : TrafficItem) (counted : String → Direction → ℤ) :
    Option TrafficItem × TrafficItem × (String → Direction → ℤ) :=
  if round.connected = false then (none, item, counted)
  else
    let now := round.elapsed k
    let interval := now - item.last_update
    let item := { item with last_update := now }
    if interval ≤ 0 then (none, item, counted)
    else
      let up := queryStats query (round.call k .uplink) item.tag .uplink counted
      let down := queryStats query (round.call k .downlink) item.tag .downlink up.2
      let uplink := up.1
      let downlink := down.1
      let item := { item with
        downlink := item.downlink + downlink
        uplink := item.uplink + uplink
        downlink_rate := (downlink * 1000).tdiv interval
        uplink_rate := (uplink * 1000).tdiv interval }
      (some { tag := item.tag, downlink := downlink, uplink := uplink, downlink_rate := item.downlink_rate,
              uplink_rate := item.uplink_rate, last_update := 0 }, item, down.2)

/-- What a round has done so far: the diffs by tag, the objects and the counts. -/
structure Pass where
  updated : String → Option TrafficItem
  objects : Ref → TrafficItem
  counted : String → Direction → ℤ

/-- An item of a round: a tag that has a diff is not asked for again. -/
def updateItem (round : Round) (p : Pass) (item : Ref × ℕ) : Pass :=
  let data := p.objects item.1
  match p.updated data.tag with
  | none =>
    let r := updateStats query round item.2 data p.counted
    { updated := Function.update p.updated data.tag r.1
      objects := Function.update p.objects item.1 r.2.1
      counted := r.2.2 }
  | some diff =>
    { p with objects := Function.update p.objects item.1 { data with
        uplink := data.uplink + diff.uplink
        downlink := data.downlink + diff.downlink
        uplink_rate := diff.uplink_rate
        downlink_rate := diff.downlink_rate } }

/-- `UpdateAll`: the items, and then direct traffic. -/
def updateAll (s : TrafficLooper) (round : Round) : TrafficLooper :=
  let p := s.items.zipIdx.foldl (updateItem query round) ⟨fun _ => none, s.objects, s.counted⟩
  let r := updateStats query round s.items.length s.bypass p.counted
  { s with objects := p.objects, bypass := r.2.1, counted := r.2.2 }

/-- What happens while a config runs: bytes go through an outbound, the looper makes a round, or a config is built,
for a test or another start, which writes the tags of its profiles. -/
inductive Event
  | count (tag : String) (d : Direction) (n : ℕ)
  | updateAll (round : Round)
  | build (tags : List (Ref × String))

/-- The state after an event. -/
def step (s : TrafficLooper) : Event → TrafficLooper
  | .count tag d n =>
    { s with counted := fun tag' d' => s.counted tag' d' + if tag' = tag ∧ d' = d then (n : ℤ) else 0 }
  | .updateAll round => s.updateAll query round
  | .build tags =>
    { s with objects := tags.foldl (fun objects p => Function.update objects p.1 { objects p.1 with tag := p.2 }) s.objects }

end Model

/-- A round is made after the objects were updated last, and no answer is lost on its way back; and a config that is
built gives no other tag to a profile of the one that runs. -/
def Timely (s : TrafficLooper) : Event → Prop
  | .count .. => True
  | .updateAll round =>
    (∀ r ∈ s.items, ∀ k, (s.objects r).last_update < round.elapsed k) ∧ ∀ k d, round.call k d ≠ .lost
  | .build tags => ∀ p ∈ tags, p.1 ∈ s.items → p.2 = (s.objects p.1).tag

/-- The bytes of a tag in some events. -/
def countedIn (tag : String) (d : Direction) : List Event → ℤ
  | [] => 0
  | .count tag' d' n :: events => (if tag = tag' ∧ d = d' then (n : ℤ) else 0) + countedIn tag d events
  | _ :: events => countedIn tag d events

/-! ### One outbound -/

variable {query : ℤ → ℤ × ℤ} {s s' : TrafficLooper} {round : Round} {k : ℕ} {item : TrafficItem}
  {counted : String → Direction → ℤ}

/-- What is asked for and what stays are what was counted. -/
lemma queryStats_sum (hquery : ∀ n, (query n).1 + (query n).2 = n) {call : Call} (hcall : call ≠ .lost)
    (tag tag' : String) (d d' : Direction) (counted : String → Direction → ℤ) :
    (if tag' = tag ∧ d' = d then (queryStats query call tag d counted).1 else 0) +
      (queryStats query call tag d counted).2 tag' d' = counted tag' d' := by
  cases call with
  | answered =>
    show (if tag' = tag ∧ d' = d then (query (counted tag d)).1 else 0) +
      (if tag' = tag ∧ d' = d then (query (counted tag d)).2 else counted tag' d') = _
    by_cases h : tag' = tag ∧ d' = d
    · obtain ⟨rfl, rfl⟩ := h
      rw [if_pos ⟨rfl, rfl⟩, if_pos ⟨rfl, rfl⟩]
      exact hquery _
    · rw [if_neg h, if_neg h, Int.zero_add]
  | unreached =>
    rw [queryStats, ite_self, Int.zero_add]
  | lost => exact absurd rfl hcall

/-- Whatever becomes of `update_stats`, what it adds and what stays are what was counted, and it keeps the tag. -/
lemma updateStats_sum (hquery : ∀ n, (query n).1 + (query n).2 = n) (hkept : ∀ d, round.call k d ≠ .lost)
    (item : TrafficItem) (counted : String → Direction → ℤ) :
    (updateStats query round k item counted).2.1.tag = item.tag ∧
      (∀ d, (updateStats query round k item counted).2.1.bytes d + (updateStats query round k item counted).2.2 item.tag d =
        item.bytes d + counted item.tag d) ∧
      ∀ tag, tag ≠ item.tag → (updateStats query round k item counted).2.2 tag = counted tag := by
  rw [updateStats]
  split
  · exact ⟨rfl, fun _ => rfl, fun _ _ => rfl⟩
  · dsimp only
    split
    · exact ⟨rfl, fun d => by cases d <;> rfl, fun _ _ => rfl⟩
    · have hup := queryStats_sum hquery (hkept .uplink) item.tag
      have hdown := queryStats_sum hquery (hkept .downlink) item.tag
      refine ⟨rfl, fun d => ?_, fun tag hne => ?_⟩
      · have hup := hup item.tag .uplink d counted
        have hdown := hdown item.tag .downlink d
          (queryStats query (round.call k .uplink) item.tag .uplink counted).2
        cases d <;> simp [TrafficItem.bytes] at hup hdown ⊢ <;> omega
      · funext d
        have hup := hup tag .uplink d counted
        have hdown := hdown tag .downlink d
          (queryStats query (round.call k .uplink) item.tag .uplink counted).2
        simp [hne] at hup hdown ⊢
        omega

/-- A later `update_stats` with a client has a diff, which is what it adds. -/
lemma updateStats_diff (query : ℤ → ℤ × ℤ) (counted : String → Direction → ℤ) (hconnected : round.connected = true)
    (hlater : item.last_update < round.elapsed k) :
    ∃ diff, (updateStats query round k item counted).1 = some diff ∧
      ∀ d, (updateStats query round k item counted).2.1.bytes d = item.bytes d + diff.bytes d := by
  rw [updateStats, if_neg (by simp [hconnected])]
  dsimp only
  rw [if_neg (by omega)]
  refine ⟨_, rfl, fun d => ?_⟩
  cases d <;> rfl

/-! ### A round -/

/-- What a round has done, after some of the items: those have what their outbound was asked for, which is no longer
counted, and the others are as they were. -/
structure PassSum (s : TrafficLooper) (done : List Ref) (p : Pass) : Prop where
  rest : ∀ r, r ∉ done → p.objects r = s.objects r
  tag : ∀ r, (p.objects r).tag = (s.objects r).tag
  asked : ∀ r ∈ done, ∃ diff, p.updated (s.objects r).tag = some diff ∧
    ∀ d, (p.objects r).bytes d = (s.objects r).bytes d + diff.bytes d
  counted : ∀ tag d, (((p.updated tag).map fun diff => diff.bytes d).getD 0) + p.counted tag d = s.counted tag d
  fresh : ∀ tag, (∀ r ∈ done, (s.objects r).tag ≠ tag) → p.updated tag = none

/-- Another item. -/
lemma PassSum.extend (hquery : ∀ n, (query n).1 + (query n).2 = n) {done : List Ref} {p : Pass} {r : Ref}
    (h : PassSum s done p) (hconnected : round.connected = true) (hkept : ∀ d, round.call k d ≠ .lost)
    (hlater : (s.objects r).last_update < round.elapsed k) (hr : r ∉ done) :
    PassSum s (done ++ [r]) (updateItem query round p (r, k)) := by
  have hsame : p.objects r = s.objects r := h.rest r hr
  rw [updateItem]
  dsimp only
  rw [hsame]
  -- the new item gets a diff, of its own or of an item before it
  have hnew : ∀ (updated : String → Option TrafficItem) (data diff : TrafficItem),
      updated (s.objects r).tag = some diff → (∀ tag, tag ≠ (s.objects r).tag → updated tag = p.updated tag) →
      (p.updated (s.objects r).tag = none ∨ p.updated (s.objects r).tag = some diff) →
      (∀ d, data.bytes d = (s.objects r).bytes d + diff.bytes d) →
      ∀ r' ∈ done ++ [r], ∃ diff, updated (s.objects r').tag = some diff ∧
        ∀ d, (Function.update p.objects r data r').bytes d = (s.objects r').bytes d + diff.bytes d := by
    intro updated data diff hdiff hothers hbefore hbytes r' hr'
    rcases List.mem_append.1 hr' with hr' | hr'
    · obtain ⟨diff', hdiff', hbytes'⟩ := h.asked r' hr'
      refine ⟨diff', ?_, fun d => ?_⟩
      · by_cases htag : (s.objects r').tag = (s.objects r).tag
        · rw [htag] at hdiff' ⊢
          rcases hbefore with hnone | hsome
          · exact absurd (hnone.symm.trans hdiff') (by simp)
          · rw [hdiff, ← hsome]
            exact hdiff'
        · rw [hothers _ htag]
          exact hdiff'
      · rw [Function.update_of_ne fun heq => hr (by rw [← heq]; exact hr')]
        exact hbytes' d
    · rw [List.mem_singleton.1 hr']
      refine ⟨diff, hdiff, fun d => ?_⟩
      rw [Function.update_self]
      exact hbytes d
  have hrest : ∀ data : TrafficItem, ∀ r', r' ∉ done ++ [r] → Function.update p.objects r data r' = s.objects r' := by
    intro data r' hr'
    rw [List.mem_append, List.mem_singleton, not_or] at hr'
    rw [Function.update_of_ne hr'.2]
    exact h.rest r' hr'.1
  have htags : ∀ data : TrafficItem, data.tag = (s.objects r).tag →
      ∀ r', (Function.update p.objects r data r').tag = (s.objects r').tag := by
    intro data hdata r'
    by_cases heq : r' = r
    · rw [heq, Function.update_self]
      exact hdata
    · rw [Function.update_of_ne heq]
      exact h.tag r'
  cases hupdated : p.updated (s.objects r).tag with
  | none =>
    obtain ⟨htag, hsum, hothers⟩ := updateStats_sum hquery hkept (s.objects r) p.counted
    obtain ⟨diff, hdiff, hbytes⟩ := updateStats_diff query p.counted hconnected hlater
    dsimp only
    refine ⟨hrest _, htags _ htag, ?_, fun tag d => ?_, fun tag hfresh => ?_⟩
    · dsimp only
      refine hnew _ _ diff ?_ (fun tag hne => Function.update_of_ne hne _ _) (Or.inl hupdated) hbytes
      rw [Function.update_self]
      exact hdiff
    · dsimp only
      have hcounted := h.counted tag d
      by_cases heq : tag = (s.objects r).tag
      · subst heq
        have hsum := hsum d
        have hbytes := hbytes d
        rw [hupdated] at hcounted
        rw [Function.update_self, hdiff]
        simp at hcounted ⊢
        omega
      · rw [Function.update_of_ne heq, hothers tag heq]
        exact hcounted
    · dsimp only
      have hne : tag ≠ (s.objects r).tag := fun heq => hfresh r (by simp) heq.symm
      rw [Function.update_of_ne hne]
      exact h.fresh tag fun r' hr' => hfresh r' (List.mem_append_left _ hr')
  | some diff =>
    refine ⟨hrest _, htags _ rfl, ?_, h.counted, fun tag hfresh => ?_⟩
    · exact hnew _ _ diff hupdated (fun _ _ => rfl) (Or.inr hupdated) fun d => by cases d <;> rfl
    · exact h.fresh tag fun r' hr' => hfresh r' (List.mem_append_left _ hr')

/-- All the items. -/
lemma passSum_foldl (hquery : ∀ n, (query n).1 + (query n).2 = n) (hconnected : round.connected = true)
    (hkept : ∀ k d, round.call k d ≠ .lost) :
    ∀ (items done : List Ref) (k : ℕ) (p : Pass), PassSum s done p → (done ++ items).Nodup →
      (∀ r ∈ items, ∀ k, (s.objects r).last_update < round.elapsed k) →
      PassSum s (done ++ items) ((items.zipIdx k).foldl (updateItem query round) p) := by
  intro items
  induction items with
  | nil =>
    intro done k p h _ _
    rw [List.append_nil]
    exact h
  | cons r items ih =>
    intro done k p h hnodup hlater
    have hr : r ∉ done := fun hmem => (List.nodup_append.1 hnodup).2.2 r hmem r List.mem_cons_self rfl
    have hshift : done ++ r :: items = (done ++ [r]) ++ items := by simp
    rw [hshift] at hnodup ⊢
    rw [List.zipIdx_cons, List.foldl_cons]
    exact ih _ _ _ (h.extend hquery hconnected (hkept k) (hlater r List.mem_cons_self k) hr) hnodup
      fun r' hr' => hlater r' (List.mem_cons_of_mem _ hr')

/-- A round without a client changes nothing. -/
lemma foldl_updateItem_of_not (hconnected : round.connected = false) (items : List Ref) (k : ℕ) :
    (items.zipIdx k).foldl (updateItem query round) ⟨fun _ => none, s.objects, s.counted⟩ =
      ⟨fun _ => none, s.objects, s.counted⟩ := by
  induction items generalizing k with
  | nil => rfl
  | cons r items ih =>
    rw [List.zipIdx_cons, List.foldl_cons]
    have hitem : updateItem query round ⟨fun _ => none, s.objects, s.counted⟩ (r, k) =
        ⟨fun _ => none, s.objects, s.counted⟩ := by
      simp only [updateItem, updateStats, hconnected, if_true, Function.update_eq_self]
    rw [hitem]
    exact ih (k + 1)

/-- What a profile has got, and what it will still get of what was counted. -/
def total (s : TrafficLooper) (r : Ref) (d : Direction) : ℤ := (s.objects r).bytes d + s.counted (s.objects r).tag d

/-- The same of direct traffic. -/
def bypassTotal (s : TrafficLooper) (d : Direction) : ℤ := s.bypass.bytes d + s.counted s.bypass.tag d

/-- The items of a run: none is there twice, and none has the tag of direct traffic. -/
structure Proper (s : TrafficLooper) : Prop where
  nodup : s.items.Nodup
  bypass : ∀ r ∈ s.items, (s.objects r).tag ≠ s.bypass.tag

/-- What an event adds to the bytes of a tag. -/
def Event.adds (e : Event) (tag : String) (d : Direction) : ℤ :=
  match e with
  | .count tag' d' n => if tag = tag' ∧ d = d' then (n : ℤ) else 0
  | _ => 0

/-- What a step keeps: the items, their tags, and of each item the sum of what it has and will get. -/
structure Attributes (s s' : TrafficLooper) (added : String → Direction → ℤ) : Prop where
  items : s'.items = s.items
  bypassTag : s'.bypass.tag = s.bypass.tag
  tag : ∀ r ∈ s.items, (s'.objects r).tag = (s.objects r).tag
  total : ∀ r ∈ s.items, ∀ d, s'.total r d = s.total r d + added (s.objects r).tag d
  bypassTotal : ∀ d, s'.bypassTotal d = s.bypassTotal d + added s.bypass.tag d
  others : ∀ r, r ∉ s.items → ∀ d, (s'.objects r).bytes d = (s.objects r).bytes d

/-- **A round** moves what was counted to the items of its tag, to each of them once. -/
lemma attributes_updateAll (hquery : ∀ n, (query n).1 + (query n).2 = n) (hs : s.Proper)
    (hlater : ∀ r ∈ s.items, ∀ k, (s.objects r).last_update < round.elapsed k)
    (hkept : ∀ k d, round.call k d ≠ .lost) :
    Attributes s (s.updateAll query round) fun _ _ => 0 := by
  obtain ⟨p, hp⟩ : ∃ p, p = s.items.zipIdx.foldl (updateItem query round) ⟨fun _ => none, s.objects, s.counted⟩ := ⟨_, rfl⟩
  -- what the items have got by the end of the round, and what is still counted
  have hpass : (∀ r, (p.objects r).tag = (s.objects r).tag) ∧ (∀ r, r ∉ s.items → p.objects r = s.objects r) ∧
      (∀ r ∈ s.items, ∀ d, (p.objects r).bytes d + p.counted (s.objects r).tag d = s.total r d) ∧
      ∀ d, p.counted s.bypass.tag d = s.counted s.bypass.tag d := by
    cases hconnected : round.connected with
    | false =>
      rw [hp, foldl_updateItem_of_not hconnected]
      exact ⟨fun _ => rfl, fun _ _ => rfl, fun _ _ _ => rfl, fun _ => rfl⟩
    | true =>
      have hsum : PassSum s ([] ++ s.items) p := by
        rw [hp]
        refine passSum_foldl hquery hconnected hkept s.items [] 0 _ ?_ hs.nodup hlater
        exact ⟨fun _ _ => rfl, fun _ => rfl, fun r hr => absurd hr List.not_mem_nil, fun tag d => by simp,
          fun _ _ => rfl⟩
      rw [List.nil_append] at hsum
      refine ⟨hsum.tag, hsum.rest, fun r hr d => ?_, fun d => ?_⟩
      · obtain ⟨diff, hdiff, hbytes⟩ := hsum.asked r hr
        have hcounted := hsum.counted (s.objects r).tag d
        rw [hdiff, Option.map_some, Option.getD_some] at hcounted
        rw [hbytes d, total, ← hcounted]
        omega
      · have hcounted := hsum.counted s.bypass.tag d
        rw [hsum.fresh s.bypass.tag hs.bypass, Option.map_none, Option.getD_none] at hcounted
        omega
  obtain ⟨htag, hrest, hitems, hbypass⟩ := hpass
  obtain ⟨hbypassTag, hbypassSum, hothers⟩ := updateStats_sum hquery (hkept s.items.length) s.bypass p.counted
  have hround : s.updateAll query round = { s with
      objects := p.objects
      bypass := (updateStats query round s.items.length s.bypass p.counted).2.1
      counted := (updateStats query round s.items.length s.bypass p.counted).2.2 } := by
    rw [updateAll, hp]
  rw [hround]
  refine ⟨rfl, hbypassTag, fun r _ => htag r, fun r hr d => ?_, fun d => ?_, fun r hr d => ?_⟩
  · show (p.objects r).bytes d + (updateStats query round s.items.length s.bypass p.counted).2.2 (p.objects r).tag d = _
    rw [htag r, hothers _ (hs.bypass r hr), hitems r hr d, Int.add_zero]
  · show (updateStats query round s.items.length s.bypass p.counted).2.1.bytes d +
      (updateStats query round s.items.length s.bypass p.counted).2.2
        (updateStats query round s.items.length s.bypass p.counted).2.1.tag d = _
    rw [hbypassTag, hbypassSum d, hbypass d, Int.add_zero]
    rfl
  · show (p.objects r).bytes d = _
    rw [hrest r hr]

/-- Bytes that go through an outbound are counted. -/
lemma attributes_count (tag : String) (d : Direction) (n : ℕ) :
    Attributes s (s.step query (.count tag d n)) fun tag' d' => Event.adds (.count tag d n) tag' d' := by
  refine ⟨rfl, rfl, fun _ _ => rfl, fun r _ d' => ?_, fun d' => ?_, fun _ _ _ => rfl⟩
  · show (s.objects r).bytes d' + (s.counted (s.objects r).tag d' + _) = _
    rw [← Int.add_assoc]
    rfl
  · show s.bypass.bytes d' + (s.counted s.bypass.tag d' + _) = _
    rw [← Int.add_assoc]
    rfl

/-- The tags that a config writes. -/
lemma foldl_build (tags : List (Ref × String)) (objects : Ref → TrafficItem) (r : Ref) :
    (∀ d, (tags.foldl (fun objects p => Function.update objects p.1 { objects p.1 with tag := p.2 }) objects r).bytes d =
      (objects r).bytes d) ∧
    ((∀ p ∈ tags, p.1 = r → p.2 = (objects r).tag) →
      (tags.foldl (fun objects p => Function.update objects p.1 { objects p.1 with tag := p.2 }) objects r).tag =
        (objects r).tag) := by
  induction tags generalizing objects with
  | nil => exact ⟨fun _ => rfl, fun _ => rfl⟩
  | cons p tags ih =>
    obtain ⟨hbytes, htag⟩ := ih (Function.update objects p.1 { objects p.1 with tag := p.2 })
    rw [List.foldl_cons]
    have hsame : ∀ d, (Function.update objects p.1 { objects p.1 with tag := p.2 } r).bytes d = (objects r).bytes d := by
      intro d
      by_cases heq : r = p.1
      · rw [heq, Function.update_self]
        cases d <;> rfl
      · rw [Function.update_of_ne heq]
    refine ⟨fun d => (hbytes d).trans (hsame d), fun hkeep => ?_⟩
    have hnow : (Function.update objects p.1 { objects p.1 with tag := p.2 } r).tag = (objects r).tag := by
      by_cases heq : r = p.1
      · rw [heq, Function.update_self]
        dsimp only
        rw [← heq]
        exact hkeep p List.mem_cons_self heq.symm
      · rw [Function.update_of_ne heq]
    rw [htag fun q hq hqr => by rw [hnow]; exact hkeep q (List.mem_cons_of_mem _ hq) hqr, hnow]

/-- A config that gives no other tag to what runs keeps everything. -/
lemma attributes_build {tags : List (Ref × String)} (hkeep : ∀ p ∈ tags, p.1 ∈ s.items → p.2 = (s.objects p.1).tag) :
    Attributes s (s.step query (.build tags)) fun _ _ => 0 := by
  have htag : ∀ r ∈ s.items, ((s.step query (.build tags)).objects r).tag = (s.objects r).tag := by
    intro r hr
    refine (foldl_build tags s.objects r).2 fun p hp hpr => ?_
    rw [hkeep p hp (by rw [hpr]; exact hr), hpr]
  refine ⟨rfl, rfl, htag, fun r hr d => ?_, fun d => (Int.add_zero _).symm, fun r _ d => (foldl_build tags s.objects r).1 d⟩
  have hbytes : ((s.step query (.build tags)).objects r).bytes d = (s.objects r).bytes d :=
    (foldl_build tags s.objects r).1 d
  rw [total, htag r hr, hbytes, Int.add_zero]
  rfl

/-- **Every timely step** keeps what the items have and will get, with the bytes that it counts. -/
lemma attributes_step (hquery : ∀ n, (query n).1 + (query n).2 = n) {e : Event} (hs : s.Proper) (he : s.Timely e) :
    Attributes s (s.step query e) e.adds := by
  cases e with
  | count tag d n => exact attributes_count tag d n
  | updateAll round => exact attributes_updateAll hquery hs he.1 he.2
  | build tags => exact attributes_build he

/-- What is proper stays so. -/
lemma Attributes.proper {added : String → Direction → ℤ} (h : Attributes s s' added) (hs : s.Proper) : s'.Proper := by
  refine ⟨h.items ▸ hs.nodup, fun r hr => ?_⟩
  rw [h.items] at hr
  rw [h.tag r hr, h.bypassTag]
  exact hs.bypass r hr

/-- A counter that starts from zero when it is read. -/
def swap (n : ℤ) : ℤ × ℤ := (n, 0)

/-- Two profiles that go out together. -/
def shared : TrafficLooper where
  objects := fun r => if r ≤ 2 then { tag := "proxy", last_update := 0 } else { tag := "", last_update := 0 }
  items := [1, 2]
  bypass := { tag := "bypass", last_update := 0 }
  counted := fun _ _ => 0

/-- Bytes before and after a round, and a test of another profile. -/
def browsed : List Event :=
  [.count "proxy" .uplink 5, .updateAll { elapsed := fun _ => 1000 }, .count "proxy" .uplink 7, .build [(3, "proxy-3")],
   .updateAll { elapsed := fun _ => 2000 }, .count "bypass" .downlink 2]

end TrafficLooper

end Proxor.Db
