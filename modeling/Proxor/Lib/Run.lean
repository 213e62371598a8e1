import Mathlib.Data.List.Basic
import Mathlib.Data.List.Induction
import Mathlib.Tactic.Lemma

set_option relaxedAutoImplicit false
set_option autoImplicit false

/-!
# Runs

A run takes a list of actions one after the other. What every step of a run satisfies in the state it
is taken in is a property of the run.

## Main definitions

* `Proxor.Each` — every action of a run satisfies a property in the state it is taken in.

* `Proxor.history`, `Proxor.final` — what a machine with outputs did for some events, and its state.

## Main results

* `Proxor.Each.invariant` — what every such step keeps holds at the end.
* `Proxor.history_rule` — an invariant of the history and the state.
-/

namespace Proxor

universe u v

variable {σ : Type u} {α : Type v} {step : σ → α → σ}

/-- Every action satisfies a property in the state it is taken in. -/
def Each (step : σ → α → σ) (P : σ → α → Prop) : σ → List α → Prop
  | _, [] => True
  | s, a :: as => P s a ∧ Each step P (step s a) as

namespace Each

variable {P : σ → α → Prop} {s : σ} {as bs : List α}

instance decidable [∀ s a, Decidable (P s a)] :
    (s : σ) → (as : List α) → Decidable (Each step P s as)
  | _, [] => .isTrue trivial
  | s, a :: as =>
    let _ := decidable (step s a) as
    inferInstanceAs (Decidable (P s a ∧ Each step P (step s a) as))

/-- A run in two parts. -/
lemma append : Each step P s (as ++ bs) ↔ Each step P s as ∧ Each step P (as.foldl step s) bs := by
  induction as generalizing s with
  | nil => exact ⟨fun h => ⟨trivial, h⟩, fun h => h.2⟩
  | cons a as ih =>
    have hiff := @ih (step s a)
    constructor
    · rintro ⟨ha, h⟩
      exact ⟨⟨ha, (hiff.1 h).1⟩, (hiff.1 h).2⟩
    · rintro ⟨⟨ha, h⟩, h'⟩
      exact ⟨ha, hiff.2 ⟨h, h'⟩⟩

/-- **What every step keeps holds at the end of the run.**

**Proof sketch.** By induction on the actions. -/
theorem invariant {I : σ → Prop} (hstep : ∀ s a, I s → P s a → I (step s a)) (hs : I s)
    (h : Each step P s as) : I (as.foldl step s) := by
  induction as generalizing s with
  | nil => exact hs
  | cons a as ih =>
    obtain ⟨ha, h⟩ := h
    exact ih (hstep s a hs ha) h

/-- What every such step keeps, and what then holds of it, in every step of the run. -/
theorem imp_of_invariant {I : σ → Prop} {Q : σ → α → Prop}
    (hstep : ∀ s a, I s → P s a → I (step s a) ∧ Q s a) (hs : I s) (h : Each step P s as) :
    Each step Q s as := by
  induction as generalizing s with
  | nil => trivial
  | cons a as ih =>
    obtain ⟨ha, h⟩ := h
    obtain ⟨hs', hQ⟩ := hstep s a hs ha
    exact ⟨hQ, ih hs' h⟩

/-- A weaker property of the steps. -/
lemma imp {Q : σ → α → Prop} (hPQ : ∀ s a, P s a → Q s a) (h : Each step P s as) :
    Each step Q s as := by
  induction as generalizing s with
  | nil => trivial
  | cons a as ih =>
    obtain ⟨ha, h⟩ := h
    exact ⟨hPQ s a ha, ih h⟩

end Each

/-! ### Histories -/

section History

universe w

variable {ε : Type v} {ω : Type w}

/-- An event, the state it was handled in and what came of it. -/
structure Entry (σ : Type u) (ε : Type v) (ω : Type w) where
  before : σ
  event : ε
  out : ω

/-- The state after the events. -/
def final (handle : σ → ε → σ × ω) (s : σ) (events : List ε) : σ :=
  events.foldl (fun s e => (handle s e).1) s

/-- The entries of a run, in order. -/
def history (handle : σ → ε → σ × ω) : σ → List ε → List (Entry σ ε ω)
  | _, [] => []
  | s, e :: events => ⟨s, e, (handle s e).2⟩ :: history handle (handle s e).1 events

variable {handle : σ → ε → σ × ω} {s : σ}

lemma history_append (events events' : List ε) :
    history handle s (events ++ events') =
      history handle s events ++ history handle (final handle s events) events' := by
  induction events generalizing s with
  | nil => rfl
  | cons e events ih => exact congrArg _ ih

lemma final_append (events events' : List ε) :
    final handle s (events ++ events') = final handle (final handle s events) events' :=
  List.foldl_append

/-- What is done to the last event is done to the whole run. -/
lemma final_concat (events : List ε) (e : ε) :
    final handle s (events ++ [e]) = (handle (final handle s events) e).1 := final_append events [e]

lemma history_concat (events : List ε) (e : ε) :
    history handle s (events ++ [e]) = history handle s events ++
      [⟨final handle s events, e, (handle (final handle s events) e).2⟩] := history_append events [e]

/-- The events of a run are those it was given. -/
lemma map_event_history (handle : σ → ε → σ × ω) (s : σ) (events : List ε) :
    (history handle s events).map Entry.event = events := by
  induction events generalizing s with
  | nil => rfl
  | cons e events ih => exact congrArg _ (ih _)

lemma length_history (events : List ε) : (history handle s events).length = events.length := by
  rw [← List.length_map (f := Entry.event), map_event_history]

/-- What comes before and after an entry of a history. -/
lemma history_split {events : List ε} {l l' : List (Entry σ ε ω)} {entry : Entry σ ε ω}
    (h : history handle s events = l ++ entry :: l') :
    entry.before = final handle s (l.map Entry.event) ∧
      entry.out = (handle entry.before entry.event).2 ∧
      history handle (handle entry.before entry.event).1 (l'.map Entry.event) = l' := by
  have hevents : events = l.map Entry.event ++ entry.event :: l'.map Entry.event := by
    have hmap := congrArg (List.map Entry.event) h
    rwa [map_event_history, List.map_append, List.map_cons] at hmap
  rw [hevents, history_append, history] at h
  have hlength : (history handle s (l.map Entry.event)).length = l.length := by
    rw [length_history, List.length_map]
  obtain ⟨-, h⟩ := List.append_inj h hlength
  obtain ⟨hentry, htail⟩ := List.cons.inj h
  rw [← hentry]
  exact ⟨rfl, rfl, htail⟩

/-- What every entry keeps holds at the end. -/
lemma final_of_history {P : σ → Prop} {events : List ε} (hs : P s)
    (hkeep : ∀ entry ∈ history handle s events, P entry.before →
      P (handle entry.before entry.event).1) : P (final handle s events) := by
  induction events generalizing s with
  | nil => exact hs
  | cons e events ih =>
    exact ih (hkeep _ List.mem_cons_self hs) fun entry hentry =>
      hkeep entry (List.mem_cons_of_mem _ hentry)

/-- What holds after one entry and is kept by those up to another holds before that one. -/
lemma history_persist {P : σ → Prop} {events : List ε} {l m l' : List (Entry σ ε ω)}
    {entry entry' : Entry σ ε ω} (h : history handle s events = l ++ entry :: (m ++ entry' :: l'))
    (hafter : P (handle entry.before entry.event).1)
    (hkeep : ∀ e ∈ m, P e.before → P (handle e.before e.event).1) : P entry'.before := by
  obtain ⟨-, -, htail⟩ := history_split h
  obtain ⟨hbefore, -, -⟩ := history_split htail
  rw [hbefore]
  refine final_of_history hafter fun e he => hkeep e ?_
  rw [List.map_append, history_append] at htail
  have hlength : (history handle (handle entry.before entry.event).1
      (m.map Entry.event)).length = m.length := by rw [length_history, List.length_map]
  rwa [(List.append_inj htail hlength).1] at he

/-- The first element of a list with a property. -/
lemma exists_first {β : Type u} {P : β → Prop} {l : List β} (h : ∃ a ∈ l, P a) :
    ∃ l₁ a l₂, l = l₁ ++ a :: l₂ ∧ P a ∧ ∀ b ∈ l₁, ¬ P b := by
  induction l with
  | nil =>
    obtain ⟨a, ha, -⟩ := h
    exact absurd ha List.not_mem_nil
  | cons b l ih =>
    by_cases hb : P b
    · exact ⟨[], b, l, rfl, hb, fun _ h => absurd h List.not_mem_nil⟩
    · obtain ⟨a, ha, hPa⟩ := h
      have hne : a ≠ b := fun h => hb (h ▸ hPa)
      obtain ⟨l₁, c, l₂, rfl, hc, hl₁⟩ := ih ⟨a, (List.mem_cons.1 ha).resolve_left hne, hPa⟩
      refine ⟨b :: l₁, c, l₂, rfl, hc, fun d hd => ?_⟩
      rcases List.mem_cons.1 hd with rfl | hd
      · exact hb
      · exact hl₁ d hd

/-- **The rule for histories.** What holds of the history and the state at the start and is kept by
every event that is handled as assumed holds at the end, and so does what every such event adds.

**Proof sketch.** By induction on the events, from the last. -/
theorem history_rule (handle : σ → ε → σ × ω) (s : σ) (events : List ε)
    {I : List (Entry σ ε ω) → σ → Prop}
    {A : List (Entry σ ε ω) → σ → ε → Prop}
    {G : List (Entry σ ε ω) → Entry σ ε ω → Prop} (hinit : I [] s)
    (hstep : ∀ hist s e, I hist s → A hist s e →
      G hist ⟨s, e, (handle s e).2⟩ ∧ I (hist ++ [⟨s, e, (handle s e).2⟩]) (handle s e).1)
    (hassumed : ∀ l entry l', history handle s events = l ++ entry :: l' →
      A l entry.before entry.event) :
    I (history handle s events) (final handle s events) ∧
      ∀ l entry l', history handle s events = l ++ entry :: l' → G l entry := by
  induction events using List.reverseRecOn with
  | nil => exact ⟨hinit, fun l entry l' h => absurd h.symm (by simp [history])⟩
  | append_singleton events e ih =>
    rw [history_concat] at hassumed ⊢
    rw [final_concat]
    obtain ⟨hI, hgood⟩ := ih fun l entry l' h =>
      hassumed l entry (l' ++ [_]) (by rw [h, List.append_assoc, List.cons_append])
    obtain ⟨hlast, hI'⟩ := hstep _ _ _ hI (hassumed _ _ [] rfl)
    refine ⟨hI', fun l entry l' h => ?_⟩
    rcases List.eq_nil_or_concat l' with rfl | ⟨init, last, rfl⟩
    · obtain ⟨rfl, hentry⟩ := List.append_inj' h rfl
      rw [← (List.cons.inj hentry).1]
      exact hlast
    · rw [List.concat_eq_append, ← List.cons_append, ← List.append_assoc] at h
      exact hgood l entry init (List.append_inj' h rfl).1

end History

end Proxor
