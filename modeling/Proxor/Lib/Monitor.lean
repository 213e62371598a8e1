import Mathlib.Logic.Relation
import Proxor.Lib.Prog

set_option relaxedAutoImplicit false
set_option autoImplicit false

/-!
# Monitors: programs under a mutex, with interference

A *monitor* runs one critical section at a time, operation by operation, while an environment that
does not take the mutex interferes between any two operations. Operations are nondeterministic: a
relation says what one may return and leave. What holds between sections is proved section by
section, with an *outline*: an assertion before every operation, none of which interference can
break.

## Main definitions

* `Resumption.Monitor` — sections, operations and interference.
* `Resumption.Monitor.Step`, `Resumption.Monitor.Reaches` — the small-step semantics.
* `Resumption.Monitor.Runs` — what a program may do when nothing interferes.
* `Resumption.Monitor.Stable` — an assertion no interference breaks.
* `Resumption.Monitor.Outline` — a proof outline of a program.

## Main results

* `Resumption.Monitor.invariant` — what every operation and all interference preserves.
* `Resumption.Monitor.outlined` — what every section re-establishes holds between sections, and
  operations are done only where they are allowed.
* `Resumption.Monitor.monotone` — a relation every operation and all interference extends.
* `Resumption.Monitor.after_first` — where what is left of a section comes from.
-/

namespace Resumption

/-- Critical sections under one mutex: the program of each request, what an operation may return and
leave, what interference may do, and when a request may begin. -/
structure Monitor (Op : Type) (Res : Op → Type) (Req σ α : Type) where
  body : Req → Prog Op Res α
  exec : (o : Op) → σ → Res o → σ → Prop
  env : σ → σ → Prop
  enter : Req → σ → Prop

namespace Monitor

variable {Op : Type} {Res : Op → Type} {Req σ α β : Type} (M : Monitor Op Res Req σ α)

/-- The state, and the request that holds the mutex with what is left of its program. -/
structure Config (Op : Type) (Res : Op → Type) (Req σ α : Type) where
  state : σ
  holder : Option (Req × Prog Op Res α)

/-- What happens in one step. -/
inductive Label (Op : Type) (Req : Type)
  | enter (req : Req)
  | op (req : Req) (o : Op)
  | leave (req : Req)
  | env

/-- One step: a request takes the free mutex, its holder does one operation or releases it, or the
environment interferes. -/
inductive Step : Config Op Res Req σ α → Label Op Req → Config Op Res Req σ α → Prop
  | enter {s : σ} {req : Req} (h : M.enter req s) :
    Step ⟨s, none⟩ (.enter req) ⟨s, some (req, M.body req)⟩
  | op {s s' : σ} {req : Req} {o : Op} {k : Res o → Prog Op Res α} {r : Res o}
    (h : M.exec o s r s') : Step ⟨s, some (req, .op o k)⟩ (.op req o) ⟨s', some (req, k r)⟩
  | leave {s : σ} {req : Req} {a : α} : Step ⟨s, some (req, .ret a)⟩ (.leave req) ⟨s, none⟩
  | env {s s' : σ} {h : Option (Req × Prog Op Res α)} (he : M.env s s') :
    Step ⟨s, h⟩ .env ⟨s', h⟩

/-- Some steps, one after another. -/
def Reaches : Config Op Res Req σ α → Config Op Res Req σ α → Prop :=
  Relation.ReflTransGen fun c c' => ∃ a, M.Step c a c'

variable {M}

/-- **The invariant rule**: what every operation and all interference preserves. -/
theorem invariant {I : σ → Prop} (hop : ∀ o s r s', M.exec o s r s' → I s → I s')
    (henv : ∀ s s', M.env s s' → I s → I s') {c c' : Config Op Res Req σ α}
    (h : M.Reaches c c') (hc : I c.state) : I c'.state := by
  induction h with
  | refl => exact hc
  | tail _ hs ih =>
    obtain ⟨a, hs⟩ := hs
    cases hs with
    | enter h => exact ih
    | op h => exact hop _ _ _ _ h ih
    | leave => exact ih
    | env he => exact henv _ _ he ih

/-- A reflexive and transitive relation that every operation and all interference extends. -/
theorem monotone {R : σ → σ → Prop} (hrefl : ∀ s, R s s)
    (htrans : ∀ s t u, R s t → R t u → R s u) (hop : ∀ o s r s', M.exec o s r s' → R s s')
    (henv : ∀ s s', M.env s s' → R s s') {c c' : Config Op Res Req σ α} (h : M.Reaches c c') :
    R c.state c'.state :=
  @invariant Op Res Req σ α M (fun s => R c.state s)
    (fun _ _ _ _ ho hs => htrans _ _ _ hs (hop _ _ _ _ ho))
    (fun _ _ he hs => htrans _ _ _ hs (henv _ _ he)) c c' h (hrefl _)

/-! ### Runs without interference -/

variable (M) in
/-- The program may return `b` in state `s'` when nothing interferes. -/
def Runs : Prog Op Res β → σ → β → σ → Prop
  | .ret a, s, b, s' => b = a ∧ s' = s
  | .op o k, s, b, s' => ∃ r t, M.exec o s r t ∧ Runs (k r) t b s'

lemma runs_ret {b : β} {s : σ} : M.Runs (.ret b) s b s := ⟨rfl, rfl⟩

/-- One operation, and then the rest. -/
lemma runs_op {o : Op} {k : Res o → Prog Op Res β} {s t s' : σ} {b : β} (r : Res o)
    (ho : M.exec o s r t) (hk : M.Runs (k r) t b s') : M.Runs (.op o k) s b s' := ⟨r, t, ho, hk⟩

/-- One program after another. -/
lemma Runs.bind {γ : Type} {p : Prog Op Res γ} {f : γ → Prog Op Res β} {s t s' : σ} {a : γ} {b : β}
    (hp : M.Runs p s a t) (hf : M.Runs (f a) t b s') : M.Runs (p.bind f) s b s' := by
  induction p generalizing s with
  | ret c =>
    obtain ⟨rfl, rfl⟩ := hp
    exact hf
  | op o k ih =>
    obtain ⟨r, u, ho, hk⟩ := hp
    exact ⟨r, u, ho, ih r hk⟩

/-- What the holder of the mutex may do. -/
lemma reaches_of_runs {req : Req} {p : Prog Op Res α} {s s' : σ} {a : α} (hp : M.Runs p s a s') :
    M.Reaches ⟨s, some (req, p)⟩ ⟨s', some (req, .ret a)⟩ := by
  induction p generalizing s with
  | ret b =>
    obtain ⟨rfl, rfl⟩ := hp
    exact .refl
  | op o k ih =>
    obtain ⟨r, t, ho, hk⟩ := hp
    exact .head ⟨_, .op ho⟩ (ih r hk)

/-- **A section without interference.** -/
theorem reaches_section {req : Req} {s s' : σ} {a : α} (he : M.enter req s)
    (hp : M.Runs (M.body req) s a s') : M.Reaches ⟨s, none⟩ ⟨s', none⟩ :=
  (Relation.ReflTransGen.head ⟨_, .enter he⟩ (reaches_of_runs hp)).tail ⟨_, .leave⟩

/-- Interference between sections. -/
lemma reaches_env {s s' : σ} (he : M.env s s') : M.Reaches ⟨s, none⟩ ⟨s', none⟩ :=
  .single ⟨_, .env he⟩

/-! ### The program of the holder -/

/-- The holder's operations are among those of its section. -/
theorem opsIn_holder {D : Req → Op → Prop} (hD : ∀ req, (M.body req).OpsIn (D req))
    {c c' : Config Op Res Req σ α} (h : M.Reaches c c')
    (hc : ∀ req p, c.holder = some (req, p) → p.OpsIn (D req)) :
    ∀ req p, c'.holder = some (req, p) → p.OpsIn (D req) := by
  induction h with
  | refl => exact hc
  | tail _ hs ih =>
    obtain ⟨a, hs⟩ := hs
    cases hs with
    | @enter s req he =>
      rintro req' p hp
      obtain ⟨rfl, rfl⟩ := Prod.mk.inj (Option.some.inj hp)
      exact hD req
    | @op s s' req o k r ho =>
      rintro req' p hp
      obtain ⟨rfl, rfl⟩ := Prod.mk.inj (Option.some.inj hp)
      exact (ih req _ rfl).2 r
    | leave => exact fun _ _ hp => absurd hp (by simp)
    | env he => exact ih

/-- **What is left of a section after its first operation** is left by that operation, done earlier
in the same section.

**Proof sketch.** Induction on the steps: entering leaves the whole body, the first operation is the
one looked for, and every later step of the section only extends the run after it. -/
theorem after_first {req : Req} {o : Op} {k : Res o → Prog Op Res α} (hreq : M.body req = .op o k)
    {D : Res o → Op → Prop} (hD : ∀ r, (k r).OpsIn (D r)) {c c' : Config Op Res Req σ α}
    (h : M.Reaches c c') (hc : c.holder = none) {p : Prog Op Res α}
    (hp : c'.holder = some (req, p)) :
    p = M.body req ∨ ∃ c₀ c₁ r, M.Reaches c c₀ ∧ M.Step c₀ (.op req o) c₁ ∧
      M.exec o c₀.state r c₁.state ∧ M.Reaches c₁ c' ∧ p.OpsIn (D r) := by
  induction h generalizing p with
  | refl => exact absurd hp (by simp [hc])
  | @tail c₁ c₂ hr hs ih =>
    obtain ⟨a, hs⟩ := hs
    have hlast := hs
    cases hs with
    | enter he =>
      obtain ⟨rfl, rfl⟩ := Prod.mk.inj (Option.some.inj hp)
      exact .inl rfl
    | @op s s' req' o' k' r ho =>
      obtain ⟨rfl, rfl⟩ := Prod.mk.inj (Option.some.inj hp)
      rcases ih rfl with hbody | ⟨c₀, c₁, r₀, h₀, hs₀, he₀, h₁, hin⟩
      · rw [hreq] at hbody
        obtain ⟨rfl, hk⟩ := Prog.op.inj hbody
        obtain rfl := eq_of_heq hk
        exact .inr ⟨_, _, r, hr, hlast, ho, .refl, hD r⟩
      · exact .inr ⟨c₀, c₁, r₀, h₀, hs₀, he₀, h₁.tail ⟨_, hlast⟩, hin.2 r⟩
    | leave => exact absurd hp (by simp)
    | env he =>
      rcases ih hp with hbody | ⟨c₀, c₁, r₀, h₀, hs₀, he₀, h₁, hin⟩
      · exact .inl hbody
      · exact .inr ⟨c₀, c₁, r₀, h₀, hs₀, he₀, h₁.tail ⟨_, hlast⟩, hin⟩

/-! ### Outlines -/

variable (M)

/-- Interference does not break the assertion. -/
def Stable (P : σ → Prop) : Prop := ∀ s s', M.env s s' → P s → P s'

/-- A proof outline of a program with postcondition `Q` whose operations are only done where `G`
allows them: before every operation a stable assertion that holds, from which the operation is
allowed and the rest can be outlined whatever it returns and leaves. -/
def Outline (G : Op → σ → Prop) (Q : β → σ → Prop) : Prog Op Res β → σ → Prop
  | .ret b, s => Q b s
  | .op o k, s => ∃ P : σ → Prop, M.Stable P ∧ P s ∧
    ∀ s, P s → G o s ∧ ∀ r s', M.exec o s r s' → Outline G Q (k r) s'

variable {M} {G : Op → σ → Prop} {Q : β → σ → Prop}

/-- Weakening what an outline ends in. -/
lemma Outline.mono {R : β → σ → Prop} {p : Prog Op Res β} {s : σ} (hp : M.Outline G Q p s)
    (hQR : ∀ b s, Q b s → R b s) : M.Outline G R p s := by
  induction p generalizing s with
  | ret b => exact hQR b s hp
  | op o k ih =>
    obtain ⟨P, hP, hs, hk⟩ := hp
    exact ⟨P, hP, hs, fun s hPs => ⟨(hk s hPs).1, fun r s' ho => ih r ((hk s hPs).2 r s' ho)⟩⟩

lemma outline_op (P : σ → Prop) {o : Op} {k : Res o → Prog Op Res β} {s : σ} (hP : M.Stable P)
    (hs : P s) (hG : ∀ s, P s → G o s)
    (hk : ∀ s r s', P s → M.exec o s r s' → M.Outline G Q (k r) s') :
    M.Outline G Q (.op o k) s :=
  ⟨P, hP, hs, fun s hs => ⟨hG s hs, fun r s' => hk s r s' hs⟩⟩

/-- A program all of whose operations preserve a stable assertion. -/
lemma outline_of_opsIn {J : σ → Prop} (hJ : M.Stable J) {p : Prog Op Res β}
    (hp : p.OpsIn fun o => (∀ s, J s → G o s) ∧ ∀ s r s', M.exec o s r s' → J s → J s') {s : σ}
    (hs : J s) : M.Outline G (fun _ => J) p s := by
  induction p generalizing s with
  | ret b => exact hs
  | op o k ih =>
    exact outline_op J hJ hs hp.1.1 fun s r s' hs ho => ih r (hp.2 r) (hp.1.2 s r s' ho hs)

/-- Interference does not break an outline. -/
lemma Outline.stable (hQ : ∀ b, M.Stable (Q b)) {p : Prog Op Res β} {s s' : σ} (he : M.env s s')
    (h : M.Outline G Q p s) : M.Outline G Q p s' := by
  cases p with
  | ret b => exact hQ b s s' he h
  | op o k =>
    obtain ⟨P, hP, hs, hk⟩ := h
    exact ⟨P, hP, hP s s' he hs, hk⟩

/-- Outlines one after another. -/
lemma Outline.bind {γ : Type} {R : γ → σ → Prop} {p : Prog Op Res γ} {f : γ → Prog Op Res β}
    {s : σ} (hp : M.Outline G R p s) (hf : ∀ a s, R a s → M.Outline G Q (f a) s) :
    M.Outline G Q (p.bind f) s := by
  induction p generalizing s with
  | ret a => exact hf a s hp
  | op o k ih =>
    obtain ⟨P, hP, hs, hk⟩ := hp
    exact ⟨P, hP, hs, fun s hPs => ⟨(hk s hPs).1, fun r s' ho => ih r ((hk s hPs).2 r s' ho)⟩⟩

/-- The assertion between sections, or an outline of the section that holds the mutex. -/
def Outlined (G : Op → σ → Prop) (J : σ → Prop) (Q : Req → α → σ → Prop)
    (c : Config Op Res Req σ α) : Prop :=
  match c.holder with
  | none => J c.state
  | some (req, p) => M.Outline G (Q req) p c.state

/-- **The rule for what holds between sections.** If interference does not break `J` and every
section that begins in `J` has an outline that ends in it, then `J` holds whenever the mutex is
free.

**Proof sketch.** Induction on the steps. Whenever the mutex is held there is an outline of what is
left of the section, which each operation of it consumes and interference leaves standing. -/
theorem outlined {J : σ → Prop} {Q : Req → α → σ → Prop} (hJ : M.Stable J)
    (hQ : ∀ req a, M.Stable (Q req a)) (hQJ : ∀ req a s, Q req a s → J s)
    (hbody : ∀ req s, J s → M.enter req s → M.Outline G (Q req) (M.body req) s)
    {c c' : Config Op Res Req σ α} (h : M.Reaches c c') (hc : M.Outlined G J Q c) :
    M.Outlined G J Q c' := by
  induction h with
  | refl => exact hc
  | tail _ hs ih =>
    obtain ⟨a, hs⟩ := hs
    cases hs with
    | enter he => exact hbody _ _ ih he
    | op ho =>
      obtain ⟨P, -, hs, hk⟩ := ih
      exact (hk _ hs).2 _ _ ho
    | leave => exact hQJ _ _ _ ih
    | @env s s' holder he =>
      cases holder with
      | none => exact hJ s s' he ih
      | some p => exact Outline.stable (hQ p.1) he ih

/-- An operation of an outlined section is allowed where it is done. -/
lemma Outlined.allowed {J : σ → Prop} {Q : Req → α → σ → Prop} {c c' : Config Op Res Req σ α}
    (hc : M.Outlined G J Q c) {req : Req} {o : Op} (hs : M.Step c (.op req o) c') : G o c.state := by
  cases hs with
  | op ho =>
    obtain ⟨P, -, hP, hk⟩ := hc
    exact (hk _ hP).1

end Monitor

end Resumption
