import Mathlib.Data.List.Basic
import Mathlib.Data.Nat.Notation
import Mathlib.Tactic.Lemma

set_option relaxedAutoImplicit false
set_option autoImplicit false

/-!
# Resumption programs

A *resumption program* issues operations one at a time and continues with what each of them
returns. The operations are left uninterpreted: a *handler* says what one operation does to a
state. Programs written this way can be run to the end, cut off after any number of operations
(a crash), or interleaved with each other.

## Main definitions

* `Resumption.Prog` — programs over a signature of operations, a monad.
* `Resumption.Prog.interp` — each operation replaced by a program.
* `Resumption.Prog.run` — the result and the final state under a handler.
* `Resumption.Prog.stateAt` — the state after the first `n` operations.
* `Resumption.Prog.Ensures` — a property of the result and the final state.
* `Resumption.Prog.Always` — a property of every state the program goes through.
* `Resumption.Prog.OpsIn` — a property of every operation the program may issue.
* `Resumption.Prog.issued` — the operations of a run, each with the state it is issued in.
* `Resumption.Prog.par` — threads interleaved by a schedule.

## Main results

* `Resumption.Prog.run_bind`, `Resumption.Prog.Always.bind` — sequencing.
* `Resumption.Prog.OpsIn.always`, `Resumption.Prog.OpsIn.run_preserves` — an invariant kept by
  every operation holds throughout.
* `Resumption.Prog.par_view` — threads that do not touch each other's part of the state end, under
  every schedule, as if each had run alone.
-/

namespace Resumption

universe u v x y

/-- Programs over operations `Op`, where `o : Op` returns a `Res o`. -/
inductive Prog (Op : Type u) (Res : Op → Type v) (α : Type v)
  | ret (a : α)
  | op (o : Op) (k : Res o → Prog Op Res α)

/-- What one operation returns and does to the state. -/
abbrev Handler (Op : Type u) (Res : Op → Type v) (σ : Type x) := (o : Op) → σ → Res o × σ

namespace Prog

variable {Op : Type u} {Res : Op → Type v} {α β : Type v} {σ : Type x} {τ : Type y}

/-! ### The monad -/

/-- Run `p`, then continue with its result. -/
def bind : Prog Op Res α → (α → Prog Op Res β) → Prog Op Res β
  | ret a, f => f a
  | op o k, f => op o fun r => (k r).bind f

/-- The program that issues one operation and returns its response. -/
def perform (o : Op) : Prog Op Res (Res o) := op o ret

instance : Monad (Prog Op Res) where
  pure := ret
  bind := bind

@[simp] lemma pure_eq (a : α) : (pure a : Prog Op Res α) = ret a := rfl

@[simp] lemma bind_eq (p : Prog Op Res α) (f : α → Prog Op Res β) : (p >>= f) = p.bind f := rfl

@[simp] lemma ret_bind (a : α) (f : α → Prog Op Res β) : (ret a).bind f = f a := rfl

@[simp] lemma op_bind (o : Op) (k : Res o → Prog Op Res α) (f : α → Prog Op Res β) :
    (op o k).bind f = op o fun r => (k r).bind f := rfl

/-- Sequencing is associative. -/
lemma bind_assoc {γ : Type v} (p : Prog Op Res α) (f : α → Prog Op Res β)
    (g : β → Prog Op Res γ) : (p.bind f).bind g = p.bind fun a => (f a).bind g := by
  induction p with
  | ret a => rfl
  | op o k ih => simp only [op_bind, ih]

/-- A program followed by a return is the program. -/
lemma bind_ret (p : Prog Op Res α) : p.bind ret = p := by
  induction p with
  | ret a => rfl
  | op o k ih => simp only [op_bind, ih]

/-! ### Operations as programs -/

section Interp

variable {Op' : Type u} {Res' : Op' → Type v}

/-- Every operation is a program of other operations. -/
def interp (f : (o : Op) → Prog Op' Res' (Res o)) : Prog Op Res α → Prog Op' Res' α
  | ret a => ret a
  | op o k => (f o).bind fun r => (k r).interp f

@[simp] lemma interp_ret (f : (o : Op) → Prog Op' Res' (Res o)) (a : α) :
    (ret a : Prog Op Res α).interp f = ret a := rfl

@[simp] lemma interp_op (f : (o : Op) → Prog Op' Res' (Res o)) (o : Op)
    (k : Res o → Prog Op Res α) :
    (op o k).interp f = (f o).bind fun r => (k r).interp f := rfl

@[simp] lemma interp_bind (f : (o : Op) → Prog Op' Res' (Res o)) (p : Prog Op Res α)
    (g : α → Prog Op Res β) : (p.bind g).interp f = (p.interp f).bind fun a => (g a).interp f := by
  induction p with
  | ret a => rfl
  | op o k ih => simp only [op_bind, interp_op, ih, bind_assoc]

end Interp

/-! ### Running under a handler -/

/-- The result and the final state. -/
def run (h : Handler Op Res σ) : Prog Op Res α → σ → α × σ
  | ret a, s => (a, s)
  | op o k, s => (k (h o s).1).run h (h o s).2

/-- The state after the first `n` operations (the final one, when there are fewer). -/
def stateAt (h : Handler Op Res σ) : ℕ → Prog Op Res α → σ → σ
  | 0, _, s => s
  | _ + 1, ret _, s => s
  | n + 1, op o k, s => stateAt h n (k (h o s).1) (h o s).2

variable (h : Handler Op Res σ)

@[simp] lemma run_ret (a : α) (s : σ) : (ret a : Prog Op Res α).run h s = (a, s) := rfl

@[simp] lemma run_op (o : Op) (k : Res o → Prog Op Res α) (s : σ) :
    (op o k).run h s = (k (h o s).1).run h (h o s).2 := rfl

@[simp] lemma run_bind (p : Prog Op Res α) (f : α → Prog Op Res β) (s : σ) :
    (p.bind f).run h s = (f (p.run h s).1).run h (p.run h s).2 := by
  induction p generalizing s with
  | ret a => rfl
  | op o k ih => simp only [op_bind, run_op, ih]

@[simp] lemma stateAt_zero (p : Prog Op Res α) (s : σ) : p.stateAt h 0 s = s := by
  cases p <;> rfl

@[simp] lemma stateAt_ret (a : α) (n : ℕ) (s : σ) :
    (ret a : Prog Op Res α).stateAt h n s = s := by
  cases n <;> rfl

@[simp] lemma stateAt_op_succ (o : Op) (k : Res o → Prog Op Res α) (n : ℕ) (s : σ) :
    (op o k).stateAt h (n + 1) s = (k (h o s).1).stateAt h n (h o s).2 := rfl

/-- From some point on the program has ended in its final state. -/
lemma exists_stateAt_eq_run (p : Prog Op Res α) (s : σ) :
    ∃ n, p.stateAt h n s = (p.run h s).2 := by
  induction p generalizing s with
  | ret a => exact ⟨0, rfl⟩
  | op o k ih =>
    obtain ⟨n, hn⟩ := ih (h o s).1 (h o s).2
    exact ⟨n + 1, hn⟩

/-! ### Postconditions -/

/-- The result and the final state of `p` from `s` satisfy `Q`. -/
def Ensures (h : Handler Op Res σ) (p : Prog Op Res α) (s : σ) (Q : α → σ → Prop) : Prop :=
  Q (p.run h s).1 (p.run h s).2

lemma ensures_ret {a : α} {s : σ} {Q : α → σ → Prop} :
    Ensures h (ret a) s Q ↔ Q a s := Iff.rfl

/-- The rule for sequences. -/
lemma ensures_bind {p : Prog Op Res α} {f : α → Prog Op Res β} {s : σ} {Q : β → σ → Prop} :
    Ensures h (p.bind f) s Q ↔ Ensures h p s fun a t => Ensures h (f a) t Q := by
  rw [Ensures, Ensures, Ensures, run_bind]

/-- The rule of consequence. -/
lemma Ensures.mono {p : Prog Op Res α} {s : σ} {Q Q' : α → σ → Prop} (hp : Ensures h p s Q)
    (hQ : ∀ a t, Q a t → Q' a t) : Ensures h p s Q' := hQ _ _ hp

/-- `p` goes only through states with `I`. -/
def Always (I : σ → Prop) (p : Prog Op Res α) (s : σ) : Prop := ∀ n, I (p.stateAt h n s)

variable {h}

lemma Always.start {I : σ → Prop} {p : Prog Op Res α} {s : σ} (ha : p.Always h I s) : I s := by
  simpa using ha 0

lemma Always.final {I : σ → Prop} {p : Prog Op Res α} {s : σ} (ha : p.Always h I s) :
    I (p.run h s).2 := by
  obtain ⟨n, hn⟩ := exists_stateAt_eq_run h p s
  exact hn ▸ ha n

lemma Always.mono {I J : σ → Prop} {p : Prog Op Res α} {s : σ} (ha : p.Always h I s)
    (hIJ : ∀ t, I t → J t) : p.Always h J s :=
  fun n => hIJ _ (ha n)

lemma always_ret {I : σ → Prop} {a : α} {s : σ} (hs : I s) :
    (ret a : Prog Op Res α).Always h I s := by
  intro n
  simpa using hs

lemma always_op {I : σ → Prop} {o : Op} {k : Res o → Prog Op Res α} {s : σ} (hs : I s)
    (hk : (k (h o s).1).Always h I (h o s).2) : (op o k).Always h I s := by
  intro n
  cases n with
  | zero => simpa using hs
  | succ n => simpa using hk n

/-- A sequence goes through the states of its first part and then those of its second. -/
lemma Always.bind {I : σ → Prop} {p : Prog Op Res α} {f : α → Prog Op Res β} {s : σ}
    (hp : p.Always h I s) (hf : (f (p.run h s).1).Always h I (p.run h s).2) :
    (p.bind f).Always h I s := by
  induction p generalizing s with
  | ret a => exact hf
  | op o k ih =>
    refine always_op hp.start (ih _ (fun n => ?_) hf)
    simpa using hp (n + 1)

/-- `p` goes only through states with `I`, and its result and final state satisfy `Q`. -/
def Through (h : Handler Op Res σ) (I : σ → Prop) (p : Prog Op Res α) (s : σ) (Q : α → σ → Prop) :
    Prop := p.Always h I s ∧ Ensures h p s Q

lemma through_ret {I : σ → Prop} {a : α} {s : σ} {Q : α → σ → Prop} (hs : I s) (hq : Q a s) :
    Through h I (ret a) s Q := ⟨always_ret hs, hq⟩

/-- The rule for an operation. -/
lemma through_op {I : σ → Prop} {o : Op} {k : Res o → Prog Op Res α} {s : σ} {Q : α → σ → Prop}
    (hs : I s) (hk : Through h I (k (h o s).1) (h o s).2 Q) : Through h I (op o k) s Q :=
  ⟨always_op hs hk.1, hk.2⟩

/-- The rule for an operation with what follows it. -/
lemma through_perform {I : σ → Prop} {o : Op} {f : Res o → Prog Op Res α} {s : σ}
    {Q : α → σ → Prop} (hs : I s) (hf : Through h I (f (h o s).1) (h o s).2 Q) :
    Through h I ((perform o).bind f) s Q := through_op hs hf

/-- The rule for sequences. -/
lemma Through.bind {I : σ → Prop} {p : Prog Op Res α} {f : α → Prog Op Res β} {s : σ}
    {R : α → σ → Prop} {Q : β → σ → Prop} (hp : Through h I p s R)
    (hf : ∀ a t, R a t → Through h I (f a) t Q) : Through h I (p.bind f) s Q :=
  ⟨hp.1.bind (hf _ _ hp.2).1, (ensures_bind h).2 (hf _ _ hp.2).2⟩

/-- The rule of consequence. -/
lemma Through.mono {I : σ → Prop} {p : Prog Op Res α} {s : σ} {Q Q' : α → σ → Prop}
    (hp : Through h I p s Q) (hQ : ∀ a t, Q a t → Q' a t) : Through h I p s Q' :=
  ⟨hp.1, hp.2.mono _ hQ⟩

/-! ### The operations of a program -/

/-- Every operation the program may issue, whatever the earlier ones return, has `D`. -/
def OpsIn (D : Op → Prop) : Prog Op Res α → Prop
  | ret _ => True
  | op o k => D o ∧ ∀ r, (k r).OpsIn D

@[simp] lemma opsIn_ret {D : Op → Prop} (a : α) : (ret a : Prog Op Res α).OpsIn D := trivial

@[simp] lemma opsIn_op {D : Op → Prop} (o : Op) (k : Res o → Prog Op Res α) :
    (op o k).OpsIn D ↔ D o ∧ ∀ r, (k r).OpsIn D := Iff.rfl

lemma OpsIn.bind {D : Op → Prop} {p : Prog Op Res α} {f : α → Prog Op Res β} (hp : p.OpsIn D)
    (hf : ∀ a, (f a).OpsIn D) : (p.bind f).OpsIn D := by
  induction p with
  | ret a => exact hf a
  | op o k ih => exact ⟨hp.1, fun r => ih r (hp.2 r)⟩

lemma OpsIn.mono {D E : Op → Prop} {p : Prog Op Res α} (hp : p.OpsIn D) (hDE : ∀ o, D o → E o) :
    p.OpsIn E := by
  induction p with
  | ret a => trivial
  | op o k ih => exact ⟨hDE o hp.1, fun r => ih r (hp.2 r)⟩

/-- What every operation of the program preserves holds in every state it goes through. -/
lemma OpsIn.always {D : Op → Prop} {I : σ → Prop} {p : Prog Op Res α} (hp : p.OpsIn D)
    (hD : ∀ o s, D o → I s → I (h o s).2) {s : σ} (hs : I s) : p.Always h I s := by
  induction p generalizing s with
  | ret a => exact always_ret hs
  | op o k ih => exact always_op hs (ih _ (hp.2 _) (hD o s hp.1 hs))

/-- What every operation of the program preserves holds at its end. -/
lemma OpsIn.run_preserves {D : Op → Prop} {I : σ → Prop} {p : Prog Op Res α} (hp : p.OpsIn D)
    (hD : ∀ o s, D o → I s → I (h o s).2) {s : σ} (hs : I s) : I (p.run h s).2 :=
  (hp.always hD hs).final

/-- Every result the program may have, whatever the operations return, has `R`. -/
def Returns (R : α → Prop) : Prog Op Res α → Prop
  | ret a => R a
  | op _ k => ∀ r, (k r).Returns R

lemma returns_true (p : Prog Op Res α) : p.Returns fun _ => True := by
  induction p with
  | ret a => trivial
  | op o k ih => exact ih

lemma Returns.bind {P : α → Prop} {R : β → Prop} {p : Prog Op Res α} {f : α → Prog Op Res β}
    (hp : p.Returns P) (hf : ∀ a, P a → (f a).Returns R) : (p.bind f).Returns R := by
  induction p with
  | ret a => exact hf a hp
  | op o k ih => exact fun r => ih r (hp r)

/-- The operations of a sequence, where those of its second part depend on what the first may return. -/
lemma OpsIn.bind_of_returns {D : Op → Prop} {P : α → Prop} {p : Prog Op Res α} {f : α → Prog Op Res β}
    (hp : p.OpsIn D) (hr : p.Returns P) (hf : ∀ a, P a → (f a).OpsIn D) : (p.bind f).OpsIn D := by
  induction p with
  | ret a => exact hf a hr
  | op o k ih => exact ⟨hp.1, fun r => ih r (hp.2 r) (hr r)⟩

/-- The result of a run is one the program may have. -/
lemma Returns.run {R : α → Prop} {p : Prog Op Res α} (hp : p.Returns R) (s : σ) :
    R (p.run h s).1 := by
  induction p generalizing s with
  | ret a => exact hp
  | op o k ih => exact ih _ (hp _) _

/-! ### The operations of a run -/

/-- The operations of a run, each with the state it is issued in. -/
def issued (h : Handler Op Res σ) : Prog Op Res α → σ → List (Op × σ)
  | ret _, _ => []
  | op o k, s => (o, s) :: (k (h o s).1).issued h (h o s).2

/-- The operations of a sequence. -/
lemma issued_bind (p : Prog Op Res α) (f : α → Prog Op Res β) (s : σ) :
    (p.bind f).issued h s = p.issued h s ++ (f (p.run h s).1).issued h (p.run h s).2 := by
  induction p generalizing s with
  | ret a => rfl
  | op o k ih => rw [op_bind, issued, ih, issued, List.cons_append, run_op]

/-- What every operation preserves holds wherever one is issued. -/
lemma OpsIn.issued {D : Op → Prop} {I : σ → Prop} {p : Prog Op Res α} (hp : p.OpsIn D)
    (hD : ∀ o s, D o → I s → I (h o s).2) {s : σ} (hs : I s) : ∀ x ∈ p.issued h s, D x.1 ∧ I x.2 := by
  induction p generalizing s with
  | ret a => exact List.forall_mem_nil _
  | op o k ih => exact List.forall_mem_cons.2 ⟨⟨hp.1, hs⟩, ih _ (hp.2 _) (hD o s hp.1 hs)⟩

/-! ### Threads -/

/-- The programs one after another. -/
def all : List (Prog Op Res α) → Prog Op Res (List α)
  | [] => ret []
  | p :: ps => p.bind fun a => (all ps).bind fun as => ret (a :: as)

/-- Threads interleaved by a schedule: each entry lets the thread of that index issue its next
operation; when the schedule ends, what is left runs thread by thread. -/
def par : List ℕ → List (Prog Op Res α) → Prog Op Res (List α)
  | [], ts => all ts
  | i :: sched, ts =>
    match ts[i]? with
    | some (op o k) => op o fun r => par sched (ts.set i (k r))
    | _ => par sched ts

/-- Threads issue an operation if one of them does. -/
lemma exists_par_eq_op {sched : List ℕ} {ts : List (Prog Op Res α)} {t : Prog Op Res α} (ht : t ∈ ts)
    (hop : ∀ a, t ≠ ret a) : ∃ o k, par sched ts = op o k := by
  induction sched with
  | nil =>
    rw [par]
    induction ts with
    | nil => cases ht
    | cons t' ts ih =>
      cases t' with
      | op o k => exact ⟨o, _, rfl⟩
      | ret a =>
        rcases List.mem_cons.1 ht with rfl | ht
        · exact absurd rfl (hop a)
        · obtain ⟨o, k, h⟩ := ih ht
          exact ⟨o, _, by rw [all, ret_bind, h, op_bind]⟩
  | cons i sched ih =>
    unfold par
    split
    · exact ⟨_, _, rfl⟩
    · exact ih

lemma opsIn_all {D : Op → Prop} {ts : List (Prog Op Res α)} (hts : ∀ t ∈ ts, t.OpsIn D) :
    (all ts).OpsIn D := by
  induction ts with
  | nil => trivial
  | cons t ts ih =>
    refine (hts t (by simp)).bind fun a => ?_
    exact (ih fun t' ht' => hts t' (by simp [ht'])).bind fun as => trivial

lemma opsIn_par {D : Op → Prop} {sched : List ℕ} {ts : List (Prog Op Res α)}
    (hts : ∀ t ∈ ts, t.OpsIn D) : (par sched ts).OpsIn D := by
  induction sched generalizing ts with
  | nil => exact opsIn_all hts
  | cons i sched ih =>
    unfold par
    split
    · rename_i o k hi
      have hik : (op o k).OpsIn D := hts _ (List.mem_of_getElem? hi)
      refine ⟨hik.1, fun r => ih fun t ht => ?_⟩
      rcases List.mem_or_eq_of_mem_set ht with ht | rfl
      · exact hts t ht
      · exact hik.2 r
    · exact ih hts

/-- What the programs return, one by one. -/
lemma returns_all {R : ℕ → α → Prop} {ts : List (Prog Op Res α)}
    (hts : ∀ (i : ℕ) (t : Prog Op Res α), ts[i]? = some t → t.Returns (R i)) :
    (all ts).Returns fun as => ∀ i a, as[i]? = some a → R i a := by
  induction ts generalizing R with
  | nil => intro i a h; cases h
  | cons t ts ih =>
    refine (hts 0 t rfl).bind fun a ha => (ih (R := fun i => R (i + 1)) fun i t' ht' =>
      hts (i + 1) t' ht').bind fun as has => ?_
    rintro (_ | i) b hb
    · obtain rfl := Option.some.inj hb
      exact ha
    · exact has i b hb

/-- What the threads return, one by one. -/
lemma returns_par {R : ℕ → α → Prop} {sched : List ℕ} {ts : List (Prog Op Res α)}
    (hts : ∀ (i : ℕ) (t : Prog Op Res α), ts[i]? = some t → t.Returns (R i)) :
    (par sched ts).Returns fun as => ∀ i a, as[i]? = some a → R i a := by
  induction sched generalizing ts with
  | nil => exact returns_all hts
  | cons i sched ih =>
    unfold par
    split
    · rename_i o k hi
      refine fun r => ih fun j t ht => ?_
      rcases eq_or_ne i j with rfl | hij
      · have hlt : i < ts.length := (List.getElem?_eq_some_iff.1 hi).1
        rw [List.getElem?_set_self hlt] at ht
        obtain rfl := Option.some.inj ht
        exact hts i _ hi r
      · rw [List.getElem?_set_ne hij] at ht
        exact hts j t ht
    · exact ih hts

/-- The number of results is the number of programs. -/
lemma length_run_all (h : Handler Op Res σ) (ts : List (Prog Op Res α)) (s : σ) :
    ((all ts).run h s).1.length = ts.length := by
  induction ts generalizing s with
  | nil => rfl
  | cons t ts ih => simp [all, ih]

/-- The number of results is the number of threads. -/
lemma length_run_par (h : Handler Op Res σ) (sched : List ℕ) (ts : List (Prog Op Res α)) (s : σ) :
    ((par sched ts).run h s).1.length = ts.length := by
  induction sched generalizing ts s with
  | nil => exact length_run_all h ts s
  | cons i sched ih =>
    unfold par
    split
    · rw [run_op, ih, List.length_set]
    · exact ih ts s

/-! ### Threads that keep out of each other's way -/

/-- The operation reads and writes the state only through the view `v`. -/
def Within (h : Handler Op Res σ) (v : σ → τ) (o : Op) : Prop :=
  ∀ s s', v s = v s' → (h o s).1 = (h o s').1 ∧ v (h o s).2 = v (h o s').2

/-- The operation does not change the view `v`. -/
def Frames (h : Handler Op Res σ) (v : σ → τ) (o : Op) : Prop := ∀ s, v (h o s).2 = v s

variable {v : σ → τ}

/-- A program within a view depends on the view only. -/
lemma OpsIn.run_congr {p : Prog Op Res α} (hp : p.OpsIn (Within h v)) {s s' : σ}
    (hs : v s = v s') : (p.run h s).1 = (p.run h s').1 ∧ v (p.run h s).2 = v (p.run h s').2 := by
  induction p generalizing s s' with
  | ret a => exact ⟨rfl, hs⟩
  | op o k ih =>
    obtain ⟨h₁, h₂⟩ := hp.1 s s' hs
    simp only [run_op]
    rw [← h₁]
    exact ih _ (hp.2 _) h₂

/-- A program framing a view leaves it unchanged. -/
lemma OpsIn.run_frame {p : Prog Op Res α} (hp : p.OpsIn (Frames h v)) (s : σ) :
    v (p.run h s).2 = v s :=
  hp.run_preserves (I := fun t => v t = v s) (fun _ t ho ht => (ho t).trans ht) rfl

/-- Thread by thread, the threads other than the `i`-th framing its view. -/
lemma all_view {ts : List (Prog Op Res α)} {i : ℕ} {t : Prog Op Res α} (hi : ts[i]? = some t)
    (ht : t.OpsIn (Within h v))
    (hne : ∀ j t', ts[j]? = some t' → j ≠ i → t'.OpsIn (Frames h v)) (s : σ) :
    ((all ts).run h s).1[i]? = some (t.run h s).1 ∧ v ((all ts).run h s).2 = v (t.run h s).2 := by
  induction ts generalizing i s with
  | nil => simp at hi
  | cons t₀ ts ih =>
    simp only [all, run_bind, run_ret]
    cases i with
    | zero =>
      obtain rfl : t₀ = t := by simpa using hi
      have hrest : (all ts).OpsIn (Frames h v) := opsIn_all fun t' ht' => by
        obtain ⟨j, hj⟩ := List.mem_iff_getElem?.1 ht'
        exact hne (j + 1) t' (by simpa using hj) (by omega)
      exact ⟨rfl, hrest.run_frame _⟩
    | succ i =>
      have h₀ : t₀.OpsIn (Frames h v) := hne 0 t₀ rfl (by omega)
      have hi' : ts[i]? = some t := by simpa using hi
      obtain ⟨ih₁, ih₂⟩ := ih hi' (fun j t' hj hji => hne (j + 1) t' (by simpa using hj) (by omega))
        (t₀.run h s).2
      obtain ⟨e₁, e₂⟩ := ht.run_congr (h₀.run_frame s)
      exact ⟨by simpa [e₁] using ih₁, ih₂.trans e₂⟩

/-- **Independent threads.** If thread `i` works within the view `v` and every other thread frames
`v`, then under every schedule thread `i` returns what it returns alone, and leaves the view as
it leaves it alone.

**Proof sketch.** Induction on the schedule. A step of another thread does not change the view,
on which thread `i` only depends; a step of thread `i` is the first step of its own run. -/
theorem par_view {sched : List ℕ} {ts : List (Prog Op Res α)} {i : ℕ} {t : Prog Op Res α}
    (hi : ts[i]? = some t) (ht : t.OpsIn (Within h v))
    (hne : ∀ j t', ts[j]? = some t' → j ≠ i → t'.OpsIn (Frames h v)) (s : σ) :
    ((par sched ts).run h s).1[i]? = some (t.run h s).1 ∧
      v ((par sched ts).run h s).2 = v (t.run h s).2 := by
  induction sched generalizing ts t s with
  | nil => exact all_view hi ht hne s
  | cons j sched ih =>
    unfold par
    split
    · rename_i o k hj
      rw [run_op]
      by_cases hji : j = i
      · -- the thread's own step
        subst hji
        obtain rfl : op o k = t := by simpa [hi] using hj.symm
        have hlt : j < ts.length := (List.getElem?_eq_some_iff.1 hj).1
        refine ih (by simp [hlt]) (ht.2 _) (fun j' t' hj' hne' => ?_) _
        rw [List.getElem?_set_ne (Ne.symm hne')] at hj'
        exact hne j' t' hj' hne'
      · -- a step of another thread
        have hok := hne j _ hj hji
        have hi' : (ts.set j (k (h o s).1))[i]? = some t := by
          rw [List.getElem?_set_ne hji]
          exact hi
        have hne' : ∀ j' t', (ts.set j (k (h o s).1))[j']? = some t' → j' ≠ i →
            t'.OpsIn (Frames h v) := by
          intro j' t' hj' hj'i
          by_cases hjj : j' = j
          · subst hjj
            have hlt : j' < ts.length := (List.getElem?_eq_some_iff.1 hj).1
            obtain rfl : k (h o s).1 = t' := by simpa [hlt] using hj'
            exact hok.2 _
          · rw [List.getElem?_set_ne (Ne.symm hjj)] at hj'
            exact hne j' t' hj' hj'i
        obtain ⟨ih₁, ih₂⟩ := ih hi' ht hne' (h o s).2
        obtain ⟨e₁, e₂⟩ := ht.run_congr (hok.1 s)
        exact ⟨by rw [ih₁, e₁], ih₂.trans e₂⟩
    · exact ih hi ht hne s

/-- **A second round.** The threads run, and then each item gets a second program that depends on
its first result. If item `i` works within the view `v` in both rounds and the others frame `v`,
item `i` ends as if its two programs had run alone, one after the other.

**Proof sketch.** `par_view` for the first round and `all_view` for the second; the item's second
program depends on the view only, which the first round left as the item's own thread does. -/
theorem par_bind_all_view {ι : Type y} {items : List ι} {first : ι → Prog Op Res α}
    {second : ι → α → Prog Op Res α} {sched : List ℕ} {i : ℕ} {a : ι} (hi : items[i]? = some a)
    (h₁ : (first a).OpsIn (Within h v)) (h₂ : ∀ r, (second a r).OpsIn (Within h v))
    (hne : ∀ j b, items[j]? = some b → j ≠ i →
      (first b).OpsIn (Frames h v) ∧ ∀ r, (second b r).OpsIn (Frames h v)) (s : σ) :
    (((par sched (items.map first)).bind fun rs =>
        all ((items.zip rs).map fun p => second p.1 p.2)).run h s).1[i]? =
        some (((first a).bind (second a)).run h s).1 ∧
      v (((par sched (items.map first)).bind fun rs =>
        all ((items.zip rs).map fun p => second p.1 p.2)).run h s).2 =
        v (((first a).bind (second a)).run h s).2 := by
  simp only [run_bind]
  have hi₁ : (items.map first)[i]? = some (first a) := by rw [List.getElem?_map, hi]; rfl
  have hne₁ : ∀ j t', (items.map first)[j]? = some t' → j ≠ i → t'.OpsIn (Frames h v) := by
    intro j t' hj hji
    rw [List.getElem?_map] at hj
    obtain ⟨b, hb, rfl⟩ := Option.map_eq_some_iff.1 hj
    exact (hne j b hb hji).1
  obtain ⟨hr, hv⟩ := @par_view _ _ _ _ _ h v sched _ i _ hi₁ h₁ hne₁ s
  set rs := ((par sched (items.map first)).run h s).1
  set s₁ := ((par sched (items.map first)).run h s).2
  set r := ((first a).run h s).1
  have hi₂ : ((items.zip rs).map fun p => second p.1 p.2)[i]? = some (second a r) := by
    have hz : (items.zip rs)[i]? = some (a, r) := List.getElem?_zip_eq_some.2 ⟨hi, hr⟩
    rw [List.getElem?_map, hz]
    rfl
  have hne₂ : ∀ j t', ((items.zip rs).map fun p => second p.1 p.2)[j]? = some t' → j ≠ i →
      t'.OpsIn (Frames h v) := by
    intro j t' hj hji
    rw [List.getElem?_map] at hj
    obtain ⟨⟨b, rb⟩, hb, rfl⟩ := Option.map_eq_some_iff.1 hj
    exact (hne j b (List.getElem?_zip_eq_some.1 hb).1 hji).2 rb
  obtain ⟨hr₂, hv₂⟩ := all_view hi₂ (h₂ r) hne₂ s₁
  obtain ⟨e₁, e₂⟩ := (h₂ r).run_congr hv
  exact ⟨hr₂.trans (congrArg some e₁), hv₂.trans e₂⟩

/-! ### Programs that change nothing -/

/-- The operation does not change the state. -/
def ReadOnly (h : Handler Op Res σ) (o : Op) : Prop := ∀ s, (h o s).2 = s

lemma OpsIn.run_readOnly {p : Prog Op Res α} (hp : p.OpsIn (ReadOnly h)) (s : σ) :
    (p.run h s).2 = s :=
  hp.run_preserves (I := fun t => t = s) (fun _ t ho ht => (ho t).trans ht) rfl

/-- Threads that change nothing return, under every schedule, what each returns alone. -/
lemma run_par_readOnly {sched : List ℕ} {ts : List (Prog Op Res α)}
    (hts : ∀ t ∈ ts, t.OpsIn (ReadOnly h)) (s : σ) :
    (par sched ts).run h s = (ts.map fun t => (t.run h s).1, s) := by
  refine Prod.ext (List.ext_getElem? fun i => ?_) ((opsIn_par hts).run_readOnly s)
  rw [List.getElem?_map]
  cases hi : ts[i]? with
  | none =>
    have hlen : ts.length ≤ i := List.getElem?_eq_none_iff.1 hi
    exact List.getElem?_eq_none_iff.2 (by rwa [length_run_par])
  | some t =>
    refine (par_view (v := id) hi ?_ ?_ s).1
    · exact (hts t (List.mem_of_getElem? hi)).mono fun o _ s s' hs => by
        obtain rfl : s = s' := hs
        exact ⟨rfl, rfl⟩
    · exact fun j t' hj _ => hts t' (List.mem_of_getElem? hj)

end Prog

end Resumption
