import Mathlib.Algebra.Ring.Nat
import Mathlib.Data.List.Count
import Mathlib.Tactic.Lemma

set_option relaxedAutoImplicit false
set_option autoImplicit false

/-!
# Threads under a mutex

Threads are numbered in the order in which they are started, and a mutex is held by one of them or by none. Where a
thread is tells whether it holds the mutex.

## Main definitions

* `Mutex.Guarded` — the threads that hold the mutex, by where they are, are those that do.
* `Mutex.Guarded.holder` — the thread that holds it.

## Main results

* `Mutex.Guarded.spawn`, `Mutex.Guarded.move`, `Mutex.Guarded.unlock` — what threads may do.
* `Mutex.Guarded.countP_eq` — what only the holder can be, none or one is.
* `Mutex.countP_set`, `Mutex.sum_set` — how a count of threads, or a sum, changes when one goes on.
-/

namespace Mutex

variable {T : Type} {holds : T → Bool} {mutex : Option ℕ} {threads : List T} {i j : ℕ} {t t' : T}

/-- A thread holds the mutex exactly if where it is says so. -/
structure Guarded (holds : T → Bool) (mutex : Option ℕ) (threads : List T) : Prop where
  holds_iff : ∀ i t, threads[i]? = some t → (holds t = true ↔ mutex = some i)
  lt : ∀ i, mutex = some i → i < threads.length

/-- The thread that holds the mutex. -/
def holder (mutex : Option ℕ) (threads : List T) : Option T := mutex.bind fun i => threads[i]?

/-- Without threads the mutex is free. -/
lemma guarded_nil : Guarded holds none ([] : List T) :=
  ⟨fun _ _ h => absurd h (by simp), fun _ h => absurd h (by simp)⟩

/-- A mutex that nobody holds has no holder. -/
@[simp] lemma holder_none : holder none threads = none := rfl

namespace Guarded

/-- A thread that holds the mutex is its holder. -/
lemma holder_eq (h : Guarded holds mutex threads) (hi : threads[i]? = some t) (ht : holds t = true) :
    holder mutex threads = some t := by
  rw [holder, (h.holds_iff i t hi).1 ht]
  exact hi

/-- The holder is a thread that holds the mutex. -/
lemma of_holder (h : Guarded holds mutex threads) (ht : holder mutex threads = some t) :
    ∃ i, mutex = some i ∧ threads[i]? = some t ∧ holds t = true := by
  obtain ⟨i, hi, hget⟩ := Option.bind_eq_some_iff.1 ht
  exact ⟨i, hi, hget, (h.holds_iff i t hget).2 hi⟩

/-- While the mutex is held, there is a holder. -/
lemma exists_holder (h : Guarded holds mutex threads) (hm : mutex ≠ none) : ∃ t, holder mutex threads = some t := by
  obtain ⟨i, rfl⟩ := Option.ne_none_iff_exists'.1 hm
  exact ⟨_, List.getElem?_eq_getElem (h.lt i rfl)⟩

/-- A free mutex is taken on behalf of a new thread. -/
lemma spawn (h : Guarded holds none threads) (ht : holds t = true) :
    Guarded holds (some threads.length) (threads ++ [t]) := by
  refine ⟨fun i u hi => ?_, fun i hi => ?_⟩
  · rcases Nat.lt_trichotomy i threads.length with hlt | rfl | hgt
    · rw [List.getElem?_append_left hlt] at hi
      have hfree := h.holds_iff i u hi
      constructor
      · intro hu
        exact absurd (hfree.1 hu) (by simp)
      · intro heq
        exact absurd (Option.some.inj heq) (by omega)
    · rw [List.getElem?_concat_length] at hi
      obtain rfl := Option.some.inj hi
      exact iff_of_true ht rfl
    · have hlength : (threads ++ [t]).length ≤ i := by
        rw [List.length_append, List.length_singleton]
        omega
      rw [List.getElem?_eq_none hlength] at hi
      exact absurd hi (by simp)
  · obtain rfl := Option.some.inj hi
    simp

/-- A thread goes on, and holds the mutex or not as before. -/
lemma move (h : Guarded holds mutex threads) (hi : threads[i]? = some t) (ht : holds t' = holds t) :
    Guarded holds mutex (threads.set i t') := by
  refine ⟨fun j u hj => ?_, fun j hj => by simpa using h.lt j hj⟩
  rw [List.getElem?_set] at hj
  split at hj
  · next heq =>
    subst heq
    split at hj
    · obtain rfl := Option.some.inj hj
      rw [ht]
      exact h.holds_iff i t hi
    · exact absurd hj (by simp)
  · exact h.holds_iff j u hj

/-- A thread gives the mutex back. -/
lemma unlock (h : Guarded holds mutex threads) (hi : threads[i]? = some t) (ht : holds t = true)
    (ht' : holds t' = false) : Guarded holds none (threads.set i t') := by
  refine ⟨fun j u hj => ?_, fun j hj => absurd hj (by simp)⟩
  refine iff_of_false (fun hu => ?_) (by simp)
  rw [List.getElem?_set] at hj
  split at hj
  · split at hj
    · obtain rfl := Option.some.inj hj
      exact absurd hu (by simp [ht'])
    · exact absurd hj (by simp)
  · next hne =>
    have hmutex := ((h.holds_iff i t hi).1 ht).symm.trans ((h.holds_iff j u hj).1 hu)
    exact hne (Option.some.inj hmutex)

/-- The holder goes on. -/
lemma holder_set (h : Guarded holds mutex threads) (hi : threads[i]? = some t) (ht : holds t = true) :
    holder mutex (threads.set i t') = some t' := by
  have hlt : i < threads.length := (List.getElem?_eq_some_iff.1 hi).1
  rw [holder, (h.holds_iff i t hi).1 ht, Option.bind_some, List.getElem?_set_self hlt]

/-- Another thread goes on. -/
lemma holder_set_of_not (h : Guarded holds mutex threads) (hi : threads[i]? = some t) (ht : holds t = false) :
    holder mutex (threads.set i t') = holder mutex threads := by
  cases mutex with
  | none => rfl
  | some j =>
    have hne : i ≠ j := fun heq => by
      have hholds := (h.holds_iff i t hi).2 (by rw [heq])
      rw [ht] at hholds
      exact absurd hholds (by simp)
    rw [holder, holder, Option.bind_some, Option.bind_some, List.getElem?_set_ne hne]

/-- **What only the holder can be**, none or one is. -/
theorem countP_eq (h : Guarded holds mutex threads) {p : T → Bool} (hp : ∀ t, p t = true → holds t = true) :
    threads.countP p = if (holder mutex threads).any p then 1 else 0 := by
  split
  · next hany =>
    obtain ⟨t, ht, hpt⟩ : ∃ t, holder mutex threads = some t ∧ p t = true := by
      cases hholder : holder mutex threads with
      | none => simp [hholder] at hany
      | some t => exact ⟨t, rfl, by simpa [hholder] using hany⟩
    obtain ⟨i, hi, hget, -⟩ := h.of_holder ht
    obtain ⟨hlt, heq⟩ := List.getElem?_eq_some_iff.1 hget
    have hothers : ∀ j u, j ≠ i → threads[j]? = some u → p u = false := fun j u hne hu => by
      by_contra hpu
      have hmutex := (h.holds_iff j u hu).1 (hp u (by simpa using hpu))
      exact hne (Option.some.inj (hmutex.symm.trans hi))
    have hbefore : (threads.take i).countP p = 0 := by
      refine List.countP_eq_zero.2 fun u hu => ?_
      obtain ⟨j, hj⟩ := List.getElem?_of_mem hu
      rw [List.getElem?_take] at hj
      split at hj
      · next hlt' => simp [hothers j u (by omega) hj]
      · exact absurd hj (by simp)
    have hafter : (threads.drop (i + 1)).countP p = 0 := by
      refine List.countP_eq_zero.2 fun u hu => ?_
      obtain ⟨j, hj⟩ := List.getElem?_of_mem hu
      rw [List.getElem?_drop] at hj
      simp [hothers (i + 1 + j) u (by omega) hj]
    rw [← List.take_append_drop i threads, List.drop_eq_getElem_cons hlt, List.countP_append, List.countP_cons,
      hbefore, hafter, heq, hpt]
    rfl
  · next hany =>
    refine List.countP_eq_zero.2 fun u hu hpu => hany ?_
    obtain ⟨j, hj⟩ := List.getElem?_of_mem hu
    rw [h.holder_eq hj (hp u hpu)]
    exact hpu

end Guarded

/-- The new thread is the holder. -/
lemma holder_spawn : holder (some threads.length) (threads ++ [t]) = some t := by
  rw [holder, Option.bind_some, List.getElem?_concat_length]

/-- **A count of threads** when one of them goes on. -/
theorem countP_set (p : T → Bool) (hi : threads[i]? = some t) (t' : T) :
    (threads.set i t').countP p + (p t).toNat = threads.countP p + (p t').toNat := by
  obtain ⟨hlt, rfl⟩ := List.getElem?_eq_some_iff.1 hi
  have hcount : (threads.take i ++ threads[i] :: threads.drop (i + 1)).countP p = threads.countP p := by
    rw [← List.drop_eq_getElem_cons hlt, List.take_append_drop]
  rw [List.set_eq_take_append_cons_drop, if_pos hlt, ← hcount, List.countP_append, List.countP_append,
    List.countP_cons, List.countP_cons]
  cases p threads[i] <;> cases p t' <;> simp <;> omega

/-- A sum over the threads when one of them goes on. -/
theorem sum_set (f : T → ℕ) (hi : threads[i]? = some t) (t' : T) :
    ((threads.set i t').map f).sum + f t = (threads.map f).sum + f t' := by
  obtain ⟨hlt, rfl⟩ := List.getElem?_eq_some_iff.1 hi
  have hsum : ((threads.take i ++ threads[i] :: threads.drop (i + 1)).map f).sum = (threads.map f).sum := by
    rw [← List.drop_eq_getElem_cons hlt, List.take_append_drop]
  rw [List.set_eq_take_append_cons_drop, if_pos hlt, ← hsum]
  simp only [List.map_append, List.map_cons, List.sum_append, List.sum_cons]
  omega

end Mutex
