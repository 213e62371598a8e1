import Mathlib.Data.List.Basic
import Mathlib.Data.List.Sort
import Mathlib.Order.Defs.LinearOrder
import Mathlib.Tactic.Lemma

set_option relaxedAutoImplicit false
set_option autoImplicit false

/-!
# Ordered maps

A finite map whose entries are kept in the order of their keys, which is the order in which they are
enumerated. Two maps with the same lookups are equal.

## Main definitions

* `OrdMap` — finite maps with ordered keys.
* `OrdMap.get?`, `OrdMap.insert`, `OrdMap.erase`, `OrdMap.map` — the operations.
* `OrdMap.keys` — the keys, in order.
* `Enumerates` — a list has exactly the elements with a property, in order and without repeats.

## Main results

* `OrdMap.ext_get?` — a map is determined by its lookups.
* `OrdMap.get?_insert`, `OrdMap.get?_erase`, `OrdMap.get?_map` — the lookups after each operation.
* `Enumerates.unique` — there is only one such list.
-/

universe u v w

/-! ### Ordered enumerations -/

section Enumerates

variable {κ : Type u} [LinearOrder κ]

/-- The list has exactly the elements with the property, in order and without repeats. -/
def Enumerates (l : List κ) (p : κ → Prop) : Prop := l.Pairwise (· < ·) ∧ ∀ k, k ∈ l ↔ p k

/-- Only one list enumerates a property. -/
theorem Enumerates.unique {l l' : List κ} {p : κ → Prop} (h : Enumerates l p)
    (h' : Enumerates l' p) : l = l' := by
  have hnodup : l.Nodup := h.1.imp fun hlt => hlt.ne
  have hnodup' : l'.Nodup := h'.1.imp fun hlt => hlt.ne
  have hperm : l.Perm l' :=
    (List.perm_ext_iff_of_nodup hnodup hnodup').2 fun k => (h.2 k).trans (h'.2 k).symm
  exact hperm.eq_of_pairwise (fun a b _ _ hab hba => absurd (hab.trans hba) (lt_irrefl a)) h.1 h'.1

lemma Enumerates.nodup {l : List κ} {p : κ → Prop} (h : Enumerates l p) : l.Nodup :=
  h.1.imp fun hlt => hlt.ne

lemma Enumerates.congr {l : List κ} {p q : κ → Prop} (h : Enumerates l p) (hpq : ∀ k, p k ↔ q k) :
    Enumerates l q := ⟨h.1, fun k => (h.2 k).trans (hpq k)⟩

/-- Leaving some elements out. -/
lemma Enumerates.filter {l : List κ} {p : κ → Prop} (h : Enumerates l p) (q : κ → Bool) :
    Enumerates (l.filter q) fun k => p k ∧ q k = true :=
  ⟨h.1.filter q, fun k => by rw [List.mem_filter, h.2]⟩

/-- Adding one element that is greater than all. -/
lemma Enumerates.concat {l : List κ} {p : κ → Prop} (h : Enumerates l p) {k : κ}
    (hk : ∀ k', p k' → k' < k) : Enumerates (l ++ [k]) fun k' => p k' ∨ k' = k := by
  refine ⟨List.pairwise_append.2 ⟨h.1, List.pairwise_singleton _ _, fun a ha b hb => ?_⟩, fun k' => ?_⟩
  · rw [List.mem_singleton.1 hb]
    exact hk a ((h.2 a).1 ha)
  · rw [List.mem_append, List.mem_singleton, h.2]

/-- The last element is the greatest. -/
lemma Enumerates.le_getLast {l : List κ} {p : κ → Prop} (h : Enumerates l p) {k : κ} (hk : p k)
    (d : κ) : k ≤ l.getLast?.getD d := by
  have hmem : k ∈ l := (h.2 k).2 hk
  rcases List.eq_nil_or_concat l with hnil | ⟨init, last, hl⟩
  · exact absurd (hnil ▸ hmem) List.not_mem_nil
  · have hlt := h.1
    rw [hl, List.concat_eq_append] at hmem hlt ⊢
    rw [List.getLast?_concat, Option.getD_some]
    rcases List.mem_append.1 hmem with hk | hk
    · exact ((List.pairwise_append.1 hlt).2.2 k hk last (List.mem_singleton_self last)).le
    · exact (List.mem_singleton.1 hk).le

/-- Sorting what lists the elements without repeats. -/
lemma enumerates_mergeSort {l : List κ} (h : l.Nodup) :
    Enumerates (l.mergeSort fun a b => decide (a ≤ b)) fun k => k ∈ l := by
  have hperm : (l.mergeSort fun a b => decide (a ≤ b)).Perm l := List.mergeSort_perm l _
  have hle : (l.mergeSort fun a b => decide (a ≤ b)).Pairwise fun a b => decide (a ≤ b) = true := by
    refine List.pairwise_mergeSort (fun a b c hab hbc => ?_) (fun a b => ?_) l
    · simp only [decide_eq_true_eq] at hab hbc ⊢
      exact hab.trans hbc
    · simp only [Bool.or_eq_true, decide_eq_true_eq]
      exact le_total a b
  have hne : (l.mergeSort fun a b => decide (a ≤ b)).Pairwise (· ≠ ·) := hperm.nodup_iff.2 h
  refine ⟨?_, fun k => hperm.mem_iff⟩
  exact (hle.and hne).imp fun hab => lt_of_le_of_ne (of_decide_eq_true hab.1) hab.2

end Enumerates

/-! ### Maps -/

/-- A finite map, as its entries in the order of their keys. -/
structure OrdMap (κ : Type u) [LinearOrder κ] (α : Type v) where
  entries : List (κ × α)
  sorted : (entries.map Prod.fst).Pairwise (· < ·)

namespace OrdMap

variable {κ : Type u} [LinearOrder κ] {α : Type v} {β : Type w}

/-- No entries. -/
def empty : OrdMap κ α := ⟨[], .nil⟩

/-- The keys, in order. -/
def keys (m : OrdMap κ α) : List κ := m.entries.map Prod.fst

/-- What is stored under a key. -/
def get? (m : OrdMap κ α) (k : κ) : Option α := (m.entries.find? fun e => e.1 = k).map Prod.snd

/-- Whether something is stored under a key. -/
def contains (m : OrdMap κ α) (k : κ) : Bool := (m.get? k).isSome

/-- The number of entries. -/
def size (m : OrdMap κ α) : ℕ := m.entries.length

/-- The entries with one more, or one replaced. -/
def insertEntry (k : κ) (v : α) : List (κ × α) → List (κ × α)
  | [] => [(k, v)]
  | e :: es =>
    if k < e.1 then (k, v) :: e :: es else if k = e.1 then (k, v) :: es else e :: insertEntry k v es

lemma mem_map_fst_insertEntry {k k' : κ} {v : α} {es : List (κ × α)} :
    k' ∈ (insertEntry k v es).map Prod.fst ↔ k' = k ∨ k' ∈ es.map Prod.fst := by
  induction es with
  | nil => simp [insertEntry]
  | cons e es ih =>
    unfold insertEntry
    split_ifs with hlt heq
    · simp
    · simp [heq]
    · simp only [List.map_cons, List.mem_cons, ih]
      tauto

lemma pairwise_insertEntry {k : κ} {v : α} {es : List (κ × α)}
    (h : (es.map Prod.fst).Pairwise (· < ·)) :
    ((insertEntry k v es).map Prod.fst).Pairwise (· < ·) := by
  induction es with
  | nil => exact List.pairwise_singleton _ _
  | cons e es ih =>
    have htail : ∀ k' ∈ es.map Prod.fst, e.1 < k' := fun _ hk' => List.rel_of_pairwise_cons h hk'
    unfold insertEntry
    split_ifs with hlt heq
    · refine List.pairwise_cons.2 ⟨fun k' hk' => ?_, h⟩
      rcases List.mem_cons.1 hk' with rfl | hk'
      · exact hlt
      · exact hlt.trans (htail k' hk')
    · rw [List.map_cons, List.pairwise_cons]
      exact ⟨fun k' hk' => heq ▸ htail k' hk', h.of_cons⟩
    · rw [List.map_cons, List.pairwise_cons]
      refine ⟨fun k' hk' => ?_, ih h.of_cons⟩
      rcases mem_map_fst_insertEntry.1 hk' with rfl | hk'
      · exact lt_of_le_of_ne (not_lt.1 hlt) (Ne.symm heq)
      · exact htail k' hk'

/-- Store something under a key. -/
def insert (m : OrdMap κ α) (k : κ) (v : α) : OrdMap κ α :=
  ⟨insertEntry k v m.entries, pairwise_insertEntry m.sorted⟩

/-- Remove what is stored under a key. -/
def erase (m : OrdMap κ α) (k : κ) : OrdMap κ α :=
  ⟨m.entries.filter fun e => e.1 ≠ k,
    m.sorted.sublist ((List.filter_sublist (p := fun e : κ × α => decide (e.1 ≠ k))).map Prod.fst)⟩

/-- Keep what is stored under some of the keys. -/
def filter (m : OrdMap κ α) (keep : κ → Bool) : OrdMap κ α :=
  ⟨m.entries.filter fun e => keep e.1, m.sorted.sublist (List.filter_sublist.map Prod.fst)⟩

/-- Change everything that is stored. -/
def map (m : OrdMap κ α) (f : α → β) : OrdMap κ β :=
  ⟨m.entries.map fun e => (e.1, f e.2), by
    rw [List.map_map]
    exact m.sorted⟩

/-! ### Lookups -/

lemma find?_insertEntry {k : κ} {v : α} (k' : κ) (es : List (κ × α))
    (h : (es.map Prod.fst).Pairwise (· < ·)) :
    ((insertEntry k v es).find? fun e => e.1 = k').map Prod.snd =
      if k' = k then some v else (es.find? fun e => e.1 = k').map Prod.snd := by
  induction es with
  | nil =>
    by_cases hk : k' = k
    · simp [insertEntry, hk]
    · simp [insertEntry, hk, Ne.symm hk]
  | cons e es ih =>
    unfold insertEntry
    by_cases hlt : k < e.1
    · rw [if_pos hlt]
      by_cases hk : k' = k
      · simp [hk]
      · simp [List.find?_cons, hk, Ne.symm hk]
    · rw [if_neg hlt]
      by_cases heq : k = e.1
      · rw [if_pos heq]
        by_cases hk : k' = k
        · simp [hk]
        · have he : ¬ e.1 = k' := fun h => hk (h ▸ heq.symm)
          simp [hk, Ne.symm hk, he]
      · rw [if_neg heq, List.find?_cons, List.find?_cons]
        by_cases he : e.1 = k'
        · have hk : ¬ k' = k := fun h => heq (h ▸ he.symm)
          simp [he, hk]
        · simp only [he, decide_false]
          exact ih h.of_cons

@[simp] lemma get?_empty (k : κ) : (empty : OrdMap κ α).get? k = none := rfl

/-- What is stored after something was stored. -/
theorem get?_insert (m : OrdMap κ α) (k : κ) (v : α) (k' : κ) :
    (m.insert k v).get? k' = if k' = k then some v else m.get? k' :=
  find?_insertEntry k' m.entries m.sorted

@[simp] lemma get?_insert_self (m : OrdMap κ α) (k : κ) (v : α) :
    (m.insert k v).get? k = some v := by rw [get?_insert, if_pos rfl]

lemma get?_insert_of_ne (m : OrdMap κ α) {k k' : κ} (v : α) (h : k' ≠ k) :
    (m.insert k v).get? k' = m.get? k' := by rw [get?_insert, if_neg h]

@[simp] lemma contains_insert_self (m : OrdMap κ α) (k : κ) (v : α) :
    (m.insert k v).contains k = true := by
  rw [contains, get?_insert_self, Option.isSome_some]

/-- What is stored after something was removed. -/
theorem get?_erase (m : OrdMap κ α) (k k' : κ) :
    (m.erase k).get? k' = if k' = k then none else m.get? k' := by
  unfold get? erase
  dsimp only
  rw [List.find?_filter]
  split_ifs with hk
  · subst hk
    rw [List.find?_eq_none.2, Option.map_none]
    simp
  · congr 2
    funext e
    by_cases he : e.1 = k'
    · simp [he, hk]
    · simp [he]

@[simp] lemma get?_erase_self (m : OrdMap κ α) (k : κ) : (m.erase k).get? k = none := by
  rw [get?_erase, if_pos rfl]

lemma get?_erase_of_ne (m : OrdMap κ α) {k k' : κ} (h : k' ≠ k) :
    (m.erase k).get? k' = m.get? k' := by rw [get?_erase, if_neg h]

/-- What is stored after some keys were kept. -/
theorem get?_filter (m : OrdMap κ α) (keep : κ → Bool) (k : κ) :
    (m.filter keep).get? k = if keep k then m.get? k else none := by
  unfold get? filter
  dsimp only
  rw [List.find?_filter]
  split_ifs with hk
  · congr 2
    funext e
    by_cases he : e.1 = k
    · simp [he, hk]
    · simp [he]
  · rw [List.find?_eq_none.2, Option.map_none]
    rintro e -
    by_cases he : e.1 = k
    · simp [he, hk]
    · simp [he]

/-- What is stored after everything was changed. -/
@[simp] theorem get?_map (m : OrdMap κ α) (f : α → β) (k : κ) :
    (m.map f).get? k = (m.get? k).map f := by
  unfold get? map
  dsimp only
  rw [List.find?_map, Option.map_map, Option.map_map]
  rfl

/-! ### Keys -/

/-- The entries are what the lookups return. -/
lemma mem_entries (m : OrdMap κ α) {k : κ} {v : α} : (k, v) ∈ m.entries ↔ m.get? k = some v := by
  have hnodup : (m.entries.map Prod.fst).Nodup := m.sorted.imp fun hlt => hlt.ne
  unfold get?
  constructor
  · intro hmem
    obtain ⟨e, he⟩ : ∃ e, m.entries.find? (fun e => decide (e.1 = k)) = some e := by
      rw [← Option.isSome_iff_exists, List.find?_isSome]
      exact ⟨(k, v), hmem, by simp⟩
    have hk : e.1 = k := of_decide_eq_true (List.find?_some he :)
    have heq : e = (k, v) :=
      List.inj_on_of_nodup_map hnodup (List.mem_of_find?_eq_some he) hmem hk
    rw [he, heq]
    rfl
  · intro hget
    obtain ⟨e, he, rfl⟩ := Option.map_eq_some_iff.1 hget
    have hk : e.1 = k := of_decide_eq_true (List.find?_some he :)
    rw [← hk]
    exact List.mem_of_find?_eq_some he

lemma mem_keys (m : OrdMap κ α) {k : κ} : k ∈ m.keys ↔ ∃ v, m.get? k = some v := by
  unfold keys
  rw [List.mem_map]
  constructor
  · rintro ⟨⟨k', v⟩, hmem, rfl⟩
    exact ⟨v, m.mem_entries.1 hmem⟩
  · rintro ⟨v, hv⟩
    exact ⟨(k, v), m.mem_entries.2 hv, rfl⟩

lemma contains_iff (m : OrdMap κ α) {k : κ} : m.contains k = true ↔ k ∈ m.keys := by
  rw [mem_keys, contains, Option.isSome_iff_exists]

lemma get?_eq_none (m : OrdMap κ α) {k : κ} : m.get? k = none ↔ k ∉ m.keys := by
  rw [mem_keys, Option.eq_none_iff_forall_ne_some, not_exists]

/-- The keys are enumerated in order. -/
theorem enumerates_keys (m : OrdMap κ α) : Enumerates m.keys fun k => ∃ v, m.get? k = some v :=
  ⟨m.sorted, fun _ => m.mem_keys⟩

lemma nodup_keys (m : OrdMap κ α) : m.keys.Nodup := m.enumerates_keys.nodup

lemma length_keys (m : OrdMap κ α) : m.keys.length = m.size := List.length_map ..

@[simp] lemma keys_map (m : OrdMap κ α) (f : α → β) : (m.map f).keys = m.keys :=
  List.map_map ..

/-- The keys of two maps with the same domain. -/
lemma keys_congr {m : OrdMap κ α} {m' : OrdMap κ β}
    (h : ∀ k, (m.get? k).isSome = (m'.get? k).isSome) : m.keys = m'.keys := by
  refine m.enumerates_keys.unique (m'.enumerates_keys.congr fun k => ?_)
  rw [← Option.isSome_iff_exists, ← Option.isSome_iff_exists, h]

/-- Storing something under a new greatest key. -/
lemma keys_insert_of_lt (m : OrdMap κ α) {k : κ} (v : α) (h : ∀ k' ∈ m.keys, k' < k) :
    (m.insert k v).keys = m.keys ++ [k] := by
  refine (m.insert k v).enumerates_keys.unique
    ((m.enumerates_keys.concat (k := k) fun k' hk' => h k' (m.mem_keys.2 hk')).congr fun k' => ?_)
  rw [get?_insert]
  by_cases hk : k' = k
  · simp [hk]
  · simp [hk]

/-- Storing something under a key that is there. -/
lemma keys_insert_of_mem (m : OrdMap κ α) {k : κ} (v : α) (h : k ∈ m.keys) :
    (m.insert k v).keys = m.keys := by
  refine keys_congr fun k' => ?_
  rw [get?_insert]
  split_ifs with hk
  · obtain ⟨v', hv'⟩ := m.mem_keys.1 h
    rw [hk, hv']
    rfl
  · rfl

/-- Removing a key. -/
lemma keys_erase (m : OrdMap κ α) (k : κ) : (m.erase k).keys = m.keys.filter fun k' => k' ≠ k := by
  refine (m.erase k).enumerates_keys.unique
    ((m.enumerates_keys.filter fun k' => decide (k' ≠ k)).congr fun k' => ?_)
  rw [get?_erase]
  by_cases hk : k' = k
  · simp [hk]
  · simp [hk]

/-- A map is determined by its lookups. -/
theorem ext_get? {m m' : OrdMap κ α} (h : ∀ k, m.get? k = m'.get? k) : m = m' := by
  have hmem : ∀ e, e ∈ m.entries ↔ e ∈ m'.entries := by
    rintro ⟨k, v⟩
    rw [mem_entries, mem_entries, h]
  have hlt : m.entries.Pairwise fun a b => a.1 < b.1 := List.pairwise_map.1 m.sorted
  have hlt' : m'.entries.Pairwise fun a b => a.1 < b.1 := List.pairwise_map.1 m'.sorted
  have hperm : m.entries.Perm m'.entries :=
    (List.perm_ext_iff_of_nodup (hlt.imp fun hab heq => (heq ▸ hab).ne rfl)
      (hlt'.imp fun hab heq => (heq ▸ hab).ne rfl)).2 hmem
  have heq : m.entries = m'.entries :=
    hperm.eq_of_pairwise (fun a b _ _ hab hba => absurd (hab.trans hba) (lt_irrefl _)) hlt hlt'
  cases m
  cases m'
  simpa using heq

lemma size_eq_zero (m : OrdMap κ α) : m.size = 0 ↔ ∀ k, m.get? k = none := by
  constructor
  · intro h k
    rw [get?_eq_none, List.length_eq_zero_iff.1 (m.length_keys.trans h)]
    exact List.not_mem_nil
  · intro h
    have hnil : m.keys = [] := List.eq_nil_iff_forall_not_mem.2 fun k => m.get?_eq_none.1 (h k)
    rw [← length_keys, hnil]
    rfl

lemma exists_get? (m : OrdMap κ α) (h : m.size ≠ 0) : ∃ k v, m.get? k = some v := by
  by_contra hnone
  refine h (m.size_eq_zero.2 fun k => Option.eq_none_iff_forall_ne_some.2 fun v hv => ?_)
  exact hnone ⟨k, v, hv⟩

/-! ### Filling a map -/

/-- Entries stored one after the other, under different keys. -/
lemma get?_foldl_insert (f : κ → α → β) {l : List (κ × α)} (hl : (l.map Prod.fst).Nodup)
    (m : OrdMap κ β) (k : κ) :
    (∀ v, (k, v) ∈ l → (l.foldl (fun m e => m.insert e.1 (f e.1 e.2)) m).get? k = some (f k v)) ∧
      (k ∉ l.map Prod.fst →
        (l.foldl (fun m e => m.insert e.1 (f e.1 e.2)) m).get? k = m.get? k) := by
  induction l generalizing m with
  | nil => exact ⟨fun v hv => absurd hv List.not_mem_nil, fun _ => rfl⟩
  | cons e l ih =>
    rw [List.map_cons, List.nodup_cons] at hl
    obtain ⟨hmem, hnot⟩ := ih hl.2 (m.insert e.1 (f e.1 e.2))
    rw [List.foldl_cons]
    constructor
    · intro v hv
      rcases List.mem_cons.1 hv with rfl | hv
      · rw [hnot hl.1, get?_insert_self]
      · exact hmem v hv
    · intro hk
      rw [List.map_cons, List.mem_cons, not_or] at hk
      rw [hnot hk.2, get?_insert_of_ne _ _ hk.1]

/-- A map filled from the entries of another one. -/
lemma get?_foldl_entries (f : κ → α → β) (m : OrdMap κ α) (k : κ) :
    (m.entries.foldl (fun m e => m.insert e.1 (f e.1 e.2)) empty).get? k = (m.get? k).map (f k) := by
  obtain ⟨hmem, hnot⟩ := get?_foldl_insert f m.nodup_keys (empty : OrdMap κ β) k
  cases hk : m.get? k with
  | none => exact hnot (m.get?_eq_none.1 hk)
  | some v => exact hmem v (m.mem_entries.2 hk)

end OrdMap
