import Mathlib.Data.List.Sort
import Mathlib.Data.String.Basic

set_option relaxedAutoImplicit false
set_option autoImplicit false

/-!
# Reflected values

Values as a walk over the fields of their structs sees them: which are empty, and which fields with a JSON key they
carry, in embedded structs too. The keys that are not among the allowed ones come out sorted.

## Main definitions

* `Reflect.Value` — a value, with the fields of its structs.
* `Reflect.Value.isEmpty`, `Reflect.Value.keys` — whether it is empty, and the keys of what is not.
* `Reflect.Value.Carries`, `Reflect.Value.Only` — a value has a field that is not empty, and only allowed ones.
* `Reflect.Value.extraKeys` — the keys outside a list, sorted.

## Main results

* `Reflect.Value.mem_keys` — the walk finds what is carried, at every depth.
* `Reflect.Value.mem_extraKeys`, `Reflect.Value.head_extraKeys` — the extra keys, and the first of them.
-/

namespace Reflect

/-! ### Values -/

/-- The declaration of a field: one with a package path is not exported, and one without a name is embedded. -/
structure StructField where
  name : String
  pkgPath : String := ""
  jsonTag : Option String := none
  anonymous : Bool := false
deriving DecidableEq

/-- A value: a pointer or an interface, a slice or a map with its length, a struct, or one of another kind, of which
it counts whether it is the zero of its type. -/
inductive Value
  | scalar (zero : Bool)
  | seq (length : Option ℕ)
  | ref (target : Option Value)
  | struct (fields : List (StructField × Value))

/-- The name in a JSON tag: what is before the first comma. -/
def StructField.tagName (f : StructField) : String :=
  String.ofList (((f.jsonTag.getD "").toList).takeWhile (· ≠ ','))

/-- The field is walked through: it is embedded, and has no name of its own. -/
def StructField.flattened (f : StructField) : Bool :=
  f.anonymous && (f.jsonTag.isNone || f.tagName = "")

/-- The key of a field. -/
def StructField.key (f : StructField) : String := if f.tagName = "" then f.name else f.tagName

/-- The field is left out: it is not exported, or its tag is a dash. -/
def StructField.hidden (f : StructField) : Bool := f.pkgPath ≠ "" || f.tagName = "-"

namespace Value

mutual

/-- A value is the zero of its type. A slice that is empty but is not nil is none. -/
def isZero : Value → Bool
  | scalar zero => zero
  | seq length => length.isNone
  | ref target => target.isNone
  | struct fields => areZero fields

/-- All fields are zero. -/
def areZero : List (StructField × Value) → Bool
  | [] => true
  | (_, v) :: fields => v.isZero && areZero fields

end

/-- A value counts as empty. -/
def isEmpty : Value → Bool
  | seq length => length.getD 0 = 0
  | ref target => target.isNone
  | v => v.isZero

mutual

/-- The keys of the fields that are not empty, through pointers and embedded structs. -/
def keys : Value → List String
  | ref (some v) => v.keys
  | struct fields => keysOf fields
  | _ => []

/-- The keys of some fields. -/
def keysOf : List (StructField × Value) → List String
  | [] => []
  | (f, v) :: fields =>
    (if f.hidden then []
      else if f.flattened then v.keys
      else if v.isEmpty then []
      else [f.key]) ++ keysOf fields

end

/-- A value has a field with a key that is not empty: itself, behind a pointer, or in an embedded struct. -/
inductive Carries : Value → String → Prop
  | ref {v : Value} {key : String} : v.Carries key → (ref (some v)).Carries key
  | field {fields : List (StructField × Value)} {f : StructField} {v : Value} :
    (f, v) ∈ fields → f.hidden = false → f.flattened = false → v.isEmpty = false → (struct fields).Carries f.key
  | embedded {fields : List (StructField × Value)} {f : StructField} {v : Value} {key : String} :
    (f, v) ∈ fields → f.hidden = false → f.flattened = true → v.Carries key → (struct fields).Carries key

/-- All that a value carries is allowed. -/
def Only (v : Value) (allowed : List String) : Prop := ∀ key, v.Carries key → key ∈ allowed

/-- The keys outside `allowed`, sorted. -/
def extraKeys (v : Value) (allowed : List String) : List String :=
  (v.keys.filter (· ∉ allowed)).insertionSort (· ≤ ·)

/-! ### The walk -/

variable {fields : List (StructField × Value)} {key : String}

/-- A key of some fields comes from one of them. -/
lemma mem_keysOf :
    key ∈ keysOf fields ↔ ∃ f v, (f, v) ∈ fields ∧ f.hidden = false ∧
      ((f.flattened = true ∧ key ∈ v.keys) ∨ (f.flattened = false ∧ v.isEmpty = false ∧ f.key = key)) := by
  induction fields with
  | nil =>
    rw [keysOf]
    simp
  | cons field fields ih =>
    obtain ⟨f, v⟩ := field
    have hhead : key ∈ (if f.hidden then [] else if f.flattened then v.keys else if v.isEmpty then [] else [f.key]) ↔
        f.hidden = false ∧
          ((f.flattened = true ∧ key ∈ v.keys) ∨ (f.flattened = false ∧ v.isEmpty = false ∧ f.key = key)) := by
      cases f.hidden <;> cases f.flattened <;> cases v.isEmpty <;> simp [eq_comm]
    rw [keysOf, List.mem_append, ih, hhead]
    constructor
    · intro h
      rcases h with h | ⟨f', v', hmem, h⟩
      · exact ⟨f, v, List.mem_cons_self, h⟩
      · exact ⟨f', v', List.mem_cons_of_mem _ hmem, h⟩
    · intro h
      obtain ⟨f', v', hmem, h⟩ := h
      rcases List.mem_cons.1 hmem with heq | hmem
      · obtain ⟨rfl, rfl⟩ := Prod.mk.inj heq
        exact Or.inl h
      · exact Or.inr ⟨f', v', hmem, h⟩

/-- What is carried is found. -/
lemma mem_keys_of_carries {v : Value} (h : v.Carries key) : key ∈ v.keys := by
  induction h with
  | ref _ ih =>
    rw [keys]
    exact ih
  | field hmem hhidden hflat hempty =>
    rw [keys]
    exact mem_keysOf.2 ⟨_, _, hmem, hhidden, Or.inr ⟨hflat, hempty, rfl⟩⟩
  | embedded hmem hhidden hflat _ ih =>
    rw [keys]
    exact mem_keysOf.2 ⟨_, _, hmem, hhidden, Or.inl ⟨hflat, ih⟩⟩

mutual

/-- What is found is carried. -/
lemma carries_of_mem_keys : (v : Value) → key ∈ v.keys → v.Carries key
  | scalar _, h => absurd (show key ∈ [] from h) List.not_mem_nil
  | seq _, h => absurd (show key ∈ [] from h) List.not_mem_nil
  | ref none, h => absurd (show key ∈ [] from h) List.not_mem_nil
  | ref (some v), h => by
    rw [keys] at h
    exact .ref (carries_of_mem_keys v h)
  | struct fields, h => by
    rw [keys] at h
    obtain ⟨f, v, hmem, hhidden, ⟨hflat, hkey⟩ | ⟨hflat, hempty, rfl⟩⟩ := mem_keysOf.1 h
    · exact .embedded hmem hhidden hflat (carries_of_mem_field fields f v hmem hkey)
    · exact .field hmem hhidden hflat hempty

/-- What is found in a field is carried by it. -/
lemma carries_of_mem_field : (fields : List (StructField × Value)) → (f : StructField) → (v : Value) →
    (f, v) ∈ fields → key ∈ v.keys → v.Carries key
  | [], _, _, hmem, _ => absurd hmem List.not_mem_nil
  | (f', v') :: fields, f, v, hmem, h => by
    rcases List.mem_cons.1 hmem with heq | hmem
    · obtain ⟨rfl, rfl⟩ := Prod.mk.inj heq
      exact carries_of_mem_keys v h
    · exact carries_of_mem_field fields f v hmem h

end

/-- **The walk finds what is carried**, at every depth of embedding, and nothing else. -/
theorem mem_keys {v : Value} : key ∈ v.keys ↔ v.Carries key :=
  ⟨carries_of_mem_keys v, mem_keys_of_carries⟩

/-! ### The keys outside a list -/

variable {v : Value} {allowed : List String}

/-- **The extra keys** are those carried that are not allowed. -/
theorem mem_extraKeys : key ∈ v.extraKeys allowed ↔ v.Carries key ∧ key ∉ allowed := by
  rw [extraKeys, List.mem_insertionSort, List.mem_filter, mem_keys, decide_eq_true_iff]

/-- A struct with one field more has only what is allowed, if that field is allowed by its key. -/
lemma only_cons_of_mem {f : StructField} (hflat : f.flattened = false) (hkey : f.key ∈ allowed)
    (h : (struct fields).Only allowed) : (struct ((f, v) :: fields)).Only allowed := by
  intro key hcarries
  cases hcarries with
  | field hmem hhidden hflat' hempty =>
    rcases List.mem_cons.1 hmem with heq | hmem
    · obtain ⟨rfl, rfl⟩ := Prod.mk.inj heq
      exact hkey
    · exact h _ (.field hmem hhidden hflat' hempty)
  | embedded hmem hhidden hflat' hin =>
    rcases List.mem_cons.1 hmem with heq | hmem
    · obtain ⟨rfl, rfl⟩ := Prod.mk.inj heq
      exact absurd hflat' (hflat ▸ Bool.false_ne_true)
    · exact h _ (.embedded hmem hhidden hflat' hin)

/-- Some of the fields have only what is allowed, if all have. -/
lemma Only.mono {fields' : List (StructField × Value)} (h : (struct fields).Only allowed)
    (hsub : ∀ field ∈ fields', field ∈ fields) : (struct fields').Only allowed := by
  intro key hcarries
  cases hcarries with
  | field hmem hhidden hflat hempty => exact h _ (.field (hsub _ hmem) hhidden hflat hempty)
  | embedded hmem hhidden hflat hin => exact h _ (.embedded (hsub _ hmem) hhidden hflat hin)

/-- There are none if all that is carried is allowed. -/
lemma extraKeys_eq_nil : v.extraKeys allowed = [] ↔ v.Only allowed := by
  rw [List.eq_nil_iff_forall_not_mem]
  constructor
  · intro h key hkey
    by_contra hnot
    exact h key (mem_extraKeys.2 ⟨hkey, hnot⟩)
  · intro h key hkey
    obtain ⟨hcarries, hnot⟩ := mem_extraKeys.1 hkey
    exact hnot (h key hcarries)

/-- **The first of the extra keys** is the least one. -/
theorem head_extraKeys {rest : List String} (h : v.extraKeys allowed = key :: rest) :
    v.Carries key ∧ key ∉ allowed ∧ ∀ other, v.Carries other → other ∉ allowed → key ≤ other := by
  have hmem : key ∈ v.extraKeys allowed := h ▸ List.mem_cons_self
  have hsorted : (v.extraKeys allowed).Pairwise (· ≤ ·) := List.pairwise_insertionSort _ _
  obtain ⟨hcarries, hnot⟩ := mem_extraKeys.1 hmem
  refine ⟨hcarries, hnot, fun other hother hextra => ?_⟩
  have hin : other ∈ v.extraKeys allowed := mem_extraKeys.2 ⟨hother, hextra⟩
  rw [h] at hin hsorted
  rcases List.mem_cons.1 hin with heq | hrest
  · exact le_of_eq heq.symm
  · exact (List.pairwise_cons.1 hsorted).1 other hrest

end Value

end Reflect
