import Mathlib.Logic.Function.Iterate
import Proxor.Main.JsonStore

set_option relaxedAutoImplicit false
set_option autoImplicit false

/-!
# What a restart leaves of a store

A store that is written, and read into a fresh store of its type. The writer leaves out an empty text, and the fresh
store has its default there; the reader takes numbers as `int` and as doubles.

## Main definitions

* `Proxor.Item.SameType`, `Proxor.fieldsSameType` — two values, or two stores, of one type.
* `Proxor.Item.readBack`, `Proxor.fieldsReadBack` — a value, or a store, that was written and read into a fresh one.
* `Proxor.fieldsRestored` — no text is empty that a fresh store has, and the numbers are those of the reader.

## Main results

* `Proxor.fieldsFromJson_fieldsToJson` — what comes back, field by field.
* `Proxor.JsonStore.comes_back_iff` — exactly the restored stores come back as they were, and every store stays as it is
  from the first restart on.
-/

namespace Proxor

/-! ### Stores of one type -/

mutual

/-- Two values of one kind. -/
def Item.SameType : Item → Item → Prop
  | .string _, .string _ => True
  | .integer _, .integer _ => True
  | .integer64 _, .integer64 _ => True
  | .boolean _, .boolean _ => True
  | .stringList _, .stringList _ => True
  | .integerList _, .integerList _ => True
  | .jsonStore fields, .jsonStore fields' => fieldsSameType fields fields'
  | _, _ => False

/-- Two stores that register the same fields, under names that differ. -/
def fieldsSameType : List (String × Item) → List (String × Item) → Prop
  | [], [] => True
  | field :: fields, field' :: fields' =>
    field'.1 ∉ fields'.map Prod.fst ∧ fieldSameType field field' ∧ fieldsSameType fields fields'
  | _, _ => False

/-- Two fields of one name and kind. -/
def fieldSameType : String × Item → String × Item → Prop
  | (name, item), (name', item') => name = name' ∧ item.SameType item'

end

mutual

/-- A value that was written and read into a fresh one. -/
def Item.readBack : Item → Item → Item
  | .string s, .string s' => .string (if s' = "" then s else s')
  | .integer _, .integer n => .integer (toInt n)
  | .integer64 _, .integer64 n => .integer64 (toDouble n)
  | .boolean _, .boolean b => .boolean b
  | .stringList _, .stringList l => .stringList l
  | .integerList _, .integerList l => .integerList (l.map toInt)
  | .jsonStore fields, .jsonStore fields' => .jsonStore (fieldsReadBack fields fields')
  | item, _ => item

/-- A store that was written and read into a fresh one. -/
def fieldsReadBack : List (String × Item) → List (String × Item) → List (String × Item)
  | field :: fields, field' :: fields' => fieldReadBack field field' :: fieldsReadBack fields fields'
  | fields, _ => fields

/-- A field that was written and read into a fresh one. -/
def fieldReadBack : String × Item → String × Item → String × Item
  | (name, item), (_, item') => (name, item.readBack item')

end

mutual

/-- A value that comes back as it was. -/
def Item.Restored : Item → Item → Prop
  | .string s, .string s' => s' = "" → s = ""
  | .integer _, .integer n => -2 ^ 31 ≤ n ∧ n < 2 ^ 31
  | .integer64 _, .integer64 n => ulp n.natAbs ∣ n.natAbs
  | .integerList _, .integerList l => ∀ n ∈ l, -2 ^ 31 ≤ n ∧ n < 2 ^ 31
  | .jsonStore fields, .jsonStore fields' => fieldsRestored fields fields'
  | _, _ => True

/-- A store that comes back as it was: a text is empty only where that of a fresh store is, an `int` is one, and a
double holds what has 64 bits; and so in the stores in it. -/
def fieldsRestored : List (String × Item) → List (String × Item) → Prop
  | field :: fields, field' :: fields' => fieldRestored field field' ∧ fieldsRestored fields fields'
  | _, _ => True

/-- A field that comes back as it was. -/
def fieldRestored : String × Item → String × Item → Prop
  | (_, item), (_, item') => item.Restored item'

end

/-! ### What comes back -/

/-- Names that are not registered are not written. -/
lemma get?_fieldsToJson_eq_none {fields : List (String × Item)} {key : String} (hkey : key ∉ fields.map Prod.fst) :
    (fieldsToJson fields).get? key = none := by
  have h := get?_fieldsToJson_append hkey []
  rw [List.append_nil] at h
  exact h

/-- A field is read from what was written of it. -/
lemma get?_fieldsToJson_cons {fields : List (String × Item)} {name : String} {item : Item}
    (hname : name ∉ fields.map Prod.fst) : (fieldsToJson ((name, item) :: fields)).get? name = item.toJson := by
  rw [fieldsToJson, fieldToJson]
  cases item.toJson with
  | none => exact get?_fieldsToJson_eq_none hname
  | some v => exact if_pos rfl

/-- The numbers of a list. -/
lemma map_toInt_eq_self {l : List ℤ} : l.map toInt = l ↔ ∀ n ∈ l, -2 ^ 31 ≤ n ∧ n < 2 ^ 31 := by
  have hone : ∀ n, toInt n = n ↔ -2 ^ 31 ≤ n ∧ n < 2 ^ 31 := by
    intro n
    rw [toInt]
    split_ifs with h
    · exact iff_of_true rfl h
    · exact ⟨fun heq => absurd heq (by omega), fun hrange => absurd hrange h⟩
  induction l with
  | nil => simp
  | cons n l ih =>
    rw [List.map_cons, List.cons.injEq, List.forall_mem_cons]
    exact and_congr (hone n) ih

mutual

/-- **What comes back of a value.** -/
lemma Item.fromJson_toJson : ∀ {item item' : Item}, item.SameType item' →
    (match item'.toJson with
      | some v => item.fromJson v
      | none => item) = item.readBack item'
  | .string s, .string s', _ => by
    rw [Item.toJson, Item.readBack]
    split_ifs <;> rfl
  | .integer _, .integer _, _ => rfl
  | .integer64 _, .integer64 _, _ => rfl
  | .boolean _, .boolean _, _ => rfl
  | .stringList _, .stringList l, _ => by
    rw [Item.toJson, Item.readBack]
    show Item.stringList ((l.map Json.str).map jsonToString) = _
    rw [List.map_map]
    exact congrArg Item.stringList (List.map_id l)
  | .integerList _, .integerList l, _ => by
    rw [Item.toJson, Item.readBack]
    show Item.integerList ((l.map Json.num).map jsonToInt) = _
    rw [List.map_map]
    rfl
  | .jsonStore fields, .jsonStore fields', h => by
    rw [Item.toJson, Item.readBack]
    exact congrArg Item.jsonStore (@fieldsFromJson_append_fieldsToJson _ _ [] h fun _ _ => List.not_mem_nil)

/-- **What comes back of a store**, with other fields before. -/
lemma fieldsFromJson_append_fieldsToJson : ∀ {fields fields' before : List (String × Item)},
    fieldsSameType fields fields' → (∀ name ∈ fields'.map Prod.fst, name ∉ before.map Prod.fst) →
      fieldsFromJson fields (fieldsToJson (before ++ fields')) = fieldsReadBack fields fields'
  | [], [], _, _, _ => rfl
  | (name, item) :: fields, (name', item') :: fields', before, ⟨hname, ⟨hsame, hitem⟩, h⟩, hbefore => by
    subst hsame
    have hfresh : name ∉ before.map Prod.fst := hbefore name (by simp)
    have hget : (fieldsToJson (before ++ (name, item') :: fields')).get? name = item'.toJson := by
      rw [get?_fieldsToJson_append hfresh, get?_fieldsToJson_cons hname]
    have hshift : before ++ (name, item') :: fields' = (before ++ [(name, item')]) ++ fields' := by simp
    have htail : fieldsFromJson fields (fieldsToJson (before ++ (name, item') :: fields')) =
        fieldsReadBack fields fields' := by
      rw [hshift]
      refine fieldsFromJson_append_fieldsToJson h fun other hother => ?_
      rw [List.map_append, List.mem_append, not_or]
      refine ⟨hbefore other (List.mem_cons_of_mem _ hother), fun hmem => ?_⟩
      rw [List.map_singleton, List.mem_singleton] at hmem
      exact hname (hmem ▸ hother)
    have hhead := Item.fromJson_toJson hitem
    rw [fieldsFromJson, htail, fieldsReadBack, fieldReadBack, fieldFromJson, hget, ← hhead]
    cases item'.toJson <;> rfl

end

/-- **What comes back of a store**, field by field. -/
theorem fieldsFromJson_fieldsToJson {fields fields' : List (String × Item)} (h : fieldsSameType fields fields') :
    fieldsFromJson fields (fieldsToJson fields') = fieldsReadBack fields fields' :=
  @fieldsFromJson_append_fieldsToJson _ _ [] h fun _ _ => List.not_mem_nil

mutual

/-- The values that come back as they were. -/
lemma Item.readBack_eq_self : ∀ {item item' : Item}, item.SameType item' →
    (item.readBack item' = item' ↔ item.Restored item')
  | .string s, .string s', _ => by
    rw [Item.readBack, Item.Restored, Item.string.injEq]
    by_cases hs : s' = ""
    · rw [if_pos hs, hs]
      simp
    · rw [if_neg hs]
      simp [hs]
  | .integer _, .integer n, _ => by
    rw [Item.readBack, Item.Restored, Item.integer.injEq]
    simpa using map_toInt_eq_self (l := [n])
  | .integer64 _, .integer64 n, _ => by
    rw [Item.readBack, Item.Restored, Item.integer64.injEq]
    exact toDouble_eq_self
  | .boolean _, .boolean _, _ => iff_of_true rfl trivial
  | .stringList _, .stringList _, _ => iff_of_true rfl trivial
  | .integerList _, .integerList l, _ => by
    rw [Item.readBack, Item.Restored, Item.integerList.injEq]
    exact map_toInt_eq_self
  | .jsonStore fields, .jsonStore fields', h => by
    rw [Item.readBack, Item.Restored, Item.jsonStore.injEq]
    exact fieldsReadBack_eq_self h

/-- The stores that come back as they were. -/
lemma fieldsReadBack_eq_self : ∀ {fields fields' : List (String × Item)}, fieldsSameType fields fields' →
    (fieldsReadBack fields fields' = fields' ↔ fieldsRestored fields fields')
  | [], [], _ => iff_of_true rfl trivial
  | (name, item) :: fields, (name', item') :: fields', ⟨_, ⟨hsame, hitem⟩, h⟩ => by
    subst hsame
    rw [fieldsReadBack, fieldReadBack, fieldsRestored, fieldRestored, List.cons.injEq, Prod.mk.injEq,
      Item.readBack_eq_self hitem, fieldsReadBack_eq_self h]
    simp

end

mutual

/-- What came back is of the same type, and comes back as it is. -/
lemma Item.restored_readBack : ∀ {item item' : Item}, item.SameType item' →
    item.SameType (item.readBack item') ∧ item.Restored (item.readBack item')
  | .string s, .string s', _ => by
    refine ⟨trivial, ?_⟩
    rw [Item.readBack, Item.Restored]
    split_ifs with hs
    · exact fun h => h
    · exact fun h => absurd h hs
  | .integer _, .integer n, _ => by
    refine ⟨trivial, ?_⟩
    rw [Item.readBack, Item.Restored, toInt]
    split_ifs with hn
    · exact hn
    · omega
  | .integer64 _, .integer64 n, _ => ⟨trivial, toDouble_eq_self.1 (toDouble_toDouble n)⟩
  | .boolean _, .boolean _, _ => ⟨trivial, trivial⟩
  | .stringList _, .stringList _, _ => ⟨trivial, trivial⟩
  | .integerList _, .integerList l, _ => by
    refine ⟨trivial, ?_⟩
    rw [Item.readBack, Item.Restored]
    intro n hn
    obtain ⟨m, -, rfl⟩ := List.mem_map.1 hn
    rw [toInt]
    split_ifs with hm
    · exact hm
    · omega
  | .jsonStore fields, .jsonStore fields', h => by
    rw [Item.readBack, Item.SameType, Item.Restored]
    exact (fieldsRestored_readBack h).2

/-- The same of stores. -/
lemma fieldsRestored_readBack : ∀ {fields fields' : List (String × Item)}, fieldsSameType fields fields' →
    (fieldsReadBack fields fields').map Prod.fst = fields'.map Prod.fst ∧
      fieldsSameType fields (fieldsReadBack fields fields') ∧ fieldsRestored fields (fieldsReadBack fields fields')
  | [], [], _ => ⟨rfl, trivial, trivial⟩
  | (name, item) :: fields, (name', item') :: fields', ⟨hname, ⟨hsame, hitem⟩, h⟩ => by
    subst hsame
    obtain ⟨hnames, htype, hrestored⟩ := fieldsRestored_readBack h
    obtain ⟨hitemType, hitemRestored⟩ := Item.restored_readBack hitem
    rw [fieldsReadBack, fieldReadBack]
    refine ⟨?_, ⟨?_, ⟨rfl, hitemType⟩, htype⟩, hitemRestored, hrestored⟩
    · rw [List.map_cons, List.map_cons, hnames]
    · rw [hnames]
      exact hname

end

namespace JsonStore

/-- A restart: what is written of a store is read into a fresh one. -/
def restart (fresh fields : JsonStore) : JsonStore := fresh.fromJson (fields.toJson [])

/-- What a restart leaves. -/
lemma restart_eq_fieldsReadBack {fresh fields : JsonStore} (h : fieldsSameType fresh fields) :
    restart fresh fields = fieldsReadBack fresh fields := by
  have hall : fields.filter (fun field => field.1 ∉ ([] : List String)) = fields := by simp
  rw [restart, fromJson, toJson, hall]
  exact fieldsFromJson_fieldsToJson h

/-- **What a restart leaves of a store.** A store of any type comes back as it was exactly if, in it and in the stores
in it, each text is empty only where that of a fresh store is, and the numbers are such as the reader takes. What a
restart changes is changed by the first: all that come after it change nothing.

**Proof sketch.** The names of a store differ, so each field is read from what was written of it, and the fields come
back one by one. What the reader takes from a number it takes as it is, and a text that was filled in is not empty, or
empty as the default is. -/
theorem comes_back_iff {fresh fields : JsonStore} (h : fieldsSameType fresh fields) :
    (restart fresh fields = fields ↔ fieldsRestored fresh fields) ∧
      ∀ n, (restart fresh)^[n + 1] fields = restart fresh fields := by
  obtain ⟨-, htype, hrestored⟩ := fieldsRestored_readBack h
  have hagain : restart fresh (restart fresh fields) = restart fresh fields := by
    rw [restart_eq_fieldsReadBack h, restart_eq_fieldsReadBack htype]
    exact (fieldsReadBack_eq_self htype).2 hrestored
  refine ⟨?_, fun n => ?_⟩
  · rw [restart_eq_fieldsReadBack h]
    exact fieldsReadBack_eq_self h
  · induction n with
    | zero => rfl
    | succ n ih => rw [Function.iterate_succ_apply', ih, hagain]

/-- A store with a text that a fresh one has, and a store in it. -/
def freshOne : JsonStore :=
  [("method", .string "auto"), ("window", .integer64 0), ("stream", .jsonStore [("net", .string "tcp")])]

/-- The same store after its texts were cleared. -/
def clearedOne : JsonStore :=
  [("method", .string ""), ("window", .integer64 (2 ^ 53 + 1)), ("stream", .jsonStore [("net", .string "")])]

/-- What is cleared comes back. -/
theorem comes_back_iff_cleared : fieldsSameType freshOne clearedOne ∧
    (restart freshOne clearedOne = clearedOne ↔ fieldsRestored freshOne clearedOne) ∧
      ∀ n, (restart freshOne)^[n + 1] clearedOne = restart freshOne clearedOne := by
  have htype : fieldsSameType freshOne clearedOne := by
    simp [freshOne, clearedOne, fieldsSameType, fieldSameType, Item.SameType]
  exact ⟨htype, comes_back_iff htype⟩

end JsonStore

end Proxor
