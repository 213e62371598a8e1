import Proxor.Lib.Double
import Proxor.Lib.Json

set_option relaxedAutoImplicit false
set_option autoImplicit false

/-!
# Stores that are written as JSON

A `JsonStore` registers some of its fields under names. `ToJson` writes their values, but no empty
text, and `FromJson` reads those it finds with the right type into a store that has values already.

## Main definitions

* `Proxor.Item` — the value of a registered field.
* `Proxor.JsonStore` — the registered fields of a store.
* `Proxor.JsonStore.toJson`, `Proxor.JsonStore.fromJson` — the writer and the reader.
-/

namespace Proxor

/-- The value of a registered field, by `itemType`. -/
inductive Item
  | string (s : String)
  | integer (n : ℤ)
  | integer64 (n : ℤ)
  | boolean (b : Bool)
  | stringList (l : List String)
  | integerList (l : List ℤ)
  | jsonStore (fields : List (String × Item))

/-- The registered fields of a store. -/
abbrev JsonStore := List (String × Item)

/-- `QJsonValue::toInt`: 0 for what is no `int`. -/
def toInt (n : ℤ) : ℤ := if -2 ^ 31 ≤ n ∧ n < 2 ^ 31 then n else 0

/-- `QJsonValue::toString`. -/
def jsonToString : Json → String
  | .str s => s
  | _ => ""

/-- `QJsonValue::toInt` of a value. -/
def jsonToInt : Json → ℤ
  | .num n => toInt n
  | _ => 0

mutual

/-- The value of a field as it is written: an empty text is not. -/
def Item.toJson : Item → Option Json
  | .string s => if s = "" then none else some (.str s)
  | .integer n => some (.num n)
  | .integer64 n => some (.num n)
  | .boolean b => some (.bool b)
  | .stringList l => some (.arr (l.map .str))
  | .integerList l => some (.arr (l.map .num))
  | .jsonStore fields => some (.obj (fieldsToJson fields))

/-- The fields as they are written. -/
def fieldsToJson : List (String × Item) → JsonObject
  | [] => []
  | field :: fields => fieldToJson field ++ fieldsToJson fields

/-- A field as it is written. -/
def fieldToJson : String × Item → JsonObject
  | (name, item) =>
    match item.toJson with
    | some v => [(name, v)]
    | none => []

end

mutual

/-- What is read into a field: a value of another type leaves it. -/
def Item.fromJson : Item → Json → Item
  | .string _, .str s => .string s
  | .integer _, .num n => .integer (toInt n)
  | .integer64 _, .num n => .integer64 (toDouble n)
  | .boolean _, .bool b => .boolean b
  | .stringList _, .arr l => .stringList (l.map jsonToString)
  | .integerList _, .arr l => .integerList (l.map jsonToInt)
  | .jsonStore fields, .obj o => .jsonStore (fieldsFromJson fields o)
  | item, _ => item

/-- What is read into the fields. -/
def fieldsFromJson : List (String × Item) → JsonObject → List (String × Item)
  | [], _ => []
  | field :: fields, o => fieldFromJson field o :: fieldsFromJson fields o

/-- What is read into a field of an object. -/
def fieldFromJson : String × Item → JsonObject → String × Item
  | (name, item), o =>
    match o.get? name with
    | some v => (name, item.fromJson v)
    | none => (name, item)

end

/-- What is written under other names does not matter. -/
lemma get?_fieldsToJson_append {fields : List (String × Item)} {key : String}
    (hkey : key ∉ fields.map Prod.fst) (rest : List (String × Item)) :
    (fieldsToJson (fields ++ rest)).get? key = (fieldsToJson rest).get? key := by
  induction fields with
  | nil => rfl
  | cons field fields ih =>
    obtain ⟨name, item⟩ := field
    rw [List.map_cons, List.mem_cons, not_or] at hkey
    rw [List.cons_append, fieldsToJson, fieldToJson]
    cases item.toJson with
    | none => exact ih hkey.2
    | some v => exact (if_neg (Ne.symm hkey.1)).trans (ih hkey.2)

namespace JsonStore

/-- `ToJson`. -/
def toJson (fields : JsonStore) (without : List String) : JsonObject :=
  fieldsToJson (fields.filter fun field => field.1 ∉ without)

/-- `FromJson`. -/
def fromJson (fields : JsonStore) (o : JsonObject) : JsonStore := fieldsFromJson fields o

end JsonStore

end Proxor
