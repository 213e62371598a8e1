import Mathlib.Data.List.Basic
import Mathlib.Data.List.DropRight
import Mathlib.Data.List.SplitOn
import Mathlib.Data.Nat.Notation
import Mathlib.Tactic.Lemma

set_option relaxedAutoImplicit false
set_option autoImplicit false

/-!
# Texts as bytes

A text that comes from outside is a list of bytes, which need not be well-formed UTF-8. Its lines, its
fields between white space, the last element of a path, and a list of bytes in hexadecimal.

## Main definitions

* `Bytes.lines`, `Bytes.fields` — the pieces of a text.
* `Bytes.pathBase` — the last element of a path.
* `Bytes.hexEncode` — bytes in hexadecimal.

## Main results

* `Bytes.ne_nil_of_mem_fields` — no field is empty.
* `Bytes.lines_append_newlines` — newlines after a line make empty lines.
-/

/-- A list of bytes. -/
abbrev Bytes : Type := List UInt8

namespace Bytes

/-- A text as its bytes. -/
def ofString (s : String) : Bytes := s.toUTF8.data.toList

/-! ### Lines and fields -/

/-- The pieces between newlines. -/
def lines (text : Bytes) : List Bytes := text.splitOn 10

/-- The white space of Unicode, in UTF-8. -/
def spaces : List Bytes :=
  [[9], [10], [11], [12], [13], [32], [0xC2, 0x85], [0xC2, 0xA0], [0xE1, 0x9A, 0x80]] ++
    ((List.range 11).map fun i => [0xE2, 0x80, 0x80 + UInt8.ofNat i]) ++
    [[0xE2, 0x80, 0xA8], [0xE2, 0x80, 0xA9], [0xE2, 0x80, 0xAF], [0xE2, 0x81, 0x9F],
      [0xE3, 0x80, 0x80]]

/-- The length of the white space a text starts with, zero if it starts with something else. -/
def spaceLength (text : Bytes) : ℕ := ((spaces.find? (·.isPrefixOf text)).map List.length).getD 0

/-- The fields of a text behind `word`, of which `skip` bytes belong to white space. -/
def fieldsAux : (skip : ℕ) → (word : Bytes) → Bytes → List Bytes
  | _, word, [] => if word = [] then [] else [word]
  | skip + 1, word, _ :: bs => fieldsAux skip word bs
  | 0, word, b :: bs =>
    if spaceLength (b :: bs) = 0 then fieldsAux 0 (word ++ [b]) bs
    else
      let rest := fieldsAux (spaceLength (b :: bs) - 1) [] bs
      if word = [] then rest else word :: rest

/-- The fields of a text, between runs of white space. -/
def fields (text : Bytes) : List Bytes := fieldsAux 0 [] text

/-- No field is empty.

**Proof sketch.** By induction on the text: a word is made a field only if it is not empty. -/
lemma ne_nil_of_mem_fieldsAux {skip : ℕ} {word text field : Bytes}
    (h : field ∈ fieldsAux skip word text) : field ≠ [] := by
  induction text generalizing skip word with
  | nil =>
    rw [fieldsAux] at h
    split_ifs at h with hword
    · exact absurd h List.not_mem_nil
    · rw [List.mem_singleton.1 h]
      exact hword
  | cons b bs ih =>
    cases skip with
    | succ skip => exact ih h
    | zero =>
      rw [fieldsAux] at h
      split_ifs at h with hspace hword
      · exact ih h
      · exact ih h
      · rcases List.mem_cons.1 h with rfl | h
        · exact hword
        · exact ih h

lemma ne_nil_of_mem_fields {text field : Bytes} (h : field ∈ fields text) : field ≠ [] :=
  ne_nil_of_mem_fieldsAux h

/-- Newlines after a line make empty lines. -/
lemma lines_append_newlines {line : Bytes} (h : 10 ∉ line) (n : ℕ) :
    lines (line ++ List.replicate n 10) = line :: List.replicate n [] := by
  have hnewlines : ∀ n, List.splitOn (10 : UInt8) (List.replicate n 10) =
      List.replicate (n + 1) [] := by
    intro n
    induction n with
    | zero => rfl
    | succ n ih =>
      rw [List.replicate_succ, ← List.nil_append (10 :: _), List.splitOn_append_cons_self, ih]
      rfl
  cases n with
  | zero => rw [List.replicate_zero, List.append_nil, lines, List.splitOn_eq_singleton h]; rfl
  | succ n =>
    rw [List.replicate_succ, lines, List.splitOn_append_cons_self_of_not_mem h, hnewlines]

/-! ### Paths and digits -/

/-- The last element of a path. -/
def pathBase (path : Bytes) : Bytes :=
  if path = [] then [46]
  else
    let trimmed := path.rdropWhile (· = 47)
    if trimmed = [] then [47] else trimmed.rtakeWhile (· ≠ 47)

/-- A digit in hexadecimal. -/
def hexDigit (n : ℕ) : UInt8 := UInt8.ofNat (if n < 10 then 48 + n else 87 + n)

/-- Bytes in hexadecimal. -/
def hexEncode (bs : Bytes) : Bytes := bs.flatMap fun b => [hexDigit (b.toNat / 16), hexDigit (b.toNat % 16)]

end Bytes
