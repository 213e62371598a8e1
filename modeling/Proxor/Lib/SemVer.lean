import Mathlib.Algebra.Group.Nat.Defs
import Mathlib.Data.Char
import Mathlib.Data.List.Lex
import Mathlib.Data.Prod.Lex
import Mathlib.Data.Sum.Order
import Mathlib.Order.WithBot
import Proxor.Lib.Text

set_option relaxedAutoImplicit false
set_option autoImplicit false

/-!
# Semantic versions

The text of a semantic version and its precedence: the numbers first, a version before a release of
the same numbers, and the identifiers of two such versions from the left, numbers before texts.

## Main definitions

* `SemVer.Version` — a version.
* `SemVer.newVersion` — the version of a text.
* `SemVer.Version.precedence` — its place in a linear order.

## Main results

* `SemVer.Version.lt_congr`, `SemVer.Version.le_of_sameNumbers` — versions without identifiers are
  compared by their numbers.
-/

namespace SemVer

open Text (splitAt)

/-- A version. -/
structure Version where
  major : ℕ
  minor : ℕ
  patch : ℕ
  prerelease : String
  metadata : String
  deriving DecidableEq

/-- What an identifier may have besides dots. -/
def isIdentifierChar (c : Char) : Bool := c.isAlphanum || c = '-'

/-- An unsigned number of 64 bits. -/
def parseUint (s : String) : Option ℕ := (Text.parseDigits s.toList).filter (· < 2 ^ 64)

/-- The identifiers of a prerelease, none empty and no number with a leading zero. -/
def validPrerelease (s : String) : Bool :=
  (splitAt s '.').all fun part =>
    part ≠ "" && part.toList.all isIdentifierChar &&
      !(part.toList.all Char.isDigit && 1 < part.length && part.toList.head? = some '0')

/-- The identifiers of the metadata, none empty. -/
def validMetadata (s : String) : Bool :=
  (splitAt s '.').all fun part => part ≠ "" && part.toList.all isIdentifierChar

/-- The numbers of a version, where those that are missing are zero. -/
def parseCore (s : String) : Option (ℕ × ℕ × ℕ) :=
  match (splitAt s '.').mapM parseUint with
  | some [major] => some (major, 0, 0)
  | some [major, minor] => some (major, minor, 0)
  | some [major, minor, patch] => some (major, minor, patch)
  | _ => none

/-- The version of a text. -/
def newVersion (s : String) : Option Version :=
  let (rest, metadata) := match Text.cut (Text.trimPrefix s "v") "+" with
    | some (rest, metadata) => (rest, some metadata)
    | none => (Text.trimPrefix s "v", none)
  let (core, prerelease) := match Text.cut rest "-" with
    | some (core, prerelease) => (core, some prerelease)
    | none => (rest, none)
  if prerelease.all validPrerelease ∧ metadata.all validMetadata then
    (parseCore core).map fun n => ⟨n.1, n.2.1, n.2.2, prerelease.getD "", metadata.getD ""⟩
  else none

/-! ### Precedence -/

/-- An identifier of a prerelease: every number is before every text. -/
abbrev Identifier := ℕ ⊕ₗ List Char

/-- The place of an identifier. -/
def identifier (part : String) : Identifier :=
  match parseUint part with
  | some n => toLex (.inl n)
  | none => toLex (.inr part.toList)

/-- Where a version stands: its numbers, and its identifiers, which put it before the version that
has none. -/
abbrev Precedence := ℕ ×ₗ ℕ ×ₗ ℕ ×ₗ WithTop (List Identifier)

namespace Version

/-- The identifiers of a version, and something greater for a version without any. -/
def identifiers (v : Version) : WithTop (List Identifier) :=
  if v.prerelease = "" then ⊤ else ((splitAt v.prerelease '.').map identifier : List Identifier)

/-- The place of a version. -/
def precedence (v : Version) : Precedence :=
  toLex (v.major, toLex (v.minor, toLex (v.patch, v.identifiers)))

/-- `v.GreaterThan(w)`. -/
def greaterThan (v w : Version) : Bool := w.precedence < v.precedence

@[simp] lemma greaterThan_iff {v w : Version} :
    v.greaterThan w = true ↔ w.precedence < v.precedence := decide_eq_true_iff

/-- The order of two versions, number by number. -/
lemma precedence_lt_iff {v w : Version} :
    v.precedence < w.precedence ↔ v.major < w.major ∨ v.major = w.major ∧
      (v.minor < w.minor ∨ v.minor = w.minor ∧
        (v.patch < w.patch ∨ v.patch = w.patch ∧ v.identifiers < w.identifiers)) := by
  simp only [precedence, Prod.Lex.toLex_lt_toLex]

/-- Two versions have the same numbers. -/
def SameNumbers (v w : Version) : Prop := v.major = w.major ∧ v.minor = w.minor ∧ v.patch = w.patch

/-- What is greater than a version without identifiers has greater numbers. -/
lemma lt_congr {u v w : Version} (hu : u.prerelease = "") (h : SameNumbers v w) :
    u.precedence < v.precedence ↔ u.precedence < w.precedence := by
  obtain ⟨hmajor, hminor, hpatch⟩ := h
  have htop : ∀ i : WithTop (List Identifier), ¬ u.identifiers < i := by
    intro i
    rw [identifiers, if_pos hu]
    exact not_top_lt
  simp only [precedence_lt_iff, htop, and_false, or_false, hmajor, hminor, hpatch]

/-- Versions without identifiers are ordered as others with the same numbers are. -/
lemma le_of_sameNumbers {v v' w w' : Version} (hv' : v'.prerelease = "") (h : SameNumbers v w)
    (h' : SameNumbers v' w') (hle : w.precedence ≤ w'.precedence) : v.precedence ≤ v'.precedence := by
  by_contra hlt
  rw [not_le, lt_congr hv' h, precedence_lt_iff] at hlt
  refine absurd hle (not_le.2 (precedence_lt_iff.2 ?_))
  obtain ⟨hmajor, hminor, hpatch⟩ := h'
  have htop : ¬ v'.identifiers < w.identifiers := by
    rw [identifiers, if_pos hv']
    exact not_top_lt
  rw [← hmajor, ← hminor, ← hpatch]
  simp only [htop, and_false, or_false] at hlt
  omega

end Version

end SemVer
