import Proxor.Lib.Text

set_option relaxedAutoImplicit false
set_option autoImplicit false

/-!
# Reading XML 1.0

A document as a reader that checks that it is well formed reports it: one token after another, and after the
first error no more. Namespaces are not looked at, and a document type declaration has no internal subset.

## Main definitions

* `Xml.isChar` — the characters of a document.
* `Xml.Place`, `Xml.step` — where the reader is, and one step.
* `Xml.read` — the tokens of a text.
* `Xml.Reads`, `Xml.Stops` — the tokens of a part of a text, and up to an error in it.

## Main results

* `Xml.Reads.append` — parts are read one after another.
* `Xml.read_of_reads`, `Xml.read_of_stops` — the parts of a document, and of a text that is none.
* `Xml.run_text`, `Xml.run_text_of_not_isChar` — an escaped text before a tag is read as it was, unless it
  has a character that no document has.
-/

namespace Xml

open Text

/-! ### Characters and names -/

/-- The code of the character is in one of the ranges. -/
def inRanges (ranges : List (ℕ × ℕ)) (c : Char) : Bool :=
  ranges.any fun r => decide (r.1 ≤ c.toNat) && decide (c.toNat ≤ r.2)

/-- `Char`: the characters of a document. -/
def isChar (c : Char) : Bool :=
  inRanges [(0x9, 0xA), (0xD, 0xD), (0x20, 0xD7FF), (0xE000, 0xFFFD), (0x10000, 0x10FFFF)] c

/-- `S`: the white space between the parts of a tag. -/
def isSpace (c : Char) : Bool := c = ' ' || c = '\t' || c = '\n' || c = '\r'

/-- `NameStartChar`. -/
def isNameStart (c : Char) : Bool :=
  inRanges [(0x3A, 0x3A), (0x41, 0x5A), (0x5F, 0x5F), (0x61, 0x7A), (0xC0, 0xD6), (0xD8, 0xF6),
    (0xF8, 0x2FF), (0x370, 0x37D), (0x37F, 0x1FFF), (0x200C, 0x200D), (0x2070, 0x218F), (0x2C00, 0x2FEF),
    (0x3001, 0xD7FF), (0xF900, 0xFDCF), (0xFDF0, 0xFFFD), (0x10000, 0xEFFFF)] c

/-- `NameChar`. -/
def isNameChar (c : Char) : Bool :=
  isNameStart c ||
    inRanges [(0x2D, 0x2E), (0x30, 0x39), (0xB7, 0xB7), (0x300, 0x36F), (0x203F, 0x2040)] c

/-- The name at the front of a text, and what is behind it. -/
def name : List Char → Option (List Char × List Char)
  | [] => none
  | c :: text =>
    if isNameStart c then some (c :: text.takeWhile isNameChar, text.dropWhile isNameChar) else none

/-! ### References -/

/-- The number that the digits stand for. -/
def number (base : ℕ) (digit : Char → Option ℕ) : List Char → Option ℕ
  | [] => none
  | cs => cs.foldl (fun n c => n.bind fun n => (digit c).map (base * n + ·)) (some 0)

/-- The value of a decimal digit. -/
def decimalDigit (c : Char) : Option ℕ :=
  if 0x30 ≤ c.toNat ∧ c.toNat ≤ 0x39 then some (c.toNat - 0x30) else none

/-- The value of a hexadecimal digit. -/
def hexDigit (c : Char) : Option ℕ :=
  if 0x41 ≤ c.toNat ∧ c.toNat ≤ 0x46 then some (c.toNat - 0x37)
  else if 0x61 ≤ c.toNat ∧ c.toNat ≤ 0x66 then some (c.toNat - 0x57)
  else decimalDigit c

/-- The character with a code, if it is one of a document. -/
def charOfCode (n : ℕ) : Option Char :=
  if n.isValidChar ∧ isChar (Char.ofNat n) then some (Char.ofNat n) else none

/-- What a reference stands for: a character by its code, or one of the five entities that every document
has. -/
def entity : List Char → Option Char
  | '#' :: 'x' :: digits => (number 16 hexDigit digits).bind charOfCode
  | '#' :: digits => (number 10 decimalDigit digits).bind charOfCode
  | ['a', 'm', 'p'] => some '&'
  | ['l', 't'] => some '<'
  | ['g', 't'] => some '>'
  | ['q', 'u', 'o', 't'] => some '"'
  | ['a', 'p', 'o', 's'] => some '\''
  | _ => none

/-- The reference behind an ampersand, and what is behind it. -/
def reference (text : List Char) : Option (Char × List Char) := do
  let (body, rest) ← cutFirst [';'] text
  let c ← entity body
  some (c, rest)

/-! ### Attributes -/

/-- The value of an attribute: characters and references. -/
def isAttValue : List Char → Bool
  | [] => true
  | '&' :: text => (reference text).isSome && isAttValue text
  | c :: text => isChar c && c != '<' && isAttValue text

/-- A text in quotes, and what is behind it. -/
def quoted : List Char → Option (List Char × List Char)
  | '"' :: text => cutFirst ['"'] text
  | '\'' :: text => cutFirst ['\''] text
  | _ => none

/-- An attribute with its value, and what is behind it. -/
def oneAttribute (text : List Char) : Option ((List Char × List Char) × List Char) := do
  let (key, rest) ← name text
  match rest.dropWhile isSpace with
  | '=' :: rest =>
    let (value, rest) ← quoted (rest.dropWhile isSpace)
    if isAttValue value then some ((key, value), rest) else none
  | _ => none

/-- The attributes up to the text that ends them, each with white space before it and none twice. -/
def attributes (close : List Char) : ℕ → List Char → Option (List (List Char × List Char) × List Char)
  | 0, _ => none
  | n + 1, text =>
    let rest := text.dropWhile isSpace
    if close.isPrefixOf rest then some ([], rest.drop close.length)
    else if (text.head?.map isSpace).getD false then do
      let (attr, rest) ← oneAttribute rest
      let (attrs, rest) ← attributes close n rest
      if (attrs.map Prod.fst).contains attr.1 then none else some (attr :: attrs, rest)
    else none

/-! ### Tokens -/

/-- What the reader reports. The characters of a text come in one token or in many. -/
inductive Token
  | startDocument
  | dtd
  | processingInstruction
  | comment
  | startElement (name : String)
  | endElement (name : String)
  | characters (text : List Char)
  | endDocument
  | invalid
deriving DecidableEq

/-- Where the reader is: before the root element, which a document type declaration may precede, in the
elements that are open, or behind it. -/
inductive Place
  | prolog (dtd : Bool)
  | inside (open_ : List String)
  | epilog
deriving DecidableEq

/-- The place when the innermost of the open elements has ended. -/
def Place.closed : List String → Place
  | [] => .epilog
  | open_ => .inside open_

/-- The place in an element: within those that are open. -/
def Place.opened (element : String) : Place → Option Place
  | .prolog _ => some (.inside [element])
  | .inside open_ => some (.inside (element :: open_))
  | .epilog => none

/-- A start tag behind its first character. -/
def startTag (place : Place) (text : List Char) : Option (List Token × Place × List Char) := do
  let (key, rest) ← name text
  let element := String.ofList key
  let inner ← place.opened element
  match attributes ['>'] (rest.length + 1) rest with
  | some (_, rest) => some ([.startElement element], inner, rest)
  | none =>
    let (_, rest) ← attributes ['/', '>'] (rest.length + 1) rest
    let outer := match place with | .inside open_ => Place.closed open_ | _ => .epilog
    some ([.startElement element, .endElement element], outer, rest)

/-- An end tag behind its first two characters. -/
def endTag (place : Place) (text : List Char) : Option (List Token × Place × List Char) := do
  let (key, rest) ← name text
  match place, rest.dropWhile isSpace with
  | .inside (element :: open_), '>' :: rest =>
    if element = String.ofList key then some ([.endElement element], Place.closed open_, rest) else none
  | _, _ => none

/-- A comment behind its first four characters. -/
def comment (place : Place) (text : List Char) : Option (List Token × Place × List Char) := do
  let (body, rest) ← cutFirst ['-', '-'] text
  match rest with
  | '>' :: rest => if body.all isChar then some ([.comment], place, rest) else none
  | _ => none

/-- A processing instruction behind its first two characters. No one has the name of the XML declaration. -/
def processingInstruction (place : Place) (text : List Char) : Option (List Token × Place × List Char) := do
  let (target, rest) ← name text
  let (body, rest) ← cutFirst ['?', '>'] rest
  if target.map Char.toLower ≠ ['x', 'm', 'l'] && (body.head?.map isSpace).getD true && body.all isChar then
    some ([.processingInstruction], place, rest)
  else none

/-- A CDATA section behind its first nine characters. -/
def cdata (place : Place) (text : List Char) : Option (List Token × Place × List Char) := do
  let (body, rest) ← cutFirst [']', ']', '>'] text
  match place with
  | .inside _ => if body.all isChar then some ([.characters body], place, rest) else none
  | _ => none

/-- The characters of a public identifier. -/
def isPubidChar (c : Char) : Bool :=
  c = ' ' || c = '\r' || c = '\n' || c.isAlphanum || "-'()+,./:=?;!*#@$_%".toList.contains c

/-- White space, and a text in quotes behind it. -/
def literal (text : List Char) : Option (List Char × List Char) :=
  if (text.head?.map isSpace).getD false then quoted (text.dropWhile isSpace) else none

/-- The identifier of the document type that is not in the document, if there is one. -/
def externalID (text : List Char) : Option (List Char) :=
  if "SYSTEM".toList.isPrefixOf text then do
    let (body, rest) ← literal (text.drop 6)
    if body.all isChar then some rest else none
  else if "PUBLIC".toList.isPrefixOf text then do
    let (pubid, rest) ← literal (text.drop 6)
    let (body, rest) ← literal rest
    if pubid.all isPubidChar && body.all isChar then some rest else none
  else some text

/-- A document type declaration behind its first nine characters. -/
def doctype (place : Place) (text : List Char) : Option (List Token × Place × List Char) := do
  if (text.head?.map isSpace).getD false && place == .prolog false then
    let (_, rest) ← name (text.dropWhile isSpace)
    let rest ← externalID (rest.dropWhile isSpace)
    match rest.dropWhile isSpace with
    | '>' :: rest => some ([.dtd], .prolog true, rest)
    | _ => none
  else none

/-- One character of a text, or of the white space around the root element. -/
def character (place : Place) (c : Char) (rest : List Char) : Option (List Token × Place × List Char) :=
  match place with
  | .inside _ => if isChar c then some ([.characters [c]], place, rest) else none
  | _ => if isSpace c then some ([], place, rest) else none

/-- **One step** of the reader: what it reports, where it is then, and what is left. -/
def step (place : Place) : List Char → Option (List Token × Place × List Char)
  | '<' :: '?' :: text => processingInstruction place text
  | '<' :: '!' :: '-' :: '-' :: text => comment place text
  | '<' :: '!' :: '[' :: 'C' :: 'D' :: 'A' :: 'T' :: 'A' :: '[' :: text => cdata place text
  | '<' :: '!' :: 'D' :: 'O' :: 'C' :: 'T' :: 'Y' :: 'P' :: 'E' :: text => doctype place text
  | '<' :: '/' :: text => endTag place text
  | '<' :: text => startTag place text
  | '&' :: text => do
    let (c, rest) ← reference text
    match place with
    | .inside _ => some ([.characters [c]], place, rest)
    | _ => none
  | ']' :: ']' :: '>' :: _ => none
  | c :: text => character place c text
  | [] => none

/-- The tokens of a text up to its end or to the first error. -/
def run : ℕ → Place → List Char → List Token
  | 0, _, _ => [.invalid]
  | n + 1, place, text =>
    if text.isEmpty && place == .epilog then [.endDocument]
    else
      match step place text with
      | some (tokens, place, rest) => tokens ++ run n place rest
      | none => [.invalid]

/-- The end of a line is a newline. -/
def newlines : List Char → List Char
  | '\r' :: '\n' :: text => '\n' :: newlines text
  | '\r' :: text => '\n' :: newlines text
  | c :: text => c :: newlines text
  | [] => []

/-- The version, the encoding and whether the document stands alone, in this order. -/
def isDecl (attrs : List (List Char × List Char)) : Bool :=
  match attrs with
  | (key, version) :: attrs =>
    key == "version".toList && version == "1.0".toList &&
      [[], ["encoding".toList], ["standalone".toList], ["encoding".toList, "standalone".toList]].contains
        (attrs.map Prod.fst)
  | [] => false

/-- **The tokens** of a text: the XML declaration, if there is one, and the rest. -/
def read (text : List Char) : List Token :=
  let text := newlines text
  if "<?xml".toList.isPrefixOf text && ((text.drop 5).head?.map isSpace).getD false then
    match attributes ['?', '>'] (text.length + 1) (text.drop 5) with
    | some (attrs, rest) =>
      if isDecl attrs then .startDocument :: run (rest.length + 1) (.prolog false) rest else [.invalid]
    | none => [.invalid]
  else .startDocument :: run (text.length + 1) (.prolog false) text

/-! ### The parts of a document -/

/-- The reader reports these tokens of a part of a text, whatever is behind it. -/
def Reads (place : Place) (part : List Char) (tokens : List Token) (place' : Place) : Prop :=
  ∃ k ≤ part.length, ∀ n rest, run (n + k) place (part ++ rest) = tokens ++ run n place' rest

/-- **Parts are read one after another.** -/
theorem Reads.append {p q r : Place} {a b : List Char} {tokens tokens' : List Token}
    (ha : Reads p a tokens q) (hb : Reads q b tokens' r) : Reads p (a ++ b) (tokens ++ tokens') r := by
  obtain ⟨k, hk, ha⟩ := ha
  obtain ⟨l, hl, hb⟩ := hb
  refine ⟨l + k, ?_, fun n rest => ?_⟩
  · rw [List.length_append]
    omega
  · rw [← Nat.add_assoc, List.append_assoc, ha, hb, List.append_assoc]

/-- The reader reports these tokens of a part of a text and then an error. -/
def Stops (place : Place) (part : List Char) (tokens : List Token) : Prop :=
  ∃ k ≤ part.length, ∀ n rest, run (n + k) place (part ++ rest) = tokens ++ [.invalid]

/-- An error behind a part that is read. -/
theorem Reads.append_stops {place place' : Place} {a b : List Char} {tokens tokens' : List Token}
    (ha : Reads place a tokens place') (hb : Stops place' b tokens') :
    Stops place (a ++ b) (tokens ++ tokens') := by
  obtain ⟨k, hk, ha⟩ := ha
  obtain ⟨l, hl, hb⟩ := hb
  refine ⟨l + k, ?_, fun n rest => ?_⟩
  · rw [List.length_append]
    omega
  · rw [← Nat.add_assoc, List.append_assoc, ha, hb, List.append_assoc]

/-- Nothing is read behind an error. -/
theorem Stops.append {place : Place} {a : List Char} {tokens : List Token} (ha : Stops place a tokens)
    (b : List Char) : Stops place (a ++ b) tokens := by
  obtain ⟨k, hk, ha⟩ := ha
  refine ⟨k, ?_, fun n rest => ?_⟩
  · rw [List.length_append]
    omega
  · rw [List.append_assoc, ha]

lemma newlines_eq_self {text : List Char} (h : '\r' ∉ text) : newlines text = text := by
  induction text with
  | nil => rfl
  | cons c text ih =>
    rw [List.mem_cons, not_or] at h
    rw [newlines, ih h.2]
    · rintro text' rfl
      exact absurd rfl h.1
    · rintro rfl
      exact absurd rfl h.1

/-- The declaration of a document of version 1.0. -/
def declaration : List Char := "<?xml version=\"1.0\" encoding=\"UTF-8\"?>".toList

lemma read_declaration {body : List Char} (hcr : '\r' ∉ body) :
    read (declaration ++ body) = .startDocument :: run (body.length + 1) (.prolog false) body := by
  have hnewlines : newlines (declaration ++ body) = declaration ++ body := by
    refine newlines_eq_self ?_
    rw [List.mem_append, not_or]
    exact ⟨by decide, hcr⟩
  rw [read, hnewlines]
  rfl

/-- **A document** of version 1.0: the tokens of what is behind its declaration. -/
theorem read_of_reads {body : List Char} {tokens : List Token} (hcr : '\r' ∉ body)
    (h : Reads (.prolog false) body tokens .epilog) :
    read (declaration ++ body) = .startDocument :: (tokens ++ [.endDocument]) := by
  obtain ⟨k, hk, hrun⟩ := h
  have hbody := hrun (body.length - k + 1) []
  rw [List.append_nil, show body.length - k + 1 + k = body.length + 1 from by omega] at hbody
  rw [read_declaration hcr, hbody]
  rfl

/-- **A text that is no document**: the tokens up to the error. -/
theorem read_of_stops {body : List Char} {tokens : List Token} (hcr : '\r' ∉ body)
    (h : Stops (.prolog false) body tokens) :
    read (declaration ++ body) = .startDocument :: (tokens ++ [.invalid]) := by
  obtain ⟨k, hk, hrun⟩ := h
  have hbody := hrun (body.length - k + 1) []
  rw [List.append_nil, show body.length - k + 1 + k = body.length + 1 from by omega] at hbody
  rw [read_declaration hcr, hbody]

/-! ### Escaped texts -/

/-- Every character is written as it is, and is none of a tag or a reference, or as a reference. -/
def Escapes (esc : Char → List Char) : Prop :=
  ∀ c, (esc c = [c] ∧ c ≠ '<' ∧ c ≠ '&' ∧ c ≠ '>') ∨
    ∃ body, esc c = '&' :: (body ++ [';']) ∧ ';' ∉ body ∧ entity body = some c

lemma isChar_of_charOfCode {n : ℕ} {c : Char} (h : charOfCode n = some c) : isChar c = true := by
  rw [charOfCode] at h
  split at h
  · next hn =>
    obtain rfl := Option.some.inj h
    exact hn.2
  · exact absurd h.symm (Option.some_ne_none c)

/-- A reference stands for a character of a document. -/
lemma isChar_of_entity {body : List Char} {c : Char} (h : entity body = some c) : isChar c = true := by
  rw [entity.eq_def] at h
  split at h
  · obtain ⟨n, -, hn⟩ := Option.bind_eq_some_iff.1 h
    exact isChar_of_charOfCode hn
  · obtain ⟨n, -, hn⟩ := Option.bind_eq_some_iff.1 h
    exact isChar_of_charOfCode hn
  · obtain rfl := Option.some.inj h
    decide
  · obtain rfl := Option.some.inj h
    decide
  · obtain rfl := Option.some.inj h
    decide
  · obtain rfl := Option.some.inj h
    decide
  · obtain rfl := Option.some.inj h
    decide
  · exact absurd h.symm (Option.some_ne_none c)

/-- A character that begins neither a tag nor a reference nor the end of a CDATA section. -/
lemma step_character (place : Place) {c : Char} {rest : List Char} (hlt : c ≠ '<') (hamp : c ≠ '&')
    (hend : ∀ text, rest ≠ ']' :: '>' :: text) : step place (c :: rest) = character place c rest := by
  rw [step.eq_def]
  split
  all_goals first
    | next h => exact absurd (List.cons.inj h).1 hlt
    | next h => exact absurd (List.cons.inj h).1 hamp
    | next h => exact absurd (List.cons.inj h).2 (hend _)
    | next h =>
      obtain ⟨rfl, rfl⟩ := List.cons.inj h
      rfl
    | next h => exact absurd h (List.cons_ne_nil _ _)

/-- A reference in an element. -/
lemma step_reference (open_ : List String) {body : List Char} {c : Char} (hbody : ';' ∉ body)
    (hc : entity body = some c) (rest : List Char) :
    step (.inside open_) ('&' :: (body ++ [';']) ++ rest) =
      some ([.characters [c]], .inside open_, rest) := by
  have hcut : cutFirst [';'] (body ++ [';'] ++ rest) = some (body, rest) := cutFirst_append hbody rest
  rw [List.cons_append, step, reference, hcut]
  change ((entity body).bind _).bind _ = _
  rw [hc]
  rfl

variable {esc : Char → List Char}

/-- No closing angle bracket is in front of a text that is escaped. -/
lemma escaped_ne (h : Escapes esc) (s : List Char) {rest : List Char} (hrest : rest.head? = some '<')
    (text : List Char) : s.flatMap esc ++ rest ≠ '>' :: text := by
  cases s with
  | nil =>
    rintro heq
    rw [List.flatMap_nil, List.nil_append] at heq
    rw [heq] at hrest
    exact absurd (Option.some.inj hrest) (by decide)
  | cons c s =>
    rw [List.flatMap_cons]
    rcases h c with ⟨hc, -, -, hgt⟩ | ⟨body, hc, -, -⟩
    · rw [hc]
      rintro heq
      exact hgt (List.cons.inj heq).1
    · rw [hc]
      rintro heq
      exact absurd (List.cons.inj heq).1 (by decide)

/-- Nor is there the end of a CDATA section behind a first character. -/
lemma escaped_ne_end (h : Escapes esc) (s : List Char) {rest : List Char} (hrest : rest.head? = some '<')
    (text : List Char) : s.flatMap esc ++ rest ≠ ']' :: '>' :: text := by
  cases s with
  | nil =>
    rintro heq
    rw [List.flatMap_nil, List.nil_append] at heq
    rw [heq] at hrest
    exact absurd (Option.some.inj hrest) (by decide)
  | cons c s =>
    rw [List.flatMap_cons]
    rcases h c with ⟨hc, -, -, -⟩ | ⟨body, hc, -, -⟩
    · rw [hc]
      rintro heq
      exact escaped_ne h s hrest text (List.cons.inj heq).2
    · rw [hc]
      rintro heq
      exact absurd (List.cons.inj heq).1 (by decide)

/-- One character of an escaped text. -/
lemma step_escaped (h : Escapes esc) (open_ : List String) (c : Char) (s : List Char) {rest : List Char}
    (hrest : rest.head? = some '<') :
    step (.inside open_) ((c :: s).flatMap esc ++ rest) =
      if isChar c then some ([.characters [c]], .inside open_, s.flatMap esc ++ rest) else none := by
  rw [List.flatMap_cons, List.append_assoc]
  rcases h c with ⟨hc, hlt, hamp, -⟩ | ⟨body, hc, hbody, hentity⟩
  · rw [hc, List.singleton_append, step_character _ hlt hamp (escaped_ne_end h s hrest)]
    rfl
  · rw [hc, step_reference open_ hbody hentity, if_pos (isChar_of_entity hentity)]

/-- One step inside of an element, if something is left. -/
lemma run_inside (n : ℕ) (open_ : List String) (text : List Char) :
    run (n + 1) (.inside open_) text =
      match step (.inside open_) text with
      | some (tokens, place, rest) => tokens ++ run n place rest
      | none => [.invalid] := by
  have hplace : (text.isEmpty && Place.inside open_ == .epilog) = false := by
    rw [Bool.and_eq_false_iff]
    exact Or.inr rfl
  rw [run, hplace, if_neg Bool.false_ne_true]

/-- The tokens of the characters of a text. -/
def charTokens (s : List Char) : List Token := s.map fun c => .characters [c]

/-- **An escaped text** before a tag is read as it was.

**Proof sketch.** Induction on the text, one step for each character. -/
theorem run_text (h : Escapes esc) (open_ : List String) {s : List Char} (hs : ∀ c ∈ s, isChar c = true)
    {rest : List Char} (hrest : rest.head? = some '<') (n : ℕ) :
    run (n + s.length) (.inside open_) (s.flatMap esc ++ rest) =
      charTokens s ++ run n (.inside open_) rest := by
  induction s with
  | nil => rfl
  | cons c s ih =>
    rw [List.forall_mem_cons] at hs
    rw [List.length_cons, ← Nat.add_assoc, run_inside, step_escaped h open_ c s hrest, if_pos hs.1]
    change [Token.characters [c]] ++ run (n + s.length) _ _ = _
    rw [ih hs.2]
    rfl

/-- **A character that no document has** ends the reading.

**Proof sketch.** Induction on the text up to the character. -/
theorem run_text_of_not_isChar (h : Escapes esc) (open_ : List String) {s : List Char} {c : Char}
    (hc : c ∈ s) (hchar : isChar c = false) :
    ∃ s', ∀ n rest, rest.head? = some '<' →
      run (n + s.length) (.inside open_) (s.flatMap esc ++ rest) = charTokens s' ++ [.invalid] := by
  induction s with
  | nil => exact absurd hc List.not_mem_nil
  | cons d s ih =>
    by_cases hd : isChar d = true
    · have hmem : c ∈ s := by
        rcases List.mem_cons.1 hc with rfl | hmem
        · exact absurd (hd.symm.trans hchar) (by decide)
        · exact hmem
      obtain ⟨s', hs'⟩ := ih hmem
      refine ⟨d :: s', fun n rest hrest => ?_⟩
      rw [List.length_cons, ← Nat.add_assoc, run_inside, step_escaped h open_ d s hrest, if_pos hd]
      change [Token.characters [d]] ++ run (n + s.length) _ _ = _
      rw [hs' n rest hrest]
      rfl
    · refine ⟨[], fun n rest hrest => ?_⟩
      rw [List.length_cons, ← Nat.add_assoc, run_inside, step_escaped h open_ d s hrest, if_neg hd]
      rfl

end Xml
