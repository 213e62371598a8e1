import Proxor.Lib.Json
import Proxor.Lib.Text

set_option relaxedAutoImplicit false
set_option autoImplicit false

/-!
# JSON texts

A reader of JSON that goes over the text once with a stack of what is open, and a writer. Numbers are
integers, comments to the end of a line are white space, and a field is kept as often as it is there.

## Main definitions

* `JsonText.step`, `JsonText.parse` — the reader.
* `JsonText.Reads`, `JsonText.ReadsValue` — what reading a part of a text does.
* `JsonText.Token`, `JsonText.tokens` — the tokens of a value, in one line or with a line for each value.
* `JsonText.writeValue` — the writer.
* `JsonText.Part`, `JsonText.writeParts` — texts in which values are parts.

## Main results

* `JsonText.Reads.append` — parts are read one after another.
* `JsonText.reads_tokens` — tokens are read one after another.
* `JsonText.exec_tokens` — the tokens of a value are read as the value.
* `JsonText.parse_tokens` — a text is read as its tokens.
* `JsonText.ended_tokens` — the numbers of a value end.
-/

namespace JsonText

/-! ### Strings and numbers -/

/-- The value of a hexadecimal digit. -/
def hexValue (c : Char) : Option ℕ :=
  if c.isDigit then some (c.toNat - 48)
  else if 97 ≤ c.toNat ∧ c.toNat ≤ 102 then some (c.toNat - 87)
  else if 65 ≤ c.toNat ∧ c.toNat ≤ 70 then some (c.toNat - 55)
  else none

/-- The character with a code of four digits, the replacement character for a surrogate. -/
def unicodeChar (a b c d : Char) : Option Char := do
  let a ← hexValue a
  let b ← hexValue b
  let c ← hexValue c
  let d ← hexValue d
  let n := a * 4096 + b * 256 + c * 16 + d
  some (if n.isValidChar then Char.ofNat n else Char.ofNat 0xFFFD)

/-- What a character behind a backslash stands for. -/
def shortEscape (c : Char) : Option Char :=
  if c = '"' ∨ c = '\\' ∨ c = '/' then some c
  else if c = 'b' then some (Char.ofNat 8)
  else if c = 'f' then some (Char.ofNat 12)
  else if c = 'n' then some '\n'
  else if c = 'r' then some '\r'
  else if c = 't' then some '\t'
  else none

/-- A string behind its first quotation mark, and what is behind its last. Control characters are not
allowed. -/
def readString : List Char → Option (List Char × List Char)
  | [] => none
  | '"' :: rest => some ([], rest)
  | '\\' :: 'u' :: a :: b :: c :: d :: rest =>
    (unicodeChar a b c d).bind fun x => (readString rest).map fun p => (x :: p.1, p.2)
  | '\\' :: c :: rest => (shortEscape c).bind fun x => (readString rest).map fun p => (x :: p.1, p.2)
  | c :: rest => if c.toNat < 32 then none else (readString rest).map fun p => (c :: p.1, p.2)

/-- The characters that a number may go on with. -/
def inNumber (c : Char) : Bool := c.isDigit || c = '.' || c = 'e' || c = 'E' || c = '+' || c = '-'

/-- A whole number without leading zeros. -/
def wholeNumber (digits : List Char) : Option ℕ :=
  if digits.head? = some '0' ∧ digits ≠ ['0'] then none else Text.parseDigits digits

/-- The integer that is written so. -/
def integer : List Char → Option ℤ
  | '-' :: digits => (wholeNumber digits).map fun n : ℕ => -(n : ℤ)
  | digits => (wholeNumber digits).map Int.ofNat

/-! ### The reader -/

/-- What is open: an array, an object, or a field of an object behind its key. -/
inductive Frame
  | arr (items : List Json)
  | obj (fields : JsonObject)
  | field (fields : JsonObject) (key : String)

/-- What may come next. -/
inductive Mode
  | value
  | valueOrEnd
  | key
  | keyOrEnd
  | colon
  | next
deriving DecidableEq

/-- The state of the reader. -/
inductive State
  | reading (stack : List Frame) (mode : Mode)
  | done (v : Json)

/-- A value is complete. -/
def push (v : Json) : List Frame → Option State
  | [] => some (.done v)
  | .arr items :: stack => some (.reading (.arr (items ++ [v]) :: stack) .next)
  | .field fields key :: stack => some (.reading (.obj (fields ++ [(key, v)]) :: stack) .next)
  | .obj _ :: _ => none

/-- A value that begins with a character. -/
def readValue (stack : List Frame) (c : Char) (rest : List Char) : Option (State × List Char) :=
  if c = '"' then
    (readString rest).bind fun p => (push (.str (String.ofList p.1)) stack).map (·, p.2)
  else if c = '{' then some (.reading (.obj [] :: stack) .keyOrEnd, rest)
  else if c = '[' then some (.reading (.arr [] :: stack) .valueOrEnd, rest)
  else if ['t', 'r', 'u', 'e'].isPrefixOf (c :: rest) then
    (push (.bool true) stack).map (·, rest.drop 3)
  else if ['f', 'a', 'l', 's', 'e'].isPrefixOf (c :: rest) then
    (push (.bool false) stack).map (·, rest.drop 4)
  else if ['n', 'u', 'l', 'l'].isPrefixOf (c :: rest) then (push .null stack).map (·, rest.drop 3)
  else
    (integer ((c :: rest).takeWhile inNumber)).bind fun n =>
      (push (.num n) stack).map (·, (c :: rest).dropWhile inNumber)

/-- A key behind its first quotation mark. -/
def readKey : List Frame → List Char → Option (State × List Char)
  | .obj fields :: stack, rest =>
    (readString rest).map fun p => (.reading (.field fields (String.ofList p.1) :: stack) .colon, p.2)
  | _, _ => none

/-- The end of what is open. -/
def close (c : Char) : List Frame → Option State
  | .arr items :: stack => if c = ']' then push (.arr items) stack else none
  | .obj fields :: stack => if c = '}' then push (.obj fields) stack else none
  | _ => none

/-- What comes behind a comma. -/
def comma : List Frame → Option State
  | .arr items :: stack => some (.reading (.arr items :: stack) .value)
  | .obj fields :: stack => some (.reading (.obj fields :: stack) .key)
  | _ => none

/-- A token that begins with a character. -/
def token (stack : List Frame) (mode : Mode) (c : Char) (rest : List Char) : Option (State × List Char) :=
  match mode with
  | .value => readValue stack c rest
  | .valueOrEnd => if c = ']' then (close c stack).map (·, rest) else readValue stack c rest
  | .key => if c = '"' then readKey stack rest else none
  | .keyOrEnd =>
    if c = '"' then readKey stack rest else if c = '}' then (close c stack).map (·, rest) else none
  | .colon => if c = ':' then some (.reading stack .value, rest) else none
  | .next => if c = ',' then (comma stack).map (·, rest) else (close c stack).map (·, rest)

/-- White space. -/
def isSpace (c : Char) : Bool := c = ' ' || c = '\n' || c = '\t' || c = '\r'

/-- **One step** of the reader, at a character. -/
def step (st : State) (c : Char) (rest : List Char) : Option (State × List Char) :=
  if isSpace c then some (st, rest)
  else if c = '/' then
    if rest.head? = some '/' then some (st, rest.dropWhile (· != '\n')) else none
  else
    match st with
    | .reading stack mode => token stack mode c rest
    | .done _ => none

/-- The value of a text, in as many steps as there are at most. -/
def run : ℕ → State → List Char → Option Json
  | _, .done v, [] => some v
  | _, .reading _ _, [] => none
  | 0, _, _ :: _ => none
  | n + 1, st, c :: rest => (step st c rest).bind fun p => run n p.1 p.2

/-- **The value of a text.** -/
def parse (text : List Char) : Option Json := run text.length (.reading [] .value) text

/-! ### Parts of a text -/

/-- What reading a part of a text does, whatever is behind it. -/
def Reads (st : State) (part : List Char) (st' : State) : Prop :=
  ∃ k ≤ part.length, ∀ n rest, run (n + k) st (part ++ rest) = run n st' rest

/-- What reading a part does if a number does not go on behind it. -/
def ReadsValue (st : State) (part : List Char) (st' : State) : Prop :=
  ∃ k ≤ part.length, ∀ n c rest, inNumber c = false →
    run (n + k) st (part ++ c :: rest) = run n st' (c :: rest)

lemma Reads.refl (st : State) : Reads st [] st := ⟨0, Nat.le_refl _, fun _ _ => rfl⟩

/-- **Parts are read one after another.** -/
theorem Reads.append {st st' st'' : State} {a b : List Char} (ha : Reads st a st') (hb : Reads st' b st'') :
    Reads st (a ++ b) st'' := by
  obtain ⟨k, hk, ha⟩ := ha
  obtain ⟨l, hl, hb⟩ := hb
  refine ⟨l + k, ?_, fun n rest => ?_⟩
  · rw [List.length_append]
    omega
  · rw [← Nat.add_assoc, List.append_assoc, ha, hb]

/-- A value, and what ends it. -/
theorem ReadsValue.append {st st' st'' : State} {a b : List Char} {c : Char} (ha : ReadsValue st a st')
    (hc : inNumber c = false) (hb : Reads st' (c :: b) st'') : Reads st (a ++ c :: b) st'' := by
  obtain ⟨k, hk, ha⟩ := ha
  obtain ⟨l, hl, hb⟩ := hb
  refine ⟨l + k, ?_, fun n rest => ?_⟩
  · rw [List.length_append]
    omega
  · rw [← Nat.add_assoc, List.append_assoc, List.cons_append, ha _ _ _ hc, ← List.cons_append, hb]

lemma Reads.readsValue {st st' : State} {part : List Char} (h : Reads st part st') :
    ReadsValue st part st' := by
  obtain ⟨k, hk, h⟩ := h
  exact ⟨k, hk, fun n c rest _ => h n (c :: rest)⟩

/-- What comes before a value. -/
theorem Reads.append_value {st st' st'' : State} {a b : List Char} (ha : Reads st a st')
    (hb : ReadsValue st' b st'') : ReadsValue st (a ++ b) st'' := by
  obtain ⟨k, hk, ha⟩ := ha
  obtain ⟨l, hl, hb⟩ := hb
  refine ⟨l + k, ?_, fun n c rest hc => ?_⟩
  · rw [List.length_append]
    omega
  · rw [← Nat.add_assoc, List.append_assoc, ha, hb n c rest hc]

/-- **A text** that is read to its end. -/
theorem parse_of_reads {text : List Char} {v : Json} (h : Reads (.reading [] .value) text (.done v)) :
    parse text = some v := by
  obtain ⟨k, hk, hrun⟩ := h
  have htext := hrun (text.length - k) []
  rw [List.append_nil, Nat.sub_add_cancel hk] at htext
  rw [parse, htext]
  cases text.length - k <;> rfl

/-- One step reads a part. -/
lemma reads_of_step {st st' : State} {c : Char} {part : List Char}
    (h : ∀ rest, step st c (part ++ rest) = some (st', rest)) : Reads st (c :: part) st' := by
  refine ⟨1, Nat.succ_le_of_lt (Nat.succ_pos _), fun n rest => ?_⟩
  rw [List.cons_append, run, h]
  rfl

/-- White space is read over. -/
lemma reads_space (st : State) {part : List Char} (h : ∀ c ∈ part, isSpace c = true) : Reads st part st := by
  induction part with
  | nil => exact Reads.refl st
  | cons c part ih =>
    rw [List.forall_mem_cons] at h
    have hc : Reads st [c] st := reads_of_step fun rest => if_pos h.1
    exact hc.append (ih h.2)

/-! ### Strings -/

/-- A hexadecimal digit. -/
def hexChar (n : ℕ) : Char := Char.ofNat (if n < 10 then 48 + n else 87 + n)

/-- A character in a string. -/
def escapeChar (c : Char) : List Char :=
  if c = '"' then ['\\', '"']
  else if c = '\\' then ['\\', '\\']
  else if c.toNat = 8 then ['\\', 'b']
  else if c.toNat = 12 then ['\\', 'f']
  else if c = '\n' then ['\\', 'n']
  else if c = '\r' then ['\\', 'r']
  else if c = '\t' then ['\\', 't']
  else if c.toNat < 32 then ['\\', 'u', '0', '0', hexChar (c.toNat / 16), hexChar (c.toNat % 16)]
  else [c]

/-- A string. -/
def writeString (s : List Char) : List Char := '"' :: (s.flatMap escapeChar ++ ['"'])

/-- A character that is written with its code. -/
lemma unicodeChar_hexChar {c : Char} (h : c.toNat < 32) :
    unicodeChar '0' '0' (hexChar (c.toNat / 16)) (hexChar (c.toNat % 16)) = some c := by
  have hall : ∀ n < 32, unicodeChar '0' '0' (hexChar (n / 16)) (hexChar (n % 16)) = some (Char.ofNat n) := by
    decide
  rw [hall _ h, Char.ofNat_toNat]

/-- A character that stands for itself. -/
lemma readString_plain {c : Char} (hquote : c ≠ '"') (hback : c ≠ '\\') (hcontrol : ¬ c.toNat < 32)
    (rest : List Char) : readString (c :: rest) = (readString rest).map fun p => (c :: p.1, p.2) := by
  rw [readString.eq_def]
  split
  all_goals
    next h =>
      first
      | exact absurd (List.cons.inj h).1 hquote
      | exact absurd (List.cons.inj h).1 hback
      | exact absurd h (List.cons_ne_nil _ _)
      | (obtain ⟨rfl, rfl⟩ := List.cons.inj h; exact if_neg hcontrol)

/-- One character is read back. -/
lemma readString_escapeChar (c : Char) (rest : List Char) :
    readString (escapeChar c ++ rest) = (readString rest).map fun p => (c :: p.1, p.2) := by
  unfold escapeChar
  split_ifs with hquote hback hb hf hn hr ht hcontrol
  · subst hquote; rfl
  · subst hback; rfl
  · obtain rfl : c = Char.ofNat 8 := by rw [← hb, Char.ofNat_toNat]
    rfl
  · obtain rfl : c = Char.ofNat 12 := by rw [← hf, Char.ofNat_toNat]
    rfl
  · subst hn; rfl
  · subst hr; rfl
  · subst ht; rfl
  · change (unicodeChar '0' '0' _ _).bind _ = _
    rw [unicodeChar_hexChar hcontrol]
    rfl
  · exact readString_plain hquote hback hcontrol rest

/-- A string is read back. -/
lemma readString_escaped (s rest : List Char) :
    readString (s.flatMap escapeChar ++ '"' :: rest) = some (s, rest) := by
  induction s with
  | nil => rfl
  | cons c s ih =>
    rw [List.flatMap_cons, List.append_assoc, readString_escapeChar, ih]
    rfl

/-! ### Integers -/

/-- The digits of a number have no leading zero. -/
lemma eq_zero_of_head?_toDigits (n : ℕ) (h : (Nat.toDigits 10 n).head? = some '0') : n = 0 := by
  induction n using Nat.strongRecOn with
  | ind n ih =>
    by_cases hn : n < 10
    · rw [Nat.toDigits_of_lt_base hn] at h
      have hall : ∀ n < 10, n.digitChar = '0' → n = 0 := by decide
      exact hall n hn (Option.some.inj h)
    · have hle : 10 ≤ n := Nat.le_of_not_lt hn
      rw [Nat.toDigits_of_base_le (by decide) hle, List.head?_append_of_ne_nil _ Nat.toDigits_ne_nil] at h
      have hzero := ih (n / 10) (Nat.div_lt_self (by omega) (by decide)) h
      omega

lemma wholeNumber_repr (n : ℕ) : wholeNumber (Nat.repr n).toList = some n := by
  rw [wholeNumber, if_neg, Text.parseDigits_repr]
  rintro ⟨hhead, hne⟩
  rw [Nat.toList_repr] at hhead hne
  rw [eq_zero_of_head?_toDigits n hhead] at hne
  exact hne rfl

/-- A number is read back. -/
lemma integer_toString (n : ℤ) : integer (toString n).toList = some n := by
  cases n with
  | ofNat n =>
    have hn : wholeNumber (toString (Int.ofNat n)).toList = some n := wholeNumber_repr n
    have hdigit : ∀ c ∈ (toString (Int.ofNat n)).toList, c.isDigit = true := by
      rintro c hc
      have hc' : c ∈ (Nat.repr n).toList := hc
      rw [Nat.toList_repr] at hc'
      exact Nat.isDigit_of_mem_toDigits (by decide) (by decide) hc'
    rw [integer.eq_def]
    split
    · next digits heq =>
      rw [heq] at hdigit
      exact absurd (hdigit '-' List.mem_cons_self) (by decide)
    · rw [hn]
      rfl
  | negSucc n =>
    have htext : (toString (Int.negSucc n)).toList = '-' :: (Nat.repr (n + 1)).toList := by
      have hs : toString (Int.negSucc n) = "-" ++ Nat.repr (n + 1) := rfl
      rw [hs, String.toList_append]
      rfl
    rw [htext, integer, wholeNumber_repr]
    rfl

/-! ### Tokens -/

/-- A value may come next. -/
def Mode.isValue : Mode → Bool
  | .value | .valueOrEnd => true
  | _ => false

/-- A token: a blank, a line break with what is at the front of the line, a sign, a string, a number, or a
word. -/
inductive Token
  | blank
  | line (indent : ℕ)
  | sign (c : Char)
  | text (s : String)
  | number (n : ℤ)
  | bool (b : Bool)
  | null

/-- The signs. -/
def signs : List Char := [',', ':', '[', ']', '\x7b', '\x7d']

/-- The token as it is written. -/
def Token.write : Token → List Char
  | .blank => [' ']
  | .line indent => '\n' :: List.replicate (4 * indent) ' '
  | .sign c => [c]
  | .text s => writeString s.toList
  | .number n => (toString n).toList
  | .bool b => if b then "true".toList else "false".toList
  | .null => "null".toList

/-- The text of tokens. -/
def writeTokens (ts : List Token) : List Char := ts.flatMap Token.write

/-- The state behind a value, if one may come next. -/
def State.value (v : Json) : State → Option State
  | .reading stack mode => if mode.isValue then push v stack else none
  | .done _ => none

/-- The state of the reader behind a token, if it can come next. -/
def Token.exec (st : State) : Token → Option State
  | .blank | .line _ => some st
  | .sign c => if signs.contains c then (step st c []).map Prod.fst else none
  | .text s =>
    match st with
    | .reading stack mode =>
      if mode.isValue then push (.str s) stack
      else if mode = .key ∨ mode = .keyOrEnd then
        match stack with
        | .obj fields :: stack => some (.reading (.field fields s :: stack) .colon)
        | _ => none
      else none
    | .done _ => none
  | .number n => st.value (.num n)
  | .bool b => st.value (.bool b)
  | .null => st.value .null

/-- The token is a number, whose text may go on. -/
def Token.isNumber : Token → Bool
  | .number _ => true
  | _ => false

/-- The token ends a number that is before it. -/
def Token.endsNumber : Token → Bool
  | .blank | .line _ => true
  | .sign c => !inNumber c
  | _ => false

/-- Every number ends, behind a number or not. -/
def ended : Bool → List Token → Bool
  | pending, [] => !pending
  | pending, t :: ts => (!pending || t.endsNumber) && ended t.isNumber ts

/-! ### Reading tokens -/

/-- A character that begins a value. -/
def begins (c : Char) : Bool := !isSpace c && c != '/' && c != ']'

/-- Where a value may come next, a character that begins one is read as one. -/
lemma step_value {stack : List Frame} {mode : Mode} (hmode : mode.isValue = true) {c : Char}
    (hc : begins c = true) (rest : List Char) :
    step (.reading stack mode) c rest = readValue stack c rest := by
  rw [begins, Bool.and_eq_true, Bool.and_eq_true, Bool.not_eq_true', bne_iff_ne, bne_iff_ne] at hc
  obtain ⟨⟨hspace, hslash⟩, hend⟩ := hc
  rw [step, hspace, if_neg Bool.false_ne_true, if_neg hslash]
  cases mode with
  | value => rfl
  | valueOrEnd => exact if_neg hend
  | key => exact absurd hmode Bool.false_ne_true
  | keyOrEnd => exact absurd hmode Bool.false_ne_true
  | colon => exact absurd hmode Bool.false_ne_true
  | next => exact absurd hmode Bool.false_ne_true

/-- A value can come next in a state of this kind only. -/
lemma value_eq_some_iff {st st' : State} {v : Json} :
    st.value v = some st' ↔
      ∃ stack mode, st = .reading stack mode ∧ mode.isValue = true ∧ push v stack = some st' := by
  cases st with
  | done w => exact ⟨fun h => absurd h.symm (Option.some_ne_none _), fun ⟨_, _, h, _⟩ => State.noConfusion h⟩
  | reading stack mode =>
    rw [State.value]
    constructor
    · rintro h
      split at h
      · next hmode => exact ⟨stack, mode, rfl, hmode, h⟩
      · exact absurd h.symm (Option.some_ne_none _)
    · rintro ⟨stack', mode', hst, hmode, hpush⟩
      obtain ⟨rfl, rfl⟩ := State.reading.inj hst
      rw [if_pos hmode, hpush]

/-- A value that one step reads. -/
lemma reads_value {st st' : State} {v : Json} (h : st.value v = some st') {c : Char} (hc : begins c = true)
    {part : List Char}
    (hread : ∀ stack rest, readValue stack c (part ++ rest) = (push v stack).map (·, rest)) :
    Reads st (c :: part) st' := by
  obtain ⟨stack, mode, rfl, hmode, hpush⟩ := value_eq_some_iff.1 h
  refine reads_of_step fun rest => ?_
  rw [step_value hmode hc, hread, hpush]
  rfl

/-- A string, where a value or a key may come next. -/
lemma step_text {st st' : State} {s : String} (h : (Token.text s).exec st = some st') {text rest : List Char}
    (hread : readString text = some (s.toList, rest)) : step st '"' text = some (st', rest) := by
  cases st with
  | done v => exact absurd h.symm (Option.some_ne_none _)
  | reading stack mode =>
    change (if mode.isValue then _ else _) = _ at h
    split at h
    · next hmode =>
      rw [step_value hmode (by decide), readValue, if_pos rfl, hread, Option.bind_some, String.ofList_toList, h]
      rfl
    · split at h
      · next hmode =>
        split at h
        · next fields stack =>
          obtain rfl := Option.some.inj h
          have hkey : readKey (.obj fields :: stack) text =
              some (.reading (.field fields s :: stack) .colon, rest) := by
            rw [readKey, hread, Option.map_some, String.ofList_toList]
          rcases hmode with rfl | rfl <;> exact hkey
        · exact absurd h.symm (Option.some_ne_none _)
      · exact absurd h.symm (Option.some_ne_none _)

/-- A sign is read as it is, whatever is behind it. -/
lemma step_sign {st : State} {c : Char} (hc : signs.contains c = true) (rest : List Char) :
    step st c rest = (step st c []).map fun p => (p.1, rest) := by
  simp only [signs, List.contains_eq_mem, List.mem_cons, List.not_mem_nil, or_false, decide_eq_true_eq] at hc
  cases st with
  | done v => rcases hc with rfl | rfl | rfl | rfl | rfl | rfl <;> rfl
  | reading stack mode =>
    rcases hc with rfl | rfl | rfl | rfl | rfl | rfl <;> cases mode <;> first
      | rfl
      | (change Option.map _ _ = Option.map _ (Option.map _ _)
         rw [Option.map_map]
         rfl)

/-- The characters of a number. -/
lemma inNumber_of_mem_toString {n : ℤ} {c : Char} (h : c ∈ (toString n).toList) :
    inNumber c = true ∧ begins c = true := by
  rcases Text.isDigit_or_of_mem_toString h with hdigit | rfl
  · have hc : 48 ≤ c.toNat ∧ c.toNat ≤ 57 := by
      simp only [Char.isDigit, Bool.and_eq_true, decide_eq_true_eq] at hdigit
      exact ⟨UInt32.le_iff_toNat_le.1 hdigit.1, UInt32.le_iff_toNat_le.1 hdigit.2⟩
    have hall : ∀ n < 58, 48 ≤ n → inNumber (Char.ofNat n) = true ∧ begins (Char.ofNat n) = true := by decide
    rw [← Char.ofNat_toNat c]
    exact hall c.toNat (by omega) hc.1
  · decide

/-- A number is a value. -/
lemma readsValue_number {st st' : State} {n : ℤ} (h : st.value (.num n) = some st') :
    ReadsValue st (toString n).toList st' := by
  obtain ⟨stack, mode, rfl, hmode, hpush⟩ := value_eq_some_iff.1 h
  have hchars : ∀ c ∈ (toString n).toList, inNumber c = true := fun c hc => (inNumber_of_mem_toString hc).1
  cases htext : (toString n).toList with
  | nil =>
    have hempty := integer_toString n
    rw [htext] at hempty
    exact absurd hempty.symm (Option.some_ne_none n)
  | cons d digits =>
    rw [htext] at hchars
    have hd : d ∈ (toString n).toList := by rw [htext]; exact List.mem_cons_self
    have hbegins := (inNumber_of_mem_toString hd).2
    refine ⟨1, Nat.succ_le_of_lt (Nat.succ_pos _), fun m c rest hc => ?_⟩
    have htake : (d :: (digits ++ c :: rest)).takeWhile inNumber = d :: digits := by
      rw [← List.cons_append, List.takeWhile_append_of_pos hchars, List.takeWhile_cons_of_neg (by rw [hc]; exact
        Bool.false_ne_true), List.append_nil]
    have hdrop : (d :: (digits ++ c :: rest)).dropWhile inNumber = c :: rest := by
      rw [← List.cons_append, List.dropWhile_append_of_pos hchars, List.dropWhile_cons_of_neg (by rw [hc]; exact
        Bool.false_ne_true)]
    have hne : ∀ e, inNumber e = false → d ≠ e := by
      rintro e he rfl
      exact absurd ((hchars d List.mem_cons_self).symm.trans he) (by decide)
    have hpre : ∀ e word, inNumber e = false → (e :: word).isPrefixOf (d :: (digits ++ c :: rest)) = false := by
      rintro e word he
      rw [List.isPrefixOf, beq_false_of_ne (hne e he).symm, Bool.false_and]
    rw [List.cons_append, run, step_value hmode hbegins, readValue, if_neg (hne _ rfl), if_neg (hne _ rfl),
      if_neg (hne _ rfl), hpre _ _ rfl, if_neg Bool.false_ne_true, hpre _ _ rfl, if_neg Bool.false_ne_true,
      hpre _ _ rfl, if_neg Bool.false_ne_true, htake, ← htext, integer_toString, hdrop, Option.bind_some, hpush]
    rfl

/-- A token that is no number is read, if it can come next. -/
lemma reads_token {st st' : State} {t : Token} (hnumber : t.isNumber = false) (h : t.exec st = some st') :
    Reads st t.write st' := by
  cases t with
  | blank =>
    obtain rfl := Option.some.inj h
    exact reads_space st (List.all_eq_true.1 (by decide))
  | line indent =>
    obtain rfl := Option.some.inj h
    refine reads_space st fun c hc => ?_
    rcases List.mem_cons.1 hc with rfl | hc
    · rfl
    · rw [List.eq_of_mem_replicate hc]
      rfl
  | sign c =>
    rw [Token.exec] at h
    split at h
    · next hc =>
      refine reads_of_step fun rest => ?_
      obtain ⟨p, hp, rfl⟩ := Option.map_eq_some_iff.1 h
      rw [List.nil_append, step_sign hc, hp]
      rfl
    · exact absurd h.symm (Option.some_ne_none _)
  | text s =>
    refine reads_of_step fun rest => step_text h ?_
    rw [List.append_assoc, List.singleton_append, readString_escaped]
  | number n => exact absurd hnumber.symm Bool.false_ne_true
  | bool b =>
    cases b with
    | true => exact reads_value h (by decide) fun _ _ => rfl
    | false => exact reads_value h (by decide) fun _ _ => rfl
  | null => exact reads_value h (by decide) fun _ _ => rfl

/-- What ends a number begins with a character that a number does not have. -/
lemma write_of_endsNumber {t : Token} (h : t.endsNumber = true) :
    ∃ c text, t.write = c :: text ∧ inNumber c = false := by
  cases t with
  | blank => exact ⟨' ', [], rfl, rfl⟩
  | line indent => exact ⟨'\n', _, rfl, rfl⟩
  | sign c => exact ⟨c, [], rfl, Bool.not_eq_true' .. ▸ h⟩
  | text s => exact absurd h Bool.false_ne_true
  | number n => exact absurd h Bool.false_ne_true
  | bool b => exact absurd h Bool.false_ne_true
  | null => exact absurd h Bool.false_ne_true

/-- **Tokens are read one after another.** -/
theorem reads_tokens {st st' : State} {ts : List Token} (hended : ended false ts = true)
    (h : ts.foldlM Token.exec st = some st') : Reads st (writeTokens ts) st' := by
  induction ts generalizing st with
  | nil =>
    obtain rfl := Option.some.inj h
    exact Reads.refl st
  | cons t ts ih =>
    rw [List.foldlM_cons] at h
    obtain ⟨st₁, htoken, hrest⟩ := Option.bind_eq_some_iff.1 h
    rw [ended, Bool.not_false, Bool.true_or, Bool.true_and] at hended
    cases hnumber : t.isNumber with
    | false =>
      rw [hnumber] at hended
      exact (reads_token hnumber htoken).append (ih hended hrest)
    | true =>
      rw [hnumber] at hended
      obtain ⟨n, rfl⟩ : ∃ n, t = .number n := by
        cases t with
        | number n => exact ⟨n, rfl⟩
        | _ => exact absurd hnumber Bool.false_ne_true
      match ts, hended with
      | u :: us, hended =>
        rw [ended, Bool.not_true, Bool.false_or, Bool.and_eq_true] at hended
        obtain ⟨c, text, htext, hc⟩ := write_of_endsNumber hended.1
        have hread := ih (by rw [ended, Bool.not_false, Bool.true_or, Bool.true_and, hended.2]) hrest
        have hwrite : writeTokens (u :: us) = c :: (text ++ writeTokens us) := by
          rw [writeTokens, List.flatMap_cons, htext]
          rfl
        rw [hwrite] at hread
        rw [writeTokens, List.flatMap_cons]
        change Reads st (_ ++ writeTokens (u :: us)) st'
        rw [hwrite]
        exact (readsValue_number htoken).append hc hread

/-- **A text is read as its tokens.** -/
theorem parse_tokens {ts : List Token} {v : Json} (hended : ended false ts = true)
    (h : ts.foldlM Token.exec (.reading [] .value) = some (.done v)) : parse (writeTokens ts) = some v :=
  parse_of_reads (reads_tokens hended h)

/-- The state behind tokens that come one after another. -/
lemma exec_append {α : Type} {f : State → α → Option State} {st st' : State} {a : List α} (b : List α)
    (h : a.foldlM f st = some st') : (a ++ b).foldlM f st = b.foldlM f st' := by
  rw [List.foldlM_append, h]
  rfl

/-! ### Values -/

/-- The line break before a value, if there are lines. -/
def lines (compact : Bool) (indent : ℕ) : List Token := if compact then [] else [.line indent]

/-- The sign between a key and its value. -/
def colon (compact : Bool) : List Token := .sign ':' :: if compact then [] else [.blank]

mutual

/-- The tokens of a value, at a depth of lines. -/
def tokens (compact : Bool) (indent : ℕ) : Json → List Token
  | .null => [.null]
  | .bool b => [.bool b]
  | .num n => [.number n]
  | .str s => [.text s]
  | .arr items =>
    .sign '[' :: (itemTokens compact (indent + 1) items [] ++ (lines compact indent ++ [.sign ']']))
  | .obj fields =>
    .sign '\x7b' :: (fieldTokens compact (indent + 1) fields [] ++ (lines compact indent ++ [.sign '\x7d']))

/-- The values of an array, each on its line, with what comes before the first. -/
def itemTokens (compact : Bool) (indent : ℕ) : List Json → List Token → List Token
  | [], _ => []
  | v :: items, front =>
    front ++ (lines compact indent ++ (tokens compact indent v ++ itemTokens compact indent items [.sign ',']))

/-- The fields of an object, each on its line, with what comes before the first. -/
def fieldTokens (compact : Bool) (indent : ℕ) : List (String × Json) → List Token → List Token
  | [], _ => []
  | (key, v) :: fields, front =>
    front ++ (lines compact indent ++ (.text key :: (colon compact ++
      (tokens compact indent v ++ fieldTokens compact indent fields [.sign ',']))))

end

/-- **A value as it is written**, at a depth of lines. -/
def writeValue (compact : Bool) (indent : ℕ) (v : Json) : List Char := writeTokens (tokens compact indent v)

/-- Line breaks are read over. -/
lemma exec_lines (compact : Bool) (indent : ℕ) (st : State) (ts : List Token) :
    (lines compact indent ++ ts).foldlM Token.exec st = ts.foldlM Token.exec st := by
  cases compact <;> rfl

lemma exec_colon (compact : Bool) (stack : List Frame) (ts : List Token) :
    (colon compact ++ ts).foldlM Token.exec (.reading stack .colon) =
      ts.foldlM Token.exec (.reading stack .value) := by
  cases compact <;> rfl

mutual

/-- **The tokens of a value are read as the value**, wherever one may come next.

**Proof sketch.** Induction on the value, with the values of an array and the fields of an object. -/
theorem exec_tokens (compact : Bool) (indent : ℕ) (v : Json) {st st' : State} (h : st.value v = some st') :
    (tokens compact indent v).foldlM Token.exec st = some st' := by
  cases v with
  | null =>
    rw [tokens, List.foldlM_cons]
    exact Option.bind_eq_some_iff.2 ⟨st', h, rfl⟩
  | bool b =>
    rw [tokens, List.foldlM_cons]
    exact Option.bind_eq_some_iff.2 ⟨st', h, rfl⟩
  | num n =>
    rw [tokens, List.foldlM_cons]
    exact Option.bind_eq_some_iff.2 ⟨st', h, rfl⟩
  | str s =>
    obtain ⟨stack, mode, rfl, hmode, hpush⟩ := value_eq_some_iff.1 h
    rw [tokens, List.foldlM_cons]
    exact Option.bind_eq_some_iff.2 ⟨st', (if_pos hmode).trans hpush, rfl⟩
  | arr items =>
    obtain ⟨stack, mode, rfl, hmode, hpush⟩ := value_eq_some_iff.1 h
    have hopen : (Token.sign '[').exec (.reading stack mode) = some (.reading (.arr [] :: stack) .valueOrEnd) := by
      cases mode with
      | value => rfl
      | valueOrEnd => rfl
      | _ => exact absurd hmode Bool.false_ne_true
    have hitems : push (.arr ([] ++ items)) stack = some st' := hpush
    rw [tokens, List.foldlM_cons]
    exact Option.bind_eq_some_iff.2 ⟨_, hopen,
      exec_itemTokens compact (indent + 1) indent items (Or.inl ⟨rfl, rfl⟩) hitems⟩
  | obj fields =>
    obtain ⟨stack, mode, rfl, hmode, hpush⟩ := value_eq_some_iff.1 h
    have hopen : (Token.sign '\x7b').exec (.reading stack mode) =
        some (.reading (.obj [] :: stack) .keyOrEnd) := by
      cases mode with
      | value => rfl
      | valueOrEnd => rfl
      | _ => exact absurd hmode Bool.false_ne_true
    have hfields : push (.obj ([] ++ fields)) stack = some st' := hpush
    rw [tokens, List.foldlM_cons]
    exact Option.bind_eq_some_iff.2 ⟨_, hopen,
      exec_fieldTokens compact (indent + 1) indent fields (Or.inl ⟨rfl, rfl⟩) hfields⟩

/-- The values of an array and its end, behind the opening bracket or behind a value. -/
theorem exec_itemTokens (compact : Bool) (indent outer : ℕ) (items : List Json) {read : List Json}
    {stack : List Frame} {mode : Mode} {front : List Token}
    (hfront : mode = .valueOrEnd ∧ front = [] ∨ mode = .next ∧ front = [Token.sign ',']) {st : State}
    (hpush : push (.arr (read ++ items)) stack = some st) :
    (itemTokens compact indent items front ++ (lines compact outer ++ [Token.sign ']'])).foldlM Token.exec
      (.reading (.arr read :: stack) mode) = some st := by
  cases items with
  | nil =>
    rw [List.append_nil] at hpush
    rw [itemTokens, List.nil_append, exec_lines]
    have hclose : (Token.sign ']').exec (.reading (.arr read :: stack) mode) = some st := by
      rcases hfront with ⟨rfl, -⟩ | ⟨rfl, -⟩
      · change Option.map _ (Option.map _ (push (.arr read) stack)) = _
        rw [hpush]
        rfl
      · change Option.map _ (Option.map _ (push (.arr read) stack)) = _
        rw [hpush]
        rfl
    exact Option.bind_eq_some_iff.2 ⟨_, hclose, rfl⟩
  | cons v items =>
    obtain ⟨mode', hmode', hopen⟩ : ∃ mode' : Mode, mode'.isValue = true ∧
        front.foldlM Token.exec (.reading (.arr read :: stack) mode) =
          some (.reading (.arr read :: stack) mode') := by
      rcases hfront with ⟨rfl, rfl⟩ | ⟨rfl, rfl⟩
      · exact ⟨.valueOrEnd, rfl, rfl⟩
      · exact ⟨.value, rfl, rfl⟩
    have hv : (tokens compact indent v).foldlM Token.exec (.reading (.arr read :: stack) mode') =
        some (.reading (.arr (read ++ [v]) :: stack) .next) := exec_tokens compact indent v (if_pos hmode')
    rw [itemTokens, List.append_assoc, exec_append _ hopen, List.append_assoc, exec_lines, List.append_assoc,
      exec_append _ hv]
    refine exec_itemTokens compact indent outer items (Or.inr ⟨rfl, rfl⟩) ?_
    rw [List.append_assoc, List.singleton_append]
    exact hpush

/-- The fields of an object and its end, behind the opening bracket or behind a field. -/
theorem exec_fieldTokens (compact : Bool) (indent outer : ℕ) (fields : List (String × Json)) {read : JsonObject}
    {stack : List Frame} {mode : Mode} {front : List Token}
    (hfront : mode = .keyOrEnd ∧ front = [] ∨ mode = .next ∧ front = [Token.sign ',']) {st : State}
    (hpush : push (.obj (read ++ fields)) stack = some st) :
    (fieldTokens compact indent fields front ++ (lines compact outer ++ [Token.sign '\x7d'])).foldlM Token.exec
      (.reading (.obj read :: stack) mode) = some st := by
  cases fields with
  | nil =>
    rw [List.append_nil] at hpush
    rw [fieldTokens, List.nil_append, exec_lines]
    have hclose : (Token.sign '\x7d').exec (.reading (.obj read :: stack) mode) = some st := by
      rcases hfront with ⟨rfl, -⟩ | ⟨rfl, -⟩
      · change Option.map _ (Option.map _ (push (.obj read) stack)) = _
        rw [hpush]
        rfl
      · change Option.map _ (Option.map _ (push (.obj read) stack)) = _
        rw [hpush]
        rfl
    exact Option.bind_eq_some_iff.2 ⟨_, hclose, rfl⟩
  | cons field fields =>
    obtain ⟨key, v⟩ := field
    obtain ⟨mode', hmode', hopen⟩ : ∃ mode' : Mode, (mode' = .key ∨ mode' = .keyOrEnd) ∧
        front.foldlM Token.exec (.reading (.obj read :: stack) mode) =
          some (.reading (.obj read :: stack) mode') := by
      rcases hfront with ⟨rfl, rfl⟩ | ⟨rfl, rfl⟩
      · exact ⟨.keyOrEnd, Or.inr rfl, rfl⟩
      · exact ⟨.key, Or.inl rfl, rfl⟩
    have hkey : (Token.text key).exec (.reading (.obj read :: stack) mode') =
        some (.reading (.field read key :: stack) .colon) := by
      rcases hmode' with rfl | rfl <;> rfl
    have hv : (tokens compact indent v).foldlM Token.exec (.reading (.field read key :: stack) .value) =
        some (.reading (.obj (read ++ [(key, v)]) :: stack) .next) := exec_tokens compact indent v rfl
    have hfields : push (.obj ((read ++ [(key, v)]) ++ fields)) stack = some st := by
      rw [List.append_assoc, List.singleton_append]
      exact hpush
    have hrest := exec_fieldTokens compact indent outer fields (Or.inr ⟨rfl, rfl⟩) hfields
    rw [fieldTokens, List.append_assoc, exec_append _ hopen, List.append_assoc, exec_lines, List.cons_append,
      List.foldlM_cons]
    refine Option.bind_eq_some_iff.2 ⟨_, hkey, ?_⟩
    rw [List.append_assoc, exec_colon, List.append_assoc, exec_append _ hv, hrest]

end

/-- The value is a number. -/
def isNumber : Json → Bool
  | .num _ => true
  | _ => false

lemma ended_of_pending {ts : List Token} (h : ended true ts = true) : ended false ts = true := by
  cases ts with
  | nil => exact absurd h Bool.false_ne_true
  | cons t ts =>
    rw [ended, Bool.and_eq_true] at h
    rw [ended, Bool.not_false, Bool.true_or, Bool.true_and, h.2]

/-- Line breaks end a number, and so does what is behind them if there are none. -/
lemma ended_lines (compact : Bool) (indent : ℕ) {pending : Bool} {ts : List Token}
    (h : ended pending ts = true) : ended pending (lines compact indent ++ ts) = true := by
  cases compact with
  | true => exact h
  | false =>
    have hfalse : ended false ts = true := by
      cases pending with
      | true => exact ended_of_pending h
      | false => exact h
    change ((!pending || true) && ended false ts) = true
    rw [hfalse, Bool.or_true, Bool.and_self]

mutual

/-- Every number in the tokens of a value ends, if a number ends that is the value itself. -/
theorem ended_tokens (compact : Bool) (indent : ℕ) (v : Json) {ts : List Token}
    (h : ended (isNumber v) ts = true) : ended false (tokens compact indent v ++ ts) = true := by
  cases v with
  | null => rw [tokens]; exact h
  | bool b => rw [tokens]; exact h
  | num n => rw [tokens]; exact h
  | str s => rw [tokens]; exact h
  | arr items =>
    have hclose : ended true (lines compact indent ++ ([.sign ']'] ++ ts)) = true := ended_lines compact indent h
    rw [tokens, List.cons_append, List.append_assoc, List.append_assoc]
    exact (ended_itemTokens compact (indent + 1) items (Or.inl rfl) hclose).1
  | obj fields =>
    have hclose : ended true (lines compact indent ++ ([.sign '\x7d'] ++ ts)) = true :=
      ended_lines compact indent h
    rw [tokens, List.cons_append, List.append_assoc, List.append_assoc]
    exact (ended_fieldTokens compact (indent + 1) fields (Or.inl rfl) hclose).1

theorem ended_itemTokens (compact : Bool) (indent : ℕ) (items : List Json) {front ts : List Token}
    (hfront : front = [] ∨ front = [Token.sign ',']) (h : ended true ts = true) :
    ended false (itemTokens compact indent items front ++ ts) = true ∧
      (front = [Token.sign ','] → ended true (itemTokens compact indent items front ++ ts) = true) := by
  cases items with
  | nil => rw [itemTokens]; exact ⟨ended_of_pending h, fun _ => h⟩
  | cons v items =>
    have hrest := ended_itemTokens compact indent items (Or.inr rfl) h
    have hv : ended false (lines compact indent ++ (tokens compact indent v ++
        (itemTokens compact indent items [.sign ','] ++ ts))) = true := by
      refine ended_lines compact indent (ended_tokens compact indent v ?_)
      cases isNumber v with
      | true => exact hrest.2 rfl
      | false => exact hrest.1
    rw [itemTokens, List.append_assoc, List.append_assoc, List.append_assoc]
    rcases hfront with rfl | rfl
    · exact ⟨hv, fun hne => absurd hne (List.cons_ne_nil _ _).symm⟩
    · exact ⟨hv, fun _ => hv⟩

theorem ended_fieldTokens (compact : Bool) (indent : ℕ) (fields : List (String × Json)) {front ts : List Token}
    (hfront : front = [] ∨ front = [Token.sign ',']) (h : ended true ts = true) :
    ended false (fieldTokens compact indent fields front ++ ts) = true ∧
      (front = [Token.sign ','] → ended true (fieldTokens compact indent fields front ++ ts) = true) := by
  cases fields with
  | nil => rw [fieldTokens]; exact ⟨ended_of_pending h, fun _ => h⟩
  | cons field fields =>
    obtain ⟨key, v⟩ := field
    have hrest := ended_fieldTokens compact indent fields (Or.inr rfl) h
    have hv : ended false (tokens compact indent v ++
        (fieldTokens compact indent fields [.sign ','] ++ ts)) = true := by
      refine ended_tokens compact indent v ?_
      cases isNumber v with
      | true => exact hrest.2 rfl
      | false => exact hrest.1
    have hkey : ended false (lines compact indent ++ (.text key :: (colon compact ++ (tokens compact indent v ++
        (fieldTokens compact indent fields [.sign ','] ++ ts))))) = true := by
      refine ended_lines compact indent ?_
      cases compact <;> exact hv
    rw [fieldTokens, List.append_assoc, List.append_assoc, List.cons_append, List.append_assoc,
      List.append_assoc]
    rcases hfront with rfl | rfl
    · exact ⟨hkey, fun hne => absurd hne (List.cons_ne_nil _ _).symm⟩
    · exact ⟨hkey, fun _ => hkey⟩

end

/-! ### The strings of a value -/

mutual

/-- The strings of a value and the keys of its objects. -/
def strings : Json → List String
  | .str s => [s]
  | .arr items => itemStrings items
  | .obj fields => fieldStrings fields
  | _ => []

/-- The strings of the values of an array. -/
def itemStrings : List Json → List String
  | [] => []
  | v :: items => strings v ++ itemStrings items

/-- The strings of the fields of an object. -/
def fieldStrings : List (String × Json) → List String
  | [] => []
  | (key, v) :: fields => key :: (strings v ++ fieldStrings fields)

end

lemma mem_itemStrings {s : String} {items : List Json} :
    s ∈ itemStrings items ↔ ∃ v ∈ items, s ∈ strings v := by
  induction items with
  | nil => exact ⟨fun h => absurd h List.not_mem_nil, fun ⟨v, hv, _⟩ => absurd hv List.not_mem_nil⟩
  | cons v items ih => rw [itemStrings, List.mem_append, ih, List.exists_mem_cons_iff]

lemma mem_fieldStrings {s : String} {fields : List (String × Json)} :
    s ∈ fieldStrings fields ↔ ∃ f ∈ fields, s = f.1 ∨ s ∈ strings f.2 := by
  induction fields with
  | nil => exact ⟨fun h => absurd h List.not_mem_nil, fun ⟨v, hv, _⟩ => absurd hv List.not_mem_nil⟩
  | cons f fields ih => rw [fieldStrings, List.mem_cons, List.mem_append, ih, List.exists_mem_cons_iff, or_assoc]

mutual

/-- The strings in the tokens of a value are those of the value. -/
theorem mem_tokens (compact : Bool) (indent : ℕ) (s : String) (v : Json) :
    Token.text s ∈ tokens compact indent v ↔ s ∈ strings v := by
  cases v with
  | null => simp [tokens, strings]
  | bool b => simp [tokens, strings]
  | num n => simp [tokens, strings]
  | str t => simp [tokens, strings]
  | arr items =>
    have hitems := mem_itemTokens compact (indent + 1) s items (Or.inl rfl)
    cases compact <;> simpa [tokens, strings, lines] using hitems
  | obj fields =>
    have hfields := mem_fieldTokens compact (indent + 1) s fields (Or.inl rfl)
    cases compact <;> simpa [tokens, strings, lines] using hfields

theorem mem_itemTokens (compact : Bool) (indent : ℕ) (s : String) (items : List Json) {front : List Token}
    (hfront : front = [] ∨ front = [Token.sign ',']) :
    Token.text s ∈ itemTokens compact indent items front ↔ s ∈ itemStrings items := by
  cases items with
  | nil => simp [itemTokens, itemStrings]
  | cons v items =>
    have hv := mem_tokens compact indent s v
    have hitems := mem_itemTokens compact indent s items (Or.inr rfl)
    rcases hfront with rfl | rfl <;> cases compact <;> simp [itemTokens, itemStrings, lines, hv, hitems]

theorem mem_fieldTokens (compact : Bool) (indent : ℕ) (s : String) (fields : List (String × Json))
    {front : List Token} (hfront : front = [] ∨ front = [Token.sign ',']) :
    Token.text s ∈ fieldTokens compact indent fields front ↔ s ∈ fieldStrings fields := by
  cases fields with
  | nil => simp [fieldTokens, fieldStrings]
  | cons field fields =>
    obtain ⟨key, v⟩ := field
    have hv := mem_tokens compact indent s v
    have hfields := mem_fieldTokens compact indent s fields (Or.inr rfl)
    rcases hfront with rfl | rfl <;> cases compact <;>
      simp [fieldTokens, fieldStrings, lines, colon, hv, hfields]

end

/-- Every sign that can be read is one. -/
lemma sign_of_exec {st st' : State} {ts : List Token} (h : ts.foldlM Token.exec st = some st') {c : Char}
    (hc : Token.sign c ∈ ts) : signs.contains c = true := by
  induction ts generalizing st with
  | nil => exact absurd hc List.not_mem_nil
  | cons t ts ih =>
    rw [List.foldlM_cons] at h
    obtain ⟨st₁, htoken, hrest⟩ := Option.bind_eq_some_iff.1 h
    rcases List.mem_cons.1 hc with rfl | hc
    · rw [Token.exec] at htoken
      split at htoken
      · assumption
      · exact absurd htoken.symm (Option.some_ne_none _)
    · exact ih hrest hc

/-! ### Texts in parts -/

/-- A part of a text: a token, or the tokens of a value in one line or at a depth of lines. -/
inductive Part
  | token (t : Token)
  | value (compact : Bool) (indent : ℕ) (v : Json)

namespace Part

abbrev blank : Part := .token .blank

abbrev line (indent : ℕ) : Part := .token (.line indent)

abbrev sign (c : Char) : Part := .token (.sign c)

abbrev text (s : String) : Part := .token (.text s)

abbrev number (n : ℤ) : Part := .token (.number n)

/-- The tokens of a part. -/
def tokens : Part → List Token
  | .token t => [t]
  | .value compact indent v => JsonText.tokens compact indent v

/-- The state of the reader behind a part, if it can come next. -/
def exec (st : State) : Part → Option State
  | .token t => t.exec st
  | .value _ _ v => st.value v

/-- Every number in parts ends, behind a number or not, and no value is one. -/
def ended : Bool → List Part → Bool
  | pending, [] => !pending
  | pending, .token t :: parts => (!pending || t.endsNumber) && ended t.isNumber parts
  | pending, .value _ _ v :: parts => !pending && !isNumber v && ended false parts

end Part

/-- The part as it is written. -/
def Part.write (part : Part) : List Char := writeTokens part.tokens

/-- The text of parts. -/
def writeParts (parts : List Part) : List Char := writeTokens (parts.flatMap Part.tokens)

lemma Part.write_token (t : Token) : (Part.token t).write = t.write := List.append_nil _

lemma writeParts_nil : writeParts [] = [] := rfl

lemma writeParts_cons (part : Part) (parts : List Part) :
    writeParts (part :: parts) = part.write ++ writeParts parts := by
  rw [writeParts, List.flatMap_cons, writeTokens, List.flatMap_append]
  rfl

lemma writeParts_append (a b : List Part) : writeParts (a ++ b) = writeParts a ++ writeParts b := by
  rw [writeParts, List.flatMap_append, writeTokens, List.flatMap_append]
  rfl

/-- The tokens of parts are read as the parts. -/
lemma exec_parts {st st' : State} {parts : List Part} (h : parts.foldlM Part.exec st = some st') :
    (parts.flatMap Part.tokens).foldlM Token.exec st = some st' := by
  induction parts generalizing st with
  | nil => exact h
  | cons part parts ih =>
    rw [List.foldlM_cons] at h
    obtain ⟨st₁, hpart, hrest⟩ := Option.bind_eq_some_iff.1 h
    have htokens : part.tokens.foldlM Token.exec st = some st₁ := by
      cases part with
      | token t => exact Option.bind_eq_some_iff.2 ⟨st₁, hpart, rfl⟩
      | value compact indent v => exact exec_tokens compact indent v hpart
    rw [List.flatMap_cons, exec_append _ htokens, ih hrest]

lemma Part.ended_append {pending : Bool} {a b : List Part} (ha : Part.ended pending a = true)
    (hb : Part.ended false b = true) : Part.ended pending (a ++ b) = true := by
  induction a generalizing pending with
  | nil =>
    cases pending with
    | true => exact absurd ha Bool.false_ne_true
    | false => exact hb
  | cons part a ih =>
    cases part with
    | token t =>
      rw [Part.ended, Bool.and_eq_true] at ha
      rw [List.cons_append, Part.ended, ha.1, ih ha.2, Bool.and_self]
    | value compact indent v =>
      rw [Part.ended, Bool.and_eq_true] at ha
      rw [List.cons_append, Part.ended, ha.1, ih ha.2, Bool.and_self]

/-- The numbers in the tokens of parts end if they end in the parts. -/
lemma ended_parts {pending : Bool} {parts : List Part} (h : Part.ended pending parts = true) :
    ended pending (parts.flatMap Part.tokens) = true := by
  induction parts generalizing pending with
  | nil => exact h
  | cons part parts ih =>
    cases part with
    | token t =>
      rw [Part.ended, Bool.and_eq_true] at h
      rw [List.flatMap_cons]
      change ended pending (t :: parts.flatMap Part.tokens) = true
      rw [ended, h.1, ih h.2, Bool.and_self]
    | value compact indent v =>
      rw [Part.ended, Bool.and_eq_true, Bool.and_eq_true, Bool.not_eq_true', Bool.not_eq_true'] at h
      obtain ⟨⟨rfl, hv⟩, hrest⟩ := h
      rw [List.flatMap_cons]
      exact ended_tokens compact indent v (by rw [hv]; exact ih hrest)

end JsonText
