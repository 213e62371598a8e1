import Proxor.Lib.Text
import Proxor.Lib.Utf8
import Proxor.MacHelper.Protocol

set_option relaxedAutoImplicit false
set_option autoImplicit false

/-!
# Requests in JSON

The JSON that `encoding/json` writes for a request, and what reads it back.

## Main definitions

* `Proxor.MacHelper.Protocol.Request` — the fields of a request.
* `Proxor.MacHelper.Protocol.marshal`, `Proxor.MacHelper.Protocol.unmarshal`.
* `Proxor.MacHelper.Protocol.requestCodec` — these as a codec.

## Main results

* `Proxor.MacHelper.Protocol.unmarshal_marshal` — a request is read back.
* `Proxor.MacHelper.Protocol.read_requests` — what is read from a stream.
-/

namespace Proxor.MacHelper.Protocol

/-- A request. -/
structure Request where
  id : Int64
  cmd : String
  protocol : Int64 := 0
  config : String := ""
  socksPort : Int64 := 0
  port : Int64 := 0
  bypass : List String := []
deriving DecidableEq

/-! ### Texts -/

/-- A hexadecimal digit. -/
def hexChar (n : ℕ) : Char := Char.ofNat (if n < 10 then 48 + n else 87 + n)

/-- The value of a hexadecimal digit. -/
def hexValue (c : Char) : ℕ := if c.toNat < 58 then c.toNat - 48 else c.toNat - 87

/-- Characters that are written as their number: the control characters, and some that mean something to
HTML or JavaScript. -/
def numbered (c : Char) : Bool :=
  c.toNat < 32 || c = '<' || c = '>' || c = '&' || c.toNat = 0x2028 || c.toNat = 0x2029

/-- A character in a JSON text. -/
def escapeChar (c : Char) : List Char :=
  if c = '"' then ['\\', '"']
  else if c = '\\' then ['\\', '\\']
  else if c.toNat = 8 then ['\\', 'b']
  else if c.toNat = 12 then ['\\', 'f']
  else if c = '\n' then ['\\', 'n']
  else if c = '\r' then ['\\', 'r']
  else if c = '\t' then ['\\', 't']
  else if numbered c then
    ['\\', 'u', hexChar (c.toNat / 4096), hexChar (c.toNat / 256 % 16), hexChar (c.toNat / 16 % 16),
      hexChar (c.toNat % 16)]
  else [c]

/-- A JSON text. -/
def writeText (s : List Char) : List Char := '"' :: (s.flatMap escapeChar ++ ['"'])

/-- A JSON text after its first quotation mark, and what follows it. -/
def readChars : List Char → Option (List Char × List Char)
  | [] => none
  | '"' :: rest => some ([], rest)
  | '\\' :: 'u' :: a :: b :: c :: d :: rest =>
    (readChars rest).map fun p => (Char.ofNat (hexValue a * 4096 + hexValue b * 256 + hexValue c * 16 +
      hexValue d) :: p.1, p.2)
  | '\\' :: 'b' :: rest => (readChars rest).map fun p => (Char.ofNat 8 :: p.1, p.2)
  | '\\' :: 'f' :: rest => (readChars rest).map fun p => (Char.ofNat 12 :: p.1, p.2)
  | '\\' :: 'n' :: rest => (readChars rest).map fun p => ('\n' :: p.1, p.2)
  | '\\' :: 'r' :: rest => (readChars rest).map fun p => ('\r' :: p.1, p.2)
  | '\\' :: 't' :: rest => (readChars rest).map fun p => ('\t' :: p.1, p.2)
  | '\\' :: c :: rest => (readChars rest).map fun p => (c :: p.1, p.2)
  | c :: rest => (readChars rest).map fun p => (c :: p.1, p.2)

/-- A numbered character is found again by its number. -/
lemma ofNat_numbered {c : Char} (h : numbered c = true) :
    Char.ofNat (hexValue (hexChar (c.toNat / 4096)) * 4096 + hexValue (hexChar (c.toNat / 256 % 16)) * 256 +
      hexValue (hexChar (c.toNat / 16 % 16)) * 16 + hexValue (hexChar (c.toNat % 16))) = c := by
  have hhex : ∀ n < 16, hexValue (hexChar n) = n := by decide
  have hsmall : c.toNat < 65536 := by
    simp only [numbered, Bool.or_eq_true, decide_eq_true_eq] at h
    rcases h with ((((h | h) | h) | h) | h) | h
    · omega
    · rw [h]; decide
    · rw [h]; decide
    · rw [h]; decide
    · omega
    · omega
  rw [hhex _ (by omega), hhex _ (by omega), hhex _ (by omega), hhex _ (by omega)]
  have hsum : c.toNat / 4096 * 4096 + c.toNat / 256 % 16 * 256 + c.toNat / 16 % 16 * 16 + c.toNat % 16 =
      c.toNat := by omega
  rw [hsum, Char.ofNat_toNat]

/-- One character is read back. -/
lemma readChars_escapeChar (c : Char) (rest : List Char) :
    readChars (escapeChar c ++ rest) = (readChars rest).map fun p => (c :: p.1, p.2) := by
  unfold escapeChar
  split_ifs with hquote hback hb hf hn hr ht hnum
  · subst hquote; rfl
  · subst hback; rfl
  · obtain rfl : c = Char.ofNat 8 := by rw [← hb, Char.ofNat_toNat]
    rfl
  · obtain rfl : c = Char.ofNat 12 := by rw [← hf, Char.ofNat_toNat]
    rfl
  · subst hn; rfl
  · subst hr; rfl
  · subst ht; rfl
  · exact congrArg (fun d => (readChars rest).map fun p => (d :: p.1, p.2)) (ofNat_numbered hnum)
  · rw [List.singleton_append, readChars.eq_def]
    split
    all_goals
      next h =>
        first
        | exact absurd (List.cons.inj h).1 hquote
        | exact absurd (List.cons.inj h).1 hback
        | exact absurd h (List.cons_ne_nil _ _)
        | (obtain ⟨rfl, rfl⟩ := List.cons.inj h; rfl)

/-- A text is read back. -/
lemma readChars_writeText (s rest : List Char) :
    readChars (s.flatMap escapeChar ++ '"' :: rest) = some (s, rest) := by
  induction s with
  | nil => rfl
  | cons c s ih =>
    rw [List.flatMap_cons, List.append_assoc, readChars_escapeChar, ih]
    rfl

/-! ### Values -/

/-- A value of a field. -/
inductive Value
  | int (n : Int64)
  | text (s : List Char)
  | texts (l : List (List Char))

/-- The items of an array or an object, after its first item. -/
def writeMore {α : Type} (write : α → List Char) (items : List α) : List Char :=
  items.flatMap fun item => ',' :: write item

/-- A JSON value. -/
def writeValue : Value → List Char
  | .int n => (toString n.toInt).toList
  | .text s => writeText s
  | .texts [] => ['[', ']']
  | .texts (s :: l) => '[' :: (writeText s ++ (writeMore writeText l ++ [']']))

/-- A field. -/
def writeField (field : List Char × Value) : List Char :=
  writeText field.1 ++ ':' :: writeValue field.2

/-- A text with its quotation marks, and what follows it. -/
def readText : List Char → Option (List Char × List Char)
  | '"' :: rest => readChars rest
  | _ => none

/-- At most so many further items up to a closing bracket, and what follows it. -/
def readMore {α : Type} (read : List Char → Option (α × List Char)) (close : Char) :
    ℕ → List Char → Option (List α × List Char)
  | 0, _ => none
  | _ + 1, [] => none
  | n + 1, c :: rest =>
    if c = close then some ([], rest)
    else if c = ',' then
      (read rest).bind fun p => (readMore read close n p.2).map fun q => (p.1 :: q.1, q.2)
    else none

/-- Items up to a closing bracket, and what follows it. -/
def readItems {α : Type} (read : List Char → Option (α × List Char)) (close : Char) (text : List Char) :
    Option (List α × List Char) :=
  if text.head? = some close then some ([], text.drop 1)
  else (read text).bind fun p => (readMore read close p.2.length p.2).map fun q => (p.1 :: q.1, q.2)

/-- A character of a number. -/
def inNumber (c : Char) : Bool := c.isDigit || c = '-'

/-- A number and what follows it. -/
def readInt (text : List Char) : Option (Int64 × List Char) :=
  (Text.atoi (String.ofList (text.takeWhile inNumber))).map fun n =>
    (Int64.ofInt n, text.dropWhile inNumber)

/-- A value and what follows it. -/
def readValue : List Char → Option (Value × List Char)
  | [] => none
  | c :: rest =>
    if c = '"' then (readChars rest).map fun p => (.text p.1, p.2)
    else if c = '[' then (readItems readText ']' rest).map fun p => (.texts p.1, p.2)
    else (readInt (c :: rest)).map fun p => (.int p.1, p.2)

/-- A field and what follows it. -/
def readField (text : List Char) : Option ((List Char × Value) × List Char) :=
  (readText text).bind fun p =>
    match p.2 with
    | ':' :: rest => (readValue rest).map fun q => ((p.1, q.1), q.2)
    | _ => none

/-- A writer and a reader that fit, where one of these characters follows. -/
def Fits {α : Type} (write : α → List Char) (read : List Char → Option (α × List Char))
    (after : List Char) : Prop :=
  ∀ a, ∀ c ∈ after, ∀ rest, read (write a ++ c :: rest) = some (a, c :: rest)

lemma readText_writeText (s rest : List Char) : readText (writeText s ++ rest) = some (s, rest) := by
  rw [writeText, List.cons_append, List.append_assoc, readText]
  exact readChars_writeText s rest

/-- Items that are each read back are read back together. -/
lemma readMore_writeMore {α : Type} {write : α → List Char}
    {read : List Char → Option (α × List Char)} {close : Char} (hclose : ',' ≠ close)
    (hfits : Fits write read [',', close]) (items : List α) : ∀ (n : ℕ) (rest : List Char),
      items.length < n →
      readMore read close n (writeMore write items ++ close :: rest) = some (items, rest) := by
  induction items with
  | nil =>
    intro n rest hn
    obtain ⟨n, rfl⟩ : ∃ k, n = k + 1 := ⟨n - 1, by omega⟩
    exact if_pos rfl
  | cons item items ih =>
    intro n rest hn
    obtain ⟨n, rfl⟩ : ∃ k, n = k + 1 := ⟨n - 1, by omega⟩
    rw [List.length_cons] at hn
    have hitem : read (write item ++ (writeMore write items ++ close :: rest)) =
        some (item, writeMore write items ++ close :: rest) := by
      cases items with
      | nil => exact hfits item close (List.mem_cons_of_mem _ (List.mem_singleton_self _)) rest
      | cons item' items => exact hfits item ',' List.mem_cons_self _
    have hmore : writeMore write (item :: items) ++ close :: rest =
        ',' :: (write item ++ (writeMore write items ++ close :: rest)) := by
      rw [writeMore, List.flatMap_cons, List.cons_append, List.cons_append, List.append_assoc]
      rfl
    rw [hmore, readMore, if_neg hclose, if_pos rfl, hitem]
    dsimp only [Option.bind]
    rw [ih n rest (by omega)]
    rfl

lemma length_le_writeMore {α : Type} (write : α → List Char) (items : List α) :
    items.length ≤ (writeMore write items).length := by
  induction items with
  | nil => exact Nat.zero_le _
  | cons item items ih =>
    rw [writeMore, List.flatMap_cons, List.length_append, List.length_cons, List.length_cons]
    rw [writeMore] at ih
    omega

/-- The items of a bracket are read back. -/
lemma readItems_cons {α : Type} {write : α → List Char}
    {read : List Char → Option (α × List Char)} (close : Char) (hclose : ',' ≠ close)
    (hfits : Fits write read [',', close]) (item : α) (hhead : (write item).head? ≠ some close)
    (hne : write item ≠ []) (items : List α) (rest : List Char) :
    readItems read close (write item ++ (writeMore write items ++ close :: rest)) =
      some (item :: items, rest) := by
  have hitem : read (write item ++ (writeMore write items ++ close :: rest)) =
      some (item, writeMore write items ++ close :: rest) := by
    cases items with
    | nil => exact hfits item close (List.mem_cons_of_mem _ (List.mem_singleton_self _)) rest
    | cons item' items => exact hfits item ',' List.mem_cons_self _
  have hlen := length_le_writeMore write items
  rw [readItems, List.head?_append_of_ne_nil _ hne, if_neg hhead, hitem]
  dsimp only [Option.bind]
  rw [readMore_writeMore hclose hfits items _ rest (by rw [List.length_append, List.length_cons]; omega)]
  rfl

/-! ### Numbers -/

/-- A number is read back. -/
lemma atoi_toString (n : Int64) : Text.atoi (toString n.toInt) = some n.toInt := by
  have hrange : -2 ^ 63 ≤ n.toInt ∧ n.toInt < 2 ^ 63 := ⟨n.le_toInt, n.toInt_lt⟩
  generalize n.toInt = p at hrange ⊢
  unfold Text.atoi
  dsimp only
  rw [Option.filter_eq_some_iff]
  refine ⟨?_, decide_eq_true hrange⟩
  cases p with
  | ofNat k =>
    have hdigits : Text.parseDigits (toString (Int.ofNat k)).toList = some k := Text.parseDigits_repr k
    have hsign : ∀ cs c, c.isDigit = false → (toString (Int.ofNat k)).toList ≠ c :: cs := by
      intro cs c hc heq
      rw [heq] at hdigits
      simp [Text.parseDigits, hc] at hdigits
    split
    · next cs heq => exact absurd heq (hsign cs '-' rfl)
    · next cs heq => exact absurd heq (hsign cs '+' rfl)
    · rw [hdigits]
      rfl
  | negSucc k =>
    have htext : (toString (Int.negSucc k)).toList = '-' :: (Nat.repr (k + 1)).toList := by
      have hsplit : toString (Int.negSucc k) = "-" ++ Nat.repr (k + 1) := rfl
      rw [hsplit, String.toList_append]
      rfl
    rw [htext]
    exact congrArg (Option.map fun m : ℕ => -(m : ℤ)) (Text.parseDigits_repr (k + 1))

lemma fits_readInt : Fits (fun n : Int64 => (toString n.toInt).toList) readInt [',', ']', '}'] := by
  intro n c hc rest
  have hnumber : ∀ d ∈ (toString n.toInt).toList, inNumber d = true := by
    intro d hd
    rcases Text.isDigit_or_of_mem_toString hd with hdigit | rfl
    · rw [inNumber, hdigit, Bool.true_or]
    · rfl
  have hafter : inNumber c = false := by
    simp only [List.mem_cons, List.not_mem_nil, or_false] at hc
    rcases hc with rfl | rfl | rfl <;> rfl
  have htake : ((toString n.toInt).toList ++ c :: rest).takeWhile inNumber = (toString n.toInt).toList := by
    rw [List.takeWhile_append_of_pos hnumber, List.takeWhile_cons_of_neg (by rw [hafter]; exact
      Bool.false_ne_true), List.append_nil]
  have hdrop : ((toString n.toInt).toList ++ c :: rest).dropWhile inNumber = c :: rest := by
    rw [List.dropWhile_append_of_pos hnumber, List.dropWhile_cons_of_neg (by rw [hafter]; exact
      Bool.false_ne_true)]
  rw [readInt, htake, hdrop, String.ofList_toList, atoi_toString]
  exact congrArg (fun m => some (m, c :: rest)) (Int64.ofInt_toInt n)

/-! ### Values and fields -/

lemma fits_readText (after : List Char) : Fits writeText readText after :=
  fun s c _ rest => readText_writeText s (c :: rest)

lemma fits_readValue : Fits writeValue readValue [',', '}'] := by
  intro v c hc rest
  cases v with
  | int n =>
    have hc' : c ∈ [',', ']', '}'] := by
      simp only [List.mem_cons, List.not_mem_nil, or_false] at hc ⊢
      rcases hc with rfl | rfl <;> simp
    have hread := fits_readInt n c hc' rest
    have hne : (toString n.toInt).toList ≠ [] := by
      intro hnil
      have hatoi := atoi_toString n
      rw [String.toList_eq_nil_iff.1 hnil] at hatoi
      cases hatoi
    obtain ⟨d, ds, hds⟩ := List.exists_cons_of_ne_nil hne
    have hd := Text.isDigit_or_of_mem_toString (p := n.toInt) (by rw [hds]; exact List.mem_cons_self)
    have hquote : d ≠ '"' := by
      rintro rfl
      rcases hd with h | h <;> exact absurd h (by decide)
    have hbracket : d ≠ '[' := by
      rintro rfl
      rcases hd with h | h <;> exact absurd h (by decide)
    dsimp only at hread
    rw [hds, List.cons_append] at hread
    rw [writeValue, hds, List.cons_append, readValue, if_neg hquote, if_neg hbracket, hread]
    rfl
  | text s =>
    rw [writeValue, writeText, List.cons_append, List.append_assoc, readValue, if_pos rfl]
    exact congrArg (Option.map fun p => (Value.text p.1, p.2)) (readChars_writeText s (c :: rest))
  | texts l =>
    cases l with
    | nil => rfl
    | cons s l =>
      have hitems := readItems_cons ']' (by decide) (fits_readText [',', ']']) s
        (by rw [writeText]; rintro ⟨⟩) (List.cons_ne_nil _ _) l (c :: rest)
      rw [writeValue, List.cons_append, List.append_assoc, List.append_assoc, readValue,
        if_neg (by decide), if_pos rfl, List.singleton_append, hitems]
      rfl

lemma fits_readField : Fits writeField readField [',', '}'] := by
  rintro ⟨key, v⟩ c hc rest
  rw [writeField, List.append_assoc, readField, readText_writeText]
  dsimp only [Option.bind]
  rw [List.cons_append]
  exact congrArg (Option.map fun q => ((key, q.1), q.2)) (fits_readValue v c hc rest)

/-! ### Requests -/

/-- A field that is left out where it is empty. -/
def omitEmpty (key : String) (isEmpty : Bool) (v : Value) : List (List Char × Value) :=
  if isEmpty then [] else [(key.toList, v)]

/-- The fields of a request after its first one. -/
def moreFields (r : Request) : List (List Char × Value) :=
  ("cmd".toList, .text r.cmd.toList) :: (omitEmpty "protocol" (r.protocol = 0) (.int r.protocol) ++
    (omitEmpty "config" (r.config = "") (.text r.config.toList) ++
    (omitEmpty "socksPort" (r.socksPort = 0) (.int r.socksPort) ++
    (omitEmpty "port" (r.port = 0) (.int r.port) ++
    omitEmpty "bypass" r.bypass.isEmpty (.texts (r.bypass.map String.toList))))))

/-- The JSON text of a request. -/
def writeRequest (r : Request) : List Char :=
  '{' :: (writeField ("id".toList, .int r.id) ++ (writeMore writeField (moreFields r) ++ ['}']))

/-- `json.Marshal`. -/
def marshal (r : Request) : Bytes := Utf8.encode (writeRequest r)

/-- The value of a field. -/
def field? (fields : List (List Char × Value)) (key : String) : Option Value :=
  (fields.find? fun f => f.1 = key.toList).map Prod.snd

/-- A field for a number. -/
def intField (fields : List (List Char × Value)) (key : String) : Option Int64 :=
  match field? fields key with
  | none => some 0
  | some (.int n) => some n
  | some _ => none

/-- A field for a text. -/
def textField (fields : List (List Char × Value)) (key : String) : Option String :=
  match field? fields key with
  | none => some ""
  | some (.text s) => some (String.ofList s)
  | some _ => none

/-- A field for texts. -/
def textsField (fields : List (List Char × Value)) (key : String) : Option (List String) :=
  match field? fields key with
  | none => some []
  | some (.texts l) => some (l.map String.ofList)
  | some _ => none

/-- The request with these fields. -/
def ofFields (fields : List (List Char × Value)) : Option Request := do
  let id ← intField fields "id"
  let cmd ← textField fields "cmd"
  let protocol ← intField fields "protocol"
  let config ← textField fields "config"
  let socksPort ← intField fields "socksPort"
  let port ← intField fields "port"
  let bypass ← textsField fields "bypass"
  return { id, cmd, protocol, config, socksPort, port, bypass }

/-- The request a JSON text is. -/
def readRequest (text : List Char) : Option Request :=
  match text with
  | '{' :: rest =>
    (readItems readField '}' rest).bind fun p => if p.2 = [] then ofFields p.1 else none
  | _ => none

/-- `json.Unmarshal` of a request, for JSON without blanks. -/
def unmarshal (line : Bytes) : Except String Request :=
  match String.fromUTF8? line.toByteArray with
  | none => .error "invalid character"
  | some text => ((readRequest text.toList).elim (.error "invalid character")) .ok

section Fields

variable (key key' : String) (isEmpty : Bool) (v : Value) (fields : List (List Char × Value))

lemma field?_cons_ne (h : key'.toList ≠ key.toList) :
    field? ((key'.toList, v) :: fields) key = field? fields key := by
  rw [field?, List.find?_cons_of_neg (by simpa using h), field?]

lemma field?_omitEmpty_ne (h : key'.toList ≠ key.toList) :
    field? (omitEmpty key' isEmpty v ++ fields) key = field? fields key := by
  rw [omitEmpty]
  split_ifs
  · rfl
  · exact field?_cons_ne key key' v fields h

lemma field?_omitEmpty_self (h : field? fields key = none) :
    field? (omitEmpty key isEmpty v ++ fields) key = if isEmpty then none else some v := by
  rw [omitEmpty]
  split_ifs
  · exact h
  · rw [field?, List.singleton_append, List.find?_cons_of_pos (by simp)]
    rfl

lemma field?_nil : field? [] key = none := rfl

lemma field?_cons_self : field? ((key.toList, v) :: fields) key = some v := by
  rw [field?, List.find?_cons_of_pos (by simp)]
  rfl

end Fields

/-- The fields of a request by their keys. -/
lemma field?_request (r : Request) :
    let fields := ("id".toList, Value.int r.id) :: moreFields r
    field? fields "id" = some (.int r.id) ∧ field? fields "cmd" = some (.text r.cmd.toList) ∧
    field? fields "protocol" = (if (decide (r.protocol = 0)) then none else some (.int r.protocol)) ∧
    field? fields "config" = (if (decide (r.config = "")) then none else some (.text r.config.toList)) ∧
    field? fields "socksPort" = (if (decide (r.socksPort = 0)) then none else some (.int r.socksPort)) ∧
    field? fields "port" = (if (decide (r.port = 0)) then none else some (.int r.port)) ∧
    field? fields "bypass" =
      (if r.bypass.isEmpty then none else some (.texts (r.bypass.map String.toList))) := by
  intro fields
  have hfields : fields = ("id".toList, .int r.id) :: ("cmd".toList, .text r.cmd.toList) ::
      (omitEmpty "protocol" (r.protocol = 0) (.int r.protocol) ++
      (omitEmpty "config" (r.config = "") (.text r.config.toList) ++
      (omitEmpty "socksPort" (r.socksPort = 0) (.int r.socksPort) ++
      (omitEmpty "port" (r.port = 0) (.int r.port) ++
      (omitEmpty "bypass" r.bypass.isEmpty (.texts (r.bypass.map String.toList)) ++ []))))) := by
    rw [List.append_nil]
    rfl
  rw [hfields]
  refine ⟨field?_cons_self _ _ _, ?_, ?_, ?_, ?_, ?_, ?_⟩
  · simp (disch := decide) only [field?_cons_ne, field?_cons_self]
  all_goals
    simp (disch := decide) only [field?_cons_ne, field?_omitEmpty_ne]
    refine field?_omitEmpty_self _ _ _ _ ?_
    simp (disch := decide) only [field?_omitEmpty_ne, field?_nil]

lemma ofFields_fields (r : Request) :
    ofFields (("id".toList, .int r.id) :: moreFields r) = some r := by
  obtain ⟨hid, hcmd, hprotocol, hconfig, hsocksPort, hport, hbypass⟩ := field?_request r
  generalize ("id".toList, Value.int r.id) :: moreFields r = fields at *
  have hint : ∀ (key : String) (n : Int64),
      field? fields key = (if decide (n = 0) then none else some (.int n)) → intField fields key = some n := by
    intro key n h
    rw [intField, h]
    by_cases hn : n = 0 <;> simp [hn]
  have htext : textField fields "config" = some r.config := by
    rw [textField, hconfig]
    by_cases hempty : r.config = "" <;> simp [hempty]
  have htexts : textsField fields "bypass" = some r.bypass := by
    rw [textsField, hbypass]
    cases hempty : r.bypass with
    | nil => rfl
    | cons s l => simp
  have hid' : intField fields "id" = some r.id := by rw [intField, hid]
  have hcmd' : textField fields "cmd" = some r.cmd := by rw [textField, hcmd]; simp
  rw [ofFields, hid', hcmd', hint _ _ hprotocol, htext, hint _ _ hsocksPort, hint _ _ hport, htexts]
  rfl

/-- A request is read back from its text. -/
lemma readRequest_writeRequest (r : Request) : readRequest (writeRequest r) = some r := by
  have hitems := readItems_cons '}' (by decide) fits_readField ("id".toList, Value.int r.id)
    (by rw [writeField, writeText]; rintro ⟨⟩) (List.cons_ne_nil _ _) (moreFields r) []
  rw [writeRequest, readRequest, hitems]
  dsimp only [Option.bind]
  rw [if_pos rfl, ofFields_fields]

/-- **Requests are read back.** -/
lemma unmarshal_marshal (r : Request) : unmarshal (marshal r) = .ok r := by
  have hvalid : (Utf8.encode (writeRequest r)).toByteArray.IsValidUTF8 := ⟨writeRequest r, rfl⟩
  have htext : String.fromUTF8? (marshal r).toByteArray = some (String.ofList (writeRequest r)) := by
    rw [String.fromUTF8?, marshal, dif_pos hvalid]
    rfl
  rw [unmarshal, htext]
  dsimp only
  rw [String.toList_ofList, readRequest_writeRequest]
  rfl

/-! ### One line -/

lemma newline_not_mem_escapeChar (c : Char) : '\n' ∉ escapeChar c := by
  have hhex : ∀ n < 16, '\n' ≠ hexChar n := by decide
  unfold escapeChar
  split_ifs with hquote hback hb hf hn hr ht hnum
  · decide
  · decide
  · decide
  · decide
  · decide
  · decide
  · decide
  · have hsmall : c.toNat / 4096 < 16 ∨ 65536 ≤ c.toNat := by omega
    have hlarge : ¬ 65536 ≤ c.toNat := by
      intro hge
      have hfound := ofNat_numbered hnum
      simp only [numbered, Bool.or_eq_true, decide_eq_true_eq] at hnum
      rcases hnum with ((((h | h) | h) | h) | h) | h
      · omega
      · rw [h] at hge; exact absurd hge (by decide)
      · rw [h] at hge; exact absurd hge (by decide)
      · rw [h] at hge; exact absurd hge (by decide)
      · omega
      · omega
    simp only [List.mem_cons, List.not_mem_nil, or_false, not_or]
    exact ⟨by decide, by decide, hhex _ (hsmall.resolve_right hlarge), hhex _ (by omega),
      hhex _ (by omega), hhex _ (by omega)⟩
  · rw [List.mem_singleton]
    exact fun h => hn h.symm

lemma newline_not_mem_writeText (s : List Char) : '\n' ∉ writeText s := by
  rw [writeText, List.mem_cons, List.mem_append, List.mem_flatMap, List.mem_singleton, not_or, not_or]
  refine ⟨by decide, ?_, by decide⟩
  rintro ⟨c, -, hc⟩
  exact newline_not_mem_escapeChar c hc

lemma newline_not_mem_writeMore {α : Type} {write : α → List Char} (h : ∀ a, '\n' ∉ write a)
    (items : List α) : '\n' ∉ writeMore write items := by
  rw [writeMore, List.mem_flatMap]
  rintro ⟨a, -, ha⟩
  rcases List.mem_cons.1 ha with hcomma | ha
  · exact absurd hcomma (by decide)
  · exact h a ha

lemma newline_not_mem_writeField (field : List Char × Value) : '\n' ∉ writeField field := by
  have hvalue : ∀ v, '\n' ∉ writeValue v := by
    intro v
    cases v with
    | int n =>
      intro h
      rcases Text.isDigit_or_of_mem_toString h with h | h <;> exact absurd h (by decide)
    | text s => exact newline_not_mem_writeText s
    | texts l =>
      cases l with
      | nil => decide
      | cons s l =>
        rw [writeValue, List.mem_cons, List.mem_append, List.mem_append, List.mem_singleton, not_or, not_or,
          not_or]
        exact ⟨by decide, newline_not_mem_writeText s,
          newline_not_mem_writeMore newline_not_mem_writeText l, by decide⟩
  rw [writeField, List.mem_append, List.mem_cons, not_or, not_or]
  exact ⟨newline_not_mem_writeText _, by decide, hvalue _⟩

/-- A request is one line. -/
lemma newline_not_mem_marshal (r : Request) : 10 ∉ marshal r := by
  refine Utf8.newline_not_mem_encode ?_
  rw [writeRequest, List.mem_cons, List.mem_append, List.mem_append, List.mem_singleton, not_or, not_or,
    not_or]
  exact ⟨by decide, newline_not_mem_writeField _,
    newline_not_mem_writeMore newline_not_mem_writeField _, by decide⟩

/-- The JSON of requests. -/
def requestCodec : Codec Request String where
  marshal := marshal
  unmarshal := unmarshal
  unmarshal_marshal := unmarshal_marshal
  newline_not_mem_marshal := newline_not_mem_marshal

/-! ### Streams of requests -/

open Bufio

/-- **Requests.** What `ReadRequest` returns, called again and again, is what is in the lines of the stream,
however it is delivered and whatever the size of the buffer. It never buffers more of a line than a line may
have. A message that was written after short lines, and is no longer than a line may be, is read back.

**Proof sketch.** `readAll_eq`, `Buffers.bounded`, and the frames of a stream that begins with short
lines. -/
theorem read_requests {α ε : Type} (codec : Codec α ε) (source : Source) (size : ℕ) :
    readAll codec.unmarshal (.new source size) =
      (frames (Bytes.lines source.bytes)).map (outcome codec.unmarshal) ∧
    (∀ r line r', Buffers r line r' → line.length ≤ maxLineBytes) ∧
    ∀ (before : ShortLines) (v : α) (rest : Bytes), (codec.marshal v).length ≤ maxLineBytes →
      source.bytes = before.bytes ++ (writeMessage codec v ++ rest) →
      (readAll codec.unmarshal (.new source size))[before.lines.length]? = some (.ok v) := by
  have hread := readAll_eq codec.unmarshal (.new source size)
  have hpending : (Reader.new source size).pending = source.bytes := List.nil_append _
  rw [hpending] at hread
  refine ⟨hread, fun r line r' h => h.bounded.2, fun before v rest hshort hbytes => ?_⟩
  rw [hread, hbytes, ShortLines.bytes, frames_of_lines before.newline_not_mem before.short, writeMessage,
    List.append_assoc, List.singleton_append, frames_of_line (codec.newline_not_mem_marshal v) hshort,
    List.map_append, List.getElem?_append_right (by rw [List.length_map, List.length_map])]
  simp [outcome, codec.unmarshal_marshal, Except.mapError]

/-- The request `status` after a line that is none, delivered in two pieces. -/
theorem read_requests_status :
    (readAll requestCodec.unmarshal (.new ⟨[⟨[123], by decide⟩, ⟨10 :: writeMessage requestCodec
      { id := 1, cmd := "status" }, List.cons_ne_nil _ _⟩], true⟩ 16))[1]? =
        some (.ok { id := 1, cmd := "status" }) :=
  (read_requests requestCodec ⟨[⟨[123], by decide⟩, ⟨10 :: writeMessage requestCodec
    { id := 1, cmd := "status" }, List.cons_ne_nil _ _⟩], true⟩ 16).2.2
    ⟨[[123]], by decide, by decide⟩ { id := 1, cmd := "status" } [] (by decide +kernel) (by
      rw [List.append_nil]
      rfl)

/-! ### Requests that are too long -/

lemma length_le_encode (cs : List Char) : cs.length ≤ (Utf8.encode cs).length := by
  induction cs with
  | nil => exact Nat.zero_le _
  | cons c cs ih =>
    have hpos := c.utf8Size_pos
    rw [Utf8.length_encode_cons, List.length_cons]
    omega

lemma length_le_escape (s : List Char) : s.length ≤ (s.flatMap escapeChar).length := by
  have hpos : ∀ c, 1 ≤ (escapeChar c).length := by
    intro c
    unfold escapeChar
    split_ifs <;> exact Nat.succ_le_succ (Nat.zero_le _)
  induction s with
  | nil => exact Nat.zero_le _
  | cons c s ih =>
    have hc := hpos c
    rw [List.flatMap_cons, List.length_append, List.length_cons]
    omega

/-- The JSON of a request that starts something is longer than what it starts. -/
lemma length_config_lt_marshal {r : Request} (h : r.config ≠ "") :
    r.config.toList.length < (marshal r).length := by
  obtain ⟨fields, fields', hfields⟩ : ∃ fields fields', moreFields r =
      fields ++ ("config".toList, .text r.config.toList) :: fields' := by
    refine ⟨("cmd".toList, .text r.cmd.toList) :: omitEmpty "protocol" (r.protocol = 0) (.int r.protocol),
      omitEmpty "socksPort" (r.socksPort = 0) (.int r.socksPort) ++
        (omitEmpty "port" (r.port = 0) (.int r.port) ++
        omitEmpty "bypass" r.bypass.isEmpty (.texts (r.bypass.map String.toList))), ?_⟩
    rw [moreFields, omitEmpty.eq_def "config", if_neg (by simpa using h)]
    rfl
  have hescape := length_le_escape r.config.toList
  have hencode := length_le_encode (writeRequest r)
  have hwrite : r.config.toList.length < (writeRequest r).length := by
    have hfield : r.config.toList.length ≤ (writeField ("config".toList, .text r.config.toList)).length := by
      simp only [writeField, writeValue, writeText, List.length_cons, List.length_append]
      omega
    rw [writeRequest, hfields, writeMore, List.flatMap_append, List.flatMap_cons]
    simp only [List.length_cons, List.length_append]
    omega
  exact hwrite.trans_le hencode

/-- **A request that is too long.** A request to start something with a configuration of 1 MiB is written,
and not read back. -/
theorem not_read_requests : ¬ ∀ (codec : Codec Request String) (source : Source) (size : ℕ)
    (before : ShortLines) (v : Request) (rest : Bytes),
    source.bytes = before.bytes ++ (writeMessage codec v ++ rest) →
    (readAll codec.unmarshal (.new source size))[before.lines.length]? = some (.ok v) := by
  intro hall
  have hconfig : (String.ofList (List.replicate maxLineBytes 'x')).toList.length = maxLineBytes := by
    rw [String.toList_ofList, List.length_replicate]
  generalize String.ofList (List.replicate maxLineBytes 'x') = config at hconfig
  obtain ⟨r, hr⟩ : ∃ r : Request, r = { id := 1, cmd := "start", config := config } := ⟨_, rfl⟩
  have hne : config ≠ "" := by
    rintro rfl
    exact absurd hconfig (by decide)
  have hlong := length_config_lt_marshal (r := r) (by rw [hr]; exact hne)
  have hmarshal : maxLineBytes < (requestCodec.marshal r).length := by
    rw [hr] at hlong ⊢
    exact hconfig ▸ hlong
  have hbytes : (⟨[⟨writeMessage requestCodec r, by simp [writeMessage]⟩], true⟩ : Source).bytes =
      writeMessage requestCodec r := List.append_nil _
  have hread := hall requestCodec ⟨[⟨writeMessage requestCodec r, by simp [writeMessage]⟩], true⟩ 16
    ⟨[], by decide, by decide⟩ r [] (by rw [hbytes, List.append_nil]; rfl)
  rw [readAll_eq] at hread
  have hpending : (Reader.new ⟨[⟨writeMessage requestCodec r, by simp [writeMessage]⟩], true⟩ 16).pending =
      writeMessage requestCodec r := hbytes
  rw [hpending, frames_of_long (writeMessage.eq_def requestCodec r) (newline_not_mem_marshal r) hmarshal] at hread
  cases hread

end Proxor.MacHelper.Protocol
