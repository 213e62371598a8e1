import Mathlib.Data.List.MinMax
import Mathlib.Data.List.Nodup
import Proxor.Lib.Text
import Proxor.Lib.Uri

set_option relaxedAutoImplicit false
set_option autoImplicit false

/-!
# Reading URIs back

What is percent-encoded is found again, and so are the parts of a URI behind its text and the values of a query.
Decoding more often than encoding loses something: a text with an escape in it becomes shorter, and in a query
that is decoded as a whole the signs between its items can no longer be told from those in its values.

## Main definitions

* `Uri.literal` — a text without escapes.
* `Uri.WellFormed` — a URI whose parts have no signs that end them.
* `Uri.lookup` — the value of a key among some items.
* `Uri.plainText`, `Uri.stable` — a query that was decoded as a whole, and the values it does not lose.

## Main results

* `Uri.decode_encode` — a text is found again.
* `Uri.decode_eq_self_iff` — the texts that decoding leaves as they are.
* `Uri.parse_toText` — a URI is found again.
* `Uri.queryValue_queryText`, `Uri.queryValue_plainText` — the values of a query, and of a decoded one.
* `Uri.stable_of_length` — if every lost value was as long as one that is read, no value was lost.
-/

namespace Uri

/-! ### Escapes -/

/-- No percent sign stands before two digits. -/
def literal : List Char → Bool
  | '%' :: a :: b :: rest => !((hexValue a).isSome && (hexValue b).isSome) && literal (a :: b :: rest)
  | _ :: rest => literal rest
  | [] => true

/-- **What a text begins with**: a character that stands for itself, or an escape. -/
lemma cases_bytes (cs : List Char) : cs = [] ∨
    (∃ c rest, cs = c :: rest ∧ bytes cs = String.utf8EncodeChar c ++ bytes rest ∧ literal cs = literal rest) ∨
    ∃ a b rest x, cs = '%' :: a :: b :: rest ∧ bytes cs = x :: bytes rest ∧ literal cs = false := by
  have hpercent : String.utf8EncodeChar '%' = [37] := rfl
  fun_cases bytes cs with
  | case1 a b rest x y hx hy =>
    refine Or.inr (Or.inr ⟨a, b, rest, _, rfl, rfl, ?_⟩)
    rw [literal, hx, hy]
    rfl
  | case2 a b rest hnone =>
    refine Or.inr (Or.inl ⟨'%', a :: b :: rest, rfl, by rw [hpercent]; rfl, ?_⟩)
    rw [literal]
    cases hx : hexValue a with
    | none => rfl
    | some x =>
      cases hy : hexValue b with
      | none => rfl
      | some y => exact (hnone x y hx hy).elim
  | case3 c rest hother =>
    refine Or.inr (Or.inl ⟨c, rest, rfl, rfl, ?_⟩)
    rw [literal]
    exact hother
  | case4 => exact Or.inl rfl

/-- The bytes of a text without escapes. -/
lemma bytes_of_literal {cs : List Char} (h : literal cs = true) : bytes cs = Utf8.encode cs := by
  induction hlen : cs.length using Nat.strong_induction_on generalizing cs with
  | _ n ih =>
    rcases cases_bytes cs with rfl | ⟨c, rest, rfl, hbytes, hliteral⟩ | ⟨a, b, rest, x, rfl, -, hnot⟩
    · rfl
    · rw [hliteral] at h
      rw [hbytes, Utf8.encode_cons, ih rest.length (by rw [← hlen]; exact Nat.lt_succ_self _) h rfl]
    · exact absurd (h.symm.trans hnot) (by decide)

/-- A text without percent signs has no escapes. -/
lemma literal_of_notMem {cs : List Char} (h : '%' ∉ cs) : literal cs = true := by
  induction cs with
  | nil => rfl
  | cons c cs ih =>
    rw [List.mem_cons, not_or] at h
    rcases cases_bytes (c :: cs) with hnil | ⟨c', rest, heq, -, hliteral⟩ | ⟨a, b, rest, x, heq, -, -⟩
    · cases hnil
    · rw [hliteral, ← (List.cons.inj heq).2]
      exact ih h.2
    · exact absurd (List.cons.inj heq).1.symm h.1

/-- A text without escapes stands for itself. -/
lemma decode_of_literal {cs : List Char} (h : literal cs = true) : decode cs = cs := by
  rw [decode, bytes_of_literal h, Utf8.decode_encode]

/-- Only an escape stands for a byte with which no character begins. -/
lemma escape_of_not_first {cs : List Char} {b : UInt8} {bs : Bytes} (h : bytes cs = b :: bs)
    (hb : ¬b.IsUTF8FirstByte) : ∃ x y rest, cs = '%' :: x :: y :: rest ∧ bs = bytes rest := by
  rcases cases_bytes cs with rfl | ⟨c, rest, rfl, hbytes, -⟩ | ⟨x, y, rest, b', rfl, hbytes, -⟩
  · cases h
  · rw [h] at hbytes
    refine absurd ?_ hb
    have hlength := String.length_utf8EncodeChar c
    have hpos := c.utf8Size_pos
    have hfirst := @UInt8.isUTF8FirstByte_getElem_zero_utf8EncodeChar c
    cases hchar : String.utf8EncodeChar c with
    | nil => exact absurd hchar String.utf8EncodeChar_ne_nil
    | cons b' bs' =>
      rw [hchar, List.cons_append] at hbytes
      rw [(List.cons.inj hbytes).1]
      simpa only [hchar, List.getElem_cons_zero] using hfirst
  · rw [h] at hbytes
    exact ⟨x, y, rest, rfl, (List.cons.inj hbytes).2⟩

/-- Bytes with which no character begins are dropped with their escapes. -/
lemma drop_bytes (k : ℕ) {cs : List Char} (h : ∀ b ∈ (bytes cs).take k, ¬b.IsUTF8FirstByte) :
    ∃ rest, (bytes cs).drop k = bytes rest ∧ rest.length ≤ cs.length := by
  induction k generalizing cs with
  | zero => exact ⟨cs, rfl, Nat.le_refl _⟩
  | succ k ih =>
    cases hbytes : bytes cs with
    | nil => exact ⟨[], rfl, Nat.zero_le _⟩
    | cons b bs =>
      rw [hbytes, List.take_succ_cons] at h
      obtain ⟨x, y, rest, rfl, rfl⟩ := escape_of_not_first hbytes (h b List.mem_cons_self)
      obtain ⟨rest', hdrop, hle⟩ := ih fun b' hb' => h b' (List.mem_cons_of_mem _ hb')
      refine ⟨rest', hdrop, ?_⟩
      simp only [List.length_cons]
      omega

/-- **Length.** A text stands for one that is not longer, and for a shorter one if it has an escape.

**Proof sketch.** An escape begins a character or is replaced. The bytes that this character takes besides stand
for themselves in no text, so they are of escapes as well. -/
lemma length_decode (cs : List Char) :
    (decode cs).length ≤ cs.length ∧ (literal cs = false → (decode cs).length < cs.length) := by
  induction hlen : cs.length using Nat.strong_induction_on generalizing cs with
  | _ n ih =>
    rcases cases_bytes cs with rfl | ⟨c, rest, rfl, hbytes, hliteral⟩ | ⟨a, b, rest, x, rfl, hbytes, -⟩
    · exact ⟨Nat.zero_le _, fun h => absurd h (by decide)⟩
    · obtain ⟨hle, hlt⟩ := ih rest.length (by rw [← hlen]; exact Nat.lt_succ_self _) rest rfl
      rw [decode] at hle hlt
      rw [decode, hbytes, Utf8.decode_encodeChar_append, ← hlen, List.length_cons, List.length_cons, hliteral]
      exact ⟨Nat.succ_le_succ hle, fun h => Nat.succ_lt_succ (hlt h)⟩
    · obtain ⟨c, k, hdecode, hnot⟩ := Utf8.decode_cons x (bytes rest)
      obtain ⟨rest', hdrop, hshorter⟩ := drop_bytes k hnot
      have hlong : rest'.length < n := by
        rw [← hlen]
        simp only [List.length_cons]
        omega
      obtain ⟨hle, -⟩ := ih rest'.length hlong rest' rfl
      rw [decode] at hle
      rw [decode, hbytes, hdecode, hdrop, ← hlen]
      simp only [List.length_cons]
      omega

/-- **Literal texts** are those that decoding leaves as they are. -/
theorem decode_eq_self_iff {cs : List Char} : decode cs = cs ↔ literal cs = true := by
  constructor
  · intro h
    by_contra hnot
    have hlt := (length_decode cs).2 ((Bool.not_eq_true _).mp hnot)
    rw [h] at hlt
    exact Nat.lt_irrefl _ hlt
  · exact decode_of_literal

/-! ### Encoding -/

/-- An unreserved character is one byte, and no percent sign. -/
lemma lt_of_isUnreserved {n : ℕ} (hn : n < 256) (h : isUnreserved (Char.ofNat n) = true) :
    n < 128 ∧ Char.ofNat n ≠ '%' := by
  have hall : ∀ n : Fin 256, isUnreserved (Char.ofNat n) = true → n.val < 128 ∧ Char.ofNat n ≠ '%' := by
    decide +kernel
  exact hall ⟨n, hn⟩ h

lemma hexValue_hexChar {n : ℕ} (hn : n < 16) : hexValue (hexChar n) = some n := by
  have hall : ∀ n < 16, hexValue (hexChar n) = some n := by decide
  exact hall n hn

lemma isUnreserved_hexChar {n : ℕ} (hn : n < 16) : isUnreserved (hexChar n) = true := by
  have hall : ∀ n < 16, isUnreserved (hexChar n) = true := by decide
  exact hall n hn

/-- A character that is no percent sign stands for itself. -/
lemma bytes_cons {c : Char} (hc : c ≠ '%') (rest : List Char) :
    bytes (c :: rest) = String.utf8EncodeChar c ++ bytes rest := by
  rcases cases_bytes (c :: rest) with h | ⟨c', rest', h, hbytes, -⟩ | ⟨a, b, rest', x, h, -, -⟩
  · cases h
  · obtain ⟨rfl, rfl⟩ := List.cons.inj h
    exact hbytes
  · exact absurd (List.cons.inj h).1 hc

/-- A byte is found again. -/
lemma bytes_encodeByte_append (b : UInt8) (rest : List Char) : bytes (encodeByte b ++ rest) = b :: bytes rest := by
  have hb := b.toNat_lt
  unfold encodeByte
  split_ifs with hunreserved
  · obtain ⟨hlt, hne⟩ := lt_of_isUnreserved hb hunreserved
    rw [List.singleton_append, bytes_cons hne, Utf8.encodeChar_ofNat hlt, UInt8.ofNat_toNat]
    rfl
  · rw [List.cons_append, List.cons_append, List.singleton_append, bytes, hexValue_hexChar (by omega),
      hexValue_hexChar (by omega)]
    dsimp only
    rw [Nat.div_add_mod, UInt8.ofNat_toNat]

/-- The bytes of a text are found again. -/
lemma bytes_flatMap_append (bs : Bytes) (rest : List Char) :
    bytes (bs.flatMap encodeByte ++ rest) = bs ++ bytes rest := by
  induction bs with
  | nil => rfl
  | cons b bs ih => rw [List.flatMap_cons, List.append_assoc, bytes_encodeByte_append, ih, List.cons_append]

lemma decode_encode_append (cs rest : List Char) : decode (encode cs ++ rest) = cs ++ decode rest := by
  rw [decode, encode, bytes_flatMap_append, Utf8.decode_encode_append, decode]

/-- **Round trip.** A text is found again. -/
theorem decode_encode (cs : List Char) : decode (encode cs) = cs := by
  have h := decode_encode_append cs []
  rwa [List.append_nil, show decode [] = [] from rfl, List.append_nil] at h

lemma decode_cons {c : Char} (hc : c ≠ '%') (rest : List Char) : decode (c :: rest) = c :: decode rest := by
  rw [decode, bytes_cons hc, Utf8.decode_encodeChar_append, decode]

/-- What is encoded has unreserved characters and percent signs. -/
lemma mem_encode {cs : List Char} {c : Char} (h : c ∈ encode cs) : isUnreserved c = true ∨ c = '%' := by
  obtain ⟨b, -, hc⟩ := List.mem_flatMap.1 h
  have hb := b.toNat_lt
  unfold encodeByte at hc
  split_ifs at hc with hunreserved
  · rw [List.mem_singleton.1 hc]
    exact Or.inl hunreserved
  · simp only [List.mem_cons, List.not_mem_nil, or_false] at hc
    rcases hc with rfl | rfl | rfl
    · exact Or.inr rfl
    · exact Or.inl (isUnreserved_hexChar (by omega))
    · exact Or.inl (isUnreserved_hexChar (by omega))

/-- A sign that ends a part is not in what is encoded. -/
lemma notMem_encode {c : Char} (hc : isUnreserved c = false ∧ c ≠ '%') (cs : List Char) : c ∉ encode cs := by
  intro h
  rcases mem_encode h with h | h
  · exact Bool.false_ne_true (hc.1.symm.trans h)
  · exact hc.2 h

/-! ### Parts -/

/-- A part is found again behind what has not its sign. -/
lemma cut_append_part {sign : Char} {front : List Char} (h : sign ∉ front) (text : Option (List Char)) :
    cut sign (front ++ part sign text) = (front, text) := by
  induction front with
  | nil =>
    cases text with
    | none => rfl
    | some text => exact if_pos rfl
  | cons c front ih =>
    rw [List.mem_cons, not_or] at h
    rw [List.cons_append, cut, if_neg (Ne.symm h.1), ih h.2]

lemma cut_of_notMem {sign : Char} {text : List Char} (h : sign ∉ text) : cut sign text = (text, none) := by
  have hcut := cut_append_part h none
  rwa [part, List.append_nil] at hcut

/-- What stands behind a sign is shorter than the whole. -/
lemma length_cut_lt {sign : Char} {text value : List Char} (h : (cut sign text).2 = some value) :
    value.length < text.length := by
  induction text with
  | nil => cases h
  | cons c text ih =>
    rw [cut] at h
    split_ifs at h with hc
    · rw [← Option.some.inj h]
      exact Nat.lt_succ_self _
    · exact Nat.lt_succ_of_lt (ih h)

lemma notMem_part {c sign : Char} (hc : c ≠ sign) {text : Option (List Char)} (h : ∀ t, text = some t → c ∉ t) :
    c ∉ part sign text := by
  cases text with
  | none => exact List.not_mem_nil
  | some text =>
    rw [part, List.mem_cons, not_or]
    exact ⟨hc, h text rfl⟩

/-- A URI whose scheme, host and query have no signs that end them. -/
structure WellFormed (u : Uri) : Prop where
  scheme : ∀ c ∈ ['#', '?', ':'], c ∉ u.scheme
  host : ∀ c ∈ ['#', '?', '/', '@', ':'], c ∉ u.host
  query : ∀ q, u.query = some q → '#' ∉ q

section Parse

variable {u : Uri}

/-- The digits of a port. -/
def portText (u : Uri) : Option (List Char) := u.port.map fun p => Nat.toDigits 10 p.val

lemma notMem_portText {c : Char} (hc : c.isDigit = false) {t : List Char} (h : u.portText = some t) : c ∉ t := by
  obtain ⟨p, -, rfl⟩ := Option.map_eq_some_iff.1 h
  intro hmem
  exact Bool.false_ne_true (hc.symm.trans (Nat.isDigit_of_mem_toDigits (by decide) (by decide) hmem))

lemma parsePort_portText (u : Uri) : parsePort u.portText = some u.port := by
  unfold portText
  cases u.port with
  | none => rfl
  | some p =>
    have hdigits : (Nat.toDigits 10 p.val).all Char.isDigit = true :=
      List.all_eq_true.2 fun c hc => Nat.isDigit_of_mem_toDigits (by decide) (by decide) hc
    rw [Option.map_some]
    cases htext : Nat.toDigits 10 p.val with
    | nil => exact absurd htext Nat.toDigits_ne_nil
    | cons d ds =>
      rw [htext] at hdigits
      have hvalue : Nat.ofDigitChars 10 (d :: ds) 0 = p.val := by
        rw [← htext]
        exact Nat.ofDigitChars_ten_toDigits
      rw [parsePort, if_pos hdigits]
      dsimp only
      rw [dif_pos (by rw [hvalue]; exact p.isLt)]
      simp only [hvalue, Fin.eta]
      exact List.cons_ne_nil d ds

/-- Signs that end a part are not in the user with the password, but for the two of its own. -/
lemma notMem_userInfo {c : Char} (hc : isUnreserved c = false ∧ c ≠ '%') (hown : c ≠ ':' ∧ c ≠ '@') :
    c ∉ u.userInfo := by
  unfold userInfo
  split_ifs
  · exact List.not_mem_nil
  · rw [List.mem_append, List.mem_append, not_or, not_or, List.mem_singleton]
    refine ⟨⟨notMem_encode hc _, notMem_part hown.1 fun t ht => ?_⟩, hown.2⟩
    obtain ⟨p, -, rfl⟩ := Option.map_eq_some_iff.1 ht
    exact notMem_encode hc p

/-- The user with the password and the host with the port are found again. -/
lemma parseAuthority_eq (h : u.WellFormed) (scheme : List Char) (query fragment : Option (List Char)) :
    parseAuthority scheme (u.userInfo ++ (u.host ++ part ':' u.portText)) query fragment =
      some { scheme, userName := u.userName, password := u.password, host := u.host, port := u.port, query,
             fragment := fragment.map decode } := by
  have hhost : cut ':' (u.host ++ part ':' u.portText) = (u.host, u.portText) :=
    cut_append_part (h.host ':' (by simp)) _
  have hat : '@' ∉ u.host ++ part ':' u.portText := by
    rw [List.mem_append, not_or]
    exact ⟨h.host '@' (by simp), notMem_part (by decide) fun t ht => notMem_portText (by decide) ht⟩
  unfold parseAuthority userInfo
  by_cases hnone : u.userName = [] ∧ u.password = none
  · rw [if_pos hnone, List.nil_append, cut_of_notMem hat]
    dsimp only
    rw [hhost, hnone.1, hnone.2]
    dsimp only [cut]
    rw [parsePort_portText]
    rfl
  · have hfront : '@' ∉ encode u.userName ++ part ':' (u.password.map encode) := by
      rw [List.mem_append, not_or]
      refine ⟨notMem_encode (by decide) _, notMem_part (by decide) fun t ht => ?_⟩
      obtain ⟨p, -, rfl⟩ := Option.map_eq_some_iff.1 ht
      exact notMem_encode (by decide) p
    have hcut : cut '@' (encode u.userName ++ part ':' (u.password.map encode) ++ ['@'] ++
        (u.host ++ part ':' u.portText)) =
          (encode u.userName ++ part ':' (u.password.map encode), some (u.host ++ part ':' u.portText)) := by
      rw [List.append_assoc _ ['@']]
      exact cut_append_part hfront (some _)
    have huser : cut ':' (encode u.userName ++ part ':' (u.password.map encode)) =
        (encode u.userName, u.password.map encode) :=
      cut_append_part (notMem_encode (by decide) _) _
    have hpassword : (u.password.map encode).map decode = u.password := by
      rw [Option.map_map]
      cases u.password with
      | none => rfl
      | some p => exact congrArg some (decode_encode p)
    rw [if_neg hnone, hcut]
    dsimp only
    rw [huser, hhost]
    dsimp only
    rw [parsePort_portText, decode_encode, hpassword]
    rfl

/-- A URI up to its fragment. -/
def front (u : Uri) : List Char :=
  u.scheme ++ "://".toList ++ (u.userInfo ++ (u.host ++ part ':' u.portText)) ++ part '?' u.query

lemma toText_eq (u : Uri) : u.toText = u.front ++ part '#' (u.fragment.map encode) := by
  simp only [toText, front, portText, List.append_assoc]

/-- Signs that end a later part are not in the authority. -/
lemma notMem_authority (h : u.WellFormed) {c : Char} (hc : c ∈ ['#', '?', '/']) :
    c ∉ u.userInfo ++ (u.host ++ part ':' u.portText) := by
  have hfacts : (isUnreserved c = false ∧ c ≠ '%') ∧ (c ≠ ':' ∧ c ≠ '@') ∧ c.isDigit = false := by
    simp only [List.mem_cons, List.not_mem_nil, or_false] at hc
    rcases hc with rfl | rfl | rfl
    · decide
    · decide
    · decide
  obtain ⟨hencode, hown, hdigit⟩ := hfacts
  rw [List.mem_append, List.mem_append, not_or, not_or]
  refine ⟨notMem_userInfo hencode hown, h.host c ?_, notMem_part hown.1 fun t ht => notMem_portText hdigit ht⟩
  exact List.mem_append_left ['@', ':'] hc

/-- Signs that begin the query or the fragment are not before them. -/
lemma notMem_scheme_authority (h : u.WellFormed) {c : Char} (hc : c ∈ ['#', '?']) :
    c ∉ u.scheme ++ "://".toList ++ (u.userInfo ++ (u.host ++ part ':' u.portText)) := by
  rw [List.mem_append, List.mem_append, not_or, not_or]
  refine ⟨⟨h.scheme c (List.mem_append_left [':'] hc), ?_⟩,
    notMem_authority h (List.mem_append_left ['/'] hc)⟩
  simp only [List.mem_cons, List.not_mem_nil, or_false] at hc
  rcases hc with rfl | rfl
  · decide
  · decide

lemma hash_notMem_front (h : u.WellFormed) : '#' ∉ u.front := by
  rw [front, List.mem_append, not_or]
  exact ⟨notMem_scheme_authority h (by simp), notMem_part (by decide) h.query⟩

/-- **Round trip.** A URI is found again.

**Proof sketch.** Each part ends at a sign that what stands before it does not have. -/
theorem parse_toText (h : u.WellFormed) : parse u.toText = some u := by
  have hcolon : u.scheme ++ "://".toList ++ (u.userInfo ++ (u.host ++ part ':' u.portText)) =
      u.scheme ++ part ':' (some ('/' :: '/' :: (u.userInfo ++ (u.host ++ part ':' u.portText)))) := by
    rw [List.append_assoc]
    rfl
  have hfragment : (u.fragment.map encode).map decode = u.fragment := by
    rw [Option.map_map]
    cases u.fragment with
    | none => rfl
    | some f => exact congrArg some (decode_encode f)
  rw [parse, toText_eq, cut_append_part (hash_notMem_front h)]
  dsimp only
  rw [front, cut_append_part (notMem_scheme_authority h (by simp)), hcolon]
  dsimp only
  rw [cut_append_part (h.scheme ':' (by simp))]
  change parseAuthority u.scheme (cut '/' _).1 u.query _ = some u
  rw [cut_of_notMem (notMem_authority h (by simp)), parseAuthority_eq h, hfragment]

/-- A URI of a host and a fragment in which nothing is escaped. -/
theorem parse_host_fragment {scheme host fragment : List Char} (hscheme : ∀ c ∈ ['#', '?', ':'], c ∉ scheme)
    (hhost : ∀ c ∈ ['#', '?', '/', '@', ':'], c ∉ host) (hfragment : '%' ∉ fragment) :
    parse (scheme ++ ':' :: '/' :: '/' :: (host ++ '#' :: fragment)) =
      some { scheme, host, fragment := some fragment } := by
  have hfront : ∀ c ∈ ['#', '?'], c ∉ scheme ++ part ':' (some ('/' :: '/' :: host)) := by
    intro c hc
    rw [List.mem_append, not_or, part, List.mem_cons, List.mem_cons, List.mem_cons]
    simp only [List.mem_cons, List.not_mem_nil, or_false] at hc
    rcases hc with rfl | rfl
    · exact ⟨hscheme _ (by simp), by simpa using hhost '#' (by simp)⟩
    · exact ⟨hscheme _ (by simp), by simpa using hhost '?' (by simp)⟩
  have htext : scheme ++ ':' :: '/' :: '/' :: (host ++ '#' :: fragment) =
      (scheme ++ part ':' (some ('/' :: '/' :: host))) ++ part '#' (some fragment) := by
    simp [part]
  have hdecode : (some fragment).map decode = some fragment :=
    congrArg some (decode_of_literal (literal_of_notMem hfragment))
  rw [parse, htext, cut_append_part (hfront '#' (by simp))]
  dsimp only
  rw [cut_of_notMem (hfront '?' (by simp))]
  dsimp only
  rw [cut_append_part (hscheme ':' (by simp))]
  change parseAuthority scheme (cut '/' host).1 none (some fragment) = _
  rw [cut_of_notMem (hhost '/' (by simp)), parseAuthority, cut_of_notMem (hhost '@' (by simp))]
  dsimp only
  rw [cut_of_notMem (hhost ':' (by simp)), hdecode]
  rfl

end Parse

/-! ### Queries -/

/-- The value of the first item with the key, or nothing. -/
def lookup (items : List (List Char × List Char)) (key : List Char) : List Char :=
  ((items.find? fun item => item.1 = key).map Prod.snd).getD []

/-- A query that was decoded as a whole. -/
def plainText (items : List (List Char × List Char)) : List Char :=
  ['&'].intercalate (items.map fun item => item.1 ++ '=' :: item.2)

/-- A value that is read as it is in a query that was decoded as a whole. -/
def stable (value : List Char) : Bool := literal value && !value.contains '&'

/-- A key that is read as it is. -/
structure Key (key : List Char) : Prop where
  literal : literal key = true
  and_notMem : '&' ∉ key
  eq_notMem : '=' ∉ key

lemma stable_iff {value : List Char} : stable value = true ↔ literal value = true ∧ '&' ∉ value := by
  simp [stable]

lemma queryValue_nil (key : List Char) : queryValue [] key = [] := by
  have hsplit : (List.splitOn '&' ([] : List Char)).map (cut '=') = [([], none)] := rfl
  rw [queryValue, hsplit, List.find?_singleton]
  split_ifs <;> rfl

/-- What is read of a query whose items are read. -/
lemma queryValue_of_split {text : List Char} {items : List (List Char × List Char)} {f : List Char → List Char}
    (hsplit : (text.splitOn '&').map (cut '=') = items.map fun item => (f item.1, some (f item.2)))
    (hf : ∀ item ∈ items, decode (f item.1) = item.1 ∧ decode (f item.2) = item.2) (key : List Char) :
    queryValue text key = lookup items key := by
  rw [queryValue, hsplit, lookup]
  clear hsplit
  induction items with
  | nil => rfl
  | cons item items ih =>
    obtain ⟨hkey, hvalue⟩ := hf item List.mem_cons_self
    rw [List.map_cons, List.find?_cons, List.find?_cons, hkey]
    by_cases h : item.1 = key
    · rw [decide_eq_true h]
      exact hvalue
    · rw [decide_eq_false h]
      exact ih fun item' hitem' => hf item' (List.mem_cons_of_mem _ hitem')

/-- An item is cut at its sign. -/
lemma cut_item {key : List Char} (h : '=' ∉ key) (value : List Char) :
    cut '=' (key ++ '=' :: value) = (key, some value) :=
  cut_append_part h (some value)

/-- **The values of a query** are found again. -/
theorem queryValue_queryText (items : List (List Char × List Char)) (key : List Char) :
    queryValue (queryText items) key = lookup items key := by
  by_cases hne : items = []
  · rw [hne]
    exact queryValue_nil key
  refine queryValue_of_split (f := encode) ?_ (fun item _ => ⟨decode_encode _, decode_encode _⟩) key
  have hpieces : ∀ piece ∈ items.map fun item => encode item.1 ++ '=' :: encode item.2, '&' ∉ piece := by
    intro piece hpiece
    obtain ⟨item, -, rfl⟩ := List.mem_map.1 hpiece
    rw [List.mem_append, List.mem_cons, not_or, not_or]
    exact ⟨notMem_encode (by decide) _, by decide, notMem_encode (by decide) _⟩
  rw [queryText, List.splitOn_intercalate _ hpieces (by simpa using hne), List.map_map]
  exact List.map_congr_left fun item _ => cut_item (notMem_encode (by decide) _) _

/-- A query is decoded as a whole. -/
lemma decode_queryText (items : List (List Char × List Char)) : decode (queryText items) = plainText items := by
  induction items with
  | nil => rfl
  | cons item items ih =>
    have hitem : ∀ rest, decode (encode item.1 ++ '=' :: encode item.2 ++ rest) =
        item.1 ++ '=' :: item.2 ++ decode rest := by
      intro rest
      rw [List.append_assoc, decode_encode_append, List.cons_append, decode_cons (by decide),
        decode_encode_append, List.append_assoc]
      rfl
    rw [queryText] at ih ⊢
    rw [plainText] at ih ⊢
    cases items with
    | nil =>
      have hlast := hitem []
      rw [List.append_nil, show decode [] = [] from rfl, List.append_nil] at hlast
      simpa only [List.map_cons, List.map_nil, List.intercalate_singleton] using hlast
    | cons item' items =>
      simp only [List.map_cons, List.intercalate_cons_cons] at ih ⊢
      rw [List.append_assoc, hitem, List.singleton_append, decode_cons (by decide), ih]
      simp only [List.append_assoc, List.cons_append, List.nil_append]

/-- The pieces of a query that was decoded as a whole are those of its items. -/
lemma splitOn_plainText {items : List (List Char × List Char)} (hne : items ≠ []) :
    (plainText items).splitOn '&' = items.flatMap fun item => (item.1 ++ '=' :: item.2).splitOn '&' := by
  rw [plainText]
  induction items with
  | nil => exact absurd rfl hne
  | cons item items ih =>
    cases items with
    | nil => simp
    | cons item' items =>
      have hrest := ih (List.cons_ne_nil _ _)
      rw [List.map_cons] at hrest
      rw [List.map_cons, List.map_cons, List.intercalate_cons_cons, List.append_assoc, List.singleton_append,
        List.splitOn_append_cons_self, hrest, List.flatMap_cons, List.flatMap_cons, List.flatMap_cons]

section Plain

variable {items : List (List Char × List Char)} (hkeys : ∀ item ∈ items, Key item.1)
include hkeys

/-- **Stable values** are found again in a query that was decoded as a whole. -/
theorem queryValue_plainText (hstable : ∀ item ∈ items, stable item.2 = true) (key : List Char) :
    queryValue (plainText items) key = lookup items key := by
  by_cases hne : items = []
  · rw [hne]
    exact queryValue_nil key
  refine queryValue_of_split (f := id) ?_ (fun item hitem => ?_) key
  · have hsplit : ∀ item ∈ items, (item.1 ++ '=' :: item.2).splitOn '&' = [item.1 ++ '=' :: item.2] := by
      intro item hitem
      refine List.splitOn_eq_singleton ?_
      rw [List.mem_append, List.mem_cons, not_or, not_or]
      exact ⟨(hkeys item hitem).and_notMem, by decide, (stable_iff.1 (hstable item hitem)).2⟩
    rw [splitOn_plainText hne, List.flatMap_congr hsplit, List.map_flatMap]
    have hcut : ∀ item ∈ items, [item.1 ++ '=' :: item.2].map (cut '=') = [(id item.1, some (id item.2))] :=
      fun item hitem => congrArg (fun x => [x]) (cut_item (hkeys item hitem).eq_notMem _)
    rw [List.flatMap_congr hcut, ← List.map_eq_flatMap]
  · exact ⟨decode_of_literal (hkeys item hitem).literal, decode_of_literal (stable_iff.1 (hstable item hitem)).1⟩

/-- **What is read of a query that was decoded as a whole**: nothing, the stable value of an item with the key, or
something shorter than a value that is not stable.

**Proof sketch.** What is read is decoded from behind the sign of a piece. The first piece of an item has its key,
and the value up to the first sign between items; the other pieces are behind that in the value. -/
lemma queryValue_cases (key : List Char) :
    queryValue (plainText items) key = [] ∨
      (∃ item ∈ items, item.1 = key ∧ stable item.2 = true ∧ queryValue (plainText items) key = item.2) ∨
      ∃ item ∈ items, stable item.2 = false ∧ (queryValue (plainText items) key).length < item.2.length := by
  by_cases hne : items = []
  · rw [hne]
    exact Or.inl (queryValue_nil key)
  rw [queryValue, splitOn_plainText hne]
  cases hfind : ((items.flatMap fun item => (item.1 ++ '=' :: item.2).splitOn '&').map (cut '=')).find?
      fun item => decode item.1 = key with
  | none => exact Or.inl rfl
  | some found =>
    obtain ⟨name, value⟩ := found
    cases value with
    | none => exact Or.inl rfl
    | some value =>
      dsimp only
      have hname : decode name = key := by simpa using List.find?_some hfind
      obtain ⟨piece, hpiece, hcut⟩ := List.mem_map.1 (List.mem_of_find?_eq_some hfind)
      obtain ⟨item, hitem, hpiece⟩ := List.mem_flatMap.1 hpiece
      obtain ⟨hliteral, hand, heq⟩ := hkeys item hitem
      have hle := (length_decode value).1
      by_cases hmem : '&' ∈ item.2
      · -- the value is cut
        have hnot : stable item.2 = false := by
          rw [← Bool.not_eq_true, stable_iff]
          exact fun h => h.2 hmem
        refine Or.inr (Or.inr ⟨item, hitem, hnot, hle.trans_lt ?_⟩)
        obtain ⟨first, rest, hsplit, hfirst⟩ := List.eq_append_cons_of_mem hmem
        have hfront : '&' ∉ item.1 ++ '=' :: first := by
          rw [List.mem_append, List.mem_cons, not_or, not_or]
          exact ⟨hand, by decide, hfirst⟩
        have hpieces : (item.1 ++ '=' :: item.2).splitOn '&' =
            (item.1 ++ '=' :: first) :: rest.splitOn '&' := by
          rw [hsplit, ← List.cons_append, ← List.append_assoc]
          exact List.splitOn_append_cons_self_of_not_mem hfront rest
        rw [hpieces] at hpiece
        rw [hsplit, List.length_append, List.length_cons]
        rcases List.mem_cons.1 hpiece with rfl | hpiece
        · rw [cut_item heq] at hcut
          obtain rfl := Option.some.inj (Prod.mk.inj hcut).2
          omega
        · have hpart := Text.length_le_of_mem_splitOn hpiece
          have hshort := length_cut_lt (congrArg Prod.snd hcut)
          omega
      · have hwhole : (item.1 ++ '=' :: item.2).splitOn '&' = [item.1 ++ '=' :: item.2] := by
          refine List.splitOn_eq_singleton ?_
          rw [List.mem_append, List.mem_cons, not_or, not_or]
          exact ⟨hand, by decide, hmem⟩
        rw [hwhole, List.mem_singleton] at hpiece
        rw [hpiece, cut_item heq] at hcut
        obtain ⟨rfl, hvalue⟩ := Prod.mk.inj hcut
        obtain rfl := Option.some.inj hvalue
        by_cases hescape : literal item.2 = true
        · refine Or.inr (Or.inl ⟨item, hitem, ?_, stable_iff.2 ⟨hescape, hmem⟩, decode_of_literal hescape⟩)
          rw [← hname, decode_of_literal hliteral]
        · have hescape := (Bool.not_eq_true _).mp hescape
          have hnot : stable item.2 = false := by rw [stable, hescape, Bool.false_and]
          exact Or.inr (Or.inr ⟨item, hitem, hnot, (length_decode item.2).2 hescape⟩)

/-- **No value is lost** if every value that is not stable is as long as one that is read, of its key or of a key
that no item has.

**Proof sketch.** A longest value that is not stable is not read, nor is it as long as what is read of another. -/
theorem stable_of_length (hnodup : (items.map Prod.fst).Nodup)
    (h : ∀ item ∈ items, stable item.2 = false → ∃ key, (key = item.1 ∨ key ∉ items.map Prod.fst) ∧
      (queryValue (plainText items) key).length = item.2.length) :
    ∀ item ∈ items, stable item.2 = true := by
  by_contra hnot
  push Not at hnot
  obtain ⟨item₀, hitem₀, hnot₀⟩ := hnot
  have hne : items.filter (fun item => !stable item.2) ≠ [] := by
    refine List.ne_nil_of_mem (List.mem_filter.2 ⟨hitem₀, ?_⟩)
    rw [(Bool.not_eq_true _).mp hnot₀]
    rfl
  obtain ⟨longest, hmax⟩ : ∃ longest, longest ∈ (items.filter fun item => !stable item.2).argmax fun item =>
      item.2.length :=
    Option.ne_none_iff_exists'.1 fun hnone => hne (List.argmax_eq_none.1 hnone)
  have hlongest : ∀ item ∈ items.filter fun item => !stable item.2, item.2.length ≤ longest.2.length :=
    fun _ hitem => List.le_of_mem_argmax (f := fun item : List Char × List Char => item.2.length) hitem hmax
  obtain ⟨hlongest_mem, hunstable⟩ := List.mem_filter.1 (List.argmax_mem hmax)
  have hunstable : stable longest.2 = false := by simpa using hunstable
  obtain ⟨key, hkey, hlength⟩ := h longest hlongest_mem hunstable
  rcases queryValue_cases hkeys key with hnil | ⟨item, hitem, rfl, hstable, -⟩ | ⟨item, hitem, hnot, hlt⟩
  · rw [hnil, List.length_nil] at hlength
    have hempty := List.eq_nil_of_length_eq_zero hlength.symm
    rw [hempty] at hunstable
    exact absurd hunstable (by decide)
  · rcases hkey with hkey | hkey
    · have hsame : item = longest := List.inj_on_of_nodup_map hnodup hitem hlongest_mem hkey
      rw [hsame, hunstable] at hstable
      exact Bool.false_ne_true hstable
    · exact hkey (List.mem_map_of_mem hitem)
  · have hle := hlongest item (List.mem_filter.2 ⟨hitem, by rw [hnot]; rfl⟩)
    omega

end Plain

end Uri
