import Mathlib.Data.List.Infix
import Proxor.Lib.Bytes

set_option relaxedAutoImplicit false
set_option autoImplicit false

/-!
# UTF-8

Texts as bytes. The characters of an encoded text are found again from its start, so that a part of the
bytes that is the encoding of some text is the encoding of a part of the characters.

## Main definitions

* `Utf8.encode`, `Utf8.valid` — the encoding of a text, and whether bytes are one.
* `Utf8.fit` — the characters whose encoding fits in so many bytes.
* `Utf8.decode` — the text of some bytes, whatever they are.

## Main results

* `Utf8.prefix_of_encode` — the encoding is a prefix code.
* `Utf8.prefix_fit_iff` — `fit` is the longest part from the start that fits.
* `Utf8.take_encode`, `Utf8.not_valid_of_part` — what is left when bytes are cut off.
* `Utf8.lines_encode` — the lines of a text and of its bytes.
* `Utf8.decode_encode` — the text is found again.
-/

namespace Utf8

/-- The encoding of a text. -/
def encode (cs : List Char) : Bytes := cs.flatMap String.utf8EncodeChar

/-- Are these bytes the encoding of a text? -/
def valid (bs : Bytes) : Bool := bs.toByteArray.validateUTF8

@[simp] lemma encode_nil : encode [] = [] := rfl

lemma encode_cons (c : Char) (cs : List Char) :
    encode (c :: cs) = String.utf8EncodeChar c ++ encode cs := List.flatMap_cons

lemma encode_append (cs ds : List Char) : encode (cs ++ ds) = encode cs ++ encode ds :=
  List.flatMap_append

lemma toByteArray_inj {bs bs' : Bytes} (h : bs.toByteArray = bs'.toByteArray) : bs = bs' := by
  have hdata := congrArg (fun b : ByteArray => b.data.toList) h
  simpa using hdata

/-- Bytes are valid if they encode some text. -/
lemma valid_iff {bs : Bytes} : valid bs = true ↔ ∃ cs, bs = encode cs := by
  rw [valid, ByteArray.validateUTF8_eq_true_iff]
  constructor
  · rintro ⟨cs, h⟩
    exact ⟨cs, toByteArray_inj h⟩
  · rintro ⟨cs, rfl⟩
    exact ⟨cs, rfl⟩

/-- The first character is found again. -/
lemma head_of_encode {c d : Char} {bs bs' : Bytes}
    (h : String.utf8EncodeChar c ++ bs = String.utf8EncodeChar d ++ bs') : c = d ∧ bs = bs' := by
  have hdecode := congrArg (fun l : Bytes => l.toByteArray.utf8DecodeChar? 0) h
  simp only [List.toByteArray_append, ByteArray.utf8DecodeChar?_utf8EncodeChar_append,
    Option.some.injEq] at hdecode
  subst hdecode
  exact ⟨rfl, List.append_cancel_left h⟩

/-- **A prefix code.** Where a text's encoding begins with another's, the text begins with it. -/
theorem prefix_of_encode {cs ds : List Char} (h : encode ds <+: encode cs) : ds <+: cs := by
  induction ds generalizing cs with
  | nil => exact List.nil_prefix
  | cons d ds ih =>
    obtain ⟨r, hr⟩ := h
    rw [encode_cons, List.append_assoc] at hr
    cases cs with
    | nil => exact absurd (List.append_eq_nil_iff.1 hr).1 String.utf8EncodeChar_ne_nil
    | cons c cs =>
      rw [encode_cons] at hr
      obtain ⟨rfl, hrest⟩ := head_of_encode hr
      exact (List.prefix_cons_inj d).2 (ih ⟨r, hrest⟩)

/-! ### Cutting off bytes -/

/-- The characters from the start whose encoding fits in `n` bytes. -/
def fit : ℕ → List Char → List Char
  | _, [] => []
  | n, c :: cs => if c.utf8Size ≤ n then c :: fit (n - c.utf8Size) cs else []

lemma length_encode_cons (c : Char) (cs : List Char) :
    (encode (c :: cs)).length = c.utf8Size + (encode cs).length := by
  rw [encode_cons, List.length_append, String.length_utf8EncodeChar]

/-- **The longest part.** A text begins with another that fits if what fits of it begins with that. -/
theorem prefix_fit_iff {cs ds : List Char} {n : ℕ} :
    ds <+: fit n cs ↔ ds <+: cs ∧ (encode ds).length ≤ n := by
  induction cs generalizing n ds with
  | nil =>
    rw [fit, List.prefix_nil]
    constructor
    · rintro rfl
      exact ⟨rfl, Nat.zero_le n⟩
    · exact And.left
  | cons c cs ih =>
    cases ds with
    | nil => simp
    | cons d ds =>
      rw [fit, length_encode_cons]
      by_cases hfits : c.utf8Size ≤ n
      · rw [if_pos hfits, List.cons_prefix_cons, List.cons_prefix_cons, ih, and_assoc]
        refine and_congr_right ?_
        rintro rfl
        refine and_congr_right fun _ => ?_
        omega
      · rw [if_neg hfits, List.cons_prefix_cons]
        refine iff_of_false (by simp) ?_
        rintro ⟨⟨rfl, -⟩, hlen⟩
        omega

lemma isPrefix_fit (n : ℕ) (cs : List Char) : fit n cs <+: cs :=
  (prefix_fit_iff.1 (List.prefix_refl _)).1

/-- A text that fits is kept. -/
lemma fit_eq_self {n : ℕ} {cs : List Char} (h : (encode cs).length ≤ n) : fit n cs = cs :=
  (isPrefix_fit n cs).eq_of_length_le (prefix_fit_iff.2 ⟨List.prefix_refl _, h⟩).length_le

/-- The first bytes of an encoding are those of what fits and of a part of the next character. -/
lemma take_encode (cs : List Char) : ∀ n : ℕ,
    ∃ part, (encode cs).take n = encode (fit n cs) ++ part ∧ part.length ≤ 3 := by
  induction cs with
  | nil => exact fun n => ⟨[], by rw [encode_nil, List.take_nil]; rfl, Nat.zero_le _⟩
  | cons c cs ih =>
    intro n
    rw [encode_cons, fit]
    by_cases hfits : c.utf8Size ≤ n
    · obtain ⟨part, htake, hlen⟩ := ih (n - c.utf8Size)
      refine ⟨part, ?_, hlen⟩
      rw [if_pos hfits, encode_cons, List.take_append, String.length_utf8EncodeChar, htake,
        List.take_of_length_le (by rw [String.length_utf8EncodeChar]; exact hfits), List.append_assoc]
    · have hsize := c.utf8Size_le_four
      refine ⟨(String.utf8EncodeChar c).take n, ?_, ?_⟩
      · rw [if_neg hfits, encode_nil, List.nil_append, List.take_append_of_le_length]
        rw [String.length_utf8EncodeChar]
        omega
      · rw [List.length_take, String.length_utf8EncodeChar]
        omega

/-- What fits, with a part of the next character, is not valid.

**Proof sketch.** If it encoded a text, the whole would begin with that, which would fit and so be no
longer than what fits. -/
lemma not_valid_of_part {cs : List Char} {n : ℕ} {part : Bytes} (hne : part ≠ [])
    (h : encode (fit n cs) ++ part <+: (encode cs).take n) :
    valid (encode (fit n cs) ++ part) = false := by
  by_contra hvalid
  rw [Bool.not_eq_false, valid_iff] at hvalid
  obtain ⟨ds, hds⟩ := hvalid
  rw [hds] at h
  have hlen : (encode ds).length ≤ n := h.length_le.trans (List.length_take_le _ _)
  have hpre : ds <+: fit n cs :=
    prefix_fit_iff.2 ⟨prefix_of_encode (h.trans (List.take_prefix _ _)), hlen⟩
  obtain ⟨r, hr⟩ := hpre
  have hle : (encode ds).length ≤ (encode (fit n cs)).length := by
    rw [← hr, encode_append, List.length_append]
    exact Nat.le_add_right _ _
  have hpos := List.length_pos_of_ne_nil hne
  rw [← hds, List.length_append] at hle
  omega

/-! ### Lines -/

/-- What holds of all numbers of eight bits holds of all bytes. -/
private lemma byte_all {p : UInt8 → Prop} (h : ∀ n : Fin 256, p (UInt8.ofFin n)) (b : UInt8) : p b := by
  have hb := h b.toFin
  rwa [UInt8.ofFin_toFin] at hb

set_option maxRecDepth 4096 in
/-- A byte of a character of several bytes is not ASCII. -/
private lemma several_high : ∀ b : UInt8, (128 ≤ (b &&& 0x1f ||| 0xc0).toNat ∧
    128 ≤ (b &&& 0x0f ||| 0xe0).toNat ∧ 128 ≤ (b &&& 0x07 ||| 0xf0).toNat) ∧
    128 ≤ (b &&& 0x3f ||| 0x80).toNat :=
  byte_all (by decide)

/-- An ASCII byte is that of the ASCII character. -/
lemma eq_of_mem_encodeChar {c : Char} {b : UInt8} (hb : b.toNat < 128)
    (h : b ∈ String.utf8EncodeChar c) : c.toNat = b.toNat := by
  have hlow : ∀ {n : UInt8}, 128 ≤ n.toNat → b ≠ n := by
    rintro n hn rfl
    omega
  rcases c.utf8Size_eq with hsize | hsize | hsize | hsize
  · rw [String.utf8EncodeChar_eq_singleton hsize, List.mem_singleton] at h
    have hle : c.val.toNat ≤ 127 := UInt32.le_iff_toNat_le.1 (Char.utf8Size_eq_one_iff.1 hsize)
    rw [h, UInt32.toNat_toUInt8]
    change c.val.toNat = _
    omega
  · rw [String.utf8EncodeChar_eq_cons_cons hsize] at h
    simp only [List.mem_cons, List.not_mem_nil, or_false] at h
    rcases h with h | h
    · exact absurd h (hlow (several_high _).1.1)
    · exact absurd h (hlow (several_high _).2)
  · rw [String.utf8EncodeChar_eq_cons_cons_cons hsize] at h
    simp only [List.mem_cons, List.not_mem_nil, or_false] at h
    rcases h with h | h | h
    · exact absurd h (hlow (several_high _).1.2.1)
    · exact absurd h (hlow (several_high _).2)
    · exact absurd h (hlow (several_high _).2)
  · rw [String.utf8EncodeChar_eq_cons_cons_cons_cons hsize] at h
    simp only [List.mem_cons, List.not_mem_nil, or_false] at h
    rcases h with h | h | h | h
    · exact absurd h (hlow (several_high _).1.2.2)
    · exact absurd h (hlow (several_high _).2)
    · exact absurd h (hlow (several_high _).2)
    · exact absurd h (hlow (several_high _).2)

/-- An ASCII character is a byte. -/
lemma encodeChar_ofNat {n : ℕ} (hn : n < 128) :
    String.utf8EncodeChar (Char.ofNat n) = [UInt8.ofNat n] := by
  have hall : ∀ n : Fin 128, String.utf8EncodeChar (Char.ofNat n) = [UInt8.ofNat n] := by decide +kernel
  exact hall ⟨n, hn⟩

lemma encodeChar_of_ascii {c : Char} (hc : c.toNat < 128) :
    String.utf8EncodeChar c = [UInt8.ofNat c.toNat] := by
  have hchar := encodeChar_ofNat hc
  rwa [Char.ofNat_toNat] at hchar

/-- The bytes of an ASCII text. -/
lemma encode_map_ofNat {bs : Bytes} (h : ∀ b ∈ bs, b.toNat < 128) :
    encode (bs.map fun b => Char.ofNat b.toNat) = bs := by
  induction bs with
  | nil => rfl
  | cons b bs ih =>
    rw [List.map_cons, encode_cons, encodeChar_ofNat (h b List.mem_cons_self), UInt8.ofNat_toNat,
      ih fun b hb => h b (List.mem_cons_of_mem _ hb)]
    rfl

/-- A text of ASCII bytes has a byte for each character. -/
lemma length_encode_of_ascii {cs : List Char} (h : ∀ b ∈ encode cs, b.toNat < 128) :
    (encode cs).length = cs.length := by
  induction cs with
  | nil => rfl
  | cons c cs ih =>
    rw [encode_cons] at h ⊢
    have hrest := ih fun b hb => h b (List.mem_append_right _ hb)
    obtain ⟨b, bs, hbs⟩ := List.exists_cons_of_ne_nil (String.utf8EncodeChar_ne_nil (c := c))
    have hb : b ∈ String.utf8EncodeChar c := hbs ▸ List.mem_cons_self
    have hlow := h b (List.mem_append_left _ hb)
    have hsize : c.utf8Size = 1 := by
      have heq := eq_of_mem_encodeChar hlow hb
      refine Char.utf8Size_eq_one_iff.2 (UInt32.le_iff_toNat_le.2 ?_)
      change c.toNat ≤ 127
      omega
    rw [List.length_append, String.length_utf8EncodeChar, hsize, hrest, List.length_cons, Nat.add_comm]

lemma newline_not_mem_encode {cs : List Char} (h : '\n' ∉ cs) : 10 ∉ encode cs := by
  rw [encode, List.mem_flatMap]
  rintro ⟨c, hc, hten⟩
  have heq : c = '\n' := Char.toNat_inj.1 (eq_of_mem_encodeChar (by decide) hten)
  exact h (heq ▸ hc)

/-- **Lines.** The lines of the bytes are those of the text. -/
theorem lines_encode (cs : List Char) : Bytes.lines (encode cs) = (cs.splitOn '\n').map encode := by
  rw [Bytes.lines]
  induction hlen : cs.length using Nat.strong_induction_on generalizing cs with
  | _ n ih =>
    by_cases hmem : '\n' ∈ cs
    · obtain ⟨line, rest, rfl, hline⟩ := List.eq_append_cons_of_mem hmem
      have hrest := ih rest.length (by rw [← hlen, List.length_append, List.length_cons]; omega) rest rfl
      have hsplit : encode (line ++ '\n' :: rest) = encode line ++ 10 :: encode rest := by
        rw [encode_append, encode_cons]
        rfl
      rw [hsplit, List.splitOn_append_cons_self_of_not_mem (newline_not_mem_encode hline), hrest,
        List.splitOn_append_cons_self_of_not_mem hline, List.map_cons]
    · rw [List.splitOn_eq_singleton hmem, List.splitOn_eq_singleton (newline_not_mem_encode hmem),
        List.map_singleton]

/-! ### Decoding -/

/-- The text of some bytes, of which the first `skip` belong to a character that was read. A byte with
which no character begins is replaced. -/
def decodeFrom : (skip : ℕ) → Bytes → List Char
  | _, [] => []
  | skip + 1, _ :: bs => decodeFrom skip bs
  | 0, b :: bs =>
    match (b :: bs).toByteArray.utf8DecodeChar? 0 with
    | some c => c :: decodeFrom (c.utf8Size - 1) bs
    | none => '\uFFFD' :: decodeFrom 0 bs

/-- The text of some bytes. -/
def decode (bs : Bytes) : List Char := decodeFrom 0 bs

lemma decodeFrom_eq_drop (skip : ℕ) (bs : Bytes) : decodeFrom skip bs = decode (bs.drop skip) := by
  induction skip generalizing bs with
  | zero => rw [List.drop_zero, decode]
  | succ skip ih =>
    cases bs with
    | nil => rw [List.drop_nil, decode, decodeFrom, decodeFrom]
    | cons b bs => rw [decodeFrom, ih, List.drop_succ_cons]

/-- The first character is read. -/
lemma decode_encodeChar_append (c : Char) (bs : Bytes) :
    decode (String.utf8EncodeChar c ++ bs) = c :: decode bs := by
  have hfirst : (String.utf8EncodeChar c ++ bs).toByteArray.utf8DecodeChar? 0 = some c := by
    rw [List.toByteArray_append, ByteArray.utf8DecodeChar?_utf8EncodeChar_append]
  have hdrop : (String.utf8EncodeChar c ++ bs).drop c.utf8Size = bs := by
    rw [← String.length_utf8EncodeChar, List.drop_left]
  have hpos := c.utf8Size_pos
  cases hcs : String.utf8EncodeChar c ++ bs with
  | nil => exact absurd (List.append_eq_nil_iff.1 hcs).1 String.utf8EncodeChar_ne_nil
  | cons b rest =>
    rw [hcs] at hfirst hdrop
    rw [← Nat.sub_add_cancel hpos, List.drop_succ_cons] at hdrop
    rw [decode, decodeFrom, hfirst]
    dsimp only
    rw [decodeFrom_eq_drop, hdrop]

/-- A text is read from the start. -/
lemma decode_encode_append (cs : List Char) (bs : Bytes) : decode (encode cs ++ bs) = cs ++ decode bs := by
  induction cs with
  | nil => rfl
  | cons c cs ih => rw [encode_cons, List.append_assoc, decode_encodeChar_append, ih, List.cons_append]

/-- **Round trip.** The text is found again. -/
theorem decode_encode (cs : List Char) : decode (encode cs) = cs := by
  have h := decode_encode_append cs []
  rwa [List.append_nil, show decode [] = [] from rfl, List.append_nil] at h

/-- What is read first of some bytes: a character, which takes bytes besides the first one with which no character
begins. -/
lemma decode_cons (b : UInt8) (bs : Bytes) :
    ∃ c k, decode (b :: bs) = c :: decode (bs.drop k) ∧ ∀ x ∈ bs.take k, ¬x.IsUTF8FirstByte := by
  cases hfirst : (b :: bs).toByteArray.utf8DecodeChar? 0 with
  | none =>
    refine ⟨'\uFFFD', 0, ?_, fun x hx => absurd hx List.not_mem_nil⟩
    rw [decode, decodeFrom, hfirst]
    rfl
  | some c =>
    refine ⟨c, c.utf8Size - 1, ?_, fun x hx hx₁ => ?_⟩
    · rw [decode, decodeFrom, hfirst]
      dsimp only
      rw [decodeFrom_eq_drop]
    obtain ⟨l, hl⟩ := ByteArray.exists_of_utf8DecodeChar?_eq_some hfirst
    have hbytes : b :: bs = String.utf8EncodeChar c ++ l.data.toList := by
      have hdata := congrArg (fun b : ByteArray => b.data.toList) hl
      simpa using hdata
    have htail : bs.take (c.utf8Size - 1) = (String.utf8EncodeChar c).tail := by
      cases hchar : String.utf8EncodeChar c with
      | nil => exact absurd hchar String.utf8EncodeChar_ne_nil
      | cons b' tail =>
        have hlength := String.length_utf8EncodeChar c
        rw [hchar] at hbytes hlength
        rw [(List.cons.inj hbytes).2, ← hlength, List.length_cons, Nat.add_sub_cancel, List.tail_cons]
        exact List.take_left
    rw [htail] at hx
    obtain ⟨i, hi, rfl⟩ := List.mem_iff_getElem.1 hx
    rw [List.getElem_tail, UInt8.isUTF8FirstByte_getElem_utf8EncodeChar] at hx₁
    exact Nat.succ_ne_zero i hx₁

/-- Every character takes a byte. -/
lemma length_decodeFrom_le (skip : ℕ) (bs : Bytes) : (decodeFrom skip bs).length ≤ bs.length := by
  induction bs generalizing skip with
  | nil => rw [decodeFrom]; exact Nat.le_refl _
  | cons b bs ih =>
    cases skip with
    | succ skip => exact Nat.le_succ_of_le (ih skip)
    | zero =>
      rw [decodeFrom]
      split
      · exact Nat.succ_le_succ (ih _)
      · exact Nat.succ_le_succ (ih _)

lemma length_decode_le (bs : Bytes) : (decode bs).length ≤ bs.length := length_decodeFrom_le 0 bs

end Utf8
