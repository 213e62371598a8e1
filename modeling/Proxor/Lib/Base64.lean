import Mathlib.Tactic.Ring
import Proxor.Lib.Bytes

set_option relaxedAutoImplicit false
set_option autoImplicit false

/-!
# Base64

The encoding of bytes in 64 characters, with padding, in the standard alphabet and in that for URLs, and a
decoder that collects bits, six of them for each character.

## Main definitions

* `Base64.encode` — the encoding of some bytes.
* `Base64.decode` — the bytes of an encoding, if it is one. The padding may be left out.

## Main results

* `Base64.decode_encode` — the bytes are found again.
* `Base64.length_decode_lt` — what is decoded is shorter.
* `Base64.isDigit_of_decode` — what can be decoded has only characters of the alphabet, and padding.
-/

namespace Base64

/-! ### Characters -/

/-- The value of a character, if it has one. -/
def digit (url : Bool) (ch : UInt8) : Option ℕ :=
  let n := ch.toNat
  if 65 ≤ n ∧ n ≤ 90 then some (n - 65)
  else if 97 ≤ n ∧ n ≤ 122 then some (n - 97 + 26)
  else if 48 ≤ n ∧ n ≤ 57 then some (n - 48 + 52)
  else if n = 43 ∧ url = false then some 62
  else if n = 45 ∧ url = true then some 62
  else if n = 47 ∧ url = false then some 63
  else if n = 95 ∧ url = true then some 63
  else none

/-- The character of a value. -/
def char (url : Bool) (d : ℕ) : UInt8 :=
  UInt8.ofNat (if d < 26 then d + 65 else if d < 52 then d - 26 + 97 else if d < 62 then d - 52 + 48
    else if d = 62 then (if url then 45 else 43) else if url then 95 else 47)

lemma digit_char (url : Bool) {d : ℕ} (hd : d < 64) : digit url (char url d) = some d := by
  have hall : ∀ url : Bool, ∀ d < 64, digit url (char url d) = some d := by decide
  exact hall url d hd

/-- The characters are ASCII. -/
lemma lt_of_isDigit {url : Bool} {ch : UInt8} (h : (digit url ch).isSome ∨ ch = 61) : ch.toNat < 128 := by
  rcases h with h | rfl
  · by_contra hlt
    have hnone : digit url ch = none := by
      unfold digit
      dsimp only
      rw [if_neg (by omega), if_neg (by omega), if_neg (by omega), if_neg (by omega), if_neg (by omega),
        if_neg (by omega), if_neg (by omega)]
    rw [hnone] at h
    exact Bool.false_ne_true h
  · decide

/-! ### Decoding -/

/-- The decoder behind some characters, with `nbits` bits that are left in `buf`, in a text of `size`
characters. -/
def decodeLoop (url : Bool) (size : ℕ) : (buf nbits : ℕ) → Bytes → Option Bytes
  | _, _, [] => some []
  | buf, nbits, ch :: rest =>
    match digit url ch with
    | some d =>
      if nbits + 6 ≥ 8 then
        (decodeLoop url size ((buf * 64 + d) % 2 ^ (nbits - 2)) (nbits - 2) rest).map fun bs =>
          UInt8.ofNat ((buf * 64 + d) / 2 ^ (nbits - 2)) :: bs
      else decodeLoop url size (buf * 64 + d) (nbits + 6) rest
    | none =>
      -- one or two signs at the end, of a text whose length is a multiple of four
      if ch = 61 ∧ size % 4 = 0 ∧ (rest = [] ∨ rest = [61]) then some [] else none

/-- The bytes of an encoding, if it is one. -/
def decode (url : Bool) (text : Bytes) : Option Bytes := decodeLoop url text.length 0 0 text

/-- Each byte takes eight of the bits. -/
lemma length_decodeLoop {url : Bool} {size : ℕ} : ∀ {text bs : Bytes} {buf nbits : ℕ},
    decodeLoop url size buf nbits text = some bs → 8 * bs.length ≤ 6 * text.length + nbits := by
  intro text
  induction text with
  | nil =>
    intro bs buf nbits h
    obtain rfl := Option.some.inj h
    exact Nat.zero_le _
  | cons ch rest ih =>
    intro bs buf nbits h
    rw [decodeLoop] at h
    split at h
    · split_ifs at h with hbits
      · obtain ⟨bs', hbs', rfl⟩ := Option.map_eq_some_iff.1 h
        have hrest := ih hbs'
        rw [List.length_cons, List.length_cons]
        omega
      · have hrest := ih h
        rw [List.length_cons]
        omega
    · split_ifs at h
      obtain rfl := Option.some.inj h
      exact Nat.zero_le _

/-- What is decoded is shorter. -/
theorem length_decode_lt {url : Bool} {text bs : Bytes} (h : decode url text = some bs) (hne : bs ≠ []) :
    bs.length < text.length := by
  have hlen := length_decodeLoop h
  have hpos := List.length_pos_of_ne_nil hne
  omega

/-- The characters of what can be decoded. -/
lemma mem_decodeLoop {url : Bool} {size : ℕ} : ∀ {text bs : Bytes} {buf nbits : ℕ},
    decodeLoop url size buf nbits text = some bs → ∀ ch ∈ text, (digit url ch).isSome ∨ ch = 61 := by
  intro text
  induction text with
  | nil => intro bs buf nbits _ ch hch; cases hch
  | cons ch rest ih =>
    intro bs buf nbits h
    rw [decodeLoop] at h
    split at h
    next d hd =>
      have hrest : ∀ c ∈ rest, (digit url c).isSome ∨ c = 61 := by
        split_ifs at h
        · obtain ⟨bs', hbs', -⟩ := Option.map_eq_some_iff.1 h
          exact ih hbs'
        · exact ih h
      exact List.forall_mem_cons.2 ⟨.inl (by rw [hd]; rfl), hrest⟩
    · split_ifs at h with hpad
      obtain ⟨rfl, -, rfl | rfl⟩ := hpad
      · exact List.forall_mem_singleton.2 (.inr rfl)
      · exact List.forall_mem_cons.2 ⟨.inr rfl, List.forall_mem_singleton.2 (.inr rfl)⟩

/-- **Characters.** What can be decoded has only characters of the alphabet, and padding. -/
theorem isDigit_of_decode {url : Bool} {text bs : Bytes} (h : decode url text = some bs) {ch : UInt8}
    (hch : ch ∈ text) : (digit url ch).isSome ∨ ch = 61 := mem_decodeLoop h ch hch

/-! ### Encoding -/

/-- The encoding of some bytes, with padding. -/
def encode (url : Bool) : Bytes → Bytes
  | [] => []
  | [a] => [char url (a.toNat / 4), char url (a.toNat % 4 * 16), 61, 61]
  | [a, b] =>
    [char url (a.toNat / 4), char url (a.toNat % 4 * 16 + b.toNat / 16), char url (b.toNat % 16 * 4), 61]
  | a :: b :: c :: rest =>
    char url (a.toNat / 4) :: char url (a.toNat % 4 * 16 + b.toNat / 16) ::
      char url (b.toNat % 16 * 4 + c.toNat / 64) :: char url (c.toNat % 64) :: encode url rest

lemma length_encode_mod (url : Bool) (bs : Bytes) : (encode url bs).length % 4 = 0 := by
  fun_induction encode url bs with
  | case1 => rfl
  | case2 => exact Nat.mod_self 4
  | case3 => exact Nat.mod_self 4
  | case4 a b c rest ih =>
    simp only [List.length_cons]
    omega

section Steps

variable {url : Bool} {size : ℕ} {d : ℕ} (hd : d < 64) (rest : Bytes)
include hd

/-- A character when no bits are left. -/
lemma decodeLoop_char_zero :
    decodeLoop url size 0 0 (char url d :: rest) = decodeLoop url size d 6 rest := by
  rw [decodeLoop, digit_char url hd]
  dsimp only
  rw [if_neg (by decide), Nat.zero_mul, Nat.zero_add]

/-- A character that ends a byte. -/
lemma decodeLoop_char {buf nbits : ℕ} (hbits : 2 ≤ nbits) :
    decodeLoop url size buf nbits (char url d :: rest) =
      (decodeLoop url size ((buf * 64 + d) % 2 ^ (nbits - 2)) (nbits - 2) rest).map fun bs =>
        UInt8.ofNat ((buf * 64 + d) / 2 ^ (nbits - 2)) :: bs := by
  rw [decodeLoop, digit_char url hd]
  dsimp only
  rw [if_pos (by omega)]

end Steps

/-- The padding ends the text. -/
lemma decodeLoop_padding {url : Bool} {size : ℕ} (hsize : size % 4 = 0) (buf nbits : ℕ) {rest : Bytes}
    (hrest : rest = [] ∨ rest = [61]) : decodeLoop url size buf nbits (61 :: rest) = some [] := by
  have hnone : digit url 61 = none := by cases url <;> rfl
  rw [decodeLoop, hnone]
  exact if_pos ⟨rfl, hsize, hrest⟩

lemma ofNat_toNat_of_eq {n : ℕ} {a : UInt8} (h : n = a.toNat) : UInt8.ofNat n = a := by
  rw [h, UInt8.ofNat_toNat]

/-- **Round trip.** The bytes are found again.

**Proof sketch.** By three bytes at a time, after which no bits are left. -/
theorem decode_encode (url : Bool) (bs : Bytes) : decode url (encode url bs) = some bs := by
  have hloop : ∀ size, size % 4 = 0 → decodeLoop url size 0 0 (encode url bs) = some bs := by
    intro size hsize
    fun_induction encode url bs with
    | case1 => rfl
    | case2 a =>
      have ha := a.toNat_lt
      have h₁ : (a.toNat / 4 * 64 + a.toNat % 4 * 16) / 2 ^ (6 - 2) = a.toNat := by omega
      rw [decodeLoop_char_zero (by omega), decodeLoop_char (by omega) _ (by decide),
        decodeLoop_padding hsize _ _ (.inr rfl), Option.map_some, ofNat_toNat_of_eq h₁]
    | case3 a b =>
      have ha := a.toNat_lt
      have hb := b.toNat_lt
      have h₁ : (a.toNat / 4 * 64 + (a.toNat % 4 * 16 + b.toNat / 16)) / 2 ^ (6 - 2) = a.toNat := by omega
      have h₂ : (a.toNat / 4 * 64 + (a.toNat % 4 * 16 + b.toNat / 16)) % 2 ^ (6 - 2) = b.toNat / 16 := by
        omega
      have h₃ : (b.toNat / 16 * 64 + b.toNat % 16 * 4) / 2 ^ (6 - 2 - 2) = b.toNat := by omega
      rw [decodeLoop_char_zero (by omega), decodeLoop_char (by omega) _ (by decide), h₂,
        decodeLoop_char (by omega) _ (by decide), decodeLoop_padding hsize _ _ (.inl rfl), Option.map_some,
        Option.map_some, ofNat_toNat_of_eq h₁, ofNat_toNat_of_eq h₃]
    | case4 a b c rest ih =>
      have ha := a.toNat_lt
      have hb := b.toNat_lt
      have hc := c.toNat_lt
      have h₁ : (a.toNat / 4 * 64 + (a.toNat % 4 * 16 + b.toNat / 16)) / 2 ^ (6 - 2) = a.toNat := by omega
      have h₂ : (a.toNat / 4 * 64 + (a.toNat % 4 * 16 + b.toNat / 16)) % 2 ^ (6 - 2) = b.toNat / 16 := by
        omega
      have h₃ : (b.toNat / 16 * 64 + (b.toNat % 16 * 4 + c.toNat / 64)) / 2 ^ (6 - 2 - 2) = b.toNat := by
        omega
      have h₄ : (b.toNat / 16 * 64 + (b.toNat % 16 * 4 + c.toNat / 64)) % 2 ^ (6 - 2 - 2) = c.toNat / 64 := by
        omega
      have h₅ : (c.toNat / 64 * 64 + c.toNat % 64) / 2 ^ (6 - 2 - 2 - 2) = c.toNat := by omega
      have h₆ : (c.toNat / 64 * 64 + c.toNat % 64) % 2 ^ (6 - 2 - 2 - 2) = 0 := by omega
      rw [decodeLoop_char_zero (by omega), decodeLoop_char (by omega) _ (by decide), h₂,
        decodeLoop_char (by omega) _ (by decide), h₄, decodeLoop_char (by omega) _ (by decide), h₆,
        ih, Option.map_some, Option.map_some, Option.map_some, ofNat_toNat_of_eq h₁, ofNat_toNat_of_eq h₃,
        ofNat_toNat_of_eq h₅]
  exact hloop _ (length_encode_mod url bs)

end Base64
