import Proxor.Lib.Cidr
import Proxor.Lib.Text

set_option relaxedAutoImplicit false
set_option autoImplicit false

/-!
# Local networks

The private networks this machine is attached to are kept out of the tunnel. They are found from the
addresses of the interfaces; those inside an ignored range are left out.

## Main definitions

* `Proxor.Platform.parseCidr`, `Proxor.Platform.privateNetworkCidr`,
  `Proxor.Platform.privateAttachedNetworks`.
* `Proxor.Platform.privateRanges`, `Proxor.Platform.Ignored` — where a network lies.
* `Proxor.Platform.Listed` — what a list of networks promises.

## Main results

* `Proxor.Platform.parseCidr_cidrText` — the text of a network is read back.
* `Proxor.Platform.mem_privateAttachedNetworks` — the entries.
* `Proxor.Platform.inPrivateRange_iff` — when a network is private.
* `Proxor.Platform.listed_iff` — the promise is kept exactly if no interface has a shorter prefix than its
  private range.
-/

namespace Proxor.Platform

open Text Cidr

/-! ### The code -/

/-- `Ipv4Net`. -/
structure Ipv4Net where
  address : Address := 0
  prefixLen : ℤ := 0
deriving DecidableEq

/-- `Mask`. -/
def maskOf (prefixLen : ℤ) : Address :=
  if prefixLen ≤ 0 then 0
  else if 32 ≤ prefixLen then 0xFFFFFFFF
  else 0xFFFFFFFF <<< (32 - prefixLen).toNat

/-- `IsRfc1918`. -/
def isRfc1918 (a : Address) : Bool := a >>> 24 == 10 || a >>> 20 == 0xAC1 || a >>> 16 == 0xC0A8

/-- A number in a text. -/
def numberText (a : Address) : String := toString (a.toNat : ℤ)

/-- `Dotted`. -/
def dotted (a : Address) : String :=
  numberText (a >>> 24) ++ "." ++ numberText ((a >>> 16) &&& 255) ++ "." ++
    numberText ((a >>> 8) &&& 255) ++ "." ++ numberText (a &&& 255)

/-- `QString::toInt` with its flag. -/
def readInt (s : String) : Option ℤ := (atoi (trimSpace s)).filter fun n => -2 ^ 31 ≤ n ∧ n < 2 ^ 31

/-- The loop of `ParseCidr` over the octets. -/
def parseOctets : (value : Address) → List String → Option Address
  | value, [] => some value
  | value, o :: octets =>
    match readInt o with
    | none => none
    | some v =>
      if v < 0 ∨ 255 < v then none else parseOctets ((value <<< 8) ||| BitVec.ofInt 32 v) octets

/-- `ParseCidr`: the start and the prefix. -/
def parseCidr (cidr : String) : Option (Address × ℤ) :=
  match splitAt cidr '/' with
  | [address, bits] =>
    match readInt bits with
    | none => none
    | some p =>
      let octets := splitAt address '.'
      if p < 0 ∨ 32 < p ∨ octets.length ≠ 4 then none
      else (parseOctets 0 octets).map fun value => (value &&& maskOf p, p)
  | _ => none

/-- `PrivateNetworkCidr`. -/
def privateNetworkCidr (net : Ipv4Net) : String :=
  if net.prefixLen < 1 ∨ 32 < net.prefixLen ∨ isRfc1918 net.address = false then ""
  else dotted (net.address &&& maskOf net.prefixLen) ++ "/" ++ toString net.prefixLen

/-- The network lies inside one that is ignored. -/
def skipped (ignored : List String) (start : Address) (prefixLen : ℤ) : Bool :=
  ignored.any fun ig =>
    match parseCidr ig with
    | none => false
    | some (igStart, igPrefix) => igPrefix ≤ prefixLen && start &&& maskOf igPrefix == igStart

/-- The loop of `PrivateAttachedNetworks`. -/
def attachedLoop (ignored : List String) : (result : List String) → List Ipv4Net → List String
  | result, [] => result
  | result, net :: interfaces =>
    let cidr := privateNetworkCidr net
    if cidr = "" then attachedLoop ignored result interfaces
    else
      let (start, prefixLen) := (parseCidr cidr).getD (0, 0)
      if skipped ignored start prefixLen = false ∧ cidr ∉ result then
        attachedLoop ignored (result ++ [cidr]) interfaces
      else attachedLoop ignored result interfaces

/-- `PrivateAttachedNetworks`. -/
def privateAttachedNetworks (interfaces : List Ipv4Net) (ignored : List String) : List String :=
  (attachedLoop ignored [] interfaces).mergeSort fun a b => decide (a ≤ b)

/-! ### Masks and texts -/

lemma maskOf_eq {p : ℕ} (h : p ≤ 32) : maskOf (p : ℤ) = mask p := by
  rw [maskOf, mask]
  rcases Nat.eq_zero_or_pos p with rfl | hpos
  · rfl
  · rw [if_neg (by omega)]
    rcases Nat.eq_or_lt_of_le h with rfl | hlt
    · rfl
    · rw [if_neg (by omega)]
      have hshift : (32 - (p : ℤ)).toNat = 32 - p := by omega
      rw [hshift]
      rfl

/-- The text of a network. -/
def cidrText (start : Address) (p : ℕ) : String := dotted start ++ "/" ++ toString (p : ℤ)

/-- A number that fits is read back. -/
lemma readInt_toString {n : ℕ} (h : n < 2 ^ 31) : readInt (toString (n : ℤ)) = some (n : ℤ) := by
  rw [readInt, trimSpace_eq_self fun c hc => isSpace_of_mem_toString hc, atoi_toString (by omega)]
  exact Option.filter_some_pos (by rw [decide_eq_true_eq]; omega)

lemma not_mem_toString {c : Char} (hdigit : c.isDigit = false) (hsign : c ≠ '-') (n : ℤ) :
    c ∉ (toString n).toList := by
  intro h
  rcases isDigit_or_of_mem_toString h with h | h
  · rw [hdigit] at h
    exact absurd h Bool.false_ne_true
  · exact hsign h

/-- The parts of two parts. -/
lemma splitAt_append {s t : String} {sep : String} {c : Char} (hsep : sep.toList = [c])
    (h : c ∉ s.toList) : splitAt (s ++ (sep ++ t)) c = s :: splitAt t c := by
  rw [Text.splitAt, String.toList_append, String.toList_append, hsep, List.singleton_append,
    List.splitOn_append_cons_self_of_not_mem h, List.map_cons, String.ofList_toList]
  rfl

lemma splitAt_of_not_mem {s : String} {c : Char} (h : c ∉ s.toList) : splitAt s c = [s] := by
  rw [Text.splitAt, List.splitOn_eq_singleton h, List.map_singleton, String.ofList_toList]

/-- The four octets. -/
lemma splitAt_dotted (a : Address) :
    splitAt (dotted a) '.' =
      [numberText (a >>> 24), numberText ((a >>> 16) &&& 255), numberText ((a >>> 8) &&& 255),
        numberText (a &&& 255)] := by
  have hdot : ∀ b, '.' ∉ (numberText b).toList := fun b => not_mem_toString (by decide) (by decide) _
  have hassoc : dotted a = numberText (a >>> 24) ++ ("." ++ (numberText ((a >>> 16) &&& 255) ++
      ("." ++ (numberText ((a >>> 8) &&& 255) ++ ("." ++ numberText (a &&& 255)))))) := by
    rw [dotted]
    simp only [String.append_assoc]
  rw [hassoc, splitAt_append rfl (hdot _), splitAt_append rfl (hdot _), splitAt_append rfl (hdot _),
    splitAt_of_not_mem (hdot _)]

/-- One octet is read back. -/
lemma parseOctets_cons {value b : Address} (hb : b.toNat ≤ 255) (octets : List String) :
    parseOctets value (numberText b :: octets) = parseOctets ((value <<< 8) ||| b) octets := by
  have hread : readInt (numberText b) = some (b.toNat : ℤ) := readInt_toString (by omega)
  have hval : BitVec.ofInt 32 (b.toNat : ℤ) = b := by
    rw [BitVec.ofInt_natCast, BitVec.ofNat_toNat, BitVec.setWidth_eq]
  rw [parseOctets, hread]
  dsimp only
  rw [if_neg (by omega), hval]

/-- A word is its upper part and its last octet. -/
lemma shift_or_last (y : Address) : ((y >>> 8) <<< 8) ||| (y &&& 255) = y := by
  have hlast : ∀ i, (h : i < 32) → (255 : Address)[i] = decide (i < 8) := by decide
  ext i hi
  rw [BitVec.getElem_or, BitVec.getElem_and, hlast i hi, BitVec.getElem_shiftLeft]
  by_cases hlow : i < 8
  · simp [hlow]
  · have hadd : 8 + (i - 8) = i := by omega
    simp [hlow, hadd, BitVec.getLsbD_eq_getElem hi]

lemma toNat_and_le (y : Address) : (y &&& 255).toNat ≤ 255 := by
  rw [BitVec.toNat_and]
  exact Nat.and_le_right

/-- **An address is read back.** -/
lemma parseOctets_dotted (a : Address) : parseOctets 0 (splitAt (dotted a) '.') = some a := by
  have hfirst : (a >>> 24).toNat ≤ 255 := by
    rw [BitVec.toNat_ushiftRight, Nat.shiftRight_eq_div_pow]
    have := a.isLt
    omega
  have hzero : ((0 : Address) <<< 8) ||| (a >>> 24) = a >>> 24 := BitVec.zero_or
  have h24 : a >>> 24 = (a >>> 16) >>> 8 := BitVec.shiftRight_add a 16 8
  have h16 : a >>> 16 = (a >>> 8) >>> 8 := BitVec.shiftRight_add a 8 8
  rw [splitAt_dotted, parseOctets_cons hfirst, parseOctets_cons (toNat_and_le _),
    parseOctets_cons (toNat_and_le _), parseOctets_cons (toNat_and_le _), hzero, h24, shift_or_last, h16,
    shift_or_last, shift_or_last]
  rfl

/-- **The text of a network is read back.** -/
theorem parseCidr_cidrText {start : Address} {p : ℕ} (hp : p ≤ 32) (hstart : start &&& mask p = start) :
    parseCidr (cidrText start p) = some (start, (p : ℤ)) := by
  have hnot : ∀ b, '/' ∉ (numberText b).toList := fun b => not_mem_toString (by decide) (by decide) _
  have hslash : '/' ∉ (dotted start).toList := by
    rw [dotted]
    simp only [String.toList_append, List.mem_append]
    rintro ((((((h | h) | h) | h) | h) | h) | h)
    · exact hnot _ h
    · exact absurd h (by decide)
    · exact hnot _ h
    · exact absurd h (by decide)
    · exact hnot _ h
    · exact absurd h (by decide)
    · exact hnot _ h
  have hsplit : splitAt (cidrText start p) '/' = [dotted start, toString (p : ℤ)] := by
    rw [cidrText, String.append_assoc, splitAt_append rfl hslash,
      splitAt_of_not_mem (not_mem_toString (by decide) (by decide) _)]
  have hlength : (splitAt (dotted start) '.').length = 4 := by rw [splitAt_dotted]; rfl
  rw [parseCidr, hsplit]
  dsimp only
  rw [readInt_toString (by omega)]
  dsimp only
  rw [if_neg (by rw [hlength]; omega), parseOctets_dotted, Option.map_some, maskOf_eq hp, hstart]

/-! ### Private networks -/

/-- The private ranges: 10.0.0.0/8, 172.16.0.0/12 and 192.168.0.0/16. -/
def privateRanges : List (Address × ℕ) := [(0x0A000000, 8), (0xAC100000, 12), (0xC0A80000, 16)]

/-- A network that lies in a private range. -/
def InPrivateRange (start : Address) (p : ℕ) : Prop :=
  ∃ r ∈ privateRanges, network start p ⊆ network r.1 r.2

/-- What the shift of an address says about its first bits. -/
lemma and_mask_eq_iff (a start : Address) {p : ℕ} (hstart : start &&& mask p = start) :
    a &&& mask p = start ↔ a >>> (32 - p) = start >>> (32 - p) := by
  constructor
  · rintro h
    apply BitVec.eq_of_toNat_eq
    rw [← h, BitVec.toNat_ushiftRight, BitVec.toNat_ushiftRight, toNat_and_mask,
      Nat.shiftRight_eq_div_pow, Nat.shiftRight_eq_div_pow, Nat.mul_div_cancel _ (Nat.two_pow_pos _)]
  · intro h
    have hval := congrArg BitVec.toNat h
    rw [BitVec.toNat_ushiftRight, BitVec.toNat_ushiftRight, Nat.shiftRight_eq_div_pow,
      Nat.shiftRight_eq_div_pow] at hval
    apply BitVec.eq_of_toNat_eq
    rw [toNat_and_mask, hval, ← toNat_and_mask, hstart]

/-- An address is private if it is in a private range. -/
lemma isRfc1918_iff (a : Address) :
    isRfc1918 a = true ↔ ∃ r ∈ privateRanges, a &&& mask r.2 = r.1 := by
  have h8 := and_mask_eq_iff a 0x0A000000 (p := 8) (by decide)
  have h12 := and_mask_eq_iff a 0xAC100000 (p := 12) (by decide)
  have h16 := and_mask_eq_iff a 0xC0A80000 (p := 16) (by decide)
  simp only [privateRanges, List.mem_cons, List.not_mem_nil, or_false, exists_eq_or_imp,
    exists_eq_left]
  rw [h8, h12, h16, isRfc1918, Bool.or_eq_true, Bool.or_eq_true, beq_iff_eq, beq_iff_eq, beq_iff_eq,
    or_assoc]
  rfl

/-- An address is in one private range at most. -/
lemma eq_of_mem_privateRanges {a : Address} {r r' : Address × ℕ} (hr : r ∈ privateRanges)
    (hr' : r' ∈ privateRanges) (h : a &&& mask r.2 = r.1) (h' : a &&& mask r'.2 = r'.1) : r = r' := by
  have hapart : ∀ r ∈ privateRanges, ∀ r' ∈ privateRanges, r'.2 ≤ r.2 → r.1 &&& mask r'.2 = r'.1 →
      r = r' := by decide
  rcases Nat.le_total r'.2 r.2 with hle | hle
  · exact hapart r hr r' hr' hle (by rw [← h, and_mask_and_mask a hle, h'])
  · exact (hapart r' hr' r hr hle (by rw [← h', and_mask_and_mask a hle, h])).symm

/-- The prefix of the interface is not shorter than that of the private range of its address. -/
def Narrow (net : Ipv4Net) : Prop :=
  ∀ r ∈ privateRanges, net.address &&& mask r.2 = r.1 → (r.2 : ℤ) ≤ net.prefixLen

instance (net : Ipv4Net) : Decidable (Narrow net) := by unfold Narrow; infer_instance

/-- **When a network is private**: its address is, and it is not wider than the range of the address. -/
theorem inPrivateRange_iff {a : Address} {p : ℕ} (ha : isRfc1918 a = true) :
    InPrivateRange (a &&& mask p) p ↔ Narrow ⟨a, p⟩ := by
  obtain ⟨r, hr, hmem⟩ := (isRfc1918_iff a).1 ha
  have hle : ∀ r ∈ privateRanges, r.2 ≤ 32 := by decide
  constructor
  · rintro ⟨r', hr', hsubset⟩ r hr hmem
    obtain ⟨hp, hstart⟩ := (network_subset_iff (hle r' hr') (and_mask_self a p)).1 hsubset
    rw [and_mask_and_mask a hp] at hstart
    obtain rfl := eq_of_mem_privateRanges hr hr' hmem hstart
    exact Int.ofNat_le.2 hp
  · intro h
    have hp : r.2 ≤ p := Int.ofNat_le.1 (h r hr hmem)
    refine ⟨r, hr, (network_subset_iff (hle r hr) (and_mask_self a p)).2 ⟨hp, ?_⟩⟩
    rw [and_mask_and_mask a hp, hmem]

/-! ### Ignored ranges -/

/-- A network that lies in an ignored range. -/
def Ignored (ignored : List String) (start : Address) (p : ℕ) : Prop :=
  ∃ ig ∈ ignored, ∃ s q, parseCidr ig = some (s, q) ∧ network start p ⊆ network s q.toNat

/-- A range that is read has a prefix. -/
lemma bounds_of_parseCidr {cidr : String} {s : Address} {q : ℤ} (h : parseCidr cidr = some (s, q)) :
    0 ≤ q ∧ q ≤ 32 := by
  rw [parseCidr] at h
  split at h
  · split at h
    · exact absurd h (Option.some_ne_none _).symm
    · dsimp only at h
      split at h
      · exact absurd h (Option.some_ne_none _).symm
      · next hbounds =>
        obtain ⟨value, -, heq⟩ := Option.map_eq_some_iff.1 h
        obtain ⟨-, rfl⟩ := Prod.mk.inj heq
        exact ⟨by omega, by omega⟩
  · exact absurd h (Option.some_ne_none _).symm

/-- **The check** finds out whether the network lies in an ignored range. -/
lemma skipped_iff {ignored : List String} {start : Address} {p : ℕ} (hstart : start &&& mask p = start) :
    skipped ignored start p = true ↔ Ignored ignored start p := by
  rw [skipped, List.any_eq_true]
  constructor
  · rintro ⟨ig, hig, h⟩
    cases hparse : parseCidr ig with
    | none =>
      rw [hparse] at h
      exact absurd h Bool.false_ne_true
    | some range =>
      obtain ⟨s, q⟩ := range
      rw [hparse] at h
      obtain ⟨hle, heq⟩ := Bool.and_eq_true_iff.1 h
      obtain ⟨hnonneg, hq⟩ := bounds_of_parseCidr hparse
      obtain ⟨n, rfl⟩ := Int.eq_ofNat_of_zero_le hnonneg
      rw [maskOf_eq (by omega), beq_iff_eq] at heq
      refine ⟨ig, hig, s, _, hparse, ?_⟩
      rw [Int.toNat_natCast, network_subset_iff (by omega) hstart]
      exact ⟨Int.ofNat_le.1 (of_decide_eq_true hle), heq⟩
  · rintro ⟨ig, hig, s, q, hparse, hsubset⟩
    obtain ⟨hnonneg, hq⟩ := bounds_of_parseCidr hparse
    obtain ⟨n, rfl⟩ := Int.eq_ofNat_of_zero_le hnonneg
    rw [Int.toNat_natCast, network_subset_iff (by omega) hstart] at hsubset
    refine ⟨ig, hig, ?_⟩
    rw [hparse]
    dsimp only
    rw [maskOf_eq (by omega), hsubset.2, beq_self_eq_true, Bool.and_true]
    exact decide_eq_true (Int.ofNat_le.2 hsubset.1)

/-! ### The entries -/

/-- The interface has a private address and a prefix. -/
def Attached (net : Ipv4Net) : Prop := 1 ≤ net.prefixLen ∧ net.prefixLen ≤ 32 ∧ isRfc1918 net.address = true

instance (net : Ipv4Net) : Decidable (Attached net) := by unfold Attached; infer_instance

/-- The start of the network of an interface. -/
def netStart (net : Ipv4Net) : Address := net.address &&& mask net.prefixLen.toNat

/-- The entry of the network of an interface. -/
def netEntry (net : Ipv4Net) : String := cidrText (netStart net) net.prefixLen.toNat

lemma netEntry_ne (net : Ipv4Net) : netEntry net ≠ "" := by
  intro h
  have hmem : '/' ∈ (netEntry net).toList := by
    rw [netEntry, cidrText, String.toList_append, String.toList_append]
    exact List.mem_append_left _ (List.mem_append_right _ List.mem_cons_self)
  rw [h] at hmem
  exact absurd hmem List.not_mem_nil

/-- The text of an interface. -/
lemma privateNetworkCidr_eq (net : Ipv4Net) :
    privateNetworkCidr net = if Attached net then netEntry net else "" := by
  rw [privateNetworkCidr]
  by_cases h : Attached net
  · obtain ⟨hlow, hhigh, hprivate⟩ := h
    have hnot : ¬ (net.prefixLen < 1 ∨ 32 < net.prefixLen ∨ isRfc1918 net.address = false) := by
      rintro (h | h | h)
      · omega
      · omega
      · exact absurd (hprivate.symm.trans h) (by decide)
    obtain ⟨n, hn⟩ := Int.eq_ofNat_of_zero_le (show 0 ≤ net.prefixLen by omega)
    rw [if_neg hnot, if_pos ⟨hlow, hhigh, hprivate⟩, netEntry, netStart, cidrText, hn, Int.toNat_natCast,
      maskOf_eq (by omega)]
  · rw [if_neg h, if_pos]
    by_contra hnot
    push Not at hnot
    exact h ⟨hnot.1, hnot.2.1, by simpa using hnot.2.2⟩

/-- The entry of an interface is read back. -/
lemma parseCidr_netEntry {net : Ipv4Net} (h : Attached net) :
    parseCidr (netEntry net) = some (netStart net, net.prefixLen) := by
  obtain ⟨n, hn⟩ := Int.eq_ofNat_of_zero_le (show 0 ≤ net.prefixLen by have := h.1; omega)
  have hle := h.2.1
  have hstart : netStart net &&& mask net.prefixLen.toNat = netStart net := and_mask_self _ _
  rw [netEntry, parseCidr_cidrText (by omega) hstart, hn, Int.toNat_natCast]

/-- An interface whose network is listed. -/
def KeptLocal (ignored : List String) (net : Ipv4Net) : Prop :=
  Attached net ∧ ¬ Ignored ignored (netStart net) net.prefixLen.toNat

lemma skipped_netStart (ignored : List String) {net : Ipv4Net} (h : Attached net) :
    skipped ignored (netStart net) net.prefixLen = false ↔
      ¬ Ignored ignored (netStart net) net.prefixLen.toNat := by
  have hcast : ((net.prefixLen.toNat : ℕ) : ℤ) = net.prefixLen := Int.toNat_of_nonneg (by
    have := h.1
    omega)
  have hstart : netStart net &&& mask net.prefixLen.toNat = netStart net := and_mask_self _ _
  rw [← skipped_iff hstart, hcast, Bool.not_eq_true]

/-- The entries of the loop, each of them once.

**Proof sketch.** Induction on the interfaces, with the entries so far generalised. -/
lemma attachedLoop_spec (ignored : List String) {result : List String} (hresult : result.Nodup)
    (interfaces : List Ipv4Net) :
    (attachedLoop ignored result interfaces).Nodup ∧
      ∀ x, x ∈ attachedLoop ignored result interfaces ↔
        x ∈ result ∨ ∃ net ∈ interfaces, KeptLocal ignored net ∧ x = netEntry net := by
  induction interfaces generalizing result with
  | nil => exact ⟨hresult, fun x => ⟨Or.inl, fun h => h.resolve_right (by
      rintro ⟨net, hnet, -⟩
      exact absurd hnet List.not_mem_nil)⟩⟩
  | cons net interfaces ih =>
    -- An interface that gives nothing new.
    have hsame : (∀ x, KeptLocal ignored net ∧ x = netEntry net → x ∈ result) →
        (attachedLoop ignored result interfaces).Nodup ∧
          ∀ x, x ∈ attachedLoop ignored result interfaces ↔
            x ∈ result ∨ ∃ net' ∈ net :: interfaces, KeptLocal ignored net' ∧ x = netEntry net' := by
      intro hnew
      obtain ⟨hnodup, hmem⟩ := ih hresult
      refine ⟨hnodup, fun x => ?_⟩
      rw [hmem x, List.exists_mem_cons_iff, ← or_assoc, or_iff_left_of_imp (hnew x)]
    rw [attachedLoop, privateNetworkCidr_eq]
    dsimp only
    by_cases hattached : Attached net
    · rw [if_pos hattached, if_neg (netEntry_ne net), parseCidr_netEntry hattached, Option.getD_some]
      dsimp only
      have hskipped := skipped_netStart ignored hattached
      split
      · next hnew =>
        have hnodup : (result ++ [netEntry net]).Nodup :=
          List.nodup_append.2 ⟨hresult, List.pairwise_singleton _ _, by
            rintro a ha b hb rfl
            exact hnew.2 (List.mem_singleton.1 hb ▸ ha)⟩
        obtain ⟨hnodup', hmem⟩ := ih hnodup
        refine ⟨hnodup', fun x => ?_⟩
        rw [hmem x, List.exists_mem_cons_iff, List.mem_append, List.mem_singleton, or_assoc,
          and_iff_right (show KeptLocal ignored net from ⟨hattached, hskipped.1 hnew.1⟩)]
      · next hold =>
        refine hsame fun x hx => ?_
        by_contra hmem
        exact hold ⟨hskipped.2 hx.1.2, hx.2 ▸ hmem⟩
    · rw [if_neg hattached, if_pos rfl]
      exact hsame fun x hx => absurd hx.1.1 hattached

/-- **The entries**: the networks of the interfaces that are private and not ignored. -/
theorem mem_privateAttachedNetworks {interfaces : List Ipv4Net} {ignored : List String} {x : String} :
    x ∈ privateAttachedNetworks interfaces ignored ↔
      ∃ net ∈ interfaces, KeptLocal ignored net ∧ x = netEntry net := by
  rw [privateAttachedNetworks, List.mem_mergeSort,
    (attachedLoop_spec ignored List.nodup_nil interfaces).2 x]
  exact or_iff_right List.not_mem_nil

lemma nodup_privateAttachedNetworks (interfaces : List Ipv4Net) (ignored : List String) :
    (privateAttachedNetworks interfaces ignored).Nodup :=
  (List.mergeSort_perm _ _).nodup_iff.2 (attachedLoop_spec ignored List.nodup_nil interfaces).1

/-! ### What the list promises -/

/-- What a list of networks promises: canonical texts of private networks, none of them twice and none
inside an ignored range, and the network of every interface that is private and not ignored. -/
structure Listed (interfaces : List Ipv4Net) (ignored list : List String) : Prop where
  canonical : ∀ x ∈ list, ∃ start p, p ≤ 32 ∧ start &&& mask p = start ∧ x = cidrText start p ∧
    parseCidr x = some (start, (p : ℤ))
  inside : ∀ x ∈ list, ∀ start p, parseCidr x = some (start, p) → InPrivateRange start p.toNat
  nodup : list.Nodup
  covered : ∀ a p, ⟨a, (p : ℕ)⟩ ∈ interfaces → p ≤ 32 → isRfc1918 a = true →
    InPrivateRange (a &&& mask p) p → ¬ Ignored ignored (a &&& mask p) p →
    cidrText (a &&& mask p) p ∈ list
  notIgnored : ∀ x ∈ list, ∀ start p, parseCidr x = some (start, p) → ¬ Ignored ignored start p.toNat

/-- **Local networks.** The list keeps its promise exactly if every interface whose network is listed has a
prefix that is not shorter than that of its private range.

**Proof sketch.** The entries are the networks of the interfaces with a private address that are not
ignored. Only whether these lie in a private range depends on the prefix. -/
theorem listed_iff (interfaces : List Ipv4Net) (ignored : List String) :
    Listed interfaces ignored (privateAttachedNetworks interfaces ignored) ↔
      ∀ net ∈ interfaces, 1 ≤ net.prefixLen → net.prefixLen ≤ 32 → isRfc1918 net.address = true →
        ¬ Ignored ignored (net.address &&& mask net.prefixLen.toNat) net.prefixLen.toNat →
        ∀ r ∈ privateRanges, net.address &&& mask r.2 = r.1 → (r.2 : ℤ) ≤ net.prefixLen := by
  constructor
  · rintro h net hnet hlow hhigh hprivate hignored
    have hattached : Attached net := ⟨hlow, hhigh, hprivate⟩
    have hmem := mem_privateAttachedNetworks.2 ⟨net, hnet, ⟨hattached, hignored⟩, rfl⟩
    have hinside := h.inside _ hmem _ _ (parseCidr_netEntry hattached)
    have hnarrow := (inPrivateRange_iff hprivate).1 hinside
    rintro r hr hmem
    exact (hnarrow r hr hmem).trans_eq (Int.toNat_of_nonneg (by omega))
  · intro h
    refine ⟨?_, ?_, nodup_privateAttachedNetworks interfaces ignored, ?_, ?_⟩
    · rintro x hx
      obtain ⟨net, -, hkept, rfl⟩ := mem_privateAttachedNetworks.1 hx
      obtain ⟨hlow, hhigh, -⟩ := hkept.1
      refine ⟨netStart net, net.prefixLen.toNat, by omega, and_mask_self _ _, rfl, ?_⟩
      rw [parseCidr_netEntry hkept.1, Int.toNat_of_nonneg (by omega)]
    · rintro x hx start p hparse
      obtain ⟨net, hnet, hkept, rfl⟩ := mem_privateAttachedNetworks.1 hx
      obtain ⟨hlow, hhigh, hprivate⟩ := hkept.1
      rw [parseCidr_netEntry hkept.1] at hparse
      obtain ⟨rfl, rfl⟩ := Prod.mk.inj (Option.some.inj hparse)
      refine (inPrivateRange_iff hprivate).2 fun r hr hmem => ?_
      exact (h net hnet hlow hhigh hprivate hkept.2 r hr hmem).trans_eq
        (Int.toNat_of_nonneg (by omega)).symm
    · rintro a p hnet hp hprivate hinside hignored
      obtain ⟨r, hr, hmem⟩ := (isRfc1918_iff a).1 hprivate
      have hpos : ∀ r ∈ privateRanges, 1 ≤ r.2 := by decide
      have hnarrow := (inPrivateRange_iff hprivate).1 hinside r hr hmem
      have hlow : (1 : ℤ) ≤ p := (Int.ofNat_le.2 (hpos r hr)).trans hnarrow
      exact mem_privateAttachedNetworks.2
        ⟨⟨a, p⟩, hnet, ⟨⟨hlow, Int.ofNat_le.2 hp, hprivate⟩, hignored⟩, rfl⟩
    · rintro x hx start p hparse
      obtain ⟨net, -, hkept, rfl⟩ := mem_privateAttachedNetworks.1 hx
      rw [parseCidr_netEntry hkept.1] at hparse
      obtain ⟨rfl, rfl⟩ := Prod.mk.inj (Option.some.inj hparse)
      exact hkept.2

/-- **Wider than private.** An interface with a private address and a prefix of one bit has half of all
addresses kept out of the tunnel. -/
theorem not_listed : ¬ ∀ interfaces ignored,
    Listed interfaces ignored (privateAttachedNetworks interfaces ignored) := by
  intro hall
  have h := hall [⟨0x0A000001, 1⟩] []
  have hmem : "0.0.0.0/1" ∈ privateAttachedNetworks [⟨0x0A000001, 1⟩] [] := by decide +kernel
  have hinside := h.inside _ hmem 0 1 (by decide +kernel)
  obtain ⟨r, hr, hsubset⟩ := hinside
  have hle : ∀ r ∈ privateRanges, r.2 ≤ 32 ∧ ¬ r.2 ≤ 1 := by decide
  exact (hle r hr).2 ((network_subset_iff (hle r hr).1 (by decide)).1 hsubset).1

end Proxor.Platform
