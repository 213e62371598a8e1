import Proxor.Db.ExternalHop
import Proxor.Sub.LinkReader

set_option relaxedAutoImplicit false
set_option autoImplicit false

/-!
# Lists of links

A body that is a list of links, or the encoding of one, is read link by link, unless one of the links has
the mark of a Clash document in it.

## Main definitions

* `Proxor.Sub.KnownScheme`, `Proxor.Sub.IsLink` — the links, and what each says on its own.
* `Proxor.Sub.base64Text` — the encoding of a list.

## Main results

* `Proxor.Sub.linkReader_update_iff` — which lists are read link by link.
* `Proxor.Sub.not_linkReader_update` — not every list is.

## Design

What the framework reads from JSON and from Clash documents is a parameter. A text that begins with a letter
is no JSON object, and a Clash document has a line that is no link.
-/

namespace Proxor.Sub

open Db Fmt
open Text (hasPrefix)

/-! ### Links -/

/-- The schemes of links, but Naive's. -/
def knownSchemes : List String :=
  ["proxor", "socks5", "socks4", "socks4a", "socks", "http", "https", "ss", "vmess", "vless", "trojan",
    "hysteria2", "hy2", "tuic"]

/-- The link has a scheme that is known. -/
def KnownScheme (link : String) : Prop :=
  ∃ scheme rest, link = scheme ++ "://" ++ rest ∧ (scheme ∈ knownSchemes ∨ hasPrefix scheme "naive+" = true)

/-- A link on a line of its own, and what it says. -/
structure IsLink [Qt] [QtUrl] (utlsFingerprint : String) (link : String) (e : Parsed Bean) : Prop where
  scheme : KnownScheme link
  line : '\n' ∉ link.toList
  trimmed : Text.trimSpace link = link
  accepted : parseLink utlsFingerprint link = some e

/-- The encoding of a text. -/
def base64Text (text : String) : String :=
  String.ofList ((Base64.encode false (toUtf8 text)).map fun b => Char.ofNat b.toNat)

lemma KnownScheme.colon {link : String} (h : KnownScheme link) : ':' ∈ link.toList := by
  obtain ⟨scheme, rest, rfl, -⟩ := h
  rw [String.toList_append, String.toList_append]
  exact List.mem_append_left _ (List.mem_append_right _ List.mem_cons_self)

/-- A text that begins with a letter. -/
def StartsWithLetter (text : String) : Prop := ∃ c cs, text.toList = c :: cs ∧ c.isAlpha = true

lemma KnownScheme.letter {link : String} (h : KnownScheme link) : StartsWithLetter link := by
  obtain ⟨scheme, rest, rfl, hscheme⟩ := h
  have hletter : StartsWithLetter scheme := by
    rcases hscheme with hmem | hnaive
    · have hall : ∀ scheme ∈ knownSchemes, (scheme.toList.head?.map Char.isAlpha) = some true := by
        decide +kernel
      obtain ⟨c, hc, halpha⟩ := Option.map_eq_some_iff.1 (hall scheme hmem)
      obtain ⟨cs, hcs⟩ := List.head?_eq_some_iff.1 hc
      exact ⟨c, cs, hcs, halpha⟩
    · obtain ⟨cs, hcs⟩ := List.isPrefixOf_iff_prefix.1 hnaive
      exact ⟨'n', _, hcs.symm, rfl⟩
  obtain ⟨c, cs, hcs, halpha⟩ := hletter
  exact ⟨c, _, by rw [String.toList_append, String.toList_append, hcs]; rfl, halpha⟩

/-! ### Encodings -/

/-- A text with a colon is no encoding. -/
lemma decodeB64IfValid_of_colon {text : String} (h : ':' ∈ text.toList) (base64UrlEncoding : Bool) :
    decodeB64IfValid text base64UrlEncoding = [] := by
  rw [decodeB64IfValid]
  cases hdecode : Base64.decode base64UrlEncoding (toUtf8 text) with
  | none => rfl
  | some bs =>
    have hmem : 58 ∈ toUtf8 text := List.mem_flatMap.2 ⟨':', h, by decide⟩
    have hdigit := Base64.isDigit_of_decode hdecode hmem
    cases base64UrlEncoding <;> exact absurd hdigit (by decide)

lemma lt_of_isAlpha {c : Char} (h : c.isAlpha = true) : c.toNat < 128 := by
  have hletter : (c.isUpper || c.isLower) = true := h
  rcases Bool.or_eq_true_iff.1 hletter with hupper | hlower
  · have hle : c.val ≤ 90 := (of_decide_eq_true hupper : c.val ≥ 65 ∧ c.val ≤ 90).2
    exact (UInt32.le_iff_toNat_le.1 hle).trans_lt (by decide)
  · have hboth : (decide (c.val ≥ 97) && decide (c.val ≤ 122)) = true := hlower
    have hle : c.val ≤ 122 := of_decide_eq_true (Bool.and_eq_true_iff.1 hboth).2
    exact (UInt32.le_iff_toNat_le.1 hle).trans_lt (by decide)

/-- A text that begins with a letter has no mark before it. -/
lemma fromUtf8_toUtf8 {text : String} (h : StartsWithLetter text) : fromUtf8 (toUtf8 text) = text := by
  obtain ⟨c, cs, hcs, halpha⟩ := h
  have hascii := lt_of_isAlpha halpha
  have hmark : ¬ byteOrderMark.isPrefixOf (toUtf8 text) = true := by
    rw [toUtf8, hcs, Utf8.encode_cons, Utf8.encodeChar_of_ascii hascii, List.isPrefixOf_iff_prefix]
    intro hprefix
    have hhead := (List.cons_prefix_cons.1 hprefix).1
    have hbyte := congrArg UInt8.toNat hhead
    rw [UInt8.toNat_ofNat', Nat.mod_eq_of_lt (by omega)] at hbyte
    exact absurd hascii (hbyte ▸ by decide)
  rw [fromUtf8, if_neg hmark, toUtf8, Utf8.decode_encode, String.ofList_toList]

/-- An encoding is decoded. -/
lemma decode_base64Text (text : String) : decodeB64IfValid (base64Text text) false = toUtf8 text := by
  have hdecode := Base64.decode_encode false (toUtf8 text)
  have hascii : ∀ b ∈ Base64.encode false (toUtf8 text), b.toNat < 128 := fun b hb =>
    Base64.lt_of_isDigit (Base64.isDigit_of_decode hdecode hb)
  have hbytes : toUtf8 (base64Text text) = Base64.encode false (toUtf8 text) := by
    rw [toUtf8, base64Text, String.toList_ofList, Utf8.encode_map_ofNat hascii]
  rw [decodeB64IfValid, hbytes, hdecode]
  rfl

/-! ### Lists -/

lemma joinLines_startsWithLetter {links : List String} (hne : links ≠ [])
    (h : ∀ link ∈ links, StartsWithLetter link) : StartsWithLetter (Text.joinLines links) := by
  obtain ⟨link, rest, rfl⟩ := List.exists_cons_of_ne_nil hne
  obtain ⟨c, cs, hcs, halpha⟩ := h link List.mem_cons_self
  by_cases hrest : rest = []
  · subst hrest
    exact ⟨c, cs, by rw [Text.joinLines_singleton, hcs], halpha⟩
  · exact ⟨c, _, by rw [Text.toList_joinLines_cons link hrest, hcs]; rfl, halpha⟩

lemma joinLines_colon {links : List String} (hne : links ≠ []) (h : ∀ link ∈ links, ':' ∈ link.toList) :
    ':' ∈ (Text.joinLines links).toList := by
  obtain ⟨link, rest, rfl⟩ := List.exists_cons_of_ne_nil hne
  exact (Text.infix_joinLines List.mem_cons_self).subset (h link List.mem_cons_self)

/-- Adding something changes what was added. -/
lemma foldl_add_ne [Qt] {es : List (Parsed Bean)} {u : RawUpdater Bean} (hes : es ≠ []) : es.foldl RawUpdater.add u ≠ u := by
  have hlength : ∀ (es : List (Parsed Bean)) (u : RawUpdater Bean),
      (es.foldl RawUpdater.add u).updated_order.length = u.updated_order.length + es.length := by
    intro es
    induction es with
    | nil => exact fun u => rfl
    | cons e es ih =>
      intro u
      rw [List.foldl_cons, ih, RawUpdater.add, List.length_append, List.length_singleton, List.length_cons]
      omega
  intro heq
  have hlen := hlength es u
  rw [heq] at hlen
  have hpos := List.length_pos_of_ne_nil hes
  omega

section List

variable [Qt] [QtUrl]

/-- A text that begins with a letter is no JSON object. -/
def LettersAreNoObjects : Prop := ∀ text, StartsWithLetter text → Qt.parseObject text = []

/-- A text of links has no list of proxies for a Clash document. -/
def LinksAreNoClash (clash : String → List (Node Bean)) : Prop :=
  ∀ text, (∀ line ∈ Text.splitLines text, KnownScheme line) → parsedClash (clash text) = []

variable {utlsFingerprint : String} {clash : String → List (Node Bean)} {links : List String}
  {es : List (Parsed Bean)}

/-- A text with a colon that begins with a letter is plain, if it has not the mark of a Clash document. -/
lemma isPlain_linkReader (hjson : LettersAreNoObjects) {text : String} (hletter : StartsWithLetter text)
    (hcolon : ':' ∈ text.toList) (hclash : Text.contains text "proxies:" = false) :
    (linkReader utlsFingerprint clash).IsPlain text where
  decode := by
    change fromUtf8 (decodeB64IfValid text false) = ""
    rw [decodeB64IfValid_of_colon hcolon]
    rfl
  clash := hclash
  sip008 := by
    change updateSip008 text = none
    rw [updateSip008, hjson text hletter]
    rfl

lemma isLink_of_mem (h : List.Forall₂ (IsLink utlsFingerprint) links es) {link : String}
    (hlink : link ∈ links) : ∃ e, IsLink utlsFingerprint link e := by
  induction h with
  | nil => cases hlink
  | cons hhead _ ih =>
    rcases List.mem_cons.1 hlink with rfl | hlink
    · exact ⟨_, hhead⟩
    · exact ih hlink

lemma filterMap_link (h : List.Forall₂ (IsLink utlsFingerprint) links es) :
    links.filterMap (parseLink utlsFingerprint) = es := by
  induction h with
  | nil => rfl
  | cons hhead _ ih => rw [List.filterMap_cons_some hhead.accepted, ih]

/-- A list without the mark of a Clash document says what its links do. -/
lemma parsed_of_links (hjson : LettersAreNoObjects) (hne : links ≠ [])
    (h : List.Forall₂ (IsLink utlsFingerprint) links es)
    (hclash : ∀ link ∈ links, Text.contains link "proxies:" = false) :
    (linkReader utlsFingerprint clash).parsed (Text.joinLines links) = es := by
  have hlink : ∀ link ∈ links, KnownScheme link := fun link hlink => (isLink_of_mem h hlink).choose_spec.scheme
  have htext : Text.contains (Text.joinLines links) "proxies:" = false := by
    refine Bool.eq_false_iff.2 fun hcontains => ?_
    obtain ⟨link, hmem, hlink⟩ := (Text.contains_joinLines (by decide) (by decide)).1 hcontains
    exact Bool.false_ne_true ((hclash link hmem).symm.trans hlink)
  rw [Reader.parsed_joinLines hne
    (isPlain_linkReader hjson (joinLines_startsWithLetter hne fun l hl => (hlink l hl).letter)
      (joinLines_colon hne fun l hl => (hlink l hl).colon) htext)]
  · exact filterMap_link h
  · intro link hmem
    obtain ⟨e, he⟩ := isLink_of_mem h hmem
    exact ⟨isPlain_linkReader hjson he.scheme.letter he.scheme.colon (hclash link hmem), he.line, he.trimmed⟩

/-- A list with the mark of a Clash document is taken for one, and says nothing. -/
lemma parsed_of_proxies (hyaml : LinksAreNoClash clash) (hne : links ≠ [])
    (h : List.Forall₂ (IsLink utlsFingerprint) links es) {link : String} (hmem : link ∈ links)
    (hclash : Text.contains link "proxies:" = true) :
    (linkReader utlsFingerprint clash).parsed (Text.joinLines links) = [] := by
  have hline : ∀ link ∈ links, '\n' ∉ link.toList := fun link hlink => (isLink_of_mem h hlink).choose_spec.line
  have hscheme : ∀ line ∈ Text.splitLines (Text.joinLines links), KnownScheme line := by
    rw [Text.splitLines_joinLines hline hne]
    exact fun link hlink => (isLink_of_mem h hlink).choose_spec.scheme
  have hcolon : ':' ∈ (Text.joinLines links).toList :=
    joinLines_colon hne fun link hlink => (isLink_of_mem h hlink).choose_spec.scheme.colon
  have hdecode : (linkReader utlsFingerprint clash).decodeB64IfValid (Text.joinLines links) = "" := by
    change fromUtf8 (decodeB64IfValid (Text.joinLines links) false) = ""
    rw [decodeB64IfValid_of_colon hcolon]
    rfl
  rw [Reader.parsed, dif_neg fun hne => hne hdecode,
    if_pos ((Text.contains_joinLines (by decide) (by decide)).2 ⟨link, hmem, hclash⟩)]
  exact hyaml _ hscheme

/-- The encoding of a text says what the text does. -/
lemma parsed_base64Text {text : String} (hletter : StartsWithLetter text) :
    (linkReader utlsFingerprint clash).parsed (base64Text text) =
      (linkReader utlsFingerprint clash).parsed text := by
  have hdecode : (linkReader utlsFingerprint clash).decodeB64IfValid (base64Text text) = text := by
    change fromUtf8 (decodeB64IfValid (base64Text text) false) = text
    rw [decode_base64Text, fromUtf8_toUtf8 hletter]
  have hne : (linkReader utlsFingerprint clash).decodeB64IfValid (base64Text text) ≠ "" := by
    rw [hdecode]
    rintro rfl
    obtain ⟨c, cs, hcs, -⟩ := hletter
    exact absurd hcs (List.cons_ne_nil c cs).symm
  rw [Reader.parsed, dif_pos hne, hdecode]

/-- **Lists of links.** Reading comes to an end for every body. A list of links, and its encoding, adds one
profile for each link, in their order, as the link alone says it, exactly if no link has the mark of a
Clash document in it.

**Proof sketch.** A text with a colon is no encoding, and one that begins with a letter is no JSON object, so
without the mark the list is read line by line, and each line as a link. With it the whole list is taken for
a Clash document. -/
theorem linkReader_update_iff (hjson : LettersAreNoObjects) (hyaml : LinksAreNoClash clash) (hne : links ≠ [])
    (h : List.Forall₂ (IsLink utlsFingerprint) links es) (u : RawUpdater Bean) :
    (∀ str, (linkReader utlsFingerprint clash).Terminates str) ∧
      (((linkReader utlsFingerprint clash).update u (Text.joinLines links) = es.foldl RawUpdater.add u ∧
          (linkReader utlsFingerprint clash).update u (base64Text (Text.joinLines links)) =
            es.foldl RawUpdater.add u) ↔
        ∀ link ∈ links, Text.contains link "proxies:" = false) := by
  have hletter : StartsWithLetter (Text.joinLines links) :=
    joinLines_startsWithLetter hne fun link hlink => (isLink_of_mem h hlink).choose_spec.scheme.letter
  refine ⟨Reader.terminates _, ?_⟩
  rw [Reader.update_eq, Reader.update_eq, parsed_base64Text hletter, and_self_iff]
  constructor
  · intro hupdate link hlink
    by_contra hclash
    rw [parsed_of_proxies hyaml hne h hlink (Bool.eq_true_of_not_eq_false hclash), List.foldl_nil] at hupdate
    refine foldl_add_ne ?_ hupdate.symm
    rintro rfl
    exact hne (List.forall₂_nil_right_iff.1 h)
  · intro hclash
    rw [parsed_of_links hjson hne h hclash]

end List

/-! ### A framework for plain links -/

section Plain

/-- No text is a Clash document. -/
abbrev noClash : String → List (Node Bean) := fun _ => [.throws]

lemma lettersAreNoObjects_plainQt : @LettersAreNoObjects plainQt := fun _ _ => rfl

lemma linksAreNoClash_noClash : LinksAreNoClash noClash := fun _ _ => rfl

/-- What is accepted, with the other parts of a link. -/
lemma exists_isLink (link : String) (hscheme : KnownScheme link) (hline : '\n' ∉ link.toList)
    (htrimmed : Text.trimSpace link = link)
    (haccepted : (@parseLink plainQt genericUrl "" link).isSome = true) :
    ∃ e, @IsLink plainQt genericUrl "" link e := by
  obtain ⟨e, he⟩ := Option.isSome_iff_exists.1 haccepted
  exact ⟨e, @IsLink.mk plainQt genericUrl "" link e hscheme hline htrimmed he⟩

/-- Two links without the mark. -/
theorem linkReader_update_two :
    let _ : Qt := plainQt
    let _ : QtUrl := genericUrl
    ∃ e e', IsLink "" "hy2://p@a:1" e ∧ IsLink "" "tuic://u:p@b:2" e' ∧
      ∀ u : RawUpdater Bean,
        (linkReader "" noClash).update u (Text.joinLines ["hy2://p@a:1", "tuic://u:p@b:2"]) =
          [e, e'].foldl RawUpdater.add u := by
  intro qt qtUrl
  obtain ⟨e, he⟩ := exists_isLink "hy2://p@a:1" ⟨"hy2", "p@a:1", by decide +kernel, .inl (by decide)⟩
    (by decide +kernel) (by decide +kernel) (by decide +kernel)
  obtain ⟨e', he'⟩ := exists_isLink "tuic://u:p@b:2"
    ⟨"tuic", "u:p@b:2", by decide +kernel, .inl (by decide)⟩
    (by decide +kernel) (by decide +kernel) (by decide +kernel)
  refine ⟨e, e', he, he', fun u => ?_⟩
  refine ((linkReader_update_iff lettersAreNoObjects_plainQt linksAreNoClash_noClash (List.cons_ne_nil _ _)
    (.cons he (.cons he' .nil)) u).2.2 ?_).1
  exact List.forall_mem_cons.2 ⟨by decide +kernel, List.forall_mem_singleton.2 (by decide +kernel)⟩

/-- **Not every list is read link by link**: one with a name that looks like a Clash document adds nothing. -/
theorem not_linkReader_update : ¬ ∀ (_ : Qt) (_ : QtUrl) (utlsFingerprint : String)
    (clash : String → List (Node Bean)) (links : List String) (es : List (Parsed Bean)) (u : RawUpdater Bean),
    LettersAreNoObjects → LinksAreNoClash clash → links ≠ [] →
      List.Forall₂ (IsLink utlsFingerprint) links es →
      (linkReader utlsFingerprint clash).update u (Text.joinLines links) = es.foldl RawUpdater.add u := by
  intro h
  let qt := plainQt
  let qtUrl := genericUrl
  obtain ⟨e, he⟩ := exists_isLink "hy2://p@a:1#proxies:"
    ⟨"hy2", "p@a:1#proxies:", by decide +kernel, .inl (by decide)⟩
    (by decide +kernel) (by decide +kernel) (by decide +kernel)
  have hlinks : List.Forall₂ (IsLink "") ["hy2://p@a:1#proxies:"] [e] := .cons he .nil
  let u : RawUpdater Bean := ⟨0, { objects := fun _ => { type := "", bean := .chain {} } }, []⟩
  have hupdate := h qt qtUrl "" noClash _ _ u lettersAreNoObjects_plainQt linksAreNoClash_noClash
    (List.cons_ne_nil _ _) hlinks
  rw [Reader.update_eq, parsed_of_proxies linksAreNoClash_noClash (List.cons_ne_nil _ _) hlinks
    List.mem_cons_self (by decide +kernel)] at hupdate
  exact foldl_add_ne (List.cons_ne_nil _ _) hupdate.symm

end Plain

end Proxor.Sub
