import Proxor.Fmt.BeanRestart
import Proxor.Fmt.ShareLink
import Proxor.Lib.JsonText
import Proxor.Sub.LinkList

set_option relaxedAutoImplicit false
set_option autoImplicit false

/-!
# The program's own links

A profile is shared as a link whose host is its type and whose fragment encodes all that is stored of its bean. What is
read of it is the bean as it comes back after a restart.

## Main definitions

* `Proxor.Sub.toProxorShareLink` — the link of a profile.
* `Proxor.Sub.SameFields` — two objects with the same values, in whatever order.
* `Proxor.Sub.Printed` — an object that is found again in its text.

## Main results

* `Proxor.Sub.parsed_toProxorShareLink` — what a shared profile is read as.

## Design

The printer and the parser of JSON texts are a parameter; the result assumes of them that they find the object of the
bean again. URLs are read by their generic syntax.
-/

namespace Proxor

/-! ### Objects in another order -/

namespace Sub

/-- The same values, and in the objects that are values the same values again. -/
def SameFields (o o' : JsonObject) : Prop :=
  ∀ key, o'.get? key = o.get? key ∨ ∃ fields fields', o.get? key = some (.obj fields) ∧
    o'.get? key = some (.obj fields') ∧ ∀ k, JsonObject.get? fields' k = JsonObject.get? fields k

section Congruence

open Fmt

variable {o o' : JsonObject} (h : SameFields o o') (name : String)

include h

/-- What does not look into objects reads the same of either. -/
lemma SameFields.reads :
    (∀ s, readString o' name s = readString o name s) ∧ (∀ n, readInteger o' name n = readInteger o name n) ∧
      (∀ n, readInteger64 o' name n = readInteger64 o name n) ∧
        (∀ b, readBoolean o' name b = readBoolean o name b) ∧
          (∀ l, readStringList o' name l = readStringList o name l) ∧
            ∀ l, readIntegerList o' name l = readIntegerList o name l := by
  unfold readString readInteger readInteger64 readBoolean readStringList readIntegerList
  rcases h name with heq | ⟨fields, fields', hfields, hfields', _⟩
  · simp [heq]
  · simp [hfields, hfields']

/-- The stream settings are an object in the object. -/
lemma SameFields.stream (b : V2rayStreamSettings) :
    b.fromJson (readObject o' name) = b.fromJson (readObject o name) := by
  have hsame : ∀ k, (readObject o' name).get? k = (readObject o name).get? k := by
    intro k
    rw [readObject, readObject]
    rcases h name with heq | ⟨_, _, hobj, hobj', hfields⟩
    · rw [heq]
    · rw [hobj, hobj']
      exact hfields k
  simp [V2rayStreamSettings.fromJson, readString, readInteger, readBoolean, hsame]

/-- **The order of the fields** does not matter for what is read of them. -/
lemma SameFields.fromJson (bean : Bean) : bean.fromJson o' = bean.fromJson o := by
  cases bean
  all_goals simp [Bean.fromJson, AbstractBean.fromJson, SocksHttpBean.fromJson, ShadowSocksBean.fromJson,
    ChainBean.fromJson, VMessBean.fromJson, TrojanVLESSBean.fromJson, NaiveBean.fromJson, QUICBean.fromJson,
    CustomBean.fromJson, h.reads, h.stream]

end Congruence

/-! ### The link -/

open Fmt

/-- `toBase64` for URLs. -/
def toBase64Url (s : String) : String := fromUtf8 (Base64.encode true (toUtf8 s))

/-- `ToProxorShareLink`. No character of the type and of the encoding is escaped in a URL. -/
def toProxorShareLink [Qt] (type : String) (b : Bean) : String :=
  "proxor://" ++ type ++ "#" ++ toBase64Url (Qt.objectText b.toJson true)

/-- The text of an object begins with a brace, and the object is found in it. -/
structure Printed [Qt] (o : JsonObject) : Prop where
  brace : ∃ rest, (Qt.objectText o true).toList = '{' :: rest
  parsed : SameFields o (Qt.parseObject (Qt.objectText o true))

/-- The bytes of an encoding are ASCII. -/
lemma lt_of_mem_encode {bs : Bytes} {b : UInt8} (hb : b ∈ Base64.encode true bs) : b.toNat < 128 :=
  Base64.lt_of_isDigit (Base64.isDigit_of_decode (Base64.decode_encode true bs) hb)

/-- ASCII bytes do not begin with the mark. -/
lemma not_byteOrderMark {bs : Bytes} (h : ∀ b ∈ bs, b.toNat < 128) : byteOrderMark.isPrefixOf bs = false := by
  cases bs with
  | nil => rfl
  | cons b bs =>
    have hb := h b List.mem_cons_self
    have hne : (0xEF : UInt8) ≠ b := by
      intro heq
      rw [← heq] at hb
      exact absurd hb (by decide)
    rw [byteOrderMark, List.isPrefixOf, beq_false_of_ne hne, Bool.false_and]

/-- The encoding as a text has a character for each byte. -/
lemma toList_toBase64Url (s : String) :
    (toBase64Url s).toList = (Base64.encode true (toUtf8 s)).map fun b => Char.ofNat b.toNat := by
  have hascii : ∀ b ∈ Base64.encode true (toUtf8 s), b.toNat < 128 := fun b => lt_of_mem_encode
  rw [toBase64Url, fromUtf8, not_byteOrderMark hascii]
  show (String.ofList (Utf8.decode (Base64.encode true (toUtf8 s)))).toList = _
  rw [String.toList_ofList]
  conv_lhs => rw [← Utf8.encode_map_ofNat hascii]
  exact Utf8.decode_encode _

/-- The bytes are found again. -/
lemma decodeB64IfValid_toBase64Url (s : String) : decodeB64IfValid (toBase64Url s) true = toUtf8 s := by
  have hbytes : toUtf8 (toBase64Url s) = Base64.encode true (toUtf8 s) := by
    rw [toUtf8, toList_toBase64Url]
    exact Utf8.encode_map_ofNat fun b hb => lt_of_mem_encode hb
  rw [decodeB64IfValid, hbytes, Base64.decode_encode]
  rfl

/-- A character that is no blank and no sign of a URL. -/
def plainChar (c : Char) : Bool := !Text.isSpace c && !(['\n', '#', '?', ':', '/', '@', '%'].contains c)

/-- The encoding has only plain characters. -/
lemma plainChar_toBase64Url {s : String} {c : Char} (hc : c ∈ (toBase64Url s).toList) : plainChar c = true := by
  rw [toList_toBase64Url] at hc
  obtain ⟨b, hb, rfl⟩ := List.mem_map.1 hc
  have hall : ∀ n < 128, (Base64.digit true (UInt8.ofNat n)).isSome = true ∨ UInt8.ofNat n = 61 →
      plainChar (Char.ofNat n) = true := by decide +kernel
  refine hall b.toNat (lt_of_mem_encode hb) ?_
  rw [UInt8.ofNat_toNat]
  exact Base64.isDigit_of_decode (Base64.decode_encode true (toUtf8 s)) hb

/-- What ends in a sign that comes once is not longer than what is before that sign. -/
lemma not_infix_of_length {c : Char} {front rest sub : List Char} (hrest : c ∉ rest)
    (hlength : front.length < sub.length) : ¬(sub ++ [c]) <:+: front ++ c :: rest := by
  intro hinfix
  obtain ⟨before, after, heq⟩ := hinfix
  have hat : (front ++ c :: rest)[(before ++ sub).length]? = some c := by
    rw [← heq]
    simp
  have hpast : front.length < (before ++ sub).length := by
    rw [List.length_append]
    omega
  rw [List.getElem?_append_right hpast.le] at hat
  obtain ⟨n, hn⟩ := Nat.exists_eq_add_of_lt hpast
  have hshift : (before ++ sub).length - front.length = n + 1 := by omega
  rw [hshift, List.getElem?_cons_succ] at hat
  exact hrest (List.mem_of_getElem? hat)

/-- The type of a profile has only plain characters. -/
lemma plainChar_type (b : Bean) {c : Char} (hc : c ∈ b.type.toList) : plainChar c = true := by
  have hall : ∀ type ∈ ["socks", "http", "shadowsocks", "chain", "vmess", "trojan", "vless", "naive", "hysteria2",
      "tuic", "custom"], type.toList.all plainChar = true := by decide +kernel
  have htype := hall b.type (by cases b <;> simp [Bean.type])
  exact List.all_eq_true.1 htype c hc

section Link

variable [Qt] (b : Bean)

/-- The characters of the link. -/
lemma toList_toProxorShareLink : (toProxorShareLink b.type b).toList =
    "proxor".toList ++ ':' :: '/' :: '/' ::
      (b.type.toList ++ '#' :: (toBase64Url (Qt.objectText b.toJson true)).toList) := by
  rw [toProxorShareLink, String.toList_append, String.toList_append, String.toList_append, List.append_assoc,
    List.append_assoc]
  rfl

/-- What comes behind the colon of the link. -/
lemma mem_toProxorShareLink {c : Char} (hc : c ∈ '/' :: '/' :: (b.type.toList ++
    '#' :: (toBase64Url (Qt.objectText b.toJson true)).toList)) : c = '/' ∨ c = '#' ∨ plainChar c = true := by
  rw [List.mem_cons, List.mem_cons, List.mem_append, List.mem_cons] at hc
  rcases hc with h | h | h | h | h
  · exact Or.inl h
  · exact Or.inl h
  · exact Or.inr (Or.inr (plainChar_type b h))
  · exact Or.inr (Or.inl h)
  · exact Or.inr (Or.inr (plainChar_toBase64Url h))

/-- The link has no blank and no line break. -/
lemma toProxorShareLink_line : Text.trimSpace (toProxorShareLink b.type b) = toProxorShareLink b.type b ∧
    '\n' ∉ (toProxorShareLink b.type b).toList := by
  have hspace : ∀ c ∈ (toProxorShareLink b.type b).toList, Text.isSpace c = false := by
    intro c hc
    rw [toList_toProxorShareLink, List.mem_append, List.mem_cons] at hc
    rcases hc with h | h | h
    · have hall : "proxor".toList.all (fun c => !Text.isSpace c) = true := by decide +kernel
      simpa using List.all_eq_true.1 hall c h
    · rw [h]
      decide +kernel
    · rcases mem_toProxorShareLink b h with h | h | h
      · rw [h]
        decide +kernel
      · rw [h]
        decide +kernel
      · simpa using (Bool.and_eq_true_iff.1 h).1
  refine ⟨Text.trimSpace_eq_self hspace, fun hmem => ?_⟩
  exact absurd (hspace _ hmem) (by decide +kernel)

/-- The link has not the mark of a Clash document. -/
lemma toProxorShareLink_clash : Text.contains (toProxorShareLink b.type b) "proxies:" = false := by
  refine Bool.eq_false_iff.2 fun hcontains => ?_
  have hinfix := Text.contains_iff.1 hcontains
  rw [toList_toProxorShareLink] at hinfix
  refine @not_infix_of_length ':' _ _ "proxies".toList ?_ (by decide +kernel) hinfix
  intro hmem
  rcases mem_toProxorShareLink b hmem with h | h | h
  · exact absurd h (by decide)
  · exact absurd h (by decide)
  · exact absurd h (by decide +kernel)

/-- A sign of a URL is not plain. -/
lemma notMem_of_plainChar {cs : List Char} (h : ∀ c ∈ cs, plainChar c = true) {c : Char}
    (hc : c ∈ ['\n', '#', '?', ':', '/', '@', '%']) : c ∉ cs := by
  intro hmem
  have hplain := (Bool.and_eq_true_iff.1 (h c hmem)).2
  rw [List.contains_iff_mem.2 hc] at hplain
  exact Bool.false_ne_true hplain

/-- **The parts of the link**: its host is the type, and its fragment the encoding. -/
lemma genericParts_toProxorShareLink : genericParts (toProxorShareLink b.type b) =
    { scheme := "proxor", host := b.type, fragment := toBase64Url (Qt.objectText b.toJson true)
      fragmentFullyDecoded := toBase64Url (Qt.objectText b.toJson true) } := by
  have hparse : Uri.parse (toProxorShareLink b.type b).toList = some
      { scheme := "proxor".toList, host := b.type.toList
        fragment := some (toBase64Url (Qt.objectText b.toJson true)).toList } := by
    rw [toList_toProxorShareLink]
    refine Uri.parse_host_fragment (scheme_of_all (by decide +kernel)) (fun c hc => ?_) ?_
    · refine notMem_of_plainChar (fun _ => plainChar_type b) ?_
      simp only [List.mem_cons, List.not_mem_nil, or_false] at hc ⊢
      tauto
    · exact notMem_of_plainChar (fun _ => plainChar_toBase64Url) (by simp)
  rw [genericParts, hparse]
  simp only [Option.getD_some, Option.getD_none, String.ofList_toList]
  rfl

/-- **The link of a profile** says what the profile is after a restart. -/
lemma parseLink_toProxorShareLink (hprint : Printed b.toJson) (utlsFingerprint : String) :
    @parseLink _ genericUrl utlsFingerprint (toProxorShareLink b.type b) = some ⟨b.type, b.reload⟩ := by
  obtain ⟨rest, hbrace⟩ := hprint.brace
  have hown : Text.hasPrefix (toProxorShareLink b.type b) "proxor://" = true := by
    have hstart : "proxor://".toList = "proxor".toList ++ [':', '/', '/'] := by decide +kernel
    rw [Text.hasPrefix, toList_toProxorShareLink, List.isPrefixOf_iff_prefix, hstart]
    exact ⟨_, List.append_assoc _ _ _⟩
  obtain ⟨fresh, hfresh, -, -⟩ := b.readBack
  have hrestart := b.restart_eq_reload
  rw [Bean.restart, hfresh, Option.map_some] at hrestart
  have hbytes : toUtf8 (Qt.objectText b.toJson true) ≠ [] := by
    rw [toUtf8, hbrace]
    exact List.cons_ne_nil _ _
  have hmark : byteOrderMark.isPrefixOf (toUtf8 (Qt.objectText b.toJson true)) = false := by
    rw [toUtf8, hbrace]
    rfl
  have htext : fromUtf8 (toUtf8 (Qt.objectText b.toJson true)) = Qt.objectText b.toJson true := by
    rw [fromUtf8, hmark]
    show String.ofList (Utf8.decode (Utf8.encode _)) = _
    rw [Utf8.decode_encode, String.ofList_toList]
  have hvalid : Utf8.valid (toUtf8 (Qt.objectText b.toJson true)) = true := Utf8.valid_iff.2 ⟨_, rfl⟩
  have hparts : @QtUrl.url genericUrl (toProxorShareLink b.type b) = _ := genericParts_toProxorShareLink b
  unfold parseLink
  rw [if_pos hown]
  unfold parseProxorLink
  rw [hparts]
  dsimp only
  rw [if_neg (by decide), hfresh]
  dsimp only
  rw [decodeB64IfValid_toBase64Url, if_neg hbytes, jsonObjectOfBytes, if_pos hvalid, htext,
    hprint.parsed.fromJson, Option.some.inj hrestart]

/-- Read from a line of its own. -/
lemma isLink_toProxorShareLink (hprint : Printed b.toJson) (utlsFingerprint : String) :
    @IsLink _ genericUrl utlsFingerprint (toProxorShareLink b.type b) ⟨b.type, b.reload⟩ := by
  obtain ⟨htrimmed, hline⟩ := toProxorShareLink_line b
  refine @IsLink.mk _ genericUrl _ _ _ ⟨"proxor", b.type ++ "#" ++ toBase64Url (Qt.objectText b.toJson true), ?_, ?_⟩
    hline htrimmed (parseLink_toProxorShareLink b hprint utlsFingerprint)
  · have hstart : "proxor://" = "proxor" ++ "://" := by decide +kernel
    rw [toProxorShareLink, hstart]
    simp only [String.append_assoc]
  · exact Or.inl List.mem_cons_self

end Link

/-- **Sharing profiles.** A list of profiles that is shared as links of the program's own, and read again as a body, in
lines or encoded, adds one profile for each of them, in their order and of its type, and its bean is the one that a
restart leaves: exactly those profiles come back as they were that a restart leaves as they are.

**Proof sketch.** The link of a profile has one colon, so it is no encoding and has not the mark of a Clash document;
what is encoded in it is the text of all the registered fields, which are read into a fresh bean of the type. -/
theorem update_shared [Qt] (hjson : LettersAreNoObjects) {beans : List Bean} (hne : beans ≠ [])
    (hprint : ∀ b ∈ beans, Printed b.toJson) (utlsFingerprint : String) (clash : String → List (Node Bean))
    (u : RawUpdater Bean) :
    (@linkReader _ genericUrl utlsFingerprint clash).update u
        (Text.joinLines (beans.map fun b => toProxorShareLink b.type b)) =
      (beans.map fun b => (⟨b.type, b.reload⟩ : Parsed Bean)).foldl RawUpdater.add u ∧
    (@linkReader _ genericUrl utlsFingerprint clash).update u
        (base64Text (Text.joinLines (beans.map fun b => toProxorShareLink b.type b))) =
      (beans.map fun b => (⟨b.type, b.reload⟩ : Parsed Bean)).foldl RawUpdater.add u ∧
    (beans.map (fun b => (⟨b.type, b.reload⟩ : Parsed Bean)) = beans.map (fun b => ⟨b.type, b⟩) ↔
      ∀ b ∈ beans, b.restart = some b) := by
  let _ := genericUrl
  have hlinks : List.Forall₂ (IsLink utlsFingerprint) (beans.map fun b => toProxorShareLink b.type b)
      (beans.map fun b => (⟨b.type, b.reload⟩ : Parsed Bean)) := by
    rw [List.forall₂_map_left_iff, List.forall₂_map_right_iff, List.forall₂_same]
    exact fun b hb => isLink_toProxorShareLink b (hprint b hb) utlsFingerprint
  have hclash : ∀ link ∈ beans.map (fun b => toProxorShareLink b.type b), Text.contains link "proxies:" = false := by
    intro link hlink
    obtain ⟨b, -, rfl⟩ := List.mem_map.1 hlink
    exact toProxorShareLink_clash b
  have hnil : beans.map (fun b => toProxorShareLink b.type b) ≠ [] := by simpa using hne
  have hletter : StartsWithLetter (Text.joinLines (beans.map fun b => toProxorShareLink b.type b)) := by
    refine joinLines_startsWithLetter hnil fun link hlink => ?_
    exact (isLink_of_mem hlinks hlink).choose_spec.scheme.letter
  have hparsed : (linkReader utlsFingerprint clash).parsed
      (Text.joinLines (beans.map fun b => toProxorShareLink b.type b)) = beans.map fun b => ⟨b.type, b.reload⟩ :=
    parsed_of_links hjson hnil hlinks hclash
  refine ⟨?_, ?_, ?_⟩
  · rw [Reader.update_eq, hparsed]
  · rw [Reader.update_eq, parsed_base64Text hletter, hparsed]
  · rw [List.map_inj_left]
    refine forall₂_congr fun b _ => ?_
    rw [b.restart_eq_reload, Option.some.injEq, Parsed.mk.injEq]
    exact ⟨fun h => h.2, fun h => ⟨rfl, h⟩⟩

/-! ### A printer and its parser -/

/-- JSON as texts. An object begins with a brace. -/
abbrev textQt : Qt where
  parseObject s :=
    match s.toList with
    | '\x7b' :: rest => match JsonText.parse ('\x7b' :: rest) with
      | some (.obj o) => o
      | _ => []
    | _ => []
  parseArray _ := []
  objectText o compact := String.ofList (JsonText.writeValue compact 0 (.obj o))
  isIpAddressV4 s := s == "127.0.0.1"
  isIpAddressV6 _ := false
  url _ := {}
  urlText _ _ _ _ _ := ""
  toLower s := s

/-- Every object is found again in its text. -/
lemma printed_textQt (o : JsonObject) : @Printed textQt o := by
  have hparse : JsonText.parse (JsonText.writeValue true 0 (.obj o)) = some (.obj o) := by
    refine JsonText.parse_tokens ?_ (JsonText.exec_tokens true 0 (.obj o) rfl)
    have hended := @JsonText.ended_tokens true 0 (.obj o) [] rfl
    rw [List.append_nil] at hended
    exact hended
  obtain ⟨rest, hrest⟩ : ∃ rest, JsonText.writeValue true 0 (.obj o) = '\x7b' :: rest := by
    rw [JsonText.writeValue, JsonText.tokens, JsonText.writeTokens, List.flatMap_cons]
    exact ⟨_, rfl⟩
  have htext : (String.ofList (JsonText.writeValue true 0 (.obj o))).toList = '\x7b' :: rest := by
    rw [String.toList_ofList, hrest]
  refine @Printed.mk textQt o ⟨rest, htext⟩ fun key => Or.inl ?_
  have hobject : @Qt.parseObject textQt (String.ofList (JsonText.writeValue true 0 (.obj o))) = o := by
    show (match (String.ofList (JsonText.writeValue true 0 (.obj o))).toList with
      | '\x7b' :: rest => match JsonText.parse ('\x7b' :: rest) with
        | some (.obj o) => o
        | _ => []
      | _ => []) = o
    rw [hrest] at hparse
    rw [htext]
    show (match JsonText.parse ('\x7b' :: rest) with
      | some (.obj o) => o
      | _ => []) = o
    rw [hparse]
  exact congrArg (fun o => JsonObject.get? o key) hobject

/-- Two profiles, the security of one of which was cleared. -/
def sharedBeans : List Bean := [.vmess { uuid := "u", security := "" }, .chain { list := [1, 2] }]

/-- Two profiles are shared. -/
theorem update_shared_two :
    let _ : Qt := textQt
    let _ : QtUrl := genericUrl
    LettersAreNoObjects ∧ ∀ u : RawUpdater Bean,
      (linkReader "" noClash).update u (Text.joinLines (sharedBeans.map fun b => toProxorShareLink b.type b)) =
        (sharedBeans.map fun b => (⟨b.type, b.reload⟩ : Parsed Bean)).foldl RawUpdater.add u := by
  intro qt qtUrl
  have hletters : LettersAreNoObjects := by
    intro text hletter
    obtain ⟨c, cs, hcs, halpha⟩ := hletter
    have hbrace : c ≠ '\x7b' := by
      intro heq
      rw [heq] at halpha
      exact absurd halpha (by decide)
    show (match text.toList with
      | '\x7b' :: rest => match JsonText.parse ('\x7b' :: rest) with
        | some (.obj o) => o
        | _ => []
      | _ => []) = []
    rw [hcs]
    split
    · next heq => exact absurd (List.cons.inj heq).1 hbrace
    · rfl
  refine ⟨hletters, fun u => ?_⟩
  exact (update_shared hletters (by simp [sharedBeans]) (fun b _ => printed_textQt b.toJson) "" noClash u).1

end Sub

end Proxor
