import Proxor.Fmt.BeanFromJson
import Proxor.Fmt.Bean2Link
import Proxor.Lib.UriText

set_option relaxedAutoImplicit false
set_option autoImplicit false

/-!
# Links and what is read of them

A URL that was put together is read part by part as it was. What links have in common is stated here: the name,
which is decoded once more than it was encoded, and the address.

## Main definitions

* `Proxor.Fmt.LinkUrl.read` — the parts of a URL that was put together.
* `Proxor.Fmt.AbstractBean.Located` — a bean with a host name and a port.
* `Proxor.Fmt.Plain` — a text in which no percent sign stands before two digits.
* `Proxor.Fmt.SameServer` — two beans with the same name and address.

## Main results

* `Proxor.Fmt.parseUrlWithUnicodeFragment_text` — the parts are found again.
* `Proxor.Fmt.decodePercentEncodedText_eq_self_iff` — the names that are found again.
-/

namespace Proxor.Fmt

/-! ### Addresses -/

/-- A host name. -/
structure IsHostName (host : String) : Prop where
  ne : host ≠ ""
  letters : ∀ c ∈ host.toList, c.isAlphanum = true ∨ c ∈ ['-', '.', '_']

/-- The bean has a host name and a port. -/
structure AbstractBean.Located (b : AbstractBean) : Prop where
  host : IsHostName b.serverAddress
  port : 1 ≤ b.serverPort ∧ b.serverPort ≤ 65535

/-- The name and the address are the same. -/
structure SameServer (b b' : AbstractBean) : Prop where
  name : b'.name = b.name
  serverAddress : b'.serverAddress = b.serverAddress
  serverPort : b'.serverPort = b.serverPort

/-- A sign that ends a host is not in a host name. -/
lemma IsHostName.notMem {host : String} (h : IsHostName host) {c : Char} (hc : c ∈ ['#', '?', '/', '@', ':']) :
    c ∉ host.toList := by
  intro hmem
  simp only [List.mem_cons, List.not_mem_nil, or_false] at hc
  rcases h.letters c hmem with hletter | hletter
  · rcases hc with rfl | rfl | rfl | rfl | rfl
    · exact absurd hletter (by decide)
    · exact absurd hletter (by decide)
    · exact absurd hletter (by decide)
    · exact absurd hletter (by decide)
    · exact absurd hletter (by decide)
  · rcases hc with rfl | rfl | rfl | rfl | rfl
    · exact absurd hletter (by decide)
    · exact absurd hletter (by decide)
    · exact absurd hletter (by decide)
    · exact absurd hletter (by decide)
    · exact absurd hletter (by decide)

/-! ### Reading a link -/

/-- A URL with a scheme and a host name. -/
structure LinkUrl.Proper (url : LinkUrl) : Prop where
  scheme : ∀ c ∈ ['#', '?', ':'], c ∉ url.scheme.toList
  host : IsHostName url.host

/-- A host name by its letters. -/
lemma isHostName_of_all {host : String} (hne : host ≠ "")
    (h : host.toList.all (fun c => c.isAlphanum || ['-', '.', '_'].contains c) = true) : IsHostName host := by
  refine ⟨hne, fun c hc => ?_⟩
  have hletter := List.all_eq_true.1 h c hc
  rw [Bool.or_eq_true] at hletter
  exact hletter.imp_right List.contains_iff_mem.1

/-- A scheme by the signs that it does not have. -/
lemma scheme_of_all {scheme : String} (h : ['#', '?', ':'].all (fun c => !scheme.toList.contains c) = true) :
    ∀ c ∈ ['#', '?', ':'], c ∉ scheme.toList := by
  intro c hc hmem
  have hnot := List.all_eq_true.1 h c hc
  rw [List.contains_iff_mem.2 hmem] at hnot
  exact Bool.false_ne_true hnot

/-- The parts of the URL. -/
def LinkUrl.read (url : LinkUrl) : QUrl where
  scheme := url.scheme
  userName := url.userName
  password := url.password.getD ""
  host := url.host
  port? := setPort url.port
  query := String.ofList (Uri.queryText (queryItems (url.query.getD [])))
  queryFullyDecoded := String.ofList (Uri.plainText (queryItems (url.query.getD [])))
  fragment := url.fragment.getD ""
  fragmentFullyDecoded := url.fragment.getD ""

/-- What is encoded has no sign of a fragment. -/
lemma notMem_queryText (items : List (List Char × List Char)) : '#' ∉ Uri.queryText items := by
  have hpieces : ∀ item : List Char × List Char, '#' ∉ Uri.encode item.1 ++ '=' :: Uri.encode item.2 := by
    intro item
    rw [List.mem_append, List.mem_cons, not_or, not_or]
    exact ⟨Uri.notMem_encode (by decide) _, by decide, Uri.notMem_encode (by decide) _⟩
  rw [Uri.queryText]
  induction items with
  | nil => exact List.not_mem_nil
  | cons item items ih =>
    cases items with
    | nil => simpa using hpieces item
    | cons item' items =>
      rw [List.map_cons, List.map_cons, List.intercalate_cons_cons, List.mem_append, List.mem_append, not_or, not_or]
      exact ⟨⟨hpieces item, by decide⟩, ih⟩

namespace LinkUrl

variable {url : LinkUrl}

lemma Proper.wellFormed (h : url.Proper) : url.uri.WellFormed where
  scheme := h.scheme
  host _ hc := h.host.notMem hc
  query q hq := by
    obtain ⟨items, -, rfl⟩ := Option.map_eq_some_iff.1 hq
    exact notMem_queryText _

lemma ofList_getD_map (text : Option String) :
    String.ofList ((text.map String.toList).getD []) = text.getD "" := by
  cases text with
  | none => rfl
  | some text => exact String.ofList_toList

/-- The parts of a URL are found again. -/
lemma genericParts_text (h : url.Proper) : genericParts url.text = url.read := by
  have hquery : ((url.query.map fun items => Uri.queryText (queryItems items)).getD []) =
      Uri.queryText (queryItems (url.query.getD [])) := by
    cases url.query with
    | none => rfl
    | some items => rfl
  rw [genericParts, text, String.toList_ofList, Uri.parse_toText h.wellFormed]
  dsimp only [uri, read]
  rw [hquery, Uri.decode_queryText, ofList_getD_map, ofList_getD_map, String.ofList_toList, String.ofList_toList,
    String.ofList_toList]

/-- The port of a URL. -/
lemma port_read (h : 1 ≤ url.port ∧ url.port ≤ 65535) : url.read.port = url.port := by
  have hport : setPort url.port = some ⟨url.port.toNat, by omega⟩ := dif_pos (by omega)
  rw [QUrl.port, read]
  dsimp only
  rw [hport]
  dsimp only
  omega

end LinkUrl

/-! ### Names -/

/-- No percent sign stands before two digits. -/
def Plain (s : String) : Prop := Uri.literal s.toList = true

instance (s : String) : Decidable (Plain s) := inferInstanceAs (Decidable (_ = _))

/-- What is decoded, whether there is a percent sign or not. -/
lemma decodePercentEncodedText_eq (s : String) :
    @decodePercentEncodedText genericUrl s = String.ofList (Uri.decode s.toList) := by
  unfold decodePercentEncodedText
  split_ifs with h
  · have hnot : '%' ∉ s.toList := by
      intro hmem
      have hcontains : Text.contains s "%" = true :=
        Text.contains_iff.2 ((List.singleton_infix_iff _ _).2 hmem)
      rw [hcontains] at h
      exact absurd h (by decide)
    rw [Uri.decode_of_literal (Uri.literal_of_notMem hnot), String.ofList_toList]
  · rfl

/-- **Names** are found again if they have no escapes. -/
theorem decodePercentEncodedText_eq_self_iff {s : String} :
    @decodePercentEncodedText genericUrl s = s ↔ Plain s := by
  rw [decodePercentEncodedText_eq, ← String.toList_inj, String.toList_ofList, Uri.decode_eq_self_iff]
  rfl

/-- What is found again of the name and the address is the name. -/
lemma sameServer_iff {b b' : AbstractBean} (hname : b'.name = @decodePercentEncodedText genericUrl b.name)
    (haddress : b'.serverAddress = b.serverAddress) (hport : b'.serverPort = b.serverPort) :
    SameServer b b' ↔ Plain b.name := by
  rw [← decodePercentEncodedText_eq_self_iff, ← hname]
  exact ⟨fun h => h.name, fun h => ⟨h, haddress, hport⟩⟩

/-- **Links** are read as they were put together. The fragment is decoded and encoded again before that. -/
theorem parseUrlWithUnicodeFragment_text {url : LinkUrl} (h : url.Proper) :
    @parseUrlWithUnicodeFragment genericUrl url.text = url.read := by
  rw [← LinkUrl.genericParts_text h]
  have hhash := Uri.hash_notMem_front h.wellFormed
  have htext := Uri.toText_eq url.uri
  unfold parseUrlWithUnicodeFragment
  cases hfragment : url.uri.fragment with
  | none =>
    rw [hfragment, Option.map_none, Uri.part, List.append_nil] at htext
    have hcut : Text.cut url.text "#" = none := by
      rw [← Option.not_isSome_iff_eq_none]
      change ¬Text.contains url.text "#" = true
      have hlist : url.text.toList = url.uri.front := by
        rw [LinkUrl.text, htext]
        exact String.toList_ofList
      rw [Text.contains_iff, hlist]
      exact fun hin => hhash (hin.subset List.mem_cons_self)
    rw [hcut]
    rfl
  | some fragment =>
    rw [hfragment] at htext
    have hcut : Text.cut url.text "#" =
        some (String.ofList url.uri.front, String.ofList (Uri.encode fragment)) := by
      have hlist : url.text.toList = url.uri.front ++ ['#'] ++ Uri.encode fragment := by
        rw [LinkUrl.text, htext, String.toList_ofList, List.append_assoc]
        rfl
      rw [Text.cut, hlist, show ("#" : String).toList = ['#'] from rfl, Text.cutFirst_append hhash]
      rfl
    have hagain : String.ofList url.uri.front ++ "#" ++ @QtUrl.toPercentEncoding genericUrl
        (@decodePercentEncodedText genericUrl (String.ofList (Uri.encode fragment))) = url.text := by
      have hname : @decodePercentEncodedText genericUrl (String.ofList (Uri.encode fragment)) =
          String.ofList fragment := by
        rw [decodePercentEncodedText_eq, String.toList_ofList, Uri.decode_encode]
      have hencode : @QtUrl.toPercentEncoding genericUrl (String.ofList fragment) =
          String.ofList (Uri.encode fragment) :=
        congrArg (fun cs => String.ofList (Uri.encode cs)) String.toList_ofList
      have hpart : Uri.part '#' ((some fragment).map Uri.encode) = ['#'] ++ Uri.encode fragment := rfl
      rw [hname, hencode, LinkUrl.text, htext, hpart, String.ofList_append, String.ofList_append, String.append_assoc]
    rw [hcut]
    exact congrArg genericParts hagain

/-! ### Queries -/

/-- The value of the first item with the key, if there is one. -/
def lookup? (items : List (String × String)) (key : String) : Option String :=
  (items.find? fun item => item.1 = key).map Prod.snd

@[simp] lemma lookup?_nil (key : String) : lookup? [] key = none := rfl

@[simp] lemma lookup?_cons (k v : String) (items : List (String × String)) (key : String) :
    lookup? ((k, v) :: items) key = if k = key then some v else lookup? items key := by
  rw [lookup?, List.find?_cons]
  by_cases h : k = key
  · rw [decide_eq_true h, if_pos h]
    rfl
  · rw [decide_eq_false h, if_neg h]
    rfl

@[simp] lemma lookup?_append (items items' : List (String × String)) (key : String) :
    lookup? (items ++ items') key = (lookup? items key).or (lookup? items' key) := by
  rw [lookup?, List.find?_append, lookup?, lookup?]
  cases items.find? fun item => item.1 = key <;> rfl

@[simp] lemma lookup?_optionalItem (k v key : String) :
    lookup? (optionalItem k v) key = if k = key then nonEmpty v else none := by
  unfold optionalItem nonEmpty
  split_ifs <;> simp_all

@[simp] lemma lookup?_flagItem (k : String) (set : Bool) (key : String) :
    lookup? (flagItem k set) key = if k = key ∧ set = true then some "1" else none := by
  unfold flagItem
  split_ifs <;> simp_all

@[simp] lemma getD_nonEmpty (v : String) : (nonEmpty v).getD "" = v := by
  unfold nonEmpty
  split_ifs with h
  · exact h.symm
  · rfl

/-- The items of a query, by characters. -/
lemma lookup_queryItems (items : List (String × String)) (key : String) :
    Uri.lookup (queryItems items) key.toList = ((lookup? items key).getD "").toList := by
  induction items with
  | nil => rfl
  | cons item items ih =>
    obtain ⟨k, v⟩ := item
    rw [lookup?_cons]
    rw [Uri.lookup] at ih ⊢
    rw [queryItems] at ih ⊢
    rw [List.map_cons, List.find?_cons]
    by_cases h : k = key
    · rw [if_pos h, decide_eq_true (congrArg String.toList h)]
      rfl
    · rw [if_neg h, decide_eq_false fun heq => h (String.toList_inj.1 heq)]
      exact ih

/-- **Queries** that are decoded item by item are read as they were put together. -/
theorem queryItemValue_queryText (items : List (String × String)) (key : String) :
    @QtUrl.queryItemValue genericUrl (String.ofList (Uri.queryText (queryItems items))) key =
      (lookup? items key).getD "" := by
  rw [← String.toList_inj, ← lookup_queryItems, ← Uri.queryValue_queryText]
  change (String.ofList (Uri.queryValue (String.ofList _).toList key.toList)).toList = _
  rw [String.toList_ofList, String.toList_ofList]

/-! ### Round trips -/

/-- A fresh bean of the type accepts the link of a bean, and has then what it should have of it. -/
def Bean.ReadBack [Qt] (old_share_link_format : Bool) (utlsFingerprint : String) (Restored : Bean → Bean → Prop)
    (bean : Bean) : Prop :=
  ∃ fresh link bean', newBean bean.type = some fresh ∧
    bean.toShareLink old_share_link_format utlsFingerprint = some link ∧
    @Bean.tryParseLink _ genericUrl utlsFingerprint fresh link = some bean' ∧ Restored bean bean'

/-- What is read of a link decides whether the bean is found again. -/
lemma Bean.readBack_iff [Qt] {old_share_link_format : Bool} {utlsFingerprint : String}
    {Restored : Bean → Bean → Prop} {bean fresh : Bean} {link : String} {α : Type} (wrap : α → Bean) {o : Option α}
    {a : α} (hnew : newBean bean.type = some fresh)
    (hlink : bean.toShareLink old_share_link_format utlsFingerprint = some link)
    (hparse : @Bean.tryParseLink _ genericUrl utlsFingerprint fresh link = o.map wrap) (ho : o = some a) :
    bean.ReadBack old_share_link_format utlsFingerprint Restored ↔ Restored bean (wrap a) := by
  have hread : @Bean.tryParseLink _ genericUrl utlsFingerprint fresh link = some (wrap a) := by
    rw [hparse, ho]
    rfl
  constructor
  · rintro ⟨fresh', link', bean'', hnew', hlink', hread', hrestored⟩
    obtain rfl := Option.some.inj (hnew.symm.trans hnew')
    obtain rfl := Option.some.inj (hlink.symm.trans hlink')
    rwa [Option.some.inj (hread.symm.trans hread')]
  · exact fun hrestored => ⟨fresh, link, wrap a, hnew, hlink, hread, hrestored⟩

end Proxor.Fmt
