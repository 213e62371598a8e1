import Proxor.Lib.Base64
import Proxor.Lib.Uri
import Proxor.Main.JsonStore
import Proxor.Main.Qt

set_option relaxedAutoImplicit false
set_option autoImplicit false

/-!
# URLs and what is encoded in them

The helpers with which links are read. What the framework makes of a URL is a parameter, and one instance
reads URLs by their generic syntax.

## Main definitions

* `Proxor.QUrl` — the parts of a URL.
* `Proxor.QtUrl` — the framework's parsers.
* `Proxor.genericUrl` — those for the generic syntax.
* `Proxor.decodeB64IfValid`, `Proxor.parseUrlWithUnicodeFragment`, `Proxor.getQueryValue` — the helpers.

## Main results

* `Proxor.length_decodeB64IfValid_lt` — what is decoded is shorter.
-/

namespace Proxor

/-! ### The framework -/

/-- The parts of a URL (`QUrl`). What is not there is empty. -/
structure QUrl where
  isValid : Bool := true
  scheme : String := ""
  userName : String := ""
  password : String := ""
  host : String := ""
  port? : Option (Fin 65536) := none
  /-- `query()`. -/
  query : String := ""
  /-- `query(QUrl::FullyDecoded)`. -/
  queryFullyDecoded : String := ""
  /-- `fragment()`. -/
  fragment : String := ""
  /-- `fragment(QUrl::FullyDecoded)`. -/
  fragmentFullyDecoded : String := ""

/-- `QUrl::port`: −1 for none. -/
def QUrl.port (url : QUrl) : ℤ :=
  match url.port? with
  | none => -1
  | some p => (p.val : ℤ)

/-- What the framework makes of URLs: `QUrl`, `QUrl::toPercentEncoding`, `QUrl::fromPercentEncoding`, and
`queryItemValue` of a `QUrlQuery`, with and without full decoding; and `toInt` of the variant of a value. -/
class QtUrl where
  url : String → QUrl
  toPercentEncoding : String → String
  fromPercentEncoding : String → String
  queryItemValue : (query key : String) → String
  queryItemValueFullyDecoded : (query key : String) → String
  toVariantToInt : Json → ℤ

/-- The mark that may stand before a text. -/
def byteOrderMark : Bytes := [0xEF, 0xBB, 0xBF]

/-- `QString::fromUtf8`. -/
def fromUtf8 (bs : Bytes) : String :=
  String.ofList (Utf8.decode (if byteOrderMark.isPrefixOf bs then bs.drop 3 else bs))

/-- `QString::toUtf8`. -/
def toUtf8 (s : String) : Bytes := Utf8.encode s.toList

/-! ### Helpers -/

/-- `DecodeB64IfValid`, with the alphabet for URLs or the standard one. -/
def decodeB64IfValid (input : String) (base64UrlEncoding : Bool) : Bytes :=
  (Base64.decode base64UrlEncoding (toUtf8 input)).getD []

section Helpers

variable [QtUrl]

/-- `DecodePercentEncodedText`. -/
def decodePercentEncodedText (text : String) : String :=
  if !Text.contains text "%" then text else QtUrl.fromPercentEncoding text

/-- `ParseUrlWithUnicodeFragment`. -/
def parseUrlWithUnicodeFragment (link : String) : QUrl :=
  match Text.cut link "#" with
  | none => QtUrl.url link
  | some (before, fragment) =>
    QtUrl.url (before ++ "#" ++ QtUrl.toPercentEncoding (decodePercentEncodedText fragment))

/-- `GetQueryValue`. -/
def getQueryValue (q key default : String) : String :=
  if QtUrl.queryItemValue q key = "" then default else QtUrl.queryItemValue q key

end Helpers

/-- `QString2QJsonObject` of bytes. -/
def qString2QJsonObject [Qt] (bytes : Bytes) : JsonObject := Qt.parseObject (fromUtf8 bytes)

/-- A text has no more characters than bytes. -/
lemma length_fromUtf8_le (bs : Bytes) : (fromUtf8 bs).length ≤ bs.length := by
  rw [fromUtf8, String.length_ofList]
  split_ifs
  · refine (Utf8.length_decode_le _).trans ?_
    rw [List.length_drop]
    exact Nat.sub_le _ _
  · exact Utf8.length_decode_le _

/-- What is decoded is shorter. -/
theorem length_decodeB64IfValid_lt {input : String} {base64UrlEncoding : Bool}
    (h : decodeB64IfValid input base64UrlEncoding ≠ []) :
    (fromUtf8 (decodeB64IfValid input base64UrlEncoding)).length < input.length := by
  refine (length_fromUtf8_le _).trans_lt ?_
  rw [decodeB64IfValid] at h ⊢
  cases hdecode : Base64.decode base64UrlEncoding (toUtf8 input) with
  | none => exact absurd (by rw [hdecode]; rfl) h
  | some bs =>
    rw [hdecode] at h
    have hascii : ∀ b ∈ Utf8.encode input.toList, b.toNat < 128 := fun b hb =>
      Base64.lt_of_isDigit (Base64.isDigit_of_decode hdecode hb)
    have hlength := Utf8.length_encode_of_ascii hascii
    have hlt := Base64.length_decode_lt hdecode h
    rwa [toUtf8, hlength, String.length_toList] at hlt

/-! ### The generic syntax -/

/-- The parts of a URL with an authority. A text of another form has none of them. -/
def genericParts (link : String) : QUrl :=
  match Uri.parse link.toList with
  | none => {}
  | some u =>
    { scheme := String.ofList u.scheme
      userName := String.ofList u.userName
      password := String.ofList (u.password.getD [])
      host := String.ofList u.host
      port? := u.port
      query := String.ofList (u.query.getD [])
      queryFullyDecoded := String.ofList (Uri.decode (u.query.getD []))
      fragment := String.ofList (u.fragment.getD [])
      fragmentFullyDecoded := String.ofList (u.fragment.getD []) }

/-- URLs by their generic syntax. -/
@[reducible]
def genericUrl : QtUrl where
  url := genericParts
  toPercentEncoding s := String.ofList (Uri.encode s.toList)
  fromPercentEncoding s := String.ofList (Uri.decode s.toList)
  queryItemValue query key := String.ofList (Uri.queryValue query.toList key.toList)
  queryItemValueFullyDecoded query key := String.ofList (Uri.queryValue query.toList key.toList)
  toVariantToInt
    | .num n => toInt n
    | .str s => toInt ((Text.atoi s).getD 0)
    | .bool b => if b then 1 else 0
    | _ => 0

end Proxor
