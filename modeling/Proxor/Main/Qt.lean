import Mathlib.Data.List.SplitOn
import Proxor.Db.BuildChain
import Proxor.Db.ConfigRule
import Proxor.Lib.Template

set_option relaxedAutoImplicit false
set_option autoImplicit false

/-!
# Texts, addresses and JSON texts

What the program uses of its framework. Texts have the operations of the framework; what parses or
prints JSON texts and what recognizes addresses is a parameter.

## Main definitions

* `Proxor.Qt` — the parsers and printers.
* `Proxor.split`, `Proxor.subStrBefore`, `Proxor.stripLeadingFlag` — texts.
* `Proxor.wrapIPV6Host`, `Proxor.displayAddress` — addresses.
-/

namespace Proxor

open Db.ProfileManager (trimmed)

/-- The parts of a URL. -/
structure Url where
  scheme : String := ""
  host : String := ""
  port : ℤ := -1
  path : String := ""
  authority : String := ""

/-- What the framework parses and prints: the object of a JSON text (`QString2QJsonObject`, empty for
what is none) and its array, a JSON text (`QJsonObject2QString`), addresses (`QHostAddress`), URLs, a
URL's encoded text, and `QString::toLower`. -/
class Qt where
  parseObject : String → JsonObject
  parseArray : String → List Json
  objectText : JsonObject → (compact : Bool) → String
  isIpAddressV4 : String → Bool
  isIpAddressV6 : String → Bool
  url : String → Url
  urlText : (scheme userName password host : String) → (port : ℤ) → String
  toLower : String → String

/-! ### Texts -/

/-- `QString::split`. -/
def split (s : String) (sep : Char) : List String := (s.toList.splitOn sep).map String.ofList

/-- `SubStrBefore`. -/
def subStrBefore (s sub : String) : String :=
  match Text.cut s sub with
  | some (before, _) => before
  | none => s

/-- `SubStrAfter`. -/
def subStrAfter (s sub : String) : String :=
  match Text.cut s sub with
  | some (_, after) => after
  | none => s

/-- A letter that shows a flag with another one. -/
def isRegionalIndicator (c : Char) : Bool := 0x1F1E6 ≤ c.toNat && c.toNat ≤ 0x1F1FF

/-- `StripLeadingFlag`. -/
def stripLeadingFlag (text : String) : String :=
  match text.toList with
  | a :: b :: rest =>
    if isRegionalIndicator a && isRegionalIndicator b then trimmed (String.ofList rest) else text
  | _ => text

/-- `Int2String`. -/
def int2String (n : ℤ) : String := toString n

/-- `QString::replace`. -/
def replaceAll (s sub by' : String) : String :=
  String.ofList (Template.replaceAll sub.toList by'.toList 0 s.toList)

/-- `IsValidPort`. -/
def isValidPort (port : ℤ) : Bool := 1 ≤ port && port ≤ 65535

/-! ### Addresses -/

variable [Qt]

/-- `IsIpAddress`. -/
def isIpAddress (s : String) : Bool := Qt.isIpAddressV4 s || Qt.isIpAddressV6 s

/-- `UnwrapIPV6Host`. -/
def unwrapIPV6Host (s : String) : String :=
  String.ofList (s.toList.filter fun c => c ≠ '[' ∧ c ≠ ']')

/-- `WrapIPV6Host`. -/
def wrapIPV6Host (s : String) : String :=
  if Qt.isIpAddressV6 s then "[" ++ unwrapIPV6Host s ++ "]" else s

/-- `DisplayAddress`. -/
def displayAddress (serverAddress : String) (serverPort : ℤ) : String :=
  if serverAddress = "" ∧ serverPort = 0 then ""
  else wrapIPV6Host serverAddress ++ ":" ++ int2String serverPort

end Proxor
