import Proxor.Lib.Utf8

set_option relaxedAutoImplicit false
set_option autoImplicit false

/-!
# URIs with an authority

The generic syntax of URIs, as far as a server is named with it: a scheme, a user with a password, a host,
a port, a query and a fragment. What has no place in a part is percent-encoded.

## Main definitions

* `Uri.encode`, `Uri.decode` — the percent-encoding of a text.
* `Uri.toText`, `Uri.parse` — a URI as a text.
* `Uri.queryText`, `Uri.queryValue` — a query of keys and values.
-/

namespace Uri

/-! ### Percent-encoding -/

/-- A character that is never encoded. -/
def isUnreserved (c : Char) : Bool := c.isAlphanum || c == '-' || c == '.' || c == '_' || c == '~'

/-- A digit of a byte in hexadecimal. -/
def hexChar (n : ℕ) : Char := Char.ofNat (if n < 10 then 48 + n else 55 + n)

/-- The value of a digit in hexadecimal. -/
def hexValue (c : Char) : Option ℕ :=
  let n := c.toNat
  if 48 ≤ n ∧ n ≤ 57 then some (n - 48)
  else if 65 ≤ n ∧ n ≤ 70 then some (n - 55)
  else if 97 ≤ n ∧ n ≤ 102 then some (n - 87)
  else none

/-- A byte as it stands in a URI. -/
def encodeByte (b : UInt8) : List Char :=
  if isUnreserved (Char.ofNat b.toNat) then [Char.ofNat b.toNat]
  else ['%', hexChar (b.toNat / 16), hexChar (b.toNat % 16)]

/-- The percent-encoding of a text. -/
def encode (cs : List Char) : List Char := (Utf8.encode cs).flatMap encodeByte

/-- The bytes a percent-encoded text stands for. A percent sign without two digits stands for itself. -/
def bytes : List Char → Bytes
  | '%' :: a :: b :: rest =>
    match hexValue a, hexValue b with
    | some x, some y => UInt8.ofNat (16 * x + y) :: bytes rest
    | _, _ => 37 :: bytes (a :: b :: rest)
  | c :: rest => String.utf8EncodeChar c ++ bytes rest
  | [] => []

/-- The text a percent-encoded text stands for. -/
def decode (cs : List Char) : List Char := Utf8.decode (bytes cs)

end Uri

/-- The parts of a URI. The query is as it stands, the other parts are decoded. -/
structure Uri where
  scheme : List Char
  userName : List Char := []
  password : Option (List Char) := none
  host : List Char
  port : Option (Fin 65536) := none
  query : Option (List Char) := none
  fragment : Option (List Char) := none

namespace Uri

/-! ### Texts -/

/-- A part with the sign before it, if there is one. -/
def part (sign : Char) : Option (List Char) → List Char
  | none => []
  | some text => sign :: text

/-- The user with a password. -/
def userInfo (u : Uri) : List Char :=
  if u.userName = [] ∧ u.password = none then []
  else encode u.userName ++ part ':' (u.password.map encode) ++ ['@']

/-- A URI as a text. -/
def toText (u : Uri) : List Char :=
  u.scheme ++ "://".toList ++ u.userInfo ++ u.host ++ part ':' (u.port.map fun p => Nat.toDigits 10 p.val) ++
    part '?' u.query ++ part '#' (u.fragment.map encode)

/-- The parts before and behind the first sign, if there is one. -/
def cut (sign : Char) : List Char → List Char × Option (List Char)
  | [] => ([], none)
  | c :: cs => if c = sign then ([], some cs) else ((cut sign cs).1.cons c, (cut sign cs).2)

/-- A port. There may be none behind the sign. -/
def parsePort : Option (List Char) → Option (Option (Fin 65536))
  | none | some [] => some none
  | some digits =>
    if digits.all Char.isDigit then
      let n := Nat.ofDigitChars 10 digits 0
      if h : n < 65536 then some (some ⟨n, h⟩) else none
    else none

/-- The URI of an authority, with the parts around it. -/
def parseAuthority (scheme authority : List Char) (query fragment : Option (List Char)) : Option Uri :=
  let (userInfo, hostPort) := match cut '@' authority with
    | (hostPort, none) => ([], hostPort)
    | (userInfo, some hostPort) => (userInfo, hostPort)
  let (userName, password) := cut ':' userInfo
  let (host, digits) := cut ':' hostPort
  (parsePort digits).map fun port =>
    { scheme, userName := decode userName, password := password.map decode, host, port, query,
      fragment := fragment.map decode }

/-- The URI of a text, if it is one with an authority. The path is left out. -/
def parse (text : List Char) : Option Uri :=
  let (text, fragment) := cut '#' text
  let (text, query) := cut '?' text
  match cut ':' text with
  | (scheme, some ('/' :: '/' :: rest)) => parseAuthority scheme (cut '/' rest).1 query fragment
  | _ => none

/-! ### Queries -/

/-- A query of keys and values. -/
def queryText (items : List (List Char × List Char)) : List Char :=
  ['&'].intercalate (items.map fun item => encode item.1 ++ '=' :: encode item.2)

/-- The value of the first item of a query that has the key. -/
def queryValue (query key : List Char) : List Char :=
  let items := (query.splitOn '&').map (cut '=')
  match items.find? fun item => decode item.1 = key with
  | some (_, some value) => decode value
  | _ => []

example : (parse "trojan://pass%20word@host:443?sni=a#name".toList).map
    (fun u => (u.userName, u.host, u.port)) =
    some ("pass word".toList, "host".toList, some 443) := by
  decide +kernel

end Uri
