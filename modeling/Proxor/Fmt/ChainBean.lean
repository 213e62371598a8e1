import Proxor.Db.ProfileManager

set_option relaxedAutoImplicit false
set_option autoImplicit false

/-!
# The bean of a chain

The smallest of the beans: what every bean has, and the identifiers of the profiles of the chain.

## Main definitions

* `Proxor.Fmt.ChainBean` — the bean.
* `Proxor.Fmt.ChainBean.instAbstractBean` — what the store asks of it.
-/

namespace Proxor.Fmt

/-- `ChainBean`. The list is from in to out. -/
structure ChainBean where
  version : ℤ := 0
  name : String := ""
  serverAddress : String := "127.0.0.1"
  serverPort : ℤ := 1080
  custom_config : String := ""
  custom_outbound : String := ""
  list : List ℤ := []
deriving DecidableEq

namespace ChainBean

/-- A character of a JSON text between quotes. -/
def escapeChar (c : Char) : String :=
  if c = '"' then "\\\""
  else if c = '\\' then "\\\\"
  else if c.toNat = 8 then "\\b"
  else if c.toNat = 12 then "\\f"
  else if c = '\n' then "\\n"
  else if c = '\r' then "\\r"
  else if c = '\t' then "\\t"
  else if c.toNat < 32 then
    "\\u00" ++ String.ofList [Nat.digitChar (c.toNat / 16), Nat.digitChar (c.toNat % 16)]
  else String.ofList [c]

/-- A JSON text. -/
def quoted (s : String) : String := "\"" ++ String.join (s.toList.map escapeChar) ++ "\""

def displayType : String := "Chain Proxy"

def displayAddress : String := ""

def displayName (b : ChainBean) : String := if b.name = "" then displayAddress else b.name

def displayTypeAndName (b : ChainBean) : String := "[" ++ displayType ++ "] " ++ b.displayName

/-- What identifies the chain: its JSON without the name and the custom texts, and an empty text is
not written. -/
def metadataStrippedIdentity (b : ChainBean) : String :=
  "\x7b\"_v\":" ++ toString b.version ++
    (if b.serverAddress = "" then "" else ",\"addr\":" ++ quoted b.serverAddress) ++
    ",\"list\":[" ++ ",".intercalate (b.list.map toString) ++ "],\"port\":" ++
    toString b.serverPort ++ "\x7d" ++ displayType

/-- A text that is not written keeps what the constructor gives it. -/
def reload (b : ChainBean) : ChainBean :=
  { b with serverAddress := if b.serverAddress = "" then "127.0.0.1" else b.serverAddress }

instance instAbstractBean : Db.AbstractBean ChainBean where
  summary b :=
    { name := b.name
      serverAddress := b.serverAddress
      serverPort := b.serverPort
      displayType := displayType
      displayAddress := displayAddress
      displayName := b.displayName
      displayTypeAndName := b.displayTypeAndName }
  list := list
  metadataStrippedIdentity := metadataStrippedIdentity
  reload := reload

end ChainBean

end Proxor.Fmt
