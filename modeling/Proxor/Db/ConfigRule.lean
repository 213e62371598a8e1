import Proxor.Lib.Json
import Proxor.Lib.Text

set_option relaxedAutoImplicit false
set_option autoImplicit false

/-!
# Rules of a configuration

The DNS and the route part of a configuration have rules made from a list of items: domains, whose
kind is a prefix, or addresses.

## Main definitions

* `Proxor.Db.makeRule` — `make_rule`.

## Main results

* `Proxor.Db.makeRule_full` — the rule of items that are all full names.
-/

namespace Proxor.Db

open Text

/-- The items of a rule for domains, by kind. -/
structure DomainItems where
  keyword : List String := []
  subdomain : List String := []
  regexp : List String := []
  full : List String := []
  geosite : List String := []

/-- One item of a list of domains: its prefix is its kind. `toLower` is `QString::toLower`. -/
def DomainItems.add (toLower : String → String) (items : DomainItems) (item : String) :
    DomainItems :=
  if hasPrefix item "geosite:" then
    { items with geosite := items.geosite ++ [erased item "geosite:"] }
  else if hasPrefix item "full:" then
    { items with full := items.full ++ [toLower (erased item "full:")] }
  else if hasPrefix item "domain:" then
    { items with subdomain := items.subdomain ++ [toLower (erased item "domain:")] }
  else if hasPrefix item "regexp:" then
    { items with regexp := items.regexp ++ [toLower (erased item "regexp:")] }
  else if hasPrefix item "keyword:" then
    { items with keyword := items.keyword ++ [toLower (erased item "keyword:")] }
  else { items with subdomain := items.subdomain ++ [toLower item] }

/-- A list of texts as a value. -/
def texts (items : List String) : Json := .arr (items.map .str)

lemma texts_injective : Function.Injective texts := by
  intro items items' h
  exact List.map_injective_iff.2 (fun _ _ => Json.str.inj) (Json.arr.inj h)

/-- `make_rule`: the rule of a list of items, which is empty if the list is. -/
def makeRule (toLower : String → String) (list : List String) (isIP : Bool) : JsonObject :=
  if isIP then
    let geoip := (list.filter fun item => hasPrefix item "geoip:").map fun item =>
      erased item "geoip:"
    let ip_cidr := list.filter fun item => !hasPrefix item "geoip:"
    if ip_cidr = [] ∧ geoip = [] then []
    else [("ip_cidr", texts ip_cidr), ("geoip", texts geoip)]
  else
    let items := list.foldl (DomainItems.add toLower) {}
    if items.keyword = [] ∧ items.subdomain = [] ∧ items.regexp = [] ∧ items.full = [] ∧
        items.geosite = [] then []
    else
      [("domain", texts items.full), ("domain_suffix", texts items.subdomain),
        ("domain_keyword", texts items.keyword), ("domain_regex", texts items.regexp),
        ("geosite", texts items.geosite)]

/-! ### Full names -/

variable (toLower : String → String)

/-- A name as a rule has it, when it was given as a full name. -/
def ruleName (host : String) : String := toLower (erased ("full:" ++ host) "full:")

lemma hasPrefix_append (p s : String) : hasPrefix (p ++ s) p = true := by
  rw [hasPrefix, String.toList_append]
  exact List.isPrefixOf_iff_prefix.2 (List.prefix_append _ _)

lemma add_full (items : DomainItems) (host : String) :
    items.add toLower ("full:" ++ host) =
      { items with full := items.full ++ [ruleName toLower host] } := by
  have hgeosite : hasPrefix ("full:" ++ host) "geosite:" = false := by
    rw [hasPrefix, String.toList_append]
    rfl
  rw [DomainItems.add, hgeosite, hasPrefix_append]
  rfl

lemma foldl_add_full (hosts : List String) (items : DomainItems) :
    (hosts.map ("full:" ++ ·)).foldl (DomainItems.add toLower) items =
      { items with full := items.full ++ hosts.map (ruleName toLower) } := by
  induction hosts generalizing items with
  | nil => simp
  | cons host hosts ih =>
    rw [List.map_cons, List.foldl_cons, add_full, ih]
    simp

/-- The rule of items that are all full names. -/
theorem makeRule_full (hosts : List String) :
    makeRule toLower (hosts.map ("full:" ++ ·)) false =
      if hosts = [] then []
      else [("domain", texts (hosts.map (ruleName toLower))), ("domain_suffix", texts []),
        ("domain_keyword", texts []), ("domain_regex", texts []), ("geosite", texts [])] := by
  unfold makeRule
  rw [foldl_add_full]
  by_cases hhosts : hosts = [] <;> simp [hhosts]

end Proxor.Db
