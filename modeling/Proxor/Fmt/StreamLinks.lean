import Proxor.Db.ExternalHop
import Proxor.Fmt.ShareLink
import Mathlib.Data.List.Nodup
import Mathlib.Data.Bool.AllAny

set_option relaxedAutoImplicit false
set_option autoImplicit false

/-!
# Links with a transport

The queries of Trojan, VLESS and VMess links. They are decoded as a whole before they are read item by item, so
that a value with a sign between items, or with an escape, is not found again.

## Main definitions

* `Proxor.Fmt.Stable` — a value that is read as it is.
* `Proxor.Fmt.streamItems` — what the queries of the links have in common.
* `Proxor.Fmt.readStream` — what the parsers read of it.
* `Proxor.Fmt.SameStream` — two transports with the same of what a link carries.
* `Proxor.Fmt.StreamReady` — what must hold of a transport for that.

## Main results

* `Proxor.Fmt.sameStream_of_ready` — a transport that is ready is found again.
* `Proxor.Fmt.ready_of_sameStream` — no other is, if the other values of the link are found again too.
-/

namespace Proxor.Fmt

open Db.ProfileManager (trimmed)

/-! ### Values of a query -/

/-- A value that is read as it is: no sign between items, and no percent sign before two digits. -/
def Stable (s : String) : Prop := Uri.stable s.toList = true

instance (s : String) : Decidable (Stable s) := inferInstanceAs (Decidable (_ = _))

/-- A query that was decoded as a whole. -/
def plainQuery (items : List (String × String)) : String := String.ofList (Uri.plainText (queryItems items))

/-- What is read of the query. -/
def itemValue (items : List (String × String)) (key : String) : String :=
  @QtUrl.queryItemValue genericUrl (plainQuery items) key

lemma getQueryValue_plainQuery (items : List (String × String)) (key : String) :
    @getQueryValue genericUrl (plainQuery items) key "" = itemValue items key := by
  unfold getQueryValue itemValue
  split_ifs with h
  · exact h.symm
  · rfl

lemma toList_itemValue (items : List (String × String)) (key : String) :
    (itemValue items key).toList = Uri.queryValue (Uri.plainText (queryItems items)) key.toList := by
  change (String.ofList (Uri.queryValue (plainQuery items).toList key.toList)).toList = _
  rw [String.toList_ofList, plainQuery, String.toList_ofList]

/-- The keys of the links. -/
def linkKeys : List String :=
  ["security", "sni", "alpn", "allowInsecure", "fp", "pbk", "sid", "spx", "type", "path", "headerType", "host",
    "serviceName"]

/-- The keys of what only some of the links have. -/
def extraKeys : List String := ["flow", "encryption"]

lemma key_of_mem {key : String} (h : key ∈ linkKeys ++ extraKeys) : Uri.Key key.toList := by
  have hall : ∀ key ∈ linkKeys ++ extraKeys,
      Uri.literal key.toList = true ∧ '&' ∉ key.toList ∧ '=' ∉ key.toList := by decide
  exact ⟨(hall key h).1, (hall key h).2.1, (hall key h).2.2⟩

section Values

variable {items : List (String × String)} (hkeys : ∀ item ∈ items, item.1 ∈ linkKeys ++ extraKeys)
include hkeys

lemma key_of_mem_queryItems {item : List Char × List Char} (h : item ∈ queryItems items) : Uri.Key item.1 := by
  obtain ⟨item', hitem', rfl⟩ := List.mem_map.1 h
  exact key_of_mem (hkeys item' hitem')

/-- Stable values are found again. -/
lemma itemValue_of_stable (hstable : ∀ item ∈ items, Stable item.2) (key : String) :
    itemValue items key = (lookup? items key).getD "" := by
  rw [← String.toList_inj, toList_itemValue, ← lookup_queryItems]
  refine Uri.queryValue_plainText (fun item => key_of_mem_queryItems hkeys) ?_ key.toList
  intro item hitem
  obtain ⟨item', hitem', rfl⟩ := List.mem_map.1 hitem
  exact hstable item' hitem'

/-- A value that is stable, or as long as what is read under its key or under one that no item has. -/
def Kept (items : List (String × String)) (key value : String) : Prop :=
  Stable value ∨ ∃ key', (key' = key ∨ key' ∉ items.map Prod.fst) ∧ (itemValue items key').length = value.length

omit hkeys in
lemma kept_of_itemValue {key value : String} (h : itemValue items key = value) : Kept items key value :=
  Or.inr ⟨key, Or.inl rfl, congrArg String.length h⟩

omit hkeys in
lemma kept_optionalItem {key value : String} (h : Kept items key value) :
    ∀ item ∈ optionalItem key value, Kept items item.1 item.2 := by
  unfold optionalItem
  split_ifs
  · exact fun _ hitem => absurd hitem List.not_mem_nil
  · exact List.forall_mem_singleton.2 h

/-- No value is lost if every value that is not stable is as long as one that is read. -/
lemma stable_of_length_itemValue (hnodup : (items.map Prod.fst).Nodup)
    (h : ∀ item ∈ items, Kept items item.1 item.2) : ∀ item ∈ items, Stable item.2 := by
  have hfst : (queryItems items).map Prod.fst = (items.map Prod.fst).map String.toList := by
    rw [queryItems, List.map_map, List.map_map]
    rfl
  have hnodup' : ((queryItems items).map Prod.fst).Nodup := by
    rw [hfst]
    exact hnodup.map fun _ _ => String.toList_inj.1
  have hlength : ∀ item ∈ queryItems items, Uri.stable item.2 = false → ∃ key,
      (key = item.1 ∨ key ∉ (queryItems items).map Prod.fst) ∧
      (Uri.queryValue (Uri.plainText (queryItems items)) key).length = item.2.length := by
    intro item hitem hnot
    obtain ⟨item', hitem', rfl⟩ := List.mem_map.1 hitem
    rcases h item' hitem' with hstable | ⟨key, hkey, hlength⟩
    · rw [Stable, hnot] at hstable
      exact absurd hstable Bool.false_ne_true
    · refine ⟨key.toList, ?_, ?_⟩
      · rw [hfst]
        refine hkey.imp (congrArg String.toList) fun hmem hin => hmem ?_
        obtain ⟨key', hkey', heq⟩ := List.mem_map.1 hin
        rwa [← String.toList_inj.1 heq]
      · rw [← toList_itemValue, String.length_toList, hlength, ← String.length_toList]
  have hall := Uri.stable_of_length (fun item => key_of_mem_queryItems hkeys) hnodup' hlength
  intro item hitem
  exact hall _ (List.mem_map_of_mem hitem)

end Values

/-! ### What the links have in common -/

/-- The link has the keys of reality. -/
def Reality (stream : V2rayStreamSettings) : Prop := stream.security = "tls" ∧ trimmed stream.reality_pbk ≠ ""

/-- The link says that there is an HTTP header. -/
def CarriesHeader (stream : V2rayStreamSettings) : Prop := stream.network = "tcp" ∧ stream.header_type = "http"

/-- The link has a host. -/
def CarriesHost (stream : V2rayStreamSettings) : Prop :=
  stream.network = "ws" ∨ stream.network = "http" ∨ stream.network = "httpupgrade" ∨ CarriesHeader stream

/-- The link has a path. -/
def CarriesPath (stream : V2rayStreamSettings) : Prop := CarriesHost stream ∨ stream.network = "grpc"

instance (stream : V2rayStreamSettings) : Decidable (Reality stream) := inferInstanceAs (Decidable (_ ∧ _))

/-- A transport that links are made of. -/
structure StreamLinked (stream : V2rayStreamSettings) : Prop where
  security : stream.security = "" ∨ stream.security = "tls"
  network : stream.network ∈ ["tcp", "ws", "http", "httpupgrade", "grpc"]
  utlsFingerprint : stream.utlsFingerprint ≠ ""

/-- The second transport has what the link of the first one carries. -/
structure SameStream (stream stream' : V2rayStreamSettings) : Prop where
  network : stream'.network = stream.network
  sni : stream'.sni = stream.sni
  allow_insecure : stream'.allow_insecure = stream.allow_insecure
  utlsFingerprint : stream'.utlsFingerprint = stream.utlsFingerprint
  reality : Reality stream → stream'.reality_pbk = stream.reality_pbk ∧ stream'.reality_sid = stream.reality_sid ∧
    stream'.reality_spx = stream.reality_spx
  path : CarriesPath stream → stream'.path = stream.path
  host : CarriesHost stream → stream'.host = stream.host
  header_type : CarriesHeader stream → stream'.header_type = stream.header_type

/-- What must hold of a transport for its link to be read back. The link has `headerPath`
if there is an HTTP header. -/
structure StreamReady (stream : V2rayStreamSettings) (headerPath : String) : Prop where
  sni : Stable stream.sni
  utlsFingerprint : Stable stream.utlsFingerprint
  reality : Reality stream → Stable stream.reality_pbk ∧ Stable stream.reality_sid ∧ Stable stream.reality_spx
  path : CarriesPath stream → Stable stream.path
  host : CarriesHost stream → Stable stream.host
  bar : stream.network = "http" → '|' ∉ stream.host.toList
  header : CarriesHeader stream → headerPath = stream.path

/-- The items of an HTTP header. -/
def headerItems (stream : V2rayStreamSettings) (headerPath : String) : List (String × String) :=
  optionalItem "path" headerPath ++ [("headerType", "http"), ("host", stream.host)]

/-- The items before those of reality. -/
def frontItems (stream : V2rayStreamSettings) (alpn : String) : List (String × String) :=
  ("security", linkSecurity stream) ::
    (optionalItem "sni" stream.sni ++ optionalItem "alpn" alpn ++ flagItem "allowInsecure" stream.allow_insecure ++
      [("fp", stream.utlsFingerprint)])

/-- The items that the links have in common. -/
def streamItems (stream : V2rayStreamSettings) (alpn headerPath : String) : List (String × String) :=
  frontItems stream alpn ++ realityItems stream ++ [("type", stream.network)] ++
    transportItems stream (headerItems stream headerPath)

/-- What is read of a query. -/
def readStream (utlsFingerprint query : String) (base : V2rayStreamSettings) : V2rayStreamSettings :=
  @transportFromQuery genericUrl query
    { base with
      network := linkNetwork (@getQueryValue genericUrl query "type" "tcp")
      sni := @sniFromQuery genericUrl query base.sni
      allow_insecure := @QtUrl.queryItemValue genericUrl query "allowInsecure" ≠ "" || base.allow_insecure
      reality_pbk := @getQueryValue genericUrl query "pbk" ""
      reality_sid := @getQueryValue genericUrl query "sid" ""
      reality_spx := @getQueryValue genericUrl query "spx" ""
      utlsFingerprint := @fingerprintFromQuery genericUrl utlsFingerprint query }

/-! ### Items -/

lemma optionalItem_keys (key value : String) : ((optionalItem key value).map Prod.fst).Sublist [key] := by
  unfold optionalItem
  split_ifs
  · exact List.nil_sublist _
  · exact List.Sublist.refl _

lemma flagItem_keys (key : String) (set : Bool) : ((flagItem key set).map Prod.fst).Sublist [key] := by
  unfold flagItem
  split_ifs
  · exact List.Sublist.refl _
  · exact List.nil_sublist _

lemma realityItems_keys (stream : V2rayStreamSettings) :
    ((realityItems stream).map Prod.fst).Sublist ["pbk", "sid", "spx"] := by
  unfold realityItems
  split_ifs
  · rw [List.map_cons, List.map_append]
    exact ((optionalItem_keys "sid" _).append (optionalItem_keys "spx" _)).cons_cons "pbk"
  · exact List.nil_sublist _

lemma transportItems_keys (stream : V2rayStreamSettings) (headerPath : String) :
    ((transportItems stream (headerItems stream headerPath)).map Prod.fst).Sublist
      ["path", "headerType", "host", "serviceName"] := by
  unfold transportItems headerItems
  split_ifs
  · rw [List.map_append]
    exact (optionalItem_keys "path" _).append
      (((optionalItem_keys "host" _).trans (List.sublist_append_left ["host"] ["serviceName"])).cons "headerType")
  · exact (optionalItem_keys "serviceName" _).trans (List.sublist_append_right ["path", "headerType", "host"] _)
  · rw [List.map_append]
    exact (optionalItem_keys "path" _).append (List.sublist_append_left ["headerType", "host"] ["serviceName"])
  · exact List.nil_sublist _

lemma frontItems_keys (stream : V2rayStreamSettings) (alpn : String) :
    ((frontItems stream alpn).map Prod.fst).Sublist ["security", "sni", "alpn", "allowInsecure", "fp"] := by
  rw [frontItems, List.map_cons, List.map_append, List.map_append, List.map_append]
  exact List.Sublist.cons_cons "security" <|
    (((optionalItem_keys "sni" _).append (optionalItem_keys "alpn" _)).append
      (flagItem_keys "allowInsecure" _)).append (List.Sublist.refl ["fp"])

/-- The keys are those of the links, each at most once. -/
lemma streamItems_keys (stream : V2rayStreamSettings) (alpn headerPath : String) :
    ((streamItems stream alpn headerPath).map Prod.fst).Sublist linkKeys := by
  rw [streamItems, List.map_append, List.map_append, List.map_append]
  exact (((frontItems_keys stream alpn).append (realityItems_keys stream)).append (List.Sublist.refl ["type"])).append
    (transportItems_keys stream headerPath)

lemma stable_empty : Stable "" := rfl

lemma forall_optionalItem {key value : String} :
    (∀ item ∈ optionalItem key value, Stable item.2) ↔ Stable value := by
  unfold optionalItem
  split_ifs with h
  · rw [h]
    exact iff_of_true (fun _ hitem => absurd hitem List.not_mem_nil) stable_empty
  · exact List.forall_mem_singleton

lemma forall_flagItem (key : String) (set : Bool) : ∀ item ∈ flagItem key set, Stable item.2 := by
  unfold flagItem
  split_ifs
  · exact List.forall_mem_singleton.2 (show Stable "1" from rfl)
  · exact fun _ hitem => absurd hitem List.not_mem_nil

lemma linkSecurity_eq (stream : V2rayStreamSettings) :
    linkSecurity stream = if Reality stream then "reality" else stream.security := rfl

/-- What a link carries, by the network. -/
inductive TransportCase (stream : V2rayStreamSettings) (tcp : List (String × String)) : Prop
  | host (network : stream.network = "ws" ∨ stream.network = "http" ∨ stream.network = "httpupgrade")
      (items : transportItems stream tcp = optionalItem "path" stream.path ++ optionalItem "host" stream.host)
  | grpc (network : stream.network = "grpc")
      (items : transportItems stream tcp = optionalItem "serviceName" stream.path)
  | header (network : stream.network = "tcp") (header : stream.header_type = "http")
      (items : transportItems stream tcp = tcp)
  | plain (network : stream.network = "tcp") (header : stream.header_type ≠ "http")
      (items : transportItems stream tcp = [])

lemma carriesHost_of_network {stream : V2rayStreamSettings}
    (h : stream.network = "ws" ∨ stream.network = "http" ∨ stream.network = "httpupgrade") : CarriesHost stream := by
  rcases h with h | h | h
  · exact Or.inl h
  · exact Or.inr (Or.inl h)
  · exact Or.inr (Or.inr (Or.inl h))

lemma not_carriesHost_of_grpc {stream : V2rayStreamSettings} (h : stream.network = "grpc") : ¬CarriesHost stream := by
  simp [CarriesHost, CarriesHeader, h]

lemma not_carriesPath_of_tcp {stream : V2rayStreamSettings} (h : stream.network = "tcp")
    (hheader : stream.header_type ≠ "http") : ¬CarriesPath stream := by
  simp [CarriesPath, CarriesHost, CarriesHeader, h, hheader]

namespace StreamLinked

variable {stream : V2rayStreamSettings} (h : StreamLinked stream)
include h

lemma linkSecurity_iff : linkSecurity stream = "reality" ↔ Reality stream := by
  rw [linkSecurity_eq]
  split_ifs with hreality
  · exact iff_of_true rfl hreality
  · refine iff_of_false (fun heq => ?_) hreality
    rcases h.security with hsecurity | hsecurity
    · rw [hsecurity] at heq
      exact absurd heq (by decide)
    · rw [hsecurity] at heq
      exact absurd heq (by decide)

lemma stable_linkSecurity : Stable (linkSecurity stream) := by
  rw [linkSecurity_eq]
  split_ifs
  · rfl
  · rcases h.security with hsecurity | hsecurity
    · rw [hsecurity]
      rfl
    · rw [hsecurity]
      rfl

lemma stable_network : Stable stream.network := by
  have hall : ∀ network ∈ ["tcp", "ws", "http", "httpupgrade", "grpc"], Stable network := by decide
  exact hall _ h.network

lemma linkNetwork_eq : linkNetwork stream.network = stream.network := by
  have hall : ∀ network ∈ ["tcp", "ws", "http", "httpupgrade", "grpc"], linkNetwork network = network := by decide
  exact hall _ h.network

lemma network_ne : stream.network ≠ "" := by
  have hall : ∀ network ∈ ["tcp", "ws", "http", "httpupgrade", "grpc"], network ≠ "" := by decide
  exact hall _ h.network

lemma realityItems_eq : realityItems stream =
    if Reality stream then
      ("pbk", stream.reality_pbk) ::
        (optionalItem "sid" stream.reality_sid ++ optionalItem "spx" stream.reality_spx)
    else [] :=
  if_congr h.linkSecurity_iff rfl rfl

/-- The items before those of reality are stable if what they carry is. -/
lemma forall_frontItems {alpn : String} : (∀ item ∈ frontItems stream alpn, Stable item.2) ↔
    Stable stream.sni ∧ Stable alpn ∧ Stable stream.utlsFingerprint := by
  rw [frontItems, List.forall_mem_cons, List.forall_mem_append, List.forall_mem_append, List.forall_mem_append,
    List.forall_mem_singleton, forall_optionalItem, forall_optionalItem]
  constructor
  · intro hall
    exact ⟨hall.2.1.1.1, hall.2.1.1.2, hall.2.2⟩
  · intro hall
    exact ⟨h.stable_linkSecurity, ⟨⟨hall.1, hall.2.1⟩, forall_flagItem _ _⟩, hall.2.2⟩

/-- The items of reality are stable if the keys are. -/
lemma forall_realityItems : (∀ item ∈ realityItems stream, Stable item.2) ↔
    (Reality stream → Stable stream.reality_pbk ∧ Stable stream.reality_sid ∧ Stable stream.reality_spx) := by
  rw [h.realityItems_eq]
  split_ifs with hreality
  · rw [List.forall_mem_cons, List.forall_mem_append, forall_optionalItem, forall_optionalItem]
    exact ⟨fun hall _ => hall, fun hall => hall hreality⟩
  · exact iff_of_true (fun _ hitem => absurd hitem List.not_mem_nil) fun hset => absurd hset hreality

/-- What a link carries, by the network. -/
lemma transportCase (tcp : List (String × String)) : TransportCase stream tcp := by
  have hnetwork := h.network
  simp only [List.mem_cons, List.not_mem_nil, or_false] at hnetwork
  rcases hnetwork with hnetwork | hnetwork | hnetwork | hnetwork | hnetwork
  · by_cases hheader : stream.header_type = "http"
    · exact .header hnetwork hheader (by simp [transportItems, hnetwork, hheader])
    · exact .plain hnetwork hheader (by simp [transportItems, hnetwork, hheader])
  · exact .host (Or.inl hnetwork) (if_pos (Or.inl hnetwork))
  · exact .host (Or.inr (Or.inl hnetwork)) (if_pos (Or.inr (Or.inl hnetwork)))
  · exact .host (Or.inr (Or.inr hnetwork)) (if_pos (Or.inr (Or.inr hnetwork)))
  · exact .grpc hnetwork (by simp [transportItems, hnetwork])

/-- The items of the transport are stable if what they carry is. -/
lemma forall_transportItems {headerPath : String} (hpath : CarriesHeader stream → headerPath = stream.path) :
    (∀ item ∈ transportItems stream (headerItems stream headerPath), Stable item.2) ↔
      (CarriesPath stream → Stable stream.path) ∧ (CarriesHost stream → Stable stream.host) := by
  rcases h.transportCase (headerItems stream headerPath) with
    ⟨hnetwork, hitems⟩ | ⟨hnetwork, hitems⟩ | ⟨hnetwork, hheader, hitems⟩ | ⟨hnetwork, hheader, hitems⟩
  · have hhost := carriesHost_of_network hnetwork
    rw [hitems, List.forall_mem_append, forall_optionalItem, forall_optionalItem]
    exact ⟨fun hall => ⟨fun _ => hall.1, fun _ => hall.2⟩, fun hall => ⟨hall.1 (Or.inl hhost), hall.2 hhost⟩⟩
  · rw [hitems, forall_optionalItem]
    have hnot := not_carriesHost_of_grpc hnetwork
    exact ⟨fun hall => ⟨fun _ => hall, fun hhost => absurd hhost hnot⟩, fun hall => hall.1 (Or.inr hnetwork)⟩
  · have hhost : CarriesHost stream := Or.inr (Or.inr (Or.inr ⟨hnetwork, hheader⟩))
    rw [hitems, headerItems, hpath ⟨hnetwork, hheader⟩, List.forall_mem_append, forall_optionalItem,
      List.forall_mem_cons, List.forall_mem_singleton]
    exact ⟨fun hall => ⟨fun _ => hall.1, fun _ => hall.2.2⟩,
      fun hall => ⟨hall.1 (Or.inl hhost), rfl, hall.2 hhost⟩⟩
  · rw [hitems]
    have hnot := not_carriesPath_of_tcp hnetwork hheader
    exact iff_of_true (fun _ hitem => absurd hitem List.not_mem_nil)
      ⟨fun hpath => absurd hpath hnot, fun hhost => absurd (Or.inl hhost) hnot⟩

end StreamLinked

/-! ### Lookups -/

/-- A key that the items do not have. -/
lemma lookup?_of_notMem {items : List (String × String)} {key : String} (h : key ∉ items.map Prod.fst) :
    lookup? items key = none := by
  rw [lookup?, Option.map_eq_none_iff, List.find?_eq_none]
  intro item hitem heq
  exact h (List.mem_map.2 ⟨item, hitem, of_decide_eq_true heq⟩)

lemma lookup?_of_keys {items : List (String × String)} {keys : List String} (hkeys : (items.map Prod.fst).Sublist keys)
    {key : String} (h : key ∉ keys) : lookup? items key = none :=
  lookup?_of_notMem fun hmem => h (hkeys.subset hmem)

/-- The whole query of a link. -/
def allItems (head tail : List (String × String)) (stream : V2rayStreamSettings) (alpn headerPath : String) :
    List (String × String) :=
  head ++ (streamItems stream alpn headerPath ++ tail)

section Lookups

variable (stream : V2rayStreamSettings) (alpn headerPath : String)

/-- What is read of a query, by its parts. -/
lemma lookup_streamItems (key : String) : lookup? (streamItems stream alpn headerPath) key =
    (lookup? (frontItems stream alpn) key).or ((lookup? (realityItems stream) key).or
      ((if "type" = key then some stream.network else none).or
        (lookup? (transportItems stream (headerItems stream headerPath)) key))) := by
  have htype : lookup? [("type", stream.network)] key = if "type" = key then some stream.network else none := by
    rw [lookup?_cons, lookup?_nil]
  rw [streamItems, lookup?_append, lookup?_append, lookup?_append, htype, Option.or_assoc, Option.or_assoc]

lemma lookup_front {key : String}
    (hkey : key ∉ ["pbk", "sid", "spx", "type", "path", "headerType", "host", "serviceName"]) :
    lookup? (streamItems stream alpn headerPath) key = lookup? (frontItems stream alpn) key := by
  have hreality : key ∉ ["pbk", "sid", "spx"] := fun hmem => hkey (List.mem_append_left _ hmem)
  have htransport : key ∉ ["path", "headerType", "host", "serviceName"] := fun hmem =>
    hkey (List.mem_append_right ["pbk", "sid", "spx", "type"] hmem)
  have htype : "type" ≠ key := by
    rintro rfl
    exact hkey (by decide)
  rw [lookup_streamItems, lookup?_of_keys (realityItems_keys stream) hreality,
    lookup?_of_keys (transportItems_keys stream headerPath) htransport, if_neg htype, Option.or_none, Option.or_none,
    Option.or_none]

lemma lookup_reality {key : String} (hkey : key ∈ ["pbk", "sid", "spx"]) :
    lookup? (streamItems stream alpn headerPath) key = lookup? (realityItems stream) key := by
  have hall : ∀ key ∈ ["pbk", "sid", "spx"], key ∉ ["security", "sni", "alpn", "allowInsecure", "fp"] ∧
      "type" ≠ key ∧ key ∉ ["path", "headerType", "host", "serviceName"] := by decide
  obtain ⟨hfront, htype, htransport⟩ := hall key hkey
  rw [lookup_streamItems, lookup?_of_keys (frontItems_keys stream alpn) hfront,
    lookup?_of_keys (transportItems_keys stream headerPath) htransport, if_neg htype, Option.none_or, Option.or_none,
    Option.or_none]

lemma lookup_transport {key : String} (hkey : key ∈ ["path", "headerType", "host", "serviceName"]) :
    lookup? (streamItems stream alpn headerPath) key =
      lookup? (transportItems stream (headerItems stream headerPath)) key := by
  have hall : ∀ key ∈ ["path", "headerType", "host", "serviceName"],
      key ∉ ["security", "sni", "alpn", "allowInsecure", "fp"] ∧ key ∉ ["pbk", "sid", "spx"] ∧ "type" ≠ key := by
    decide
  obtain ⟨hfront, hreality, htype⟩ := hall key hkey
  rw [lookup_streamItems, lookup?_of_keys (frontItems_keys stream alpn) hfront,
    lookup?_of_keys (realityItems_keys stream) hreality, if_neg htype, Option.none_or, Option.none_or,
    Option.none_or]

lemma lookup_type : lookup? (streamItems stream alpn headerPath) "type" = some stream.network := by
  rw [lookup_streamItems, lookup?_of_keys (frontItems_keys stream alpn) (by decide),
    lookup?_of_keys (realityItems_keys stream) (by decide), if_pos rfl, Option.none_or, Option.none_or, Option.some_or]

end Lookups

/-! ### Whole queries -/

/-- What only some of the links have: keys of their own, each at most once. -/
structure Extra (head tail : List (String × String)) : Prop where
  keys : ((head ++ tail).map Prod.fst).Sublist extraKeys

section Whole

variable {head tail : List (String × String)} {stream : V2rayStreamSettings} {alpn headerPath : String}
  (hextra : Extra head tail)
include hextra

lemma Extra.head_keys : (head.map Prod.fst).Sublist extraKeys := by
  refine List.Sublist.trans ?_ hextra.keys
  rw [List.map_append]
  exact List.sublist_append_left _ _

lemma Extra.tail_keys : (tail.map Prod.fst).Sublist extraKeys := by
  refine List.Sublist.trans ?_ hextra.keys
  rw [List.map_append]
  exact List.sublist_append_right _ _

lemma allItems_keys : ∀ item ∈ allItems head tail stream alpn headerPath, item.1 ∈ linkKeys ++ extraKeys := by
  intro item hitem
  rw [allItems, List.mem_append, List.mem_append] at hitem
  rw [List.mem_append]
  rcases hitem with hitem | hitem | hitem
  · exact Or.inr (hextra.head_keys.subset (List.mem_map_of_mem hitem))
  · exact Or.inl ((streamItems_keys stream alpn headerPath).subset (List.mem_map_of_mem hitem))
  · exact Or.inr (hextra.tail_keys.subset (List.mem_map_of_mem hitem))

lemma nodup_allItems : ((allItems head tail stream alpn headerPath).map Prod.fst).Nodup := by
  have hperm : ((allItems head tail stream alpn headerPath).map Prod.fst).Perm
      ((streamItems stream alpn headerPath).map Prod.fst ++ (head ++ tail).map Prod.fst) := by
    rw [← List.map_append]
    refine List.Perm.map _ ?_
    rw [allItems]
    refine List.perm_append_comm.trans ?_
    rw [List.append_assoc]
    exact List.perm_append_comm.append_left _
  have hnodup : (linkKeys ++ extraKeys).Nodup := by decide
  exact hperm.nodup_iff.2 (hnodup.sublist ((streamItems_keys stream alpn headerPath).append hextra.keys))

/-- What the links have in common is read whatever else they have. -/
lemma lookup_allItems {key : String} (hkey : key ∉ extraKeys) :
    lookup? (allItems head tail stream alpn headerPath) key = lookup? (streamItems stream alpn headerPath) key := by
  rw [allItems, lookup?_append, lookup?_append, lookup?_of_keys hextra.head_keys hkey,
    lookup?_of_keys hextra.tail_keys hkey, Option.none_or, Option.or_none]

/-- What only some of the links have is read whatever they have in common. -/
lemma lookup_extra {key : String} (hkey : key ∈ extraKeys) :
    lookup? (allItems head tail stream alpn headerPath) key = (lookup? head key).or (lookup? tail key) := by
  have hall : ∀ key ∈ extraKeys, key ∉ linkKeys := by decide
  rw [allItems, lookup?_append, lookup?_append,
    lookup?_of_keys (streamItems_keys stream alpn headerPath) (hall key hkey), Option.none_or]

lemma notMem_keys {key : String} (hkey : key ∉ linkKeys ++ extraKeys) :
    key ∉ (allItems head tail stream alpn headerPath).map Prod.fst := by
  intro hmem
  obtain ⟨item, hitem, rfl⟩ := List.mem_map.1 hmem
  exact hkey (allItems_keys hextra item hitem)

omit hextra in
/-- All values are stable if the transport is ready and the others are stable. -/
lemma stable_allItems (h : StreamLinked stream) (hready : StreamReady stream headerPath) (halpn : Stable alpn)
    (hothers : ∀ item ∈ head ++ tail, Stable item.2) :
    ∀ item ∈ allItems head tail stream alpn headerPath, Stable item.2 := by
  have hhead := fun item hitem => hothers item (List.mem_append_left tail hitem)
  have htail := fun item hitem => hothers item (List.mem_append_right head hitem)
  have hfront := h.forall_frontItems.2 ⟨hready.sni, halpn, hready.utlsFingerprint⟩
  have hreality := h.forall_realityItems.2 hready.reality
  have htype : ∀ item ∈ [("type", stream.network)], Stable item.2 := List.forall_mem_singleton.2 h.stable_network
  have htransport := (h.forall_transportItems hready.header).2 ⟨hready.path, hready.host⟩
  have hstream : ∀ item ∈ streamItems stream alpn headerPath, Stable item.2 := by
    rw [streamItems, List.forall_mem_append, List.forall_mem_append, List.forall_mem_append]
    exact ⟨⟨⟨hfront, hreality⟩, htype⟩, htransport⟩
  rw [allItems, List.forall_mem_append, List.forall_mem_append]
  exact ⟨hhead, hstream, htail⟩

omit hextra in
/-- What is stable of the transport if all values are, but for the sign that is taken for another in a host. -/
lemma of_stable_allItems (h : StreamLinked stream) (hheader : CarriesHeader stream → headerPath = stream.path)
    (hbar : stream.network = "http" → '|' ∉ stream.host.toList)
    (hall : ∀ item ∈ allItems head tail stream alpn headerPath, Stable item.2) :
    StreamReady stream headerPath ∧ Stable alpn ∧ ∀ item ∈ head ++ tail, Stable item.2 := by
  rw [allItems, List.forall_mem_append, List.forall_mem_append, streamItems, List.forall_mem_append,
    List.forall_mem_append, List.forall_mem_append] at hall
  obtain ⟨hhead, ⟨⟨⟨hfront, hreality⟩, -⟩, htransport⟩, htail⟩ := hall
  obtain ⟨hsni, halpn, hfp⟩ := h.forall_frontItems.1 hfront
  obtain ⟨hpath, hhost⟩ := (h.forall_transportItems hheader).1 htransport
  refine ⟨⟨hsni, hfp, h.forall_realityItems.1 hreality, hpath, hhost, hbar, hheader⟩, halpn, ?_⟩
  exact List.forall_mem_append.2 ⟨hhead, htail⟩

end Whole

/-! ### Reading a transport -/

/-- What is read of the transport leaves the rest. -/
lemma transportFromQuery_frame (query : String) (stream : V2rayStreamSettings) :
    (@transportFromQuery genericUrl query stream).network = stream.network ∧
      (@transportFromQuery genericUrl query stream).security = stream.security ∧
      (@transportFromQuery genericUrl query stream).sni = stream.sni ∧
      (@transportFromQuery genericUrl query stream).alpn = stream.alpn ∧
      (@transportFromQuery genericUrl query stream).allow_insecure = stream.allow_insecure ∧
      (@transportFromQuery genericUrl query stream).utlsFingerprint = stream.utlsFingerprint ∧
      (@transportFromQuery genericUrl query stream).reality_pbk = stream.reality_pbk ∧
      (@transportFromQuery genericUrl query stream).reality_sid = stream.reality_sid ∧
      (@transportFromQuery genericUrl query stream).reality_spx = stream.reality_spx := by
  unfold transportFromQuery
  split_ifs <;> exact ⟨rfl, rfl, rfl, rfl, rfl, rfl, rfl, rfl, rfl⟩

/-- Replacing one sign by another. -/
lemma toList_replaceAll_bar (s : String) :
    (replaceAll s "|" ",").toList = s.toList.map fun c => if c = '|' then ',' else c := by
  rw [replaceAll, String.toList_ofList]
  change Template.replaceAll ['|'] [','] 0 s.toList = _
  induction s.toList with
  | nil => rfl
  | cons c cs ih =>
    rw [Template.replaceAll, List.map_cons]
    change (if (('|' == c) && ([] : List Char).isPrefixOf cs) = true then
      [','] ++ Template.replaceAll ['|'] [','] 0 cs else c :: Template.replaceAll ['|'] [','] 0 cs) = _
    rw [ih]
    by_cases h : c = '|'
    · rw [if_pos h, h]
      rfl
    · have hne : ('|' == c) = false := beq_eq_false_iff_ne.2 fun heq => h heq.symm
      rw [if_neg h, hne]
      rfl

lemma length_replaceAll_bar (s : String) : (replaceAll s "|" ",").length = s.length := by
  rw [← String.length_toList, toList_replaceAll_bar, List.length_map, String.length_toList]

lemma replaceAll_bar_eq_self_iff (s : String) : replaceAll s "|" "," = s ↔ '|' ∉ s.toList := by
  rw [← String.toList_inj, toList_replaceAll_bar]
  constructor
  · intro h hmem
    rw [← h] at hmem
    obtain ⟨c, -, hc⟩ := List.mem_map.1 hmem
    split_ifs at hc with hbar
    · exact absurd hc (by decide)
    · exact hbar hc
  · intro h
    have hsame : ∀ c ∈ s.toList, (if c = '|' then ',' else c) = id c := by
      intro c hc
      refine if_neg fun heq => h ?_
      rwa [heq] at hc
    rw [List.map_congr_left hsame, List.map_id]

section Reading

variable {base : V2rayStreamSettings}

/-- What is read of a query, without the transport. -/
lemma readStream_frame (items : List (String × String)) (utlsFingerprint : String) (hsni : base.sni = "") (hinsecure : base.allow_insecure = false) :
    (readStream utlsFingerprint (plainQuery items) base).network =
        linkNetwork (if itemValue items "type" = "" then "tcp" else itemValue items "type") ∧
      (readStream utlsFingerprint (plainQuery items) base).sni =
        (if itemValue items "peer" ≠ "" then itemValue items "peer" else itemValue items "sni") ∧
      (readStream utlsFingerprint (plainQuery items) base).allow_insecure =
        decide (itemValue items "allowInsecure" ≠ "") ∧
      (readStream utlsFingerprint (plainQuery items) base).utlsFingerprint =
        (if itemValue items "fp" = "" then utlsFingerprint else itemValue items "fp") ∧
      (readStream utlsFingerprint (plainQuery items) base).reality_pbk = itemValue items "pbk" ∧
      (readStream utlsFingerprint (plainQuery items) base).reality_sid = itemValue items "sid" ∧
      (readStream utlsFingerprint (plainQuery items) base).reality_spx = itemValue items "spx" := by
  have hsni' : @sniFromQuery genericUrl (plainQuery items) base.sni =
      if itemValue items "peer" ≠ "" then itemValue items "peer" else itemValue items "sni" := by
    unfold sniFromQuery
    rw [getQueryValue_plainQuery, getQueryValue_plainQuery, hsni]
    dsimp only
    by_cases h : itemValue items "sni" = ""
    · rw [if_neg (not_not.2 h), h]
    · rw [if_pos h]
  have hinsecure' : (decide (@QtUrl.queryItemValue genericUrl (plainQuery items) "allowInsecure" ≠ "") ||
      base.allow_insecure) = decide (itemValue items "allowInsecure" ≠ "") := by
    rw [hinsecure, Bool.or_false]
    rfl
  have hfp : @fingerprintFromQuery genericUrl utlsFingerprint (plainQuery items) =
      if itemValue items "fp" = "" then utlsFingerprint else itemValue items "fp" := by
    unfold fingerprintFromQuery
    rw [getQueryValue_plainQuery]
  obtain ⟨hnetwork, -, hread, -, hallow, hfp', hpbk, hsid, hspx⟩ := transportFromQuery_frame (plainQuery items)
    { base with
      network := linkNetwork (@getQueryValue genericUrl (plainQuery items) "type" "tcp")
      sni := @sniFromQuery genericUrl (plainQuery items) base.sni
      allow_insecure :=
        @QtUrl.queryItemValue genericUrl (plainQuery items) "allowInsecure" ≠ "" || base.allow_insecure
      reality_pbk := @getQueryValue genericUrl (plainQuery items) "pbk" ""
      reality_sid := @getQueryValue genericUrl (plainQuery items) "sid" ""
      reality_spx := @getQueryValue genericUrl (plainQuery items) "spx" ""
      utlsFingerprint := @fingerprintFromQuery genericUrl utlsFingerprint (plainQuery items) }
  have htype : @getQueryValue genericUrl (plainQuery items) "type" "tcp" =
      if itemValue items "type" = "" then "tcp" else itemValue items "type" := by
    unfold getQueryValue itemValue
    rfl
  dsimp only at hnetwork hread hallow hfp' hpbk hsid hspx
  unfold readStream
  exact ⟨hnetwork.trans (congrArg linkNetwork htype), hread.trans hsni', hallow.trans hinsecure', hfp'.trans hfp,
    hpbk.trans (getQueryValue_plainQuery items "pbk"), hsid.trans (getQueryValue_plainQuery items "sid"),
    hspx.trans (getQueryValue_plainQuery items "spx")⟩

/-- What is read of the transport, by the network. -/
lemma readStream_transport {items : List (String × String)} {utlsFingerprint network : String}
    (h : (readStream utlsFingerprint (plainQuery items) base).network = network) :
    (network = "ws" ∨ network = "httpupgrade" →
      (readStream utlsFingerprint (plainQuery items) base).path = itemValue items "path" ∧
      (readStream utlsFingerprint (plainQuery items) base).host = itemValue items "host") ∧
    (network = "http" →
      (readStream utlsFingerprint (plainQuery items) base).path = itemValue items "path" ∧
      (readStream utlsFingerprint (plainQuery items) base).host = replaceAll (itemValue items "host") "|" ",") ∧
    (network = "grpc" → (readStream utlsFingerprint (plainQuery items) base).path = itemValue items "serviceName") ∧
    (network = "tcp" → itemValue items "headerType" = "http" →
      (readStream utlsFingerprint (plainQuery items) base).path = itemValue items "path" ∧
      (readStream utlsFingerprint (plainQuery items) base).host = itemValue items "host" ∧
      (readStream utlsFingerprint (plainQuery items) base).header_type = "http") ∧
    (network = "tcp" → itemValue items "headerType" ≠ "http" →
      (readStream utlsFingerprint (plainQuery items) base).header_type = base.header_type) := by
  have hnetwork := h
  rw [readStream, (transportFromQuery_frame _ _).1] at hnetwork
  dsimp only at hnetwork
  unfold readStream transportFromQuery
  dsimp only
  rw [hnetwork]
  simp only [getQueryValue_plainQuery]
  refine ⟨?_, ?_, ?_, ?_, ?_⟩
  · rintro (rfl | rfl)
    · exact ⟨rfl, rfl⟩
    · exact ⟨rfl, rfl⟩
  · rintro rfl
    exact ⟨rfl, rfl⟩
  · rintro rfl
    rfl
  · intro htcp hheader
    subst htcp
    simp [hheader]
  · intro htcp hheader
    subst htcp
    simp [hheader]

end Reading

/-! ### What is found again -/

/-- The transport is found again if its values are. -/
lemma sameTransport_of_values {items : List (String × String)} {stream base : V2rayStreamSettings}
    {headerPath utlsFingerprint : String} (h : StreamLinked stream)
    (hbar : stream.network = "http" → '|' ∉ stream.host.toList)
    (hheader : CarriesHeader stream → headerPath = stream.path)
    (hnetwork : (readStream utlsFingerprint (plainQuery items) base).network = stream.network)
    (hvalue : ∀ key ∈ ["path", "headerType", "host", "serviceName"],
      itemValue items key = (lookup? (transportItems stream (headerItems stream headerPath)) key).getD "") :
    (CarriesPath stream → (readStream utlsFingerprint (plainQuery items) base).path = stream.path) ∧
      (CarriesHost stream → (readStream utlsFingerprint (plainQuery items) base).host = stream.host) ∧
      (CarriesHeader stream →
        (readStream utlsFingerprint (plainQuery items) base).header_type = stream.header_type) := by
  obtain ⟨hws, hhttp, hgrpc, htcp, -⟩ := readStream_transport hnetwork
  have hpath := hvalue "path" (by decide)
  have hhost := hvalue "host" (by decide)
  rcases h.transportCase (headerItems stream headerPath) with
    ⟨hcase, hitems⟩ | ⟨hcase, hitems⟩ | ⟨hcase, hset, hitems⟩ | ⟨hcase, hset, hitems⟩
  · have hnot : ¬CarriesHeader stream := by
      rintro ⟨htcp, -⟩
      rw [htcp] at hcase
      exact absurd hcase (by decide)
    rw [hitems] at hpath hhost
    have hpath' : itemValue items "path" = stream.path := by simp [hpath]
    have hhost' : itemValue items "host" = stream.host := by simp [hhost]
    by_cases hnet : stream.network = "http"
    · obtain ⟨hread, hread'⟩ := hhttp hnet
      rw [hhost', (replaceAll_bar_eq_self_iff _).2 (hbar hnet)] at hread'
      exact ⟨fun _ => hread.trans hpath', fun _ => hread', fun hset => absurd hset hnot⟩
    · obtain ⟨hread, hread'⟩ := hws (hcase.imp_right fun hor => hor.resolve_left hnet)
      exact ⟨fun _ => hread.trans hpath', fun _ => hread'.trans hhost', fun hset => absurd hset hnot⟩
  · have hservice := hvalue "serviceName" (by decide)
    rw [hitems] at hservice
    have hnot := not_carriesHost_of_grpc hcase
    refine ⟨fun _ => (hgrpc hcase).trans ?_, fun hset => absurd hset hnot, fun hset => ?_⟩
    · simp [hservice]
    · exact absurd (Or.inr (Or.inr (Or.inr hset))) hnot
  · have htype := hvalue "headerType" (by decide)
    rw [hitems, headerItems] at hpath hhost htype
    obtain ⟨hread, hread', hread''⟩ := htcp hcase (by simp [htype])
    refine ⟨fun _ => hread.trans ?_, fun _ => hread'.trans ?_, fun _ => hread''.trans hset.symm⟩
    · rw [← hheader ⟨hcase, hset⟩]
      simp [hpath]
    · simp [hhost]
  · have hnot := not_carriesPath_of_tcp hcase hset
    refine ⟨fun hpath => absurd hpath hnot, fun hhost => absurd (Or.inl hhost) hnot, fun hheader => ?_⟩
    exact absurd (Or.inl (Or.inr (Or.inr (Or.inr hheader)))) hnot

/-- No value of the transport is lost if it is found again. -/
lemma kept_transportItems {items : List (String × String)} {stream base : V2rayStreamSettings}
    {headerPath utlsFingerprint : String} (h : StreamLinked stream)
    (hheader : headerPath = stream.path ∨ headerPath = "") (hbase : base.header_type = "")
    (hsame : SameStream stream (readStream utlsFingerprint (plainQuery items) base)) :
    ∀ item ∈ transportItems stream (headerItems stream headerPath), Kept items item.1 item.2 := by
  obtain ⟨hws, hhttp, hgrpc, htcp, htcp'⟩ := readStream_transport hsame.network
  rcases h.transportCase (headerItems stream headerPath) with
    ⟨hcase, hitems⟩ | ⟨hcase, hitems⟩ | ⟨hcase, hset, hitems⟩ | ⟨hcase, hset, hitems⟩
  · have hcarries := carriesHost_of_network hcase
    have hpath := hsame.path (Or.inl hcarries)
    have hhost := hsame.host hcarries
    rw [hitems, List.forall_mem_append]
    by_cases hnet : stream.network = "http"
    · obtain ⟨hread, hread'⟩ := hhttp hnet
      have hkept : Kept items "host" stream.host := by
        refine Or.inr ⟨"host", Or.inl rfl, ?_⟩
        rw [← length_replaceAll_bar, ← hread', hhost]
      exact ⟨kept_optionalItem (kept_of_itemValue (hread.symm.trans hpath)), kept_optionalItem hkept⟩
    · obtain ⟨hread, hread'⟩ := hws (hcase.imp_right fun hor => hor.resolve_left hnet)
      exact ⟨kept_optionalItem (kept_of_itemValue (hread.symm.trans hpath)),
        kept_optionalItem (kept_of_itemValue (hread'.symm.trans hhost))⟩
  · rw [hitems]
    exact kept_optionalItem (kept_of_itemValue ((hgrpc hcase).symm.trans (hsame.path (Or.inr hcase))))
  · have hcarries : CarriesHeader stream := ⟨hcase, hset⟩
    have htype : itemValue items "headerType" = "http" := by
      by_contra hne
      have hlost := hsame.header_type hcarries
      rw [htcp' hcase hne, hbase, hset] at hlost
      exact absurd hlost (by decide)
    obtain ⟨hread, hread', -⟩ := htcp hcase htype
    have hpath : Kept items "path" stream.path :=
      kept_of_itemValue (hread.symm.trans (hsame.path (Or.inl (Or.inr (Or.inr (Or.inr hcarries))))))
    have hhost : Kept items "host" stream.host :=
      kept_of_itemValue (hread'.symm.trans (hsame.host (Or.inr (Or.inr (Or.inr hcarries)))))
    have hfirst : ∀ item ∈ optionalItem "path" headerPath, Kept items item.1 item.2 := by
      rcases hheader with hheader | hheader
      · rw [hheader]
        exact kept_optionalItem hpath
      · rw [hheader]
        exact kept_optionalItem (Or.inl stable_empty)
    rw [hitems, headerItems, List.forall_mem_append, List.forall_mem_cons, List.forall_mem_singleton]
    exact ⟨hfirst, kept_of_itemValue htype, hhost⟩
  · rw [hitems]
    exact fun _ hitem => absurd hitem List.not_mem_nil

/-- What is read of a query whose transport is ready. -/
lemma itemValue_of_ready {head tail : List (String × String)} {stream : V2rayStreamSettings}
    {alpn headerPath : String} (hextra : Extra head tail) (h : StreamLinked stream)
    (hready : StreamReady stream headerPath) (halpn : Stable alpn) (hothers : ∀ item ∈ head ++ tail, Stable item.2) :
    itemValue (allItems head tail stream alpn headerPath) "security" = linkSecurity stream ∧
      itemValue (allItems head tail stream alpn headerPath) "alpn" = alpn ∧
      ∀ key ∈ extraKeys, itemValue (allItems head tail stream alpn headerPath) key =
        ((lookup? head key).or (lookup? tail key)).getD "" := by
  have hvalue := itemValue_of_stable (allItems_keys hextra) (stable_allItems h hready halpn hothers)
  refine ⟨?_, ?_, fun key hkey => ?_⟩
  · rw [hvalue, lookup_allItems hextra (by decide), lookup_front _ _ _ (by decide)]
    simp [frontItems]
  · rw [hvalue, lookup_allItems hextra (by decide), lookup_front _ _ _ (by decide)]
    simp [frontItems]
  · rw [hvalue, lookup_extra hextra hkey]

section Found

variable {head tail : List (String × String)} {stream base : V2rayStreamSettings}
  {alpn headerPath utlsFingerprint : String} (hextra : Extra head tail) (h : StreamLinked stream)
  (hsni : base.sni = "") (hinsecure : base.allow_insecure = false)
include hextra h hsni hinsecure

/-- What the transport has is read if every value is. -/
lemma sameStream_of_stable (hbar : stream.network = "http" → '|' ∉ stream.host.toList)
    (hheader : CarriesHeader stream → headerPath = stream.path)
    (hstable : ∀ item ∈ allItems head tail stream alpn headerPath, Stable item.2) :
    SameStream stream
      (readStream utlsFingerprint (plainQuery (allItems head tail stream alpn headerPath)) base) := by
  have hvalue : ∀ key ∉ extraKeys, itemValue (allItems head tail stream alpn headerPath) key =
      (lookup? (streamItems stream alpn headerPath) key).getD "" := by
    intro key hkey
    rw [itemValue_of_stable (allItems_keys hextra) hstable, lookup_allItems hextra hkey]
  have hpeer : itemValue (allItems head tail stream alpn headerPath) "peer" = "" := by
    rw [itemValue_of_stable (allItems_keys hextra) hstable,
      lookup?_of_notMem (notMem_keys hextra (show "peer" ∉ linkKeys ++ extraKeys by decide))]
    rfl
  obtain ⟨hnetwork, hsni', hallow, hfp, hpbk, hsid, hspx⟩ :=
    readStream_frame (allItems head tail stream alpn headerPath) utlsFingerprint hsni hinsecure
  rw [hvalue _ (by decide), lookup_type, Option.getD_some, if_neg h.network_ne, h.linkNetwork_eq] at hnetwork
  have htransport : ∀ key ∈ ["path", "headerType", "host", "serviceName"],
      itemValue (allItems head tail stream alpn headerPath) key =
        (lookup? (transportItems stream (headerItems stream headerPath)) key).getD "" := by
    intro key hkey
    have hall : ∀ key ∈ ["path", "headerType", "host", "serviceName"], key ∉ extraKeys := by decide
    rw [hvalue key (hall key hkey), lookup_transport _ _ _ hkey]
  obtain ⟨hpath, hhost, hheader_type⟩ := sameTransport_of_values h hbar hheader hnetwork htransport
  refine ⟨hnetwork, ?_, ?_, ?_, ?_, hpath, hhost, hheader_type⟩
  · rw [hsni', hpeer, if_neg (not_not.2 rfl), hvalue _ (by decide), lookup_front _ _ _ (by decide)]
    simp [frontItems]
  · rw [hallow, hvalue _ (by decide), lookup_front _ _ _ (by decide)]
    cases hset : stream.allow_insecure <;> simp [frontItems, hset]
  · have hvalue_fp : itemValue (allItems head tail stream alpn headerPath) "fp" = stream.utlsFingerprint := by
      rw [hvalue _ (by decide), lookup_front _ _ _ (by decide)]
      simp [frontItems]
    rw [hfp, hvalue_fp, if_neg h.utlsFingerprint]
  · intro hreality
    rw [hpbk, hsid, hspx, hvalue _ (by decide), hvalue _ (by decide), hvalue _ (by decide),
      lookup_reality _ _ _ (by decide), lookup_reality _ _ _ (by decide), lookup_reality _ _ _ (by decide),
      h.realityItems_eq, if_pos hreality]
    simp

/-- No value is lost if the transport is found again, and the other values too.

**Proof sketch.** Every value that is not stable belongs to a field that was read, or to a server name, which is read
under two keys. What was read is the field, so it is as long as the value. -/
lemma stable_of_sameStream (hheader : headerPath = stream.path ∨ headerPath = "") (hbase : base.header_type = "")
    (hfp : utlsFingerprint ≠ stream.utlsFingerprint)
    (hsame : SameStream stream
      (readStream utlsFingerprint (plainQuery (allItems head tail stream alpn headerPath)) base))
    (halpn : Stable alpn ∨ itemValue (allItems head tail stream alpn headerPath) "alpn" = alpn)
    (hothers : ∀ item ∈ head ++ tail, Stable item.2 ∨
      itemValue (allItems head tail stream alpn headerPath) item.1 = item.2) :
    ∀ item ∈ allItems head tail stream alpn headerPath, Stable item.2 := by
  obtain ⟨-, hsni', -, hfp', hpbk, hsid, hspx⟩ :=
    readStream_frame (allItems head tail stream alpn headerPath) utlsFingerprint hsni hinsecure
  refine stable_of_length_itemValue (allItems_keys hextra) (nodup_allItems hextra) ?_
  have hsni_kept : Kept (allItems head tail stream alpn headerPath) "sni" stream.sni := by
    rw [hsame.sni] at hsni'
    by_cases hpeer : itemValue (allItems head tail stream alpn headerPath) "peer" = ""
    · rw [if_neg (not_not.2 hpeer)] at hsni'
      exact kept_of_itemValue hsni'.symm
    · rw [if_pos hpeer] at hsni'
      exact Or.inr ⟨"peer", Or.inr (notMem_keys hextra (by decide)), congrArg String.length hsni'.symm⟩
  have hfp_kept : Kept (allItems head tail stream alpn headerPath) "fp" stream.utlsFingerprint := by
    rw [hsame.utlsFingerprint] at hfp'
    split_ifs at hfp' with hempty
    · exact absurd hfp'.symm hfp
    · exact kept_of_itemValue hfp'.symm
  have hfront : ∀ item ∈ frontItems stream alpn,
      Kept (allItems head tail stream alpn headerPath) item.1 item.2 := by
    rw [frontItems, List.forall_mem_cons, List.forall_mem_append, List.forall_mem_append, List.forall_mem_append,
      List.forall_mem_singleton]
    exact ⟨Or.inl h.stable_linkSecurity, ⟨⟨kept_optionalItem hsni_kept, kept_optionalItem (halpn.elim Or.inl kept_of_itemValue)⟩,
      fun item hitem => Or.inl (forall_flagItem _ _ item hitem)⟩, hfp_kept⟩
  have hreality : ∀ item ∈ realityItems stream,
      Kept (allItems head tail stream alpn headerPath) item.1 item.2 := by
    rw [h.realityItems_eq]
    split_ifs with hset
    · obtain ⟨hpbk', hsid', hspx'⟩ := hsame.reality hset
      rw [List.forall_mem_cons, List.forall_mem_append]
      exact ⟨kept_of_itemValue (hpbk.symm.trans hpbk'), kept_optionalItem (kept_of_itemValue (hsid.symm.trans hsid')),
        kept_optionalItem (kept_of_itemValue (hspx.symm.trans hspx'))⟩
    · exact fun _ hitem => absurd hitem List.not_mem_nil
  have htransport : ∀ item ∈ transportItems stream (headerItems stream headerPath),
      Kept (allItems head tail stream alpn headerPath) item.1 item.2 :=
    kept_transportItems h hheader hbase hsame
  have hkept : ∀ item ∈ head ++ tail, Kept (allItems head tail stream alpn headerPath) item.1 item.2 :=
    fun item hitem => (hothers item hitem).elim Or.inl kept_of_itemValue
  rw [List.forall_mem_append] at hkept
  have hstream : ∀ item ∈ streamItems stream alpn headerPath,
      Kept (allItems head tail stream alpn headerPath) item.1 item.2 := by
    rw [streamItems, List.forall_mem_append, List.forall_mem_append, List.forall_mem_append, List.forall_mem_singleton]
    exact ⟨⟨⟨hfront, hreality⟩, Or.inl h.stable_network⟩, htransport⟩
  have hall : ∀ item ∈ allItems head tail stream alpn headerPath,
      Kept (allItems head tail stream alpn headerPath) item.1 item.2 :=
    List.forall_mem_append.2 ⟨hkept.1, List.forall_mem_append.2 ⟨hstream, hkept.2⟩⟩
  exact hall

/-- **A transport that is ready** is found again, whatever the fingerprint of the settings is. -/
theorem sameStream_of_ready (hready : StreamReady stream headerPath) (halpn : Stable alpn)
    (hothers : ∀ item ∈ head ++ tail, Stable item.2) :
    SameStream stream
      (readStream utlsFingerprint (plainQuery (allItems head tail stream alpn headerPath)) base) :=
  sameStream_of_stable hextra h hsni hinsecure hready.bar hready.header (stable_allItems h hready halpn hothers)

/-- **No other transport** is found again, with the other values of the link. -/
theorem ready_of_sameStream (hheader : headerPath = stream.path ∨ headerPath = "") (hbase : base.header_type = "")
    (hfp : utlsFingerprint ≠ stream.utlsFingerprint)
    (hsame : SameStream stream
      (readStream utlsFingerprint (plainQuery (allItems head tail stream alpn headerPath)) base))
    (halpn : Stable alpn ∨ itemValue (allItems head tail stream alpn headerPath) "alpn" = alpn)
    (hothers : ∀ item ∈ head ++ tail, Stable item.2 ∨
      itemValue (allItems head tail stream alpn headerPath) item.1 = item.2) :
    StreamReady stream headerPath ∧ Stable alpn ∧ ∀ item ∈ head ++ tail, Stable item.2 := by
  have hstable := stable_of_sameStream hextra h hsni hinsecure hheader hbase hfp hsame halpn hothers
  have hvalue := itemValue_of_stable (allItems_keys hextra) hstable
  obtain ⟨-, hhttp, -, htcp, htcp'⟩ := readStream_transport hsame.network
  refine of_stable_allItems h (fun hcarries => ?_) (fun hnet => ?_) hstable
  · -- the path of an HTTP header is read, and it is what the link has
    have hread : itemValue (allItems head tail stream alpn headerPath) "path" = headerPath := by
      rw [hvalue, lookup_allItems hextra (by decide), lookup_transport _ _ _ (by decide)]
      rcases h.transportCase (headerItems stream headerPath) with
        ⟨hcase, -⟩ | ⟨hcase, -⟩ | ⟨-, -, hitems⟩ | ⟨-, hset, -⟩
      · rw [hcarries.1] at hcase
        exact absurd hcase (by decide)
      · rw [hcarries.1] at hcase
        exact absurd hcase (by decide)
      · rw [hitems, headerItems]
        simp
      · exact absurd hcarries.2 hset
    have htype : itemValue (allItems head tail stream alpn headerPath) "headerType" = "http" := by
      by_contra hne
      have hlost := hsame.header_type hcarries
      rw [htcp' hcarries.1 hne, hbase, hcarries.2] at hlost
      exact absurd hlost (by decide)
    rw [← hread, ← (htcp hcarries.1 htype).1]
    exact hsame.path (Or.inl (Or.inr (Or.inr (Or.inr hcarries))))
  · have hcarries : CarriesHost stream := Or.inr (Or.inl hnet)
    have hread : itemValue (allItems head tail stream alpn headerPath) "host" = stream.host := by
      rw [hvalue, lookup_allItems hextra (by decide), lookup_transport _ _ _ (by decide), transportItems,
        if_pos (Or.inr (Or.inl hnet))]
      simp
    have hreplaced := (hhttp hnet).2
    rw [hread, hsame.host hcarries] at hreplaced
    exact (replaceAll_bar_eq_self_iff _).1 hreplaced.symm

end Found

end Proxor.Fmt
