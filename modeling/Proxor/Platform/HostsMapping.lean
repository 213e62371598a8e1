import Proxor.Db.ConfigRule

set_option relaxedAutoImplicit false
set_option autoImplicit false

/-!
# The hosts mapping and the Wi-Fi network

A line of the hosts mapping maps a host to an address, unless the Wi-Fi network is one of those the
line lists. The configuration is built from the lines that apply, and a change of the network asks
`HostsSkipDiffers` whether the configuration has to be built again.

## Main definitions

* `Proxor.Platform.skipSsids`, `Proxor.Platform.hostsSkipDiffers` — the detection.
* `Proxor.Platform.hostsBlock`, `Proxor.Platform.hostsRule` — the hosts part of
  `BuildConfigSingBox`.
* `Proxor.Platform.hostsEntries` — the lines with a host and an address.
* `Proxor.Platform.DetectsChange` — where nothing is detected, nothing changes.

## Main results

* `Proxor.Platform.hosts_detected_iff` — when it does.
* `Proxor.Platform.not_hosts_detected` — a network is left for another and the mapping stays.
* `Proxor.Platform.detectsChange_of_not_both` — it does unless both networks are listed.

## Design

The two sides split the text differently: the detection takes lines between newlines, trims them and
makes one set of all the networks, the configuration also splits at carriage returns and decides for
each line. A line counts for the configuration if it has an address (`isIp` is `IsIpAddress`); what
a rule makes of a name is `Proxor.Db.ruleName`, where `toLower` is `QString::toLower`.
-/

namespace Proxor.Platform

open Text Proxor.Db

/-! ### The detection -/

/-- The parts of a text between commas. -/
def splitComma (s : String) : List String := (s.toList.splitOn ',').map String.ofList

/-- The networks of a line of the mapping. -/
def lineSsids (raw : String) : List String :=
  let line := trimSpace raw
  if line = "" ∨ hasPrefix line "#" then []
  else
    match words line with
    | _ :: _ :: ssids :: _ => ((splitComma ssids).map trimSpace).filter fun ssid => ssid ≠ ""
    | _ => []

/-- `SkipSsids`, as a list. -/
def skipSsids (hostsMapping : String) : List String :=
  (splitLines hostsMapping).flatMap lineSsids

/-- `HostsSkipDiffers`. -/
def hostsSkipDiffers (hostsMapping oldSsid newSsid : String) : Bool :=
  let set := skipSsids hostsMapping
  if set.isEmpty then false
  else
    let oldSkipped := oldSsid ≠ "" && set.contains oldSsid
    let newSkipped := newSsid ≠ "" && set.contains newSsid
    oldSkipped != newSkipped

/-! ### The hosts part of a configuration -/

/-- `SplitLines`: lines end at a newline or a carriage return, and empty ones are left out. -/
def splitLinesSkipEmpty (s : String) : List String :=
  ((s.toList.splitOnP fun c => c == '\n' || c == '\r').filter fun line => line ≠ []).map
    String.ofList

/-- `SplitLinesSkipSharp`, without a limit. -/
def splitLinesSkipSharp (s : String) : List String :=
  (splitLinesSkipEmpty s).filter fun line => !hasPrefix (trimSpace line) "#"

/-- A line with a host and an address. -/
structure HostsEntry where
  host : String
  ip : String
  skip : List String
deriving DecidableEq

/-- The networks of an entry include this one. -/
def HostsEntry.lists (e : HostsEntry) (ssid : String) : Bool :=
  ssid ≠ "" && e.skip.any fun piece => trimSpace piece = ssid

variable (isIp : String → Bool) (toLower : String → String)

/-- What the loop reads of a line. -/
def hostsEntry (line : String) : Option HostsEntry :=
  match words line with
  | first :: second :: rest =>
    let host := trimSpace first
    let ip := trimSpace second
    if host = "" ∨ ip = "" ∨ isIp ip = false then none
    else
      match rest with
      | [] => some ⟨host, ip, []⟩
      | ssids :: _ => some ⟨host, ip, (splitComma ssids).filter fun piece => piece ≠ ""⟩
  | _ => none

/-- One line of the loop: `hostsPredefined` and `hostsMappingDomains`. -/
def hostsStep (currentSsid : String) (st : JsonObject × List String) (line : String) :
    JsonObject × List String :=
  match hostsEntry isIp line with
  | none => st
  | some e =>
    if e.lists currentSsid then st
    else (st.1.set e.host (texts [e.ip]), st.2 ++ ["full:" ++ e.host])

/-- The loop over the lines. -/
def hostsBlock (hostsMapping currentSsid : String) : JsonObject × List String :=
  (splitLinesSkipSharp hostsMapping).foldl (hostsStep isIp currentSsid) ([], [])

/-- `hostsPredefined`. -/
def hostsPredefined (hostsMapping currentSsid : String) : JsonObject :=
  (hostsBlock isIp hostsMapping currentSsid).1

/-- The rule that goes first, if there is one. -/
def hostsRule (hostsMapping currentSsid : String) : Option JsonObject :=
  let hostsMappingDomains := (hostsBlock isIp hostsMapping currentSsid).2
  if hostsMappingDomains = [] then none
  else
    let rule := makeRule toLower hostsMappingDomains false
    if rule = [] then none else some (rule.set "server" (.str "dns-hosts"))

/-- Where nothing is detected, the mapping and the rule stay. -/
def DetectsChange (hostsMapping oldSsid newSsid : String) : Prop :=
  hostsSkipDiffers hostsMapping oldSsid newSsid = false →
    (∀ host, (hostsPredefined isIp hostsMapping oldSsid).get? host =
      (hostsPredefined isIp hostsMapping newSsid).get? host) ∧
    hostsRule isIp toLower hostsMapping oldSsid = hostsRule isIp toLower hostsMapping newSsid

/-! ### The entries that apply -/

/-- The entries of a text, in order. -/
def hostsEntries (hostsMapping : String) : List HostsEntry :=
  (splitLinesSkipSharp hostsMapping).filterMap (hostsEntry isIp)

/-- The entries that apply on a network. -/
def appliedEntries (hostsMapping ssid : String) : List HostsEntry :=
  (hostsEntries isIp hostsMapping).filter fun e => !e.lists ssid

/-- The last address of a host. -/
def lastAddress (entries : List HostsEntry) (host : String) : Option String :=
  (entries.filter fun e => e.host = host).getLast?.map HostsEntry.ip

/-- The loop sets one field and appends one name for each entry that applies. -/
lemma foldl_hostsStep (ssid : String) (lines : List String) (st : JsonObject × List String) :
    lines.foldl (hostsStep isIp ssid) st =
      let entries := (lines.filterMap (hostsEntry isIp)).filter fun e => !e.lists ssid
      ((entries.map fun e => (e.host, texts [e.ip])).foldl (fun o field => o.set field.1 field.2)
          st.1,
        st.2 ++ (entries.map HostsEntry.host).map ("full:" ++ ·)) := by
  induction lines generalizing st with
  | nil => simp
  | cons line lines ih =>
    rw [List.foldl_cons, ih]
    cases hentry : hostsEntry isIp line with
    | none => simp [hostsStep, hentry]
    | some e => cases hlists : e.lists ssid <;> simp [hostsStep, hentry, hlists]

/-- With a rule there is a mapping. -/
lemma hostsPredefined_ne_nil {text ssid : String} {rule : JsonObject}
    (h : hostsRule isIp toLower text ssid = some rule) :
    (hostsBlock isIp text ssid).1 ≠ [] := by
  rw [hostsRule] at h
  by_cases hdomains : (hostsBlock isIp text ssid).2 = []
  · rw [if_pos hdomains] at h
    exact absurd h nofun
  · rw [hostsBlock, foldl_hostsStep] at hdomains ⊢
    refine JsonObject.foldl_set_ne_nil (.inr ?_)
    intro hnil
    rw [List.map_eq_nil_iff] at hnil
    dsimp only at hdomains
    rw [hnil] at hdomains
    exact hdomains rfl

/-- The mapping has the last address of each host. -/
lemma get?_hostsPredefined (text ssid host : String) :
    (hostsPredefined isIp text ssid).get? host =
      (lastAddress (appliedEntries isIp text ssid) host).map fun ip => texts [ip] := by
  rw [hostsPredefined, hostsBlock, foldl_hostsStep]
  dsimp only
  rw [JsonObject.get?_foldl_set, JsonObject.get?_nil, Option.or_none, List.filter_map,
    List.getLast?_map, Option.map_map, lastAddress, Option.map_map]
  rfl

/-- The rule has the names of the entries. -/
lemma hostsRule_eq (text ssid : String) :
    hostsRule isIp toLower text ssid =
      let names := (appliedEntries isIp text ssid).map fun e => ruleName toLower e.host
      if names = [] then none
      else some [("domain", texts names), ("domain_suffix", texts []),
        ("domain_keyword", texts []), ("domain_regex", texts []), ("geosite", texts []),
        ("server", .str "dns-hosts")] := by
  have hdomains : (hostsBlock isIp text ssid).2 =
      ((appliedEntries isIp text ssid).map HostsEntry.host).map ("full:" ++ ·) := by
    rw [hostsBlock, foldl_hostsStep]
    rfl
  unfold hostsRule
  rw [hdomains]
  dsimp only
  rw [makeRule_full, List.map_map]
  cases hentries : appliedEntries isIp text ssid with
  | nil => rfl
  | cons e entries => simp [JsonObject.set, Function.comp_def]

/-- Two rules are equal if they have the same names in the same order. -/
lemma hostsRule_eq_iff (text old new : String) :
    hostsRule isIp toLower text old = hostsRule isIp toLower text new ↔
      (appliedEntries isIp text old).map (fun e => ruleName toLower e.host) =
        (appliedEntries isIp text new).map fun e => ruleName toLower e.host := by
  rw [hostsRule_eq, hostsRule_eq]
  dsimp only
  constructor
  · intro h
    split_ifs at h with hold hnew hnew
    · rw [hold, hnew]
    · simp only [Option.some.injEq, List.cons.injEq, Prod.mk.injEq, true_and, and_true] at h
      exact texts_injective h
  · intro h
    rw [h]

/-! ### When a change is detected -/

lemma ne_empty_of_mem_skipSsids {text ssid : String} (h : ssid ∈ skipSsids text) : ssid ≠ "" := by
  obtain ⟨raw, -, hssid⟩ := List.mem_flatMap.1 h
  unfold lineSsids at hssid
  dsimp only at hssid
  split_ifs at hssid with hskip
  · exact absurd hssid List.not_mem_nil
  · split at hssid
    · simpa using (List.mem_filter.1 hssid).2
    · exact absurd hssid List.not_mem_nil

/-- The detection sees whether exactly one of the networks is listed. -/
lemma hostsSkipDiffers_eq_false_iff (text old new : String) :
    hostsSkipDiffers text old new = false ↔ (old ∈ skipSsids text ↔ new ∈ skipSsids text) := by
  have hmem (ssid : String) : (ssid ≠ "" && (skipSsids text).contains ssid) = true ↔
      ssid ∈ skipSsids text := by
    rw [Bool.and_eq_true, decide_eq_true_iff, List.contains_iff_mem, and_iff_right_iff_imp]
    exact ne_empty_of_mem_skipSsids
  unfold hostsSkipDiffers
  dsimp only
  split_ifs with hempty
  · rw [List.isEmpty_iff.1 hempty]
    simp
  · rw [bne_eq_false_iff_eq, Bool.eq_iff_iff, hmem, hmem]

/-- The change between two networks is detected if the mapping or the rule changes, exactly if one
of the networks is listed and the other is not, or the entries that apply have the same names in the
same order and the same last address of each host.

**Proof sketch.** The detection compares whether the networks are listed
(`hostsSkipDiffers_eq_false_iff`). The mapping is the last address of each host
(`get?_hostsPredefined`) and the rule is the list of the names (`hostsRule_eq_iff`). -/
theorem hosts_detected_iff (text old new : String) :
    DetectsChange isIp toLower text old new ↔
      ¬(old ∈ skipSsids text ↔ new ∈ skipSsids text) ∨
      ((appliedEntries isIp text old).map (fun e => ruleName toLower e.host) =
          (appliedEntries isIp text new).map (fun e => ruleName toLower e.host) ∧
        ∀ host, lastAddress (appliedEntries isIp text old) host =
          lastAddress (appliedEntries isIp text new) host) := by
  have haddress : (∀ host, (hostsPredefined isIp text old).get? host =
        (hostsPredefined isIp text new).get? host) ↔
      ∀ host, lastAddress (appliedEntries isIp text old) host =
        lastAddress (appliedEntries isIp text new) host := by
    refine forall_congr' fun host => ?_
    rw [get?_hostsPredefined, get?_hostsPredefined]
    refine (Option.map_injective fun ip ip' h => ?_).eq_iff
    simpa using texts_injective h
  rw [DetectsChange, hostsSkipDiffers_eq_false_iff, haddress, hostsRule_eq_iff, and_comm,
    imp_iff_not_or]

/-- Two hosts of which each is skipped on one network. -/
def twoHosts : String := "host1 1.1.1.1 A\nhost2 2.2.2.2 B"

/-- The addresses of `twoHosts`. -/
def isTwoHostsIp (ip : String) : Bool := ip = "1.1.1.1" || ip = "2.2.2.2"

/-- Leaving one network for the other is not detected, and the mapping changes. -/
theorem not_hosts_detected : ¬ DetectsChange isTwoHostsIp String.toLower twoHosts "A" "B" := by
  intro h
  have hsame := (h (by decide)).1 "host1"
  have hold : (hostsPredefined isTwoHostsIp twoHosts "A").get? "host1" = none := rfl
  have hnew : (hostsPredefined isTwoHostsIp twoHosts "B").get? "host1" =
      some (texts ["1.1.1.1"]) := rfl
  rw [hold, hnew] at hsame
  exact absurd hsame (by simp)

/-! ### At most one of the networks listed -/

lemma splitOnP_congr {α : Type} {p q : α → Bool} {l : List α} (h : ∀ a ∈ l, p a = q a) :
    l.splitOnP p = l.splitOnP q := by
  induction l with
  | nil => rfl
  | cons a l ih =>
    rw [List.splitOnP_cons_eq_if_modifyHead, List.splitOnP_cons_eq_if_modifyHead,
      h a List.mem_cons_self, ih fun b hb => h b (List.mem_cons_of_mem a hb)]

/-- Without carriage returns the lines of the configuration are lines of the detection. -/
lemma mem_splitLines_of_mem {text line : String} (htext : '\r' ∉ text.toList)
    (hline : line ∈ splitLinesSkipEmpty text) : line ∈ splitLines text := by
  obtain ⟨piece, hpiece, rfl⟩ := List.mem_map.1 hline
  have hmem := (List.mem_filter.1 hpiece).1
  rw [splitOnP_congr (q := (· == '\n')) fun c hc => ?_] at hmem
  · exact List.mem_map.2 ⟨piece, hmem, rfl⟩
  · have hne : c ≠ '\r' := fun h => htext (h ▸ hc)
    simp [hne]

/-- A network that an entry lists is in the set of the detection. -/
lemma mem_skipSsids_of_lists {text ssid : String} {e : HostsEntry} (htext : '\r' ∉ text.toList)
    (he : e ∈ hostsEntries isIp text) (hlists : e.lists ssid = true) : ssid ∈ skipSsids text := by
  obtain ⟨line, hline, hentry⟩ := List.mem_filterMap.1 he
  obtain ⟨hline, hcomment⟩ := List.mem_filter.1 hline
  refine List.mem_flatMap.2 ⟨line, mem_splitLines_of_mem htext hline, ?_⟩
  have hwords : words (trimSpace line) = words line := words_trimSpace line
  have htrim : trimSpace line ≠ "" := by
    intro hnil
    rw [hnil] at hwords
    rw [hostsEntry, ← hwords] at hentry
    exact absurd hentry (by simp [words])
  unfold lineSsids
  dsimp only
  rw [if_neg (by simpa [htrim] using hcomment), hwords]
  unfold hostsEntry at hentry
  rw [HostsEntry.lists, Bool.and_eq_true, decide_eq_true_iff] at hlists
  cases hline : words line with
  | nil => simp [hline] at hentry
  | cons first rest =>
    cases rest with
    | nil => simp [hline] at hentry
    | cons second rest =>
      rw [hline] at hentry
      dsimp only at hentry
      split_ifs at hentry with hvalid
      cases rest with
      | nil =>
        cases hentry
        exact absurd hlists.2 (by simp)
      | cons ssids rest =>
        cases hentry
        obtain ⟨piece, hpiece, hssid⟩ := List.any_eq_true.1 hlists.2
        rw [decide_eq_true_iff] at hssid
        refine List.mem_filter.2 ⟨List.mem_map.2 ⟨piece, (List.mem_filter.1 hpiece).1, hssid⟩, ?_⟩
        simpa using hlists.1

/-- A change between two networks of which at most one is listed is detected, in a text without
carriage returns.

**Proof sketch.** If nothing is detected, neither is listed. Then no entry lists one of them
(`mem_skipSsids_of_lists`) and all entries apply on both. -/
theorem detectsChange_of_not_both {text old new : String} (htext : '\r' ∉ text.toList)
    (hnot : ¬(old ∈ skipSsids text ∧ new ∈ skipSsids text)) :
    DetectsChange isIp toLower text old new := by
  rw [hosts_detected_iff]
  by_cases hiff : old ∈ skipSsids text ↔ new ∈ skipSsids text
  · right
    have hall (ssid : String) (hssid : ssid ∉ skipSsids text) :
        appliedEntries isIp text ssid = hostsEntries isIp text := by
      refine List.filter_eq_self.2 fun e he => ?_
      cases hlists : e.lists ssid with
      | false => rfl
      | true => exact absurd (mem_skipSsids_of_lists isIp htext he hlists) hssid
    have hold : old ∉ skipSsids text := fun h => hnot ⟨h, hiff.1 h⟩
    have hnew : new ∉ skipSsids text := fun h => hnot ⟨hiff.2 h, h⟩
    rw [hall old hold, hall new hnew]
    exact ⟨rfl, fun host => rfl⟩
  · exact Or.inl hiff

end Proxor.Platform
