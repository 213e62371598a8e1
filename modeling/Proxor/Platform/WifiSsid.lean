import Mathlib.Data.List.Basic
import Proxor.Lib.Escape
import Proxor.Lib.Utf8

set_option relaxedAutoImplicit false
set_option autoImplicit false

/-!
# Reading the Wi-Fi network

What a backend says about the Wi-Fi network, how the output of `nmcli` is read, and which of the readings
change the network the program works with. The texts for the user are translated by `T`.

## Main definitions

* `Proxor.Platform.WifiReading` — a reading.
* `Proxor.Platform.decodeSsidBytes`, `Proxor.Platform.parseNmcliWifiList` — reading the list of `nmcli`.
* `Proxor.Platform.ChangeTracker` — the network of the last definite reading.
* `Proxor.Platform.NmcliRow`, `Proxor.Platform.nmcliList` — the list as `nmcli` writes it.

## Main results

* `Proxor.Platform.parseNmcliWifiList_nmcliList` — the first active row decides, whatever the names are.
* `Proxor.Platform.ChangeTracker.apply_definite`, `Proxor.Platform.ChangeTracker.apply_indefinite` —
  what a reading does.
-/

namespace Proxor.Platform

/-! ### Readings -/

/-- `ReadState`. -/
inductive ReadState
  | Connected | NotConnected | PermissionNeeded | Unavailable
deriving DecidableEq

/-- `WifiReading`. -/
structure WifiReading where
  state : ReadState := .Unavailable
  ssid : String := ""
  detail : String := ""
  source : String := ""
deriving DecidableEq

/-- `Connected`. -/
def connected (ssid source : String) : WifiReading := ⟨.Connected, ssid, "", source⟩

/-- `NotConnected`. -/
def notConnected (detail source : String) : WifiReading := ⟨.NotConnected, "", detail, source⟩

/-! ### Changes -/

/-- `ChangeTracker`. -/
structure ChangeTracker where
  ssid : String := ""
  last : WifiReading := {}
  hasLast : Bool := false
deriving DecidableEq

/-- `ChangeTracker::Update`. -/
structure ChangeTracker.Update where
  ssidChanged : Bool := false
  readingChanged : Bool := false
  ssid : String := ""
deriving DecidableEq

/-- The reading as the tracker takes it: an empty name is no network. -/
def WifiReading.normalized (input : WifiReading) : WifiReading :=
  if input.state = .Connected ∧ input.ssid = "" then notConnected input.detail input.source else input

/-- `ChangeTracker::apply`. -/
def ChangeTracker.apply (t : ChangeTracker) (input : WifiReading) : ChangeTracker × ChangeTracker.Update :=
  let reading := input.normalized
  let readingChanged := !t.hasLast || t.last ≠ reading
  let t := { t with last := reading, hasLast := true }
  if reading.state = .Connected ∨ reading.state = .NotConnected then
    let next := if reading.state = .Connected then reading.ssid else ""
    if next ≠ t.ssid then ({ t with ssid := next }, ⟨true, readingChanged, next⟩)
    else (t, ⟨false, readingChanged, t.ssid⟩)
  else (t, ⟨false, readingChanged, t.ssid⟩)

/-- The network of a definite reading. A connection without a name is none. -/
def WifiReading.definite (r : WifiReading) : Option String :=
  match r.state with
  | .Connected => some r.ssid
  | .NotConnected => some ""
  | .PermissionNeeded | .Unavailable => none

lemma WifiReading.definite_normalized (r : WifiReading) : r.normalized.definite = r.definite := by
  rw [normalized]
  split
  · next h => rw [definite, definite, h.1, h.2]; rfl
  · rfl

/-- The definite states of a reading. -/
lemma WifiReading.definite_eq (r : WifiReading) :
    r.definite = if r.state = .Connected ∨ r.state = .NotConnected then
      some (if r.state = .Connected then r.ssid else "") else none := by
  rw [definite]
  cases r.state <;> rfl

/-- A definite reading gives the network, and it is a change where it is another one. -/
lemma ChangeTracker.apply_definite {t : ChangeTracker} {r : WifiReading} {next : String}
    (h : r.definite = some next) :
    (t.apply r).1.ssid = next ∧ (t.apply r).2.ssid = next ∧
      ((t.apply r).2.ssidChanged = true ↔ next ≠ t.ssid) := by
  rw [← r.definite_normalized, WifiReading.definite_eq] at h
  rw [apply]
  dsimp only
  split at h
  · next hdefinite =>
    rw [if_pos hdefinite, Option.some.inj h]
    by_cases hnext : next = t.ssid
    · rw [if_neg (not_not.2 hnext)]
      exact ⟨hnext.symm, hnext.symm, iff_of_false Bool.false_ne_true (not_not.2 hnext)⟩
    · rw [if_pos hnext]
      exact ⟨rfl, rfl, iff_of_true rfl hnext⟩
  · exact absurd h (Option.some_ne_none next).symm

/-- Another reading keeps the network. -/
lemma ChangeTracker.apply_indefinite {t : ChangeTracker} {r : WifiReading} (h : r.definite = none) :
    (t.apply r).1.ssid = t.ssid ∧ (t.apply r).2.ssidChanged = false := by
  rw [← r.definite_normalized, WifiReading.definite_eq] at h
  rw [apply]
  dsimp only
  split at h
  · exact absurd h (Option.some_ne_none _)
  · next hdefinite =>
    rw [if_neg hdefinite]
    exact ⟨rfl, rfl⟩

/-! ### Decoding a name -/

/-- `QByteArray::trimmed`: white space of ASCII at both ends. -/
def isAsciiSpace (c : UInt8) : Bool := c == 32 || (9 ≤ c && c ≤ 13)

def trimmed (line : Bytes) : Bytes := ((line.dropWhile isAsciiSpace).reverse.dropWhile isAsciiSpace).reverse

/-- How many bytes a character with this first byte takes, where one begins with it. -/
def charsNeeded (b : UInt8) : ℕ :=
  if b < 0xC2 then 0 else if b < 0xE0 then 2 else if b < 0xF0 then 3 else if b < 0xF5 then 4 else 0

/-- The bytes end within a character. -/
def unfinished : Bytes → Bool
  | [] => false
  | b :: rest => rest.length + 1 < charsNeeded b && rest.all fun c => 0x80 ≤ c && c < 0xC0

/-- The main body of `QStringDecoder` for UTF-8, with `skip` bytes of a character that was read: `none`
where `hasError` is set. A character that is not finished stays in the decoder. -/
def decoderBody : (skip : ℕ) → Bytes → Option (List Char)
  | _, [] => some []
  | skip + 1, _ :: raw => decoderBody skip raw
  | 0, b :: raw =>
    match (b :: raw).toByteArray.utf8DecodeChar? 0 with
    | some c => (decoderBody (c.utf8Size - 1) raw).map (c :: ·)
    | none => if unfinished (b :: raw) then some [] else none

/-- `QStringDecoder(Utf8).decode`: a byte order mark in front is dropped. -/
def decoderDecode (raw : Bytes) : Option String :=
  (decoderBody 0 raw).map fun
    | '\uFEFF' :: text => String.ofList text
    | text => String.ofList text

/-- `QString::fromLatin1`. -/
def fromLatin1 (raw : Bytes) : String := String.ofList (raw.map fun b => Char.ofNat b.toNat)

/-- `DecodeSsidBytes`. -/
def decodeSsidBytes (rawIn : Bytes) : String :=
  let raw := (rawIn.reverse.dropWhile fun b => b == 0).reverse
  if raw.isEmpty then "" else (decoderDecode raw).getD (fromLatin1 raw)

/-! ### The list of `nmcli` -/

/-- The loop over a line: whether it was split, and the halves. A backslash is followed by a byte that
stands for itself, and the first colon without one splits. -/
def splitHalves : (split : Bool) → (active ssid : Bytes) → Bytes → Bool × Bytes × Bytes
  | split, active, ssid, [] => (split, active, ssid)
  | split, active, ssid, 92 :: c :: line =>
    if split then splitHalves split active (ssid ++ [c]) line
    else splitHalves split (active ++ [c]) ssid line
  | split, active, ssid, c :: line =>
    if c = 58 ∧ split = false then splitHalves true active ssid line
    else if split then splitHalves split active (ssid ++ [c]) line
    else splitHalves split (active ++ [c]) ssid line

section Nmcli

variable (T : String → String)

/-- The body of the loop over the lines: the reading that ends it. -/
def parseNmcliLine (line : Bytes) : Option WifiReading :=
  if (trimmed line).isEmpty then none
  else
    let (split, active, ssid) := splitHalves false [] [] line
    if !split || trimmed active ≠ [121, 101, 115] then none
    else
      let decoded := decodeSsidBytes ssid
      if decoded = "" then some (notConnected (T "Connected to a Wi-Fi network with a hidden name.") "nmcli")
      else some (connected decoded "nmcli")

/-- `ParseNmcliWifiList`. -/
def parseNmcliWifiList (terseOutput : Bytes) : WifiReading :=
  ((Bytes.lines terseOutput).findSome? (parseNmcliLine T)).getD (notConnected "" "nmcli")

end Nmcli

/-! ### The list as `nmcli` writes it -/

/-- A row of the list. A row is one line. -/
structure NmcliRow where
  active : Bool
  ssid : Bytes
  line : 10 ∉ ssid

/-- A colon or a backslash. -/
def escaped (c : UInt8) : Bool := c == 58 || c == 92

/-- A row in terse mode. -/
def nmcliLine (row : NmcliRow) : Bytes :=
  (if row.active then [121, 101, 115] else [110, 111]) ++ 58 :: Escape.escape 92 escaped row.ssid

/-- The list: one row for each line. -/
def nmcliList (rows : List NmcliRow) : Bytes := rows.flatMap fun row => nmcliLine row ++ [10]

lemma newline_not_mem_nmcliLine (row : NmcliRow) : 10 ∉ nmcliLine row := by
  intro h
  rcases List.mem_append.1 h with h | h
  · revert h
    cases row.active <;> decide
  · rcases List.mem_cons.1 h with h | h
    · exact absurd h (by decide)
    · rcases Escape.eq_or_mem_of_mem_escape 92 escaped h with h | h
      · exact absurd h (by decide)
      · exact row.line h

/-- The lines of the list, with the empty one behind the last row. -/
lemma lines_nmcliList (rows : List NmcliRow) :
    Bytes.lines (nmcliList rows) = rows.map nmcliLine ++ [[]] := by
  induction rows with
  | nil => rfl
  | cons row rows ih =>
    have hlist : nmcliList (row :: rows) = nmcliLine row ++ 10 :: nmcliList rows := by
      rw [nmcliList, List.flatMap_cons, List.append_assoc]
      rfl
    rw [hlist, List.map_cons, List.cons_append, ← ih]
    exact List.splitOn_append_cons_self_of_not_mem (newline_not_mem_nmcliLine row) _

/-! ### Reading a row -/

/-- Behind the split, a byte that is neither a backslash nor a colon is kept. -/
lemma splitHalves_plain (active ssid : Bytes) {c : UInt8} (hc : escaped c = false) (line : Bytes) :
    splitHalves true active ssid (c :: line) = splitHalves true active (ssid ++ [c]) line := by
  rw [splitHalves]
  · simp
  · rintro d line' rfl
    exact absurd hc (by decide)

/-- Behind the split, the name is read as it is. -/
lemma splitHalves_ssid (active ssid : Bytes) :
    splitHalves true active [] (Escape.escape 92 escaped ssid) = (true, active, ssid) := by
  have hread := Escape.run_escape 92 escaped (f := splitHalves true active)
    (fun acc c line _ => by rw [splitHalves, if_pos rfl])
    (fun acc c line hc => splitHalves_plain active acc hc line) [] ssid []
  rw [List.append_nil, List.nil_append] at hread
  rw [hread, splitHalves]

/-- The halves of a row. -/
lemma splitHalves_nmcliLine (row : NmcliRow) :
    splitHalves false [] [] (nmcliLine row) =
      (true, if row.active then [121, 101, 115] else [110, 111], row.ssid) := by
  rw [← splitHalves_ssid]
  rw [nmcliLine]
  cases row.active <;> rfl

/-- A line with a byte that is no white space is not blank. -/
lemma trimmed_isEmpty {line : Bytes} {c : UInt8} (hmem : c ∈ line) (hc : isAsciiSpace c = false) :
    (trimmed line).isEmpty = false := by
  have hdrop : ∀ {l : Bytes}, c ∈ l → c ∈ l.dropWhile isAsciiSpace := by
    intro l hl
    rw [← List.takeWhile_append_dropWhile (p := isAsciiSpace) (l := l), List.mem_append] at hl
    rcases hl with hl | hl
    · rw [List.mem_takeWhile_imp hl] at hc
      exact absurd hc (by decide)
    · exact hl
  have htrimmed : c ∈ trimmed line :=
    List.mem_reverse.2 (hdrop (List.mem_reverse.2 (hdrop hmem)))
  rw [List.isEmpty_eq_false_iff]
  exact List.ne_nil_of_mem htrimmed

/-- A row is not blank. -/
lemma trimmed_nmcliLine (row : NmcliRow) : (trimmed (nmcliLine row)).isEmpty = false :=
  trimmed_isEmpty (c := 58) (List.mem_append_right _ List.mem_cons_self) (by decide)

/-- What the row of a network says. -/
def rowReading (T : String → String) (row : NmcliRow) : WifiReading :=
  if decodeSsidBytes row.ssid = "" then
    notConnected (T "Connected to a Wi-Fi network with a hidden name.") "nmcli"
  else connected (decodeSsidBytes row.ssid) "nmcli"

section Reading

variable (T : String → String)

/-- The line of a row is read as the row says, and only where it is active. -/
lemma parseNmcliLine_nmcliLine (row : NmcliRow) :
    parseNmcliLine T (nmcliLine row) = if row.active then some (rowReading T row) else none := by
  rw [parseNmcliLine, trimmed_nmcliLine, if_neg Bool.false_ne_true, splitHalves_nmcliLine]
  cases row.active with
  | false => rfl
  | true =>
    have hyes : trimmed [121, 101, 115] = [121, 101, 115] := by decide
    rw [if_pos rfl, if_pos rfl, rowReading]
    dsimp only
    rw [hyes]
    by_cases hname : decodeSsidBytes row.ssid = ""
    · rw [if_pos hname, if_pos hname]
      rfl
    · rw [if_neg hname, if_neg hname]
      rfl

/-- The rows are read one after another. -/
lemma findSome_nmcliLine (rows : List NmcliRow) :
    (rows.map nmcliLine ++ [[]]).findSome? (parseNmcliLine T) =
      (rows.find? (·.active)).map (rowReading T) := by
  induction rows with
  | nil => rfl
  | cons row rows ih =>
    rw [List.map_cons, List.cons_append, List.findSome?_cons, parseNmcliLine_nmcliLine, ih,
      List.find?_cons]
    cases row.active <;> rfl

/-- **The list of `nmcli`.** For every list of rows the reading is what the first active row says:
connected with its name, or not connected with the note where it has none. Without an active row it is
not connected, without a note, and only the active rows have a part in it.

**Proof sketch.** The list is split into its rows, since a name has no newline. In a row the colon behind
the flag is the first one without a backslash, and behind it the loop gives back the name. -/
theorem parseNmcliWifiList_nmcliList (rows : List NmcliRow) :
    (parseNmcliWifiList T (nmcliList rows) =
      match rows.find? (·.active) with
      | none => notConnected "" "nmcli"
      | some row =>
        if decodeSsidBytes row.ssid = "" then
          notConnected (T "Connected to a Wi-Fi network with a hidden name.") "nmcli"
        else connected (decodeSsidBytes row.ssid) "nmcli") ∧
      parseNmcliWifiList T (nmcliList rows) =
        parseNmcliWifiList T (nmcliList (rows.filter (·.active))) := by
  have hread : ∀ rows, parseNmcliWifiList T (nmcliList rows) =
      ((rows.find? (·.active)).map (rowReading T)).getD (notConnected "" "nmcli") := by
    intro rows
    rw [parseNmcliWifiList, lines_nmcliList, findSome_nmcliLine]
  constructor
  · rw [hread]
    cases rows.find? (·.active) <;> rfl
  · have hfind : (rows.filter (·.active)).find? (·.active) = rows.find? (·.active) := by
      rw [List.find?_filter]
      congr 1
      funext row
      simp
    rw [hread, hread, hfind]

end Reading

end Proxor.Platform
