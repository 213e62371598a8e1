import Proxor.Db.ExternalHop
import Proxor.Db.VpnConfig
import Proxor.Lib.JsonEdits
import Proxor.Lib.JsonWithin

set_option relaxedAutoImplicit false
set_option autoImplicit false

/-!
# What a setting can do to the configuration of the Tun process

The marks of the template are replaced one after the other in the whole text, so that a string that comes in the
place of one may itself have a mark that is replaced later. The user name and the password are pasted without
being escaped. If neither happens, the configuration is the tree, and otherwise it is not: what is read in the
place of such a string is never the string.

## Main definitions

* `Proxor.Db.Vpn.inserted` — the strings that come in the place of a mark.
* `Proxor.Db.Vpn.NoLaterMark` — none of them has a mark that is replaced later.
* `Proxor.Db.Vpn.pieces` — the configuration as it is written, token by token.

## Main results

* `Proxor.Db.Vpn.letters_value` — what comes in the place of a mark stops a reader, or is plain.
* `Proxor.Db.Vpn.flatMap_text_pieces` — the configuration is written in these pieces.
* `Proxor.Db.Vpn.parse_writeVPNSingBoxConfig_iff` — which settings give the tree.
-/

namespace Proxor.Db.Vpn

open JsonText Template Edits

/-! ### The letters of the marks -/

/-- The letters of the marks. -/
def markLetters : List Char := "ABCDEFGHIJKLMNOPQRSTUVWXYZ%_/".toList

/-- A letter of a mark. -/
def MarkLetter (c : Char) : Prop := c ∈ markLetters

instance (c : Char) : Decidable (MarkLetter c) := inferInstanceAs (Decidable (c ∈ markLetters))

lemma markLetter_of_mem {h : Hole} {c : Char} (hc : c ∈ mark h) : MarkLetter c := by
  have hall : (order.all fun h => (mark h).all fun c => markLetters.contains c) = true := by decide
  exact List.contains_iff_mem.1 (List.all_eq_true.1 (List.all_eq_true.1 hall h (mem_order h)) c hc)

lemma mark_ne_nil (h : Hole) : mark h ≠ [] := wellMarked.ne_nil h

/-- No letter of a mark is among these characters. -/
lemma not_markLetter_of_all {cs : List Char} (h : (cs.all fun c => !markLetters.contains c) = true) :
    ∀ c ∈ cs, ¬ MarkLetter c := by
  intro c hc hmark
  have hfalse := List.all_eq_true.1 h c hc
  rw [List.contains_iff_mem.2 hmark] at hfalse
  exact Bool.false_ne_true hfalse

lemma not_markLetter_of_digit {c : Char} (h : c.isDigit = true ∨ c = '-') : ¬ MarkLetter c := by
  intro hmark
  have hall : (markLetters.all fun c => !c.isDigit && c != '-') = true := by decide
  have hc := List.all_eq_true.1 hall c hmark
  rw [Bool.and_eq_true, Bool.not_eq_true', bne_iff_ne] at hc
  rcases h with h | h
  · exact Bool.false_ne_true (hc.1.symm.trans h)
  · exact hc.2 h

/-- No letter of a mark is in an escape sequence. -/
lemma unescaped : Unescaped MarkLetter := by
  intro c d hc hd
  have hlow : ∀ n < 32, ((escapeChar (Char.ofNat n)).all fun d => !markLetters.contains d) = true := by decide
  rw [escapeChar] at hc hd
  split_ifs at hc hd with hquote hback hb hf hn hr ht hcontrol
  · exact not_markLetter_of_all (by decide) d hd
  · exact not_markLetter_of_all (by decide) d hd
  · exact not_markLetter_of_all (by decide) d hd
  · exact not_markLetter_of_all (by decide) d hd
  · exact not_markLetter_of_all (by decide) d hd
  · exact not_markLetter_of_all (by decide) d hd
  · exact not_markLetter_of_all (by decide) d hd
  · have hall := hlow _ hcontrol
    rw [Char.ofNat_toNat, escapeChar, if_neg hquote, if_neg hback, if_neg hb, if_neg hf, if_neg hn, if_neg hr,
      if_neg ht, if_pos hcontrol] at hall
    exact not_markLetter_of_all hall d hd
  · exact absurd rfl hc

/-- A mark is in an escaped string if and only if it is in the string. -/
lemma mark_infix_escaped_iff (h : Hole) (s : List Char) : mark h <:+: s.flatMap escapeChar ↔ mark h <:+: s := by
  have hself : (order.all fun h => (mark h).all fun c => decide (escapeChar c = [c])) = true := by decide
  refine infix_escaped_iff unescaped (mark_ne_nil h) fun c hc => ⟨markLetter_of_mem hc, ?_⟩
  exact of_decide_eq_true (List.all_eq_true.1 (List.all_eq_true.1 hself h (mem_order h)) c hc)

/-! ### What comes in the place of a mark -/

lemma inert_of_mem {c : Char} (h : c ∈ ['\x7b', '[', ',', ' ']) : (letters MarkLetter).inert c := by
  have hall : (['\x7b', '[', ',', ' '].all fun c => decide (c ≠ '"' ∧ c ≠ '\\' ∧ ¬ c.toNat < 32) &&
      !markLetters.contains c && (shortEscape c).isNone && (hexValue c).isNone && c != 'u') = true := by decide
  have hc := List.all_eq_true.1 hall c h
  simp only [Bool.and_eq_true, decide_eq_true_eq, Bool.not_eq_true', bne_iff_ne] at hc
  obtain ⟨⟨⟨⟨hplain, hmark⟩, hshort⟩, hhex⟩, hu⟩ := hc
  refine ⟨hplain, fun hmem => ?_, ?_⟩
  · rw [List.contains_iff_mem.2 hmem] at hmark
    exact Bool.false_ne_true hmark.symm
  · rintro (hescape | hescape | hescape)
    · rw [Option.isNone_iff_eq_none.1 hshort] at hescape
      exact Bool.false_ne_true hescape
    · rw [Option.isNone_iff_eq_none.1 hhex] at hescape
      exact Bool.false_ne_true hescape
    · exact hu hescape

/-- What begins like an object, an array, a rule or the credentials. -/
lemma value_of_front {front : List Char} (hne : front ≠ []) (hfront : ∀ c ∈ front, c ∈ ['\x7b', '[', ',', ' '])
    {d : Char} (hd : d = '"' ∨ d = '\n') (back : List Char) : (letters MarkLetter).Value (front ++ d :: back) := by
  refine Or.inr ⟨front, d, back, rfl, hne, fun c hc => inert_of_mem (hfront c hc), ?_⟩
  rcases hd with rfl | rfl
  · exact ⟨by decide, Or.inl rfl⟩
  · exact ⟨by decide, Or.inr (by decide)⟩

/-- Characters that stand for themselves and are in no mark. -/
lemma value_of_all {text : List Char}
    (h : (text.all fun c => decide (c ≠ '"' ∧ c ≠ '\\' ∧ ¬ c.toNat < 32) && !markLetters.contains c) = true) :
    (letters MarkLetter).Value text := by
  refine Or.inl fun c hc => ?_
  have hchar := List.all_eq_true.1 h c hc
  rw [Bool.and_eq_true, decide_eq_true_eq, Bool.not_eq_true'] at hchar
  refine ⟨hchar.1, fun hmem => ?_⟩
  rw [List.contains_iff_mem.2 hmem] at hchar
  exact Bool.false_ne_true hchar.2.symm

lemma value_number (n : ℤ) : (letters MarkLetter).Value (toString n).toList := by
  refine Or.inl fun c hc => ?_
  have hdigit := Text.isDigit_or_of_mem_toString hc
  refine ⟨?_, not_markLetter_of_digit hdigit⟩
  rcases hdigit with hdigit | rfl
  · have hrange : 48 ≤ c.toNat ∧ c.toNat ≤ 57 := by
      simp only [Char.isDigit, Bool.and_eq_true, decide_eq_true_eq] at hdigit
      exact ⟨UInt32.le_iff_toNat_le.1 hdigit.1, UInt32.le_iff_toNat_le.1 hdigit.2⟩
    refine ⟨?_, ?_, by omega⟩
    · rintro rfl
      exact absurd hrange (by decide)
    · rintro rfl
      exact absurd hrange (by decide)
  · exact ⟨by decide, by decide, by decide⟩

lemma value_object (o : JsonObject) : (letters MarkLetter).Value (qJsonObject2QString o true) := by
  have hempty : qJsonObject2QString o true = writeValue true 0 (ordered o) := List.append_nil _
  rw [hempty, ordered]
  cases sorted o with
  | nil => exact value_of_all (by decide)
  | cons f fields =>
    obtain ⟨key, v⟩ := f
    have hopen : ∃ back, writeValue true 0 (.obj ((key, v) :: fields)) = ['\x7b'] ++ '"' :: back := by
      rw [writeValue, tokens, fieldTokens, writeTokens]
      exact ⟨_, rfl⟩
    obtain ⟨back, hback⟩ := hopen
    rw [hback]
    refine value_of_front (List.cons_ne_nil _ _) (fun c hc => ?_) (Or.inl rfl) back
    rw [List.mem_singleton.1 hc]
    decide

lemma value_array (items : List String) : (letters MarkLetter).Value (qJsonArray2QStringCompact items) := by
  rw [qJsonArray2QStringCompact, texts]
  cases items with
  | nil => exact value_of_all (by decide)
  | cons item items =>
    have hopen : ∃ back, writeValue true 0 (.arr ((item :: items).map .str)) = ['['] ++ '"' :: back := by
      rw [List.map_cons, writeValue, tokens, itemTokens, tokens, writeTokens]
      exact ⟨_, rfl⟩
    obtain ⟨back, hback⟩ := hopen
    rw [hback]
    refine value_of_front (List.cons_ne_nil _ _) (fun c hc => ?_) (Or.inl rfl) back
    rw [List.mem_singleton.1 hc]
    decide

lemma value_rules (rules : List JsonObject) : (letters MarkLetter).Value (rulesText rules) := by
  cases rules with
  | nil => exact value_of_all (by decide)
  | cons rule rules =>
    have hopen : ∃ back, rulesText (rule :: rules) = [',', '\x7b'] ++ '\n' :: back := by
      rw [rulesText, List.flatMap_cons, qJsonObject2QString]
      cases sorted rule with
      | nil =>
        rw [writeValue, tokens, fieldTokens, writeTokens]
        exact ⟨_, rfl⟩
      | cons f fields =>
        obtain ⟨key, v⟩ := f
        rw [writeValue, tokens, fieldTokens, writeTokens]
        exact ⟨_, rfl⟩
    obtain ⟨back, hback⟩ := hopen
    rw [hback]
    refine value_of_front (List.cons_ne_nil _ _) (fun c hc => ?_) (Or.inr rfl) back
    rcases List.mem_cons.1 hc with rfl | hc
    · decide
    · rw [List.mem_singleton.1 hc]
      decide

section Values

variable [Qt] (env : VpnEnv) (s : Settings)

/-! ### Replacing the later marks -/

lemma final_nil (h : Hole) : final env s h [] = [] :=
  fill_eq_self _ _ fun g _ hwithin => mark_ne_nil g (List.infix_nil.1 hwithin)

/-- Replacing goes on behind a character that no mark has. -/
lemma final_append_cons (h : Hole) {c : Char} (hc : ¬ MarkLetter c) (x y : List Char) :
    final env s h (x ++ c :: y) = final env s h x ++ c :: final env s h y :=
  fill_append_cons mark (value env s)
    (fun g _ => ⟨mark_ne_nil g, fun hmem => hc (markLetter_of_mem hmem)⟩) x y

lemma final_append (h : Hole) {front : List Char} (hfront : ∀ c ∈ front, ¬ MarkLetter c) (y : List Char) :
    final env s h (front ++ y) = front ++ final env s h y := by
  induction front with
  | nil => rfl
  | cons c front ih =>
    rw [List.forall_mem_cons] at hfront
    have hcons := final_append_cons env s h hfront.1 [] (front ++ y)
    rw [List.nil_append, final_nil, List.nil_append, ih hfront.2] at hcons
    exact hcons

lemma final_eq_self (h : Hole) {text : List Char} (hnone : ∀ h' ∈ later h, ¬ mark h' <:+: text) :
    final env s h text = text := fill_eq_self mark (value env s) hnone

/-- A text without letters of marks stays. -/
lemma final_plain (h : Hole) {text : List Char} (htext : ∀ c ∈ text, ¬ MarkLetter c) :
    final env s h text = text := by
  have hself := final_append env s h htext []
  rwa [final_nil, List.append_nil] at hself

/-- **What comes in the place of a mark** stops a reader of a string, or stands for itself. -/
theorem letters_value (h : Hole) : (letters MarkLetter).Value (value env s h) := by
  have hfixed : ∀ text ∈ fixedTexts, (letters MarkLetter).Value text.toList := by
    have hall : ∀ text ∈ fixedTexts, (text.toList.all fun c =>
        decide (c ≠ '"' ∧ c ≠ '\\' ∧ ¬ c.toNat < 32) && !markLetters.contains c) = true := by decide
    exact fun text htext => value_of_all (hall text htext)
  obtain ⟨hfake, hname, himpl, hfinal⟩ := mem_fixedTexts env s
  cases h with
  | tunAddresses => exact value_array _
  | routeExcludeAddresses => exact value_array _
  | dnsRemoteServer => exact value_object _
  | dnsDirectServer => exact value_object _
  | dnsLocalServer => exact value_object _
  | socksUserPass =>
    change (letters MarkLetter).Value (socksUserPass s)
    rw [socksUserPass]
    split_ifs
    · rw [List.append_assoc, List.append_assoc, List.append_assoc]
      refine value_of_front (List.cons_ne_nil ' ' []) (fun c hc => ?_) (Or.inl rfl) _
      rw [List.mem_singleton.1 hc]
      decide
    · exact value_of_all (by decide)
  | processNameRule => exact value_rules _
  | cidrRule => exact value_rules _
  | mtu => exact value_number _
  | stack => exact hfixed _ himpl
  | tunName => exact hfixed _ hname
  | strictRoute =>
    change (letters MarkLetter).Value (if s.vpn_strict_route then "true" else "false").toList
    split_ifs <;> exact value_of_all (by decide)
  | finalOut => exact hfixed _ hfinal
  | fakeDnsInbound => exact hfixed _ hfake
  | port => exact value_number _

/-- What becomes of a text when the later marks are replaced. -/
lemma edited_final (h : Hole) (t : List Char) :
    ∃ b, Edited (letters MarkLetter) b t (final env s h t) ∧ ((∃ h' ∈ later h, mark h' <:+: t) → b = true) :=
  edited_fill (fun g _ => ⟨mark_ne_nil g, fun _ hc => markLetter_of_mem hc⟩) (fun g _ => letters_value env s g) t

/-! ### The configuration token by token -/

/-- No mark that is replaced later is in a string. -/
def NoLater (h : Hole) (text : String) : Prop := ∀ h' ∈ later h, ¬ mark h' <:+: text.toList

/-- A token in the place of a mark, as it is written when the later marks are replaced. -/
def piece (h : Hole) : Token → Piece
  | .text u => ⟨.text u, '"' :: (final env s h (u.toList.flatMap escapeChar) ++ ['"']), NoLater h u⟩
  | t => ⟨t, t.write, True⟩

/-- The user name or the password. -/
def rawPiece (u : String) : Piece :=
  ⟨.text u, '"' :: (final env s .socksUserPass u.toList ++ ['"']), Plain u ∧ NoLater .socksUserPass u⟩

/-- A token of the template. -/
def fixedPiece (t : Token) : Piece := ⟨t, t.write, True⟩

/-- A string in the place of a mark is read back only if no later mark is in it. -/
lemma sound_piece (h : Hole) (t : Token) (rest : List Char) : (piece env s h t).Sound rest := by
  cases t with
  | text u =>
    obtain ⟨b, hedited, hb⟩ := edited_final env s h (u.toList.flatMap escapeChar)
    have hnone : NoLater h u ↔ ∀ h' ∈ later h, ¬ mark h' <:+: u.toList.flatMap escapeChar :=
      forall₂_congr fun h' _ => not_congr (mark_infix_escaped_iff h' u.toList).symm
    refine ⟨fun hholds => ?_, Or.inr ⟨u, _, rfl, rfl, fun r hread => ?_⟩⟩
    · change '"' :: (final env s h (u.toList.flatMap escapeChar) ++ ['"']) = writeString u.toList
      rw [final_eq_self env s h (hnone.1 hholds), writeString]
    · rcases eq_or_not_suffix_escaped unescaped hedited hread with ⟨rfl, -⟩ | hnot
      · exact hnone.2 fun h' hlater hwithin => Bool.false_ne_true (hb ⟨h', hlater, hwithin⟩)
      · exact absurd (List.suffix_refl _) hnot
  | blank => exact ⟨fun _ => rfl, Or.inl trivial⟩
  | line indent => exact ⟨fun _ => rfl, Or.inl trivial⟩
  | sign c => exact ⟨fun _ => rfl, Or.inl trivial⟩
  | number n => exact ⟨fun _ => rfl, Or.inl trivial⟩
  | bool b => exact ⟨fun _ => rfl, Or.inl trivial⟩
  | null => exact ⟨fun _ => rfl, Or.inl trivial⟩

/-- The user name and the password are read back only if they stand for themselves, too. -/
lemma sound_rawPiece (u : String) {rest : List Char}
    (hrest : ∀ y r, JsonText.readString rest = some (y, r) → '\\' ∉ y) : (rawPiece env s u).Sound rest := by
  obtain ⟨b, hedited, hb⟩ := edited_final env s .socksUserPass u.toList
  refine ⟨fun ⟨hplain, hnone⟩ => ?_, Or.inr ⟨u, _, rfl, rfl, fun r hread => ?_⟩⟩
  · change '"' :: (final env s .socksUserPass u.toList ++ ['"']) = writeString u.toList
    rw [final_eq_self env s .socksUserPass hnone, writeString_of_plain hplain]
  · rcases eq_or_not_suffix hedited hrest hread with ⟨rfl, hplain, -⟩ | hnot
    · exact ⟨hplain, fun h' hlater hwithin => Bool.false_ne_true (hb ⟨h', hlater, hwithin⟩)⟩
    · exact absurd (List.suffix_refl _) hnot

/-- No token but a string has a letter of a mark. -/
lemma not_markLetter_write {t : Token} (htext : ∀ u, t ≠ .text u)
    (hsign : ∀ c, t = .sign c → signs.contains c = true) : ∀ c ∈ t.write, ¬ MarkLetter c := by
  cases t with
  | text u => exact absurd rfl (htext u)
  | blank => exact not_markLetter_of_all (by decide)
  | line indent =>
    intro c hc
    rcases List.mem_cons.1 hc with rfl | hc
    · decide
    · rw [(List.mem_replicate.1 hc).2]
      decide
  | sign d =>
    intro c hc
    have hsigns : (signs.all fun c => !markLetters.contains c) = true := by decide
    rw [List.mem_singleton.1 hc]
    exact not_markLetter_of_all hsigns d (List.contains_iff_mem.1 (hsign d rfl))
  | number n => exact fun c hc => not_markLetter_of_digit (Text.isDigit_or_of_mem_toString hc)
  | bool b => cases b <;> exact not_markLetter_of_all (by decide)
  | null => exact not_markLetter_of_all (by decide)

/-- **The text of tokens in the place of a mark**, when the later marks are replaced. -/
lemma flatMap_text_piece (h : Hole) {ts : List Token} (hsign : ∀ c, Token.sign c ∈ ts → signs.contains c = true) :
    (ts.map (piece env s h)).flatMap Piece.text = final env s h (writeTokens ts) := by
  induction ts with
  | nil => exact (final_nil env s h).symm
  | cons t ts ih =>
    have ih := ih fun c hc => hsign c (List.mem_cons_of_mem t hc)
    rw [List.map_cons, List.flatMap_cons, ih]
    change _ = final env s h (t.write ++ writeTokens ts)
    by_cases htext : ∃ u, t = .text u
    · obtain ⟨u, rfl⟩ := htext
      have hquote : ¬ MarkLetter '"' := by decide
      have hwrite : (Token.text u).write ++ writeTokens ts =
          [] ++ '"' :: (u.toList.flatMap escapeChar ++ '"' :: writeTokens ts) := by
        simp [Token.write, writeString]
      rw [hwrite, final_append_cons env s h hquote, final_nil, final_append_cons env s h hquote]
      simp [piece]
    · have hfront := not_markLetter_write (fun u hu => htext ⟨u, hu⟩)
        fun c hc => hsign c (hc ▸ List.mem_cons_self)
      have hpiece : (piece env s h t).text = t.write := by
        cases t with
        | text u => exact absurd ⟨u, rfl⟩ htext
        | _ => rfl
      rw [final_append env s h hfront, hpiece]

/-! ### The parts of the configuration -/

/-- What is written in the place of a mark that is not in a string. -/
def holeParts : Hole → List Part
  | .tunAddresses => [.value true 0 (texts (tunAddresses env.tunIncludesIpv6))]
  | .routeExcludeAddresses => [.value true 0 (texts (routeExclusions env))]
  | .dnsRemoteServer => [.value true 0 (ordered (dnsRemote s))]
  | .dnsDirectServer => [.value true 0 (ordered (dnsDirect s))]
  | .dnsLocalServer => [.value true 0 (ordered (dnsLocal s))]
  | .processNameRule => rulesParts (processRules env s)
  | .cidrRule => rulesParts (userRule s "ip_cidr" s.vpn_rule_cidr)
  | .mtu => [.number s.vpn_mtu]
  | .strictRoute => [.value true 0 (.bool s.vpn_strict_route)]
  | .port => [.number s.inbound_socks_port]
  | .socksUserPass | .stack | .tunName | .finalOut | .fakeDnsInbound => []

/-- Part of the configuration: of the template, with what has no mark and no setting, or in the place of a
mark. -/
inductive Segment
  | fixed (parts : List Part)
  | hole (h : Hole)

/-- The segment in parts. -/
def Segment.parts : Segment → List Part
  | .fixed parts => parts
  | .hole h => holeParts env s h

/-- The segment token by token. -/
def Segment.pieces : Segment → List Piece
  | .fixed parts => (parts.flatMap Part.tokens).map fixedPiece
  | .hole h => ((holeParts env s h).flatMap Part.tokens).map (piece env s h)

/-- The segment as it is written. -/
def Segment.write : Segment → List Char
  | .fixed parts => writeParts parts
  | .hole h => final env s h (writeParts (holeParts env s h))

lemma token_pieces (segment : Segment) :
    (segment.pieces env s).map Piece.token = (segment.parts env s).flatMap Part.tokens := by
  cases segment with
  | fixed parts =>
    change List.map _ (List.map _ _) = _
    rw [List.map_map]
    exact List.map_id _
  | hole h =>
    change List.map _ (List.map _ _) = _
    rw [List.map_map]
    refine (List.map_congr_left fun t _ => ?_).trans (List.map_id _)
    cases t <;> rfl

lemma flatMap_text_segment {segment : Segment}
    (hsign : ∀ c, Token.sign c ∈ (segment.parts env s).flatMap Part.tokens → signs.contains c = true) :
    (segment.pieces env s).flatMap Piece.text = segment.write env s := by
  cases segment with
  | fixed parts =>
    change List.flatMap _ (List.map _ _) = _
    rw [List.flatMap_map]
    rfl
  | hole h => exact flatMap_text_piece env s h hsign

lemma sound_segment (segment : Segment) : ∀ p ∈ segment.pieces env s, ∀ rest, p.Sound rest := by
  intro p hp rest
  cases segment with
  | fixed parts =>
    obtain ⟨t, -, rfl⟩ := List.mem_map.1 hp
    exact ⟨fun _ => rfl, Or.inl trivial⟩
  | hole h =>
    obtain ⟨t, -, rfl⟩ := List.mem_map.1 hp
    exact sound_piece env s h t rest

/-- The segments up to the user name. -/
def frontSegments : List Segment :=
  [.fixed logParts, .hole .dnsRemoteServer, .fixed commaParts, .hole .dnsDirectServer, .fixed commaParts,
    .hole .dnsLocalServer,
    .fixed (fakeIpParts ++ (.text (fakeDnsInbound s) :: (fakeRuleParts ++ (.text (genTunName env.os) ::
      addressParts)))),
    .hole .tunAddresses, .fixed mtuParts, .hole .mtu, .fixed autoRouteParts, .hole .strictRoute,
    .fixed (stackParts ++ (.text (listValue vpnImplementation s.vpn_implementation) :: sniffParts)),
    .hole .routeExcludeAddresses, .fixed socksParts]

/-- The segments behind the password. -/
def backSegments : List Segment :=
  [.fixed serverParts, .hole .port, .fixed (directParts ++ (.text (noMatchOut s) :: finalParts)),
    .hole .tunAddresses, .fixed rejectParts, .hole .processNameRule, .fixed betweenRulesParts, .hole .cidrRule,
    .fixed hijackParts]

/-- The user name and the password, token by token. -/
def credentialPieces : List Piece :=
  if needAuth s then
    [Token.blank, .text "username", .sign ':', .blank].map fixedPiece ++
      (rawPiece env s s.inbound_username ::
        ([Token.sign ',', .blank, .text "password", .sign ':', .blank].map fixedPiece ++
          (rawPiece env s s.inbound_password :: [Token.sign ',', .blank].map fixedPiece)))
  else []

/-- **The configuration token by token.** -/
def pieces : List Piece :=
  (frontSegments env s).flatMap (Segment.pieces env s) ++
    (credentialPieces env s ++ (backSegments s).flatMap (Segment.pieces env s))

lemma token_credentialPieces :
    (credentialPieces env s).map Piece.token = (credentialParts s).flatMap Part.tokens := by
  rw [credentialPieces, credentialParts]
  split <;> rfl

/-- The tokens are those of the configuration. -/
lemma token_pieces_config : (pieces env s).map Piece.token = (configParts env s).flatMap Part.tokens := by
  have hsegments : ∀ segments : List Segment, (segments.flatMap (Segment.pieces env s)).map Piece.token =
      (segments.flatMap (Segment.parts env s)).flatMap Part.tokens := by
    intro segments
    rw [List.map_flatMap, List.flatMap_assoc]
    exact List.flatMap_congr fun segment _ => token_pieces env s segment
  rw [pieces, List.map_append, List.map_append, hsegments, hsegments, token_credentialPieces,
    ← List.flatMap_append, ← List.flatMap_append]
  delta configParts dnsParts tunParts middleParts frontSegments backSegments
  simp only [List.flatMap_cons, List.flatMap_nil, Segment.parts, holeParts, List.append_assoc, List.cons_append,
    List.nil_append, List.append_nil]

/-! ### The text of the configuration -/

/-- What is written in the place of a mark that is not in a string is written in parts. -/
lemma value_eq_writeParts (h : Hole) (hne : h ∉ [.socksUserPass, .stack, .tunName, .finalOut, .fakeDnsInbound]) :
    value env s h = writeParts (holeParts env s h) := by
  have hvalue : ∀ v, writeParts [.value true 0 v] = writeValue true 0 v := fun v => by
    rw [writeParts_cons, writeParts_nil, List.append_nil]
    rfl
  have hnumber : ∀ n : ℤ, writeParts [.number n] = (toString n).toList := fun n => by
    rw [writeParts_cons, writeParts_nil, List.append_nil, Part.write_token]
    rfl
  have hobject : ∀ o, qJsonObject2QString o true = writeParts [.value true 0 (ordered o)] := fun o =>
    (List.append_nil _).trans (hvalue _).symm
  cases h with
  | tunAddresses => exact (hvalue _).symm
  | routeExcludeAddresses => exact (hvalue _).symm
  | dnsRemoteServer => exact hobject _
  | dnsDirectServer => exact hobject _
  | dnsLocalServer => exact hobject _
  | processNameRule => exact (writeParts_rulesParts _).symm
  | cidrRule => exact (writeParts_rulesParts _).symm
  | mtu => exact (hnumber _).symm
  | strictRoute =>
    change (if s.vpn_strict_route then "true" else "false").toList = _
    rw [holeParts, hvalue]
    cases s.vpn_strict_route <;> rfl
  | port => exact (hnumber _).symm
  | socksUserPass => exact absurd (by decide) hne
  | stack => exact absurd (by decide) hne
  | tunName => exact absurd (by decide) hne
  | finalOut => exact absurd (by decide) hne
  | fakeDnsInbound => exact absurd (by decide) hne

/-- Every sign in a segment is one. -/
lemma sign_of_mem {segment : Segment} (hmem : segment ∈ frontSegments env s ∨ segment ∈ backSegments s) {c : Char}
    (hc : Token.sign c ∈ (segment.parts env s).flatMap Part.tokens) : signs.contains c = true := by
  refine sign_of_exec (exec_parts (exec_config env s)) ?_
  rw [← token_pieces] at hc
  obtain ⟨p, hp, htoken⟩ := List.mem_map.1 hc
  rw [← token_pieces_config, ← htoken]
  refine List.mem_map_of_mem (List.mem_append.2 ?_)
  rcases hmem with hmem | hmem
  · exact Or.inl (List.mem_flatMap.2 ⟨segment, hmem, hp⟩)
  · exact Or.inr (List.mem_append_right _ (List.mem_flatMap.2 ⟨segment, hmem, hp⟩))

/-- The user name and the password are written in their pieces. -/
lemma flatMap_text_credentialPieces :
    (credentialPieces env s).flatMap Piece.text = final env s .socksUserPass (socksUserPass s) := by
  have hquote : ¬ MarkLetter '"' := by decide
  have hopen : ∀ c ∈ " \"username\": \"".toList, ¬ MarkLetter c := not_markLetter_of_all (by decide)
  have hmiddle : ∀ c ∈ ", \"password\": \"".toList, ¬ MarkLetter c := not_markLetter_of_all (by decide)
  have hclose : ∀ c ∈ ", ".toList, ¬ MarkLetter c := not_markLetter_of_all (by decide)
  rw [credentialPieces, socksUserPass]
  split_ifs with hauth
  · have htext : " \"username\": \"".toList ++ s.inbound_username.toList ++ "\", \"password\": \"".toList ++
        s.inbound_password.toList ++ "\", ".toList =
        " \"username\": \"".toList ++ (s.inbound_username.toList ++ '"' :: (", \"password\": \"".toList ++
          (s.inbound_password.toList ++ '"' :: ", ".toList))) := by
      simp
    rw [htext, final_append env s _ hopen, final_append_cons env s _ hquote, final_append env s _ hmiddle,
      final_append_cons env s _ hquote, final_plain env s _ hclose]
    simp [fixedPiece, rawPiece, Token.write, writeString, escapeChar]
  · exact (final_nil env s .socksUserPass).symm

/-- **The configuration is written in these pieces.** -/
theorem flatMap_text_pieces : (pieces env s).flatMap Piece.text = writeVPNSingBoxConfig env s := by
  have hsegments : ∀ segments : List Segment,
      (∀ segment ∈ segments, segment ∈ frontSegments env s ∨ segment ∈ backSegments s) →
      (segments.flatMap (Segment.pieces env s)).flatMap Piece.text = segments.flatMap (Segment.write env s) := by
    intro segments hmem
    rw [List.flatMap_assoc]
    exact List.flatMap_congr fun segment hsegment =>
      flatMap_text_segment env s fun c => sign_of_mem env s (hmem segment hsegment)
  have hfixed : ∀ h, ∀ text ∈ fixedTexts, final env s h text.toList = text.toList := by
    have hall : ∀ text ∈ fixedTexts, (text.toList.all fun c => !markLetters.contains c) = true := by decide
    exact fun h text htext => final_plain env s h (not_markLetter_of_all (hall text htext))
  obtain ⟨hfake, hname, himpl, hfinal⟩ := mem_fixedTexts env s
  obtain ⟨hfake', hname', himpl', hfinal'⟩ := plain_fixed env s
  have hvalue : ∀ h, h ∉ [Hole.socksUserPass, .stack, .tunName, .finalOut, .fakeDnsInbound] →
      final env s h (writeParts (holeParts env s h)) = final env s h (value env s h) := fun h hne => by
    rw [value_eq_writeParts env s h hne]
  have htexts : final env s .fakeDnsInbound (value env s .fakeDnsInbound) = (fakeDnsInbound s).toList ∧
      final env s .tunName (value env s .tunName) = (genTunName env.os).toList ∧
      final env s .stack (value env s .stack) = (listValue vpnImplementation s.vpn_implementation).toList ∧
      final env s .finalOut (value env s .finalOut) = (noMatchOut s).toList :=
    ⟨hfixed _ _ hfake, hfixed _ _ hname, hfixed _ _ himpl, hfixed _ _ hfinal⟩
  rw [pieces, List.flatMap_append, List.flatMap_append, hsegments _ fun _ => Or.inl, hsegments _ fun _ => Or.inr,
    flatMap_text_credentialPieces, writeVPNSingBoxConfig_eq, template_eq]
  delta frontSegments backSegments
  simp only [render, renderRest, List.flatMap_cons, List.flatMap_nil, Segment.write, writeParts_append,
    writeParts_cons, Part.write_token, Token.write, writeString_of_plain hfake', writeString_of_plain hname',
    writeString_of_plain himpl', writeString_of_plain hfinal', htexts.1, htexts.2.1, htexts.2.2.1, htexts.2.2.2,
    hvalue .dnsRemoteServer (by decide), hvalue .dnsDirectServer (by decide), hvalue .dnsLocalServer (by decide),
    hvalue .tunAddresses (by decide), hvalue .mtu (by decide), hvalue .strictRoute (by decide),
    hvalue .routeExcludeAddresses (by decide), hvalue .port (by decide), hvalue .processNameRule (by decide),
    hvalue .cidrRule (by decide), List.append_assoc, List.cons_append, List.nil_append, List.append_nil]
  rfl

/-! ### Which settings give the tree -/

/-- The strings that come in the place of a mark. -/
def inserted : Hole → List String
  | .tunAddresses => tunAddresses env.tunIncludesIpv6
  | .routeExcludeAddresses => routeExclusions env
  | .dnsRemoteServer => strings (ordered (dnsRemote s))
  | .dnsDirectServer => strings (ordered (dnsDirect s))
  | .dnsLocalServer => strings (ordered (dnsLocal s))
  | .socksUserPass => if needAuth s then [s.inbound_username, s.inbound_password] else []
  | .processNameRule => (processRules env s).flatMap fun rule => strings (ordered rule)
  | .cidrRule => (userRule s "ip_cidr" s.vpn_rule_cidr).flatMap fun rule => strings (ordered rule)
  | .mtu | .stack | .tunName | .strictRoute | .finalOut | .fakeDnsInbound | .port => []

/-- No string that comes in the place of a mark has a mark that is replaced later. -/
def NoLaterMark : Prop := ∀ h, ∀ text ∈ inserted env s h, NoLater h text

/-- These are the strings of the tokens in the place of the mark. -/
lemma text_mem_iff {h : Hole} (hne : h ≠ .socksUserPass) {u : String} :
    Token.text u ∈ (holeParts env s h).flatMap Part.tokens ↔ u ∈ inserted env s h := by
  have hvalue : ∀ v, Token.text u ∈ [Part.value true 0 v].flatMap Part.tokens ↔ u ∈ strings v := fun v => by
    rw [List.flatMap_singleton]
    exact mem_tokens true 0 u v
  have hitems : ∀ items : List String, Token.text u ∈ [Part.value true 0 (texts items)].flatMap Part.tokens ↔
      u ∈ items := fun items => by
    rw [hvalue, texts, strings, mem_itemStrings]
    simp [strings]
  have hrules : ∀ rules : List JsonObject, Token.text u ∈ (rulesParts rules).flatMap Part.tokens ↔
      u ∈ rules.flatMap fun rule => strings (ordered rule) := fun rules => by
    rw [rulesParts, List.flatMap_assoc, List.mem_flatMap, List.mem_flatMap]
    refine exists_congr fun rule => and_congr_right fun _ => ?_
    rw [← mem_tokens false 0 u]
    simp [Part.tokens]
  have hnone : ∀ t : Token, (∀ v, t ≠ .text v) → (Token.text u ∈ [Part.token t].flatMap Part.tokens ↔
      u ∈ ([] : List String)) := fun t ht => by
    simpa [Part.tokens] using (ht u).symm
  cases h with
  | tunAddresses => exact hitems _
  | routeExcludeAddresses => exact hitems _
  | dnsRemoteServer => exact hvalue _
  | dnsDirectServer => exact hvalue _
  | dnsLocalServer => exact hvalue _
  | processNameRule => exact hrules _
  | cidrRule => exact hrules _
  | mtu => exact hnone _ fun _ => Token.noConfusion
  | strictRoute => exact hvalue _
  | port => exact hnone _ fun _ => Token.noConfusion
  | socksUserPass => exact absurd rfl hne
  | stack => simp [holeParts, inserted]
  | tunName => simp [holeParts, inserted]
  | finalOut => simp [holeParts, inserted]
  | fakeDnsInbound => simp [holeParts, inserted]

/-- The pieces are right if and only if no string has a later mark and the user name and the password stand for
themselves. -/
lemma forall_holds_iff : (∀ p ∈ pieces env s, p.holds) ↔ NoLaterMark env s ∧ PlainCredentials s := by
  have hholes : ∀ h, h ∈ [Hole.socksUserPass, .stack, .tunName, .finalOut, .fakeDnsInbound] ∨
      (Segment.hole h ∈ frontSegments env s ∨ Segment.hole h ∈ backSegments s) := by
    intro h
    cases h with
    | tunAddresses => exact Or.inr (Or.inr (by simp [backSegments]))
    | routeExcludeAddresses => exact Or.inr (Or.inl (by simp [frontSegments]))
    | dnsRemoteServer => exact Or.inr (Or.inl (by simp [frontSegments]))
    | dnsDirectServer => exact Or.inr (Or.inl (by simp [frontSegments]))
    | dnsLocalServer => exact Or.inr (Or.inl (by simp [frontSegments]))
    | processNameRule => exact Or.inr (Or.inr (by simp [backSegments]))
    | cidrRule => exact Or.inr (Or.inr (by simp [backSegments]))
    | mtu => exact Or.inr (Or.inl (by simp [frontSegments]))
    | strictRoute => exact Or.inr (Or.inl (by simp [frontSegments]))
    | port => exact Or.inr (Or.inr (by simp [backSegments]))
    | socksUserPass => exact Or.inl (by decide)
    | stack => exact Or.inl (by decide)
    | tunName => exact Or.inl (by decide)
    | finalOut => exact Or.inl (by decide)
    | fakeDnsInbound => exact Or.inl (by decide)
  have hsub : ∀ {segment p}, segment ∈ frontSegments env s ∨ segment ∈ backSegments s → p ∈ segment.pieces env s →
      p ∈ pieces env s := by
    rintro segment p (hmem | hmem) hp
    · exact List.mem_append_left _ (List.mem_flatMap.2 ⟨segment, hmem, hp⟩)
    · exact List.mem_append_right _ (List.mem_append_right _ (List.mem_flatMap.2 ⟨segment, hmem, hp⟩))
  constructor
  · intro h
    have hraw : needAuth s = true → ∀ u ∈ [s.inbound_username, s.inbound_password],
        Plain u ∧ NoLater .socksUserPass u := by
      intro hauth u hu
      refine h (rawPiece env s u) (List.mem_append_right _ (List.mem_append_left _ ?_))
      rw [credentialPieces, if_pos hauth]
      rcases List.mem_cons.1 hu with rfl | hu
      · simp
      · rw [List.mem_singleton.1 hu]
        simp
    refine ⟨fun g text htext => ?_, fun hauth => ⟨(hraw hauth _ (by simp)).1, (hraw hauth _ (by simp)).1⟩⟩
    rcases hholes g with hg | hg
    · simp only [List.mem_cons, List.not_mem_nil, or_false] at hg
      rcases hg with rfl | rfl | rfl | rfl | rfl
      · rw [inserted] at htext
        split_ifs at htext with hauth
        · exact (hraw hauth text htext).2
        · exact absurd htext List.not_mem_nil
      · exact absurd htext List.not_mem_nil
      · exact absurd htext List.not_mem_nil
      · exact absurd htext List.not_mem_nil
      · exact absurd htext List.not_mem_nil
    · have hne : g ≠ .socksUserPass := by
        rintro rfl
        simp [frontSegments, backSegments] at hg
      exact h _ (hsub hg (List.mem_map_of_mem ((text_mem_iff env s hne).2 htext)))
  · rintro ⟨hlater, hplain⟩ p hp
    have hsegments : ∀ segments : List Segment, Segment.hole .socksUserPass ∉ segments →
        ∀ p ∈ segments.flatMap (Segment.pieces env s), p.holds := by
      intro segments hnot p hp
      obtain ⟨segment, hmem, hp⟩ := List.mem_flatMap.1 hp
      cases segment with
      | fixed parts =>
        obtain ⟨t, -, rfl⟩ := List.mem_map.1 hp
        exact trivial
      | hole g =>
        obtain ⟨t, ht, rfl⟩ := List.mem_map.1 hp
        have hne : g ≠ .socksUserPass := by
          rintro rfl
          exact hnot hmem
        cases t with
        | text u => exact hlater g u ((text_mem_iff env s hne).1 ht)
        | _ => exact trivial
    rcases List.mem_append.1 hp with hp | hp
    · exact hsegments _ (by simp [frontSegments]) p hp
    rcases List.mem_append.1 hp with hp | hp
    · rw [credentialPieces] at hp
      split_ifs at hp with hauth
      · have hraw : ∀ u ∈ [s.inbound_username, s.inbound_password], NoLater .socksUserPass u := fun u hu =>
          hlater .socksUserPass u (by rwa [inserted, if_pos hauth])
        have hfixed : ∀ (ts : List Token), ∀ p ∈ ts.map fixedPiece, p.holds := by
          rintro ts p hp
          obtain ⟨t, -, rfl⟩ := List.mem_map.1 hp
          exact trivial
        rcases List.mem_append.1 hp with hp | hp
        · exact hfixed _ p hp
        rcases List.mem_cons.1 hp with rfl | hp
        · exact ⟨(hplain hauth).1, hraw _ (by simp)⟩
        rcases List.mem_append.1 hp with hp | hp
        · exact hfixed _ p hp
        rcases List.mem_cons.1 hp with rfl | hp
        · exact ⟨(hplain hauth).2, hraw _ (by simp)⟩
        · exact hfixed _ p hp
      · exact absurd hp List.not_mem_nil
    · exact hsegments _ (by simp [backSegments]) p hp

/-- Every piece is right or is not read as it should be. -/
lemma sound_pieces : Sound (pieces env s) := by
  have hback : Sound ((backSegments s).flatMap (Segment.pieces env s)) := by
    have hsound := sound_append (a := (backSegments s).flatMap (Segment.pieces env s)) (b := [])
      (fun p hp => by
        obtain ⟨segment, -, hp⟩ := List.mem_flatMap.1 hp
        exact sound_segment env s segment p hp) trivial
    rwa [List.append_nil] at hsound
  have hfixed : ∀ (ts : List Token), ∀ p ∈ ts.map fixedPiece, ∀ rest, p.Sound rest := by
    rintro ts p hp rest
    obtain ⟨t, -, rfl⟩ := List.mem_map.1 hp
    exact ⟨fun _ => rfl, Or.inl trivial⟩
  refine sound_append (fun p hp => ?_) ?_
  · obtain ⟨segment, -, hp⟩ := List.mem_flatMap.1 hp
    exact sound_segment env s segment p hp
  · have hplain : ∀ c ∈ [',', ' '], IsPlain c := by
      intro c hc
      rcases List.mem_cons.1 hc with rfl | hc
      · exact ⟨by decide, by decide, by decide⟩
      · rw [List.mem_singleton.1 hc]
        exact ⟨by decide, by decide, by decide⟩
    -- behind the user name a string begins, and behind the password a line
    have hstop : ∀ {d : Char} {rest y r : List Char}, d = '"' ∨ d.toNat < 32 →
        JsonText.readString (',' :: ' ' :: d :: rest) = some (y, r) → '\\' ∉ y := by
      intro d rest y r hd hread
      have hy : y = [',', ' '] := eq_of_readString_stop hd hplain hread
      rw [hy]
      decide
    rw [credentialPieces]
    split_ifs
    · rw [List.append_assoc, List.cons_append, List.append_assoc, List.cons_append]
      refine sound_append (hfixed _) ⟨sound_rawPiece env s _ fun y r hread => hstop (Or.inl rfl) hread, ?_⟩
      refine sound_append (hfixed _) ⟨sound_rawPiece env s _ fun y r hread => hstop (Or.inr ?_) hread, ?_⟩
      · exact (by decide : ('\n' : Char).toNat < 32)
      · exact sound_append (hfixed _) hback
    · exact hback

/-- The tokens are read as the tree, and every number in them ends. -/
lemma exec_pieces :
    ended false ((pieces env s).map Piece.token) = true ∧
      ((pieces env s).map Piece.token).foldlM Token.exec (.reading [] .value) = some (.done (vpnTree env s)) := by
  rw [token_pieces_config]
  exact ⟨ended_parts (ended_config env s), exec_parts (exec_config env s)⟩

/-- **Settings that give the tree** have no later marks, and a user name and a password that stand for
themselves. -/
lemma noLaterMark_of_parse (h : parse (writeVPNSingBoxConfig env s) = some (vpnTree env s)) :
    NoLaterMark env s ∧ PlainCredentials s := by
  obtain ⟨hended, hexec⟩ := exec_pieces env s
  rw [← flatMap_text_pieces] at h
  exact (forall_holds_iff env s).1 (holds_of_parse (sound_pieces env s) hended hexec h)

/-- **Such settings give the tree.** -/
lemma parse_of_noLaterMark (hlater : NoLaterMark env s) (hplain : PlainCredentials s) :
    parse (writeVPNSingBoxConfig env s) = some (vpnTree env s) := by
  have hall : ∀ ps : List Piece, Sound ps → (∀ p ∈ ps, p.holds) →
      ps.flatMap Piece.text = writeTokens (ps.map Piece.token) := by
    intro ps hsound hholds
    induction ps with
    | nil => rfl
    | cons p ps ih =>
      rw [List.forall_mem_cons] at hholds
      rw [List.flatMap_cons, hsound.1.1 hholds.1, ih hsound.2 hholds.2]
      rfl
  obtain ⟨hended, hexec⟩ := exec_pieces env s
  rw [← flatMap_text_pieces, hall _ (sound_pieces env s) ((forall_holds_iff env s).2 ⟨hlater, hplain⟩)]
  exact parse_tokens hended hexec

/-- **Which settings give the tree**: those of which no string that comes in the place of a mark has a mark that
is replaced later, and whose user name and password stand for themselves. -/
theorem parse_writeVPNSingBoxConfig_iff :
    parse (writeVPNSingBoxConfig env s) = some (vpnTree env s) ↔ NoLaterMark env s ∧ PlainCredentials s :=
  ⟨noLaterMark_of_parse env s, fun h => parse_of_noLaterMark env s h.1 h.2⟩

end Values

/-- **A user name with a quotation mark** does not give the tree. -/
theorem not_parse_writeVPNSingBoxConfig :
    ¬ ∀ (_ : Qt) (env : VpnEnv) (s : Settings),
      parse (writeVPNSingBoxConfig env s) = some (vpnTree env s) := by
  intro h
  let _ := plainQt
  have hparse := h plainQt ⟨.linux, false, []⟩ { inbound_username := "a\"", inbound_password := "b" }
  have hplain := (noLaterMark_of_parse _ _ hparse).2 (by decide)
  exact (hplain.1 '"' (by decide)).1 rfl

end Proxor.Db.Vpn
