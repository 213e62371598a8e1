import Proxor.Db.ConfigRule

set_option relaxedAutoImplicit false
set_option autoImplicit false

/-!
# Where the lines of a user go

A line of a user is put into the array of its kind, which is its prefix. The code removes the prefix
wherever it occurs, and makes a regular expression lower case as it does with names.

## Main definitions

* `Proxor.Db.Kind`, `Proxor.Db.kindOf` — the kind of a line, and the array it is for.
* `Proxor.Db.written`, `Proxor.Db.wanted` — what the code puts there, and what is expected.
* `Proxor.Db.CaseMap` — making a text lower case.
* `Proxor.Db.Classified` — every line is in the array of its kind.

## Main results

* `Proxor.Db.makeRule_eq` — the arrays of a rule.
* `Proxor.Db.written_eq_wanted_iff` — when one line is as expected.
* `Proxor.Db.classified_iff` — when a rule is.
* `Proxor.Db.not_classified` — a regular expression that is changed.
-/

namespace Proxor.Db

open Text

/-! ### Kinds -/

/-- The kind of a line: what the user means. -/
inductive Kind
  | geosite
  | full
  | domain
  | regexp
  | keyword
  | plain
  | geoip
  | cidr
deriving DecidableEq

/-- The prefix of a kind. -/
def Kind.mark : Kind → String
  | .geosite => "geosite:"
  | .full => "full:"
  | .domain => "domain:"
  | .regexp => "regexp:"
  | .keyword => "keyword:"
  | .geoip => "geoip:"
  | .plain | .cidr => ""

/-- The array of a kind. -/
def Kind.field : Kind → String
  | .geosite => "geosite"
  | .full => "domain"
  | .domain | .plain => "domain_suffix"
  | .regexp => "domain_regex"
  | .keyword => "domain_keyword"
  | .geoip => "geoip"
  | .cidr => "ip_cidr"

/-- The lines of a kind are host names. -/
def Kind.isHost : Kind → Bool
  | .full | .domain | .keyword | .plain => true
  | .geosite | .regexp | .geoip | .cidr => false

/-- The kind of a line: the first prefix that it has. -/
def kindOf (isIP : Bool) (item : String) : Kind :=
  if isIP then if hasPrefix item "geoip:" then .geoip else .cidr
  else if hasPrefix item "geosite:" then .geosite
  else if hasPrefix item "full:" then .full
  else if hasPrefix item "domain:" then .domain
  else if hasPrefix item "regexp:" then .regexp
  else if hasPrefix item "keyword:" then .keyword
  else .plain

/-- The arrays of a rule, in the order in which they are set. -/
def ruleFields (isIP : Bool) : List String :=
  if isIP then ["ip_cidr", "geoip"]
  else ["domain", "domain_suffix", "domain_keyword", "domain_regex", "geosite"]

/-- The text behind the prefix of a line. -/
def behind (isIP : Bool) (item : String) : String :=
  String.ofList (item.toList.drop (kindOf isIP item).mark.length)

/-- What is expected of a line: the text behind its prefix, in lower case if it is a host name. -/
def wanted (toLower : String → String) (isIP : Bool) (item : String) : String :=
  if (kindOf isIP item).isHost then toLower (behind isIP item) else behind isIP item

/-- What the code puts into the array. -/
def written (toLower : String → String) (isIP : Bool) (item : String) : String :=
  match kindOf isIP item with
  | .geosite => erased item "geosite:"
  | .full => toLower (erased item "full:")
  | .domain => toLower (erased item "domain:")
  | .regexp => toLower (erased item "regexp:")
  | .keyword => toLower (erased item "keyword:")
  | .plain => toLower item
  | .geoip => erased item "geoip:"
  | .cidr => item

/-- The lines whose array it is, in their order. -/
def linesOf (isIP : Bool) (list : List String) (field : String) : List String :=
  list.filter fun item => (kindOf isIP item).field == field

/-- **Every line is in the array of its kind**, in the order of the list and as it is expected, and the rule is
empty if and only if the list is. -/
structure Classified (toLower : String → String) (list : List String) (isIP : Bool) (rule : JsonObject) :
    Prop where
  empty : rule = [] ↔ list = []
  fields : list ≠ [] → rule.map Prod.fst = ruleFields isIP
  items : list ≠ [] → ∀ field ∈ ruleFields isIP,
    rule.get? field = some (texts ((linesOf isIP list field).map (wanted toLower isIP)))

/-! ### The arrays of a rule -/

section Arrays

variable (toLower : String → String)

/-- The items of the domains of a list. -/
lemma foldl_add (list : List String) (items : DomainItems) :
    list.foldl (DomainItems.add toLower) items =
      { keyword := items.keyword ++ (linesOf false list "domain_keyword").map (written toLower false)
        subdomain := items.subdomain ++ (linesOf false list "domain_suffix").map (written toLower false)
        regexp := items.regexp ++ (linesOf false list "domain_regex").map (written toLower false)
        full := items.full ++ (linesOf false list "domain").map (written toLower false)
        geosite := items.geosite ++ (linesOf false list "geosite").map (written toLower false) } := by
  induction list generalizing items with
  | nil => simp [linesOf]
  | cons item list ih =>
    rw [List.foldl_cons, ih]
    by_cases h₁ : hasPrefix item "geosite:" = true
    · simp [DomainItems.add, linesOf, kindOf, Kind.field, written, h₁]
    by_cases h₂ : hasPrefix item "full:" = true
    · simp [DomainItems.add, linesOf, kindOf, Kind.field, written, h₁, h₂]
    by_cases h₃ : hasPrefix item "domain:" = true
    · simp [DomainItems.add, linesOf, kindOf, Kind.field, written, h₁, h₂, h₃]
    by_cases h₄ : hasPrefix item "regexp:" = true
    · simp [DomainItems.add, linesOf, kindOf, Kind.field, written, h₁, h₂, h₃, h₄]
    by_cases h₅ : hasPrefix item "keyword:" = true
    · simp [DomainItems.add, linesOf, kindOf, Kind.field, written, h₁, h₂, h₃, h₄, h₅]
    · simp [DomainItems.add, linesOf, kindOf, Kind.field, written, h₁, h₂, h₃, h₄, h₅]

/-- The array of a kind is one of the rule. -/
lemma field_mem (isIP : Bool) (item : String) : (kindOf isIP item).field ∈ ruleFields isIP := by
  rw [kindOf]
  cases isIP with
  | true => rw [if_pos rfl]; split <;> decide
  | false =>
    rw [if_neg Bool.false_ne_true]
    repeat' split
    all_goals decide

/-- Every line is in one of the arrays. -/
lemma eq_nil_iff (isIP : Bool) (list : List String) :
    list = [] ↔ ∀ field ∈ ruleFields isIP, linesOf isIP list field = [] := by
  constructor
  · rintro rfl field _
    rfl
  · rintro h
    cases list with
    | nil => rfl
    | cons item list =>
      have hnil := h _ (field_mem isIP item)
      rw [linesOf, List.filter_cons, if_pos (beq_self_eq_true _)] at hnil
      exact absurd hnil (List.cons_ne_nil _ _)

/-- The addresses of a list. -/
lemma filter_cidr (list : List String) :
    (list.filter fun item => !hasPrefix item "geoip:") =
      (linesOf true list "ip_cidr").map (written toLower true) := by
  induction list with
  | nil => rfl
  | cons item list ih =>
    by_cases h : hasPrefix item "geoip:" = true
    · simp [linesOf, kindOf, Kind.field, h, ih]
    · simp [linesOf, kindOf, Kind.field, written, h, ih]

lemma filter_geoip (list : List String) :
    ((list.filter fun item => hasPrefix item "geoip:").map fun item => erased item "geoip:") =
      (linesOf true list "geoip").map (written toLower true) := by
  induction list with
  | nil => rfl
  | cons item list ih =>
    by_cases h : hasPrefix item "geoip:" = true
    · simp [linesOf, kindOf, Kind.field, written, h, ih]
    · simp [linesOf, kindOf, Kind.field, h, ih]

/-- **The arrays of a rule.** -/
theorem makeRule_eq (list : List String) (isIP : Bool) :
    makeRule toLower list isIP =
      if list = [] then []
      else (ruleFields isIP).map fun field =>
        (field, texts ((linesOf isIP list field).map (written toLower isIP))) := by
  have hnil := eq_nil_iff isIP list
  cases isIP with
  | true =>
    simp only [ruleFields, if_pos, List.forall_mem_cons, List.not_mem_nil, false_implies, implies_true,
      and_true] at hnil
    simp only [makeRule, if_pos, filter_cidr toLower, filter_geoip toLower, List.map_eq_nil_iff, ← hnil,
      ruleFields, List.map_cons, List.map_nil]
  | false =>
    simp only [ruleFields, Bool.false_eq_true, if_false, List.forall_mem_cons, List.not_mem_nil,
      false_implies, implies_true, and_true] at hnil
    have hitems : (linesOf false list "domain_keyword" = [] ∧ linesOf false list "domain_suffix" = [] ∧
        linesOf false list "domain_regex" = [] ∧ linesOf false list "domain" = [] ∧
          linesOf false list "geosite" = []) ↔ list = [] := by
      rw [hnil]
      tauto
    simp only [makeRule, Bool.false_eq_true, if_false, foldl_add, List.nil_append, List.map_eq_nil_iff,
      hitems, ruleFields, List.map_cons, List.map_nil]

end Arrays

/-! ### One line -/

/-- Making a text lower case, character by character: a character becomes one or more characters that stay
as they are. -/
structure CaseMap where
  lower : Char → List Char
  ne_nil : ∀ c, lower c ≠ []
  lowered : ∀ c, ∀ d ∈ lower c, lower d = [d]

/-- `QString::toLower`. -/
def CaseMap.toLower (m : CaseMap) (s : String) : String := String.ofList (s.toList.flatMap m.lower)

variable (m : CaseMap)

/-- A text with characters left out is not as long in lower case. -/
lemma length_flatMap_lt {a b : List Char} (h : a.Sublist b) (hlt : a.length < b.length) :
    (a.flatMap m.lower).length < (b.flatMap m.lower).length := by
  induction h with
  | slnil => exact absurd hlt (Nat.lt_irrefl _)
  | @cons a b c h ih =>
    have hpos : 0 < (m.lower c).length := List.length_pos_iff.2 (m.ne_nil c)
    rw [List.flatMap_cons, List.length_append]
    rcases Nat.lt_or_ge a.length b.length with hlt | hge
    · have := ih hlt
      omega
    · rw [h.eq_of_length_le hge]
      omega
  | @cons_cons a b c h ih =>
    rw [List.flatMap_cons, List.flatMap_cons, List.length_append, List.length_append]
    have := ih (Nat.lt_of_succ_lt_succ hlt)
    omega

/-- A text that is in lower case stays as it is. -/
lemma flatMap_lower_eq_self {l : List Char} (h : ∀ c ∈ l, m.lower c = [c]) : l.flatMap m.lower = l := by
  induction l with
  | nil => rfl
  | cons c l ih =>
    rw [List.forall_mem_cons] at h
    rw [List.flatMap_cons, h.1, ih h.2]
    rfl

/-- A host name without the occurrences of its prefix is another one. -/
lemma flatMap_dropAll_iff {sub l : List Char} (hsub : sub ≠ []) :
    (dropAll sub 0 l).flatMap m.lower = l.flatMap m.lower ↔ ¬ sub <:+: l := by
  constructor
  · rintro h hmem
    have hlt := length_flatMap_lt m (dropAll_sublist sub 0 l) (length_dropAll_lt hsub hmem)
    exact absurd (congrArg List.length h) (Nat.ne_of_lt hlt)
  · rintro h
    rw [(dropAll_eq_self_iff hsub).2 h]

/-- A text without the occurrences of its prefix and in lower case is the text if it was so before. -/
lemma flatMap_dropAll_eq_self_iff {sub l : List Char} (hsub : sub ≠ []) :
    (dropAll sub 0 l).flatMap m.lower = l ↔ ¬ sub <:+: l ∧ l.flatMap m.lower = l := by
  constructor
  · rintro h
    have hlowered : ∀ c ∈ l, m.lower c = [c] := by
      rintro c hc
      rw [← h] at hc
      obtain ⟨d, -, hd⟩ := List.mem_flatMap.1 hc
      exact m.lowered d c hd
    rw [flatMap_lower_eq_self m fun c hc => hlowered c ((dropAll_sublist sub 0 l).subset hc)] at h
    exact ⟨(dropAll_eq_self_iff hsub).1 h, flatMap_lower_eq_self m hlowered⟩
  · rintro ⟨h, hlower⟩
    rw [(dropAll_eq_self_iff hsub).2 h, hlower]

/-- A line is its prefix and the text behind it. -/
lemma toList_eq (isIP : Bool) (item : String) :
    item.toList = (kindOf isIP item).mark.toList ++ (behind isIP item).toList := by
  have hprefix : (kindOf isIP item).mark.toList <+: item.toList := by
    rw [← List.isPrefixOf_iff_prefix]
    change hasPrefix item (kindOf isIP item).mark = true
    rw [kindOf]
    repeat' split
    all_goals first
      | assumption
      | exact List.isPrefixOf_iff_prefix.2 (List.nil_prefix)
  obtain ⟨rest, hrest⟩ := hprefix
  rw [behind, String.toList_ofList, ← hrest, ← String.length_toList, List.drop_left]

/-- The line without the occurrences of its prefix. -/
lemma toList_erased (isIP : Bool) (item : String) {mark : String} (h : (kindOf isIP item).mark = mark)
    (hmark : mark.toList ≠ []) :
    (erased item mark).toList = dropAll mark.toList 0 (behind isIP item).toList := by
  rw [erased, String.toList_ofList]
  conv_lhs => rw [toList_eq isIP item, h]
  exact dropAll_append hmark _

/-- A line of the user is kept: the text behind its prefix does not have the prefix again, and a regular
expression is in lower case. -/
def Kept (m : CaseMap) (isIP : Bool) (item : String) : Prop :=
  ((kindOf isIP item).mark ≠ "" → ¬ (kindOf isIP item).mark.toList <:+: (behind isIP item).toList) ∧
    (kindOf isIP item = .regexp → m.toLower (behind isIP item) = behind isIP item)

/-- What is expected of a line whose text is kept. -/
lemma erased_eq_iff (isIP : Bool) (item : String) {mark : String} (h : (kindOf isIP item).mark = mark)
    (hmark : mark.toList ≠ []) :
    erased item mark = behind isIP item ↔ ¬ mark.toList <:+: (behind isIP item).toList := by
  rw [← String.toList_inj, toList_erased isIP item h hmark, dropAll_eq_self_iff hmark]

lemma toLower_erased_eq_iff (isIP : Bool) (item : String) {mark : String}
    (h : (kindOf isIP item).mark = mark) (hmark : mark.toList ≠ []) :
    m.toLower (erased item mark) = m.toLower (behind isIP item) ↔
      ¬ mark.toList <:+: (behind isIP item).toList := by
  rw [CaseMap.toLower, CaseMap.toLower, String.ofList_inj, toList_erased isIP item h hmark,
    flatMap_dropAll_iff m hmark]

lemma toLower_erased_eq_behind_iff (isIP : Bool) (item : String) {mark : String}
    (h : (kindOf isIP item).mark = mark) (hmark : mark.toList ≠ []) :
    m.toLower (erased item mark) = behind isIP item ↔
      ¬ mark.toList <:+: (behind isIP item).toList ∧ m.toLower (behind isIP item) = behind isIP item := by
  rw [← String.toList_inj, ← String.toList_inj, CaseMap.toLower, CaseMap.toLower, String.toList_ofList,
    String.toList_ofList, toList_erased isIP item h hmark]
  exact flatMap_dropAll_eq_self_iff m hmark

/-- A line with a prefix that is not the one of regular expressions. -/
lemma mem_kept_iff {isIP : Bool} {item : String} {kind : Kind} (h : kindOf isIP item = kind)
    (hmark : kind.mark ≠ "") (hkind : kind ≠ .regexp) :
    Kept m isIP item ↔ ¬ kind.mark.toList <:+: (behind isIP item).toList := by
  rw [Kept, h]
  exact ⟨fun hkept => hkept.1 hmark, fun hinfix => ⟨fun _ => hinfix, fun hregexp => absurd hregexp hkind⟩⟩

/-- A line without a prefix. -/
lemma kept_of_mark_eq {isIP : Bool} {item : String} {kind : Kind} (h : kindOf isIP item = kind)
    (hmark : kind.mark = "") (hkind : kind ≠ .regexp) : Kept m isIP item := by
  rw [Kept, h]
  exact ⟨fun hne => absurd hmark hne, fun hregexp => absurd hregexp hkind⟩

/-- The whole line is behind the prefix that it does not have. -/
lemma behind_eq_self {isIP : Bool} {item : String} (h : (kindOf isIP item).mark = "") :
    behind isIP item = item := by
  rw [← String.toList_inj]
  conv_rhs => rw [toList_eq isIP item, h]
  rfl

/-- **One line** is as expected if and only if it is kept. -/
theorem written_eq_wanted_iff (isIP : Bool) (item : String) :
    written m.toLower isIP item = wanted m.toLower isIP item ↔ Kept m isIP item := by
  rw [written, wanted]
  cases h : kindOf isIP item with
  | geosite =>
    rw [mem_kept_iff m h (by decide) (by decide)]
    exact erased_eq_iff isIP item (congrArg Kind.mark h) (by decide)
  | full =>
    rw [mem_kept_iff m h (by decide) (by decide)]
    exact toLower_erased_eq_iff m isIP item (congrArg Kind.mark h) (by decide)
  | domain =>
    rw [mem_kept_iff m h (by decide) (by decide)]
    exact toLower_erased_eq_iff m isIP item (congrArg Kind.mark h) (by decide)
  | regexp =>
    rw [Kept, h]
    exact (toLower_erased_eq_behind_iff m isIP item (congrArg Kind.mark h) (by decide)).trans ⟨fun hkept => ⟨fun _ => hkept.1, fun _ => hkept.2⟩,
      fun hkept => ⟨hkept.1 (by decide), hkept.2 rfl⟩⟩
  | keyword =>
    rw [mem_kept_iff m h (by decide) (by decide)]
    exact toLower_erased_eq_iff m isIP item (congrArg Kind.mark h) (by decide)
  | plain =>
    rw [behind_eq_self (congrArg Kind.mark h)]
    exact iff_of_true rfl (kept_of_mark_eq m h rfl (by decide))
  | geoip =>
    rw [mem_kept_iff m h (by decide) (by decide)]
    exact erased_eq_iff isIP item (congrArg Kind.mark h) (by decide)
  | cidr =>
    rw [behind_eq_self (congrArg Kind.mark h)]
    exact iff_of_true rfl (kept_of_mark_eq m h rfl (by decide))

/-! ### All lines -/

lemma get?_map {fields : List String} (value : String → Json) {field : String} (h : field ∈ fields) :
    JsonObject.get? (fields.map fun f => (f, value f)) field = some (value field) := by
  induction fields with
  | nil => exact absurd h List.not_mem_nil
  | cons f fields ih =>
    rw [List.map_cons, JsonObject.get?]
    by_cases hf : f = field
    · rw [if_pos hf, hf]
    · rw [if_neg hf]
      exact ih ((List.mem_cons.1 h).resolve_left (Ne.symm hf))

/-- **The lines of a user are in the arrays of their kinds** if and only if every line is kept.

**Proof sketch.** Every line is in one array, and the arrays have the same lines in the same order. -/
theorem classified_iff (list : List String) (isIP : Bool) :
    Classified m.toLower list isIP (makeRule m.toLower list isIP) ↔ ∀ item ∈ list, Kept m isIP item := by
  rw [makeRule_eq]
  by_cases hlist : list = []
  · rw [if_pos hlist]
    refine iff_of_true ⟨iff_of_true rfl hlist, fun h => absurd hlist h, fun h => absurd hlist h⟩ ?_
    rintro item hitem
    rw [hlist] at hitem
    exact absurd hitem List.not_mem_nil
  · rw [if_neg hlist]
    constructor
    · rintro hclassified item hitem
      have hfield := field_mem isIP item
      have hitems := hclassified.items hlist _ hfield
      rw [get?_map (fun field => texts ((linesOf isIP list field).map (written m.toLower isIP))) hfield]
        at hitems
      have hmap := texts_injective (Option.some.inj hitems)
      rw [← written_eq_wanted_iff]
      exact List.map_inj_left.1 hmap item (List.mem_filter.2 ⟨hitem, beq_self_eq_true _⟩)
    · rintro hkept
      refine ⟨iff_of_false ?_ hlist, fun _ => ?_, fun _ field hfield => ?_⟩
      · cases isIP <;> exact List.cons_ne_nil _ _
      · rw [List.map_map]
        exact List.map_id _
      · rw [get?_map (fun field => texts ((linesOf isIP list field).map (written m.toLower isIP))) hfield]
        have hmap : (linesOf isIP list field).map (written m.toLower isIP) =
            (linesOf isIP list field).map (wanted m.toLower isIP) :=
          List.map_congr_left fun item hitem =>
            (written_eq_wanted_iff m isIP item).2 (hkept item (List.mem_filter.1 hitem).1)
        rw [hmap]

/-- The letters A to Z in lower case, and all other characters as they are. -/
def lowerAscii (c : Char) : Char := if c.isUpper then Char.ofNat (c.toNat + 32) else c

lemma lowerAscii_lowerAscii (c : Char) : lowerAscii (lowerAscii c) = lowerAscii c := by
  by_cases hc : c.isUpper = true
  · have hle : c.toNat ≤ 90 := by
      have hletter : c.val ≥ 'A'.val ∧ c.val ≤ 'Z'.val := of_decide_eq_true hc
      exact hletter.2
    have hall : ∀ n ≤ 90, lowerAscii (lowerAscii (Char.ofNat n)) = lowerAscii (Char.ofNat n) := by decide
    rw [← Char.ofNat_toNat c]
    exact hall c.toNat hle
  · have hself : lowerAscii c = c := if_neg hc
    rw [hself, hself]

/-- These letters in lower case. -/
def asciiCase : CaseMap where
  lower c := [lowerAscii c]
  ne_nil _ := List.cons_ne_nil _ _
  lowered c d hd := by rw [List.mem_singleton.1 hd, lowerAscii_lowerAscii]

/-- The expression for what is no digit becomes the one for a digit. -/
theorem not_classified :
    ¬ Classified asciiCase.toLower ["regexp:^\\D+$"] false
      (makeRule asciiCase.toLower ["regexp:^\\D+$"] false) := by
  rintro h
  have hitems := h.items (List.cons_ne_nil _ _) "domain_regex" (by decide)
  have htexts := texts_injective (Option.some.inj hitems)
  exact absurd htexts (by decide)

end Proxor.Db
