import Proxor.MacHelper.Capture

set_option relaxedAutoImplicit false
set_option autoImplicit false

/-!
# What the listings of networksetup say

The manager finds the services it may touch in two listings. Both are read back here: which services count
as eligible is a matter of the hardware alone, with one exception that the second listing cannot express.

## Main definitions

* `Proxor.MacHelper.Network` — hardware whose names the listings can show.
* `Proxor.MacHelper.Hardware.Eligible`, `Proxor.MacHelper.Hardware.Active` — what the manager looks for.
* `Proxor.MacHelper.Hardware.Starred` — a service that the second listing shows like a disabled one.

## Main results

* `Proxor.MacHelper.Network.mem_eligibleServices` — the services that are read as eligible.
-/

namespace Proxor.MacHelper

open Resumption Text

/-! ### Hardware -/

namespace Hardware

variable (hw : Hardware)

/-- A service to point at the proxy: enabled, with a device and a safe name. -/
structure Eligible (name : String) : Prop where
  mem : name ∈ hw.order
  enabled : hw.disabled name = false
  device : hw.device name ≠ ""
  safe : safeServiceName name = true

/-- A service with an IPv4 address. -/
def Active (name : String) : Prop := hw.noIP name = false

/-- An enabled service that is named like this one with an asterisk before it. -/
def Starred (name : String) : Prop := "*" ++ name ∈ hw.order ∧ hw.disabled ("*" ++ name) = false

instance (name : String) : Decidable (hw.Active name) := inferInstanceAs (Decidable (_ = _))

instance (name : String) : Decidable (hw.Starred name) := inferInstanceAs (Decidable (_ ∧ _))

end Hardware

/-- Hardware whose names fit on the lines of the listings. A device is one word, without a comma. -/
structure Network extends Hardware where
  order_nodup : order.Nodup
  order_length : order.length < 2 ^ 63
  order_line : ∀ name ∈ order, '\n' ∉ name.toList ∧ name ≠ "" ∧
    ∀ c, name.toList.getLast? = some c → c ∉ [' ', '\t', '\r']
  device_word : ∀ name ∈ order, ∀ c ∈ (device name).toList, isSpace c = false ∧ c ≠ ','

/-! ### The order of the services -/

/-- The header line of a service is read as its name. -/
lemma parseServiceHeader_header {name : String} (hne : name ≠ "") {k : ℕ} (hk : k + 1 < 2 ^ 63) :
    parseServiceHeader ("(" ++ (toString ((k : ℤ) + 1) ++ (") " ++ name))) = some (name, false) := by
  have hpre : hasPrefix ("(" ++ (toString ((k : ℤ) + 1) ++ (") " ++ name))) "(" = true := by
    rw [hasPrefix, toList_header]
    rfl
  have hmarker : trimPrefix (String.ofList ('(' :: (toString ((k : ℤ) + 1)).toList)) "(" =
      toString ((k : ℤ) + 1) := by
    have hpre : hasPrefix (String.ofList ('(' :: (toString ((k : ℤ) + 1)).toList)) "(" = true := by
      simp [hasPrefix]
    rw [trimPrefix, if_pos hpre, String.toList_ofList]
    exact String.ofList_toList
  have hnumber : atoi (toString ((k : ℤ) + 1)) = some ((k : ℤ) + 1) := by
    have h := atoi_toString hk
    rwa [Nat.cast_add, Nat.cast_one] at h
  have hstar : toString ((k : ℤ) + 1) ≠ "*" := by
    intro h
    rw [h] at hnumber
    exact absurd hnumber (by simp [atoi, parseDigits])
  rw [parseServiceHeader, if_pos hpre, cut_header]
  dsimp only
  rw [hmarker, if_neg hstar, hnumber, if_neg (by simp), if_neg hne]

/-- The header line of a service adds it. -/
lemma parseServiceOrderLine_name {name : String} (hne : name ≠ "")
    (hlast : ∀ c, name.toList.getLast? = some c → c ∉ [' ', '\t', '\r']) {k : ℕ} (hk : k + 1 < 2 ^ 63)
    (services : List NetworkService) :
    parseServiceOrderLine services ("(" ++ (toString ((k : ℤ) + 1) ++ (") " ++ name))) =
      services ++ [{ name := name }] := by
  have hline : "(" ++ (toString ((k : ℤ) + 1) ++ (") " ++ name)) ≠ "" := by
    intro h
    have hnil := congrArg String.toList h
    rw [toList_header] at hnil
    cases hnil
  rw [parseServiceOrderLine, trimRight_header hne hlast, if_neg hline, parseServiceHeader_header hne hk]

/-- The device of the last service. -/
lemma setLastDevice_append (device : String) (a : NetworkService) (services : List NetworkService) :
    setLastDevice device (services ++ [a]) = services ++ [{ a with device }] := by
  induction services with
  | nil => rfl
  | cons s services ih =>
    cases services with
    | nil => rfl
    | cons s' services => exact congrArg (s :: ·) ih

/-- The hardware line of a service sets its device. -/
lemma parseServiceOrderLine_hardware {port device : String}
    (hdevice : ∀ c ∈ device.toList, isSpace c = false ∧ c ≠ ',') (name : String)
    (services : List NetworkService) :
    parseServiceOrderLine (services ++ [{ name := name }])
      ("(Hardware Port: " ++ (port ++ (", Device: " ++ (device ++ ")")))) =
        services ++ [{ name := name, device := device }] := by
  set line := "(Hardware Port: " ++ (port ++ (", Device: " ++ (device ++ ")"))) with hline
  have hlist : line.toList = ("(Hardware Port: " ++ port).toList ++ (',' :: " Device:".toList) ++
      (" " ++ device).toList ++ [')'] := by
    simp [hline]
  have htrim : trimRight [' ', '\t', '\r'] line = line := by
    refine trimRight_eq_self fun c hc => ?_
    rw [hlist, List.getLast?_append_of_ne_nil _ (by simp)] at hc
    obtain rfl : ')' = c := by simpa using hc
    decide
  have hne : line ≠ "" := by
    intro h
    rw [h] at hlist
    simp at hlist
  have hheader : parseServiceHeader line = none := by
    have h := parseServiceHeader_hardware port device
    rwa [← hline, htrim] at h
  have hpre : hasPrefix line "(Hardware Port:" = true := by
    rw [hasPrefix, List.isPrefixOf_iff_prefix, hline, String.toList_append]
    exact List.prefix_append_of_prefix (by decide)
  have hsuffix : hasSuffix line ")" = true := by
    rw [hasSuffix, List.isSuffixOf_iff_suffix, hlist]
    exact List.suffix_append _ _
  have hcut : cutAtLast (trimSuffix line ")") ", Device:" =
      some ("(Hardware Port: " ++ port, " " ++ device) := by
    have hcomma : ',' ∉ " Device:".toList ++ (" " ++ device).toList := by
      rw [List.mem_append, String.toList_append, List.mem_append, not_or, not_or]
      exact ⟨by decide, by decide, fun h => (hdevice ',' h).2 rfl⟩
    have htake : line.toList.take (line.length - ")".length) =
        ("(Hardware Port: " ++ port).toList ++ (',' :: " Device:".toList) ++ (" " ++ device).toList := by
      rw [← String.length_toList, hlist, List.length_append]
      exact List.take_left
    rw [trimSuffix, if_pos hsuffix, htake, cutAtLast_ofList rfl hcomma, String.ofList_toList,
      String.ofList_toList]
  have hword : trimSpace (" " ++ device) = device := by
    rw [trimSpace_cons_space]
    exact trimSpace_eq_self fun c hc => (hdevice c hc).1
  rw [parseServiceOrderLine, htrim, if_neg hne, hheader]
  dsimp only
  rw [hpre, hsuffix, hcut, if_pos (by simp)]
  dsimp only
  rw [hword, setLastDevice_append]

namespace Network

variable (n : Network)

/-- The services as the first listing shows them. -/
def listed : List NetworkService := n.order.map fun name => { name, device := n.device name }

/-- The lines of services add them, with their devices. -/
lemma foldl_orderLines {ps : List (String × ℕ)} (hps : ∀ p ∈ ps, p.1 ∈ n.order ∧ p.2 + 1 < 2 ^ 63)
    (services : List NetworkService) :
    (ps.flatMap n.orderLines).foldl parseServiceOrderLine services =
      services ++ ps.map fun p => { name := p.1, device := n.device p.1 } := by
  induction ps generalizing services with
  | nil => exact (List.append_nil services).symm
  | cons p ps ih =>
    obtain ⟨hmem, hlength⟩ := hps p List.mem_cons_self
    obtain ⟨-, hne, hlast⟩ := n.order_line p.1 hmem
    have hempty : ∀ services, parseServiceOrderLine services "" = services := fun _ => rfl
    have hfold : (n.orderLines p).foldl parseServiceOrderLine services =
        services ++ [{ name := p.1, device := n.device p.1 }] := by
      rw [Hardware.orderLines, List.foldl_cons, List.foldl_cons, List.foldl_cons, List.foldl_nil,
        parseServiceOrderLine_name hne hlast hlength,
        parseServiceOrderLine_hardware (n.device_word p.1 hmem), hempty]
    rw [List.flatMap_cons, List.foldl_append, hfold, ih fun q hq => hps q (List.mem_cons_of_mem _ hq),
      List.append_assoc, List.map_cons, List.singleton_append]

/-- **The first listing** shows the services, each with its device. -/
theorem eq_listed {order : List NetworkService} (h : parseServiceOrder n.fmtServiceOrder = .ok order) :
    order = n.listed := by
  have hmem : ∀ p ∈ n.order.zipIdx, p.1 ∈ n.order ∧ p.2 + 1 < 2 ^ 63 := by
    intro p hp
    have hlength := n.order_length
    obtain ⟨-, hlt, heq⟩ := List.mem_zipIdx hp
    refine ⟨heq ▸ List.getElem_mem _, ?_⟩
    omega
  have hlines : ∀ l ∈ listingHeader :: n.order.zipIdx.flatMap n.orderLines, '\n' ∉ l.toList := by
    intro l hl
    rcases List.mem_cons.1 hl with rfl | hl
    · decide
    · obtain ⟨p, hp, hl⟩ := List.mem_flatMap.1 hl
      obtain ⟨hname, -, -⟩ := n.order_line p.1 (hmem p hp).1
      have hdevice : '\n' ∉ (n.device p.1).toList := fun h =>
        absurd (n.device_word p.1 (hmem p hp).1 '\n' h).1 (by decide)
      simp only [Hardware.orderLines, List.mem_cons, List.not_mem_nil, or_false] at hl
      rcases hl with rfl | rfl | rfl
      · simp only [String.toList_append, List.mem_append, not_or]
        exact ⟨by decide, newline_notMem_toString _, by decide, hname⟩
      · simp only [String.toList_append, List.mem_append, not_or]
        exact ⟨by decide, hname, by decide, hdevice, by decide⟩
      · decide
  obtain ⟨-, -, h⟩ := bind_eq_ok.1 h
  have horder := pure_eq_ok.1 h
  have hhead : parseServiceOrderLine [] listingHeader = [] := by decide
  have hlast : ∀ services, parseServiceOrderLine services "" = services := fun _ => rfl
  rw [Hardware.fmtServiceOrder, splitLines_unlines hlines, List.cons_append, List.foldl_cons, hhead,
    List.foldl_append, n.foldl_orderLines hmem, List.foldl_cons, List.foldl_nil, hlast] at horder
  rw [← horder, listed, List.nil_append]
  conv_rhs => rw [← List.zipIdx_map_fst 0 n.order]
  rw [List.map_map]
  rfl

/-! ### All services -/

/-- The line of a service in the second listing. -/
def allLine (name : String) : String := (if n.disabled name then "*" else "") ++ name

/-- The line of a service shows itself as disabled, or a service without its asterisk. -/
lemma any_parseAllServicesLine {name : String} (hname : name ∈ n.order) (s : String)
    (services : List NetworkService) :
    ((parseAllServicesLine services (n.allLine name)).any fun a => a.disabled && a.name == s) =
      ((services.any fun a => a.disabled && a.name == s) ||
        if n.disabled name then name == s else name == "*" ++ s) := by
  obtain ⟨-, hne, hlast⟩ := n.order_line name hname
  have hstar : ("*" : String).toList = ['*'] := rfl
  have hheader : ∀ {line : String}, line.toList.head? = some '*' →
      hasPrefix line "An asterisk (*) denotes" = false := by
    intro line hhead
    obtain ⟨cs, hcs⟩ := List.head?_eq_some_iff.1 hhead
    rw [hasPrefix, hcs]
    rfl
  unfold allLine parseAllServicesLine
  by_cases hdisabled : n.disabled name = true
  · have hlist : ("*" ++ name).toList = '*' :: name.toList := by rw [String.toList_append, hstar]; rfl
    have htrim : trimRight [' ', '\t', '\r'] ("*" ++ name) = "*" ++ name := by
      refine trimRight_eq_self fun c hc => hlast c ?_
      have hnl : name.toList ≠ [] := by simpa using hne
      rw [String.toList_append, List.getLast?_append_of_ne_nil _ hnl] at hc
      exact hc
    have hpre : hasPrefix ("*" ++ name) "*" = true := by simp [hasPrefix]
    have hempty : "*" ++ name ≠ "" := by simp
    have hrest : trimPrefix ("*" ++ name) "*" = name := by
      rw [trimPrefix, if_pos hpre, hlist]
      exact String.ofList_toList
    rw [if_pos hdisabled, htrim, if_pos hdisabled]
    dsimp only
    rw [hheader (by rw [hlist]; rfl), hpre, hrest]
    simp [hempty]
  · have htrim : trimRight [' ', '\t', '\r'] name = name := trimRight_eq_self hlast
    have hself : "" ++ name = name := by simp
    rw [if_neg hdisabled, hself, htrim, if_neg hdisabled]
    dsimp only
    by_cases hpre : hasPrefix name "*" = true
    · obtain ⟨rest, hrest⟩ := List.isPrefixOf_iff_prefix.1 hpre
      have hname : name = "*" ++ String.ofList rest := by
        rw [← String.toList_inj, ← hrest]
        simp
      have hhead : name.toList.head? = some '*' := by rw [← hrest]; rfl
      have htail : trimPrefix name "*" = String.ofList rest := by
        rw [trimPrefix, if_pos hpre, ← hrest]
        rfl
      have heq : (name == "*" ++ s) = (String.ofList rest == s) := by
        rw [hname, Bool.eq_iff_iff, beq_iff_eq, beq_iff_eq]
        exact String.append_right_inj _
      rw [hheader hhead, hpre, htail, heq]
      simp [hne]
    · have heq : (name == "*" ++ s) = false := by
        rw [beq_eq_false_iff_ne]
        intro h
        exact hpre (by rw [h]; simp [hasPrefix])
      rw [heq, Bool.or_false, if_neg hpre]
      split_ifs
      · rfl
      · simp

/-- **The second listing** shows a service as disabled if it is, and also if another, enabled one is named like
it with an asterisk before it. -/
theorem any_disabled {all : List NetworkService} (h : parseAllServices n.fmtAllServices = .ok all) (s : String) :
    (all.any fun a => a.disabled && a.name == s) = true ↔
      (s ∈ n.order ∧ n.disabled s = true) ∨ n.Starred s := by
  have hlines : ∀ l ∈ listingHeader :: n.order.map n.allLine, '\n' ∉ l.toList := by
    intro l hl
    rcases List.mem_cons.1 hl with rfl | hl
    · decide
    · obtain ⟨name, hname, rfl⟩ := List.mem_map.1 hl
      rw [allLine, String.toList_append, List.mem_append, not_or]
      refine ⟨?_, (n.order_line name hname).1⟩
      split_ifs <;> decide
  have hfold : ∀ names : List String, (∀ name ∈ names, name ∈ n.order) → ∀ services,
      (((names.map n.allLine).foldl parseAllServicesLine services).any fun a => a.disabled && a.name == s) =
        ((services.any fun a => a.disabled && a.name == s) ||
          names.any fun name => if n.disabled name then name == s else name == "*" ++ s) := by
    intro names
    induction names with
    | nil => exact fun _ services => (Bool.or_false _).symm
    | cons name names ih =>
      intro hnames services
      rw [List.map_cons, List.foldl_cons, ih (fun a ha => hnames a (List.mem_cons_of_mem _ ha)),
        n.any_parseAllServicesLine (hnames name List.mem_cons_self), List.any_cons, Bool.or_assoc]
  obtain ⟨-, -, h⟩ := bind_eq_ok.1 h
  have hall := pure_eq_ok.1 h
  have hhead : parseAllServicesLine [] listingHeader = [] := by decide
  have hlast : ∀ services, parseAllServicesLine services "" = services := fun _ => rfl
  have hsplit : splitLines n.fmtAllServices = (listingHeader :: n.order.map n.allLine) ++ [""] :=
    splitLines_unlines hlines
  rw [hsplit, List.cons_append, List.foldl_cons, hhead, List.foldl_append, List.foldl_cons, List.foldl_nil,
    hlast] at hall
  rw [← hall, hfold n.order (fun _ => id), List.any_nil, Bool.false_or, List.any_eq_true]
  constructor
  · rintro ⟨name, hname, htest⟩
    by_cases hdisabled : n.disabled name = true
    · rw [if_pos hdisabled, beq_iff_eq] at htest
      exact .inl ⟨htest ▸ hname, htest ▸ hdisabled⟩
    · rw [if_neg hdisabled, beq_iff_eq] at htest
      exact .inr ⟨htest ▸ hname, htest ▸ (Bool.not_eq_true _).mp hdisabled⟩
  · rintro (⟨hmem, hdisabled⟩ | ⟨hmem, henabled⟩)
    · exact ⟨s, hmem, by rw [if_pos hdisabled, beq_iff_eq]⟩
    · exact ⟨"*" ++ s, hmem, by rw [henabled, if_neg Bool.false_ne_true, beq_iff_eq]⟩

/-! ### Eligible services -/

variable {n} {order all : List NetworkService}

/-- The services that are read as eligible are some of the services, each once. -/
lemma eligibleServices_sublist (horder : order = n.listed) :
    List.Sublist ((eligibleServices order all).map (·.name)) n.order := by
  have hnames : n.listed.map (·.name) = n.order := by
    rw [listed, List.map_map]
    exact List.map_id _
  have hsub : List.Sublist ((eligibleServices order all).map (·.name)) (order.map (·.name)) :=
    List.filter_sublist.map _
  rwa [horder, hnames, ← horder] at hsub

/-- **The services that are read as eligible**: those that are enabled and have a device, but no one that is
shown like a disabled one. -/
theorem mem_eligibleServices (horder : parseServiceOrder n.fmtServiceOrder = .ok order)
    (hall : parseAllServices n.fmtAllServices = .ok all) (name : String) :
    name ∈ (eligibleServices order all).map (·.name) ↔
      name ∈ n.order ∧ n.disabled name = false ∧ n.device name ≠ "" ∧ ¬n.Starred name := by
  have hlisted := n.eq_listed horder
  have hany := n.any_disabled hall
  constructor
  · intro h
    obtain ⟨s, hs, rfl⟩ := List.mem_map.1 h
    obtain ⟨hmem, htest⟩ := List.mem_filter.1 hs
    rw [hlisted] at hmem
    obtain ⟨name, hname, rfl⟩ := List.mem_map.1 hmem
    simp only [Bool.not_eq_true', Bool.or_eq_false_iff, beq_eq_false_iff_ne] at htest
    obtain ⟨⟨-, hshown⟩, hdevice⟩ := htest
    have hnot : ¬((name ∈ n.order ∧ n.disabled name = true) ∨ n.Starred name) := by
      rw [← hany name, hshown]
      exact Bool.false_ne_true
    rw [not_or] at hnot
    exact ⟨hname, (Bool.not_eq_true _).mp fun hdisabled => hnot.1 ⟨hname, hdisabled⟩, hdevice, hnot.2⟩
  · rintro ⟨hname, henabled, hdevice, hstarred⟩
    refine List.mem_map.2 ⟨{ name, device := n.device name }, List.mem_filter.2 ⟨?_, ?_⟩, rfl⟩
    · rw [hlisted]
      exact List.mem_map_of_mem hname
    · have hnot : ¬((name ∈ n.order ∧ n.disabled name = true) ∨ n.Starred name) := by
        rintro (⟨-, hdisabled⟩ | h)
        · exact Bool.false_ne_true (henabled.symm.trans hdisabled)
        · exact hstarred h
      rw [← hany name] at hnot
      simp only [Bool.not_eq_true', Bool.or_eq_false_iff, beq_eq_false_iff_ne]
      exact ⟨⟨trivial, (Bool.not_eq_true _).mp hnot⟩, hdevice⟩

end Network

end Proxor.MacHelper
