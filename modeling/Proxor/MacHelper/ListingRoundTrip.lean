import Mathlib.Data.Bool.AllAny
import Mathlib.Data.List.Nodup
import Proxor.MacHelper.ServiceListing

set_option relaxedAutoImplicit false
set_option autoImplicit false

/-!
# Reading the listings of networksetup back

The names of services are free text. Both listings are printed here for any list of services, and read back
with the parsers of the helper. The lines of one service add that service to what was read before, unless no
name is left of it without the blanks at its end: then only its device is taken, for the service before.

## Main definitions

* `Proxor.MacHelper.HardwareService`, `Proxor.MacHelper.Listing` — services, and what the listings show of them.
* `Proxor.MacHelper.HardwareService.addService` — what the lines of a service add.
* `Proxor.MacHelper.parsed` — what is read of services.
* `Proxor.MacHelper.Listing.read` — both listings, printed and read back.
* `Proxor.MacHelper.Listing.Legible` — the services that can be read back.

## Main results

* `Proxor.MacHelper.Listing.parseServiceOrder_fmtServiceOrder` — the first listing, read back.
* `Proxor.MacHelper.Listing.any_disabled` — the names the second listing shows as disabled.
* `Proxor.MacHelper.Listing.read_eq_expected` — legible services are read back as they are.
* `Proxor.MacHelper.Listing.legible_of_read` — and only those, unless lines without a name mend one another.
-/

namespace Proxor.MacHelper

open Text

/-! ### Services and their lines -/

/-- A comma and a blank do not stand together in a text without a comma and one without a blank behind it. -/
lemma not_infix_append {front back rest : List Char} (hfront : ',' ∉ front) (hback : ' ' ∉ back) :
    ¬ (',' :: ' ' :: rest) <:+: front ++ back := by
  rintro ⟨x, y, h⟩
  rw [List.append_assoc] at h
  rcases List.append_eq_append_iff.1 h with ⟨a, rfl, hright⟩ | ⟨a, -, rfl⟩
  · cases a with
    | nil => exact hback (by rw [List.nil_append] at hright; rw [← hright]; simp)
    | cons c a =>
      obtain ⟨rfl, -⟩ := List.cons_eq_cons.1 hright
      exact hfront (by simp)
  · exact hback (by simp)

/-- A network service. -/
structure HardwareService where
  name : String
  port : String
  device : String
  disabled : Bool
deriving DecidableEq, Repr

namespace HardwareService

variable (s : HardwareService)

/-- The name without the blanks at its end. -/
def shown : String := trimRight [' ', '\t', '\r'] s.name

/-- What stands in the parentheses before the name. -/
def marker (k : ℕ) : String := if s.disabled then "*" else toString ((k : ℤ) + 1)

/-- The lines of the service in the first listing. -/
def orderLines (k : ℕ) : List String :=
  ["(" ++ (s.marker k ++ (") " ++ s.name)),
    "(Hardware Port: " ++ (s.port ++ (", Device: " ++ (s.device ++ ")"))), ""]

/-- The line of the service in the second listing. -/
def allLine : String := (if s.disabled then "*" else "") ++ s.name

/-- What the lines of the service in the first listing add to the services read before them. -/
def addService (services : List NetworkService) : List NetworkService :=
  if s.shown = "" then setLastDevice s.device services
  else services ++ [{ name := s.shown, device := s.device, disabled := s.disabled }]

/-- A service that is enabled and has a device. -/
def Eligible : Prop := s.disabled = false ∧ s.device ≠ ""

instance : Decidable s.Eligible := inferInstanceAs (Decidable (_ ∧ _))

/-- The characters of a marker. -/
lemma of_mem_marker {k : ℕ} {c : Char} (h : c ∈ (s.marker k).toList) : c = '*' ∨ c.isDigit = true ∨ c = '-' := by
  rw [marker] at h
  split_ifs at h
  · exact Or.inl (List.mem_singleton.1 h)
  · exact Or.inr (isDigit_or_of_mem_toString h)

lemma notMem_marker {k : ℕ} {c : Char} (hstar : c ≠ '*') (hdigit : c.isDigit = false) (hminus : c ≠ '-') :
    c ∉ (s.marker k).toList := by
  intro h
  rcases s.of_mem_marker h with h | h | h
  · exact hstar h
  · exact Bool.false_ne_true (hdigit.symm.trans h)
  · exact hminus h

/-- A header line is read as the name behind its marker. -/
lemma parseServiceHeader_marker {name : String} (hne : name ≠ "") {k : ℕ} (hk : k + 1 < 2 ^ 63) :
    parseServiceHeader ("(" ++ (s.marker k ++ (") " ++ name))) = some (name, s.disabled) := by
  by_cases hdisabled : s.disabled = true
  · have hpre : hasPrefix ("(" ++ ("*" ++ (") " ++ name))) "(" = true := by
      simp [hasPrefix]
    have hcut : cut ("(" ++ ("*" ++ (") " ++ name))) ") " = some ("(*", name) := by
      have hlist : ("(" ++ ("*" ++ (") " ++ name))).toList = ['(', '*'] ++ (')' :: [' ']) ++ name.toList := by
        simp
      rw [cut, hlist, show (") " : String).toList = ')' :: [' '] from rfl, cutFirst_append (by decide),
        Option.map_some, String.ofList_toList]
    have hmarker : trimPrefix "(*" "(" = "*" := by decide
    rw [marker, if_pos hdisabled, parseServiceHeader, if_pos hpre, hcut]
    dsimp only
    rw [hmarker, if_pos rfl, if_neg hne, hdisabled]
  · rw [marker, if_neg hdisabled, (Bool.not_eq_true _).mp hdisabled]
    exact parseServiceHeader_header hne hk

/-- The header line adds the service if something is left of its name. -/
lemma parseServiceOrderLine_name {k : ℕ} (hk : k + 1 < 2 ^ 63) (services : List NetworkService) :
    parseServiceOrderLine services ("(" ++ (s.marker k ++ (") " ++ s.name))) =
      if s.shown = "" then services else services ++ [{ name := s.shown, disabled := s.disabled }] := by
  have hassoc : "(" ++ (s.marker k ++ (") " ++ s.name)) = "(" ++ (s.marker k ++ ") ") ++ s.name := by
    simp only [String.append_assoc]
  have htrim : trimRight [' ', '\t', '\r'] ("(" ++ (s.marker k ++ (") " ++ s.name))) =
      if s.shown = "" then "(" ++ (s.marker k ++ ")") else "(" ++ (s.marker k ++ (") " ++ s.shown)) := by
    have hblank : trimRight [' ', '\t', '\r'] ("(" ++ (s.marker k ++ ") ")) = "(" ++ (s.marker k ++ ")") := by
      have hsplit : "(" ++ (s.marker k ++ ") ") = "(" ++ (s.marker k ++ ")") ++ " " := by
        have hclose : (") " : String) = ")" ++ " " := rfl
        rw [hclose]
        simp only [String.append_assoc]
      rw [hsplit, trimRight_append, if_pos (by decide)]
      refine trimRight_eq_self fun c hc => ?_
      rw [String.toList_append, String.toList_append, ← List.append_assoc,
        List.getLast?_append_of_ne_nil _ (by decide)] at hc
      obtain rfl : ')' = c := by simpa using hc
      decide
    rw [hassoc, trimRight_append, hblank]
    change (if s.shown = "" then _ else "(" ++ (s.marker k ++ ") ") ++ s.shown) = _
    simp only [String.append_assoc]
  by_cases hshown : s.shown = ""
  · have hline : "(" ++ (s.marker k ++ ")") ≠ "" := by simp
    have hheader : parseServiceHeader ("(" ++ (s.marker k ++ ")")) = none := by
      have hcut : cut ("(" ++ (s.marker k ++ ")")) ") " = none := by
        rw [← Option.not_isSome_iff_eq_none]
        intro h
        have hwithin := contains_iff.1 h
        have hmem : ' ' ∈ ("(" ++ (s.marker k ++ ")")).toList := hwithin.subset (by decide)
        simp only [String.toList_append, List.mem_append] at hmem
        rcases hmem with h | h | h
        · exact absurd h (by decide)
        · exact s.notMem_marker (by decide) (by decide) (by decide) h
        · exact absurd h (by decide)
      rw [parseServiceHeader, hcut]
      split_ifs <;> rfl
    have hport : hasPrefix ("(" ++ (s.marker k ++ ")")) "(Hardware Port:" = false := by
      rw [Bool.eq_false_iff]
      intro h
      have hmem : 'H' ∈ ("(" ++ (s.marker k ++ ")")).toList :=
        (List.isPrefixOf_iff_prefix.1 h).subset (by decide)
      simp only [String.toList_append, List.mem_append] at hmem
      rcases hmem with h | h | h
      · exact absurd h (by decide)
      · exact s.notMem_marker (by decide) (by decide) (by decide) h
      · exact absurd h (by decide)
    rw [if_pos hshown] at htrim ⊢
    rw [parseServiceOrderLine, htrim, if_neg hline, hheader]
    dsimp only
    rw [hport, Bool.false_and, Bool.false_and, if_neg Bool.false_ne_true]
  · have hline : "(" ++ (s.marker k ++ (") " ++ s.shown)) ≠ "" := by simp
    rw [if_neg hshown] at htrim ⊢
    rw [parseServiceOrderLine, htrim, if_neg hline, s.parseServiceHeader_marker hshown hk]

/-- The hardware line sets the device of the service before. -/
lemma parseServiceOrderLine_port (hdevice : ∀ c ∈ s.device.toList, isSpace c = false)
    (services : List NetworkService) :
    parseServiceOrderLine services ("(Hardware Port: " ++ (s.port ++ (", Device: " ++ (s.device ++ ")")))) =
      setLastDevice s.device services := by
  set line := "(Hardware Port: " ++ (s.port ++ (", Device: " ++ (s.device ++ ")"))) with hline
  have hlist : line.toList =
      ("(Hardware Port: " ++ s.port).toList ++ (", Device:".toList ++ (" " ++ s.device).toList) ++ [')'] := by
    simp [hline]
  have htrim : trimRight [' ', '\t', '\r'] line = line := by
    refine trimRight_eq_self fun c hc => ?_
    rw [hlist, List.getLast?_append_of_ne_nil _ (by simp)] at hc
    obtain rfl : ')' = c := by simpa using hc
    decide
  have hne : line ≠ "" := by simp [hline]
  have hheader : parseServiceHeader line = none := by
    have h := parseServiceHeader_hardware s.port s.device
    rwa [← hline, htrim] at h
  have hpre : hasPrefix line "(Hardware Port:" = true := by
    rw [hasPrefix, List.isPrefixOf_iff_prefix, hline, String.toList_append]
    exact List.prefix_append_of_prefix (by decide)
  have hsuffix : hasSuffix line ")" = true := by
    rw [hasSuffix, List.isSuffixOf_iff_suffix, hlist]
    exact List.suffix_append _ _
  have hcut : cutAtLast (trimSuffix line ")") ", Device:" =
      some ("(Hardware Port: " ++ s.port, " " ++ s.device) := by
    -- behind this comma no other stands before a blank
    have hlast : ¬ ", Device:".toList <:+: ", Device:".toList.tail ++ (" " ++ s.device).toList := by
      rw [String.toList_append, ← List.append_assoc]
      exact not_infix_append (by decide) fun h => absurd (hdevice ' ' h) (by decide)
    have hinner : line = ("(Hardware Port: " ++ s.port) ++ (", Device:" ++ (" " ++ s.device)) ++ ")" := by
      have hmark : (", Device: " : String) = ", Device:" ++ " " := rfl
      rw [hline, hmark]
      simp only [String.append_assoc]
    rw [hinner, trimSuffix_append]
    exact cutAtLast_append (by decide) hlast _
  have hword : trimSpace (" " ++ s.device) = s.device := by
    rw [trimSpace_cons_space]
    exact trimSpace_eq_self hdevice
  rw [parseServiceOrderLine, htrim, if_neg hne, hheader]
  dsimp only
  rw [hpre, hsuffix, hcut]
  cases services with
  | nil => rfl
  | cons a services => rw [if_pos (by simp)]; dsimp only; rw [hword]

end HardwareService

/-! ### What is read of services -/

open HardwareService

/-- The device that stands last before the next service with a name. -/
def behind (device : String) : List HardwareService → String
  | [] => device
  | s :: rest => if s.shown = "" then behind s.device rest else device

/-- What is read of services. -/
def parsed : List HardwareService → List NetworkService
  | [] => []
  | s :: rest =>
    if s.shown = "" then parsed rest
    else { name := s.shown, device := behind s.device rest, disabled := s.disabled } :: parsed rest

/-- The services that should be read. -/
def eligible (services : List HardwareService) : List NetworkService :=
  (services.filter fun s => decide s.Eligible).map fun s => { name := s.name, device := s.device }

lemma eligible_cons (s : HardwareService) (services : List HardwareService) :
    eligible (s :: services) =
      if s.Eligible then { name := s.name, device := s.device } :: eligible services else eligible services := by
  by_cases h : s.Eligible <;> simp [eligible, h]

/-- Adding services behind one. -/
lemma foldl_addService_append (services : List HardwareService) (acc : List NetworkService) (a : NetworkService) :
    services.foldl (fun acc s => s.addService acc) (acc ++ [a]) =
      acc ++ { a with device := behind a.device services } :: parsed services := by
  induction services generalizing acc a with
  | nil => rfl
  | cons s services ih =>
    rw [List.foldl_cons, addService, behind, parsed]
    by_cases hshown : s.shown = ""
    · rw [if_pos hshown, if_pos hshown, if_pos hshown, setLastDevice_append, ih]
    · rw [if_neg hshown, if_neg hshown, if_neg hshown, ih, List.append_assoc, List.singleton_append]

/-- Adding all services. -/
lemma foldl_addService (services : List HardwareService) :
    services.foldl (fun acc s => s.addService acc) [] = parsed services := by
  induction services with
  | nil => rfl
  | cons s services ih =>
    rw [List.foldl_cons, addService, parsed]
    by_cases hshown : s.shown = ""
    · rw [if_pos hshown, if_pos hshown]
      exact ih
    · rw [if_neg hshown, if_neg hshown, foldl_addService_append]
      rfl

/-- The services that are read, each with the services behind it. -/
lemma mem_parsed {a : NetworkService} {services : List HardwareService} :
    a ∈ parsed services ↔ ∃ s rest, s :: rest <:+ services ∧ s.shown ≠ "" ∧
      a = { name := s.shown, device := behind s.device rest, disabled := s.disabled } := by
  induction services with
  | nil =>
    refine ⟨fun h => absurd h List.not_mem_nil, ?_⟩
    rintro ⟨s, rest, hsuffix, -⟩
    exact absurd (List.suffix_nil.1 hsuffix) (List.cons_ne_nil s rest)
  | cons t services ih =>
    rw [parsed]
    constructor
    · intro h
      split_ifs at h with hshown
      · obtain ⟨s, rest, hsuffix, hrest⟩ := ih.1 h
        exact ⟨s, rest, hsuffix.trans (List.suffix_cons t services), hrest⟩
      · rcases List.mem_cons.1 h with rfl | h
        · exact ⟨t, services, List.suffix_refl _, hshown, rfl⟩
        · obtain ⟨s, rest, hsuffix, hrest⟩ := ih.1 h
          exact ⟨s, rest, hsuffix.trans (List.suffix_cons t services), hrest⟩
    · rintro ⟨s, rest, hsuffix, hshown, rfl⟩
      rcases List.suffix_cons_iff.1 hsuffix with heq | hsuffix
      · obtain ⟨rfl, rfl⟩ := List.cons_eq_cons.1 heq
        rw [if_neg hshown]
        exact List.mem_cons_self
      · have hmem := ih.2 ⟨s, rest, hsuffix, hshown, rfl⟩
        split_ifs
        · exact hmem
        · exact List.mem_cons_of_mem _ hmem

/-- The device behind a service is its own or that of a service without a name. -/
lemma behind_cases (device : String) (services : List HardwareService) :
    behind device services = device ∨ ∃ b ∈ services, b.shown = "" ∧ b.device = behind device services := by
  induction services generalizing device with
  | nil => exact Or.inl rfl
  | cons s services ih =>
    rw [behind]
    split_ifs with hshown
    · rcases ih s.device with h | ⟨b, hb, hblank, hdevice⟩
      · exact Or.inr ⟨s, List.mem_cons_self, hshown, h.symm⟩
      · exact Or.inr ⟨b, List.mem_cons_of_mem _ hb, hblank, hdevice⟩
    · exact Or.inl rfl

/-! ### Both listings -/

/-- Services that fit on the lines of the listings: names and ports are texts on one line, a device is a word. -/
structure Listing where
  services : List HardwareService
  names_nodup : (services.map (·.name)).Nodup
  length_lt : services.length < 2 ^ 63
  line : ∀ s ∈ services, '\n' ∉ s.name.toList ∧ '\n' ∉ s.port.toList
  device_word : ∀ s ∈ services, ∀ c ∈ s.device.toList, isSpace c = false

/-- No line of a listing is an error of networksetup. -/
lemma checkNoError_unlines {ls : List String} (hls : ∀ l ∈ ls, '\n' ∉ l.toList) :
    checkNoError (unlines ls) = .ok () ↔ ∀ l ∈ ls, hasPrefix (trimSpace l) "** Error:" = false := by
  have hempty : hasPrefix (trimSpace "") "** Error:" = false := by decide
  rw [checkNoError, splitLines_unlines hls]
  constructor
  · intro h l hl
    split at h
    · cases h
    · next hfind => exact Bool.eq_false_iff.2 (List.find?_eq_none.1 hfind l (List.mem_append_left _ hl))
  · intro h
    have hfind : (ls ++ [""]).find? (fun line => hasPrefix (trimSpace line) "** Error:") = none := by
      refine List.find?_eq_none.2 fun l hl => Bool.eq_false_iff.1 ?_
      rcases List.mem_append.1 hl with hl | hl
      · exact h l hl
      · rw [List.mem_singleton.1 hl]
        exact hempty
    rw [hfind]

/-- A line that begins with something else than an asterisk or a blank is no error. -/
lemma hasPrefix_trimSpace {line : String} {c : Char} {cs : List Char} (hline : line.toList = c :: cs)
    (hspace : isSpace c = false) (hstar : c ≠ '*') : hasPrefix (trimSpace line) "** Error:" = false := by
  rw [Bool.eq_false_iff]
  intro h
  have hdrop : line.toList.dropWhile isSpace = c :: cs := by
    rw [hline, List.dropWhile_cons, hspace]
    rfl
  have hpre := (List.isPrefixOf_iff_prefix.1 h).trans
    (show (trimSpace line).toList <+: c :: cs by
      rw [trimSpace, hdrop, String.toList_ofList]
      exact List.rdropWhile_prefix _ _)
  exact hstar (List.cons_prefix_cons.1 hpre).1.symm

namespace Listing

variable (l : Listing)

/-- The output of `-listnetworkserviceorder`. -/
def fmtServiceOrder : String :=
  unlines (listingHeader :: l.services.zipIdx.flatMap fun p => p.1.orderLines p.2)

/-- The output of `-listallnetworkservices`. -/
def fmtAllServices : String := unlines (listingHeader :: l.services.map (·.allLine))

/-- Both listings, printed and read back. -/
def read : Except Err (List NetworkService) := do
  let order ← parseServiceOrder l.fmtServiceOrder
  let all ← parseAllServices l.fmtAllServices
  return eligibleServices order all

/-- The lines of services add them. -/
lemma foldl_orderLines {ps : List (HardwareService × ℕ)}
    (hps : ∀ p ∈ ps, p.1 ∈ l.services ∧ p.2 + 1 < 2 ^ 63) (services : List NetworkService) :
    (ps.flatMap fun p => p.1.orderLines p.2).foldl parseServiceOrderLine services =
      (ps.map (·.1)).foldl (fun acc s => s.addService acc) services := by
  induction ps generalizing services with
  | nil => rfl
  | cons p ps ih =>
    obtain ⟨hmem, hlength⟩ := hps p List.mem_cons_self
    have hempty : ∀ services, parseServiceOrderLine services "" = services := fun _ => rfl
    have hfold : (p.1.orderLines p.2).foldl parseServiceOrderLine services = p.1.addService services := by
      rw [orderLines, List.foldl_cons, List.foldl_cons, List.foldl_cons, List.foldl_nil,
        p.1.parseServiceOrderLine_name hlength, p.1.parseServiceOrderLine_port (l.device_word p.1 hmem), hempty,
        addService]
      split_ifs
      · rfl
      · exact setLastDevice_append _ _ _
    rw [List.flatMap_cons, List.foldl_append, hfold, ih fun q hq => hps q (List.mem_cons_of_mem _ hq),
      List.map_cons, List.foldl_cons]

/-- The lines of the first listing are lines, and begin with a letter or a parenthesis. -/
lemma of_mem_orderLines {line : String}
    (h : line ∈ listingHeader :: l.services.zipIdx.flatMap fun p => p.1.orderLines p.2) :
    '\n' ∉ line.toList ∧ hasPrefix (trimSpace line) "** Error:" = false := by
  rcases List.mem_cons.1 h with rfl | h
  · exact ⟨by decide, by decide +kernel⟩
  · obtain ⟨p, hp, h⟩ := List.mem_flatMap.1 h
    have hmem : p.1 ∈ l.services := by
      obtain ⟨-, -, heq⟩ := List.mem_zipIdx hp
      exact heq ▸ List.getElem_mem _
    obtain ⟨hname, hport⟩ := l.line p.1 hmem
    have hdevice : '\n' ∉ p.1.device.toList := fun h =>
      absurd (l.device_word p.1 hmem '\n' h) (by decide)
    have hmarker : '\n' ∉ (p.1.marker p.2).toList := p.1.notMem_marker (by decide) (by decide) (by decide)
    have hopen : ∀ rest : String, ("(" ++ rest).toList = '(' :: rest.toList := fun rest => by
      rw [String.toList_append]
      rfl
    simp only [orderLines, List.mem_cons, List.not_mem_nil, or_false] at h
    rcases h with rfl | rfl | rfl
    · refine ⟨?_, hasPrefix_trimSpace (hopen _) (by decide) (by decide)⟩
      simp only [String.toList_append, List.mem_append, not_or]
      exact ⟨by decide, hmarker, by decide, hname⟩
    · have hport' : ("(Hardware Port: " : String) = "(" ++ "Hardware Port: " := rfl
      refine ⟨?_, ?_⟩
      · simp only [String.toList_append, List.mem_append, not_or]
        exact ⟨by decide, hport, by decide, hdevice, by decide⟩
      · rw [hport', String.append_assoc]
        exact hasPrefix_trimSpace (hopen _) (by decide) (by decide)
    · exact ⟨by decide, by decide⟩

/-- **The first listing** is read as its services, as far as they have names. -/
theorem parseServiceOrder_fmtServiceOrder : parseServiceOrder l.fmtServiceOrder = .ok (parsed l.services) := by
  have hps : ∀ p ∈ l.services.zipIdx, p.1 ∈ l.services ∧ p.2 + 1 < 2 ^ 63 := by
    intro p hp
    have hlength := l.length_lt
    obtain ⟨-, hlt, heq⟩ := List.mem_zipIdx hp
    exact ⟨heq ▸ List.getElem_mem _, by omega⟩
  have hlines : ∀ line ∈ listingHeader :: l.services.zipIdx.flatMap fun p => p.1.orderLines p.2,
      '\n' ∉ line.toList := fun line h => (l.of_mem_orderLines h).1
  have hok : checkNoError l.fmtServiceOrder = .ok () :=
    (checkNoError_unlines hlines).2 fun line h => (l.of_mem_orderLines h).2
  have hhead : parseServiceOrderLine [] listingHeader = [] := by decide
  have hlast : ∀ services, parseServiceOrderLine services "" = services := fun _ => rfl
  have hfold : (splitLines l.fmtServiceOrder).foldl parseServiceOrderLine [] = parsed l.services := by
    rw [fmtServiceOrder, splitLines_unlines hlines, List.cons_append, List.foldl_cons, hhead, List.foldl_append,
      l.foldl_orderLines hps, List.zipIdx_map_fst, foldl_addService, List.foldl_cons, List.foldl_nil, hlast]
  rw [parseServiceOrder, hok]
  exact congrArg Except.ok hfold

end Listing

/-! ### Disabled services -/

namespace HardwareService

/-- The line of the service in the second listing shows this name as disabled. -/
def ShowsDisabled (s : HardwareService) (name : String) : Prop :=
  if s.disabled then s.shown = name else s.shown = "*" ++ name

instance (s : HardwareService) (name : String) : Decidable (s.ShowsDisabled name) :=
  inferInstanceAs (Decidable (if s.disabled then s.shown = name else s.shown = "*" ++ name))

/-- The line of a service shows one name as disabled, or none. -/
lemma any_parseAllServicesLine (s : HardwareService) (name : String) (services : List NetworkService) :
    ((parseAllServicesLine services s.allLine).any fun a => a.disabled && a.name == name) =
      ((services.any fun a => a.disabled && a.name == name) || decide (s.ShowsDisabled name)) := by
  have hheader : ∀ {line : String} {cs : List Char}, line.toList = '*' :: cs →
      hasPrefix line "An asterisk (*) denotes" = false := by
    intro line cs hline
    rw [hasPrefix, hline]
    rfl
  have hstar : ∀ rest : String, ("*" ++ rest).toList = '*' :: rest.toList := fun rest => by
    rw [String.toList_append]
    rfl
  have hpre : ∀ rest : String, hasPrefix ("*" ++ rest) "*" = true := fun rest => by
    rw [hasPrefix, hstar]
    rfl
  have hrest : ∀ rest : String, trimPrefix ("*" ++ rest) "*" = rest := fun rest => by
    rw [trimPrefix, if_pos (hpre rest), hstar]
    exact String.ofList_toList
  have hadd : ∀ rest : String, (if ("*" ++ rest = "" ||
      hasPrefix ("*" ++ rest) "An asterisk (*) denotes") = true then services
      else if hasPrefix ("*" ++ rest) "*" = true then
        services ++ [{ name := trimPrefix ("*" ++ rest) "*", disabled := true }]
      else services ++ [{ name := "*" ++ rest }]) = services ++ [{ name := rest, disabled := true }] := by
    intro rest
    rw [hheader (hstar rest), if_neg (by simp), if_pos (hpre rest), hrest]
  unfold allLine parseAllServicesLine ShowsDisabled
  by_cases hdisabled : s.disabled = true
  · have htrim : trimRight [' ', '\t', '\r'] ("*" ++ s.name) = "*" ++ s.shown := by
      rw [trimRight_append]
      change (if s.shown = "" then _ else "*" ++ s.shown) = _
      split_ifs with hshown
      · rw [hshown]
        decide
      · rfl
    simp only [if_pos hdisabled]
    rw [htrim, hadd, List.any_append]
    simp [beq_eq_decide]
  · have htrim : trimRight [' ', '\t', '\r'] ("" ++ s.name) = s.shown := by
      rw [String.empty_append]
      rfl
    simp only [if_neg hdisabled]
    rw [htrim]
    by_cases hasterisk : hasPrefix s.shown "*" = true
    · obtain ⟨rest, hshown⟩ : ∃ rest, s.shown = "*" ++ rest := by
        obtain ⟨cs, hcs⟩ := List.isPrefixOf_iff_prefix.1 hasterisk
        refine ⟨String.ofList cs, String.toList_inj.1 ?_⟩
        rw [← hcs, hstar]
        exact congrArg ('*' :: ·) String.toList_ofList.symm
      rw [hshown, hadd, List.any_append]
      simp [beq_eq_decide, String.append_right_inj]
    · have hne : s.shown ≠ "*" ++ name := fun h => hasterisk (h ▸ hpre name)
      rw [decide_eq_false hne, Bool.or_false, if_neg hasterisk]
      split_ifs
      · rfl
      · rw [List.any_append]
        exact Bool.or_false _

end HardwareService

namespace Listing

variable (l : Listing)

/-- The second listing shows this name as disabled. -/
def ShownDisabled (name : String) : Prop := ∃ s ∈ l.services, s.ShowsDisabled name

instance (name : String) : Decidable (l.ShownDisabled name) := inferInstanceAs (Decidable (∃ s ∈ _, _))

/-- No service has a name that is printed like an error. -/
def Silent : Prop := ∀ s ∈ l.services, hasPrefix (trimSpace s.allLine) "** Error:" = false

instance : Decidable l.Silent := inferInstanceAs (Decidable (∀ s ∈ _, _))

lemma newline_notMem_allLines {line : String} (h : line ∈ listingHeader :: l.services.map (·.allLine)) :
    '\n' ∉ line.toList := by
  rcases List.mem_cons.1 h with rfl | h
  · decide
  · obtain ⟨s, hs, rfl⟩ := List.mem_map.1 h
    rw [allLine, String.toList_append, List.mem_append, not_or]
    refine ⟨?_, (l.line s hs).1⟩
    split_ifs <;> decide

/-- The second listing is read unless a service has a name that is printed like an error. -/
lemma checkNoError_fmtAllServices : checkNoError l.fmtAllServices = .ok () ↔ l.Silent := by
  have hhead : hasPrefix (trimSpace listingHeader) "** Error:" = false := by decide +kernel
  rw [fmtAllServices, checkNoError_unlines fun line h => l.newline_notMem_allLines h]
  constructor
  · exact fun h s hs => h _ (List.mem_cons_of_mem _ (List.mem_map_of_mem hs))
  · intro h line hline
    rcases List.mem_cons.1 hline with rfl | hline
    · exact hhead
    · obtain ⟨s, hs, rfl⟩ := List.mem_map.1 hline
      exact h s hs

/-- **The names the second listing shows as disabled.** -/
theorem any_disabled (name : String) :
    (((splitLines l.fmtAllServices).foldl parseAllServicesLine []).any fun a => a.disabled && a.name == name) =
      decide (l.ShownDisabled name) := by
  have hfold : ∀ (ss : List HardwareService) (services : List NetworkService),
      (((ss.map (·.allLine)).foldl parseAllServicesLine services).any fun a => a.disabled && a.name == name) =
        ((services.any fun a => a.disabled && a.name == name) || ss.any fun s => decide (s.ShowsDisabled name)) := by
    intro ss
    induction ss with
    | nil => exact fun services => (Bool.or_false _).symm
    | cons s ss ih =>
      intro services
      rw [List.map_cons, List.foldl_cons, ih, s.any_parseAllServicesLine, List.any_cons, Bool.or_assoc]
  have hhead : parseAllServicesLine [] listingHeader = [] := by decide
  have hlast : ∀ services, parseAllServicesLine services "" = services := fun _ => rfl
  have hsplit : splitLines l.fmtAllServices = (listingHeader :: l.services.map (·.allLine)) ++ [""] :=
    splitLines_unlines fun line h => l.newline_notMem_allLines h
  rw [hsplit, List.cons_append, List.foldl_cons, hhead, List.foldl_append, List.foldl_cons, List.foldl_nil,
    hlast, hfold, List.any_nil, Bool.false_or, Bool.eq_iff_iff, List.any_eq_true, decide_eq_true_iff]
  exact exists_congr fun s => and_congr_right fun _ => decide_eq_true_iff

/-- What should be read back. -/
def expected : List NetworkService := eligible l.services

/-- Services that can be read back: none is printed like an error, and those to be found have names without blanks
at their ends, which are not shown as disabled. No name is lost between an enabled service and its device. -/
structure Legible : Prop where
  silent : l.Silent
  name : ∀ s ∈ l.services, s.Eligible → s.name ≠ "" ∧ s.shown = s.name
  enabled : ∀ s ∈ l.services, s.Eligible → ¬ l.ShownDisabled s.name
  device : ∀ s rest, s :: rest <:+ l.services → s.disabled = false → s.shown ≠ "" → ¬ l.ShownDisabled s.shown →
    behind s.device rest = s.device

/-- What is kept of the first listing. -/
def kept (a : NetworkService) : Bool := !a.disabled && !decide (l.ShownDisabled a.name) && !(a.device == "")

lemma kept_eq_true {a : NetworkService} :
    l.kept a = true ↔ a.disabled = false ∧ ¬ l.ShownDisabled a.name ∧ a.device ≠ "" := by
  rw [kept, Bool.and_eq_true, Bool.and_eq_true, Bool.not_eq_true', Bool.not_eq_true', Bool.not_eq_true',
    decide_eq_false_iff_not, beq_eq_false_iff_ne, and_assoc]

/-- **Both listings, read back.** -/
theorem read_eq_ok_iff {services : List NetworkService} :
    l.read = .ok services ↔ l.Silent ∧ (parsed l.services).filter l.kept = services := by
  have hkept : eligibleServices (parsed l.services)
      ((splitLines l.fmtAllServices).foldl parseAllServicesLine []) = (parsed l.services).filter l.kept := by
    refine List.filter_congr fun a _ => ?_
    rw [l.any_disabled, kept, Bool.not_or, Bool.not_or]
  rw [read, l.parseServiceOrder_fmtServiceOrder, parseAllServices, ← checkNoError_fmtAllServices, ← hkept]
  cases hcheck : checkNoError l.fmtAllServices with
  | error e => exact ⟨fun h => (by cases h), fun h => (by cases h.1)⟩
  | ok u => exact ⟨fun h => ⟨rfl, Except.ok.inj h⟩, fun h => congrArg Except.ok h.2⟩

/-! ### What is read back -/

/-- Services that are legible are kept with their own names and devices. -/
lemma filter_parsed {services : List HardwareService}
    (hname : ∀ s ∈ services, s.Eligible → s.name ≠ "" ∧ s.shown = s.name)
    (henabled : ∀ s ∈ services, s.Eligible → ¬ l.ShownDisabled s.name)
    (hdevice : ∀ s rest, s :: rest <:+ services → s.disabled = false → s.shown ≠ "" →
      ¬ l.ShownDisabled s.shown → behind s.device rest = s.device) :
    (parsed services).filter l.kept = eligible services := by
  induction services with
  | nil => rfl
  | cons s services ih =>
    have ih := ih (fun t ht => hname t (List.mem_cons_of_mem _ ht))
      (fun t ht => henabled t (List.mem_cons_of_mem _ ht))
      fun t rest hsuffix => hdevice t rest (hsuffix.trans (List.suffix_cons s services))
    have hmem : s ∈ s :: services := List.mem_cons_self
    by_cases heligible : s.Eligible
    · obtain ⟨hne, hshown⟩ := hname s hmem heligible
      have hnot := henabled s hmem heligible
      have hne' : s.shown ≠ "" := fun h => hne (hshown.symm.trans h)
      have hbehind : behind s.device services = s.device :=
        hdevice s services (List.suffix_refl _) heligible.1 hne' (hshown.symm ▸ hnot)
      have hkept : l.kept { name := s.shown, device := behind s.device services, disabled := s.disabled } = true :=
        l.kept_eq_true.2 ⟨heligible.1, hshown.symm ▸ hnot, hbehind.symm ▸ heligible.2⟩
      rw [parsed, if_neg hne', List.filter_cons_of_pos hkept, ih, eligible_cons, if_pos heligible, hshown, hbehind,
        heligible.1]
    · rw [eligible_cons, if_neg heligible, parsed]
      split_ifs with hblank
      · exact ih
      · rw [List.filter_cons_of_neg, ih]
        rw [kept_eq_true]
        rintro ⟨hon, hnot, hbehind⟩
        rw [hdevice s services (List.suffix_refl _) hon hblank hnot] at hbehind
        exact heligible ⟨hon, hbehind⟩

/-- **Legible services are read back** as they are. -/
theorem read_eq_expected (h : l.Legible) : l.read = .ok l.expected :=
  l.read_eq_ok_iff.2 ⟨h.silent, l.filter_parsed h.name h.enabled h.device⟩

/-- A service is followed by the same services wherever it stands. -/
lemma eq_of_suffix {s : HardwareService} {rest rest' : List HardwareService}
    (h : s :: rest <:+ l.services) (h' : s :: rest' <:+ l.services) : rest = rest' := by
  have hnotMem : ∀ {r : List HardwareService}, s :: r <:+ l.services → s ∉ r := by
    intro r hsuffix hmem
    have hnodup := (List.Nodup.of_map _ l.names_nodup).sublist hsuffix.sublist
    exact (List.nodup_cons.1 hnodup).1 hmem
  have hsub : ∀ {r r' : List HardwareService}, s :: r <:+ s :: r' → s ∉ r' → r = r' := by
    intro r r' hsuffix hmem
    rcases List.suffix_cons_iff.1 hsuffix with heq | hsuffix
    · exact (List.cons_eq_cons.1 heq).2
    · exact absurd (hsuffix.subset List.mem_cons_self) hmem
  rcases List.suffix_or_suffix_of_suffix h h' with hle | hle
  · exact hsub hle (hnotMem h')
  · exact (hsub hle (hnotMem h)).symm

/-- **Services that are read back are legible**, if no disabled service without a name has a device. -/
theorem legible_of_read (hblank : ∀ s ∈ l.services, s.disabled = true → s.shown = "" → s.device = "")
    (h : l.read = .ok l.expected) : l.Legible := by
  obtain ⟨hsilent, hfilter⟩ := l.read_eq_ok_iff.1 h
  -- an eligible service is read, with the name and the device of a service that may be another one
  have hread : ∀ s ∈ l.services, s.Eligible → ∃ t rest, t :: rest <:+ l.services ∧ t.shown = s.name ∧
      behind t.device rest = s.device ∧ t.disabled = false ∧ t.shown ≠ "" ∧ ¬ l.ShownDisabled t.shown := by
    intro s hs heligible
    have hmem : { name := s.name, device := s.device } ∈ l.expected :=
      List.mem_map.2 ⟨s, List.mem_filter.2 ⟨hs, decide_eq_true heligible⟩, rfl⟩
    rw [← hfilter] at hmem
    obtain ⟨hparsed, hkept⟩ := List.mem_filter.1 hmem
    obtain ⟨t, rest, hsuffix, hshown, heq⟩ := mem_parsed.1 hparsed
    obtain ⟨-, hnot, -⟩ := l.kept_eq_true.1 hkept
    obtain ⟨hname, hdevice, hon⟩ := NetworkService.mk.inj heq
    exact ⟨t, rest, hsuffix, hname.symm, hdevice.symm, hon.symm, hshown, hname ▸ hnot⟩
  have hname : ∀ s ∈ l.services, s.Eligible → s.name ≠ "" ∧ s.shown = s.name := by
    intro s hs heligible
    obtain ⟨t, -, -, hshown, -, -, hne, -⟩ := hread s hs heligible
    refine ⟨fun h => hne (hshown.trans h), ?_⟩
    rw [shown, ← hshown]
    exact trimRight_trimRight _ _
  -- so no service without a name has a device
  have hnone : ∀ b ∈ l.services, b.shown = "" → b.device = "" := by
    intro b hb hshown
    by_cases hon : b.disabled = true
    · exact hblank b hb hon hshown
    · by_contra hdevice
      obtain ⟨hne, heq⟩ := hname b hb ⟨(Bool.not_eq_true _).mp hon, hdevice⟩
      exact hne (heq.symm.trans hshown)
  have hbehind : ∀ s rest, s :: rest <:+ l.services → behind s.device rest = s.device ∨ behind s.device rest = "" := by
    intro s rest hsuffix
    rcases behind_cases s.device rest with h | ⟨b, hb, hshown, hdevice⟩
    · exact Or.inl h
    · exact Or.inr (hdevice.symm.trans (hnone b (hsuffix.subset (List.mem_cons_of_mem _ hb)) hshown))
  refine ⟨hsilent, hname, fun s hs heligible => ?_, fun s rest hsuffix hon hshown hnot => ?_⟩
  · obtain ⟨t, -, -, hshown, -, -, -, hnot⟩ := hread s hs heligible
    exact hshown ▸ hnot
  · have hs : s ∈ l.services := hsuffix.subset List.mem_cons_self
    by_cases hdevice : s.device = ""
    · rcases hbehind s rest hsuffix with h | h
      · exact h
      · exact h.trans hdevice.symm
    -- the service that is read for this one has its name and its device, so it is this one
    · obtain ⟨t, rest', hsuffix', hname', hdevice', hon', -, -⟩ := hread s hs ⟨hon, hdevice⟩
      have ht : t ∈ l.services := hsuffix'.subset List.mem_cons_self
      have hown : behind t.device rest' = t.device := by
        rcases hbehind t rest' hsuffix' with h | h
        · exact h
        · exact absurd (hdevice'.symm.trans h) hdevice
      have heligible : t.Eligible := ⟨hon', fun h => hdevice (hdevice'.symm.trans (hown.trans h))⟩
      have heq : t = s :=
        List.inj_on_of_nodup_map l.names_nodup ht hs ((hname t ht heligible).2.symm.trans hname')
      subst heq
      rw [l.eq_of_suffix hsuffix hsuffix']
      exact hown

/-- **Which services are read back**: the legible ones, and only those as long as no disabled service without a
name has a device. -/
theorem read_listings_iff (l : Listing) :
    (l.Legible → l.read = .ok l.expected) ∧
      ((∀ s ∈ l.services, s.disabled = true → s.shown = "" → s.device = "") →
        (l.read = .ok l.expected ↔ l.Legible)) :=
  ⟨l.read_eq_expected, fun hblank => ⟨l.legible_of_read hblank, l.read_eq_expected⟩⟩

/-- A service, and one with its name and an asterisk before it. -/
def starredServices : List HardwareService :=
  [{ name := "Wi-Fi", port := "Wi-Fi", device := "en0", disabled := false },
    { name := "*Wi-Fi", port := "USB", device := "en7", disabled := false }]

lemma starredServices_word : ∀ s ∈ starredServices, ∀ c ∈ s.device.toList, isSpace c = false := by
  have hwords : ∀ s ∈ starredServices, (s.device.toList.all fun c => decide (isSpace c = false)) = true := by decide
  exact fun s hs => List.all_iff_forall_prop.1 (hwords s hs)

/-- Their listings. -/
def starred : Listing :=
  ⟨starredServices, by decide, by decide, by decide, starredServices_word⟩

/-- **A second service** with the name of the first and an asterisk before it hides the first. -/
theorem not_read_listings : ¬ ∀ l : Listing, l.read = .ok l.expected := by
  intro h
  have hlost : (parsed starred.services).filter starred.kept ≠ starred.expected := by decide +kernel
  exact hlost (starred.read_eq_ok_iff.1 (h starred)).2

end Listing

end Proxor.MacHelper
