import Proxor.MacHelper.SimNet

set_option relaxedAutoImplicit false
set_option autoImplicit false

/-!
# What a capture records

A capture reads the settings of the active services through networksetup's printed output. On a
machine whose settings networksetup can print, whatever subset of its commands fails, what it
records of a service is exactly what the service has, no service is recorded twice, and nothing
changes.

## Main results

* `Proxor.MacHelper.parseProxyState_fmtProxy` and its siblings — the getters read back what is
  printed.
* `Proxor.MacHelper.parseServiceOrder_sublist` — the service listing names services in order.
* `Proxor.MacHelper.ProxyManager.capture_spec` — the capture.
-/

namespace Proxor.MacHelper

open Resumption Text

/-! ### Printed values -/

lemma Line.keyLine_newline {k v : String} (hk : '\n' ∉ k.toList) (hv : '\n' ∉ v.toList) :
    '\n' ∉ (keyLine k v).toList := by
  simp [keyLine, hk, hv]

/-- A printed number has no newline. -/
lemma newline_notMem_toString (p : ℤ) : '\n' ∉ (toString p).toList := by
  intro h
  have := isSpace_of_mem_toString h
  simp [isSpace] at this

/-- A printed number has no blanks around it. -/
lemma trimSpace_toString (p : ℤ) : trimSpace (toString p) = toString p :=
  trimSpace_eq_self fun _ h => isSpace_of_mem_toString h

lemma newline_notMem_yesNo (b : Bool) : '\n' ∉ (yesNo b).toList := by
  cases b <;> decide

lemma parseYesNo_yesNo (b : Bool) : parseYesNo (trimSpace (yesNo b)) = .ok b := by
  cases b <;> rfl

/-- The pair a `Key: value` line stands for. -/
lemma cut_keyLine {k v : String} (hk : ':' ∉ k.toList) :
    (cut (keyLine k v) ":").map (fun kv => (trimSpace kv.1, trimSpace kv.2)) =
      some (trimSpace k, trimSpace v) := by
  rw [keyLine, cut_append hk, Option.map_some, trimSpace_cons_space]

/-- The pairs of a text of `Key: value` lines. -/
lemma keyValues_unlines {kvs : List (String × String)}
    (hn : ∀ kv ∈ kvs, '\n' ∉ kv.1.toList ∧ '\n' ∉ kv.2.toList ∧ ':' ∉ kv.1.toList) :
    keyValues (unlines (kvs.map fun kv => keyLine kv.1 kv.2)) =
      (kvs.map fun kv => (trimSpace kv.1, trimSpace kv.2)).reverse := by
  have hl : ∀ l ∈ kvs.map fun kv => keyLine kv.1 kv.2, '\n' ∉ l.toList := by
    intro l hl
    obtain ⟨kv, hkv, rfl⟩ := List.mem_map.1 hl
    exact Line.keyLine_newline (hn kv hkv).1 (hn kv hkv).2.1
  have hlast : [""].filterMap (fun line =>
      (cut line ":").map fun kv => (trimSpace kv.1, trimSpace kv.2)) = [] := by decide
  rw [keyValues, splitLines_unlines hl, List.filterMap_append, hlast, List.append_nil,
    List.filterMap_map]
  congr 1
  have hf : ∀ kv ∈ kvs, (((fun line : String =>
      (cut line ":").map fun kv => (trimSpace kv.1, trimSpace kv.2)) ∘
      fun kv => keyLine kv.1 kv.2) kv) = some (trimSpace kv.1, trimSpace kv.2) :=
    fun kv hkv => cut_keyLine (hn kv hkv).2.2
  rw [List.filterMap_congr hf, List.filterMap_eq_map']

/-- The proxy getters read back what is printed, if they read anything. -/
lemma parseProxyState_fmtProxy {p q : ProxyState} (hp : Line p.server)
    (h : parseProxyState (fmtProxy p) = .ok q) : q = p := by
  have hkv : keyValues (fmtProxy p) =
      [("Authenticated Proxy Enabled", "0"), ("Port", toString p.port), ("Server", p.server),
        ("Enabled", trimSpace (yesNo p.enabled))] := by
    have hn : ∀ kv ∈ [("Enabled", yesNo p.enabled), ("Server", p.server),
        ("Port", toString p.port), ("Authenticated Proxy Enabled", "0")],
        '\n' ∉ kv.1.toList ∧ '\n' ∉ kv.2.toList ∧ ':' ∉ kv.1.toList := by
      intro kv hkv
      simp only [List.mem_cons, List.not_mem_nil, or_false] at hkv
      rcases hkv with rfl | rfl | rfl | rfl
      · exact ⟨by simp, newline_notMem_yesNo _, by simp⟩
      · exact ⟨by simp, hp.newline, by simp⟩
      · exact ⟨by simp, newline_notMem_toString _, by simp⟩
      · exact ⟨by decide, by decide, by decide⟩
    refine (keyValues_unlines hn).trans ?_
    change [(trimSpace "Authenticated Proxy Enabled", trimSpace "0"),
      (trimSpace "Port", trimSpace (toString p.port)), (trimSpace "Server", trimSpace p.server),
      (trimSpace "Enabled", trimSpace (yesNo p.enabled))] = _
    rw [trimSpace_toString, hp.trimmed]
    rfl
  obtain ⟨-, -, h⟩ := bind_eq_ok.1 h
  have he : (keyValues (fmtProxy p)).lookup "Enabled" = some (trimSpace (yesNo p.enabled)) := by
    simp [hkv, List.lookup_cons]
  have hs : (keyValues (fmtProxy p)).lookup "Server" = some p.server := by
    simp [hkv, List.lookup_cons]
  have ho : (keyValues (fmtProxy p)).lookup "Port" = some (toString p.port) := by
    simp [hkv, List.lookup_cons]
  simp only [he, hs, ho] at h
  obtain ⟨enabled, henabled, h⟩ := bind_eq_ok.1 h
  rw [mapError_eq_ok, parseYesNo_yesNo] at henabled
  obtain rfl := Except.ok.inj henabled
  cases hport : atoi (toString p.port) with
  | none =>
    rw [hport] at h
    exact absurd h (by simp)
  | some port =>
    obtain rfl := eq_of_atoi_toString hport
    rw [hport] at h
    dsimp only at h
    split at h
    · exact absurd h (by simp)
    · exact (pure_eq_ok.1 h).symm

/-- The PAC getter reads back what is printed. -/
lemma parseAutoProxyURL_fmtAutoProxy {url : String} {enabled : Bool} {auto : AutoProxy}
    (hl : Line url) (hne : url ≠ "(null)")
    (h : parseAutoProxyURL (fmtAutoProxy url enabled) = .ok auto) :
    auto = { url, enabled } := by
  set shown := if url = "" then "(null)" else url with hshown
  have hline : Line shown := by
    rw [hshown]
    split
    · exact ⟨by decide, by decide⟩
    · exact hl
  have hkv : keyValues (fmtAutoProxy url enabled) =
      [("Enabled", trimSpace (yesNo enabled)), ("URL", shown)] := by
    have hn : ∀ kv ∈ [("URL", shown), ("Enabled", yesNo enabled)],
        '\n' ∉ kv.1.toList ∧ '\n' ∉ kv.2.toList ∧ ':' ∉ kv.1.toList := by
      intro kv hkv
      simp only [List.mem_cons, List.not_mem_nil, or_false] at hkv
      rcases hkv with rfl | rfl
      · exact ⟨by simp, hline.newline, by simp⟩
      · exact ⟨by simp, newline_notMem_yesNo _, by simp⟩
    refine (keyValues_unlines hn).trans ?_
    change [(trimSpace "Enabled", trimSpace (yesNo enabled)),
      (trimSpace "URL", trimSpace shown)] = _
    rw [hline.trimmed]
    rfl
  obtain ⟨-, -, h⟩ := bind_eq_ok.1 h
  have he : (keyValues (fmtAutoProxy url enabled)).lookup "Enabled" =
      some (trimSpace (yesNo enabled)) := by
    simp [hkv]
  have hu : (keyValues (fmtAutoProxy url enabled)).lookup "URL" = some shown := by
    simp [hkv, List.lookup_cons]
  simp only [he, hu] at h
  obtain ⟨on, hon, h⟩ := bind_eq_ok.1 h
  rw [mapError_eq_ok, parseYesNo_yesNo] at hon
  obtain rfl := Except.ok.inj hon
  have hback : (if shown = "(null)" then "" else shown) = url := by
    by_cases hu : url = ""
    · simp [hshown, hu]
    · simp [hshown, hu, hne]
  rw [Option.getD_some, hback] at h
  exact (pure_eq_ok.1 h).symm

/-- The WPAD getter reads back what is printed. -/
lemma parseAutoDiscovery_fmtAutoDiscovery {on b : Bool}
    (h : parseAutoDiscovery (fmtAutoDiscovery on) = .ok b) : b = on := by
  have hparse : parseAutoDiscovery (fmtAutoDiscovery on) = .ok on := by
    cases on <;> rfl
  simpa [hparse] using h.symm

/-- The bypass getter reads back what is printed. -/
lemma parseBypassDomains_fmtBypass {name : String} {bypass l : List String}
    (hb : ∀ d ∈ bypass, Line d ∧ d ≠ "" ∧ ¬ noBypass.toList <:+: d.toList)
    (h : parseBypassDomains (fmtBypass name bypass) = .ok l) : l = bypass := by
  obtain ⟨-, -, h⟩ := bind_eq_ok.1 h
  by_cases hnil : bypass = []
  · -- the sentence that stands for no entry
    have hc : contains (fmtBypass name bypass) noBypass = true := by
      have hout : fmtBypass name bypass = noBypass ++ (" on " ++ (name ++ ("." ++ "\n"))) := by
        simp [fmtBypass, hnil, String.append_assoc]
      rw [hout, contains_append]
    rw [noBypass] at hc
    rw [hc] at h
    rw [hnil]
    exact (pure_eq_ok.1 h).symm
  · have hc : contains (fmtBypass name bypass) noBypass = false := by
      rw [contains, ← Bool.not_eq_true, Option.isSome_iff_exists]
      rintro ⟨p, hp⟩
      obtain ⟨q, hq, -⟩ := Option.map_eq_some_iff.1 hp
      rw [fmtBypass, if_neg hnil] at hq
      rcases infix_unlines (by decide) (infix_of_cutFirst hq) with h0 | ⟨d, hd, hin⟩
      · exact absurd h0 (by decide)
      · exact (hb d hd).2.2 hin
    rw [noBypass] at hc
    rw [hc, fmtBypass, if_neg hnil, splitLines_unlines fun d hd => (hb d hd).1.newline] at h
    have hmap : (bypass ++ [""]).map trimSpace = bypass ++ [""] := by
      have hself : bypass.map trimSpace = bypass.map id :=
        List.map_congr_left fun d hd => (hb d hd).1.trimmed
      rw [List.map_append, hself, List.map_id]
      rfl
    have hfilter : (bypass ++ [""]).filter (fun t => t != "") = bypass := by
      rw [List.filter_append, List.filter_eq_self.2 fun d hd => by simp [(hb d hd).2.1]]
      simp
    rw [hmap, hfilter] at h
    exact (pure_eq_ok.1 h).symm

/-! ### The service listing -/

/-- Setting a device keeps the names. -/
lemma map_name_setLastDevice (device : String) (services : List NetworkService) :
    (setLastDevice device services).map (·.name) = services.map (·.name) := by
  induction services with
  | nil => rfl
  | cons s ss ih =>
    cases ss with
    | nil => rfl
    | cons s' ss => simpa [setLastDevice] using ih

/-- A line that is no service header leaves the names as they are. -/
lemma map_name_parseServiceOrderLine {raw : String} (services : List NetworkService)
    (h : parseServiceHeader (trimRight [' ', '\t', '\r'] raw) = none) :
    (parseServiceOrderLine services raw).map (·.name) = services.map (·.name) := by
  unfold parseServiceOrderLine
  simp only [h]
  split
  · rfl
  · split
    · split
      · exact map_name_setLastDevice _ _
      · rfl
    · rfl

/-- The characters of the header line of a service. -/
lemma toList_header (name : String) (k : ℤ) : ("(" ++ (toString k ++ (") " ++ name))).toList =
    ('(' :: (toString k).toList) ++ (')' :: [' ']) ++ name.toList := by
  rw [String.toList_append, String.toList_append, String.toList_append]
  simp

/-- The header line of a service has no blank at its end. -/
lemma trimRight_header {name : String} (hne : name ≠ "")
    (hlast : ∀ c, name.toList.getLast? = some c → c ∉ [' ', '\t', '\r']) (k : ℤ) :
    trimRight [' ', '\t', '\r'] ("(" ++ (toString k ++ (") " ++ name))) =
      "(" ++ (toString k ++ (") " ++ name)) := by
  refine trimRight_eq_self fun c hc => hlast c ?_
  have hnl : name.toList ≠ [] := by simpa using hne
  rw [toList_header, List.getLast?_append_of_ne_nil _ hnl] at hc
  exact hc

/-- The header line of a service, cut at its number. -/
lemma cut_header (name : String) (k : ℤ) : cut ("(" ++ (toString k ++ (") " ++ name))) ") " =
    some (String.ofList ('(' :: (toString k).toList), name) := by
  have hno : ')' ∉ '(' :: (toString k).toList := by
    intro h
    rcases List.mem_cons.1 h with h | h
    · exact absurd h (by decide)
    · rcases isDigit_or_of_mem_toString h with h | h <;> exact absurd h (by decide)
  rw [cut, toList_header, show (") " : String).toList = ')' :: [' '] from rfl, cutFirst_append hno,
    Option.map_some, String.ofList_toList]

/-- The header line of a service adds its name, or nothing. -/
lemma parseServiceOrderLine_header {name : String} (hne : name ≠ "")
    (hlast : ∀ c, name.toList.getLast? = some c → c ∉ [' ', '\t', '\r']) (k : ℤ)
    (services : List NetworkService) :
    (parseServiceOrderLine services ("(" ++ (toString k ++ (") " ++ name)))).map (·.name) =
        services.map (·.name) ∨
      (parseServiceOrderLine services ("(" ++ (toString k ++ (") " ++ name)))).map (·.name) =
        services.map (·.name) ++ [name] := by
  have hlist := toList_header name k
  have htrim := trimRight_header hne hlast k
  have hcut := cut_header name k
  set line := "(" ++ (toString k ++ (") " ++ name)) with hline
  cases hh : parseServiceHeader line with
  | none => exact Or.inl (map_name_parseServiceOrderLine _ (by rw [htrim, hh]))
  | some p =>
    right
    have hp : p.1 = name := by
      unfold parseServiceHeader at hh
      rw [hcut] at hh
      simp only at hh
      simp only [hne, if_false] at hh
      split at hh
      · split at hh
        · exact congrArg Prod.fst (Option.some.inj hh).symm
        · split at hh
          · exact absurd hh (by simp)
          · exact congrArg Prod.fst (Option.some.inj hh).symm
      · exact absurd hh (by simp)
    have hl : line ≠ "" := by
      intro h
      simp [h] at hlist
    unfold parseServiceOrderLine
    simp only [htrim, hh, hl, if_false]
    simp [hp]

/-- The hardware line of a service is no service header. -/
lemma parseServiceHeader_hardware (port device : String) :
    parseServiceHeader (trimRight [' ', '\t', '\r']
      ("(Hardware Port: " ++ (port ++ (", Device: " ++ (device ++ ")"))))) = none := by
  set line := "(Hardware Port: " ++ (port ++ (", Device: " ++ (device ++ ")"))) with hline
  obtain ⟨rest, hrest⟩ : ∃ rest, line.toList = '(' :: 'H' :: rest := by
    rw [hline, String.toList_append]
    exact ⟨_, rfl⟩
  have htrim : trimRight [' ', '\t', '\r'] line = line := by
    refine trimRight_eq_self fun c hc => ?_
    have hend : line.toList = ("(Hardware Port: " ++ (port ++ (", Device: " ++ device))).toList ++
        [')'] := by
      simp [hline]
    rw [hend, List.getLast?_append_of_ne_nil _ (by simp)] at hc
    obtain rfl : ')' = c := by simpa using hc
    decide
  rw [htrim, parseServiceHeader]
  split
  · cases hc : cut line ") " with
    | none => rfl
    | some p =>
      obtain ⟨q, hq, rfl⟩ := Option.map_eq_some_iff.1 hc
      obtain ⟨a, ha⟩ : ∃ a, q.1 = '(' :: 'H' :: a := by
        rw [hrest, show (") " : String).toList = [')', ' '] from rfl, cutFirst, if_neg (by simp),
          cutFirst, if_neg (by simp)] at hq
        obtain ⟨q₁, hq₁, rfl⟩ := Option.map_eq_some_iff.1 hq
        obtain ⟨q₂, -, rfl⟩ := Option.map_eq_some_iff.1 hq₁
        exact ⟨_, rfl⟩
      have hmarker : trimPrefix (String.ofList q.1) "(" = String.ofList ('H' :: a) := by
        have hpre : hasPrefix (String.ofList q.1) "(" = true := by simp [hasPrefix, ha]
        rw [trimPrefix, if_pos hpre, ha, String.toList_ofList]
        rfl
      have hstar : String.ofList ('H' :: a) ≠ "*" := by
        intro h
        have := congrArg String.toList h
        simp at this
      have hatoi : (atoi (String.ofList ('H' :: a))).isNone = true := by
        simp [atoi, parseDigits]
      dsimp only
      rw [hmarker, if_neg hstar, if_pos hatoi]
  · rfl

namespace Machine

variable (m : Machine)

/-- Reading the lines of the services adds some of their names, in order. -/
lemma foldl_orderLines {ps : List (String × ℕ)} (hps : ∀ p ∈ ps, p.1 ∈ m.order)
    (services : List NetworkService) :
    ∃ names, List.Sublist names (ps.map (·.1)) ∧
      ((ps.flatMap m.orderLines).foldl parseServiceOrderLine services).map (·.name) =
        services.map (·.name) ++ names := by
  induction ps generalizing services with
  | nil => exact ⟨[], by simp⟩
  | cons p ps ih =>
    obtain ⟨-, hne, hlast⟩ := m.order_line p.1 (hps p (by simp))
    set s₁ := parseServiceOrderLine services ("(" ++ (toString ((p.2 : ℤ) + 1) ++ (") " ++ p.1)))
      with hs₁
    set s₂ := parseServiceOrderLine s₁
      ("(Hardware Port: " ++ (p.1 ++ (", Device: " ++ (m.device p.1 ++ ")")))) with hs₂
    have h₂ : s₂.map (·.name) = s₁.map (·.name) :=
      map_name_parseServiceOrderLine s₁ (parseServiceHeader_hardware _ _)
    have h₃ : (parseServiceOrderLine s₂ "").map (·.name) = s₂.map (·.name) :=
      map_name_parseServiceOrderLine s₂ (by decide)
    obtain ⟨names, hsub, hnames⟩ := ih (fun q hq => hps q (by simp [hq])) (parseServiceOrderLine s₂ "")
    have hfold : (m.orderLines p).foldl parseServiceOrderLine services =
        parseServiceOrderLine s₂ "" := by
      simp only [Hardware.orderLines, List.foldl_cons, List.foldl_nil, hs₂, hs₁]
    rw [List.flatMap_cons, List.foldl_append, hfold, hnames, h₃, h₂]
    rcases parseServiceOrderLine_header hne hlast ((p.2 : ℤ) + 1) services with h | h
    · exact ⟨names, hsub.cons _, by rw [hs₁, h]⟩
    · exact ⟨p.1 :: names, hsub.cons_cons _, by rw [hs₁, h]; simp⟩

/-- The listing names services of the machine, in order and each at most once. -/
lemma parseServiceOrder_sublist {order : List NetworkService}
    (h : parseServiceOrder m.fmtServiceOrder = .ok order) :
    List.Sublist (order.map (·.name)) m.order := by
  have hn : ∀ l ∈ listingHeader :: m.order.zipIdx.flatMap m.orderLines, '\n' ∉ l.toList := by
    intro l hl
    rcases List.mem_cons.1 hl with rfl | hl
    · decide
    · obtain ⟨p, hp, hl⟩ := List.mem_flatMap.1 hl
      have hmem : p.1 ∈ m.order := by
        have := List.mem_zipIdx hp
        simp_all
      have hname := (m.order_line p.1 hmem).1
      have hdev := m.device_line p.1 hmem
      simp only [Hardware.orderLines, List.mem_cons, List.not_mem_nil, or_false] at hl
      rcases hl with rfl | rfl | rfl
      · simp only [String.toList_append, List.mem_append, not_or]
        exact ⟨by decide, newline_notMem_toString _, by decide, hname⟩
      · simp only [String.toList_append, List.mem_append, not_or]
        exact ⟨by decide, hname, by decide, hdev, by decide⟩
      · decide
  obtain ⟨-, -, h⟩ := bind_eq_ok.1 h
  have horder := pure_eq_ok.1 h
  rw [Hardware.fmtServiceOrder, splitLines_unlines hn, List.cons_append, List.foldl_cons,
    List.foldl_append] at horder
  have hhead : parseServiceOrderLine [] listingHeader = [] := by decide
  have hps : ∀ p ∈ m.order.zipIdx, p.1 ∈ m.order := by
    intro p hp
    have := List.mem_zipIdx hp
    simp_all
  obtain ⟨names, hsub, hnames⟩ := m.foldl_orderLines hps []
  rw [hhead] at horder
  have hlast : order.map (·.name) = names := by
    rw [← horder, List.foldl_cons, List.foldl_nil,
      map_name_parseServiceOrderLine _ (by decide), hnames]
    rfl
  rw [hlast]
  simpa using hsub

end Machine

/-! ### The capture -/

/-- A command without target changes no settings. -/
lemma Argv.effect_of_target_eq_none {args : Argv} (ha : args.target = none) (st : Settings) :
    args.effect st = st := by
  cases args <;> simp_all [target, effect]

lemma Hardware.readOnly_cmd (hw : Hardware) (fails : Op → Bool) (phase : Phase) (retry : Bool)
    {args : Argv} (ha : args.target = none) :
    Prog.ReadOnly (hw.handler fails) (.cmd phase retry args) := by
  intro w
  have hnet : (hw.handler fails (.cmd phase retry args) w).2.net = w.net := by
    rcases @Hardware.handler_cmd_net hw fails phase retry args w with h | h
    · exact h
    · obtain ⟨name, -, -, -, h⟩ := h
      rw [h, Argv.effect_of_target_eq_none ha, Function.update_eq_self]
  have hfile := @Hardware.handler_cmd_file hw fails phase retry args w
  generalize (hw.handler fails (.cmd phase retry args) w).2 = w' at hnet hfile
  cases w'
  cases w
  simp_all

namespace ProxyManager

variable {hw : Hardware} {fails : Op → Bool}

lemma opsIn_getter {D : Op → Prop} {α : Type} {args : Argv} (hD : D (.cmd .capture false args))
    (parse : String → Except Err α) : (getter args parse).OpsIn D := by
  refine (opsIn_run hD).bind fun r => ?_
  split
  · trivial
  · split <;> trivial

section OpsIn

variable {D : Op → Prop} (hD : ∀ args : Argv, args.target = none → D (.cmd .capture false args))
include hD

lemma opsIn_snapshotService (name : String) : (snapshotService name).OpsIn D := by
  refine (opsIn_getter (hD _ rfl) _).bind fun _ => ?_
  refine (opsIn_getter (hD _ rfl) _).bind fun _ => ?_
  refine (opsIn_getter (hD _ rfl) _).bind fun _ => ?_
  refine (opsIn_getter (hD _ rfl) _).bind fun _ => ?_
  refine (opsIn_getter (hD _ rfl) _).bind fun _ => ?_
  exact (opsIn_getter (hD _ rfl) _).bind fun _ => trivial

lemma opsIn_activeServices (sched : List ℕ) (services : List NetworkService) :
    (activeServices sched services).OpsIn D := by
  refine Prog.OpsIn.bind (Prog.opsIn_par fun t ht => ?_) fun _ => trivial
  obtain ⟨s, -, rfl⟩ := List.mem_map.1 ht
  split
  · trivial
  · refine (opsIn_run (hD _ rfl)).bind fun r => ?_
    split
    · trivial
    · split <;> trivial

/-- What the thread of one service in a capture does. -/
lemma opsIn_snapshotThread (s : NetworkService) :
    Prog.OpsIn D
      (if !safeServiceName s.name then (.ret (.error (.text "unsafe service name")))
        else snapshotService s.name : Act (Except Err ServiceSnapshot)) := by
  split
  · trivial
  · exact opsIn_snapshotService hD s.name

/-- A capture issues getters and listings only. -/
lemma opsIn_capture (schedActive schedSnapshot : List ℕ) :
    (capture schedActive schedSnapshot).OpsIn D := by
  refine (opsIn_run (hD _ rfl)).bind fun r => ?_
  split
  · trivial
  split
  · trivial
  refine (opsIn_run (hD _ rfl)).bind fun r => ?_
  split
  · trivial
  split
  · trivial
  dsimp only
  split
  · trivial
  refine (opsIn_activeServices hD schedActive _).bind fun active => ?_
  split
  · trivial
  refine Prog.OpsIn.bind (Prog.opsIn_par fun t ht => ?_) fun results => ?_
  · obtain ⟨s, -, rfl⟩ := List.mem_map.1 ht
    exact opsIn_snapshotThread hD s
  · split <;> trivial

end OpsIn

/-- What a getter returns, when it returns something, is what the parser makes of the printed
output of a service that exists. -/
lemma getter_eq_ok {α : Type} {args : Argv} {name : String} (hs : args.service = some name)
    {parse : String → Except Err α} {w : World} {a : α}
    (h : ((getter args parse).run (hw.handler fails) w).1 = .ok a) :
    name ∈ hw.order ∧ parse (hw.output w.net args) = .ok a := by
  rw [getter, Prog.bind_eq, Prog.run_bind] at h
  cases hr : ((run .capture false args).run (hw.handler fails) w).1 with
  | error err =>
    rw [hr] at h
    exact absurd h (by simp)
  | ok out =>
    obtain ⟨hm, rfl⟩ := run_eq_ok hs hr
    rw [hr] at h
    dsimp only at h
    cases hp : parse (hw.output w.net args) with
    | error err =>
      rw [hp] at h
      exact absurd h (by simp)
    | ok a' =>
      rw [hp] at h
      exact ⟨hm, h⟩

/-- A getter changes nothing. -/
lemma getter_state {α : Type} {args : Argv} (ha : args.target = none) (parse : String → Except Err α)
    (w : World) : ((getter args parse).run (hw.handler fails) w).2 = w :=
  (opsIn_getter (hw.readOnly_cmd fails _ _ ha) parse).run_readOnly w

/-- What is recorded of a service is what it has. -/
lemma snapshotService_eq_ok {name : String} {w : World} {ss : ServiceSnapshot}
    (hp : name ∈ hw.order → (w.net name).Printable)
    (h : ((snapshotService name).run (hw.handler fails) w).1 = .ok ss) :
    name ∈ hw.order ∧ ss.name = name ∧ ss.toSettings = w.net name := by
  simp only [snapshotService, Prog.bind_eq, Prog.pure_eq, Prog.run_bind, Prog.run_ret] at h
  rw [getter_state rfl, getter_state rfl, getter_state rfl, getter_state rfl,
    getter_state rfl] at h
  obtain ⟨web, hweb, h⟩ := bind_eq_ok.1 h
  obtain ⟨secure, hsecure, h⟩ := bind_eq_ok.1 h
  obtain ⟨socks, hsocks, h⟩ := bind_eq_ok.1 h
  obtain ⟨bypass, hbypass, h⟩ := bind_eq_ok.1 h
  obtain ⟨auto, hauto, h⟩ := bind_eq_ok.1 h
  obtain ⟨autoDiscovery, hdisc, h⟩ := bind_eq_ok.1 h
  obtain rfl := pure_eq_ok.1 h
  obtain ⟨hm, hweb⟩ := getter_eq_ok rfl hweb
  obtain ⟨-, hsecure⟩ := getter_eq_ok rfl hsecure
  obtain ⟨-, hsocks⟩ := getter_eq_ok rfl hsocks
  obtain ⟨-, hbypass⟩ := getter_eq_ok rfl hbypass
  obtain ⟨-, hauto⟩ := getter_eq_ok rfl hauto
  obtain ⟨-, hdisc⟩ := getter_eq_ok rfl hdisc
  have hp := hp hm
  obtain rfl := parseProxyState_fmtProxy (hp.server .web) hweb
  obtain rfl := parseProxyState_fmtProxy (hp.server .secure) hsecure
  obtain rfl := parseProxyState_fmtProxy (hp.server .socks) hsocks
  obtain rfl := parseBypassDomains_fmtBypass hp.bypass hbypass
  obtain rfl := parseAutoProxyURL_fmtAutoProxy hp.autoURL hp.autoURL_ne hauto
  obtain rfl := parseAutoDiscovery_fmtAutoDiscovery hdisc
  exact ⟨hm, rfl, rfl⟩

/-- The names of the services that could be read, in the order of the services. -/
lemma map_name_collect_sublist {services : List NetworkService}
    {f : NetworkService → Except Err ServiceSnapshot}
    (hf : ∀ s ss, f s = .ok ss → ss.name = s.name) :
    List.Sublist ((collect services (services.map f)).1.map (·.name)) (services.map (·.name)) := by
  unfold collect
  induction services with
  | nil => simp
  | cons s services ih =>
    cases h : f s with
    | error err => simpa [h, Except.toOption] using ih.cons _
    | ok ss => simpa [h, Except.toOption, hf s ss h] using ih.cons_cons s.name

end ProxyManager

/-- What a capture may record: some services of the machine, each at most once, with the settings
they have. -/
structure Captured (hw : Hardware) (net : String → Settings) (services : List ServiceSnapshot) :
    Prop where
  nonempty : services ≠ []
  nodup : (services.map (·.name)).Nodup
  mem : ∀ svc ∈ services, svc.name ∈ hw.order
  safe : ∀ svc ∈ services, safeServiceName svc.name = true
  settings : ∀ svc ∈ services, svc.toSettings = net svc.name

namespace ProxyManager

/-- The elements of a list whose flag is set, in order. -/
lemma map_filter_zip_sublist {α : Type} (l : List α) (flags : List Bool) :
    List.Sublist (((l.zip flags).filter fun p => p.2).map fun p => p.1) l := by
  induction l generalizing flags with
  | nil => simp
  | cons a l ih =>
    cases flags with
    | nil => simp
    | cons b flags =>
      cases b
      · simpa using (ih flags).cons a
      · simpa using (ih flags).cons_cons a

variable (m : Machine) {fails : Op → Bool}

/-- The active services are some of the services, in order. -/
lemma returns_activeServices (sched : List ℕ) (services : List NetworkService) :
    (activeServices sched services).Returns fun active => List.Sublist active services :=
  (Prog.returns_true _).bind fun _ _ => map_filter_zip_sublist _ _

/-- **The capture.** It changes nothing, and what it records is what the machine has.

**Proof sketch.** Every command of a capture is a getter or a listing, so the state never changes
and each service's getters print what the machine has; the recorded services are some of those of
the listing, which are some of the machine's, in order. -/
theorem capture_spec (schedActive schedSnapshot : List ℕ) (w : World) (hnet : w.net = m.net) :
    ((capture schedActive schedSnapshot).run (m.handler fails) w).2 = w ∧
      ∀ snap failed,
        ((capture schedActive schedSnapshot).run (m.handler fails) w).1 = .ok (snap, failed) →
        Captured m.toHardware m.net snap.services ∧ snap.applied = false := by
  have hlist : ∀ {args : Argv}, args.target = none →
      ((run .capture false args).run (m.handler fails) w).2 = w :=
    fun ha => (opsIn_run (m.readOnly_cmd fails _ _ ha)).run_readOnly w
  have hread : ∀ args : Argv, args.target = none →
      Prog.ReadOnly (m.handler fails) (.cmd .capture false args) :=
    fun _ ha => m.readOnly_cmd fails _ _ ha
  have hactive : ∀ services, ((activeServices schedActive services).run (m.handler fails) w).2 = w :=
    fun services => (opsIn_activeServices hread schedActive services).run_readOnly w
  unfold capture
  rw [Prog.bind_eq, Prog.run_bind, hlist rfl]
  cases horder : ((run .capture false .listNetworkServiceOrder).run (m.handler fails) w).1 with
  | error err => exact ⟨rfl, by simp⟩
  | ok orderOut =>
  dsimp only
  cases hparse : parseServiceOrder orderOut with
  | error err => exact ⟨rfl, by simp⟩
  | ok order =>
  dsimp only
  rw [Prog.bind_eq, Prog.run_bind, hlist rfl]
  cases hall : ((run .capture false .listAllNetworkServices).run (m.handler fails) w).1 with
  | error err => exact ⟨rfl, by simp⟩
  | ok allOut =>
  dsimp only
  cases parseAllServices allOut with
  | error err => exact ⟨rfl, by simp⟩
  | ok all =>
  dsimp only
  split
  · exact ⟨rfl, by simp⟩
  rw [Prog.bind_eq, Prog.run_bind, hactive]
  set active := ((activeServices schedActive (eligibleServices order all)).run (m.handler fails) w).1
    with hactivedef
  split
  · exact ⟨rfl, by simp⟩
  rw [Prog.bind_eq, Prog.run_bind, forEachService, Prog.run_par_readOnly fun t ht => by
    obtain ⟨s, -, rfl⟩ := List.mem_map.1 ht
    exact opsIn_snapshotThread hread s]
  rw [List.map_map]
  set result : NetworkService → Except Err ServiceSnapshot := fun s =>
    ((if !safeServiceName s.name then .ret (.error (.text "unsafe service name"))
      else snapshotService s.name : Act (Except Err ServiceSnapshot)).run (m.handler fails) w).1
    with hresult
  have hone : ∀ s ss, result s = .ok ss → safeServiceName s.name = true ∧ s.name ∈ m.order ∧
      ss.name = s.name ∧ ss.toSettings = m.net s.name := by
    intro s ss hs
    rw [hresult] at hs
    dsimp only at hs
    split at hs
    · exact absurd hs (by simp)
    · rename_i hsafe
      obtain ⟨hm, hn, hset⟩ := snapshotService_eq_ok (fun hm => hnet ▸ m.printable _ hm) hs
      exact ⟨by simpa using hsafe, hm, hn, hnet ▸ hset⟩
  have hmap : active.map ((fun t => (Prog.run (m.handler fails) t w).1) ∘ fun s =>
      (if !safeServiceName s.name then .ret (.error (.text "unsafe service name"))
        else snapshotService s.name : Act (Except Err ServiceSnapshot))) = active.map result := rfl
  rw [Prog.pure_eq, hmap]
  cases hc : collect active (active.map result) with
  | mk services failed =>
  dsimp only
  split
  · exact ⟨rfl, by simp⟩
  rename_i hne
  refine ⟨rfl, fun snap failed' h => ?_⟩
  obtain ⟨rfl, -⟩ := Prod.mk.inj (Except.ok.inj h)
  have hservices : services = (active.map result).filterMap fun r => r.toOption :=
    (congrArg Prod.fst hc).symm
  have hmem : ∀ svc ∈ services, ∃ s, result s = .ok svc := by
    intro svc hsvc
    rw [hservices] at hsvc
    obtain ⟨r, hr, hsome⟩ := List.mem_filterMap.1 hsvc
    obtain ⟨s, -, rfl⟩ := List.mem_map.1 hr
    refine ⟨s, ?_⟩
    cases hs : result s with
    | error err => simp [hs, Except.toOption] at hsome
    | ok ss => simpa [hs, Except.toOption] using hsome
  have hsub : List.Sublist (services.map (·.name)) m.order := by
    have hout := listing_eq_ok horder
    have h₁ := @map_name_collect_sublist active result fun s ss hs => (hone s ss hs).2.2.1
    rw [hc] at h₁
    have h₂ : List.Sublist active order :=
      ((returns_activeServices schedActive _).run w).trans List.filter_sublist
    exact (h₁.trans (h₂.map _)).trans (m.parseServiceOrder_sublist (hout ▸ hparse))
  refine ⟨⟨by simpa using hne, hsub.nodup m.order_nodup, ?_, ?_, ?_⟩, rfl⟩
  · exact fun svc hsvc => hsub.subset (List.mem_map_of_mem hsvc)
  · intro svc hsvc
    obtain ⟨s, hs⟩ := hmem svc hsvc
    obtain ⟨hsafe, -, hn, -⟩ := hone s svc hs
    rwa [hn]
  · intro svc hsvc
    obtain ⟨s, hs⟩ := hmem svc hsvc
    obtain ⟨-, -, hn, hset⟩ := hone s svc hs
    rw [hset, hn]

end ProxyManager

end Proxor.MacHelper
