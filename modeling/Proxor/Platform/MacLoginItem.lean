import Mathlib.Data.Bool.AllAny
import Proxor.Lib.Xml

set_option relaxedAutoImplicit false
set_option autoImplicit false

/-!
# The launch agent of macOS

The agent is a property list in XML that is written by hand, and its arguments are read again with a
streaming reader of XML: the array behind the key `ProgramArguments`, one text for each of its strings.

## Main definitions

* `Proxor.Platform.macLaunchAgentArguments`, `Proxor.Platform.macLaunchAgentPlist` — the agent.
* `Proxor.Platform.parseMacLaunchAgentArguments` — its arguments as they are read.

## Main results

* `Proxor.Platform.reads_body` — the tokens of the agent.
* `Proxor.Platform.parse_macLaunchAgentPlist_iff` — the arguments are found again, unless a text has a
  character that no document has.
-/

namespace Proxor.Platform

open Text Xml

/-! ### Writing -/

/-- `MacLaunchAgentSpec`. -/
structure MacLaunchAgentSpec where
  label : String
  bundleId : String
  appBundlePath : String
  appdataDir : String

/-- `MacLaunchAgentArguments`. -/
def macLaunchAgentArguments (spec : MacLaunchAgentSpec) : List String :=
  ["/usr/bin/open", "-a", spec.appBundlePath, "--args", "-tray"] ++
    if spec.appdataDir.isEmpty then [] else ["-appdata", spec.appdataDir]

/-- A character in HTML. -/
def htmlEscape : Char → List Char
  | '<' => "&lt;".toList
  | '>' => "&gt;".toList
  | '&' => "&amp;".toList
  | '"' => "&quot;".toList
  | c => [c]

/-- `QString::toHtmlEscaped`. -/
def toHtmlEscaped (v : String) : String := String.ofList (v.toList.flatMap htmlEscape)

/-- `str`: a string element on a line of its own. -/
def str (v : String) (tabs : ℕ) : String :=
  String.ofList (List.replicate tabs '\t') ++ "<string>" ++ toHtmlEscaped v ++ "</string>\n"

/-- `MacLaunchAgentPlist`: the text, which is stored in UTF-8. -/
def macLaunchAgentPlist (spec : MacLaunchAgentSpec) : String :=
  "<?xml version=\"1.0\" encoding=\"UTF-8\"?>" ++ "\n" ++
    "<!DOCTYPE plist PUBLIC \"-//Apple//DTD PLIST 1.0//EN\" " ++
      "\"http://www.apple.com/DTDs/PropertyList-1.0.dtd\">\n" ++
    "<plist version=\"1.0\">\n<dict>\n" ++
    "\t<key>AssociatedBundleIdentifiers</key>\n\t<array>\n" ++
    str spec.bundleId 2 ++
    "\t</array>\n" ++
    "\t<key>Label</key>\n" ++
    str spec.label 1 ++
    "\t<key>LimitLoadToSessionType</key>\n" ++
    str "Aqua" 1 ++
    "\t<key>ProcessType</key>\n" ++
    str "Interactive" 1 ++
    "\t<key>ProgramArguments</key>\n\t<array>\n" ++
    String.join ((macLaunchAgentArguments spec).map (str · 2)) ++
    "\t</array>\n" ++
    "\t<key>RunAtLoad</key>\n\t<true/>\n" ++
    "</dict>\n</plist>\n"

/-! ### Reading -/

/-- `QXmlStreamReader::readElementText`: the text of the element that has begun, and the tokens behind it. An
element in it is an error. -/
def readElementText : List Token → Option (List Char × List Token)
  | .characters text :: tokens => (readElementText tokens).map fun p => (text ++ p.1, p.2)
  | .comment :: tokens | .processingInstruction :: tokens => readElementText tokens
  | .endElement _ :: tokens => some ([], tokens)
  | _ => none

lemma length_readElementText {tokens : List Token} {p : List Char × List Token}
    (h : readElementText tokens = some p) : p.2.length < tokens.length := by
  induction tokens generalizing p with
  | nil => exact absurd h.symm (Option.some_ne_none _)
  | cons token tokens ih =>
    cases token with
    | characters text =>
      obtain ⟨q, hq, rfl⟩ := Option.map_eq_some_iff.1 h
      have hlt := ih hq
      exact Nat.lt_succ_of_lt hlt
    | comment => exact Nat.lt_succ_of_lt (ih h)
    | processingInstruction => exact Nat.lt_succ_of_lt (ih h)
    | endElement name =>
      obtain rfl := Option.some.inj h
      exact Nat.lt_succ_self _
    | startDocument => exact absurd h.symm (Option.some_ne_none _)
    | dtd => exact absurd h.symm (Option.some_ne_none _)
    | startElement name => exact absurd h.symm (Option.some_ne_none _)
    | endDocument => exact absurd h.symm (Option.some_ne_none _)
    | invalid => exact absurd h.symm (Option.some_ne_none _)

/-- The inner loop of `ParseMacLaunchAgentArguments`: the strings up to the end of the array. After an error
there are none. -/
def arrayStrings (out : List String) : List Token → List String
  | [] => out
  | .invalid :: _ => []
  | .endElement name :: tokens => if name = "array" then out else arrayStrings out tokens
  | .startElement name :: tokens =>
    if name = "string" then
      match h : readElementText tokens with
      | some (text, rest) => arrayStrings (out ++ [String.ofList text]) rest
      | none => []
    else arrayStrings out tokens
  | _ :: tokens => arrayStrings out tokens
termination_by tokens => tokens.length
decreasing_by
  all_goals first
    | exact Nat.lt_succ_of_lt (length_readElementText h)
    | exact Nat.lt_succ_self _

/-- The outer loop of `ParseMacLaunchAgentArguments`: the array behind the key. After an error there is
none. -/
def searchArray (sawKey : Bool) : List Token → List String
  | [] => []
  | .startElement name :: tokens =>
    if name = "key" then
      match h : readElementText tokens with
      | some (text, rest) => searchArray (String.ofList text == "ProgramArguments") rest
      | none => []
    else if sawKey && name == "array" then arrayStrings [] tokens
    else searchArray false tokens
  | _ :: tokens => searchArray sawKey tokens
termination_by tokens => tokens.length
decreasing_by
  all_goals first
    | exact Nat.lt_succ_of_lt (length_readElementText h)
    | exact Nat.lt_succ_self _

/-- `ParseMacLaunchAgentArguments`. -/
def parseMacLaunchAgentArguments (plistXml : String) : List String :=
  searchArray false (Xml.read plistXml.toList)

/-! ### The reader over tokens -/

@[simp] lemma searchArray_charTokens (sawKey : Bool) (s : List Char) (tokens : List Token) :
    searchArray sawKey (charTokens s ++ tokens) = searchArray sawKey tokens := by
  induction s with
  | nil => rfl
  | cons c s ih =>
    change searchArray sawKey (.characters [c] :: (charTokens s ++ tokens)) = _
    rw [searchArray, ih]
    exact fun name h => Token.noConfusion h

/-- The text of an element. -/
@[simp] lemma readElementText_charTokens (s : List Char) (name : String) (tokens : List Token) :
    readElementText (charTokens s ++ .endElement name :: tokens) = some (s, tokens) := by
  induction s with
  | nil => rfl
  | cons c s ih =>
    change readElementText (.characters [c] :: (charTokens s ++ .endElement name :: tokens)) = _
    rw [readElementText, ih]
    rfl

@[simp] lemma readElementText_invalid (s : List Char) :
    readElementText (charTokens s ++ [.invalid]) = none := by
  induction s with
  | nil => rfl
  | cons c s ih =>
    change readElementText (.characters [c] :: (charTokens s ++ [.invalid])) = _
    rw [readElementText, ih]
    rfl

/-- A key with its text. -/
@[simp] lemma searchArray_key (sawKey : Bool) (s : List Char) (tokens : List Token) :
    searchArray sawKey (.startElement "key" :: (charTokens s ++ .endElement "key" :: tokens)) =
      searchArray (String.ofList s == "ProgramArguments") tokens := by
  rw [searchArray, if_pos rfl]
  split
  · next text rest h =>
    obtain ⟨rfl, rfl⟩ := Prod.mk.inj (Option.some.inj ((readElementText_charTokens s "key" tokens).symm.trans h))
    rfl
  · next h => exact absurd ((readElementText_charTokens s "key" tokens).symm.trans h) (Option.some_ne_none _)

@[simp] lemma arrayStrings_charTokens (out : List String) (s : List Char) (tokens : List Token) :
    arrayStrings out (charTokens s ++ tokens) = arrayStrings out tokens := by
  induction s with
  | nil => rfl
  | cons c s ih =>
    change arrayStrings out (.characters [c] :: (charTokens s ++ tokens)) = _
    rw [arrayStrings, ih]
    · exact Token.noConfusion
    · exact fun name h => Token.noConfusion h
    · exact fun name h => Token.noConfusion h

/-- A string of the array. -/
@[simp] lemma arrayStrings_string (out : List String) (s : List Char) (tokens : List Token) :
    arrayStrings out (.startElement "string" :: (charTokens s ++ .endElement "string" :: tokens)) =
      arrayStrings (out ++ [String.ofList s]) tokens := by
  rw [arrayStrings, if_pos rfl]
  split
  · next text rest h =>
    obtain ⟨rfl, rfl⟩ :=
      Prod.mk.inj (Option.some.inj ((readElementText_charTokens s "string" tokens).symm.trans h))
    rfl
  · next h =>
    exact absurd ((readElementText_charTokens s "string" tokens).symm.trans h) (Option.some_ne_none _)

/-! ### A string element -/

lemma escapes_htmlEscape : Escapes htmlEscape := by
  rintro c
  rw [htmlEscape.eq_def]
  split
  · exact Or.inr ⟨"lt".toList, rfl, by decide, rfl⟩
  · exact Or.inr ⟨"gt".toList, rfl, by decide, rfl⟩
  · exact Or.inr ⟨"amp".toList, rfl, by decide, rfl⟩
  · exact Or.inr ⟨"quot".toList, rfl, by decide, rfl⟩
  · next hlt hgt hamp _ => exact Or.inl ⟨rfl, hlt, hamp, hgt⟩

lemma length_le_flatMap_htmlEscape (s : List Char) : s.length ≤ (s.flatMap htmlEscape).length := by
  induction s with
  | nil => exact Nat.le_refl _
  | cons c s ih =>
    rw [List.flatMap_cons, List.length_append, List.length_cons]
    have hpos : 0 < (htmlEscape c).length := by
      rcases escapes_htmlEscape c with ⟨hc, -, -, -⟩ | ⟨body, hc, -, -⟩
      · rw [hc]
        exact Nat.zero_lt_one
      · rw [hc]
        exact Nat.succ_pos _
    omega

lemma toList_str (v : String) (tabs : ℕ) :
    (str v tabs).toList = List.replicate tabs '\t' ++
      ("<string>".toList ++ (v.toList.flatMap htmlEscape ++ "</string>\n".toList)) := by
  rw [str, toHtmlEscaped, String.toList_append, String.toList_append, String.toList_append,
    String.toList_ofList, String.toList_ofList, String.toList_ofList, List.append_assoc, List.append_assoc]

/-- The tokens of a string element on its line. -/
def strTokens (v : String) (tabs : ℕ) : List Token :=
  charTokens (List.replicate tabs '\t') ++
    (.startElement "string" :: (charTokens v.toList ++ [.endElement "string", .characters ['\n']]))

/-- The tabs before an element. -/
lemma reads_tabs (open_ : List String) (tabs : ℕ) :
    Reads (.inside open_) (List.replicate tabs '\t') (charTokens (List.replicate tabs '\t'))
      (.inside open_) := by
  induction tabs with
  | zero => exact ⟨0, Nat.le_refl _, fun _ _ => rfl⟩
  | succ tabs ih =>
    have htab : Reads (.inside open_) ['\t'] [.characters ['\t']] (.inside open_) :=
      ⟨1, Nat.le_refl _, fun _ _ => rfl⟩
    exact htab.append ih

/-- **A string element** is read as the text it was made of. -/
lemma reads_str (element : String) (open_ : List String) {v : String} (tabs : ℕ)
    (hv : ∀ c ∈ v.toList, isChar c = true) :
    Reads (.inside (element :: open_)) (str v tabs).toList (strTokens v tabs)
      (.inside (element :: open_)) := by
  rw [toList_str]
  refine (reads_tabs (element :: open_) tabs).append ?_
  refine ⟨2 + v.toList.length + 1, ?_, fun n rest => ?_⟩
  · have hle := length_le_flatMap_htmlEscape v.toList
    rw [List.length_append, List.length_append]
    change 2 + v.toList.length + 1 ≤ 8 + (_ + 10)
    omega
  · have hstart : ∀ m text, run (m + 1) (.inside (element :: open_)) ("<string>".toList ++ text) =
        .startElement "string" :: run m (.inside ("string" :: element :: open_)) text := fun _ _ => rfl
    have hend : run (n + 2) (.inside ("string" :: element :: open_)) ("</string>\n".toList ++ rest) =
        [.endElement "string", .characters ['\n']] ++ run n (.inside (element :: open_)) rest := rfl
    have hrest : ("</string>\n".toList ++ rest).head? = some '<' := rfl
    rw [← Nat.add_assoc, ← Nat.add_assoc, List.append_assoc, hstart, List.append_assoc,
      run_text escapes_htmlEscape _ hv hrest (n + 2), hend, ← List.append_assoc]
    rfl

/-- A string element with a character that no document has is an error. -/
lemma stops_str (element : String) (open_ : List String) {v : String} (tabs : ℕ) {c : Char}
    (hc : c ∈ v.toList) (hchar : isChar c = false) :
    ∃ s, Stops (.inside (element :: open_)) (str v tabs).toList
      (charTokens (List.replicate tabs '\t') ++ .startElement "string" :: charTokens s) := by
  obtain ⟨s, hs⟩ := run_text_of_not_isChar escapes_htmlEscape ("string" :: element :: open_) hc hchar
  refine ⟨s, ?_⟩
  rw [toList_str]
  refine (reads_tabs (element :: open_) tabs).append_stops ?_
  refine ⟨v.toList.length + 1, ?_, fun n rest => ?_⟩
  · have hle := length_le_flatMap_htmlEscape v.toList
    rw [List.length_append, List.length_append]
    change v.toList.length + 1 ≤ 8 + (_ + 10)
    omega
  · have hstart : ∀ m text, run (m + 1) (.inside (element :: open_)) ("<string>".toList ++ text) =
        .startElement "string" :: run m (.inside ("string" :: element :: open_)) text := fun _ _ => rfl
    rw [← Nat.add_assoc, List.append_assoc, hstart, List.append_assoc,
      hs n ("</string>\n".toList ++ rest) rfl]
    rfl

/-! ### The parts of the agent -/

/-- What comes before the bundle identifier, behind the declaration. -/
def plistFront : String :=
  "\n" ++ ("<!DOCTYPE plist PUBLIC \"-//Apple//DTD PLIST 1.0//EN\" " ++
      "\"http://www.apple.com/DTDs/PropertyList-1.0.dtd\">\n") ++
    "<plist version=\"1.0\">\n<dict>\n" ++ "\t<key>AssociatedBundleIdentifiers</key>\n\t<array>\n"

/-- What comes between the bundle identifier and the label. -/
def plistLabel : String := "\t</array>\n" ++ "\t<key>Label</key>\n"

/-- What comes between the label and the arguments. -/
def plistMiddle : String :=
  "\t<key>LimitLoadToSessionType</key>\n" ++ str "Aqua" 1 ++ "\t<key>ProcessType</key>\n" ++
    str "Interactive" 1 ++ "\t<key>ProgramArguments</key>\n\t<array>\n"

/-- What comes behind the arguments. -/
def plistBack : String := "\t</array>\n" ++ "\t<key>RunAtLoad</key>\n\t<true/>\n" ++ "</dict>\n</plist>\n"

/-- The agent behind its declaration. -/
def plistBody (spec : MacLaunchAgentSpec) : List Char :=
  plistFront.toList ++ ((str spec.bundleId 2).toList ++ (plistLabel.toList ++ ((str spec.label 1).toList ++
    (plistMiddle.toList ++
      ((macLaunchAgentArguments spec).flatMap (fun a => (str a 2).toList) ++ plistBack.toList)))))

lemma toList_macLaunchAgentPlist (spec : MacLaunchAgentSpec) :
    (macLaunchAgentPlist spec).toList = declaration ++ plistBody spec := by
  have hargs : (macLaunchAgentArguments spec).flatMap (fun a => (str a 2).toList) =
      (String.join ((macLaunchAgentArguments spec).map (str · 2))).toList := by
    rw [String.toList_join, List.flatMap_map]
  -- the equations of texts this long are slow to prove, so they are unfolded as terms
  delta plistBody declaration macLaunchAgentPlist plistFront plistLabel plistMiddle plistBack
  rw [hargs]
  simp only [String.toList_append, List.append_assoc]

/-- The tokens before the bundle identifier. -/
def frontTokens : List Token :=
  [] ++ [.dtd] ++
    (.startElement "plist" :: (charTokens ['\n'] ++ .startElement "dict" :: charTokens ['\n'])) ++
    (charTokens ['\t'] ++ .startElement "key" :: (charTokens "AssociatedBundleIdentifiers".toList ++
      .endElement "key" :: (charTokens ['\n', '\t'] ++ .startElement "array" :: charTokens ['\n'])))

/-- The tokens between the bundle identifier and the label. -/
def labelTokens : List Token :=
  (charTokens ['\t'] ++ .endElement "array" :: charTokens ['\n']) ++
    (charTokens ['\t'] ++ .startElement "key" :: (charTokens "Label".toList ++
      .endElement "key" :: charTokens ['\n']))

/-- The tokens between the label and the arguments. -/
def middleTokens : List Token :=
  (charTokens ['\t'] ++ .startElement "key" :: (charTokens "LimitLoadToSessionType".toList ++
      .endElement "key" :: charTokens ['\n'])) ++ strTokens "Aqua" 1 ++
    (charTokens ['\t'] ++ .startElement "key" :: (charTokens "ProcessType".toList ++
      .endElement "key" :: charTokens ['\n'])) ++ strTokens "Interactive" 1 ++
    (charTokens ['\t'] ++ .startElement "key" :: (charTokens "ProgramArguments".toList ++
      .endElement "key" :: (charTokens ['\n', '\t'] ++ .startElement "array" :: charTokens ['\n'])))

/-- The tokens behind the arguments. -/
def backTokens : List Token :=
  (charTokens ['\t'] ++ .endElement "array" :: charTokens ['\n']) ++
    (charTokens ['\t'] ++ .startElement "key" :: (charTokens "RunAtLoad".toList ++
      .endElement "key" :: (charTokens ['\n', '\t'] ++ .startElement "true" :: .endElement "true" ::
        charTokens ['\n']))) ++
    (.endElement "dict" :: (charTokens ['\n'] ++ .endElement "plist" :: []))

set_option maxRecDepth 4000 in
lemma reads_doctype :
    Reads (.prolog false) ("<!DOCTYPE plist PUBLIC \"-//Apple//DTD PLIST 1.0//EN\" " ++
      "\"http://www.apple.com/DTDs/PropertyList-1.0.dtd\">\n").toList [.dtd] (.prolog true) :=
  ⟨2, by decide, fun _ _ => rfl⟩

/-- The parts without texts of the specification are read as they stand. -/
lemma reads_front :
    Reads (.prolog false) plistFront.toList frontTokens (.inside ["array", "dict", "plist"]) := by
  rw [plistFront, String.toList_append, String.toList_append, String.toList_append]
  have hline : Reads (.prolog false) "\n".toList [] (.prolog false) := ⟨1, by decide, fun _ _ => rfl⟩
  have hdict : Reads (.prolog true) "<plist version=\"1.0\">\n<dict>\n".toList
      (.startElement "plist" :: (charTokens ['\n'] ++ .startElement "dict" :: charTokens ['\n']))
      (.inside ["dict", "plist"]) := ⟨4, by decide, fun _ _ => rfl⟩
  exact ((hline.append reads_doctype).append hdict).append ⟨34, by decide, fun _ _ => rfl⟩

lemma reads_label :
    Reads (.inside ["array", "dict", "plist"]) plistLabel.toList labelTokens (.inside ["dict", "plist"]) := by
  rw [plistLabel, String.toList_append]
  refine Reads.append (q := .inside ["dict", "plist"]) ⟨3, by decide, fun _ _ => rfl⟩ ?_
  exact ⟨9, by decide, fun _ _ => rfl⟩

lemma reads_middle :
    Reads (.inside ["dict", "plist"]) plistMiddle.toList middleTokens
      (.inside ["array", "dict", "plist"]) := by
  delta plistMiddle
  rw [String.toList_append, String.toList_append, String.toList_append, String.toList_append]
  have haqua : Reads (.inside ["dict", "plist"]) (str "Aqua" 1).toList (strTokens "Aqua" 1)
      (.inside ["dict", "plist"]) := reads_str _ _ 1 (List.all_eq_true.1 (by decide))
  have hinteractive : Reads (.inside ["dict", "plist"]) (str "Interactive" 1).toList
      (strTokens "Interactive" 1) (.inside ["dict", "plist"]) := reads_str _ _ 1 (List.all_eq_true.1 (by decide))
  refine ((Reads.append (Reads.append ?_ haqua) ?_).append hinteractive).append
    (q := .inside ["dict", "plist"]) ⟨23, by decide, fun _ _ => rfl⟩
  · exact ⟨26, by decide, fun _ _ => rfl⟩
  · exact ⟨15, by decide, fun _ _ => rfl⟩

lemma reads_back :
    Reads (.inside ["array", "dict", "plist"]) plistBack.toList backTokens .epilog := by
  rw [plistBack, String.toList_append, String.toList_append]
  refine Reads.append (q := .inside ["dict", "plist"])
    (Reads.append (q := .inside ["dict", "plist"]) ⟨3, by decide, fun _ _ => rfl⟩ ?_) ?_
  · exact ⟨16, by decide, fun _ _ => rfl⟩
  · exact ⟨4, by decide, fun _ _ => rfl⟩

/-- The strings of the array, one after another. -/
lemma reads_args (element : String) (open_ : List String) {args : List String}
    (hargs : ∀ a ∈ args, ∀ c ∈ a.toList, isChar c = true) :
    Reads (.inside (element :: open_)) (args.flatMap fun a => (str a 2).toList)
      (args.flatMap fun a => strTokens a 2) (.inside (element :: open_)) := by
  induction args with
  | nil => exact ⟨0, Nat.le_refl _, fun _ _ => rfl⟩
  | cons a args ih =>
    rw [List.forall_mem_cons] at hargs
    exact (reads_str element open_ 2 hargs.1).append (ih hargs.2)

/-- The strings of the array up to one that is an error. -/
lemma stops_args (element : String) (open_ : List String) {args : List String} {a : String} (ha : a ∈ args)
    {c : Char} (hc : c ∈ a.toList) (hchar : isChar c = false) :
    ∃ (good : List String) (s : List Char), Stops (.inside (element :: open_)) (args.flatMap fun a => (str a 2).toList)
      ((good.flatMap fun a => strTokens a 2) ++
        (charTokens (List.replicate 2 '\t') ++ .startElement "string" :: charTokens s)) := by
  induction args with
  | nil => exact absurd ha List.not_mem_nil
  | cons b args ih =>
    by_cases hb : ∀ d ∈ b.toList, isChar d = true
    · have hmem : a ∈ args := by
        rcases List.mem_cons.1 ha with rfl | hmem
        · exact absurd ((hb c hc).symm.trans hchar) (by decide)
        · exact hmem
      obtain ⟨good, s, hstops⟩ := ih hmem
      refine ⟨b :: good, s, ?_⟩
      rw [List.flatMap_cons, List.flatMap_cons, List.append_assoc]
      exact (reads_str element open_ 2 hb).append_stops hstops
    · simp only [not_forall, Bool.not_eq_true] at hb
      obtain ⟨d, hd, hdchar⟩ := hb
      obtain ⟨s, hstops⟩ := stops_str element open_ 2 hd hdchar
      exact ⟨[], s, hstops.append _⟩

/-! ### What is found -/

/-- A string outside of the array. -/
@[simp] lemma searchArray_strTokens (v : String) (tabs : ℕ) (tokens : List Token) :
    searchArray false (strTokens v tabs ++ tokens) = searchArray false tokens := by
  simp [strTokens, searchArray]

/-- The strings of the array. -/
@[simp] lemma arrayStrings_args (out args : List String) (tokens : List Token) :
    arrayStrings out ((args.flatMap fun a => strTokens a 2) ++ tokens) = arrayStrings (out ++ args) tokens := by
  induction args generalizing out with
  | nil => rw [List.append_nil, List.flatMap_nil, List.nil_append]
  | cons a args ih =>
    have hstr : arrayStrings out (strTokens a 2 ++ ((args.flatMap fun a => strTokens a 2) ++ tokens)) =
        arrayStrings (out ++ [a]) ((args.flatMap fun a => strTokens a 2) ++ tokens) := by
      simp [strTokens, arrayStrings]
    rw [List.flatMap_cons, List.append_assoc, hstr, ih, List.append_assoc, List.singleton_append]

lemma searchArray_front (tokens : List Token) :
    searchArray false (frontTokens ++ tokens) = searchArray false tokens := by
  simp [frontTokens, searchArray]

lemma searchArray_label (tokens : List Token) :
    searchArray false (labelTokens ++ tokens) = searchArray false tokens := by
  simp [labelTokens, searchArray]

/-- The array behind the key. -/
lemma searchArray_middle (tokens : List Token) :
    searchArray false (middleTokens ++ tokens) = arrayStrings [] tokens := by
  simp [middleTokens, searchArray]

lemma arrayStrings_back (out : List String) (tokens : List Token) :
    arrayStrings out (backTokens ++ tokens) = out := by
  simp [backTokens, arrayStrings]

/-- Nothing is found in front of an error. -/
lemma searchArray_stop (tabs : ℕ) (s : List Char) :
    searchArray false (charTokens (List.replicate tabs '\t') ++ .startElement "string" ::
      (charTokens s ++ [.invalid])) = [] := by
  simp [searchArray]

lemma arrayStrings_stop (out : List String) (tabs : ℕ) (s : List Char) :
    arrayStrings out (charTokens (List.replicate tabs '\t') ++ .startElement "string" ::
      (charTokens s ++ [.invalid])) = [] := by
  rw [arrayStrings_charTokens, arrayStrings, if_pos rfl]
  split
  · next text rest h => exact absurd ((readElementText_invalid s).symm.trans h).symm (Option.some_ne_none _)
  · rfl

/-! ### The round trip -/

/-- The texts of a specification. -/
def texts (spec : MacLaunchAgentSpec) : List String :=
  [spec.bundleId, spec.label, spec.appBundlePath, spec.appdataDir]

/-- A control character. -/
def isControl (c : Char) : Prop := c.toNat < 0x20 ∨ (0x7F ≤ c.toNat ∧ c.toNat ≤ 0x9F)

/-- No text of the specification has a control character. -/
def ControlFree (spec : MacLaunchAgentSpec) : Prop :=
  ∀ v ∈ texts spec, ∀ c ∈ v.toList, ¬ isControl c

/-- No text of the specification has a noncharacter that no document of XML 1.0 has. -/
def NoncharacterFree (spec : MacLaunchAgentSpec) : Prop :=
  ∀ v ∈ texts spec, ∀ c ∈ v.toList, c.toNat ≠ 0xFFFE ∧ c.toNat ≠ 0xFFFF

/-- The characters of a document besides the control characters. -/
lemma isChar_iff {c : Char} (hc : ¬ isControl c) :
    isChar c = true ↔ c.toNat ≠ 0xFFFE ∧ c.toNat ≠ 0xFFFF := by
  have hvalid : c.toNat < 0xD800 ∨ 0xDFFF < c.toNat ∧ c.toNat < 0x110000 := c.valid
  rw [isControl] at hc
  simp only [isChar, inRanges, List.any_cons, List.any_nil, Bool.or_false, Bool.or_eq_true, Bool.and_eq_true,
    decide_eq_true_eq]
  omega

/-- The arguments are texts of the specification and fixed ones. -/
lemma mem_macLaunchAgentArguments {spec : MacLaunchAgentSpec} {a : String}
    (h : a ∈ macLaunchAgentArguments spec) :
    a ∈ texts spec ∨ a ∈ ["/usr/bin/open", "-a", "--args", "-tray", "-appdata"] := by
  rw [macLaunchAgentArguments] at h
  simp only [texts, List.mem_append, List.mem_cons, List.not_mem_nil, or_false] at h ⊢
  split at h
  · simp only [List.not_mem_nil, or_false] at h
    tauto
  · simp only [List.mem_cons, List.not_mem_nil, or_false] at h
    tauto

/-- No line has a carriage return. -/
lemma cr_not_mem_str {v : String} (h : '\r' ∉ v.toList) (tabs : ℕ) : '\r' ∉ (str v tabs).toList := by
  rw [toList_str]
  simp only [List.mem_append, not_or, List.mem_flatMap, not_exists, not_and]
  refine ⟨fun hmem => absurd (List.eq_of_mem_replicate hmem) (by decide), by decide, fun c hc hmem => ?_, by decide⟩
  rw [htmlEscape.eq_def] at hmem
  split at hmem
  · exact absurd hmem (by decide)
  · exact absurd hmem (by decide)
  · exact absurd hmem (by decide)
  · exact absurd hmem (by decide)
  · exact h (List.mem_singleton.1 hmem ▸ hc)

lemma cr_not_mem_plistBody {spec : MacLaunchAgentSpec} (h : ControlFree spec) : '\r' ∉ plistBody spec := by
  have htext : ∀ v ∈ texts spec, '\r' ∉ v.toList := fun v hv hcr => h v hv '\r' hcr (Or.inl (by decide))
  have hargs : ∀ a ∈ macLaunchAgentArguments spec, '\r' ∉ a.toList := by
    rintro a ha
    rcases mem_macLaunchAgentArguments ha with hmem | hmem
    · exact htext a hmem
    · exact (by decide : ∀ a ∈ ["/usr/bin/open", "-a", "--args", "-tray", "-appdata"], '\r' ∉ a.toList) a hmem
  delta plistBody
  simp only [List.mem_append, not_or, List.mem_flatMap, not_exists, not_and]
  refine ⟨by decide +kernel, cr_not_mem_str (htext _ List.mem_cons_self) 2, by decide +kernel,
    cr_not_mem_str (htext _ (List.mem_cons_of_mem _ List.mem_cons_self)) 1, by decide +kernel,
    fun a ha => cr_not_mem_str (hargs a ha) 2, by decide +kernel⟩

/-- **The tokens of the agent.** -/
lemma reads_body {spec : MacLaunchAgentSpec} (h : ∀ v ∈ texts spec, ∀ c ∈ v.toList, isChar c = true) :
    Reads (.prolog false) (plistBody spec)
      (frontTokens ++ (strTokens spec.bundleId 2 ++ (labelTokens ++ (strTokens spec.label 1 ++ (middleTokens ++
        (((macLaunchAgentArguments spec).flatMap fun a => strTokens a 2) ++ backTokens)))))) .epilog := by
  have hargs : ∀ a ∈ macLaunchAgentArguments spec, ∀ c ∈ a.toList, isChar c = true := by
    rintro a ha
    rcases mem_macLaunchAgentArguments ha with hmem | hmem
    · exact h a hmem
    · have hfixed : ∀ a ∈ ["/usr/bin/open", "-a", "--args", "-tray", "-appdata"], a.toList.all isChar = true := by
        decide
      exact List.all_eq_true.1 (hfixed a hmem)
  delta plistBody
  refine reads_front.append (.append (reads_str _ _ 2 (h _ List.mem_cons_self)) (reads_label.append ?_))
  refine .append (reads_str _ _ 1 (h _ (List.mem_cons_of_mem _ List.mem_cons_self))) (reads_middle.append ?_)
  exact (reads_args _ _ hargs).append reads_back

/-- The arguments are found again if a document can have all characters. -/
lemma parse_of_isChar {spec : MacLaunchAgentSpec} (hcontrol : ControlFree spec)
    (h : ∀ v ∈ texts spec, ∀ c ∈ v.toList, isChar c = true) :
    parseMacLaunchAgentArguments (macLaunchAgentPlist spec) = macLaunchAgentArguments spec := by
  rw [parseMacLaunchAgentArguments, toList_macLaunchAgentPlist,
    read_of_reads (cr_not_mem_plistBody hcontrol) (reads_body h), searchArray]
  · rw [List.append_assoc, searchArray_front, List.append_assoc, searchArray_strTokens, List.append_assoc,
      searchArray_label, List.append_assoc, searchArray_strTokens, List.append_assoc, searchArray_middle,
      List.append_assoc, arrayStrings_args, arrayStrings_back, List.nil_append]
  · exact fun name h => Token.noConfusion h

/-- Nothing is found if a text has another character.

**Proof sketch.** The first text with such a character is the bundle identifier, the label or an argument, and
all of them come before the end of the array. -/
lemma parse_of_not_isChar {spec : MacLaunchAgentSpec} (hcontrol : ControlFree spec) {v : String}
    (hv : v ∈ texts spec) {c : Char} (hc : c ∈ v.toList) (hchar : isChar c = false) :
    parseMacLaunchAgentArguments (macLaunchAgentPlist spec) = [] := by
  have hstop : ∀ {tokens}, Stops (.prolog false) (plistBody spec) tokens →
      parseMacLaunchAgentArguments (macLaunchAgentPlist spec) = searchArray false (tokens ++ [.invalid]) := by
    rintro tokens h
    rw [parseMacLaunchAgentArguments, toList_macLaunchAgentPlist,
      read_of_stops (cr_not_mem_plistBody hcontrol) h, searchArray]
    exact fun name h => Token.noConfusion h
  by_cases hbundle : ∀ d ∈ spec.bundleId.toList, isChar d = true
  · by_cases hlabel : ∀ d ∈ spec.label.toList, isChar d = true
    · have harg : v ∈ macLaunchAgentArguments spec := by
        simp only [texts, List.mem_cons, List.not_mem_nil, or_false] at hv
        rcases hv with rfl | rfl | rfl | rfl
        · exact absurd ((hbundle c hc).symm.trans hchar) (by decide)
        · exact absurd ((hlabel c hc).symm.trans hchar) (by decide)
        · simp [macLaunchAgentArguments]
        · have hne : spec.appdataDir.isEmpty = false := by
            rw [Bool.eq_false_iff]
            rintro hempty
            rw [String.isEmpty_iff.1 hempty] at hc
            exact absurd hc List.not_mem_nil
          simp [macLaunchAgentArguments, hne]
      obtain ⟨good, s, hargs⟩ := stops_args "array" ["dict", "plist"] harg hc hchar
      have hbody := reads_front.append_stops (Reads.append_stops (reads_str _ _ 2 hbundle)
        (reads_label.append_stops (Reads.append_stops (reads_str _ _ 1 hlabel)
          (reads_middle.append_stops (hargs.append plistBack.toList)))))
      rw [hstop hbody, List.append_assoc, searchArray_front, List.append_assoc, searchArray_strTokens,
        List.append_assoc, searchArray_label, List.append_assoc, searchArray_strTokens, List.append_assoc,
        searchArray_middle, List.append_assoc, arrayStrings_args, List.append_assoc]
      exact arrayStrings_stop _ 2 s
    · simp only [not_forall, Bool.not_eq_true] at hlabel
      obtain ⟨d, hd, hdchar⟩ := hlabel
      obtain ⟨s, hstops⟩ := stops_str "dict" ["plist"] 1 hd hdchar
      have hbody := reads_front.append_stops (Reads.append_stops (reads_str _ _ 2 hbundle)
        (reads_label.append_stops (hstops.append (plistMiddle.toList ++
          ((macLaunchAgentArguments spec).flatMap (fun a => (str a 2).toList) ++ plistBack.toList)))))
      rw [hstop hbody, List.append_assoc, searchArray_front, List.append_assoc, searchArray_strTokens,
        List.append_assoc, searchArray_label, List.append_assoc]
      exact searchArray_stop 1 s
  · simp only [not_forall, Bool.not_eq_true] at hbundle
    obtain ⟨d, hd, hdchar⟩ := hbundle
    obtain ⟨s, hstops⟩ := stops_str "array" ["dict", "plist"] 2 hd hdchar
    rw [hstop (reads_front.append_stops (hstops.append _)), List.append_assoc, searchArray_front,
      List.append_assoc]
    exact searchArray_stop 2 s

/-- **The launch agent round trip.** The arguments are found again, as many and in the same order, if and only
if no text has a noncharacter that no document has.

**Proof sketch.** With such a character the agent is no document of XML 1.0 and nothing is found. -/
theorem parse_macLaunchAgentPlist_iff {spec : MacLaunchAgentSpec} (h : ControlFree spec) :
    parseMacLaunchAgentArguments (macLaunchAgentPlist spec) = macLaunchAgentArguments spec ↔
      NoncharacterFree spec := by
  constructor
  · rintro hparse v hv c hc
    rw [← isChar_iff (h v hv c hc)]
    by_contra hchar
    rw [parse_of_not_isChar h hv hc (Bool.not_eq_true _ ▸ hchar)] at hparse
    exact absurd hparse (by simp [macLaunchAgentArguments])
  · rintro hfree
    exact parse_of_isChar h fun v hv c hc => (isChar_iff (h v hv c hc)).2 (hfree v hv c hc)

/-- Texts whose characters are looked at one by one. -/
lemma controlFree_of_all {spec : MacLaunchAgentSpec}
    (h : ∀ v ∈ texts spec,
      (v.toList.all fun c => decide (¬ (c.toNat < 0x20 ∨ (0x7F ≤ c.toNat ∧ c.toNat ≤ 0x9F)))) = true) :
    ControlFree spec := by
  intro v hv c hc
  have hchar := List.all_eq_true.1 (h v hv) c hc
  rwa [decide_eq_true_iff] at hchar

/-- An agent with markup in its texts and another data directory. -/
def markupSpec : MacLaunchAgentSpec :=
  ⟨"a&b", "io.<x>", "/Users/a b/Proxy & <Co> \"q\"/P😀.app", "/tmp/a&amp;b ]]> <c>"⟩

/-- Its arguments are found again. -/
theorem parse_macLaunchAgentPlist_markup :
    ControlFree markupSpec ∧
      parseMacLaunchAgentArguments (macLaunchAgentPlist markupSpec) = macLaunchAgentArguments markupSpec := by
  have hcontrol : ControlFree markupSpec := controlFree_of_all (by decide)
  have hchars : ∀ v ∈ texts markupSpec,
      (v.toList.all fun c => decide (c.toNat ≠ 0xFFFE ∧ c.toNat ≠ 0xFFFF)) = true := by
    decide
  exact ⟨hcontrol, (parse_macLaunchAgentPlist_iff hcontrol).2 fun v hv =>
    List.all_iff_forall_prop.1 (hchars v hv)⟩

/-- An agent for an application whose path has a noncharacter. -/
def noncharacterSpec : MacLaunchAgentSpec := ⟨"label", "id", "/Applications/P\uFFFE.app", ""⟩

/-- Without control characters its arguments are not found. -/
theorem not_parse_macLaunchAgentPlist :
    ControlFree noncharacterSpec ∧
      parseMacLaunchAgentArguments (macLaunchAgentPlist noncharacterSpec) ≠
        macLaunchAgentArguments noncharacterSpec := by
  have hcontrol : ControlFree noncharacterSpec := controlFree_of_all (by decide)
  refine ⟨hcontrol, ?_⟩
  have hmem : Char.ofNat 0xFFFE ∈ noncharacterSpec.appBundlePath.toList := by decide
  rw [parse_of_not_isChar hcontrol (List.mem_cons_of_mem _ (List.mem_cons_of_mem _ List.mem_cons_self)) hmem
    (by decide)]
  decide

end Proxor.Platform
