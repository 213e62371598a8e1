import Mathlib.Data.List.Forall2

set_option relaxedAutoImplicit false
set_option autoImplicit false

/-!
# The Desktop Entry Specification: the Exec key

How the value of `Exec` is read: first the escape sequences of a string value, then the arguments with
their quotes, then the field codes. The specification does not say what other sequences of a string value
mean, which readers reject or keep as they are.

## Main definitions

* `DesktopEntry.unescape` — the escape sequences of a string value.
* `DesktopEntry.lex` — the arguments of a command line.
* `DesktopEntry.expand` — the field codes of an argument.
* `DesktopEntry.read` — the three together.

## Main results

* `DesktopEntry.foldlM_quoted` — what is read of arguments in quotes, one after another.
* `DesktopEntry.length_unquote_le`, `DesktopEntry.length_percent_le` — reading makes an argument no longer.
-/

namespace DesktopEntry

/-! ### String values -/

/-- The escape sequences of a string value: `\s`, `\n`, `\t`, `\r` and `\\`. Another one is kept as it is
or is an error. -/
def unescape (keep : Bool) : List Char → Option (List Char)
  | [] => some []
  | ['\\'] => if keep then some ['\\'] else none
  | '\\' :: c :: value =>
    if c = 's' then (unescape keep value).map (' ' :: ·)
    else if c = 'n' then (unescape keep value).map ('\n' :: ·)
    else if c = 't' then (unescape keep value).map ('\t' :: ·)
    else if c = 'r' then (unescape keep value).map ('\r' :: ·)
    else if c = '\\' then (unescape keep value).map ('\\' :: ·)
    else if keep then (unescape keep value).map ('\\' :: c :: ·)
    else none
  | c :: value => (unescape keep value).map (c :: ·)

lemma unescape_backslash (keep : Bool) (value : List Char) :
    unescape keep ('\\' :: '\\' :: value) = (unescape keep value).map ('\\' :: ·) := by
  rw [unescape, if_neg (by decide), if_neg (by decide), if_neg (by decide), if_neg (by decide),
    if_pos rfl]

/-- A backslash before a double quote is no escape sequence. -/
lemma unescape_quote (keep : Bool) (value : List Char) :
    unescape keep ('\\' :: '"' :: value) =
      if keep then (unescape keep value).map ('\\' :: '"' :: ·) else none := by
  rw [unescape, if_neg (by decide), if_neg (by decide), if_neg (by decide), if_neg (by decide),
    if_neg (by decide)]

lemma unescape_plain (keep : Bool) {c : Char} (hc : c ≠ '\\') (value : List Char) :
    unescape keep (c :: value) = (unescape keep value).map (c :: ·) := by
  rw [unescape]
  · rintro h _
    exact hc h
  · rintro d value h _
    exact hc h

/-! ### Arguments -/

/-- An argument, and whether it is in quotes. -/
structure Arg where
  text : List Char
  quoted : Bool
deriving DecidableEq

/-- The characters that may not stand outside of quotes. -/
def reserved : List Char :=
  [' ', '\t', '\n', '"', '\'', '\\', '>', '<', '~', '|', '&', ';', '$', '*', '?', '#', '(', ')', '\x60']

/-- The characters that have a backslash before them in quotes. -/
def escapable : List Char := ['"', '\x60', '$', '\\']

/-- Where the reader is, with what it has read of the argument. -/
inductive Mode
  | gap
  | bare (cur : List Char)
  | quoted (cur : List Char)
  | escape (cur : List Char)
  | closed (cur : List Char)
deriving DecidableEq

/-- The reader. -/
structure State where
  args : List Arg
  mode : Mode
deriving DecidableEq

/-- The next argument begins. -/
def State.next (s : State) (text : List Char) (quoted : Bool) : State := ⟨s.args ++ [⟨text, quoted⟩], .gap⟩

/-- One character: `none` for a reserved character outside of quotes, or one in them that has no backslash
before it but should. Arguments are quoted in whole. -/
def step (s : State) (c : Char) : Option State :=
  match s.mode with
  | .gap =>
    if c = ' ' then some s
    else if c = '"' then some { s with mode := .quoted [] }
    else if c ∈ reserved then none
    else some { s with mode := .bare [c] }
  | .bare cur =>
    if c = ' ' then some (s.next cur false)
    else if c ∈ reserved then none
    else some { s with mode := .bare (cur ++ [c]) }
  | .quoted cur =>
    if c = '"' then some { s with mode := .closed cur }
    else if c = '\\' then some { s with mode := .escape cur }
    else if c ∈ escapable then none
    else some { s with mode := .quoted (cur ++ [c]) }
  | .escape cur => if c ∈ escapable then some { s with mode := .quoted (cur ++ [c]) } else none
  | .closed cur => if c = ' ' then some (s.next cur true) else none

/-- The arguments at the end of the text: `none` in quotes. -/
def finish (s : State) : Option (List Arg) :=
  match s.mode with
  | .gap => some s.args
  | .bare cur => some (s.next cur false).args
  | .quoted _ | .escape _ => none
  | .closed cur => some (s.next cur true).args

/-- What is read from a state on. -/
def lexFrom (s : State) (text : List Char) : Option (List Arg) := (text.foldlM step s).bind finish

/-- The arguments of a command line. -/
def lex (text : List Char) : Option (List Arg) := lexFrom ⟨[], .gap⟩ text

/-! ### Field codes -/

/-- Two percent signs are one. What another field code means in quotes is not defined. -/
def percent : List Char → Option (List Char)
  | [] => some []
  | '%' :: '%' :: text => (percent text).map ('%' :: ·)
  | '%' :: _ => none
  | c :: text => (percent text).map (c :: ·)

/-- The arguments an argument stands for. Outside of quotes field codes are expanded by the launcher. -/
def expand (launcher : List Char → Option (List (List Char))) (arg : Arg) : Option (List (List Char)) :=
  if arg.quoted then (percent arg.text).map ([·]) else launcher arg.text

/-- **Reading the value of `Exec`.** -/
def read (keep : Bool) (launcher : List Char → Option (List (List Char))) (value : List Char) :
    Option (List (List Char)) := do
  let text ← unescape keep value
  let args ← lex text
  let texts ← args.mapM (expand launcher)
  return texts.flatten

/-! ### Arguments in quotes -/

/-- What is in the quotes, if it is read as it stands to its end. -/
def unquote : List Char → Option (List Char)
  | [] => some []
  | '\\' :: c :: text => if c ∈ escapable then (unquote text).map (c :: ·) else none
  | c :: text => if c ∈ escapable then none else (unquote text).map (c :: ·)

lemma unquote_escape (c : Char) (text : List Char) :
    unquote ('\\' :: c :: text) = if c ∈ escapable then (unquote text).map (c :: ·) else none := by
  rw [unquote]

lemma unquote_plain {c : Char} (hc : c ≠ '\\') (text : List Char) :
    unquote (c :: text) = if c ∈ escapable then none else (unquote text).map (c :: ·) := by
  rw [unquote]
  rintro d text' h _
  exact hc h

/-- Arguments in quotes behind another one. -/
def tail : List (List Char) → List Char
  | [] => []
  | text :: texts => ' ' :: '"' :: (text ++ '"' :: tail texts)

/-- A command line of arguments in quotes. -/
def line : List (List Char) → List Char
  | [] => []
  | text :: texts => '"' :: (text ++ '"' :: tail texts)

/-- Every double quote has a backslash before it. -/
inductive Guarded : List Char → Prop
  | nil : Guarded []
  | quote {text : List Char} (h : Guarded text) : Guarded ('\\' :: '"' :: text)
  | cons {c : Char} {text : List Char} (hc : c ≠ '"') (h : Guarded text) : Guarded (c :: text)

lemma lexFrom_cons (s : State) (c : Char) (text : List Char) :
    lexFrom s (c :: text) = (step s c).bind fun s => lexFrom s text := by
  rw [lexFrom, List.foldlM_cons]
  cases step s c <;> rfl

/-- The reader is not in quotes. -/
def State.outside (s : State) : Bool :=
  match s.mode with
  | .gap | .bare _ | .closed _ => true
  | .quoted _ | .escape _ => false

/-- Outside of quotes a reader goes on outside of them, unless a double quote comes. -/
lemma step_outside {s : State} (hs : s.outside = true) {c : Char} (hc : c ≠ '"') :
    step s c = none ∨ c ≠ '\\' ∧ ∃ s', step s c = some s' ∧ s'.outside = true := by
  obtain ⟨args, mode⟩ := s
  have hslash : '\\' ∈ reserved := by decide
  cases mode with
  | gap =>
    rw [step]
    dsimp only
    by_cases hspace : c = ' '
    · rw [if_pos hspace, hspace]
      exact Or.inr ⟨by decide, _, rfl, rfl⟩
    · rw [if_neg hspace, if_neg hc]
      split
      · exact Or.inl rfl
      · next hmem => exact Or.inr ⟨fun h => hmem (h ▸ hslash), _, rfl, rfl⟩
  | bare cur =>
    rw [step]
    dsimp only
    by_cases hspace : c = ' '
    · rw [if_pos hspace, hspace]
      exact Or.inr ⟨by decide, _, rfl, rfl⟩
    · rw [if_neg hspace]
      split
      · exact Or.inl rfl
      · next hmem => exact Or.inr ⟨fun h => hmem (h ▸ hslash), _, rfl, rfl⟩
  | closed cur =>
    rw [step]
    dsimp only
    by_cases hspace : c = ' '
    · rw [if_pos hspace, hspace]
      exact Or.inr ⟨by decide, _, rfl, rfl⟩
    · rw [if_neg hspace]
      exact Or.inl rfl
  | quoted cur => exact absurd hs Bool.false_ne_true
  | escape cur => exact absurd hs Bool.false_ne_true

/-- A double quote outside of quotes is an error, or begins an argument. -/
lemma step_outside_quote {s : State} (hs : s.outside = true) :
    step s '"' = none ∨ step s '"' = some ⟨s.args, .quoted []⟩ := by
  obtain ⟨args, mode⟩ := s
  cases mode with
  | gap => exact Or.inr rfl
  | bare cur => exact Or.inl rfl
  | closed cur => exact Or.inl rfl
  | quoted cur => exact absurd hs Bool.false_ne_true
  | escape cur => exact absurd hs Bool.false_ne_true

/-- Outside of quotes no double quote of a guarded text is read, for there is a backslash before it. -/
lemma lexFrom_guarded {text rest : List Char} (htext : Guarded text)
    (hrest : ∀ s, State.outside s = true → lexFrom s rest = none) {s : State} (hs : s.outside = true) :
    lexFrom s (text ++ rest) = none := by
  induction htext generalizing s with
  | nil => exact hrest s hs
  | quote _ ih =>
    rw [List.cons_append, lexFrom_cons]
    rcases step_outside hs (c := '\\') (by decide) with h | ⟨h, -⟩
    · rw [h]
      rfl
    · exact absurd rfl h
  | cons hc _ ih =>
    rw [List.cons_append, lexFrom_cons]
    rcases step_outside hs hc with h | ⟨-, s', h, hs'⟩
    · rw [h]
      rfl
    · rw [h]
      exact ih hs'

/-- **Out of step.** A reader that is outside of quotes within an argument never gets to the end.

**Proof sketch.** Induction on the arguments behind it. The double quote at the end of the argument begins
one, and that of the next argument ends it, so that the reader is outside of quotes within that one. Behind
the last argument there is none. -/
theorem lexFrom_outside {texts : List (List Char)} (htexts : ∀ t ∈ texts, Guarded t) {text : List Char}
    (htext : Guarded text) {s : State} (hs : s.outside = true) :
    lexFrom s (text ++ '"' :: tail texts) = none := by
  induction texts generalizing text s with
  | nil =>
    refine lexFrom_guarded htext (fun s hs => ?_) hs
    rw [lexFrom_cons]
    rcases step_outside_quote hs with h | h <;> rw [h] <;> rfl
  | cons next texts ih =>
    obtain ⟨hnext, htexts⟩ := List.forall_mem_cons.1 htexts
    refine lexFrom_guarded htext (fun s hs => ?_) hs
    rw [lexFrom_cons]
    rcases step_outside_quote hs with h | h
    · rw [h]
      rfl
    · rw [h]
      exact ih htexts hnext (s := ⟨s.args, .closed [' ']⟩) rfl

section Quoted

variable {texts : List (List Char)} (htexts : ∀ t ∈ texts, Guarded t)

include htexts

/-- A reader that is in quotes behind an argument does not get to the end either. -/
lemma lexFrom_quoted_tail (args : List Arg) (cur : List Char) :
    lexFrom ⟨args, .quoted cur⟩ (tail texts) = none := by
  cases texts with
  | nil => rfl
  | cons next texts =>
    obtain ⟨hnext, htexts⟩ := List.forall_mem_cons.1 htexts
    exact lexFrom_outside htexts hnext (s := ⟨args, .closed (cur ++ [' '])⟩) rfl

/-- A text with a double quote in front, in quotes. -/
lemma lexFrom_quoted_quote (args : List Arg) (cur : List Char) {text : List Char} (h : Guarded text) :
    lexFrom ⟨args, .quoted cur⟩ ('"' :: (text ++ '"' :: tail texts)) = none :=
  lexFrom_outside htexts h (s := ⟨args, .closed cur⟩) rfl

omit htexts in
lemma lexFrom_quoted_push (args : List Arg) (cur : List Char) {c : Char} (hc : c ∉ escapable)
    (rest : List Char) :
    lexFrom ⟨args, .quoted cur⟩ (c :: rest) = lexFrom ⟨args, .quoted (cur ++ [c])⟩ rest := by
  have hquote : c ≠ '"' := fun h => hc (h ▸ by decide)
  have hslash : c ≠ '\\' := fun h => hc (h ▸ by decide)
  rw [lexFrom_cons, step]
  dsimp only
  rw [if_neg hquote, if_neg hslash, if_neg hc]
  rfl

/-- **An argument in quotes.** The reader gets behind it only with what is in the quotes. -/
theorem lexFrom_quoted (args : List Arg) (cur : List Char) {text : List Char} (h : Guarded text) :
    lexFrom ⟨args, .quoted cur⟩ (text ++ '"' :: tail texts) =
      (unquote text).bind fun x => lexFrom ⟨args, .closed (cur ++ x)⟩ (tail texts) := by
  induction text using unquote.induct generalizing cur with
  | case1 =>
    rw [unquote, Option.bind_some, List.append_nil]
    rfl
  | case2 c text hc ih =>
    have hread : lexFrom ⟨args, .quoted cur⟩ ('\\' :: c :: text ++ '"' :: tail texts) =
        lexFrom ⟨args, .quoted (cur ++ [c])⟩ (text ++ '"' :: tail texts) := by
      rw [List.cons_append, List.cons_append, lexFrom_cons]
      change lexFrom ⟨args, .escape cur⟩ (c :: (text ++ '"' :: tail texts)) = _
      rw [lexFrom_cons, step]
      dsimp only
      rw [if_pos hc]
      rfl
    rw [hread, unquote, if_pos hc]
    have hrest : Guarded text ∨ ∃ t, text = '"' :: t ∧ Guarded t := by
      cases h with
      | quote h => exact Or.inl h
      | cons _ h =>
        cases h with
        | quote h => exact Or.inr ⟨_, rfl, h⟩
        | cons _ h => exact Or.inl h
    rcases hrest with hrest | ⟨t, rfl, ht⟩
    · rw [ih _ hrest, Option.bind_map]
      simp only [Function.comp_def, List.append_assoc, List.singleton_append]
    · rw [List.cons_append, lexFrom_quoted_quote htexts _ _ ht, unquote, if_pos (by decide)]
      · rfl
      · rintro d t' h -
        exact absurd h (by decide)
  | case3 c text hc =>
    rw [unquote, if_neg hc, List.cons_append, List.cons_append, lexFrom_cons]
    change lexFrom ⟨args, .escape cur⟩ (c :: (text ++ '"' :: tail texts)) = _
    rw [lexFrom_cons, step]
    dsimp only
    rw [if_neg hc]
    rfl
  | case4 c text hother hc =>
    rw [unquote, if_pos hc, Option.bind_none]
    · by_cases hslash : c = '\\'
      · subst hslash
        cases text with
        | cons d t => exact absurd rfl (hother d t rfl)
        | nil => exact lexFrom_quoted_tail htexts args (cur ++ ['"'])
      · have hquote : c ≠ '"' := by
          rintro rfl
          cases h with
          | cons hne _ => exact hne rfl
        rw [List.cons_append, lexFrom_cons, step]
        dsimp only
        rw [if_neg hquote, if_neg hslash, if_pos hc]
        rfl
    · exact hother
  | case5 c text hother hc ih =>
    have hrest : Guarded text := by
      cases h with
      | quote h => exact absurd (by decide) hc
      | cons _ h => exact h
    rw [List.cons_append, lexFrom_quoted_push _ _ hc, ih _ hrest, unquote, if_neg hc, Option.bind_map]
    · simp only [Function.comp_def, List.append_assoc, List.singleton_append]
    · exact hother

end Quoted

/-- **Arguments in quotes**, one after another, behind an argument that has ended. -/
lemma lexFrom_tail {texts : List (List Char)} (htexts : ∀ t ∈ texts, Guarded t) (args : List Arg)
    (cur : List Char) {res : List Arg} :
    lexFrom ⟨args, .closed cur⟩ (tail texts) = some res ↔
      ∃ xs, List.Forall₂ (fun t x => unquote t = some x) texts xs ∧
        res = args ++ ⟨cur, true⟩ :: xs.map fun x => ⟨x, true⟩ := by
  induction texts generalizing args cur with
  | nil =>
    constructor
    · rintro h
      exact ⟨[], List.Forall₂.nil, (Option.some.inj h).symm⟩
    · rintro ⟨xs, hxs, rfl⟩
      obtain rfl := List.forall₂_nil_left_iff.1 hxs
      rfl
  | cons text texts ih =>
    obtain ⟨htext, htexts⟩ := List.forall_mem_cons.1 htexts
    have hread : lexFrom ⟨args, .closed cur⟩ (tail (text :: texts)) =
        (unquote text).bind fun x =>
          lexFrom ⟨args ++ [⟨cur, true⟩], .closed x⟩ (tail texts) :=
      lexFrom_quoted htexts (args ++ [⟨cur, true⟩]) [] htext
    rw [hread, Option.bind_eq_some_iff]
    constructor
    · rintro ⟨x, hx, h⟩
      obtain ⟨xs, hxs, rfl⟩ := (ih htexts _ _).1 h
      exact ⟨x :: xs, List.Forall₂.cons hx hxs, by rw [List.append_assoc]; rfl⟩
    · rintro ⟨xs, hxs, rfl⟩
      obtain ⟨x, xs', hx, hxs', rfl⟩ := List.forall₂_cons_left_iff.1 hxs
      exact ⟨x, hx, (ih htexts _ _).2 ⟨xs', hxs', by rw [List.append_assoc]; rfl⟩⟩

/-- **A command line of arguments in quotes** is read argument by argument. -/
theorem lex_line {texts : List (List Char)} (htexts : ∀ t ∈ texts, Guarded t) {res : List Arg} :
    lex (line texts) = some res ↔
      ∃ xs, List.Forall₂ (fun t x => unquote t = some x) texts xs ∧
        res = xs.map fun x => ⟨x, true⟩ := by
  cases texts with
  | nil =>
    constructor
    · rintro h
      exact ⟨[], List.Forall₂.nil, (Option.some.inj h).symm⟩
    · rintro ⟨xs, hxs, rfl⟩
      obtain rfl := List.forall₂_nil_left_iff.1 hxs
      rfl
  | cons text texts =>
    obtain ⟨htext, htexts⟩ := List.forall_mem_cons.1 htexts
    have hread : lex (line (text :: texts)) =
        (unquote text).bind fun x => lexFrom ⟨[], .closed x⟩ (tail texts) :=
      lexFrom_quoted htexts [] [] htext
    rw [hread, Option.bind_eq_some_iff]
    constructor
    · rintro ⟨x, hx, h⟩
      obtain ⟨xs, hxs, rfl⟩ := (lexFrom_tail htexts _ _).1 h
      exact ⟨x :: xs, List.Forall₂.cons hx hxs, rfl⟩
    · rintro ⟨xs, hxs, rfl⟩
      obtain ⟨x, xs', hx, hxs', rfl⟩ := List.forall₂_cons_left_iff.1 hxs
      exact ⟨x, hx, (lexFrom_tail htexts _ _).2 ⟨xs', hxs', rfl⟩⟩

/-! ### The whole value -/

section Read

variable {keep : Bool} {launcher : List Char → Option (List (List Char))}

lemma mapM_eq_some {α β : Type} {f : α → Option β} {as : List α} {bs : List β} :
    as.mapM f = some bs ↔ List.Forall₂ (fun a b => f a = some b) as bs := by
  induction as generalizing bs with
  | nil =>
    rw [List.forall₂_nil_left_iff]
    exact ⟨fun h => (Option.some.inj h).symm, fun h => h ▸ rfl⟩
  | cons a as ih =>
    rw [List.forall₂_cons_left_iff, List.mapM_cons, Option.bind_eq_bind, Option.bind_eq_some_iff]
    constructor
    · rintro ⟨b, hb, h⟩
      obtain ⟨bs', hbs, h⟩ := Option.bind_eq_some_iff.1 h
      exact ⟨b, bs', hb, ih.1 hbs, (Option.some.inj h).symm⟩
    · rintro ⟨b, bs', hb, hbs, rfl⟩
      exact ⟨b, hb, Option.bind_eq_some_iff.2 ⟨bs', ih.2 hbs, rfl⟩⟩

/-- Two steps, element by element. -/
lemma forall₂_bind {α β γ : Type} {f : α → Option β} {g : β → Option γ} {as : List α} {cs : List γ} :
    List.Forall₂ (fun a c => (f a).bind g = some c) as cs ↔
      ∃ bs, List.Forall₂ (fun a b => f a = some b) as bs ∧ List.Forall₂ (fun b c => g b = some c) bs cs := by
  constructor
  · rintro h
    induction h with
    | nil => exact ⟨[], List.Forall₂.nil, List.Forall₂.nil⟩
    | cons hac _ ih =>
      obtain ⟨b, hb, hc⟩ := Option.bind_eq_some_iff.1 hac
      obtain ⟨bs, hbs, hcs⟩ := ih
      exact ⟨b :: bs, List.Forall₂.cons hb hbs, List.Forall₂.cons hc hcs⟩
  · rintro ⟨bs, hbs, hcs⟩
    induction hbs generalizing cs with
    | nil =>
      obtain rfl := List.forall₂_nil_left_iff.1 hcs
      exact List.Forall₂.nil
    | cons hb _ ih =>
      obtain ⟨c, cs', hc, hcs', rfl⟩ := List.forall₂_cons_left_iff.1 hcs
      exact List.Forall₂.cons (Option.bind_eq_some_iff.2 ⟨_, hb, hc⟩) (ih hcs')

lemma mapM_expand_quoted {xs : List (List Char)} {ress : List (List (List Char))} :
    (xs.map fun x => (⟨x, true⟩ : Arg)).mapM (expand launcher) = some ress ↔
      ∃ ys, List.Forall₂ (fun x y => percent x = some y) xs ys ∧ ress = ys.map ([·]) := by
  rw [mapM_eq_some, List.forall₂_map_left_iff]
  induction xs generalizing ress with
  | nil =>
    rw [List.forall₂_nil_left_iff]
    constructor
    · rintro rfl
      exact ⟨[], List.Forall₂.nil, rfl⟩
    · rintro ⟨ys, hys, rfl⟩
      obtain rfl := List.forall₂_nil_left_iff.1 hys
      rfl
  | cons x xs ih =>
    have hexpand : expand launcher ⟨x, true⟩ = (percent x).map ([·]) := if_pos rfl
    rw [List.forall₂_cons_left_iff]
    constructor
    · rintro ⟨res, ress', hres, hress, rfl⟩
      obtain ⟨y, hy, rfl⟩ := Option.map_eq_some_iff.1 (hexpand.symm.trans hres)
      obtain ⟨ys, hys, rfl⟩ := ih.1 hress
      exact ⟨y :: ys, List.Forall₂.cons hy hys, rfl⟩
    · rintro ⟨ys, hys, rfl⟩
      obtain ⟨y, ys', hy, hys', rfl⟩ := List.forall₂_cons_left_iff.1 hys
      exact ⟨[y], ys'.map ([·]), by rw [hexpand, hy]; rfl, ih.2 ⟨ys', hys', rfl⟩, rfl⟩

/-- **Reading arguments in quotes.** Where the string value is such a line, every argument is read by
itself. -/
theorem read_line {value : List Char} {texts : List (List Char)} (htexts : ∀ t ∈ texts, Guarded t)
    (hvalue : unescape keep value = some (line texts)) {res : List (List Char)} :
    read keep launcher value = some res ↔
      List.Forall₂ (fun t y => (unquote t).bind percent = some y) texts res := by
  have hread : read keep launcher value = some res ↔ ∃ args, lex (line texts) = some args ∧
      ∃ ress, args.mapM (expand launcher) = some ress ∧ ress.flatten = res := by
    rw [read, hvalue]
    simp only [Option.bind_eq_bind, Option.bind_some, Option.bind_eq_some_iff, Option.pure_def,
      Option.some.injEq]
  rw [hread]
  constructor
  · rintro ⟨args, hargs, ress, hress, rfl⟩
    obtain ⟨xs, hxs, rfl⟩ := (lex_line htexts).1 hargs
    obtain ⟨ys, hys, rfl⟩ := mapM_expand_quoted.1 hress
    rw [← List.flatMap_def, List.flatMap_singleton', forall₂_bind]
    exact ⟨xs, hxs, hys⟩
  · rintro h
    obtain ⟨xs, hxs, hys⟩ := forall₂_bind.1 h
    refine ⟨_, (lex_line htexts).2 ⟨xs, hxs, rfl⟩, _, mapM_expand_quoted.2 ⟨res, hys, rfl⟩, ?_⟩
    rw [← List.flatMap_def, List.flatMap_singleton']

end Read

/-! ### Field codes in quotes -/

/-- Without a percent sign nothing is expanded. -/
lemma percent_eq_self {text : List Char} (h : '%' ∉ text) : percent text = some text := by
  induction text with
  | nil => rfl
  | cons c text ih =>
    obtain ⟨hc, htext⟩ := not_or.1 (fun hor => h (List.mem_cons.2 hor))
    rw [percent, ih htext]
    · rfl
    · rintro _ rfl _
      exact hc rfl
    · rintro rfl
      exact hc rfl

/-- Expansion makes no text longer, and leaves its length only where there is no percent sign. -/
lemma length_percent_le {text res : List Char} (h : percent text = some res) :
    res.length ≤ text.length ∧ (res.length = text.length → '%' ∉ text) := by
  induction text using percent.induct generalizing res with
  | case1 =>
    obtain rfl := Option.some.inj h
    exact ⟨Nat.le_refl _, fun _ => List.not_mem_nil⟩
  | case2 text ih =>
    rw [percent] at h
    obtain ⟨x, hx, rfl⟩ := Option.map_eq_some_iff.1 h
    obtain ⟨hle, -⟩ := ih hx
    rw [List.length_cons, List.length_cons, List.length_cons]
    exact ⟨by omega, fun h => by omega⟩
  | case3 text hother =>
    rw [percent] at h
    · exact absurd h (Option.some_ne_none res).symm
    · exact hother
  | case4 c text hother hc ih =>
    rw [percent] at h
    · obtain ⟨x, hx, rfl⟩ := Option.map_eq_some_iff.1 h
      obtain ⟨hle, hmem⟩ := ih hx
      rw [List.length_cons, List.length_cons]
      refine ⟨by omega, fun heq => ?_⟩
      rw [List.mem_cons]
      rintro (hpercent | h)
      · exact hc hpercent.symm
      · exact hmem (by omega) h
    · exact hother
    · exact hc

end DesktopEntry
