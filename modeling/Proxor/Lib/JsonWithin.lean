import Proxor.Lib.JsonText

set_option relaxedAutoImplicit false
set_option autoImplicit false

/-!
# What has been read of a JSON text

The reader of JSON takes nothing back: the value of a text has all that was read on the way to it. So two texts
of one value that begin with the same tokens before a string have the same string there.

## Main definitions

* `JsonText.Fits` — a value has another in the place that is open.
* `JsonText.State.Within` — a value has what has been read.
* `JsonText.Piece`, `JsonText.Sound` — tokens with texts that may be others than theirs.

## Main results

* `JsonText.within_of_step` — a step takes nothing back.
* `JsonText.within_of_run` — a value has what was read on the way to it.
* `JsonText.readString_of_parse` — two texts of one value have the same strings.
* `JsonText.holds_of_parse` — a text is read as the value of its tokens only if every piece is right.
-/

namespace JsonText

/-! ### What may still be read -/

/-- A value has another in the place that is open. -/
def Fits : List Frame → Json → Json → Prop
  | [], x, v => x = v
  | .arr items :: stack, x, v => ∃ more, Fits stack (.arr (items ++ x :: more)) v
  | .field fields key :: stack, x, v => ∃ more, Fits stack (.obj (fields ++ (key, x) :: more)) v
  | .obj _ :: _, _, _ => False

/-- A value has what has been read, and may have more where something is open. -/
def State.Within : State → Json → Prop
  | .done w, v => w = v
  | .reading [] _, _ => True
  | .reading (.arr items :: stack) _, v => ∃ more, Fits stack (.arr (items ++ more)) v
  | .reading (.obj fields :: stack) _, v => ∃ more, Fits stack (.obj (fields ++ more)) v
  | .reading (.field fields key :: stack) _, v => ∃ x, Fits (.field fields key :: stack) x v

/-- A value has one other only in the place that is open. -/
lemma Fits.inj {stack : List Frame} {x y v : Json} (hx : Fits stack x v) (hy : Fits stack y v) : x = y := by
  induction stack generalizing x y with
  | nil => exact hx.trans hy.symm
  | cons frame stack ih =>
    cases frame with
    | arr items =>
      obtain ⟨more, hx⟩ := hx
      obtain ⟨more', hy⟩ := hy
      exact (List.cons.inj (List.append_cancel_left (Json.arr.inj (ih hx hy)))).1
    | obj fields => exact hx.elim
    | field fields key =>
      obtain ⟨more, hx⟩ := hx
      obtain ⟨more', hy⟩ := hy
      exact (Prod.mk.inj (List.cons.inj (List.append_cancel_left (Json.obj.inj (ih hx hy)))).1).2

/-- Where a value is read, it is in its place. -/
lemma fits_of_push {stack : List Frame} {x v : Json} {st : State} (h : push x stack = some st)
    (hv : st.Within v) : Fits stack x v := by
  match stack with
  | [] =>
    obtain rfl := Option.some.inj h
    exact hv
  | .arr items :: stack =>
    obtain rfl := Option.some.inj h
    obtain ⟨more, hv⟩ := hv
    rw [List.append_assoc, List.singleton_append] at hv
    exact ⟨more, hv⟩
  | .field fields key :: stack =>
    obtain rfl := Option.some.inj h
    obtain ⟨more, hv⟩ := hv
    rw [List.append_assoc, List.singleton_append] at hv
    exact ⟨more, hv⟩
  | .obj fields :: stack => exact absurd h.symm (Option.some_ne_none _)

lemma Fits.within {stack : List Frame} {x v : Json} (h : Fits stack x v) (mode : Mode) :
    (State.reading stack mode).Within v := by
  match stack with
  | [] => exact trivial
  | .arr items :: stack =>
    obtain ⟨more, h⟩ := h
    exact ⟨x :: more, h⟩
  | .field fields key :: stack => exact ⟨x, h⟩
  | .obj fields :: stack => exact h.elim

/-- What has been read does not depend on what comes next. -/
lemma within_mode {stack : List Frame} {mode mode' : Mode} {v : Json}
    (h : (State.reading stack mode).Within v) : (State.reading stack mode').Within v := by
  match stack with
  | [] => exact trivial
  | .arr items :: stack => exact h
  | .field fields key :: stack => exact h
  | .obj fields :: stack => exact h

lemma within_of_readValue {stack : List Frame} {mode : Mode} {c : Char} {rest : List Char} {p : State × List Char}
    {v : Json} (h : readValue stack c rest = some p) (hv : p.1.Within v) : (State.reading stack mode).Within v := by
  have hpush : ∀ {x : Json} {r : List Char}, (push x stack).map (fun st => (st, r)) = some p →
      (State.reading stack mode).Within v := by
    rintro x r h
    obtain ⟨st, hst, rfl⟩ := Option.map_eq_some_iff.1 h
    exact (fits_of_push hst hv).within mode
  rw [readValue] at h
  split_ifs at h
  · obtain ⟨q, -, h⟩ := Option.bind_eq_some_iff.1 h
    exact hpush h
  · obtain rfl := Option.some.inj h
    obtain ⟨more, hv⟩ := hv
    exact hv.within mode
  · obtain rfl := Option.some.inj h
    obtain ⟨more, hv⟩ := hv
    exact hv.within mode
  · exact hpush h
  · exact hpush h
  · exact hpush h
  · obtain ⟨n, -, h⟩ := Option.bind_eq_some_iff.1 h
    exact hpush h

lemma within_of_readKey {stack : List Frame} {mode : Mode} {rest : List Char} {p : State × List Char} {v : Json}
    (h : readKey stack rest = some p) (hv : p.1.Within v) : (State.reading stack mode).Within v := by
  rw [readKey.eq_def] at h
  split at h
  · obtain ⟨q, -, rfl⟩ := Option.map_eq_some_iff.1 h
    obtain ⟨x, more, hv⟩ := hv
    exact ⟨_, hv⟩
  · exact absurd h.symm (Option.some_ne_none _)

lemma within_of_close {c : Char} {stack : List Frame} {mode : Mode} {st : State} {v : Json}
    (h : close c stack = some st) (hv : st.Within v) : (State.reading stack mode).Within v := by
  rw [close.eq_def] at h
  split at h
  · split at h
    · refine ⟨[], ?_⟩
      rw [List.append_nil]
      exact fits_of_push h hv
    · exact absurd h.symm (Option.some_ne_none _)
  · split at h
    · refine ⟨[], ?_⟩
      rw [List.append_nil]
      exact fits_of_push h hv
    · exact absurd h.symm (Option.some_ne_none _)
  · exact absurd h.symm (Option.some_ne_none _)

lemma within_of_comma {stack : List Frame} {mode : Mode} {st : State} {v : Json} (h : comma stack = some st)
    (hv : st.Within v) : (State.reading stack mode).Within v := by
  rw [comma.eq_def] at h
  split at h
  · obtain rfl := Option.some.inj h
    exact hv
  · obtain rfl := Option.some.inj h
    exact hv
  · exact absurd h.symm (Option.some_ne_none _)

/-- **A step takes nothing back** of what has been read. -/
theorem within_of_step {st : State} {c : Char} {rest : List Char} {p : State × List Char} {v : Json}
    (h : step st c rest = some p) (hv : p.1.Within v) : st.Within v := by
  have hmap : ∀ {o : Option State}, o.map (fun st => (st, rest)) = some p → o = some p.1 := by
    rintro o h
    obtain ⟨st', rfl, rfl⟩ := Option.map_eq_some_iff.1 h
    rfl
  rw [step.eq_def] at h
  split_ifs at h
  · obtain rfl := Option.some.inj h
    exact hv
  · obtain rfl := Option.some.inj h
    exact hv
  · cases st with
    | done w => exact absurd h.symm (Option.some_ne_none _)
    | reading stack mode =>
      cases mode with
      | value => exact within_of_readValue h hv
      | valueOrEnd =>
        change (if c = ']' then _ else _) = _ at h
        split at h
        · exact within_of_close (hmap h) hv
        · exact within_of_readValue h hv
      | key =>
        change (if c = '"' then _ else _) = _ at h
        split at h
        · exact within_of_readKey h hv
        · exact absurd h.symm (Option.some_ne_none _)
      | keyOrEnd =>
        change (if c = '"' then _ else _) = _ at h
        split_ifs at h
        · exact within_of_readKey h hv
        · exact within_of_close (hmap h) hv
      | colon =>
        change (if c = ':' then _ else _) = _ at h
        split at h
        · obtain rfl := Option.some.inj h
          exact within_mode hv
        · exact absurd h.symm (Option.some_ne_none _)
      | next =>
        change (if c = ',' then _ else _) = _ at h
        split at h
        · exact within_of_comma (hmap h) hv
        · exact within_of_close (hmap h) hv

/-- **A value has what was read** on the way to it. -/
theorem within_of_run {n : ℕ} {st : State} {text : List Char} {v : Json} (h : run n st text = some v) :
    st.Within v := by
  induction n generalizing st text with
  | zero =>
    cases text with
    | nil =>
      cases st with
      | done w => exact Option.some.inj h
      | reading stack mode => exact absurd h.symm (Option.some_ne_none _)
    | cons c text =>
      cases st <;> exact absurd h.symm (Option.some_ne_none _)
  | succ n ih =>
    cases text with
    | nil =>
      cases st with
      | done w => exact Option.some.inj h
      | reading stack mode => exact absurd h.symm (Option.some_ne_none _)
    | cons c text =>
      have hstep : (step st c text).bind (fun p => run n p.1 p.2) = some v := by
        cases st <;> exact h
      obtain ⟨p, hp, hrun⟩ := Option.bind_eq_some_iff.1 hstep
      exact within_of_step hp (ih hrun)

/-- More steps do not change the value. -/
lemma run_add {n : ℕ} {st : State} {text : List Char} {v : Json} (h : run n st text = some v) (k : ℕ) :
    run (n + k) st text = some v := by
  induction n generalizing st text with
  | zero =>
    cases text with
    | nil =>
      cases st with
      | done w => cases k <;> exact h
      | reading stack mode => exact absurd h.symm (Option.some_ne_none _)
    | cons c text =>
      cases st <;> exact absurd h.symm (Option.some_ne_none _)
  | succ n ih =>
    cases text with
    | nil =>
      cases st with
      | done w =>
        rw [Nat.succ_add]
        exact h
      | reading stack mode => exact absurd h.symm (Option.some_ne_none _)
    | cons c text =>
      have hstep : (step st c text).bind (fun p => run n p.1 p.2) = some v := by
        cases st <;> exact h
      obtain ⟨p, hp, hrun⟩ := Option.bind_eq_some_iff.1 hstep
      have hmore : (step st c text).bind (fun p => run (n + k) p.1 p.2) = some v := by
        rw [hp]
        exact ih hrun
      rw [Nat.succ_add]
      cases st <;> exact hmore

/-- A value that a text is read as has what was read of its front. -/
lemma run_of_reads {st st' : State} {part : List Char} (hreads : Reads st part st') {n : ℕ} {rest : List Char}
    {v : Json} (h : run n st (part ++ rest) = some v) : ∃ m, run m st' rest = some v := by
  obtain ⟨k, -, hreads⟩ := hreads
  have hmore := run_add h k
  rw [hreads] at hmore
  exact ⟨n, hmore⟩

/-- A value that has a string in the place that is open has no other. -/
lemma string_unique {stack : List Frame} {mode : Mode} {s y : String} {p : State} {st : State} {v : Json}
    (hs : (Token.text s).exec (.reading stack mode) = some st) (hst : st.Within v)
    (hy : (Token.text y).exec (.reading stack mode) = some p) (hp : p.Within v) : s = y := by
  change (if mode.isValue then _ else _) = _ at hs
  change (if mode.isValue then _ else _) = _ at hy
  split_ifs at hs hy
  · exact Json.str.inj ((fits_of_push hs hst).inj (fits_of_push hy hp))
  · split at hs
    · obtain rfl := Option.some.inj hs
      obtain rfl := Option.some.inj hy
      obtain ⟨x, more, hst⟩ := hst
      obtain ⟨x', more', hp⟩ := hp
      exact (Prod.mk.inj (List.cons.inj (List.append_cancel_left (Json.obj.inj (hst.inj hp)))).1).1
    · exact absurd hs.symm (Option.some_ne_none _)

/-- A quotation mark begins a string. -/
lemma exec_text_of_step {st : State} {text : List Char} {p : State × List Char}
    (h : step st '"' text = some p) :
    ∃ y r, readString text = some (y, r) ∧ (Token.text (String.ofList y)).exec st = some p.1 := by
  cases st with
  | done v => exact absurd h.symm (Option.some_ne_none _)
  | reading stack mode =>
    have hvalue : mode.isValue = true → readValue stack '"' text = some p →
        ∃ y r, readString text = some (y, r) ∧
          (Token.text (String.ofList y)).exec (.reading stack mode) = some p.1 := by
      rintro hmode h
      rw [readValue, if_pos rfl] at h
      obtain ⟨⟨y, r⟩, hread, hmap⟩ := Option.bind_eq_some_iff.1 h
      obtain ⟨st, hpush, rfl⟩ := Option.map_eq_some_iff.1 hmap
      exact ⟨y, r, hread, (if_pos hmode).trans hpush⟩
    have hkey : mode = .key ∨ mode = .keyOrEnd → readKey stack text = some p →
        ∃ y r, readString text = some (y, r) ∧
          (Token.text (String.ofList y)).exec (.reading stack mode) = some p.1 := by
      rintro hmode h
      rw [readKey.eq_def] at h
      split at h
      · obtain ⟨⟨y, r⟩, hread, rfl⟩ := Option.map_eq_some_iff.1 h
        refine ⟨y, r, hread, ?_⟩
        rcases hmode with rfl | rfl <;> rfl
      · exact absurd h.symm (Option.some_ne_none _)
    cases mode with
    | value => exact hvalue rfl h
    | valueOrEnd => exact hvalue rfl h
    | key => exact hkey (Or.inl rfl) h
    | keyOrEnd => exact hkey (Or.inr rfl) h
    | colon => exact absurd h.symm (Option.some_ne_none _)
    | next =>
      obtain ⟨st, hclose, -⟩ := Option.map_eq_some_iff.1 (show (close '"' stack).map (·, text) = some p from h)
      rw [close.eq_def] at hclose
      split at hclose <;> exact absurd hclose.symm (Option.some_ne_none _)

/-- What is around a string. -/
lemma ended_around_text {a b : List Token} {s : String} {pending : Bool}
    (h : ended pending (a ++ .text s :: b) = true) : ended pending a = true ∧ ended false b = true := by
  induction a generalizing pending with
  | nil =>
    rw [List.nil_append, ended, Bool.and_eq_true] at h
    cases pending with
    | true => exact absurd h.1 Bool.false_ne_true
    | false => exact ⟨rfl, h.2⟩
  | cons t a ih =>
    rw [List.cons_append, ended, Bool.and_eq_true] at h
    obtain ⟨hrest, hb⟩ := ih h.2
    exact ⟨by rw [ended, h.1, hrest, Bool.and_self], hb⟩

/-- **Two texts of one value** that have the same tokens before a string have the same string there.

**Proof sketch.** The reader is in the same state at the string. A step takes nothing back, so the value has
both strings in the place that is open there, and it has only one. -/
theorem readString_of_parse {a b : List Token} {s : String} {v : Json} {text : List Char}
    (hended : ended false (a ++ .text s :: b) = true)
    (hexec : (a ++ .text s :: b).foldlM Token.exec (.reading [] .value) = some (.done v))
    (h : parse (writeTokens a ++ '"' :: text) = some v) : ∃ r, readString text = some (s.toList, r) := by
  obtain ⟨hendedA, hendedB⟩ := ended_around_text hended
  rw [List.foldlM_append] at hexec
  obtain ⟨st, hfront, hexec⟩ := Option.bind_eq_some_iff.1 hexec
  rw [List.foldlM_cons] at hexec
  obtain ⟨st₁, hs, hback⟩ := Option.bind_eq_some_iff.1 hexec
  -- The value has the string, as the rest of the tokens is read to its end.
  have hwithin : st₁.Within v := by
    obtain ⟨k, -, hreads⟩ := reads_tokens hendedB hback
    have hrun := hreads 0 []
    exact within_of_run (hrun.trans rfl)
  -- The other text is read up to the same place.
  obtain ⟨m, hrun⟩ := run_of_reads (reads_tokens hendedA hfront) h
  match m, hrun with
  | 0, hrun => cases st <;> exact absurd hrun.symm (Option.some_ne_none _)
  | m + 1, hrun =>
    have hstep : (step st '"' text).bind (fun p => run m p.1 p.2) = some v := by
      cases st <;> exact hrun
    obtain ⟨p, hp, hlast⟩ := Option.bind_eq_some_iff.1 hstep
    obtain ⟨y, r, hread, hy⟩ := exec_text_of_step hp
    cases st with
    | done w => exact absurd hs.symm (Option.some_ne_none _)
    | reading stack mode =>
      rw [string_unique hs hwithin hy (within_of_run hlast), String.toList_ofList]
      exact ⟨r, hread⟩

/-! ### Texts that are not written as they should be -/

/-- A token, the text that is in its place, and what it takes for the text to be right. -/
structure Piece where
  token : Token
  text : List Char
  holds : Prop

/-- A piece is right as it is, or it is a string that is read as it should be only if it is right. -/
def Piece.Sound (p : Piece) (rest : List Char) : Prop :=
  (p.holds → p.text = p.token.write) ∧
    (p.holds ∨ ∃ s x, p.token = .text s ∧ p.text = '"' :: (x ++ ['"']) ∧
      ∀ r, readString (x ++ '"' :: rest) = some (s.toList, r) → p.holds)

/-- Every piece is, with the text behind it. -/
def Sound : List Piece → Prop
  | [] => True
  | p :: pieces => p.Sound (pieces.flatMap Piece.text) ∧ Sound pieces

/-- Pieces that are, whatever is behind them. -/
lemma sound_append {a b : List Piece} (ha : ∀ p ∈ a, ∀ rest, p.Sound rest) (hb : Sound b) : Sound (a ++ b) := by
  induction a with
  | nil => exact hb
  | cons p a ih =>
    rw [List.forall_mem_cons] at ha
    exact ⟨ha.1 _, ih ha.2⟩

/-- **A text is read as the value of its tokens** only if every piece is right.

**Proof sketch.** Up to the first piece that is not right, the text is that of the tokens. The piece is a string,
and the value has the string of its token there. -/
theorem holds_of_parse {pieces : List Piece} {v : Json} (hsound : Sound pieces)
    (hended : ended false (pieces.map Piece.token) = true)
    (hexec : (pieces.map Piece.token).foldlM Token.exec (.reading [] .value) = some (.done v))
    (h : parse (pieces.flatMap Piece.text) = some v) : ∀ p ∈ pieces, p.holds := by
  have hall : ∀ front back : List Piece, pieces = front ++ back →
      front.flatMap Piece.text = writeTokens (front.map Piece.token) → Sound back → ∀ p ∈ back, p.holds := by
    rintro front back hpieces hfront hsound
    induction back generalizing front with
    | nil => exact fun p hp => absurd hp List.not_mem_nil
    | cons p back ih =>
      have hp : p.holds := by
        rcases hsound.1.2 with hp | ⟨s, x, htoken, htext, hread⟩
        · exact hp
        · have htokens : pieces.map Piece.token =
              front.map Piece.token ++ .text s :: back.map Piece.token := by
            rw [hpieces, List.map_append, List.map_cons, htoken]
          have hall : pieces.flatMap Piece.text =
              writeTokens (front.map Piece.token) ++ '"' :: (x ++ '"' :: back.flatMap Piece.text) := by
            rw [hpieces, List.flatMap_append, List.flatMap_cons, hfront, htext, List.cons_append,
              List.append_assoc, List.singleton_append]
          rw [htokens] at hended hexec
          rw [hall] at h
          obtain ⟨r, hr⟩ := readString_of_parse hended hexec h
          exact hread r hr
      have hstep := ih (front ++ [p]) (by rw [hpieces, List.append_assoc, List.singleton_append])
        (by
          rw [List.flatMap_append, hfront, List.flatMap_singleton, hsound.1.1 hp, List.map_append, writeTokens,
            writeTokens, List.flatMap_append, List.map_singleton, List.flatMap_singleton])
        hsound.2
      exact List.forall_mem_cons.2 ⟨hp, hstep⟩
  exact hall [] pieces rfl rfl hsound

end JsonText
