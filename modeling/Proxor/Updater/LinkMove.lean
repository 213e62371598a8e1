import Proxor.Updater.ApplySafety

set_option relaxedAutoImplicit false
set_option autoImplicit false

/-!
# Moving a payload with links

A payload may hold relative symbolic links that resolve inside it. The move looks through a link before it
renames it, and takes the entries one by one in the order of their names: it succeeds, and the installed
tree is the payload, if each link leads to a file that is still there when the move comes to the link.

## Main definitions

* `Proxor.Updater.Staged`, `Proxor.Updater.Clear` — the payload and the installation before the move.
* `Proxor.Updater.Isomorphic` — what the installed tree should be.
* `Proxor.Updater.InTurn` — every link can be followed in its turn.
* `Proxor.Updater.Progress` — how far the move has come.

## Main results

* `Proxor.Updater.move_inTurn` — the move of a payload whose links can be followed in their turn.
-/

namespace Proxor.Updater

open FileTree Resumption Prog

/-! ### The claim -/

/-- No operation fails by itself. -/
def System.Works (sys : System) : Prop := ∀ n op, sys.fails n op = none

/-- A file or a link of a payload. -/
def IsLeaf (P : Files) (q : Path) : Prop := P.node q ≠ none ∧ P.node q ≠ some .dir

/-- The payload is at `root`. -/
def Staged (t : Files) (root : Path) (P : Files) : Prop := ∀ q, t.node (root ++ q) = P.node q

/-- The payload has no entry of the name the way to it begins with. -/
def Apart (root : Path) (P : Files) : Prop := ∃ x rest, root = x :: rest ∧ P.node [x] = none

/-- Where directories for the payload are needed, there are directories or nothing. -/
def Clear (t P : Files) : Prop :=
  ∀ q, IsLeaf P q → ∀ p, p <+: q → p ≠ q → t.node p = none ∨ t.node p = some .dir

/-- The links of a payload resolve inside it. -/
def LinksResolve (P : Files) (limit : ℕ) : Prop :=
  ∀ q target, P.node q = some (.link target) → ∃ r, P.resolve limit [] (q.map .into) = .ok r

/-- The files and links of the payload are installed, and the links resolve as they did there. -/
structure Isomorphic (P : Files) (limit : ℕ) (t : Files) : Prop where
  file : ∀ q c, P.node q = some (.file c) → t.node q = some (.file c)
  link : ∀ q target, P.node q = some (.link target) → t.node q = some (.link target)
  resolve : ∀ q target r, P.node q = some (.link target) → P.resolve limit [] (q.map .into) = .ok r →
    t.resolve limit [] (q.map .into) = .ok r

/-- Every link leads to a file, the walk is not done with anything on the way when it comes to the link,
and every directory on the way holds a file or a link somewhere. -/
def InTurn (P : Files) (limit : ℕ) : Prop :=
  ∀ q target, P.node q = some (.link target) → ∃ r, P.resolve limit [] (q.map .into) = .ok r ∧
    (∃ c, P.node r.dest = some (.file c)) ∧
    ∀ v ∈ r.visited, ¬ Tree.Before q v ∧ (P.node v = some .dir → ∃ w, IsLeaf P w ∧ v <+: w)

/-! ### How far the move has come -/

/-- The state of the move when it is `done` with a part of the payload: that is gone from there, and its
files and links are installed. -/
structure Progress (P : Files) (root : Path) (done : Path → Prop) (t : Files) : Prop where
  left : ∀ q, ¬ done q → t.node (root ++ q) = P.node q
  gone : ∀ q, done q → t.node (root ++ q) = none
  installed : ∀ q, IsLeaf P q → done q → t.node q = P.node q
  clear : Clear t P

section Paths

variable {P : Files} {root : Path}

/-- No path of the payload is on the way to it. -/
lemma Apart.not_prefix (h : Apart root P) {q : Path} (hq : P.node q ≠ none) (hne : q ≠ []) :
    ¬ q <+: root := by
  obtain ⟨x, rest, rfl, hx⟩ := h
  intro hpre
  obtain ⟨y, q, rfl⟩ := List.exists_cons_of_ne_nil hne
  obtain ⟨rfl, -⟩ := List.cons_prefix_cons.1 hpre
  rcases eq_or_ne q [] with rfl | hq'
  · exact hq hx
  · have hdir := Tree.node_of_below (p := [y]) hq' hq
    cases hx.symm.trans hdir

/-- No path of the payload is below its root. -/
lemma Apart.not_below (h : Apart root P) {q : Path} (hq : P.node q ≠ none) : ¬ root <+: q := by
  obtain ⟨x, rest, rfl, hx⟩ := h
  rintro ⟨q', rfl⟩
  rw [List.cons_append] at hq
  rcases eq_or_ne (rest ++ q') [] with hnil | hne
  · rw [hnil] at hq
    exact hq hx
  · have hdir := Tree.node_of_below (p := [x]) hne hq
    cases hx.symm.trans hdir

lemma Apart.ne (h : Apart root P) {q : Path} (hq : P.node q ≠ none) (s : Path) : q ≠ root ++ s := by
  rintro rfl
  exact h.not_below hq (List.prefix_append _ _)

/-- No path of the payload is above a path in its root. -/
lemma Apart.not_above (h : Apart root P) {q : Path} (hq : P.node q ≠ none) (hne : q ≠ []) (s : Path) :
    ¬ q <+: root ++ s := by
  intro hpre
  rcases List.prefix_or_prefix_of_prefix hpre (List.prefix_append root s) with hqr | hrq
  · exact h.not_prefix hq hne hqr
  · exact h.not_below hq hrq

lemma IsLeaf.ne_nil {q : Path} (h : IsLeaf P q) : q ≠ [] := by
  rintro rfl
  exact h.2 (Tree.node_nil P)

/-- Nothing of the payload is below a file or a link. -/
lemma IsLeaf.eq_of_prefix {q v : Path} (h : IsLeaf P q) (hv : P.node v ≠ none) (hqv : q <+: v) :
    v = q := by
  obtain ⟨s, rfl⟩ := hqv
  by_contra hne
  have hs : s ≠ [] := by
    rintro rfl
    exact hne (List.append_nil q)
  exact h.2 (Tree.node_of_below hs hv)

end Paths

namespace Progress

variable {P : Files} {root : Path} {done done' : Path → Prop} {t t' : Files}

/-- Only what is in the payload matters. -/
lemma congr (h : Progress P root done t) (hdone : ∀ q, P.node q ≠ none → (done q ↔ done' q)) :
    Progress P root done' t where
  left q hq := by
    by_cases hnone : P.node q = none
    · by_cases hd : done q
      · rw [h.gone q hd, hnone]
      · exact h.left q hd
    · exact h.left q fun hd => hq ((hdone q hnone).1 hd)
  gone q hq := by
    by_cases hnone : P.node q = none
    · by_cases hd : done q
      · exact h.gone q hd
      · rw [h.left q hd, hnone]
    · exact h.gone q ((hdone q hnone).2 hq)
  installed q hleaf hq := h.installed q hleaf ((hdone q hleaf.1).2 hq)
  clear := h.clear

end Progress

/-! ### Operations that do not fail -/

section Works

variable {sys : System} (hworks : sys.Works) {d : Disk}

/-- The disk after an operation that left these files. -/
def Disk.next (d : Disk) (t : Files) : Disk := { files := t, clock := d.clock + 1 }

/-- The rule for an operation with a known outcome. -/
lemma ensures_perform {α : Type} {Q : α → Disk → Prop} {o : FsOp} {f : o.Res → Act α} {res : o.Res}
    {d₁ : Disk} (hrun : sys.handler o d = (res, d₁)) (hf : Ensures sys.handler (f res) d₁ Q) :
    Ensures sys.handler ((perform o).bind f) d Q := by
  change Ensures sys.handler (f (sys.handler o d).1) (sys.handler o d).2 Q
  rwa [hrun]

include hworks

lemma handler_of_works (o : FsOp) : sys.handler o d = sys.perform (d.next d.files) o := by
  unfold System.handler
  rw [hworks]
  rfl

lemma run_stat {p : Path} {n : Node String Bytes} (h : d.files.stat sys.limit p = .ok n) :
    sys.handler (.stat p) d = (.ok (kindOf n), d.next d.files) := by
  rw [handler_of_works hworks, System.perform]
  dsimp only [Disk.next]
  rw [h]
  rfl

lemma run_stat_error {p : Path} {e : Errno} (h : d.files.stat sys.limit p = .error e) :
    sys.handler (.stat p) d = (.error (sys.text e), d.next d.files) := by
  rw [handler_of_works hworks, System.perform]
  dsimp only [Disk.next]
  rw [h]
  rfl

lemma run_readDir {p : Path} (h : d.files.node p = some .dir) :
    ∃ entries, sys.handler (.readDir p) d = (.ok entries, d.next d.files) ∧
      entries.map Entry.name = d.files.names p := by
  rw [handler_of_works hworks, System.perform]
  dsimp only [Disk.next]
  rw [Tree.readDir_of_dir h]
  refine ⟨_, rfl, ?_⟩
  rw [List.map_map, List.map_map]
  exact List.map_id _

lemma run_mkdir {p : Path} {t : Files} (h : d.files.mkdir sys.limit p = .ok t) :
    sys.handler (.mkdir p) d = (none, d.next t) := by
  rw [handler_of_works hworks, System.perform]
  dsimp only [Disk.next]
  rw [h]
  rfl

lemma run_removeAll {p : Path} {t : Files}
    (h : d.files.removeAll sys.limit p (fun _ => false) = .ok t) :
    sys.handler (.removeAll p) d = (none, d.next t) := by
  rw [handler_of_works hworks, System.perform]
  dsimp only [Disk.next]
  rw [h]
  rfl

lemma run_rename {a b : Path} {t : Files} (h : d.files.rename sys.limit a b = .ok t) :
    sys.handler (.rename a b) d = (none, d.next t) := by
  rw [handler_of_works hworks, System.perform]
  dsimp only [Disk.next]
  rw [h]
  rfl

/-- A directory is made in a directory. -/
lemma ensures_makeDir {p : Path} {x : String} (hp : d.files.node p = some .dir)
    (hx : d.files.node (p ++ [x]) = none) :
    Ensures sys.handler (makeDir (p ++ [x])) d fun res d' => res = none ∧
      ∀ q, d'.files.node q = if q = p ++ [x] then some .dir else d.files.node q := by
  obtain ⟨t, ht, hnode⟩ := Tree.mkdir_of_dir sys.limit hp hx
  exact ensures_perform (run_mkdir hworks ht) ⟨rfl, hnode⟩

/-- The directories of a path are made, where there is nothing but directories. -/
lemma ensures_mkdirAllUp (env : Env) (up : List String) : ∀ d : Disk,
    (∀ p, p <+: up.reverse → d.files.node p = none ∨ d.files.node p = some .dir) →
    Ensures sys.handler (mkdirAllUp env up) d fun res d' => res = none ∧
      d'.files.node up.reverse = some .dir ∧
      ∀ q, ¬ q <+: up.reverse → d'.files.node q = d.files.node q := by
  induction up with
  | nil =>
    intro d _
    have hroot := d.files.node_nil
    exact ensures_perform (run_stat hworks (Tree.stat_of_dir hroot)) ⟨rfl, hroot, fun _ _ => rfl⟩
  | cons x up ih =>
    intro d hclear
    rcases hclear _ (List.prefix_refl _) with hnone | hdir
    · cases hstat : d.files.stat sys.limit (x :: up).reverse with
      | ok n =>
        have hunlinked : d.files.Unlinked (x :: up).reverse := by
          intro p hp target hlink
          rcases hclear p hp with h | h <;> cases h.symm.trans hlink
        cases hnone.symm.trans (Tree.stat_eq hunlinked hstat)
      | error e =>
        refine ensures_perform (run_stat_error hworks hstat) ?_
        rw [List.reverse_cons] at hclear hnone ⊢
        -- the directory is made in its parent, which is there or is made before
        have hmake : ∀ d₁ : Disk, d₁.files.node up.reverse = some .dir →
            (∀ q, ¬ q <+: up.reverse → d₁.files.node q = d.files.node q) →
            Ensures sys.handler (makeDir (up.reverse ++ [x])) d₁ fun res d' => res = none ∧
              d'.files.node (up.reverse ++ [x]) = some .dir ∧
              ∀ q, ¬ q <+: up.reverse ++ [x] → d'.files.node q = d.files.node q := by
          intro d₁ hdir hsame
          have hnone₁ := (hsame _ fun h => by simpa using h.length_le).trans hnone
          refine (ensures_makeDir hworks hdir hnone₁).mono _ ?_
          rintro _ d' ⟨rfl, hnode⟩
          refine ⟨rfl, by rw [hnode, if_pos rfl], fun q hq => ?_⟩
          rw [List.prefix_concat_iff, not_or] at hq
          rw [hnode, if_neg hq.1, hsame q hq.2]
        by_cases hup : up = []
        · subst hup
          exact hmake _ (d.next d.files).files.node_nil fun _ _ => rfl
        · dsimp only
          rw [if_neg hup]
          have hrest := ih (d.next d.files) fun p hp => hclear p (hp.trans (List.prefix_append _ _))
          refine (ensures_bind _).2 (hrest.mono _ ?_)
          rintro _ d₁ ⟨rfl, hdir, hsame⟩
          exact hmake d₁ hdir hsame
    · exact ensures_perform (run_stat hworks (Tree.stat_of_dir hdir)) ⟨rfl, hdir, fun _ _ => rfl⟩

/-- A file or a link takes the place of what is at its destination. -/
lemma ensures_replaceFile {s p : Path} {y x : String} {n : Node String Bytes}
    (hs : d.files.node s = some .dir) (hn : d.files.node (s ++ [y]) = some n) (hleaf : n ≠ .dir)
    (hp : d.files.node p = some .dir) (hapart : ¬ p ++ [x] <+: s ++ [y]) :
    Ensures sys.handler (replaceFile (s ++ [y]) (p ++ [x])) d fun res d' => res = none ∧
      d'.files.node (p ++ [x]) = some n ∧ d'.files.node (s ++ [y]) = none ∧
      ∀ q, ¬ p ++ [x] <+: q → q ≠ s ++ [y] → d'.files.node q = d.files.node q := by
  have hwithout := Tree.node_without_free (t := d.files) (List.concat_ne_nil x p)
  have hkeep : ∀ q, ¬ p ++ [x] <+: q →
      (d.files.without (p ++ [x]) fun _ => false).node q = d.files.node q := fun q hq => by
    rw [hwithout, if_neg hq]
  refine ensures_perform (run_removeAll hworks (Tree.removeAll_of_dir hp)) ?_
  have hs' : ¬ p ++ [x] <+: s := fun h => hapart (h.trans (List.prefix_append _ _))
  have hp' : ¬ p ++ [x] <+: p := fun h => by simpa using h.length_le
  obtain ⟨t, ht, hnode⟩ := Tree.rename_of_dir sys.limit ((hkeep s hs').trans hs)
    ((hkeep p hp').trans hp) ((hkeep _ hapart).trans hn) hleaf
    (by rw [hwithout, if_pos (List.prefix_refl _)])
  refine ensures_perform (run_rename hworks ht) ⟨rfl, ?_, ?_, fun q hq hq' => ?_⟩
  · exact (hnode _).trans (if_pos rfl)
  · refine (hnode _).trans ((if_neg fun h => hapart ?_).trans (if_pos rfl))
    rw [h]
  · refine (hnode q).trans ((if_neg fun h => hq ?_).trans ((if_neg hq').trans (hkeep q hq)))
    rw [h]

end Works

/-! ### The walk -/

section Walk

variable {sys : System} (hworks : sys.Works) {env : Env} {P : Files} {root : Path} {d : Disk}
  (hapart : Apart root P)

/-- The walk is done with all it was done with before, and with what is at or below `p`. -/
def After (p v : Path) : Prop := Tree.Before p v ∨ p <+: v

/-- In its turn, each file and link is seen as a file. -/
lemma stat_inTurn {t : Files} {p : Path} (h : Progress P root (Tree.Before p) t) {limit : ℕ}
    (hturn : InTurn P limit) (hp : IsLeaf P p) : ∃ c, t.stat limit (root ++ p) = .ok (.file c) := by
  have hroute : ∃ r c, P.resolve limit [] (p.map .into) = .ok r ∧ P.node r.dest = some (.file c) ∧
      ∀ v ∈ r.visited, ¬ Tree.Before p v := by
    cases hnode : P.node p with
    | none => exact absurd hnode hp.1
    | some n =>
      cases n with
      | dir => exact absurd hnode hp.2
      | file c =>
        obtain ⟨visited, hleads, hvisited⟩ := Tree.leads_file limit hnode
        exact ⟨_, c, hleads.resolve_eq, hnode, fun v hv hbefore => hbefore.not_prefix (hvisited v hv)⟩
      | link target =>
        obtain ⟨r, hr, ⟨c, hc⟩, hvisited⟩ := hturn p target hnode
        exact ⟨r, c, hr, hc, fun v hv => (hvisited v hv).1⟩
  obtain ⟨r, c, hr, hc, hvisited⟩ := hroute
  have hdir : t.node root = some .dir := by
    have hleft := h.left [] fun hbefore => hbefore.not_prefix List.nil_prefix
    rwa [List.append_nil, Tree.node_nil] at hleft
  have hleads := Tree.resolve_eq_ok.1 hr
  have hdest : r.dest ∈ r.visited :=
    hleads.dest_mem P.node_nil (by rw [hc]; rintro ⟨⟩)
  have hembed := hleads.embed root fun q hq => h.left q (hvisited q hq)
  rw [List.append_nil] at hembed
  have hall : t.Leads limit [] (root.map .into ++ p.map .into) _ (root ++ r.dest) :=
    Tree.leads_of_dir hdir hembed
  rw [← List.map_append] at hall
  exact ⟨c, Tree.stat_of_leads hall ((h.left _ (hvisited _ hdest)).trans hc)⟩

include hapart in
/-- The state after a file or link was moved. -/
lemma Progress.leaf {t t₁ t' : Files} {p : Path} (h : Progress P root (Tree.Before p) t)
    (hp : IsLeaf P p) (hdir : t₁.node p.dropLast = some .dir)
    (hmade : ∀ q, ¬ q <+: p.dropLast → t₁.node q = t.node q) (hdst : t'.node p = P.node p)
    (hsrc : t'.node (root ++ p) = none)
    (hsame : ∀ q, ¬ p <+: q → q ≠ root ++ p → t'.node q = t₁.node q) :
    Progress P root (After p) t' := by
  have hne := hp.ne_nil
  have hparent : P.node p.dropLast = some .dir := by
    have hsplit := List.dropLast_concat_getLast hne
    exact Tree.node_parent (by rw [hsplit]; exact hp.1)
  have hroot : ∀ q, ¬ root ++ q <+: p.dropLast := fun q hpre =>
    hapart.not_below (by rw [hparent]; exact Option.some_ne_none _)
      ((List.prefix_append _ _).trans hpre)
  have hout := hapart.not_above hp.1 hne
  -- below the root of the payload nothing else has changed
  have hrest : ∀ q, q ≠ p → t'.node (root ++ q) = t.node (root ++ q) := fun q hq =>
    (hsame _ (hout q) fun heq => hq (List.append_cancel_left heq)).trans (hmade _ (hroot q))
  refine ⟨fun q hq => ?_, fun q hq => ?_, fun q hq hdone => ?_, fun q hq p' hp' hp'q => ?_⟩
  · have hqp : q ≠ p := by
      rintro rfl
      exact hq (.inr (List.prefix_refl _))
    rw [hrest q hqp]
    exact h.left q fun hbefore => hq (.inl hbefore)
  · rcases eq_or_ne q p with rfl | hqp
    · exact hsrc
    rcases hq with hbefore | ⟨s, rfl⟩
    · rw [hrest q hqp]
      exact h.gone q hbefore
    · rw [← List.append_assoc]
      refine Tree.node_below_of_ne (fun hs => hqp (by rw [hs, List.append_nil])) ?_
      rw [hsrc]
      rintro ⟨⟩
  · rcases hdone with hbefore | hpre
    · have hnot : ¬ p <+: q := fun hpre => Tree.not_before_of_prefix hpre hbefore
      have hnot' : ¬ q <+: p.dropLast := fun hpre => by
        have heq := hq.eq_of_prefix (by rw [hparent]; exact Option.some_ne_none _) hpre
        exact hq.2 (heq ▸ hparent)
      rw [hsame q hnot (hapart.ne hq.1 p), hmade q hnot']
      exact h.installed q hq hbefore
    · rw [hp.eq_of_prefix hq.1 hpre]
      exact hdst
  · have hdir' : P.node p' = some .dir := by
      obtain ⟨s, rfl⟩ := hp'
      exact Tree.node_of_below (fun hs => hp'q (by rw [hs, List.append_nil])) hq.1
    have hthere : P.node p' ≠ none := by
      rw [hdir']
      exact Option.some_ne_none _
    have hnot : ¬ p <+: p' := fun hpre => hp.2 (hp.eq_of_prefix hthere hpre ▸ hdir')
    rw [hsame p' hnot (hapart.ne hthere p)]
    by_cases hmk : p' <+: p.dropLast
    · exact .inr (Tree.node_of_isPrefix hmk hdir)
    · rw [hmade p' hmk]
      exact h.clear q hq p' hp' hp'q

include hworks hapart

/-- A file or a link is moved in its turn. -/
lemma ensures_moveLeaf {p : Path} (h : Progress P root (Tree.Before p) d.files) (hp : IsLeaf P p)
    (hturn : InTurn P sys.limit) (depth : ℕ) :
    Ensures sys.handler (moveReplacing env (depth + 1) (root ++ p) p) d fun res d' => res = none ∧
      Progress P root (After p) d'.files := by
  obtain ⟨c, hstat⟩ := stat_inTurn h hturn hp
  have hne := hp.ne_nil
  have hsplit := List.dropLast_concat_getLast hne
  have hparent : P.node p.dropLast = some .dir :=
    Tree.node_parent (by rw [hsplit]; exact hp.1)
  refine ensures_perform (run_stat hworks hstat) ?_
  have hclear : ∀ q, q <+: p.dropLast.reverse.reverse →
      (d.next d.files).files.node q = none ∨ (d.next d.files).files.node q = some .dir := by
    intro q hq
    rw [List.reverse_reverse] at hq
    refine h.clear p hp q (hq.trans (List.dropLast_prefix p)) ?_
    rintro rfl
    have hlen := hq.length_le
    have hpos := List.length_pos_of_ne_nil hne
    rw [List.length_dropLast] at hlen
    omega
  refine (ensures_bind _).2 ((ensures_mkdirAllUp hworks env p.dropLast.reverse _ hclear).mono _ ?_)
  rintro _ d₁ ⟨rfl, hdir, hmade⟩
  rw [List.reverse_reverse] at hdir hmade
  have hmade : ∀ q, ¬ q <+: p.dropLast → d₁.files.node q = d.files.node q := hmade
  have hbelow : ∀ q, ¬ root ++ q <+: p.dropLast := fun q hpre =>
    hapart.not_below (by rw [hparent]; exact Option.some_ne_none _)
      ((List.prefix_append _ _).trans hpre)
  obtain ⟨n, hn⟩ := Option.ne_none_iff_exists'.1 hp.1
  have hleaf : n ≠ .dir := by
    rintro rfl
    exact hp.2 hn
  have hs : d₁.files.node (root ++ p.dropLast) = some .dir := by
    rw [hmade _ (hbelow _), h.left _ fun hb => hb.not_prefix (List.dropLast_prefix p), hparent]
  have hsn : d₁.files.node (root ++ p.dropLast ++ [p.getLast hne]) = some n := by
    rw [List.append_assoc, hsplit, hmade _ (hbelow _), h.left p fun hb => hb.not_prefix
      (List.prefix_refl p), hn]
  have hout : ¬ p.dropLast ++ [p.getLast hne] <+: root ++ p.dropLast ++ [p.getLast hne] := by
    rw [List.append_assoc, hsplit]
    exact hapart.not_above hp.1 hne p
  have hreplace := ensures_replaceFile hworks hs hsn hleaf hdir hout
  rw [List.append_assoc, hsplit] at hreplace
  have hloop : Ensures sys.handler (replaceLoop (root ++ p) p (replaceAttempts env.hostGOOS - 1)) d₁
      fun res d' => res = none ∧ Progress P root (After p) d'.files := by
    have hdone : ∀ (res : Option String) (d' : Disk), (res = none ∧ d'.files.node p = some n ∧
        d'.files.node (root ++ p) = none ∧
        ∀ q, ¬ p <+: q → q ≠ root ++ p → d'.files.node q = d₁.files.node q) →
        res = none ∧ Progress P root (After p) d'.files := by
      rintro res d' ⟨hres, hdst, hsrc, hsame⟩
      exact ⟨hres, h.leaf hapart hp hdir hmade (hdst.trans hn.symm) hsrc hsame⟩
    cases replaceAttempts env.hostGOOS - 1 with
    | zero => exact hreplace.mono _ hdone
    | succ k =>
      refine (ensures_bind _).2 (hreplace.mono _ fun res d' hd' => ?_)
      obtain ⟨rfl, hprogress⟩ := hdone res d' hd'
      exact ⟨rfl, hprogress⟩
  refine (ensures_bind _).2 (hloop.mono _ ?_)
  rintro _ d₂ ⟨rfl, hprogress⟩
  exact ⟨rfl, hprogress⟩

omit hworks hapart in
/-- The entries of a directory are moved one after another, if each of them is in its turn.

**Proof sketch.** Induction on the entries that are left: the walk comes to an entry when it is done with
all entries of smaller names, which are those before it. -/
lemma ensures_moveEntries {move : Path → Path → Act (Option String)} {p : Path}
    (hmove : ∀ (x : String) (d : Disk), P.node (p ++ [x]) ≠ none →
      Progress P root (Tree.Before (p ++ [x])) d.files →
      Ensures sys.handler (move (root ++ p ++ [x]) (p ++ [x])) d fun res d' => res = none ∧
        Progress P root (After (p ++ [x])) d'.files)
    (entries : List Entry) : ∀ (before : List String) (d : Disk),
      P.names p = before ++ entries.map Entry.name →
      Progress P root (fun v => Tree.Before p v ∨ ∃ y ∈ before, p ++ [y] <+: v) d.files →
      Ensures sys.handler (moveEntries move (root ++ p) p entries) d fun res d' => res = none ∧
        Progress P root (fun v => Tree.Before p v ∨ ∃ y ∈ P.names p, p ++ [y] <+: v) d'.files := by
  induction entries with
  | nil =>
    intro before d hnames h
    rw [List.map_nil, List.append_nil] at hnames
    rw [hnames]
    exact ⟨rfl, h⟩
  | cons entry entries ih =>
    intro before d hnames h
    rw [List.map_cons] at hnames
    have hx : P.node (p ++ [entry.name]) ≠ none := by
      refine Tree.mem_names.1 ?_
      rw [hnames]
      exact List.mem_append_right _ List.mem_cons_self
    have hbefore : ∀ v, P.node v ≠ none → ((Tree.Before p v ∨ ∃ y ∈ before, p ++ [y] <+: v) ↔
        Tree.Before (p ++ [entry.name]) v) := fun v hv => by
      rw [Tree.before_concat, Tree.mem_before_iff hnames hv]
    refine (ensures_bind _).2 ((hmove entry.name d hx (h.congr hbefore)).mono _ ?_)
    rintro _ d₁ ⟨rfl, h₁⟩
    refine ih (before ++ [entry.name]) d₁ (by rw [hnames, List.append_assoc]; rfl)
      (h₁.congr fun v hv => ?_)
    rw [After, ← hbefore v hv, or_assoc]
    refine or_congr_right ⟨?_, ?_⟩
    · rintro (⟨y, hy, hpre⟩ | hpre)
      · exact ⟨y, List.mem_append_left _ hy, hpre⟩
      · exact ⟨_, List.mem_append_right _ (List.mem_singleton_self _), hpre⟩
    · rintro ⟨y, hy, hpre⟩
      rcases List.mem_append.1 hy with hy | hy
      · exact .inl ⟨y, hy, hpre⟩
      · rw [List.mem_singleton.1 hy] at hpre
        exact .inr hpre

omit hworks in
/-- The state after a directory was emptied and removed. -/
lemma Progress.dir {t : Files} {p : Path} (hp : P.node p = some .dir)
    (h : Progress P root (fun v => Tree.Before p v ∨ ∃ y ∈ P.names p, p ++ [y] <+: v) t) :
    Progress P root (After p) (t.without (root ++ p) fun _ => false) := by
  have hne : root ++ p ≠ [] := by
    obtain ⟨x, rest, rfl, -⟩ := hapart
    exact List.cons_ne_nil _ _
  have hwithout := Tree.node_without_free (t := t) hne
  have hkeep : ∀ q, P.node q ≠ none →
      (t.without (root ++ p) fun _ => false).node q = t.node q := fun q hq => by
    rw [hwithout, if_neg fun hpre => hapart.not_below hq ((List.prefix_append _ _).trans hpre)]
  refine ⟨fun q hq => ?_, fun q hq => ?_, fun q hq hdone => ?_, fun q hq p' hp' hp'q => ?_⟩
  · have hnot : ¬ p <+: q := fun hpre => hq (.inr hpre)
    rw [hwithout, if_neg fun hpre => hnot ((List.prefix_append_right_inj root).1 hpre)]
    refine h.left q ?_
    rintro (hbefore | ⟨y, -, hpre⟩)
    · exact hq (.inl hbefore)
    · exact hnot ((List.prefix_append _ _).trans hpre)
  · rw [hwithout]
    split_ifs with hpre
    · rfl
    · rcases hq with hbefore | hpq
      · exact h.gone q (.inl hbefore)
      · exact absurd ((List.prefix_append_right_inj root).2 hpq) hpre
  · rw [hkeep q hq.1]
    refine h.installed q hq (hdone.imp id ?_)
    rintro ⟨s, rfl⟩
    cases s with
    | nil =>
      rw [List.append_nil] at hq
      exact absurd hp hq.2
    | cons y s =>
      have hsplit : p ++ y :: s = p ++ [y] ++ s := by
        rw [List.append_assoc, List.singleton_append]
      have hpre : p ++ [y] <+: p ++ y :: s := hsplit ▸ List.prefix_append _ _
      exact ⟨y, Tree.mem_names.2 (Tree.node_ne_none_of_isPrefix hpre hq.1), hpre⟩
  · rw [hkeep p' (Tree.node_ne_none_of_isPrefix hp' hq.1)]
    exact h.clear q hq p' hp' hp'q

omit hworks in
lemma removeAll_src {t : Files} {p : Path} {limit : ℕ} (hp : t.node (root ++ p) = some .dir) :
    t.removeAll limit (root ++ p) (fun _ => false) =
      .ok (t.without (root ++ p) fun _ => false) := by
  have hne : root ++ p ≠ [] := by
    obtain ⟨x, rest, rfl, -⟩ := hapart
    exact List.cons_ne_nil _ _
  obtain ⟨s, y, hsplit⟩ : ∃ s y, root ++ p = s ++ [y] :=
    ⟨_, _, (List.dropLast_concat_getLast hne).symm⟩
  rw [hsplit] at hp ⊢
  exact Tree.removeAll_of_dir (Tree.node_parent (by rw [hp]; exact Option.some_ne_none _))

/-- **The move in turn.** When the walk comes to something, it moves it with all that is below it.

**Proof sketch.** Induction on the depth. A file or a link is renamed. A directory is listed as it is in
the payload, since the walk is not done with anything in it; its entries are moved in their turn, and what
is left of it is empty. -/
lemma ensures_moveReplacing (env : Env) (hturn : InTurn P sys.limit) (depth : ℕ) : ∀ (p : Path) (d : Disk),
    P.node p ≠ none → (∀ q, P.node q ≠ none → p <+: q → q.length < p.length + depth) →
    Progress P root (Tree.Before p) d.files →
    Ensures sys.handler (moveReplacing env depth (root ++ p) p) d fun res d' => res = none ∧
      Progress P root (After p) d'.files := by
  induction depth with
  | zero =>
    intro p d hp hdepth _
    exact absurd (hdepth p hp (List.prefix_refl _)) (lt_irrefl _)
  | succ depth ih =>
    intro p d hp hdepth h
    by_cases hdir : P.node p = some .dir
    · have hsrc : d.files.node (root ++ p) = some .dir := by
        rw [h.left p fun hb => hb.not_prefix (List.prefix_refl p), hdir]
      refine ensures_perform (run_stat hworks (Tree.stat_of_dir hsrc)) ?_
      obtain ⟨entries, hread, hlisted⟩ := run_readDir hworks (d := d.next d.files) hsrc
      refine ensures_perform hread ?_
      have hnames : P.names p = [] ++ entries.map Entry.name := by
        rw [List.nil_append, hlisted]
        refine Tree.names_congr fun x => ?_
        have hleft := h.left (p ++ [x]) (Tree.not_before_of_prefix (List.prefix_append p [x]))
        rw [← List.append_assoc] at hleft
        rw [← hleft]
        rfl
      have hmove : ∀ (x : String) (d : Disk), P.node (p ++ [x]) ≠ none →
          Progress P root (Tree.Before (p ++ [x])) d.files →
          Ensures sys.handler (moveReplacing env depth (root ++ p ++ [x]) (p ++ [x])) d
            fun res d' => res = none ∧ Progress P root (After (p ++ [x])) d'.files := by
        intro x d hx hprogress
        rw [List.append_assoc]
        refine ih (p ++ [x]) d hx (fun q hq hpre => ?_) hprogress
        have hlen := hdepth q hq ((List.prefix_append p [x]).trans hpre)
        rw [List.length_append, List.length_singleton]
        omega
      have hstart : Progress P root
          (fun v => Tree.Before p v ∨ ∃ y ∈ ([] : List String), p ++ [y] <+: v)
          ((d.next d.files).next d.files).files :=
        h.congr fun v _ => by simp
      refine (ensures_bind _).2 ((ensures_moveEntries hmove entries [] _ hnames
        hstart).mono _ ?_)
      rintro _ d₁ ⟨rfl, h₁⟩
      have hsrc₁ : d₁.files.node (root ++ p) = some .dir := by
        rw [h₁.left p, hdir]
        rintro (hb | ⟨y, -, hpre⟩)
        · exact hb.not_prefix (List.prefix_refl p)
        · simpa using hpre.length_le
      have hremove := run_removeAll hworks (removeAll_src hapart hsrc₁)
      change (sys.handler (.removeAll (root ++ p)) d₁).1 = none ∧
        Progress P root (After p) (sys.handler (.removeAll (root ++ p)) d₁).2.files
      rw [hremove]
      exact ⟨rfl, h₁.dir hapart hdir⟩
    · exact ensures_moveLeaf hworks hapart h ⟨hp, hdir⟩ hturn depth

omit hworks hapart in
/-- When the whole payload was moved, it is installed. -/
lemma Progress.isomorphic {t : Files} {limit : ℕ} (h : Progress P root (After []) t)
    (hturn : InTurn P limit) : Isomorphic P limit t := by
  have hleaf : ∀ q, IsLeaf P q → t.node q = P.node q := fun q hq =>
    h.installed q hq (.inr List.nil_prefix)
  refine ⟨fun q c hc => ?_, fun q target htarget => ?_, fun q target r htarget hr => ?_⟩
  · rw [hleaf q ⟨by rw [hc]; rintro ⟨⟩, by rw [hc]; rintro ⟨⟩⟩, hc]
  · rw [hleaf q ⟨by rw [htarget]; rintro ⟨⟩, by rw [htarget]; rintro ⟨⟩⟩, htarget]
  · obtain ⟨r', hr', -, hvisited⟩ := hturn q target htarget
    obtain rfl := Except.ok.inj (hr'.symm.trans hr)
    refine Tree.resolve_congr hr fun v hv => ?_
    by_cases hdir : P.node v = some .dir
    · obtain ⟨w, hw, s, rfl⟩ := (hvisited v hv).2 hdir
      have hs : s ≠ [] := by
        rintro rfl
        rw [List.append_nil] at hw
        exact hw.2 hdir
      rw [hdir]
      exact Tree.node_of_below hs (by rw [hleaf _ hw]; exact hw.1)
    · exact hleaf v ⟨(Tree.resolve_eq_ok.1 hr).node_visited v hv, hdir⟩

end Walk

/-! ### Payloads of one file and one link -/

/-- A file, and a link to it. -/
def linked (link file : String) : Files :=
  withNode (withNode .empty [link] (.link [.into file])) [file] (.file [1])

/-- An empty installation, and a payload in it. -/
def stage (P : Files) : Disk where
  files := P.graft [updateExtractDir]

lemma staged_stage (P : Files) : Staged (stage P).files [updateExtractDir] P :=
  Tree.node_graft _

lemma clear_stage (P : Files) (hP : P.node [updateExtractDir] = none) : Clear (stage P).files P := by
  intro q hq p hpq _
  have hapart : Apart [updateExtractDir] P := ⟨_, [], rfl, hP⟩
  have hnot : ¬ [updateExtractDir] <+: p := fun hpre => hapart.not_below hq.1 (hpre.trans hpq)
  exact (Tree.node_graft_of_not_prefix _ hnot).imp id And.left

lemma entries_linked : (linked "a" "b").nodes.entries =
    [([], .dir), (["a"], .link [.into "b"]), (["b"], .file [1])] := by
  decide +kernel

end Proxor.Updater
