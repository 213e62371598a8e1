import Proxor.Updater.ApplyUpdate

set_option relaxedAutoImplicit false
set_option autoImplicit false

/-!
# No payload file is lost

While the payload is moved into place, each of its files is in the payload directory or at its
destination, whichever operations fail, as long as no destination is one of the updater's own paths and
no directory on the way is a link.

## Main definitions

* `Proxor.Updater.Fits` — a payload that can replace the installation.
* `Proxor.Updater.Safe`, `Proxor.Updater.Kept` — no file is lost; the invariant of the move.

## Main results

* `Proxor.Updater.keeps_replaceFile` — an attempt to replace a file moves it or leaves it.
* `Proxor.Updater.keeps_moveReplacing` — the move loses no file.
-/

namespace Proxor.Updater

open FileTree Resumption Prog

/-! ### What the operations do -/

section Operations

variable (sys : System) (d : Disk)

lemma handler_cases (op : FsOp) :
    sys.handler op d = sys.perform { d with clock := d.clock + 1 } op ∨
      ∃ e, sys.handler op d = sys.failed { d with clock := d.clock + 1 } e op := by
  unfold System.handler
  cases sys.fails d.clock op with
  | none => exact .inl rfl
  | some e => exact .inr ⟨e, rfl⟩

/-- A change leaves the files as they are or has no error. -/
lemma change_cases (r : Except Errno Files) :
    ((sys.change d r).2.files = d.files ∧ (sys.change d r).1 ≠ none) ∨
      ((sys.change d r).1 = none ∧ r = .ok (sys.change d r).2.files) := by
  cases r with
  | ok files => exact .inr ⟨rfl, rfl⟩
  | error e => exact .inl ⟨rfl, Option.some_ne_none _⟩

/-- Operations that only read. -/
def FsOp.Reads : FsOp → Prop
  | .exist _ | .openRead _ | .stat _ | .lstat _ | .readDir _ | .readFile _ | .glob _ => True
  | _ => False

lemma files_of_reads {o : FsOp} (h : o.Reads) : (sys.handler o d).2.files = d.files := by
  rcases handler_cases sys d o with hcase | ⟨e, hcase⟩ <;> rw [hcase] <;> cases o <;>
    first
    | rfl
    | cases h

variable {sys d}

lemma stat_ok {p : Path} {k : Kind} (h : (sys.handler (.stat p) d).1 = .ok k) :
    ∃ n, d.files.stat sys.limit p = .ok n ∧ kindOf n = k := by
  rcases handler_cases sys d (.stat p) with hcase | ⟨e, hcase⟩ <;> rw [hcase] at h
  · simp only [System.perform] at h
    cases hstat : d.files.stat sys.limit p with
    | error e =>
      rw [hstat] at h
      cases h
    | ok n =>
      rw [hstat] at h
      exact ⟨n, rfl, Except.ok.inj h⟩
  · cases h

lemma readDir_ok {p : Path} {entries : List Entry} (h : (sys.handler (.readDir p) d).1 = .ok entries) :
    ∃ es, d.files.readDir sys.limit p = .ok es ∧ entries.map Entry.name = es.map Prod.fst := by
  rcases handler_cases sys d (.readDir p) with hcase | ⟨e, hcase⟩ <;> rw [hcase] at h
  · simp only [System.perform] at h
    cases hread : d.files.readDir sys.limit p with
    | error e =>
      rw [hread] at h
      cases h
    | ok es =>
      rw [hread] at h
      refine ⟨es, rfl, ?_⟩
      rw [← Except.ok.inj h, List.map_map]
      rfl
  · cases h

lemma readFile_ok {p : Path} {data : Bytes} (h : (sys.handler (.readFile p) d).1 = .ok data) :
    d.files.readFile sys.limit p = .ok data := by
  rcases handler_cases sys d (.readFile p) with hcase | ⟨e, hcase⟩ <;> rw [hcase] at h
  · simp only [System.perform] at h
    cases hread : d.files.readFile sys.limit p with
    | error e =>
      rw [hread] at h
      cases h
    | ok data' =>
      rw [hread] at h
      rw [← Except.ok.inj h]
  · cases h

/-- A removal removes all, or fails and may have removed a part. -/
lemma removeAll_cases (sys : System) (d : Disk) (p : Path) :
    ((sys.handler (.removeAll p) d).1 ≠ none ∧ ((sys.handler (.removeAll p) d).2.files = d.files ∨
      ∃ stuck, d.files.removeAll sys.limit p stuck = .ok (sys.handler (.removeAll p) d).2.files)) ∨
    ((sys.handler (.removeAll p) d).1 = none ∧
      d.files.removeAll sys.limit p (fun _ => false) = .ok (sys.handler (.removeAll p) d).2.files) := by
  rcases handler_cases sys d (.removeAll p) with hcase | ⟨e, hcase⟩ <;> rw [hcase]
  · simp only [System.perform]
    rcases change_cases sys { d with clock := d.clock + 1 }
      (d.files.removeAll sys.limit p fun _ => false) with ⟨hsame, hne⟩ | hdone
    · exact .inl ⟨hne, .inl hsame⟩
    · exact .inr hdone
  · refine .inl ⟨Option.some_ne_none _, ?_⟩
    simp only [System.failed]
    rcases change_cases sys { d with clock := d.clock + 1 }
      (d.files.removeAll sys.limit p (sys.stuck (d.clock + 1))) with ⟨hsame, -⟩ | ⟨-, hok⟩
    · exact .inl hsame
    · exact .inr ⟨_, hok⟩

/-- A renaming is done or changes nothing. -/
lemma rename_cases (sys : System) (d : Disk) (a b : Path) :
    ((sys.handler (.rename a b) d).1 ≠ none ∧ (sys.handler (.rename a b) d).2.files = d.files) ∨
    ((sys.handler (.rename a b) d).1 = none ∧
      d.files.rename sys.limit a b = .ok (sys.handler (.rename a b) d).2.files) := by
  rcases handler_cases sys d (.rename a b) with hcase | ⟨e, hcase⟩ <;> rw [hcase]
  · rcases change_cases sys { d with clock := d.clock + 1 } (d.files.rename sys.limit a b) with
      ⟨hsame, hne⟩ | hdone
    · exact .inl ⟨hne, hsame⟩
    · exact .inr hdone
  · exact .inl ⟨Option.some_ne_none _, rfl⟩

/-- A file is removed, or nothing is changed. -/
lemma remove_cases (sys : System) (d : Disk) (p : Path) :
    ((sys.handler (.remove p) d).1 ≠ none ∧ (sys.handler (.remove p) d).2.files = d.files) ∨
    ((sys.handler (.remove p) d).1 = none ∧
      d.files.remove sys.limit p = .ok (sys.handler (.remove p) d).2.files) := by
  rcases handler_cases sys d (.remove p) with hcase | ⟨e, hcase⟩ <;> rw [hcase]
  · rcases change_cases sys { d with clock := d.clock + 1 } (d.files.remove sys.limit p) with
      ⟨hsame, hne⟩ | hdone
    · exact .inl ⟨hne, hsame⟩
    · exact .inr hdone
  · exact .inl ⟨Option.some_ne_none _, rfl⟩

/-- A directory is made, or nothing is changed. -/
lemma mkdir_cases (sys : System) (d : Disk) (p : Path) :
    ((sys.handler (.mkdir p) d).1 ≠ none ∧ (sys.handler (.mkdir p) d).2.files = d.files) ∨
    ((sys.handler (.mkdir p) d).1 = none ∧
      d.files.mkdir sys.limit p = .ok (sys.handler (.mkdir p) d).2.files) := by
  rcases handler_cases sys d (.mkdir p) with hcase | ⟨e, hcase⟩ <;> rw [hcase]
  · rcases change_cases sys { d with clock := d.clock + 1 } (d.files.mkdir sys.limit p) with
      ⟨hsame, hne⟩ | hdone
    · exact .inl ⟨hne, hsame⟩
    · exact .inr hdone
  · exact .inl ⟨Option.some_ne_none _, rfl⟩

/-- A file is written, or the write fails and may leave another content. -/
lemma writeFile_cases (sys : System) (d : Disk) (p : Path) (data : Bytes) :
    ((sys.handler (.writeFile p data) d).1 ≠ none ∧
      ((sys.handler (.writeFile p data) d).2.files = d.files ∨
        ∃ part, d.files.writeFile sys.limit p part =
          .ok (sys.handler (.writeFile p data) d).2.files)) ∨
    ((sys.handler (.writeFile p data) d).1 = none ∧
      d.files.writeFile sys.limit p data = .ok (sys.handler (.writeFile p data) d).2.files) := by
  rcases handler_cases sys d (.writeFile p data) with hcase | ⟨e, hcase⟩ <;> rw [hcase]
  · rcases change_cases sys { d with clock := d.clock + 1 } (d.files.writeFile sys.limit p data) with
      ⟨hsame, hne⟩ | hdone
    · exact .inl ⟨hne, .inl hsame⟩
    · exact .inr hdone
  · simp only [System.failed]
    cases sys.written (d.clock + 1) with
    | none => exact .inl ⟨Option.some_ne_none _, .inl rfl⟩
    | some part =>
      refine .inl ⟨Option.some_ne_none _, ?_⟩
      rcases change_cases sys { d with clock := d.clock + 1 }
        (d.files.writeFile sys.limit p part) with ⟨hsame, -⟩ | ⟨-, hok⟩
      · exact .inl hsame
      · exact .inr ⟨part, hok⟩

end Operations

/-! ### What is promised -/

/-- A file of the payload, by its path there. -/
def IsPayload (t₁ : Files) (root r : Path) : Prop := ∃ c, t₁.node (root ++ r) = some (.file c)

/-- The updater's own paths, which it removes in the end. -/
def ownPaths : List Path := [updateExtractDir] :: updateArchives

/-- A payload of directories and regular files. -/
structure Plain (t : Files) (root : Path) : Prop where
  dir : t.node root = some .dir
  plain : ∀ q target, t.node (root ++ q) ≠ some (.link target)

/-- A payload that can replace the installation: none of its files is at one of the updater's own paths,
and no directory for them, and not `./config`, is a link in the installation. -/
structure Fits (t : Files) (root : Path) : Prop extends Plain t root where
  own : ∀ r, IsPayload t root r → ∀ p ∈ ownPaths, ¬ p <+: r
  real : ∀ r, IsPayload t root r → t.Unlinked r.dropLast
  config : t.Unlinked ["config"]

/-- Each file of the payload is in its place in the payload or at its destination. -/
def Safe (t₁ : Files) (root : Path) (t : Files) : Prop :=
  ∀ r c, t₁.node (root ++ r) = some (.file c) →
    t.node (root ++ r) = some (.file c) ∨ t.node r = some (.file c)

/-- Paths an update leaves alone: not at or below a payload file, obsolete, a dll, a dmp, below `usr`, or
one of the updater's own. -/
structure Spared (t₁ : Files) (root q : Path) : Prop where
  payload : ∀ r, IsPayload t₁ root r → ¬ r <+: q
  obsolete : ∀ p ∈ obsoletePaths, ¬ p <+: q
  usr : ¬ ["usr"] <+: q
  suffix : ∀ name, [name] <+: q → Text.hasSuffix name ".dll" = false ∧ Text.hasSuffix name ".dmp" = false
  own : ∀ p ∈ ownPaths, ¬ p <+: q

/-! ### The invariant of the move -/

/-- What holds while the payload is moved: below its root things only disappear, `gone` things having
disappeared; no file is lost; no link appears; what is spared stays. -/
structure Kept (t₁ : Files) (root : Path) (gone : Path → Prop) (t : Files) : Prop where
  src : ∀ q, t.node (root ++ q) = t₁.node (root ++ q) ∨ t.node (root ++ q) = none
  gone : ∀ q, gone q → t.node (root ++ q) = none
  safe : Safe t₁ root t
  link : ∀ q target, t.node q = some (.link target) → t₁.node q = some (.link target)
  spared : ∀ q c, Spared t₁ root q → t₁.node q = some (.file c) → t.node q = some (.file c)

section Invariant

variable {t₁ : Files} {root : Path} (hfits : Fits t₁ root) (hroot : [updateExtractDir] <+: root)

include hroot

/-- What is not below the directory of the update is not above the payload. -/
lemma not_prefix_of_own {p : Path} (hne : p ≠ []) (hown : ¬ [updateExtractDir] <+: p) (q : Path) :
    ¬ p <+: root ++ q := by
  intro hpre
  rcases List.prefix_or_prefix_of_prefix (hroot.trans (List.prefix_append _ q)) hpre with h | h
  · exact hown h
  · obtain ⟨x, p, rfl⟩ := List.exists_cons_of_ne_nil hne
    obtain ⟨rfl, hnil⟩ := List.cons_prefix_cons.1 h
    rw [List.prefix_nil.1 hnil] at hown
    exact hown (List.prefix_refl _)

include hfits

/-- No destination is in the payload, or above it. -/
lemma Fits.apart {r : Path} (hr : IsPayload t₁ root r) (q : Path) :
    ¬ r <+: root ++ q ∧ ¬ root ++ q <+: r := by
  have hown : ¬ [updateExtractDir] <+: r := hfits.own r hr _ List.mem_cons_self
  have hne : r ≠ [] := by
    rintro rfl
    obtain ⟨c, hc⟩ := hr
    rw [List.append_nil, hfits.dir] at hc
    cases hc
  exact ⟨not_prefix_of_own hroot hne hown q,
    fun hpre => hown ((hroot.trans (List.prefix_append _ _)).trans hpre)⟩

omit hfits hroot in
/-- A file of the payload is not above another. -/
lemma eq_of_prefix {r r' : Path} (hr : IsPayload t₁ root r) (hr' : IsPayload t₁ root r')
    (h : r <+: r') : r = r' := by
  obtain ⟨c, hc⟩ := hr
  obtain ⟨c', hc'⟩ := hr'
  obtain ⟨q, rfl⟩ := h
  rcases eq_or_ne q [] with rfl | hne
  · exact (List.append_nil r).symm
  · rw [← List.append_assoc] at hc'
    have hdir := Tree.node_of_below hne (by rw [hc']; exact Option.some_ne_none _)
    cases hc.symm.trans hdir

end Invariant

namespace Kept

variable {t₁ : Files} {root : Path} {gone : Path → Prop} {t t' : Files} (hfits : Fits t₁ root)
  (hroot : [updateExtractDir] <+: root) (hk : Kept t₁ root gone t)

include hfits hk

/-- There are no links on the way to the payload and in it. -/
lemma unlinked_src (p : Path) : t.Unlinked (root ++ p) := by
  intro q hq target hlink
  have hlink₁ := hk.link q target hlink
  rcases List.prefix_or_prefix_of_prefix hq (List.prefix_append root p) with h | ⟨q', rfl⟩
  · cases (Tree.node_of_isPrefix h hfits.dir).symm.trans hlink₁
  · exact hfits.plain q' target hlink₁

/-- There are no links on the way to a destination. -/
lemma unlinked_dst {r : Path} (hr : IsPayload t₁ root r) : t.Unlinked r.dropLast :=
  fun q hq target hlink => hfits.real r hr q hq target (hk.link q target hlink)

omit hfits in
/-- A change that touches no file and makes no link, and nothing in the payload. -/
lemma of_same (hfile : ∀ q c, t.node q = some (.file c) → t'.node q = some (.file c))
    (hlink : ∀ q target, t'.node q = some (.link target) → t.node q = some (.link target))
    (hsrc : ∀ q, t'.node (root ++ q) = t.node (root ++ q)) : Kept t₁ root gone t' where
  src q := by rw [hsrc]; exact hk.src q
  gone q hq := by rw [hsrc]; exact hk.gone q hq
  safe r c hc := (hk.safe r c hc).imp (hfile _ c) (hfile _ c)
  link q target h := hk.link q target (hlink q target h)
  spared q c hq hc := hfile q c (hk.spared q c hq hc)

include hroot

/-- What is at the destination of a file that is still in the payload can be removed. -/
lemma removeDst {r : Path} {c : Bytes} (hr : IsPayload t₁ root r)
    (hc : t.node (root ++ r) = some (.file c)) (stuck : Path → Bool) :
    Kept t₁ root gone (t.without r stuck) ∧ (t.without r stuck).node (root ++ r) = some (.file c) := by
  have hsrc : ∀ q, (t.without r stuck).node (root ++ q) = t.node (root ++ q) := fun q =>
    (Tree.node_without_cases t r stuck (root ++ q)).resolve_right fun h => (hfits.apart hroot hr q).1 h.2
  refine ⟨⟨fun q => ?_, fun q hq => ?_, fun r' c' hc' => ?_, fun q target h => ?_, fun q c' hq hc' => ?_⟩,
    (hsrc r).trans hc⟩
  · rw [hsrc]
    exact hk.src q
  · rw [hsrc]
    exact hk.gone q hq
  · rcases hk.safe r' c' hc' with h | h
    · exact .inl ((hsrc r').trans h)
    · rcases Tree.node_without_cases t r stuck r' with hsame | ⟨-, hpre⟩
      · exact .inr (hsame.trans h)
      · obtain rfl := eq_of_prefix hr ⟨c', hc'⟩ hpre
        have hsame := (hk.src r).resolve_right (by rw [hc]; exact Option.some_ne_none _)
        exact .inl ((hsrc r).trans (hsame.trans hc'))
  · rcases Tree.node_without_cases t r stuck q with hsame | ⟨hnone, -⟩
    · exact hk.link q target (hsame.symm.trans h)
    · cases hnone.symm.trans h
  · rcases Tree.node_without_cases t r stuck q with hsame | ⟨-, hpre⟩
    · exact hsame.trans (hk.spared q c' hq hc')
    · exact absurd hpre (hq.payload r hr)

/-- What is in the payload without any file can be removed. -/
lemma removeSrc {p : Path} (hp : ∀ r, p <+: r → IsPayload t₁ root r → t.node (root ++ r) = none)
    (stuck : Path → Bool) : Kept t₁ root gone (t.without (root ++ p) stuck) := by
  have hcases := fun q => Tree.node_without_cases t (root ++ p) stuck q
  refine ⟨fun q => ?_, fun q hq => ?_, fun r c hc => ?_, fun q target h => ?_, fun q c hq hc => ?_⟩
  · rcases hcases (root ++ q) with hsame | ⟨hnone, -⟩
    · rw [hsame]
      exact hk.src q
    · exact .inr hnone
  · rcases hcases (root ++ q) with hsame | ⟨hnone, -⟩
    · rw [hsame]
      exact hk.gone q hq
    · exact hnone
  · have hdst : (t.without (root ++ p) stuck).node r = t.node r :=
      (hcases r).resolve_right fun h => (hfits.apart hroot ⟨c, hc⟩ p).2 h.2
    rcases hk.safe r c hc with h | h
    · rcases hcases (root ++ r) with hsame | ⟨-, hpre⟩
      · exact .inl (hsame.trans h)
      · have hnone := hp r ((List.prefix_append_right_inj root).1 hpre) ⟨c, hc⟩
        cases hnone.symm.trans h
    · exact .inr (hdst.trans h)
  · rcases hcases q with hsame | ⟨hnone, -⟩
    · exact hk.link q target (hsame.symm.trans h)
    · cases hnone.symm.trans h
  · rcases hcases q with hsame | ⟨-, hpre⟩
    · exact hsame.trans (hk.spared q c hq hc)
    · exact absurd ((hroot.trans (List.prefix_append _ _)).trans hpre)
        (hq.own _ List.mem_cons_self)

/-- A directory for a file of the payload can be made. -/
lemma makeDir {r d : Path} (hr : IsPayload t₁ root r) (hd : d <+: r) (hnone : t.node d = none)
    (hstore : t.store d .dir = .ok t') :
    Kept t₁ root gone t' ∧ ∀ q, t'.node (root ++ q) = t.node (root ++ q) := by
  obtain ⟨-, -, -, hnode⟩ := Tree.store_eq_ok hstore
  have hsrc : ∀ q, t'.node (root ++ q) = t.node (root ++ q) := fun q => by
    rw [hnode, if_neg (by rintro rfl; exact (hfits.apart hroot hr q).2 hd)]
  refine ⟨hk.of_same (fun q c hc => ?_) (fun q target h => ?_) hsrc, hsrc⟩
  · rw [hnode, if_neg (by rintro rfl; cases hnone.symm.trans hc)]
    exact hc
  · rw [hnode] at h
    split_ifs at h
    · cases h
    · exact h

/-- A file of the payload can be written to its destination while it is in the payload. -/
lemma writeDst {r : Path} {c data : Bytes} (hr : IsPayload t₁ root r)
    (hc : t.node (root ++ r) = some (.file c)) (hnone : t.node r = none)
    (hstore : t.store r (.file data) = .ok t') :
    Kept t₁ root gone t' ∧ t'.node (root ++ r) = some (.file c) := by
  obtain ⟨-, -, -, hnode⟩ := Tree.store_eq_ok hstore
  have hsrc : ∀ q, t'.node (root ++ q) = t.node (root ++ q) := fun q => by
    refine (hnode _).trans (if_neg fun h => (hfits.apart hroot hr q).2 ?_)
    rw [h]
  refine ⟨hk.of_same (fun q c' hc' => ?_) (fun q target h => ?_) hsrc, (hsrc r).trans hc⟩
  · rw [hnode, if_neg (by rintro rfl; cases hnone.symm.trans hc')]
    exact hc'
  · rw [hnode] at h
    split_ifs at h
    · cases h
    · exact h

/-- A file can be removed from the payload when its content is at its destination. -/
lemma takeSrc {r : Path} {c : Bytes} (hr : t₁.node (root ++ r) = some (.file c))
    (hnone : t'.node (root ++ r) = none) (hdst : t'.node r = some (.file c))
    (hsame : ∀ q, q ≠ r → q ≠ root ++ r → t'.node q = t.node q) : Kept t₁ root gone t' := by
  have happart := fun q => hfits.apart hroot ⟨c, hr⟩ q
  have hsrc : ∀ q, q ≠ r → t'.node (root ++ q) = t.node (root ++ q) := fun q hq =>
    hsame _ (fun h => (happart q).2 (h ▸ List.prefix_refl _)) fun h => hq (List.append_cancel_left h)
  refine ⟨fun q => ?_, fun q hq => ?_, fun r' c' hc' => ?_, fun q target h => ?_, fun q c' hq hc' => ?_⟩
  · rcases eq_or_ne q r with rfl | hne
    · exact .inr hnone
    · rw [hsrc q hne]
      exact hk.src q
  · rcases eq_or_ne q r with rfl | hne
    · exact hnone
    · rw [hsrc q hne]
      exact hk.gone q hq
  · rcases eq_or_ne r' r with rfl | hne
    · cases hc'.symm.trans hr
      exact .inr hdst
    · have hne' : r' ≠ root ++ r := by
        rintro rfl
        exact (hfits.apart hroot ⟨c', hc'⟩ r).1 (List.prefix_refl _)
      rw [hsrc r' hne, hsame r' hne hne']
      exact hk.safe r' c' hc'
  · have hq : q ≠ r := by
      rintro rfl
      cases hdst.symm.trans h
    have hq' : q ≠ root ++ r := by
      rintro rfl
      cases hnone.symm.trans h
    exact hk.link q target ((hsame q hq hq').symm.trans h)
  · have hq₁ : q ≠ r := by
      rintro rfl
      exact hq.payload _ ⟨c, hr⟩ (List.prefix_refl _)
    have hq₂ : q ≠ root ++ r := by
      rintro rfl
      exact hq.own _ List.mem_cons_self (hroot.trans (List.prefix_append _ _))
    rw [hsame q hq₁ hq₂]
    exact hk.spared q c' hq hc'

/-- Renaming moves a file to its destination. -/
lemma rename {limit : ℕ} {r : Path} {c : Bytes} (hr : t₁.node (root ++ r) = some (.file c))
    (hc : t.node (root ++ r) = some (.file c)) (hok : t.rename limit (root ++ r) r = .ok t') :
    Kept t₁ root gone t' ∧ t'.node (root ++ r) = none := by
  have hsrc := (hk.unlinked_src hfits r).of_isPrefix (List.dropLast_prefix _)
  obtain ⟨hne, n, hn, -, ⟨heq, -⟩ | ⟨hdiff, hstore⟩⟩ :=
    Tree.rename_eq hsrc (hk.unlinked_dst hfits ⟨c, hr⟩) hok
  · refine absurd ?_ (hfits.apart hroot ⟨c, hr⟩ r).2
    rw [heq]
  · cases hc.symm.trans hn
    obtain ⟨-, -, -, hnode⟩ := Tree.store_eq_ok hstore
    have hleaf : t.node (root ++ r) ≠ some .dir := by
      rw [hc]
      rintro ⟨⟩
    have hnone : t'.node (root ++ r) = none := by
      rw [hnode, if_neg hdiff, Tree.node_without_leaf hne hleaf, if_pos rfl]
    refine ⟨hk.takeSrc hfits hroot hr hnone (by rw [hnode, if_pos rfl]) fun q hq hq' => ?_, hnone⟩
    rw [hnode, if_neg hq, Tree.node_without_leaf hne hleaf, if_neg hq']

/-- A file that was copied to its destination can be removed. -/
lemma remove {limit : ℕ} {r : Path} {c : Bytes} (hr : t₁.node (root ++ r) = some (.file c))
    (hc : t.node (root ++ r) = some (.file c)) (hdst : t.node r = some (.file c))
    (hok : t.remove limit (root ++ r) = .ok t') :
    Kept t₁ root gone t' ∧ t'.node (root ++ r) = none := by
  have hsrc := (hk.unlinked_src hfits r).of_isPrefix (List.dropLast_prefix _)
  obtain ⟨hne, rfl⟩ := Tree.remove_eq hsrc hok
  have hleaf : t.node (root ++ r) ≠ some .dir := by
    rw [hc]
    rintro ⟨⟩
  have hnode := Tree.node_without_leaf hne hleaf
  have hnone : (t.without (root ++ r) fun _ => false).node (root ++ r) = none := by
    rw [hnode, if_pos rfl]
  have hdiff : r ≠ root ++ r := fun heq =>
    (hfits.apart hroot ⟨c, hr⟩ r).1 (heq ▸ List.prefix_refl _)
  refine ⟨hk.takeSrc hfits hroot hr hnone ?_ fun q _ hq' => ?_, hnone⟩
  · rw [hnode, if_neg hdiff, hdst]
  · rw [hnode, if_neg hq']

end Kept

/-! ### The move -/

section Move

variable {sys : System} {env : Env} {t₁ : Files} {root : Path} {gone : Path → Prop} {d : Disk}
  (hfits : Fits t₁ root) (hroot : [updateExtractDir] <+: root)

/-- The program loses no file of the payload. -/
abbrev Keeps {α : Type} (sys : System) (t₁ : Files) (root : Path) (p : Act α) (d : Disk)
    (Q : α → Files → Prop) : Prop :=
  Through sys.handler (fun d => Safe t₁ root d.files) p d fun a d => Q a d.files

/-- The rule for an operation that only reads. -/
lemma keeps_read {α : Type} {o : FsOp} (ho : o.Reads) {f : o.Res → Act α} {Q : α → Disk → Prop}
    {I : Disk → Prop} (hs : I d)
    (hf : ∀ d', d'.files = d.files → Through sys.handler I (f (sys.handler o d).1) d' Q) :
    Through sys.handler I ((perform o).bind f) d Q :=
  through_perform hs (hf _ (files_of_reads sys d ho))

include hfits hroot

/-- The copy of `replaceFile`, when the destination is free: it moves the file or leaves it. -/
lemma keeps_copyFile {r : Path} {c : Bytes} (hr : t₁.node (root ++ r) = some (.file c))
    (hk : Kept t₁ root gone d.files) (hc : d.files.node (root ++ r) = some (.file c))
    (hnone : d.files.node r = none) :
    Keeps sys t₁ root (copyFile (root ++ r) r) d fun res t => Kept t₁ root gone t ∧
      (res = none → t.node (root ++ r) = none) ∧
      (res ≠ none → t.node (root ++ r) = some (.file c)) := by
  have hpayload : IsPayload t₁ root r := ⟨c, hr⟩
  refine keeps_read (o := .readFile (root ++ r)) trivial hk.safe fun d₁ hsame => ?_
  rw [← hsame] at hk hc hnone
  cases hread : (sys.handler (.readFile (root ++ r)) d).1 with
  | error e => exact through_ret hk.safe ⟨hk, by simp, fun _ => hc⟩
  | ok data =>
    have hdata : data = c := by
      have hok := readFile_ok hread
      rw [← hsame] at hok
      cases hc.symm.trans (Tree.readFile_eq (hk.unlinked_src hfits r) hok)
      rfl
    subst hdata
    refine through_perform (o := FsOp.writeFile r data) hk.safe ?_
    have hwrite := writeFile_cases sys d₁ r data
    generalize sys.handler (.writeFile r data) d₁ = out at hwrite ⊢
    obtain ⟨res, d₂⟩ := out
    have hunlinked := (hk.unlinked_dst hfits hpayload).of_none hnone
    have hwritten : ∀ part, d₁.files.writeFile sys.limit r part = .ok d₂.files →
        Kept t₁ root gone d₂.files ∧ d₂.files.node (root ++ r) = some (.file data) := fun part hok =>
      hk.writeDst hfits hroot hpayload hc hnone (Tree.writeFile_eq hunlinked hok)
    cases res with
    | some e =>
      obtain ⟨-, hsame₂ | ⟨part, hok⟩⟩ | ⟨hne, -⟩ := hwrite
      · have hsame₂ : d₂.files = d₁.files := hsame₂
        rw [← hsame₂] at hk hc
        exact through_ret hk.safe ⟨hk, by simp, fun _ => hc⟩
      · obtain ⟨hk₂, hc₂⟩ := hwritten part hok
        exact through_ret hk₂.safe ⟨hk₂, by simp, fun _ => hc₂⟩
      · cases hne
    | none =>
      obtain ⟨hne, -⟩ | ⟨-, hok⟩ := hwrite
      · exact absurd rfl hne
      · obtain ⟨hk₂, hc₂⟩ := hwritten data hok
        have hdst : d₂.files.node r = some (.file data) := by
          obtain ⟨-, -, -, hnode⟩ := Tree.store_eq_ok (Tree.writeFile_eq hunlinked hok)
          rw [hnode, if_pos rfl]
        refine through_perform (o := FsOp.remove (root ++ r)) hk₂.safe ?_
        have hremove := remove_cases sys d₂ (root ++ r)
        generalize sys.handler (.remove (root ++ r)) d₂ = out at hremove ⊢
        obtain ⟨res, d₃⟩ := out
        obtain ⟨hne, hsame₃⟩ | ⟨hres, hok₃⟩ := hremove
        · have hsame₃ : d₃.files = d₂.files := hsame₃
          rw [← hsame₃] at hk₂ hc₂
          exact through_ret hk₂.safe ⟨hk₂, fun h => absurd h hne, fun _ => hc₂⟩
        · obtain ⟨hk₃, hgone⟩ := hk₂.remove hfits hroot hr hc₂ hdst hok₃
          exact through_ret hk₃.safe ⟨hk₃, fun _ => hgone, fun h => absurd hres h⟩

/-- One attempt to replace a file moves it or leaves it in the payload. -/
lemma keeps_replaceFile {r : Path} {c : Bytes} (hr : t₁.node (root ++ r) = some (.file c))
    (hk : Kept t₁ root gone d.files) (hc : d.files.node (root ++ r) = some (.file c)) :
    Keeps sys t₁ root (replaceFile (root ++ r) r) d fun res t => Kept t₁ root gone t ∧
      (res = none → t.node (root ++ r) = none) ∧
      (res ≠ none → t.node (root ++ r) = some (.file c)) := by
  have hpayload : IsPayload t₁ root r := ⟨c, hr⟩
  refine through_perform (o := FsOp.removeAll r) hk.safe ?_
  have hremove := removeAll_cases sys d r
  generalize sys.handler (.removeAll r) d = out at hremove ⊢
  obtain ⟨res, d₁⟩ := out
  have hk₁ : Kept t₁ root gone d₁.files ∧ d₁.files.node (root ++ r) = some (.file c) := by
    have hdst := hk.unlinked_dst hfits hpayload
    have hremoved : ∀ stuck, d.files.removeAll sys.limit r stuck = .ok d₁.files →
        Kept t₁ root gone d₁.files ∧ d₁.files.node (root ++ r) = some (.file c) := by
      intro stuck hok
      obtain ⟨-, ⟨hsame, -⟩ | hwithout⟩ := Tree.removeAll_eq hdst hok
      · rw [hsame]
        exact ⟨hk, hc⟩
      · rw [hwithout]
        exact hk.removeDst hfits hroot hpayload hc stuck
    rcases hremove with ⟨-, hsame | ⟨stuck, hok⟩⟩ | ⟨-, hok⟩
    · rw [hsame]
      exact ⟨hk, hc⟩
    · exact hremoved stuck hok
    · exact hremoved _ hok
  obtain ⟨hk₁, hc₁⟩ := hk₁
  cases res with
  | some e => exact through_ret hk₁.safe ⟨hk₁, by simp, fun _ => hc₁⟩
  | none =>
    have hnone : d₁.files.node r = none := by
      obtain ⟨hne, -⟩ | ⟨-, hok⟩ := hremove
      · exact absurd rfl hne
      · exact Tree.node_of_removeAll (hk.unlinked_dst hfits hpayload) hok
    have hdst := hk₁.unlinked_dst hfits hpayload
    have hsrc := hk₁.unlinked_src hfits r
    refine through_perform (o := FsOp.rename (root ++ r) r) hk₁.safe ?_
    have hrename := rename_cases sys d₁ (root ++ r) r
    generalize sys.handler (.rename (root ++ r) r) d₁ = out at hrename ⊢
    obtain ⟨res, d₂⟩ := out
    cases res with
    | none =>
      obtain ⟨hne, -⟩ | ⟨-, hok⟩ := hrename
      · exact absurd rfl hne
      · obtain ⟨hk₂, hgone⟩ := hk₁.rename hfits hroot hr hc₁ hok
        exact through_ret hk₂.safe ⟨hk₂, fun _ => hgone, fun h => absurd rfl h⟩
    | some e =>
      obtain ⟨-, hsame⟩ | ⟨hne, -⟩ := hrename
      · have hsame : d₂.files = d₁.files := hsame
        exact keeps_copyFile hfits hroot hr (hsame ▸ hk₁) (hsame ▸ hc₁) (hsame ▸ hnone)
      · cases hne

/-- Several attempts move a file or leave it in the payload. -/
lemma keeps_replaceLoop {r : Path} {c : Bytes} (hr : t₁.node (root ++ r) = some (.file c)) (n : ℕ) :
    ∀ d : Disk, Kept t₁ root gone d.files → d.files.node (root ++ r) = some (.file c) →
      Keeps sys t₁ root (replaceLoop (root ++ r) r n) d fun res t => Kept t₁ root gone t ∧
        (res = none → t.node (root ++ r) = none) := by
  induction n with
  | zero =>
    intro d hk hc
    exact (keeps_replaceFile hfits hroot hr hk hc).mono fun _ _ h => ⟨h.1, h.2.1⟩
  | succ n ih =>
    intro d hk hc
    refine (keeps_replaceFile hfits hroot hr hk hc).bind ?_
    rintro (- | e) d' ⟨hk', hgone, hstays⟩
    · exact through_ret hk'.safe ⟨hk', fun _ => hgone rfl⟩
    · exact ih d' hk' (hstays (Option.some_ne_none e))

/-- A directory for a file is made, or nothing changes. -/
lemma keeps_makeDir {r p : Path} {c : Bytes} (hr : t₁.node (root ++ r) = some (.file c))
    (hp : p <+: r) (hne : p ≠ r) (hk : Kept t₁ root gone d.files)
    (hc : d.files.node (root ++ r) = some (.file c)) :
    Keeps sys t₁ root (makeDir p) d fun _ t => Kept t₁ root gone t ∧
      t.node (root ++ r) = some (.file c) := by
  refine through_perform (o := FsOp.mkdir p) hk.safe ?_
  have hmkdir := mkdir_cases sys d p
  generalize sys.handler (.mkdir p) d = out at hmkdir ⊢
  obtain ⟨res, d₁⟩ := out
  have hk₁ : Kept t₁ root gone d₁.files ∧ d₁.files.node (root ++ r) = some (.file c) := by
    obtain ⟨-, hsame⟩ | ⟨-, hok⟩ := hmkdir
    · have hsame : d₁.files = d.files := hsame
      rw [hsame]
      exact ⟨hk, hc⟩
    · have hunlinked : d.files.Unlinked p.dropLast :=
        (hk.unlinked_dst hfits ⟨c, hr⟩).of_isPrefix
          ((List.dropLast_prefix p).trans (prefix_dropLast hp hne))
      obtain ⟨hnone, hstore⟩ := Tree.mkdir_eq hunlinked hok
      obtain ⟨hk₁, hsrc⟩ := hk.makeDir hfits hroot ⟨c, hr⟩ hp hnone hstore
      exact ⟨hk₁, (hsrc r).trans hc⟩
  obtain ⟨hk₁, hc₁⟩ := hk₁
  cases res with
  | none => exact through_ret hk₁.safe ⟨hk₁, hc₁⟩
  | some e =>
    refine keeps_read (o := .lstat p) trivial hk₁.safe fun d₂ hsame => ?_
    rw [← hsame] at hk₁ hc₁
    cases (sys.handler (.lstat p) d₁).1 with
    | error e => exact through_ret hk₁.safe ⟨hk₁, hc₁⟩
    | ok k => cases k <;> exact through_ret hk₁.safe ⟨hk₁, hc₁⟩

/-- The directories for a file are made. -/
lemma keeps_mkdirAllUp {r : Path} {c : Bytes} (hr : t₁.node (root ++ r) = some (.file c))
    (up : List String) : ∀ d : Disk, up.reverse <+: r → up.reverse ≠ r → Kept t₁ root gone d.files →
      d.files.node (root ++ r) = some (.file c) →
      Keeps sys t₁ root (mkdirAllUp env up) d fun _ t => Kept t₁ root gone t ∧
        t.node (root ++ r) = some (.file c) := by
  induction up with
  | nil =>
    intro d hup hne hk hc
    refine keeps_read (o := .stat []) trivial hk.safe fun d₁ hsame => ?_
    rw [← hsame] at hk hc
    cases (sys.handler (.stat []) d).1 with
    | error e => exact keeps_makeDir hfits hroot hr hup hne hk hc
    | ok k => cases k <;> exact through_ret hk.safe ⟨hk, hc⟩
  | cons x up ih =>
    intro d hup hne hk hc
    have hparent : up.reverse <+: (x :: up).reverse := by
      rw [List.reverse_cons]
      exact List.prefix_append _ _
    refine keeps_read (o := .stat (x :: up).reverse) trivial hk.safe fun d₁ hsame => ?_
    rw [← hsame] at hk hc
    cases (sys.handler (.stat (x :: up).reverse) d).1 with
    | ok k => cases k <;> exact through_ret hk.safe ⟨hk, hc⟩
    | error e =>
      dsimp only
      split_ifs with hnil
      · subst hnil
        exact keeps_makeDir hfits hroot hr hup hne hk hc
      · have hne' : up.reverse ≠ r := by
          rintro rfl
          have hlen := hup.length_le
          simp at hlen
        refine (ih d₁ (hparent.trans hup) hne' hk hc).bind ?_
        rintro (- | e) d₂ ⟨hk₂, hc₂⟩
        · exact keeps_makeDir hfits hroot hr hup hne hk₂ hc₂
        · exact through_ret hk₂.safe ⟨hk₂, hc₂⟩

omit hfits hroot in
/-- The entries of a directory are moved, if each of them is. -/
lemma keeps_moveEntries {move : Path → Path → Act (Option String)} {p : Path}
    (hmove : ∀ (gone : Path → Prop) (x : String) (d : Disk), Kept t₁ root gone d.files →
      Keeps sys t₁ root (move (root ++ p ++ [x]) (p ++ [x])) d fun res t => Kept t₁ root gone t ∧
        (res = none → ∀ r, p ++ [x] <+: r → IsPayload t₁ root r → t.node (root ++ r) = none))
    (entries : List Entry) : ∀ (gone : Path → Prop) (d : Disk), Kept t₁ root gone d.files →
      Keeps sys t₁ root (moveEntries move (root ++ p) p entries) d fun res t => Kept t₁ root gone t ∧
        (res = none → ∀ entry ∈ entries, ∀ r, p ++ [entry.name] <+: r → IsPayload t₁ root r →
          t.node (root ++ r) = none) := by
  induction entries with
  | nil => exact fun gone d hk => through_ret hk.safe ⟨hk, by simp⟩
  | cons entry entries ih =>
    intro gone d hk
    refine (hmove gone entry.name d hk).bind ?_
    rintro (- | e) d₁ ⟨hk₁, hgone⟩
    · -- what is gone now stays so while the other entries are moved
      have hk₁' : Kept t₁ root (fun q => d₁.files.node (root ++ q) = none) d₁.files :=
        { hk₁ with gone := fun _ h => h }
      refine (ih _ d₁ hk₁').mono fun res t h => ?_
      obtain ⟨hk₂, hrest⟩ := h
      refine ⟨{ hk₂ with gone := fun q hq => hk₂.gone q (hk₁.gone q hq) }, fun hres => ?_⟩
      refine List.forall_mem_cons.2 ⟨fun r hr hpayload => ?_, hrest hres⟩
      exact hk₂.gone r (hgone rfl r hr hpayload)
    · exact through_ret hk₁.safe ⟨hk₁, by simp⟩

omit hfits hroot in
/-- What is gone below a directory, and what is moved from its entries, is all that was below it. -/
lemma gone_of_listed {p : Path} {t t' : Files} (hp : t₁.node (root ++ p) = some .dir)
    (hk : Kept t₁ root (fun q => t.node (root ++ q) = none) t')
    (hmoved : ∀ x, t.node (root ++ p ++ [x]) ≠ none → ∀ r, p ++ [x] <+: r → IsPayload t₁ root r →
      t'.node (root ++ r) = none) :
    ∀ r, p <+: r → IsPayload t₁ root r → t'.node (root ++ r) = none := by
  rintro _ ⟨q, rfl⟩ hpayload
  cases q with
  | nil =>
    obtain ⟨c, hc⟩ := hpayload
    rw [List.append_nil, hp] at hc
    cases hc
  | cons x q =>
    have hsplit : p ++ x :: q = p ++ [x] ++ q := by
      rw [List.append_assoc, List.singleton_append]
    rw [hsplit] at hpayload ⊢
    by_cases hx : t.node (root ++ p ++ [x]) = none
    · refine hk.gone _ ?_
      rw [← List.append_assoc, ← List.append_assoc]
      rcases eq_or_ne q [] with rfl | hne
      · rwa [List.append_nil]
      · exact Tree.node_below_of_ne hne (by rw [hx]; rintro ⟨⟩)
    · exact hmoved x hx _ (List.prefix_append _ _) hpayload

/-- A directory of the payload is removed once nothing is left in it. -/
lemma keeps_removeSrc {p : Path} (hk : Kept t₁ root gone d.files)
    (hp : ∀ r, p <+: r → IsPayload t₁ root r → d.files.node (root ++ r) = none) :
    Keeps sys t₁ root (Act.removeAll (root ++ p)) d fun res t => Kept t₁ root gone t ∧
      (res = none → ∀ r, p <+: r → IsPayload t₁ root r → t.node (root ++ r) = none) := by
  refine through_op hk.safe ?_
  have hremove := removeAll_cases sys d (root ++ p)
  generalize sys.handler (.removeAll (root ++ p)) d = out at hremove ⊢
  obtain ⟨res, d₁⟩ := out
  have hk₁ : Kept t₁ root (fun q => gone q ∨ (p <+: q ∧ IsPayload t₁ root q)) d₁.files := by
    have hk' : Kept t₁ root (fun q => gone q ∨ (p <+: q ∧ IsPayload t₁ root q)) d.files :=
      { hk with gone := fun q hq => hq.elim (hk.gone q) fun h => hp q h.1 h.2 }
    have hsrc := (hk.unlinked_src hfits p).of_isPrefix (List.dropLast_prefix _)
    have hremoved : ∀ stuck, d.files.removeAll sys.limit (root ++ p) stuck = .ok d₁.files →
        Kept t₁ root (fun q => gone q ∨ (p <+: q ∧ IsPayload t₁ root q)) d₁.files := by
      intro stuck hok
      obtain ⟨-, ⟨hsame, -⟩ | hwithout⟩ := Tree.removeAll_eq hsrc hok
      · rw [hsame]
        exact hk'
      · rw [hwithout]
        exact hk'.removeSrc hfits hroot hp stuck
    rcases hremove with ⟨-, hsame | ⟨stuck, hok⟩⟩ | ⟨-, hok⟩
    · rw [hsame]
      exact hk'
    · exact hremoved stuck hok
    · exact hremoved _ hok
  refine through_ret hk₁.safe ⟨{ hk₁ with gone := fun q hq => hk₁.gone q (.inl hq) }, ?_⟩
  exact fun _ r hr hpayload => hk₁.gone r (.inr ⟨hr, hpayload⟩)

/-- **The move.** Whatever fails, no file of the payload is lost; a move without an error leaves none in
the payload.

**Proof sketch.** Induction on the depth. A directory is listed: whatever it holds then is moved, and
whatever it does not hold is gone already, so that nothing is lost with it. A file is moved by
`replaceLoop`, its directories being made before. -/
theorem keeps_moveReplacing (sys : System) (env : Env) (depth : ℕ) : ∀ (gone : Path → Prop) (p : Path) (d : Disk),
    Kept t₁ root gone d.files →
    Keeps sys t₁ root (moveReplacing env depth (root ++ p) p) d fun res t => Kept t₁ root gone t ∧
      (res = none → ∀ r, p <+: r → IsPayload t₁ root r → t.node (root ++ r) = none) := by
  induction depth with
  | zero => exact fun gone p d hk => through_ret hk.safe ⟨hk, by simp⟩
  | succ depth ih =>
    intro gone p d hk
    refine keeps_read (o := .stat (root ++ p)) trivial hk.safe fun d₁ hsame => ?_
    cases hstat : (sys.handler (.stat (root ++ p)) d).1 with
    | error e =>
      rw [← hsame] at hk
      exact through_ret hk.safe ⟨hk, by simp⟩
    | ok k =>
      obtain ⟨n, hn, hkind⟩ := stat_ok hstat
      have hnode := Tree.stat_eq (hk.unlinked_src hfits p) hn
      rw [← hsame] at hk hnode
      have hnode₁ : t₁.node (root ++ p) = some n := by
        rw [← hnode]
        exact ((hk.src p).resolve_right (by rw [hnode]; exact Option.some_ne_none _)).symm
      cases n with
      | link target => exact absurd hnode₁ (hfits.plain p target)
      | dir =>
        subst hkind
        dsimp only [kindOf]
        refine keeps_read (o := .readDir (root ++ p)) trivial hk.safe fun d₂ hsame₂ => ?_
        cases hread : (sys.handler (.readDir (root ++ p)) d₁).1 with
        | error e =>
          rw [← hsame₂] at hk
          exact through_ret hk.safe ⟨hk, by simp⟩
        | ok entries =>
          obtain ⟨es, hes, hnames⟩ := readDir_ok hread
          obtain ⟨-, hlisted⟩ := Tree.readDir_eq (hk.unlinked_src hfits p) hes
          rw [← hsame₂] at hk hlisted
          -- what is not listed is gone now, and stays so
          have hk₂ : Kept t₁ root (fun q => d₂.files.node (root ++ q) = none) d₂.files :=
            { hk with gone := fun _ h => h }
          have hmove : ∀ (gone : Path → Prop) (x : String) (d : Disk), Kept t₁ root gone d.files →
              Keeps sys t₁ root (moveReplacing env depth (root ++ p ++ [x]) (p ++ [x])) d
                fun res t => Kept t₁ root gone t ∧ (res = none → ∀ r, p ++ [x] <+: r →
                  IsPayload t₁ root r → t.node (root ++ r) = none) := by
            intro gone x d hk
            rw [List.append_assoc]
            exact ih gone (p ++ [x]) d hk
          refine (keeps_moveEntries hmove entries _ d₂ hk₂).bind ?_
          rintro (- | e) d₃ ⟨hk₃, hmoved⟩
          · have hk₃' : Kept t₁ root gone d₃.files :=
              { hk₃ with gone := fun q hq => hk₃.gone q (hk.gone q hq) }
            refine keeps_removeSrc hfits hroot hk₃' ?_
            refine gone_of_listed hnode₁ hk₃ fun x hx r hr hpayload => ?_
            have hmem : x ∈ entries.map Entry.name := by
              rw [hnames, hlisted]
              exact Tree.mem_names.2 hx
            obtain ⟨entry, hentry, rfl⟩ := List.mem_map.1 hmem
            exact hmoved rfl entry hentry r hr hpayload
          · exact through_ret (hk₃.safe) ⟨{ hk₃ with gone := fun q hq => hk₃.gone q (hk.gone q hq) }, by simp⟩
      | file c =>
        subst hkind
        have hne : p ≠ [] := by
          rintro rfl
          rw [List.append_nil, hfits.dir] at hnode₁
          cases hnode₁
        have hup : p.dropLast.reverse.reverse <+: p := by
          rw [List.reverse_reverse]
          exact List.dropLast_prefix _
        have hneq : p.dropLast.reverse.reverse ≠ p := by
          rw [List.reverse_reverse]
          intro h
          have hlen := congrArg List.length h
          rw [List.length_dropLast] at hlen
          have := List.length_pos_of_ne_nil hne
          omega
        refine (keeps_mkdirAllUp hfits hroot hnode₁ _ d₁ hup hneq hk hnode).bind ?_
        rintro (- | e) d₂ ⟨hk₂, hc₂⟩
        · refine (keeps_replaceLoop hfits hroot hnode₁ _ d₂ hk₂ hc₂).bind ?_
          rintro (- | e) d₃ ⟨hk₃, hgone⟩
          · refine through_ret hk₃.safe ⟨hk₃, fun _ r hr hpayload => ?_⟩
            rw [← eq_of_prefix ⟨c, hnode₁⟩ hpayload hr]
            exact hgone rfl
          · exact through_ret hk₃.safe ⟨hk₃, by simp⟩
        · exact through_ret hk₂.safe ⟨hk₂, by simp⟩

end Move

end Proxor.Updater
