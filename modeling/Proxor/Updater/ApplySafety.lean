import Proxor.Updater.MoveSafety

set_option relaxedAutoImplicit false
set_option autoImplicit false

/-!
# An update on a failing file system

Whichever operations fail, an update that did not move anything has changed nothing outside
`./update-package`, and one that moves loses no file of a payload that fits. A payload file at one of the
updater's own paths does not fit: it is removed with the directory of the update, and so is the rest of the
payload.

## Main definitions

* `Proxor.Updater.Swept` — the invariant of the removals before the move.
* `Proxor.Updater.Installed` — what an update without an error has done.

## Main results

* `Proxor.Updater.apply_update` — what holds of every update.
* `Proxor.Updater.not_apply_update` — it fails for a payload file named like the directory of the update.
-/

namespace Proxor.Updater

open FileTree Resumption Prog

/-! ### Removals before the move -/

/-- A path whose removal spares the payload and what is spared. -/
structure Sweepable (t₁ : Files) (root p : Path) : Prop where
  ne_nil : p ≠ []
  own : ¬ [updateExtractDir] <+: p
  unlinked : t₁.Unlinked p.dropLast
  spared : ∀ q, Spared t₁ root q → ¬ p <+: q

/-- What holds before the move: nothing of the payload was changed. -/
structure Swept (t₁ : Files) (root : Path) (t : Files) : Prop where
  src : ∀ q, t.node (root ++ q) = t₁.node (root ++ q)
  link : ∀ q target, t.node q = some (.link target) → t₁.node q = some (.link target)
  spared : ∀ q c, Spared t₁ root q → t₁.node q = some (.file c) → t.node q = some (.file c)

section Sweep

variable {sys : System} {env : Env} {t₁ : Files} {root : Path} {d : Disk}

lemma Swept.kept {t : Files} (h : Swept t₁ root t) : Kept t₁ root (fun _ => False) t where
  src q := .inl (h.src q)
  gone _ hq := hq.elim
  safe r _ hc := .inl ((h.src r).trans hc)
  link := h.link
  spared := h.spared

variable (hroot : [updateExtractDir] <+: root)

include hroot

lemma Swept.remove {t : Files} (h : Swept t₁ root t) {p : Path} (hp : Sweepable t₁ root p)
    (stuck : Path → Bool) : Swept t₁ root (t.without p stuck) := by
  have hcases := fun q => Tree.node_without_cases t p stuck q
  refine ⟨fun q => ?_, fun q target hlink => ?_, fun q c hq hc => ?_⟩
  · rcases hcases (root ++ q) with hsame | ⟨-, hpre⟩
    · exact hsame.trans (h.src q)
    · exact absurd hpre (not_prefix_of_own hroot hp.ne_nil hp.own q)
  · rcases hcases q with hsame | ⟨hnone, -⟩
    · exact h.link q target (hsame.symm.trans hlink)
    · cases hnone.symm.trans hlink
  · rcases hcases q with hsame | ⟨-, hpre⟩
    · exact hsame.trans (h.spared q c hq hc)
    · exact absurd hpre (hp.spared q hq)

/-- A removal before the move, whether it fails or not. -/
lemma Swept.removeAll (h : Swept t₁ root d.files) {p : Path} (hp : Sweepable t₁ root p) :
    Swept t₁ root (sys.handler (.removeAll p) d).2.files := by
  have hunlinked : d.files.Unlinked p.dropLast := fun q hq target hlink =>
    hp.unlinked q hq target (h.link q target hlink)
  have hremoved : ∀ stuck t, d.files.removeAll sys.limit p stuck = .ok t → Swept t₁ root t := by
    intro stuck t hok
    obtain ⟨-, ⟨rfl, -⟩ | rfl⟩ := Tree.removeAll_eq hunlinked hok
    · exact h
    · exact h.remove hroot hp stuck
  rcases removeAll_cases sys d p with ⟨-, hsame | ⟨stuck, hok⟩⟩ | ⟨-, hok⟩
  · rw [hsame]
    exact h
  · exact hremoved stuck _ hok
  · exact hremoved _ _ hok

lemma keeps_removePaths {paths : List Path} (hpaths : ∀ p ∈ paths, Sweepable t₁ root p) :
    ∀ d : Disk, Swept t₁ root d.files →
      Keeps sys t₁ root (removePaths paths) d fun _ t => Swept t₁ root t := by
  induction paths with
  | nil => exact fun d h => through_ret h.kept.safe h
  | cons p paths ih =>
    intro d h
    obtain ⟨hp, hpaths⟩ := List.forall_mem_cons.1 hpaths
    exact through_perform (o := FsOp.removeAll p) h.kept.safe (ih hpaths _ (h.removeAll hroot hp))

omit hroot

lemma unlinked_nil (t : Files) : t.Unlinked [] := by
  intro q hq target hlink
  rw [List.prefix_nil.1 hq, Tree.node_nil] at hlink
  cases hlink

/-- The obsolete paths can be removed. -/
lemma sweepable_obsolete (hconfig : t₁.Unlinked ["config"]) :
    ∀ p ∈ obsoletePaths, Sweepable t₁ root p := by
  intro p hp
  have hshape : p ≠ [] ∧ ¬ [updateExtractDir] <+: p ∧ (p.dropLast = [] ∨ p.dropLast = ["config"]) := by
    revert p
    decide
  refine ⟨hshape.1, hshape.2.1, ?_, fun q hq => hq.obsolete p hp⟩
  rcases hshape.2.2 with h | h
  · rw [h]
    exact unlinked_nil t₁
  · rwa [h]

/-- What a suffix is of can be removed, for the suffixes of an update. -/
lemma sweepable_suffix {suffix name : String} (hsuffix : suffix = ".dll" ∨ suffix = ".dmp")
    (hname : Text.hasSuffix name suffix = true) : Sweepable t₁ root [name] := by
  refine ⟨List.cons_ne_nil _ _, fun hpre => ?_, unlinked_nil t₁, fun q hq hpre => ?_⟩
  · obtain ⟨rfl, -⟩ := List.cons_prefix_cons.1 hpre
    rcases hsuffix with rfl | rfl <;> exact absurd hname (by decide)
  · obtain ⟨hdll, hdmp⟩ := hq.suffix name hpre
    rcases hsuffix with rfl | rfl
    · cases hname.symm.trans hdll
    · cases hname.symm.trans hdmp

/-- The names that are found have the suffix. -/
lemma hasSuffix_of_glob {suffix : String} {names : List String}
    (hnames : (sys.handler (.glob suffix) d).1 = names) {name : String} (h : name ∈ names) :
    Text.hasSuffix name suffix = true := by
  subst hnames
  rcases handler_cases sys d (.glob suffix) with hcase | ⟨e, hcase⟩ <;> rw [hcase] at h
  · exact (List.mem_filter.1 h).2
  · cases h

include hroot

lemma keeps_removeSuffix {suffix : String} (hsuffix : suffix = ".dll" ∨ suffix = ".dmp")
    (h : Swept t₁ root d.files) :
    Keeps sys t₁ root (removeSuffix suffix) d fun _ t => Swept t₁ root t := by
  refine keeps_read (o := .glob suffix) trivial h.kept.safe fun d₁ hsame => ?_
  rw [← hsame] at h
  refine keeps_removePaths hroot (fun p hp => ?_) d₁ h
  obtain ⟨name, hname, rfl⟩ := List.mem_map.1 hp
  exact sweepable_suffix hsuffix (hasSuffix_of_glob rfl hname)

/-- What is removed before the move and the move lose no file of the payload. -/
lemma keeps_installPayload (hfits : Fits t₁ root) (hd : d.files = t₁) :
    Keeps sys t₁ root (installPayload env root) d fun res t => Kept t₁ root (fun _ => False) t ∧
      (res = none → ∀ r, IsPayload t₁ root r → t.node (root ++ r) = none) := by
  have hstart : Swept t₁ root d.files := by
    rw [hd]
    exact ⟨fun _ => rfl, fun _ _ h => h, fun _ _ _ h => h⟩
  have hrest : ∀ d : Disk, Swept t₁ root d.files →
      Keeps sys t₁ root ((removePaths obsoletePaths).bind fun _ => (removeSuffix ".dll").bind fun _ =>
        (removeSuffix ".dmp").bind fun _ => moveReplacing env env.depth root []) d
        fun res t => Kept t₁ root (fun _ => False) t ∧
          (res = none → ∀ r, IsPayload t₁ root r → t.node (root ++ r) = none) := by
    intro d h
    refine (keeps_removePaths hroot (sweepable_obsolete hfits.config) d h).bind fun _ d₁ h₁ => ?_
    refine (keeps_removeSuffix hroot (.inl rfl) h₁).bind fun _ d₂ h₂ => ?_
    refine (keeps_removeSuffix hroot (.inr rfl) h₂).bind fun _ d₃ h₃ => ?_
    have hmove := keeps_moveReplacing hfits hroot sys env env.depth _ [] d₃ h₃.kept
    rw [List.append_nil] at hmove
    exact hmove.mono fun res t h => ⟨h.1, fun hres r => h.2 hres r (List.nil_prefix)⟩
  unfold installPayload
  split_ifs with hlinux
  · have husr : Sweepable t₁ root ["usr"] :=
      ⟨List.cons_ne_nil _ _, by decide, unlinked_nil t₁, fun q hq => hq.usr⟩
    exact through_perform (o := FsOp.removeAll ["usr"]) hstart.kept.safe
      (hrest _ (hstart.removeAll hroot husr))
  · exact hrest d hstart

end Sweep

/-! ### Before the validation -/

section Unpack

variable {sys : System} {env : Env} {d : Disk}

/-- Below `./update-package` only, something was changed. -/
def SameOutside (t₀ t : Files) : Prop := ∀ q, ¬ [updateExtractDir] <+: q → t.node q = t₀.node q

/-- Operations that change nothing but what is below `./update-package`. -/
def FsOp.Stages : FsOp → Prop
  | .extract _ => True
  | .removeAll p => p = [updateExtractDir]
  | other => other.Reads

lemma SameOutside.handler {t₀ : Files} {o : FsOp} (ho : o.Stages) (h : SameOutside t₀ d.files) :
    SameOutside t₀ (sys.handler o d).2.files := by
  have hextract : ∀ n, SameOutside t₀ (sys.extracted n d.files) := fun n q hq =>
    (sys.extracted_outside n d.files q hq).trans (h q hq)
  cases o with
  | extract path =>
    rcases handler_cases sys d (.extract path) with hcase | ⟨e, hcase⟩ <;> rw [hcase]
    · exact hextract _
    · exact hextract _
  | removeAll p =>
    obtain rfl : p = [updateExtractDir] := ho
    have hremoved : ∀ stuck t, d.files.removeAll sys.limit [updateExtractDir] stuck = .ok t →
        SameOutside t₀ t := by
      intro stuck t hok q hq
      obtain ⟨-, ⟨rfl, -⟩ | rfl⟩ := Tree.removeAll_eq (unlinked_nil d.files) hok
      · exact h q hq
      · exact ((Tree.node_without_cases _ _ _ q).resolve_right fun hpre => hq hpre.2).trans (h q hq)
    rcases removeAll_cases sys d [updateExtractDir] with ⟨-, hsame | ⟨stuck, hok⟩⟩ | ⟨-, hok⟩
    · rw [hsame]
      exact h
    · exact hremoved stuck _ hok
    · exact hremoved _ _ hok
  | mkdir p => cases ho
  | remove p => cases ho
  | rename a b => cases ho
  | writeFile p data => cases ho
  | exist path => rwa [files_of_reads sys d (o := .exist path) trivial]
  | openRead path => rwa [files_of_reads sys d (o := .openRead path) trivial]
  | stat p => rwa [files_of_reads sys d (o := .stat p) trivial]
  | lstat p => rwa [files_of_reads sys d (o := .lstat p) trivial]
  | readDir p => rwa [files_of_reads sys d (o := .readDir p) trivial]
  | readFile p => rwa [files_of_reads sys d (o := .readFile p) trivial]
  | glob suffix => rwa [files_of_reads sys d (o := .glob suffix) trivial]

lemma opsIn_firstPackage (candidates : List String) :
    (firstPackage candidates).OpsIn FsOp.Stages := by
  induction candidates with
  | nil => trivial
  | cons candidate candidates ih =>
    refine ⟨trivial, fun res => ?_⟩
    cases res with
    | ok _ => trivial
    | error _ => exact ih

lemma opsIn_findUpdatePackage (env : Env) : (findUpdatePackage env).OpsIn FsOp.Stages := by
  unfold findUpdatePackage
  split
  · refine ⟨trivial, fun res => ?_⟩
    cases res with
    | true => trivial
    | false => exact opsIn_firstPackage _
  · exact opsIn_firstPackage _

lemma opsIn_extractUpdatePackage (path : String) :
    (extractUpdatePackage path).OpsIn FsOp.Stages := by
  refine ⟨trivial, fun res => ?_⟩
  cases res with
  | some e => trivial
  | none =>
    dsimp only
    split_ifs
    · exact ⟨trivial, fun _ => trivial⟩
    · trivial

lemma opsIn_findPayloadRoot (base : Path) : (findPayloadRoot base).OpsIn FsOp.Stages := by
  have hlisted : (listedRoot base).OpsIn FsOp.Stages := by
    refine ⟨trivial, fun res => ?_⟩
    cases res <;> trivial
  refine ⟨trivial, fun res => ?_⟩
  cases res with
  | error e => exact hlisted
  | ok k =>
    cases k with
    | dir => trivial
    | regular => exact hlisted
    | link => exact hlisted

lemma prefix_onlyDirectory {base root : Path} {entries : List Entry}
    (h : onlyDirectory base entries = .ok root) : base <+: root := by
  unfold onlyDirectory at h
  split at h
  · cases h
  · rw [← Except.ok.inj h]
    split_ifs
    · exact List.prefix_append _ _
    · exact List.prefix_refl _
  · rw [← Except.ok.inj h]

/-- The root of a payload is at the base or below it. -/
lemma returns_findPayloadRoot (base : Path) :
    (findPayloadRoot base).Returns fun res => ∀ root, res = .ok root → base <+: root := by
  have hlisted : (listedRoot base).Returns fun res => ∀ root, res = .ok root → base <+: root := by
    intro res
    cases res with
    | error e => rintro root ⟨⟩
    | ok entries => exact fun root h => prefix_onlyDirectory h
  intro res
  cases res with
  | error e => exact hlisted
  | ok k =>
    cases k with
    | dir =>
      intro root h
      rw [← Except.ok.inj h]
      exact List.prefix_append _ _
    | regular => exact hlisted
    | link => exact hlisted

lemma opsIn_unpackUpdate (env : Env) : (unpackUpdate env).OpsIn FsOp.Stages := by
  refine (opsIn_findUpdatePackage env).bind fun res => ?_
  cases res with
  | error e => trivial
  | ok path =>
    refine ⟨rfl, fun _ => (opsIn_extractUpdatePackage path).bind fun res => ?_⟩
    cases res with
    | some e => trivial
    | none =>
      refine (opsIn_findPayloadRoot _).bind fun res => ?_
      cases res <;> trivial

lemma returns_unpackUpdate (env : Env) :
    (unpackUpdate env).Returns fun res => ∀ root, res = .ok root → [updateExtractDir] <+: root := by
  refine (returns_true (findUpdatePackage env)).bind fun res _ => ?_
  cases res with
  | error e => rintro root ⟨⟩
  | ok path =>
    intro _
    refine (returns_true (extractUpdatePackage path)).bind fun res _ => ?_
    cases res with
    | some e => rintro root ⟨⟩
    | none =>
      refine (returns_findPayloadRoot _).bind fun res hres => ?_
      cases res with
      | error e => rintro root ⟨⟩
      | ok root =>
        intro root' h
        exact Except.ok.inj h ▸ hres root rfl

/-- Up to the extraction nothing changes outside, and the payload is in `./update-package`. -/
lemma unpackUpdate_spec (sys : System) (env : Env) (d : Disk) :
    SameOutside d.files ((unpackUpdate env).run sys.handler d).2.files ∧
      ∀ root, ((unpackUpdate env).run sys.handler d).1 = .ok root → [updateExtractDir] <+: root :=
  ⟨(opsIn_unpackUpdate env).run_preserves (I := fun d' : Disk => SameOutside d.files d'.files)
    (fun _ _ hop h => h.handler hop) fun _ _ => rfl, (returns_unpackUpdate env).run d⟩

end Unpack

/-! ### The whole update -/

section Apply

variable {sys : System} {env : Env} {d : Disk}

lemma opsIn_validatePayload (root : Path) (goos : String) :
    (validatePayload root goos).OpsIn FsOp.Reads := by
  have hentries : ∀ entries, (validateEntries root goos entries).OpsIn FsOp.Reads := by
    intro entries
    unfold validateEntries
    split_ifs
    · trivial
    · refine ⟨trivial, fun res => ?_⟩
      cases res with
      | error e => trivial
      | ok k => cases k <;> trivial
    · trivial
  refine ⟨trivial, fun res => ?_⟩
  cases res with
  | error e => trivial
  | ok entries => exact hentries entries

/-- The validation changes nothing. -/
lemma always_validatePayload (sys : System) (env : Env) (d : Disk) (root : Path) :
    (validatePayload root env.hostGOOS).Always sys.handler (fun d' => d'.files = d.files) d :=
  (opsIn_validatePayload root env.hostGOOS).always
    (fun _ d' hop h => (files_of_reads sys d' hop).trans h) rfl

/-- When nothing was moved, nothing was changed. -/
lemma installUpdate_unmoved (sys : System) (env : Env) (d : Disk) (root : Path) :
    Ensures sys.handler (installUpdate env root) d fun res d' =>
      res.1 = false → d'.files = d.files ∧ res.2 ≠ none := by
  have hsame := (always_validatePayload sys env d root).final
  have hvalidate : Ensures sys.handler (validatePayload root env.hostGOOS) d
      fun _ d' => d'.files = d.files := hsame
  refine (ensures_bind _).2 (hvalidate.mono _ ?_)
  rintro (- | e) d₁ hd₁
  · refine (ensures_bind _).2 (Ensures.mono _ (Q := fun _ _ => True) trivial ?_)
    rintro (- | e) d₂ - h <;> cases h
  · exact fun _ => ⟨hd₁, Option.some_ne_none e⟩

/-- From the validation on, no file of the payload is lost. -/
lemma keeps_installUpdate (sys : System) (env : Env) {root : Path} (hroot : [updateExtractDir] <+: root)
    (hfits : Fits d.files root) :
    Keeps sys d.files root (installUpdate env root) d fun res t => Kept d.files root (fun _ => False) t ∧
      (res.2 = none → ∀ r, IsPayload d.files root r → t.node (root ++ r) = none) := by
  have hstart : Kept d.files root (fun _ => False) d.files :=
    Swept.kept ⟨fun _ => rfl, fun _ _ h => h, fun _ _ _ h => h⟩
  have hsame := always_validatePayload sys env d root
  have hvalidate : Keeps sys d.files root (validatePayload root env.hostGOOS) d
      fun _ t => t = d.files :=
    ⟨hsame.mono fun d' h => h.symm ▸ hstart.safe, hsame.final⟩
  refine hvalidate.bind ?_
  rintro (- | e) d₁ hd₁
  · refine (keeps_installPayload hroot hfits hd₁).bind ?_
    rintro (- | e) d₂ ⟨hk, hgone⟩
    · exact through_ret hk.safe ⟨hk, fun _ => hgone rfl⟩
    · exact through_ret hk.safe ⟨hk, by simp⟩
  · have hd₁ : d₁.files = d.files := hd₁
    rw [← hd₁] at hstart ⊢
    exact through_ret hstart.safe ⟨hstart, by simp⟩

/-- The last removals leave everything else. -/
lemma node_removePaths {paths : List Path} (hpaths : ∀ p ∈ paths, p.dropLast = []) {q : Path}
    (hq : ∀ p ∈ paths, ¬ p <+: q) :
    ((removePaths paths).run sys.handler d).2.files.node q = d.files.node q := by
  induction paths generalizing d with
  | nil => rfl
  | cons p paths ih =>
    obtain ⟨hp, hpaths⟩ := List.forall_mem_cons.1 hpaths
    obtain ⟨hqp, hq⟩ := List.forall_mem_cons.1 hq
    refine (ih hpaths hq).trans ?_
    have hunlinked : d.files.Unlinked p.dropLast := hp ▸ unlinked_nil d.files
    have hremoved : ∀ stuck t, d.files.removeAll sys.limit p stuck = .ok t →
        t.node q = d.files.node q := by
      intro stuck t hok
      obtain ⟨-, ⟨rfl, -⟩ | rfl⟩ := Tree.removeAll_eq hunlinked hok
      · rfl
      · exact (Tree.node_without_cases _ _ _ q).resolve_right fun h => hqp h.2
    rcases removeAll_cases sys d p with ⟨-, hsame | ⟨stuck, hok⟩⟩ | ⟨-, hok⟩
    · rw [hsame]
    · exact hremoved stuck _ hok
    · exact hremoved _ _ hok

/-- What an update without an error has done: each file of the payload is at its destination, and what is
spared is unchanged. -/
structure Installed (t₀ t₁ : Files) (root : Path) (t : Files) : Prop where
  payload : ∀ r c, t₁.node (root ++ r) = some (.file c) → t.node r = some (.file c)
  spared : ∀ q c, Spared t₁ root q → t₀.node q = some (.file c) → t.node q = some (.file c)

/-- A cleanup after nothing was moved changes nothing outside. -/
lemma sameOutside_abort {t₀ : Files} (e : String) (h : SameOutside t₀ d.files) :
    SameOutside t₀ ((abort e).run sys.handler d).2.files :=
  h.handler (o := .removeAll [updateExtractDir]) rfl

/-- When the installation was not moved, nothing was changed outside. -/
lemma sameOutside_applyUpdate (h : ((applyUpdate env).run sys.handler d).1.1 = false) :
    SameOutside d.files ((applyUpdate env).run sys.handler d).2.files := by
  have hunpack := (unpackUpdate_spec sys env d).1
  rw [applyUpdate, bind_eq, run_bind] at h ⊢
  generalize (unpackUpdate env).run sys.handler d = out at hunpack h ⊢
  obtain ⟨(⟨e, extracted⟩ | root), d₁⟩ := out
  · cases extracted with
    | false => exact hunpack
    | true => exact sameOutside_abort e hunpack
  · have hinstall := installUpdate_unmoved sys env d₁ root
    dsimp only at h ⊢
    rw [bind_eq, run_bind] at h ⊢
    rw [Ensures] at hinstall
    generalize (installUpdate env root).run sys.handler d₁ = out at hinstall h ⊢
    obtain ⟨⟨moved, e⟩, d₂⟩ := out
    cases moved with
    | false =>
      obtain ⟨hsame, hne⟩ := hinstall rfl
      cases e with
      | none => exact absurd rfl hne
      | some e =>
        have hd₂ : SameOutside d.files d₂.files := by
          rw [show d₂.files = d₁.files from hsame]
          exact hunpack
        exact sameOutside_abort e hd₂
    | true => cases e <;> cases h

/-- Without an error everything is installed. -/
lemma installed_applyUpdate {root : Path} {d₁ : Disk}
    (hunpacked : (unpackUpdate env).run sys.handler d = (.ok root, d₁)) (hfits : Fits d₁.files root)
    (h : ((applyUpdate env).run sys.handler d).1.2 = none) :
    Installed d.files d₁.files root ((applyUpdate env).run sys.handler d).2.files := by
  obtain ⟨hout, hroot⟩ := unpackUpdate_spec sys env d
  rw [hunpacked] at hout hroot
  have hinstall := (keeps_installUpdate sys env (hroot root rfl) hfits).2
  have hunmoved := installUpdate_unmoved sys env d₁ root
  rw [applyUpdate, bind_eq, run_bind, hunpacked] at h ⊢
  dsimp only at h ⊢
  rw [bind_eq, run_bind] at h ⊢
  rw [Ensures] at hinstall hunmoved
  generalize (installUpdate env root).run sys.handler d₁ = out at hinstall hunmoved h ⊢
  obtain ⟨⟨moved, e⟩, d₂⟩ := out
  obtain ⟨hk, hgone⟩ := hinstall
  cases e with
  | some e => cases moved <;> cases h
  | none =>
    cases moved with
    | false => exact absurd rfl (hunmoved rfl).2
    | true =>
      have hclean : ∀ q, (∀ p ∈ ownPaths, ¬ p <+: q) →
          (postCleanup.run sys.handler d₂).2.files.node q = d₂.files.node q := fun q hq =>
        node_removePaths (by decide) hq
      refine ⟨fun r c hc => ?_, fun q c hq hc => ?_⟩
      · have hdst := (hk.safe r c hc).resolve_left (by
          rw [show d₂.files.node (root ++ r) = none from hgone rfl r ⟨c, hc⟩]
          rintro ⟨⟩)
        exact (hclean r (hfits.own r ⟨c, hc⟩)).trans hdst
      · have hc₁ := (hout q (hq.own _ List.mem_cons_self)).trans hc
        exact (hclean q hq.own).trans (hk.spared q c hq hc₁)

/-- **An update, whatever fails.** When the installation was not moved, nothing was changed outside
`./update-package`. When a payload fits, none of its files is lost up to the cleanup, and without an error
all of them are installed.

**Proof sketch.** Up to the extraction every operation works below `./update-package` only. From the
validation on, `Kept` is an invariant, whichever operations fail; and where the move returns no error, no
file is left in the payload, so that `Safe` says where it is. -/
theorem apply_update (sys : System) (env : Env) (d : Disk) :
    (((applyUpdate env).run sys.handler d).1.1 = false →
      SameOutside d.files ((applyUpdate env).run sys.handler d).2.files) ∧
    ∀ root d₁, (unpackUpdate env).run sys.handler d = (.ok root, d₁) → Fits d₁.files root →
      (installUpdate env root).Always sys.handler (fun d' => Safe d₁.files root d'.files) d₁ ∧
      (((applyUpdate env).run sys.handler d).1.2 = none →
        Installed d.files d₁.files root ((applyUpdate env).run sys.handler d).2.files) := by
  refine ⟨sameOutside_applyUpdate, fun root d₁ hunpacked hfits => ⟨?_, ?_⟩⟩
  · have hroot := (unpackUpdate_spec sys env d).2 root (by rw [hunpacked])
    exact (keeps_installUpdate sys env hroot hfits).1
  · exact installed_applyUpdate hunpacked hfits

end Apply

/-! ### Payloads of one file -/

/-- The files with one more. -/
def withNode (t : Files) (p : Path) (n : Node String Bytes) : Files :=
  match t.store p n with
  | .ok t' => t'
  | .error _ => t

lemma node_withNode {t : Files} {p q : Path} {n : Node String Bytes} (h : p ≠ q) :
    (withNode t p n).node q = t.node q := by
  unfold withNode
  cases hstore : t.store p n with
  | error e => rfl
  | ok t' =>
    obtain ⟨-, -, -, hnode⟩ := Tree.store_eq_ok hstore
    exact (hnode q).trans (if_neg h.symm)

/-- The package holds one file. -/
def extractFile (name : String) (t : Files) : Files :=
  withNode (withNode t [updateExtractDir] .dir) [updateExtractDir, name] (.file [1])

/-- Nothing fails, and the package holds one file. -/
def oneFile (name : String) : System where
  limit := 40
  fails _ _ := none
  stuck _ _ := false
  written _ := none
  exist _ _ := false
  extracted _ := extractFile name
  extracted_outside _ t q hq := by
    have hne : ∀ p, [updateExtractDir] <+: p → p ≠ q := by
      rintro p hp rfl
      exact hq hp
    exact (node_withNode (hne _ (List.prefix_append [updateExtractDir] [name]))).trans
      (node_withNode (hne _ (List.prefix_refl _)))
  text _ := "error"

/-- The updater on Linux, without arguments. -/
def linuxEnv : Env where
  goos := "linux"
  hostGOOS := "linux"
  args := ["updater"]
  depth := 10

/-- An installation of one file and a package. -/
def packaged : Disk where
  files := withNode (withNode .empty ["update-package.zip"] (.file [])) ["a"] (.file [0])

/-- The files after the extraction. -/
def unpacked (name : String) : Disk := ((unpackUpdate linuxEnv).run (oneFile name).handler packaged).2

/-- What is there in a tree with these entries. -/
lemma node_of_entries {t : Files} {entries : List (Path × Node String Bytes)}
    (ht : t.nodes.entries = entries) {q : Path} {n : Node String Bytes} (h : t.node q = some n) :
    (q, n) ∈ entries := by
  rw [← ht]
  exact t.nodes.mem_entries.2 h

/-- There are no links where none of the entries is one. -/
lemma unlinked_of_entries {t : Files} {entries : List (Path × Node String Bytes)}
    (ht : t.nodes.entries = entries) (hlinks : ∀ e ∈ entries, kindOf e.2 ≠ .link) (q : Path)
    (target : List (Step String)) : t.node q ≠ some (.link target) :=
  fun h => hlinks _ (node_of_entries ht h) rfl

/-- The payload `a` fits and is installed. -/
theorem apply_update_oneFile :
    (SameOutside packaged.files (unpacked "a").files ∧ Fits (unpacked "a").files [updateExtractDir]) ∧
      ((applyUpdate linuxEnv).run (oneFile "a").handler packaged).1 = (true, none) ∧
      Installed packaged.files (unpacked "a").files [updateExtractDir]
        ((applyUpdate linuxEnv).run (oneFile "a").handler packaged).2.files := by
  have hentries : (unpacked "a").files.nodes.entries =
      [([], .dir), (["a"], .file [0]), ([updateExtractDir], .dir),
        ([updateExtractDir, "a"], .file [1]), (["update-package.zip"], .file [])] := by
    decide +kernel
  have hroot : ((unpackUpdate linuxEnv).run (oneFile "a").handler packaged).1 =
      .ok [updateExtractDir] := by
    decide +kernel
  have hlinks := unlinked_of_entries hentries (by decide)
  have hpayload : ∀ r, IsPayload (unpacked "a").files [updateExtractDir] r → r = ["a"] := by
    rintro r ⟨c, hc⟩
    have hmem := node_of_entries hentries hc
    simp [updateExtractDir] at hmem
    exact hmem.1
  have hfits : Fits (unpacked "a").files [updateExtractDir] :=
    { dir := by decide +kernel
      plain := fun q => hlinks _
      own := fun r hr => by
        rw [hpayload r hr]
        decide
      real := fun r _ q _ => hlinks q
      config := fun q _ => hlinks q }
  have hresult : ((applyUpdate linuxEnv).run (oneFile "a").handler packaged).1 = (true, none) := by
    decide +kernel
  have happly := (apply_update (oneFile "a") linuxEnv packaged).2 _ _ (Prod.ext hroot rfl) hfits
  exact ⟨⟨(unpackUpdate_spec _ linuxEnv _).1, hfits⟩, hresult, happly.2 (by rw [hresult])⟩

/-- A payload file that is named like the directory of the update is lost. -/
theorem not_apply_update : ¬ ∀ (sys : System) (env : Env) (d : Disk),
    (((applyUpdate env).run sys.handler d).1.1 = false →
      SameOutside d.files ((applyUpdate env).run sys.handler d).2.files) ∧
    ∀ root d₁, (unpackUpdate env).run sys.handler d = (.ok root, d₁) → Plain d₁.files root →
      (installUpdate env root).Always sys.handler (fun d' => Safe d₁.files root d'.files) d₁ ∧
      (((applyUpdate env).run sys.handler d).1.2 = none →
        Installed d.files d₁.files root ((applyUpdate env).run sys.handler d).2.files) := by
  intro happly
  have hentries : (unpacked updateExtractDir).files.nodes.entries =
      [([], .dir), (["a"], .file [0]), ([updateExtractDir], .dir),
        ([updateExtractDir, updateExtractDir], .file [1]), (["update-package.zip"], .file [])] := by
    decide +kernel
  have hroot : ((unpackUpdate linuxEnv).run (oneFile updateExtractDir).handler packaged).1 =
      .ok [updateExtractDir] := by
    decide +kernel
  have hplain : Plain (unpacked updateExtractDir).files [updateExtractDir] :=
    { dir := by decide +kernel
      plain := fun q => unlinked_of_entries hentries (by decide) _ }
  have hsafe := ((happly (oneFile updateExtractDir) linuxEnv packaged).2 _ _
    (Prod.ext hroot rfl) hplain).1.final
  have hpayload : (unpacked updateExtractDir).files.node ([updateExtractDir] ++ [updateExtractDir]) =
      some (.file [1]) := by
    decide +kernel
  exact absurd (hsafe [updateExtractDir] [1] hpayload) (by decide +kernel)

end Proxor.Updater
