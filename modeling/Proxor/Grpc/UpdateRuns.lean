import Proxor.Grpc.Update
import Proxor.Lib.Run

set_option relaxedAutoImplicit false
set_option autoImplicit false

/-!
# What a download fetches

A download that fetches an asset should fetch what the check offered that returned last before it,
and read all three globals as that check set them. A check that fails leaves the globals of an older
one, and one that sets them while a download runs mixes two offers. In every run without such steps a
download fetches what it should.

## Main definitions

* `Proxor.Grpc.Download.Faithful` — a download fetches what was offered last.
* `Proxor.Grpc.UpdateServer.InOrder` — a step that neither fails over a queued update nor sets a
  global beside a download or another check.

## Main results

* `Proxor.Grpc.faithful_of_inOrder` — every download of a run of such steps is faithful.
-/

namespace Proxor.Grpc

/-! ### What a download should fetch -/

/-- What a check leaves in a global. -/
def Outcome.target : Outcome → Global → String
  | .offer _ asset, .updateDownloadURL => asset.browserDownloadURL
  | .offer _ asset, .updateAssetName => asset.name
  | .offer release _, .updateChecksumsURL =>
    ((checksumsAsset release).map GithubReleaseAsset.browserDownloadURL).getD ""
  | _, _ => ""

/-- A download that fetches the asset: the check that had returned last when it began offered one, and
whatever it read is what that check set. -/
def Download.Faithful (d : Download) : Prop :=
  d.Fetched → ∃ k release asset, d.recent = some (k, .offer release asset) ∧
    ∀ u ∈ d.uses, u.cell = ⟨(Outcome.offer release asset).target u.stage.global, some k⟩

/-! ### Steps in order -/

/-- A check has set a global and has not returned. -/
def Check.midway : Check → Bool
  | .setting outcome pending => pending ≠ outcome.writes
  | _ => false

namespace UpdateServer

/-- The check of this number has set a global and has not returned. -/
def midwayAt (s : UpdateServer) (i : ℕ) : Bool := (s.checks[i]?).any Check.midway

/-- An update is queued. -/
def Queued (s : UpdateServer) : Prop :=
  (s.cells .updateDownloadURL).value ≠ "" ∧ (s.cells .updateAssetName).value ≠ ""

instance (s : UpdateServer) : Decidable s.Queued := inferInstanceAs (Decidable (_ ∧ _))

/-- The check of this number is about to return an error. -/
def failing (s : UpdateServer) (i : ℕ) : Bool :=
  match s.checks[i]? with
  | some (.setting (.failed _) []) => true
  | _ => false

/-- A step in order: no check returns an error while an update is queued, no global is set while a
download runs or another check has set one and has not returned, and no download begins then. -/
def InOrder (s : UpdateServer) : UpdateStep → Prop
  | .set i => (∀ d ∈ s.downloads, d.stage = none) ∧
      ∀ j < s.checks.length, s.midwayAt j = true → j = i
  | .finish i => s.failing i = true → ¬ s.Queued
  | .download _ _ => ∀ j < s.checks.length, s.midwayAt j = false
  | _ => True

instance (s : UpdateServer) : (e : UpdateStep) → Decidable (s.InOrder e)
  | .set i => inferInstanceAs (Decidable ((∀ d ∈ s.downloads, d.stage = none) ∧
      ∀ j < s.checks.length, s.midwayAt j = true → j = i))
  | .finish i => inferInstanceAs (Decidable (s.failing i = true → ¬ s.Queued))
  | .download _ _ => inferInstanceAs (Decidable (∀ j < s.checks.length, s.midwayAt j = false))
  | .check _ | .answer _ _ | .read _ _ => .isTrue trivial

/-! ### The invariant -/

/-- No check has set a global and has not returned. -/
def Quiet (s : UpdateServer) : Prop := ∀ i, s.midwayAt i = false

/-- The globals hold what the check that returned last offered, or no update. -/
def Settled (s : UpdateServer) : Prop :=
  ¬ s.Queued ∨ ∃ k release asset, s.recent = some (k, .offer release asset) ∧
    ∀ g, s.cells g = ⟨(Outcome.offer release asset).target g, some k⟩

/-- The globals a download has found not to be empty before this stage are not. -/
def Passed (s : UpdateServer) : Stage → Prop
  | .queuedURL => True
  | .queuedName => (s.cells .updateDownloadURL).value ≠ ""
  | _ => s.Queued

/-- A download that runs has read the globals as they are. -/
structure Running (s : UpdateServer) (d : Download) (stage : Stage) : Prop where
  quiet : s.Quiet
  recent : s.Queued → d.recent = s.recent
  uses : ∀ u ∈ d.uses, u.cell = s.cells u.stage.global
  passed : s.Passed stage
  early : stage = .queuedURL ∨ stage = .queuedName → ∀ u ∈ d.uses, u.stage ≠ .request

/-- The invariant of a run in order. -/
structure Inv (s : UpdateServer) : Prop where
  settled : s.Quiet → s.Settled
  /-- What a check still has to set. -/
  pending : ∀ i outcome pending, s.checks[i]? = some (.setting outcome pending) →
    pending <:+ outcome.writes ∧ (pending ≠ outcome.writes →
      ∀ g, pending.foldl (Cells.set · i ·) s.cells g = ⟨outcome.target g, some i⟩)
  single : ∀ i j, s.midwayAt i = true → s.midwayAt j = true → i = j
  running : ∀ d ∈ s.downloads, ∀ stage ∈ d.stage, s.Running d stage
  faithful : ∀ d ∈ s.downloads, d.Faithful

end UpdateServer

/-! ### What a check sets -/

/-- What a check that does not fail sets leaves nothing of what was there. -/
lemma Outcome.foldl_writes {outcome : Outcome} (h : outcome.writes ≠ []) (i : ℕ) (cells : Cells)
    (g : Global) :
    outcome.writes.foldl (Cells.set · i ·) cells g = ⟨outcome.target g, some i⟩ := by
  cases outcome with
  | failed e => exact absurd rfl h
  | current => cases g <;> rfl
  | offer release asset =>
    rw [Outcome.writes, List.foldl_append]
    cases hsums : checksumsAsset release with
    | none => cases g <;> simp [Cells.set, Outcome.target, hsums]
    | some a => cases g <;> simp [Cells.set, Outcome.target, hsums]

/-! ### Steps keep the invariant -/

namespace UpdateServer

variable {s : UpdateServer} {host : Host}

lemma midwayAt_of_getElem? {i : ℕ} {c : Check} (h : s.checks[i]? = some c) :
    s.midwayAt i = c.midway := by rw [midwayAt, h, Option.any_some]

/-- What holds for every check there is holds for every number. -/
lemma quiet_of_forall_lt (h : ∀ j < s.checks.length, s.midwayAt j = false) : s.Quiet := by
  intro i
  by_cases hi : i < s.checks.length
  · exact h i hi
  · rw [midwayAt, List.getElem?_eq_none (not_lt.1 hi), Option.any_none]

namespace Inv

/-- The requests of checks do not matter as long as none has set a global. -/
lemma congr_checks (h : s.Inv) {checks : List Check}
    (hmid : ∀ i, midwayAt { s with checks := checks } i = s.midwayAt i)
    (hpending : ∀ (i : ℕ) (outcome : Outcome) (pending : List (Global × String)),
      checks[i]? = some (Check.setting outcome pending) →
      s.checks[i]? = some (Check.setting outcome pending) ∨ pending = outcome.writes) :
    Inv { s with checks := checks } := by
  have hquiet : Quiet { s with checks := checks } ↔ s.Quiet := forall_congr' fun i => by rw [hmid]
  refine ⟨fun hq => h.settled (hquiet.1 hq), fun i outcome pending hi => ?_, fun i j hi hj => ?_,
    fun d hd stage hstage => ?_, h.faithful⟩
  · rcases hpending i outcome pending hi with hold | rfl
    · exact h.pending i outcome pending hold
    · exact ⟨List.suffix_rfl, fun hne => absurd rfl hne⟩
  · exact h.single i j ((hmid i).symm.trans hi) ((hmid j).symm.trans hj)
  · obtain ⟨hq, hrecent, huses, hpassed, hearly⟩ := h.running d hd stage hstage
    exact ⟨hquiet.2 hq, hrecent, huses, hpassed, hearly⟩

/-- A check begins. -/
lemma check (h : s.Inv) (req : CheckReq) : (s.step host (.check req)).Inv := by
  refine h.congr_checks (fun i => ?_) fun i outcome pending hi => ?_
  · rw [midwayAt, midwayAt]
    rcases lt_trichotomy i s.checks.length with hlt | rfl | hgt
    · rw [List.getElem?_append_left hlt]
    · rw [List.getElem?_concat_length, List.getElem?_eq_none le_rfl]
      rfl
    · rw [List.getElem?_eq_none hgt.le, List.getElem?_eq_none (by simp; omega)]
  · rcases lt_trichotomy i s.checks.length with hlt | rfl | hgt
    · rw [List.getElem?_append_left hlt] at hi
      exact .inl hi
    · rw [List.getElem?_concat_length] at hi
      cases hi
    · rw [List.getElem?_eq_none (by simp; omega)] at hi
      cases hi

/-- A check learns what it is to set. -/
lemma answer (h : s.Inv) (i : ℕ) (a : ReleasesAnswer) : (s.step host (.answer i a)).Inv := by
  rw [step]
  split
  · rename_i req hi
    refine h.congr_checks (fun j => ?_) fun j outcome pending hj => ?_
    · by_cases hij : i = j
      · subst hij
        rw [midwayAt_of_getElem? hi, midwayAt_of_getElem? (s := { s with checks := _ })
          (List.getElem?_set_self (List.getElem?_eq_some_iff.1 hi).1)]
        simp [Check.midway]
      · rw [midwayAt, midwayAt, List.getElem?_set_ne hij]
    · by_cases hij : i = j
      · subst hij
        rw [List.getElem?_set_self (List.getElem?_eq_some_iff.1 hi).1] at hj
        cases hj
        exact .inr rfl
      · rw [List.getElem?_set_ne hij] at hj
        exact .inl hj
  · exact h

/-- A check sets a global. -/
lemma set (h : s.Inv) (i : ℕ) (horder : s.InOrder (.set i)) : (s.step host (.set i)).Inv := by
  rw [step]
  split
  · rename_i outcome write pending hi
    obtain ⟨hidle, hothers⟩ := horder
    obtain ⟨hsuffix, htarget⟩ := h.pending i outcome _ hi
    have hlen := hsuffix.length_le
    have hlt : i < s.checks.length := (List.getElem?_eq_some_iff.1 hi).1
    have hself : (s.checks.set i (.setting outcome pending))[i]? = some (.setting outcome pending) :=
      List.getElem?_set_self hlt
    have hne : pending ≠ outcome.writes := by
      intro heq
      rw [heq, List.length_cons] at hlen
      omega
    have hnot : ∀ j, i ≠ j → s.midwayAt j = false := by
      intro j hij
      by_contra hj
      rw [Bool.not_eq_false] at hj
      have hj' : j < s.checks.length := by
        by_contra hle
        rw [midwayAt, List.getElem?_eq_none (not_lt.1 hle), Option.any_none] at hj
        cases hj
      exact hij (hothers j hj' hj).symm
    have hmid : ∀ j, midwayAt { s with
        cells := s.cells.set i write
        checks := s.checks.set i (.setting outcome pending) } j = true → i = j := by
      intro j hj
      by_contra hij
      have hsame := hnot j hij
      rw [midwayAt] at hsame hj
      rw [List.getElem?_set_ne hij, hsame] at hj
      cases hj
    refine ⟨fun hquiet => ?_, fun j o p hj => ?_, fun j k hj hk => (hmid j hj).symm.trans (hmid k hk),
      fun d hd stage hstage => ?_, h.faithful⟩
    · have hbusy := hquiet i
      rw [midwayAt_of_getElem? hself] at hbusy
      simp [Check.midway, hne] at hbusy
    · by_cases hij : i = j
      · subst hij
        rw [hself] at hj
        cases hj
        refine ⟨(List.suffix_cons _ _).trans hsuffix, fun _ g => ?_⟩
        -- what is set now and what is still to be set
        have hall : (write :: pending).foldl (Cells.set · i ·) s.cells g =
            ⟨outcome.target g, some i⟩ := by
          by_cases hfirst : write :: pending = outcome.writes
          · rw [hfirst]
            exact Outcome.foldl_writes (hfirst ▸ List.cons_ne_nil _ _) i s.cells g
          · exact htarget hfirst g
        exact hall
      · rw [List.getElem?_set_ne hij] at hj
        have hold := hnot j hij
        rw [midwayAt_of_getElem? hj] at hold
        have hwrites : p = o.writes := by simpa [Check.midway] using hold
        exact ⟨hwrites ▸ List.suffix_rfl, fun hne => absurd hwrites hne⟩
    · rw [hidle d hd] at hstage
      cases hstage
  · exact h

/-- A check returns. -/
lemma finish (h : s.Inv) (i : ℕ) (horder : s.InOrder (.finish i)) :
    (s.step host (.finish i)).Inv := by
  rw [step]
  split
  · rename_i outcome hi
    have hlt : i < s.checks.length := (List.getElem?_eq_some_iff.1 hi).1
    have hself : (s.checks.set i (.ended outcome))[i]? = some (.ended outcome) :=
      List.getElem?_set_self hlt
    have hmid : ∀ j, midwayAt { s with
        recent := some (i, outcome)
        checks := s.checks.set i (.ended outcome) } j = true → i ≠ j ∧ s.midwayAt j = true := by
      intro j hj
      have hij : i ≠ j := by
        rintro rfl
        rw [midwayAt_of_getElem? hself] at hj
        cases hj
      refine ⟨hij, ?_⟩
      rw [midwayAt] at hj ⊢
      rwa [List.getElem?_set_ne hij] at hj
    have hpending : ∀ (j : ℕ) (o : Outcome) (p : List (Global × String)),
        (s.checks.set i (.ended outcome))[j]? = some (Check.setting o p) →
        s.checks[j]? = some (Check.setting o p) := by
      intro j o p hj
      have hij : i ≠ j := by
        rintro rfl
        rw [hself] at hj
        cases hj
      rwa [List.getElem?_set_ne hij] at hj
    by_cases hwrites : outcome.writes = []
    · -- an error leaves the globals, in which there is no update
      have hfailed : s.failing i = true := by
        cases outcome with
        | failed e => rw [failing, hi]
        | current => exact absurd hwrites (List.cons_ne_nil _ _)
        | offer release asset => exact absurd hwrites (List.cons_ne_nil _ _)
      have hnot : ¬ s.Queued := horder hfailed
      have hbusy : s.midwayAt i = false := by
        rw [midwayAt_of_getElem? hi]
        simp [Check.midway, hwrites]
      refine ⟨fun _ => .inl hnot, fun j o p hj => h.pending j o p (hpending j o p hj),
        fun j k hj hk => h.single j k (hmid j hj).2 (hmid k hk).2, fun d hd stage hstage => ?_,
        h.faithful⟩
      obtain ⟨hquiet, -, huses, hpassed, hearly⟩ := h.running d hd stage hstage
      refine ⟨fun j => ?_, fun hq => absurd hq hnot, huses, hpassed, hearly⟩
      by_contra hj
      rw [Bool.not_eq_false] at hj
      exact absurd ((hquiet j).symm.trans (hmid j hj).2) Bool.false_ne_true
    · -- the globals are what this check has set
      have hbusy : s.midwayAt i = true := by
        rw [midwayAt_of_getElem? hi]
        simp [Check.midway, Ne.symm hwrites]
      have hcells : ∀ g, s.cells g = ⟨outcome.target g, some i⟩ :=
        (h.pending i outcome [] hi).2 (Ne.symm hwrites)
      refine ⟨fun _ => ?_, fun j o p hj => h.pending j o p (hpending j o p hj),
        fun j k hj hk => h.single j k (hmid j hj).2 (hmid k hk).2, fun d hd stage hstage => ?_,
        h.faithful⟩
      · cases outcome with
        | failed e => exact absurd rfl hwrites
        | current => exact .inl fun hq => hq.1 (congrArg Cell.value (hcells .updateDownloadURL))
        | offer release asset => exact .inr ⟨i, release, asset, rfl, hcells⟩
      · have hquiet := (h.running d hd stage hstage).quiet i
        rw [hbusy] at hquiet
        cases hquiet
  · exact h

/-- A download begins. -/
lemma download (h : s.Inv) (channel downloadDir : String)
    (horder : s.InOrder (.download channel downloadDir)) :
    (s.step host (.download channel downloadDir)).Inv := by
  rw [step]
  have hquiet : s.Quiet := quiet_of_forall_lt horder
  refine ⟨h.settled, h.pending, h.single, fun d hd stage hstage => ?_, fun d hd => ?_⟩
  · rcases List.mem_append.1 hd with hd | hd
    · obtain ⟨hq, hrecent, huses, hpassed, hearly⟩ := h.running d hd stage hstage
      exact ⟨hq, hrecent, huses, hpassed, hearly⟩
    · obtain rfl := List.mem_singleton.1 hd
      dsimp only at hstage
      split_ifs at hstage
      · obtain rfl := Option.some.inj hstage
        exact ⟨hquiet, fun _ => rfl, fun u hu => absurd hu List.not_mem_nil, trivial,
          fun _ u hu => absurd hu List.not_mem_nil⟩
      · cases hstage
  · rcases List.mem_append.1 hd with hd | hd
    · exact h.faithful d hd
    · obtain rfl := List.mem_singleton.1 hd
      rintro ⟨u, hu, -⟩
      exact absurd hu List.not_mem_nil

/-- A download that runs goes on to a stage only past what it needs. -/
lemma passed_next {stage next : Stage} (hpassed : s.Passed stage) (hnext : stage.next = some next)
    (hvalue : ¬ (stage.needsValue = true ∧ (s.cells stage.global).value = "")) : s.Passed next := by
  cases stage with
  | queuedURL =>
    cases hnext
    exact fun hempty => hvalue ⟨rfl, hempty⟩
  | queuedName =>
    cases hnext
    exact ⟨hpassed, fun hempty => hvalue ⟨rfl, hempty⟩⟩
  | want => cases hnext
  | _ =>
    cases hnext
    exact hpassed

/-- A download reads a global. -/
lemma read (h : s.Inv) (i : ℕ) (ok : Bool) : (s.step host (.read i ok)).Inv := by
  rw [step]
  split
  · rename_i d hi
    have hd : d ∈ s.downloads := List.mem_of_getElem? hi
    split
    · rename_i stage hstage
      have hrun := h.running d hd stage hstage
      have huses : ∀ u ∈ (d.read stage (s.cells stage.global) ok).uses,
          u.cell = s.cells u.stage.global := by
        intro u hu
        rcases List.mem_append.1 hu with hu | hu
        · exact hrun.uses u hu
        · rw [List.mem_singleton.1 hu]
      refine ⟨h.settled, h.pending, h.single, fun d' hd' stage' hstage' => ?_, fun d' hd' => ?_⟩
      · rcases List.mem_or_eq_of_mem_set hd' with hd' | rfl
        · obtain ⟨hq, hrecent, huses, hpassed, hearly⟩ := h.running d' hd' stage' hstage'
          exact ⟨hq, hrecent, huses, hpassed, hearly⟩
        · rw [Download.read] at hstage'
          dsimp only at hstage'
          split_ifs at hstage' with hgo
          · refine ⟨hrun.quiet, hrun.recent, huses, passed_next hrun.passed hstage' hgo.2,
              fun hnext u hu => ?_⟩
            have hfirst : stage = .queuedURL := by
              rcases hnext with rfl | rfl <;> cases stage <;> cases hstage'
              rfl
            rcases List.mem_append.1 hu with hu | hu
            · exact hrun.early (.inl hfirst) u hu
            · rw [List.mem_singleton.1 hu, hfirst]
              rintro ⟨⟩
          · cases hstage'
      · rcases List.mem_or_eq_of_mem_set hd' with hd' | rfl
        · exact h.faithful d' hd'
        · rintro ⟨u, hu, hrequest⟩
          -- the asset is fetched only past the first two stages
          have hqueued : s.Queued := by
            have hlate : ¬ (stage = .queuedURL ∨ stage = .queuedName) := by
              intro hearly
              rcases List.mem_append.1 hu with hu | hu
              · exact hrun.early hearly u hu hrequest
              · rw [List.mem_singleton.1 hu] at hrequest
                rcases hearly with rfl | rfl <;> cases hrequest
            have hpassed := hrun.passed
            cases stage with
            | queuedURL => exact absurd (.inl rfl) hlate
            | queuedName => exact absurd (.inr rfl) hlate
            | _ => exact hpassed
          obtain ⟨k, release, asset, hrecent, hcells⟩ :=
            (h.settled hrun.quiet).resolve_left (not_not.2 hqueued)
          exact ⟨k, release, asset, (hrun.recent hqueued).trans hrecent,
            fun u hu => (huses u hu).trans (hcells _)⟩
    · exact h
  · exact h

end Inv

/-- **A step in order keeps the invariant.** -/
theorem Inv.step (h : s.Inv) (e : UpdateStep) (horder : s.InOrder e) : (s.step host e).Inv := by
  cases e with
  | check req => exact h.check req
  | answer i a => exact h.answer i a
  | set i => exact h.set i horder
  | finish i => exact h.finish i horder
  | download channel downloadDir => exact h.download channel downloadDir horder
  | read i ok => exact h.read i ok

/-- The invariant holds before any request. -/
lemma inv_start : Inv {} := by
  refine ⟨fun _ => .inl fun h => h.1 rfl, fun i outcome pending h => ?_, fun i j h => ?_,
    fun d hd => absurd hd List.not_mem_nil, fun d hd => absurd hd List.not_mem_nil⟩
  · rw [List.getElem?_nil] at h
    cases h
  · rw [midwayAt, List.getElem?_nil] at h
    cases h

end UpdateServer

/-- **A download fetches what the last check offered** in every run of steps in order.

**Proof sketch.** Every step in order keeps the invariant `UpdateServer.Inv`. -/
theorem faithful_of_inOrder (host : Host) (steps : List UpdateStep)
    (horder : Each (UpdateServer.step host) UpdateServer.InOrder {} steps) :
    ∀ d ∈ (steps.foldl (UpdateServer.step host) {}).downloads, d.Faithful := by
  have hinv : (steps.foldl (UpdateServer.step host) {}).Inv :=
    Each.invariant (fun _ e h he => h.step e he) UpdateServer.inv_start horder
  exact hinv.faithful

/-! ### Runs -/

/-- Windows, with version 1.0.1. -/
def windowsHost : Host where
  goos := "windows"
  goarch := "amd64"
  version := "1.0.1"

/-- An answer that has the release 1.0.2. -/
def newRelease : ReleasesAnswer :=
  .response 200 "" (.ok [{
    tagName := "proxor-1.0.2"
    assets := [{ name := "proxor-1.0.2-windows64.zip", browserDownloadURL := "https://x/new.zip" },
      { name := "SHA256SUMS", browserDownloadURL := "https://x/SHA256SUMS" }] }])

/-- A check that offers an update. -/
def offeringCheck (i : ℕ) : List UpdateStep :=
  [.check ⟨"", false⟩, .answer i newRelease, .set i, .set i, .set i, .set i, .finish i]

/-- A check whose request is answered with an error. -/
def failingCheck (i : ℕ) : List UpdateStep :=
  [.check ⟨"", false⟩, .answer i (.response 500 "" (.error "")), .finish i]

/-- The steps of a whole download. -/
def wholeDownload (i : ℕ) : List UpdateStep :=
  .download "" "" :: List.replicate 8 (.read i true)

/-- A check fails after one that offered an update, and a download fetches that. -/
theorem not_faithful : ¬ ∀ (host : Host) (steps : List UpdateStep),
    ∀ d ∈ (steps.foldl (UpdateServer.step host) {}).downloads, d.Faithful := by
  intro h
  -- the download fetches, and the check before it ended with an error
  have hfetched : (((offeringCheck 0 ++ failingCheck 1 ++ wholeDownload 0).foldl
      (UpdateServer.step windowsHost) {}).downloads.any fun d =>
        (d.uses.any fun u => u.stage = .request) && d.recent.all fun r => r.2.writes = []) = true := by
    decide
  obtain ⟨d, hd, hbad⟩ := List.any_eq_true.1 hfetched
  obtain ⟨hrequest, hfailed⟩ := Bool.and_eq_true_iff.1 hbad
  obtain ⟨u, hu, hstage⟩ := List.any_eq_true.1 hrequest
  obtain ⟨k, release, asset, hrecent, -⟩ := h windowsHost _ d hd ⟨u, hu, of_decide_eq_true hstage⟩
  rw [hrecent, Option.all_some, decide_eq_true_iff] at hfailed
  exact absurd hfailed (List.cons_ne_nil _ _)

/-- A download after a check that offered an update. -/
theorem faithful_of_inOrder_offer :
    let server := (offeringCheck 0 ++ wholeDownload 0).foldl (UpdateServer.step windowsHost) {}
    server.downloads.length = 1 ∧ server.downloads.Forall Download.Faithful :=
  ⟨by decide, List.forall_iff_forall_mem.2 (faithful_of_inOrder windowsHost _ (by decide))⟩

end Proxor.Grpc
