import Proxor.Grpc.UpdateVersion
import Proxor.Lib.FirstMax

set_option relaxedAutoImplicit false
set_option autoImplicit false

/-!
# The version that is offered

An update is what is newer by its tag. The program reads the version out of the name of the asset,
where the platform after it becomes a part of a prerelease, so that it offers the newest release
exactly if the names single out one that is newest by its tag.

## Main definitions

* `Proxor.Grpc.NewerByTag` — a release is newer than the installed version.
* `Proxor.Grpc.SelectsNewest` — the newest release is offered.
* `Proxor.Grpc.NamesAgree` — the names single out a release that is newest by its tag.

## Main results

* `Proxor.Grpc.matchingReleaseAsset_eq` — what is offered.
* `Proxor.Grpc.selectsNewest_iff` — the newest release is offered exactly if the names agree.
* `Proxor.Grpc.namesAgree_of_stable` — they do if no tag has a prerelease part and the names have the
  numbers of the tags.
-/

namespace Proxor.Grpc

open SemVer Text

/-! ### Candidates -/

/-- A candidate: a release and its asset. -/
abbrev Candidate : Type := GithubRelease × GithubReleaseAsset

/-- The assets that fit, in the order they are looked at. -/
def candidates (releases : List GithubRelease) (suffixes : List String) (includePrerelease : Bool) :
    List Candidate :=
  releases.flatMap fun release =>
    if release.prerelease && !includePrerelease then []
    else release.assets.flatMap fun asset =>
      (suffixes.filter fun suffix => hasSuffix asset.name suffix).map fun _ => (release, asset)

lemma mem_candidates {releases : List GithubRelease} {suffixes : List String}
    {includePrerelease : Bool} {c : Candidate} :
    c ∈ candidates releases suffixes includePrerelease ↔
      c.1 ∈ releases ∧ (c.1.prerelease = true → includePrerelease = true) ∧ c.2 ∈ c.1.assets ∧
        ∃ suffix ∈ suffixes, hasSuffix c.2.name suffix = true := by
  constructor
  · intro h
    obtain ⟨release, hrelease, h⟩ := List.mem_flatMap.1 h
    split_ifs at h with hpre
    · exact absurd h List.not_mem_nil
    · obtain ⟨asset, hasset, h⟩ := List.mem_flatMap.1 h
      obtain ⟨suffix, hsuffix, rfl⟩ := List.mem_map.1 h
      obtain ⟨hmem, hfits⟩ := List.mem_filter.1 hsuffix
      have himp : release.prerelease = true → includePrerelease = true := by simpa using hpre
      exact ⟨hrelease, himp, hasset, suffix, hmem, hfits⟩
  · rintro ⟨hrelease, hpre, hasset, suffix, hsuffix, hfits⟩
    refine List.mem_flatMap.2 ⟨c.1, hrelease, ?_⟩
    rw [if_neg fun h => by simp_all]
    exact List.mem_flatMap.2 ⟨c.2, hasset,
      List.mem_map.2 ⟨suffix, List.mem_filter.2 ⟨hsuffix, hfits⟩, rfl⟩⟩

/-- The loops look at the candidates one after the other. -/
lemma foldl_candidates {β : Type} (f : β → GithubRelease → GithubReleaseAsset → β)
    (releases : List GithubRelease) (suffixes : List String) (includePrerelease : Bool) (b : β) :
    releases.foldl (fun b release =>
      if release.prerelease && !includePrerelease then b
      else release.assets.foldl (fun b asset =>
        suffixes.foldl (fun b suffix =>
          if hasSuffix asset.name suffix then f b release asset else b) b) b) b =
    (candidates releases suffixes includePrerelease).foldl (fun b c => f b c.1 c.2) b := by
  rw [candidates, List.foldl_flatMap]
  congr 1
  funext b release
  split_ifs
  · rfl
  · rw [List.foldl_flatMap]
    congr 1
    funext b asset
    rw [List.foldl_map, List.foldl_filter]

/-! ### Newer by the name -/

/-- A candidate with the version read for it. -/
abbrev Named : Type := GithubRelease × GithubReleaseAsset × Version

/-- The place of the version that was read. -/
def Named.key (n : Named) : Precedence := n.2.2.precedence

/-- The candidates that are newer by the version read for them. -/
def newerByName (installed : Version) (cs : List Candidate) : List Named :=
  cs.filterMap fun c => ((candidateVersion c.1 c.2).filter (newerThan installed c.1)).map fun v =>
    (c.1, c.2, v)

lemma mem_newerByName {installed : Version} {cs : List Candidate} {n : Named} :
    n ∈ newerByName installed cs ↔ (n.1, n.2.1) ∈ cs ∧
      candidateVersion n.1 n.2.1 = some n.2.2 ∧ newerThan installed n.1 n.2.2 = true := by
  constructor
  · intro h
    obtain ⟨c, hc, h⟩ := List.mem_filterMap.1 h
    obtain ⟨v, hv, rfl⟩ := Option.map_eq_some_iff.1 h
    exact ⟨hc, Option.filter_eq_some_iff.1 hv⟩
  · rintro ⟨hc, hv⟩
    exact List.mem_filterMap.2 ⟨_, hc,
      Option.map_eq_some_iff.2 ⟨n.2.2, Option.filter_eq_some_iff.2 hv, rfl⟩⟩

/-- What the loops have found: a candidate, and whether there was one at all. -/
def Best.of (found : Option Named) (saw : Bool) : Best where
  bestRelease := found.map fun n => n.1
  bestAsset := found.map fun n => n.2.1
  bestVersion := found.map fun n => n.2.2
  sawCompatibleAsset := saw

/-- A candidate that is newer by its name is kept if it is greater than the one that was kept. -/
lemma Best.consider_of (installed : Version) (found : Option Named) (saw : Bool) (c : Candidate) :
    (Best.of found saw).consider (some installed) c.1 c.2 =
      Best.of ((newerByName installed [c]).foldl (keepMax Named.key) found) true := by
  simp only [Best.consider, newerByName, List.filterMap_cons, List.filterMap_nil]
  cases hv : candidateVersion c.1 c.2 with
  | none => rfl
  | some v =>
    cases hnewer : newerThan installed c.1 v with
    | false => simp [Option.filter, hnewer, Best.of]
    | true =>
      cases found with
      | none => simp [Option.filter, hnewer, Best.of, keepMax]
      | some n =>
        by_cases hlt : n.2.2.precedence < v.precedence <;>
          simp [Option.filter, hnewer, Best.of, keepMax, Named.key, hlt]

/-- What the loops find. -/
lemma foldl_consider (installed : Version) (cs : List Candidate) (found : Option Named) (saw : Bool) :
    cs.foldl (fun best c => best.consider (some installed) c.1 c.2) (Best.of found saw) =
      Best.of ((newerByName installed cs).foldl (keepMax Named.key) found) (saw || !cs.isEmpty) := by
  induction cs generalizing found saw with
  | nil => simp [newerByName]
  | cons c cs ih =>
    have hsplit : newerByName installed (c :: cs) =
        newerByName installed [c] ++ newerByName installed cs := by
      rw [← List.singleton_append, newerByName, List.filterMap_append]
      rfl
    rw [List.foldl_cons, Best.consider_of, ih, hsplit, List.foldl_append]
    simp

/-- **What is offered** over an installed version: the first of the greatest candidates that are newer
by their names. -/
theorem matchingReleaseAsset_eq (releases : List GithubRelease) {currentVersion : String}
    (suffixes : List String) (includePrerelease : Bool) {installed : Version}
    (hcurrent : parseSemVerVersion currentVersion = some installed) :
    let cs := candidates releases suffixes includePrerelease
    (∃ n, FirstMax Named.key (newerByName installed cs) n ∧
        matchingReleaseAsset releases currentVersion suffixes includePrerelease =
          (some n.1, some n.2.1, .available)) ∨
      newerByName installed cs = [] ∧
        matchingReleaseAsset releases currentVersion suffixes includePrerelease =
          (none, none, if cs = [] then .noCompatible else .current) := by
  intro cs
  have hfold := foldl_candidates (fun best => Best.consider (some installed) best) releases suffixes
    includePrerelease {}
  have hbest := foldl_consider installed cs none false
  rw [matchingReleaseAsset]
  simp only [hcurrent]
  rw [hfold]
  change List.foldl _ ({} : Best) cs = _ at hbest
  rw [hbest]
  rcases foldl_keepMax Named.key (newerByName installed cs) with ⟨hnil, hnone⟩ | ⟨n, hsome, hn⟩
  · refine .inr ⟨hnil, ?_⟩
    rw [hnone]
    by_cases hcs : cs = [] <;> simp [Best.of, hcs]
  · refine .inl ⟨n, hn, ?_⟩
    rw [hsome]
    simp [Best.of]

/-! ### Newer by the tag -/

/-- A release is newer than the installed version: its tag is greater, where a stable release over an
installed prerelease has to be greater than its numbers. -/
def NewerByTag (installed : Version) (release : GithubRelease) : Prop :=
  ∃ v ∈ parseSemVerVersion release.tagName,
    if installed.prerelease ≠ "" ∧ release.prerelease = false then
      (coreVersion installed).precedence < v.precedence
    else installed.precedence < v.precedence

/-- The tag of a release is not greater than that of another. -/
def TagLE (release release' : GithubRelease) : Prop :=
  ∀ v ∈ parseSemVerVersion release.tagName, ∀ v' ∈ parseSemVerVersion release'.tagName,
    v.precedence ≤ v'.precedence

/-- The version of a tag is the one after `proxor-`. -/
lemma parseSemVerVersion_tag (version : String) :
    parseSemVerVersion ("proxor-" ++ version) = parseSemVerVersion version := by
  have hdrop : (("proxor-" ++ version).toList.dropWhile fun c => !c.isDigit) =
      version.toList.dropWhile fun c => !c.isDigit := by
    rw [String.toList_append]
    rfl
  rw [parseSemVerVersion, parseSemVerVersion, normalizeSemVer, normalizeSemVer, findSemVer,
    findSemVer, hdrop]

section Selection

variable (releases : List GithubRelease) (currentVersion : String) (suffixes : List String)
  (includePrerelease : Bool) (installed : Version)

/-- The newest release is offered. -/
structure SelectsNewest : Prop where
  /-- Something is offered exactly if a candidate is newer. -/
  available : (matchingReleaseAsset releases currentVersion suffixes includePrerelease).2.2 =
      .available ↔
    ∃ c ∈ candidates releases suffixes includePrerelease, NewerByTag installed c.1
  /-- What is offered is newer, and no newer candidate has a greater tag. -/
  newest : ∀ release asset,
    matchingReleaseAsset releases currentVersion suffixes includePrerelease =
      (some release, some asset, .available) →
    (release, asset) ∈ candidates releases suffixes includePrerelease ∧
      NewerByTag installed release ∧
      ∀ c ∈ candidates releases suffixes includePrerelease, NewerByTag installed c.1 →
        TagLE c.1 release
  /-- Without a newer candidate the installed version is current. -/
  current : candidates releases suffixes includePrerelease ≠ [] →
    (¬ ∃ c ∈ candidates releases suffixes includePrerelease, NewerByTag installed c.1) →
    matchingReleaseAsset releases currentVersion suffixes includePrerelease = (none, none, .current)

/-- The names single out a release that is newest by its tag. -/
structure NamesAgree : Prop where
  /-- Where no candidate is newer by its name, none is by its tag. -/
  none_newer : newerByName installed (candidates releases suffixes includePrerelease) = [] →
    ∀ c ∈ candidates releases suffixes includePrerelease, ¬ NewerByTag installed c.1
  /-- The first of the greatest names is newer by its tag, and no newer candidate has a greater
  tag. -/
  greatest : ∀ n,
    FirstMax Named.key (newerByName installed (candidates releases suffixes includePrerelease)) n →
    NewerByTag installed n.1 ∧
      ∀ c ∈ candidates releases suffixes includePrerelease, NewerByTag installed c.1 →
        TagLE c.1 n.1

variable {releases currentVersion suffixes includePrerelease installed}

/-- **The newest release is offered exactly if the names agree with the tags.**

**Proof sketch.** `matchingReleaseAsset_eq` says what is offered. -/
theorem selectsNewest_iff (hcurrent : parseSemVerVersion currentVersion = some installed) :
    SelectsNewest releases currentVersion suffixes includePrerelease installed ↔
      NamesAgree releases suffixes includePrerelease installed := by
  rcases matchingReleaseAsset_eq releases suffixes includePrerelease hcurrent with ⟨n, hn, hresult⟩ | ⟨hnil, hresult⟩
  · have hmem : (n.1, n.2.1) ∈ candidates releases suffixes includePrerelease :=
      (mem_newerByName.1 hn.mem).1
    constructor
    · intro h
      refine ⟨fun hnil => absurd (hnil ▸ hn.mem) List.not_mem_nil, fun n' hn' => ?_⟩
      rw [hn'.unique hn]
      exact (h.newest n.1 n.2.1 hresult).2
    · intro h
      obtain ⟨hnewer, hgreatest⟩ := h.greatest n hn
      refine ⟨iff_of_true (by rw [hresult]) ⟨_, hmem, hnewer⟩, fun release asset hoffered => ?_,
        fun _ hnone => absurd ⟨_, hmem, hnewer⟩ hnone⟩
      rw [hresult] at hoffered
      obtain ⟨hrelease, hrest⟩ := Prod.mk.inj hoffered
      obtain ⟨hasset, -⟩ := Prod.mk.inj hrest
      rw [← Option.some.inj hrelease, ← Option.some.inj hasset]
      exact ⟨hmem, hnewer, hgreatest⟩
  · have hselection : (matchingReleaseAsset releases currentVersion suffixes includePrerelease).2.2 ≠
        .available := by
      rw [hresult]
      split_ifs <;> decide
    constructor
    · intro h
      refine ⟨fun _ c hc hnewer => hselection (h.available.2 ⟨c, hc, hnewer⟩), fun n hn => ?_⟩
      exact absurd (hnil ▸ hn.mem) List.not_mem_nil
    · intro h
      refine ⟨iff_of_false hselection fun ⟨c, hc, hnewer⟩ => h.none_newer hnil c hc hnewer,
        fun release asset hoffered => ?_, fun hcs _ => by rw [hresult, if_neg hcs]⟩
      exact absurd (congrArg (fun r => r.2.2) hoffered) hselection

/-- **The names agree for stable releases:** where no tag has a prerelease part, every name has the
numbers of its tag, and no release is a prerelease when one is installed.

**Proof sketch.** A version without a prerelease part and one with its numbers are greater than the
same versions without such a part. -/
theorem namesAgree_of_stable
    (hnumbers : ∀ c ∈ candidates releases suffixes includePrerelease,
      ∃ v w, parseSemVerVersion c.1.tagName = some v ∧ candidateVersion c.1 c.2 = some w ∧
        v.prerelease = "" ∧ v.SameNumbers w)
    (hstable : installed.prerelease = "" ∨
      ∀ c ∈ candidates releases suffixes includePrerelease, c.1.prerelease = false) :
    NamesAgree releases suffixes includePrerelease installed := by
  -- the two readings agree on what is newer
  have hnewer : ∀ c ∈ candidates releases suffixes includePrerelease, ∀ v w,
      parseSemVerVersion c.1.tagName = some v → v.SameNumbers w →
      (NewerByTag installed c.1 ↔ newerThan installed c.1 w = true) := by
    intro c hc v w hv hsame
    have hcore : (coreVersion installed).prerelease = "" := rfl
    rw [NewerByTag, newerThan, hv]
    simp only [Option.mem_some_iff, exists_eq_left', Bool.not_eq_true']
    split_ifs with hcase
    · rw [Version.greaterThan_iff, Version.lt_congr hcore hsame]
    · have hinstalled : installed.prerelease = "" := by
        by_contra hne
        exact hcase ⟨hne, hstable.resolve_left hne c hc⟩
      rw [Version.greaterThan_iff, Version.lt_congr hinstalled hsame]
  refine ⟨fun hnil c hc hnew => ?_, fun n hn => ?_⟩
  · obtain ⟨v, w, hv, hw, -, hsame⟩ := hnumbers c hc
    have hmem : (c.1, c.2, w) ∈ newerByName installed
        (candidates releases suffixes includePrerelease) :=
      mem_newerByName.2 ⟨hc, hw, (hnewer c hc v w hv hsame).1 hnew⟩
    rw [hnil] at hmem
    exact absurd hmem List.not_mem_nil
  · obtain ⟨hc, hname, hnew⟩ := mem_newerByName.1 hn.mem
    obtain ⟨v, w, hv, hw, hpre, hsame⟩ := hnumbers _ hc
    obtain rfl : w = n.2.2 := Option.some.inj (hw.symm.trans hname)
    refine ⟨(hnewer _ hc v _ hv hsame).2 hnew, fun c' hc' hnew' v₁ hv₁ v₂ hv₂ => ?_⟩
    obtain ⟨v', w', hv', hw', hpre', hsame'⟩ := hnumbers c' hc'
    obtain rfl : v' = v₁ := Option.some.inj (hv'.symm.trans hv₁)
    obtain rfl : v = v₂ := Option.some.inj (hv.symm.trans hv₂)
    have hmem : (c'.1, c'.2, w') ∈ newerByName installed
        (candidates releases suffixes includePrerelease) :=
      mem_newerByName.2 ⟨hc', hw', (hnewer c' hc' v' w' hv' hsame').1 hnew'⟩
    exact Version.le_of_sameNumbers hpre hsame' hsame (hn.le hmem)

end Selection

/-! ### Inputs -/

/-- A release with one asset for Windows. -/
def windowsRelease (version : String) (prerelease : Bool) : GithubRelease where
  tagName := "proxor-" ++ version
  prerelease := prerelease
  assets := [{ name := "proxor-" ++ version ++ "-windows64.zip" }]

/-- The installed prerelease is offered as an update of itself. -/
theorem not_selectsNewest : ¬ ∀ (releases : List GithubRelease) (currentVersion : String)
    (suffixes : List String) (includePrerelease : Bool) (installed : Version),
    parseSemVerVersion currentVersion = some installed →
    (∀ release ∈ releases, (∃ version, release.tagName = "proxor-" ++ version ∧
        (parseSemVerVersion version).isSome) ∧
      ∀ asset ∈ release.assets, ∃ platform, asset.name = release.tagName ++ "-" ++ platform) →
    SelectsNewest releases currentVersion suffixes includePrerelease installed := by
  intro h
  have hselects := h [windowsRelease "1.6-beta-1" true] "1.6-beta-1" ["windows64.zip"] true
    ⟨1, 6, 0, "beta-1", ""⟩ (by decide) ?_
  · obtain ⟨c, hc, v, hv, hless⟩ := hselects.available.1 (by decide)
    have hrelease : c.1 = windowsRelease "1.6-beta-1" true :=
      List.mem_singleton.1 (mem_candidates.1 hc).1
    have htag : parseSemVerVersion (windowsRelease "1.6-beta-1" true).tagName =
        some ⟨1, 6, 0, "beta-1", ""⟩ := by decide
    rw [hrelease] at hv hless
    rw [if_neg (by decide), ← Option.some.inj (htag.symm.trans hv)] at hless
    exact absurd hless (lt_irrefl _)
  · intro release hrelease
    rw [List.mem_singleton.1 hrelease]
    refine ⟨⟨"1.6-beta-1", rfl, by decide⟩, fun asset hasset => ⟨"windows64.zip", ?_⟩⟩
    rw [List.mem_singleton.1 hasset]
    rfl

/-- An update to a stable release is offered. -/
theorem selectsNewest_stable :
    SelectsNewest [windowsRelease "1.0.2" false, windowsRelease "1.0.4" false] "1.0.1"
      ["windows64.zip"] false ⟨1, 0, 1, "", ""⟩ := by
  refine (selectsNewest_iff (by decide)).2 (namesAgree_of_stable (fun c hc => ?_) (.inl rfl))
  have hcs : candidates [windowsRelease "1.0.2" false, windowsRelease "1.0.4" false]
      ["windows64.zip"] false = [(windowsRelease "1.0.2" false, ⟨"proxor-1.0.2-windows64.zip", ""⟩),
        (windowsRelease "1.0.4" false, ⟨"proxor-1.0.4-windows64.zip", ""⟩)] := by decide
  rw [hcs] at hc
  rcases List.mem_pair.1 hc with rfl | rfl
  · exact ⟨⟨1, 0, 2, "", ""⟩, ⟨1, 0, 2, "windows64.zip", ""⟩, by decide, by decide, rfl, rfl, rfl, rfl⟩
  · exact ⟨⟨1, 0, 4, "", ""⟩, ⟨1, 0, 4, "windows64.zip", ""⟩, by decide, by decide, rfl, rfl, rfl, rfl⟩

end Proxor.Grpc
