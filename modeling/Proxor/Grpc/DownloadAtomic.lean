import Proxor.Grpc.Download
import Proxor.Grpc.UpdateRuns

set_option relaxedAutoImplicit false
set_option autoImplicit false

/-!
# A download leaves the old file, none, or a verified one

Whatever operations fail, a download that succeeds leaves bytes with the digest that is published, and
one that fails leaves what was there before or nothing, and no part. What is published is what the
first 2²⁰ bytes of SHA256SUMS list, since no more is read.

## Main definitions

* `Proxor.Grpc.Atomic` — what is left behind.

## Main results

* `Proxor.Grpc.download_atomic` — a download is atomic.
* `Proxor.Grpc.not_download_atomic` — a digest listed after the limit is not compared.
-/

namespace Proxor.Grpc

open Resumption Resumption.Prog Bytes

/-! ### What is left behind -/

/-- Removing a file works, but for the parts that earlier downloads have left. -/
def System.RemovesWork (sys : System) : Prop := ∀ n name, sys.fails n (.remove name) = none

/-- The name of the destination. -/
def destinationName (req : DownloadReq) : String :=
  if req.downloadDir = "" then downloadedArchivePath req.updateAssetName
  else filePathBase req.updateAssetName

/-- The text of SHA256SUMS. -/
def publishedSums (req : DownloadReq) : Bytes :=
  match req.sums with
  | .ok resp => resp.body.flatten
  | .error _ => []

/-- What a download leaves behind that started from `files`, where these digests are published. -/
structure Atomic (h : Hashing) (listed : List Bytes) (files : String → Option Bytes)
    (destination : String) (result : DownloadResult) (d : Disk) : Prop where
  success : result.1 = .ok () → listed ≠ [] ∧ ∃ data, d.files destination = some data ∧
    ∀ digest ∈ listed, h.fold digest = h.fold (h.digest data)
  failure : ∀ e, result.1 = .error e →
    (d.files destination = files destination ∨ d.files destination = none) ∧
      ∀ part ∈ d.parts, d.files part = none

/-! ### Operations -/

section Operations

variable {sys : System} {d : Disk} {name : String}

/-- The operation leaves the files as they are. -/
def FileOp.Looks : FileOp → Prop
  | .stat _ | .probe _ | .readDir | .sync _ | .close _ | .openRead _ | .readAll _ => True
  | _ => False

/-- The same files and parts. -/
structure SameFiles (d d' : Disk) : Prop where
  files : d'.files = d.files
  parts : d'.parts = d.parts

lemma ensures_look {op : FileOp} {Q : op.Res → Disk → Prop} (hop : op.Looks)
    (hQ : ∀ r d', SameFiles d d' → Q r d') : Ensures sys.handler (perform op) d Q := by
  change Q (sys.handler op d).1 (sys.handler op d).2
  rw [System.handler]
  cases op <;> first | exact hop.elim | (split <;> exact hQ _ _ ⟨rfl, rfl⟩)

/-- A file is removed. -/
lemma ensures_remove {Q : Option String → Disk → Prop} (hwork : sys.RemovesWork)
    (hQ : ∀ d', d'.files = Function.update d.files name none → d'.parts = d.parts → Q none d') :
    Ensures sys.handler (FileAct.remove name) d Q := by
  change Q (sys.handler (.remove name) d).1 (sys.handler (.remove name) d).2
  rw [System.handler, hwork]
  exact hQ _ rfl rfl

/-- A part that was left is removed, or it stays. -/
lemma ensures_removeStale {Q : Option String → Disk → Prop}
    (hQ : ∀ r d', (∀ other, other ≠ name → d'.files other = d.files other) → d'.parts = d.parts →
      Q r d') : Ensures sys.handler (FileAct.removeStale name) d Q := by
  change Q (sys.handler (.removeStale name) d).1 (sys.handler (.removeStale name) d).2
  rw [System.handler]
  split
  · exact hQ _ _ (fun other hother => Function.update_of_ne hother _ _) rfl
  · exact hQ _ _ (fun _ _ => rfl) rfl

/-- A new part is created, with a name that no file has. -/
lemma ensures_createTemp {base : String} {Q : Except String String → Disk → Prop}
    (herror : ∀ e d', SameFiles d d' → Q (.error e) d')
    (hok : ∀ random d', d.files (base ++ "." ++ random ++ ".part") = none →
      d'.files = Function.update d.files (base ++ "." ++ random ++ ".part") (some []) →
      d'.parts = d.parts ++ [base ++ "." ++ random ++ ".part"] →
      Q (.ok (base ++ "." ++ random ++ ".part")) d') :
    Ensures sys.handler (FileAct.createTemp base) d Q := by
  change Q (sys.handler (.createTemp base) d).1 (sys.handler (.createTemp base) d).2
  rw [System.handler]
  split
  · rw [System.perform]
    dsimp only
    split_ifs with hexists
    · exact herror _ _ ⟨rfl, rfl⟩
    · exact hok _ _ (Option.not_isSome_iff_eq_none.1 hexists) rfl rfl
  · exact herror _ _ ⟨rfl, rfl⟩

/-- Data is appended to a file: all of it, or a part and then an error. -/
lemma ensures_write {data before : Bytes} {Q : ℕ × Option String → Disk → Prop}
    (hbefore : d.files name = some before)
    (hQ : ∀ r part d', d'.files = Function.update d.files name (some (before ++ part)) →
      d'.parts = d.parts → (r.2 = none → part = data) → Q r d') :
    Ensures sys.handler (FileAct.write name data) d Q := by
  change Q (sys.handler (.write name data) d).1 (sys.handler (.write name data) d).2
  rw [System.handler]
  split
  · refine hQ _ data _ ?_ rfl fun _ => rfl
    simp only [System.perform, Disk.put, hbefore, Option.map_some]
  · refine hQ _ (data.take (sys.amount (d.clock + 1))) _ ?_ rfl fun h => ?_
    · simp only [System.failed, Disk.put, hbefore, Option.map_some]
    · cases h

/-- A file takes the place of another, or both stay. -/
lemma ensures_rename {src dst : String} {data : Bytes} {Q : Option String → Disk → Prop}
    (hsrc : d.files src = some data)
    (hmoved : ∀ d', d'.files = Function.update (Function.update d.files src none) dst (some data) →
      d'.parts = d.parts → Q none d')
    (hfailed : ∀ e d', SameFiles d d' → Q (some e) d') :
    Ensures sys.handler (FileAct.rename src dst) d Q := by
  change Q (sys.handler (.rename src dst) d).1 (sys.handler (.rename src dst) d).2
  rw [System.handler]
  split
  · rw [System.perform]
    dsimp only
    rw [hsrc]
    exact hmoved _ rfl rfl
  · exact hfailed _ _ ⟨rfl, rfl⟩

/-- A file is emptied or created, or it stays. -/
lemma ensures_openTruncate {Q : Option String → Disk → Prop}
    (hopen : ∀ d', d'.files = Function.update d.files name (some []) → d'.parts = d.parts → Q none d')
    (hfailed : ∀ e d', SameFiles d d' → Q (some e) d') :
    Ensures sys.handler (FileAct.openTruncate name) d Q := by
  change Q (sys.handler (.openTruncate name) d).1 (sys.handler (.openTruncate name) d).2
  rw [System.handler]
  split
  · exact hopen _ rfl rfl
  · exact hfailed _ _ ⟨rfl, rfl⟩

end Operations

/-! ### Before the part file -/

section Steps

variable {sys : System} {d : Disk}

/-- The destination has its name, and nothing has changed. -/
lemma ensures_downloadDestination {downloadDir assetName : String}
    {Q : Except String (String × String) → Disk → Prop}
    (herror : ∀ e d', SameFiles d d' → Q (.error e) d')
    (hok : ∀ dir name d', (name = if downloadDir = "" then downloadedArchivePath assetName
        else filePathBase assetName) → SameFiles d d' → Q (.ok (dir, name)) d') :
    Ensures sys.handler (downloadDestination downloadDir assetName) d Q := by
  rw [downloadDestination]
  split_ifs with hdir
  · exact hok _ _ d (if_pos hdir).symm ⟨rfl, rfl⟩
  · rw [bind_eq, ensures_bind]
    refine ensures_look trivial fun r d₁ hsame => ?_
    rcases r with e | isDir
    · exact herror _ _ hsame
    · cases isDir with
      | false => exact herror _ _ hsame
      | true =>
        dsimp only
        rw [bind_eq, ensures_bind]
        refine ensures_look trivial fun r d₂ hsame' => ?_
        have hsame₂ : SameFiles d d₂ :=
          ⟨hsame'.files.trans hsame.files, hsame'.parts.trans hsame.parts⟩
        rcases r with _ | e
        · exact hok _ _ d₂ (if_neg hdir).symm hsame₂
        · exact herror _ _ hsame₂

/-- A file that is not a part of an earlier download stays. -/
lemma ensures_removeParts {entries : List (String × Bool)} {name : String}
    (hname : ∀ entry ∈ entries, entry.1 ≠ name) {Q : Unit → Disk → Prop}
    (hQ : ∀ d', d'.files name = d.files name → d'.parts = d.parts → Q () d') :
    Ensures sys.handler (removeParts entries) d Q := by
  induction entries generalizing d with
  | nil => exact hQ d rfl rfl
  | cons entry entries ih =>
    rw [removeParts, bind_eq, ensures_bind]
    refine ensures_removeStale fun r d₁ hfiles hparts => ?_
    refine ih (fun other hother => hname other (List.mem_cons_of_mem _ hother)) fun d₂ hfile hpart => ?_
    refine hQ d₂ (hfile.trans (hfiles name ?_)) (hpart.trans hparts)
    exact (hname entry List.mem_cons_self).symm

/-- The destination is not a part of an earlier download. -/
lemma ne_of_isStalePart {base : String} {entry : String × Bool}
    (h : isStalePart base entry = true) : entry.1 ≠ base := by
  intro heq
  obtain ⟨-, hpart⟩ := Bool.and_eq_true_iff.1 h
  rw [heq] at hpart
  rcases Bool.or_eq_true_iff.1 hpart with hpart | hpart
  · have hlength := congrArg String.length (of_decide_eq_true hpart)
    rw [String.length_append] at hlength
    have : (".part" : String).length = 5 := rfl
    omega
  · obtain ⟨hstarts, -⟩ := Bool.and_eq_true_iff.1 hpart
    have hlength := (List.isPrefixOf_iff_prefix.1 hstarts).length_le
    rw [String.toList_append, List.length_append] at hlength
    have : (".".toList).length = 1 := rfl
    omega

/-- What earlier downloads have left is removed, and the destination stays. -/
lemma ensures_removeStaleDownloads {base : String} {Q : Unit → Disk → Prop}
    (hQ : ∀ d', d'.files base = d.files base → d'.parts = d.parts → Q () d') :
    Ensures sys.handler (removeStaleDownloads base) d Q := by
  rw [removeStaleDownloads, bind_eq, ensures_bind]
  refine ensures_look trivial fun r d₁ hsame => ?_
  rcases r with e | entries
  · exact hQ d₁ (congrFun hsame.files base) hsame.parts
  · refine ensures_removeParts (fun entry hentry => ?_) fun d₂ hfile hparts =>
      hQ d₂ (hfile.trans (congrFun hsame.files base)) (hparts.trans hsame.parts)
    exact ne_of_isStalePart (List.mem_filter.1 hentry).2

end Steps

/-! ### The move -/

section Move

variable {sys : System} {d : Disk} {src dst : String} {data : Bytes}

/-- A file is renamed at one of the attempts, or both stay. -/
lemma ensures_renameLoop {Q : Option String → Disk → Prop} (n : ℕ) (hsrc : d.files src = some data)
    (hmoved : ∀ d', d'.files = Function.update (Function.update d.files src none) dst (some data) →
      d'.parts = d.parts → Q none d')
    (hfailed : ∀ e d', SameFiles d d' → Q (some e) d') :
    Ensures sys.handler (renameLoop src dst n) d Q := by
  induction n generalizing d with
  | zero => exact ensures_rename hsrc hmoved hfailed
  | succ n ih =>
    rw [renameLoop, bind_eq, ensures_bind]
    refine ensures_rename hsrc (fun d₁ hfiles hparts => hmoved d₁ hfiles hparts) fun e d₁ hsame => ?_
    refine ih (hsame.files ▸ hsrc) (fun d₂ hfiles hparts => hmoved d₂ ?_ (hparts.trans hsame.parts))
      fun e' d₂ hsame' => hfailed e' d₂ ⟨hsame'.files.trans hsame.files, hsame'.parts.trans hsame.parts⟩
    rw [hfiles, hsame.files]

/-- What is copied has the digest that is wanted, if the copy succeeds; only the destination is
written. -/
lemma ensures_copyOpen {h : Hashing} {want : Bytes} {Q : Option String → Disk → Prop}
    (hdst : d.files dst = some [])
    (hQ : ∀ r out d', d'.files = Function.update d.files dst (some out) → d'.parts = d.parts →
      (r = none → h.fold (h.digest out) = h.fold want) → Q r d') :
    Ensures sys.handler (copyOpen h src dst want) d Q := by
  rw [copyOpen, bind_eq, ensures_bind]
  refine ensures_look trivial fun r d₁ hsame => ?_
  obtain ⟨data, readError⟩ := r
  dsimp only
  rw [bind_eq, ensures_bind]
  refine ensures_write (hsame.files ▸ hdst) fun w out d₂ hfiles hparts hall => ?_
  rw [List.nil_append, hsame.files] at hfiles
  rw [hsame.parts] at hparts
  obtain ⟨n, writeError⟩ := w
  dsimp only at hall ⊢
  cases herror : writeError.or readError with
  | some e => exact hQ _ out _ hfiles hparts (by rintro ⟨⟩)
  | none =>
    obtain ⟨hwrite, -⟩ := Option.or_eq_none_iff.1 herror
    obtain rfl := hall hwrite
    dsimp only
    rw [bind_eq, ensures_bind]
    refine ensures_look trivial fun r d₃ hsame₃ => ?_
    have hfiles₃ := hsame₃.files.trans hfiles
    have hparts₃ := hsame₃.parts.trans hparts
    rcases r with _ | e
    · dsimp only
      rw [bind_eq, ensures_bind]
      refine ensures_look trivial fun r d₄ hsame₄ => ?_
      have hfiles₄ := hsame₄.files.trans hfiles₃
      have hparts₄ := hsame₄.parts.trans hparts₃
      rcases r with _ | e
      · dsimp only
        split_ifs with hequal
        · exact hQ _ out _ hfiles₄ hparts₄ fun _ => of_decide_eq_true hequal
        · exact hQ _ out _ hfiles₄ hparts₄ (by rintro ⟨⟩)
      · exact hQ _ out _ hfiles₄ hparts₄ (by rintro ⟨⟩)
    · exact hQ _ out _ hfiles₃ hparts₃ (by rintro ⟨⟩)

/-- A verified copy, or what was there before, or nothing. -/
lemma ensures_copyVerified {h : Hashing} {want : Bytes} {Q : Option String → Disk → Prop}
    (hwork : sys.RemovesWork)
    (hcopied : ∀ out d', d'.files = Function.update d.files dst (some out) → d'.parts = d.parts →
      h.fold (h.digest out) = h.fold want → Q none d')
    (hfailed : ∀ e d', d'.files = d.files ∨ d'.files = Function.update d.files dst none →
      d'.parts = d.parts → Q (some e) d') :
    Ensures sys.handler (copyVerified h src dst want) d Q := by
  rw [copyVerified, bind_eq, ensures_bind]
  refine ensures_look trivial fun r d₁ hsame => ?_
  rcases r with _ | e
  · dsimp only
    rw [bind_eq, ensures_bind]
    refine ensures_openTruncate (fun d₂ hfiles hparts => ?_) fun e d₂ hsame₂ =>
      hfailed e d₂ (.inl (hsame₂.files.trans hsame.files)) (hsame₂.parts.trans hsame.parts)
    rw [hsame.files] at hfiles
    rw [hsame.parts] at hparts
    dsimp only
    rw [bind_eq, ensures_bind]
    have hempty : d₂.files dst = some [] := by rw [hfiles, Function.update_self]
    refine ensures_copyOpen hempty fun r out d₃ hfiles₃ hparts₃ hdigest => ?_
    rw [hfiles, Function.update_idem] at hfiles₃
    cases r with
    | none => exact hcopied out d₃ hfiles₃ (hparts₃.trans hparts) (hdigest rfl)
    | some e =>
      dsimp only
      rw [bind_eq, ensures_bind]
      refine ensures_look trivial fun r d₄ hsame₄ => ?_
      rw [bind_eq, ensures_bind]
      refine ensures_remove hwork fun d₅ hfiles₅ hparts₅ => ?_
      rw [hsame₄.files, hfiles₃, Function.update_idem] at hfiles₅
      exact hfailed e d₅ (.inr hfiles₅) (hparts₅.trans (hsame₄.parts.trans (hparts₃.trans hparts)))
  · exact hfailed _ d₁ (.inl hsame.files) hsame.parts

/-- A verified file is moved, or the destination is as before or gone. -/
lemma ensures_moveVerifiedDownload {h : Hashing} {want : Bytes} {Q : Option String → Disk → Prop}
    (hwork : sys.RemovesWork) (hsrc : d.files src = some data) (hne : src ≠ dst)
    (hverified : h.fold (h.digest data) = h.fold want)
    (hmoved : ∀ out d', d'.files dst = some out → h.fold (h.digest out) = h.fold want → Q none d')
    (hfailed : ∀ e d', (d'.files dst = d.files dst ∨ d'.files dst = none) → d'.parts = d.parts →
      Q (some e) d') :
    Ensures sys.handler (moveVerifiedDownload h src dst want) d Q := by
  rw [moveVerifiedDownload, bind_eq, ensures_bind]
  refine ensures_renameLoop _ hsrc (fun d₁ hfiles _ => ?_) fun e d₁ hsame => ?_
  · refine hmoved data d₁ ?_ hverified
    rw [hfiles, Function.update_self]
  · dsimp only
    rw [bind_eq, ensures_bind]
    refine ensures_copyVerified hwork (fun out d₂ hfiles _ hdigest => ?_) fun e d₂ hfiles hparts => ?_
    · dsimp only
      rw [bind_eq, ensures_bind]
      refine ensures_remove hwork fun d₃ hfiles₃ _ => hmoved out d₃ ?_ hdigest
      rw [hfiles₃, Function.update_of_ne hne.symm, hfiles, Function.update_self]
    · refine hfailed _ d₂ ?_ (hparts.trans hsame.parts)
      rcases hfiles with hfiles | hfiles
      · exact .inl (congrFun (hfiles.trans hsame.files) dst)
      · rw [hfiles, Function.update_self]
        exact .inr rfl

end Move

/-! ### The download -/

section Download

variable {sys : System} {d : Disk}

/-- The body is written: all of it, or a part and then an error. -/
lemma ensures_writeBody {name : String} {before : Bytes} {body : List Bytes}
    {Q : ℕ × Option String → Disk → Prop} (hbefore : d.files name = some before)
    (hQ : ∀ r part d', d'.files = Function.update d.files name (some (before ++ part)) →
      d'.parts = d.parts → (r.2 = none → part = body.flatten) → Q r d') :
    Ensures sys.handler (writeBody name body) d Q := by
  induction body generalizing d before Q with
  | nil =>
    refine hQ _ [] d ?_ rfl fun _ => rfl
    rw [List.append_nil, ← hbefore, Function.update_eq_self]
  | cons piece body ih =>
    rw [writeBody, bind_eq, ensures_bind]
    refine ensures_write hbefore fun r part d₁ hfiles hparts hall => ?_
    obtain ⟨n, _ | e⟩ := r
    · obtain rfl := hall rfl
      dsimp only
      rw [bind_eq, ensures_bind]
      have hfile : d₁.files name = some (before ++ part) := by rw [hfiles, Function.update_self]
      refine ih hfile fun r more d₂ hfiles₂ hparts₂ hall₂ => ?_
      rw [hfiles, Function.update_idem, List.append_assoc] at hfiles₂
      refine hQ _ (part ++ more) d₂ hfiles₂ (hparts₂.trans hparts) fun hnone => ?_
      rw [hall₂ hnone, List.flatten_cons]
    · exact hQ _ part d₁ hfiles hparts (by rintro ⟨⟩)

/-- The text of SHA256SUMS that is compared is what is read of it. -/
lemma eq_take_of_fetchSums {req : DownloadReq} {text : Bytes}
    (h : fetchSums req.updateChecksumsURL req.sums = .ok text) :
    text = (publishedSums req).take sumsLimit := by
  rw [fetchSums] at h
  split_ifs at h
  obtain ⟨resp, hresp, h⟩ := Text.bind_eq_ok.1 h
  obtain ⟨text', hlimited, h⟩ := Text.bind_eq_ok.1 h
  split_ifs at h
  obtain rfl := Except.ok.inj h
  rw [publishedSums, hresp]
  rw [Response.limited] at hlimited
  split at hlimited
  · split_ifs at hlimited
    exact (Except.ok.inj hlimited).symm
  · exact (Except.ok.inj hlimited).symm

variable {h : Hashing} {req : DownloadReq} {files : String → Option Bytes}

/-- A failure removes the part. -/
lemma ensures_fail {listed : List Bytes} {destination tempPath e : String}
    {progress : DownloadProgress} (hwork : sys.RemovesWork) (hne : tempPath ≠ destination)
    (hdestination : d.files destination = files destination ∨ d.files destination = none)
    (hparts : d.parts = [tempPath]) :
    Ensures sys.handler (fail (some tempPath) progress e) d (Atomic h listed files destination) := by
  rw [fail, bind_eq, ensures_bind]
  refine ensures_remove hwork fun d' hfiles hparts' => ?_
  rw [pure_eq, ensures_ret]
  refine ⟨by rintro ⟨⟩, fun e' _ => ⟨?_, fun part hpart => ?_⟩⟩
  · rw [hfiles, Function.update_of_ne hne.symm]
    exact hdestination
  · rw [hparts', hparts] at hpart
    rw [List.mem_singleton.1 hpart, hfiles, Function.update_self]

/-- A failure without a part. -/
lemma atomic_of_sameFiles {listed : List Bytes} {destination e : String}
    {progress : DownloadProgress} (hdestination : d.files destination = files destination)
    (hparts : d.parts = []) :
    Atomic h listed files destination (.error e, progress) d :=
  ⟨by rintro ⟨⟩, fun _ _ => ⟨.inl hdestination, fun _ hpart => absurd (hparts ▸ hpart) List.not_mem_nil⟩⟩

/-- The part of a download in which the part file is there. -/
lemma ensures_finishDownload {destination tempPath : String} {resp : Response}
    (hwork : sys.RemovesWork) (hne : tempPath ≠ destination)
    (hdestination : d.files destination = files destination)
    (htemp : d.files tempPath = some []) (hparts : d.parts = [tempPath]) :
    Ensures sys.handler (finishDownload h req destination tempPath resp) d
      (Atomic h (listedDigests ((publishedSums req).take sumsLimit) req.updateAssetName) files
        destination) := by
  rw [finishDownload, bind_eq, ensures_bind]
  refine ensures_writeBody htemp fun w part d₁ hfiles₁ hparts₁ hall => ?_
  rw [List.nil_append] at hfiles₁
  have hkept₁ : d₁.files destination = files destination := by
    rw [hfiles₁, Function.update_of_ne hne.symm, hdestination]
  have htemp₁ : d₁.files tempPath = some part := by rw [hfiles₁, Function.update_self]
  rw [hparts] at hparts₁
  obtain ⟨received, writeError⟩ := w
  dsimp only at hall ⊢
  cases herror : writeError.or resp.bodyError with
  | some e => exact ensures_fail hwork hne (.inl hkept₁) hparts₁
  | none =>
    obtain ⟨hwrite, -⟩ := Option.or_eq_none_iff.1 herror
    obtain rfl := hall hwrite
    dsimp only
    rw [bind_eq, ensures_bind]
    refine ensures_look trivial fun r d₂ hsame₂ => ?_
    rcases r with _ | e
    · dsimp only
      rw [bind_eq, ensures_bind]
      refine ensures_look trivial fun r d₃ hsame₃ => ?_
      have hfiles₃ : d₃.files = d₁.files := hsame₃.files.trans hsame₂.files
      have hkept₃ : d₃.files destination = files destination := by rw [hfiles₃, hkept₁]
      have hparts₃ : d₃.parts = [tempPath] := hsame₃.parts.trans (hsame₂.parts.trans hparts₁)
      rcases r with _ | e
      · dsimp only
        split
        · exact ensures_fail hwork hne (.inl hkept₃) hparts₃
        · rename_i sums hsums
          split
          · exact ensures_fail hwork hne (.inl hkept₃) hparts₃
          · rename_i hverified
            split
            · exact ensures_fail hwork hne (.inl hkept₃) hparts₃
            · rename_i want hwant
              rw [verifyAssetChecksum, hwant] at hverified
              dsimp only at hverified
              split_ifs at hverified with hequal
              obtain ⟨hlisted, hsame⟩ := checksumForAsset_eq_ok hwant
              rw [eq_take_of_fetchSums hsums] at hlisted hsame
              rw [bind_eq, ensures_bind]
              have htemp₃ : d₃.files tempPath = some resp.body.flatten := by rw [hfiles₃, htemp₁]
              refine ensures_moveVerifiedDownload hwork htemp₃ hne (of_decide_eq_true hequal).symm
                (fun out d₄ hout hdigest => ?_) fun e d₄ hleft hparts₄ => ?_
              · exact ⟨fun _ => ⟨List.ne_nil_of_mem hlisted, out, hout, fun digest hdigest' =>
                  (hsame digest hdigest').trans hdigest.symm⟩, by rintro e ⟨⟩⟩
              · refine ensures_fail hwork hne ?_ (hparts₄.trans hparts₃)
                rw [← hkept₃]
                exact hleft
      · exact ensures_fail hwork hne (.inl hkept₃) hparts₃
    · refine ensures_fail hwork hne (.inl ?_) (hsame₂.parts.trans hparts₁)
      rw [hsame₂.files, hkept₁]

/-- The name of a part is not that of the destination. -/
lemma part_ne (base random : String) : base ++ "." ++ random ++ ".part" ≠ base := by
  intro heq
  have hlength := congrArg String.length heq
  simp only [String.length_append] at hlength
  have : (".part" : String).length = 5 := rfl
  omega

end Download

/-- **A download is atomic.** Whatever operations fail, it leaves bytes with all digests that the
first 2²⁰ bytes of SHA256SUMS list for the asset, of which there is one, or the old file or none.

**Proof sketch.** Operation by operation: until the move only the part is written, and what is moved
or copied has been compared with the digest that is listed. -/
theorem download_atomic (h : Hashing) (host : Host) (req : DownloadReq) (sys : System)
    (hwork : sys.RemovesWork) (files : String → Option Bytes) :
    Ensures sys.handler (download h host req) { files := files }
      (Atomic h (listedDigests ((publishedSums req).take sumsLimit) req.updateAssetName) files
        (destinationName req)) := by
  rw [download]
  split_ifs with hrefused hqueued
  · exact atomic_of_sameFiles rfl rfl
  · exact atomic_of_sameFiles rfl rfl
  · rw [bind_eq, ensures_bind]
    refine ensures_downloadDestination (fun e d hsame => ?_) fun dir destination d hname hsame => ?_
    · exact atomic_of_sameFiles (congrFun hsame.files _) hsame.parts
    · rw [show destinationName req = destination from hname.symm]
      dsimp only
      rw [bind_eq, ensures_bind]
      refine ensures_removeStaleDownloads fun d₁ hfile hparts => ?_
      have hkept : d₁.files destination = files destination :=
        hfile.trans (congrFun hsame.files _)
      have hnone : d₁.parts = [] := hparts.trans hsame.parts
      split
      · exact atomic_of_sameFiles hkept hnone
      · split_ifs with hstatus
        · exact atomic_of_sameFiles hkept hnone
        · rw [bind_eq, ensures_bind]
          refine ensures_createTemp (fun e d₂ hsame₂ => ?_) fun random d₂ hnew hfiles₂ hparts₂ => ?_
          · exact atomic_of_sameFiles ((congrFun hsame₂.files _).trans hkept)
              (hsame₂.parts.trans hnone)
          · refine ensures_finishDownload hwork (part_ne _ _) ?_ ?_ ?_
            · refine Eq.trans ?_ hkept
              rw [hfiles₂]
              exact Function.update_of_ne (part_ne _ _).symm _ _
            · rw [hfiles₂]
              exact Function.update_self _ _ _
            · rw [hparts₂, hnone]
              rfl

/-! ### Inputs -/

/-- The SHA-256 of the empty file. -/
def emptyDigest : Bytes :=
  [0xe3, 0xb0, 0xc4, 0x42, 0x98, 0xfc, 0x1c, 0x14, 0x9a, 0xfb, 0xf4, 0xc8, 0x99, 0x6f, 0xb9, 0x24,
    0x27, 0xae, 0x41, 0xe4, 0x64, 0x9b, 0x93, 0x4c, 0xa4, 0x95, 0x99, 0x1b, 0x78, 0x52, 0xb8, 0x55]

/-- Digests of empty files, compared without the case of ASCII letters. -/
def emptyHashing : Hashing where
  sha256 _ := emptyDigest
  fold := List.map fun b => if 65 ≤ b ∧ b ≤ 90 then b + 32 else b

/-- Nothing fails, and the directory is empty. -/
def workingSystem : System where
  fails _ _ := none
  amount _ := 0
  random _ := "1"
  isDir _ := true
  entries _ := []

/-- An empty asset is queued, with this text as its SHA256SUMS. -/
def emptyAsset (sums : Bytes) : DownloadReq where
  channel := ""
  downloadDir := ""
  updateDownloadURL := "https://x/new.zip"
  updateAssetName := "new.zip"
  updateChecksumsURL := "https://x/SHA256SUMS"
  asset := .ok { status := 200, body := [] }
  sums := .ok { status := 200, body := [sums] }

/-- The line that lists the empty asset. -/
def emptyLine : Bytes := hexEncode emptyDigest ++ Bytes.ofString "  new.zip"

/-- The empty asset is downloaded if its digest is found. -/
lemma run_emptyAsset {sums : Bytes}
    (hfound : checksumForAsset emptyHashing (sums.take sumsLimit) "new.zip" =
      .ok (hexEncode emptyDigest)) :
    ((download emptyHashing windowsHost (emptyAsset sums)).run workingSystem.handler
      { files := fun _ => none }).1.1 = .ok () := by
  have hlimited : ({ status := 200, body := [sums] } : Response).limited =
      .ok (sums.take sumsLimit) := by
    rw [Response.limited, List.flatten_singleton]
  have hfetch : fetchSums "https://x/SHA256SUMS" (.ok { status := 200, body := [sums] }) =
      .ok (sums.take sumsLimit) := by
    rw [fetchSums, if_neg (by decide)]
    have hstatus : ¬ (200 < 200 ∨ 300 ≤ 200) := by decide
    exact Text.bind_eq_ok.2 ⟨_, rfl, Text.bind_eq_ok.2 ⟨_, hlimited, if_neg hstatus⟩⟩
  have hverified : verifyAssetChecksum emptyHashing (sums.take sumsLimit) "new.zip"
      (emptyHashing.digest []) = none := by
    rw [verifyAssetChecksum, hfound]
    decide
  simp only [download, finishDownload, emptyAsset, hfetch, List.flatten_nil, hverified, hfound]
  decide

/-- A download of the empty asset succeeds, and is atomic. -/
theorem download_atomic_empty :
    ((download emptyHashing windowsHost (emptyAsset emptyLine)).run workingSystem.handler
        { files := fun _ => none }).1.1 = .ok () ∧
      Ensures workingSystem.handler (download emptyHashing windowsHost (emptyAsset emptyLine))
        { files := fun _ => none }
        (Atomic emptyHashing
          (listedDigests ((publishedSums (emptyAsset emptyLine)).take sumsLimit) "new.zip")
          (fun _ => none) (destinationName (emptyAsset emptyLine))) :=
  ⟨by decide, download_atomic emptyHashing windowsHost (emptyAsset emptyLine) workingSystem
    (fun _ _ => rfl) _⟩

/-- Another digest for the empty asset. -/
def otherLine : Bytes := Bytes.ofString "00  new.zip"

/-- SHA256SUMS with the other digest behind the limit. -/
def longSums : Bytes := emptyLine ++ List.replicate (2 ^ 20) 10 ++ otherLine

/-- What is read of it has the first line only. -/
lemma take_longSums :
    longSums.take sumsLimit = emptyLine ++ List.replicate (2 ^ 20 - emptyLine.length) 10 := by
  have hlimit : sumsLimit = 2 ^ 20 := by decide
  have hle : 2 ^ 20 ≤ (emptyLine ++ List.replicate (2 ^ 20) (10 : UInt8)).length := by
    rw [List.length_append, List.length_replicate]
    omega
  rw [longSums, hlimit, List.take_append_of_le_length hle, List.take_append, List.take_replicate,
    List.take_of_length_le (by decide), Nat.min_eq_left (Nat.sub_le _ _)]

/-- The last of the newlines ends a line. -/
lemma append_newlines (l m : Bytes) (n : ℕ) :
    l ++ List.replicate (n + 1) 10 ++ m = (l ++ List.replicate n 10) ++ 10 :: m := by
  rw [List.replicate_succ', ← List.append_assoc, List.append_assoc _ [10], List.singleton_append]

/-- The digest behind the limit is listed. -/
lemma mem_listedDigests_longSums : Bytes.ofString "00" ∈ listedDigests longSums "new.zip" := by
  have hpow : 2 ^ 20 = (2 ^ 20 - 1) + 1 := (Nat.sub_add_cancel Nat.one_le_two_pow).symm
  have hsplit : longSums = (emptyLine ++ List.replicate (2 ^ 20 - 1) 10) ++ 10 :: otherLine := by
    rw [longSums, hpow]
    exact append_newlines _ _ _
  have hline : otherLine ∈ lines longSums := by
    rw [lines, hsplit, List.splitOn_append_cons_self]
    exact List.mem_append_right _ (by decide)
  have hentry : checksumLine otherLine = some (Bytes.ofString "00", Bytes.ofString "new.zip") := by
    decide
  exact List.mem_filterMap.2 ⟨_, List.mem_filterMap.2 ⟨_, hline, hentry⟩, if_pos rfl⟩

/-- A download of the empty asset succeeds although another digest is listed for it. -/
theorem not_download_atomic : ¬ ∀ (h : Hashing) (host : Host) (req : DownloadReq) (sys : System),
    sys.RemovesWork → ∀ files : String → Option Bytes,
    Ensures sys.handler (download h host req) { files := files }
      (Atomic h (listedDigests (publishedSums req) req.updateAssetName) files
        (destinationName req)) := by
  intro hatomic
  have hfound : checksumForAsset emptyHashing (longSums.take sumsLimit) "new.zip" =
      .ok (hexEncode emptyDigest) := by
    have hlisted : listedDigests (longSums.take sumsLimit) "new.zip" = [hexEncode emptyDigest] := by
      have hempty : checksumLine [] = none := by decide
      rw [take_longSums, listedDigests, Bytes.lines_append_newlines (by decide),
        List.filterMap_cons, List.filterMap_replicate_of_none hempty]
      decide
    rw [checksumForAsset, hlisted]
    decide
  have hok := run_emptyAsset hfound
  obtain ⟨hsuccess, -⟩ := hatomic emptyHashing windowsHost (emptyAsset longSums) workingSystem
    (fun _ _ => rfl) fun _ => none
  obtain ⟨-, data, -, hsame⟩ := hsuccess hok
  have hpublished : publishedSums (emptyAsset longSums) = longSums := List.flatten_singleton
  rw [hpublished] at hsame
  have hother : emptyHashing.fold (Bytes.ofString "00") =
      emptyHashing.fold (hexEncode emptyDigest) :=
    hsame _ mem_listedDigests_longSums
  exact absurd hother (by decide)

end Proxor.Grpc
