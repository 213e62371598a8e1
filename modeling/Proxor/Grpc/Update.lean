import Proxor.Grpc.UpdateVersion

set_option relaxedAutoImplicit false
set_option autoImplicit false

/-!
# Checks and downloads of updates

What `Update` does with the three globals a check leaves for a download. A check asks for the
releases and then sets or clears the globals one after the other, or leaves them; a download reads
them at eight places. The requests of the clients are handled at the same time, and no lock guards
the globals.

## Main definitions

* `Proxor.Grpc.checkOutcome`, `Proxor.Grpc.Outcome.reply`, `Proxor.Grpc.Outcome.writes` — a check.
* `Proxor.Grpc.Stage` — the places where a download reads a global.
* `Proxor.Grpc.UpdateServer.step` — one step of a check or a download.
-/

namespace Proxor.Grpc

/-! ### A check -/

/-- What does not change while the program runs: the platform and the version. -/
structure Host where
  goos : String
  goarch : String
  version : String

/-- A request to check for an update. -/
structure CheckReq where
  channel : String
  checkPreRelease : Bool

/-- What becomes of the request for the releases. -/
inductive ReleasesAnswer
  /-- It could not be made or sent. -/
  | failed (error : String)
  /-- A status, and what the body decodes to: an error or the releases. -/
  | response (status : ℕ) (body : String) (decoded : Except String (List GithubRelease))

/-- How a check ends. -/
inductive Outcome
  | failed (error : String)
  | current
  | offer (release : GithubRelease) (asset : GithubReleaseAsset)
  deriving DecidableEq

/-- `githubError`, for a body of at most 2048 bytes. -/
def githubError (status : ℕ) (body : String) : String :=
  let message := Text.trimSpace body
  if message = "" then "GitHub API request failed with status " ++ toString status
  else "GitHub API request failed with status " ++ toString status ++ ": " ++ message

/-- What a check finds. -/
def checkOutcome (host : Host) (req : CheckReq) (answer : ReleasesAnswer) : Outcome :=
  match suffixesForChannel req.channel host.goos host.goarch with
  | .error e => .failed e
  | .ok suffixes =>
    match answer with
    | .failed e => .failed e
    | .response status body decoded =>
      if status < 200 ∨ 300 ≤ status then .failed (githubError status body)
      else
        match decoded with
        | .error e => .failed e
        | .ok [] => .failed "No releases were found in Ogstra/proxor."
        | .ok releases =>
          let releases :=
            if req.channel = "arch" then releasesWithAsset releases "linux64.AppImage" else releases
          match matchingReleaseAsset releases host.version suffixes req.checkPreRelease with
          | (_, _, .current) => .current
          | (some release, some asset, .available) => .offer release asset
          | _ => .failed ("No compatible update package was found for " ++ host.goos ++ "/" ++
              host.goarch ++ " in Ogstra/proxor.")

/-- `UpdateResp`, as far as a check fills it. -/
structure UpdateResp where
  error : String := ""
  assetsName : String := ""
  downloadUrl : String := ""
  releaseUrl : String := ""
  releaseNote : String := ""
  isPreRelease : Bool := false

/-- What a check returns. -/
def Outcome.reply : Outcome → UpdateResp
  | .failed e => { error := e }
  | .current => {}
  | .offer release asset =>
    { assetsName := asset.name
      downloadUrl := asset.browserDownloadURL
      releaseUrl := release.htmlURL
      releaseNote := release.body
      isPreRelease := release.prerelease }

/-- The globals. -/
inductive Global
  | updateDownloadURL
  | updateAssetName
  | updateChecksumsURL
  deriving DecidableEq

/-- The SHA256SUMS of a release, if it has one. -/
def checksumsAsset (release : GithubRelease) : Option GithubReleaseAsset :=
  release.assets.find? fun a => a.name = "SHA256SUMS"

/-- What a check sets, in order. -/
def Outcome.writes : Outcome → List (Global × String)
  | .failed _ => []
  | .current => [(.updateDownloadURL, ""), (.updateAssetName, ""), (.updateChecksumsURL, "")]
  | .offer release asset =>
    [(.updateDownloadURL, asset.browserDownloadURL), (.updateAssetName, asset.name),
      (.updateChecksumsURL, "")] ++
    (checksumsAsset release).toList.map fun a => (.updateChecksumsURL, a.browserDownloadURL)

/-! ### A download -/

/-- `selfUpdateRefusal`. -/
def selfUpdateRefusal (goos : String) : String :=
  if goos = "darwin" then
    "Proxor on macOS is updated by Homebrew: run brew upgrade --cask proxor (or download the macOS zip from the release page)."
  else ""

/-- `macAppNoDownloadDirRefusal`. -/
def macAppNoDownloadDirRefusal : String :=
  "Proxor could not choose a folder for the update download. Download the new Proxor.app from the release page instead."

/-- `selfUpdateRefusalFor`. -/
def selfUpdateRefusalFor (goos channel downloadDir : String) : String :=
  if goos = "darwin" ∧ channel = "macos-app" then
    if downloadDir = "" then macAppNoDownloadDirRefusal else ""
  else selfUpdateRefusal goos

/-- The places where a download reads a global: is an update queued (its URL and its name), the name
for the destination, the URL to fetch, are there checksums, their URL to fetch, and the name twice
for the verification. -/
inductive Stage
  | queuedURL
  | queuedName
  | destination
  | request
  | published
  | sumsRequest
  | verify
  | want
  deriving DecidableEq

namespace Stage

/-- What is read there. -/
def global : Stage → Global
  | .queuedURL | .request => .updateDownloadURL
  | .queuedName | .destination | .verify | .want => .updateAssetName
  | .published | .sumsRequest => .updateChecksumsURL

/-- Where a download goes on from there. -/
def next : Stage → Option Stage
  | .queuedURL => some .queuedName
  | .queuedName => some .destination
  | .destination => some .request
  | .request => some .published
  | .published => some .sumsRequest
  | .sumsRequest => some .verify
  | .verify => some .want
  | .want => none

/-- An empty value ends the download there. -/
def needsValue : Stage → Bool
  | .queuedURL | .queuedName | .published => true
  | _ => false

end Stage

/-! ### The server -/

/-- The value of a global and the check that set it. -/
structure Cell where
  value : String := ""
  writer : Option ℕ := none
  deriving DecidableEq

/-- The globals with their values. -/
abbrev Cells : Type := Global → Cell

/-- What a check is at. -/
inductive Check
  /-- It asks for the releases. -/
  | asking (req : CheckReq)
  /-- It still has to set these globals. -/
  | setting (outcome : Outcome) (pending : List (Global × String))
  /-- It has returned. -/
  | ended (outcome : Outcome)

/-- A global as a download read it. -/
structure Use where
  stage : Stage
  cell : Cell
  deriving DecidableEq

/-- A download: the check that had returned last when it began, where it is, and what it has read. -/
structure Download where
  recent : Option (ℕ × Outcome)
  stage : Option Stage
  uses : List Use := []

/-- A download fetches the asset. -/
def Download.Fetched (d : Download) : Prop := ∃ u ∈ d.uses, u.stage = .request

/-- The state: the globals, the check that has returned last, and all requests. -/
structure UpdateServer where
  cells : Cells := fun _ => {}
  recent : Option (ℕ × Outcome) := none
  checks : List Check := []
  downloads : List Download := []

/-- A step. -/
inductive UpdateStep
  /-- A request to check. -/
  | check (req : CheckReq)
  /-- The answer to the request of a check. -/
  | answer (i : ℕ) (answer : ReleasesAnswer)
  /-- A check sets its next global. -/
  | set (i : ℕ)
  /-- A check returns. -/
  | finish (i : ℕ)
  /-- A request to download. -/
  | download (channel downloadDir : String)
  /-- A download reads its next global; what it does with the value may fail. -/
  | read (i : ℕ) (ok : Bool)

/-- A global is set. -/
def Cells.set (cells : Cells) (i : ℕ) (write : Global × String) : Cells :=
  Function.update cells write.1 ⟨write.2, some i⟩

/-- A download reads the global of its stage. -/
def Download.read (d : Download) (stage : Stage) (cell : Cell) (ok : Bool) : Download :=
  { d with
    stage := if ok ∧ ¬ (stage.needsValue = true ∧ cell.value = "") then stage.next else none
    uses := d.uses ++ [⟨stage, cell⟩] }

/-- One step of a request. -/
def UpdateServer.step (host : Host) (s : UpdateServer) : UpdateStep → UpdateServer
  | .check req => { s with checks := s.checks ++ [.asking req] }
  | .answer i answer =>
    match s.checks[i]? with
    | some (.asking req) =>
      let outcome := checkOutcome host req answer
      { s with checks := s.checks.set i (.setting outcome outcome.writes) }
    | _ => s
  | .set i =>
    match s.checks[i]? with
    | some (.setting outcome (write :: pending)) =>
      { s with
        cells := s.cells.set i write
        checks := s.checks.set i (.setting outcome pending) }
    | _ => s
  | .finish i =>
    match s.checks[i]? with
    | some (.setting outcome []) =>
      { s with recent := some (i, outcome), checks := s.checks.set i (.ended outcome) }
    | _ => s
  | .download channel downloadDir =>
    let stage := if selfUpdateRefusalFor host.goos channel downloadDir = "" then some .queuedURL
      else none
    { s with downloads := s.downloads ++ [{ recent := s.recent, stage := stage }] }
  | .read i ok =>
    match s.downloads[i]? with
    | some d =>
      match d.stage with
      | some stage =>
        { s with downloads := s.downloads.set i (d.read stage (s.cells stage.global) ok) }
      | none => s
    | none => s

end Proxor.Grpc
