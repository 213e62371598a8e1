import Proxor.Lib.SemVer

set_option relaxedAutoImplicit false
set_option autoImplicit false

/-!
# Which release is an update

The versions of `update.go`: what it reads out of a tag or a file name, and which asset of the
published releases it offers.

## Main definitions

* `Proxor.Grpc.normalizeSemVer`, `Proxor.Grpc.parseSemVerVersion` — the version in a text.
* `Proxor.Grpc.updateArchiveSuffixes`, `Proxor.Grpc.suffixesForChannel` — the assets of a platform.
* `Proxor.Grpc.matchingReleaseAsset` — the update.
-/

namespace Proxor.Grpc

open SemVer Text

/-! ### Releases -/

/-- `githubReleaseAsset`. -/
structure GithubReleaseAsset where
  name : String
  browserDownloadURL : String := ""
  deriving DecidableEq

/-- `githubRelease`. -/
structure GithubRelease where
  tagName : String
  htmlURL : String := ""
  prerelease : Bool := false
  body : String := ""
  assets : List GithubReleaseAsset
  deriving DecidableEq

/-- `updateSelection`. -/
inductive UpdateSelection
  | current
  | available
  | noCompatible
  deriving DecidableEq

/-! ### The assets of a platform -/

/-- `updateArchiveSuffixes`. -/
def updateArchiveSuffixes (goos goarch : String) : Except String (List String) :=
  if goos = "windows" ∧ goarch = "amd64" then .ok ["windows64.zip"]
  else if goos = "windows" ∧ goarch = "arm64" then .ok ["windows-arm64.zip"]
  else if goos = "linux" ∧ goarch = "amd64" then .ok ["linux64.AppImage"]
  else if goos = "linux" ∧ goarch = "arm64" then
    .error ("self-update is not available for Linux/" ++ goarch)
  else if goos = "darwin" ∧ goarch = "arm64" then .ok ["-macos-arm64.zip"]
  else if goos = "darwin" ∧ goarch = "amd64" then .ok ["-macos-x86_64.zip"]
  else .error ("self-update is not available on " ++ goos ++ "/" ++ goarch)

/-- `suffixesForChannel`. -/
def suffixesForChannel (channel goos goarch : String) : Except String (List String) :=
  if goos ≠ "linux" then updateArchiveSuffixes goos goarch
  else if channel = "deb" then .ok ["_amd64.deb"]
  else if channel = "rpm" then .ok [".x86_64.rpm"]
  else if channel = "flatpak" then .ok [".flatpak"]
  else if channel = "winget" then .ok ["winget-x64.zip"]
  else if channel = "arch" then .ok [".tar.gz"]
  else if channel = "appimage" ∨ channel = "portable" then .ok ["linux64.AppImage"]
  else updateArchiveSuffixes goos goarch

/-- `releasesWithAsset`. -/
def releasesWithAsset (releases : List GithubRelease) (suffix : String) : List GithubRelease :=
  releases.filter fun release => release.assets.any fun asset => hasSuffix asset.name suffix

/-! ### The version in a text -/

/-- A character of the part of a version after its numbers. The pattern ignores the case, so that it
takes the long s and the sign for Kelvin too. -/
def isPartChar (c : Char) : Bool := (foldCase c).isAlphanum || c = '.' || c = '-'

/-- At most `n` dots with digits after them, and what comes then. -/
def dotDigits : ℕ → List Char → List Char × List Char
  | n + 1, '.' :: cs =>
    let digits := cs.takeWhile Char.isDigit
    if digits = [] then ([], '.' :: cs)
    else
      let (more, rest) := dotDigits n (cs.dropWhile Char.isDigit)
      ('.' :: digits ++ more, rest)
  | _, cs => ([], cs)

/-- A mark with characters of a part after it, and what comes then. -/
def markedPart (mark : Char) : List Char → List Char × List Char
  | c :: cs =>
    if c = mark ∧ cs.takeWhile isPartChar ≠ [] then
      (c :: cs.takeWhile isPartChar, cs.dropWhile isPartChar)
    else ([], c :: cs)
  | [] => ([], [])

/-- The first match of `semverPattern`: it starts at the first digit, and takes whatever it can. -/
def findSemVer (raw : String) : Option String :=
  let cs := raw.toList.dropWhile fun c => !c.isDigit
  if cs = [] then none
  else
    let (groups, cs') := dotDigits 2 (cs.dropWhile Char.isDigit)
    let (pre, cs'') := markedPart '-' cs'
    let (metadata, _) := markedPart '+' cs''
    some (String.ofList (cs.takeWhile Char.isDigit ++ groups ++ pre ++ metadata))

/-- `normalizeSemVer`. -/
def normalizeSemVer (raw : String) : Option String :=
  (findSemVer raw).bind fun found =>
    let version := trimPrefix (trimPrefix (trimSpace found) "v") "V"
    if version = "" then none
    else
      let core := version.toList.takeWhile fun c => c ≠ '-' ∧ c ≠ '+'
      let suffix := version.toList.dropWhile fun c => c ≠ '-' ∧ c ≠ '+'
      let parts := splitAt (String.ofList core) '.'
      if parts.length < 1 ∨ 3 < parts.length then none
      else
        let parts := parts ++ List.replicate (3 - parts.length) "0"
        if "" ∈ parts then none
        else some (String.intercalate "." parts ++ String.ofList suffix)

/-- `parseSemVerVersion`. -/
def parseSemVerVersion (raw : String) : Option Version := (normalizeSemVer raw).bind newVersion

/-! ### The update -/

/-- What the loops of `matchingReleaseAsset` have found so far. -/
structure Best where
  bestRelease : Option GithubRelease := none
  bestAsset : Option GithubReleaseAsset := none
  bestVersion : Option Version := none
  sawCompatibleAsset : Bool := false

/-- The version a release is compared with as a candidate: that of the file name, or else of the
tag. -/
def candidateVersion (release : GithubRelease) (asset : GithubReleaseAsset) : Option Version :=
  (parseSemVerVersion asset.name).or (parseSemVerVersion release.tagName)

/-- A version without the part after its numbers. -/
def coreVersion (v : Version) : Version := { v with prerelease := "", metadata := "" }

/-- A version is newer than the installed one. For a stable release over an installed prerelease
that is its numbers. -/
def newerThan (current : Version) (release : GithubRelease) (v : Version) : Bool :=
  if current.prerelease ≠ "" ∧ !release.prerelease then v.greaterThan (coreVersion current)
  else v.greaterThan current

/-- One asset with the suffix. -/
def Best.consider (current : Option Version) (best : Best) (release : GithubRelease)
    (asset : GithubReleaseAsset) : Best :=
  let best := { best with sawCompatibleAsset := true }
  let taken := { best with bestRelease := some release, bestAsset := some asset }
  match current with
  | none => if best.bestRelease = none then taken else best
  | some current =>
    match candidateVersion release asset with
    | none => best
    | some v =>
      if !newerThan current release v then best
      else if best.bestVersion.all fun w => v.greaterThan w then
        { taken with bestVersion := some v }
      else best

/-- `matchingReleaseAsset`. -/
def matchingReleaseAsset (releases : List GithubRelease) (currentVersion : String)
    (suffixes : List String) (includePrerelease : Bool) :
    Option GithubRelease × Option GithubReleaseAsset × UpdateSelection :=
  let current := parseSemVerVersion currentVersion
  let best := releases.foldl (fun best release =>
    if release.prerelease && !includePrerelease then best
    else release.assets.foldl (fun best asset =>
      suffixes.foldl (fun best suffix =>
        if hasSuffix asset.name suffix then best.consider current release asset else best)
        best) best) ({} : Best)
  if best.bestRelease ≠ none ∧ best.bestAsset ≠ none then
    (best.bestRelease, best.bestAsset, .available)
  else if current ≠ none ∧ best.sawCompatibleAsset then (none, none, .current)
  else (none, none, .noCompatible)

end Proxor.Grpc
