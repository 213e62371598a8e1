import Proxor.Grpc.Checksums
import Proxor.Grpc.Update
import Proxor.Lib.Prog

set_option relaxedAutoImplicit false
set_option autoImplicit false

/-!
# A download

What `Update` does to download the asset that is queued: it writes the body to a new part file beside
the destination, verifies its digest and moves it there, by renaming it or, if that keeps failing, by
a verified copy. Every operation on a file may fail.

## Main definitions

* `Proxor.Grpc.FileOp`, `Proxor.Grpc.System.perform` — the operations on files and what they do.
* `Proxor.Grpc.downloadDestination`, `Proxor.Grpc.removeStaleDownloads`.
* `Proxor.Grpc.renameWithRetry`, `Proxor.Grpc.copyVerified`, `Proxor.Grpc.moveVerifiedDownload`.
* `Proxor.Grpc.download`.
-/

namespace Proxor.Grpc

open Resumption

/-! ### Operations on files -/

/-- An operation on the files of a directory, or on a directory. -/
inductive FileOp
  /-- Is this path a directory? -/
  | stat (path : String)
  /-- A file is created in the directory, closed and removed. -/
  | probe (dir : String)
  /-- The names in the directory of the destination, and which are directories. -/
  | readDir
  /-- A part that was left is removed. -/
  | removeStale (name : String)
  | remove (name : String)
  /-- A new file `base.*.part` is created. -/
  | createTemp (base : String)
  | write (name : String) (data : Bytes)
  | sync (name : String)
  | close (name : String)
  | rename (src dst : String)
  | openRead (name : String)
  /-- A file is created, or emptied if it is there. -/
  | openTruncate (name : String)
  /-- An open file is read to its end. -/
  | readAll (name : String)

/-- What an operation returns: mostly its error, if it fails. -/
def FileOp.Res : FileOp → Type
  | .stat _ => Except String Bool
  | .readDir => Except String (List (String × Bool))
  | .createTemp _ => Except String String
  | .write _ _ => ℕ × Option String
  | .readAll _ => Bytes × Option String
  | _ => Option String

/-- A program that operates on files. -/
abbrev FileAct (α : Type) : Type := Prog FileOp FileOp.Res α

namespace FileAct

/-- One operation, and what it returns. -/
def stat (path : String) : FileAct (Except String Bool) := Prog.perform (FileOp.stat path)

@[inherit_doc stat] def probe (dir : String) : FileAct (Option String) := Prog.perform (FileOp.probe dir)

@[inherit_doc stat] def readDir : FileAct (Except String (List (String × Bool))) :=
  Prog.perform FileOp.readDir

@[inherit_doc stat] def removeStale (name : String) : FileAct (Option String) :=
  Prog.perform (FileOp.removeStale name)

@[inherit_doc stat] def remove (name : String) : FileAct (Option String) :=
  Prog.perform (FileOp.remove name)

@[inherit_doc stat] def createTemp (base : String) : FileAct (Except String String) :=
  Prog.perform (FileOp.createTemp base)

@[inherit_doc stat] def write (name : String) (data : Bytes) : FileAct (ℕ × Option String) :=
  Prog.perform (FileOp.write name data)

@[inherit_doc stat] def sync (name : String) : FileAct (Option String) := Prog.perform (FileOp.sync name)

@[inherit_doc stat] def close (name : String) : FileAct (Option String) := Prog.perform (FileOp.close name)

@[inherit_doc stat] def rename (src dst : String) : FileAct (Option String) :=
  Prog.perform (FileOp.rename src dst)

@[inherit_doc stat] def openRead (name : String) : FileAct (Option String) :=
  Prog.perform (FileOp.openRead name)

@[inherit_doc stat] def openTruncate (name : String) : FileAct (Option String) :=
  Prog.perform (FileOp.openTruncate name)

@[inherit_doc stat] def readAll (name : String) : FileAct (Bytes × Option String) :=
  Prog.perform (FileOp.readAll name)

end FileAct

/-- The files of the directory of the destination, the number of operations so far and the parts that
were created. -/
structure Disk where
  files : String → Option Bytes
  clock : ℕ := 0
  parts : List String := []

/-- What the system does: which operations fail, how much is read or written before that, the names of
new files and what is in directories. -/
structure System where
  fails : ℕ → FileOp → Option String
  amount : ℕ → ℕ
  random : ℕ → String
  isDir : String → Bool
  entries : ℕ → List (String × Bool)

/-- The files with one of them set or removed. -/
def Disk.put (d : Disk) (name : String) (data : Option Bytes) : Disk :=
  { d with files := Function.update d.files name data }

/-- The error of a file that is not there. -/
def notExist (name : String) : String := name ++ ": no such file or directory"

/-- What an operation does that does not fail. -/
def System.perform (sys : System) (d : Disk) : (op : FileOp) → op.Res × Disk
  | .stat path => (.ok (sys.isDir path), d)
  | .readDir => (.ok (sys.entries d.clock), d)
  | .removeStale name | .remove name => (none, d.put name none)
  | .createTemp base =>
    let name := base ++ "." ++ sys.random d.clock ++ ".part"
    if (d.files name).isSome then (.error (name ++ ": file exists"), d)
    else (.ok name, { d.put name (some []) with parts := d.parts ++ [name] })
  | .write name data => ((data.length, none), d.put name ((d.files name).map (· ++ data)))
  | .rename src dst =>
    match d.files src with
    | some data => (none, (d.put src none).put dst (some data))
    | none => (some (notExist src), d)
  | .openRead name => (if (d.files name).isSome then none else some (notExist name), d)
  | .openTruncate name => (none, d.put name (some []))
  | .readAll name => (((d.files name).getD [], none), d)
  | .probe _ | .sync _ | .close _ => (none, d)

/-- What an operation does that fails: a write or a read may have moved a part. -/
def System.failed (sys : System) (d : Disk) (error : String) : (op : FileOp) → op.Res × Disk
  | .stat _ | .readDir | .createTemp _ => (.error error, d)
  | .write name data =>
    let part := data.take (sys.amount d.clock)
    ((part.length, some error), d.put name ((d.files name).map (· ++ part)))
  | .readAll name => ((((d.files name).getD []).take (sys.amount d.clock), some error), d)
  | .probe _ | .removeStale _ | .remove _ | .sync _ | .close _ | .rename _ _ | .openRead _
  | .openTruncate _ => (some error, d)

/-- What the system does with an operation. -/
def System.handler (sys : System) : Handler FileOp FileOp.Res Disk := fun op d =>
  match sys.fails d.clock op with
  | none => sys.perform { d with clock := d.clock + 1 } op
  | some error => sys.failed { d with clock := d.clock + 1 } error op

/-! ### The destination -/

/-- The extension of a name, with its dot. -/
def fileExt (name : String) : String :=
  match Text.cutAtLast name "." with
  | some (_, ext) => if '/' ∈ ext.toList then "" else "." ++ ext
  | none => ""

/-- `downloadedArchivePath`: the name beside the installation. -/
def downloadedArchivePath (assetName : String) : String :=
  if Text.hasSuffix assetName ".tar.gz" then "update-package.tar.gz"
  else if Text.hasSuffix assetName ".zip" then "update-package.zip"
  else if fileExt assetName = "" then "update-package.zip"
  else "update-package" ++ fileExt assetName

/-- The last element of a path. -/
def filePathBase (path : String) : String :=
  if path = "" then "."
  else
    let trimmed := path.toList.rdropWhile (· = '/')
    if trimmed = [] then "/" else String.ofList (trimmed.rtakeWhile (· ≠ '/'))

/-- `downloadDestination`: the directory and the name in it. -/
def downloadDestination (downloadDir assetName : String) :
    FileAct (Except String (String × String)) := do
  if downloadDir = "" then return .ok ("..", downloadedArchivePath assetName)
  else
    match ← FileAct.stat downloadDir with
    | .error e => return .error ("download directory " ++ quoted downloadDir ++ " is not usable: " ++ e)
    | .ok false => return .error ("download directory " ++ quoted downloadDir ++ " is not a directory")
    | .ok true =>
      match ← FileAct.probe downloadDir with
      | some e =>
        return .error ("download directory " ++ quoted downloadDir ++ " is not writable: " ++ e)
      | none => return .ok (downloadDir, filePathBase assetName)

/-- A part of an earlier download. -/
def isStalePart (base : String) (entry : String × Bool) : Bool :=
  !entry.2 && (entry.1 = base ++ ".part" ||
    (Text.hasPrefix entry.1 (base ++ ".") && Text.hasSuffix entry.1 ".part"))

/-- The parts are removed, as far as that works. -/
def removeParts : List (String × Bool) → FileAct Unit
  | [] => return ()
  | entry :: entries => do
    let _ ← FileAct.removeStale entry.1
    removeParts entries

/-- `removeStaleDownloads`. -/
def removeStaleDownloads (base : String) : FileAct Unit := do
  match ← FileAct.readDir with
  | .error _ => return ()
  | .ok entries => removeParts (entries.filter (isStalePart base))

/-! ### The move -/

/-- `renameAttempts`. -/
def renameAttempts : ℕ := 12

/-- At most `n + 1` attempts to rename a file: the last error. -/
def renameLoop (src dst : String) : ℕ → FileAct (Option String)
  | 0 => FileAct.rename src dst
  | n + 1 => do
    match ← FileAct.rename src dst with
    | none => return none
    | some _ => renameLoop src dst n

/-- `renameWithRetry`. -/
def renameWithRetry (src dst : String) : FileAct (Option String) :=
  renameLoop src dst (renameAttempts - 1)

/-- The part of `copyVerified` in which the destination is open. -/
def copyOpen (h : Hashing) (src dst : String) (wantDigestHex : Bytes) : FileAct (Option String) := do
  let (data, readError) ← FileAct.readAll src
  let (_, writeError) ← FileAct.write dst data
  match writeError.or readError with
  | some e => return some e
  | none =>
    match ← FileAct.sync dst with
    | some e => return some e
    | none =>
      match ← FileAct.close dst with
      | some e => return some e
      | none =>
        if h.equalFold (h.digest data) wantDigestHex then return none
        else return some "the copied update does not match its published SHA-256"

/-- `copyVerified`: the error. -/
def copyVerified (h : Hashing) (src dst : String) (wantDigestHex : Bytes) :
    FileAct (Option String) := do
  match ← FileAct.openRead src with
  | some e => return some e
  | none =>
    match ← FileAct.openTruncate dst with
    | some e => return some e
    | none =>
      match ← copyOpen h src dst wantDigestHex with
      | none => return none
      | some e => do
        let _ ← FileAct.close dst
        let _ ← FileAct.remove dst
        return some e

/-- `moveVerifiedDownload`: the error. -/
def moveVerifiedDownload (h : Hashing) (tempPath destination : String) (wantDigestHex : Bytes) :
    FileAct (Option String) := do
  match ← renameWithRetry tempPath destination with
  | none => return none
  | some renameErr =>
    match ← copyVerified h tempPath destination wantDigestHex with
    | none => do
      let _ ← FileAct.remove tempPath
      return none
    | some copyErr =>
      return some ("could not move the verified update from " ++ tempPath ++ " to " ++ destination ++
        " after " ++ toString renameAttempts ++ " attempts: " ++ renameErr ++
        "; copying it there instead also failed: " ++ copyErr ++
        ". If an antivirus program is scanning the file, wait a minute and try again.")

/-! ### The download -/

/-- The answer to a request: its status, its length and its body in the pieces it comes in, with the
error it may end in. -/
structure Response where
  status : ℕ
  contentLength : ℤ := -1
  body : List Bytes
  bodyError : Option String := none

/-- A request to download: the channel, the directory, what is queued, and what becomes of the requests
for the asset and for its checksums. -/
structure DownloadReq where
  channel : String
  downloadDir : String
  updateDownloadURL : String
  updateAssetName : String
  updateChecksumsURL : String
  asset : Except String Response
  sums : Except String Response

/-- `downloadProgress`. -/
structure DownloadProgress where
  totalBytes : ℤ := 0
  receivedBytes : ℕ := 0
  complete : Bool := false
  err : String := ""

/-- What a download returns: nothing or an error, and the progress that can be queried. -/
abbrev DownloadResult : Type := Except String Unit × DownloadProgress

/-- The pieces of a body are written: how much was, and the error. -/
def writeBody (name : String) : List Bytes → FileAct (ℕ × Option String)
  | [] => return (0, none)
  | piece :: body => do
    match ← FileAct.write name piece with
    | (n, some e) => return (n, some e)
    | (n, none) => do
      let (m, e) ← writeBody name body
      return (n + m, e)

/-- `fail`: the part is removed, if there is one. -/
def fail (tempPath : Option String) (progress : DownloadProgress) (error : String) :
    FileAct DownloadResult := do
  match tempPath with
  | none => return (.error error, { progress with err := error })
  | some name => do
    let _ ← FileAct.remove name
    return (.error error, { progress with err := error })

/-- The limit on SHA256SUMS. -/
def sumsLimit : ℕ := 1 <<< 20

/-- The body of an answer up to the limit. What comes after it is not read, an error included. -/
def Response.limited (resp : Response) : Except String Bytes :=
  match resp.bodyError with
  | some e =>
    if resp.body.flatten.length < sumsLimit then .error e else .ok (resp.body.flatten.take sumsLimit)
  | none => .ok (resp.body.flatten.take sumsLimit)

/-- The text of SHA256SUMS, or why there is none. -/
def fetchSums (updateChecksumsURL : String) (sums : Except String Response) :
    Except String Bytes := do
  if updateChecksumsURL = "" then
    .error "the release published no SHA256SUMS asset; refusing to apply an unverifiable download"
  else
    let resp ← sums
    let text ← resp.limited
    if resp.status < 200 ∨ 300 ≤ resp.status then
      .error ("failed to fetch SHA256SUMS: status " ++ toString resp.status)
    else .ok text

/-- The part of a download in which the part file is there. -/
def finishDownload (h : Hashing) (req : DownloadReq) (destination tempPath : String)
    (resp : Response) : FileAct DownloadResult := do
  let progress : DownloadProgress := { totalBytes := resp.contentLength }
  let (received, writeError) ← writeBody tempPath resp.body
  let progress := { progress with receivedBytes := received }
  match writeError.or resp.bodyError with
  | some e => fail (some tempPath) progress e
  | none =>
    match ← FileAct.sync tempPath with
    | some e => fail (some tempPath) progress e
    | none =>
      match ← FileAct.close tempPath with
      | some e => fail (some tempPath) progress e
      | none =>
        match fetchSums req.updateChecksumsURL req.sums with
        | .error e => fail (some tempPath) progress e
        | .ok sums =>
          match verifyAssetChecksum h sums req.updateAssetName (h.digest resp.body.flatten) with
          | some e => fail (some tempPath) progress e
          | none =>
            match checksumForAsset h sums req.updateAssetName with
            | .error e => fail (some tempPath) progress e
            | .ok want =>
              match ← moveVerifiedDownload h tempPath destination want with
              | some e => fail (some tempPath) progress e
              | none => return (.ok (), { progress with complete := true })

/-- `Update` for a request to download, on `host`. -/
def download (h : Hashing) (host : Host) (req : DownloadReq) : FileAct DownloadResult := do
  if selfUpdateRefusalFor host.goos req.channel req.downloadDir ≠ "" then
    return (.error (selfUpdateRefusalFor host.goos req.channel req.downloadDir), {})
  else if req.updateDownloadURL = "" ∨ req.updateAssetName = "" then
    fail none {} "No update package is queued for download."
  else
    match ← downloadDestination req.downloadDir req.updateAssetName with
    | .error e => fail none {} e
    | .ok (_, destination) => do
      removeStaleDownloads destination
      match req.asset with
      | .error e => fail none {} ("could not download " ++ req.updateAssetName ++ ": " ++ e)
      | .ok resp =>
        if resp.status < 200 ∨ 300 ≤ resp.status then
          fail none {} ("Update download failed with status " ++ toString resp.status)
        else
          match ← FileAct.createTemp destination with
          | .error e => fail none {} ("could not create the download file: " ++ e)
          | .ok tempPath => finishDownload h req destination tempPath resp

end Proxor.Grpc
