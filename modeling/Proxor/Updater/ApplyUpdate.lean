import Mathlib.Data.String.Basic
import Proxor.Lib.Bytes
import Proxor.Lib.FileTree
import Proxor.Lib.Prog
import Proxor.Lib.Text

set_option relaxedAutoImplicit false
set_option autoImplicit false

/-!
# Applying an update

What the updater does in the directory of the installation: it extracts the package into
`./update-package`, checks the payload, removes what is obsolete and moves the payload into place. Every
operation may fail, a failed removal or write leaving any part of its work done.

## Main definitions

* `Proxor.Updater.FsOp`, `Proxor.Updater.System.handler` — the operations and what they do.
* `Proxor.Updater.moveReplacing`, `Proxor.Updater.replaceFile`.
* `Proxor.Updater.applyUpdate` — `unpackUpdate`, then `installUpdate`, then `postCleanup` or `abort`.
-/

namespace Proxor.Updater

open FileTree Resumption

/-- A path in the directory of the installation. -/
abbrev Path : Type := List String

/-- The directory of the installation. -/
abbrev Files : Type := Tree String Bytes

/-! ### Operations -/

/-- What a path leads to, or an entry is. -/
inductive Kind
  | dir
  | regular
  | link
  deriving DecidableEq

/-- The kind of a node. -/
def kindOf : Node String Bytes → Kind
  | .dir => .dir
  | .file _ => .regular
  | .link _ => .link

/-- An entry of a directory. -/
structure Entry where
  name : String
  isDir : Bool

/-- An operation of the updater. -/
inductive FsOp
  /-- Is there something at a path that is given as text, maybe outside? -/
  | exist (path : String)
  | openRead (path : String)
  /-- The package is extracted into `./update-package`. -/
  | extract (path : String)
  | stat (p : Path)
  | lstat (p : Path)
  | readDir (p : Path)
  | mkdir (p : Path)
  | removeAll (p : Path)
  | remove (p : Path)
  | rename (a b : Path)
  | readFile (p : Path)
  | writeFile (p : Path) (data : Bytes)
  /-- The names in the installation with a suffix. -/
  | glob (suffix : String)

/-- What an operation returns: mostly its error, if it fails. -/
def FsOp.Res : FsOp → Type
  | .exist _ => Bool
  | .stat _ | .lstat _ => Except String Kind
  | .readDir _ => Except String (List Entry)
  | .readFile _ => Except String Bytes
  | .glob _ => List String
  | _ => Option String

/-- A program of the updater. -/
abbrev Act (α : Type) : Type := Prog FsOp FsOp.Res α

/-- The files, and the number of operations so far. -/
structure Disk where
  files : Files
  clock : ℕ := 0

/-- The directory the package is extracted into. -/
def updateExtractDir : String := "update-package"

/-- What the system does: how many links it follows, which operations fail and what these leave, what is
at paths given as text and what is extracted, which is below `./update-package`. -/
structure System where
  limit : ℕ
  fails : ℕ → FsOp → Option String
  stuck : ℕ → Path → Bool
  written : ℕ → Option Bytes
  exist : ℕ → String → Bool
  extracted : ℕ → Files → Files
  extracted_outside : ∀ n t q, ¬ [updateExtractDir] <+: q → (extracted n t).node q = t.node q
  text : Errno → String

/-- A change and its error, which leaves the files as they are. -/
def System.change (sys : System) (d : Disk) : Except Errno Files → Option String × Disk
  | .ok files => (none, { d with files := files })
  | .error e => (some (sys.text e), d)

/-- What an operation does that does not fail. -/
def System.perform (sys : System) (d : Disk) : (op : FsOp) → op.Res × Disk
  | .exist path => (sys.exist d.clock path, d)
  | .openRead _ => (none, d)
  | .extract _ => (none, { d with files := sys.extracted d.clock d.files })
  | .stat p => (((d.files.stat sys.limit p).map kindOf).mapError sys.text, d)
  | .lstat p =>
    ((((d.files.place sys.limit p).bind fun q => (d.files.node q).elim (.error .notExist) .ok).map
      kindOf).mapError sys.text, d)
  | .readDir p =>
    (((d.files.readDir sys.limit p).map (List.map fun entry => ⟨entry.1, entry.2⟩)).mapError
      sys.text, d)
  | .mkdir p => sys.change d (d.files.mkdir sys.limit p)
  | .removeAll p => sys.change d (d.files.removeAll sys.limit p fun _ => false)
  | .remove p => sys.change d (d.files.remove sys.limit p)
  | .rename a b => sys.change d (d.files.rename sys.limit a b)
  | .readFile p => ((d.files.readFile sys.limit p).mapError sys.text, d)
  | .writeFile p data => sys.change d (d.files.writeFile sys.limit p data)
  | .glob suffix => ((d.files.names []).filter (Text.hasSuffix · suffix), d)

/-- What an operation does that fails. -/
def System.failed (sys : System) (d : Disk) (error : String) : (op : FsOp) → op.Res × Disk
  | .exist _ => (false, d)
  | .extract _ => (some error, { d with files := sys.extracted d.clock d.files })
  | .stat _ | .lstat _ | .readDir _ | .readFile _ => (.error error, d)
  | .glob _ => ([], d)
  | .removeAll p =>
    (some error, (sys.change d (d.files.removeAll sys.limit p (sys.stuck d.clock))).2)
  | .writeFile p _ =>
    match sys.written d.clock with
    | none => (some error, d)
    | some part => (some error, (sys.change d (d.files.writeFile sys.limit p part)).2)
  | .openRead _ | .mkdir _ | .remove _ | .rename _ _ => (some error, d)

/-- What the system does with an operation. -/
def System.handler (sys : System) : Handler FsOp FsOp.Res Disk := fun op d =>
  match sys.fails d.clock op with
  | none => sys.perform { d with clock := d.clock + 1 } op
  | some error => sys.failed { d with clock := d.clock + 1 } error op

namespace Act

/-- One operation, and what it returns. -/
def exist (path : String) : Act Bool := Prog.perform (FsOp.exist path)

@[inherit_doc exist] def openRead (path : String) : Act (Option String) :=
  Prog.perform (FsOp.openRead path)

@[inherit_doc exist] def extract (path : String) : Act (Option String) :=
  Prog.perform (FsOp.extract path)

@[inherit_doc exist] def stat (p : Path) : Act (Except String Kind) := Prog.perform (FsOp.stat p)

@[inherit_doc exist] def lstat (p : Path) : Act (Except String Kind) := Prog.perform (FsOp.lstat p)

@[inherit_doc exist] def readDir (p : Path) : Act (Except String (List Entry)) :=
  Prog.perform (FsOp.readDir p)

@[inherit_doc exist] def mkdir (p : Path) : Act (Option String) := Prog.perform (FsOp.mkdir p)

@[inherit_doc exist] def removeAll (p : Path) : Act (Option String) := Prog.perform (FsOp.removeAll p)

@[inherit_doc exist] def remove (p : Path) : Act (Option String) := Prog.perform (FsOp.remove p)

@[inherit_doc exist] def rename (a b : Path) : Act (Option String) := Prog.perform (FsOp.rename a b)

@[inherit_doc exist] def readFile (p : Path) : Act (Except String Bytes) :=
  Prog.perform (FsOp.readFile p)

@[inherit_doc exist] def writeFile (p : Path) (data : Bytes) : Act (Option String) :=
  Prog.perform (FsOp.writeFile p data)

@[inherit_doc exist] def glob (suffix : String) : Act (List String) := Prog.perform (FsOp.glob suffix)

end Act

/-- The updater's process: the system it was built for and the one it takes itself to run on, its
arguments, and how deep directories can be nested. -/
structure Env where
  goos : String
  hostGOOS : String
  args : List String
  depth : ℕ

/-- A path as text. -/
def pathText (env : Env) (p : Path) : String :=
  if p = [] then "." else (if env.goos = "windows" then "\\" else "/").intercalate p

/-! ### The package -/

/-- The first of the candidates that is there. -/
def firstPackage : List String → Act (Except String String)
  | [] => return .error "no update package was found"
  | candidate :: candidates => do
    match ← Act.stat [candidate] with
    | .ok _ => return .ok ("./" ++ candidate)
    | .error _ => firstPackage candidates

/-- `findUpdatePackage`. -/
def findUpdatePackage (env : Env) : Act (Except String String) := do
  let candidates :=
    firstPackage ["update-package.zip", "update-package.tar.gz", "proxor.zip", "proxor.tar.gz"]
  match env.args with
  | [_, path] => do
    if ← Act.exist path then return .ok path else candidates
  | _ => candidates

/-- `extractUpdatePackage`: the error. -/
def extractUpdatePackage (path : String) : Act (Option String) := do
  match ← Act.openRead path with
  | some e => return some e
  | none =>
    if Text.hasSuffix path ".zip" || Text.hasSuffix path ".tar.gz" then Act.extract path
    else return some ("unsupported update package format: " ++ path)

/-- The root of a payload with these entries: its only directory, or all of it. -/
def onlyDirectory (base : Path) (entries : List Entry) : Except String Path :=
  match entries.filter fun entry => entry.name ≠ "__MACOSX" with
  | [] => .error "the update package is empty"
  | [entry] => .ok (if entry.isDir then base ++ [entry.name] else base)
  | _ => .ok base

/-- The part of `findPayloadRoot` for a package without a directory `proxor`. -/
def listedRoot (base : Path) : Act (Except String Path) := do
  match ← Act.readDir base with
  | .error e => return .error e
  | .ok entries => return onlyDirectory base entries

/-- `findPayloadRoot`. -/
def findPayloadRoot (base : Path) : Act (Except String Path) := do
  match ← Act.stat (base ++ ["proxor"]) with
  | .ok .dir => return .ok (base ++ ["proxor"])
  | _ => listedRoot base

/-- The part of `validatePayload` for a payload that can be read. -/
def validateEntries (root : Path) (goos : String) (entries : List Entry) : Act (Option String) := do
  if entries.isEmpty then return some "the update package is empty"
  else if goos = "windows" then
    match ← Act.stat (root ++ ["proxor.exe"]) with
    | .ok .regular => return none
    | _ => return some "the update package has no proxor.exe; refusing to install it"
  else return none

/-- `validatePayload`: the error. -/
def validatePayload (root : Path) (goos : String) : Act (Option String) := do
  match ← Act.readDir root with
  | .error e => return some ("the update package is unreadable: " ++ e)
  | .ok entries => validateEntries root goos entries

/-- `abort`: what was extracted is removed. -/
def abort (e : String) : Act (Bool × Option String) := do
  let _ ← Act.removeAll [updateExtractDir]
  return (false, some e)

/-- `applyUpdate` up to the extraction: the root of the payload, or an error and whether something may
have been extracted. -/
def unpackUpdate (env : Env) : Act (Except (String × Bool) Path) := do
  match ← findUpdatePackage env with
  | .error e => return .error (e, false)
  | .ok path =>
    let _ ← Act.removeAll [updateExtractDir]
    match ← extractUpdatePackage path with
    | some e => return .error (e, true)
    | none =>
      match ← findPayloadRoot [updateExtractDir] with
      | .error e => return .error (e, true)
      | .ok root => return .ok root

/-! ### The move -/

/-- `os.Mkdir` in `os.MkdirAll`: it is no error when the directory is there. -/
def makeDir (p : Path) : Act (Option String) := do
  match ← Act.mkdir p with
  | none => return none
  | some e =>
    match ← Act.lstat p with
    | .ok .dir => return none
    | _ => return some e

/-- `os.MkdirAll` of a path that is given from its end: the error. -/
def mkdirAllUp (env : Env) : List String → Act (Option String)
  | [] => do
    match ← Act.stat [] with
    | .ok .dir => return none
    | .ok _ => return some ("mkdir " ++ pathText env [] ++ ": not a directory")
    | .error _ => makeDir []
  | x :: up => do
    match ← Act.stat (x :: up).reverse with
    | .ok .dir => return none
    | .ok _ => return some ("mkdir " ++ pathText env (x :: up).reverse ++ ": not a directory")
    | .error _ =>
      if up = [] then makeDir [x]
      else
        match ← mkdirAllUp env up with
        | some e => return some e
        | none => makeDir (x :: up).reverse

/-- `os.MkdirAll`: the error. -/
def mkdirAll (env : Env) (p : Path) : Act (Option String) := mkdirAllUp env p.reverse

/-- The part of `replaceFile` after a failed renaming. -/
def copyFile (src dst : Path) : Act (Option String) := do
  match ← Act.readFile src with
  | .error e => return some e
  | .ok data =>
    match ← Act.writeFile dst data with
    | some e => return some e
    | none => Act.remove src

/-- `replaceFile`: the error of one attempt to put `src` in place of `dst`. -/
def replaceFile (src dst : Path) : Act (Option String) := do
  match ← Act.removeAll dst with
  | some e => return some e
  | none =>
    match ← Act.rename src dst with
    | none => return none
    | some _ => copyFile src dst

/-- At most `n + 1` attempts: the last error. -/
def replaceLoop (src dst : Path) : ℕ → Act (Option String)
  | 0 => replaceFile src dst
  | n + 1 => do
    match ← replaceFile src dst with
    | none => return none
    | some _ => replaceLoop src dst n

/-- `replaceAttemptsWindows`. -/
def replaceAttemptsWindows : ℕ := 20

/-- `replaceAttempts`. -/
def replaceAttempts (goos : String) : ℕ := if goos = "windows" then replaceAttemptsWindows else 1

/-- The entries of a directory are moved one after another, up to the first error. -/
def moveEntries (move : Path → Path → Act (Option String)) (src dst : Path) :
    List Entry → Act (Option String)
  | [] => return none
  | entry :: entries => do
    match ← move (src ++ [entry.name]) (dst ++ [entry.name]) with
    | some e => return some e
    | none => moveEntries move src dst entries

/-- `moveReplacing`, with directories nested at most so deep: the error. -/
def moveReplacing (env : Env) : ℕ → Path → Path → Act (Option String)
  | 0, src, _ => return some ("stat " ++ pathText env src ++ ": file name too long")
  | depth + 1, src, dst => do
    match ← Act.stat src with
    | .error e => return some e
    | .ok .dir =>
      match ← Act.readDir src with
      | .error e => return some e
      | .ok entries =>
        match ← moveEntries (moveReplacing env depth) src dst entries with
        | some e => return some e
        | none => Act.removeAll src
    | .ok _ =>
      match ← mkdirAll env dst.dropLast with
      | some e => return some e
      | none =>
        match ← replaceLoop src dst (replaceAttempts env.hostGOOS - 1) with
        | none => return none
        | some e => return some ("could not replace " ++ pathText env dst ++ ": " ++ e)

/-! ### The installation -/

/-- `os.RemoveAll` of each of the paths, errors being ignored. -/
def removePaths : List Path → Act Unit
  | [] => return ()
  | p :: paths => do
    let _ ← Act.removeAll p
    removePaths paths

/-- `removeAll`: what has a suffix is removed. -/
def removeSuffix (suffix : String) : Act Unit := do
  let names ← Act.glob suffix
  removePaths (names.map ([·]))

/-- `obsoletePaths`. -/
def obsoletePaths : List Path :=
  [["geoip.dat"], ["geoip.db"], ["geosite.dat"], ["geosite.db"], ["config", "plugins"], ["generic"],
    ["iconengines"], ["imageformats"], ["networkinformation"], ["platforms"], ["proxor_gui.exe"],
    ["app.exe"], ["proxor.png"], ["runtime"], ["config", "runtime"], ["sqldrivers"], ["styles"],
    ["tls"], ["translations"], ["public_res"]]

/-- `applyUpdate` after the validation: the error of the move. -/
def installPayload (env : Env) (root : Path) : Act (Option String) := do
  if env.goos = "linux" then
    let _ ← Act.removeAll ["usr"]
  removePaths obsoletePaths
  removeSuffix ".dll"
  removeSuffix ".dmp"
  moveReplacing env env.depth root []

/-- `applyUpdate` from the validation up to a cleanup: whether the installation was changed, and the
error. -/
def installUpdate (env : Env) (root : Path) : Act (Bool × Option String) := do
  match ← validatePayload root env.hostGOOS with
  | some e => return (false, some e)
  | none =>
    match ← installPayload env root with
    | some e => return (true, some ("failed to install update: " ++ e))
    | none => return (true, none)

/-- The archives of `postCleanup`. -/
def updateArchives : List Path := [["update-package.zip"], ["update-package.tar.gz"]]

/-- `postCleanup`. -/
def postCleanup : Act Unit := removePaths ([updateExtractDir] :: updateArchives)

/-- `applyUpdate`: whether the installation was changed, and the error. -/
def applyUpdate (env : Env) : Act (Bool × Option String) := do
  match ← unpackUpdate env with
  | .error (e, false) => return (false, some e)
  | .error (e, true) => abort e
  | .ok root =>
    match ← installUpdate env root with
    | (false, some e) => abort e
    | (true, none) =>
      postCleanup
      return (true, none)
    | (moved, e) => return (moved, e)

end Proxor.Updater
