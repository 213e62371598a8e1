import Mathlib.Data.String.Basic
import Proxor.Db.LoadManager

set_option relaxedAutoImplicit false
set_option autoImplicit false

/-!
# The files of an older version

An older version kept every profile and every group in a file of its own. When there is no database,
one is created and the files are copied into it in one transaction; then they are renamed.

## Main definitions

* `Proxor.Db.Disk` — the files and the database, with a transaction that may be open.
* `Proxor.Db.filterIntJsonFile` — the numbers of the files.
* `Proxor.Db.Effect` — what is done to the disk, one thing at a time.
* `Proxor.Db.Disk.migrateFromJson` — what `MigrateFromJson` does.
* `Proxor.Db.Disk.firstLoad` — what `LoadManager` does when there is no database.
* `Proxor.Db.Disk.crash` — what is left if the program stops in between.
* `Proxor.Db.Disk.loadManager` — `LoadManager`.

## Design

A file holds what is read of it, or nothing if it cannot be read as what it should be; the names of
files are told apart as they are written. The schema is there as soon as the database is. A transaction
that is not committed is lost. That a backup of an earlier migration is removed before a file takes its
name is part of the renaming.
-/

namespace Proxor.Db

variable {B : Type}

/-! ### The names of the files -/

/-- A character for a comparison without case. -/
def foldCase (c : Char) : Char := if c.toNat = 383 then 's' else c.toLower

/-- Whether a text begins with `.json`, without case. -/
def beginsJson (cs : List Char) : Bool := ".json".toList.isPrefixOf (cs.map foldCase)

/-- `remove` of every `.json` of a text, without case. `skip` characters of one are left. -/
def removeJson : ℕ → List Char → List Char
  | _, [] => []
  | skip + 1, _ :: cs => removeJson skip cs
  | 0, c :: cs => if beginsJson (c :: cs) then removeJson 4 cs else c :: removeJson 0 cs

/-- `endsWith` of `.json`, without case. -/
def endsJson (cs : List Char) : Bool := ".json".toList.isSuffixOf (cs.map foldCase)

/-- The digits of a number. -/
def digitsToNat (cs : List Char) : Option ℕ :=
  if cs ≠ [] ∧ cs.all Char.isDigit then
    some (cs.foldl (fun n c => 10 * n + (c.toNat - 48)) 0)
  else none

/-- `QString::toInt`, of a text without surrounding space. -/
def toInt (cs : List Char) : Option ℤ :=
  let value : Option ℤ := match cs with
    | '-' :: cs => (digitsToNat cs).map fun n => -(n : ℤ)
    | '+' :: cs => (digitsToNat cs).map Nat.cast
    | cs => (digitsToNat cs).map Nat.cast
  value.filter fun n => -2147483648 ≤ n ∧ n ≤ 2147483647

/-- Surrounding space is left out. -/
def stripSpace (cs : List Char) : List Char :=
  ((cs.dropWhile Char.isWhitespace).reverse.dropWhile Char.isWhitespace).reverse

/-- The number of a file, if its name is one. -/
def numberOf (name : String) : Option ℤ :=
  let cs := name.toList.map Char.toLower
  if endsJson cs then toInt (stripSpace (removeJson 0 cs)) else none

/-- `filterIntJsonFile`: the numbers of the files of a directory. -/
def filterIntJsonFile {α : Type} (dir : OrdMap String α) : List ℤ :=
  sortIds (dir.keys.filterMap numberOf)

/-- The name of the file of a number. -/
def jsonName (id : ℤ) : String := toString id ++ ".json"

/-! ### The disk -/

/-- The files and the database. -/
structure Disk (B : Type) where
  groups : OrdMap String (Option Group) := .empty
  profiles : OrdMap String (Option (ProxyEntity B)) := .empty
  /-- The list `groups` of `pm.json`. -/
  pm : Option (List ℤ) := none
  db : Option (Tables B) := none
  /-- What the open transaction has made of the database. -/
  tx : Option (Tables B) := none

/-- What is done to the disk. -/
inductive Effect (B : Type) where
  | createDb
  | beginTx
  | insertGroup (id : ℤ) (row : Group)
  | insertProfile (id : ℤ) (row : ProxyEntity B)
  | saveGroupsTabOrder (order : List ℤ)
  | commitTx
  | renameGroup (name : String)
  | renameProfile (name : String)
  | renamePm

namespace Disk

/-- `RenameToBackup`. -/
def renameToBackup {α : Type} (dir : OrdMap String α) (name : String) : OrdMap String α :=
  match dir.get? name with
  | none => dir
  | some content => (dir.erase name).insert (name ++ ".bak") content

/-- A statement is part of the transaction, if one is open. -/
def statement (d : Disk B) (f : Tables B → Tables B) : Disk B :=
  match d.tx with
  | some tx => { d with tx := some (f tx) }
  | none => { d with db := d.db.map f }

/-- Do one thing. -/
def apply (d : Disk B) : Effect B → Disk B
  | .createDb => { d with db := some {} }
  | .beginTx => { d with tx := d.db }
  | .insertGroup id row => d.statement fun db => { db with groups := db.groups.insert id row }
  | .insertProfile id row => d.statement fun db => { db with profiles := db.profiles.insert id row }
  | .saveGroupsTabOrder order => d.statement fun db => { db with groupsTabOrder := some order }
  | .commitTx => { d with db := d.tx, tx := none }
  | .renameGroup name => { d with groups := renameToBackup d.groups name }
  | .renameProfile name => { d with profiles := renameToBackup d.profiles name }
  | .renamePm => { d with pm := none }

/-- Do one thing after the other. -/
def applyAll (d : Disk B) (es : List (Effect B)) : Disk B := es.foldl apply d

/-- The program stops. -/
def crash (d : Disk B) : Disk B := { d with tx := none }

/-- Whether there is a file of the older version. -/
def jsonExists (d : Disk B) : Bool :=
  !(filterIntJsonFile d.profiles).isEmpty || !(filterIntJsonFile d.groups).isEmpty || d.pm.isSome

/-- The statement for the group of a number. -/
def groupStatement (d : Disk B) (id : ℤ) : Option (Effect B) :=
  match d.groups.get? (jsonName id) with
  | some (some ent) => some (.insertGroup (if 0 ≤ ent.id then ent.id else id) ent)
  | _ => none

/-- The statement for the profile of a number. -/
def profileStatement (d : Disk B) (id : ℤ) : Option (Effect B) :=
  match d.profiles.get? (jsonName id) with
  | some (some ent) => some (.insertProfile (if 0 ≤ ent.id then ent.id else id) ent)
  | _ => none

/-- The statement for the order of the tabs. -/
def pmStatement (d : Disk B) : List (Effect B) :=
  match d.pm with
  | none => []
  | some order => [.saveGroupsTabOrder order]

/-- The statements of the transaction. -/
def statements (d : Disk B) : List (Effect B) :=
  (filterIntJsonFile d.groups).filterMap d.groupStatement ++
    (filterIntJsonFile d.profiles).filterMap d.profileStatement ++ d.pmStatement

/-- The files that are renamed. -/
def renames (d : Disk B) : List (Effect B) :=
  (filterIntJsonFile d.groups).map (fun id => .renameGroup (jsonName id)) ++
    (filterIntJsonFile d.profiles).map (fun id => .renameProfile (jsonName id)) ++
    if d.pm.isSome then [.renamePm] else []

/-- `MigrateFromJson`. -/
def migrateFromJson (d : Disk B) : List (Effect B) :=
  .beginTx :: (d.statements ++ .commitTx :: d.renames)

/-- The database is created, and the files are copied into it if there are any. -/
def createAndMigrate (d : Disk B) : List (Effect B) :=
  .createDb :: if d.jsonExists then d.migrateFromJson else []

/-- The group that is added if there is none. -/
def defaultGroup : Group := { id := 0, name := "Default" }

/-- What `LoadManager` does to the disk when there is no database. -/
def firstLoad (d : Disk B) : List (Effect B) :=
  d.createAndMigrate ++
    match (d.applyAll d.createAndMigrate).db with
    | some db =>
      if db.groups.size = 0 then [.insertGroup 0 defaultGroup, .saveGroupsTabOrder [0]] else []
    | none => []

/-- `LoadManager`. -/
def loadManager [AbstractBean B] (d : Disk B) (s : ProfileManager B) : ProfileManager B :=
  let d := if d.db.isSome then d else d.applyAll d.createAndMigrate
  ProfileManager.loadManager { s with db := d.db.getD {} }

end Disk

end Proxor.Db
