import Std.Data.String.ToInt
import Mathlib.Data.Finset.Card
import Mathlib.Data.List.Dedup
import Proxor.Db.Migrate
import Proxor.Db.Loaded

set_option relaxedAutoImplicit false
set_option autoImplicit false

/-!
# A migration that is interrupted

Whether the files are copied is decided by the database not being there, and it is created first. So
after a crash before the transaction is committed the files are never copied. Which row a file becomes
is decided by the identifier in it, and which file is read by its number.

## Main definitions

* `Proxor.Db.EachOnce` — every file is stored once, with what it holds.
* `Proxor.Db.Disk.Kept` — the files are stored, and the tabs are in the order of `pm.json`.
* `Proxor.Db.Disk.Interrupted` — the crash came after the database was created and before the transaction
  was committed.
* `Proxor.Db.Complete` — every file has the name of its number, and a row of its own.

## Main results

* `Proxor.Db.Disk.migration_keeps_iff` — after a crash and another start the files are kept exactly if the crash did
  not come in between and the files are complete, or there is nothing in them.
-/

namespace Proxor.Db

variable {B : Type}

/-! ### What is kept -/

/-- The files `*.json` of a directory. -/
def sources {α : Type} (dir : OrdMap String α) : List (String × α) :=
  dir.entries.filter fun f => ".json".toList.isSuffixOf f.1.toList

/-- Every file can be read. -/
def Readable {α : Type} (dir : OrdMap String (Option α)) : Prop :=
  ∀ f ∈ sources dir, ∃ ent, f.2 = some ent

/-- Every file is stored under an identifier of its own, with what it holds, and nothing else is, unless
there is no file. -/
def EachOnce {α β : Type} (dir : OrdMap String (Option α)) (get : ℤ → Option β)
    (load : ℤ → α → β) : Prop :=
  ∃ row : String → ℤ,
    (∀ f ∈ sources dir, ∀ g ∈ sources dir, row f.1 = row g.1 → f = g) ∧
    (∀ name ent, (name, some ent) ∈ sources dir → get (row name) = some (load (row name) ent)) ∧
    (sources dir ≠ [] → ∀ id v, get id = some v → ∃ f ∈ sources dir, row f.1 = id)

/-- The tabs are in this order, apart from repetitions. -/
def TabsFollow (order tabs : List ℤ) : Prop :=
  (tabs.filter (· ∈ order)).dedup = (order.filter (· ∈ tabs)).dedup

/-- The row of a file: the identifier in it, or its number. -/
def rowId {α : Type} (idOf : α → ℤ) (number : ℤ) (ent : α) : ℤ :=
  if 0 ≤ idOf ent then idOf ent else number

/-- Every file has the name of one of the numbers of the files, and a row of its own. -/
def Complete {α : Type} (dir : OrdMap String (Option α)) (idOf : α → ℤ) : Prop :=
  (∀ f ∈ sources dir, ∃ number ∈ filterIntJsonFile dir, jsonName number = f.1) ∧
    ∀ m ∈ filterIntJsonFile dir, ∀ n ∈ filterIntJsonFile dir, ∀ ent ent' : α,
      dir.get? (jsonName m) = some (some ent) → dir.get? (jsonName n) = some (some ent') →
        rowId idOf m ent = rowId idOf n ent' → m = n

/-! ### The rows of the files -/

section

variable {α β : Type} {dir : OrdMap String (Option α)} {idOf : α → ℤ}

lemma jsonName_inj {m n : ℤ} (h : jsonName m = jsonName n) : m = n := by
  unfold jsonName at h
  have hrepr : Int.repr m = Int.repr n := by
    have hlist := congrArg String.toList h
    rw [String.toList_append, String.toList_append, List.append_cancel_right_eq] at hlist
    exact String.toList_inj.1 hlist
  exact Int.repr_inj.1 hrepr

/-- The name of a number is one of `*.json`. -/
lemma mem_sources {number : ℤ} {content : Option α}
    (h : dir.get? (jsonName number) = some content) : (jsonName number, content) ∈ sources dir := by
  unfold sources
  rw [List.mem_filter]
  refine ⟨dir.mem_entries.2 h, ?_⟩
  rw [List.isSuffixOf_iff_suffix]
  unfold jsonName
  rw [String.toList_append]
  exact List.suffix_append _ _

/-- The rows that the files become, one after the other. -/
def rowsOf (dir : OrdMap String (Option α)) (idOf : α → ℤ) : List (ℤ × α) :=
  (filterIntJsonFile dir).filterMap fun number =>
    match dir.get? (jsonName number) with
    | some (some ent) => some (rowId idOf number ent, ent)
    | _ => none

lemma mem_rowsOf {id : ℤ} {ent : α} : (id, ent) ∈ rowsOf dir idOf ↔
    ∃ number ∈ filterIntJsonFile dir, dir.get? (jsonName number) = some (some ent) ∧
      rowId idOf number ent = id := by
  unfold rowsOf
  rw [List.mem_filterMap]
  refine exists_congr fun number => and_congr_right fun _ => ?_
  split
  · rename_i ent' hget
    rw [hget]
    constructor
    · intro h
      obtain ⟨rfl, rfl⟩ := Prod.mk.inj (Option.some.inj h)
      exact ⟨rfl, rfl⟩
    · rintro ⟨h, rfl⟩
      obtain rfl := Option.some.inj (Option.some.inj h)
      rfl
  · rename_i hget
    exact ⟨fun h => absurd h (by simp), fun h => absurd h.1 (hget ent)⟩

/-- The table of these rows. A row is replaced by a later one. -/
def tableOf (rows : List (ℤ × α)) : OrdMap ℤ α := rows.foldl (fun m e => m.insert e.1 e.2) .empty

/-- What is in the table is one of the rows.

**Proof sketch.** By induction on the rows. -/
lemma mem_of_tableOf {rows : List (ℤ × α)} {id : ℤ} {ent : α}
    (h : (tableOf rows).get? id = some ent) : (id, ent) ∈ rows := by
  have hfold : ∀ (rows : List (ℤ × α)) (m : OrdMap ℤ α),
      (rows.foldl (fun m e => m.insert e.1 e.2) m).get? id = some ent →
        (id, ent) ∈ rows ∨ m.get? id = some ent := by
    intro rows
    induction rows with
    | nil => exact fun m h => .inr h
    | cons e rows ih =>
      intro m h
      rcases ih _ h with h | h
      · exact .inl (List.mem_cons_of_mem _ h)
      · rw [OrdMap.get?_insert] at h
        split_ifs at h with hid
        · obtain rfl := Option.some.inj h
          exact .inl (hid ▸ List.mem_cons_self)
        · exact .inr h
  exact (hfold rows .empty h).resolve_right (by simp)

/-- The identifier of a row is in the table.

**Proof sketch.** By induction on the rows. -/
lemma exists_tableOf {rows : List (ℤ × α)} {id : ℤ} {ent : α} (h : (id, ent) ∈ rows) :
    ∃ ent', (tableOf rows).get? id = some ent' := by
  have hfold : ∀ (rows : List (ℤ × α)) (m : OrdMap ℤ α),
      ((∃ ent', (id, ent') ∈ rows) ∨ ∃ ent', m.get? id = some ent') →
        ∃ ent', (rows.foldl (fun m e => m.insert e.1 e.2) m).get? id = some ent' := by
    intro rows
    induction rows with
    | nil =>
      rintro m (⟨ent', h⟩ | h)
      · exact absurd h List.not_mem_nil
      · exact h
    | cons e rows ih =>
      rintro m h
      refine ih _ ?_
      by_cases hid : id = e.1
      · exact .inr ⟨e.2, by rw [hid]; exact OrdMap.get?_insert_self ..⟩
      · rw [OrdMap.get?_insert_of_ne _ _ hid]
        refine h.imp_left ?_
        rintro ⟨ent', h⟩
        rcases List.mem_cons.1 h with rfl | h
        · exact absurd rfl hid
        · exact ⟨ent', h⟩
  exact hfold rows .empty (.inl ⟨ent, h⟩)

/-- A row is in the table, if no other has its identifier. -/
lemma tableOf_of_mem {rows : List (ℤ × α)} {id : ℤ} {ent : α} (h : (id, ent) ∈ rows)
    (hone : ∀ ent', (id, ent') ∈ rows → ent' = ent) : (tableOf rows).get? id = some ent := by
  obtain ⟨ent', hget⟩ := exists_tableOf h
  rw [hget, hone ent' (mem_of_tableOf hget)]

/-- The row of the file of this name. -/
def rowOf (dir : OrdMap String (Option α)) (idOf : α → ℤ) (name : String) : ℤ :=
  match (filterIntJsonFile dir).find? fun number => jsonName number = name, dir.get? name with
  | some number, some (some ent) => rowId idOf number ent
  | _, _ => 0

lemma rowOf_jsonName {number : ℤ} {ent : α} (hnumber : number ∈ filterIntJsonFile dir)
    (hget : dir.get? (jsonName number) = some (some ent)) :
    rowOf dir idOf (jsonName number) = rowId idOf number ent := by
  have hfind : (filterIntJsonFile dir).find? (fun n => jsonName n = jsonName number) = some number := by
    cases hfind : (filterIntJsonFile dir).find? fun n => jsonName n = jsonName number with
    | none =>
      have hnone := List.find?_eq_none.1 hfind number hnumber
      exact absurd (decide_eq_true rfl) hnone
    | some n =>
      have hname := List.find?_some hfind
      rw [jsonName_inj (of_decide_eq_true hname)]
  unfold rowOf
  rw [hfind, hget]

/-- A file is the only one of its name. -/
lemma eq_of_sources {f g : String × Option α} (hf : f ∈ sources dir) (hg : g ∈ sources dir)
    (h : f.1 = g.1) : f = g := by
  have hf' : dir.get? f.1 = some f.2 := dir.mem_entries.1 (List.mem_of_mem_filter hf)
  have hg' : dir.get? g.1 = some g.2 := dir.mem_entries.1 (List.mem_of_mem_filter hg)
  rw [h, hg'] at hf'
  exact Prod.ext h (Option.some.inj hf').symm

/-- **Files that are complete are stored once each.**

**Proof sketch.** Every file is read, and no other one becomes its row. -/
lemma Complete.eachOnce (hread : Readable dir) {load : ℤ → α → β} (h : Complete dir idOf) :
    EachOnce dir (fun id => ((tableOf (rowsOf dir idOf)).get? id).map (load id)) load := by
  obtain ⟨hnamed, hdistinct⟩ := h
  have hfile : ∀ f ∈ sources dir, ∃ number ∈ filterIntJsonFile dir, ∃ ent, jsonName number = f.1 ∧
      dir.get? (jsonName number) = some (some ent) ∧ f.2 = some ent := by
    intro f hf
    obtain ⟨number, hnumber, hname⟩ := hnamed f hf
    obtain ⟨ent, hent⟩ := hread f hf
    have hget : dir.get? f.1 = some f.2 := dir.mem_entries.1 (List.mem_of_mem_filter hf)
    exact ⟨number, hnumber, ent, hname, by rw [hname, hget, hent], hent⟩
  refine ⟨rowOf dir idOf, fun f hf g hg heq => ?_, fun name ent hf => ?_, fun _ id v hv => ?_⟩
  · obtain ⟨m, hm, ent, hname, hget, -⟩ := hfile f hf
    obtain ⟨n, hn, ent', hname', hget', -⟩ := hfile g hg
    rw [← hname, ← hname', rowOf_jsonName hm hget, rowOf_jsonName hn hget'] at heq
    have hmn := hdistinct m hm n hn ent ent' hget hget' heq
    exact eq_of_sources hf hg (by rw [← hname, ← hname', hmn])
  · obtain ⟨number, hnumber, ent', hname, hget, hent⟩ := hfile _ hf
    obtain rfl := Option.some.inj hent
    have hname : jsonName number = name := hname
    subst hname
    rw [rowOf_jsonName hnumber hget]
    dsimp only
    rw [tableOf_of_mem (mem_rowsOf.2 ⟨number, hnumber, hget, rfl⟩) fun ent'' hent'' => ?_]
    · rfl
    · obtain ⟨n, hn, hget', heq⟩ := mem_rowsOf.1 hent''
      obtain rfl := hdistinct n hn number hnumber _ _ hget' hget heq
      exact Option.some.inj (Option.some.inj (hget'.symm.trans hget))
  · obtain ⟨ent, hent, -⟩ := Option.map_eq_some_iff.1 hv
    obtain ⟨number, hnumber, hget, rfl⟩ := mem_rowsOf.1 (mem_of_tableOf hent)
    exact ⟨_, mem_sources hget, rowOf_jsonName hnumber hget⟩

open Classical in
/-- **Files that are stored once each are complete.**

**Proof sketch.** There are at least as many rows as files. The rows come from the files that have the name
of a number, so these are all, and no two of them become the same row. -/
lemma EachOnce.complete (hread : Readable dir) {load : ℤ → α → β}
    (h : EachOnce dir (fun id => ((tableOf (rowsOf dir idOf)).get? id).map (load id)) load) :
    Complete dir idOf := by
  obtain ⟨row, hinj, hfound, -⟩ := h
  let files : Finset String := ((sources dir).map Prod.fst).toFinset
  let named : Finset String := files.filter fun name =>
    ∃ number ∈ filterIntJsonFile dir, jsonName number = name
  let stored : Finset ℤ := (tableOf (rowsOf dir idOf)).keys.toFinset
  have hmem : ∀ {name : String}, name ∈ files ↔ ∃ f ∈ sources dir, f.1 = name := by
    intro name
    rw [List.mem_toFinset, List.mem_map]
  have hrow : ∀ name ∈ files, row name ∈ stored := by
    intro name hname
    obtain ⟨f, hf, rfl⟩ := hmem.1 hname
    obtain ⟨ent, hent⟩ := hread f hf
    have hget := hfound f.1 ent (hent ▸ hf)
    obtain ⟨ent', hent', -⟩ := Option.map_eq_some_iff.1 hget
    exact List.mem_toFinset.2 ((OrdMap.mem_keys _).2 ⟨ent', hent'⟩)
  have hcard : files.card ≤ stored.card := by
    refine Finset.card_le_card_of_injOn row hrow fun f hf g hg heq => ?_
    obtain ⟨f', hf', rfl⟩ := hmem.1 hf
    obtain ⟨g', hg', rfl⟩ := hmem.1 hg
    exact congrArg Prod.fst (hinj f' hf' g' hg' heq)
  have hsub : stored ⊆ named.image (rowOf dir idOf) := by
    intro id hid
    obtain ⟨ent, hent⟩ := (OrdMap.mem_keys _).1 (List.mem_toFinset.1 hid)
    obtain ⟨number, hnumber, hget, rfl⟩ := mem_rowsOf.1 (mem_of_tableOf hent)
    refine Finset.mem_image.2 ⟨jsonName number, ?_, rowOf_jsonName hnumber hget⟩
    exact Finset.mem_filter.2 ⟨hmem.2 ⟨_, mem_sources hget, rfl⟩, number, hnumber, rfl⟩
  have himage : named.card ≤ (named.image (rowOf dir idOf)).card :=
    (Finset.card_filter_le files _).trans (hcard.trans (Finset.card_le_card hsub))
  have hall : named = files :=
    Finset.eq_of_subset_of_card_le (Finset.filter_subset _ _)
      (hcard.trans ((Finset.card_le_card hsub).trans Finset.card_image_le))
  have hrowInj : Set.InjOn (rowOf dir idOf) named :=
    Finset.card_image_iff.1 (le_antisymm Finset.card_image_le himage)
  refine ⟨fun f hf => ?_, fun m hm n hn ent ent' hget hget' heq => ?_⟩
  · have hname : f.1 ∈ named := hall ▸ hmem.2 ⟨f, hf, rfl⟩
    exact (Finset.mem_filter.1 hname).2
  · have hname : ∀ number ∈ filterIntJsonFile dir, ∀ ent : α,
        dir.get? (jsonName number) = some (some ent) → jsonName number ∈ named :=
      fun number hnumber ent hget =>
        Finset.mem_filter.2 ⟨hmem.2 ⟨_, mem_sources hget, rfl⟩, number, hnumber, rfl⟩
    refine jsonName_inj (hrowInj (hname m hm ent hget) (hname n hn ent' hget') ?_)
    rw [rowOf_jsonName hm hget, rowOf_jsonName hn hget', heq]

/-- Files where only one thing is stored, under the identifier `0`. -/
lemma eachOnce_zero_iff (hread : Readable dir) {get : ℤ → Option β} {load : ℤ → α → β} {v : β}
    (hget : ∀ id, get id = if id = 0 then some v else none) :
    EachOnce dir get load ↔
      sources dir = [] ∨ ∃ name ent, sources dir = [(name, some ent)] ∧ load 0 ent = v := by
  constructor
  · rintro ⟨row, hinj, hfound, -⟩
    have hzero : ∀ name ent, (name, some ent) ∈ sources dir → row name = 0 ∧ load 0 ent = v := by
      intro name ent hf
      have h := hfound name ent hf
      rw [hget] at h
      split_ifs at h with hrow
      refine ⟨hrow, ?_⟩
      rw [hrow] at h
      exact (Option.some.inj h).symm
    cases hsources : sources dir with
    | nil => exact .inl rfl
    | cons f fs =>
      have hf : f ∈ sources dir := hsources ▸ List.mem_cons_self
      obtain ⟨ent, hent⟩ := hread f hf
      have hf' : (f.1, some ent) ∈ sources dir := hent ▸ hf
      have hfs : fs = [] := by
        by_contra hne
        obtain ⟨g, hg⟩ := List.exists_mem_of_ne_nil fs hne
        have hg' : g ∈ sources dir := hsources ▸ List.mem_cons_of_mem _ hg
        obtain ⟨ent', hent'⟩ := hread g hg'
        have hfg : f = g := hinj f hf g hg' ((hzero f.1 ent hf').1.trans
          (hzero g.1 ent' (hent' ▸ hg')).1.symm)
        have hnodup : (sources dir).Nodup := (List.Nodup.of_map _ dir.nodup_keys).filter _
        rw [hsources, List.nodup_cons] at hnodup
        exact hnodup.1 (hfg ▸ hg)
      refine .inr ⟨f.1, ent, ?_, (hzero f.1 ent hf').2⟩
      rw [hfs, ← hent]
  · rintro (hnil | ⟨name, ent, hone, hload⟩)
    · rw [EachOnce, hnil]
      exact ⟨fun _ => 0, fun _ h => absurd h List.not_mem_nil,
        fun _ _ h => absurd h List.not_mem_nil, fun h => absurd rfl h⟩
    · rw [EachOnce, hone]
      refine ⟨fun _ => 0, fun f hf g hg _ => ?_, fun name' ent' hf => ?_, fun _ id v' hv => ?_⟩
      · rw [List.mem_singleton.1 hf, List.mem_singleton.1 hg]
      · obtain ⟨-, heq⟩ := Prod.mk.inj (List.mem_singleton.1 hf)
        obtain rfl := Option.some.inj heq
        rw [hget, if_pos rfl, hload]
      · rw [hget] at hv
        split_ifs at hv with hid
        exact ⟨_, List.mem_singleton_self _, hid.symm⟩

/-- A file that has the name of one of the numbers is read. -/
lemma exists_row (hread : Readable dir) {f : String × Option α} (hf : f ∈ sources dir) {number : ℤ}
    (hnumber : number ∈ filterIntJsonFile dir) (hname : jsonName number = f.1) :
    ∃ id ent, (tableOf (rowsOf dir idOf)).get? id = some ent := by
  obtain ⟨ent, hent⟩ := hread f hf
  have hget : dir.get? (jsonName number) = some (some ent) := by
    rw [hname, ← hent]
    exact dir.mem_entries.1 (List.mem_of_mem_filter hf)
  have hrow : (rowId idOf number ent, ent) ∈ rowsOf dir idOf :=
    mem_rowsOf.2 ⟨number, hnumber, hget, rfl⟩
  exact ⟨_, exists_tableOf hrow⟩

/-- Without files they are complete. -/
lemma complete_of_nil (h : sources dir = []) : Complete dir idOf := by
  refine ⟨fun f hf => absurd (h ▸ hf) List.not_mem_nil, fun m _ n _ ent ent' hget _ _ => ?_⟩
  exact absurd (h ▸ mem_sources hget) List.not_mem_nil

/-- Files where nothing is stored. -/
lemma eachOnce_none_iff (hread : Readable dir) {get : ℤ → Option β} {load : ℤ → α → β}
    (hget : ∀ id, get id = none) : EachOnce dir get load ↔ sources dir = [] := by
  constructor
  · rintro ⟨row, -, hfound, -⟩
    by_contra hne
    obtain ⟨f, hf⟩ := List.exists_mem_of_ne_nil _ hne
    obtain ⟨ent, hent⟩ := hread f hf
    have h := hfound f.1 ent (hent ▸ hf)
    exact absurd ((hget _).symm.trans h) (by simp)
  · intro hnil
    rw [EachOnce, hnil]
    exact ⟨fun _ => 0, fun _ h => absurd h List.not_mem_nil,
      fun _ _ h => absurd h List.not_mem_nil, fun h => absurd rfl h⟩

end

/-! ### What the tables become -/

/-- What a statement makes of the tables. -/
def Effect.onTables : Effect B → Tables B → Tables B
  | .insertGroup id row, db => { db with groups := db.groups.insert id row }
  | .insertProfile id row, db => { db with profiles := db.profiles.insert id row }
  | .saveGroupsTabOrder order, db => { db with groupsTabOrder := some order }
  | _, db => db

/-- What is done is a statement. -/
def Effect.IsStatement : Effect B → Prop
  | .insertGroup _ _ | .insertProfile _ _ | .saveGroupsTabOrder _ => True
  | _ => False

/-- What is done is a renaming. -/
def Effect.IsRename : Effect B → Prop
  | .renameGroup _ | .renameProfile _ | .renamePm => True
  | _ => False

namespace Disk

/-- What the transaction makes of an empty database. -/
def migrated (d : Disk B) : Tables B := d.statements.foldl (fun db e => e.onTables db) {}

/-- The tables that the transaction makes. -/
lemma migrated_eq (d : Disk B) : d.migrated = {
    groups := tableOf (rowsOf d.groups Group.id)
    profiles := tableOf (rowsOf d.profiles ProxyEntity.id)
    groupsTabOrder := d.pm } := by
  have hgroups : (filterIntJsonFile d.groups).filterMap d.groupStatement =
      (rowsOf d.groups Group.id).map fun e => .insertGroup e.1 e.2 := by
    unfold rowsOf
    rw [List.map_filterMap]
    refine List.filterMap_congr fun number _ => ?_
    unfold groupStatement
    rcases d.groups.get? (jsonName number) with _ | _ | ent
    · rfl
    · rfl
    · rfl
  have hprofiles : (filterIntJsonFile d.profiles).filterMap d.profileStatement =
      (rowsOf d.profiles ProxyEntity.id).map fun e => .insertProfile e.1 e.2 := by
    unfold rowsOf
    rw [List.map_filterMap]
    refine List.filterMap_congr fun number _ => ?_
    unfold profileStatement
    rcases d.profiles.get? (jsonName number) with _ | _ | ent
    · rfl
    · rfl
    · rfl
  have hfoldGroups : ∀ (rows : List (ℤ × Group)) (db : Tables B),
      (rows.map fun e => (Effect.insertGroup e.1 e.2 : Effect B)).foldl
        (fun db e => e.onTables db) db =
          { db with groups := rows.foldl (fun m e => m.insert e.1 e.2) db.groups } := by
    intro rows
    induction rows with
    | nil => exact fun db => rfl
    | cons e rows ih => exact fun db => ih _
  have hfoldProfiles : ∀ (rows : List (ℤ × ProxyEntity B)) (db : Tables B),
      (rows.map fun e => Effect.insertProfile e.1 e.2).foldl (fun db e => e.onTables db) db =
          { db with profiles := rows.foldl (fun m e => m.insert e.1 e.2) db.profiles } := by
    intro rows
    induction rows with
    | nil => exact fun db => rfl
    | cons e rows ih => exact fun db => ih _
  unfold migrated statements
  rw [hgroups, hprofiles, List.foldl_append, List.foldl_append, hfoldGroups, hfoldProfiles]
  unfold pmStatement
  cases d.pm with
  | none => rfl
  | some order => rfl

lemma isStatement_of_mem {d : Disk B} {e : Effect B} (he : e ∈ d.statements) : e.IsStatement := by
  unfold statements pmStatement at he
  rw [List.mem_append, List.mem_append, List.mem_filterMap, List.mem_filterMap] at he
  rcases he with (⟨number, -, he⟩ | ⟨number, -, he⟩) | he
  · unfold groupStatement at he
    split at he
    · obtain rfl := Option.some.inj he
      trivial
    · exact absurd he (by simp)
  · unfold profileStatement at he
    split at he
    · obtain rfl := Option.some.inj he
      trivial
    · exact absurd he (by simp)
  · cases hpm : d.pm with
    | none =>
      rw [hpm] at he
      exact absurd he List.not_mem_nil
    | some order =>
      rw [hpm] at he
      rw [List.mem_singleton.1 he]
      trivial

lemma isRename_of_mem {d : Disk B} {e : Effect B} (he : e ∈ d.renames) : e.IsRename := by
  unfold renames at he
  rw [List.mem_append, List.mem_append, List.mem_map, List.mem_map] at he
  rcases he with (⟨number, -, rfl⟩ | ⟨number, -, rfl⟩) | he
  · trivial
  · trivial
  · split_ifs at he
    · rw [List.mem_singleton.1 he]
      trivial
    · exact absurd he List.not_mem_nil

/-! ### What is on the disk after a part of the work -/

lemma applyAll_append (d : Disk B) (es fs : List (Effect B)) :
    d.applyAll (es ++ fs) = (d.applyAll es).applyAll fs := List.foldl_append ..

/-- Statements of an open transaction.

**Proof sketch.** By induction on the statements. -/
lemma applyAll_statements {es : List (Effect B)} (hes : ∀ e ∈ es, e.IsStatement) {d : Disk B}
    {tx : Tables B} (htx : d.tx = some tx) :
    d.applyAll es = { d with tx := some (es.foldl (fun db e => e.onTables db) tx) } := by
  induction es generalizing d tx with
  | nil =>
    rw [List.foldl_nil, ← htx]
    rfl
  | cons e es ih =>
    have hstep : d.apply e = { d with tx := some (e.onTables tx) } := by
      have he := hes e List.mem_cons_self
      cases e with
      | insertGroup id row =>
        unfold apply statement
        rw [htx]
        rfl
      | insertProfile id row =>
        unfold apply statement
        rw [htx]
        rfl
      | saveGroupsTabOrder order =>
        unfold apply statement
        rw [htx]
        rfl
      | _ => exact absurd he id
    have hrest := ih (fun x hx => hes x (List.mem_cons_of_mem _ hx))
      (d := { d with tx := some (e.onTables tx) }) rfl
    unfold applyAll at hrest ⊢
    rw [List.foldl_cons, hstep, hrest]
    rfl

/-- Renaming files does not touch the database. -/
lemma applyAll_renames {es : List (Effect B)} (hes : ∀ e ∈ es, e.IsRename) (d : Disk B) :
    (d.applyAll es).db = d.db ∧ (d.applyAll es).tx = d.tx := by
  induction es generalizing d with
  | nil => exact ⟨rfl, rfl⟩
  | cons e es ih =>
    have hstep : (d.apply e).db = d.db ∧ (d.apply e).tx = d.tx := by
      have he := hes e List.mem_cons_self
      cases e with
      | renameGroup name => exact ⟨rfl, rfl⟩
      | renameProfile name => exact ⟨rfl, rfl⟩
      | renamePm => exact ⟨rfl, rfl⟩
      | _ => exact absurd he id
    obtain ⟨hdb, htx⟩ := ih (fun x hx => hes x (List.mem_cons_of_mem _ hx)) (d.apply e)
    exact ⟨hdb.trans hstep.1, htx.trans hstep.2⟩

/-- The crash comes after the database is created and before the transaction is committed. -/
def Interrupted (d : Disk B) (k : ℕ) : Prop :=
  .createDb ∈ d.firstLoad.take k ∧ .commitTx ∉ d.firstLoad.take k

/-- The tables, or the tables with the group that is added if there is none. -/
def Settled (T t : Tables B) : Prop :=
  t = T ∨ T.groups.size = 0 ∧
    (t = { T with groups := T.groups.insert 0 defaultGroup } ∨
      t = { T with groups := T.groups.insert 0 defaultGroup, groupsTabOrder := some [0] })

/-- Without files there is nothing to do. -/
lemma statements_of_not_jsonExists {d : Disk B} (h : d.jsonExists = false) :
    filterIntJsonFile d.groups = [] ∧ filterIntJsonFile d.profiles = [] ∧ d.statements = [] := by
  unfold jsonExists at h
  rw [Bool.or_eq_false_iff, Bool.or_eq_false_iff, Bool.not_eq_false', Bool.not_eq_false',
    List.isEmpty_iff, List.isEmpty_iff, Option.isSome_eq_false_iff, Option.isNone_iff_eq_none] at h
  obtain ⟨⟨hprofiles, hgroups⟩, hpm⟩ := h
  refine ⟨hgroups, hprofiles, ?_⟩
  unfold statements pmStatement
  rw [hgroups, hprofiles, hpm]
  rfl

/-- The statements that add a group if there is none. -/
def defaults (T : Tables B) : List (Effect B) :=
  if T.groups.size = 0 then [.insertGroup 0 defaultGroup, .saveGroupsTabOrder [0]] else []

/-- Some of the statements that add a group if there is none. -/
lemma settled_defaults {d : Disk B} {T : Tables B} (hdb : d.db = some T) (htx : d.tx = none)
    (m : ℕ) : ∃ t, (d.applyAll ((defaults T).take m)).db = some t ∧ Settled T t := by
  unfold defaults
  split_ifs with hsize
  · have hinsert : d.apply (.insertGroup 0 defaultGroup) =
        { d with db := some { T with groups := T.groups.insert 0 defaultGroup } } := by
      unfold apply statement
      rw [htx, hdb]
      rfl
    rcases m with _ | _ | m
    · exact ⟨T, hdb, .inl rfl⟩
    · refine ⟨_, ?_, .inr ⟨hsize, .inl rfl⟩⟩
      exact congrArg Disk.db hinsert
    · refine ⟨_, ?_, .inr ⟨hsize, .inr rfl⟩⟩
      have hsave : (d.apply (.insertGroup 0 defaultGroup)).apply (.saveGroupsTabOrder [0]) =
          { d with
            db := some { T with
              groups := T.groups.insert 0 defaultGroup, groupsTabOrder := some [0] } } := by
        rw [hinsert]
        unfold apply statement
        rw [htx]
        rfl
      rw [List.take_of_length_le (by simp)]
      exact congrArg Disk.db hsave
  · exact ⟨T, by rw [List.take_nil]; exact hdb, .inl rfl⟩

/-- The transaction is open. -/
lemma applyAll_begin (d : Disk B) : d.applyAll [.createDb, .beginTx] =
    { d with db := some {}, tx := some {} } := rfl

/-- The transaction is committed. -/
lemma applyAll_commit (d : Disk B) :
    d.applyAll (.createDb :: .beginTx :: (d.statements ++ [.commitTx])) =
      { d with db := some d.migrated, tx := none } := by
  have hsplit : Effect.createDb :: Effect.beginTx :: (d.statements ++ [.commitTx]) =
      [.createDb, .beginTx] ++ (d.statements ++ [.commitTx]) := rfl
  rw [hsplit, applyAll_append, applyAll_append, applyAll_begin,
    applyAll_statements (fun e he => isStatement_of_mem he) rfl]
  rfl

/-- The files are copied. -/
lemma applyAll_createAndMigrate {d : Disk B} (htx : d.tx = none) :
    (d.applyAll d.createAndMigrate).db = some d.migrated ∧
      (d.applyAll d.createAndMigrate).tx = none := by
  unfold createAndMigrate
  split_ifs with hjson
  · have hsplit : Effect.createDb :: d.migrateFromJson =
        (.createDb :: .beginTx :: (d.statements ++ [.commitTx])) ++ d.renames := by
      unfold migrateFromJson
      simp
    rw [hsplit, applyAll_append, applyAll_commit]
    exact applyAll_renames (fun e he => isRename_of_mem he) _
  · have hmigrated : d.migrated = {} := by
      unfold migrated
      rw [(statements_of_not_jsonExists (Bool.eq_false_iff.2 hjson)).2.2]
      rfl
    rw [hmigrated]
    exact ⟨rfl, htx⟩

lemma firstLoad_eq {d : Disk B} (htx : d.tx = none) :
    d.firstLoad = d.createAndMigrate ++ defaults d.migrated := by
  unfold firstLoad defaults
  rw [(applyAll_createAndMigrate htx).1]

/-- **What a crash leaves.** Before the database is created, everything is as it was. A crash in between
leaves an empty database. Otherwise the tables are there.

**Proof sketch.** By where the crash comes: before the statements are through the transaction is lost,
and after that nothing touches what was committed. -/
theorem exists_tables_crash {d : Disk B} (htx : d.tx = none) (k : ℕ) :
    (k = 0 ∧ (d.applyAll (d.firstLoad.take k)).crash = d) ∨
      ∃ t, (d.applyAll (d.firstLoad.take k)).crash.db = some t ∧
        ((d.Interrupted k ∧ d.jsonExists = true ∧ t = {}) ∨
          ((¬ d.Interrupted k ∨ d.jsonExists = false) ∧ Settled d.migrated t)) := by
  unfold Interrupted
  rw [firstLoad_eq htx]
  unfold createAndMigrate
  rcases k with _ | k
  · exact .inl ⟨rfl, by unfold crash; rw [← htx]; rfl⟩
  refine .inr ?_
  rw [List.cons_append, List.take_succ_cons]
  by_cases hjson : d.jsonExists = true
  · rw [if_pos hjson]
    unfold migrateFromJson
    rcases k with _ | j
    · exact ⟨{}, rfl, .inl ⟨⟨List.mem_cons_self, by simp⟩, hjson, rfl⟩⟩
    rw [List.cons_append, List.take_succ_cons, List.append_assoc, List.cons_append]
    rcases Nat.lt_or_ge d.statements.length j with hlt | hle
    · -- the transaction is committed
      obtain ⟨m, rfl⟩ := Nat.exists_eq_add_of_lt hlt
      have htake : (d.statements ++ .commitTx :: (d.renames ++ defaults d.migrated)).take
          (d.statements.length + m + 1) =
            d.statements ++ [.commitTx] ++ (d.renames ++ defaults d.migrated).take m := by
        rw [Nat.add_assoc, List.take_length_add_append, List.take_succ_cons, List.append_assoc]
        rfl
      rw [htake]
      have hsplit : Effect.createDb :: Effect.beginTx ::
          (d.statements ++ [.commitTx] ++ (d.renames ++ defaults d.migrated).take m) =
            (.createDb :: .beginTx :: (d.statements ++ [.commitTx])) ++
              (d.renames ++ defaults d.migrated).take m := rfl
      rw [hsplit, applyAll_append, applyAll_commit, List.take_append, applyAll_append]
      obtain ⟨hdb, htx'⟩ := applyAll_renames
        (fun e he => isRename_of_mem (List.mem_of_mem_take (i := m) he))
        { d with db := some d.migrated, tx := none }
      obtain ⟨t, ht, hsettled⟩ := settled_defaults hdb htx' (m - d.renames.length)
      exact ⟨t, ht, .inr ⟨.inl fun h => h.2 (by simp), hsettled⟩⟩
    · -- the transaction is lost
      rw [List.take_append_of_le_length hle]
      have hall : ∀ e ∈ d.statements.take j, e.IsStatement := fun e he =>
        isStatement_of_mem (List.mem_of_mem_take he)
      have hsplit : Effect.createDb :: Effect.beginTx :: d.statements.take j =
          [.createDb, .beginTx] ++ d.statements.take j := rfl
      refine ⟨{}, ?_, .inl ⟨⟨List.mem_cons_self, fun hmem => ?_⟩, hjson, rfl⟩⟩
      · rw [hsplit, applyAll_append, applyAll_begin, applyAll_statements hall rfl]
        rfl
      · rw [List.mem_cons, List.mem_cons] at hmem
        rcases hmem with h | h | h
        · exact absurd h (by simp)
        · exact absurd h (by simp)
        · exact hall _ h
  · rw [if_neg hjson, List.nil_append]
    have hmigrated : d.migrated = {} := by
      unfold migrated
      rw [(statements_of_not_jsonExists (Bool.eq_false_iff.2 hjson)).2.2]
      rfl
    have hsplit : Effect.createDb :: (defaults d.migrated).take k =
        [.createDb] ++ (defaults d.migrated).take k := rfl
    rw [hsplit, applyAll_append]
    have hdb : (d.applyAll [.createDb]).db = some d.migrated := by
      rw [hmigrated]
      rfl
    obtain ⟨t, ht, hsettled⟩ := settled_defaults hdb htx k
    exact ⟨t, ht, .inr ⟨.inr (Bool.eq_false_iff.2 hjson), hsettled⟩⟩

/-- The files are stored, and the tabs are in the order of `pm.json`. -/
structure Kept [AbstractBean B] (d : Disk B) (s : ProfileManager B) : Prop where
  groups : EachOnce d.groups s.groups.get? loadGroup
  profiles : EachOnce d.profiles (fun id => (s.profiles.get? id).map s.objects) loadProxyEntity
  tabs : TabsFollow (d.pm.getD []) s.groupsTabOrder

/-- There is no file, or the only one says what the group says that is added if there is none. -/
def SaysDefault (dir : OrdMap String (Option Group)) : Prop :=
  sources dir = [] ∨ ∃ name ent, sources dir = [(name, some ent)] ∧ loadGroup 0 ent = defaultGroup

/-- No file has the name of one of the numbers of the files. -/
def NoneRead {α : Type} (dir : OrdMap String α) : Prop :=
  ∀ f ∈ sources dir, ∀ number ∈ filterIntJsonFile dir, jsonName number ≠ f.1

/-! ### What is loaded -/

variable [AbstractBean B]

/-- What is loaded of these tables, with the group that is added if there is none. -/
structure Loads (T : Tables B) (s : ProfileManager B) : Prop where
  groups : T.groups.size ≠ 0 → ∀ gid, s.groups.get? gid = (T.groups.get? gid).map (loadGroup gid)
  default : T.groups.size = 0 → ∀ gid : ℤ,
    s.groups.get? gid = if gid = 0 then some defaultGroup else none
  profiles : ∀ id, (s.profiles.get? id).map s.objects = (T.profiles.get? id).map (loadProxyEntity id)
  tabs : T.groups.size ≠ 0 → s.groupsTabOrder = tabsOf s.groups (T.groupsTabOrder.getD [])
  defaultTab : T.groups.size = 0 → ∀ gid, gid ∈ s.groupsTabOrder ↔ gid = 0

/-- **Loading settled tables.**

**Proof sketch.** If there was no group, the one that is added has the identifier `0`, whether it was
written before the crash or not. -/
lemma loads_loadManager {T : Tables B} {s : ProfileManager B} (h : Settled T s.db)
    (hflag : s.dataStore.flag_reorder = false) : Loads T s.loadManager := by
  rw [loadManager_of_plain hflag]
  obtain ⟨u, hload, hread, -, htabs⟩ := isRead_loadFromSqlite s
  obtain ⟨index, hindex⟩ := rebuildGroupProfileIndex_frame u
  rw [hindex] at hload
  obtain ⟨dataStore, hfix, -⟩ := fixCurrentGroup_eq s.loadFromSqlite.ensureGroup
  unfold ProfileManager.loadStored
  rw [hfix]
  have hprofiles : s.db.profiles = T.profiles := by
    rcases h with h | ⟨-, h | h⟩
    · rw [h]
    · rw [h]
    · rw [h]
  have hobjects : ∀ id, (u.profiles.get? id).map u.objects =
      (T.profiles.get? id).map (loadProxyEntity id) := fun id =>
    hprofiles ▸ hread.map_objects id
  have hnone : u.groups.size = 0 → ∀ gid, s.db.groups.get? gid = none := by
    intro hsize gid
    have hget := hread.groups gid
    rw [(OrdMap.size_eq_zero _).1 hsize gid] at hget
    exact Option.map_eq_none_iff.1 hget.symm
  unfold ProfileManager.ensureGroup
  rw [hload]
  by_cases hsize : u.groups.size = 0
  · -- there is no group, so none was written before
    have hdb : s.db = T := by
      rcases h with h | ⟨-, h | h⟩
      · exact h
      · have hzero := hnone hsize 0
        rw [h, OrdMap.get?_insert_self] at hzero
        exact absurd hzero (by simp)
      · have hzero := hnone hsize 0
        rw [h, OrdMap.get?_insert_self] at hzero
        exact absurd hzero (by simp)
    have hT : T.groups.size = 0 := (OrdMap.size_eq_zero _).2 (hdb ▸ hnone hsize)
    have hid : ProfileManager.newGroupID { u with groupProfileIds := index } = 0 := if_pos hsize
    have hget : ∀ gid, u.groups.get? gid = none := (OrdMap.size_eq_zero _).1 hsize
    have hempty : u.groupsTabOrder = [] := by
      rw [htabs, List.eq_nil_iff_forall_not_mem]
      intro gid hmem
      rw [mem_tabsOf, OrdMap.mem_keys, hget] at hmem
      obtain ⟨group, hgroup⟩ := hmem
      exact absurd hgroup (by simp)
    rw [if_pos hsize, Consistent.addGroup_eq (by decide) hid.ge]
    refine ⟨fun hne => absurd hT hne, fun _ gid => ?_, hobjects, fun hne => absurd hT hne,
      fun _ gid => ?_⟩
    · unfold ProfileManager.insertGroup
      dsimp only
      rw [hid, OrdMap.get?_insert, hget]
      rfl
    · unfold ProfileManager.insertGroup
      dsimp only
      rw [hid, hempty, List.nil_append, List.mem_singleton]
  · rw [if_neg hsize]
    have hgroups : ∀ gid, u.groups.get? gid = (s.db.groups.get? gid).map (loadGroup gid) :=
      hread.groups
    by_cases hT : T.groups.size = 0
    · -- the group that is added was written
      have hget : ∀ gid : ℤ, u.groups.get? gid = if gid = 0 then some defaultGroup else none := by
        have hstored : s.db.groups = T.groups.insert 0 defaultGroup := by
          rcases h with h | ⟨-, h | h⟩
          · have hne : ∀ gid, s.db.groups.get? gid = none := by
              rw [h]
              exact (OrdMap.size_eq_zero _).1 hT
            refine absurd ((OrdMap.size_eq_zero _).2 fun gid => ?_) hsize
            rw [hgroups, hne]
            rfl
          · rw [h]
          · rw [h]
        intro gid
        rw [hgroups, hstored, OrdMap.get?_insert, (OrdMap.size_eq_zero _).1 hT]
        split_ifs with hgid
        · have hdefault : loadGroup 0 defaultGroup = defaultGroup := by
            unfold loadGroup defaultGroup
            rw [toDouble_zero]
          rw [hgid, Option.map_some, hdefault]
        · rfl
      refine ⟨fun hne => absurd hT hne, fun _ => hget, hobjects, fun hne => absurd hT hne,
        fun _ gid => ?_⟩
      dsimp only
      rw [htabs, mem_tabsOf, OrdMap.mem_keys, hget]
      split_ifs with hgid
      · exact iff_of_true ⟨_, rfl⟩ hgid
      · exact iff_of_false (fun hmem => hmem.elim fun _ hg => absurd hg (by simp)) hgid
    · have hdb : s.db = T := h.resolve_right fun h => hT h.1
      rw [← hdb]
      exact ⟨fun _ => hgroups, fun hzero => absurd (hdb ▸ hzero) hT, fun id => hdb ▸ hobjects id,
        fun _ => htabs, fun hzero => absurd (hdb ▸ hzero) hT⟩

/-! ### The tabs -/

lemma tabsFollow_tabsOf (groups : OrdMap ℤ Group) (order : List ℤ) :
    TabsFollow order (tabsOf groups order) := by
  have hknown : (tabsOf groups order).filter (· ∈ order) =
      order.filter fun id => groups.contains id := by
    rw [tabsOf_eq, List.filter_append, List.filter_filter, List.filter_filter]
    have hleft : (order.filter fun id => decide (id ∈ order) && groups.contains id) =
        order.filter fun id => groups.contains id :=
      List.filter_congr fun id hid => by simp [hid]
    have hright : (groups.keys.filter fun id => decide (id ∈ order) && decide (id ∉ order)) = [] :=
      List.filter_eq_nil_iff.2 fun id _ => by simp
    rw [hleft, hright, List.append_nil]
  have hsame : (order.filter fun id => decide (id ∈ tabsOf groups order)) =
      order.filter fun id => groups.contains id := by
    refine List.filter_congr fun id _ => ?_
    rw [Bool.eq_iff_iff, decide_eq_true_iff, mem_tabsOf, OrdMap.contains_iff]
  unfold TabsFollow
  rw [hknown, hsame]

/-- A single tab is in any order. -/
lemma tabsFollow_single {order tabs : List ℤ} (htabs : ∀ gid, gid ∈ tabs ↔ gid = 0) :
    TabsFollow order tabs := by
  have hdedup : ∀ l : List ℤ, (∀ gid ∈ l, gid = 0) → l.dedup = if 0 ∈ l then [0] else [] := by
    intro l hl
    split_ifs with hmem
    · refine List.perm_singleton.1 ((List.perm_ext_iff_of_nodup l.nodup_dedup
        (List.nodup_singleton 0)).2 fun gid => ?_)
      rw [List.mem_dedup, List.mem_singleton]
      exact ⟨hl gid, fun h => h ▸ hmem⟩
    · have hnil : l = [] := by
        rw [List.eq_nil_iff_forall_not_mem]
        exact fun gid hgid => hmem (hl gid hgid ▸ hgid)
      rw [hnil]
      rfl
  unfold TabsFollow
  rw [hdedup _ fun gid hgid => (htabs gid).1 (List.mem_filter.1 hgid).1,
    hdedup _ fun gid hgid => (htabs gid).1 (of_decide_eq_true (List.mem_filter.1 hgid).2)]
  have hzero : (0 : ℤ) ∈ tabs := (htabs 0).2 rfl
  simp only [List.mem_filter, decide_eq_true_iff, hzero, true_and, and_true]

/-! ### Starting again -/

/-- What is loaded of an empty database.

**Proof sketch.** Only the group is there that is added. -/
lemma kept_of_empty {d : Disk B} (hgroups : Readable d.groups) (hprofiles : Readable d.profiles)
    {s : ProfileManager B} (h : Loads {} s) :
    d.Kept s ↔ SaysDefault d.groups ∧ sources d.profiles = [] := by
  have hg : EachOnce d.groups s.groups.get? loadGroup ↔ SaysDefault d.groups :=
    eachOnce_zero_iff hgroups (h.default rfl)
  have hp : EachOnce d.profiles (fun id => (s.profiles.get? id).map s.objects) loadProxyEntity ↔
      sources d.profiles = [] :=
    eachOnce_none_iff hprofiles h.profiles
  constructor
  · exact fun hkept => ⟨hg.1 hkept.groups, hp.1 hkept.profiles⟩
  · exact fun hkept => ⟨hg.2 hkept.1, hp.2 hkept.2, tabsFollow_single (h.defaultTab rfl)⟩

/-- What is loaded of the tables that were migrated. -/
lemma kept_of_migrated {d : Disk B} (hgroups : Readable d.groups) (hprofiles : Readable d.profiles)
    {s : ProfileManager B} (h : Loads d.migrated s) :
    d.Kept s ↔ (Complete d.groups Group.id ∨ NoneRead d.groups ∧ SaysDefault d.groups) ∧
      Complete d.profiles ProxyEntity.id := by
  have htables := d.migrated_eq
  have hp : EachOnce d.profiles (fun id => (s.profiles.get? id).map s.objects) loadProxyEntity ↔
      Complete d.profiles ProxyEntity.id := by
    have hget : (fun id => (s.profiles.get? id).map s.objects) = fun id =>
        ((tableOf (rowsOf d.profiles ProxyEntity.id)).get? id).map (loadProxyEntity id) := by
      funext id
      rw [h.profiles, htables]
    rw [hget]
    exact ⟨EachOnce.complete hprofiles, Complete.eachOnce hprofiles⟩
  have hexists : ∀ f ∈ sources d.groups, ∀ number ∈ filterIntJsonFile d.groups,
      jsonName number = f.1 → d.migrated.groups.size ≠ 0 := by
    intro f hf number hnumber hname hsize
    rw [htables] at hsize
    have hempty := (OrdMap.size_eq_zero _).1 hsize
    obtain ⟨id, ent, hrow⟩ := exists_row hgroups hf hnumber hname
    exact absurd ((hempty id).symm.trans hrow) (by simp)
  have hg : EachOnce d.groups s.groups.get? loadGroup ↔
      Complete d.groups Group.id ∨ NoneRead d.groups ∧ SaysDefault d.groups := by
    by_cases hsize : d.migrated.groups.size = 0
    · rw [eachOnce_zero_iff hgroups (h.default hsize)]
      have hnone : NoneRead d.groups := fun f hf number hnumber hname =>
        hexists f hf number hnumber hname hsize
      constructor
      · exact fun hdefault => .inr ⟨hnone, hdefault⟩
      · rintro (hcomplete | ⟨-, hdefault⟩)
        · refine .inl (List.eq_nil_iff_forall_not_mem.2 fun f hf => ?_)
          obtain ⟨number, hnumber, hname⟩ := hcomplete.1 f hf
          exact hnone f hf number hnumber hname
        · exact hdefault
    · have hget : s.groups.get? = fun id =>
          ((tableOf (rowsOf d.groups Group.id)).get? id).map (loadGroup id) := by
        funext id
        rw [h.groups hsize, htables]
      rw [hget]
      constructor
      · exact fun hkept => .inl (EachOnce.complete hgroups hkept)
      · rintro (hcomplete | ⟨hnone, -⟩)
        · exact hcomplete.eachOnce hgroups
        · -- a table with a group comes from a file that was read
          obtain ⟨id, ent, hrow⟩ := OrdMap.exists_get? _ hsize
          rw [htables] at hrow
          obtain ⟨number, hnumber, hfile, -⟩ := mem_rowsOf.1 (mem_of_tableOf hrow)
          exact absurd rfl (hnone _ (mem_sources hfile) number hnumber)
  have htabs : TabsFollow (d.pm.getD []) s.groupsTabOrder := by
    by_cases hsize : d.migrated.groups.size = 0
    · exact tabsFollow_single (h.defaultTab hsize)
    · have horder : d.migrated.groupsTabOrder = d.pm := by rw [htables]
      rw [h.tabs hsize, horder]
      exact tabsFollow_tabsOf _ _
  constructor
  · exact fun hkept => ⟨hg.1 hkept.groups, hp.1 hkept.profiles⟩
  · exact fun hkept => ⟨hg.2 hkept.1, hp.2 hkept.2, htabs⟩

/-- **After a crash and another start the files are kept exactly if the crash did not come in between and
every file has the name of its number and a row of its own, or there is nothing in them.** -/
theorem migration_keeps_iff {d : Disk B} (hdb : d.db = none) (htx : d.tx = none) (hgroups : Readable d.groups)
    (hprofiles : Readable d.profiles) {s : ProfileManager B}
    (hflag : s.dataStore.flag_reorder = false) (k : ℕ) :
    d.Kept ((d.applyAll (d.firstLoad.take k)).crash.loadManager s) ↔
      (¬ d.Interrupted k ∧ Complete d.groups Group.id ∨
        (d.Interrupted k ∨ NoneRead d.groups) ∧ SaysDefault d.groups) ∧
      (¬ d.Interrupted k ∧ Complete d.profiles ProxyEntity.id ∨ sources d.profiles = []) := by
  have hnil : ∀ {α : Type} {dir : OrdMap String (Option α)} {idOf : α → ℤ},
      filterIntJsonFile dir = [] → Complete dir idOf → sources dir = [] := by
    intro α dir idOf hnumbers hcomplete
    refine List.eq_nil_iff_forall_not_mem.2 fun f hf => ?_
    obtain ⟨number, hnumber, -⟩ := hcomplete.1 f hf
    exact absurd (hnumbers ▸ hnumber) List.not_mem_nil
  have hfull : ¬ d.Interrupted k ∨ d.jsonExists = false → ∀ w, Loads d.migrated w →
      (d.Kept w ↔ (¬ d.Interrupted k ∧ Complete d.groups Group.id ∨
        (d.Interrupted k ∨ NoneRead d.groups) ∧ SaysDefault d.groups) ∧
      (¬ d.Interrupted k ∧ Complete d.profiles ProxyEntity.id ∨ sources d.profiles = [])) := by
    intro hcase w hw
    rw [kept_of_migrated hgroups hprofiles hw]
    by_cases hint : d.Interrupted k
    · obtain ⟨hnumbers, hnumbers', -⟩ := statements_of_not_jsonExists (hcase.resolve_left fun h => h hint)
      have hnone : NoneRead d.groups := fun f _ number hnumber =>
        absurd (hnumbers ▸ hnumber) List.not_mem_nil
      constructor
      · rintro ⟨hg, hp⟩
        refine ⟨.inr ⟨.inl hint, ?_⟩, .inr (hnil hnumbers' hp)⟩
        exact hg.elim (fun hcomplete => .inl (hnil hnumbers hcomplete)) fun h => h.2
      · rintro ⟨hg, hp⟩
        refine ⟨.inr ⟨hnone, ?_⟩, ?_⟩
        · exact hg.elim (fun h => absurd hint h.1) fun h => h.2
        · exact hp.elim (fun h => absurd hint h.1) complete_of_nil
    · constructor
      · rintro ⟨hg, hp⟩
        exact ⟨hg.imp (fun h => ⟨hint, h⟩) fun h => ⟨.inr h.1, h.2⟩, .inl ⟨hint, hp⟩⟩
      · rintro ⟨hg, hp⟩
        exact ⟨hg.imp (fun h => h.2) fun h => ⟨h.1.resolve_left hint, h.2⟩,
          hp.elim (fun h => h.2) complete_of_nil⟩
  rcases exists_tables_crash htx k with ⟨rfl, hcrash⟩ | ⟨t, ht, hcase⟩
  · have hnot : ¬ d.Interrupted 0 := fun h => absurd h.1 (by simp)
    refine hfull (.inl hnot) _ ?_
    rw [hcrash]
    unfold loadManager
    rw [hdb]
    dsimp only [Option.isSome_none]
    rw [if_neg Bool.false_ne_true, (applyAll_createAndMigrate htx).1]
    exact loads_loadManager (s := { s with db := d.migrated }) (.inl rfl) hflag
  · have hload : (d.applyAll (d.firstLoad.take k)).crash.loadManager s =
        ProfileManager.loadManager { s with db := t } := by
      unfold loadManager
      rw [ht]
      dsimp only [Option.isSome_some]
      rw [if_pos rfl, ht]
      rfl
    rw [hload]
    rcases hcase with ⟨hint, -, rfl⟩ | ⟨hcase, hsettled⟩
    · rw [kept_of_empty hgroups hprofiles
        (loads_loadManager (s := { s with db := {} }) (.inl rfl) hflag)]
      constructor
      · exact fun h => ⟨.inr ⟨.inl hint, h.1⟩, .inr h.2⟩
      · rintro ⟨hg, hp⟩
        exact ⟨hg.elim (fun h => absurd hint h.1) fun h => h.2,
          hp.elim (fun h => absurd hint h.1) id⟩
    · exact hfull hcase _ (loads_loadManager (s := { s with db := t }) hsettled hflag)

/-! ### A group -/

open Fmt in
/-- A disk with the file of a group. -/
def workDisk : Disk ChainBean where
  groups := OrdMap.empty.insert "0.json" (some { id := 0, name := "Work" })

lemma readable_workDisk : Readable workDisk.groups ∧ Readable workDisk.profiles := by
  refine ⟨fun f hf => ?_, fun f hf => absurd (List.mem_of_mem_filter hf) List.not_mem_nil⟩
  obtain rfl := List.mem_singleton.1 (List.mem_of_mem_filter hf)
  exact ⟨_, rfl⟩

/-- After a crash when everything is done. -/
theorem migration_keeps_iff_workDisk :
    workDisk.Kept ((workDisk.applyAll (workDisk.firstLoad.take 5)).crash.loadManager freshStore) ↔
      (¬ workDisk.Interrupted 5 ∧ Complete workDisk.groups Group.id ∨
        (workDisk.Interrupted 5 ∨ NoneRead workDisk.groups) ∧ SaysDefault workDisk.groups) ∧
      (¬ workDisk.Interrupted 5 ∧ Complete workDisk.profiles ProxyEntity.id ∨
        sources workDisk.profiles = []) :=
  migration_keeps_iff rfl rfl readable_workDisk.1 readable_workDisk.2 rfl 5

/-- After a crash as soon as the database is created the group is lost. -/
theorem not_kept_workDisk :
    ¬ ∀ d : Disk Fmt.ChainBean, d.db = none → d.tx = none → Readable d.groups →
      Readable d.profiles → ∀ s : ProfileManager Fmt.ChainBean,
        s.dataStore.flag_reorder = false → ∀ k,
          d.Kept ((d.applyAll (d.firstLoad.take k)).crash.loadManager s) := by
  intro h
  have hkept := h workDisk rfl rfl readable_workDisk.1 readable_workDisk.2 freshStore rfl 1
  have hload : Loads {} (ProfileManager.loadManager { freshStore with db := {} }) :=
    loads_loadManager (s := { freshStore with db := {} }) (.inl rfl) rfl
  obtain ⟨hdefault, -⟩ := (kept_of_empty readable_workDisk.1 readable_workDisk.2 hload).1 hkept
  have hsources : sources workDisk.groups = [("0.json", some { id := 0, name := "Work" })] := by
    decide
  rcases hdefault with hnil | ⟨name, ent, hone, hsays⟩
  · rw [hsources] at hnil
    exact absurd hnil (List.cons_ne_nil _ _)
  · rw [hsources] at hone
    obtain ⟨hfile, -⟩ := List.cons.inj hone
    obtain ⟨-, hcontent⟩ := Prod.mk.inj hfile
    obtain rfl := Option.some.inj hcontent
    exact absurd (congrArg Group.name hsays) (by decide)

end Disk

end Proxor.Db
