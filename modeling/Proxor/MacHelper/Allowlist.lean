import Proxor.Lib.Run
import Proxor.Lib.Text
import Proxor.Lib.Utf8

set_option relaxedAutoImplicit false
set_option autoImplicit false

/-!
# The allowlist of users

A file lists the users that may use the helper. What it says is kept, with the time of the last change, the
size and the mode of the file, and read again when one of the three is another. A file that others can
write is not trusted.

## Main definitions

* `Proxor.MacHelper.parseAllowedUIDs` — the users of a text.
* `Proxor.MacHelper.FileAllowlist` — the cache, with `refreshLocked` and `allowed`.
* `Proxor.MacHelper.Look` — what a call finds: the file at the stat and at the read.
* `Proxor.MacHelper.FileAllowlist.Right` — a call fails closed and is up to date.
* `Proxor.MacHelper.FileAllowlist.Steady` — no read goes wrong, and the three fields tell contents apart.

## Main results

* `Proxor.MacHelper.FileAllowlist.refreshLocked_cases` — what a call does to the cache.
* `Proxor.MacHelper.FileAllowlist.steady_right` — in a steady history every call is right.
* `Proxor.MacHelper.FileAllowlist.not_right` — a read error is kept, and so is what was read from a file
  that is not trusted any more.

## Design

A call looks at the file twice, and the file may change between. What was read is written to a log that
nothing depends on.
-/

namespace Proxor.MacHelper

open Text

/-! ### The file -/

/-- A line of the file. Root is always allowed and is not listed. -/
def parseUID (line : String) : Option UInt32 :=
  match parseDigits (trimSpace line).toList with
  | none => none
  | some n => if n < 2 ^ 32 ∧ n ≠ 0 then some (UInt32.ofNat n) else none

/-- `ParseAllowedUIDs`. -/
def parseAllowedUIDs (data : Bytes) : List UInt32 :=
  (splitLines (String.ofList (Utf8.decode data))).filterMap parseUID

/-- A file: when it was changed last, its size and mode, and what is in it. -/
structure File where
  mtime : ℤ
  size : ℕ
  mode : BitVec 32
  content : Bytes
deriving DecidableEq

namespace File

/-- `fs.ModeType`: directories, links, pipes, sockets, devices and irregular files. -/
def modeType : BitVec 32 :=
  1 <<< 31 ||| 1 <<< 27 ||| 1 <<< 25 ||| 1 <<< 24 ||| 1 <<< 26 ||| 1 <<< 21 ||| 1 <<< 19

/-- `IsRegular`. -/
def isRegular (f : File) : Bool := f.mode &&& modeType == 0

/-- Nobody but the owner can write it: the permissions have no bit of `0o022`. -/
def ownerWrites (f : File) : Bool := f.mode &&& 0o777 &&& 0o022 == 0

/-- A regular file that is not writable by its group or by others. -/
def trusted (f : File) : Bool := f.isRegular && f.ownerWrites

end File

/-- What a call finds: the file at the stat, and at the read if there is one; `none` where there is no file
or it cannot be looked at or read. -/
structure Look where
  stat : Option File
  read : Option File

/-! ### The cache -/

/-- `fileAllowlist`. -/
structure FileAllowlist where
  valid : Bool := false
  mtime : ℤ := 0
  size : ℕ := 0
  mode : BitVec 32 := 0
  set : List UInt32 := []
  /-- What was read last, unless the last read went wrong. -/
  content : Option Bytes := none
  /-- The files that were read, as they were then. -/
  reads : List File := []

namespace FileAllowlist

/-- The file has the fields that were noted. -/
def noted (a : FileAllowlist) (f : File) : Bool :=
  a.valid && f.mtime == a.mtime && f.size == a.size && f.mode == a.mode

/-- `os.ReadFile` and what is made of it. -/
def readFile (a : FileAllowlist) (read : Option File) : FileAllowlist :=
  match read with
  | none => { a with content := none }
  | some f =>
    { a with
      set := parseAllowedUIDs f.content, content := some f.content, reads := a.reads ++ [f] }

/-- The fields of the file are noted, and nothing is kept. -/
def note (a : FileAllowlist) (f : File) : FileAllowlist :=
  { a with valid := true, mtime := f.mtime, size := f.size, mode := f.mode, set := [] }

/-- `refreshLocked`. -/
def refreshLocked (a : FileAllowlist) (look : Look) : FileAllowlist :=
  match look.stat with
  | none => { a with valid := false, set := [] }
  | some f =>
    if f.isRegular = false then { a with valid := false, set := [] }
    else if a.noted f then a
    else if f.ownerWrites = false then a.note f
    else (a.note f).readFile look.read

/-- `Allowed`, after the cache was refreshed. -/
def allowed (a : FileAllowlist) (look : Look) (uid : UInt32) : Bool :=
  decide (uid ∈ (a.refreshLocked look).set)

/-! ### What is asked of a call -/

/-- A call fails closed and is up to date: it allows a user only if the user was listed in a file that was
trusted when it was read, and where the file is trusted, can be read and does not change during the call, it
allows those that it lists. -/
def Right (a : FileAllowlist) (look : Look) : Prop :=
  ∀ uid, (a.allowed look uid = true →
      ∃ f ∈ (a.refreshLocked look).reads, f.trusted = true ∧ uid ∈ parseAllowedUIDs f.content) ∧
    ∀ f, look.stat = some f → look.read = some f → f.trusted = true →
      (a.allowed look uid = true ↔ uid ∈ parseAllowedUIDs f.content)

/-- A call that reads the file gets it, still trusted; and a call that finds a trusted file as it was noted
finds what was read then. -/
def Steady (a : FileAllowlist) (look : Look) : Prop :=
  ∀ f ∈ look.stat, f.trusted = true →
    if a.noted f then a.content = some f.content else ∃ g ∈ look.read, g.trusted = true

instance (a : FileAllowlist) (look : Look) : Decidable (a.Steady look) := by
  unfold Steady
  infer_instance

/-! ### One call -/

/-- **What a call does.** It drops what was kept, keeps it, notes a file that is not trusted, or notes one
that is and reads. -/
lemma refreshLocked_cases (a : FileAllowlist) (look : Look) :
    (a.refreshLocked look = { a with valid := false, set := [] } ∧
        ∀ f, look.stat = some f → f.trusted = false) ∨
      ∃ f, look.stat = some f ∧ f.isRegular = true ∧
        ((a.noted f = true ∧ a.refreshLocked look = a) ∨
          a.noted f = false ∧
            a.refreshLocked look = if f.trusted then (a.note f).readFile look.read else a.note f) := by
  rw [refreshLocked]
  cases hstat : look.stat with
  | none => exact Or.inl ⟨rfl, fun f h => absurd h (Option.some_ne_none f).symm⟩
  | some f =>
    dsimp only
    cases hregular : f.isRegular with
    | false =>
      refine Or.inl ⟨rfl, fun g hg => ?_⟩
      obtain rfl := Option.some.inj hg
      rw [File.trusted, hregular]
      rfl
    | true =>
      refine Or.inr ⟨f, rfl, hregular, ?_⟩
      rw [if_neg Bool.noConfusion]
      cases hnoted : a.noted f with
      | true => exact Or.inl ⟨rfl, rfl⟩
      | false =>
        refine Or.inr ⟨rfl, ?_⟩
        rw [if_neg Bool.false_ne_true, File.trusted, hregular, Bool.true_and]
        cases f.ownerWrites <;> rfl

/-- The cache is what was read from a trusted file. -/
structure Inv (a : FileAllowlist) : Prop where
  listed : a.set ≠ [] → ∃ f ∈ a.reads, f.trusted = true ∧ a.set = parseAllowedUIDs f.content
  content : a.valid = true → ∀ f : File, f.mode = a.mode → f.trusted = true →
    ∀ data, a.content = some data → a.set = parseAllowedUIDs data

lemma trusted_of_mode {f g : File} (h : f.mode = g.mode) : f.trusted = g.trusted := by
  rw [File.trusted, File.trusted, File.isRegular, File.isRegular, File.ownerWrites, File.ownerWrites, h]

/-- What is noted has the mode of the file. -/
lemma noted_iff {a : FileAllowlist} {f : File} :
    a.noted f = true ↔ a.valid = true ∧ f.mtime = a.mtime ∧ f.size = a.size ∧ f.mode = a.mode := by
  rw [noted, Bool.and_eq_true, Bool.and_eq_true, Bool.and_eq_true, beq_iff_eq, beq_iff_eq, beq_iff_eq,
    and_assoc, and_assoc]

/-- **A steady call** keeps the invariant and is right.

**Proof sketch.** By what the call does. Where it keeps the cache, the file has what was read; where it
reads, what it reads is what it answers with. -/
theorem step_right {a : FileAllowlist} {look : Look} (ha : a.Inv) (h : a.Steady look) :
    (a.refreshLocked look).Inv ∧ a.Right look := by
  rcases refreshLocked_cases a look with ⟨hdrop, huntrusted⟩ | ⟨f, hstat, -, ⟨hnoted, hkeep⟩ | ⟨hnoted, hread⟩⟩
  · refine ⟨?_, fun uid => ⟨fun hallowed => ?_, fun f hf _ htrusted => ?_⟩⟩
    · rw [hdrop]
      exact ⟨fun hne => absurd rfl hne, fun hvalid => absurd hvalid Bool.false_ne_true⟩
    · rw [allowed, hdrop] at hallowed
      exact absurd (of_decide_eq_true hallowed) List.not_mem_nil
    · exact absurd ((huntrusted f hf).symm.trans htrusted) Bool.false_ne_true
  · obtain ⟨hvalid, -, -, hmode⟩ := noted_iff.1 hnoted
    refine ⟨by rw [hkeep]; exact ha, fun uid => ⟨fun hallowed => ?_, fun g hg _ htrusted => ?_⟩⟩
    · rw [allowed, hkeep] at hallowed
      have hmem := of_decide_eq_true hallowed
      obtain ⟨g, hg, htrusted, hset⟩ := ha.listed (List.ne_nil_of_mem hmem)
      rw [hkeep]
      exact ⟨g, hg, htrusted, hset ▸ hmem⟩
    · obtain rfl := Option.some.inj (hstat.symm.trans hg)
      have hcontent := h f hstat htrusted
      rw [if_pos hnoted] at hcontent
      rw [allowed, hkeep, decide_eq_true_eq, ha.content hvalid f hmode htrusted _ hcontent]
  · cases htrusted : f.trusted with
    | false =>
      rw [htrusted, if_neg Bool.false_ne_true] at hread
      refine ⟨?_, fun uid => ⟨fun hallowed => ?_, fun g hg _ hg' => ?_⟩⟩
      · rw [hread]
        refine ⟨fun hne => absurd rfl hne, fun _ g hmode hg => ?_⟩
        rw [trusted_of_mode (g := f) hmode, htrusted] at hg
        exact absurd hg Bool.false_ne_true
      · rw [allowed, hread] at hallowed
        exact absurd (of_decide_eq_true hallowed) List.not_mem_nil
      · obtain rfl := Option.some.inj (hstat.symm.trans hg)
        exact absurd (htrusted.symm.trans hg') Bool.false_ne_true
    | true =>
      have hsteady := h f hstat htrusted
      rw [hnoted, if_neg Bool.false_ne_true] at hsteady
      obtain ⟨g, hg, hgtrusted⟩ := hsteady
      rw [htrusted, if_pos rfl, hg] at hread
      have hset : (a.refreshLocked look).set = parseAllowedUIDs g.content := by rw [hread]; rfl
      have hmem : g ∈ (a.refreshLocked look).reads := by
        rw [hread]
        exact List.mem_append_right _ (List.mem_singleton_self g)
      refine ⟨⟨fun _ => ⟨g, hmem, hgtrusted, hset⟩, fun _ _ _ _ data hdata => ?_⟩,
        fun uid => ⟨fun hallowed => ?_, fun f' hf' hread' _ => ?_⟩⟩
      · have hcontent : (a.refreshLocked look).content = some g.content := by rw [hread]; rfl
        rw [hset, Option.some.inj (hcontent.symm.trans hdata)]
      · have hlisted := of_decide_eq_true hallowed
        rw [hset] at hlisted
        exact ⟨g, hmem, hgtrusted, hlisted⟩
      · obtain rfl := Option.some.inj (hg.symm.trans hread')
        rw [allowed, decide_eq_true_eq, hset]

/-! ### Histories -/

/-- **The allowlist.** In every history of the file and every sequence of calls that are steady, every call
fails closed and is up to date. -/
theorem steady_right {looks : List Look} (h : Each refreshLocked Steady {} looks) :
    Each refreshLocked Right {} looks := by
  have hinit : Inv {} := ⟨fun hne => absurd rfl hne, fun hvalid => absurd hvalid Bool.false_ne_true⟩
  exact h.imp_of_invariant (fun a look ha hsteady => step_right ha hsteady) hinit

/-- A history in which the file is changed, is not trusted for a while, and is removed. -/
theorem steady_right_changes :
    Each refreshLocked Right {}
      [⟨some ⟨1, 4, 0o644, [53, 48, 49, 10]⟩, some ⟨1, 4, 0o644, [53, 48, 49, 10]⟩⟩,
        ⟨some ⟨1, 4, 0o644, [53, 48, 49, 10]⟩, none⟩,
        ⟨some ⟨2, 4, 0o666, [53, 48, 50, 10]⟩, some ⟨2, 4, 0o666, [53, 48, 50, 10]⟩⟩,
        ⟨some ⟨3, 4, 0o644, [53, 48, 51, 10]⟩, some ⟨3, 4, 0o644, [53, 48, 51, 10]⟩⟩, ⟨none, none⟩] := steady_right (by decide +kernel)

/-- **A read that goes wrong is kept**, and so is what is read from a file that is not trusted any more. A
file that never changes lists a user, the first read of it fails, and the second call still does not allow
the user. And a file that is replaced between the stat and the read by one that everybody can write gives
its users. -/
theorem not_right :
    (¬ ∀ (f : File) (looks : List Look),
        (∀ look ∈ looks, look.stat = some f ∧ (look.read = some f ∨ look.read = none)) →
        Each refreshLocked Right {} looks) ∧
      ¬ ∀ (looks : List Look), (∀ look ∈ looks, look.read ≠ none) → Each refreshLocked Right {} looks := by
  constructor
  · intro hall
    let f : File := ⟨1, 4, 0o644, [53, 48, 49, 10]⟩
    obtain ⟨-, hsecond, -⟩ := hall f [⟨some f, none⟩, ⟨some f, some f⟩] (by
      rintro look hlook
      rcases List.mem_cons.1 hlook with rfl | hlook
      · exact ⟨rfl, Or.inr rfl⟩
      · obtain rfl := List.mem_singleton.1 hlook
        exact ⟨rfl, Or.inl rfl⟩)
    have hallowed := ((hsecond 501).2 f rfl rfl (by decide)).2 (by decide +kernel)
    exact absurd hallowed (by decide +kernel)
  · intro hall
    let f : File := ⟨1, 4, 0o644, [53, 48, 49, 10]⟩
    let g : File := ⟨2, 4, 0o666, [53, 48, 50, 10]⟩
    obtain ⟨hfirst, -⟩ := hall [⟨some f, some g⟩] (by
      rintro look hlook
      obtain rfl := List.mem_singleton.1 hlook
      exact Option.some_ne_none g)
    obtain ⟨f', hf', htrusted, -⟩ := (hfirst 502).1 (by decide +kernel)
    have hreads : (refreshLocked {} ⟨some f, some g⟩).reads = [g] := by decide +kernel
    rw [hreads] at hf'
    obtain rfl := List.mem_singleton.1 hf'
    exact absurd htrusted (by decide)

end FileAllowlist

end Proxor.MacHelper
