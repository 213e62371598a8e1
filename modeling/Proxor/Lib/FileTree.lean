import Mathlib.Data.List.Infix
import Mathlib.Data.List.Lex
import Mathlib.Data.Nat.Notation
import Mathlib.Order.Lattice
import Proxor.Lib.OrdMap

set_option relaxedAutoImplicit false
set_option autoImplicit false

/-!
# Trees of files

A directory with what is below it: directories, regular files and relative symbolic links, each under
the path of names that leads to it. A path is resolved from a directory on, a link being replaced by its
target as often as a limit allows.

## Main definitions

* `FileTree.Tree` — a tree: whatever is in it is in a directory.
* `FileTree.Tree.names` — the names in a directory, in order.
* `FileTree.Tree.prune`, `FileTree.Tree.put` — things are removed, or something is put into a directory.
* `FileTree.Tree.resolve` — where a path leads, and what it passes through.

## Main results

* `FileTree.Tree.mem_names`, `FileTree.Tree.pairwise_names` — a listing is exact and sorted.
* `FileTree.Tree.resolve_congr` — a path resolves the same where what it passes through is the same.
* `FileTree.Tree.resolve_absent` — a path does not resolve once something it passes through is gone.
-/

namespace FileTree

universe u v

/-- A step of a path: to the parent, or to an entry. -/
inductive Step (κ : Type u)
  | up
  | into (x : κ)
  deriving DecidableEq

/-- What a path leads to. -/
inductive Node (κ : Type u) (α : Type v)
  | dir
  | file (data : α)
  | link (target : List (Step κ))
  deriving DecidableEq

instance {κ : Type u} {α : Type v} (n : Option (Node κ α)) : Decidable (n = some .dir) :=
  match n with
  | none => isFalse (by rintro ⟨⟩)
  | some .dir => isTrue rfl
  | some (.file _) => isFalse (by rintro ⟨⟩)
  | some (.link _) => isFalse (by rintro ⟨⟩)

/-- A directory with what is below it. -/
structure Tree (κ : Type u) [LinearOrder κ] (α : Type v) where
  nodes : OrdMap (List κ) (Node κ α)
  root : nodes.get? [] = some .dir
  parents : ∀ p x, (nodes.get? (p ++ [x])).isSome → nodes.get? p = some .dir

/-- Why an operation on a tree fails. -/
inductive Errno
  | notExist
  | notDir
  | loop
  | exist
  | isDir
  deriving DecidableEq

/-- A path that resolves: what it passes through, and where it leads. -/
structure Route (κ : Type u) where
  visited : List (List κ)
  dest : List κ
  deriving DecidableEq

/-- A route that first passes through `p`. -/
def Route.after {κ : Type u} (p : List κ) (r : Route κ) : Route κ := { r with visited := p :: r.visited }

/-- What is above a path is at or above the directory it is in. -/
lemma prefix_dropLast {κ : Type u} {p q : List κ} (h : p <+: q) (hne : p ≠ q) : p <+: q.dropLast := by
  have hnil : q ≠ [] := by
    rintro rfl
    exact hne (List.prefix_nil.1 h)
  rw [← List.dropLast_concat_getLast hnil, List.prefix_concat_iff,
    List.dropLast_concat_getLast hnil] at h
  exact h.resolve_left hne

namespace Tree

variable {κ : Type u} [LinearOrder κ] {α : Type v} (t : Tree κ α)

/-- What is at a path of names, no link being followed. -/
def node (p : List κ) : Option (Node κ α) := t.nodes.get? p

/-- An empty directory. -/
def empty : Tree κ α where
  nodes := OrdMap.empty.insert [] .dir
  root := OrdMap.get?_insert_self ..
  parents p x h := by
    rw [OrdMap.get?_insert_of_ne _ _ (List.concat_ne_nil _ _), OrdMap.get?_empty] at h
    cases h

@[simp] lemma node_nil : t.node [] = some .dir := t.root

variable {t}

/-- Whatever is there is in a directory. -/
lemma node_parent {p : List κ} {x : κ} (h : t.node (p ++ [x]) ≠ none) : t.node p = some .dir :=
  t.parents p x (Option.isSome_iff_ne_none.2 h)

/-- What has something below it is a directory. -/
lemma node_of_below {p q : List κ} (hq : q ≠ []) (h : t.node (p ++ q) ≠ none) :
    t.node p = some .dir := by
  induction q using List.reverseRecOn with
  | nil => exact absurd rfl hq
  | append_singleton q x ih =>
    rw [← List.append_assoc] at h
    have hparent := node_parent h
    rcases eq_or_ne q [] with rfl | hne
    · rwa [List.append_nil] at hparent
    · exact ih hne (by rw [hparent]; exact Option.some_ne_none _)

/-- Nothing is below what is not a directory. -/
lemma node_below_of_ne {p q : List κ} (hq : q ≠ []) (h : t.node p ≠ some .dir) :
    t.node (p ++ q) = none := by
  by_contra hne
  exact h (node_of_below hq hne)

/-- Every directory on the way to a directory is one. -/
lemma node_of_isPrefix {p q : List κ} (hpq : p <+: q) (h : t.node q = some .dir) :
    t.node p = some .dir := by
  obtain ⟨r, rfl⟩ := hpq
  rcases eq_or_ne r [] with rfl | hne
  · rwa [List.append_nil] at h
  · exact node_of_below hne (by rw [h]; exact Option.some_ne_none _)

/-- Whatever is above something is there. -/
lemma node_ne_none_of_isPrefix {p q : List κ} (hpq : p <+: q) (h : t.node q ≠ none) :
    t.node p ≠ none := by
  obtain ⟨r, rfl⟩ := hpq
  rcases eq_or_ne r [] with rfl | hne
  · rwa [List.append_nil] at h
  · rw [node_of_below hne h]
    exact Option.some_ne_none _

/-! ### Listings -/

variable (t)

/-- The name of an entry of a directory. -/
def nameIn (p q : List κ) : Option κ := if q.dropLast = p then q.getLast? else none

/-- The names in a directory, in order. -/
def names (p : List κ) : List κ := t.nodes.keys.filterMap (nameIn p)

variable {t}

lemma nameIn_eq_some {p q : List κ} {x : κ} : nameIn p q = some x ↔ q = p ++ [x] := by
  unfold nameIn
  constructor
  · intro h
    split_ifs at h with hp
    rw [← hp]
    exact (List.dropLast_append_getLast? x h).symm
  · rintro rfl
    rw [List.dropLast_concat, if_pos rfl, List.getLast?_concat]

/-- The names in a directory are those of what is there. -/
theorem mem_names {p : List κ} {x : κ} : x ∈ t.names p ↔ t.node (p ++ [x]) ≠ none := by
  rw [names, List.mem_filterMap, ← Option.isSome_iff_ne_none, Option.isSome_iff_exists]
  constructor
  · rintro ⟨q, hq, hname⟩
    rw [nameIn_eq_some.1 hname] at hq
    exact t.nodes.mem_keys.1 hq
  · intro h
    exact ⟨_, t.nodes.mem_keys.2 h, nameIn_eq_some.2 rfl⟩

/-- Names in one directory compare as their paths do. -/
lemma concat_lt_concat {p : List κ} {x y : κ} : p ++ [x] < p ++ [y] ↔ x < y := by
  induction p with
  | nil => simp [List.cons_lt_cons_iff]
  | cons z p ih => simpa [List.cons_lt_cons_iff] using ih

/-- The names in a directory are sorted. -/
theorem pairwise_names (t : Tree κ α) (p : List κ) : (t.names p).Pairwise (· < ·) := by
  refine List.Pairwise.filterMap _ ?_ t.nodes.sorted
  intro q q' hlt x hx y hy
  rw [nameIn_eq_some.1 hx, nameIn_eq_some.1 hy] at hlt
  exact concat_lt_concat.1 hlt

/-- Two directories with the same names have the same listing. -/
lemma names_congr {t' : Tree κ α} {p q : List κ}
    (h : ∀ x, t.node (p ++ [x]) = none ↔ t'.node (q ++ [x]) = none) : t.names p = t'.names q := by
  have henum : Enumerates (t.names p) fun x => t'.node (q ++ [x]) ≠ none :=
    ⟨t.pairwise_names p, fun x => mem_names.trans (not_congr (h x))⟩
  exact henum.unique ⟨t'.pairwise_names q, fun x => mem_names⟩

/-! ### The order of a walk -/

/-- A walk in the order of the names is done with `v` when it comes to `p`: where the two part, `v` takes
the smaller name. -/
def Before (p v : List κ) : Prop := ∃ c y x, c ++ [y] <+: v ∧ c ++ [x] <+: p ∧ y < x

omit t in
lemma not_before_nil (v : List κ) : ¬ Before [] v := by
  rintro ⟨c, y, x, -, hx, -⟩
  exact List.concat_ne_nil _ _ (List.prefix_nil.1 hx)

omit t in
/-- When it comes to an entry, the walk is done with what it was done with before and with the entries of
smaller names. -/
lemma before_concat {p v : List κ} {x : κ} :
    Before (p ++ [x]) v ↔ Before p v ∨ ∃ y, y < x ∧ p ++ [y] <+: v := by
  constructor
  · rintro ⟨c, y, x', hv, hp, hlt⟩
    rcases List.prefix_concat_iff.1 hp with heq | hp
    · obtain ⟨rfl, hx⟩ := List.append_inj' heq rfl
      obtain rfl := List.singleton_inj.1 hx
      exact .inr ⟨y, hlt, hv⟩
    · exact .inl ⟨c, y, x', hv, hp, hlt⟩
  · rintro (⟨c, y, x', hv, hp, hlt⟩ | ⟨y, hlt, hv⟩)
    · exact ⟨c, y, x', hv, hp.trans (List.prefix_append _ _), hlt⟩
    · exact ⟨p, y, x, hv, List.prefix_refl _, hlt⟩

/-- The names in a directory that come before one of them are the smaller ones. -/
lemma mem_before_iff {p v : List κ} {before after : List κ} {x : κ}
    (hnames : t.names p = before ++ x :: after) (hv : t.node v ≠ none) :
    (∃ y ∈ before, p ++ [y] <+: v) ↔ ∃ y, y < x ∧ p ++ [y] <+: v := by
  have hsorted := t.pairwise_names p
  rw [hnames, List.pairwise_append, List.pairwise_cons] at hsorted
  constructor
  · rintro ⟨y, hy, hpre⟩
    exact ⟨y, hsorted.2.2 y hy x List.mem_cons_self, hpre⟩
  · rintro ⟨y, hlt, hpre⟩
    have hmem : y ∈ before ++ x :: after := by
      rw [← hnames]
      exact mem_names.2 (node_ne_none_of_isPrefix hpre hv)
    rcases List.mem_append.1 hmem with hy | hy
    · exact ⟨y, hy, hpre⟩
    · rcases List.mem_cons.1 hy with rfl | hy
      · exact absurd hlt (lt_irrefl _)
      · exact absurd (hsorted.2.1.1 y hy) (not_lt_of_gt hlt)

omit t in
/-- The walk is not done with what is on the way. -/
lemma Before.not_prefix {p v : List κ} (h : Before p v) : ¬ v <+: p := by
  obtain ⟨c, y, x, hv, hp, hlt⟩ := h
  intro hpre
  have hlen : (c ++ [y]).length = (c ++ [x]).length := by simp
  have heq := List.prefix_of_prefix_length_le (hv.trans hpre) hp hlen.le
  have hcat : c ++ [y] = c ++ [x] := heq.eq_of_length hlen
  rw [List.singleton_inj.1 (List.append_cancel_left hcat)] at hlt
  exact lt_irrefl _ hlt

omit t in
/-- What is below something the walk is done with is done. -/
lemma Before.below {p v w : List κ} (h : Before p v) (hvw : v <+: w) : Before p w := by
  obtain ⟨c, y, x, hv, hp, hlt⟩ := h
  exact ⟨c, y, x, hv.trans hvw, hp, hlt⟩

omit t in
/-- The walk is not done with what is below. -/
lemma not_before_of_prefix {p v : List κ} (h : p <+: v) : ¬ Before p v := by
  rintro ⟨c, y, x, hv, hp, hlt⟩
  have hlen : (c ++ [y]).length = (c ++ [x]).length := by simp
  have heq := List.prefix_of_prefix_length_le (hp.trans h) hv hlen.ge
  have hcat : c ++ [x] = c ++ [y] := heq.eq_of_length hlen.symm
  rw [List.singleton_inj.1 (List.append_cancel_left hcat)] at hlt
  exact lt_irrefl _ hlt

/-! ### Changes -/

/-- What is gone is removed, with all that is below it. -/
def prune (t : Tree κ α) (gone : List κ → Bool) (hroot : gone [] = false)
    (hbelow : ∀ p x, gone p = true → gone (p ++ [x]) = true) : Tree κ α where
  nodes := t.nodes.filter fun p => !gone p
  root := by rw [OrdMap.get?_filter, hroot]; exact t.root
  parents p x h := by
    rw [OrdMap.get?_filter] at h ⊢
    cases hp : gone p with
    | true =>
      rw [hbelow p x hp] at h
      cases h
    | false =>
      refine t.parents p x ?_
      by_contra hnone
      rw [Option.not_isSome_iff_eq_none] at hnone
      rw [hnone, ite_self] at h
      cases h

lemma node_prune {gone : List κ → Bool} (hroot : gone [] = false)
    (hbelow : ∀ p x, gone p = true → gone (p ++ [x]) = true) (q : List κ) :
    (t.prune gone hroot hbelow).node q = if gone q then none else t.node q := by
  rw [node, prune, OrdMap.get?_filter, node]
  cases gone q <;> rfl

/-- Something is put into a directory, in the place of nothing or of something that is no directory. -/
def put (t : Tree κ α) (p : List κ) (x : κ) (n : Node κ α) (hp : t.node p = some .dir)
    (hx : t.node (p ++ [x]) ≠ some .dir) : Tree κ α where
  nodes := t.nodes.insert (p ++ [x]) n
  root := by
    rw [OrdMap.get?_insert_of_ne _ _ (Ne.symm (List.concat_ne_nil _ _))]
    exact t.root
  parents q y h := by
    rw [OrdMap.get?_insert] at h
    rw [OrdMap.get?_insert]
    split_ifs at h with heq
    · have hq : q = p := List.append_inj_left' heq rfl
      rw [if_neg (by rw [hq]; exact fun h => absurd h (by simp)), hq]
      exact hp
    · have hdir := t.parents q y h
      have hne : q ≠ p ++ [x] := by
        rintro rfl
        exact hx hdir
      rwa [if_neg hne]

lemma node_put {p : List κ} {x : κ} {n : Node κ α} (hp : t.node p = some .dir)
    (hx : t.node (p ++ [x]) ≠ some .dir) (q : List κ) :
    (t.put p x n hp hx).node q = if q = p ++ [x] then some n else t.node q := by
  rw [node, put, OrdMap.get?_insert]
  split_ifs <;> rfl

/-- The nodes of a tree with everything in a directory `x`. -/
def underNodes (x : κ) (m : OrdMap (List κ) (Node κ α)) : OrdMap (List κ) (Node κ α) where
  entries := ([], .dir) :: m.entries.map fun e => (x :: e.1, e.2)
  sorted := by
    rw [List.map_cons, List.map_map, List.pairwise_cons]
    refine ⟨fun k hk => ?_, List.pairwise_map.2 ?_⟩
    · obtain ⟨e, -, rfl⟩ := List.mem_map.1 hk
      exact List.nil_lt_cons _ _
    · exact (List.pairwise_map.1 m.sorted).imp fun h => List.cons_lt_cons_self.2 h

lemma get?_underNodes (x : κ) (m : OrdMap (List κ) (Node κ α)) (y : κ) (q : List κ) :
    (underNodes x m).get? (y :: q) = if y = x then m.get? q else none := by
  refine Option.ext fun n => ?_
  rw [← (underNodes x m).mem_entries]
  simp only [underNodes, List.mem_cons, List.mem_map, Prod.mk.injEq, reduceCtorEq, false_and,
    false_or, List.cons.injEq]
  split_ifs with hxy
  · rw [← m.mem_entries]
    constructor
    · rintro ⟨e, he, ⟨-, rfl⟩, rfl⟩
      exact he
    · exact fun he => ⟨(q, n), he, ⟨hxy.symm, rfl⟩, rfl⟩
  · constructor
    · rintro ⟨e, -, ⟨rfl, -⟩, -⟩
      exact absurd rfl hxy
    · rintro ⟨⟩

/-- A tree in a directory `x`. -/
def under (x : κ) (t : Tree κ α) : Tree κ α where
  nodes := underNodes x t.nodes
  root := rfl
  parents p y h := by
    cases p with
    | nil => rfl
    | cons z p =>
      rw [List.cons_append, get?_underNodes] at h
      rw [get?_underNodes]
      split_ifs at h ⊢ with hz
      · exact t.parents p y h
      · cases h

/-- A tree at the end of a path of directories. -/
def graft : List κ → Tree κ α → Tree κ α
  | [], t => t
  | x :: p, t => under x (graft p t)

/-- The tree is at the end of the path. -/
lemma node_graft (p q : List κ) : (graft p t).node (p ++ q) = t.node q := by
  induction p with
  | nil => rfl
  | cons x p ih =>
    rw [List.cons_append, graft, node, under, get?_underNodes, if_pos rfl]
    exact ih

/-- Elsewhere there are the directories of the path. -/
lemma node_graft_of_not_prefix (p : List κ) : ∀ {q : List κ}, ¬ p <+: q →
    (graft p t).node q = none ∨ ((graft p t).node q = some .dir ∧ q <+: p) := by
  induction p with
  | nil => exact fun h => absurd List.nil_prefix h
  | cons x p ih =>
    intro q h
    cases q with
    | nil => exact .inr ⟨rfl, List.nil_prefix⟩
    | cons y q =>
      rw [graft, node, under, get?_underNodes]
      split_ifs with hxy
      · subst hxy
        rcases ih (q := q) (fun hpre => h ((List.prefix_cons_inj y).2 hpre)) with hnone | ⟨hdir, hpre⟩
        · exact .inl hnone
        · exact .inr ⟨hdir, (List.prefix_cons_inj y).2 hpre⟩
      · exact .inl rfl

/-! ### Resolution -/

variable (t)

/-- Where a path leads from a directory on, up to the first link: `jump` follows that. -/
def walk (jump : List κ → List (Step κ) → Except Errno (Route κ)) :
    List κ → List (Step κ) → Except Errno (Route κ)
  | pos, [] => .ok ⟨[], pos⟩
  | pos, .up :: rest => if pos = [] then .error .notExist else walk jump pos.dropLast rest
  | pos, .into x :: rest =>
    match t.node (pos ++ [x]) with
    | none => .error .notExist
    | some .dir => (walk jump (pos ++ [x]) rest).map (Route.after (pos ++ [x]))
    | some (.file _) => if rest = [] then .ok ⟨[pos ++ [x]], pos ++ [x]⟩ else .error .notDir
    | some (.link target) => (jump pos (target ++ rest)).map (Route.after (pos ++ [x]))

/-- Where a path leads from a directory on, with at most so many links being followed. -/
def resolve : ℕ → List κ → List (Step κ) → Except Errno (Route κ)
  | 0 => t.walk fun _ _ => .error .loop
  | limit + 1 => t.walk (resolve limit)

/-- The path leads from `pos` to `dest` and passes through `visited`, with at most `limit` links. -/
inductive Leads : ℕ → List κ → List (Step κ) → List (List κ) → List κ → Prop
  | done {limit : ℕ} {pos : List κ} : Leads limit pos [] [] pos
  | up {limit : ℕ} {pos dest : List κ} {rest : List (Step κ)} {visited : List (List κ)}
      (hpos : pos ≠ []) (hrest : Leads limit pos.dropLast rest visited dest) :
      Leads limit pos (.up :: rest) visited dest
  | dir {limit : ℕ} {pos dest : List κ} {x : κ} {rest : List (Step κ)} {visited : List (List κ)}
      (hnode : t.node (pos ++ [x]) = some .dir) (hrest : Leads limit (pos ++ [x]) rest visited dest) :
      Leads limit pos (.into x :: rest) ((pos ++ [x]) :: visited) dest
  | file {limit : ℕ} {pos : List κ} {x : κ} {data : α}
      (hnode : t.node (pos ++ [x]) = some (.file data)) :
      Leads limit pos [.into x] [pos ++ [x]] (pos ++ [x])
  | link {limit : ℕ} {pos dest : List κ} {x : κ} {target rest : List (Step κ)}
      {visited : List (List κ)} (hnode : t.node (pos ++ [x]) = some (.link target))
      (hrest : Leads limit pos (target ++ rest) visited dest) :
      Leads (limit + 1) pos (.into x :: rest) ((pos ++ [x]) :: visited) dest

variable {t}

lemma resolve_nil (limit : ℕ) (pos : List κ) : t.resolve limit pos [] = .ok ⟨[], pos⟩ := by
  cases limit <;> rfl

lemma resolve_up (limit : ℕ) (pos : List κ) (rest : List (Step κ)) :
    t.resolve limit pos (.up :: rest) =
      if pos = [] then .error .notExist else t.resolve limit pos.dropLast rest := by
  cases limit <;> rfl

lemma resolve_into (limit : ℕ) (pos : List κ) (x : κ) (rest : List (Step κ)) :
    t.resolve limit pos (.into x :: rest) =
      match t.node (pos ++ [x]) with
      | none => .error .notExist
      | some .dir => (t.resolve limit (pos ++ [x]) rest).map (Route.after (pos ++ [x]))
      | some (.file _) => if rest = [] then .ok ⟨[pos ++ [x]], pos ++ [x]⟩ else .error .notDir
      | some (.link target) =>
        match limit with
        | 0 => .error .loop
        | limit + 1 => (t.resolve limit pos (target ++ rest)).map (Route.after (pos ++ [x])) := by
  cases limit <;> rfl

omit [LinearOrder κ] in
lemma map_after_eq_ok {x : Except Errno (Route κ)} {p : List κ} {r : Route κ}
    (h : x.map (Route.after p) = .ok r) : ∃ r', x = .ok r' ∧ r = r'.after p := by
  cases x with
  | error e => cases h
  | ok r' => exact ⟨r', rfl, (Except.ok.inj h).symm⟩

/-- Every result of the resolution is one of the relation.

**Proof sketch.** Induction on the limit and, within it, on the path: a link spends one of the limit, and
every other step shortens the path. -/
lemma leads_of_resolve {limit : ℕ} {todo : List (Step κ)} : ∀ {pos : List κ} {r : Route κ},
    t.resolve limit pos todo = .ok r → t.Leads limit pos todo r.visited r.dest := by
  induction limit using Nat.strong_induction_on generalizing todo with
  | _ limit ihlimit =>
    induction todo with
    | nil =>
      intro pos r h
      rw [resolve_nil] at h
      obtain rfl := Except.ok.inj h
      exact .done
    | cons step rest ih =>
      intro pos r h
      cases step with
      | up =>
        rw [resolve_up] at h
        split_ifs at h with hpos
        exact .up hpos (ih h)
      | into x =>
        rw [resolve_into] at h
        cases hnode : t.node (pos ++ [x]) with
        | none => simp [hnode] at h
        | some n =>
          rw [hnode] at h
          cases n with
          | dir =>
            obtain ⟨r', hr', rfl⟩ := map_after_eq_ok h
            exact .dir hnode (ih hr')
          | file data =>
            dsimp only at h
            split_ifs at h with hrest
            obtain rfl := Except.ok.inj h
            subst hrest
            exact .file hnode
          | link target =>
            cases limit with
            | zero => cases h
            | succ limit =>
              obtain ⟨r', hr', rfl⟩ := map_after_eq_ok h
              exact .link hnode (ihlimit limit (Nat.lt_succ_self _) hr')

/-- Every result of the relation is one of the resolution. -/
lemma Leads.resolve_eq {limit : ℕ} {pos dest : List κ} {todo : List (Step κ)} {visited : List (List κ)}
    (h : t.Leads limit pos todo visited dest) : t.resolve limit pos todo = .ok ⟨visited, dest⟩ := by
  induction h with
  | done => exact resolve_nil _ _
  | up hpos _ ih => rw [resolve_up, if_neg hpos, ih]
  | dir hnode _ ih => rw [resolve_into, hnode]; dsimp only; rw [ih]; rfl
  | file hnode => rw [resolve_into, hnode]; exact if_pos rfl
  | link hnode _ ih => rw [resolve_into, hnode]; dsimp only; rw [ih]; rfl

/-- The resolution is the relation. -/
theorem resolve_eq_ok {limit : ℕ} {pos : List κ} {todo : List (Step κ)} {r : Route κ} :
    t.resolve limit pos todo = .ok r ↔ t.Leads limit pos todo r.visited r.dest :=
  ⟨leads_of_resolve, Leads.resolve_eq⟩

/-- What a path passes through is there. -/
lemma Leads.node_visited {limit : ℕ} {pos dest : List κ} {todo : List (Step κ)}
    {visited : List (List κ)} (h : t.Leads limit pos todo visited dest) :
    ∀ q ∈ visited, t.node q ≠ none := by
  induction h with
  | done => simp
  | up _ _ ih => exact ih
  | dir hnode _ ih =>
    exact List.forall_mem_cons.2 ⟨by rw [hnode]; exact Option.some_ne_none _, ih⟩
  | file hnode => simp [hnode]
  | link hnode _ ih =>
    exact List.forall_mem_cons.2 ⟨by rw [hnode]; exact Option.some_ne_none _, ih⟩

/-- How a path leads on through an entry. -/
lemma Leads.into {limit : ℕ} {pos dest : List κ} {x : κ} {rest : List (Step κ)}
    {visited : List (List κ)} (h : t.Leads limit pos (.into x :: rest) visited dest) :
    ∃ visited', visited = (pos ++ [x]) :: visited' ∧
      ((t.node (pos ++ [x]) = some .dir ∧ t.Leads limit (pos ++ [x]) rest visited' dest) ∨
        ((∃ data, t.node (pos ++ [x]) = some (.file data)) ∧ rest = [] ∧ dest = pos ++ [x]) ∨
        ∃ target limit', t.node (pos ++ [x]) = some (.link target) ∧ limit = limit' + 1 ∧
          t.Leads limit' pos (target ++ rest) visited' dest) := by
  cases h with
  | dir hnode hrest => exact ⟨_, rfl, .inl ⟨hnode, hrest⟩⟩
  | file hnode => exact ⟨_, rfl, .inr (.inl ⟨⟨_, hnode⟩, rfl, rfl⟩)⟩
  | link hnode hrest => exact ⟨_, rfl, .inr (.inr ⟨_, _, hnode, rfl, hrest⟩)⟩

/-- A path leads the same way where what it passes through is the same, maybe elsewhere.

**Proof sketch.** Induction on the path: each step looks at one thing it passes through. -/
lemma Leads.embed {t' : Tree κ α} (base : List κ) {limit : ℕ} {pos dest : List κ}
    {todo : List (Step κ)} {visited : List (List κ)} (h : t.Leads limit pos todo visited dest)
    (hsame : ∀ q ∈ visited, t'.node (base ++ q) = t.node q) :
    t'.Leads limit (base ++ pos) todo (visited.map (base ++ ·)) (base ++ dest) := by
  induction h with
  | done => exact .done
  | up hpos _ ih =>
    refine .up (List.append_ne_nil_of_right_ne_nil _ hpos) ?_
    rw [List.dropLast_append_of_ne_nil hpos]
    exact ih hsame
  | dir hnode _ ih =>
    obtain ⟨hhead, htail⟩ := List.forall_mem_cons.1 hsame
    have hrest := ih htail
    rw [← List.append_assoc] at hrest hhead
    rw [List.map_cons, ← List.append_assoc]
    exact .dir (hhead.trans hnode) hrest
  | file hnode =>
    have hhead := hsame _ (List.mem_singleton_self _)
    rw [← List.append_assoc] at hhead
    rw [List.map_singleton, ← List.append_assoc]
    exact .file (hhead.trans hnode)
  | link hnode _ ih =>
    obtain ⟨hhead, htail⟩ := List.forall_mem_cons.1 hsame
    rw [← List.append_assoc] at hhead
    rw [List.map_cons, ← List.append_assoc]
    exact .link (hhead.trans hnode) (ih htail)

/-- **Congruence.** A path leads the same way where what it passes through is the same. -/
theorem resolve_congr {t' : Tree κ α} {limit : ℕ} {pos : List κ} {todo : List (Step κ)} {r : Route κ}
    (h : t.resolve limit pos todo = .ok r) (hsame : ∀ q ∈ r.visited, t'.node q = t.node q) :
    t'.resolve limit pos todo = .ok r := by
  have hleads := (resolve_eq_ok.1 h).embed [] hsame
  rw [List.map_congr_left fun _ _ => List.nil_append _, List.map_id'] at hleads
  exact resolve_eq_ok.2 hleads

/-! ### Paths of names -/

/-- The paths on the way from a directory along some names. -/
def steps : List κ → List κ → List (List κ)
  | _, [] => []
  | pos, x :: p => (pos ++ [x]) :: steps (pos ++ [x]) p

omit [LinearOrder κ] in
lemma mem_steps {p q : List κ} : ∀ {pos : List κ}, q ∈ steps pos p ↔
    ∃ p', p' ≠ [] ∧ p' <+: p ∧ q = pos ++ p' := by
  induction p with
  | nil =>
    intro pos
    simp only [steps, List.not_mem_nil, List.prefix_nil, false_iff, not_exists, not_and]
    exact fun p' hne hnil => absurd hnil hne
  | cons x p ih =>
    intro pos
    rw [steps, List.mem_cons, ih]
    constructor
    · rintro (rfl | ⟨p', -, hp', rfl⟩)
      · exact ⟨[x], List.cons_ne_nil _ _, by simp, rfl⟩
      · exact ⟨x :: p', List.cons_ne_nil _ _, (List.prefix_cons_inj x).2 hp', by simp⟩
    · rintro ⟨p', hne, hp', rfl⟩
      cases p' with
      | nil => exact absurd rfl hne
      | cons y p' =>
        obtain ⟨rfl, htail⟩ := List.cons_prefix_cons.1 hp'
        rcases eq_or_ne p' [] with rfl | hne'
        · exact .inl rfl
        · exact .inr ⟨p', hne', htail, by simp⟩

/-- A path through directories leads on from the last of them. -/
lemma leads_of_dir {limit : ℕ} {p dest : List κ} {rest : List (Step κ)} {visited : List (List κ)} :
    ∀ {pos : List κ}, t.node (pos ++ p) = some .dir → t.Leads limit (pos ++ p) rest visited dest →
      t.Leads limit pos (p.map .into ++ rest) (steps pos p ++ visited) dest := by
  induction p with
  | nil =>
    intro pos _ h
    rwa [List.append_nil] at h
  | cons x p ih =>
    intro pos hdir h
    rw [← List.singleton_append, ← List.append_assoc] at hdir h
    exact .dir (node_of_isPrefix (List.prefix_append _ _) hdir) (ih hdir h)

variable (t)

/-- There is no link on the way along a path, or at its end. -/
def Unlinked (p : List κ) : Prop := ∀ p', p' <+: p → ∀ target, t.node p' ≠ some (.link target)

variable {t}

lemma Unlinked.of_isPrefix {p p' : List κ} (h : t.Unlinked p) (hp : p' <+: p) : t.Unlinked p' :=
  fun _ hq => h _ (hq.trans hp)

/-- There is no link at the end of a path to nothing. -/
lemma Unlinked.of_none {p : List κ} (h : t.Unlinked p.dropLast) (hp : t.node p = none) :
    t.Unlinked p := by
  intro p' hpre target hlink
  have hne : p' ≠ p := by
    rintro rfl
    cases hp.symm.trans hlink
  exact h p' (prefix_dropLast hpre hne) target hlink

/-- A path of names on which there are no links leads to itself. -/
lemma Leads.dest_eq {limit : ℕ} {p dest : List κ} : ∀ {pos : List κ} {visited : List (List κ)},
    t.Leads limit pos (p.map .into) visited dest → t.Unlinked (pos ++ p) → dest = pos ++ p := by
  induction p with
  | nil =>
    intro pos visited h _
    cases h
    exact (List.append_nil _).symm
  | cons x p ih =>
    intro pos visited h hlinks
    rw [← List.singleton_append, ← List.append_assoc] at hlinks ⊢
    obtain ⟨_, -, ⟨-, hrest⟩ | ⟨-, hnil, rfl⟩ | ⟨target, _, hlink, -, -⟩⟩ := h.into
    · exact ih hrest hlinks
    · rw [List.map_eq_nil_iff.1 hnil, List.append_nil]
    · exact absurd hlink (hlinks _ (List.prefix_append _ _) target)

/-- What is no directory is passed through before it is reached. -/
lemma Leads.dest_mem {limit : ℕ} {pos dest : List κ} {todo : List (Step κ)}
    {visited : List (List κ)} (h : t.Leads limit pos todo visited dest)
    (hpos : t.node pos = some .dir) (hdest : t.node dest ≠ some .dir) : dest ∈ visited := by
  induction h with
  | done => exact absurd hpos hdest
  | up _ _ ih => exact ih (node_of_isPrefix (List.dropLast_prefix _) hpos) hdest
  | dir hnode _ ih => exact List.mem_cons_of_mem _ (ih hnode hdest)
  | file _ => exact List.mem_singleton_self _
  | link _ _ ih => exact List.mem_cons_of_mem _ (ih hpos hdest)

/-- The path of a file leads to it, through what is above it. -/
lemma leads_file (limit : ℕ) {p : List κ} {data : α} (h : t.node p = some (.file data)) :
    ∃ visited, t.Leads limit [] (p.map .into) visited p ∧ ∀ v ∈ visited, v <+: p := by
  have hne : p ≠ [] := by
    rintro rfl
    cases h.symm.trans t.node_nil
  obtain ⟨q, x, rfl⟩ : ∃ q x, p = q ++ [x] := ⟨_, _, (List.dropLast_concat_getLast hne).symm⟩
  have hdir : t.node q = some .dir := node_parent (by rw [h]; exact Option.some_ne_none _)
  have hleads : t.Leads limit [] (q.map .into ++ [.into x]) (steps [] q ++ [q ++ [x]]) (q ++ [x]) :=
    leads_of_dir hdir (.file h)
  refine ⟨_, by rwa [List.map_append, List.map_singleton], fun v hv => ?_⟩
  rcases List.mem_append.1 hv with hv | hv
  · obtain ⟨p', -, hp', rfl⟩ := mem_steps.1 hv
    exact hp'.trans (List.prefix_append _ _)
  · rw [List.mem_singleton.1 hv]

/-! ### Operations -/

variable (t)

/-- What a path leads to. -/
def stat (limit : ℕ) (p : List κ) : Except Errno (Node κ α) :=
  match t.resolve limit [] (p.map .into) with
  | .error e => .error e
  | .ok r => (t.node r.dest).elim (.error .notExist) .ok

/-- The names in the directory a path leads to, and which of them are directories. -/
def readDir (limit : ℕ) (p : List κ) : Except Errno (List (κ × Bool)) :=
  match t.resolve limit [] (p.map .into) with
  | .error e => .error e
  | .ok r =>
    if t.node r.dest = some .dir then
      .ok ((t.names r.dest).map fun x => (x, t.node (r.dest ++ [x]) = some .dir))
    else .error .notDir

/-- The content of the file a path leads to. -/
def readFile (limit : ℕ) (p : List κ) : Except Errno α :=
  match t.resolve limit [] (p.map .into) with
  | .error e => .error e
  | .ok r =>
    match t.node r.dest with
    | some (.file data) => .ok data
    | _ => .error .isDir

/-- The place a path names: the directory part is resolved, the last name is not. -/
def place (limit : ℕ) (p : List κ) : Except Errno (List κ) :=
  match p.getLast? with
  | none => .error .isDir
  | some x =>
    match t.resolve limit [] (p.dropLast.map .into) with
    | .error e => .error e
    | .ok r => if t.node r.dest = some .dir then .ok (r.dest ++ [x]) else .error .notDir

/-- Something is put at a place, in a directory and not over one. -/
def store (q : List κ) (n : Node κ α) : Except Errno (Tree κ α) :=
  match q.getLast? with
  | none => .error .isDir
  | some x =>
    if hp : t.node q.dropLast = some .dir then
      if hx : t.node (q.dropLast ++ [x]) = some .dir then .error .isDir
      else .ok (t.put q.dropLast x n hp hx)
    else .error .notExist

/-- What is at a place is removed with all that is below it, except for what is stuck. -/
def without (q : List κ) (stuck : List κ → Bool) : Tree κ α :=
  t.prune (fun r => q ≠ [] ∧ q <+: r ∧ ∀ k ∈ t.nodes.keys, r <+: k → stuck k = false)
    (by
      simp only [decide_eq_false_iff_not, not_and]
      intro hq hprefix
      exact absurd (List.prefix_nil.1 hprefix) hq)
    (by
      intro p x hgone
      obtain ⟨hq, hprefix, hfree⟩ := of_decide_eq_true hgone
      refine decide_eq_true ⟨hq, hprefix.trans (List.prefix_append _ _), fun k hk hpk => ?_⟩
      exact hfree k hk ((List.prefix_append _ _).trans hpk))

/-- A new directory. -/
def mkdir (limit : ℕ) (p : List κ) : Except Errno (Tree κ α) :=
  match t.place limit p with
  | .error e => .error e
  | .ok q => if (t.node q).isSome then .error .exist else t.store q .dir

/-- What a path names is removed with all that is below it, except for what is stuck; it is no error
when there is nothing. -/
def removeAll (limit : ℕ) (p : List κ) (stuck : List κ → Bool) : Except Errno (Tree κ α) :=
  match t.place limit p with
  | .error .notExist => .ok t
  | .error e => .error e
  | .ok q => .ok (t.without q stuck)

/-- A file, a link or an empty directory is removed. -/
def remove (limit : ℕ) (p : List κ) : Except Errno (Tree κ α) :=
  match t.place limit p with
  | .error e => .error e
  | .ok q =>
    if t.node q = none then .error .notExist
    else if t.names q ≠ [] then .error .exist
    else .ok (t.without q fun _ => false)

/-- Something that is no directory gets another name; what had that is replaced. -/
def rename (limit : ℕ) (a b : List κ) : Except Errno (Tree κ α) :=
  match t.place limit a, t.place limit b with
  | .ok qa, .ok qb =>
    match t.node qa with
    | none => .error .notExist
    | some .dir => .error .isDir
    | some n => if qa = qb then .ok t else (t.without qa fun _ => false).store qb n
  | .error e, _ => .error e
  | .ok _, .error e => .error e

/-- A file gets a content; it is created if there is none. -/
def writeFile (limit : ℕ) (p : List κ) (data : α) : Except Errno (Tree κ α) :=
  match t.resolve limit [] (p.map .into) with
  | .ok r => t.store r.dest (.file data)
  | .error .notExist =>
    match t.place limit p with
    | .error e => .error e
    | .ok q => if (t.node q).isSome then .error .notExist else t.store q (.file data)
  | .error e => .error e

variable {t}

/-! ### What operations do -/

lemma place_eq_ok {limit : ℕ} {p q : List κ} (h : t.place limit p = .ok q) :
    ∃ p' x d visited, p = p' ++ [x] ∧ q = d ++ [x] ∧ t.node d = some .dir ∧
      t.Leads limit [] (p'.map .into) visited d := by
  unfold place at h
  cases hlast : p.getLast? with
  | none => simp [hlast] at h
  | some x =>
    rw [hlast] at h
    cases hresolve : t.resolve limit [] (p.dropLast.map .into) with
    | error e =>
      simp only [hresolve] at h
      cases h
    | ok r =>
      simp only [hresolve] at h
      split_ifs at h with hdir
      exact ⟨p.dropLast, x, r.dest, r.visited, (List.dropLast_append_getLast? x hlast).symm,
        (Except.ok.inj h).symm, hdir, resolve_eq_ok.1 hresolve⟩

lemma ne_nil_of_place {limit : ℕ} {p q : List κ} (h : t.place limit p = .ok q) : p ≠ [] := by
  rintro rfl
  cases h

/-- A path whose directory is reached without links names its own place. -/
lemma place_eq {limit : ℕ} {p q : List κ} (h : t.place limit p = .ok q)
    (hlinks : t.Unlinked p.dropLast) : q = p := by
  obtain ⟨p', x, d, visited, rfl, rfl, -, hleads⟩ := place_eq_ok h
  rw [List.dropLast_concat] at hlinks
  rw [hleads.dest_eq hlinks, List.nil_append]

/-- Where a path in a directory has its place. -/
lemma place_of_dir {limit : ℕ} {p : List κ} {x : κ} (h : t.node p = some .dir) :
    t.place limit (p ++ [x]) = .ok (p ++ [x]) := by
  have hleads : t.Leads limit [] (p.map .into ++ []) (steps [] p ++ []) p := leads_of_dir h .done
  rw [List.append_nil] at hleads
  rw [place, List.getLast?_concat, List.dropLast_concat, hleads.resolve_eq]
  exact if_pos h

lemma node_without {q : List κ} {stuck : List κ → Bool} (r : List κ) :
    (t.without q stuck).node r =
      if q ≠ [] ∧ q <+: r ∧ ∀ k ∈ t.nodes.keys, r <+: k → stuck k = false then none
      else t.node r := by
  rw [without, node_prune]
  exact if_congr decide_eq_true_iff rfl rfl

lemma node_without_free {q : List κ} (hq : q ≠ []) (r : List κ) :
    (t.without q fun _ => false).node r = if q <+: r then none else t.node r := by
  rw [node_without]
  exact if_congr ⟨fun h => h.2.1, fun h => ⟨hq, h, fun _ _ _ => rfl⟩⟩ rfl rfl

/-- Nothing else goes with what is no directory. -/
lemma node_without_leaf {q : List κ} (hq : q ≠ []) (hleaf : t.node q ≠ some .dir) (r : List κ) :
    (t.without q fun _ => false).node r = if r = q then none else t.node r := by
  rw [node_without_free hq]
  by_cases hr : r = q
  · rw [if_pos hr, hr, if_pos (List.prefix_refl _)]
  · rw [if_neg hr]
    split_ifs with hpre
    · obtain ⟨s, rfl⟩ := hpre
      have hs : s ≠ [] := by
        rintro rfl
        exact hr (List.append_nil q)
      exact (node_below_of_ne hs hleaf).symm
    · rfl

/-- Only what is at the place or below it can be removed. -/
lemma node_without_cases (t : Tree κ α) (q : List κ) (stuck : List κ → Bool) (r : List κ) :
    (t.without q stuck).node r = t.node r ∨ ((t.without q stuck).node r = none ∧ q <+: r) := by
  rw [node_without]
  split_ifs with h
  · exact .inr ⟨rfl, h.2.1⟩
  · exact .inl rfl

lemma store_eq_ok {q : List κ} {n : Node κ α} {t' : Tree κ α} (h : t.store q n = .ok t') :
    q ≠ [] ∧ t.node q.dropLast = some .dir ∧ t.node q ≠ some .dir ∧
      ∀ r, t'.node r = if r = q then some n else t.node r := by
  unfold store at h
  cases hlast : q.getLast? with
  | none => simp [hlast] at h
  | some x =>
    simp only [hlast] at h
    split_ifs at h with hp hx
    obtain rfl := Except.ok.inj h
    have hq : q.dropLast ++ [x] = q := List.dropLast_append_getLast? x hlast
    refine ⟨?_, hp, by rwa [hq] at hx, fun r => ?_⟩
    · rintro rfl
      cases hlast
    · rw [node_put, hq]

lemma store_of_dir {p : List κ} {x : κ} {n : Node κ α} (hp : t.node p = some .dir)
    (hx : t.node (p ++ [x]) ≠ some .dir) : ∃ t', t.store (p ++ [x]) n = .ok t' := by
  refine ⟨t.put p x n hp hx, ?_⟩
  unfold store
  simp only [List.getLast?_concat, List.dropLast_concat]
  rw [dif_pos hp, dif_neg hx]

lemma remove_ok {limit : ℕ} {p : List κ} {t' : Tree κ α} (h : t.remove limit p = .ok t') :
    ∃ q, t.place limit p = .ok q ∧ t' = t.without q fun _ => false := by
  unfold remove at h
  cases hplace : t.place limit p with
  | error e =>
    rw [hplace] at h
    cases h
  | ok q =>
    rw [hplace] at h
    dsimp only at h
    split_ifs at h
    exact ⟨q, rfl, (Except.ok.inj h).symm⟩

lemma removeAll_ok {limit : ℕ} {p : List κ} {stuck : List κ → Bool} {t' : Tree κ α}
    (h : t.removeAll limit p stuck = .ok t') :
    (t' = t ∧ t.place limit p = .error .notExist) ∨
      ∃ q, t.place limit p = .ok q ∧ t' = t.without q stuck := by
  unfold removeAll at h
  cases hplace : t.place limit p with
  | ok q =>
    rw [hplace] at h
    exact .inr ⟨q, rfl, (Except.ok.inj h).symm⟩
  | error e =>
    rw [hplace] at h
    cases e with
    | notExist => exact .inl ⟨(Except.ok.inj h).symm, rfl⟩
    | notDir => cases h
    | loop => cases h
    | exist => cases h
    | isDir => cases h

lemma rename_ok {limit : ℕ} {a b : List κ} {t' : Tree κ α} (h : t.rename limit a b = .ok t') :
    ∃ p q n, t.place limit a = .ok p ∧ t.place limit b = .ok q ∧ t.node p = some n ∧ n ≠ .dir ∧
      ((p = q ∧ t' = t) ∨ (p ≠ q ∧ (t.without p fun _ => false).store q n = .ok t')) := by
  unfold rename at h
  cases hp : t.place limit a with
  | error e =>
    rw [hp] at h
    cases h
  | ok p =>
    cases hq : t.place limit b with
    | error e =>
      rw [hp, hq] at h
      cases h
    | ok q =>
      rw [hp, hq] at h
      dsimp only at h
      split at h
      · cases h
      · cases h
      · next n hdir hnode =>
        refine ⟨p, q, n, rfl, rfl, hnode, hdir, ?_⟩
        split_ifs at h with heq
        · exact .inl ⟨heq, (Except.ok.inj h).symm⟩
        · exact .inr ⟨heq, h⟩

/-! ### Operations on paths without links -/

section Unlinked

variable {limit : ℕ} {p : List κ} (hp : t.Unlinked p)

include hp

lemma resolve_eq {r : Route κ} (h : t.resolve limit [] (p.map .into) = .ok r) : r.dest = p :=
  (resolve_eq_ok.1 h).dest_eq hp

lemma stat_eq {n : Node κ α} (h : t.stat limit p = .ok n) : t.node p = some n := by
  unfold stat at h
  cases hresolve : t.resolve limit [] (p.map .into) with
  | error e =>
    rw [hresolve] at h
    cases h
  | ok r =>
    rw [hresolve] at h
    dsimp only at h
    rw [resolve_eq hp hresolve] at h
    cases hnode : t.node p with
    | none =>
      rw [hnode] at h
      cases h
    | some m =>
      rw [hnode] at h
      rw [← Except.ok.inj h]

lemma readDir_eq {entries : List (κ × Bool)} (h : t.readDir limit p = .ok entries) :
    t.node p = some .dir ∧ entries.map Prod.fst = t.names p := by
  unfold readDir at h
  cases hresolve : t.resolve limit [] (p.map .into) with
  | error e =>
    rw [hresolve] at h
    cases h
  | ok r =>
    rw [hresolve] at h
    dsimp only at h
    rw [resolve_eq hp hresolve] at h
    split_ifs at h with hdir
    rw [← Except.ok.inj h, List.map_map]
    exact ⟨hdir, List.map_id _⟩

lemma readFile_eq {data : α} (h : t.readFile limit p = .ok data) :
    t.node p = some (.file data) := by
  unfold readFile at h
  cases hresolve : t.resolve limit [] (p.map .into) with
  | error e =>
    rw [hresolve] at h
    cases h
  | ok r =>
    rw [hresolve] at h
    dsimp only at h
    rw [resolve_eq hp hresolve] at h
    split at h
    · next data' hnode => rw [hnode, Except.ok.inj h]
    · cases h

/-- A file is written at the place the path names. -/
lemma writeFile_eq {data : α} {t' : Tree κ α} (h : t.writeFile limit p data = .ok t') :
    t.store p (.file data) = .ok t' := by
  unfold writeFile at h
  cases hresolve : t.resolve limit [] (p.map .into) with
  | ok r =>
    rw [hresolve] at h
    dsimp only at h
    rwa [resolve_eq hp hresolve] at h
  | error e =>
    rw [hresolve] at h
    cases e with
    | notExist =>
      dsimp only at h
      cases hplace : t.place limit p with
      | error e =>
        rw [hplace] at h
        cases h
      | ok q =>
        rw [hplace] at h
        dsimp only at h
        split_ifs at h
        rwa [place_eq hplace (hp.of_isPrefix (List.dropLast_prefix _))] at h
    | notDir => cases h
    | loop => cases h
    | exist => cases h
    | isDir => cases h

omit hp in
lemma mkdir_eq (hp : t.Unlinked p.dropLast) {t' : Tree κ α} (h : t.mkdir limit p = .ok t') :
    t.node p = none ∧ t.store p .dir = .ok t' := by
  unfold mkdir at h
  cases hplace : t.place limit p with
  | error e =>
    rw [hplace] at h
    cases h
  | ok q =>
    rw [hplace] at h
    dsimp only at h
    rw [place_eq hplace hp] at h
    split_ifs at h with hsome
    exact ⟨Option.not_isSome_iff_eq_none.1 hsome, h⟩

omit hp in
lemma remove_eq (hp : t.Unlinked p.dropLast) {t' : Tree κ α} (h : t.remove limit p = .ok t') :
    p ≠ [] ∧ t' = t.without p fun _ => false := by
  obtain ⟨q, hplace, rfl⟩ := remove_ok h
  obtain rfl := place_eq hplace hp
  exact ⟨ne_nil_of_place hplace, rfl⟩

omit hp in
/-- What is not there may be removed; else it is removed as far as it is not stuck. -/
lemma removeAll_eq (hp : t.Unlinked p.dropLast) {stuck : List κ → Bool} {t' : Tree κ α}
    (h : t.removeAll limit p stuck = .ok t') :
    p ≠ [] ∧ ((t' = t ∧ t.node p = none) ∨ t' = t.without p stuck) := by
  have hne : p ≠ [] := by
    rintro rfl
    cases h
  obtain ⟨rfl, hplace⟩ | ⟨q, hplace, rfl⟩ := removeAll_ok h
  · refine ⟨hne, .inl ⟨rfl, ?_⟩⟩
    obtain ⟨p', x, rfl⟩ : ∃ p' x, p = p' ++ [x] := ⟨_, _, (List.dropLast_concat_getLast hne).symm⟩
    by_contra hnode
    cases (place_of_dir (node_parent hnode)).symm.trans hplace
  · obtain rfl := place_eq hplace hp
    exact ⟨hne, .inr rfl⟩

omit hp in
/-- Nothing is left after a removal. -/
lemma node_of_removeAll (hp : t.Unlinked p.dropLast) {t' : Tree κ α}
    (h : t.removeAll limit p (fun _ => false) = .ok t') : t'.node p = none := by
  obtain ⟨hne, ⟨rfl, hnone⟩ | rfl⟩ := removeAll_eq hp h
  · exact hnone
  · rw [node_without_free hne, if_pos (List.prefix_refl _)]

omit hp in
lemma rename_eq (hp : t.Unlinked p.dropLast) {q : List κ} (hq : t.Unlinked q.dropLast)
    {t' : Tree κ α} (h : t.rename limit p q = .ok t') :
    p ≠ [] ∧ ∃ n, t.node p = some n ∧ n ≠ .dir ∧
      ((p = q ∧ t' = t) ∨ (p ≠ q ∧ (t.without p fun _ => false).store q n = .ok t')) := by
  obtain ⟨p', q', n, hplace, hplace', hrest⟩ := rename_ok h
  obtain rfl := place_eq hplace hp
  obtain rfl := place_eq hplace' hq
  exact ⟨ne_nil_of_place hplace, n, hrest⟩

end Unlinked

/-! ### Operations that succeed -/

lemma stat_of_leads {limit : ℕ} {p dest : List κ} {visited : List (List κ)} {n : Node κ α}
    (h : t.Leads limit [] (p.map .into) visited dest) (hn : t.node dest = some n) :
    t.stat limit p = .ok n := by
  rw [stat, h.resolve_eq]
  dsimp only
  rw [hn]
  rfl

lemma leads_dir {limit : ℕ} {p : List κ} (h : t.node p = some .dir) :
    t.Leads limit [] (p.map .into) (steps [] p) p := by
  have hleads : t.Leads limit [] (p.map .into ++ []) (steps [] p ++ []) p := leads_of_dir h .done
  rwa [List.append_nil, List.append_nil] at hleads

lemma stat_of_dir {limit : ℕ} {p : List κ} (h : t.node p = some .dir) : t.stat limit p = .ok .dir :=
  stat_of_leads (leads_dir h) h

lemma readDir_of_dir {limit : ℕ} {p : List κ} (h : t.node p = some .dir) :
    t.readDir limit p =
      .ok ((t.names p).map fun x => (x, decide (t.node (p ++ [x]) = some .dir))) := by
  rw [readDir, (leads_dir h).resolve_eq]
  exact if_pos h

lemma mkdir_of_dir (limit : ℕ) {p : List κ} {x : κ} (hp : t.node p = some .dir)
    (hx : t.node (p ++ [x]) = none) : ∃ t', t.mkdir limit (p ++ [x]) = .ok t' ∧
      ∀ q, t'.node q = if q = p ++ [x] then some .dir else t.node q := by
  obtain ⟨t', ht'⟩ := store_of_dir (n := .dir) hp (by rw [hx]; rintro ⟨⟩)
  refine ⟨t', ?_, (store_eq_ok ht').2.2.2⟩
  rw [mkdir, place_of_dir hp]
  dsimp only
  rw [hx, if_neg (by simp), ht']

lemma removeAll_of_dir {limit : ℕ} {p : List κ} {x : κ} (hp : t.node p = some .dir) :
    t.removeAll limit (p ++ [x]) (fun _ => false) = .ok (t.without (p ++ [x]) fun _ => false) := by
  rw [removeAll, place_of_dir hp]

lemma rename_of_dir (limit : ℕ) {p q : List κ} {x y : κ} {n : Node κ α} (hp : t.node p = some .dir)
    (hq : t.node q = some .dir) (hn : t.node (p ++ [x]) = some n) (hleaf : n ≠ .dir)
    (hy : t.node (q ++ [y]) = none) : ∃ t', t.rename limit (p ++ [x]) (q ++ [y]) = .ok t' ∧
      ∀ r, t'.node r = if r = q ++ [y] then some n else if r = p ++ [x] then none else t.node r := by
  have hne : p ++ [x] ≠ q ++ [y] := by
    intro heq
    rw [heq, hy] at hn
    cases hn
  have hnotdir : t.node (p ++ [x]) ≠ some .dir := by
    rw [hn]
    exact fun h => hleaf (Option.some.inj h)
  have hwithout := node_without_leaf (List.concat_ne_nil x p) hnotdir
  have hq' : (t.without (p ++ [x]) fun _ => false).node q = some .dir := by
    rw [hwithout, if_neg (by rintro rfl; exact hnotdir hq), hq]
  have hy' : (t.without (p ++ [x]) fun _ => false).node (q ++ [y]) ≠ some .dir := by
    rw [hwithout, if_neg hne.symm, hy]
    rintro ⟨⟩
  obtain ⟨t', ht'⟩ := store_of_dir (n := n) hq' hy'
  refine ⟨t', ?_, fun r => ?_⟩
  · rw [rename, place_of_dir hp, place_of_dir hq]
    dsimp only
    rw [hn]
    cases n with
    | dir => exact absurd rfl hleaf
    | file data => exact (if_neg hne).trans ht'
    | link target => exact (if_neg hne).trans ht'
  · rw [(store_eq_ok ht').2.2.2, hwithout]

end Tree

end FileTree
