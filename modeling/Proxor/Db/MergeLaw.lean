import Proxor.Db.ConfigSettings

set_option relaxedAutoImplicit false
set_option autoImplicit false

/-!
# What merging an object of the user does

The object of the user changes the keys it addresses and no others: objects are merged, an array under a key
with a plus sign at its front or back is put before or after the array that is there, and everything else
takes the place of what is there.

## Main definitions

* `Proxor.Db.PlusKey`, `Proxor.Db.target` — the key a field addresses.
* `Proxor.Db.Apart` — no two fields address the same key.
* `Proxor.Db.Merged` — the law of the merge.

## Main results

* `Proxor.Db.mergeField_eq` — one field sets the key it addresses.
* `Proxor.Db.get?_mergeJson` — an object sets the keys its fields address.
* `Proxor.Db.merged_mergeJson` — the law.
* `Proxor.Db.not_merged` — a text is lost, and a key with a plus sign that is there is replaced.
-/

namespace Proxor.Db

open Text

/-! ### Addresses -/

/-- A key with a plus sign at its front or at its back, or neither. -/
inductive PlusKey
  | front (key : String)
  | back (key : String)
  | plain
deriving DecidableEq

/-- The form of a key. -/
def plusKey (key : String) : PlusKey :=
  match key.toList with
  | '+' :: cs => .front (String.ofList cs)
  | cs => if cs.getLast? = some '+' then .back (String.ofList cs.dropLast) else .plain

/-- The key that a field addresses: without the plus sign, if it has an array and the object has no such
key. -/
def target (dst : JsonObject) : String × Json → String
  | (key, .arr _) =>
    if (dst.get? key).isSome then key
    else
      match plusKey key with
      | .front k | .back k => k
      | .plain => key
  | (key, _) => key

/-- The elements of the array under a key. -/
def elements (dst : JsonObject) (key : String) : List Json := ((dst.get? key).map jsonToArray).getD []

/-- What a field puts under the key that it addresses. -/
def newValue (dst : JsonObject) : String × Json → Json
  | (key, .arr items) =>
    if (dst.get? key).isSome then .arr items
    else
      match plusKey key with
      | .front k => .arr (items ++ elements dst k)
      | .back k => .arr (elements dst k ++ items)
      | .plain => .arr items
  | (key, .obj o) =>
    match dst.get? key with
    | some (.obj d) => .obj (mergeJson d o)
    | _ => .obj o
  | (_, v) => v

/-- The key of an array that goes to the back has no other plus sign. -/
def OnePlus (dst : JsonObject) (field : String × Json) : Prop :=
  ∀ items k, field.2 = .arr items → dst.get? field.1 = none → plusKey field.1 = .back k → '+' ∉ k.toList

/-- The fields of an object of the user: every key once, and the key of an array that goes to the back has no
other plus sign. No two fields address the same key, and none addresses the key of a later one; and so in the
objects that are merged. -/
inductive Apart : JsonObject → JsonObject → Prop
  | mk {dst src : JsonObject} (keys : (src.map Prod.fst).Nodup)
      (plus : ∀ f ∈ src, OnePlus dst f)
      (targets : ∀ f ∈ src, ∀ g ∈ src, f.1 ≠ g.1 → target dst f ≠ target dst g)
      (later : src.Pairwise fun f g => target dst f ≠ g.1)
      (nested : ∀ key o d, (key, Json.obj o) ∈ src → dst.get? key = some (Json.obj d) → Apart d o) :
      Apart dst src

/-- **The law of the merge.** `res` is `dst` with the fields of `src`. -/
inductive Merged : JsonObject → JsonObject → JsonObject → Prop
  | mk {dst src res : JsonObject} (part : String → JsonObject)
      (other : ∀ key, (∀ f ∈ src, target dst f ≠ key) → res.get? key = dst.get? key)
      (object : ∀ key o d, (key, Json.obj o) ∈ src → dst.get? key = some (Json.obj d) →
        res.get? key = some (Json.obj (part key)))
      (nested : ∀ key o d, (key, Json.obj o) ∈ src → dst.get? key = some (Json.obj d) →
        Merged d o (part key))
      (front : ∀ key items, ("+" ++ key, Json.arr items) ∈ src → dst.get? ("+" ++ key) = none →
        res.get? key = some (Json.arr (items ++ elements dst key)))
      (back : ∀ key items, (key ++ "+", Json.arr items) ∈ src → dst.get? (key ++ "+") = none →
        hasPrefix (key ++ "+") "+" = false →
        res.get? key = some (Json.arr (elements dst key ++ items)))
      (plain : ∀ key v, (key, v) ∈ src → target dst (key, v) = key →
        (∀ o d, v = Json.obj o → dst.get? key ≠ some (Json.obj d)) → res.get? key = some v) :
      Merged dst src res

/-! ### Keys with a plus sign -/

/-- What is behind the first plus sign of a key that begins with one. -/
lemma subStrAfter_plus (k : String) : subStrAfter ("+" ++ k) "+" = k := by
  have hcut : cut ("+" ++ k) "+" = some ("", k) := by
    have hlist : ("+" ++ k).toList = [] ++ ['+'] ++ k.toList := by
      rw [String.toList_append]
      rfl
    rw [cut, hlist]
    have hfirst : cutFirst ['+'] ([] ++ ['+'] ++ k.toList) = some ([], k.toList) :=
      cutFirst_append List.not_mem_nil k.toList
    change (cutFirst ['+'] ([] ++ ['+'] ++ k.toList)).map _ = _
    rw [hfirst, Option.map_some, String.ofList_toList]
  rw [subStrAfter, hcut]

/-- What is before the first plus sign of a key that has one at its back only. -/
lemma subStrBefore_plus {k : String} (h : '+' ∉ k.toList) : subStrBefore (k ++ "+") "+" = k := by
  have hcut : cut (k ++ "+") "+" = some (k, "") := by
    have hlist : (k ++ "+").toList = k.toList ++ ['+'] ++ [] := by
      rw [String.toList_append, List.append_nil]
      rfl
    rw [cut, hlist]
    have hfirst : cutFirst ['+'] (k.toList ++ ['+'] ++ []) = some (k.toList, []) := cutFirst_append h []
    change (cutFirst ['+'] (k.toList ++ ['+'] ++ [])).map _ = _
    rw [hfirst, Option.map_some, String.ofList_toList]
  rw [subStrBefore, hcut]

lemma hasPrefix_plus (k : String) : hasPrefix ("+" ++ k) "+" = true := by
  rw [hasPrefix, String.toList_append]
  exact List.isPrefixOf_iff_prefix.2 (List.prefix_append _ _)

/-- The forms of a key are those that the code tells apart. -/
lemma plusKey_cases (key : String) :
    (∃ k, key = "+" ++ k ∧ plusKey key = .front k) ∨
      (∃ k, key = k ++ "+" ∧ hasPrefix key "+" = false ∧ plusKey key = .back k) ∨
      hasPrefix key "+" = false ∧ hasSuffix key "+" = false ∧ plusKey key = .plain := by
  have hplus : ("+" : String).toList = ['+'] := rfl
  rw [plusKey, hasPrefix, hasSuffix, hplus]
  cases hkey : key.toList with
  | nil => exact Or.inr (Or.inr ⟨rfl, rfl, rfl⟩)
  | cons c cs =>
    by_cases hc : c = '+'
    · subst hc
      refine Or.inl ⟨String.ofList cs, ?_, rfl⟩
      rw [← String.toList_inj, hkey, String.toList_append, hplus, String.toList_ofList]
      rfl
    · have hfront : ['+'].isPrefixOf (c :: cs) = false := by
        rw [List.isPrefixOf, beq_false_of_ne (Ne.symm hc), Bool.false_and]
      by_cases hlast : (c :: cs).getLast? = some '+'
      · refine Or.inr (Or.inl ⟨String.ofList (c :: cs).dropLast, ?_, hfront, ?_⟩)
        · rw [← String.toList_inj, hkey, String.toList_append, hplus, String.toList_ofList]
          exact (List.dropLast_append_getLast? _ hlast).symm
        · split
          · next h => exact absurd (List.cons.inj h).1 hc
          · rw [if_pos hlast]
      · refine Or.inr (Or.inr ⟨hfront, ?_, ?_⟩)
        · rw [Bool.eq_false_iff, ne_eq, List.isSuffixOf_iff_suffix]
          rintro ⟨front, hfront⟩
          rw [← hfront, List.getLast?_concat] at hlast
          exact hlast rfl
        · split
          · next h => exact absurd (List.cons.inj h).1 hc
          · rw [if_neg hlast]

lemma plusKey_front (k : String) : plusKey ("+" ++ k) = .front k := by
  rcases plusKey_cases ("+" ++ k) with ⟨k', hk, h⟩ | ⟨k', -, hfront, -⟩ | ⟨hfront, -, -⟩
  · have hlist := congrArg String.toList hk
    rw [String.toList_append, String.toList_append] at hlist
    rw [h, String.toList_inj.1 (List.append_cancel_left hlist)]
  · exact absurd ((hasPrefix_plus k).symm.trans hfront) (by decide)
  · exact absurd ((hasPrefix_plus k).symm.trans hfront) (by decide)

lemma plusKey_back {k : String} (hfront : hasPrefix (k ++ "+") "+" = false) :
    plusKey (k ++ "+") = .back k := by
  rcases plusKey_cases (k ++ "+") with ⟨k', hk, -⟩ | ⟨k', hk, -, h⟩ | ⟨-, hback, -⟩
  · rw [hk] at hfront
    exact absurd ((hasPrefix_plus k').symm.trans hfront) (by decide)
  · have hlist := congrArg String.toList hk
    rw [String.toList_append, String.toList_append] at hlist
    rw [h, String.toList_inj.1 (List.append_cancel_right hlist)]
  · rw [hasSuffix, String.toList_append] at hback
    have htrue := List.isSuffixOf_iff_suffix.2 (List.suffix_append k.toList ("+" : String).toList)
    exact absurd (htrue.symm.trans hback) (by decide)

/-! ### One field -/

/-- **One field** sets the key that it addresses. -/
theorem mergeField_eq (dst : JsonObject) {field : String × Json}
    (hplus : OnePlus dst field) :
    mergeField dst field = dst.set (target dst field) (newValue dst field) := by
  obtain ⟨key, v⟩ := field
  rw [mergeField]
  cases v with
  | obj o =>
    rw [mergeValue, target, newValue]
    cases hdst : dst.get? key with
    | none => rfl
    | some v =>
      cases v with
      | obj d => rfl
      | arr items => rfl
      | null => rfl
      | bool b => rfl
      | num n => rfl
      | str s => rfl
    rintro items h
    exact Json.noConfusion h
  | arr items =>
    rw [mergeValue, target, newValue]
    by_cases hkey : (dst.get? key).isSome = true
    · rw [if_pos hkey, if_pos hkey, if_pos hkey]
    · rw [if_neg hkey, if_neg hkey, if_neg hkey]
      rcases plusKey_cases key with ⟨k, rfl, hform⟩ | ⟨k, rfl, hfront, hform⟩ | ⟨hfront, hback, hform⟩
      · rw [hform, if_pos (hasPrefix_plus k), subStrAfter_plus]
        rfl
      · have hback : hasSuffix (k ++ "+") "+" = true := by
          rw [hasSuffix, String.toList_append]
          exact List.isSuffixOf_iff_suffix.2 (List.suffix_append _ _)
        rw [hform, hfront, if_neg Bool.false_ne_true, if_pos hback, subStrBefore_plus (hplus items k rfl (Option.not_isSome_iff_eq_none.1 hkey) hform)]
        rfl
      · rw [hform, hfront, hback, if_neg Bool.false_ne_true, if_neg Bool.false_ne_true]
  | null => rfl
  | bool b => rfl
  | num n => rfl
  | str s => rfl

/-- What a field addresses depends on whether the object has its key. -/
lemma target_congr {dst dst' : JsonObject} {field : String × Json}
    (h : dst'.get? field.1 = dst.get? field.1) : target dst' field = target dst field := by
  obtain ⟨key, v⟩ := field
  cases v with
  | arr items => rw [target, target, h]
  | obj o => rfl
  | null => rfl
  | bool b => rfl
  | num n => rfl
  | str s => rfl

/-- Whether the key has one plus sign depends on whether the object has it. -/
lemma onePlus_congr {dst dst' : JsonObject} {field : String × Json}
    (h : dst'.get? field.1 = dst.get? field.1) (hplus : OnePlus dst field) : OnePlus dst' field :=
  fun items k hv hkey => hplus items k hv (h.symm.trans hkey)

/-- What a field puts there depends on its key and on the key that it addresses. -/
lemma newValue_congr {dst dst' : JsonObject} {field : String × Json}
    (h : dst'.get? field.1 = dst.get? field.1)
    (htarget : dst'.get? (target dst field) = dst.get? (target dst field)) :
    newValue dst' field = newValue dst field := by
  obtain ⟨key, v⟩ := field
  cases v with
  | arr items =>
    rw [target] at htarget
    rw [newValue, newValue, h]
    split
    · rfl
    · next hkey =>
      rw [if_neg hkey] at htarget
      cases hform : plusKey key with
      | front k =>
        rw [hform] at htarget
        dsimp only at htarget ⊢
        rw [elements, elements, htarget]
      | back k =>
        rw [hform] at htarget
        dsimp only at htarget ⊢
        rw [elements, elements, htarget]
      | plain => rfl
  | obj o =>
    rw [newValue, newValue, h]
  | null => rfl
  | bool b => rfl
  | num n => rfl
  | str s => rfl

/-! ### One object -/

/-- **One object** sets the keys that its fields address, each to what the field puts there.

**Proof sketch.** Induction on the fields. A field leaves the keys of the others, and the keys that they
address, as they were. -/
theorem get?_mergeJson {dst src : JsonObject} (hkeys : (src.map Prod.fst).Nodup)
    (hplus : ∀ f ∈ src, OnePlus dst f)
    (htargets : ∀ f ∈ src, ∀ g ∈ src, f.1 ≠ g.1 → target dst f ≠ target dst g)
    (hlater : src.Pairwise fun f g => target dst f ≠ g.1) :
    ∀ dst', (∀ f ∈ src, JsonObject.get? dst' f.1 = dst.get? f.1 ∧
        dst'.get? (target dst f) = dst.get? (target dst f)) →
      (∀ f ∈ src, (mergeJson dst' src).get? (target dst f) = some (newValue dst f)) ∧
      ∀ key, (∀ f ∈ src, target dst f ≠ key) → (mergeJson dst' src).get? key = dst'.get? key := by
  induction src with
  | nil =>
    intro dst' _
    rw [mergeJson]
    exact ⟨fun f hf => absurd hf List.not_mem_nil, fun _ _ => rfl⟩
  | cons field src ih =>
    intro dst' hagree
    rw [List.map_cons, List.nodup_cons] at hkeys
    rw [List.pairwise_cons] at hlater
    obtain ⟨hfield, hsame⟩ := hagree field List.mem_cons_self
    have hstep : mergeField dst' field = dst'.set (target dst field) (newValue dst field) := by
      rw [mergeField_eq dst' (onePlus_congr hfield (hplus field List.mem_cons_self)), target_congr hfield,
        newValue_congr hfield hsame]
    have hother : ∀ f ∈ src, field.1 ≠ f.1 := fun f hf h => hkeys.1 (h ▸ List.mem_map_of_mem hf)
    obtain ⟨hmem, hnot⟩ := ih hkeys.2 (fun f hf => hplus f (List.mem_cons_of_mem _ hf))
      (fun f hf g hg => htargets f (List.mem_cons_of_mem _ hf) g (List.mem_cons_of_mem _ hg)) hlater.2
      (mergeField dst' field) (fun f hf => by
        have hne := htargets field List.mem_cons_self f (List.mem_cons_of_mem _ hf) (hother f hf)
        obtain ⟨hf₁, hf₂⟩ := hagree f (List.mem_cons_of_mem _ hf)
        rw [hstep, JsonObject.get?_set, JsonObject.get?_set, if_neg (hlater.1 f hf), if_neg hne]
        exact ⟨hf₁, hf₂⟩)
    rw [mergeJson]
    constructor
    · rintro f hf
      rcases List.mem_cons.1 hf with rfl | hf
      · rw [hnot _ fun g hg => htargets g (List.mem_cons_of_mem _ hg) f List.mem_cons_self
          (hother g hg).symm, hstep, JsonObject.get?_set, if_pos rfl]
      · exact hmem f hf
    · rintro key hkey
      rw [hnot key fun f hf => hkey f (List.mem_cons_of_mem _ hf), hstep, JsonObject.get?_set,
        if_neg (hkey field List.mem_cons_self)]

/-! ### The law -/

/-- A plus sign in front makes another key. -/
lemma plus_append_ne (k : String) : k ≠ "+" ++ k := by
  rintro h
  have hlength := congrArg (fun s : String => s.toList.length) h
  rw [String.toList_append, List.length_append] at hlength
  change k.toList.length = 1 + k.toList.length at hlength
  omega

/-- A plus sign at the back makes another key. -/
lemma append_plus_ne (k : String) : k ≠ k ++ "+" := by
  rintro h
  have hlength := congrArg (fun s : String => s.toList.length) h
  rw [String.toList_append, List.length_append] at hlength
  change k.toList.length = k.toList.length + 1 at hlength
  omega

/-- A field that addresses its own key, and is no object under an object, puts its value there. -/
lemma newValue_of_target_eq {dst : JsonObject} {key : String} {v : Json} (h : target dst (key, v) = key)
    (hobject : ∀ o d, v = Json.obj o → dst.get? key ≠ some (Json.obj d)) :
    newValue dst (key, v) = v := by
  cases v with
  | obj o =>
    rw [newValue]
    split
    · next d hdst => exact absurd hdst (hobject o d rfl)
    · rfl
  | arr items =>
    rw [target] at h
    rw [newValue]
    split
    · rfl
    · next hkey =>
      rw [if_neg hkey] at h
      rcases plusKey_cases key with ⟨k, rfl, hform⟩ | ⟨k, rfl, -, hform⟩ | ⟨-, -, hform⟩
      · rw [hform] at h
        exact absurd h (plus_append_ne k)
      · rw [hform] at h
        exact absurd h (append_plus_ne k)
      · rw [hform]
  | null => rfl
  | bool b => rfl
  | num n => rfl
  | str s => rfl

/-- **The law of the merge** holds for the merge.

**Proof sketch.** Induction on the object of the user: the objects under a key of both are merged by the
same law. -/
theorem merged_mergeJson {dst src : JsonObject} (h : Apart dst src) :
    Merged dst src (mergeJson dst src) := by
  induction h with
  | @mk dst src hkeys hplus htargets hlater hnested ih =>
    obtain ⟨hmem, hother⟩ := get?_mergeJson hkeys hplus htargets hlater dst fun f _ => ⟨rfl, rfl⟩
    have hobject : ∀ key o d, (key, Json.obj o) ∈ src → dst.get? key = some (Json.obj d) →
        (mergeJson dst src).get? key = some (Json.obj (mergeJson d o)) := by
      rintro key o d hsrc hdst
      have hvalue := hmem _ hsrc
      rw [target, newValue, hdst] at hvalue
      · exact hvalue
      · rintro items h
        exact Json.noConfusion h
    refine Merged.mk (fun key => (((mergeJson dst src).get? key).map jsonToObject).getD []) hother
      ?_ ?_ ?_ ?_ ?_
    · rintro key o d hsrc hdst
      rw [hobject key o d hsrc hdst]
      rfl
    · rintro key o d hsrc hdst
      rw [hobject key o d hsrc hdst]
      exact ih key o d hsrc hdst
    · rintro key items hsrc hdst
      have hvalue := hmem _ hsrc
      rw [target, newValue, hdst, plusKey_front] at hvalue
      exact hvalue
    · rintro key items hsrc hdst hfront
      have hvalue := hmem _ hsrc
      rw [target, newValue, hdst, plusKey_back hfront] at hvalue
      exact hvalue
    · rintro key v hsrc htarget hnot
      have hvalue := hmem _ hsrc
      rw [htarget, newValue_of_target_eq htarget hnot] at hvalue
      exact hvalue

/-- A configuration with an object, two arrays and a text. -/
def configFields : JsonObject :=
  [("dns", .obj [("final", .str "local")]), ("inbounds", .arr [.str "socks"]),
    ("outbounds", .arr [.str "proxy"]), ("tag", .str "x")]

/-- What a user adds to it. -/
def customFields : JsonObject :=
  [("+inbounds", .arr [.str "tun"]), ("dns", .obj [("strategy", .str "ipv4_only")]),
    ("outbounds+", .arr [.str "block"]), ("tag", .str "y")]

/-- One array goes to the front, one to the back, and the objects are merged. -/
theorem merged_mergeJson_config :
    Merged configFields customFields (mergeJson configFields customFields) ∧
      (mergeJson configFields customFields).get? "inbounds" = some (.arr [.str "tun", .str "socks"]) ∧
      (mergeJson configFields customFields).get? "outbounds" = some (.arr [.str "proxy", .str "block"]) := by
  refine ⟨merged_mergeJson ?_, rfl, rfl⟩
  have hinner : Apart [("final", .str "local")] [("strategy", .str "ipv4_only")] := by
    refine Apart.mk (by decide) ?_ (by decide) (by decide) ?_
    · rintro f hf items k hv
      rw [List.mem_singleton.1 hf] at hv
      exact Json.noConfusion hv
    · rintro key o d hmem
      exact Json.noConfusion (Prod.mk.inj (List.mem_singleton.1 hmem)).2
  refine Apart.mk (by decide) ?_ (by decide) (by decide) ?_
  · rintro f hf items k hv hkey hform
    simp only [customFields, List.mem_cons, List.not_mem_nil, or_false] at hf
    rcases hf with rfl | rfl | rfl | rfl
    · exact PlusKey.noConfusion (((plusKey_front "inbounds").symm.trans hform))
    · exact Json.noConfusion hv
    · have hback : plusKey "outbounds+" = .back "outbounds" := by decide
      have hsame : PlusKey.back "outbounds" = PlusKey.back k := hback.symm.trans hform
      injection hsame with hk
      rw [← hk]
      decide
    · exact Json.noConfusion hv
  · rintro key o d hmem hdst
    simp only [customFields, List.mem_cons, List.not_mem_nil, or_false] at hmem
    rcases hmem with h | h | h | h
    · exact Json.noConfusion (Prod.mk.inj h).2
    · obtain ⟨rfl, hobj⟩ := Prod.mk.inj h
      injection hobj with ho
      have hd : some (Json.obj [("final", .str "local")]) = some (Json.obj d) := hdst
      injection hd with hd
      injection hd with hd
      rw [ho, ← hd]
      exact hinner
    · exact Json.noConfusion (Prod.mk.inj h).2
    · exact Json.noConfusion (Prod.mk.inj h).2

/-- What the object holds under a key, a value that is no array counting as one element. -/
def held (dst : JsonObject) (key : String) : List Json :=
  match dst.get? key with
  | none => []
  | some (.arr items) => items
  | some v => [v]

/-- The key that a field with an array names: the key without its plus sign. -/
def named (field : String × Json) : String :=
  match plusKey field.1, field.2 with
  | .front k, .arr _ | .back k, .arr _ => k
  | _, _ => field.1

/-- A key with a plus sign in front does not always put its array before what is there: a text that is there
is lost, a key with the plus sign that is there is replaced, and so is one that an earlier field has set. -/
theorem not_merged :
    ¬ (∀ dst src : JsonObject, (src.map Prod.fst).Nodup →
        (∀ f ∈ src, ∀ g ∈ src, f.1 ≠ g.1 → named f ≠ named g) →
        ∀ key items, ("+" ++ key, Json.arr items) ∈ src →
          (mergeJson dst src).get? key = some (.arr (items ++ held dst key))) ∧
      (mergeJson [("k", .str "x")] [("+k", .arr [.str "y"])]).get? "k" = some (.arr [.str "y"]) ∧
      (mergeJson [("+k", .str "x")] [("+k", .arr [.str "y"])]).get? "k" = none ∧
      (mergeJson [] [("++k", .arr [.str "x"]), ("+k", .arr [.str "y"])]).get? "+k" =
        some (.arr [.str "y"]) := by
  refine ⟨fun h => ?_, rfl, rfl, rfl⟩
  have hk := h [("k", .str "x")] [("+k", .arr [.str "y"])] (by decide) (by decide) "k" [.str "y"]
    List.mem_cons_self
  have hvalue : (mergeJson [("k", .str "x")] [("+k", .arr [.str "y"])]).get? "k" =
      some (.arr [.str "y"]) := rfl
  have hlength := hvalue.symm.trans hk
  injection hlength with hlength
  injection hlength with hlength
  exact absurd (congrArg List.length hlength) (by decide)

end Proxor.Db
