import Proxor.Lib.Text
import Proxor.Db.Operations

set_option relaxedAutoImplicit false
set_option autoImplicit false

/-!
# Reading a subscription

What a subscription says is read and added to the store in one go: there is no list of profiles that
is complete before the first one is added, and nobody is told that reading stopped half way.

## Main definitions

* `Proxor.Sub.Reader` — the formats a body is read with.
* `Proxor.Sub.RawUpdater` — what is added to which group.
* `Proxor.Sub.Reader.update` — read a body.
* `Proxor.Sub.Reader.parsed` — the profiles a body says.

## Main results

* `Proxor.Sub.Reader.update_eq` — reading a body adds the profiles it says, in their order.

## Design

What a link, an object of a SIP008 document or a node of a Clash document says is left to the reader. A
node of a Clash document may throw, and reading the document may as well.
-/

namespace Proxor.Sub

open Db

variable {B : Type}

/-- A profile as it is read: its type and its bean. -/
structure Parsed (B : Type) where
  type : String
  bean : B

/-- A profile that is new. -/
def newProxyEntity (e : Parsed B) : ProxyEntity B := { type := e.type, bean := e.bean }

/-- What comes of a node of the list of proxies of a Clash document. -/
inductive Node (B : Type) where
  | entity (e : Parsed B)
  /-- The type is not known. -/
  | skipped
  | throws

/-- The formats a body is read with. -/
structure Reader (B : Type) where
  /-- `DecodeB64IfValid`, the empty text if it is not. -/
  decodeB64IfValid : String → String
  length_decode : ∀ str, decodeB64IfValid str ≠ "" → (decodeB64IfValid str).length < str.length
  /-- The nodes of the list of proxies. A document that is no YAML throws at once. -/
  clash : String → List (Node B)
  /-- The servers of a SIP008 document, if it is one. -/
  sip008 : String → Option (List (Parsed B))
  /-- A single link. -/
  link : String → Option (Parsed B)
  /-- A text is a URL with scheme `http` or `https`, and a host. -/
  isHttpUrl : String → Bool

/-- What is added, and to which group. -/
structure RawUpdater (B : Type) where
  gid_add_to : ℤ
  store : ProfileManager B
  /-- The profiles that were added, in their order. -/
  updated_order : List Ref := []

namespace RawUpdater

variable [AbstractBean B]

/-- Add a profile. -/
def add (u : RawUpdater B) (e : Parsed B) : RawUpdater B :=
  { u with
    store := (u.store.alloc (newProxyEntity e)).addProfile u.store.next u.gid_add_to
    updated_order := u.updated_order ++ [u.store.next] }

/-- Add the proxies of a Clash document, up to the node that throws. -/
def updateClash (u : RawUpdater B) : List (Node B) → RawUpdater B
  | [] => u
  | .entity e :: nodes => (u.add e).updateClash nodes
  | .skipped :: nodes => u.updateClash nodes
  | .throws :: _ => u

end RawUpdater

/-- What a Clash document says, up to the node that throws. -/
def parsedClash : List (Node B) → List (Parsed B)
  | [] => []
  | .entity e :: nodes => e :: parsedClash nodes
  | .skipped :: nodes => parsedClash nodes
  | .throws :: _ => []

namespace Reader

variable (rd : Reader B)

/-- Read a body, and add what it says. -/
def update [AbstractBean B] (u : RawUpdater B) (str : String) : RawUpdater B :=
  if hdecode : rd.decodeB64IfValid str ≠ "" then update u (rd.decodeB64IfValid str)
  else if Text.contains str "proxies:" then u.updateClash (rd.clash str)
  else match rd.sip008 str with
    | some servers => servers.foldl RawUpdater.add u
    | none =>
      if hlines : '\n' ∈ str.toList then
        (Text.splitLines str).attach.foldl (fun u line => update u (Text.trimSpace line.1)) u
      else match rd.link str with
        | none => u
        | some e => u.add e
termination_by str.length
decreasing_by
  · exact rd.length_decode str hdecode
  · exact (Text.length_trimSpace_le _).trans_lt (Text.length_lt_of_mem_splitLines hlines line.2)

/-- The profiles a body says. -/
def parsed (str : String) : List (Parsed B) :=
  if hdecode : rd.decodeB64IfValid str ≠ "" then parsed (rd.decodeB64IfValid str)
  else if Text.contains str "proxies:" then parsedClash (rd.clash str)
  else match rd.sip008 str with
    | some servers => servers
    | none =>
      if hlines : '\n' ∈ str.toList then
        (Text.splitLines str).attach.flatMap fun line => parsed (Text.trimSpace line.1)
      else (rd.link str).toList
termination_by str.length
decreasing_by
  · exact rd.length_decode str hdecode
  · exact (Text.length_trimSpace_le _).trans_lt (Text.length_lt_of_mem_splitLines hlines line.2)

end Reader

lemma RawUpdater.updateClash_eq [AbstractBean B] (u : RawUpdater B) (nodes : List (Node B)) :
    u.updateClash nodes = (parsedClash nodes).foldl RawUpdater.add u := by
  induction nodes generalizing u with
  | nil => rfl
  | cons node nodes ih =>
    cases node with
    | entity e => exact ih (u.add e)
    | skipped => exact ih u
    | throws => rfl

/-- **Reading a body adds what it says.**

**Proof sketch.** By induction on the length of the body: what is decoded is shorter, and so are the
lines. -/
theorem Reader.update_eq [AbstractBean B] (rd : Reader B) (u : RawUpdater B) (str : String) :
    rd.update u str = (rd.parsed str).foldl RawUpdater.add u := by
  induction hn : str.length using Nat.strong_induction_on generalizing u str with
  | _ n ih =>
    rw [Reader.update, Reader.parsed]
    split_ifs with hdecode hclash hlines
    · exact ih _ (hn ▸ rd.length_decode str hdecode) u _ rfl
    · exact u.updateClash_eq _
    · cases rd.sip008 str with
      | some servers => rfl
      | none =>
        have hfold : ∀ (lines : List { line // line ∈ Text.splitLines str }) (u : RawUpdater B),
            lines.foldl (fun u line => rd.update u (Text.trimSpace line.1)) u =
              (lines.flatMap fun line => rd.parsed (Text.trimSpace line.1)).foldl
                RawUpdater.add u := by
          intro lines
          induction lines with
          | nil => exact fun u => rfl
          | cons line lines ihlines =>
            intro u
            have hlt : (Text.trimSpace line.1).length < n :=
              hn ▸ (Text.length_trimSpace_le _).trans_lt
                (Text.length_lt_of_mem_splitLines hlines line.2)
            rw [List.foldl_cons, List.flatMap_cons, List.foldl_append, ← ih _ hlt u _ rfl]
            exact ihlines _
        exact hfold _ u
    · cases rd.sip008 str with
      | some servers => rfl
      | none =>
        cases rd.link str with
        | none => rfl
        | some e => rfl

end Proxor.Sub
