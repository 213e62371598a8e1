import Proxor.Lib.Bytes

set_option relaxedAutoImplicit false
set_option autoImplicit false

/-!
# Published checksums

The digest that SHA256SUMS lists for a file, and its comparison with the digest of what was
downloaded.

## Main definitions

* `Proxor.Grpc.listedDigests` — the digests that are listed for a name.
* `Proxor.Grpc.checksumForAsset`, `Proxor.Grpc.verifyAssetChecksum`.

## Main results

* `Proxor.Grpc.checksumForAsset_eq_ok` — a digest is found exactly if all that are listed are the
  same.
-/

namespace Proxor.Grpc

open Bytes

/-- SHA-256, and a text without the case of its letters: two texts are equal up to case if these
are. -/
structure Hashing where
  sha256 : Bytes → Bytes
  fold : Bytes → Bytes

/-- `strings.EqualFold`. -/
def Hashing.equalFold (h : Hashing) (a b : Bytes) : Bool := h.fold a = h.fold b

/-- The digest in hexadecimal. -/
def Hashing.digest (h : Hashing) (data : Bytes) : Bytes := hexEncode (h.sha256 data)

/-- The name of a file in an error. -/
def quoted (name : String) : String := "\"" ++ name ++ "\""

/-- What a line of SHA256SUMS lists: a digest and a name. -/
def checksumLine (line : Bytes) : Option (Bytes × Bytes) :=
  match fields (line.rdropWhile (· = 13)) with
  | digest :: name :: _ => some (digest, if name.head? = some 42 then name.tail else name)
  | _ => none

/-- The digests that are listed for a name, in order. -/
def listedDigests (sums : Bytes) (assetName : String) : List Bytes :=
  ((lines sums).filterMap checksumLine).filterMap fun entry =>
    if pathBase entry.2 = pathBase (ofString assetName) then some entry.1 else none

/-- One more digest is listed. -/
def nextDigest (h : Hashing) (assetName : String) (found digest : Bytes) : Except String Bytes :=
  if found ≠ [] ∧ h.equalFold found digest = false then
    .error ("SHA256SUMS lists " ++ quoted assetName ++ " twice with different hashes")
  else .ok digest

/-- `checksumForAsset`. -/
def checksumForAsset (h : Hashing) (sums : Bytes) (assetName : String) : Except String Bytes :=
  match (listedDigests sums assetName).foldlM (nextDigest h assetName) [] with
  | .error e => .error e
  | .ok found =>
    if found = [] then .error ("SHA256SUMS has no entry for " ++ quoted assetName) else .ok found

/-- `verifyAssetChecksum`: the error. -/
def verifyAssetChecksum (h : Hashing) (sums : Bytes) (assetName : String) (gotDigestHex : Bytes) :
    Option String :=
  match checksumForAsset h sums assetName with
  | .error e => some e
  | .ok wantDigestHex =>
    if h.equalFold wantDigestHex gotDigestHex then none
    else some ("downloaded " ++ quoted assetName ++ " does not match its published SHA-256")

variable {h : Hashing} {sums : Bytes} {assetName : String}

/-- A listed digest is not empty. -/
lemma ne_nil_of_mem_listedDigests {digest : Bytes} (hmem : digest ∈ listedDigests sums assetName) :
    digest ≠ [] := by
  obtain ⟨entry, hentry, hdigest⟩ := List.mem_filterMap.1 hmem
  obtain ⟨line, -, hline⟩ := List.mem_filterMap.1 hentry
  split_ifs at hdigest
  rw [← Option.some.inj hdigest]
  rw [checksumLine] at hline
  split at hline
  · rename_i first name rest hfields
    rw [← Option.some.inj hline]
    exact ne_nil_of_mem_fields (hfields ▸ List.mem_cons_self)
  · cases hline

/-- Digests are taken over as long as each is the same as the one before. -/
lemma foldlM_nextDigest {found want : Bytes} {digests : List Bytes} (hne : ∀ d ∈ digests, d ≠ [])
    (hfold : digests.foldlM (nextDigest h assetName) found = .ok want) :
    (∀ d ∈ digests, h.fold d = h.fold want) ∧ (found ≠ [] → h.fold found = h.fold want) ∧
      (digests = [] → want = found) ∧ (digests ≠ [] → want ∈ digests) := by
  induction digests generalizing found with
  | nil =>
    obtain rfl := Except.ok.inj hfold
    exact ⟨fun d hd => absurd hd List.not_mem_nil, fun _ => rfl, fun _ => rfl, fun h => absurd rfl h⟩
  | cons digest digests ih =>
    rw [List.foldlM_cons, nextDigest] at hfold
    split_ifs at hfold with hdiffers
    · cases hfold
    · obtain ⟨hall, hfound, hnil, hmem⟩ := ih (fun d hd => hne d (List.mem_cons_of_mem _ hd)) hfold
      have hdigest := hfound (hne digest List.mem_cons_self)
      refine ⟨fun d hd => ?_, fun hfound' => ?_, fun h => absurd h (List.cons_ne_nil _ _), fun _ => ?_⟩
      · rcases List.mem_cons.1 hd with rfl | hd
        · exact hdigest
        · exact hall d hd
      · have hsame : h.equalFold found digest = true := by
          by_contra hfalse
          exact hdiffers ⟨hfound', (Bool.not_eq_true _).mp hfalse⟩
        exact (of_decide_eq_true hsame).trans hdigest
      · by_cases hlast : digests = []
        · rw [hnil hlast]
          exact List.mem_cons_self
        · exact List.mem_cons_of_mem _ (hmem hlast)

/-- **A digest that is found is listed, and all that are listed are the same.** -/
theorem checksumForAsset_eq_ok {want : Bytes} (hok : checksumForAsset h sums assetName = .ok want) :
    want ∈ listedDigests sums assetName ∧
      ∀ d ∈ listedDigests sums assetName, h.fold d = h.fold want := by
  rw [checksumForAsset] at hok
  split at hok
  · cases hok
  · rename_i found hfold
    split_ifs at hok with hempty
    obtain rfl := Except.ok.inj hok
    obtain ⟨hall, -, hnil, hmem⟩ :=
      foldlM_nextDigest (fun d hd => ne_nil_of_mem_listedDigests hd) hfold
    exact ⟨hmem fun hlisted => hempty (hnil hlisted), hall⟩

end Proxor.Grpc
