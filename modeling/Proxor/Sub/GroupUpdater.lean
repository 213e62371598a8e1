import Proxor.Db.ProfileFilter
import Proxor.Sub.RawUpdater

set_option relaxedAutoImplicit false
set_option autoImplicit false

/-!
# Updating a subscription

The order of the group is cleared and saved, what the body says is added to the group, the new profiles
are compared with those the group had, and what is not in the new order is deleted.

## Main definitions

* `Proxor.Sub.download` — the body, from the main URL or the fallback.
* `Proxor.Sub.updateGroup` — what is done with a body.
* `Proxor.Sub.update` — `GroupUpdater::Update`.

## Design

What is read of the headers of an answer, and of the comments in its body, is a record. The texts that
are logged are left out.
-/

namespace Proxor.Sub

open Db

variable {B : Type}

/-- What an answer says about the group. -/
structure Headers where
  sub_user_info : String := ""
  intervalMinutes : ℤ := 0
  alwaysUpdate : Bool := false
  /-- It is said in the header or in the body. -/
  pingOnOpenEnabled : Option Bool := none
  /-- A routing profile is given, or is turned off. -/
  directSites : Option (List String) := none
  /-- It is a URL, or empty. -/
  fallbackUrl : String := ""
  sub_name : String := ""

/-- The answer to a request. -/
structure Response where
  failed : Bool := false
  data : String := ""
  headers : Headers := {}

/-- What the headers change in a group. -/
def Headers.apply (headers : Headers) (group : Group) : Group :=
  let group :=
    if group.skip_auto_update then group
    else { group with
      sub_update_interval := headers.intervalMinutes
      sub_update_always := headers.alwaysUpdate
      subscription_ping_onopen_enabled :=
        headers.pingOnOpenEnabled.getD group.subscription_ping_onopen_enabled
      subscription_direct_sites := headers.directSites.getD group.subscription_direct_sites
      fallback_url := if headers.fallbackUrl = "" then group.fallback_url else headers.fallbackUrl }
  { group with name := if headers.sub_name = "" then group.name else headers.sub_name }

/-- `NormalizeFallbackUrl`. -/
def Reader.normalizeFallbackUrl (rd : Reader B) (value : String) : String :=
  if rd.isHttpUrl (Text.trimSpace value) then Text.trimSpace value else ""

/-- The body, from the main URL or the fallback, unless both fail. A text that is no URL is a body
itself, and has no headers. -/
def download (rd : Reader B) (httpGet : String → Response) (content : String) (asURL : Bool)
    (group : Option Group) : Option (String × Option Headers) :=
  if asURL = false then some (content, none)
  else
    let resp := httpGet content
    if resp.failed = false then some (resp.data, some resp.headers)
    else
      let fallbackUrl := group.elim "" fun group => rd.normalizeFallbackUrl group.fallback_url
      if fallbackUrl ≠ "" ∧ fallbackUrl ≠ content then
        let resp := httpGet fallbackUrl
        if resp.failed = false then some (resp.data, some resp.headers) else none
      else none

/-- The group before the body is read: its order is gone. -/
def prepared (now : ℤ) (headers : Option Headers) (group : Group) : Group :=
  { headers.elim group fun headers => headers.apply group with
    sub_last_update := now
    info := headers.elim "" Headers.sub_user_info
    order := [] }

/-- The new order: a profile that was in the group before stands for its new copy. -/
def remoteOrder (s : ProfileManager B) (updated_order update_keep update_del : List Ref) : List ℤ :=
  updated_order.filterMap fun p =>
    if p ∈ update_del then (update_keep[update_del.idxOf p]?).map fun q => (s.objects q).id
    else some (s.objects p).id

/-- Delete a profile that is not in the order of its group. -/
def cleanup (gid : ℤ) (s : ProfileManager B) (p : Ref) : ProfileManager B :=
  match s.getGroup gid with
  | none => s
  | some group =>
    if (s.objects p).id ∈ group.order then s else s.deleteProfile (s.objects p).id

variable [AbstractBean B]

/-- What is done with a body. `before` are the profiles the group had. -/
def updateGroup (rd : Reader B) (now : ℤ) (s : ProfileManager B) (gid : ℤ) (content : String)
    (headers : Option Headers) : ProfileManager B :=
  let before := s.groupProfiles gid
  let s := s.editGroup gid (prepared now headers)
  let s :=
    if s.dataStore.sub_clear then
      before.foldl (fun s p => s.deleteProfile (s.objects p).id) s
    else s
  let rawUpdater := rd.update { gid_add_to := gid, store := s } content
  let s := rawUpdater.store
  if s.dataStore.sub_clear then s
  else
    let out_all := s.groupProfiles gid
    let out := ProfileManager.onlyInSrcByPointer out_all before
    let updates := s.common before out false
    let s := s.editGroup gid fun group =>
      { group with order := remoteOrder s rawUpdater.updated_order updates.1 updates.2 }
    out_all.foldl (cleanup gid) s

/-- `GroupUpdater::Update`. -/
def update (rd : Reader B) (httpGet : String → Response) (now : ℤ) (s : ProfileManager B)
    (str : String) (sub_gid : ℤ) (not_sub_as_url : Bool) : ProfileManager B :=
  let content := Text.trimSpace str
  let asURL := decide (0 ≤ sub_gid) || not_sub_as_url
  match s.getGroup sub_gid with
  | none =>
    match download rd httpGet content asURL none with
    | none => s
    | some (content, _) => (rd.update { gid_add_to := sub_gid, store := s } content).store
  | some group =>
    if group.archive then s
    else match download rd httpGet content asURL (some group) with
      | none => s
      | some (content, headers) => updateGroup rd now s sub_gid content headers

end Proxor.Sub
