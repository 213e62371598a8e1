import Proxor.MacHelper.Capture
import Proxor.MacHelper.ManagerStep

set_option relaxedAutoImplicit false
set_option autoImplicit false

/-!
# What a restore can undo

A restore writes back only what an apply changes, and the bypass list only when it differs from
the list the snapshot says was written. It is exact on settings that differ from the recorded ones
in no other way; such settings are *recoverable*, and every command of an apply or a restore keeps
them so.

## Main definitions

* `Proxor.MacHelper.Recoverable` — the settings of one service a restore brings back.
* `Proxor.MacHelper.Tracked` — every service is original or recorded and recoverable.

## Main results

* `Proxor.MacHelper.Recoverable.effects_serviceRestorePlan` — a complete restore of a recoverable
  service is exact.
* `Proxor.MacHelper.Tracked.applied`, `Proxor.MacHelper.Tracked.restored` — what an apply and a
  restore keep.
-/

namespace Proxor.MacHelper

/-- The bypass list of a service after `list` was written; `Empty` stands for no list. -/
def writtenBypass (list : List String) : List String := if list = ["Empty"] then [] else list

/-- Settings that a restore of `svc`, with `appliedBypass` as the list written, brings back to the
recorded ones. -/
structure Recoverable (svc : ServiceSnapshot) (appliedBypass : Option (List String))
    (st : Settings) : Prop where
  autoURL : st.autoURL = svc.autoURL
  autoURLEnabled : svc.autoURLEnabled = false → st.autoURLEnabled = false
  autoDiscovery : svc.autoDiscovery = false → st.autoDiscovery = false
  bypass : appliedBypass = some svc.bypass → st.bypass = svc.bypass

namespace Recoverable

variable {svc : ServiceSnapshot} {L : Option (List String)} {st : Settings}

/-- The recorded settings themselves. -/
lemma original (svc : ServiceSnapshot) (L : Option (List String)) :
    Recoverable svc L svc.toSettings :=
  ⟨rfl, id, id, fun _ => rfl⟩

/-- With another list recorded, when the bypass list agrees with that. -/
lemma with_bypass (h : Recoverable svc L st) {L' : Option (List String)}
    (hb : L' = some svc.bypass → st.bypass = svc.bypass) : Recoverable svc L' st :=
  { h with bypass := hb }

/-- The proxies do not matter: a restore overwrites them. -/
lemma setProxy (h : Recoverable svc L st) (p : ProxyState) (kind : ProxyKind) :
    Recoverable svc L (st.setProxy p kind) := by
  cases kind <;> exact ⟨h.autoURL, h.autoURLEnabled, h.autoDiscovery, h.bypass⟩

lemma forget (h : Recoverable svc L st) : Recoverable svc none st :=
  h.with_bypass (by simp)

/-! ### Applying -/

/-- A command of an apply keeps the settings recoverable, but for the bypass list. -/
lemma effect_servicePlan (h : Recoverable svc none st) {port : ℤ} {bypass : List String}
    {args : Argv} (ha : args ∈ servicePlan svc port bypass) :
    Recoverable svc none (args.effect st) := by
  have hproxy : ∀ kind server port,
      Recoverable svc none ((Argv.setProxy kind svc.name server port).effect st) :=
    fun kind _ _ => h.setProxy _ kind
  obtain ⟨h₁, h₂, h₃, -⟩ := h
  simp only [servicePlan, applyPlan, List.flatMap_cons, List.flatMap_nil, List.append_nil,
    List.mem_append, List.mem_cons, List.not_mem_nil, or_false] at ha
  rcases ha with ((rfl | rfl | rfl | rfl) | ha) | ha
  · exact hproxy _ _ _
  · exact hproxy _ _ _
  · exact hproxy _ _ _
  · exact ⟨h₁, h₂, h₃, by simp⟩
  · split at ha
    · obtain rfl := List.mem_singleton.1 ha
      exact ⟨h₁, fun _ => rfl, h₃, by simp⟩
    · simp at ha
  · split at ha
    · obtain rfl := List.mem_singleton.1 ha
      exact ⟨h₁, h₂, fun _ => rfl, by simp⟩
    · simp at ha

/-- Commands of an apply keep the settings recoverable, but for the bypass list. -/
lemma effects_servicePlan (h : Recoverable svc none st) {port : ℤ} {bypass : List String}
    {done : List Argv} (hd : ∀ args ∈ done, args ∈ servicePlan svc port bypass) :
    Recoverable svc none (effects done st) := by
  induction done generalizing st with
  | nil => exact h
  | cons args done ih =>
    exact ih (h.effect_servicePlan (hd args (by simp))) fun a ha => hd a (by simp [ha])

end Recoverable

/-- What a command of an apply does to the bypass list. -/
lemma bypass_effect_servicePlan {svc : ServiceSnapshot} {port : ℤ} {bypass : List String}
    {args : Argv} (ha : args ∈ servicePlan svc port bypass) (st : Settings) :
    (args.effect st).bypass =
      if args = .setProxyBypassDomains svc.name bypass then writtenBypass bypass
      else st.bypass := by
  have hproxy : ∀ kind server port,
      ((Argv.setProxy kind svc.name server port).effect st).bypass = st.bypass := by
    intro kind server port
    cases kind <;> rfl
  simp only [servicePlan, applyPlan, List.flatMap_cons, List.flatMap_nil, List.append_nil,
    List.mem_append, List.mem_cons, List.not_mem_nil, or_false] at ha
  rcases ha with ((rfl | rfl | rfl | rfl) | ha) | ha
  · rw [hproxy, if_neg (by simp)]
  · rw [hproxy, if_neg (by simp)]
  · rw [hproxy, if_neg (by simp)]
  · rw [if_pos rfl]
    rfl
  · split at ha
    · obtain rfl := List.mem_singleton.1 ha
      rw [if_neg (by simp)]
      rfl
    · simp at ha
  · split at ha
    · obtain rfl := List.mem_singleton.1 ha
      rw [if_neg (by simp)]
      rfl
    · simp at ha

/-- The bypass list after commands of an apply: written, when the bypass command was among them. -/
lemma bypass_effects_servicePlan {svc : ServiceSnapshot} {port : ℤ} {bypass : List String}
    {done : List Argv} (hd : ∀ args ∈ done, args ∈ servicePlan svc port bypass) (st : Settings) :
    (effects done st).bypass =
      if .setProxyBypassDomains svc.name bypass ∈ done then writtenBypass bypass
      else st.bypass := by
  induction done generalizing st with
  | nil => simp
  | cons args done ih =>
    rw [effects_cons, ih fun a ha => hd a (by simp [ha]),
      bypass_effect_servicePlan (hd args (by simp))]
    by_cases h : .setProxyBypassDomains svc.name bypass ∈ done
    · simp [h]
    · by_cases he : args = .setProxyBypassDomains svc.name bypass
      · simp [he]
      · simp [h, he, Ne.symm he]

section Apply

variable (fails : Op → Bool) (svc : ServiceSnapshot) (port : ℤ) (bypass : List String)

/-- The bypass list was written in one of the two tries. -/
def writesBypass : Bool :=
  (applyDone fails svc port bypass).contains (.setProxyBypassDomains svc.name bypass)

lemma mem_servicePlan_of_mem_applyDone {args : Argv} (h : args ∈ applyDone fails svc port bypass) :
    args ∈ servicePlan svc port bypass := by
  have htry : ∀ retry, args ∈ applyTryDone fails svc port bypass retry →
      args ∈ servicePlan svc port bypass :=
    fun _ h => (List.takeWhile_prefix _).subset h
  rcases List.mem_append.1 h with h | h
  · exact htry _ h
  · split at h
    · exact htry _ h
    · simp at h

variable {fails svc port bypass}

/-- On a service that did not fail, every command of its plan took effect. -/
lemma mem_applyDone_of_not_applyFails (h : applyFails fails svc port bypass = false) {args : Argv}
    (hplan : args ∈ servicePlan svc port bypass) : args ∈ applyDone fails svc port bypass := by
  have hdone : ∀ retry, applyTryFails fails svc port bypass retry = false →
      applyTryDone fails svc port bypass retry = servicePlan svc port bypass := by
    intro retry h
    refine List.takeWhile_eq_self_iff.2 fun args ha => ?_
    simpa using List.any_eq_false.1 h args ha
  unfold applyDone
  cases hf : applyTryFails fails svc port bypass false with
  | false =>
    rw [hdone _ hf]
    exact List.mem_append_left _ hplan
  | true =>
    have hf' : applyTryFails fails svc port bypass true = false := by
      simpa [applyFails, hf] using h
    rw [if_pos rfl, hdone _ hf']
    exact List.mem_append_right _ hplan

/-- A service that did not fail had its bypass list written. -/
lemma writesBypass_of_not_applyFails (h : applyFails fails svc port bypass = false) :
    writesBypass fails svc port bypass = true := by
  have hplan : .setProxyBypassDomains svc.name bypass ∈ servicePlan svc port bypass := by
    simp [servicePlan, applyPlan]
  have hmem := mem_applyDone_of_not_applyFails h hplan
  simpa [writesBypass] using hmem

/-- The bypass list of a service after an apply. -/
lemma bypass_effects_applyDone (st : Settings) :
    (effects (applyDone fails svc port bypass) st).bypass =
      if writesBypass fails svc port bypass then writtenBypass bypass else st.bypass := by
  rw [bypass_effects_servicePlan fun a ha => mem_servicePlan_of_mem_applyDone _ _ _ _ ha]
  simp [writesBypass]

end Apply

/-! ### Restoring -/

section Restore

variable {svc : ServiceSnapshot} {L : Option (List String)} {st : Settings}

/-- The two commands that write one proxy back. -/
lemma effects_restoreProxy (kind : ProxyKind) {p : ProxyState} (hp : p.server = "" → p.port = 0)
    (name : String) (st : Settings) :
    effects (restoreProxy name kind p) st = st.setProxy p kind := by
  obtain ⟨enabled, server, port⟩ := p
  by_cases hs : server = ""
  · obtain rfl : port = 0 := hp hs
    subst hs
    cases kind <;> rfl
  · cases kind <;> simp [restoreProxy, hs, Argv.effect, Settings.setProxy, Settings.proxy]

/-- The part of a restore that writes the bypass list back. -/
lemma effects_restoreBypass (hne : svc.bypass ≠ ["Empty"])
    (hb : L = some svc.bypass → st.bypass = svc.bypass) :
    effects (if L.all fun l => !equalStrings svc.bypass l then
        [.setProxyBypassDomains svc.name (if svc.bypass.length = 0 then ["Empty"] else svc.bypass)]
      else []) st = { st with bypass := svc.bypass } := by
  by_cases hL : L = some svc.bypass
  · have hskip : (L.all fun l => !equalStrings svc.bypass l) = false := by
      simp [hL, equalStrings]
    rw [hskip, if_neg (by simp), effects_nil, ← hb hL]
  · have hwrite : (L.all fun l => !equalStrings svc.bypass l) = true := by
      cases L with
      | none => rfl
      | some l =>
        have hne : svc.bypass ≠ l := fun h => hL (h ▸ rfl)
        simpa [equalStrings] using hne
    rw [hwrite, if_pos rfl, effects_cons, effects_nil]
    by_cases hnil : svc.bypass = []
    · simp [Argv.effect, hnil]
    · simp [Argv.effect, hnil, hne]

/-- The part of a restore that turns PAC on where it was. -/
lemma effects_restoreAutoURL (hu : st.autoURL = svc.autoURL)
    (he : svc.autoURLEnabled = false → st.autoURLEnabled = false) :
    effects (if svc.autoURLEnabled then
        (if svc.autoURL ≠ "" then [Argv.setAutoProxyURL svc.name svc.autoURL] else []) ++
          [.setAutoProxyState svc.name true]
      else []) st = { st with autoURLEnabled := svc.autoURLEnabled } := by
  cases hs : svc.autoURLEnabled with
  | false =>
    rw [if_neg (by simp), effects_nil, ← he hs]
  | true =>
    rw [if_pos rfl]
    by_cases hne : svc.autoURL ≠ ""
    · rw [if_pos hne]
      simp [Argv.effect, hu]
    · rw [if_neg hne]
      rfl

/-- The part of a restore that turns WPAD on where it was. -/
lemma effects_restoreAutoDiscovery (hd : svc.autoDiscovery = false → st.autoDiscovery = false) :
    effects (if svc.autoDiscovery then [Argv.setProxyAutoDiscovery svc.name true] else []) st =
      { st with autoDiscovery := svc.autoDiscovery } := by
  cases hs : svc.autoDiscovery with
  | false => rw [if_neg (by simp), effects_nil, ← hd hs]
  | true => rfl

/-- **A complete restore is exact** on recoverable settings.

**Proof sketch.** The proxies are overwritten. The bypass list is written unless it is recorded as
what the apply wrote, and then it is the service's own; `Empty` is only written for no list. PAC and
WPAD are turned on where they were, and are still off elsewhere. -/
theorem Recoverable.effects_serviceRestorePlan (h : Recoverable svc L st)
    (hp : svc.toSettings.Printable) : effects (serviceRestorePlan svc L) st = svc.toSettings := by
  simp only [serviceRestorePlan, restorePlan, List.flatMap_cons, List.flatMap_nil, List.append_nil,
    effects_append]
  have hweb : svc.web.server = "" → svc.web.port = 0 := hp.port .web
  have hsecure : svc.secure.server = "" → svc.secure.port = 0 := hp.port .secure
  have hsocks : svc.socks.server = "" → svc.socks.port = 0 := hp.port .socks
  rw [effects_restoreProxy .web hweb, effects_restoreProxy .secure hsecure,
    effects_restoreProxy .socks hsocks]
  have h' := ((h.setProxy svc.web .web).setProxy svc.secure .secure).setProxy svc.socks .socks
  rw [effects_restoreBypass hp.bypass_ne h'.bypass, effects_restoreAutoURL,
    effects_restoreAutoDiscovery]
  · simp [Settings.setProxy, h.autoURL]
  · exact h'.autoDiscovery
  · exact h'.autoURL
  · exact h'.autoURLEnabled

/-- A command of a restore keeps the settings recoverable. -/
lemma Recoverable.effect_serviceRestorePlan (h : Recoverable svc L st) {args : Argv}
    (hne : svc.bypass ≠ ["Empty"]) (ha : args ∈ serviceRestorePlan svc L) :
    Recoverable svc L (args.effect st) := by
  have hproxy : ∀ kind p, args ∈ restoreProxy svc.name kind p →
      Recoverable svc L (args.effect st) := by
    intro kind p ha
    simp only [restoreProxy, List.mem_cons, List.not_mem_nil, or_false] at ha
    rcases ha with rfl | rfl
    · split <;> exact h.setProxy _ kind
    · exact h.setProxy _ kind
  obtain ⟨h₁, h₂, h₃, h₄⟩ := h
  simp only [serviceRestorePlan, restorePlan, List.flatMap_cons, List.flatMap_nil, List.append_nil,
    List.mem_append] at ha
  rcases ha with ((((ha | ha) | ha) | ha) | ha) | ha
  · exact hproxy _ _ ha
  · exact hproxy _ _ ha
  · exact hproxy _ _ ha
  · split at ha
    · obtain rfl := List.mem_singleton.1 ha
      refine ⟨h₁, h₂, h₃, fun _ => ?_⟩
      by_cases hnil : svc.bypass = []
      · simp [Argv.effect, hnil]
      · simp [Argv.effect, hnil, hne]
    · simp at ha
  · split at ha
    · rename_i hon
      rcases List.mem_append.1 ha with ha | ha
      · split at ha
        · obtain rfl := List.mem_singleton.1 ha
          exact ⟨rfl, fun hoff => absurd hon (by simp [hoff]), h₃, h₄⟩
        · simp at ha
      · obtain rfl := List.mem_singleton.1 ha
        exact ⟨h₁, fun hoff => absurd hon (by simp [hoff]), h₃, h₄⟩
    · simp at ha
  · split at ha
    · rename_i hon
      obtain rfl := List.mem_singleton.1 ha
      exact ⟨h₁, h₂, fun hoff => absurd hon (by simp [hoff]), h₄⟩
    · simp at ha

/-- Commands of a restore keep the settings recoverable. -/
lemma Recoverable.effects_of_mem_serviceRestorePlan (h : Recoverable svc L st)
    (hne : svc.bypass ≠ ["Empty"]) {done : List Argv}
    (hd : ∀ args ∈ done, args ∈ serviceRestorePlan svc L) :
    Recoverable svc L (effects done st) := by
  induction done generalizing st with
  | nil => exact h
  | cons args done ih =>
    exact ih (h.effect_serviceRestorePlan hne (hd args (by simp)))
      fun a ha => hd a (by simp [ha])

variable {fails : Op → Bool} {phase : Phase}

lemma mem_serviceRestorePlan_of_mem_restoreTryDone {retry : Bool} {args : Argv}
    (h : args ∈ restoreTryDone fails phase svc L retry) : args ∈ serviceRestorePlan svc L :=
  List.mem_of_mem_filter h

lemma mem_serviceRestorePlan_of_mem_restoreDone {args : Argv}
    (h : args ∈ restoreDone fails phase svc L) : args ∈ serviceRestorePlan svc L := by
  rcases List.mem_append.1 h with h | h
  · exact mem_serviceRestorePlan_of_mem_restoreTryDone h
  · split at h
    · exact mem_serviceRestorePlan_of_mem_restoreTryDone h
    · simp at h

/-- A try that does not fail is complete. -/
lemma restoreTryDone_eq {retry : Bool} (h : restoreTryFails fails phase svc L retry = false) :
    restoreTryDone fails phase svc L retry = serviceRestorePlan svc L := by
  refine List.filter_eq_self.2 fun args ha => ?_
  simpa using List.any_eq_false.1 h args ha

/-- A restore, whatever of it fails, keeps the settings recoverable. -/
lemma Recoverable.effects_restoreDone (h : Recoverable svc L st) (hp : svc.toSettings.Printable) :
    Recoverable svc L (effects (restoreDone fails phase svc L) st) :=
  h.effects_of_mem_serviceRestorePlan hp.bypass_ne
    fun _ ha => mem_serviceRestorePlan_of_mem_restoreDone ha

/-- **A restore that does not fail is exact**: one of its two tries is complete, and what the other
did left the settings recoverable. -/
theorem Recoverable.effects_restoreDone_eq (h : Recoverable svc L st) (hp : svc.toSettings.Printable)
    (hf : restoreFails fails phase svc L = false) :
    effects (restoreDone fails phase svc L) st = svc.toSettings := by
  unfold restoreDone
  cases hfirst : restoreTryFails fails phase svc L false with
  | false =>
    rw [if_neg (by simp), List.append_nil, restoreTryDone_eq hfirst]
    exact h.effects_serviceRestorePlan hp
  | true =>
    have hsecond : restoreTryFails fails phase svc L true = false := by
      simpa [restoreFails, hfirst] using hf
    rw [if_pos rfl, effects_append, restoreTryDone_eq hsecond]
    refine Recoverable.effects_serviceRestorePlan ?_ hp
    exact h.effects_of_mem_serviceRestorePlan hp.bypass_ne
      fun a ha => mem_serviceRestorePlan_of_mem_restoreTryDone ha

end Restore

/-! ### All services -/

/-- Every service of the machine has its original settings, or is one of `services` and can be
restored from there. -/
structure Tracked (m : Machine) (services : List ServiceSnapshot)
    (appliedBypass : Option (List String)) (net : String → Settings) : Prop where
  captured : Captured m.toHardware m.net services
  recoverable : ∀ svc ∈ services, Recoverable svc appliedBypass (net svc.name)
  others : ∀ name, (∀ svc ∈ services, svc.name ≠ name) → net name = m.net name

namespace Tracked

variable {m : Machine} {services : List ServiceSnapshot} {L : Option (List String)}
  {net : String → Settings} {fails : Op → Bool}

/-- A fresh capture. -/
lemma of_captured (h : Captured m.toHardware m.net services) (L : Option (List String)) :
    Tracked m services L m.net where
  captured := h
  recoverable svc hsvc := h.settings svc hsvc ▸ Recoverable.original svc L
  others _ _ := rfl

lemma targets (h : Tracked m services L net) : Targets m.toHardware services :=
  ⟨h.captured.nodup, h.captured.mem⟩

/-- A recorded service can be written back. -/
lemma printable (h : Tracked m services L net) {svc : ServiceSnapshot} (hsvc : svc ∈ services) :
    svc.toSettings.Printable :=
  h.captured.settings svc hsvc ▸ m.printable _ (h.captured.mem svc hsvc)

/-- With another list recorded, when the bypass lists agree with it. -/
lemma with_bypass (h : Tracked m services L net) {L' : Option (List String)}
    (hb : ∀ svc ∈ services, L' = some svc.bypass → (net svc.name).bypass = svc.bypass) :
    Tracked m services L' net :=
  { h with recoverable := fun svc hsvc => (h.recoverable svc hsvc).with_bypass (hb svc hsvc) }

/-- A restore from the file instead of from memory: an empty list is not recorded there. -/
lemma persisted (h : Tracked m services L net) :
    Tracked m services (L.filter fun l => l ≠ []) net :=
  h.with_bypass fun svc hsvc hL =>
    (h.recoverable svc hsvc).bypass (Option.filter_eq_some_iff.1 hL).1

/-- An apply, whatever of it fails, keeps everything restorable, but for the bypass lists. -/
lemma applied (h : Tracked m services L net) (port : ℤ) (bypass : List String) :
    Tracked m services none (ProxyManager.netApplied fails services port bypass net) where
  captured := h.captured
  recoverable svc hsvc := by
    unfold ProxyManager.netApplied
    rw [onServices_of_mem h.captured.nodup hsvc]
    exact (h.recoverable svc hsvc).forget.effects_servicePlan
      fun a ha => mem_servicePlan_of_mem_applyDone _ _ _ _ ha
  others name hname := by
    unfold ProxyManager.netApplied
    rw [onServices_of_notMem hname, h.others name hname]

/-- The bypass list of a service after an apply. -/
lemma bypass_netApplied (h : Tracked m services L net) {svc : ServiceSnapshot}
    (hsvc : svc ∈ services) (port : ℤ) (bypass : List String) :
    (ProxyManager.netApplied fails services port bypass net svc.name).bypass =
      if writesBypass fails svc port bypass then writtenBypass bypass
      else (net svc.name).bypass := by
  unfold ProxyManager.netApplied
  rw [onServices_of_mem h.captured.nodup hsvc, bypass_effects_applyDone]

/-- **What an apply keeps.** If every service whose own list is the applied one has it, because it
was written or because it was there, the recorded list is true of all services. -/
lemma applied_with_bypass (h : Tracked m services L net) (port : ℤ) {bypass : List String}
    (hb : ∀ svc ∈ services, svc.bypass = bypass →
      writesBypass fails svc port bypass = true ∨ (net svc.name).bypass = bypass) :
    Tracked m services (some bypass)
      (ProxyManager.netApplied fails services port bypass net) := by
  refine (h.applied port bypass).with_bypass fun svc hsvc heq => ?_
  obtain rfl := (Option.some.inj heq)
  rw [h.bypass_netApplied hsvc]
  split
  · exact if_neg (h.printable hsvc).bypass_ne
  · rename_i hw
    exact (hb svc hsvc rfl).resolve_left hw

/-- The settings of a service after a restore. -/
lemma netRestored_of_mem (h : Tracked m services L net) (phase : Phase) {svc : ServiceSnapshot}
    (hsvc : svc ∈ services) :
    ProxyManager.netRestored fails phase services L net svc.name =
      effects (restoreDone fails phase svc L) (net svc.name) := by
  unfold ProxyManager.netRestored
  rw [onServices_of_mem h.captured.nodup hsvc]

/-- A service of which a restore does not fail has its original settings back. -/
lemma netRestored_eq (h : Tracked m services L net) (phase : Phase) {svc : ServiceSnapshot}
    (hsvc : svc ∈ services) (hf : restoreFails fails phase svc L = false) :
    ProxyManager.netRestored fails phase services L net svc.name = m.net svc.name := by
  rw [h.netRestored_of_mem phase hsvc,
    (h.recoverable svc hsvc).effects_restoreDone_eq (h.printable hsvc) hf, h.captured.settings svc hsvc]

/-- A restore leaves the services that were not recorded as they are. -/
lemma netRestored_of_notMem (h : Tracked m services L net) (phase : Phase) {name : String}
    (hname : ∀ svc ∈ services, svc.name ≠ name) :
    ProxyManager.netRestored fails phase services L net name = m.net name := by
  unfold ProxyManager.netRestored
  rw [onServices_of_notMem hname, h.others name hname]

/-- **What a restore keeps.** The services that remain are the only ones not yet original. -/
lemma restored (h : Tracked m services L net) (phase : Phase)
    (hne : services.filter (fun svc => restoreFails fails phase svc L) ≠ []) :
    Tracked m (services.filter fun svc => restoreFails fails phase svc L) L
      (ProxyManager.netRestored fails phase services L net) where
  captured := {
    nonempty := hne
    nodup := (h.targets.filter _).nodup
    mem := (h.targets.filter _).mem
    safe := fun svc hsvc => h.captured.safe svc (List.mem_of_mem_filter hsvc)
    settings := fun svc hsvc => h.captured.settings svc (List.mem_of_mem_filter hsvc) }
  recoverable svc hsvc := by
    have hsvc := List.mem_of_mem_filter hsvc
    rw [h.netRestored_of_mem phase hsvc]
    exact (h.recoverable svc hsvc).effects_restoreDone (h.printable hsvc)
  others name hname := by
    by_cases hex : ∃ svc ∈ services, svc.name = name
    · obtain ⟨svc, hsvc, rfl⟩ := hex
      refine h.netRestored_eq phase hsvc ?_
      by_contra hf
      exact hname svc (List.mem_filter.2 ⟨hsvc, by simpa using hf⟩) rfl
    · exact h.netRestored_of_notMem phase (by simpa using hex)

/-- A restore of which no service fails brings the original settings back. -/
lemma netRestored_eq_net (h : Tracked m services L net) (phase : Phase)
    (hf : ∀ svc ∈ services, restoreFails fails phase svc L = false) :
    ProxyManager.netRestored fails phase services L net = m.net := by
  funext name
  by_cases hex : ∃ svc ∈ services, svc.name = name
  · obtain ⟨svc, hsvc, rfl⟩ := hex
    exact h.netRestored_eq phase hsvc (hf svc hsvc)
  · exact h.netRestored_of_notMem phase (by simpa using hex)

end Tracked

end Proxor.MacHelper
