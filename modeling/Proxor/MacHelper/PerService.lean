import Proxor.MacHelper.SimNet

set_option relaxedAutoImplicit false
set_option autoImplicit false

/-!
# Applying and restoring, one service at a time

The manager handles the services of a snapshot concurrently and then retries those that failed.
Commands of one service neither read nor change the settings of another, so under every schedule
each service ends as if it had been handled alone, and what a call leaves is a function of the
failure pattern, service by service.

## Main definitions

* `Proxor.MacHelper.effects` — the settings after some commands.
* `Proxor.MacHelper.applyDone`, `Proxor.MacHelper.restoreDone` — the commands that take effect on
  one service, its retry included.
* `Proxor.MacHelper.applyFails`, `Proxor.MacHelper.restoreFails` — both tries of a service fail.
* `Proxor.MacHelper.onServices` — a change of the settings of some services, each its own.

## Main results

* `Proxor.MacHelper.ProxyManager.applyServices_run`,
  `Proxor.MacHelper.ProxyManager.restoreServices_run` — what the two rounds return and leave, under
  every schedule.
-/

namespace Proxor.MacHelper

open Resumption Text

/-! ### One plan -/

/-- The settings after some commands, in order. -/
def effects (plan : List Argv) (st : Settings) : Settings :=
  plan.foldl (fun st args => args.effect st) st

@[simp] lemma effects_nil (st : Settings) : effects [] st = st := rfl

@[simp] lemma effects_cons (args : Argv) (plan : List Argv) (st : Settings) :
    effects (args :: plan) st = effects plan (args.effect st) := rfl

@[simp] lemma effects_append (plan plan' : List Argv) (st : Settings) :
    effects (plan ++ plan') st = effects plan' (effects plan st) :=
  List.foldl_append

/-- The settings after two plans, as a function. -/
lemma effects_append_eq (plan plan' : List Argv) :
    effects (plan ++ plan') = fun st => effects plan' (effects plan st) :=
  funext (effects_append plan plan')

/-- The error of a command that failed. -/
def failure (args : Argv) : Err := .wrap args.arg0 (.text "exit status 1")

/-- The settings of one service changed. -/
def World.onService (w : World) (name : String) (f : Settings → Settings) : World :=
  { w with net := Function.update w.net name (f (w.net name)) }

@[simp] lemma World.onService_id (w : World) (name : String) : w.onService name (fun st => st) = w := by
  simp [onService]

@[simp] lemma World.onService_onService (w : World) (name : String) (f g : Settings → Settings) :
    (w.onService name f).onService name g = w.onService name fun st => g (f st) := by
  simp [onService]

namespace ProxyManager

variable {hw : Hardware} {fails : Op → Bool} {phase : Phase} {retry : Bool} {name : String}

/-- One command on an existing service. -/
lemma run_eq (hm : name ∈ hw.order) {args : Argv} (ht : args.target = some name) (w : World) :
    (run phase retry args).run (hw.handler fails) w =
      if fails (.cmd phase retry args) then (.error (.text "exit status 1"), w)
      else (.ok "", w.onService name args.effect) := by
  cases hf : fails (.cmd phase retry args) with
  | true =>
    rw [run, Prog.run_op, Hardware.handler_cmd_of_fails hf]
    rfl
  | false => exact run_setter ht hm hf w

/-- A plan on an existing service runs up to its first failing command. -/
lemma runPlan_run (hm : name ∈ hw.order) (plan : List Argv)
    (ht : ∀ args ∈ plan, args.target = some name) (w : World) :
    (runPlan phase retry plan).run (hw.handler fails) w =
      ((plan.find? fun args => fails (.cmd phase retry args)).map failure,
        w.onService name (effects (plan.takeWhile fun args => !fails (.cmd phase retry args)))) := by
  induction plan generalizing w with
  | nil =>
    rw [List.takeWhile_nil]
    exact Prod.ext rfl (w.onService_id name).symm
  | cons args plan ih =>
    rw [runPlan, Prog.bind_eq, Prog.run_bind, run_eq hm (ht args (by simp))]
    rw [List.find?_cons, List.takeWhile_cons]
    cases hf : fails (.cmd phase retry args) with
    | true => exact Prod.ext rfl (w.onService_id name).symm
    | false =>
      rw [if_neg (by simp)]
      dsimp only
      rw [ih fun a ha => ht a (by simp [ha]), World.onService_onService]
      rfl

/-- Every command of a plan on an existing service runs, and those that do not fail take effect. -/
lemma runAll_run (hm : name ∈ hw.order) (plan : List Argv)
    (ht : ∀ args ∈ plan, args.target = some name) (w : World) :
    (runAll phase retry name plan).run (hw.handler fails) w =
      ((plan.filter fun args => fails (.cmd phase retry args)).map fun args =>
          Err.wrap name (failure args),
        w.onService name (effects (plan.filter fun args => !fails (.cmd phase retry args)))) := by
  induction plan generalizing w with
  | nil =>
    rw [List.filter_nil]
    exact Prod.ext rfl (w.onService_id name).symm
  | cons args plan ih =>
    have ih := fun w => ih (fun a ha => ht a (by simp [ha])) w
    rw [runAll, Prog.bind_eq, Prog.run_bind, run_eq hm (ht args (by simp)), Prog.bind_eq,
      Prog.run_bind]
    rw [List.filter_cons, List.filter_cons]
    cases hf : fails (.cmd phase retry args) with
    | true =>
      rw [if_pos rfl, ih]
      rfl
    | false =>
      rw [if_neg (by simp)]
      dsimp only
      rw [ih, World.onService_onService]
      rfl

end ProxyManager

/-! ### Two rounds over several services -/

/-- The settings of some services changed, each its own; the first entry of a name counts. -/
def onServices (services : List ServiceSnapshot) (f : ServiceSnapshot → Settings → Settings)
    (net : String → Settings) : String → Settings := fun name =>
  match services.find? fun svc => svc.name == name with
  | some svc => f svc (net name)
  | none => net name

lemma find?_name_of_mem {services : List ServiceSnapshot} (hn : (services.map (·.name)).Nodup)
    {svc : ServiceSnapshot} (hs : svc ∈ services) :
    (services.find? fun s => s.name == svc.name) = some svc := by
  induction services with
  | nil => simp at hs
  | cons s services ih =>
    obtain ⟨hn₁, hn₂⟩ := List.nodup_cons.1 hn
    rcases List.mem_cons.1 hs with rfl | hs
    · simp
    · have hne : s.name ≠ svc.name := fun h => hn₁ (List.mem_map.2 ⟨svc, hs, h.symm⟩)
      rw [List.find?_cons_of_neg (by simpa using hne), ih hn₂ hs]

/-- What a change does to one of its services. -/
lemma onServices_of_mem {services : List ServiceSnapshot} (hn : (services.map (·.name)).Nodup)
    {svc : ServiceSnapshot} (hs : svc ∈ services) (f : ServiceSnapshot → Settings → Settings)
    (net : String → Settings) : onServices services f net svc.name = f svc (net svc.name) := by
  rw [onServices, find?_name_of_mem hn hs]

/-- A change leaves the other services alone. -/
lemma onServices_of_notMem {services : List ServiceSnapshot} {name : String}
    (hs : ∀ svc ∈ services, svc.name ≠ name) (f : ServiceSnapshot → Settings → Settings)
    (net : String → Settings) : onServices services f net name = net name := by
  have hnone : (services.find? fun svc => svc.name == name) = none := by
    rw [List.find?_eq_none]
    exact fun svc hsvc => by simpa using hs svc hsvc
  rw [onServices, hnone]

/-- The command may change the service `name` only. -/
def OnService (name : String) : Op → Prop
  | .cmd _ _ args => args.target = some name
  | _ => False

variable {hw : Hardware} {fails : Op → Bool}

/-- A command on a service works within the settings of that service. -/
lemma OnService.within {name : String} (hm : name ∈ hw.order) {o : Op} (ho : OnService name o) :
    Prog.Within (hw.handler fails) (fun w => w.net name) o := by
  cases o with
  | cmd phase retry args =>
    intro w w' hv
    have ht : args.target = some name := ho
    have hs := Argv.service_of_target ht
    have hout : ∀ net, hw.output net args = "" := by
      intro net
      cases args <;> simp_all [Argv.target, Hardware.output]
    cases hf : fails (.cmd phase retry args) with
    | true =>
      rw [Hardware.handler_cmd_of_fails hf, Hardware.handler_cmd_of_fails hf]
      exact ⟨rfl, hv⟩
    | false =>
      rw [Hardware.handler_cmd_of_not_fails hf, Hardware.handler_cmd_of_not_fails hf,
        Hardware.exec_of_mem hs hm, Hardware.exec_of_mem hs hm, hout, hout]
      have hv : w.net name = w'.net name := hv
      simp [hv]
  | readStore => exact ho.elim
  | replaceStore again snap => exact ho.elim
  | removeStore => exact ho.elim
  | renameStore => exact ho.elim

/-- It leaves the settings of every other service as they are. -/
lemma OnService.frames {name name' : String} (hne : name ≠ name') {o : Op} (ho : OnService name o) :
    Prog.Frames (hw.handler fails) (fun w => w.net name') o := by
  cases o with
  | cmd phase retry args =>
    intro w
    have ht : args.target = some name := ho
    rcases @Hardware.handler_cmd_net hw fails phase retry args w with h | ⟨n, -, hs, -, h⟩
    · exact congrFun h name'
    · obtain rfl : name = n := Option.some.inj ((Argv.service_of_target ht).symm.trans hs)
      dsimp only
      rw [h, Function.update_of_ne hne.symm]
  | readStore => exact ho.elim
  | replaceStore again snap => exact ho.elim
  | removeStore => exact ho.elim
  | renameStore => exact ho.elim

/-- It does not touch the file. -/
lemma OnService.frames_file {name : String} {o : Op} (ho : OnService name o) :
    Prog.Frames (hw.handler fails) (fun w => w.file) o := by
  cases o with
  | cmd phase retry args => exact fun w => Hardware.handler_cmd_file phase retry args w
  | readStore => exact ho.elim
  | replaceStore again snap => exact ho.elim
  | removeStore => exact ho.elim
  | renameStore => exact ho.elim

/-- **Two rounds over several services.** If each service's program and its second program run
commands on that service only, and together, alone, return `res` and change its settings by `f`,
then under every schedule the two rounds return every `res` and change every service by its `f`.

**Proof sketch.** Every settings function is determined service by service, and each service is a
view its own programs work within and all others frame (`Prog.par_bind_all_view`). -/
theorem two_rounds_run {α : Type} {sched : List ℕ} {services : List ServiceSnapshot}
    (hn : (services.map (·.name)).Nodup) (hm : ∀ svc ∈ services, svc.name ∈ hw.order)
    {first : ServiceSnapshot → Act α} {second : ServiceSnapshot → α → Act α}
    (h₁ : ∀ svc ∈ services, (first svc).OpsIn (OnService svc.name))
    (h₂ : ∀ svc ∈ services, ∀ r, (second svc r).OpsIn (OnService svc.name))
    {res : ServiceSnapshot → α} {f : ServiceSnapshot → Settings → Settings}
    (hrun : ∀ svc ∈ services, ∀ w, ((first svc).bind (second svc)).run (hw.handler fails) w =
      (res svc, w.onService svc.name (f svc))) (w : World) :
    ((Prog.par sched (services.map first)).bind fun rs =>
        Prog.all ((services.zip rs).map fun p => second p.1 p.2)).run (hw.handler fails) w =
      (services.map res, { w with net := onServices services f w.net }) := by
  set prog := (Prog.par sched (services.map first)).bind fun rs =>
    Prog.all ((services.zip rs).map fun p => second p.1 p.2) with hprog
  have hmem : ∀ {i : ℕ} {svc : ServiceSnapshot}, services[i]? = some svc → svc ∈ services :=
    fun hi => List.mem_of_getElem? hi
  have hview : ∀ (i : ℕ) (svc : ServiceSnapshot), services[i]? = some svc →
      (prog.run (hw.handler fails) w).1[i]? = some (res svc) ∧
        (prog.run (hw.handler fails) w).2.net svc.name = f svc (w.net svc.name) := by
    intro i svc hi
    have hmi := hm svc (hmem hi)
    obtain ⟨hr, hv⟩ := @Prog.par_bind_all_view _ _ _ _ _ (hw.handler fails)
      (fun w => w.net svc.name) _ services first second sched i svc hi
      ((h₁ svc (hmem hi)).mono fun o ho => ho.within hmi)
      (fun r => (h₂ svc (hmem hi) r).mono fun o ho => ho.within hmi)
      (fun j b hj hji => by
        have hne : b.name ≠ svc.name := by
          intro heq
          have hj' : (services.map (·.name))[j]? = some b.name := by rw [List.getElem?_map, hj]; rfl
          have hi' : (services.map (·.name))[i]? = some b.name := by
            rw [List.getElem?_map, hi, heq]; rfl
          exact hji (List.getElem?_inj (List.getElem?_eq_some_iff.1 hj').1 hn |>.1 (hj'.trans hi'.symm))
        exact ⟨(h₁ b (hmem hj)).mono fun o ho => ho.frames hne,
          fun r => (h₂ b (hmem hj) r).mono fun o ho => ho.frames hne⟩) w
    rw [hrun svc (hmem hi)] at hr hv
    refine ⟨hr, hv.trans ?_⟩
    dsimp only [World.onService]
    rw [Function.update_self]
  have hops : ∀ D : Op → Prop, (∀ svc ∈ services, ∀ o, OnService svc.name o → D o) →
      prog.OpsIn D := by
    intro D hD
    refine Prog.OpsIn.bind (Prog.opsIn_par fun t ht => ?_) fun rs => Prog.opsIn_all fun t ht => ?_
    · obtain ⟨svc, hsvc, rfl⟩ := List.mem_map.1 ht
      exact (h₁ svc hsvc).mono (hD svc hsvc)
    · obtain ⟨p, hp, rfl⟩ := List.mem_map.1 ht
      have hsvc := (List.of_mem_zip hp).1
      exact (h₂ p.1 hsvc p.2).mono (hD p.1 hsvc)
  have hlen : (prog.run (hw.handler fails) w).1.length = services.length := by
    rw [hprog, Prog.run_bind]
    have hpar := Prog.length_run_par (hw.handler fails) sched (services.map first) w
    rw [Prog.length_run_all, List.length_map, List.length_zip, hpar, List.length_map, min_self]
  have hres : (prog.run (hw.handler fails) w).1 = services.map res := by
    refine List.ext_getElem? fun i => ?_
    rw [List.getElem?_map]
    cases hi : services[i]? with
    | some svc => exact (hview i svc hi).1
    | none =>
      rw [List.getElem?_eq_none_iff] at hi
      exact List.getElem?_eq_none_iff.2 (hlen ▸ hi)
  have hnet : (prog.run (hw.handler fails) w).2.net = onServices services f w.net := by
    funext name
    by_cases hex : ∃ svc ∈ services, svc.name = name
    · obtain ⟨svc, hsvc, rfl⟩ := hex
      obtain ⟨i, hi⟩ := List.mem_iff_getElem?.1 hsvc
      rw [(hview i svc hi).2, onServices_of_mem hn hsvc]
    · have hex : ∀ svc ∈ services, svc.name ≠ name := by simpa using hex
      rw [onServices_of_notMem hex]
      exact (hops _ fun svc hsvc o ho => ho.frames (hex svc hsvc)).run_frame w
  have hfile : (prog.run (hw.handler fails) w).2.file = w.file :=
    (hops _ fun svc hsvc o ho => ho.frames_file).run_frame w
  refine Prod.ext hres ?_
  generalize (prog.run (hw.handler fails) w).2 = w' at hnet hfile
  cases w'
  simp_all

/-- The elements whose result meets a test. -/
lemma map_fst_filter_zip_map {α β : Type} (l : List α) (g : α → β) (p : β → Bool) :
    (((l.zip (l.map g)).filter fun q => p q.2).map fun q => q.1) = l.filter fun a => p (g a) := by
  induction l with
  | nil => rfl
  | cons a l ih =>
    rw [List.map_cons, List.zip_cons_cons, List.filter_cons, List.filter_cons]
    cases p (g a) <;> simp [ih]

/-! ### Applying -/

section Apply

variable (fails) (svc : ServiceSnapshot) (port : ℤ) (bypass : List String)

/-- The commands of an apply on one service. -/
def servicePlan : List Argv := applyPlan { services := [svc] } port bypass

/-- One try of applying a service fails. -/
def applyTryFails (retry : Bool) : Bool :=
  (servicePlan svc port bypass).any fun args => fails (.cmd .apply retry args)

/-- The commands of one try that take effect: those before the first that fails. -/
def applyTryDone (retry : Bool) : List Argv :=
  (servicePlan svc port bypass).takeWhile fun args => !fails (.cmd .apply retry args)

/-- Both tries of applying a service fail. -/
def applyFails : Bool :=
  applyTryFails fails svc port bypass false && applyTryFails fails svc port bypass true

/-- The commands that take effect when a service is applied: those of the first try and, when it
fails, those of the retry. -/
def applyDone : List Argv :=
  applyTryDone fails svc port bypass false ++
    if applyTryFails fails svc port bypass false then applyTryDone fails svc port bypass true
    else []

/-- The commands of an apply on one service are on that service. -/
lemma target_of_mem_servicePlan {args : Argv} (h : args ∈ servicePlan svc port bypass) :
    args.target = some svc.name := by
  simp only [servicePlan, applyPlan, List.flatMap_cons, List.flatMap_nil, List.append_nil,
    List.mem_append, List.mem_cons, List.not_mem_nil, or_false] at h
  rcases h with ((rfl | rfl | rfl | rfl) | h) | h
  · rfl
  · rfl
  · rfl
  · rfl
  · split at h <;> simp_all [Argv.target]
  · split at h <;> simp_all [Argv.target]

end Apply

/-! ### Restoring -/

section Restore

variable (fails) (phase : Phase) (svc : ServiceSnapshot) (appliedBypass : Option (List String))

/-- The commands of a restore of one service. -/
def serviceRestorePlan : List Argv := restorePlan { services := [svc] } appliedBypass

/-- One try of restoring a service fails. -/
def restoreTryFails (retry : Bool) : Bool :=
  (serviceRestorePlan svc appliedBypass).any fun args => fails (.cmd phase retry args)

/-- The commands of one try that take effect: those that do not fail. -/
def restoreTryDone (retry : Bool) : List Argv :=
  (serviceRestorePlan svc appliedBypass).filter fun args => !fails (.cmd phase retry args)

/-- Both tries of restoring a service fail. -/
def restoreFails : Bool :=
  restoreTryFails fails phase svc appliedBypass false &&
    restoreTryFails fails phase svc appliedBypass true

/-- The commands that take effect when a service is restored: those of the first try and, when it
fails, those of the retry. -/
def restoreDone : List Argv :=
  restoreTryDone fails phase svc appliedBypass false ++
    if restoreTryFails fails phase svc appliedBypass false then
      restoreTryDone fails phase svc appliedBypass true
    else []

/-- The commands of a restore of one service are on that service. -/
lemma target_of_mem_serviceRestorePlan {args : Argv}
    (h : args ∈ serviceRestorePlan svc appliedBypass) : args.target = some svc.name := by
  simp only [serviceRestorePlan, restorePlan, List.flatMap_cons, List.flatMap_nil, List.append_nil,
    List.mem_append] at h
  have hproxy : ∀ kind st, args ∈ restoreProxy svc.name kind st → args.target = some svc.name := by
    intro kind st h
    simp only [restoreProxy, List.mem_cons, List.not_mem_nil, or_false] at h
    rcases h with rfl | rfl
    · split <;> rfl
    · rfl
  rcases h with ((((h | h) | h) | h) | h) | h
  · exact hproxy _ _ h
  · exact hproxy _ _ h
  · exact hproxy _ _ h
  · split at h <;> simp_all [Argv.target]
  · split at h
    · rcases List.mem_append.1 h with h | h
      · split at h <;> simp_all [Argv.target]
      · simp_all [Argv.target]
    · simp at h
  · split at h <;> simp_all [Argv.target]

end Restore

namespace ProxyManager

lemma opsIn_runPlan {D : Op → Prop} {phase : Phase} {retry : Bool} {plan : List Argv}
    (hD : ∀ args ∈ plan, D (.cmd phase retry args)) : (runPlan phase retry plan).OpsIn D := by
  induction plan with
  | nil => trivial
  | cons args plan ih =>
    refine (opsIn_run (hD args (by simp))).bind fun r => ?_
    split
    · trivial
    · exact ih fun a ha => hD a (by simp [ha])

lemma opsIn_runAll {D : Op → Prop} {phase : Phase} {retry : Bool} {name : String}
    {plan : List Argv} (hD : ∀ args ∈ plan, D (.cmd phase retry args)) :
    (runAll phase retry name plan).OpsIn D := by
  induction plan with
  | nil => trivial
  | cons args plan ih =>
    refine (opsIn_run (hD args (by simp))).bind fun r => ?_
    refine (ih fun a ha => hD a (by simp [ha])).bind fun errs => ?_
    split <;> trivial

/-- Applying services issues the commands of their plans. -/
lemma opsIn_applyServices {D : Op → Prop} {sched : List ℕ} {services : List ServiceSnapshot} {port : ℤ}
    {bypass : List String} (hD : ∀ svc ∈ services, ∀ retry, ∀ args ∈ servicePlan svc port bypass,
      D (.cmd .apply retry args)) : (applyServices sched services port bypass).OpsIn D := by
  refine Prog.OpsIn.bind (Prog.opsIn_par fun t ht => ?_) fun errs => Prog.opsIn_all fun t ht => ?_
  · obtain ⟨svc, hsvc, rfl⟩ := List.mem_map.1 ht
    exact opsIn_runPlan (hD svc hsvc false)
  · obtain ⟨p, hp, rfl⟩ := List.mem_map.1 ht
    dsimp only
    split
    · exact opsIn_runPlan (hD p.1 (List.of_mem_zip hp).1 true)
    · trivial

/-- So does restoring them. -/
lemma opsIn_restoreServices {D : Op → Prop} {phase : Phase} {sched : List ℕ}
    {services : List ServiceSnapshot} {L : Option (List String)}
    (hD : ∀ svc ∈ services, ∀ retry, ∀ args ∈ serviceRestorePlan svc L, D (.cmd phase retry args)) :
    (restoreServices phase sched services L).OpsIn D := by
  refine Prog.OpsIn.bind (Prog.opsIn_par fun t ht => ?_) fun results =>
    Prog.OpsIn.bind (Prog.opsIn_all fun t ht => ?_) fun _ => trivial
  · obtain ⟨svc, hsvc, rfl⟩ := List.mem_map.1 ht
    exact opsIn_runAll (hD svc hsvc false)
  · obtain ⟨p, hp, rfl⟩ := List.mem_map.1 ht
    dsimp only
    split
    · trivial
    · exact opsIn_runAll (hD p.1 (List.of_mem_zip hp).1 true)

/-- What applying returns for one service. -/
def applyResult (fails : Op → Bool) (svc : ServiceSnapshot) (port : ℤ) (bypass : List String) :
    Option Err :=
  if applyTryFails fails svc port bypass false then
    ((servicePlan svc port bypass).find? fun args => fails (.cmd .apply true args)).map failure
  else none

/-- A service is reported as failed when both of its tries failed. -/
lemma isSome_applyResult (fails : Op → Bool) (svc : ServiceSnapshot) (port : ℤ)
    (bypass : List String) :
    (applyResult fails svc port bypass).isSome = applyFails fails svc port bypass := by
  unfold applyResult applyFails
  cases applyTryFails fails svc port bypass false with
  | true => simp [applyTryFails, List.isSome_find?]
  | false => rfl

/-- **Applying the services.** Under every schedule each service ends with the commands that took
effect on it, and is reported as failed when both its tries failed. -/
theorem applyServices_run {sched : List ℕ} {services : List ServiceSnapshot}
    (hn : (services.map (·.name)).Nodup) (hm : ∀ svc ∈ services, svc.name ∈ hw.order)
    (port : ℤ) (bypass : List String) (w : World) :
    (applyServices sched services port bypass).run (hw.handler fails) w =
      (services.map fun svc => applyResult fails svc port bypass,
        { w with
          net := onServices services (fun svc => effects (applyDone fails svc port bypass)) w.net }) := by
  refine @two_rounds_run hw fails _ sched services hn hm
    (fun svc => runPlan .apply false (servicePlan svc port bypass))
    (fun svc err => if err.isSome then runPlan .apply true (servicePlan svc port bypass)
      else .ret err) ?_ ?_ _ _ ?_ w
  · exact fun svc _ => opsIn_runPlan fun args ha => target_of_mem_servicePlan svc port bypass ha
  · intro svc _ r
    split
    · exact opsIn_runPlan fun args ha => target_of_mem_servicePlan svc port bypass ha
    · trivial
  · intro svc hsvc w
    have hrun := fun retry w => @runPlan_run hw fails .apply retry _ (hm svc hsvc)
      (servicePlan svc port bypass) (fun a ha => target_of_mem_servicePlan svc port bypass ha) w
    have hfind : ((servicePlan svc port bypass).find? fun args =>
        fails (.cmd .apply false args)).isSome = applyTryFails fails svc port bypass false := by
      simp [applyTryFails, List.isSome_find?]
    rw [Prog.run_bind, hrun, Option.isSome_map, hfind]
    unfold applyResult applyDone
    cases hf : applyTryFails fails svc port bypass false with
    | true =>
      rw [if_pos rfl, if_pos rfl, if_pos rfl, hrun, World.onService_onService]
      simp only [applyTryDone, effects_append_eq]
    | false =>
      rw [hf] at hfind
      have hnone : ((servicePlan svc port bypass).find? fun args =>
          fails (.cmd .apply false args)) = none := by simpa using hfind
      rw [if_neg (by simp), if_neg (by simp), if_neg (by simp), List.append_nil, hnone]
      rfl

/-- The errors of one try of restoring a service. -/
def restoreTryErrors (fails : Op → Bool) (phase : Phase) (svc : ServiceSnapshot)
    (appliedBypass : Option (List String)) (retry : Bool) : List Err :=
  ((serviceRestorePlan svc appliedBypass).filter fun args => fails (.cmd phase retry args)).map
    fun args => .wrap svc.name (failure args)

/-- What restoring returns for one service. -/
def restoreResult (fails : Op → Bool) (phase : Phase) (svc : ServiceSnapshot)
    (appliedBypass : Option (List String)) : List Err :=
  if restoreTryFails fails phase svc appliedBypass false then
    restoreTryErrors fails phase svc appliedBypass true
  else []

/-- A try has no error when it does not fail. -/
lemma isEmpty_restoreTryErrors (fails : Op → Bool) (phase : Phase) (svc : ServiceSnapshot)
    (appliedBypass : Option (List String)) (retry : Bool) :
    (restoreTryErrors fails phase svc appliedBypass retry).isEmpty =
      !restoreTryFails fails phase svc appliedBypass retry := by
  rw [Bool.eq_iff_iff]
  simp [restoreTryErrors, restoreTryFails]

/-- A service remains when both of its tries failed. -/
lemma isEmpty_restoreResult (fails : Op → Bool) (phase : Phase) (svc : ServiceSnapshot)
    (appliedBypass : Option (List String)) :
    (restoreResult fails phase svc appliedBypass).isEmpty =
      !restoreFails fails phase svc appliedBypass := by
  unfold restoreResult restoreFails
  cases restoreTryFails fails phase svc appliedBypass false with
  | true => exact isEmpty_restoreTryErrors fails phase svc appliedBypass true
  | false => rfl

/-- **Restoring the services.** Under every schedule each service ends with the commands that took
effect on it; those of which both tries failed remain. -/
theorem restoreServices_run {phase : Phase} {sched : List ℕ} {services : List ServiceSnapshot}
    (hn : (services.map (·.name)).Nodup) (hm : ∀ svc ∈ services, svc.name ∈ hw.order)
    (appliedBypass : Option (List String)) (w : World) :
    ∃ errs, (restoreServices phase sched services appliedBypass).run (hw.handler fails) w =
      ((services.filter fun svc => restoreFails fails phase svc appliedBypass, errs),
        { w with
          net := onServices services
            (fun svc => effects (restoreDone fails phase svc appliedBypass)) w.net }) := by
  have hrounds := @two_rounds_run hw fails _ sched services hn hm
    (fun svc => runAll phase false svc.name (serviceRestorePlan svc appliedBypass))
    (fun svc errs => if errs.isEmpty then .ret errs
      else runAll phase true svc.name (serviceRestorePlan svc appliedBypass))
    (fun svc _ => opsIn_runAll fun args ha => target_of_mem_serviceRestorePlan svc _ ha)
    (fun svc _ errs => by
      split
      · trivial
      · exact opsIn_runAll fun args ha => target_of_mem_serviceRestorePlan svc _ ha)
    (fun svc => restoreResult fails phase svc appliedBypass)
    (fun svc => effects (restoreDone fails phase svc appliedBypass)) (fun svc hsvc w => by
      have hrun := fun retry w => @runAll_run hw fails phase retry _ (hm svc hsvc)
        (serviceRestorePlan svc appliedBypass)
        (fun a ha => target_of_mem_serviceRestorePlan svc appliedBypass ha) w
      have hempty := isEmpty_restoreTryErrors fails phase svc appliedBypass false
      unfold restoreTryErrors at hempty
      rw [Prog.run_bind, hrun, hempty]
      unfold restoreResult restoreDone
      cases hf : restoreTryFails fails phase svc appliedBypass false with
      | true =>
        rw [if_neg (by simp), if_pos rfl, if_pos rfl, hrun, World.onService_onService]
        simp only [restoreTryDone, effects_append_eq]
        rfl
      | false =>
        rw [hf, Bool.not_false, List.isEmpty_iff] at hempty
        rw [if_pos (by simp), if_neg (by simp), if_neg (by simp), List.append_nil, hempty]
        rfl) w
  refine ⟨(services.map fun svc => restoreResult fails phase svc appliedBypass).flatten, ?_⟩
  have hshape : restoreServices phase sched services appliedBypass =
      ((Prog.par sched (services.map fun svc =>
          runAll phase false svc.name (serviceRestorePlan svc appliedBypass))).bind fun rs =>
        Prog.all ((services.zip rs).map fun p => if p.2.isEmpty then .ret p.2
          else runAll phase true p.1.name (serviceRestorePlan p.1 appliedBypass))).bind fun results =>
      .ret (((services.zip results).filter fun p => !p.2.isEmpty).map fun p => p.1,
        results.flatten) := by
    rw [Prog.bind_assoc]
    rfl
  rw [hshape, Prog.run_bind, hrounds]
  refine Prod.ext (Prod.ext ?_ rfl) rfl
  dsimp only [Prog.run_ret]
  refine (map_fst_filter_zip_map services _ fun errs : List Err => !errs.isEmpty).trans ?_
  exact List.filter_congr fun svc _ => by rw [isEmpty_restoreResult, Bool.not_not]

end ProxyManager

end Proxor.MacHelper
