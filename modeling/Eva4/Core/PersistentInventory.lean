import Eva4.Core.StoreSteps

/-!
# The persistent inventory

Whenever no operation on local items is in progress, the configurations that are stored are those
of the local items.
-/

namespace Eva4.Core

open Lib Items Prog

variable {V : Type} [EvaCommon V]

inductive LocalCall (V : Type) where
  | createLocalItem (oid : OID)
  | deployLocalItems (configs : List (ItemConfigData V)) (lock : Bool)
  | undeployLocalItems (configs : List (EResult OID))
  | destroyLocalItems (mask : OIDMask)
  | setLocalItemsEnabled (mask : OIDMask) (value : Bool)
  | setSourceSensor (sensorOid : EResult OID) (online : Bool)

namespace LocalCall

def prog (env : Env V) : LocalCall V -> CoreM V Unit
  | createLocalItem oid => (Core.createLocalItem env oid).bind fun _ => .ret ()
  | deployLocalItems configs lock => (Core.deployLocalItems env configs lock).bind fun _ => .ret ()
  | undeployLocalItems configs => (Core.undeployLocalItems env configs).bind fun _ => .ret ()
  | destroyLocalItems mask => Core.destroyLocalItems mask
  | setLocalItemsEnabled mask value =>
    (Core.setLocalItemsEnabled env mask value).bind fun _ => .ret ()
  | setSourceSensor sensorOid online =>
    (Core.setSourceSensor env sensorOid online).bind fun _ => .ret ()

def system (env : Env V) (calls : List (LocalCall V)) (w : World V) :
    Watch (World V) (Label V) Lock (SavePhase V) where
  sys := { store := w, tasks := calls.map fun call => Task.start (call.prog env) }
  phases := calls.map fun _ => .idle

/-- A deployment into the database has only valid configurations or stops at the first one. -/
def Deployable (env : Env V) : LocalCall V -> Prop
  | deployLocalItems configs _ => env.inventoryDb = true -> AllOrNone configs
  | _ => True

lemma runs (hstorage : forall n, env.storage n = .ok ()) (call : LocalCall V)
    (hcall : call.Deployable env) :
    (call.prog env).Runs storeProtocol (fun phase _ _ => storeProtocol.final phase) [] .idle
      seen := by
  have hidle : (SavePhase.idle : SavePhase V).unsaved = [] := rfl
  cases call with
  | createLocalItem oid =>
    exact Runs.map (runs_createLocalItem hstorage hidle)
  | deployLocalItems configs lock =>
    exact Runs.map (stores_deployLocalItems hstorage hcall hidle)
  | undeployLocalItems configs =>
    exact Runs.map (runs_undeployLocalItems configs hidle)
  | destroyLocalItems mask => exact runs_destroyLocalItems hidle
  | setLocalItemsEnabled mask value =>
    exact Runs.map (runs_setLocalItemsEnabled hstorage hidle)
  | setSourceSensor sensorOid online =>
    exact Runs.map (runs_setSourceSensor hidle)

end LocalCall

def Settled (w : Watch (World V) (Label V) Lock (SavePhase V)) : Prop :=
  forall i phase, w.phases[i]? = some phase -> phase = .idle ∨ w.ended i = true

omit [EvaCommon V] in
lemma stores_idle {w : World V} (hwf : w.toMem.WellFormed)
    (hagree : forall oid, w.stored oid = w.localRecord oid) {calls : List (LocalCall V)} :
    Stores (calls.map fun _ => SavePhase.idle : List (SavePhase V)) w := by
  constructor
  · exact hwf
  · exact fun oid _ => hagree oid
  · intro phase hphase oid entry hentry
    rcases List.mem_map.mp (Multiset.mem_coe.mp hphase) with ⟨_, _, heq⟩
    rw [← heq] at hentry
    cases hentry

/--
In every run in which items are changed by one operation at a time, no storage call fails, and
deployments into the database have no invalid configuration after a valid one: whenever no
operation is in progress, each OID has stored what its local item, if any, is configured with.
-/
theorem persistent_inventory_agrees {env : Env V} (hstorage : forall n, env.storage n = .ok ())
    {calls : List (LocalCall V)} (hcalls : forall call, call ∈ calls -> call.Deployable env)
    {w : World V} (hwf : w.toMem.WellFormed) (hagree : forall oid, w.stored oid = w.localRecord oid)
    {last : Watch (World V) (Label V) Lock (SavePhase V)}
    (hrun : Watch.Reaches SavePhase.next ChangesAlone (LocalCall.system env calls w) last)
    (hsettled : Settled last) (oid : OID) :
    last.sys.store.stored oid = last.sys.store.localRecord oid := by
  have hstart : (LocalCall.system env calls w).Follows storeProtocol :=
    Watch.follows_start (stores_idle hwf hagree)
      fun call hcall => call.runs hstorage (hcalls call hcall)
  have hlast : last.Follows storeProtocol := Watch.Reaches.follows hstart hrun
  apply hlast.inv.agree oid
  intro phase hphase
  rcases List.mem_iff_getElem?.mp (Multiset.mem_coe.mp hphase) with ⟨i, hi⟩
  rcases hsettled i phase hi with hidle | hended
  · rw [hidle]
    rfl
  · have hfinal : phase.unsaved = [] := hlast.final hended hi
    rw [hfinal]
    rfl

/-!
## Concrete runs
-/

omit [EvaCommon V] in
lemma settled_of_ended (h : (List.range w.phases.length).all w.ended = true) : Settled w := by
  intro i phase hphase
  have hi : i < w.phases.length := (List.getElem?_eq_some_iff.mp hphase).1
  exact Or.inr (List.all_eq_true.mp h i (List.mem_range.mpr hi))

def checkStored (w : Watch (World (Option Int)) (Label (Option Int)) Lock
    (SavePhase (Option Int))) (i : Nat) : Bool :=
  ((w.phases.eraseIdx i).all fun phase => phase.unsaved.isEmpty) &&
    (w.sys.nextLabel i).all fun label =>
      match label with
      | .destroyStored _ | .createSensor _ => false
      | _ => true

lemma admits_of_checkStored (w : Watch (World (Option Int)) (Label (Option Int)) Lock
    (SavePhase (Option Int))) (i : Nat) (h : checkStored w i = true) : w.Admits ChangesAlone i := by
  intro label phase hlabel _
  rw [checkStored, hlabel, Bool.and_eq_true] at h
  have hfree : forall oid, Free oid ((w.phases.eraseIdx i : List (SavePhase (Option Int))) :
      Multiset (SavePhase (Option Int))) := by
    intro oid other hother
    have hnil := List.all_eq_true.mp h.left other (Multiset.mem_coe.mp hother)
    rw [List.isEmpty_iff.mp hnil]
    rfl
  cases label with
  | createLocal oid | removeLocal oid => exact hfree oid
  | append config state => exact hfree config.oid
  | enableLocal mask value => exact fun item _ => hfree item.oid
  | destroyStored | createSensor => cases h.right
  | _ => trivial

def plainConfig : ItemConfigData (Option Int) where
  oid := { kind := .sensor, fullId := "a" }

/-- A sensor has no action. -/
def invalidConfig : ItemConfigData (Option Int) where
  oid := { kind := .sensor, fullId := "b" }
  action := some { svc := "eva.controller.a", timeout := none, config := none }

def storingSystem : Watch (World (Option Int)) (Label (Option Int)) Lock (SavePhase (Option Int)) :=
  LocalCall.system (Env.sample (Option Int))
    [.deployLocalItems [plainConfig, invalidConfig] false,
      .setLocalItemsEnabled { kind := none, chunks := none } false] World.new

omit [EvaCommon V] in
lemma new_agrees (oid : OID) :
    (World.new : World V).stored oid = (World.new : World V).localRecord oid := by
  have hnone : (World.new : World V).localItem oid = none :=
    World.localItem_absent (ItemMap.empty_get oid)
  rw [World.localRecord, hnone]
  rfl

/-- The sensor is deployed and disabled before the deployment meets the invalid one. -/
theorem persistent_inventory_agrees_disabled :
    exists last, storingSystem.runChecked SavePhase.next checkStored
        (List.replicate 6 0 ++ List.replicate 4 1 ++ List.replicate 6 0) = some last ∧
      Settled last ∧
      (last.sys.store.localRecord plainConfig.oid).map ItemRecord.enabled = some false ∧
      forall oid, last.sys.store.stored oid = last.sys.store.localRecord oid := by
  apply exists_of_any (p := fun last => (List.range last.phases.length).all last.ended &&
    decide ((last.sys.store.localRecord plainConfig.oid).map ItemRecord.enabled = some false))
    (by decide)
  intro last hlast hend
  rw [Bool.and_eq_true] at hend
  have hsettled := settled_of_ended hend.left
  have hcalls : forall call, call ∈ [LocalCall.deployLocalItems
      [plainConfig, invalidConfig] false,
      .setLocalItemsEnabled { kind := none, chunks := none } false] ->
      call.Deployable (Env.sample (Option Int)) := by
    intro call hcall
    rcases List.mem_cons.mp hcall with heq | hmem
    · rw [heq]
      exact fun hdb => absurd hdb Bool.false_ne_true
    · rw [List.mem_singleton.mp hmem]
      trivial
  exact ⟨hsettled, of_decide_eq_true hend.right,
    persistent_inventory_agrees (fun _ => rfl) hcalls Mem.new_wellFormed new_agrees
      (.of_runChecked admits_of_checkStored hlast) hsettled⟩

/-- A deployment into the database that meets an invalid configuration leaves the sensor it
has appended before in memory only. -/
theorem failed_deployment_stores_nothing :
    exists last, (LocalCall.system { Env.sample (Option Int) with inventoryDb := true }
        [.deployLocalItems [plainConfig, invalidConfig] false] World.new).runChecked
          SavePhase.next (fun _ _ => true) (List.replicate 7 0) = some last ∧
      Settled last ∧
      (last.sys.store.localRecord plainConfig.oid).isSome = true ∧
      last.sys.store.stored plainConfig.oid = none := by
  refine ⟨_, rfl, settled_of_ended (by decide), rfl, rfl⟩

end Eva4.Core
