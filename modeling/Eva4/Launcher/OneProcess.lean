import Eva4.Launcher.Registry
import Eva4.Launcher.Stopped

/-!
# At most one process of a service

The calls of the launcher follow the steps of the registry.  With that, a service that is older
than another one with its id has been stopped, and a service that has been stopped has no
process that is alive.
-/

namespace Eva4.Launcher

open Lib

namespace Task

lemma removed_stops : (removed restart found).stops = found := by
  cases found with
  | some k => rfl
  | none => cases restart <;> rfl

lemma removed_creates : (removed restart found).creates = restart := by
  cases found with
  | some k => rfl
  | none => cases restart <;> rfl

lemma removed_stopping (h : removed restart found = .stopping k phase other) :
    found = some k ∧ phase = .begin := by
  cases found with
  | some k' =>
    injection h with hk hphase _
    exact ⟨congrArg some hk, hphase.symm⟩
  | none =>
    have hstops := congrArg stops h
    rw [removed_stops] at hstops
    cases hstops

def kills : Task -> Bool
  | stopping _ (.killing _) _ => true
  | _ => false

end Task

namespace Handlers

def registry (s : Handlers) : Registry where
  ids := s.services.map Service.id
  registered := s.registered
  stops := s.tasks.map Task.stops
  creates := s.tasks.map Task.creates
  lockedBy := s.lockedBy
  returned := s.returned

variable {s : Handlers} {n : Nat} {task : Task}

lemma registry_stops (h : s.tasks[n]? = some task) : s.registry.stops[n]? = some task.stops := by
  rw [registry, List.getElem?_map, h]
  rfl

lemma registry_creates (h : s.tasks[n]? = some task) :
    s.registry.creates[n]? = some task.creates := by
  rw [registry, List.getElem?_map, h]
  rfl

lemma registry_ids {k : Nat} (h : s.services[k]? = some svc) :
    s.registry.ids[k]? = some svc.id := by
  rw [registry, List.getElem?_map, h]
  rfl

lemma service_of_id {k : Nat} {id : String} (h : s.registry.ids[k]? = some id) :
    exists svc : Service, s.services[k]? = some svc ∧ svc.id = id := by
  rw [registry, List.getElem?_map] at h
  exact Option.map_eq_some_iff.mp h

lemma service_of_registered (h : s.registry.Kept) {id : String} {k : Nat}
    (hk : s.registered.lookup id = some k) : exists svc : Service, s.services[k]? = some svc := by
  rcases service_of_id (h.valid hk) with ⟨svc, hsvc, _⟩
  exact ⟨svc, hsvc⟩

/-!
## The registry after a step
-/

lemma registry_setTask (s : Handlers) :
    (s.setTask n task).registry = { s.registry with
      stops := s.registry.stops.set n task.stops
      creates := s.registry.creates.set n task.creates } := by
  simp only [registry, setTask, List.map_set]

lemma registry_setTask_same (h : s.tasks[n]? = some task) (task' : Task)
    (hstops : task'.stops = task.stops) (hcreates : task'.creates = task.creates) :
    (s.setTask n task').registry = s.registry := by
  simp only [registry, setTask, map_set_same h hstops,
    map_set_same h hcreates]

lemma registry_updateService (s : Handlers) (k : Nat) (f : Service -> Service)
    (hid : forall svc, (f svc).id = svc.id) : (s.updateService k f).registry = s.registry := by
  have hids : (s.updateService k f).services.map Service.id = s.services.map Service.id := by
    apply List.ext_getElem?
    intro j
    rw [List.getElem?_map, List.getElem?_map, updateService_service, Option.map_map]
    congr 1
    funext svc
    show (if k = j then f svc else svc).id = svc.id
    split
    · exact hid svc
    · rfl
  simp only [registry, hids]
  rfl

lemma registry_addService (s : Handlers) (id : String) :
    (s.addService id).registry = { s.registry with
      ids := s.registry.ids ++ [id]
      registered := s.registry.registered.insert id s.registry.ids.length } := by
  simp only [registry, addService, List.map_append, List.length_map]
  rfl

/-!
## Steps
-/

structure Inv (s : Handlers) : Prop where
  sound : s.Sound
  kept : s.registry.Kept

structure Advances (s s' : Handlers) : Prop where
  sound : s'.Sound
  follows : s.registry.Step s'.registry

lemma Inv.addTasks (h : Inv s) {tasks : List Task}
    (hcreates : tasks.map Task.creates = (tasks.map Task.stops).map fun _ => none)
    (hphase : forall k phase restart, Task.stopping k phase restart ∈ tasks ->
      s.Phase k phase) : Advances s (s.addTasks tasks) where
  sound := h.sound.addTasks hphase
  follows := by
    have hcall := Registry.Step.call (r := s.registry) (tasks.map Task.stops)
    rw [← hcreates] at hcall
    simpa only [registry, Handlers.addTasks, List.map_append] using hcall

section Task

variable {id : String} (h : Inv s)
include h

lemma Inv.lock (htask : s.tasks[n]? = some task) (hstops : task.stops = none)
    (hcreates : task.creates = none) (hfree : s.lockedBy = none) {holder : Option Nat}
    (hrestart : forall id', restart = some id' -> id' = id ∧ holder = some n) :
    Advances s (((s.remove id).setLock holder).setTask n
      (.removed restart (s.registered.lookup id))) where
  sound := by
    have hfreed : Sound ((s.remove id).setLock holder) :=
      h.sound.keep (frame_of_same rfl rfl (fun _ hmem => hmem) fun _ hk => hk) rfl rfl
    apply hfreed.setTask htask
    · intro k pid other heq
      rw [heq] at hstops
      cases hstops
    · intro k phase other heq
      rcases Task.removed_stopping heq with ⟨hfound, hphase⟩
      rw [hphase]
      exact service_of_registered h.kept hfound
  follows := by
    rw [registry_setTask, Task.removed_stops, Task.removed_creates]
    exact .lock id restart holder hfree (hstops ▸ registry_stops htask)
      (hcreates ▸ registry_creates htask) hrestart

lemma Inv.deactivate (htask : s.tasks[n]? = some (.stopping k .begin restart)) :
    Advances s ((s.updateService k Service.deactivate).setTask n
      (.stopping k .deactivated restart)) where
  sound := by
    apply h.sound.deactivate.setTask htask
    · intro _ _ _ heq
      cases heq
    · intro k' phase other heq
      injection heq with hk hphase _
      rw [← hk, ← hphase]
      rcases h.sound.stopping (List.mem_of_getElem? htask) with ⟨svc, hsvc⟩
      refine ⟨svc.deactivate, ?_, rfl⟩
      rw [updateService_service, hsvc, Option.map_some, if_pos rfl]
  follows := .of_eq
    ((registry_setTask_same (s := s.updateService k Service.deactivate) htask
      (.stopping k .deactivated restart) rfl rfl).trans
        (registry_updateService s k Service.deactivate fun _ => rfl))

lemma Inv.take (htask : s.tasks[n]? = some (.stopping k .deactivated restart))
    (hsvc : s.services[k]? = some svc) (hsettled : svc.stage.Settled)
    (halone : forall pid other, Task.stopping k (.killing pid) other ∉ s.tasks) :
    Advances s ((s.setTask n (.stopping k (svc.data.elim .killed .killing) restart)).updateService k
      Service.takeData) where
  sound := by
    rcases h.sound.stopping (List.mem_of_getElem? htask) with ⟨svc', hsvc', hinactive⟩
    rw [hsvc] at hsvc'
    injection hsvc' with heq
    rw [← heq] at hinactive
    have hquiet := h.sound.quiet_of_data hsvc hinactive hsettled halone
    have htaken : Sound (s.setTask n (.stopping k (svc.data.elim .killed .killing) restart)) := by
      apply h.sound.setTask htask
      · intro _ _ _ heq
        cases heq
      · intro k' phase other heq
        injection heq with hk hphase _
        rw [← hk, ← hphase]
        rcases Option.eq_none_or_eq_some svc.data with hdata | ⟨pid, hdata⟩
        · rw [hdata] at hquiet ⊢
          exact hquiet
        · rw [hdata] at hquiet ⊢
          exact hquiet
    apply htaken.takeData
    intro svc' pid hsvc' hpid
    have hsame := hsvc.symm.trans hsvc'
    injection hsame with heq
    exists restart
    apply List.mem_iff_getElem?.mpr
    exists n
    rw [Handlers.setTask, getElem?_set_if htask, if_pos rfl, heq, hpid]
    rfl
  follows := .of_eq ((registry_updateService _ k Service.takeData fun _ => rfl).trans
    (registry_setTask_same htask _ rfl rfl))

lemma Inv.kill (htask : s.tasks[n]? = some (.stopping k (.killing pid) restart)) :
    Advances s ((s.killProcess pid).setTask n (.stopping k .killed restart)) where
  sound := by
    have hkilled : Sound (s.killProcess pid) :=
      h.sound.keep frame_killProcess rfl rfl
    apply hkilled.setTask htask
    · intro k' pid' other heq hlive
      injection heq with _ hphase _
      injection hphase with hpid
      exact (live_killProcess hlive).left hpid.symm
    · intro k' phase other heq
      injection heq with hk hphase _
      rw [← hk, ← hphase]
      exact quiet_killProcess (h.sound.stopping (List.mem_of_getElem? htask))
  follows := .of_eq (registry_setTask_same (s := s.killProcess pid) htask _ rfl rfl)

lemma Inv.abort (htask : s.tasks[n]? = some (.stopping k .killed restart)) :
    Advances s (((s.addReturned k).updateService k Service.abort).setTask n
      (.removed restart none)) where
  sound := by
    have hquiet : s.Quiet k none := h.sound.stopping (List.mem_of_getElem? htask)
    have haborted := (h.sound.addReturned hquiet).abort (List.mem_cons_self)
    apply haborted.setTask htask
    · intro _ _ _ heq
      cases heq
    · intro k' phase other heq
      cases (Task.removed_stopping heq).left
  follows := by
    rw [registry_setTask, registry_updateService _ k Service.abort fun _ => rfl,
      Task.removed_stops, Task.removed_creates]
    have hcreates : s.registry.creates.set n restart = s.registry.creates :=
      set_same (registry_creates htask)
    have hstopped := Registry.Step.stopped (registry_stops htask)
    rw [← hcreates] at hstopped
    exact hstopped

lemma Inv.create (htask : s.tasks[n]? = some (.creating id))
    (hstops : forall k (svc : Service), some k ∈ s.tasks.map Task.stops ->
      s.services[k]? = some svc -> svc.id ≠ id) :
    Advances s (((s.addService id).setLock none).setTask n .done) where
  sound := by
    have hframe : Frame s ((s.addService id).setLock none) :=
      (frame_addService s).trans (frame_of_same rfl rfl (fun _ hmem => hmem) fun _ hk => hk)
    apply (h.sound.keep hframe rfl rfl).setTask htask
    · intro _ _ _ heq
      cases heq
    · intro _ _ _ heq
      cases heq
  follows := by
    have hothers : forall k, some k ∈ s.registry.stops -> s.registry.ids[k]? ≠ some id := by
      intro k hmem hid
      rcases service_of_id hid with ⟨svc, hsvc, heq⟩
      exact hstops k svc hmem hsvc heq
    have hsame : s.registry.stops.set n none = s.registry.stops :=
      set_same (registry_stops htask)
    have hcreated := Registry.Step.created (registry_creates htask) hothers
    rw [← hsame] at hcreated
    have hregistry := registry_addService s id
    rw [registry_setTask]
    show s.registry.Step { (s.addService id).registry with
      stops := (s.addService id).registry.stops.set n none
      creates := (s.addService id).registry.creates.set n none
      lockedBy := none }
    rw [hregistry]
    exact hcreated

lemma Inv.createFails (htask : s.tasks[n]? = some (.creating id)) :
    Advances s ((s.setLock none).setTask n .done) where
  sound := by
    have hframe : Frame s (s.setLock none) :=
      frame_of_same rfl rfl (fun _ hmem => hmem) fun _ hk => hk
    apply (h.sound.keep hframe rfl rfl).setTask htask
    · intro _ _ _ heq
      cases heq
    · intro _ _ _ heq
      cases heq
  follows := by
    have hsame : s.registry.stops.set n none = s.registry.stops :=
      set_same (registry_stops htask)
    have hreleased := Registry.Step.released (registry_creates htask)
    rw [← hsame] at hreleased
    rw [registry_setTask]
    exact hreleased

end Task

section

variable (h : Inv s)
include h

lemma Inv.stepTask (htask : s.tasks[n]? = some task) (hadmits : s.Admits (.task n e))
    (hstep : s.stepTask n task e = some s') : Advances s s' := by
  unfold Handlers.stepTask at hstep
  split at hstep
  · next id =>
    rcases of_guard hstep with ⟨hfree, rfl⟩
    apply h.lock htask rfl rfl hfree
    intro id' hid
    injection hid with hid
    exact ⟨hid.symm, rfl⟩
  · next id =>
    rcases of_guard hstep with ⟨hfree, rfl⟩
    apply h.lock htask rfl rfl hfree
    intro id' hid
    cases hid
  · cases hstep
    exact h.deactivate htask
  · next k restart =>
    rcases Option.map_eq_some_iff.mp hstep with ⟨svc, hsvc, heq⟩
    rcases hadmits k restart svc htask hsvc with ⟨hsettled, halone⟩
    rw [← heq]
    exact h.take htask hsvc hsettled halone
  · cases hstep
    exact h.kill htask
  · cases hstep
    exact h.abort htask
  · next id =>
    cases hstep
    exact h.create htask fun k svc => hadmits id k svc htask
  · cases hstep
    exact h.createFails htask
  · cases hstep

lemma Inv.runner (hsvc : s.services[k]? = some svc) (hkeeps : ¬ svc.Loses s.processes e)
    (hnext : svc.next k s.processes e = some r) : Advances s (s.setRunner k r.1 r.2) := by
  have hmoves : svc.Moves k s.processes r.2 r.1 := by
    apply Service.next_moves hnext hkeeps
    intro haborted pid _ hlive
    exact h.sound.stoppedDead k pid (h.sound.aborted hsvc haborted) hlive
  refine ⟨h.sound.runner hsvc hmoves, .of_eq ?_⟩
  simp only [registry, setRunner, map_set_same hsvc hmoves.id]

/-- The launcher refines the registry. -/
theorem Inv.advances {e : Event} (hadmits : s.Admits e) (hstep : step s e = some s') :
    Advances s s' := by
  cases e with
  | exit pid =>
    cases hstep
    exact ⟨h.sound.keep frame_killProcess rfl rfl, .rest⟩
  | runner k e =>
    rcases Option.bind_eq_some_iff.mp hstep with ⟨svc, hsvc, hrest⟩
    rcases Option.map_eq_some_iff.mp hrest with ⟨r, hnext, heq⟩
    rw [← heq]
    exact h.runner hsvc (hadmits svc hsvc) hnext
  | start | stop =>
    cases hstep
    apply h.addTasks rfl
    intro k phase restart hmem
    cases List.mem_singleton.mp hmem
  | shutdown =>
    rcases of_guard hstep with ⟨_, rfl⟩
    apply h.addTasks
    · simp only [List.map_map]
      rfl
    · intro k phase restart hmem
      rcases List.mem_map.mp hmem with ⟨k', hk', htask⟩
      injection htask with hk hphase _
      rw [← hk, ← hphase]
      rcases Table.mem_vals.mp hk' with ⟨id, hid⟩
      exact service_of_registered h.kept hid
  | task n e =>
    rcases Option.bind_eq_some_iff.mp hstep with ⟨task, htask, hrest⟩
    exact h.stepTask htask hadmits hrest

lemma Inv.step (hadmits : s.Admits e) (hstep : step s e = some s') : Inv s' := by
  have hadvances := h.advances hadmits hstep
  exact ⟨hadvances.sound, h.kept.step hadvances.follows⟩

/-!
## Runs
-/

omit h in
lemma inv_new : Inv new := by
  have hsound : Sound new := by
    constructor
    · intro k pid hlive
      cases hlive
    · intro k pid svc hsvc
      cases hsvc
    · intro k phase restart hmem
      cases hmem
    · intro k hk
      cases hk
    · intro k svc hsvc
      cases hsvc
  have hkept : new.registry.Kept := by
    constructor
    · intro id k hk
      cases hk
    · intro k id hid
      cases hid
    · intro j k id hid
      cases hid
    · intro n id hn
      cases hn
  exact ⟨hsound, hkept⟩

lemma Inv.dead_of_newer (hj : s.services[j]? = some svc) (hk : s.services[k]? = some svc')
    (hid : svc.id = svc'.id) (hlt : j < k) :
    ¬ LiveOf s.processes j pid := by
  have hj' : s.registry.ids[j]? = some svc'.id := hid ▸ registry_ids hj
  exact h.sound.stoppedDead j pid (h.kept.older hj' (registry_ids hk) hlt)

lemma Inv.oneLive : s.OneLive := by
  intro j k pid pid' svc svc' hlive hlive' hsvc hsvc' hid
  rcases Nat.lt_trichotomy j k with hlt | hrest
  · exact absurd hlive (h.dead_of_newer hsvc hsvc' hid hlt)
  · cases hrest with
    | inr hgt => exact absurd hlive' (h.dead_of_newer hsvc' hsvc hid.symm hgt)
    | inl heq =>
      rw [← heq] at hlive'
      rcases h.sound.owned hlive with ⟨own, hown, hprocess⟩
      rcases h.sound.owned hlive' with ⟨own', hown', hprocess'⟩
      rw [hown] at hown'
      injection hown' with hsame
      rw [← hsame, hprocess] at hprocess'
      injection hprocess'

end

/-- In every admitted run, a service of which a stop has returned has no process that is alive,
and services with one id have at most one. -/
theorem stopped_dead_and_one_live {last : Handlers} (hrun : step.Reaches Admits new last) :
    last.StoppedDead ∧ last.OneLive := by
  have hlast : Inv last := hrun.invariant inv_new fun h hadmits hstep => h.step hadmits hstep
  exact ⟨hlast.sound.stoppedDead, hlast.oneLive⟩

/-!
## Concrete runs
-/

def checkCalls (s : Handlers) : Event -> Bool
  | .runner _ .sendFails | .runner _ .waitFails => false
  | .task n .take =>
    ((s.tasks[n]?.bind Task.stops).all fun k => (s.services[k]?).all fun svc =>
      decide svc.stage.Settled) && s.tasks.all fun task => !task.kills
  | .task _ .create => s.tasks.all fun task => task.stops.isNone
  | _ => true

lemma admits_of_checkCalls (s : Handlers) (e : Event) (h : checkCalls s e = true) : s.Admits e := by
  cases e with
  | runner k e =>
    intro svc _ hloses
    cases e with
    | sendFails | waitFails => cases h
    | _ => exact hloses
  | task n e =>
    cases e with
    | take =>
      intro k restart svc htask hsvc
      rcases Bool.and_eq_true_iff.mp h with ⟨hsettled, hkills⟩
      rw [htask, Option.bind_some, Task.stops, Option.all_some, hsvc, Option.all_some] at hsettled
      refine ⟨of_decide_eq_true hsettled, ?_⟩
      intro pid other hmem
      cases List.all_eq_true.mp hkills _ hmem
    | create =>
      intro id k svc _ hmem
      rcases List.mem_map.mp hmem with ⟨task, htask, hstops⟩
      have hnone := List.all_eq_true.mp h task htask
      rw [hstops] at hnone
      cases hnone
    | _ => trivial
  | _ => trivial

def startEvents (id : String) (n k : Nat) : List Event :=
  [.start id, .task n .lock, .task n .create, .runner k .check, .runner k .spawn]

/-- A service is started, stopped while its process is registered, and started again. -/
theorem stopped_dead_and_one_live_restart :
    exists last, step.runChecked checkCalls (startEvents "a" 0 0 ++
        [.runner 0 .sendInitial, .runner 0 .register, .stop "a", .task 1 .lock,
          .task 1 .deactivate, .task 1 .take, .task 1 .kill, .task 1 .abort] ++
        startEvents "a" 2 1) new = some last ∧
      last.returned = [0] ∧ LiveOf last.processes 1 1 ∧ last.StoppedDead ∧ last.OneLive := by
  apply exists_of_any (p := fun last => decide (last.returned = [0] ∧ last.processes =
    [{ owner := 0, alive := false }, { owner := 1, alive := true }])) (by decide)
  intro last hlast hend
  rcases of_decide_eq_true hend with ⟨hreturned, hprocesses⟩
  have hlive : LiveOf last.processes 1 1 := by
    rw [hprocesses]
    rfl
  exact ⟨hreturned, hlive,
    stopped_dead_and_one_live (.of_runChecked admits_of_checkCalls .start hlast)⟩

/-- Every process that is alive is one of the service registered under its id, or of one that a
call is stopping. -/
def NoOrphans (s : Handlers) : Prop :=
  forall k pid, LiveOf s.processes k pid -> exists svc : Service, s.services[k]? = some svc ∧
    (s.registered.lookup svc.id = some k ∨ some k ∈ s.tasks.map Task.stops)

/-- In the same runs no process is lost sight of. -/
theorem no_orphan_processes {last : Handlers} (hrun : step.Reaches Admits new last) :
    last.NoOrphans := by
  have hlast : Inv last := hrun.invariant inv_new fun h hadmits hstep => h.step hadmits hstep
  intro k pid hlive
  rcases hlast.sound.owned hlive with ⟨svc, hsvc, _⟩
  refine ⟨svc, hsvc, ?_⟩
  rcases hlast.kept.accounted (registry_ids hsvc) with hmap | hstops | hreturned
  · exact Or.inl hmap
  · exact Or.inr hstops
  · exact absurd hlive (hlast.sound.stoppedDead k pid hreturned)

/-- A service that is off the map while its process is being stopped. -/
theorem no_orphan_processes_stopping : exists last, step.runChecked checkCalls
        (startEvents "a" 0 0 ++ [.stop "a", .task 1 .lock]) new = some last ∧
      last.registered.lookup "a" = none ∧ LiveOf last.processes 0 0 ∧ last.NoOrphans := by
  have hrun : step.runChecked checkCalls
      (startEvents "a" 0 0 ++ [.stop "a", .task 1 .lock]) new = some _ := rfl
  exact ⟨_, hrun, rfl, rfl, no_orphan_processes (.of_runChecked admits_of_checkCalls .start hrun)⟩

/-- A stop between the spawn of the process and its registration finds no process to kill, and
returns with the process alive.  The next start runs another one beside it. -/
theorem stopped_alive_and_two_live :
    exists last, step.runChecked (fun _ _ => true) (startEvents "a" 0 0 ++
        [.stop "a", .task 1 .lock, .task 1 .deactivate, .task 1 .take, .task 1 .abort,
          .runner 0 .cancel] ++ startEvents "a" 2 1) new = some last ∧
      last.returned = [0] ∧ LiveOf last.processes 0 0 ∧ LiveOf last.processes 1 1 ∧
      last.services.map Service.id = ["a", "a"] ∧ ¬ last.StoppedDead ∧ ¬ last.OneLive := by
  refine ⟨_, rfl, rfl, rfl, rfl, rfl, ?_, ?_⟩
  · intro hdead
    exact hdead 0 0 List.mem_cons_self rfl
  · intro hone
    cases hone 0 1 0 1 _ _ rfl rfl rfl rfl rfl

end Handlers

end Eva4.Launcher
