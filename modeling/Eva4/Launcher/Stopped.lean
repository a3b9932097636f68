import Eva4.Launcher.Calls

/-!
# Processes of stopped services

A process that is alive is the one its runner is with.  A runner that waits for a process has it
registered, or a stop is killing it.  A service whose stop has come to the kill is inactive, and
its runner starts no process any more.
-/

namespace Eva4.Launcher

open Lib

namespace Handlers

section

variable (s : Handlers)

/-- The process is registered, or a stop of the service is killing it. -/
def Targeted (k pid : Nat) : Prop :=
  (exists svc : Service, s.services[k]? = some svc ∧ svc.data = some pid) ∨
    exists restart, Task.stopping k (.killing pid) restart ∈ s.tasks

/-- The runner of the service starts no process any more, and waits for no process that is alive
but this one. -/
def Quiet (k : Nat) (only : Option Nat) : Prop :=
  exists svc : Service, s.services[k]? = some svc ∧ svc.active = false ∧ svc.stage.Settled ∧
    forall pid, svc.stage = .waiting pid -> LiveOf s.processes k pid -> only = some pid

def Phase (k : Nat) : StopPhase -> Prop
  | .begin => exists svc : Service, s.services[k]? = some svc
  | .deactivated => exists svc : Service, s.services[k]? = some svc ∧ svc.active = false
  | .killing pid => s.Quiet k (some pid)
  | .killed => s.Quiet k none

structure Sound : Prop where
  owned : forall {k pid : Nat}, LiveOf s.processes k pid -> exists svc : Service,
    s.services[k]? = some svc ∧ svc.stage.process = some pid
  shown : forall {k pid : Nat} {svc : Service}, s.services[k]? = some svc ->
    svc.stage = .waiting pid -> LiveOf s.processes k pid -> s.Targeted k pid
  stopping : forall {k phase restart}, Task.stopping k phase restart ∈ s.tasks -> s.Phase k phase
  stopped : forall {k : Nat}, k ∈ s.returned -> s.Quiet k none
  aborted : forall {k : Nat} {svc : Service}, s.services[k]? = some svc -> svc.aborted = true ->
    k ∈ s.returned

end

variable {s s' : Handlers} {k pid : Nat} {svc : Service}

lemma Sound.live_of_quiet (h : Sound s) (hquiet : s.Quiet k only)
    (hlive : LiveOf s.processes k pid) : only = some pid := by
  rcases h.owned hlive with ⟨svc, hsvc, hprocess⟩
  rcases hquiet with ⟨svc', hsvc', _, hsettled, honly⟩
  rw [hsvc] at hsvc'
  cases hsvc'
  exact honly pid (hsettled.waiting hprocess) hlive

lemma Sound.stoppedDead (h : Sound s) : s.StoppedDead := by
  intro k pid hreturned hlive
  cases h.live_of_quiet (h.stopped hreturned) hlive

/-!
## Services that stay quiet
-/

def Stays (s s' : Handlers) : Prop :=
  forall k (svc : Service), s.services[k]? = some svc -> exists svc' : Service,
    s'.services[k]? = some svc' ∧ (svc.active = false -> svc'.active = false ∧
      (svc.stage.Settled -> svc'.stage.Settled ∧ forall pid, svc'.stage = .waiting pid ->
        LiveOf s'.processes k pid -> svc.stage = .waiting pid ∧ LiveOf s.processes k pid))

lemma Stays.quiet (h : Stays s s') (hquiet : s.Quiet k only) : s'.Quiet k only := by
  rcases hquiet with ⟨svc, hsvc, hinactive, hsettled, honly⟩
  rcases h k svc hsvc with ⟨svc', hsvc', hstays⟩
  rcases hstays hinactive with ⟨hinactive', hkept⟩
  rcases hkept hsettled with ⟨hsettled', hwaiting⟩
  refine ⟨svc', hsvc', hinactive', hsettled', ?_⟩
  intro pid hstage hlive
  rcases hwaiting pid hstage hlive with ⟨hstage, hlive⟩
  exact honly pid hstage hlive

lemma Stays.phase (h : Stays s s') {phase : StopPhase} (hphase : s.Phase k phase) :
    s'.Phase k phase := by
  cases phase with
  | begin =>
    rcases hphase with ⟨svc, hsvc⟩
    rcases h k svc hsvc with ⟨svc', hsvc', _⟩
    exact ⟨svc', hsvc'⟩
  | deactivated =>
    rcases hphase with ⟨svc, hsvc, hinactive⟩
    rcases h k svc hsvc with ⟨svc', hsvc', hstays⟩
    exact ⟨svc', hsvc', (hstays hinactive).left⟩
  | killing | killed => exact h.quiet hphase

/-!
## Steps of the calls
-/

structure Frame (s s' : Handlers) : Prop where
  service : forall {k : Nat} {svc : Service}, s.services[k]? = some svc -> exists svc' : Service,
    s'.services[k]? = some svc' ∧ svc'.stage = svc.stage ∧
      (svc.active = false -> svc'.active = false)
  waiting : forall {k pid : Nat} {svc' : Service}, s'.services[k]? = some svc' ->
    svc'.stage = .waiting pid -> exists svc : Service, s.services[k]? = some svc ∧
      svc.stage = .waiting pid
  live : forall {k pid : Nat}, LiveOf s'.processes k pid -> LiveOf s.processes k pid
  targeted : forall {k pid : Nat}, LiveOf s'.processes k pid -> s.Targeted k pid ->
    s'.Targeted k pid
  returned : forall {k : Nat}, k ∈ s.returned -> k ∈ s'.returned
  aborted : forall {k : Nat} {svc' : Service}, s'.services[k]? = some svc' -> svc'.aborted = true ->
    k ∈ s'.returned ∨ exists svc : Service, s.services[k]? = some svc ∧ svc.aborted = true

lemma Frame.trans (h : Frame s s') (h' : Frame s' s'') : Frame s s'' where
  service := by
    intro k svc hsvc
    rcases h.service hsvc with ⟨svc', hsvc', hstage, hactive⟩
    rcases h'.service hsvc' with ⟨svc'', hsvc'', hstage', hactive'⟩
    exact ⟨svc'', hsvc'', hstage'.trans hstage, fun hinactive => hactive' (hactive hinactive)⟩
  waiting := by
    intro k pid svc'' hsvc'' hstage
    rcases h'.waiting hsvc'' hstage with ⟨svc', hsvc', hstage'⟩
    exact h.waiting hsvc' hstage'
  live := fun hlive => h.live (h'.live hlive)
  targeted := fun hlive htargeted => h'.targeted hlive (h.targeted (h'.live hlive) htargeted)
  returned := fun hk => h'.returned (h.returned hk)
  aborted := by
    intro k svc'' hsvc'' haborted
    rcases h'.aborted hsvc'' haborted with hk | hold
    · exact Or.inl hk
    · rcases hold with ⟨svc', hsvc', haborted'⟩
      rcases h.aborted hsvc' haborted' with hk | hold
      · exact Or.inl (h'.returned hk)
      · exact Or.inr hold

lemma Frame.stays (h : Frame s s') : Stays s s' := by
  intro k svc hsvc
  rcases h.service hsvc with ⟨svc', hsvc', hstage, hactive⟩
  refine ⟨svc', hsvc', fun hinactive => ⟨hactive hinactive, ?_⟩⟩
  rw [hstage]
  exact fun hsettled => ⟨hsettled, fun _ hwaiting hlive => ⟨hwaiting, h.live hlive⟩⟩

theorem Sound.of_frame (h : Sound s) (hframe : Frame s s')
    (hstopping : forall k phase restart, Task.stopping k phase restart ∈ s'.tasks ->
      Task.stopping k phase restart ∈ s.tasks ∨ s'.Phase k phase)
    (hstopped : forall k, k ∈ s'.returned -> k ∈ s.returned ∨ s'.Quiet k none) : Sound s' where
  owned := by
    intro k pid hlive
    rcases h.owned (hframe.live hlive) with ⟨svc, hsvc, hprocess⟩
    rcases hframe.service hsvc with ⟨svc', hsvc', hstage, _⟩
    refine ⟨svc', hsvc', ?_⟩
    rw [hstage]
    exact hprocess
  shown := by
    intro k pid svc' hsvc' hstage hlive
    rcases hframe.waiting hsvc' hstage with ⟨svc, hsvc, hwaiting⟩
    exact hframe.targeted hlive (h.shown hsvc hwaiting (hframe.live hlive))
  stopping := by
    intro k phase restart htask
    rcases hstopping k phase restart htask with hold | hnew
    · exact hframe.stays.phase (h.stopping hold)
    · exact hnew
  stopped := by
    intro k hk
    rcases hstopped k hk with hold | hnew
    · exact hframe.stays.quiet (h.stopped hold)
    · exact hnew
  aborted := by
    intro k svc' hsvc' haborted
    rcases hframe.aborted hsvc' haborted with hk | hold
    · exact hk
    · rcases hold with ⟨svc, hsvc, haborted⟩
      exact hframe.returned (h.aborted hsvc haborted)

/-!
## The single operations
-/

lemma frame_of_same (hservices : s'.services = s.services) (hprocesses : s'.processes = s.processes)
    (htasks : forall task, task ∈ s.tasks -> task ∈ s'.tasks)
    (hreturned : forall k, k ∈ s.returned -> k ∈ s'.returned) : Frame s s' where
  service := by
    intro k svc hsvc
    rw [hservices]
    exact ⟨svc, hsvc, rfl, fun h => h⟩
  waiting := by
    intro k pid svc' hsvc' hstage
    rw [hservices] at hsvc'
    exact ⟨svc', hsvc', hstage⟩
  live := by
    intro k pid hlive
    rw [hprocesses] at hlive
    exact hlive
  targeted := by
    intro k pid _ htargeted
    rw [Targeted, hservices]
    rcases htargeted with hdata | hkilling
    · exact Or.inl hdata
    · rcases hkilling with ⟨restart, hmem⟩
      exact Or.inr ⟨restart, htasks _ hmem⟩
  returned := hreturned _
  aborted := by
    intro k svc' hsvc' haborted
    rw [hservices] at hsvc'
    exact Or.inr ⟨svc', hsvc', haborted⟩

lemma frame_setTask (h : s.tasks[n]? = some task)
    (hdead : forall k pid restart, task = .stopping k (.killing pid) restart ->
      ¬ LiveOf s.processes k pid) : Frame s (s.setTask n task') where
  service := fun hsvc => ⟨_, hsvc, rfl, fun h => h⟩
  waiting := fun hsvc hstage => ⟨_, hsvc, hstage⟩
  live := fun hlive => hlive
  targeted := by
    intro k pid hlive htargeted
    rcases htargeted with hdata | hkilling
    · exact Or.inl hdata
    · rcases hkilling with ⟨restart, hmem⟩
      rcases mem_set_of_mem h hmem with heq | hkept
      · exact absurd hlive (hdead k pid restart heq.symm)
      · exact Or.inr ⟨restart, hkept⟩
  returned := fun hk => hk
  aborted := fun hsvc haborted => Or.inr ⟨_, hsvc, haborted⟩

lemma updateService_service (s : Handlers) (k : Nat) (f : Service -> Service) (j : Nat) :
    (s.updateService k f).services[j]? =
      (s.services[j]?).map fun svc => if k = j then f svc else svc :=
  List.getElem?_modify f k s.services j

lemma frame_updateService (hstage : forall svc, (f svc).stage = svc.stage)
    (hactive : forall svc : Service, svc.active = false -> (f svc).active = false)
    (hdata : forall (svc : Service) pid, s.services[k]? = some svc -> svc.data = some pid ->
      (f svc).data = some pid ∨ exists restart, Task.stopping k (.killing pid) restart ∈ s.tasks)
    (haborted : forall svc : Service, (f svc).aborted = true ->
      svc.aborted = true ∨ k ∈ s.returned) : Frame s (s.updateService k f) where
  service := by
    intro j svc hsvc
    rw [updateService_service, hsvc]
    refine ⟨_, rfl, ?_, ?_⟩
    · split
      · exact hstage svc
      · rfl
    · split
      · exact hactive svc
      · exact fun h => h
  waiting := by
    intro j pid svc' hsvc' hwaiting
    rw [updateService_service] at hsvc'
    rcases Option.map_eq_some_iff.mp hsvc' with ⟨svc, hsvc, heq⟩
    refine ⟨svc, hsvc, ?_⟩
    rw [← heq] at hwaiting
    split at hwaiting
    · rw [← hstage]
      exact hwaiting
    · exact hwaiting
  live := fun hlive => hlive
  targeted := by
    intro j pid _ htargeted
    cases htargeted with
    | inr hkilling => exact Or.inr hkilling
    | inl hregistered =>
      rcases hregistered with ⟨svc, hsvc, hpid⟩
      have hsvc' := updateService_service s k f j
      rw [hsvc] at hsvc'
      by_cases heq : k = j
      · rw [Option.map_some, if_pos heq] at hsvc'
        rw [← heq] at hsvc hsvc' ⊢
        rcases hdata svc pid hsvc hpid with hkept | hkilling
        · exact Or.inl ⟨f svc, hsvc', hkept⟩
        · exact Or.inr hkilling
      · rw [Option.map_some, if_neg heq] at hsvc'
        exact Or.inl ⟨svc, hsvc', hpid⟩
  returned := fun hk => hk
  aborted := by
    intro j svc' hsvc' hflag
    rw [updateService_service] at hsvc'
    rcases Option.map_eq_some_iff.mp hsvc' with ⟨svc, hsvc, heq⟩
    rw [← heq] at hflag
    split at hflag
    · next hj =>
      rcases haborted svc hflag with hold | hk
      · exact Or.inr ⟨svc, hsvc, hold⟩
      · exact Or.inl (hj ▸ hk)
    · exact Or.inr ⟨svc, hsvc, hflag⟩

lemma live_killProcess (h : LiveOf (s.killProcess pid).processes k pid') :
    pid' ≠ pid ∧ LiveOf s.processes k pid' := by
  have hget := List.getElem?_modify (fun p : Process => { p with alive := false }) pid
    s.processes pid'
  rcases Option.map_eq_some_iff.mp (hget.symm.trans h) with ⟨p, hp, heq⟩
  split at heq
  · injection heq with _ halive
    cases halive
  · next hne =>
    rw [heq] at hp
    exact ⟨fun hsame => hne hsame.symm, hp⟩

lemma frame_killProcess : Frame s (s.killProcess pid) where
  service := fun hsvc => ⟨_, hsvc, rfl, fun h => h⟩
  waiting := fun hsvc hstage => ⟨_, hsvc, hstage⟩
  live := fun hlive => (live_killProcess hlive).right
  targeted := fun _ htargeted => htargeted
  returned := fun hk => hk
  aborted := fun hsvc haborted => Or.inr ⟨_, hsvc, haborted⟩

lemma addService_old {id : String} (h : s.services[k]? = some svc) :
    (s.addService id).services[k]? = some svc :=
  (List.getElem?_append_left (List.getElem?_eq_some_iff.mp h).1).trans h

lemma addService_cases {id : String} (h : (s.addService id).services[k]? = some svc) :
    s.services[k]? = some svc ∨ svc = Service.new id := by
  have hget := (getElem?_concat_if s.services (Service.new id) k).symm.trans h
  split at hget
  · injection hget with heq
    exact Or.inr heq.symm
  · exact Or.inl hget

lemma frame_addService (s : Handlers) {id : String} : Frame s (s.addService id) where
  service := fun hsvc => ⟨_, addService_old hsvc, rfl, fun h => h⟩
  waiting := by
    intro k pid svc hsvc hstage
    rcases addService_cases hsvc with hold | hnew
    · exact ⟨svc, hold, hstage⟩
    · rw [hnew] at hstage
      cases hstage
  live := fun hlive => hlive
  targeted := by
    intro k pid _ htargeted
    rcases htargeted with hdata | hkilling
    · rcases hdata with ⟨svc, hsvc, hpid⟩
      exact Or.inl ⟨svc, addService_old hsvc, hpid⟩
    · exact Or.inr hkilling
  returned := fun hk => hk
  aborted := by
    intro k svc hsvc haborted
    rcases addService_cases hsvc with hold | hnew
    · exact Or.inr ⟨svc, hold, haborted⟩
    · rw [hnew] at haborted
      cases haborted

/-!
## Steps of the runners
-/

lemma live_other (h : svc.Moves k procs procs' svc') (hne : j ≠ k) (hlive : LiveOf procs' j pid) :
    LiveOf procs j pid := by
  rcases h.process with hsame | hspawn
  · rw [hsame.left] at hlive
    exact hlive
  · rw [hspawn.left, LiveOf, getElem?_concat_if] at hlive
    split at hlive
    · injection hlive with heq
      injection heq with howner _
      exact absurd howner.symm hne
    · exact hlive

lemma setRunner_service (h : s.services[k]? = some svc) (svc' : Service) (procs : List Process)
    (j : Nat) :
    (s.setRunner k svc' procs).services[j]? = if j = k then some svc' else s.services[j]? :=
  getElem?_set_if h svc' j

section Runner

lemma stays_runner (hsvc : s.services[k]? = some svc)
    (hmoves : svc.Moves k s.processes procs svc') : Stays s (s.setRunner k svc' procs) := by
  intro j old hold
  rw [setRunner_service hsvc]
  by_cases heq : j = k
  · rw [if_pos heq]
    rw [heq, hsvc] at hold
    cases hold
    refine ⟨svc', rfl, fun hinactive => ⟨hmoves.active.trans hinactive, ?_⟩⟩
    intro hsettled
    refine ⟨(hmoves.settled hinactive hsettled).left, ?_⟩
    intro pid hstage _
    exact absurd hsettled (hmoves.waiting pid hstage).right
  · rw [if_neg heq]
    refine ⟨old, hold, fun hinactive => ⟨hinactive, fun hsettled => ⟨hsettled, ?_⟩⟩⟩
    exact fun _ hstage hlive => ⟨hstage, live_other hmoves heq hlive⟩

section

variable (h : Sound s) (hsvc : s.services[k]? = some svc)
  (hmoves : svc.Moves k s.processes procs svc')
include h hsvc hmoves

lemma owned_runner (hlive : LiveOf procs j pid) :
    exists now : Service, (s.setRunner k svc' procs).services[j]? = some now ∧
      now.stage.process = some pid := by
  rw [setRunner_service hsvc]
  by_cases heq : j = k
  · rw [if_pos heq]
    rw [heq] at hlive
    refine ⟨svc', rfl, ?_⟩
    rcases hmoves.process with hsame | hspawn
    · rw [hsame.left] at hlive
      rcases h.owned hlive with ⟨old, hold, hprocess⟩
      rw [hsvc] at hold
      cases hold
      exact hsame.right pid hprocess hlive
    · rcases hspawn with ⟨hprocs, hnone, hnew⟩
      rw [hprocs, LiveOf, getElem?_concat_if] at hlive
      split at hlive
      · next hpid =>
        rw [hpid]
        exact hnew
      · rcases h.owned hlive with ⟨old, hold, hprocess⟩
        rw [hsvc] at hold
        injection hold with hold
        rw [← hold, hnone] at hprocess
        cases hprocess
  · rw [if_neg heq]
    exact h.owned (live_other hmoves heq hlive)

lemma shown_runner (hnow : (s.setRunner k svc' procs).services[j]? = some now)
    (hstage : now.stage = .waiting pid) (hlive : LiveOf procs j pid) :
    (s.setRunner k svc' procs).Targeted j pid := by
  have hget := setRunner_service hsvc svc' procs j
  by_cases heq : j = k
  · rw [if_pos heq] at hget
    rw [hget] at hnow
    cases hnow
    exact Or.inl ⟨svc', hget, (hmoves.waiting pid hstage).left⟩
  · rw [if_neg heq] at hget
    rw [hget] at hnow
    cases h.shown hnow hstage (live_other hmoves heq hlive) with
    | inr hkilling => exact Or.inr hkilling
    | inl hdata =>
      rcases hdata with ⟨old, hold, hpid⟩
      exact Or.inl ⟨old, hget.trans hold, hpid⟩

lemma Sound.runner : Sound (s.setRunner k svc' procs) where
  owned := fun hlive => owned_runner h hsvc hmoves hlive
  shown := fun hnow hstage hlive => shown_runner h hsvc hmoves hnow hstage hlive
  stopping := fun htask => (stays_runner hsvc hmoves).phase (h.stopping htask)
  stopped := fun hk => (stays_runner hsvc hmoves).quiet (h.stopped hk)
  aborted := by
    intro j now hnow haborted
    rw [setRunner_service hsvc] at hnow
    split at hnow
    · next heq =>
      injection hnow with hnow
      rw [← hnow, hmoves.aborted] at haborted
      rw [heq]
      exact h.aborted hsvc haborted
    · exact h.aborted hnow haborted

end

end Runner

/-!
## Steps of a stop
-/

section Stop

section

variable (h : Sound s)
include h

lemma Sound.keep (hframe : Frame s s') (htasks : s'.tasks = s.tasks)
    (hreturned : s'.returned = s.returned) : Sound s' := by
  apply h.of_frame hframe
  · intro k phase restart htask
    rw [htasks] at htask
    exact Or.inl htask
  · intro k hk
    rw [hreturned] at hk
    exact Or.inl hk

lemma Sound.addTasks {tasks : List Task}
    (hphase : forall k phase restart, Task.stopping k phase restart ∈ tasks ->
      s.Phase k phase) : Sound (s.addTasks tasks) := by
  have hframe : Frame s (s.addTasks tasks) :=
    frame_of_same rfl rfl (fun _ hmem => List.mem_append_left _ hmem) fun _ hk => hk
  apply h.of_frame hframe
  · intro k phase restart htask
    rcases List.mem_append.mp htask with hold | hnew
    · exact Or.inl hold
    · exact Or.inr (hphase k phase restart hnew)
  · exact fun _ hk => Or.inl hk

lemma Sound.setTask (htask : s.tasks[n]? = some task)
    (hdead : forall k pid restart, task = .stopping k (.killing pid) restart ->
      ¬ LiveOf s.processes k pid)
    (hphase : forall k phase restart, task' = .stopping k phase restart -> s.Phase k phase) :
    Sound (s.setTask n task') := by
  apply h.of_frame (frame_setTask htask hdead)
  · intro k phase restart hmem
    rcases List.mem_or_eq_of_mem_set hmem with hold | hnew
    · exact Or.inl hold
    · exact Or.inr (hphase k phase restart hnew.symm)
  · exact fun _ hk => Or.inl hk

lemma Sound.addReturned (hquiet : s.Quiet k none) : Sound (s.addReturned k) := by
  have hframe : Frame s (s.addReturned k) :=
    frame_of_same rfl rfl (fun _ hmem => hmem) fun _ hk => List.mem_cons_of_mem k hk
  apply h.of_frame hframe
  · exact fun _ _ _ htask => Or.inl htask
  · intro j hj
    rcases List.mem_cons.mp hj with heq | hold
    · rw [heq]
      exact Or.inr hquiet
    · exact Or.inl hold

lemma Sound.deactivate : Sound (s.updateService k Service.deactivate) :=
  h.keep (frame_updateService (fun _ => rfl) (fun _ _ => rfl) (fun _ _ _ hpid => Or.inl hpid)
    fun _ haborted => Or.inl haborted) rfl rfl

lemma Sound.abort (hk : k ∈ s.returned) : Sound (s.updateService k Service.abort) :=
  h.keep (frame_updateService (fun _ => rfl) (fun _ hactive => hactive)
    (fun _ _ _ hpid => Or.inl hpid) fun _ _ => Or.inr hk) rfl rfl

theorem Sound.takeData
    (hkilling : forall (svc : Service) pid, s.services[k]? = some svc -> svc.data = some pid ->
      exists restart, Task.stopping k (.killing pid) restart ∈ s.tasks) :
    Sound (s.updateService k Service.takeData) :=
  h.keep (frame_updateService (fun _ => rfl) (fun _ hactive => hactive)
    (fun svc pid hsvc hpid => Or.inr (hkilling svc pid hsvc hpid))
    fun _ haborted => Or.inl haborted) rfl rfl

theorem Sound.quiet_of_data (hsvc : s.services[k]? = some svc) (hinactive : svc.active = false)
    (hsettled : svc.stage.Settled)
    (halone : forall pid other, Task.stopping k (.killing pid) other ∉ s.tasks) :
    s.Quiet k svc.data := by
  refine ⟨svc, hsvc, hinactive, hsettled, ?_⟩
  intro pid hstage hlive
  rcases h.shown hsvc hstage hlive with hdata | hkilling
  · rcases hdata with ⟨svc', hsvc', hpid⟩
    rw [hsvc] at hsvc'
    injection hsvc' with heq
    rw [heq]
    exact hpid
  · rcases hkilling with ⟨restart, hmem⟩
    exact absurd hmem (halone pid restart)

end

lemma quiet_killProcess (h : s.Quiet k (some pid)) : (s.killProcess pid).Quiet k none := by
  rcases h with ⟨svc, hsvc, hinactive, hsettled, honly⟩
  refine ⟨svc, hsvc, hinactive, hsettled, ?_⟩
  intro pid' hstage hlive
  rcases live_killProcess hlive with ⟨hne, hold⟩
  injection honly pid' hstage hold with heq
  exact absurd heq.symm hne

end Stop

end Handlers

end Eva4.Launcher
