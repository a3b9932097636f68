import Eva4.Lib.Machine
import Eva4.Lib.Table
import Eva4.Launcher.Service

/-!
# Calls of the launcher

A start stops the service that is there and creates a new one, and keeps the map of services
locked meanwhile.  A stop takes the service out of the map first and stops it after that.  A
shutdown stops all services of the map at once and leaves them in it.

Killing a process returns when it is dead.
-/

namespace Eva4.Launcher

open Lib

inductive StopPhase where
  | begin
  | deactivated
  | killing (pid : Nat)
  | killed
deriving DecidableEq

/-- A call, or one of the stops of a shutdown.  A stop that is part of a start is followed by
the creation of the service. -/
inductive Task where
  | lockStart (id : String)
  | lockStop (id : String)
  | stopping (k : Nat) (phase : StopPhase) (restart : Option String)
  | creating (id : String)
  | done
deriving DecidableEq

namespace Task

def stops : Task -> Option Nat
  | stopping k _ _ => some k
  | _ => none

def creates : Task -> Option String
  | stopping _ _ restart => restart
  | creating id => some id
  | _ => none

def removed (restart : Option String) : Option Nat -> Task
  | some k => stopping k .begin restart
  | none => restart.elim done creating

end Task

inductive TaskEvent where
  | lock
  | deactivate
  | take
  | kill
  | abort
  | create
  | createFails
deriving DecidableEq

inductive Event where
  | exit (pid : Nat)
  | runner (k : Nat) (e : RunnerEvent)
  | start (id : String)
  | stop (id : String)
  | shutdown
  | task (n : Nat) (e : TaskEvent)
deriving DecidableEq

/-- The services ever created with the map of those that are there, the processes ever spawned,
the calls, the one that keeps the map locked, and the services of which a stop has returned. -/
structure Handlers where
  services : List Service
  registered : Table String Nat
  processes : List Process
  tasks : List Task
  lockedBy : Option Nat
  returned : List Nat

namespace Handlers

def new : Handlers where
  services := []
  registered := ∅
  processes := []
  tasks := []
  lockedBy := none
  returned := []

def setTask (n : Nat) (task : Task) (s : Handlers) : Handlers :=
  { s with tasks := s.tasks.set n task }

def addTasks (tasks : List Task) (s : Handlers) : Handlers :=
  { s with tasks := s.tasks ++ tasks }

def updateService (k : Nat) (f : Service -> Service) (s : Handlers) : Handlers :=
  { s with services := s.services.modify k f }

def killProcess (pid : Nat) (s : Handlers) : Handlers :=
  { s with processes := s.processes.modify pid fun p => { p with alive := false } }

def remove (id : String) (s : Handlers) : Handlers :=
  { s with registered := s.registered.erase id }

def setLock (holder : Option Nat) (s : Handlers) : Handlers :=
  { s with lockedBy := holder }

def addReturned (k : Nat) (s : Handlers) : Handlers :=
  { s with returned := k :: s.returned }

def addService (id : String) (s : Handlers) : Handlers :=
  { s with
    services := s.services ++ [Service.new id]
    registered := s.registered.insert id s.services.length }

def setRunner (k : Nat) (svc : Service) (procs : List Process) (s : Handlers) : Handlers :=
  { s with services := s.services.set k svc, processes := procs }

def stepTask (n : Nat) (task : Task) (e : TaskEvent) (s : Handlers) : Option Handlers :=
  match task, e with
  | .lockStart id, .lock =>
    if s.lockedBy = none then
      some (((s.remove id).setLock (some n)).setTask n
        (.removed (some id) (s.registered.lookup id)))
    else none
  | .lockStop id, .lock =>
    if s.lockedBy = none then
      some (((s.remove id).setLock none).setTask n (.removed none (s.registered.lookup id)))
    else none
  | .stopping k .begin restart, .deactivate =>
    some ((s.updateService k Service.deactivate).setTask n (.stopping k .deactivated restart))
  | .stopping k .deactivated restart, .take =>
    (s.services[k]?).map fun svc =>
      (s.setTask n (.stopping k (svc.data.elim .killed .killing) restart)).updateService k
        Service.takeData
  | .stopping k (.killing pid) restart, .kill =>
    some ((s.killProcess pid).setTask n (.stopping k .killed restart))
  | .stopping k .killed restart, .abort =>
    some (((s.addReturned k).updateService k Service.abort).setTask n (.removed restart none))
  | .creating id, .create => some (((s.addService id).setLock none).setTask n .done)
  | .creating _, .createFails => some ((s.setLock none).setTask n .done)
  | _, _ => none

def step : Machine Handlers Event := fun s e =>
  match e with
  | .exit pid => some (s.killProcess pid)
  | .runner k e =>
    (s.services[k]?).bind fun svc => (svc.next k s.processes e).map fun r => s.setRunner k r.1 r.2
  | .start id => some (s.addTasks [.lockStart id])
  | .stop id => some (s.addTasks [.lockStop id])
  | .shutdown =>
    if s.lockedBy = none then
      some (s.addTasks ((Table.vals s.registered).map fun k => .stopping k .begin none))
    else none
  | .task n e => (s.tasks[n]?).bind fun task => s.stepTask n task e

/-!
## Processes of services
-/

/-- Every process of a service of which a stop has returned is dead. -/
def StoppedDead (s : Handlers) : Prop :=
  forall k pid, k ∈ s.returned -> ¬ LiveOf s.processes k pid

/-- Services with one id have at most one process that is alive. -/
def OneLive (s : Handlers) : Prop :=
  forall j k pid pid' (svc svc' : Service), LiveOf s.processes j pid ->
    LiveOf s.processes k pid' -> s.services[j]? = some svc -> s.services[k]? = some svc' ->
    svc.id = svc'.id -> pid = pid'

/-- A stop takes the data while the runner is not about to spawn a process or to register one,
and while no other stop of the service is killing; a runner gives up no process that is alive;
and a service is created while no stop of one with its id goes on. -/
def Admits (s : Handlers) : Event -> Prop
  | .runner k e => forall svc : Service, s.services[k]? = some svc -> ¬ svc.Loses s.processes e
  | .task n .take => forall k restart (svc : Service),
      s.tasks[n]? = some (Task.stopping k .deactivated restart) ->
      s.services[k]? = some svc -> svc.stage.Settled ∧
        forall pid other, Task.stopping k (.killing pid) other ∉ s.tasks
  | .task n .create => forall id k (svc : Service),
      s.tasks[n]? = some (Task.creating id) -> some k ∈ s.tasks.map Task.stops ->
      s.services[k]? = some svc -> svc.id ≠ id
  | _ => True

end Handlers

end Eva4.Launcher
