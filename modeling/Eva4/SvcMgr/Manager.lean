import Eva4.Lib.Program
import Eva4.Lib.Table
import Eva4.Items.Basic

/-!
# The service manager

The manager keeps the parameters of each service twice, in its services map and in the
registry, and has launchers start and stop the services.  Its calls wait for the launchers
and for the registry between their steps and hold no lock then.

The launchers and the registry are given by how their calls end.  A registry call that
fails writes nothing.
-/

namespace Eva4.SvcMgr

open Lib Items

def memoryWarnDefault : Nat := 201326592

/-- The parameters of a service; the settings only its launcher reads are of any type. -/
structure Params (X : Type) where
  enabled : Bool
  workers : Nat
  memWarn : Option Nat
  launcher : String
  settings : X
deriving DecidableEq

variable {X : Type}

def Params.withMemWarn (params : Params X) : Params X :=
  { params with memWarn := some (params.memWarn.getD (memoryWarnDefault * params.workers)) }

inductive Method where
  | start
  | stop
  | stopAndPurge
deriving DecidableEq, Repr

structure Init (X : Type) where
  params : Params X
  launcher : String
  memWarn : Nat

structure Request (X : Type) where
  method : Method
  id : String
  init : Init X

/-- The outcome of a call depends on how many calls were made before it. -/
structure Env where
  launcher : Nat -> EResult Unit
  registry : Nat -> EResult Unit
  display : Error -> String

structure World (X : Type) where
  services : Table String (Params X)
  registry : Table String (Params X)
  calls : Nat
  sent : List (Request X)

inductive Label (X : Type) where
  | call
  | init (id : String)
  | getParams (id : String) (enabled : Bool)
  | keySet (id : String) (params : Params X)
  | insert (id : String) (params : Params X)
  | keyDelete (id : String)
  | remove (id : String)
  | purgeInit (id : String)
  | purgeRemove (id : String)
  | purgeDelete (id : String)

/-- No call holds a lock while it waits. -/
abbrev SvcM (X R : Type) : Type :=
  Prog (World X) (Label X) Empty R

/-!
## Reading the services map
-/

def noSuchService (id : String) : Error where
  kind := .resourceNotFound
  message := "no such service: " ++ id

variable (env : Env)

namespace World

def getServiceInit (w : World X) (id : String) (allowAny : Bool) : EResult (Init X) :=
  match AList.lookup id w.services with
  | none => .error (noSuchService id)
  | some c =>
    if c.enabled || allowAny then
      .ok
        { params := c, launcher := c.launcher, memWarn := c.memWarn.getD memoryWarnDefault }
    else .error { kind := .failed, message := "the service is disabled" }

def getServiceParams (w : World X) (id : String) : EResult (Params X) :=
  match AList.lookup id w.services with
  | none => .error (noSuchService id)
  | some c => .ok c

def insertService (id : String) (params : Params X) (w : World X) : World X :=
  { w with services := AList.insert id params w.services }

def removeService (id : String) (w : World X) : World X :=
  { w with services := AList.erase id w.services }

def request (env : Env) (request : Request X) (w : World X) : EResult Unit × World X :=
  (env.launcher w.calls, { w with calls := w.calls + 1, sent := request :: w.sent })

def callRegistry (write : Table String (Params X) -> Table String (Params X))
    (w : World X) : EResult Unit × World X :=
  match env.registry w.calls with
  | .ok () => (.ok (), { w with calls := w.calls + 1, registry := write w.registry })
  | .error e => (.error e, { w with calls := w.calls + 1 })

end World

/-!
## Calls to launchers and to the registry
-/

def startStopService (method : Method) (id : String) (init : Init X) : SvcM X (EResult Unit) :=
  Prog.atomic .call (World.request env { method := method, id := id, init := init })

def mapErr (text : String) (result : EResult Unit) : EResult Unit :=
  match result with
  | .ok () => .ok ()
  | .error e => .error { kind := .failed, message := text ++ env.display e }

section

variable (id : String)

def restartService : SvcM X (EResult Unit) :=
  (Prog.read (.init id) fun w => w.getServiceInit id false).tryThen fun init => do
    let result ← startStopService env .start id init
    pure (mapErr env ("unable to restart " ++ id ++ ": ") result)

def stopService : SvcM X (EResult Unit) :=
  (Prog.read (.init id) fun w => w.getServiceInit id true).tryThen fun init => do
    let result ← startStopService env .stop id init
    pure (mapErr env ("unable to stop " ++ id ++ ": ") result)

def keySet (env : Env) (id : String) (params : Params X) : SvcM X (EResult Unit) :=
  Prog.atomic (.keySet id params) (World.callRegistry env (AList.insert id params))

def keyDelete (label : Label X) (id : String) : SvcM X (EResult Unit) :=
  Prog.atomic label (World.callRegistry env (AList.erase id))

/-- Deletes keys of the service other than its parameters. -/
def keyDeleteRecursive : SvcM X (EResult Unit) :=
  Prog.atomic .call (World.callRegistry env fun registry => registry)

/-!
## The operations
-/

/-- Stops the service as it is, whether this succeeds or not, stores its parameters and
starts it if it is enabled. -/
def deployService (params : Params X) : SvcM X (EResult Unit) := do
  let _ ← stopService env id
  (keySet env id params.withMemWarn).tryThen fun _ => do
    Prog.modify (.insert id params.withMemWarn) (World.insertService id params.withMemWarn)
    if params.enabled then restartService env id
    else pure (.ok ())

def setServiceEnabled (enabled : Bool) : SvcM X (EResult Unit) :=
  (Prog.read (.getParams id enabled) fun w => w.getServiceParams id).tryThen fun params =>
    if params.enabled = enabled then pure (.ok ())
    else deployService env id { params with enabled := enabled }

def purgeKeys : SvcM X (EResult Unit) :=
  (keyDelete env (.purgeDelete id) id).tryThen fun _ =>
    (keyDeleteRecursive env).tryThen fun _ => keyDeleteRecursive env

/-- A service that is not known is purged from the registry only. -/
def purgeService : SvcM X (EResult Unit) := do
  match ← Prog.read (.purgeInit id) fun w => w.getServiceInit id true with
  | .error e => if e.kind = .resourceNotFound then purgeKeys env id else pure (.error e)
  | .ok init =>
    (startStopService env .stopAndPurge id init).tryThen fun _ => do
      Prog.modify (.purgeRemove id) (World.removeService id)
      purgeKeys env id

def undeployService : SvcM X (EResult Unit) :=
  (Prog.read (.init id) fun w => w.getServiceInit id true).tryThen fun init =>
    (startStopService env .stop id init).tryThen fun _ =>
      (keyDelete env (.keyDelete id) id).tryThen fun _ => do
        Prog.modify (.remove id) (World.removeService id)
        pure (.ok ())

end

inductive Call (X : Type) where
  | deployService (id : String) (params : Params X)
  | setServiceEnabled (id : String) (enabled : Bool)
  | undeployService (id : String)
  | purgeService (id : String)

def Call.prog : Call X -> SvcM X (EResult Unit)
  | .deployService id params => SvcMgr.deployService env id params
  | .setServiceEnabled id enabled => SvcMgr.setServiceEnabled env id enabled
  | .undeployService id => SvcMgr.undeployService env id
  | .purgeService id => SvcMgr.purgeService env id

end Eva4.SvcMgr
