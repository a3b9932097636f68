import Mathlib.Data.List.Infix
import Eva4.Lib.Program
import Eva4.Items.Inventory

/-!
# The core and its world

The operations of the core are programs on a world: the inventory with the cells of
its items, the sources whose inventory is being processed, the scheduled saves and
everything sent to the bus and to the storage.  They take two locks, the inventory
lock and the state processor lock.

What the core cannot decide itself is fixed by its environment: the settings, the
clocks, and how its calls to the storage, the bus and other nodes end.
-/

namespace Eva4.Core

open Lib Items

/-!
## Settings
-/

def containsStr (s part : String) : Bool :=
  decide (part.toList <:+: s.toList)

def endsWithStr (s part : String) : Bool :=
  decide (part.toList <:+ s.toList)

def startsWithStr (s part : String) : Bool :=
  decide (part.toList <+: s.toList)

def senderAllowedAutoCreateStrict (sender : String) : Bool :=
  containsStr sender ".controller." || containsStr sender ".llc." ||
    containsStr sender ".plc." || endsWithStr sender ".plc" ||
    endsWithStr sender ".program"

inductive AutoCreate where
  | strict (enabled : Bool)
  | bySingleSender (sender : String)
  | bySender (senders : List String)
deriving DecidableEq, Repr

def AutoCreate.allowed (autoCreate : AutoCreate) (sender : String) : Bool :=
  match autoCreate with
  | .strict enabled => enabled && senderAllowedAutoCreateStrict sender
  | .bySingleSender v => v == "*" || v == "#" || containsStr sender v
  | .bySender vs => (vs.any fun s => s == "*" || s == "#") || vs.any fun s => containsStr sender s

section

variable (V : Type)

/--
The outcome of a call depends on how many calls were made before it, that of an
announcement on how much was sent.
-/
structure Env where
  bootId : Nat
  autoCreate : AutoCreate
  instantSave : OID -> Bool
  inventoryDb : Bool
  stateDbTx : Bool
  clock : Clock
  storage : Nat -> EResult Unit
  publish : Nat -> EResult Unit
  rpcCall : Nat -> EResult (Option V)

def Env.sample : Env V where
  bootId := 1
  autoCreate := .strict false
  instantSave := fun _ => false
  inventoryDb := false
  stateDbTx := false
  clock := { monotonicNs := fun n => n, timeNow := fun n => .fin n }
  storage := fun _ => .ok ()
  publish := fun _ => .ok ()
  rpcCall := fun _ => .ok none

def Env.autoCreating : Env V :=
  { Env.sample V with autoCreate := .bySingleSender "*" }

/-!
## The world
-/

structure RemoteStateEvent where
  status : ItemStatus
  value : V
  act : Option Nat
  ieid : IEID
  t : F64
  node : String
  connected : Bool
deriving DecidableEq

def RemoteStateEvent.fromLocalStateEvent {V : Type} (st : ItemState V) (node : String)
    (connected : Bool) : RemoteStateEvent V where
  status := st.status
  value := st.value
  act := st.act
  ieid := st.ieid
  t := st.t
  node := node
  connected := connected

def RemoteStateEvent.fromReplicationStateEvent {V : Type}
    (rse : ReplicationStateEvent V) : RemoteStateEvent V where
  status := rse.status
  value := rse.value
  act := rse.act
  ieid := rse.ieid
  t := rse.t
  node := rse.node
  connected := true

/-- What leaves the core.  Remote states go to the actual or to the archive topic. -/
inductive Message where
  | localState (oid : OID) (state : ItemState V)
  | remoteState (current : Bool) (oid : OID) (event : RemoteStateEvent V)
  | stateDb (oid : OID) (state : DbState V)
  | pushState (oid : OID) (state : DbState V)
  | saveConfig (oid : OID) (config : ItemRecord V)
  | saveConfigs (configs : List (OID × ItemRecord V))
  | destroyItem (oid : OID)
  | destroyItems (oids : List OID)

structure World extends Mem V where
  invProcess : List String
  scheduledSaves : List OID
  calls : Nat
  sent : List (Message V)

def World.ofMem {V : Type} (m : Mem V) : World V :=
  { m with invProcess := [], scheduledSaves := [], calls := 0, sent := [] }

def World.new {V : Type} : World V :=
  World.ofMem Mem.new

inductive Lock where
  | inventory
  | stateProcessor
deriving DecidableEq, Repr

/-- What a step is about, for the steps that need to be told apart. -/
inductive Label where
  | plain
  | copyState (config : ItemConfigData V)
  | append (config : ItemConfigData V) (state : Option (ItemState V))
  | bulkLookup (raw : List (RawStateBulkEvent V)) (sender : String)
  | applyRaw (item : Item V) (raw : RawStateEvent V) (lock : Bool)
  | deltaLookup (clause : SetOtherValueDelta) (delta : F64) (t : Option F64)
      (sender : String)
  | countLaunch (oid : OID)
  | countCompletion (oid : OID)
  | lockSource (sourceId : String)
  | unlockSource (sourceId : String)
  | takeSource (sourceId sender : String)
  | appendRemote (remote : ReplicationInventoryItem V) (source : Source)
  | acceptRemote (oid : OID) (rse : ReplicationStateEvent V) (sender : String)
  | removeRemote (oid : OID)
  | markDestroyed (source : Source)
  | markOnline (sourceId : String) (online : Bool)
  | listItems (sourceId : String)
  | createSensor (oid : OID)
  | invoke
  | createLocal (oid : OID)
  | removeLocal (oid : OID)
  | enableLocal (mask : OIDMask) (value : Bool)
  | saveConfig (oid : OID) (config : ItemRecord V)
  | saveConfigs (configs : List (OID × ItemRecord V))
  | destroyStored (oid : OID)
  | destroyAllStored (oids : List OID)

end

abbrev CoreM (V R : Type) : Type :=
  Prog (World V) (Label V) Lock R

variable {V : Type}

namespace World

def state (w : World V) (item : Item V) : Option (ItemState V) :=
  (w.heap.cells item.ptr).state

def enabled (w : World V) (item : Item V) : Bool :=
  (w.heap.cells item.ptr).enabled

variable (w : World V)

def withMem (m : Mem V) : World V :=
  { w with toMem := m }

def setState (w : World V) (item : Item V) (st : ItemState V) : World V :=
  { w with heap := w.heap.setState item.ptr st }

def setEnabled (w : World V) (item : Item V) (enabled : Bool) : World V :=
  { w with heap := w.heap.setEnabled item.ptr enabled }

def send (message : Message V) : World V :=
  { w with sent := message :: w.sent }

def call : World V :=
  { w with calls := w.calls + 1 }

def advance (w : World V) : World V :=
  { w with heap := w.heap.advance }

def scheduleSave (oid : OID) : World V :=
  { w with scheduledSaves := w.scheduledSaves.insert oid }

def unscheduleSave (oid : OID) : World V :=
  { w with scheduledSaves := w.scheduledSaves.erase oid }

def lockSource (sourceId : String) : Bool × World V :=
  if sourceId ∈ w.invProcess then (false, w)
  else (true, { w with invProcess := sourceId :: w.invProcess })

def unlockSource (sourceId : String) : World V :=
  { w with invProcess := w.invProcess.erase sourceId }

end World

/-!
## Steps shared by the operations
-/

def errMsgStateLmacro : String := "can not update state for lmacro"

def onMem {R : Type} (label : Label V) (f : Mem V -> R × Mem V) : CoreM V R :=
  Prog.atomic label fun w => ((f w.toMem).1, w.withMem (f w.toMem).2)

def getItem (oid : OID) : CoreM V (Option (Item V)) :=
  Prog.read .plain fun w => w.inv.getItem oid

variable (env : Env V)

def generateIeid : CoreM V IEID :=
  Prog.atomic .plain fun w => (w.heap.ieid env.clock env.bootId, w.advance)

def readState (item : Item V) : CoreM V (Option (ItemState V)) :=
  Prog.read .plain fun w => w.state item

def readEnabled (item : Item V) : CoreM V Bool :=
  Prog.read .plain fun w => w.enabled item

def announceLocalState (oid : OID) (st : ItemState V) : CoreM V (EResult Unit) :=
  Prog.atomic .plain fun w => (env.publish w.sent.length, w.send (.localState oid st))

def announceRemoteState (oid : OID) (event : RemoteStateEvent V)
    (current : Bool) : CoreM V (EResult Unit) :=
  Prog.atomic .plain fun w => (env.publish w.sent.length, w.send (.remoteState current oid event))

def itemConfig (item : Item V) (enabled : Bool) : EResult (ItemRecord V) :=
  match item.source with
  | some _ => .error { kind := .failed, message := "unable to get config for the remote item" }
  | none =>
    .ok
      { oid := item.oid, state := none, metaValue := item.metaValue,
        enabled := enabled, logic := item.logic, action := item.action }

def saveItemConfig (oid : OID) (config : ItemRecord V) : CoreM V (EResult Unit) :=
  Prog.atomic (.saveConfig oid config) fun w =>
    (env.storage w.calls, (w.send (.saveConfig oid config)).call)

def saveItemsBulk (configs : List (OID × ItemRecord V)) : CoreM V (EResult Unit) :=
  Prog.atomic (.saveConfigs configs) fun w =>
    (env.storage w.calls, (w.send (.saveConfigs configs)).call)

/-- The state to be saved at once; binary values never are. -/
def dbState [EvaCommon V] (oid : OID) (st : ItemState V) : Option (DbState V) :=
  if EvaCommon.isBytes st.value then none
  else if env.instantSave oid then some st.toDbState
  else none

def processNewState (oid : OID) (st : ItemState V)
    (dbSt : Option (DbState V)) : CoreM V Unit := do
  let _ ← announceLocalState env oid st
  match dbSt with
  | some db =>
    if env.stateDbTx then Prog.modify .plain fun w => w.send (.stateDb oid db)
    else pure ()
  | none => Prog.modify .plain fun w => w.scheduleSave oid

end Eva4.Core
