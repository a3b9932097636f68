import Eva4.Core.LocalItems
import Eva4.Core.Replication

/-!
# Sources

A source is marked online or offline by its keep-alives; a sensor may tell which.  A source
whose handler has moved is destroyed: its object is marked, the processor of its inventory
is waited for, and its items are removed one by one.

Whether the handler has moved is known from the table of nodes, which is not modelled: the
answer is an argument.
-/

namespace Eva4.Core

open Lib Items

variable {V : Type}

namespace World

def markDestroyed (w : World V) (source : Source) : World V :=
  { w with
    heap.sourceCells := Function.update w.heap.sourceCells source.ptr
      { w.heap.sourceCells source.ptr with destroyed := true } }

def markSourceOnline (w : World V) (sourceId : String) (online : Bool) : World V :=
  match AList.lookup sourceId w.inv.sources with
  | none => w
  | some source =>
    { w with
      heap.sourceCells := Function.update w.heap.sourceCells source.ptr
        { w.heap.sourceCells source.ptr with online := online } }

def connected (w : World V) (item : Item V) : Bool :=
  match item.source with
  | some source => w.sourceOnline source
  | none => true

end World

/-!
## Destroying a source
-/

def waitForSource (fuel : Nat) (sourceId : String) : CoreM V Bool :=
  match fuel with
  | 0 => pure false
  | fuel + 1 => do
    let free ← Prog.atomic (.lockSource sourceId) fun w => w.lockSource sourceId
    if free then pure true else waitForSource fuel sourceId

def removeSourceItem (oid : OID) : CoreM V Unit := do
  let _ ← Prog.locked .inventory .exclusive (onMem (.removeRemote oid) fun m => m.removeItem oid)
  pure ()

def destroySource (fuel : Nat) (sourceId : String) : CoreM V Unit := do
  let source ← Prog.locked .inventory .shared
    (onMem (.takeSource sourceId "") fun m => m.getOrCreateSource sourceId "")
  Prog.modify (.markDestroyed source) fun w => w.markDestroyed source
  let free ← waitForSource fuel sourceId
  Prog.when free do
    let items ← Prog.locked .inventory .shared
      (Prog.read (.listItems sourceId) fun w => w.inv.getItemsBySource sourceId)
    Prog.each removeSourceItem (items.elim [] AList.keys)
    Prog.modify (.unlockSource sourceId) fun w => w.unlockSource sourceId

/-!
## Marking a source
-/

variable [EvaCommon V]

def noSensorState : Error where
  kind := .core
  message := "no state for src sensor"

def World.setSensorState (env : Env V) (item : Item V) (online : Bool) (ieid : IEID)
    (w : World V) : Option (ItemState V) × World V :=
  match w.state item with
  | none => (none, w)
  | some st =>
    let st' := st.forceSetState (some 1) (some (EvaCommon.ofU8 (if online then 1 else 0)))
      ieid (w.heap.now env.clock)
    (some st', (w.setState item st').advance)

def findOrCreateSensor (env : Env V) (oid : OID) : CoreM V (EResult (Item V × IEID)) := do
  let found ← getItem oid
  let ieid ← generateIeid env
  match found with
  | some item => pure (.ok (item, ieid))
  | none =>
    (onMem (.createSensor oid) fun m => m.createItem env.clock oid (some ieid) none).tryThen
      fun item => pure (.ok (item, ieid))

/-- The inventory is locked to the end.  The OID of the sensor is read from a text. -/
def setSourceSensor (env : Env V) (sensorOid : EResult OID) (online : Bool) :
    CoreM V (EResult Unit) :=
  Prog.locked .inventory .exclusive
    ((Prog.ret sensorOid).tryThen fun oid =>
      (findOrCreateSensor env oid).tryThen fun sensor => do
        match ← Prog.atomic .plain (World.setSensorState env sensor.1 online sensor.2) with
        | none => pure (.error noSensorState)
        | some st =>
          processNewState env sensor.1.oid st (dbState env sensor.1.oid st)
          pure (.ok ()))

/-- Marks a source whose handler is the same, destroys it otherwise.  The OID of its sensor
is given if sources have sensors. -/
def markSourceOnline (env : Env V) (fuel : Nat) (sensorOid : Option (EResult OID))
    (sourceId : String) (online sameHandler : Bool) : CoreM V Unit :=
  if sameHandler then do
    Prog.locked .inventory .shared
      (Prog.modify (.markOnline sourceId online) fun w => w.markSourceOnline sourceId online)
    match sensorOid with
    | none => pure ()
    | some oid =>
      let _ ← setSourceSensor env oid online
      pure ()
  else destroySource fuel sourceId

end Eva4.Core
