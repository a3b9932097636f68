import Eva4.Core.World

/-!
# Replication

A remote node sends its inventory, whole or in part, and the states of its items.  An
inventory removes the items the node no longer has, creates new ones, recreates those
whose meta differs and updates the state of the others.
-/

namespace Eva4.Core

open Lib Items

variable {V : Type} [EvaCommon V]

/-!
## Remote inventories
-/

def checkState (item : ReplicationInventoryItem V) : Bool :=
  match item.oid.kind with
  | .lvar | .sensor => item.act.isNone && item.ieid.isSome && item.t.isSome
  | .lMacro =>
    item.status.isNone && item.value.isNone && item.act.isNone && item.ieid.isNone &&
      item.t.isNone
  | .unit => item.ieid.isSome && item.t.isSome

def World.sourceDestroyed (w : World V) (source : Source) : Bool :=
  (w.heap.sourceCells source.ptr).destroyed

def World.sourceOnline (w : World V) (source : Source) : Bool :=
  (w.heap.sourceCells source.ptr).online

def newerState (remote : ReplicationInventoryItem V) (st : ItemState V) : Option (ItemState V) :=
  if checkState remote && decide (remote.oid.kind ≠ .lMacro) then
    match EvaCommon.toReplicationState remote with
    | .error _ => none
    | .ok rs => if st.ieid < rs.ieid then some (st.setFromRs rs) else none
  else none

def World.updateFromRecord (item : Item V) (remote : ReplicationInventoryItem V)
    (w : World V) : Option (ItemState V) × World V :=
  match (w.state item).bind (newerState remote) with
  | none => (none, w)
  | some st => (some st, w.setState item st)

def World.syncEnabled (item : Item V) (enabled : Bool) (w : World V) : World V :=
  if w.enabled item = enabled then w else w.setEnabled item enabled

variable (env : Env V) (oid : OID)

def announceRemote (source : Source) (online : Bool) : Option (ItemState V) -> CoreM V Unit
  | none => pure ()
  | some st => do
    let _ ← announceRemoteState env oid
      (RemoteStateEvent.fromLocalStateEvent st source.node online) true
    pure ()

def updateRemoteItem (item : Item V) (remote : ReplicationInventoryItem V)
    (source : Source) (online : Bool) : CoreM V Unit := do
  Prog.modify .plain (World.syncEnabled item remote.enabled)
  let st ← Prog.atomic .plain (World.updateFromRecord item remote)
  announceRemote env item.oid source online st

/-- Creates or recreates an item, the inventory stays locked while it is announced. -/
def createRemoteItem (remote : ReplicationInventoryItem V)
    (source : Source) (online : Bool) : CoreM V Unit :=
  Prog.locked .inventory .exclusive do
    match ← onMem (.appendRemote remote source) fun m => m.appendRemoteItem remote source with
    | .error _ => pure ()
    | .ok item =>
      let st ← readState item
      Prog.when (item.oid.kind ≠ .lMacro) (announceRemote env item.oid source online st)

def processKnown (existing : Table OID (Item V)) (source : Source)
    (online : Bool) (remote : ReplicationInventoryItem V) : CoreM V Unit :=
  match AList.lookup remote.oid existing with
  | some item =>
    if item.source.isNone then pure ()
    else if item.metaValue == remote.metaValue then updateRemoteItem env item remote source online
    else createRemoteItem env remote source online
  | none => createRemoteItem env remote source online

def processFirst (source : Source) (online : Bool)
    (remote : ReplicationInventoryItem V) : CoreM V Unit :=
  Prog.when (checkState remote) (createRemoteItem env remote source online)

def eachUntilDestroyed {X : Type} (source : Source) (f : X -> CoreM V Unit) : List X -> CoreM V Unit
  | [] => pure ()
  | x :: xs => do
    let destroyed ← Prog.read .plain fun w => w.sourceDestroyed source
    if destroyed then pure ()
    else do
      f x
      eachUntilDestroyed source f xs

variable (remoteInv : Table OID (ReplicationInventoryItem V))

def removeMissing (oid : OID) : CoreM V Unit :=
  Prog.when (!(decide (oid ∈ remoteInv))) do
    let _ ← Prog.locked .inventory .exclusive (onMem (.removeRemote oid) fun m => m.removeItem oid)
    pure ()

def processSourceItems
    (quick : Bool)
    (existing : Option (Table OID (Item V))) (source : Source) : CoreM V Unit := do
  let online ← Prog.read .plain fun w => w.sourceOnline source
  match existing with
  | some items =>
    Prog.when (!quick) (eachUntilDestroyed source (removeMissing remoteInv) items.keys)
    eachUntilDestroyed source (processKnown env items source online) (Table.vals remoteInv)
  | none => eachUntilDestroyed source (processFirst env source online) (Table.vals remoteInv)

def processUnlocked
    (sourceId sender : String) (quick : Bool) : CoreM V Unit := do
  let found ← Prog.locked .inventory .shared
    (onMem (.takeSource sourceId sender) fun m =>
      ((m.inv.getItemsBySource sourceId, (m.getOrCreateSource sourceId sender).1),
        (m.getOrCreateSource sourceId sender).2))
  processSourceItems env remoteInv quick found.1 found.2

def reservedSource : Error where
  kind := .invalidParams
  message := "source ids starting with dots are reserved, ignoring incoming payload"

def processRemoteInventory (sourceId sender : String) (quick : Bool) : CoreM V (EResult Unit) :=
  if startsWithStr sourceId "." then pure (.error reservedSource)
  else if quick then do
    processUnlocked env remoteInv sourceId sender quick
    pure (.ok ())
  else do
    let free ← Prog.atomic (.lockSource sourceId) fun w => w.lockSource sourceId
    if free then
      processUnlocked env remoteInv sourceId sender quick
      Prog.modify (.unlockSource sourceId) fun w => w.unlockSource sourceId
      pure (.ok ())
    else pure (.ok ())

/-!
## Replicated states
-/

variable (rse : ReplicationStateEvent V)

def checkReplicated : EResult Unit :=
  match oid.kind with
  | .lMacro => .error { kind := .notImplemented, message := errMsgStateLmacro }
  | .lvar | .sensor =>
    if rse.act.isSome then
      .error
        { kind := .invalidData, message := "invalid state payload for " ++ oid.asStr }
    else .ok ()
  | .unit => .ok ()

def blankRecord (act : Option Nat) : ReplicationInventoryItem V where
  oid := oid
  act := act
  enabled := true
  ieid := some { bootId := 0, t := 0 }
  metaValue := none
  status := none
  value := none
  t := some F64.zero

section

variable (sender : String)

def replicatedItem : CoreM V (EResult (Item V)) := do
  match ← Prog.locked .inventory .shared (getItem oid) with
  | some item => pure (.ok item)
  | none =>
    if rse.forceAccept then
      Prog.locked .inventory .exclusive
        (onMem (.acceptRemote oid rse sender) fun m =>
          (m.getOrCreateSource rse.node sender).2.appendRemoteItem
            (blankRecord oid rse.act) (m.getOrCreateSource rse.node sender).1)
    else pure (.error { kind := .resourceNotFound, message := oid.asStr })

def World.updateFromEvent (item : Item V) (source : Source)
    (rse : ReplicationStateEvent V) (w : World V) : Option (RemoteStateEvent V × Bool) × World V :=
  match w.state item with
  | none => (none, w)
  | some st =>
    if st.ieid < rse.ieid then
      (some (RemoteStateEvent.fromLocalStateEvent
          (st.setFromRs rse.replicationState) source.node (w.sourceOnline source), true),
        w.setState item (st.setFromRs rse.replicationState))
    else (some (RemoteStateEvent.fromReplicationStateEvent rse, false), w)

def nodeDiffers : Error where
  kind := .busy
  message := "unable to set item state " ++ oid.asStr ++ " from rpl event from " ++
    sender ++ ": node differs"

def setReplicatedState (item : Item V) : CoreM V (EResult Unit) := do
  let state ← readState item
  match item.source with
  | none => pure (.ok ())
  | some source =>
    if state.isNone then pure (.ok ())
    else if rse.node ≠ source.node then pure (.error (nodeDiffers oid sender))
    else
      match ← Prog.atomic .plain (World.updateFromEvent item source rse) with
      | none => pure (.ok ())
      | some event =>
        let _ ← announceRemoteState env oid event.1 event.2
        pure (.ok ())

def updateStateFromRse : CoreM V (EResult Unit) :=
  (Prog.ret (checkReplicated oid rse)).tryThen fun _ =>
    (replicatedItem oid rse sender).tryThen fun item => setReplicatedState env oid rse sender item

end

def updateStateFromRepl (rsex : ReplicationStateEventExtended V) (sender : String) :
    CoreM V (EResult Unit) :=
  match rsex with
  | .basic rse => updateStateFromRse env oid rse sender
  | .inventory node item => processRemoteInventory env (AList.insert oid item ∅) node sender true
  | .basicItem _ event => updateStateFromRse env oid event sender

end Eva4.Core
