import Eva4.Items.SourceIndex
import Eva4.Core.Sources
import Eva4.Core.TellSteps

/-!
# Steps of the calls about sources

The calls that process remote inventories and states and those that mark and destroy sources
are made of few kinds of steps: most of them leave the inventory and its sources alone, the
others are told apart by their labels.
-/

namespace Eva4.Core

open Lib Items Prog World

variable {V : Type}

/-- The inventory, its sources and the sources that are locked stay as they are. -/
structure KeepsInventory (w w' : World V) : Prop where
  inv : w'.inv = w.inv
  nextItem : w'.heap.nextItem = w.heap.nextItem
  sourceCells : w'.heap.sourceCells = w.heap.sourceCells
  nextSource : w'.heap.nextSource = w.heap.nextSource
  invProcess : w'.invProcess = w.invProcess

lemma KeepsInventory.refl (w : World V) : KeepsInventory w w :=
  ⟨rfl, rfl, rfl, rfl, rfl⟩

namespace World

def removeStep (oid : OID) (w : World V) : World V :=
  w.withMem (w.toMem.removeItem oid).2

def takeStep (sourceId sender : String) (w : World V) : World V :=
  w.withMem (w.toMem.getOrCreateSource sourceId sender).2

def appendStep [EvaCommon V] (remote : ReplicationInventoryItem V) (source : Source)
    (w : World V) : World V :=
  w.withMem (w.toMem.appendRemoteItem remote source).2

def acceptStep [EvaCommon V] (oid : OID) (rse : ReplicationStateEvent V) (sender : String)
    (w : World V) : World V :=
  (w.takeStep rse.node sender).appendStep (blankRecord oid rse.act)
    (w.toMem.getOrCreateSource rse.node sender).1

variable {w : World V}

lemma takeStep_registered (h : AList.lookup sourceId w.inv.sources = some source) :
    w.takeStep sourceId sender = w := by
  simp only [takeStep, Mem.getOrCreateSource, h, withMem]

lemma takeStep_new (h : AList.lookup sourceId w.inv.sources = none) :
    w.takeStep sourceId sender = w.withMem { inv := w.inv, heap := w.heap.allocSource } := by
  simp only [takeStep, Mem.getOrCreateSource, h]

lemma removeStep_absent (hwf : w.toMem.WellFormed) (h : w.inv.getItem oid = none) :
    w.removeStep oid = w := by
  simp only [removeStep, hwf.removeItem_absent h, withMem]

lemma removeStep_present (hwf : w.toMem.WellFormed) (h : w.inv.getItem oid = some item) :
    exists m', w.removeStep oid = w.withMem m' ∧ w.toMem.Removed oid item m' := by
  rcases hwf.removeItem h with ⟨m', heq, hm'⟩
  refine ⟨m', ?_, hm'⟩
  simp only [removeStep, heq]

lemma appendStep_invalid [EvaCommon V] (h : Mem.replState remote = .error e) :
    w.appendStep remote source = w := by
  simp only [appendStep, Mem.appendRemoteItem_invalid h, withMem]

lemma appendStep_valid [EvaCommon V] (hwf : w.toMem.WellFormed) {state : Option (ItemState V)}
    (h : Mem.replState remote = .ok state) :
    exists m', w.appendStep remote source = w.withMem m' ∧
      w.toMem.Appended (remote.item source) { state := state, enabled := remote.enabled } m' ∧
      forall node, AList.lookup node m'.inv.sources =
        match AList.lookup node w.inv.sources with
        | some stored => some stored
        | none => if source.node = node then some source else none := by
  rcases hwf.appendRemoteItem source h with ⟨m', heq, hm'⟩
  refine ⟨m', ?_, hm', ?_⟩
  · simp only [appendStep, heq]
  · intro node
    have hnew := heq
    rw [Mem.appendRemoteItem, h] at hnew
    rw [hwf.appendNew_sources hnew]
    cases AList.lookup node w.inv.sources with
    | some stored => rfl
    | none => simp [Item.node, ReplicationInventoryItem.item]

lemma setState_keepsInventory : KeepsInventory w (w.setState item st) :=
  ⟨rfl, rfl, rfl, rfl, rfl⟩

lemma syncEnabled_keepsInventory (item : Item V) (enabled : Bool) (w : World V) :
    KeepsInventory w (w.syncEnabled item enabled) := by
  unfold syncEnabled
  split
  · exact KeepsInventory.refl w
  · exact ⟨rfl, rfl, rfl, rfl, rfl⟩

lemma updateFromRecord_keepsInventory [EvaCommon V] (item : Item V)
    (remote : ReplicationInventoryItem V) (w : World V) :
    KeepsInventory w (w.updateFromRecord item remote).2 := by
  unfold updateFromRecord
  cases (w.state item).bind (newerState remote) with
  | none => exact KeepsInventory.refl w
  | some st => exact setState_keepsInventory

lemma updateFromEvent_keepsInventory (item : Item V) (source : Source)
    (rse : ReplicationStateEvent V) (w : World V) :
    KeepsInventory w (w.updateFromEvent item source rse).2 := by
  unfold updateFromEvent
  cases w.state item with
  | none => exact KeepsInventory.refl w
  | some st =>
    simp only
    split
    · exact setState_keepsInventory
    · exact KeepsInventory.refl w

lemma setSensorState_keepsInventory [EvaCommon V] (env : Env V) (item : Item V) (online : Bool)
    (ieid : IEID) (w : World V) : KeepsInventory w (w.setSensorState env item online ieid).2 := by
  unfold setSensorState
  cases w.state item with
  | none => exact KeepsInventory.refl w
  | some st => exact ⟨rfl, rfl, rfl, rfl, rfl⟩

end World

/-!
## Processing the items of a source
-/

structure KeepsRules (allowed : Held Lock -> Label V -> (World V -> World V) -> Prop) : Prop where
  keeps : forall held update, (forall w, KeepsInventory w (update w)) -> allowed held .plain update

variable {allowed : Held Lock -> Label V -> (World V -> World V) -> Prop}

lemma KeepsRules.reads (h : KeepsRules allowed) (held : Held Lock) :
    allowed held .plain fun w => w :=
  h.keeps held _ KeepsInventory.refl

lemma KeepsRules.tells (h : KeepsRules allowed) : TellRules allowed where
  tells := by
    intro held update htells
    apply h.keeps
    intro w
    have hmem := (htells w).toMem
    exact ⟨congrArg Mem.inv hmem, congrArg (fun m => m.heap.nextItem) hmem,
      congrArg (fun m => m.heap.sourceCells) hmem, congrArg (fun m => m.heap.nextSource) hmem,
      (htells w).invProcess⟩

structure SourceRules [EvaCommon V] (source : Source)
    (allowed : Held Lock -> Label V -> (World V -> World V) -> Prop) : Prop
    extends KeepsRules allowed where
  append : forall held remote,
    allowed held (.appendRemote remote source) (World.appendStep remote source)
  remove : forall held oid, allowed held (.removeRemote oid) (World.removeStep oid)

namespace SourceRules

variable [EvaCommon V]

section

variable (h : SourceRules source allowed)
include h

lemma announceRemote : (announceRemote env oid source online st).Uses allowed held := by
  cases st with
  | none => exact Uses.ret ()
  | some st =>
    refine Uses.map (Uses.atomic (h.keeps held _ ?_))
    intro w
    exact ⟨rfl, rfl, rfl, rfl, rfl⟩

lemma updateRemoteItem : (updateRemoteItem env item remote source online).Uses allowed held := by
  apply Uses.bind (Uses.modify (h.keeps held _ (syncEnabled_keepsInventory item remote.enabled)))
  intro _
  apply Uses.bind (Uses.atomic (h.keeps held _ (updateFromRecord_keepsInventory item remote)))
  intro st
  exact h.announceRemote

lemma createRemoteItem : (createRemoteItem env remote source online).Uses allowed held := by
  apply Uses.locked
  apply Uses.bind (Uses.atomic (h.append _ remote))
  intro r
  cases r with
  | error e => exact Uses.ret ()
  | ok item =>
    apply Uses.bind (Uses.read (h.reads _))
    intro st
    exact Uses.when h.announceRemote

lemma eachUntilDestroyed {f : X -> CoreM V Unit} (hf : forall x, (f x).Uses allowed held) :
    (eachUntilDestroyed source f xs).Uses allowed held := by
  induction xs with
  | nil => exact Uses.ret ()
  | cons x xs ih =>
    apply Uses.bind (Uses.read (h.reads held))
    intro destroyed
    apply Uses.ite (fun _ => Uses.ret ())
    intro _
    exact Uses.bind (hf x) fun _ => ih

lemma processKnown (existing : Table OID (Item V)) (online : Bool)
    (remote : ReplicationInventoryItem V) :
    (processKnown env existing source online remote).Uses allowed held := by
  unfold Core.processKnown
  cases AList.lookup remote.oid existing with
  | none => exact h.createRemoteItem
  | some item =>
    apply Uses.ite (fun _ => Uses.ret ())
    intro _
    apply Uses.ite
    · intro _
      exact h.updateRemoteItem
    · intro _
      exact h.createRemoteItem

lemma removeMissing (remoteInv : Table OID (ReplicationInventoryItem V)) (oid : OID) :
    (removeMissing remoteInv oid).Uses allowed held := by
  apply Uses.when
  apply Uses.map
  exact Uses.locked (Uses.atomic (h.remove _ oid))

lemma processSourceItems :
    (processSourceItems env remoteInv quick existing source).Uses allowed held := by
  apply Uses.bind (Uses.read (h.reads held))
  intro online
  cases existing with
  | none =>
    refine h.eachUntilDestroyed ?_
    intro remote
    exact Uses.when h.createRemoteItem
  | some items =>
    apply Uses.bind
    · exact Uses.when (h.eachUntilDestroyed (h.removeMissing remoteInv))
    · intro _
      exact h.eachUntilDestroyed (h.processKnown items online)

end

end SourceRules

lemma KeepsRules.setReplicatedState (h : KeepsRules allowed) :
    (setReplicatedState env oid rse sender item).Uses allowed held := by
  apply Uses.bind (Uses.read (h.reads held))
  intro state
  cases item.source with
  | none => exact Uses.ret _
  | some src =>
    apply Uses.ite (fun _ => Uses.ret _)
    intro _
    apply Uses.ite (fun _ => Uses.ret _)
    intro _
    apply Uses.bind (Uses.atomic (h.keeps held _ (updateFromEvent_keepsInventory item src rse)))
    intro event
    cases event with
    | none => exact Uses.ret _
    | some event =>
      refine Uses.map (Uses.atomic (h.keeps held _ ?_))
      intro w
      exact ⟨rfl, rfl, rfl, rfl, rfl⟩

/-!
## Calls
-/

inductive RemoteCall (V : Type) where
  | inventory (remoteInv : Table OID (ReplicationInventoryItem V)) (sourceId sender : String)
      (quick : Bool)
  | state (oid : OID) (rsex : ReplicationStateEventExtended V) (sender : String)

def RemoteCall.prog [EvaCommon V] (env : Env V) : RemoteCall V -> CoreM V Unit
  | .inventory remoteInv sourceId sender quick => do
    let _ ← processRemoteInventory env remoteInv sourceId sender quick
    pure ()
  | .state oid rsex sender => do
    let _ ← updateStateFromRepl env oid rsex sender
    pure ()

inductive SourceCall (V : Type) where
  | remote (call : RemoteCall V)
  | destroy (fuel : Nat) (sourceId : String)
  | mark (fuel : Nat) (sensorOid : Option (EResult OID)) (sourceId : String)
      (online sameHandler : Bool)

def SourceCall.prog [EvaCommon V] (env : Env V) : SourceCall V -> CoreM V Unit
  | .remote call => call.prog env
  | .destroy fuel sourceId => destroySource fuel sourceId
  | .mark fuel sensorOid sourceId online sameHandler =>
    markSourceOnline env fuel sensorOid sourceId online sameHandler

inductive RemoteStep [EvaCommon V] (env : Env V) :
    Held Lock -> Label V -> (World V -> World V) -> Prop where
  | keeps {held : Held Lock} {update : World V -> World V} :
      (forall w, KeepsInventory w (update w)) -> RemoteStep env held .plain update
  | append (held : Held Lock) (remote : ReplicationInventoryItem V) (source : Source) :
      RemoteStep env held (.appendRemote remote source) (World.appendStep remote source)
  | remove (held : Held Lock) (oid : OID) :
      RemoteStep env held (.removeRemote oid) (World.removeStep oid)
  | accept (held : Held Lock) (oid : OID) (rse : ReplicationStateEvent V)
      (sender : String) :
      RemoteStep env held (.acceptRemote oid rse sender) (World.acceptStep oid rse sender)
  | take (held : Held Lock) (sourceId sender : String) :
      RemoteStep env held (.takeSource sourceId sender) (World.takeStep sourceId sender)
  | lock (held : Held Lock) (sourceId : String) :
      RemoteStep env held (.lockSource sourceId) fun w => (w.lockSource sourceId).2
  | unlock (held : Held Lock) (sourceId : String) :
      RemoteStep env held (.unlockSource sourceId) fun w => w.unlockSource sourceId
  | markDestroyed (held : Held Lock) (source : Source) :
      RemoteStep env held (.markDestroyed source) fun w => w.markDestroyed source
  | markOnline (held : Held Lock) (sourceId : String) (online : Bool) :
      RemoteStep env held (.markOnline sourceId online)
        fun w => w.markSourceOnline sourceId online
  | listItems (held : Held Lock) (sourceId : String) :
      RemoteStep env held (.listItems sourceId) fun w => w
  | createSensor (held : Held Lock) (oid : OID) (ieid : IEID) :
      RemoteStep env held (.createSensor oid)
        fun w => w.withMem (w.toMem.createItem env.clock oid (some ieid) none).2

lemma remoteStep_keeps [EvaCommon V] (env : Env V) : KeepsRules (RemoteStep env) where
  keeps := fun _ _ h => .keeps h

lemma remoteStep_rules [EvaCommon V] (env : Env V) {source : Source} :
    SourceRules source (RemoteStep env) where
  keeps := fun _ _ h => .keeps h
  append := fun held remote => .append held remote source
  remove := .remove

variable (remoteInv : Table OID (ReplicationInventoryItem V))

section Walk

variable [EvaCommon V] {env : Env V}

lemma uses_read (f : World V -> R) : (read .plain f : CoreM V R).Uses (RemoteStep env) held :=
  Uses.read (.keeps KeepsInventory.refl)

lemma uses_processUnlocked :
    (processUnlocked env remoteInv sourceId sender quick).Uses (RemoteStep env) held := by
  apply Uses.bind
  · exact Uses.locked (Uses.atomic (.take _ sourceId sender))
  · intro found
    exact (remoteStep_rules env).processSourceItems

lemma uses_processRemoteInventory :
    (processRemoteInventory env remoteInv sourceId sender quick).Uses (RemoteStep env) held := by
  apply Uses.ite (fun _ => Uses.ret _)
  intro _
  apply Uses.ite
  · intro _
    exact Uses.map (uses_processUnlocked remoteInv)
  · intro _
    apply Uses.bind (Uses.atomic (.lock held sourceId))
    intro free
    refine Uses.ite ?_ (fun _ => Uses.ret _)
    intro _
    apply Uses.bind (uses_processUnlocked remoteInv)
    intro _
    exact Uses.map (Uses.modify (.unlock held sourceId))

lemma uses_replicatedItem : (replicatedItem oid rse sender).Uses (RemoteStep env) held := by
  apply Uses.bind (Uses.locked (uses_read _))
  intro found
  cases found with
  | some item => exact Uses.ret _
  | none =>
    refine Uses.ite ?_ (fun _ => Uses.ret _)
    intro _
    exact Uses.locked (Uses.atomic (.accept _ oid rse sender))

lemma uses_updateStateFromRse :
    (updateStateFromRse env oid rse sender).Uses (RemoteStep env) held := by
  apply Uses.tryThen (Uses.ret _)
  intro _
  apply Uses.tryThen uses_replicatedItem
  intro item
  exact (remoteStep_keeps env).setReplicatedState

lemma uses_updateStateFromRepl :
    (updateStateFromRepl env oid rsex sender).Uses (RemoteStep env) held := by
  cases rsex with
  | basic rse => exact uses_updateStateFromRse
  | inventory node item => exact uses_processRemoteInventory _
  | basicItem _ event => exact uses_updateStateFromRse

lemma uses_waitForSource : (waitForSource fuel sourceId).Uses (RemoteStep env) held := by
  induction fuel with
  | zero => exact Uses.ret false
  | succ fuel ih =>
    apply Uses.bind (Uses.atomic (.lock held sourceId))
    intro free
    exact Uses.ite (fun _ => Uses.ret true) fun _ => ih

lemma uses_removeSourceItem (oid : OID) :
    (removeSourceItem oid : CoreM V Unit).Uses (RemoteStep env) held := by
  apply Uses.bind
  · exact Uses.locked (Uses.atomic (.remove _ oid))
  · intro _
    exact Uses.ret ()

lemma uses_destroySource : (destroySource fuel sourceId).Uses (RemoteStep env) held := by
  apply Uses.bind (Uses.locked (Uses.atomic (.take _ sourceId "")))
  intro source
  apply Uses.bind (Uses.modify (.markDestroyed held source))
  intro _
  apply Uses.bind uses_waitForSource
  intro free
  apply Uses.when
  apply Uses.bind (Uses.locked (Uses.read (.listItems _ sourceId)))
  intro items
  apply Uses.bind (Uses.each uses_removeSourceItem)
  intro _
  exact Uses.modify (.unlock held sourceId)

lemma uses_findOrCreateSensor : (findOrCreateSensor env oid).Uses (RemoteStep env) held := by
  apply Uses.bind (uses_read _)
  intro found
  apply Uses.bind (Uses.atomic (.keeps fun w => ⟨rfl, rfl, rfl, rfl, rfl⟩))
  intro ieid
  cases found with
  | some item => exact Uses.ret _
  | none =>
    exact Uses.tryThen (Uses.atomic (.createSensor held oid ieid))
      fun _ => Uses.ret _

lemma uses_setSourceSensor {sensorOid : EResult OID} :
    (setSourceSensor env sensorOid online).Uses (RemoteStep env) held := by
  apply Uses.locked
  apply Uses.tryThen (Uses.ret _)
  intro oid
  apply Uses.tryThen uses_findOrCreateSensor
  intro sensor
  apply Uses.bind (Uses.atomic
    (.keeps (setSensorState_keepsInventory env sensor.1 online sensor.2)))
  intro st
  cases st with
  | none => exact Uses.ret _
  | some st =>
    exact Uses.map ((remoteStep_keeps env).tells.processNewState)

lemma uses_markSourceOnline {sensorOid : Option (EResult OID)} :
    (markSourceOnline env fuel sensorOid sourceId online sameHandler).Uses (RemoteStep env)
      held := by
  apply Uses.ite
  · intro _
    apply Uses.bind (Uses.locked (Uses.modify (.markOnline _ sourceId online)))
    intro _
    cases sensorOid with
    | none => exact Uses.ret ()
    | some oid => exact Uses.map uses_setSourceSensor
  · intro _
    exact uses_destroySource

lemma uses_sourceCall (call : SourceCall V) : (call.prog env).Uses (RemoteStep env) held := by
  cases call with
  | remote call =>
    cases call with
    | inventory remoteInv sourceId sender quick =>
      exact Uses.map (uses_processRemoteInventory remoteInv)
    | state oid rsex sender =>
      exact Uses.map uses_updateStateFromRepl
  | destroy fuel sourceId => exact uses_destroySource
  | mark fuel sensorOid sourceId online sameHandler =>
    exact uses_markSourceOnline

end Walk

def remoteSensor (id : String) : ReplicationInventoryItem (Option Int) where
  oid := { kind := .sensor, fullId := id }
  act := none
  enabled := true
  ieid := some { bootId := 1, t := 1 }
  metaValue := none
  status := some 1
  value := none
  t := some (.fin 1)

def sensorInventory (id : String) : RemoteCall (Option Int) :=
  .inventory (AList.insert (remoteSensor id).oid (remoteSensor id) ∅) "n" "svc" true

end Eva4.Core
