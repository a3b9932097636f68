import Eva4.Items.ItemMap
import Eva4.Items.ItemState

/-!
# The inventory

The inventory keeps the item map and two further indexes: the items of each source
and the sources themselves.  Its operations create items, which are shared objects,
so they run on an inventory together with the heap those objects live in.
-/

namespace Eva4.Items

open Lib

variable {V : Type}

structure Inventory (V : Type) where
  items : ItemMap V
  itemsBySource : Table (Option String) (Table OID (Item V))
  sources : Table String Source

/-- The cells of the shared objects and the number of clock readings made so far. -/
structure Heap (V : Type) where
  cells : Nat -> ItemCell V
  nextItem : Nat
  sourceCells : Nat -> SourceCell
  nextSource : Nat
  tick : Nat

structure Mem (V : Type) where
  inv : Inventory V
  heap : Heap V

structure Clock where
  monotonicNs : Nat -> Nat
  timeNow : Nat -> F64

def Inventory.new : Inventory V where
  items := ItemMap.empty
  itemsBySource := ∅
  sources := ∅

def Heap.new : Heap V where
  cells := fun _ => { state := none, enabled := true }
  nextItem := 0
  sourceCells := fun _ => { online := true, destroyed := false }
  nextSource := 0
  tick := 0

def Mem.new : Mem V where
  inv := Inventory.new
  heap := Heap.new

/-!
## Configurations
-/

structure ItemConfigData (V : Type) where
  oid : OID
  metaValue : Option V := none
  enabled : Bool := true
  logic : Option Logic := none
  action : Option (ActionConfig V) := none
  status : Option ItemStatus := none
  value : Option V := none
  t : Option F64 := none

/-- The configuration of an item as it is stored and loaded, with its state if it has one. -/
structure ItemRecord (V : Type) where
  oid : OID
  state : Option (ItemState V)
  metaValue : Option V
  enabled : Bool
  logic : Option Logic
  action : Option (ActionConfig V)

def ItemConfigData.item (config : ItemConfigData V) : Item V where
  ptr := 0
  oid := config.oid
  metaValue := config.metaValue
  source := none
  logic := config.logic
  action := config.action

def ItemRecord.item (data : ItemRecord V) : Item V where
  ptr := 0
  oid := data.oid
  metaValue := data.metaValue
  source := none
  logic := data.logic
  action := data.action

def ReplicationInventoryItem.item (remote : ReplicationInventoryItem V)
    (source : Source) : Item V where
  ptr := 0
  oid := remote.oid
  metaValue := remote.metaValue
  source := some source
  logic := none
  action := none

def senderAction (oid : OID) (sender : String) : Option (ActionConfig V) :=
  if oid.kind = .unit then some { svc := sender, timeout := none, config := none }
  else none

namespace ItemConfigData

def blank (oid : OID) (sender : String) : ItemConfigData V where
  oid := oid
  action := senderAction oid sender

def fromRawEvent (oid : OID) (ev : RawStateEvent V) (sender : String) : ItemConfigData V where
  oid := oid
  action := senderAction oid sender
  status := some ev.status
  value := ev.value
  t := ev.t

end ItemConfigData

def unsupportedField (name : String) : Error where
  kind := .invalidData
  message := "unsupported field: " ++ name

def checkItemData (oid : OID) (logic : Option Logic)
    (action : Option (ActionConfig V)) : EResult Unit :=
  match oid.kind with
  | .unit => .ok ()
  | .sensor | .lvar => if action.isSome then .error (unsupportedField "action") else .ok ()
  | .lMacro => if logic.isSome then .error (unsupportedField "logic") else .ok ()

/-!
## Shared objects
-/

namespace Heap

variable (h : Heap V)

def ieid (clock : Clock) (bootId : Nat) : IEID where
  bootId := bootId
  t := clock.monotonicNs h.tick

def now (clock : Clock) : F64 :=
  clock.timeNow h.tick

def advance : Heap V :=
  { h with tick := h.tick + 1 }

def allocItem (cell : ItemCell V) : Heap V :=
  { h with
    cells := Function.update h.cells h.nextItem cell
    nextItem := h.nextItem + 1 }

def setCell (ptr : Nat) (cell : ItemCell V) : Heap V :=
  { h with cells := Function.update h.cells ptr cell }

def setState (ptr : Nat) (state : ItemState V) : Heap V :=
  h.setCell ptr { h.cells ptr with state := some state }

def setEnabled (ptr : Nat) (enabled : Bool) : Heap V :=
  h.setCell ptr { h.cells ptr with enabled := enabled }

def allocSource : Heap V :=
  { h with
    sourceCells := Function.update h.sourceCells h.nextSource
      { online := true, destroyed := false }
    nextSource := h.nextSource + 1 }

end Heap

variable (m : Mem V)

/-- The source registered under the id, or a new one that is not registered. -/
def Mem.getOrCreateSource (sourceId svc : String) : Source × Mem V :=
  match AList.lookup sourceId m.inv.sources with
  | some source => (source, m)
  | none =>
    ({ ptr := m.heap.nextSource, node := sourceId, svc := svc },
      { m with heap := m.heap.allocSource })

/-!
## Operations of the indexes
-/

namespace Inventory

variable (inv : Inventory V)

def getItem (oid : OID) : Option (Item V) :=
  inv.items.get oid

def getItemsBySource (sourceId : String) : Option (Table OID (Item V)) :=
  AList.lookup (some sourceId) inv.itemsBySource

def getItemsByMask [EvaCommon V] (mask : OIDMask)
    (filter : Filter) (includeStateless : Bool) : List (Item V) :=
  inv.items.getByMask mask filter includeStateless

/-- Puts the item into the index of its source, with the source if it is new. -/
def indexItem (item : Item V) : Inventory V :=
  match AList.lookup item.node inv.itemsBySource with
  | some items =>
    { inv with
      itemsBySource :=
        AList.insert item.node (AList.insert item.oid item items) inv.itemsBySource }
  | none =>
    { inv with
      itemsBySource :=
        AList.insert item.node (AList.insert item.oid item ∅) inv.itemsBySource
      sources := match item.source with
        | some source => AList.insert source.node source inv.sources
        | none => inv.sources }

def appendItem (item : Item V) (replace : Bool) : EResult (Item V) × Inventory V :=
  match inv.items.append item replace with
  | (.error e, items) => (.error e, { inv with items := items })
  | (.ok (), items) => (.ok item, { inv with items := items }.indexItem item)

/-- Takes the item out of the index of its source, with the source if it was the last one. -/
def unindexItem (item : Item V) : Inventory V :=
  match AList.lookup item.node inv.itemsBySource with
  | some items =>
    if (AList.erase item.oid items).entries.isEmpty then
      { inv with
        itemsBySource := AList.erase item.node inv.itemsBySource
        sources := match item.node with
          | some node => AList.erase node inv.sources
          | none => inv.sources }
    else
      { inv with
        itemsBySource :=
          AList.insert item.node (AList.erase item.oid items) inv.itemsBySource }
  | none => inv

def removeItem (oid : OID) : Option (Item V) × Inventory V :=
  match inv.items.remove oid with
  | (some item, items) => (some item, { inv with items := items }.unindexItem item)
  | (none, items) => (none, { inv with items := items })

end Inventory

/-!
## Operations that create items
-/

namespace Mem

def appendItem (m : Mem V) (item : Item V) (replace : Bool) : EResult (Item V) × Mem V :=
  match m.inv.appendItem item replace with
  | (r, inv) => (r, { m with inv := inv })

def removeItem (m : Mem V) (oid : OID) : Option (Item V) × Mem V :=
  match m.inv.removeItem oid with
  | (r, inv) => (r, { m with inv := inv })

def appendNew (item : Item V) (cell : ItemCell V) (replace : Bool) : EResult (Item V) × Mem V :=
  { m with heap := m.heap.allocItem cell }.appendItem
    { item with ptr := m.heap.nextItem } replace

variable (clock : Clock) (bootId : Nat)

def recordState [EvaCommon V]
    (data : ItemRecord V) (state : Option (ItemState V)) : Option (ItemState V) :=
  match state with
  | some st => some (if data.oid.kind = .unit then { st with act := some 0 } else st)
  | none =>
    match data.state with
    | some st => some st
    | none =>
      if data.oid.kind = .lMacro then none
      else some (ItemState.new0 (m.heap.ieid clock bootId) data.oid.kind (m.heap.now clock))

def appendItemFromValue [EvaCommon V]
    (oid : OID) (configValue : EResult (ItemRecord V)) (state : Option (ItemState V)) :
    EResult (Item V) × Mem V :=
  match configValue with
  | .error e => (.error e, m)
  | .ok data =>
    if data.oid ≠ oid then (.error { kind := .invalidData, message := "oid does not match" }, m)
    else
      match checkItemData data.oid data.logic data.action with
      | .error e => (.error e, m)
      | .ok () =>
        { m with heap := m.heap.advance }.appendNew data.item
          { state := m.recordState clock bootId data state, enabled := data.enabled } true

def getOrGenerateState [EvaCommon V] (oid : OID) : ItemState V :=
  match (m.inv.getItem oid).bind fun item => (m.heap.cells item.ptr).state with
  | some st => st
  | none => ItemState.new0 (m.heap.ieid clock bootId) oid.kind (m.heap.now clock)

def configState [EvaCommon V] (config : ItemConfigData V) : Option (ItemState V) :=
  if config.oid.kind = .lMacro then none
  else
    let state := m.getOrGenerateState clock bootId config.oid
    some
      { state with
        act := if config.oid.kind = .unit then some 0 else state.act
        status := config.status.getD state.status
        value := config.value.getD state.value
        t := config.t.getD state.t }

def appendItemFromConfigData [EvaCommon V] (config : ItemConfigData V) : EResult (Item V) × Mem V :=
  match checkItemData config.oid config.logic config.action with
  | .error e => (.error e, m)
  | .ok () =>
    { m with heap := m.heap.advance }.appendNew config.item
      { state := m.configState clock bootId config, enabled := config.enabled } true

def createSource : Option (String × String) -> Option Source × Mem V
  | some (sourceId, svc) =>
    ((m.getOrCreateSource sourceId svc).1, (m.getOrCreateSource sourceId svc).2)
  | none => (none, m)

def createItem [EvaCommon V] (oid : OID) (ieid : Option IEID) (source : Option (String × String)) :
    EResult (Item V) × Mem V :=
  let (src, m') := m.createSource source
  let data : Item V :=
    { ptr := 0, oid := oid, metaValue := none, source := src, logic := none, action := none }
  if oid.kind = .lMacro then m'.appendNew data { state := none, enabled := true } false
  else
    match ieid with
    | none => (.error { kind := .invalidData, message := "IEID not specified" }, m')
    | some i =>
      { m' with heap := m'.heap.advance }.appendNew data
        { state := some (ItemState.new0 i oid.kind (m'.heap.now clock)), enabled := true } false

def replState [EvaCommon V] (i : ReplicationInventoryItem V) : EResult (Option (ItemState V)) :=
  if i.oid.kind = .lMacro then .ok none
  else
    match i.ieid with
    | none => .error { kind := .invalidData, message := "IEID missing (" ++ i.oid.asStr ++ ")" }
    | some ieid =>
      match i.t with
      | none =>
        .error
          { kind := .invalidData, message := "Set time missing (" ++ i.oid.asStr ++ ")" }
      | some t =>
        .ok (some
          { status := i.status.getD 0, value := i.value.getD default, act := i.act,
            ieid := ieid, t := t })

def appendRemoteItem [EvaCommon V] (remote : ReplicationInventoryItem V)
    (source : Source) : EResult (Item V) × Mem V :=
  match replState remote with
  | .error e => (.error e, m)
  | .ok state => m.appendNew (remote.item source) { state := state, enabled := remote.enabled } true

end Mem

end Eva4.Items
