import Eva4.Core.World

/-!
# Administration of local items

Local items are created, deployed from configurations, enabled or disabled, destroyed
by mask and undeployed by OID.  A deployment into the inventory database appends and
saves all items before it announces the first one, a deployment into the registry
finishes one item after the other.
-/

namespace Eva4.Core

open Lib Items

variable {V : Type} [EvaCommon V]

def withStateProcessor {R : Type} (lock : Bool) (p : CoreM V R) : CoreM V R :=
  if lock then Prog.locked .stateProcessor .exclusive p else p

variable (env : Env V)

def announceItem (item : Item V) : CoreM V Unit := do
  match ← readState item with
  | none => pure ()
  | some st => processNewState env item.oid st (dbState env item.oid st)

/-- The event id a new item gets; lmacros have none. -/
def newItemIeid (oid : OID) : CoreM V (Option IEID) :=
  if oid.kind = .lMacro then pure none
  else do
    let ieid ← generateIeid env
    pure (some ieid)

def readConfig (item : Item V) : CoreM V (EResult (ItemRecord V)) :=
  Prog.read .plain fun w => itemConfig item (w.enabled item)

def createLocalItem (oid : OID) : CoreM V (EResult (Item V)) := do
  let ieid ← newItemIeid env oid
  (Prog.locked .inventory .exclusive
      (onMem (.createLocal oid) fun m => m.createItem env.clock oid ieid none)).tryThen fun item =>
    (readConfig item).tryThen fun config =>
      (saveItemConfig env item.oid config).tryThen fun _ => do
        announceItem env item
        pure (.ok item)

/-!
## Deployment
-/

/--
Appends one configuration with the inventory locked.  The state of the item it replaces
is copied first; a task that holds this item can still change it before the append.
-/
def appendConfig (config : ItemConfigData V) : CoreM V (EResult (Item V)) :=
  Prog.locked .inventory .exclusive
    (match checkItemData config.oid config.logic config.action with
      | .error e => pure (.error e)
      | .ok () => do
        let state ← Prog.atomic (.copyState config) fun w =>
          (w.toMem.configState env.clock env.bootId config, w.advance)
        onMem (.append config state) fun m =>
          m.appendNew config.item { state := state, enabled := config.enabled } true)

def appendConfigs (env : Env V) :
    List (ItemConfigData V) -> CoreM V (EResult (List (OID × ItemRecord V)))
  | [] => pure (.ok [])
  | c :: cs =>
    (appendConfig env c).tryThen fun item =>
      (readConfig item).tryThen fun config =>
        (appendConfigs env cs).tryThen fun configs => pure (.ok ((item.oid, config) :: configs))

def announceAndPush (item : Item V) : CoreM V Unit := do
  match ← readState item with
  | none => pure ()
  | some st =>
    processNewState env item.oid st none
    match dbState env item.oid st with
    | none => pure ()
    | some db => Prog.modify .plain fun w => w.send (.pushState item.oid db)

def announceDeployed (lock : Bool) (oid : OID) : CoreM V Unit :=
  Prog.locked .inventory .shared do
    match ← getItem oid with
    | none => pure ()
    | some item =>
      let state ← readState item
      Prog.when state.isSome (withStateProcessor lock (announceAndPush env item))

def deployToDb (configs : List (ItemConfigData V)) (lock : Bool) : CoreM V (EResult Unit) :=
  (appendConfigs env configs).tryThen fun saved =>
    (saveItemsBulk env saved).tryThen fun _ => do
      Prog.each (announceDeployed env lock) (saved.map Prod.fst)
      pure (.ok ())

def deployToRegistry (lock : Bool) (c : ItemConfigData V) : CoreM V (EResult Unit) :=
  (appendConfig env c).tryThen fun item =>
    (readConfig item).tryThen fun config =>
      (saveItemConfig env item.oid config).tryThen fun _ => do
        let state ← readState item
        Prog.when state.isSome (withStateProcessor lock (announceItem env item))
        pure (.ok ())

def deployLocalItems (configs : List (ItemConfigData V)) (lock : Bool) : CoreM V (EResult Unit) :=
  if env.inventoryDb then deployToDb env configs lock
  else Prog.tryEach (deployToRegistry env lock) configs

/-!
## Destruction
-/

def removeItem (oid : OID) : CoreM V (Option (Item V)) :=
  Prog.locked .inventory .exclusive (onMem (.removeLocal oid) fun m => m.removeItem oid)

def destroyInventoryItem (oid : OID) : CoreM V Unit :=
  Prog.modify (.destroyStored oid) fun w => (w.send (.destroyItem oid)).call

def destroyItem (item : Item V) : CoreM V Unit := do
  let _ ← removeItem item.oid
  Prog.modify .plain fun w => w.unscheduleSave item.oid
  destroyInventoryItem item.oid

def destroyLocalItems (mask : OIDMask) : CoreM V Unit := do
  let items ← Prog.locked .inventory .shared
    (Prog.read .plain fun w => w.inv.getItemsByMask mask { node := some .localNode } true)
  Prog.each destroyItem items

def parseOids : List (EResult OID) -> EResult (List OID)
  | [] => .ok []
  | .error e :: _ => .error e
  | .ok oid :: rest =>
    match parseOids rest with
    | .error e => .error e
    | .ok oids => .ok (oid :: oids)

def removeItems : List OID -> CoreM V (List OID)
  | [] => pure []
  | oid :: oids => do
    let item ← removeItem oid
    Prog.when item.isSome (Prog.modify .plain fun w => w.unscheduleSave oid)
    let removed ← removeItems oids
    pure (if item.isSome then oid :: removed else removed)

def undeployFromDb (oids : List OID) : CoreM V Unit := do
  let removed ← removeItems oids
  Prog.modify (.destroyAllStored removed) fun w => (w.send (.destroyItems removed)).call

def undeployFromRegistry (oid : OID) : CoreM V Unit := do
  let item ← removeItem oid
  Prog.when item.isSome (destroyInventoryItem oid)
  Prog.modify .plain fun w => w.unscheduleSave oid

def undeployLocalItems (configs : List (EResult OID)) : CoreM V (EResult Unit) :=
  (Prog.ret (parseOids configs)).tryThen fun oids => do
    (if env.inventoryDb then undeployFromDb oids
    else Prog.each undeployFromRegistry oids : CoreM V Unit)
    pure (.ok ())

/-!
## Enabling and disabling
-/

def World.setLocalEnabled (w : World V) (mask : OIDMask) (value : Bool) :
    List (OID × ItemRecord V) × World V :=
  let items := (w.inv.getItemsByMask mask {} true).filter fun item => item.source.isNone
  (items.filterMap fun item =>
      match itemConfig item value with
      | .ok config => some (item.oid, config)
      | .error _ => none,
    items.foldl (fun w item => w.setEnabled item value) w)

def setLocalItemsEnabled (mask : OIDMask) (value : Bool) : CoreM V (EResult Unit) := do
  let configs ← Prog.locked .inventory .shared
    (Prog.atomic (.enableLocal mask value) fun w => w.setLocalEnabled mask value)
  Prog.each (fun c => do
    let _ ← saveItemConfig env c.1 c.2
    pure ()) configs
  pure (.ok ())

end Eva4.Core
