import Eva4.Core.LocalItems

/-!
# Raw state events

A raw event sets the state of a local item.  A modified item may set other items, by
mask or with the delta of its value, and an item that does not exist may be created
from the event.  Events that were caused by another event cause no further ones, so
the processing of events is defined twice: with and without follow-ups.
-/

namespace Eva4.Core

open Lib Items

variable {V : Type} [EvaCommon V]

/-!
## Deltas
-/

def calcDelta (ops : FloatOps) (current prev : F64) (onNegative : OnNegativeDelta) : F64 :=
  match onNegative with
  | .overflow floor ceil =>
    if F64.lt current prev then ops.add (ops.sub ceil prev) (ops.sub current floor)
    else ops.sub current prev
  | _ => ops.sub current prev

def valueDelta (clause : SetOtherValueDelta) (value : V) (st : ItemState V) (now : F64) :
    Option F64 :=
  let ops := EvaCommon.floatOps (V := V)
  if st.value == EvaCommon.unit then none
  else
    let delta := calcDelta ops ((EvaCommon.tryF64 value).getD F64.zero)
      ((EvaCommon.tryF64 st.value).getD F64.zero) clause.onNegative
    match clause.period with
    | some period =>
      if F64.lt F64.zero (ops.sub now st.t) then
        some (ops.mul (ops.div delta period) (ops.sub now st.t))
      else none
    | none => some delta

def rawDelta (raw : RawStateEvent V) (st : ItemState V) (now : F64) : Option F64 :=
  match raw.onModified with
  | some (.setOtherValueDelta clause) =>
    match raw.value with
    | some value => valueDelta clause value st now
    | none => none
  | _ => none

def deltaEv (delta : F64) (force : Force) (t : Option F64) : RawStateEvent V where
  status := 1
  value := some (EvaCommon.ofF64 delta)
  force := force
  t := t

def applyDelta (clause : SetOtherValueDelta) (delta : F64) (force : Force)
    (t : Option F64) : Option (RawStateEvent V) :=
  if F64.lt delta F64.zero then
    match clause.onNegative with
    | .skip => none
    | .reset => some (deltaEv F64.zero force t)
    | .process | .overflow _ _ => some (deltaEv delta force t)
  else some (deltaEv delta force t)

/-- The same for a target that exists, which may be in an error state. -/
def applyDeltaTo (st : ItemState V) (clause : SetOtherValueDelta) (delta : F64)
    (force : Force) (t : Option F64) : Option (RawStateEvent V) :=
  if st.status ≤ itemStatusError then
    match clause.onError with
    | .skip => none
    | .reset => some (deltaEv F64.zero force t)
    | .process => applyDelta clause delta force t
  else applyDelta clause delta force t

/-!
## One item
-/

structure RawOutcome (V : Type) where
  modified : Bool
  delta : Option F64
  state : ItemState V

/-- Lvars with status zero are not set unless the event is forced. -/
def rawIgnored (item : Item V) (raw : RawStateEvent V) (st : ItemState V) : Bool :=
  decide (item.oid.kind = .lvar) && decide (st.status = 0) && decide (raw.force = .none)

variable (env : Env V)

/-- Applies an event to the state of an item; no outcome if nothing is to be announced. -/
def World.applyRaw (item : Item V) (raw : RawStateEvent V) (w : World V) :
    Option (RawOutcome V) × World V :=
  match w.state item with
  | none => (none, w)
  | some st =>
    if rawIgnored item raw st then (none, w)
    else
      let now := w.heap.now env.clock
      let r := st.setFromRaw raw item.logic (w.heap.ieid env.clock env.bootId) now
      (if r.1 || raw.force != .none then
          some { modified := r.1, delta := rawDelta raw st now, state := r.2 }
        else none,
        (w.setState item r.2).advance)

def applyAndAnnounce (item : Item V) (raw : RawStateEvent V) (lock : Bool) :
    CoreM V (Option (RawOutcome V)) := do
  match ← Prog.atomic (.applyRaw item raw lock) (World.applyRaw env item raw) with
  | none => pure none
  | some outcome =>
    processNewState env item.oid outcome.state (dbState env item.oid outcome.state)
    pure (some outcome)

def remoteItemBusy (oid : OID) : Error where
  kind := .busy
  message := "unable to update item " ++ oid.asStr ++ " from raw event: remote"

def processRawStateWith
    (followUp : OnModified V -> RawOutcome V -> CoreM V (EResult Unit)) (env : Env V)
    (item : Item V) (raw : RawStateEvent V) (lock : Bool) : CoreM V (EResult Unit) :=
  if item.source.isSome then pure (.error (remoteItemBusy item.oid))
  else do
    let enabled ← readEnabled item
    if !enabled && raw.force != .full then pure (.ok ())
    else
      let state ← readState item
      if state.isNone then pure (.ok ())
      else
        let outcome ← withStateProcessor lock (applyAndAnnounce env item raw lock)
        match raw.onModified, outcome with
        | some clause, some o => followUp clause o
        | _, _ => pure (.ok ())

def processRawStatePlain (item : Item V) (raw : RawStateEvent V)
    (lock : Bool) : CoreM V Unit := do
  let _ ← processRawStateWith (fun _ _ => pure (.ok ())) env item raw lock
  pure ()

/-!
## Automatic creation
-/

def autoCreateItemFromRawEmpty (oid : OID) (sender : String) : CoreM V Unit :=
  Prog.when (env.autoCreate.allowed sender) do
    let _ ← deployLocalItems env [ItemConfigData.blank oid sender] true
    pure ()

/-- Events with time zero, which stands for not modified, create nothing. -/
def timeIsZero (t : Option F64) : Bool :=
  match t with
  | some t => F64.eq t F64.zero
  | none => false

def autoCreateItemFromRaw (oid : OID) (raw : RawStateEvent V) (sender : String) : CoreM V Unit :=
  Prog.when (!timeIsZero raw.t) do
    let _ ← deployLocalItems env [ItemConfigData.fromRawEvent oid raw sender] true
    pure ()

def autoCreateItemFromRawBulk (raw : List (RawStateBulkEvent V))
    (sender : String) (lock : Bool) : CoreM V Unit := do
  let _ ← deployLocalItems env
    (raw.map fun r => ItemConfigData.fromRawEvent r.oid r.raw sender) lock
  pure ()

/-!
## Follow-ups of modified items
-/

def setOtherByMask (raw : RawStateEvent V) (mask : OIDMask) : CoreM V Unit :=
  Prog.locked .inventory .shared do
    let items ← Prog.read .plain fun w =>
      w.inv.getItemsByMask mask { node := some .localNode } false
    Prog.each (fun item => processRawStatePlain env item raw false) items

def setDeltaTarget (clause : SetOtherValueDelta) (delta : F64)
    (force : Force) (t : Option F64) (sender : String) : CoreM V Bool :=
  Prog.locked .inventory .shared do
    match ← Prog.read (.deltaLookup clause delta t sender)
        (fun w : World V => w.inv.getItem clause.oid) with
    | none => pure false
    | some item =>
      let state ← readState item
      match state.bind fun st => applyDeltaTo st clause delta force t with
      | none => pure true
      | some raw =>
        processRawStatePlain env item raw false
        pure true

def setOtherValueDelta (clause : SetOtherValueDelta) (delta : F64)
    (force : Force) (t : Option F64) (sender : String) : CoreM V Unit := do
  let found ← setDeltaTarget env clause delta force t sender
  Prog.when (!found && env.autoCreate.allowed sender)
    (match applyDelta clause delta force t with
      | none => pure ()
      | some raw => autoCreateItemFromRaw env clause.oid raw sender)

def processModified (clause : OnModified V) (modified : Bool)
    (force : Force) (delta : Option F64) (t : Option F64) (sender : String) :
    CoreM V (EResult Unit) := do
  (match clause with
    | .setOther o =>
      Prog.when modified
        (Prog.each (setOtherByMask env
          { status := o.status, value := o.value, force := force, t := t }) o.oid)
    | .setOtherValueDelta o =>
      match delta with
      | none => pure ()
      | some delta => setOtherValueDelta env o delta force t sender : CoreM V Unit)
  pure (.ok ())

def processRawState (item : Item V) (raw : RawStateEvent V) (lock : Bool)
    (sender : String) : CoreM V (EResult Unit) :=
  processRawStateWith
    (fun clause o => processModified env clause o.modified raw.force o.delta raw.t sender)
    env item raw lock

/-!
## Single events and bulk frames
-/

def updateStateFromRaw (oid : OID) (raw : RawStateEvent V)
    (sender : String) : CoreM V (EResult Unit) :=
  if oid.kind = .lMacro then pure (.error { kind := .notImplemented, message := errMsgStateLmacro })
  else do
    match ← Prog.locked .inventory .shared (getItem oid) with
    | some item => processRawState env item raw true sender
    | none =>
      if env.autoCreate.allowed sender then
        autoCreateItemFromRaw env oid raw sender
        pure (.ok ())
      else pure (.error { kind := .resourceNotFound, message := oid.asStr })

def bulkToProcess (inv : Inventory V) (raw : List (RawStateBulkEvent V)) :
    List (Item V × RawStateEvent V) :=
  (raw.filter fun r => decide (r.oid.kind ≠ .lMacro)).filterMap fun r =>
    (inv.getItem r.oid).map fun item => (item, r.raw)

def bulkToCreate (inv : Inventory V) (raw : List (RawStateBulkEvent V))
    (sender : String) : List (RawStateBulkEvent V) :=
  (raw.filter fun r => decide (r.oid.kind ≠ .lMacro)).filter fun r =>
    (inv.getItem r.oid).isNone && env.autoCreate.allowed sender

def updateStateFromRawBulk (raw : List (RawStateBulkEvent V))
    (sender : String) : CoreM V Unit := do
  let found ← Prog.locked .inventory .shared
    (Prog.read (.bulkLookup raw sender) fun w =>
      (bulkToProcess w.inv raw, bulkToCreate env w.inv raw sender))
  Prog.locked .stateProcessor .exclusive do
    Prog.each (fun e => do
      let _ ← processRawState env e.1 e.2 false sender
      pure ()) found.1
    Prog.when (!found.2.isEmpty) (autoCreateItemFromRawBulk env found.2 sender false)

end Eva4.Core
