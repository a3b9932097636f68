import Eva4.Core.RawState

/-!
# Actions and lvar operations

The launch of an action on a local item raises its action counter, the completion of a
unit action lowers it again; both hold the inventory lock while they wait for the state
processor lock.  Lvar operations set the state of an lvar and take no state processor
lock.
-/

namespace Eva4.Core

open Lib Items

variable {V : Type} [EvaCommon V] (env : Env V)

def World.mutateState (item : Item V)
    (f : ItemState V -> IEID -> F64 -> ItemState V) (w : World V) :
    Option (ItemState V) × World V :=
  match w.state item with
  | none => (none, w)
  | some st =>
    let st' := f st (w.heap.ieid env.clock env.bootId) (w.heap.now env.clock)
    (some st', (w.setState item st').advance)

/-!
## Actions
-/

inductive ActionParams (V : Type) where
  | unit (value : V)
  | lMacro (args : V)

structure Action (V : Type) where
  oid : OID
  params : ActionParams V
  timeout : Option F64
  config : Option V
  node : Option String
  target : String

variable (oid : OID) (params : Option (ActionParams V))

/-- The parameters have to fit the item, none of them toggle a unit. -/
def checkActionParams : EResult Unit :=
  match params with
  | some (.lMacro _) =>
    if oid.kind = .lMacro then .ok ()
    else .error { kind := .invalidData, message := "item is not a macro" }
  | _ =>
    if oid.kind = .unit then .ok ()
    else .error { kind := .invalidData, message := "item is not a unit" }

def toggleValue (st : ItemState V) : V :=
  match EvaCommon.tryI64 st.value with
  | some n => EvaCommon.ofU8 (if n ≤ 0 then 1 else 0)
  | none => EvaCommon.ofU8 1

def actionParams (item : Item V) (params : Option (ActionParams V)) :
    CoreM V (EResult (ActionParams V)) :=
  match params with
  | some p => pure (.ok p)
  | none =>
    Prog.read .plain fun w =>
      match w.state item with
      | some st => .ok (.unit (toggleValue st))
      | none =>
        .error
          { kind := .accessDenied, message := oid.asStr ++ " has no state to toggle" }

def countLaunch (env : Env V) (item : Item V) : CoreM V (EResult Unit) :=
  Prog.locked .stateProcessor .exclusive do
    match ← Prog.atomic (.countLaunch item.oid) (World.mutateState env item ItemState.actIncr) with
    | none => pure (.ok ())
    | some st => announceLocalState env item.oid st

def createAction (item : Item V) (params : ActionParams V) : CoreM V (EResult (Action V)) :=
  match item.source with
  | some source =>
    pure (.ok
      { oid := oid, params := params, timeout := none, config := none,
        node := some source.node, target := source.svc })
  | none =>
    match item.action with
    | none =>
      pure (.error
        { kind := .failed, message := oid.asStr ++ " action not configured" })
    | some config =>
      (countLaunch env item).tryThen fun _ =>
        pure (.ok
          { oid := oid, params := params, timeout := config.timeout,
            config := config.config, node := none, target := config.svc })

def launchAction : CoreM V (EResult (Action V)) :=
  (Prog.ret (checkActionParams oid params)).tryThen fun _ =>
    Prog.locked .inventory .shared do
      match ← getItem oid with
      | none =>
        pure (.error
          { kind := .resourceNotFound, message := oid.asStr ++ " not found" })
      | some item =>
        let enabled ← readEnabled item
        if !enabled then
          pure (.error
            { kind := .accessDenied, message := oid.asStr ++ " is disabled" })
        else (actionParams oid item params).tryThen fun p => createAction env oid item p

def countCompletion (env : Env V) (item : Item V) : CoreM V Unit :=
  Prog.locked .stateProcessor .exclusive do
    match ← Prog.atomic (.countCompletion item.oid)
        (World.mutateState env item ItemState.actDecr) with
    | none => pure ()
    | some st =>
      let _ ← announceLocalState env item.oid st
      pure ()

/-- Lowers the action counter of a unit that is still there and still local. -/
def completeAction : CoreM V Unit :=
  Prog.when (oid.kind = .unit)
    (Prog.locked .inventory .shared do
      match ← getItem oid with
      | none => pure ()
      | some item => Prog.when item.source.isNone (countCompletion env item))

def action : CoreM V (EResult (Action V)) :=
  (launchAction env oid params).tryThen fun a => do
    Prog.when a.node.isNone (completeAction env oid)
    pure (.ok a)

/-!
## Lvar operations
-/

inductive LvarOp (V : Type) where
  | set (status : Option ItemStatus) (value : Option V)
  | reset
  | clear
  | toggle
  | increment
  | decrement

def i64Max : Int := 9223372036854775807

def i64Min : Int := -9223372036854775808

def lvarNumber (st : ItemState V) : Int :=
  (EvaCommon.tryI64 st.value).getD 0

def lvarNext (op : LvarOp V) (st : ItemState V) (ieid : IEID) (now : F64) :
    EResult (ItemState V × Option V) :=
  match op with
  | .set status value => .ok (st.forceSetState status value ieid now, none)
  | .reset => .ok (st.forceSetState (some 1) none ieid now, none)
  | .clear => .ok (st.forceSetState (some 0) none ieid now, none)
  | .toggle => .ok (st.forceSetState (some (if st.status = 0 then 1 else 0)) none ieid now, none)
  | .increment =>
    if lvarNumber st = i64Max then .error { kind := .invalidData, message := "value too big" }
    else
      let value := EvaCommon.ofI64 (lvarNumber st + 1)
      .ok (st.forceSetValue value ieid now, some value)
  | .decrement =>
    if lvarNumber st = i64Min then .error { kind := .invalidData, message := "value too small" }
    else
      let value := EvaCommon.ofI64 (lvarNumber st - 1)
      .ok (st.forceSetValue value ieid now, some value)

def lvarHasNoState : Error where
  kind := .core
  message := "Lvar " ++ oid.asStr ++ " has no state"

def World.applyLvarOp (item : Item V) (op : LvarOp V) (w : World V) :
    EResult (ItemState V × Option V) × World V :=
  match w.state item with
  | none => (.error (lvarHasNoState item.oid), w)
  | some st =>
    match lvarNext op st (w.heap.ieid env.clock env.bootId) (w.heap.now env.clock) with
    | .error e => (.error e, w.advance)
    | .ok r => (.ok r, (w.setState item r.1).advance)

def getOrCreateLvar (source : String) : CoreM V (Option (Item V)) := do
  match ← Prog.locked .inventory .shared (getItem oid) with
  | some lvar => pure (some lvar)
  | none =>
    if env.autoCreate.allowed source then
      let created ← createLocalItem env oid
      pure created.toOption
    else pure none

/-- Sets the state of an lvar; an lvar of another node is set there. -/
def setLvar (op : LvarOp V) (lvar : Item V) : CoreM V (EResult (Option V)) := do
  let enabled ← readEnabled lvar
  if !enabled then
    pure (.error
      { kind := .accessDenied, message := "Lvar " ++ oid.asStr ++ " is disabled" })
  else if lvar.source.isSome then Prog.atomic .plain fun w => (env.rpcCall w.calls, w.call)
  else
    (Prog.atomic .plain (World.applyLvarOp env lvar op)).tryThen fun r => do
      processNewState env oid r.1 (dbState env oid r.1)
      pure (.ok r.2)

def lvarOp (op : LvarOp V) (source : String) : CoreM V (EResult (Option V)) :=
  if oid.kind ≠ .lvar then
    pure (.error
      { kind := .notImplemented, message := "Lvar ops can be applied to Lvars only" })
  else do
    match ← getOrCreateLvar env oid source with
    | none => pure (.error { kind := .resourceNotFound, message := oid.asStr })
    | some lvar => setLvar env oid op lvar

end Eva4.Core
