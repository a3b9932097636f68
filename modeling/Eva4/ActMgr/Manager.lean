import Eva4.Core.Actions

/-!
# The action manager

The manager keeps a record of every local action under its UUID.  Events of services, the reply
to the launch and the timeout of the core update the record, a cleaner removes old records.  Each
of them holds the lock of the records, so each is one step.
-/

namespace Eva4.ActMgr

open Lib Items
open Eva4.Core (ActionParams)

abbrev Uuid : Type := Nat

inductive Status where
  | created
  | accepted
  | pending
  | running
  | completed
  | failed
  | canceled
  | terminated
deriving DecidableEq, Repr

def Status.rank : Status -> Nat
  | .created => 0
  | .accepted => 1
  | .pending => 2
  | .running => 3
  | .completed => 4
  | .failed => 5
  | .canceled => 6
  | .terminated => 7

lemma Status.rank_injective : Function.Injective Status.rank := by
  intro a b h
  cases a <;> cases b <;> first | rfl | cases h

instance : LinearOrder Status :=
  LinearOrder.lift' Status.rank Status.rank_injective

def Status.all : List Status :=
  [.created, .accepted, .pending, .running, .completed, .failed, .canceled, .terminated]

/--
The codes of the statuses as events carry them, in the order of the statuses, and the
error for a code that is none of them; the text of an error as a value, and the text of a
timeout.
-/
structure Common (V : Type) where
  code : Status -> Nat
  code_strictMono : StrictMono code
  invalidStatus : Nat -> Error
  text : Error -> V
  timeout : V

variable {V : Type} (common : Common V)

def Common.status (code : Nat) : Option Status :=
  Status.all.find? fun s => common.code s == code

lemma Common.code_of_status {common : Common V} {code : Nat} (h : common.status code = some s) :
    common.code s = code := by
  have hfound := List.find?_some (p := fun s => common.code s == code) h
  exact eq_of_beq hfound

/-!
## Actions
-/

structure ActionArgs (V : Type) where
  uuid : Option Uuid
  oid : OID
  params : ActionParams V
  timeout : Option Nat
  priority : Nat
  config : Option V
  node : Option String
  target : String
  wait : Option F64

/-- The record of an action; its two triggers are fired or not. -/
structure Action (V : Type) where
  uuid : Option Uuid
  i : OID
  status : Status
  started : Nat
  time : Table Status F64
  timeout : Option Nat
  priority : Nat
  params : ActionParams V
  config : Option V
  node : Option String
  out : Option V
  err : Option V
  exitcode : Option Int
  completed : Bool
  coreCompleted : Bool
  target : String
  wait : Option F64

namespace Action

/-- A local action without a UUID gets a generated one. -/
def create (args : ActionArgs V) (generated : Uuid) (started : Nat) (now : F64) : Action V where
  uuid := match args.uuid with
    | some uuid => some uuid
    | none => if args.node.isSome then none else some generated
  i := args.oid
  status := .created
  started := started
  time := AList.insert .created now ∅
  timeout := args.timeout
  priority := args.priority
  params := args.params
  config := args.config
  node := args.node
  out := none
  err := none
  exitcode := none
  completed := false
  coreCompleted := false
  target := args.target
  wait := if args.node.isSome then args.wait else none

def markFailed (action : Action V) (err : V) (now : F64) : Action V :=
  if action.status < .completed then
    { action with
      status := .failed
      err := some err
      time := AList.insert .failed now action.time
      completed := true
      coreCompleted := true }
  else action

def markAccepted (action : Action V) (now : F64) : Action V :=
  { action with
    status := if action.status < .accepted then .accepted else action.status
    time := AList.insert .accepted now action.time }

end Action

structure ActionEvent (V : Type) where
  uuid : Uuid
  status : Nat
  out : Option V
  err : Option V
  exitcode : Option Int

/-- Takes an event with a valid status; it is recorded unless its code is greater. -/
def Action.applyEvent (action : Action V) (event : ActionEvent V)
    (status : Status) (now : F64) : Action V :=
  let time := AList.insert status now action.time
  if common.code action.status < event.status then
    let needTrigger := decide (common.code .completed ≤ event.status) &&
      decide (common.code action.status < common.code .completed)
    { action with
      status := status
      out := event.out
      err := event.err
      exitcode := event.exitcode
      completed := action.completed || needTrigger
      coreCompleted := action.coreCompleted || needTrigger
      time := time }
  else { action with time := time }

/-!
## The manager
-/

structure Manager (V : Type) where
  actions : Table Uuid (Action V)
  keepFor : Nat

namespace Manager

def errNoUuid : Error where
  kind := .core
  message := "invalid local action: no uuid"

variable (m : Manager V)

/-- The launch up to the call of the service; only a local action is stored. -/
def launchAction (action : Action V) : EResult (Option Uuid) × Manager V :=
  if action.node.isSome then (.ok none, m)
  else
    match action.uuid with
    | none => (.error errNoUuid, m)
    | some uuid => (.ok (some uuid), { m with actions := AList.insert uuid action m.actions })

lemma lookup_launchAction {m : Manager V} (h : (m.launchAction action).1 = .ok (some uuid)) :
    AList.lookup k (m.launchAction action).2.actions =
      if k = uuid then some action else AList.lookup k m.actions := by
  unfold launchAction at h ⊢
  cases hnode : action.node.isSome with
  | true =>
    rw [hnode] at h
    cases h
  | false =>
    rw [hnode] at h
    cases huuid : action.uuid with
    | none =>
      rw [huuid] at h
      cases h
    | some u =>
      simp only [huuid, Bool.false_eq_true, if_false, Except.ok.injEq, Option.some.injEq] at h ⊢
      rw [← h]
      exact Table.lookup_insert_if k u action m.actions

/-- The rest of the launch of a local action, with the result of the call. -/
def launchReply (uuid : Uuid) (result : EResult Unit) (now : F64) : EResult Unit × Manager V :=
  match AList.lookup uuid m.actions with
  | none => (.error { kind := .core, message := "action not stored" }, m)
  | some action =>
    let action' := match result with
      | .error e => action.markFailed (common.text e) now
      | .ok () => action.markAccepted now
    (.ok (), { m with actions := AList.insert uuid action' m.actions })

def processEvent (event : ActionEvent V) (now : F64) : EResult Unit × Manager V :=
  match AList.lookup event.uuid m.actions with
  | none => (.ok (), m)
  | some action =>
    match common.status event.status with
    | none => (.error (common.invalidStatus event.status), m)
    | some status =>
      (.ok (),
        { m with
          actions := AList.insert event.uuid
            (action.applyEvent common event status now) m.actions })

def markActionTimedOut (uuid : Uuid) (now : F64) : Manager V :=
  match AList.lookup uuid m.actions with
  | none => m
  | some action =>
    { m with actions := AList.insert uuid (action.markFailed common.timeout now) m.actions }

def cleanupActionHistory (t : Nat) : Manager V :=
  { m with
    actions := Table.retain
      (fun _ v => decide (t < v.started + m.keepFor) || decide (v.status < .completed))
      m.actions }

end Manager

end Eva4.ActMgr
