import Eva4.Lib.Machine
import Eva4.Lib.Table
import Eva4.Items.Basic

/-!
# Actions of openers

An action of an opener is appended to the tracker of pending actions and put into the queue of
its opener.  The handler of the opener takes it off the tracker, makes a plan, registers it as
active and has a sequence executed by the core.  A kill or a terminate looks for the action in the
tracker and in the table of active openers, one after the other, and asks the core to terminate
the sequence it finds.
-/

namespace Eva4.ControllerLm

open Lib
open Items

abbrev ActionUuid : Type := Nat

/-!
## The tracker

The tracker of pending actions comes from the development kit of the services.
-/

class ActionTracker (T : Type) where
  empty : T
  isPending : T -> OID -> ActionUuid -> Bool
  append : T -> OID -> ActionUuid -> Option T
  /-- Takes an action off, and tells if it was still there. -/
  remove : T -> OID -> ActionUuid -> Option (T × Bool)
  markTerminated : T -> ActionUuid -> Option T
  markKilled : T -> OID -> Option T

open ActionTracker (isPending append remove markTerminated markKilled)

/-- What the tracker does.  Its operations fail for an OID or an action it does not know. -/
class LawfulActionTracker (T : Type) [ActionTracker T] : Prop where
  pending_empty : forall oid u, isPending (ActionTracker.empty : T) oid u = false
  pending_append : forall {t t' : T} {oid u}, append t oid u = some t' ->
    forall oid' u', isPending t' oid' u' = true ->
      isPending t oid' u' = true ∨ (oid' = oid ∧ u' = u)
  pending_remove : forall {t t' : T} {oid u b}, remove t oid u = some (t', b) ->
    b = isPending t oid u ∧ isPending t' oid u = false ∧
      forall oid' u', isPending t' oid' u' = true -> isPending t oid' u' = true
  remove_failed : forall {t : T} {oid u}, remove t oid u = none -> isPending t oid u = false
  pending_terminated : forall {t t' : T} {u}, markTerminated t u = some t' ->
    (exists oid, isPending t oid u = true) ∧
      (forall oid, isPending t' oid u = false) ∧
      forall oid' u', isPending t' oid' u' = true -> isPending t oid' u' = true
  terminated_failed : forall {t : T} {u}, markTerminated t u = none ->
    forall oid, isPending t oid u = false
  pending_killed : forall {t t' : T} {oid}, markKilled t oid = some t' ->
    (forall u, isPending t' oid u = false) ∧
      forall oid' u', isPending t' oid' u' = true -> isPending t oid' u' = true
  killed_failed : forall {t : T} {oid}, markKilled t oid = none ->
    forall u, isPending t oid u = false

/-!
## Actions
-/

inductive ActionStage where
  /-- On the tracker, not in the queue yet. -/
  | appended
  | queued
  /-- The handler has it, and has not asked the tracker. -/
  | dequeued
  /-- Off the tracker; the position of the unit is read and the plan is made. -/
  | taken
  /-- In the table of active openers; the core is not called yet. -/
  | registered
  /-- The call of the core is under way. -/
  | called
  /-- The call has ended; the action is still in the table. -/
  | returned
  | ended
  /-- The handler found it off the tracker. -/
  | cancelled
deriving DecidableEq, Repr

inductive SeqRun where
  | absent
  | sent
  | refused
  | running
  | finished
  | aborted
deriving DecidableEq, Repr

/-- The sequence and the table of the core: it enters the table after it is spawned. -/
inductive SeqEntry where
  | before
  | inside
  | after
deriving DecidableEq, Repr

/-- `replied` is the outcome of the call that brought the action. -/
structure OpenerAction where
  oid : OID
  uuid : ActionUuid
  stage : ActionStage
  ticket : Nat
  replied : Option Bool
  run : SeqRun
  entry : SeqEntry
deriving DecidableEq

def SeqRun.Over (run : SeqRun) : Prop :=
  run = .refused ∨ run = .finished ∨ run = .aborted
deriving Decidable

namespace OpenerAction

variable (t : OpenerAction)

/-- The handler has not asked the tracker yet. -/
def Waiting : Prop :=
  t.stage = .appended ∨ t.stage = .queued ∨ t.stage = .dequeued

def Active : Prop :=
  t.stage = .registered ∨ t.stage = .called ∨ t.stage = .returned
deriving Decidable

/-- The handler of the opener is busy with it. -/
def Handled : Prop :=
  t.stage = .dequeued ∨ t.stage = .taken ∨ t.Active
deriving Decidable

/-- The core has the sequence, or will get it. -/
def UnderWay : Prop :=
  t.run = .sent ∨ t.run = .running
deriving Decidable

/-- An action can end before its sequence, if the core does not answer in time. -/
def Live : Prop :=
  (t.stage ≠ .ended ∧ t.stage ≠ .cancelled) ∨ t.UnderWay
deriving Decidable

/-- Neither on the tracker nor in the table of active openers. -/
def Unlisted : Prop :=
  t.stage = .taken ∨ (¬ t.Active ∧ t.UnderWay)
deriving Decidable

/-- The sequence is not in the table of the core yet. -/
def Starting : Prop :=
  t.stage = .registered ∨ t.run = .sent ∨ (t.run = .running ∧ t.entry = .before)
deriving Decidable

def terminateSeq : Option OpenerAction :=
  if t.entry = .inside then
    some { t with entry := .after, run := if t.run = .running then .aborted else t.run }
  else none

end OpenerAction

/-- The steps of an action that change nothing but the action. -/
inductive ActionStep where
  /-- The `pending` event is sent, and the call that brought the action returns. -/
  | accept
  /-- The `running` event can not be sent, the payload is invalid or there is no plan. -/
  | fail
  /-- The sequence can not be packed; the action stays in the table. -/
  | packFailed
  | call
  | refuse
  | spawn
  | list
  | finish
  | unlist
  | answer
  /-- The call of the core times out or fails on the bus. -/
  | giveUp
  /-- Somebody else has the core terminate the sequence. -/
  | abort
deriving DecidableEq

namespace OpenerAction

def step (t : OpenerAction) : ActionStep -> Option OpenerAction
  | .accept =>
    if t.replied = none ∧ t.stage ≠ .appended then some { t with replied := some true } else none
  | .fail => if t.stage = .taken then some { t with stage := .ended } else none
  | .packFailed => if t.stage = .registered then some { t with stage := .ended } else none
  | .call => if t.stage = .registered then some { t with stage := .called, run := .sent } else none
  | .refuse => if t.run = .sent then some { t with run := .refused } else none
  | .spawn => if t.run = .sent then some { t with run := .running } else none
  | .list =>
    if (t.run = .running ∨ t.run = .finished) ∧ t.entry = .before then
      some { t with entry := .inside }
    else none
  | .finish => if t.run = .running then some { t with run := .finished } else none
  | .unlist =>
    if t.run = .finished ∧ t.entry = .inside then some { t with entry := .after } else none
  | .answer =>
    if t.stage = .called ∧ t.run.Over ∧ (t.run = .refused ∨ t.entry = .after) then
      some { t with stage := .returned }
    else none
  | .giveUp => if t.stage = .called then some { t with stage := .returned } else none
  | .abort => t.terminateSeq

end OpenerAction

/-!
## Requests
-/

inductive StopTarget where
  | kill (oid : OID)
  | terminate (u : ActionUuid)
deriving DecidableEq

inductive RequestStage where
  | arrived
  /-- The tracker has been asked. -/
  | marked
  /-- The core is called to terminate the sequence of an action. -/
  | calling (k : Nat)
  | returned (ok : Bool)
deriving DecidableEq

def StopTarget.covers (target : StopTarget) (t : OpenerAction) : Bool :=
  match target with
  | .kill oid => t.oid = oid
  | .terminate u => t.uuid = u

/-- A request with the actions it covers that were accepted before it came. -/
structure StopRequest where
  target : StopTarget
  covered : List Nat
  stage : RequestStage
deriving DecidableEq

/-!
## The service
-/

/-- An action has one sequence, so the tables of active openers lead to actions. -/
structure Openers (T : Type) where
  tracker : T
  byOid : Table OID Nat
  byActionUuid : Table ActionUuid Nat
  tickets : Nat
  actions : List OpenerAction
  requests : List StopRequest

inductive OpenerEvent where
  /-- A call brings an action, which is appended to the tracker. -/
  | action (oid : OID) (u : ActionUuid)
  | enqueue (n : Nat)
  | enqueueFailed (n : Nat)
  /-- The `pending` event can not be sent; the action stays in the queue. -/
  | acceptFailed (n : Nat)
  | dequeue (n : Nat)
  | take (n : Nat)
  | register (n : Nat)
  | unregister (n : Nat)
  | progress (n : Nat) (e : ActionStep)
  | request (target : StopTarget)
  | mark (r : Nat)
  | look (r : Nat)
  | terminateSeq (r : Nat)
  /-- The call of the core fails for another reason than a missing sequence. -/
  | requestFailed (r : Nat)

namespace Openers

variable {T : Type} (s : Openers T)

def setAction (n : Nat) (t : OpenerAction) : Openers T :=
  { s with actions := s.actions.set n t }

def setRequest (r : Nat) (req : StopRequest) : Openers T :=
  { s with requests := s.requests.set r req }

def register (n : Nat) (t : OpenerAction) : Openers T :=
  { s with
    byOid := s.byOid.insert t.oid n
    byActionUuid := s.byActionUuid.insert t.uuid n }

variable (t : OpenerAction)

def unregister : Openers T :=
  { s with
    byOid := s.byOid.erase t.oid
    byActionUuid := s.byActionUuid.erase t.uuid }

/-- The handler of the opener is idle, and no other action of the opener is before this one in
the queue. -/
def nextFor : Bool :=
  s.actions.all fun u =>
    u.oid ≠ t.oid || (¬ u.Handled && (u.stage ≠ .queued || t.ticket ≤ u.ticket))

def lookup (s : Openers T) : StopTarget -> Option Nat
  | .kill oid => s.byOid.lookup oid
  | .terminate u => s.byActionUuid.lookup u

/-- What a request returns when there is nothing to terminate: a kill swallows the error. -/
def notFoundReply : StopTarget -> Bool
  | .kill _ => true
  | .terminate _ => false

def lookStage (target : StopTarget) : RequestStage :=
  match s.lookup target with
  | some k => .calling k
  | none => .returned (notFoundReply target)

def terminateStep (r : Nat) (req : StopRequest) (k : Nat) : Openers T :=
  match s.actions[k]? with
  | none => s.setRequest r { req with stage := .returned (notFoundReply req.target) }
  | some t =>
    match t.terminateSeq with
    | some t' => (s.setAction k t').setRequest r { req with stage := .returned true }
    | none => s.setRequest r { req with stage := .returned (notFoundReply req.target) }

def coveredBy (target : StopTarget) : List Nat :=
  (List.range s.actions.length).filter fun n =>
    s.actions[n]?.any fun t => t.replied = some true && target.covers t

variable [ActionTracker T]

def new : Openers T where
  tracker := ActionTracker.empty
  byOid := ∅
  byActionUuid := ∅
  tickets := 0
  actions := []
  requests := []

def Pending : Prop :=
  isPending s.tracker t.oid t.uuid = true

/-- The tracker without an action; a failure changes nothing. -/
def untrack : Openers T :=
  match remove s.tracker t.oid t.uuid with
  | some (tracker, _) => { s with tracker := tracker }
  | none => s

/-- The answer of the tracker to the handler of the opener. -/
def takeStage : ActionStage :=
  match remove s.tracker t.oid t.uuid with
  | some (_, true) => .taken
  | some (_, false) => .cancelled
  | none => .ended

/-- The first step of a request: the tracker is asked.  A kill goes on whatever it says. -/
def markStep (r : Nat) (req : StopRequest) : Openers T :=
  match req.target with
  | .kill oid =>
    match markKilled s.tracker oid with
    | some tracker => { s with tracker := tracker }.setRequest r { req with stage := .marked }
    | none => s.setRequest r { req with stage := .marked }
  | .terminate u =>
    match markTerminated s.tracker u with
    | some tracker =>
      { s with tracker := tracker }.setRequest r { req with stage := .returned true }
    | none => s.setRequest r { req with stage := .marked }

def step (queues : List OID) : Machine (Openers T) OpenerEvent := fun s e =>
  match e with
  | .action oid u =>
    if oid ∈ queues then
      match append s.tracker oid u with
      | some tracker =>
        some { s with
          tracker := tracker
          actions := s.actions ++ [{
            oid := oid, uuid := u, stage := .appended, ticket := 0, replied := none
            run := .absent, entry := .before }] }
      | none => some s
    else some s
  | .enqueue n =>
    s.actions[n]?.bind fun t =>
      if t.stage = .appended then
        some ({ s with tickets := s.tickets + 1 }.setAction n
          { t with stage := .queued, ticket := s.tickets })
      else none
  | .enqueueFailed n =>
    s.actions[n]?.bind fun t =>
      if t.stage = .appended then
        some ((s.untrack t).setAction n { t with stage := .ended, replied := some false })
      else none
  | .acceptFailed n =>
    s.actions[n]?.bind fun t =>
      if t.replied = none ∧ t.stage ≠ .appended then
        some ((s.untrack t).setAction n { t with replied := some false })
      else none
  | .dequeue n =>
    s.actions[n]?.bind fun t =>
      if t.stage = .queued ∧ s.nextFor t then some (s.setAction n { t with stage := .dequeued })
      else none
  | .take n =>
    s.actions[n]?.bind fun t =>
      if t.stage = .dequeued then some ((s.untrack t).setAction n { t with stage := s.takeStage t })
      else none
  | .register n =>
    s.actions[n]?.bind fun t =>
      if t.stage = .taken then some ((s.register n t).setAction n { t with stage := .registered })
      else none
  | .unregister n =>
    s.actions[n]?.bind fun t =>
      if t.stage = .returned then some ((s.unregister t).setAction n { t with stage := .ended })
      else none
  | .progress n e => s.actions[n]?.bind fun t => (t.step e).map fun t' => s.setAction n t'
  | .request target =>
    some { s with
      requests := s.requests ++ [{
        target := target, covered := s.coveredBy target, stage := .arrived }] }
  | .mark r =>
    s.requests[r]?.bind fun req => if req.stage = .arrived then some (s.markStep r req) else none
  | .look r =>
    s.requests[r]?.bind fun req =>
      if req.stage = .marked then some (s.setRequest r { req with stage := s.lookStage req.target })
      else none
  | .terminateSeq r =>
    s.requests[r]?.bind fun req =>
      match req.stage with
      | .calling k => some (s.terminateStep r req k)
      | _ => none
  | .requestFailed r =>
    s.requests[r]?.bind fun req =>
      match req.stage with
      | .calling _ => some (s.setRequest r { req with stage := .returned false })
      | _ => none

end Openers

end Eva4.ControllerLm
