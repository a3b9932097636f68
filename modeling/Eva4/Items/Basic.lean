import Mathlib.Data.Prod.Lex
import Mathlib.Data.Rat.Defs
import Mathlib.Data.List.AList

/-!
# Items of the node inventory

Item values, value ranges, mask chunk patterns and a few conversions come from the common crate of
the platform and are taken as given operations of a type of values.  IEIDs are ordered by boot id
and then by time.
-/

namespace Eva4.Items

/-!
## Kinds and OIDs
-/

inductive ItemKind where
  | unit
  | sensor
  | lvar
  | lMacro
deriving DecidableEq, Repr

def ItemKind.asStr : ItemKind -> String
  | .unit => "unit"
  | .sensor => "sensor"
  | .lvar => "lvar"
  | .lMacro => "lmacro"

/-- Two OIDs are equal when their kinds and their full ids are. -/
structure OID where
  kind : ItemKind
  fullId : String
deriving DecidableEq, Repr

def OID.asStr (oid : OID) : String :=
  oid.kind.asStr ++ ":" ++ oid.fullId

def OID.chunks (oid : OID) : List String :=
  (oid.fullId.toList.splitOn '/').map String.ofList

lemma OID.chunks_ne_nil (oid : OID) : oid.chunks ≠ [] := by
  intro h
  have hsplit : oid.fullId.toList.splitOn '/' = [] := List.map_eq_nil_iff.mp h
  exact List.splitOn_ne_nil '/' oid.fullId.toList hsplit

lemma chunks_injective :
    Function.Injective fun text : String => (text.toList.splitOn '/').map String.ofList := by
  intro s t h
  have hsplit := List.map_injective_iff.mpr (fun _ _ => String.ofList_injective) h
  have hjoin := congrArg (List.intercalate ['/']) hsplit
  rw [List.intercalate_splitOn, List.intercalate_splitOn] at hjoin
  exact String.toList_injective hjoin

lemma OID.eq_of_chunks {b : OID} (hkind : a.kind = b.kind) (hchunks : a.chunks = b.chunks) :
    a = b := by
  have hfull : a.fullId = b.fullId := chunks_injective hchunks
  cases a
  cases hkind
  cases hfull
  rfl

/-- A mask: no kind means any kind, no chunks means any path. -/
structure OIDMask where
  kind : Option ItemKind
  chunks : Option (List String)
deriving DecidableEq, Repr

/-!
## Event ids and numbers
-/

structure IEID where
  bootId : Nat
  t : Nat
deriving DecidableEq, Repr

lemma IEID.toLex_injective : Function.Injective (fun i : IEID => toLex (i.bootId, i.t)) := by
  intro a b h
  injection h with hb ht
  cases a
  cases b
  cases hb
  cases ht
  rfl

instance : LinearOrder IEID :=
  LinearOrder.lift' (fun i : IEID => toLex (i.bootId, i.t)) IEID.toLex_injective

lemma IEID.lt_iff {a b : IEID} : a < b <-> a.bootId < b.bootId ∨ a.bootId = b.bootId ∧ a.t < b.t :=
  Prod.Lex.toLex_lt_toLex

/--
Floating point numbers as the comparisons of the node see them: a NaN differs
from every number, itself included.
-/
inductive F64 where
  | nan
  | inf (negative : Bool)
  | fin (value : Rat)
deriving DecidableEq

namespace F64

def zero : F64 := .fin 0

/-- Equality of numbers; false as soon as one side is a NaN. -/
def eq : F64 -> F64 -> Bool
  | .inf a, .inf b => a == b
  | .fin a, .fin b => a == b
  | _, _ => false

lemma eq_of_eq (h : eq a b = true) : a = b := by
  cases a with
  | nan => cases h
  | inf a =>
    cases b with
    | nan | fin => cases h
    | inf b => exact congrArg F64.inf (eq_of_beq h)
  | fin a =>
    cases b with
    | nan | inf => cases h
    | fin b => exact congrArg F64.fin (eq_of_beq h)

def lt : F64 -> F64 -> Bool
  | .fin a, .fin b => a < b
  | .inf a, .inf b => a && !b
  | .inf a, .fin _ => a
  | .fin _, .inf b => !b
  | _, _ => false

end F64

structure FloatOps where
  add : F64 -> F64 -> F64
  sub : F64 -> F64 -> F64
  mul : F64 -> F64 -> F64
  div : F64 -> F64 -> F64

/-!
## Errors
-/

inductive ErrorKind where
  | invalidData
  | invalidParams
  | resourceNotFound
  | resourceAlreadyExists
  | notImplemented
  | busy
  | accessDenied
  | failed
  | core
  | io
  | unsupported
  | methodNotFound
  | notReady
  | accessDeniedMoreDataRequired
  | evaHIAuthenticationRequired
deriving DecidableEq, Repr

structure Error where
  kind : ErrorKind
  message : String
deriving DecidableEq, Repr

abbrev EResult (alpha : Type) : Type :=
  Except Error alpha

/-!
## Configuration, states and events
-/

abbrev ItemStatus : Type := Int

def itemStatusError : ItemStatus := -1

structure Range where
  min : Option F64
  max : Option F64
  minEq : Bool
  maxEq : Bool
deriving DecidableEq

structure Logic where
  range : Option Range
deriving DecidableEq

variable (V : Type)

structure ActionConfig where
  svc : String
  timeout : Option F64
  config : Option V
deriving DecidableEq

structure ItemState where
  status : ItemStatus
  value : V
  act : Option Nat
  ieid : IEID
  t : F64
deriving DecidableEq

/-- The state as it is stored; the action counter is not part of it. -/
structure DbState where
  status : ItemStatus
  value : V
  ieid : IEID
  t : F64
deriving DecidableEq

inductive Force where
  | none
  | weak
  | full
deriving DecidableEq, Repr

inductive OnNegativeDelta where
  | skip
  | reset
  | process
  | overflow (floor ceil : F64)
deriving DecidableEq

inductive OnModifiedError where
  | skip
  | reset
  | process
deriving DecidableEq, Repr

structure SetOther where
  oid : List OIDMask
  status : ItemStatus
  value : Option V

structure SetOtherValueDelta where
  oid : OID
  period : Option F64
  onNegative : OnNegativeDelta
  onError : OnModifiedError

inductive OnModified (V : Type) where
  | setOther (o : SetOther V)
  | setOtherValueDelta (o : SetOtherValueDelta)

structure RawStateEvent where
  status : ItemStatus
  value : Option V := .none
  force : Force := .none
  t : Option F64 := .none
  statusCompare : Option ItemStatus := .none
  valueCompare : Option V := .none
  statusElse : Option ItemStatus := .none
  valueElse : Option V := .none
  onModified : Option (OnModified V) := .none

structure RawStateBulkEvent where
  oid : OID
  raw : RawStateEvent V

structure ReplicationState where
  status : ItemStatus
  value : V
  act : Option Nat
  ieid : IEID
  t : F64
deriving DecidableEq

structure ReplicationStateEvent where
  status : ItemStatus
  value : V
  act : Option Nat
  ieid : IEID
  t : F64
  node : String
  forceAccept : Bool
deriving DecidableEq

def ReplicationStateEvent.replicationState {V : Type} (rse : ReplicationStateEvent V) :
    ReplicationState V where
  status := rse.status
  value := rse.value
  act := rse.act
  ieid := rse.ieid
  t := rse.t

structure ReplicationInventoryItem where
  oid : OID
  act : Option Nat
  enabled : Bool
  ieid : Option IEID
  metaValue : Option V
  status : Option ItemStatus
  value : Option V
  t : Option F64
deriving DecidableEq

inductive ReplicationStateEventExtended (V : Type) where
  | basic (rse : ReplicationStateEvent V)
  | inventory (node : String) (item : ReplicationInventoryItem V)
  | basicItem (oid : OID) (event : ReplicationStateEvent V)

/-!
## Operations taken from the common crate
-/

/--
Values with the comparisons and conversions the node applies to them, the
acceptance test of ranges, the chunk patterns of masks, and the conversion of an
inventory record to a state.
-/
class EvaCommon (V : Type) extends BEq V, Inhabited V where
  unit : V
  isBytes : V -> Bool
  tryF64 : V -> Option F64
  tryI64 : V -> Option Int
  ofU8 : Nat -> V
  ofI64 : Int -> V
  ofF64 : F64 -> V
  rangeMatches : Range -> F64 -> Bool
  formulaPrefix : String
  regexPrefix : String
  keyMatchesFormula : String -> String -> Bool
  regexNew : String -> Option (String -> Bool)
  toReplicationState : ReplicationInventoryItem V -> EResult (ReplicationState V)
  floatOps : FloatOps

/-!
## Integers as values

Concrete runs use integers with none for the unit value.
-/

def F64.combine (f : Rat -> Rat -> Rat) : F64 -> F64 -> F64
  | .fin a, .fin b => .fin (f a b)
  | _, _ => .nan

instance : EvaCommon (Option Int) where
  unit := none
  isBytes := fun _ => false
  tryF64 := fun v => v.map fun n => F64.fin n
  tryI64 := fun v => v
  ofU8 := fun n => some n
  ofI64 := some
  ofF64
    | .fin q => some q.floor
    | _ => none
  rangeMatches := fun range x =>
    (match range.min with
      | some a => F64.lt a x || range.minEq && F64.eq a x
      | none => true) &&
      (match range.max with
        | some b => F64.lt x b || range.maxEq && F64.eq x b
        | none => true)
  formulaPrefix := "f()"
  regexPrefix := "r()"
  keyMatchesFormula := fun _ _ => false
  regexNew := fun _ => none
  toReplicationState := fun i =>
    match i.status, i.value, i.ieid, i.t with
    | some status, some value, some ieid, some t =>
      .ok { status := status, value := value, act := i.act, ieid := ieid, t := t }
    | _, _, _, _ => .error { kind := .invalidData, message := "incomplete state" }
  floatOps :=
    { add := F64.combine fun a b => a + b
      sub := F64.combine fun a b => a - b
      mul := F64.combine fun a b => a * b
      div := F64.combine fun a b => a / b }

/-!
## Shared objects

Sources and items are reference counted.  The fields that never change are kept
in a handle together with the address of the allocation; the mutex and the
atomics of the object are cells at that address.  Two handles are the same
object when their addresses are equal.
-/

structure Source where
  ptr : Nat
  node : String
  svc : String
deriving DecidableEq, Repr

structure Item where
  ptr : Nat
  oid : OID
  metaValue : Option V
  source : Option Source
  logic : Option Logic
  action : Option (ActionConfig V)
deriving DecidableEq

def Item.node {V : Type} (item : Item V) : Option String :=
  item.source.map Source.node

variable {V} in
lemma Item.node_eq_none_iff (item : Item V) : item.node = none <-> item.source = none :=
  Option.map_eq_none_iff

/-- The mutable part of an item. -/
@[ext]
structure ItemCell where
  state : Option (ItemState V)
  enabled : Bool
deriving DecidableEq

structure SourceCell where
  online : Bool
  destroyed : Bool
deriving DecidableEq, Repr

end Eva4.Items
