import Eva4.Lib.Table
import Eva4.Items.Basic

/-!
# Outputs of the pub/sub controller

The index from items to outputs that `main` builds, and the outputs that are sent for a state
event.  Values, paths, transforms and packers come from other crates.
-/

namespace Eva4.ControllerPubsub

open Lib
open Items (OID EResult)

inductive SourceProp where
  | status | value | time | timeSec | timeMillis | timeMicros | timeNanos

structure OutputMappingEntry (V T : Type) where
  path : String
  payload : Option V
  oid : Option OID
  prop : SourceProp
  valueMap : Table String V
  transform : List T

structure OutputMapping (V T : Type) where
  topic : String
  packer : String
  map : List (OutputMappingEntry V T)
  ignoreEvents : Bool

structure Env (V T S : Type) where
  unit : V
  formatPayload : V -> V
  property : SourceProp -> S -> V
  transform : List T -> OID -> V -> EResult V
  toText : V -> String
  jpInsert : V -> String -> V -> EResult V
  pack : String -> V -> EResult V

variable {V T S : Type} (env : Env V T S)

def formatOutputValue (value : V) (m : OutputMappingEntry V T) (oid : OID) : EResult V := do
  let value <- if m.transform.isEmpty then pure value else env.transform m.transform oid value
  return (AList.lookup (env.toText value) m.valueMap).getD value

def sendOutput (getState : OID -> EResult S) (o : OutputMapping V T) : EResult (String × V) := do
  let value <- o.map.foldlM (fun value m => do
    match m.payload, m.oid with
    | some payload, _ => env.jpInsert value m.path (env.formatPayload payload)
    | none, some oid =>
      let state <- getState oid
      env.jpInsert value m.path (<- formatOutputValue env (env.property m.prop state) m oid)
    | none, none => return value) env.unit
  return (o.topic, <- env.pack o.packer value)

variable (outputs : List (OutputMapping V T)) (oid : OID)

def indexOutput (omap : OID -> List Nat) (o : OutputMapping V T × Nat) : OID -> List Nat :=
  o.1.map.foldl (fun omap m =>
    match m.oid with
    | some oid => Function.update omap oid (omap oid ++ [o.2])
    | none => omap) omap

def outputIndex : OID -> List Nat :=
  outputs.zipIdx.foldl indexOutput fun _ => []

variable (getState : Nat -> OID -> EResult S)

/-- What is sent for an event, each time with the states of that time. -/
def handleEvent : List (Nat × EResult (String × V)) :=
  (outputIndex outputs oid).zipIdx.filterMap fun a => outputs[a.1]?.bind fun o =>
    if o.ignoreEvents then none else some (a.1, sendOutput env (getState a.2) o)

def sent (k : Nat) : List (EResult (String × V)) :=
  (handleEvent env outputs oid getState).filterMap fun a => if a.1 = k then some a.2 else none

def OutputMapping.refs (o : OutputMapping V T) : Nat :=
  o.map.countP fun m => m.oid = some oid

def PublishedOnce : Prop :=
  forall k o, outputs[k]? = some o -> (sent env outputs oid getState k).countP (·.isOk) =
    if o.ignoreEvents = false ∧ o.refs oid ≠ 0 then 1 else 0

lemma indexOutput_eq : indexOutput omap o oid = omap oid ++ List.replicate (o.1.refs oid) o.2 := by
  unfold indexOutput OutputMapping.refs
  induction o.1.map generalizing omap with
  | nil => simp
  | cons m ms ih =>
    rw [List.foldl_cons, ih]
    cases hm : m.oid with
    | none => simp [hm]
    | some other =>
      by_cases heq : oid = other
      · simp [hm, heq, List.replicate_succ]
      · simp [hm, Function.update_of_ne heq, Ne.symm heq]

theorem count_foldl_indexOutput :
    ((outputs.zipIdx s).foldl indexOutput omap oid).count k = (omap oid).count k +
      if s <= k then outputs[k - s]?.elim 0 (·.refs oid) else 0 := by
  induction outputs generalizing omap s with
  | nil => simp
  | cons o outputs ih =>
    rw [List.zipIdx_cons, List.foldl_cons, ih, indexOutput_eq, List.count_append,
      List.count_replicate, Nat.add_assoc]
    congr 1
    rcases Nat.lt_trichotomy k s with hlt | rfl | hgt
    · rw [if_neg (by simp; omega), if_neg (by omega), if_neg (by omega)]
    · simp
    · have hplace : k - s = k - (s + 1) + 1 := by omega
      rw [if_neg (by simp; omega), if_pos (by omega), if_pos (by omega), hplace,
        List.getElem?_cons_succ, Nat.zero_add]

lemma length_sent (ho : outputs[k]? = some o) : (sent env outputs oid getState k).length =
    if o.ignoreEvents then 0 else o.refs oid := by
  have hcount : (outputIndex outputs oid).count k = o.refs oid := by
    rw [outputIndex, count_foldl_indexOutput]
    simp [ho]
  unfold sent handleEvent
  rw [List.filterMap_filterMap, List.length_filterMap_eq_countP,
    List.countP_congr (q := fun a => a.1 == k && !o.ignoreEvents)]
  · cases o.ignoreEvents with
    | true => simp
    | false =>
      rw [← hcount, List.count, ← List.zipIdx_map_fst 0 (outputIndex outputs oid), List.countP_map]
      simp [Function.comp_def]
  · intro a _
    by_cases heq : a.1 = k
    · cases hignore : o.ignoreEvents <;> simp [heq, ho, hignore]
    · cases outputs[a.1]? <;> simp [heq]

structure Env.Works : Prop where
  transform : forall steps oid v, (env.transform steps oid v).isOk
  jpInsert : forall v path x, (env.jpInsert v path x).isOk
  pack : forall name v, (env.pack name v).isOk

def OutputMapping.Known (o : OutputMapping V T) (getState : OID -> EResult S) : Prop :=
  forall m, m ∈ o.map -> forall oid, m.oid = some oid -> (getState oid).isOk

lemma isOk_bind {x : EResult α} {f : α -> EResult β} (hx : x.isOk) (hf : forall v, (f v).isOk) :
    (x >>= f).isOk := by
  cases x with
  | error e => cases hx
  | ok v => exact hf v

lemma formatOutputValue_ok (hworks : env.Works) : (formatOutputValue env v m oid).isOk := by
  unfold formatOutputValue
  split
  · rfl
  · exact isOk_bind (hworks.transform m.transform oid v) fun v => rfl

theorem sendOutput_ok (hworks : env.Works) {o : OutputMapping V T} (hknown : o.Known states) :
    (sendOutput env states o).isOk := by
  unfold OutputMapping.Known at hknown
  unfold sendOutput
  refine isOk_bind ?_ fun v => isOk_bind (hworks.pack o.packer v) fun v => rfl
  generalize env.unit = v
  generalize o.map = entries at hknown ⊢
  -- along the entries, with any value made so far
  induction entries generalizing v with
  | nil => rfl
  | cons m ms ih =>
    rw [List.foldlM_cons]
    refine isOk_bind ?_ fun v => ih v fun m hm => hknown m (List.mem_cons_of_mem _ hm)
    cases m.payload with
    | some payload => exact hworks.jpInsert v m.path _
    | none =>
      cases hm : m.oid with
      | none => rfl
      | some oid =>
        exact isOk_bind (hknown m List.mem_cons_self oid hm) fun state =>
          isOk_bind (formatOutputValue_ok env oid hworks) fun x => hworks.jpInsert v m.path x

section

variable (hworks : env.Works)
  (hknown : forall n (o : OutputMapping V T), o ∈ outputs -> o.Known (getState n))
include hworks hknown

lemma isOk_of_mem_sent (hr : r ∈ sent env outputs oid getState k) : r.isOk := by
  simp only [sent, handleEvent, List.mem_filterMap] at hr
  rcases hr with ⟨a, ⟨place, _, ha⟩, hr⟩
  cases hget : outputs[place.1]? with
  | none => simp [hget] at ha
  | some o =>
    have hsent := sendOutput_ok env hworks (hknown place.2 o (List.mem_of_getElem? hget))
    simp only [hget, Option.bind_some] at ha
    grind

end

def sampleEnv : Env Nat Nat Nat :=
  ⟨0, id, fun _ s => s, fun _ _ v => .ok v, toString, fun _ _ v => .ok v, fun _ v => .ok v⟩

def sampleEntry (prop : SourceProp) : OutputMappingEntry Nat Nat :=
  ⟨"$.", none, some ⟨.sensor, "t"⟩, prop, ∅, []⟩

end Eva4.ControllerPubsub
