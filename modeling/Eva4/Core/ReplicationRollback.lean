import Eva4.Items.IndexAgreement
import Eva4.Core.ReplicationSteps

/-!
# Inventories and the states of known items

A record of an inventory updates a known item only with a newer state.  An item whose
meta differs is recreated from the record instead, and there the event ids are not
compared.  So an inventory can roll an item back exactly by recreating it.
-/

namespace Eva4
namespace Items

variable {V : Type}

/-- The event id does not shrink, and grows if the stored part of the state differs. -/
def ItemState.Forward (a b : ItemState V) : Prop :=
  a.ieid ≤ b.ieid ∧ (¬ (a.status = b.status ∧ a.value = b.value ∧ a.t = b.t) -> a.ieid < b.ieid)

lemma ItemState.Forward.refl (a : ItemState V) : a.Forward a :=
  ⟨le_rfl, fun h => absurd ⟨rfl, rfl, rfl⟩ h⟩

lemma ItemState.Forward.of_lt {a : ItemState V} (h : a.ieid < b.ieid) : a.Forward b :=
  ⟨le_of_lt h, fun _ => h⟩

end Items

namespace Core

open Lib Items Prog

variable {V : Type}

/-!
## Recreated items
-/

variable (known : Table OID (Item V))

/-- The record makes a new item although the source has one, or the source has none. -/
def recreates [EvaCommon V] (remote : ReplicationInventoryItem V) : Bool :=
  match AList.lookup remote.oid known with
  | none => true
  | some item => item.source.isSome && !(item.metaValue == remote.metaValue)

lemma recreates_iff [EvaCommon V] : recreates known remote = true <-> Recreates known remote := by
  unfold recreates Recreates
  cases AList.lookup remote.oid known with
  | none | some => simp

def recreatedBy [EvaCommon V] (oid : OID)
    (state : Option (Option (ItemState V))) (remote : ReplicationInventoryItem V) :
    Option (Option (ItemState V)) :=
  if remote.oid = oid ∧ recreates known remote then
    match Mem.replState remote with
    | .ok st => some st
    | .error _ => state
  else state

def recreatedState [EvaCommon V] (oid : OID)
    (records : List (ReplicationInventoryItem V)) : Option (Option (ItemState V)) :=
  records.foldl (recreatedBy known oid) none

/-!
## An item that is watched
-/

/-- An item of a node, its state at the start and a bound of the addresses used then. -/
structure Watched (V : Type) where
  oid : OID
  item : Item V
  start : ItemState V
  node : String
  bound : Nat

/-- The item itself, maybe removed but not rolled back, or the one that replaced it. -/
def Watched.Slot (x : Watched V) (w : World V) : Option (Option (ItemState V)) -> Prop
  | none =>
    (w.inv.getItem x.oid = some x.item ∨ w.inv.getItem x.oid = none) ∧
      exists st, w.state x.item = some st ∧ x.start.Forward st
  | some state =>
    exists y, w.inv.getItem x.oid = some y ∧ y.node = some x.node ∧ x.bound ≤ y.ptr ∧
      w.state y = state

structure Watched.Holds (x : Watched V) (slot : Option (Option (ItemState V)))
    (w : World V) : Prop where
  wellFormed : w.toMem.WellFormed
  bound : x.bound ≤ w.heap.nextItem
  slot : x.Slot w slot

variable {w : World V} {x : Watched V} {slot : Option (Option (ItemState V))}
  {known}

lemma Watched.Holds.of_toMem (h : x.Holds slot w) (hmem : w'.toMem = w.toMem) :
    x.Holds slot w' := by
  have hstate : w'.state = w.state := by
    funext item
    unfold World.state
    rw [hmem]
  constructor
  · rw [hmem]
    exact h.wellFormed
  · rw [hmem]
    exact h.bound
  · have hslot := h.slot
    cases slot with
    | none | some =>
      unfold Watched.Slot at hslot ⊢
      rw [hmem, hstate]
      exact hslot

/-- What happens elsewhere: the OID keeps its item, the cells in question their contents. -/
theorem Watched.Slot.elsewhere (h : x.Slot w slot)
    (hget : w'.inv.getItem x.oid = w.inv.getItem x.oid)
    (hitem : slot = none -> w'.state x.item = w.state x.item)
    (hnew : forall y, w.inv.getItem x.oid = some y -> x.bound ≤ y.ptr ->
      w'.state y = w.state y) : x.Slot w' slot := by
  cases slot with
  | none =>
    unfold Watched.Slot at h ⊢
    rw [hget, hitem rfl]
    exact h
  | some state =>
    rcases h with ⟨y, hy, hnode, hbound, hstate⟩
    refine ⟨y, hget.trans hy, hnode, hbound, ?_⟩
    rw [hnew y hy hbound]
    exact hstate

theorem Watched.Holds.forward (h : x.Holds slot w)
    (hy : w.inv.getItem x.oid = some y) (hst : w.state y = some st)
    (hslot : forall st, slot = some (some st) -> x.start.Forward st) : x.start.Forward st := by
  have hkept := h.slot
  cases slot with
  | none =>
    rcases hkept with ⟨hget, st', hst', hforward⟩
    rcases hget with hitem | hnone
    · rw [hitem] at hy
      injection hy with hy
      rw [← hy, hst'] at hst
      cases hst
      exact hforward
    · rw [hnone] at hy
      cases hy
  | some state =>
    rcases hkept with ⟨y', hy', _, _, hstate⟩
    rw [hy'] at hy
    injection hy with hy
    rw [← hy, hstate] at hst
    rw [hst] at hslot
    exact hslot st rfl

variable [EvaCommon V]

/-!
## Records
-/

variable (env : Env V)

lemma createRemoteItem_holds (hnode : source.node = x.node) (hfresh : x.item.ptr < x.bound)
    (h : x.Holds slot w) :
    x.Holds
      (if remote.oid = x.oid then
        match Mem.replState remote with
        | .ok st => some st
        | .error _ => slot
      else slot)
      ((createRemoteItem env remote source online).exec w).2 := by
  cases hstate : Mem.replState remote with
  | error e =>
    rw [ite_self]
    exact h.of_toMem (createRemoteItem_invalid env hstate)
  | ok state =>
    have happended := createRemoteItem_appended env source online h.wellFormed hstate
    generalize ((createRemoteItem env remote source online).exec w).2 = w' at happended
    have hbound : x.bound ≤ w'.heap.nextItem := by
      rw [happended.heap]
      exact h.bound.trans (Nat.le_succ _)
    have hcells : forall ptr, ptr < w.heap.nextItem -> w'.heap.cells ptr = w.heap.cells ptr := by
      intro ptr hptr
      rw [happended.heap]
      exact Function.update_of_ne (Nat.ne_of_lt hptr) _ w.heap.cells
    refine ⟨happended.wellFormed, hbound, ?_⟩
    by_cases hoid : remote.oid = x.oid
    · rw [if_pos hoid]
      refine ⟨{ remote.item source with ptr := w.heap.nextItem }, ?_, ?_, h.bound, ?_⟩
      · exact (happended.getItem x.oid).trans (if_pos hoid.symm)
      · rw [← hnode]
        rfl
      · unfold World.state
        rw [happended.heap]
        simp [Heap.allocItem]
    · rw [if_neg hoid]
      apply h.slot.elsewhere
      · rw [happended.getItem]
        exact if_neg fun heq => hoid heq.symm
      · intro _
        unfold World.state
        rw [hcells _ (lt_of_lt_of_le hfresh h.bound)]
      · intro y hy _
        unfold World.state
        rw [hcells _ (h.wellFormed.getItem_fresh hy)]

theorem Updated.holds {item : Item V} {remote : ReplicationInventoryItem V}
    (hupdated : Updated item remote w w') (hknown : item.ptr < x.bound) (h : x.Holds slot w) :
    x.Holds slot w' := by
  have hwf := h.wellFormed.of_heap (le_of_eq hupdated.nextItem.symm)
  rw [← hupdated.inv] at hwf
  refine ⟨hwf, ?_, ?_⟩
  · rw [hupdated.nextItem]
    exact h.bound
  have hget : w'.inv.getItem x.oid = w.inv.getItem x.oid := by rw [hupdated.inv]
  have hnew : forall y, w.inv.getItem x.oid = some y -> x.bound ≤ y.ptr ->
      w'.state y = w.state y := by
    intro y _ hy
    unfold World.state
    rw [hupdated.cells y.ptr (Nat.ne_of_gt (lt_of_lt_of_le hknown hy))]
  by_cases hsame : x.item.ptr = item.ptr
  · cases slot with
    | some state => exact h.slot.elsewhere hget (fun hnone => by cases hnone) hnew
    | none =>
      rcases h.slot with ⟨hgetItem, st, hst, hforward⟩
      have hsameState : forall u : World V, u.state x.item = u.state item := by
        intro u
        unfold World.state
        rw [hsame]
      have hst' : w'.state x.item = some ((newerState remote st).getD st) := by
        rw [hsameState, hupdated.state, ← hsameState, hst]
        rfl
      refine ⟨by rw [hget]; exact hgetItem, _, hst', ?_⟩
      cases hnewer : newerState remote st with
      | none => exact hforward
      | some st' => exact .of_lt (lt_of_le_of_lt hforward.left (newerState_ieid hnewer))
  · apply h.slot.elsewhere hget _ hnew
    intro _
    unfold World.state
    rw [hupdated.cells x.item.ptr hsame]

def KnownBefore (known : Table OID (Item V)) (bound : Nat) : Prop :=
  forall oid item, AList.lookup oid known = some item -> item.ptr < bound

lemma processKnown_holds (online : Bool) (hnode : source.node = x.node)
    (hfresh : x.item.ptr < x.bound) (hknown : KnownBefore known x.bound)
    (remote : ReplicationInventoryItem V) (h : x.Holds slot w) :
    x.Holds (recreatedBy known x.oid slot remote)
        ((processKnown env known source online remote).exec w).2 ∧
      ((processKnown env known source online remote).exec w).2.heap.sourceCells =
        w.heap.sourceCells := by
  unfold recreatedBy
  rcases processKnown_cases env with hcreate | hkept
  · rw [hcreate.right, (recreates_iff known).mpr hcreate.left]
    simp only [and_true]
    exact ⟨createRemoteItem_holds env hnode hfresh h,
      createRemoteItem_sourceCells env h.wellFormed⟩
  · rcases hkept with ⟨hnot, item, hitem, hkept⟩
    have hfalse : ¬ (remote.oid = x.oid ∧ recreates known remote = true) :=
      fun hboth => hnot ((recreates_iff known).mp hboth.right)
    rw [if_neg hfalse]
    rcases hkept with hlocal | hremote
    · rw [hlocal.right]
      exact ⟨h, rfl⟩
    · rw [hremote.right.right]
      have hupdated := updateRemoteItem_updated env item remote source online w
      exact ⟨hupdated.holds (hknown remote.oid item hitem) h, hupdated.sourceCells⟩

lemma processRecords_holds (hnode : source.node = x.node) (hfresh : x.item.ptr < x.bound)
    (hknown : KnownBefore known x.bound) :
    forall {slot : Option (Option (ItemState V))} {w : World V}, x.Holds slot w ->
      x.Holds (records.foldl (recreatedBy known x.oid) slot)
        ((each (processKnown env known source online) records).exec w).2 := by
  induction records with
  | nil =>
    intro slot w h
    exact h
  | cons remote records ih =>
    intro slot w h
    rw [exec_each_cons, List.foldl_cons]
    exact ih (processKnown_holds env online hnode hfresh hknown remote h).left

variable (remoteInv : Table OID (ReplicationInventoryItem V))

section

omit [EvaCommon V]

theorem removeMissing_holds (oid : OID)
    (h : x.Holds none w) : x.Holds none ((removeMissing remoteInv oid).exec w).2 ∧
      ((removeMissing remoteInv oid).exec w).2.heap.sourceCells = w.heap.sourceCells := by
  unfold removeMissing
  rw [exec_when]
  split
  · simp only [exec_bind, exec_locked, exec_onMem, exec_pure]
    refine ⟨?_, rfl⟩
    cases hitem : w.inv.getItem oid with
    | none =>
      rw [h.wellFormed.removeItem_absent hitem]
      exact h.of_toMem rfl
    | some item =>
      rcases h.wellFormed.removeItem hitem with ⟨m', heq, hremoved⟩
      rw [heq]
      rcases h.slot with ⟨hget, st, hst, hforward⟩
      refine ⟨hremoved.wellFormed, ?_, ?_, st, ?_, hforward⟩
      · rw [World.withMem_toMem, hremoved.heap]
        exact h.bound
      · rw [World.withMem_toMem, hremoved.getItem]
        split
        · exact Or.inr rfl
        · exact hget
      · unfold World.state
        rw [World.withMem_toMem, hremoved.heap]
        exact hst
  · exact ⟨h, rfl⟩

lemma removeAllMissing_holds (source : Source) (oids : List OID) (h : x.Holds none w) :
    x.Holds none ((eachUntilDestroyed source (removeMissing remoteInv) oids).exec w).2 ∧
      ((eachUntilDestroyed source (removeMissing remoteInv) oids).exec
        w).2.heap.sourceCells = w.heap.sourceCells := by
  rw [exec_eachUntilDestroyed (I := fun v : World V => x.Holds none v) h
    fun oid _ _ hv => removeMissing_holds remoteInv oid hv]
  split
  · exact ⟨h, rfl⟩
  · apply exec_each_induction (removeMissing remoteInv)
      (fun v : World V => x.Holds none v ∧ v.heap.sourceCells = w.heap.sourceCells)
      oids w ⟨h, rfl⟩
    intro oid _ v hv
    have hstep := removeMissing_holds remoteInv oid hv.left
    exact ⟨hstep.left, hstep.right.trans hv.right⟩

end

lemma processSourceItems_holds (quick : Bool) (hnode : source.node = x.node)
    (hfresh : x.item.ptr < x.bound) (hknown : KnownBefore known x.bound) (h : x.Holds none w) :
    x.Holds
      (if w.sourceDestroyed source then none else recreatedState known x.oid (Table.vals remoteInv))
      ((processSourceItems env remoteInv quick (some known) source).exec w).2 := by
  have hrecords : forall u : World V, x.Holds none u ->
      u.heap.sourceCells = w.heap.sourceCells ->
      x.Holds
        (if w.sourceDestroyed source then none
          else recreatedState known x.oid (Table.vals remoteInv))
        ((eachUntilDestroyed source (processKnown env known source (w.sourceOnline source))
          (Table.vals remoteInv)).exec u).2 := by
    intro u hu hcells
    rw [exec_eachUntilDestroyed (I := fun v : World V => exists slot, x.Holds slot v) ⟨none, hu⟩ ?_]
    · have hsame : World.sourceDestroyed u source = w.sourceDestroyed source := by
        unfold World.sourceDestroyed
        rw [hcells]
      rw [hsame]
      split
      · exact hu
      · exact processRecords_holds env hnode hfresh hknown hu
    · intro remote _ v hv
      rcases hv with ⟨slot, hv⟩
      have hstep := processKnown_holds env (w.sourceOnline source) hnode hfresh hknown remote hv
      exact ⟨⟨_, hstep.left⟩, hstep.right⟩
  unfold processSourceItems
  simp only [exec_bind, exec_read, exec_when]
  cases quick with
  | true => exact hrecords w h rfl
  | false =>
    have hremoved := removeAllMissing_holds remoteInv source known.keys h
    exact hrecords _ hremoved.left hremoved.right

/-!
## Inventories
-/

def watch (w : World V) (oid : OID) (item : Item V) (start : ItemState V)
    (sourceId : String) : Watched V where
  oid := oid
  item := item
  start := start
  node := sourceId
  bound := w.heap.nextItem

lemma processUnlocked_holds (sourceId sender : String) (quick : Bool) (hwf : w.toMem.WellFormed)
    (hitem : w.inv.getItem oid = some item) (hstart : w.state item = some start)
    (hknown : w.inv.getItemsBySource sourceId = some known) :
    (watch w oid item start sourceId).Holds (if w.nodeDestroyed sourceId then none
        else recreatedState known oid (Table.vals remoteInv))
      ((processUnlocked env remoteInv sourceId sender quick).exec w).2 := by
  have hcreated := w.toMem.getOrCreateSource_created sourceId sender
  have hwatched : (watch w oid item start sourceId).Holds none
      (w.withMem (w.toMem.getOrCreateSource sourceId sender).2) := by
    have hwf' := hwf.of_heap (le_of_eq hcreated.nextItem.symm)
    rw [← hcreated.inv] at hwf'
    refine ⟨hwf', le_of_eq hcreated.nextItem.symm, ?_, start, ?_, .refl start⟩
    · rw [World.withMem_toMem, hcreated.inv]
      exact Or.inl hitem
    · unfold World.state
      rw [World.withMem_toMem, hcreated.cells]
      exact hstart
  have hbefore : KnownBefore known w.heap.nextItem := by
    intro o y hy
    exact hwf.fresh (some sourceId) o y ⟨known, hknown, hy⟩
  have hrun := processSourceItems_holds env remoteInv quick
    (hwf.getOrCreateSource_node sourceId sender) (hwf.getItem_fresh hitem) hbefore hwatched
  rw [sourceDestroyed_getOrCreateSource] at hrun
  unfold processUnlocked
  simp only [exec_bind, exec_locked, exec_onMem, hknown]
  exact hrun

/-- Items of the node that are there before and after are not rolled back. -/
def NoRollback (sourceId sender : String) (quick : Bool) (w : World V) : Prop :=
  forall oid x y a b, w.inv.getItem oid = some x -> x.node = some sourceId ->
    w.state x = some a ->
    ((processRemoteInventory env remoteInv sourceId sender quick).exec
      w).2.inv.getItem oid = some y -> y.node = some sourceId ->
    ((processRemoteInventory env remoteInv sourceId sender quick).exec w).2.state y =
      some b -> a.Forward b

/-- The records that recreate stored items of the node carry no older states. -/
def RecreatesForward (sourceId : String) (quick : Bool) (w : World V) : Prop :=
  InventoryAccepted w sourceId quick -> w.nodeDestroyed sourceId = false ->
    forall known oid x a st, w.inv.getItemsBySource sourceId = some known ->
      w.inv.getItem oid = some x -> x.node = some sourceId -> w.state x = some a ->
      recreatedState known oid (Table.vals remoteInv) = some (some st) -> a.Forward st

omit [EvaCommon V] in
lemma known_of_stored (hwf : w.toMem.WellFormed) {x : Item V} (hx : w.inv.getItem oid = some x)
    (hnode : x.node = some sourceId) :
    exists known, w.inv.getItemsBySource sourceId = some known := by
  rcases hwf.inv.indexed oid x hx with ⟨known, hknown, _⟩
  rw [hnode] at hknown
  exact ⟨known, hknown⟩

theorem noRollback_iff (env : Env V)
    (remoteInv : Table OID (ReplicationInventoryItem V)) (sourceId sender : String)
    (quick : Bool) {w : World V} (hwf : w.toMem.WellFormed) :
    NoRollback env remoteInv sourceId sender quick w <->
      RecreatesForward remoteInv sourceId quick w := by
  cases processRemoteInventory_cases env with
  | inl hrefused =>
    constructor
    · intro _ haccepted
      exact absurd haccepted hrefused.left
    · intro _ oid x y a b hx _ ha hy _ hb
      rw [hrefused.right, hx] at hy
      injection hy with hy
      unfold World.state at ha hb
      rw [hrefused.right, ← hy, ha] at hb
      injection hb with hb
      rw [hb]
      exact .refl b
  | inr haccepted =>
    rcases haccepted with ⟨haccepted, u, hu, hsame⟩
    have hholds : forall oid x a known, w.inv.getItem oid = some x ->
        w.state x = some a -> w.inv.getItemsBySource sourceId = some known ->
        (watch w oid x a sourceId).Holds
          (if w.nodeDestroyed sourceId then none
            else recreatedState known oid (Table.vals remoteInv))
          ((processRemoteInventory env remoteInv sourceId sender quick).exec w).2 := by
      intro oid x a known hx ha hknown
      have hrun := processUnlocked_holds env remoteInv sourceId sender quick
        (w := u) (by rw [hu]; exact hwf) (by rw [hu]; exact hx)
        (by unfold World.state; rw [hu]; exact ha) (by rw [hu]; exact hknown)
      unfold watch World.nodeDestroyed World.sourceDestroyed at hrun ⊢
      rw [hu] at hrun
      exact hrun.of_toMem hsame
    constructor
    · intro hno _ halive known oid x a st hknown hx hnode ha hst
      have hrun := hholds oid x a known hx ha hknown
      rw [halive, if_neg (by simp), hst] at hrun
      rcases hrun.slot with ⟨y, hy, hynode, _, hystate⟩
      exact hno oid x y a st hx hnode ha hy hynode hystate
    · intro hforward oid x y a b hx hnode ha hy hynode hb
      rcases known_of_stored hwf hx hnode with ⟨known, hknown⟩
      apply (hholds oid x a known hx ha hknown).forward hy hb
      intro st hst
      cases halive : w.nodeDestroyed sourceId with
      | true =>
        rw [halive, if_pos rfl] at hst
        cases hst
      | false =>
        rw [halive, if_neg (by simp)] at hst
        exact hforward haccepted halive known oid x a st hknown hx hnode ha hst

def sensorRecord (ieid : IEID) (metaValue : Option (Option Int)) :
    ReplicationInventoryItem (Option Int) where
  oid := { kind := .sensor, fullId := "a" }
  act := none
  enabled := true
  ieid := some ieid
  metaValue := metaValue
  status := some 1
  value := some (some ieid.t)
  t := some (.fin ieid.t)

def knownSensorWorld : World (Option Int) :=
  World.ofMem (InventoryOp.run (Env.sample (Option Int)).clock 1
    [.appendRemoteItem (sensorRecord { bootId := 1, t := 5 } none)
      { ptr := 0, node := "n1", svc := "eva.repl.1" }])

def staleInventory (metaValue : Option (Option Int)) :
    Table OID (ReplicationInventoryItem (Option Int)) :=
  AList.insert { kind := .sensor, fullId := "a" } (sensorRecord { bootId := 1, t := 3 } metaValue) ∅

theorem noRollback_sameMeta :
    NoRollback (Env.sample (Option Int)) (staleInventory none) "n1" "eva.repl.1" false
      knownSensorWorld := by
  apply (noRollback_iff (Env.sample (Option Int)) (staleInventory none) "n1" "eva.repl.1"
    false (InventoryOp.run_wellFormed _ _ _)).mpr
  intro _ _ known oid x a st hknown _ _ _ hst
  have hkept : (knownSensorWorld.inv.getItemsBySource "n1").map (fun known =>
      recreates known (sensorRecord { bootId := 1, t := 3 } none)) = some false := by
    decide
  simp only [hknown, Option.map_some, Option.some.injEq] at hkept
  have hnone : recreatedState known oid (Table.vals (staleInventory none)) = none := by
    show recreatedBy known oid none (sensorRecord { bootId := 1, t := 3 } none) = none
    unfold recreatedBy
    rw [hkept]
    simp
  rw [hnone] at hst
  cases hst

/-- With another meta the sensor is recreated with its older state. -/
theorem not_noRollback_otherMeta :
    ¬ NoRollback (Env.sample (Option Int)) (staleInventory (some (some 1))) "n1"
      "eva.repl.1" false knownSensorWorld := by
  intro h
  have hforward := h { kind := .sensor, fullId := "a" }
    { ptr := 0, oid := { kind := .sensor, fullId := "a" }, metaValue := none,
      source := some { ptr := 0, node := "n1", svc := "eva.repl.1" }, logic := none,
      action := none }
    { ptr := 1, oid := { kind := .sensor, fullId := "a" }, metaValue := some (some 1),
      source := some { ptr := 0, node := "n1", svc := "eva.repl.1" }, logic := none,
      action := none }
    { status := 1, value := some 5, act := none, ieid := { bootId := 1, t := 5 }, t := .fin 5 }
    { status := 1, value := some 3, act := none, ieid := { bootId := 1, t := 3 }, t := .fin 3 }
    (by decide) rfl (by decide) (by decide) rfl (by decide)
  exact absurd hforward.left (by decide)

end Core
end Eva4
