import Eva4.Core.Replication
import Eva4.Core.WorldFrame

/-!
# The steps of processing an inventory

What one record of a remote inventory does to the items, and the loops over the records
of a source that is not destroyed.
-/

namespace Eva4.Core

open Lib Items Prog

variable {V : Type}

/-!
## Loops
-/

theorem exec_eachUntilDestroyed {I : World V -> Prop} : forall {xs : List X} {w : World V}, I w ->
      (forall x, x ∈ xs -> forall w : World V, I w -> I ((f x).exec w).2 ∧
        ((f x).exec w).2.heap.sourceCells = w.heap.sourceCells) ->
      (eachUntilDestroyed source f xs).exec w =
        if w.sourceDestroyed source then ((), w) else (each f xs).exec w := by
  intro xs
  induction xs with
  | nil =>
    intro w _ _
    simp [eachUntilDestroyed]
  | cons x xs ih =>
    intro w hI hround
    unfold eachUntilDestroyed
    simp only [exec_bind, exec_read, exec_ite, exec_pure, exec_each_cons]
    have hx := hround x List.mem_cons_self w hI
    split
    · rfl
    · rename_i halive
      rw [ih hx.left fun y hy => hround y (List.mem_cons_of_mem x hy)]
      have hsame : World.sourceDestroyed ((f x).exec w).2 source = w.sourceDestroyed source := by
        unfold World.sourceDestroyed
        rw [hx.right]
      rw [hsame, if_neg halive]

/-!
## Sources
-/

def World.nodeDestroyed (w : World V) (node : String) : Bool :=
  match AList.lookup node w.inv.sources with
  | some source => w.sourceDestroyed source
  | none => false

lemma sourceDestroyed_getOrCreateSource (w : World V) {sourceId svc : String} :
    (w.withMem (w.toMem.getOrCreateSource sourceId svc).2).sourceDestroyed
        (w.toMem.getOrCreateSource sourceId svc).1 = w.nodeDestroyed sourceId := by
  unfold Mem.getOrCreateSource World.nodeDestroyed
  cases AList.lookup sourceId w.inv.sources with
  | some source => rfl
  | none => simp [World.sourceDestroyed, Heap.allocSource, World.withMem]

/-!
## Creating an item
-/

variable (env : Env V)

lemma exec_announceRemote_toMem :
    ((announceRemote env oid source online st).exec w).2.toMem = w.toMem := by
  cases st <;> rfl

variable [EvaCommon V]

lemma exec_createRemoteItem_toMem :
    ((createRemoteItem env remote source online).exec w).2.toMem =
      (w.toMem.appendRemoteItem remote source).2 := by
  unfold createRemoteItem
  rw [exec_locked, exec_bind, exec_onMem]
  cases (w.toMem.appendRemoteItem remote source).1 with
  | error e => rfl
  | ok item =>
    simp only [exec_bind, exec_readState, exec_when]
    split
    · rw [exec_announceRemote_toMem, World.withMem_toMem]
    · rfl

variable {w : World V} {remote : ReplicationInventoryItem V} {item : Item V}

lemma createRemoteItem_invalid (h : Mem.replState remote = .error e) :
    ((createRemoteItem env remote source online).exec w).2.toMem = w.toMem := by
  rw [exec_createRemoteItem_toMem, Mem.appendRemoteItem_invalid h]

lemma createRemoteItem_appended (source : Source) (online : Bool) (hwf : w.toMem.WellFormed)
    (h : Mem.replState remote = .ok state) :
    w.toMem.Appended (remote.item source) { state := state, enabled := remote.enabled }
      ((createRemoteItem env remote source online).exec w).2.toMem := by
  rcases hwf.appendRemoteItem source h with ⟨m', heq, happended⟩
  rw [exec_createRemoteItem_toMem, heq]
  exact happended

lemma createRemoteItem_sourceCells (hwf : w.toMem.WellFormed) :
    ((createRemoteItem env remote source online).exec w).2.heap.sourceCells =
      w.heap.sourceCells := by
  cases h : Mem.replState remote with
  | error e => rw [createRemoteItem_invalid env h]
  | ok state => rw [(createRemoteItem_appended env source online hwf h).heap]; rfl

/-!
## Updating an item
-/

lemma newerState_ieid (h : newerState remote st = some st') : st.ieid < st'.ieid := by
  unfold newerState at h
  split at h
  · cases hrs : (EvaCommon.toReplicationState remote : EResult (ReplicationState V)) with
    | error e =>
      rw [hrs] at h
      cases h
    | ok rs =>
      rw [hrs] at h
      simp only at h
      split at h
      · rename_i hlt
        cases h
        exact hlt
      · cases h
  · cases h

structure Updated (item : Item V) (remote : ReplicationInventoryItem V)
    (w w' : World V) : Prop where
  inv : w'.inv = w.inv
  nextItem : w'.heap.nextItem = w.heap.nextItem
  sourceCells : w'.heap.sourceCells = w.heap.sourceCells
  cells : forall ptr, ptr ≠ item.ptr -> w'.heap.cells ptr = w.heap.cells ptr
  state : w'.state item = (w.state item).map fun st => (newerState remote st).getD st

lemma updateFromRecord_updated (item : Item V) (remote : ReplicationInventoryItem V) (w : World V) :
    Updated item remote w (World.updateFromRecord item remote w).2 := by
  unfold World.updateFromRecord
  cases hst : w.state item with
  | none =>
    refine ⟨rfl, rfl, rfl, fun _ _ => rfl, ?_⟩
    simp [hst]
  | some st =>
    cases hnew : newerState remote st with
    | none =>
      simp only [Option.bind_some, hnew]
      refine ⟨rfl, rfl, rfl, fun _ _ => rfl, ?_⟩
      simp [hst, hnew]
    | some st' =>
      simp only [Option.bind_some, hnew]
      refine ⟨rfl, rfl, rfl, fun ptr hptr => w.setState_cells item st' hptr, ?_⟩
      simp [hst, hnew]

lemma Updated.of_syncEnabled (h : Updated item remote (World.syncEnabled item enabled w) w') :
    Updated item remote w w' := by
  unfold World.syncEnabled at h
  split at h
  · exact h
  · refine ⟨h.inv, h.nextItem, h.sourceCells, ?_, ?_⟩
    · intro ptr hptr
      rw [h.cells ptr hptr]
      exact w.setEnabled_cells hptr
    · rw [h.state, World.state_setEnabled]

lemma Updated.of_toMem (h : Updated item remote w w') (hmem : w''.toMem = w'.toMem) :
    Updated item remote w w'' where
  inv := by rw [hmem, h.inv]
  nextItem := by rw [hmem, h.nextItem]
  sourceCells := by rw [hmem, h.sourceCells]
  cells := by
    intro ptr hptr
    rw [hmem, h.cells ptr hptr]
  state := by
    have hstate := h.state
    unfold World.state at hstate ⊢
    rw [hmem, hstate]

lemma updateRemoteItem_updated (item : Item V) (remote : ReplicationInventoryItem V)
    (source : Source) (online : Bool) (w : World V) :
    Updated item remote w ((updateRemoteItem env item remote source online).exec w).2 := by
  have hupdated := updateFromRecord_updated item remote (World.syncEnabled item remote.enabled w)
  exact hupdated.of_syncEnabled.of_toMem (exec_announceRemote_toMem env)

/-!
## Records
-/

/-- The record of a known item is created anew: the item is missing or its meta differs. -/
def Recreates (existing : Table OID (Item V)) (remote : ReplicationInventoryItem V) : Prop :=
  forall item, AList.lookup remote.oid existing = some item ->
    item.source.isSome = true ∧ (item.metaValue == remote.metaValue) = false

lemma processKnown_cases :
    (Recreates existing remote ∧ processKnown env existing source online remote =
        createRemoteItem env remote source online) ∨ (¬ Recreates existing remote ∧ exists item,
      AList.lookup remote.oid existing = some item ∧
      (item.source = none ∧ processKnown env existing source online remote = pure () ∨
        item.source ≠ none ∧ (item.metaValue == remote.metaValue) = true ∧
        processKnown env existing source online remote =
          updateRemoteItem env item remote source online)) := by
  unfold processKnown Recreates
  cases AList.lookup remote.oid existing with
  | none =>
    apply Or.inl
    refine ⟨?_, rfl⟩
    intro item h
    cases h
  | some item =>
    cases hsource : item.source with
    | none =>
      apply Or.inr
      refine ⟨?_, item, rfl, Or.inl ⟨hsource, ?_⟩⟩
      · intro h
        have hsome := (h item rfl).left
        rw [hsource] at hsome
        cases hsome
      · simp [hsource]
    | some src =>
      cases hmeta : item.metaValue == remote.metaValue with
      | true =>
        apply Or.inr
        refine ⟨?_, item, rfl, Or.inr ⟨by simp [hsource], hmeta, ?_⟩⟩
        · intro h
          have hdiffers := (h item rfl).right
          rw [hmeta] at hdiffers
          cases hdiffers
        · simp [hsource, hmeta]
      | false =>
        apply Or.inl
        constructor
        · intro item' h
          injection h with h
          rw [← h, hsource]
          exact ⟨rfl, hmeta⟩
        · simp [hsource, hmeta]

/-!
## Inventories
-/

/-- The inventory of a node is processed: its id is none of the core's and no one else does. -/
def InventoryAccepted (w : World V) (sourceId : String) (quick : Bool) : Prop :=
  startsWithStr sourceId "." = false ∧ (quick = true ∨ sourceId ∉ w.invProcess)

lemma processRemoteInventory_cases : (¬ InventoryAccepted w sourceId quick ∧
      ((processRemoteInventory env remoteInv sourceId sender quick).exec w).2.toMem = w.toMem) ∨
    (InventoryAccepted w sourceId quick ∧ exists u : World V, u.toMem = w.toMem ∧
      ((processRemoteInventory env remoteInv sourceId sender quick).exec w).2.toMem =
        ((processUnlocked env remoteInv sourceId sender quick).exec u).2.toMem) := by
  unfold processRemoteInventory InventoryAccepted
  cases hreserved : startsWithStr sourceId "." with
  | true => exact Or.inl ⟨by simp, rfl⟩
  | false =>
    cases quick with
    | true => exact Or.inr ⟨⟨rfl, Or.inl rfl⟩, w, rfl, by simp⟩
    | false =>
      simp only [Bool.false_eq_true, if_false, exec_bind, exec_atomic,
        exec_ite, exec_pure, exec_modify]
      unfold World.lockSource
      by_cases hbusy : sourceId ∈ w.invProcess
      · simp only [if_pos hbusy, Bool.false_eq_true, if_false]
        exact Or.inl ⟨by simp [hbusy], trivial⟩
      · simp only [if_neg hbusy, if_true]
        exact Or.inr ⟨⟨trivial, Or.inr hbusy⟩,
          { w with invProcess := sourceId :: w.invProcess }, rfl, rfl⟩

/-!
## State events
-/

def World.afterEvent (w : World V) (oid : OID) (item : Item V) (source : Source)
    (rse : ReplicationStateEvent V) (st : ItemState V) : World V :=
  if st.ieid < rse.ieid then
    (w.setState item (st.setFromRs rse.replicationState)).send
      (.remoteState true oid (RemoteStateEvent.fromLocalStateEvent
        (st.setFromRs rse.replicationState) source.node (w.sourceOnline source)))
  else w.send (.remoteState false oid (RemoteStateEvent.fromReplicationStateEvent rse))

section

omit [EvaCommon V]

lemma exec_setReplicatedState_own (hsource : item.source = some source)
    (hnode : rse.node = source.node) (hst : w.state item = some st) :
    (setReplicatedState env oid rse sender item).exec w =
      (.ok (), w.afterEvent oid item source rse st) := by
  unfold setReplicatedState World.afterEvent World.updateFromEvent
  simp only [exec_bind, exec_readState, hsource, hst, Option.isNone_some,
    Bool.false_eq_true, if_false, hnode, ne_eq, not_true_eq_false, exec_atomic]
  by_cases hlt : st.ieid < rse.ieid
  · simp only [if_pos hlt]
    rfl
  · simp only [if_neg hlt]
    rfl

lemma exec_setReplicatedState_other
    (h : forall source st, item.source = some source -> rse.node = source.node ->
      w.state item ≠ some st) : ((setReplicatedState env oid rse sender item).exec w).2 = w := by
  unfold setReplicatedState
  simp only [exec_bind, exec_readState]
  cases hsource : item.source with
  | none => rfl
  | some source =>
    cases hst : w.state item with
    | none => rfl
    | some st =>
      have hnode : rse.node ≠ source.node := by
        intro hnode
        exact h source st hsource hnode hst
      simp [hnode]

end

end Eva4.Core
