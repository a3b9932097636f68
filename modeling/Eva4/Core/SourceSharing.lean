import Eva4.Lib.Interleaving
import Eva4.Core.SourceSteps

/-!
# The source of a node

All items of a node are to share one source, the one that is registered for the node: its
online flag is theirs.  The inventory processor looks the source up once and appends items
with it later, when another one may have been registered.
-/

namespace Eva4.Core

open Lib Items

variable {V : Type}

structure Shares (node : String) (w : World V) : Prop where
  wellFormed : w.toMem.WellFormed
  shares : w.toMem.SharesSource node

namespace Shares

variable {w : World V} (h : Shares node w)
include h

lemma of_inv (hinv : w'.inv = w.inv) (hnext : w.heap.nextItem ≤ w'.heap.nextItem) :
    Shares node w' where
  wellFormed := by
    have hwf := h.wellFormed.of_heap hnext
    rw [← hinv] at hwf
    exact hwf
  shares := h.shares.of_inv hinv

lemma remove : Shares node (w.removeStep oid) where
  wellFormed := by
    cases hfound : w.inv.getItem oid with
    | none =>
      rw [World.removeStep_absent h.wellFormed hfound]
      exact h.wellFormed
    | some item =>
      rcases World.removeStep_present h.wellFormed hfound with ⟨m', heq, hm'⟩
      rw [heq]
      exact hm'.wellFormed
  shares := h.shares.removeItem h.wellFormed

lemma take : Shares node (w.takeStep sourceId sender) := by
  have hcreated := Mem.getOrCreateSource_created w.toMem sourceId sender
  exact h.of_inv hcreated.inv (le_of_eq hcreated.nextItem.symm)

variable [EvaCommon V]

theorem append (hsource : source.node = node -> forall stored,
      AList.lookup node w.inv.sources = some stored -> stored = source) :
    Shares node (w.appendStep remote source) := by
  cases hstate : Mem.replState remote with
  | error e =>
    rw [World.appendStep_invalid hstate]
    exact h
  | ok state =>
    rcases h.wellFormed.appendRemoteItem source hstate with ⟨m', heq, hm'⟩
    have hnew := heq
    rw [Mem.appendRemoteItem, hstate] at hnew
    constructor
    · show (w.toMem.appendRemoteItem remote source).2.WellFormed
      rw [heq]
      exact hm'.wellFormed
    · show (w.toMem.appendRemoteItem remote source).2.SharesSource node
      rw [heq]
      apply h.shares.appendNew h.wellFormed hnew hm'
      intro s stored hs hnode hstored
      cases hs
      exact hsource hnode stored hstored

lemma accept : Shares node (w.acceptStep oid rse sender) := by
  apply h.take.append
  intro hnode stored hstored
  have hinv := (Mem.getOrCreateSource_created w.toMem rse.node sender).inv
  rw [h.wellFormed.getOrCreateSource_node] at hnode
  have hbefore : AList.lookup rse.node w.inv.sources = some stored := by
    rw [hnode, ← hstored]
    exact congrArg (fun inv => AList.lookup node inv.sources) hinv.symm
  unfold Mem.getOrCreateSource
  rw [hbefore]

lemma createSensor : Shares node (w.withMem (w.toMem.createItem clock oid (some ieid) none).2) := by
  rcases w.toMem.createItem_cases clock oid (some ieid) with
    ⟨_, _, e, heq⟩ | ⟨base, cell, hbase, _, _, heq⟩
  · rw [heq]
    exact h
  · have hbefore : base.WellFormed ∧ base.SharesSource node := by
      rcases hbase with hbase | hbase
      · rw [hbase]
        exact ⟨h.wellFormed, h.shares⟩
      · rw [hbase]
        exact ⟨h.wellFormed.advance, h.shares.of_inv rfl⟩
    rw [heq]
    cases hfound : base.inv.getItem (blankItem (V := V) oid).oid with
    | some old =>
      rw [hbefore.left.appendNew_duplicate cell hfound]
      exact ⟨hbefore.left.of_heap (Nat.le_succ _), hbefore.right.of_inv rfl⟩
    | none =>
      rcases hbefore.left.appendNew (blankItem oid) cell (Or.inr hfound) with ⟨m', happend, hm'⟩
      rw [happend]
      apply Shares.mk hm'.wellFormed
      apply hbefore.right.appendNew hbefore.left happend hm'
      intro source _ hsource
      cases hsource

end Shares

/-!
## Runs
-/

/-- The inventory processor appends an item of the node only with the source registered
for it, or when none is registered. -/
def AppendsRegistered (node : String) (_ : Held Lock) (label : Label V) (w : World V) : Prop :=
  match label with
  | .appendRemote _ source => source.node = node -> forall stored,
      AList.lookup node w.inv.sources = some stored -> stored = source
  | _ => True

lemma Shares.step [EvaCommon V] {w : World V} (h : Shares node w)
    (hstep : RemoteStep env held label update) (hadmits : AppendsRegistered node held label w) :
    Shares node (update w) := by
  cases hstep with
  | keeps hkeeps => exact h.of_inv (hkeeps w).inv (le_of_eq (hkeeps w).nextItem.symm)
  | append remote source => exact h.append hadmits
  | remove oid => exact h.remove
  | accept oid rse sender => exact h.accept
  | take sourceId sender => exact h.take
  | lock sourceId =>
    show Shares node (w.lockSource sourceId).2
    unfold World.lockSource
    split
    · exact h
    · exact h.of_inv rfl (le_refl _)
  | unlock | markDestroyed => exact h.of_inv rfl (le_refl _)
  | markOnline sourceId online =>
    show Shares node (w.markSourceOnline sourceId online)
    unfold World.markSourceOnline
    split
    · exact h
    · exact h.of_inv rfl (le_refl _)
  | listItems sourceId => exact h
  | createSensor oid ieid => exact h.createSensor

theorem Shares.connected_markSourceOnline (h : Shares node w)
    (hitem : (w.markSourceOnline node online).inv.getItem oid = some item)
    (hsource : item.source = some source) (hnode : source.node = node) :
    (w.markSourceOnline node online).connected item = online := by
  have hinv : (w.markSourceOnline node online).inv = w.inv := by
    unfold World.markSourceOnline
    split <;> rfl
  rw [hinv] at hitem
  unfold World.connected World.markSourceOnline
  rw [hsource, h.shares oid item source hitem hsource hnode]
  simp only [World.sourceOnline, Function.update_self]

def SourceCall.system [EvaCommon V] (env : Env V) (calls : List (SourceCall V))
    (w : World V) : Sys (World V) (Label V) Lock where
  store := w
  tasks := calls.map fun call => Task.start (call.prog env)

/--
In every run in which the inventory processor appends items of the node only with the source
registered for it: all items of the node have that source, and when the source is marked
online or offline all of them are connected or not.
-/
theorem items_share_source [EvaCommon V] (env : Env V) (calls : List (SourceCall V)) {w : World V}
    (hwf : w.toMem.WellFormed) {node : String} (hshares : w.toMem.SharesSource node)
    {last : Sys (World V) (Label V) Lock}
    (hrun : Sys.Reaches (AppendsRegistered node) (SourceCall.system env calls w) last) :
    last.store.toMem.SharesSource node ∧
      forall i online next, last.nextLabel i = some (.markOnline node online) ->
        last.step i = some next -> forall oid item source, next.store.inv.getItem oid = some item ->
            item.source = some source -> source.node = node ->
              next.store.connected item = online := by
  have huses : (SourceCall.system env calls w).Uses (RemoteStep env) :=
    Sys.uses_start fun call _ => uses_sourceCall call
  have hpreserves : forall held label update s, RemoteStep env held label update ->
      AppendsRegistered node held label s -> Shares node s -> Shares node (update s) :=
    fun _ _ _ _ hstep hadmits h => h.step hstep hadmits
  have hlast := hrun.preserves hpreserves huses ⟨hwf, hshares⟩
  apply And.intro hlast.right.shares
  intro i online next hlabel hstep oid item source hitem hsource hnode
  rcases hlast.left.labelled hlabel hstep with ⟨held, update, hallowed, hstore⟩
  cases hallowed with
  | markOnline =>
    rw [hstore] at hitem ⊢
    exact hlast.right.connected_markSourceOnline hitem hsource hnode

def acceptedEvent : ReplicationStateEvent (Option Int) where
  status := 1
  value := none
  act := none
  ieid := { bootId := 1, t := 1 }
  t := .fin 1
  node := "n"
  forceAccept := true

/-- A state of an unknown item is accepted and another item appended from an inventory of the
node, then the source of both is marked offline. -/
def acceptedSystem : Sys (World (Option Int)) (Label (Option Int)) Lock :=
  SourceCall.system (Env.sample (Option Int))
    [.remote (.state (remoteSensor "b").oid (.basic acceptedEvent) "svc"),
      .mark 0 none "n" false true, .remote (sensorInventory "a")] World.new

def checkRegistered (label : Label (Option Int)) (w : World (Option Int)) : Bool :=
  match label with
  | .appendRemote _ source => decide (AList.lookup "n" w.inv.sources = some source)
  | _ => true

lemma appendsRegistered_of_check (held : Held Lock) (label : Label (Option Int))
    (w : World (Option Int)) (h : checkRegistered label w = true) :
    AppendsRegistered "n" held label w := by
  cases label with
  | appendRemote remote source =>
    intro _ stored hstored
    exact Option.some.inj (hstored.symm.trans (of_decide_eq_true h))
  | _ => trivial

def acceptedRun : Option (Sys (World (Option Int)) (Label (Option Int)) Lock) :=
  acceptedSystem.runChecked checkRegistered (List.replicate 6 0 ++ List.replicate 10 2 ++ [1])

/-- The item of the inventory is no longer connected. -/
theorem items_share_source_accepted :
    exists last next, acceptedRun = some last ∧
      last.nextLabel 1 = some (.markOnline "n" false) ∧ last.step 1 = some next ∧
      exists item, next.store.inv.getItem (remoteSensor "a").oid = some item ∧
        next.store.connected item = false := by
  have hshared : forall last, acceptedRun = some last -> _ :=
    fun last hlast => items_share_source (Env.sample (Option Int)) _ Mem.new_wellFormed
      (Mem.new_sharesSource "n") (.of_runChecked appendsRegistered_of_check hlast)
  refine ⟨_, _, rfl, rfl, rfl, _, rfl, ?_⟩
  exact (hshared _ rfl).right 1 false _ rfl rfl (remoteSensor "a").oid _ _ rfl rfl rfl

def racingSystem : Sys (World (Option Int)) (Label (Option Int)) Lock :=
  SourceCall.system (Env.sample (Option Int))
    [.remote (sensorInventory "a"), .remote (sensorInventory "b"),
      .mark 0 none "n" false true] World.new

/-- Two processors that each have created a source append an item each, then the source of
the node is marked offline: the item of the second one stays connected. -/
theorem unregistered_source_stays_online : exists last, racingSystem.run
        [0, 0, 0, 1, 1, 1, 0, 0, 0, 0, 0, 0, 0, 1, 1, 1, 1, 1, 1, 1, 2, 2, 2] = some last ∧
      exists item source, last.store.inv.getItem (remoteSensor "b").oid = some item ∧
        item.source = some source ∧ source.node = "n" ∧
        AList.lookup "n" last.store.inv.sources ≠ some source ∧
        last.store.connected item = true := by
  refine ⟨_, rfl, _, _, rfl, rfl, rfl, ?_, rfl⟩
  decide

end Eva4.Core
