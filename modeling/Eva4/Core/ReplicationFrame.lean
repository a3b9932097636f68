import Eva4.Items.IndexAgreement
import Eva4.Core.ReplicationSteps

/-!
# Items of other owners under replication

An inventory of a node removes and replaces items by OID.  It leaves the items of other
owners alone exactly when none of these OIDs belongs to one of them; the state events of
a node always leave them alone.
-/

namespace Eva4.Core

open Lib Items Prog Mem

variable {V : Type}

/-!
## Loops over a source
-/

variable {prot : Option String -> Prop} {obs : ItemCell V -> B} {w : World V} {item : Item V}

variable {I : Mem V -> Prop} {existing : Table OID (Item V)} {f : X -> CoreM V Unit}

lemma exec_each_sourceCells (hkeep : forall m m', I m -> m.Evolves prot m' -> I m')
    (hwf : w.toMem.WellFormed) (hI : I w.toMem)
    (hround : forall x, x ∈ xs -> forall w : World V, w.toMem.WellFormed -> I w.toMem ->
      w.toMem.Evolves prot ((f x).exec w).2.toMem ∧
        ((f x).exec w).2.heap.sourceCells = w.heap.sourceCells) :
    ((each f xs).exec w).2.heap.sourceCells = w.heap.sourceCells := by
  have hall := exec_each_induction f
    (fun u : World V => (u.toMem.WellFormed ∧ I u.toMem) ∧
      u.heap.sourceCells = w.heap.sourceCells) xs w ⟨⟨hwf, hI⟩, rfl⟩ ?_
  · exact hall.right
  · intro x hx u hu
    have hstep := hround x hx u hu.left.left hu.left.right
    exact ⟨⟨hstep.left.wellFormed, hkeep _ _ hu.left.right hstep.left⟩, hstep.right.trans hu.right⟩

structure Alters (prot : Option String -> Prop) (obs : ItemCell V -> B) (touched : OID -> Prop)
    (w w' : World V) : Prop where
  items : w.toMem.Touches prot obs touched w'.toMem
  sources : w'.heap.sourceCells = w.heap.sourceCells

theorem eachUntilDestroyed_alters {touched : X -> OID -> Prop}
    (hkeep : forall m m', I m -> m.Evolves prot m' -> I m') (hwf : w.toMem.WellFormed)
    (hI : I w.toMem)
    (hround : forall x, x ∈ xs -> forall w : World V, w.toMem.WellFormed -> I w.toMem ->
      Alters prot obs (touched x) w ((f x).exec w).2) : Alters prot obs
        (fun oid => w.sourceDestroyed source = false ∧ exists x, x ∈ xs ∧ touched x oid) w
        ((eachUntilDestroyed source f xs).exec w).2 := by
  have hloop : (eachUntilDestroyed source f xs).exec w =
      if w.sourceDestroyed source then ((), w) else (each f xs).exec w := by
    apply exec_eachUntilDestroyed (I := fun u : World V => u.toMem.WellFormed ∧ I u.toMem) ⟨hwf, hI⟩
    intro x hx u hu
    have hstep := hround x hx u hu.left hu.right
    exact ⟨⟨hstep.items.evolves.wellFormed, hkeep _ _ hu.right hstep.items.evolves⟩, hstep.sources⟩
  rw [hloop]
  cases hdestroyed : w.sourceDestroyed source with
  | true =>
    refine ⟨(Touches.refl hwf).congr ?_, rfl⟩
    intro oid
    simp
  | false =>
    constructor
    · apply (exec_each_touches hkeep hwf hI fun x hx u hu hIu => (hround x hx u hu hIu).items).congr
      intro oid
      simp
    · exact exec_each_sourceCells hkeep hwf hI fun x hx u hu hIu =>
        ⟨(hround x hx u hu hIu).items.evolves, (hround x hx u hu hIu).sources⟩

/-!
## Records
-/

def KnownApart (prot : Option String -> Prop) (existing : Table OID (Item V)) (m : Mem V) : Prop :=
  forall oid x, AList.lookup oid existing = some x -> m.Apart prot x.ptr

lemma KnownApart.evolves (m m' : Mem V) (h : KnownApart prot existing m)
    (hevolves : m.Evolves prot m') : KnownApart prot existing m' :=
  fun oid x hx => hevolves.apart (h oid x hx)

variable (remoteInv : Table OID (ReplicationInventoryItem V))

lemma removeMissing_alters (hwf : w.toMem.WellFormed) :
    Alters prot obs (fun o => o = oid ∧ oid ∉ remoteInv) w
      ((removeMissing remoteInv oid).exec w).2 := by
  unfold removeMissing
  rw [exec_when]
  by_cases hmem : oid ∈ remoteInv
  · rw [if_neg (by simp [hmem])]
    refine ⟨(Touches.refl hwf).congr ?_, rfl⟩
    intro o
    simp [hmem]
  · rw [if_pos (by simp [hmem])]
    constructor
    · apply hwf.touches_removeItem.congr
      intro o
      simp [hmem]
    · rfl

variable (prot obs) in
lemma removeAllMissing_alters (source : Source) (oids : List OID) (hwf : w.toMem.WellFormed) :
    Alters prot obs
      (fun o => w.sourceDestroyed source = false ∧
        exists oid, oid ∈ oids ∧ o = oid ∧ oid ∉ remoteInv) w
      ((eachUntilDestroyed source (removeMissing remoteInv) oids).exec w).2 :=
  eachUntilDestroyed_alters (I := fun _ => True) (fun _ _ _ _ => trivial) hwf trivial
    fun _ _ _ hu _ => removeMissing_alters remoteInv hu

variable [EvaCommon V]

lemma createRemoteItem_touches (hsource : ¬ prot (some source.node)) (hwf : w.toMem.WellFormed) :
    w.toMem.Touches prot obs
      (fun oid => oid = remote.oid ∧ (replState remote).isOk = true)
      ((createRemoteItem env remote source online).exec w).2.toMem := by
  cases hstate : replState remote with
  | error e =>
    rw [createRemoteItem_invalid env hstate]
    apply (Touches.refl hwf).congr
    intro oid
    simp [Except.isOk, Except.toBool]
  | ok state =>
    have happended := createRemoteItem_appended env source online hwf hstate
    apply (happended.touches hwf hsource).congr
    intro oid
    simp [Except.isOk, Except.toBool, ReplicationInventoryItem.item]

lemma processKnown_alters (hsource : ¬ prot (some source.node)) (hwf : w.toMem.WellFormed)
    (hapart : KnownApart prot existing w.toMem) : Alters prot obs
      (fun oid => oid = remote.oid ∧ Recreates existing remote ∧ (replState remote).isOk = true) w
      ((processKnown env existing source online remote).exec w).2 := by
  rcases processKnown_cases env with hcreate | hkept
  · rw [hcreate.right]
    refine ⟨(createRemoteItem_touches hsource hwf).congr ?_,
      createRemoteItem_sourceCells env hwf⟩
    intro oid
    simp [hcreate.left]
  · rcases hkept with ⟨hnot, item, hitem, hkept⟩
    have hnone : forall oid, False <->
        oid = remote.oid ∧ Recreates existing remote ∧ (replState remote).isOk = true := by
      intro oid
      simp [hnot]
    rcases hkept with hlocal | hremote
    · rw [hlocal.right]
      exact ⟨(Touches.refl hwf).congr hnone, rfl⟩
    · rw [hremote.right.right]
      have hupdated := updateRemoteItem_updated env item remote source online w
      exact ⟨(Touches.of_cells hwf hupdated.inv hupdated.nextItem (hapart remote.oid item hitem)
        hupdated.cells).congr hnone, hupdated.sourceCells⟩

lemma processFirst_alters (hsource : ¬ prot (some source.node)) (hwf : w.toMem.WellFormed) :
    Alters prot obs
      (fun oid => oid = remote.oid ∧ checkState remote = true ∧ (replState remote).isOk = true) w
      ((processFirst env source online remote).exec w).2 := by
  unfold processFirst
  cases hcheck : checkState remote with
  | false =>
    refine ⟨(Touches.refl hwf).congr ?_, rfl⟩
    intro oid
    simp
  | true =>
    refine ⟨(createRemoteItem_touches hsource hwf).congr ?_,
      createRemoteItem_sourceCells env hwf⟩
    intro oid
    simp

/-!
## Inventories
-/

def recordsTouch (quick : Bool) (existing : Option (Table OID (Item V))) (oid : OID) : Prop :=
  match existing with
  | some items =>
    quick = false ∧ oid ∈ items ∧ oid ∉ remoteInv ∨
      exists remote, remote ∈ Table.vals remoteInv ∧ oid = remote.oid ∧
        Recreates items remote ∧ (Mem.replState remote).isOk = true
  | none =>
    exists remote, remote ∈ Table.vals remoteInv ∧ oid = remote.oid ∧
      checkState remote = true ∧ (Mem.replState remote).isOk = true

section

variable (env : Env V) (remoteInv : Table OID (ReplicationInventoryItem V))

lemma processSourceItems_touches (quick : Bool) {existing : Option (Table OID (Item V))}
    (hsource : ¬ prot (some source.node)) (hwf : w.toMem.WellFormed)
    (hapart : forall items, existing = some items -> KnownApart prot items w.toMem) :
    w.toMem.Touches prot obs (fun oid => w.sourceDestroyed source = false ∧
        recordsTouch remoteInv quick existing oid)
      ((processSourceItems env remoteInv quick existing source).exec w).2.toMem := by
  unfold processSourceItems recordsTouch
  cases existing with
  | none =>
    exact (eachUntilDestroyed_alters (I := fun _ => True) (fun _ _ _ _ => trivial) hwf trivial
      fun remote _ u hu _ => processFirst_alters hsource hu).items
  | some items =>
    simp only [exec_bind, exec_when]
    have hknown := hapart items rfl
    have hrecords : forall u : World V, u.toMem.WellFormed ->
        KnownApart prot items u.toMem -> u.toMem.Touches prot obs
          (fun oid => u.sourceDestroyed source = false ∧ exists remote,
            remote ∈ Table.vals remoteInv ∧ oid = remote.oid ∧
              Recreates items remote ∧ (replState remote).isOk = true)
          ((eachUntilDestroyed source (processKnown env items source (w.sourceOnline source))
            (Table.vals remoteInv)).exec u).2.toMem := by
      intro u hu hIu
      exact (eachUntilDestroyed_alters KnownApart.evolves hu hIu
        fun remote _ v hv hIv => processKnown_alters hsource hv hIv).items
    cases quick with
    | true =>
      apply (hrecords w hwf hknown).congr
      intro oid
      simp
    | false =>
      have hremoved := removeAllMissing_alters prot obs remoteInv source items.keys hwf
      have hevolved := hremoved.items.evolves
      have hrest := hrecords _ hevolved.wellFormed (KnownApart.evolves _ _ hknown hevolved)
      have hsame : World.sourceDestroyed ((eachUntilDestroyed source
          (removeMissing remoteInv) items.keys).exec w).2 source = w.sourceDestroyed source := by
        unfold World.sourceDestroyed
        rw [hremoved.sources]
      rw [hsame] at hrest
      apply (hremoved.items.trans hwf hrest).congr
      intro oid
      rw [← and_or_left]
      simp [AList.mem_keys]

def inventoryTouches (w : World V) (remoteInv : Table OID (ReplicationInventoryItem V))
    (sourceId : String) (quick : Bool) (oid : OID) : Prop :=
  startsWithStr sourceId "." = false ∧ (quick = true ∨ sourceId ∉ w.invProcess) ∧
    w.nodeDestroyed sourceId = false ∧
      recordsTouch remoteInv quick (w.inv.getItemsBySource sourceId) oid

lemma processUnlocked_touches (sourceId sender : String) (quick : Bool)
    (hsource : ¬ prot (some sourceId)) (hwf : w.toMem.WellFormed) : w.toMem.Touches prot obs
      (fun oid => w.nodeDestroyed sourceId = false ∧
        recordsTouch remoteInv quick (w.inv.getItemsBySource sourceId) oid)
      ((processUnlocked env remoteInv sourceId sender quick).exec w).2.toMem := by
  have hcreated := w.toMem.getOrCreateSource_created sourceId sender
  have hfirst : w.toMem.Touches prot obs (fun _ => False) _ := hcreated.touches hwf
  have hnode : ¬ prot (some (w.toMem.getOrCreateSource sourceId sender).1.node) := by
    rw [hwf.getOrCreateSource_node]
    exact hsource
  have hapart : forall items, w.inv.getItemsBySource sourceId = some items ->
      KnownApart prot items (w.toMem.getOrCreateSource sourceId sender).2 := by
    intro items hitems oid x hx
    exact hfirst.evolves.apart (hwf.apart_of_inIndex ⟨items, hitems, hx⟩ hsource)
  have hrest : Touches prot obs _ _ _ :=
    processSourceItems_touches env remoteInv quick hnode
      (w := w.withMem (w.toMem.getOrCreateSource sourceId sender).2)
      hfirst.evolves.wellFormed hapart
  rw [sourceDestroyed_getOrCreateSource] at hrest
  apply (hfirst.trans hwf hrest).congr
  intro oid
  simp

lemma processRemoteInventory_touches (sourceId sender : String) (quick : Bool)
    (hsource : ¬ prot (some sourceId)) (hwf : w.toMem.WellFormed) :
    w.toMem.Touches prot obs (inventoryTouches w remoteInv sourceId quick)
      ((processRemoteInventory env remoteInv sourceId sender quick).exec w).2.toMem := by
  cases processRemoteInventory_cases env with
  | inl hrefused =>
    rw [hrefused.right]
    apply (Touches.refl hwf).congr
    intro oid
    apply iff_of_false not_false
    intro h
    exact hrefused.left ⟨h.left, h.right.left⟩
  | inr haccepted =>
    rcases haccepted with ⟨haccepted, u, hu, hsame⟩
    rw [hsame, ← hu]
    rw [← hu] at hwf
    have htouches : Touches prot obs _ _ _ :=
      processUnlocked_touches env remoteInv sourceId sender quick hsource hwf
    apply htouches.congr
    intro oid
    unfold inventoryTouches World.nodeDestroyed World.sourceDestroyed
    rw [hu]
    constructor
    · intro h
      exact ⟨haccepted.left, haccepted.right, h⟩
    · intro h
      exact h.right.right

end

/-!
## State events
-/

lemma replState_blankRecord {oid : OID} {act : Option Nat} :
    exists state, replState (blankRecord oid act : ReplicationInventoryItem V) = .ok state := by
  unfold replState blankRecord
  split
  · exact ⟨_, rfl⟩
  · exact ⟨_, rfl⟩

lemma replicatedItem_touches (oid : OID) (rse : ReplicationStateEvent V) (sender : String)
    (hsource : ¬ prot (some rse.node)) (hwf : w.toMem.WellFormed) :
    w.toMem.Touches prot obs (fun _ => False) ((replicatedItem oid rse sender).exec w).2.toMem ∧
      forall item, ((replicatedItem oid rse sender).exec w).1 = .ok item ->
        ((replicatedItem oid rse sender).exec w).2.inv.getItem oid = some item := by
  unfold replicatedItem
  simp only [exec_bind, exec_locked, exec_getItem]
  cases hget : w.inv.getItem oid with
  | some item =>
    refine ⟨Touches.refl hwf, ?_⟩
    intro item' h
    cases h
    exact hget
  | none =>
    simp only [exec_ite, exec_locked, exec_onMem, exec_pure]
    split
    · have hcreated := w.toMem.getOrCreateSource_created rse.node sender
      have hfirst : w.toMem.Touches prot obs (fun _ => False) _ := hcreated.touches hwf
      rcases replState_blankRecord (V := V) with ⟨state, hstate⟩
      rcases hfirst.evolves.wellFormed.appendRemoteItem
        (w.toMem.getOrCreateSource rse.node sender).1 hstate with ⟨m', heq, happended⟩
      have hnode : ¬ prot (some (w.toMem.getOrCreateSource rse.node sender).1.node) := by
        rw [hwf.getOrCreateSource_node]
        exact hsource
      have hfree : (w.toMem.getOrCreateSource rse.node sender).2.Free prot oid := by
        intro y hy
        rw [hcreated.inv, hget] at hy
        cases hy
      have hsecond : Touches prot obs (fun _ => False) _ m' :=
        Touches.of_untouched (happended.evolves hnode)
          (happended.untouched hfirst.evolves.wellFormed hfree)
      rw [heq]
      refine ⟨(hfirst.trans hwf hsecond).congr fun _ => or_self_iff, ?_⟩
      intro item h
      injection h with h
      rw [World.withMem_toMem, ← h]
      exact (happended.getItem oid).trans (if_pos rfl)
    · refine ⟨Touches.refl hwf, ?_⟩
      intro item h
      cases h

section

omit [EvaCommon V]

lemma afterEvent_touches (hwf : w.toMem.WellFormed) (hapart : w.toMem.Apart prot item.ptr) :
    w.toMem.Touches prot obs (fun _ => False) (w.afterEvent oid item source rse st).toMem := by
  unfold World.afterEvent
  split
  · exact Touches.of_cells hwf rfl rfl hapart
      fun ptr hptr => w.setState_cells item _ hptr
  · exact Touches.refl hwf

lemma setReplicatedState_touches (env : Env V) (oid : OID) (sender : String)
    (hsource : ¬ prot (some rse.node)) (hwf : w.toMem.WellFormed)
    (hitem : w.inv.getItem oid = some item) : w.toMem.Touches prot obs (fun _ => False)
      ((setReplicatedState env oid rse sender item).exec w).2.toMem := by
  cases Classical.em (exists source st, item.source = some source ∧
      rse.node = source.node ∧ w.state item = some st) with
  | inl hown =>
    rcases hown with ⟨source, st, hsrc, hnode, hst⟩
    rw [exec_setReplicatedState_own env hsrc hnode hst]
    apply afterEvent_touches hwf
    apply hwf.apart_of_inIndex (hwf.inv.indexed oid item hitem)
    rw [Item.node, hsrc]
    rw [hnode] at hsource
    exact hsource
  | inr hother =>
    rw [exec_setReplicatedState_other env]
    · exact Touches.refl hwf
    · intro source st hsrc hnode hst
      exact hother ⟨source, st, hsrc, hnode, hst⟩

end

lemma updateStateFromRse_touches (env : Env V) (hsource : ¬ prot (some rse.node))
    (hwf : w.toMem.WellFormed) :
    w.toMem.Touches prot obs (fun _ => False)
      ((updateStateFromRse env oid rse sender).exec w).2.toMem := by
  unfold updateStateFromRse
  cases hcheck : checkReplicated oid rse with
  | error e => exact Touches.refl hwf
  | ok _ =>
    rw [exec_tryThen_ok (exec_ret _ w)]
    have hfind : Touches prot obs _ _ _ ∧ _ :=
      replicatedItem_touches oid rse sender hsource hwf
    rcases hitem : (replicatedItem oid rse sender).exec w with ⟨r, u⟩
    rw [hitem] at hfind
    cases r with
    | error e =>
      rw [exec_tryThen_error hitem]
      exact hfind.left
    | ok item =>
      rw [exec_tryThen_ok hitem]
      have hset : Touches prot obs _ _ _ :=
        setReplicatedState_touches env oid sender hsource
          hfind.left.evolves.wellFormed (hfind.right item rfl)
      exact (hfind.left.trans hwf hset).congr fun _ => or_self_iff

/-!
## Calls of the replication service
-/

inductive ReplicationCall (V : Type) where
  | inventory (remoteInv : Table OID (ReplicationInventoryItem V))
      (sourceId sender : String) (quick : Bool)
  | state (oid : OID) (event : ReplicationStateEventExtended V) (sender : String)

namespace ReplicationCall

def node : ReplicationCall V -> String
  | .inventory _ sourceId _ _ => sourceId
  | .state _ (.basic rse) _ => rse.node
  | .state _ (.inventory node _) _ => node
  | .state _ (.basicItem _ rse) _ => rse.node

def program (env : Env V) : ReplicationCall V -> CoreM V (EResult Unit)
  | .inventory remoteInv sourceId sender quick =>
    processRemoteInventory env remoteInv sourceId sender quick
  | .state oid event sender => updateStateFromRepl env oid event sender

def touches (w : World V) : ReplicationCall V -> OID -> Prop
  | .inventory remoteInv sourceId _ quick => inventoryTouches w remoteInv sourceId quick
  | .state oid (.inventory node item) _ => inventoryTouches w (AList.insert oid item ∅) node true
  | .state _ _ _ => fun _ => False

/-- Every item of another owner is the same item with the same state after the call. -/
def LeavesOthersAlone (env : Env V) (w : World V) (call : ReplicationCall V) : Prop :=
  forall oid y, w.inv.getItem oid = some y -> y.node ≠ some call.node ->
    ((call.program env).exec w).2.inv.getItem oid = some y ∧
      ((call.program env).exec w).2.state y = w.state y

lemma program_touches (env : Env V) (hwf : w.toMem.WellFormed) (call : ReplicationCall V) :
    w.toMem.Touches (fun node => node ≠ some call.node) ItemCell.state (call.touches w)
      ((call.program env).exec w).2.toMem := by
  cases call with
  | inventory remoteInv sourceId sender quick =>
    exact processRemoteInventory_touches env remoteInv sourceId sender quick (fun h => h rfl) hwf
  | state oid event sender =>
    cases event with
    | basic rse => exact updateStateFromRse_touches env (fun h => h rfl) hwf
    | inventory node item =>
      exact processRemoteInventory_touches env _ node sender true (fun h => h rfl) hwf
    | basicItem _ rse => exact updateStateFromRse_touches env (fun h => h rfl) hwf

/--
A call leaves the items of other owners alone exactly when none of them has an OID that
the call removes or replaces.
-/
theorem leavesOthersAlone_iff (env : Env V) (w : World V) (hwf : w.toMem.WellFormed)
    (call : ReplicationCall V) : call.LeavesOthersAlone env w <->
      forall oid, call.touches w oid -> forall y, w.inv.getItem oid = some y ->
        y.node = some call.node := by
  have hiff := (program_touches env hwf call).untouched_iff
  constructor
  · intro halone oid htouched y hy
    exact Classical.not_not.mp (hiff.mp halone oid htouched y hy)
  · intro hfree
    apply hiff.mpr
    intro oid htouched y hy hother
    exact hother (hfree oid htouched y hy)

def sensorWorld : World (Option Int) :=
  World.ofMem (InventoryOp.run (Env.sample (Option Int)).clock 1
    [.createItem { kind := .sensor, fullId := "a" } (some { bootId := 1, t := 0 }) none])

def sensorInventory (id : String) : ReplicationCall (Option Int) :=
  .inventory
    (AList.insert { kind := .sensor, fullId := id }
      { oid := { kind := .sensor, fullId := id }, act := none, enabled := true,
        ieid := some { bootId := 1, t := 0 }, metaValue := none, status := some 1,
        value := some (some 5), t := some F64.zero } ∅)
    "n1" "eva.repl.1" false

theorem leavesOthersAlone_otherSensor :
    (sensorInventory "b").LeavesOthersAlone (Env.sample (Option Int)) sensorWorld := by
  apply (leavesOthersAlone_iff (Env.sample (Option Int)) sensorWorld
    (InventoryOp.run_wellFormed _ _ _) (sensorInventory "b")).mpr
  intro oid htouched y hy
  have hrecords := htouched.right.right.right
  rcases hrecords with ⟨remote, hremote, hoid, _⟩
  have hb : remote.oid = { kind := .sensor, fullId := "b" } := by
    rw [List.mem_singleton.mp hremote]
  have hnone : sensorWorld.inv.getItem { kind := .sensor, fullId := "b" } = none := by
    decide
  rw [hoid, hb, hnone] at hy
  cases hy

/-- A node that has an item with the OID of a local item replaces the local item. -/
theorem not_leavesOthersAlone_sameSensor :
    ¬ (sensorInventory "a").LeavesOthersAlone (Env.sample (Option Int)) sensorWorld := by
  intro h
  have hsame := h { kind := .sensor, fullId := "a" }
    { ptr := 0, oid := { kind := .sensor, fullId := "a" }, metaValue := none,
      source := none, logic := none, action := none } (by decide) (by decide)
  exact absurd hsame.left (by decide)

end ReplicationCall

end Eva4.Core
