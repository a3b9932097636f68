import Eva4.Core.ReplicationFrame

/-!
# Bulks of replicated entries

A bulk has state events, which are processed one by one, and inventory entries, which are
collected and processed together at its end.  The node of the first inventory entry is taken for
the source of all of them; the others are reported if their node differs.
-/

namespace Eva4.Core

open Lib Items Prog Mem AList

variable {V : Type}

/-!
## The handler
-/

structure BulkInventory (V : Type) where
  sourceId : Option String
  invMap : Table OID (ReplicationInventoryItem V)

namespace BulkInventory

def empty : BulkInventory V where
  sourceId := none
  invMap := ∅

/-- An entry of another node is reported and inserted. -/
def collect (acc : BulkInventory V) : ReplicationStateEventExtended V -> BulkInventory V
  | .inventory node item =>
    { sourceId := some (acc.sourceId.getD node)
      invMap := acc.invMap.insert item.oid item }
  | _ => acc

end BulkInventory

variable (bulk : List (ReplicationStateEventExtended V))

def bulkInventory : BulkInventory V :=
  bulk.foldl BulkInventory.collect .empty

variable (env : Env V) (sender : String) (bulk : List (ReplicationStateEventExtended V))

section Handler

variable [EvaCommon V]

def finishBulk (acc : BulkInventory V) : CoreM V Unit :=
  match acc.sourceId with
  | some source => do
    let _ ← processRemoteInventory env acc.invMap source sender true
    pure ()
  | none => pure ()

/-- State events without an OID are left out. -/
def processBulk (env : Env V) (sender : String) :
    List (ReplicationStateEventExtended V) -> BulkInventory V -> CoreM V Unit
  | [], acc => finishBulk env sender acc
  | .basicItem oid event :: rest, acc => do
    let _ ← updateStateFromRepl env oid (.basicItem oid event) sender
    processBulk env sender rest acc
  | entry :: rest, acc => processBulk env sender rest (acc.collect entry)

def replicationBulkState : CoreM V Unit :=
  processBulk env sender bulk .empty

def processStates (env : Env V) (sender : String) :
    List (ReplicationStateEventExtended V) -> CoreM V Unit
  | [] => pure ()
  | .basicItem oid event :: rest => do
    let _ ← updateStateFromRepl env oid (.basicItem oid event) sender
    processStates env sender rest
  | _ :: rest => processStates env sender rest

lemma exec_processBulk (acc : BulkInventory V) (w : World V) :
    (processBulk env sender bulk acc).exec w =
      (finishBulk env sender (bulk.foldl BulkInventory.collect acc)).exec
        ((processStates env sender bulk).exec w).2 := by
  induction bulk generalizing acc w with
  | nil => rfl
  | cons entry rest ih =>
    cases entry with
    | basic rse => exact ih acc w
    | inventory node item => exact ih _ w
    | basicItem oid event =>
      simp only [processBulk, processStates, exec_bind]
      exact ih acc _

end Handler

/-!
## Rounds

The inventory is processed record by record, and it is not locked in between.
-/

/-- The rounds of a loop: what each is for, and the worlds before and after it. -/
def rounds {X : Type} (f : X -> CoreM V Unit) (source : Source) :
    List X -> World V -> List (X × World V × World V)
  | [], _ => []
  | x :: xs, w =>
    if w.sourceDestroyed source then []
    else (x, w, ((f x).exec w).2) :: rounds f source xs ((f x).exec w).2

variable {X : Type}

lemma exec_eachUntilDestroyed_rounds (f : X -> CoreM V Unit) (source : Source) (xs : List X)
    (w : World V) : ((eachUntilDestroyed source f xs).exec w).2 =
      ((rounds f source xs w).map fun round => round.2.2).getLastD w := by
  induction xs generalizing w with
  | nil => rfl
  | cons x xs ih =>
    unfold eachUntilDestroyed rounds
    simp only [exec_bind, exec_read, exec_ite, exec_pure]
    split
    · rfl
    · rw [ih, List.map_cons, List.getLastD_cons]

lemma mem_rounds (h : turn ∈ rounds f source xs w) :
    turn.1 ∈ xs ∧ turn.2.2 = ((f turn.1).exec turn.2.1).2 := by
  induction xs generalizing w with
  | nil => cases h
  | cons x xs ih =>
    unfold rounds at h
    split at h
    · cases h
    · rcases List.mem_cons.mp h with heq | hrest
      · rw [heq]
        exact ⟨List.mem_cons_self, rfl⟩
      · have hround := ih hrest
        exact ⟨List.mem_cons_of_mem _ hround.left, hround.right⟩

section Rounds

variable [EvaCommon V]

def recordRound (existing : Option (Table OID (Item V))) (source : Source)
    (online : Bool) (remote : ReplicationInventoryItem V) : CoreM V Unit :=
  match existing with
  | some items => processKnown env items source online remote
  | none => processFirst env source online remote

def World.takeSource (w : World V) (sourceId sender : String) : World V :=
  w.withMem (w.toMem.getOrCreateSource sourceId sender).2

def inventoryRounds (remoteInv : Table OID (ReplicationInventoryItem V))
    (sourceId sender : String) (w : World V) :
    List (ReplicationInventoryItem V × World V × World V) :=
  let source := (w.toMem.getOrCreateSource sourceId sender).1
  rounds
    (recordRound env (w.inv.getItemsBySource sourceId) source
      ((w.takeSource sourceId sender).sourceOnline source))
    source (Table.vals remoteInv) (w.takeSource sourceId sender)

/-- Nothing but the rounds changes the core. -/
theorem exec_processRemoteInventory_rounds (remoteInv : Table OID (ReplicationInventoryItem V))
    (hsource : startsWithStr sourceId "." = false) (sender : String) :
    ((processRemoteInventory env remoteInv sourceId sender true).exec w).2 =
      ((inventoryRounds env remoteInv sourceId sender w).map fun round => round.2.2).getLastD
        (w.takeSource sourceId sender) := by
  unfold processRemoteInventory processUnlocked processSourceItems inventoryRounds
  simp only [hsource, Bool.false_eq_true, if_false, if_true, exec_bind, exec_pure,
    exec_locked, exec_onMem, exec_read]
  cases w.inv.getItemsBySource sourceId with
  | none => exact exec_eachUntilDestroyed_rounds ..
  | some items => exact exec_eachUntilDestroyed_rounds ..

variable {bulk} in
/-- The handler processes the state events and then the rounds of the inventory. -/
theorem exec_replicationBulkState (hsource : (bulkInventory bulk).sourceId = some source)
    (hfree : startsWithStr source "." = false) (w : World V) :
    ((replicationBulkState env sender bulk).exec w).2 =
      ((inventoryRounds env (bulkInventory bulk).invMap source sender
          ((processStates env sender bulk).exec w).2).map fun round => round.2.2).getLastD
        (((processStates env sender bulk).exec w).2.takeSource source sender) := by
  unfold replicationBulkState
  rw [exec_processBulk, ← exec_processRemoteInventory_rounds env _ hfree]
  have hfinish : finishBulk env sender (bulkInventory bulk) = (do
      let _ ← processRemoteInventory env (bulkInventory bulk).invMap source sender true
      pure ()) := by
    rw [finishBulk, hsource]
  show ((finishBulk env sender (bulkInventory bulk)).exec _).2 = _
  rw [hfinish, exec_bind]
  rfl

/-- Some state of the core lets a record be stored or used for an update. -/
def Applicable (remote : ReplicationInventoryItem V) : Prop :=
  (Mem.replState remote).isOk = true ∨ exists m, (m == remote.metaValue) = true

variable {w : World V}

variable {env} in
lemma createRemoteItem_changes
    (h : ((createRemoteItem env remote source online).exec w).2.toMem ≠ w.toMem) :
    (replState remote).isOk = true := by
  cases hstate : replState remote with
  | error e => exact absurd (createRemoteItem_invalid env hstate) h
  | ok state => rfl

variable {env} in
lemma recordRound_changes
    (h : ((recordRound env existing source online remote).exec w).2.toMem ≠ w.toMem) :
    Applicable remote := by
  cases existing with
  | none =>
    simp only [recordRound, processFirst, exec_when] at h
    split at h
    · exact Or.inl (createRemoteItem_changes h)
    · exact absurd rfl h
  | some items =>
    simp only [recordRound] at h
    rcases processKnown_cases env with hcreate | hknown
    · rw [hcreate.right] at h
      exact Or.inl (createRemoteItem_changes h)
    · rcases hknown with ⟨_, item, _, hlocal | hremote⟩
      · rw [hlocal.right] at h
        exact absurd rfl h
      · exact Or.inr ⟨item.metaValue, hremote.right.left⟩

end Rounds

/-!
## Entries
-/

def entryNode : ReplicationStateEventExtended V -> Option String
  | .inventory node _ => some node
  | _ => none

def firstNode : Option String :=
  (bulk.filterMap entryNode).head?

def LastEntry (node : String) (item : ReplicationInventoryItem V) : Prop :=
  exists before after, bulk = before ++ .inventory node item :: after ∧
    forall node' item', .inventory node' item' ∈ after -> item'.oid ≠ item.oid

section

lemma bulkInventory_concat :
    bulkInventory (bulk ++ [entry]) = (bulkInventory bulk).collect entry := by
  unfold bulkInventory
  rw [List.foldl_append]
  rfl

lemma bulkInventory_sourceId : (bulkInventory bulk).sourceId = firstNode bulk := by
  induction bulk using List.reverseRecOn with
  | nil => rfl
  | append_singleton bulk entry ih =>
    rw [bulkInventory_concat, firstNode, List.filterMap_append, List.head?_append]
    cases entry with
    | inventory node item =>
      rw [BulkInventory.collect, ih, firstNode]
      cases (bulk.filterMap entryNode).head? with
      | none | some => rfl
    | basic | basicItem =>
      show (bulkInventory bulk).sourceId = _
      rw [ih, firstNode]
      exact (Option.or_none ..).symm

lemma lastEntry_concat_iff :
    LastEntry (bulk ++ [entry]) node item <-> entry = .inventory node item ∨
        (LastEntry bulk node item ∧
          forall node' item', entry = .inventory node' item' -> item'.oid ≠ item.oid) := by
  constructor
  · intro h
    rcases h with ⟨before, after, heq, hlast⟩
    rcases List.eq_nil_or_concat after with hnil | hconcat
    · rw [hnil] at heq
      have hboth := List.append_inj' heq rfl
      exact Or.inl (List.head_eq_of_cons_eq hboth.2)
    · rcases hconcat with ⟨rest, last, hrest⟩
      rw [List.concat_eq_append] at hrest
      rw [hrest, ← List.cons_append, ← List.append_assoc] at heq
      have hboth := List.append_inj' heq rfl
      have hentry : entry = last := List.head_eq_of_cons_eq hboth.2
      refine Or.inr ⟨⟨before, rest, hboth.1, ?_⟩, ?_⟩
      · intro node' item' hmem
        apply hlast node' item'
        rw [hrest]
        exact List.mem_append_left _ hmem
      · intro node' item' hsame
        apply hlast node' item'
        rw [hrest, ← hentry, hsame]
        exact List.mem_append_right _ (List.mem_singleton_self _)
  · intro h
    rcases h with heq | ⟨⟨before, after, heq, hlast⟩, hother⟩
    · refine ⟨bulk, [], by rw [heq], ?_⟩
      intro node' item' hmem
      cases hmem
    · refine ⟨before, after ++ [entry], ?_, ?_⟩
      · rw [heq, List.append_assoc, List.cons_append]
      · intro node' item' hmem
        rcases List.mem_append.mp hmem with hafter | hentry
        · exact hlast node' item' hafter
        · exact hother node' item' (List.mem_singleton.mp hentry).symm

theorem lookup_bulkInventory :
    lookup oid (bulkInventory bulk).invMap = some item <->
      item.oid = oid ∧ exists node, LastEntry bulk node item := by
  induction bulk using List.reverseRecOn with
  | nil =>
    constructor
    · intro h
      cases h
    · intro h
      rcases h with ⟨_, node, before, after, heq, _⟩
      exact absurd heq.symm (List.append_ne_nil_of_right_ne_nil _ (List.cons_ne_nil _ _))
  | append_singleton bulk entry ih =>
    rw [bulkInventory_concat]
    simp only [lastEntry_concat_iff]
    cases entry with
    | basic | basicItem => simpa [BulkInventory.collect] using ih
    | inventory node' item' =>
      rw [BulkInventory.collect, Table.lookup_insert_if]
      by_cases hsame : oid = item'.oid
      · rw [if_pos hsame]
        constructor
        · intro h
          cases h
          exact ⟨hsame.symm, node', Or.inl rfl⟩
        · intro h
          rcases h with ⟨hoid, node, heq | ⟨_, hother⟩⟩
          · injection heq with _ hitem
            rw [hitem]
          · exact absurd (hsame.symm.trans hoid.symm) (hother node' item' rfl)
      · rw [if_neg hsame, ih]
        constructor
        · intro h
          rcases h with ⟨hoid, node, hlast⟩
          refine ⟨hoid, node, Or.inr ⟨hlast, ?_⟩⟩
          intro node'' item'' heq
          injection heq with _ hitem
          rw [← hitem, hoid]
          exact Ne.symm hsame
        · intro h
          rcases h with ⟨hoid, node, heq | ⟨hlast, _⟩⟩
          · injection heq with _ hitem
            rw [hitem] at hsame
            exact absurd hoid.symm hsame
          · exact ⟨hoid, node, hlast⟩

end

/-!
## A core that knows one item

In such a core the record of the item is met in its round with the item as it was, and the round
enables or disables it or makes it anew.
-/

section Known

variable [EvaCommon V]

def knownRecord (oid : OID) (metaValue : Option V) (enabled : Bool) : ReplicationInventoryItem V :=
  { blankRecord oid none with metaValue := metaValue, enabled := enabled }

lemma replState_knownRecord (oid : OID) (metaValue : Option V) {enabled : Bool} :
    exists state, replState (knownRecord oid metaValue enabled) = .ok state := by
  unfold replState knownRecord blankRecord
  split
  · exact ⟨_, rfl⟩
  · exact ⟨_, rfl⟩

/-- The item has its cell with this setting, and no source is destroyed. -/
structure StillSet (m : Mem V) (item : Item V) (enabled : Bool) : Prop where
  wellFormed : m.WellFormed
  allocated : item.ptr < m.heap.nextItem
  setting : (m.heap.cells item.ptr).enabled = enabled
  alive : forall ptr, (m.heap.sourceCells ptr).destroyed = false

def KnowsOnly (w : World V) (sourceId : String) (item : Item V) : Prop :=
  exists items, w.inv.getItemsBySource sourceId = some items ∧
    forall oid x, AList.lookup oid items = some x <-> oid = item.oid ∧ x = item

def knownItem (sourceId : String) (oid : OID) (metaValue : Option V) : Item V where
  ptr := 0
  oid := oid
  metaValue := metaValue
  source := some { ptr := 0, node := sourceId, svc := "" }
  logic := none
  action := none

lemma exists_knowsOnly (sourceId : String) (oid : OID) (metaValue : Option V) :
    exists w : World V, StillSet w.toMem (knownItem sourceId oid metaValue) enabled ∧
      KnowsOnly w sourceId (knownItem sourceId oid metaValue) := by
  rcases replState_knownRecord oid metaValue with ⟨state, hstate⟩
  rcases (new_wellFormed (V := V)).appendRemoteItem
    { ptr := 0, node := sourceId, svc := "" } hstate with ⟨m, _, happended⟩
  have hindex : forall oid' x, m.inv.InIndex (some sourceId) oid' x <->
      oid' = oid ∧ x = knownItem sourceId oid metaValue := by
    intro oid' x
    rw [happended.inIndex]
    constructor
    · intro h
      rcases h with hnew | hold
      · exact hnew.right
      · exact (Inventory.not_inIndex_new hold.right).elim
    · exact fun h => Or.inl ⟨rfl, h⟩
  rcases (hindex oid _).mpr ⟨rfl, rfl⟩ with ⟨items, hitems, _⟩
  refine ⟨World.ofMem m, ?_, items, hitems, ?_⟩
  · constructor
    · exact happended.wellFormed
    · show 0 < m.heap.nextItem
      rw [happended.heap]
      exact Nat.zero_lt_one
    · show (m.heap.cells 0).enabled = enabled
      rw [happended.heap]
      rfl
    · intro ptr
      show (m.heap.sourceCells ptr).destroyed = false
      rw [happended.heap]
      rfl
  · intro oid' x
    refine Iff.trans ?_ (hindex oid' x)
    constructor
    · exact fun h => ⟨items, hitems, h⟩
    · intro h
      rcases h with ⟨items', hitems', hx⟩
      rw [hitems] at hitems'
      injection hitems' with heq
      rw [heq]
      exact hx

variable {w : World V}

omit [EvaCommon V] in
lemma StillSet.takeSource (h : StillSet w.toMem item enabled) (sourceId sender : String) :
    StillSet (w.takeSource sourceId sender).toMem item enabled := by
  unfold World.takeSource getOrCreateSource
  cases lookup sourceId w.inv.sources with
  | some source => exact h
  | none =>
    refine ⟨h.wellFormed.of_heap (Nat.le_refl _), h.allocated, h.setting, ?_⟩
    intro ptr
    show (Function.update w.heap.sourceCells w.heap.nextSource _ ptr).destroyed = false
    by_cases heq : ptr = w.heap.nextSource
    · rw [heq, Function.update_self]
    · rw [Function.update_of_ne heq]
      exact h.alive ptr

lemma StillSet.createRemoteItem (h : StillSet w.toMem item enabled) (env : Env V) :
    StillSet ((createRemoteItem env remote source online).exec w).2.toMem item enabled := by
  cases hstate : replState remote with
  | error e =>
    rw [createRemoteItem_invalid env hstate]
    exact h
  | ok state =>
    have happended := createRemoteItem_appended env source online h.wellFormed hstate
    constructor
    · exact happended.wellFormed
    · rw [happended.heap]
      exact Nat.lt_succ_of_lt h.allocated
    · rw [happended.heap]
      show (Function.update w.heap.cells w.heap.nextItem _ item.ptr).enabled = enabled
      rw [Function.update_of_ne (Nat.ne_of_lt h.allocated)]
      exact h.setting
    · rw [happended.heap]
      exact h.alive

omit [EvaCommon V] in
theorem mem_rounds_of_before {I : World V -> Prop}
    (halive : forall u, I u -> u.sourceDestroyed source = false)
    (hbefore : forall y, y ∈ before -> forall u, I u -> I ((f y).exec u).2) (hI : I w) :
    exists u, I u ∧ (x, u, ((f x).exec u).2) ∈ rounds f source (before ++ x :: after) w := by
  induction before generalizing w with
  | nil =>
    refine ⟨w, hI, ?_⟩
    rw [List.nil_append, rounds, halive w hI]
    exact List.mem_cons_self
  | cons y before ih =>
    rcases ih (fun z hz => hbefore z (List.mem_cons_of_mem _ hz))
      (hbefore y List.mem_cons_self w hI) with ⟨u, hu, hmem⟩
    refine ⟨u, hu, ?_⟩
    rw [List.cons_append, rounds, halive w hI]
    exact List.mem_cons_of_mem _ hmem

omit [EvaCommon V] in
lemma syncEnabled_enabled : (World.syncEnabled item enabled w).enabled item = enabled := by
  unfold World.syncEnabled
  split
  · next hsame => exact hsame
  · simp [World.enabled, World.setEnabled, Heap.setEnabled, Heap.setCell]

lemma updateFromRecord_enabled :
    (World.updateFromRecord item remote w).2.enabled item = w.enabled item := by
  unfold World.updateFromRecord
  split
  · rfl
  · simp [World.enabled, World.setState, Heap.setState, Heap.setCell]

lemma updateRemoteItem_enabled (item : Item V) (remote : ReplicationInventoryItem V)
    (source : Source) (online : Bool) (w : World V) :
    ((updateRemoteItem env item remote source online).exec w).2.enabled item = remote.enabled := by
  unfold updateRemoteItem
  simp only [exec_bind, exec_modify, exec_atomic]
  rw [World.enabled, exec_announceRemote_toMem]
  exact updateFromRecord_enabled.trans syncEnabled_enabled

variable {env} in
lemma processKnown_changes (hknown : lookup remote.oid existing = some item)
    (hremote : item.source ≠ none) (happlicable : (replState remote).isOk = true ∨
      (item.metaValue == remote.metaValue) = true) (hset : StillSet w.toMem item (!remote.enabled))
    : ((processKnown env existing source online remote).exec w).2.toMem ≠ w.toMem := by
  intro hsame
  rcases processKnown_cases env with hcreate | hkept
  · rw [hcreate.right] at hsame
    have hmeta := (hcreate.left item hknown).right
    rw [hmeta] at happlicable
    cases hstate : replState remote with
    | error e =>
      rw [hstate] at happlicable
      rcases happlicable with hok | heq
      · cases hok
      · cases heq
    | ok state =>
      have hheap := (createRemoteItem_appended env source online hset.wellFormed hstate).heap
      rw [hsame] at hheap
      exact absurd (congrArg Heap.nextItem hheap) (Nat.ne_of_lt (Nat.lt_succ_self _))
  · rcases hkept with ⟨_, item', hitem', hkept⟩
    rw [hknown] at hitem'
    cases hitem'
    rcases hkept with hlocal | hupdate
    · exact hremote hlocal.left
    · rw [hupdate.right.right] at hsame
      have henabled := updateRemoteItem_enabled env item remote source online w
      rw [World.enabled, hsame, hset.setting] at henabled
      exact absurd henabled (Bool.not_ne_self _)

end Known

/-!
## Attribution
-/

section Attribution

variable [EvaCommon V]

/-- Whatever the core is when the inventory is processed, each record that is stored or used for
an update is that of an entry of the source. -/
def Attributed (bulk : List (ReplicationStateEventExtended V)) : Prop :=
  forall w : World V, w.toMem.WellFormed -> forall source,
    (bulkInventory bulk).sourceId = some source -> startsWithStr source "." = false ->
    forall round, round ∈ inventoryRounds env (bulkInventory bulk).invMap source sender w ->
      round.2.2.toMem ≠ round.2.1.toMem -> .inventory source round.1 ∈ bulk

/-- The last entry of each OID is one of the first node, or says the same as one, or says
nothing that can be used. -/
def OwnEntries (bulk : List (ReplicationStateEventExtended V)) : Prop :=
  forall source node item, firstNode bulk = some source ->
    startsWithStr source "." = false -> LastEntry bulk node item -> Applicable item ->
    .inventory source item ∈ bulk

variable {bulk}

omit [EvaCommon V] in
lemma split_bulkInventory (h : lookup item.oid (bulkInventory bulk).invMap = some item) :
    exists before after, Table.vals (bulkInventory bulk).invMap = before ++ item :: after ∧
      forall other, other ∈ before -> other.oid ≠ item.oid := by
  rcases List.append_of_mem (Table.mem_vals.mpr ⟨item.oid, h⟩) with ⟨before, after, hsplit⟩
  refine ⟨before, after, hsplit, ?_⟩
  have hnodup : ((Table.vals (bulkInventory bulk).invMap).map
      ReplicationInventoryItem.oid).Nodup :=
    Table.nodup_map_vals fun oid x hx => ((lookup_bulkInventory bulk).mp hx).left
  rw [hsplit, List.map_append, List.map_cons, List.nodup_append] at hnodup
  intro other hother
  exact hnodup.2.2 other.oid (List.mem_map_of_mem hother) item.oid List.mem_cons_self

lemma attributed_of_ownEntries (hown : OwnEntries bulk) : Attributed env sender bulk := by
  intro w _ source hsource hfree round hround hchanged
  have hmem := mem_rounds hround
  rcases Table.mem_vals.mp hmem.left with ⟨oid, hlookup⟩
  rcases (lookup_bulkInventory bulk).mp hlookup with ⟨_, node, hlast⟩
  rw [hmem.right] at hchanged
  rw [bulkInventory_sourceId] at hsource
  exact hown source node round.1 hsource hfree hlast (recordRound_changes hchanged)

variable {sender} in
variable {env} in
lemma ownEntries_of_attributed (hattributed : Attributed env sender bulk) : OwnEntries bulk := by
  intro source node item hsource hfree hlast happlicable
  have hmeta : exists m, (replState item).isOk = true ∨ (m == item.metaValue) = true := by
    rcases happlicable with hok | heq
    · exact ⟨item.metaValue, Or.inl hok⟩
    · rcases heq with ⟨m, hm⟩
      exact ⟨m, Or.inr hm⟩
  rcases hmeta with ⟨m, hm⟩
  rcases exists_knowsOnly source item.oid m with ⟨w, hset, items, hitems, honly⟩
  have hlookup : lookup item.oid (bulkInventory bulk).invMap = some item :=
    (lookup_bulkInventory bulk).mpr ⟨rfl, node, hlast⟩
  rcases split_bulkInventory hlookup with ⟨before, after, hsplit, hbefore⟩
  rw [← bulkInventory_sourceId] at hsource
  have hrounds := hattributed w hset.wellFormed source hsource hfree
  unfold inventoryRounds at hrounds
  rw [hsplit, hitems] at hrounds
  let found := (w.toMem.getOrCreateSource source sender).1
  let online := (w.takeSource source sender).sourceOnline found
  let kept : World V -> Prop :=
    fun u => StillSet u.toMem (knownItem source item.oid m) (!item.enabled)
  have halive : forall u, kept u -> u.sourceDestroyed found = false := fun _ hu => hu.alive _
  have hothers : forall other, other ∈ before -> forall u, kept u ->
      kept ((recordRound env (some items) found online other).exec u).2 := by
    intro other hother u hu
    have hunknown : lookup other.oid items = none := by
      cases hknown : lookup other.oid items with
      | none => rfl
      | some x => exact absurd ((honly other.oid x).mp hknown).left (hbefore other hother)
    simp only [recordRound, processKnown, hunknown]
    exact hu.createRemoteItem env
  rcases mem_rounds_of_before halive hothers (hset.takeSource source sender) with
    ⟨u, hu, hmem⟩
  apply hrounds _ hmem
  exact processKnown_changes ((honly item.oid _).mpr ⟨rfl, rfl⟩) (Option.some_ne_none _) hm hu

/--
Every record of a bulk that is stored or used for an update under the source of the bulk is that
of an entry of this node, whatever the core is at that time, if and only if the last entry of each
OID that can be used says what an entry of the first node says.
-/
theorem bulk_attributed_iff (env : Env V) (sender : String)
    (bulk : List (ReplicationStateEventExtended V)) :
    Attributed env sender bulk <-> OwnEntries bulk :=
  ⟨ownEntries_of_attributed, attributed_of_ownEntries env sender⟩

end Attribution

def sensorEntry (node id : String) : ReplicationStateEventExtended (Option Int) :=
  .inventory node
    { oid := { kind := .sensor, fullId := id }, act := none, enabled := true,
      ieid := some { bootId := 1, t := 0 }, metaValue := none, status := some 1,
      value := some (some 5), t := some F64.zero }

/-- The sensor of the second node is stored under the first one. -/
theorem other_node_stored :
    ((((replicationBulkState (Env.sample (Option Int)) "eva.repl.1"
        [sensorEntry "n1" "a", sensorEntry "n2" "b"]).exec World.new).2.inv.getItem
          { kind := .sensor, fullId := "b" }).map Item.node = some (some "n1")) ∧
      forall item, ReplicationStateEventExtended.inventory "n1" item ∈
        [sensorEntry "n1" "a", sensorEntry "n2" "b"] ->
          item.oid ≠ { kind := .sensor, fullId := "b" } := by
  constructor
  · decide
  · intro item hitem
    rcases List.mem_cons.mp hitem with heq | hrest
    · injection heq with _ heq
      rw [heq]
      decide
    · injection List.mem_singleton.mp hrest with hnode
      exact absurd hnode (by decide)

end Eva4.Core
