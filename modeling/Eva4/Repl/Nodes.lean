import Eva4.Lib.Machine
import Eva4.Lib.Table
import Eva4.Items.Basic
import Mathlib.Data.Finset.Basic
import Mathlib.Data.Finset.Lattice.Lemmas

/-!
# Nodes and their subscriptions

Each node has the set of the OIDs it has sent.  When every item is subscribed on its own, the
set is replaced on each reload and the difference is sent to the pub/sub server.  A node that is
removed takes its subscriptions with it.
-/

namespace Eva4.Repl

open Lib Table
open Items (OID)

structure Node where
  sttc : Bool
  enabled : Bool
  apiEnabled : Bool
  online : Bool
  oids : Finset OID

/-- How a call to the pub/sub server ends.  A call that fails or is cut off may have been
carried out for some of the topics. -/
inductive CallOutcome where
  | ok
  | failed (carriedOut : Finset OID)
deriving DecidableEq

def CallOutcome.effect (requested : Finset OID) : CallOutcome -> Finset OID
  | ok => requested
  | failed carriedOut => requested ∩ carriedOut

/-- The nodes, and the OIDs whose topics are subscribed at the server. -/
structure NodeTable where
  nodes : Table String Node
  subscribed : Finset OID

structure NodeEnv where
  systemName : String
  discoveryEnabled : Bool

variable (env : NodeEnv)

/-- A node that is discovered with another kind of API is made anew. -/
def NodeEnv.recreates (name : String) (node : Node) (apiEnabled : Bool) : Bool :=
  env.discoveryEnabled && name != env.systemName && node.apiEnabled != apiEnabled

namespace NodeTable

def new : NodeTable where
  nodes := ∅
  subscribed := ∅

/-- Makes a call unless there is nothing to ask for; the operation goes on if it succeeds. -/
def subscribeBulk (oids : Finset OID) (outcome : CallOutcome) (s : NodeTable) : NodeTable × Bool :=
  if oids = ∅ then (s, true)
  else
    ({ s with subscribed := s.subscribed ∪ outcome.effect oids },
      match outcome with
      | .ok => true
      | .failed _ => false)

def unsubscribeBulk (oids : Finset OID) (outcome : CallOutcome) (s : NodeTable) :
    NodeTable × Bool :=
  if oids = ∅ then (s, true)
  else
    ({ s with subscribed := s.subscribed \ outcome.effect oids },
      match outcome with
      | .ok => true
      | .failed _ => false)

variable (name : String)

def reloadNode (items : Option (List OID)) (sub unsub : CallOutcome)
    (s : NodeTable) : NodeTable × Bool :=
  match s.nodes.lookup name, items with
  | none, _ => (s, false)
  | some _, none => (s, true)
  | some node, some items =>
    let oids := items.toFinset
    let toRemove := node.oids \ oids
    let kept := node.oids \ toRemove
    let toSubscribe := oids \ kept
    let recorded : NodeTable :=
      { s with nodes := s.nodes.insert name { node with oids := kept ∪ toSubscribe } }
    let subscribed := recorded.subscribeBulk toSubscribe sub
    if subscribed.2 then subscribed.1.unsubscribeBulk toRemove unsub else subscribed

def removeNode (unsub : CallOutcome) (s : NodeTable) : NodeTable × Bool :=
  match s.nodes.lookup name with
  | none => (s, false)
  | some node => { s with nodes := s.nodes.erase name }.unsubscribeBulk node.oids unsub

/-- A node is inserted if the calls of the core that come before that succeed. -/
def appendNode (node : Node) (added : Bool) (s : NodeTable) : NodeTable :=
  if added then { s with nodes := s.nodes.insert name { node with oids := ∅ } } else s

def appendStaticNode (node : Node) (unsub : CallOutcome) (added : Bool)
    (s : NodeTable) : NodeTable :=
  if name ∈ s.nodes then
    let removed := s.removeNode name unsub
    if removed.2 then removed.1.appendNode name node added else removed.1
  else s.appendNode name node added

def appendDiscoveredNode (name : String) (apiEnabled : Bool)
    (unsub : CallOutcome) (added : Bool) (s : NodeTable) : NodeTable :=
  let fresh : Node :=
    { sttc := false, enabled := true, apiEnabled := apiEnabled, online := false, oids := ∅ }
  match s.nodes.lookup name with
  | some node =>
    if env.recreates name node apiEnabled then
      let removed := s.removeNode name unsub
      if removed.2 then removed.1.appendNode name fresh added else removed.1
    else s
  | none =>
    if env.discoveryEnabled && name != env.systemName then s.appendNode name fresh added else s

/-- A node that was discovered is removed when it goes offline. -/
def removedOffline (node : Node) (online : Bool) : Bool :=
  node.online && !online && !node.sttc

def markNode (online : Bool) (unsub : CallOutcome) (s : NodeTable) : NodeTable :=
  match s.nodes.lookup name with
  | none => s
  | some node =>
    if removedOffline node online then (s.removeNode name unsub).1
    else { s with nodes := s.nodes.insert name { node with online := online } }

end NodeTable

inductive NodeOp where
  | reload (name : String) (items : Option (List OID)) (sub unsub : CallOutcome)
  | appendStatic (name : String) (node : Node) (unsub : CallOutcome) (added : Bool)
  | appendDiscovered (name : String) (apiEnabled : Bool) (unsub : CallOutcome) (added : Bool)
  | remove (name : String) (unsub : CallOutcome)
  | mark (name : String) (online : Bool) (unsub : CallOutcome)

def NodeTable.step : Machine NodeTable NodeOp := fun s op =>
  match op with
  | .reload name items sub unsub => some (s.reloadNode name items sub unsub).1
  | .appendStatic name node unsub added => some (s.appendStaticNode name node unsub added)
  | .appendDiscovered name apiEnabled unsub added =>
    some (s.appendDiscoveredNode env name apiEnabled unsub added)
  | .remove name unsub => some (s.removeNode name unsub).1
  | .mark name online unsub => some (s.markNode name online unsub)

namespace NodeTable

/-!
## Recorded and subscribed
-/

section

variable (s : NodeTable)

/-- What a node has recorded is subscribed. -/
def Subscribed : Prop :=
  forall name node, s.nodes.lookup name = some node -> node.oids ⊆ s.subscribed

/-- What is subscribed is recorded by a node. -/
def Needed : Prop :=
  forall oid, oid ∈ s.subscribed -> exists name node, s.nodes.lookup name = some node ∧
    oid ∈ node.oids

def Exclusive (name : String) (oids : Finset OID) : Prop :=
  forall other node, other ≠ name -> s.nodes.lookup other = some node -> Disjoint node.oids oids

def Removes (name : String) (old : Node) (unsub : CallOutcome) : NodeOp -> Prop
  | .reload _ _ _ _ => False
  | .appendStatic name' _ unsub' _ => name' = name ∧ unsub' = unsub
  | .appendDiscovered name' apiEnabled unsub' _ =>
    name' = name ∧ unsub' = unsub ∧ env.recreates name old apiEnabled = true
  | .remove name' unsub' => name' = name ∧ unsub' = unsub
  | .mark name' online unsub' => name' = name ∧ unsub' = unsub ∧ removedOffline old online = true

/-- What a node takes with it, or has not any more after a reload, was its own; and no
subscription fails. -/
structure KeepsRecorded (op : NodeOp) : Prop where
  removed : forall name old unsub, s.nodes.lookup name = some old ->
    Removes env name old unsub op -> s.Exclusive name old.oids
  reloaded : forall name items sub unsub, op = .reload name items sub unsub ->
    sub = .ok ∧ forall old oids, s.nodes.lookup name = some old -> items = some oids ->
      s.Exclusive name (old.oids \ oids.toFinset)

end

def Succeeds : NodeOp -> Prop
  | .reload _ _ sub unsub => sub = .ok ∧ unsub = .ok
  | .appendStatic _ _ unsub _ => unsub = .ok
  | .appendDiscovered _ _ unsub _ => unsub = .ok
  | .remove _ unsub => unsub = .ok
  | .mark _ _ unsub => unsub = .ok

/-!
## Calls
-/

lemma effect_subset (requested : Finset OID) (outcome : CallOutcome) :
    outcome.effect requested ⊆ requested := by
  cases outcome with
  | ok => exact Finset.Subset.refl requested
  | failed carriedOut => exact Finset.inter_subset_left

lemma effect_empty (outcome : CallOutcome) : outcome.effect ∅ = ∅ :=
  Finset.subset_empty.mp (effect_subset ∅ outcome)

lemma subscribeBulk_fst (oids : Finset OID) (outcome : CallOutcome) {s : NodeTable} :
    (s.subscribeBulk oids outcome).1 =
      { s with subscribed := s.subscribed ∪ outcome.effect oids } := by
  unfold subscribeBulk
  split
  · next hempty => rw [hempty, effect_empty, Finset.union_empty]
  · rfl

lemma subscribeBulk_ok {s : NodeTable} : (s.subscribeBulk oids .ok).2 = true := by
  unfold subscribeBulk
  split
  · rfl
  · rfl

lemma unsubscribeBulk_fst (oids : Finset OID) (outcome : CallOutcome) (s : NodeTable) :
    (s.unsubscribeBulk oids outcome).1 =
      { s with subscribed := s.subscribed \ outcome.effect oids } := by
  unfold unsubscribeBulk
  split
  · next hempty => rw [hempty, effect_empty, Finset.sdiff_empty]
  · rfl

variable {s : NodeTable} {name : String} {node : Node} {env} {op : NodeOp} {unsub : CallOutcome}

lemma reloadNode_fst (hnode : s.nodes.lookup name = some node) {items : List OID}
    {unsub : CallOutcome} : (s.reloadNode name (some items) .ok unsub).1 = {
      nodes := s.nodes.insert name { node with oids := items.toFinset }
      subscribed := (s.subscribed ∪ items.toFinset \ node.oids) \
        unsub.effect (node.oids \ items.toFinset) } := by
  have hnew : items.toFinset \ (node.oids \ (node.oids \ items.toFinset)) =
      items.toFinset \ node.oids := by
    ext oid
    simp only [Finset.mem_sdiff]
    tauto
  have hall : node.oids \ (node.oids \ items.toFinset) ∪ items.toFinset \ node.oids =
      items.toFinset := by
    ext oid
    simp only [Finset.mem_union, Finset.mem_sdiff]
    tauto
  simp only [reloadNode, hnode, subscribeBulk_ok, if_true, subscribeBulk_fst,
    unsubscribeBulk_fst, CallOutcome.effect, hnew, hall]

theorem reloadNode_cases (s : NodeTable) :
    (s.reloadNode name items .ok unsub).1 = s ∨
      exists node oids, s.nodes.lookup name = some node ∧ items = some oids ∧
        (s.reloadNode name items .ok unsub).1 = {
          nodes := s.nodes.insert name { node with oids := oids.toFinset }
          subscribed := (s.subscribed ∪ oids.toFinset \ node.oids) \
            unsub.effect (node.oids \ oids.toFinset) } := by
  cases hlookup : s.nodes.lookup name with
  | none =>
    left
    simp only [reloadNode, hlookup]
  | some node =>
    cases items with
    | none =>
      left
      simp only [reloadNode, hlookup]
    | some oids => exact Or.inr ⟨node, oids, rfl, rfl, reloadNode_fst hlookup⟩

lemma removeNode_fst (hnode : s.nodes.lookup name = some node) {unsub : CallOutcome} :
    (s.removeNode name unsub).1 = {
      nodes := s.nodes.erase name
      subscribed := s.subscribed \ unsub.effect node.oids } := by
  simp only [removeNode, hnode, unsubscribeBulk_fst]

/-!
## What is recorded stays subscribed
-/

section

variable (h : s.Subscribed)
include h

lemma Subscribed.insert (hnode : node.oids ⊆ s.subscribed) :
    Subscribed { s with nodes := s.nodes.insert name node } :=
  forall_insert h hnode

theorem Subscribed.others (hown : s.Exclusive name oids) (hnode : s.nodes.lookup other = some node)
    (hne : other ≠ name) :
    node.oids ⊆ s.subscribed \ unsub.effect oids := by
  intro oid hoid
  have hnot : oid ∉ oids := Finset.disjoint_left.mp (hown other node hne hnode) hoid
  exact Finset.mem_sdiff.mpr ⟨h other node hnode hoid,
    fun heffect => hnot (effect_subset oids unsub heffect)⟩

lemma Subscribed.removeNode (hnode : s.nodes.lookup name = some node)
    (hown : s.Exclusive name node.oids) : (s.removeNode name unsub).1.Subscribed := by
  rw [removeNode_fst hnode]
  exact forall_erase fun _ _ hother hne => h.others hown hother hne

lemma Subscribed.appendNode : (s.appendNode name node added).Subscribed := by
  cases added with
  | false => exact h
  | true => exact h.insert (Finset.empty_subset _)

lemma Subscribed.reloadNode
    (hown : forall node oids, s.nodes.lookup name = some node -> items = some oids ->
      s.Exclusive name (node.oids \ oids.toFinset)) :
    (s.reloadNode name items .ok unsub).1.Subscribed := by
  rcases s.reloadNode_cases with hsame | hreload
  · rw [hsame]
    exact h
  · rcases hreload with ⟨node, oids, hlookup, hitems, hs⟩
    rw [hs]
    have hmore : Subscribed
        { s with subscribed := s.subscribed ∪ oids.toFinset \ node.oids } :=
      fun other node' hother => (h other node' hother).trans Finset.subset_union_left
    apply forall_replace
    · intro other node' hother hne
      exact hmore.others (hown node oids hlookup hitems) hother hne
    · intro oid hoid
      have hkept : oid ∉ node.oids \ oids.toFinset :=
        fun hin => (Finset.mem_sdiff.mp hin).2 hoid
      apply Finset.mem_sdiff.mpr
      constructor
      · by_cases hold : oid ∈ node.oids
        · exact Finset.mem_union_left _ (h name node hlookup hold)
        · exact Finset.mem_union_right _ (Finset.mem_sdiff.mpr ⟨hoid, hold⟩)
      · exact fun heffect => hkept (effect_subset _ unsub heffect)

end

/-!
## What is subscribed is recorded
-/

lemma removeNode_absent : (s.removeNode name unsub).1.nodes.lookup name = none := by
  cases hlookup : s.nodes.lookup name with
  | none => simp only [NodeTable.removeNode, hlookup]
  | some node =>
    rw [removeNode_fst hlookup]
    exact AList.lookup_erase ..

section

variable (h : s.Needed)
include h

lemma Needed.other (hoid : oid ∈ s.subscribed)
    (hnot : forall node, s.nodes.lookup name = some node -> oid ∉ node.oids) :
    exists other node, other ≠ name ∧ s.nodes.lookup other = some node ∧ oid ∈ node.oids := by
  rcases h oid hoid with ⟨other, node, hnode, hin⟩
  refine ⟨other, node, ?_, hnode, hin⟩
  intro heq
  rw [heq] at hnode
  exact hnot node hnode hin

theorem Needed.insert (hnode : forall old, s.nodes.lookup name = some old -> old.oids ⊆ node.oids) :
    Needed { s with nodes := s.nodes.insert name node } := by
  intro oid hoid
  rcases Classical.em (oid ∈ node.oids) with hin | hout
  · refine ⟨name, node, ?_, hin⟩
    rw [lookup_insert_if, if_pos rfl]
  · rcases h.other hoid fun old hold hin => hout (hnode old hold hin) with
      ⟨other, node', hne, hother, hin⟩
    refine ⟨other, node', ?_, hin⟩
    rw [lookup_insert_if, if_neg hne]
    exact hother

lemma Needed.removeNode (hnode : s.nodes.lookup name = some node) :
    (s.removeNode name .ok).1.Needed := by
  rw [removeNode_fst hnode]
  intro oid hoid
  have hin := Finset.mem_sdiff.mp hoid
  have hnot : forall node', s.nodes.lookup name = some node' -> oid ∉ node'.oids := by
    intro node' hnode'
    rw [hnode] at hnode'
    cases hnode'
    exact hin.right
  rcases h.other hin.left hnot with ⟨other, node', hne, hother, hin'⟩
  refine ⟨other, node', ?_, hin'⟩
  rw [lookup_erase_if, if_neg hne]
  exact hother

lemma Needed.appendNode (habsent : s.nodes.lookup name = none) :
    (s.appendNode name node added).Needed := by
  cases added with
  | false => exact h
  | true =>
    apply h.insert
    intro old hold
    rw [habsent] at hold
    cases hold

lemma Needed.reloadNode : (s.reloadNode name items .ok .ok).1.Needed := by
  rcases s.reloadNode_cases with hsame | hreload
  · rw [hsame]
    exact h
  · rcases hreload with ⟨node, oids, hlookup, hitems, hs⟩
    rw [hs]
    intro oid hoid
    have hin := Finset.mem_sdiff.mp hoid
    rcases Classical.em (oid ∈ oids.toFinset) with hnew | hgone
    · refine ⟨name, { node with oids := oids.toFinset }, ?_, hnew⟩
      rw [lookup_insert_if, if_pos rfl]
    · have hold : oid ∈ s.subscribed := by
        rcases Finset.mem_union.mp hin.left with hold | hnew
        · exact hold
        · exact absurd (Finset.mem_sdiff.mp hnew).1 hgone
      have hnot : forall node', s.nodes.lookup name = some node' -> oid ∉ node'.oids := by
        intro node' hnode' hrecorded
        rw [hlookup] at hnode'
        cases hnode'
        exact hin.right (Finset.mem_sdiff.mpr ⟨hrecorded, hgone⟩)
      rcases h.other hold hnot with ⟨other, node', hne, hother, hrecorded⟩
      refine ⟨other, node', ?_, hrecorded⟩
      rw [lookup_insert_if, if_neg hne]
      exact hother

end

/-!
## Runs
-/

inductive Does (env : NodeEnv) (s : NodeTable) (op : NodeOp) : NodeTable -> Prop where
  | nothing : Does env s op s
  | reload {name : String} {items : Option (List OID)} {sub unsub : CallOutcome} :
      op = .reload name items sub unsub -> Does env s op (s.reloadNode name items sub unsub).1
  | append {name : String} (node : Node) (added : Bool) : s.nodes.lookup name = none ->
      Does env s op (s.appendNode name node added)
  | remove {name : String} {old : Node} {unsub : CallOutcome} :
      s.nodes.lookup name = some old -> Removes env name old unsub op ->
      Does env s op (s.removeNode name unsub).1
  | replace {name : String} {old : Node} {unsub : CallOutcome} (node : Node) (added : Bool) :
      s.nodes.lookup name = some old -> Removes env name old unsub op ->
      Does env s op ((s.removeNode name unsub).1.appendNode name node added)
  | mark {name : String} {old : Node} (online : Bool) : s.nodes.lookup name = some old ->
      Does env s op { s with nodes := s.nodes.insert name { old with online := online } }

lemma removeNode_does
    (hop : forall old, s.nodes.lookup name = some old -> Removes env name old unsub op) :
    Does env s op (s.removeNode name unsub).1 := by
  cases hlookup : s.nodes.lookup name with
  | none =>
    simp only [removeNode, hlookup]
    exact .nothing
  | some old => exact .remove hlookup (hop old hlookup)

lemma replaceNode_does (hold : s.nodes.lookup name = some old)
    (hop : Removes env name old unsub op) : Does env s op
      (if (s.removeNode name unsub).2 then (s.removeNode name unsub).1.appendNode name node added
        else (s.removeNode name unsub).1) := by
  split
  · exact .replace node added hold hop
  · exact .remove hold hop

lemma step_does (hstep : NodeTable.step env s op = some s') : Does env s op s' := by
  cases op with
  | reload name items sub unsub =>
    cases hstep
    exact .reload rfl
  | appendStatic name node unsub added =>
    injection hstep with heq
    rw [← heq, appendStaticNode]
    split
    · next hmem =>
      rcases mem_iff_lookup.mp hmem with ⟨old, hold⟩
      have hremoves : Removes env name old unsub (.appendStatic name node unsub added) :=
        ⟨rfl, rfl⟩
      exact replaceNode_does hold hremoves
    · next habsent => exact .append node added (AList.lookup_eq_none.mpr habsent)
  | appendDiscovered name apiEnabled unsub added =>
    injection hstep with heq
    rw [← heq, appendDiscoveredNode]
    split
    · next old hold =>
      split
      · next hrecreates =>
        have hremoves : Removes env name old unsub
            (.appendDiscovered name apiEnabled unsub added) := ⟨rfl, rfl, hrecreates⟩
        exact replaceNode_does hold hremoves
      · exact .nothing
    · next habsent =>
      split
      · exact .append _ added habsent
      · exact .nothing
  | remove name unsub =>
    cases hstep
    exact removeNode_does fun _ _ => ⟨rfl, rfl⟩
  | mark name online unsub =>
    injection hstep with heq
    rw [← heq, markNode]
    split
    · exact .nothing
    · next old hold =>
      split
      · next hoffline => exact .remove hold ⟨rfl, rfl, hoffline⟩
      · exact .mark online hold

lemma Subscribed.step (h : s.Subscribed) (hop : s.KeepsRecorded env op)
    (hstep : NodeTable.step env s op = some s') : s'.Subscribed := by
  cases step_does hstep with
  | nothing => exact h
  | reload heq =>
    have hreload := hop.reloaded _ _ _ _ heq
    rw [hreload.left]
    exact h.reloadNode hreload.right
  | append node added _ => exact h.appendNode
  | remove hold hremoves => exact h.removeNode hold (hop.removed _ _ _ hold hremoves)
  | replace node added hold hremoves =>
    exact (h.removeNode hold (hop.removed _ _ _ hold hremoves)).appendNode
  | mark online hold =>
    have hoids := h _ _ hold
    exact h.insert hoids

lemma removes_succeeds (hremoves : Removes env name old unsub op) (hop : Succeeds op) :
    unsub = .ok := by
  cases op with
  | reload name' items sub' unsub' => exact hremoves.elim
  | appendStatic | remove => exact hremoves.right.symm.trans hop
  | appendDiscovered name' apiEnabled unsub' added => exact hremoves.right.left.symm.trans hop
  | mark name' online unsub' => exact hremoves.right.left.symm.trans hop

lemma Needed.step (h : s.Needed) (hop : Succeeds op) (hstep : NodeTable.step env s op = some s') :
    s'.Needed := by
  cases step_does hstep with
  | nothing => exact h
  | reload heq =>
    rw [heq] at hop
    rw [hop.left, hop.right]
    exact h.reloadNode
  | append node added habsent => exact h.appendNode habsent
  | remove hold hremoves =>
    rw [removes_succeeds hremoves hop]
    exact h.removeNode hold
  | replace node added hold hremoves =>
    rw [removes_succeeds hremoves hop]
    exact (h.removeNode hold).appendNode (removeNode_absent ..)
  | mark online hold =>
    apply h.insert
    intro old hold'
    rw [hold] at hold'
    injection hold' with heq
    rw [← heq]

lemma new_subscribed : new.Subscribed := by
  intro name node hnode
  cases hnode

lemma new_needed : new.Needed := by
  intro oid hoid
  exact absurd hoid (Finset.notMem_empty oid)

/--
In every run in which no subscription fails and no OID is unsubscribed for a node while another
one has recorded it, what the nodes have recorded is subscribed; in every run in which no call
fails, nothing else is.
-/
theorem recorded_are_subscribed (env : NodeEnv) :
    (forall last, (NodeTable.step env).Reaches (KeepsRecorded env) new last -> last.Subscribed) ∧
    forall last, (NodeTable.step env).Reaches (fun _ op => Succeeds op) new last ->
      last.Needed := by
  constructor
  · intro last hrun
    exact hrun.invariant new_subscribed fun h hop hstep => h.step hop hstep
  · intro last hrun
    exact hrun.invariant new_needed fun h hop hstep => h.step hop hstep

/-!
## Concrete runs
-/

def recordedBy (name : String) (s : NodeTable) : Finset OID :=
  (s.nodes.lookup name).elim ∅ Node.oids

def checkExclusive (s : NodeTable) (name : String) (oids : Finset OID) : Bool :=
  s.nodes.entries.all fun entry => entry.1 == name || decide (Disjoint entry.2.oids oids)

def checkRecorded (s : NodeTable) : NodeOp -> Bool
  | .reload name (some items) .ok _ => checkExclusive s name (s.recordedBy name \ items.toFinset)
  | .appendStatic name _ _ _ | .remove name _ => checkExclusive s name (s.recordedBy name)
  | _ => false

lemma exclusive_of_check (h : checkExclusive s name oids = true) : s.Exclusive name oids := by
  intro other node hne hnode
  have hmem : (⟨other, node⟩ : Sigma fun _ : String => Node) ∈ s.nodes.entries :=
    AList.mem_lookup_iff.mp hnode
  have hentry := List.all_eq_true.mp h _ hmem
  rw [Bool.or_eq_true] at hentry
  rcases hentry with heq | hdisjoint
  · exact absurd (beq_iff_eq.mp heq) hne
  · exact of_decide_eq_true hdisjoint

lemma recordedBy_eq (h : s.nodes.lookup name = some node) : s.recordedBy name = node.oids := by
  rw [recordedBy, h]
  rfl

lemma keepsRecorded_of_check (h : checkRecorded s op = true) : s.KeepsRecorded env op := by
  constructor
  · intro name old unsub hold hremoves
    have hown := recordedBy_eq hold
    cases op with
    | reload name' items sub' unsub' => exact hremoves.elim
    | appendStatic | remove =>
      rw [checkRecorded, hremoves.left, hown] at h
      exact exclusive_of_check h
    | appendDiscovered | mark => cases h
  · intro name items sub unsub heq
    rw [heq] at h
    cases items with
    | none => cases h
    | some oids =>
      cases sub with
      | failed carriedOut => cases h
      | ok =>
        refine ⟨rfl, ?_⟩
        intro old oids' hold hoids
        injection hoids with hoids
        rw [checkRecorded, recordedBy_eq hold, hoids] at h
        exact exclusive_of_check h

def sampleEnv : NodeEnv where
  systemName := "local"
  discoveryEnabled := true

def sampleNode : Node where
  sttc := true
  enabled := true
  apiEnabled := true
  online := false
  oids := ∅

def sampleSensor (id : String) : OID where
  kind := .sensor
  fullId := id

instance (op : NodeOp) : Decidable (Succeeds op) :=
  match op with
  | .reload _ _ sub unsub => inferInstanceAs (Decidable (sub = .ok ∧ unsub = .ok))
  | .appendStatic _ _ unsub _ => inferInstanceAs (Decidable (unsub = .ok))
  | .appendDiscovered _ _ unsub _ => inferInstanceAs (Decidable (unsub = .ok))
  | .remove _ unsub => inferInstanceAs (Decidable (unsub = .ok))
  | .mark _ _ unsub => inferInstanceAs (Decidable (unsub = .ok))

def checkBoth (s : NodeTable) (op : NodeOp) : Bool :=
  checkRecorded s op && decide (Succeeds op)

def sampleOps : List NodeOp :=
  [.appendStatic "n1" sampleNode .ok true, .appendStatic "n2" sampleNode .ok true,
    .reload "n1" (some [sampleSensor "a", sampleSensor "b"]) .ok .ok,
    .reload "n2" (some [sampleSensor "c"]) .ok .ok,
    .reload "n1" (some [sampleSensor "b"]) .ok .ok, .remove "n2" .ok]

/-- Two nodes, one of which is reloaded while the other one is removed. -/
theorem recorded_are_subscribed_two_nodes :
    exists last, (NodeTable.step sampleEnv).runChecked checkBoth sampleOps new = some last ∧
      last.subscribed = {sampleSensor "b"} ∧ last.Subscribed ∧ last.Needed := by
  apply exists_of_any (p := fun last => decide (last.subscribed = {sampleSensor "b"})) (by decide)
  intro last hlast hsubscribed
  have hboth := recorded_are_subscribed sampleEnv
  refine ⟨of_decide_eq_true hsubscribed, ?_, ?_⟩
  · apply hboth.left
    exact .of_runChecked (fun s op h => keepsRecorded_of_check (Bool.and_eq_true_iff.mp h).1)
      .start hlast
  · apply hboth.right
    exact .of_runChecked (fun _ _ h => of_decide_eq_true (Bool.and_eq_true_iff.mp h).2) .start hlast

lemma not_subscribed (hin : oid ∈ s.recordedBy name) (hout : oid ∉ s.subscribed) :
    ¬ s.Subscribed := by
  intro h
  cases hlookup : s.nodes.lookup name with
  | none =>
    rw [recordedBy, hlookup] at hin
    exact Finset.notMem_empty oid hin
  | some node =>
    rw [recordedBy_eq hlookup] at hin
    exact hout (h name node hlookup hin)

lemma not_needed (hin : oid ∈ s.subscribed) (hempty : s.nodes.entries = []) : ¬ s.Needed := by
  intro h
  rcases h oid hin with ⟨name, node, hnode, _⟩
  have hmem := AList.mem_lookup_iff.mp hnode
  rw [hempty] at hmem
  cases hmem

/-- A sensor of two nodes is lost with one of them, without any failure; a subscription that
fails is not repeated; a removal that fails leaves a subscription that no node needs. -/
theorem shared_sensor_unsubscribed :
    (exists last, (NodeTable.step sampleEnv).runChecked (fun _ op => decide (Succeeds op))
        [.appendStatic "n1" sampleNode .ok true, .appendStatic "n2" sampleNode .ok true,
          .reload "n1" (some [sampleSensor "a"]) .ok .ok,
          .reload "n2" (some [sampleSensor "a"]) .ok .ok, .remove "n1" .ok] new = some last ∧
      ¬ last.Subscribed) ∧ (exists last, (NodeTable.step sampleEnv).runChecked (fun _ _ => true)
        [.appendStatic "n1" sampleNode .ok true,
          .reload "n1" (some [sampleSensor "a"]) (.failed ∅) .ok,
          .reload "n1" (some [sampleSensor "a"]) .ok .ok] new = some last ∧ ¬ last.Subscribed) ∧
    exists last, (NodeTable.step sampleEnv).runChecked (fun _ _ => true)
        [.appendStatic "n1" sampleNode .ok true,
          .reload "n1" (some [sampleSensor "a"]) .ok .ok, .remove "n1" (.failed ∅),
          .remove "n1" .ok] new = some last ∧ ¬ last.Needed := by
  refine ⟨⟨_, rfl, ?_⟩, ⟨_, rfl, ?_⟩, _, rfl, ?_⟩
  · exact not_subscribed (show sampleSensor "a" ∈ recordedBy "n2" _ by decide) (by decide)
  · exact not_subscribed (show sampleSensor "a" ∈ recordedBy "n1" _ by decide) (by decide)
  · exact not_needed (show sampleSensor "a" ∈ _ by decide) rfl

end NodeTable

/-!
## The reloader
-/

/-- What a round gets: the triggers in the channel, none when the timer ticks, and when the reload
sets the time of the last one. A run that ends is a shorter list of rounds. -/
structure ReloadRound where
  triggers : List Bool
  now : Nat
  reloaded : Option Nat

inductive ReloadEffect where
  | logTooOften (fromTrig : Bool)
  | reloadNode
  deriving DecidableEq

structure ReloadReport where
  lastReload : Option Nat
  round : ReloadRound
  effects : List ReloadEffect

def reloaderRound (reloadInterval : Nat) (lastReload : Option Nat) (r : ReloadRound) :
    List ReloadEffect :=
  (if !r.triggers.any id && lastReload.any (reloadInterval / 2 < r.now - ·) then
    [.logTooOften !r.triggers.isEmpty] else []) ++ [.reloadNode]

def reloader (reloadInterval : Nat) : Option Nat -> List ReloadRound -> List ReloadReport
  | _, [] => []
  | lastReload, r :: rs => ⟨lastReload, r, reloaderRound reloadInterval lastReload r⟩ ::
      reloader reloadInterval (r.reloaded.or lastReload) rs

/-- A reload that is not forced, with less than half of the interval since the last one. -/
def ReloadReport.Early (reloadInterval : Nat) (report : ReloadReport) : Prop :=
  true ∉ report.round.triggers ∧
    exists last, report.lastReload = some last ∧ 2 * (report.round.now - last) < reloadInterval

lemma reloader_reloads (h : report ∈ reloader reloadInterval lastReload rs) :
    .reloadNode ∈ report.effects := by
  induction rs generalizing lastReload with
  | nil => cases h
  | cons r rs ih =>
    rcases List.mem_cons.mp h with heq | hrest
    · rw [heq]
      exact List.mem_append_right _ (List.mem_singleton_self _)
    · exact ih hrest

/-- The reloads of a run are limited if and only if none of them comes early. -/
theorem reloads_limited_iff (reloadInterval : Nat) (lastReload : Option Nat) (rs : List ReloadRound)
    :
    (forall report, report ∈ reloader reloadInterval lastReload rs ->
      (.reloadNode ∈ report.effects <-> ¬ report.Early reloadInterval)) <->
    forall report, report ∈ reloader reloadInterval lastReload rs ->
      ¬ report.Early reloadInterval := by
  apply forall_congr'
  intro report
  apply imp_congr_right
  intro h
  exact iff_true_left (reloader_reloads h)

/-- A second trigger reloads at once. -/
theorem early_reload_executed :
    exists report, report ∈ reloader 60 none [⟨[false], 0, some 1⟩, ⟨[false], 2, some 3⟩] ∧
      report.Early 60 ∧ .reloadNode ∈ report.effects :=
  ⟨_, List.mem_cons_of_mem _ (List.mem_singleton_self _), ⟨by decide, 1, rfl, by decide⟩,
    by decide⟩

end Eva4.Repl
