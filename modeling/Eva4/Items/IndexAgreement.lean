import Mathlib.Data.List.Induction
import Eva4.Items.InventoryInvariant

/-!
# Agreement of the inventory indexes

The index of a source lists an item exactly when the item map holds that same item
and the source is its own.  An append that replaces an item writes the index of the
new owner only, so the agreement survives exactly the appends that keep the owner.
-/

namespace Eva4.Items

open Lib

variable {V : Type}

/-- The three indexes of the inventory describe the same items. -/
structure Inventory.IndexesAgree (inv : Inventory V) : Prop where
  inIndex : forall node oid x, inv.InIndex node oid x <-> inv.getItem oid = some x ∧ node = x.node
  index_ne_nil : forall node items,
    AList.lookup node inv.itemsBySource = some items -> items.entries ≠ []
  mem_sources : forall node, node ∈ inv.sources <-> some node ∈ inv.itemsBySource

lemma Inventory.WellFormed.indexesAgree_iff {inv : Inventory V} (hwf : inv.WellFormed) :
    inv.IndexesAgree <-> forall node oid x, inv.InIndex node oid x -> inv.getItem oid = some x := by
  constructor
  · intro h node oid x hx
    exact ((h.inIndex node oid x).mp hx).left
  · intro h
    refine ⟨?_, hwf.index_ne_nil, hwf.mem_sources⟩
    intro node oid x
    constructor
    · intro hx
      exact ⟨h node oid x hx, (hwf.entry node oid x hx).right.symm⟩
    · intro hx
      rw [hx.right]
      exact hwf.indexed oid x hx.left

lemma Mem.new_indexesAgree : (Mem.new : Mem V).inv.IndexesAgree := by
  rw [Mem.new_wellFormed.inv.indexesAgree_iff]
  intro node oid x hx
  exact absurd hx Inventory.not_inIndex_new

/-!
## One append or removal
-/

lemma Mem.Appended.indexesAgree_iff {m : Mem V} (h : m.Appended item cell m')
    (hagree : m.inv.IndexesAgree) : m'.inv.IndexesAgree <->
      forall old, m.inv.getItem item.oid = some old -> old.node = item.node := by
  rw [h.wellFormed.inv.indexesAgree_iff]
  constructor
  · intro hagree' old hold
    by_cases hnode : old.node = item.node
    · exact hnode
    · have hindex : m.inv.InIndex old.node item.oid old :=
        (hagree.inIndex old.node item.oid old).mpr ⟨hold, rfl⟩
      have hindex' : m'.inv.InIndex old.node item.oid old :=
        (h.inIndex old.node item.oid old).mpr (Or.inr ⟨fun hsame => hnode hsame.left, hindex⟩)
      have hget := hagree' old.node item.oid old hindex'
      rw [h.getItem, if_pos rfl] at hget
      cases hget
      rfl
  · intro hkeeps node oid x hx
    rw [h.getItem]
    rcases (h.inIndex node oid x).mp hx with hnew | hold
    · rw [if_pos hnew.right.left, hnew.right.right]
    · have hget := (hagree.inIndex node oid x).mp hold.right
      by_cases hoid : oid = item.oid
      · rw [hoid] at hget
        have hnode : x.node = item.node := hkeeps x hget.left
        exact absurd ⟨hget.right.trans hnode, hoid⟩ hold.left
      · rw [if_neg hoid]
        exact hget.left

lemma Mem.Removed.indexesAgree {m : Mem V} (h : m.Removed oid item m')
    (hitem : m.inv.getItem oid = some item) (hagree : m.inv.IndexesAgree) :
    m'.inv.IndexesAgree := by
  rw [h.wellFormed.inv.indexesAgree_iff]
  intro node o x hx
  have hold := (h.inIndex node o x).mp hx
  have hget := (hagree.inIndex node o x).mp hold.right
  rw [h.getItem]
  by_cases ho : o = oid
  · rw [ho, hitem] at hget
    have hxitem : item = x := by
      injection hget.left
    rw [← hxitem] at hget
    exact absurd ⟨hget.right, ho⟩ hold.left
  · rw [if_neg ho]
    exact hget.left

/-!
## Runs of inventory operations
-/

inductive InventoryOp (V : Type) where
  | appendItemFromValue (oid : OID) (configValue : EResult (ItemRecord V))
      (state : Option (ItemState V))
  | appendItemFromConfigData (config : ItemConfigData V)
  | createItem (oid : OID) (ieid : Option IEID) (source : Option (String × String))
  | appendRemoteItem (remote : ReplicationInventoryItem V) (source : Source)
  | removeItem (oid : OID)

variable (clock : Clock) (bootId : Nat)

namespace InventoryOp

variable [EvaCommon V]

def step (m : Mem V) : InventoryOp V -> Mem V
  | .appendItemFromValue oid configValue state =>
    (m.appendItemFromValue clock bootId oid configValue state).2
  | .appendItemFromConfigData config => (m.appendItemFromConfigData clock bootId config).2
  | .createItem oid ieid source => (m.createItem clock oid ieid source).2
  | .appendRemoteItem remote source => (m.appendRemoteItem remote source).2
  | .removeItem oid => (m.removeItem oid).2

def run (ops : List (InventoryOp V)) : Mem V :=
  ops.foldl (step clock bootId) Mem.new

/-- The OID and the owner an operation writes over whatever holds the OID. -/
def replaces : InventoryOp V -> Option (OID × Option String)
  | .appendItemFromValue oid (.ok data) _ =>
    if data.oid = oid ∧ checkItemData data.oid data.logic data.action = .ok () then some (oid, none)
    else none
  | .appendItemFromConfigData config =>
    if checkItemData config.oid config.logic config.action = .ok () then some (config.oid, none)
    else none
  | .appendRemoteItem remote source =>
    if (Mem.replState remote).isOk then some (remote.oid, some source.node) else none
  | _ => none

def KeepsOwner (m : Mem V) (op : InventoryOp V) : Prop :=
  forall oid node, op.replaces = some (oid, node) ->
    forall old, m.inv.getItem oid = some old -> old.node = node

inductive Effect (m : Mem V) (op : InventoryOp V) (m' : Mem V) : Prop where
  | kept (hreplaces : op.replaces = none) (hinv : m'.inv = m.inv)
      (hheap : m.heap.nextItem ≤ m'.heap.nextItem)
  | replaced (base : Mem V) (item : Item V) (cell : ItemCell V)
      (hreplaces : op.replaces = some (item.oid, item.node))
      (hbase : base.inv = m.inv) (happended : base.Appended item cell m')
  | created (base : Mem V) (item : Item V) (cell : ItemCell V)
      (hreplaces : op.replaces = none) (hnew : m.inv.getItem item.oid = none)
      (hbase : base.inv = m.inv) (happended : base.Appended item cell m')
  | removed (oid : OID) (item : Item V) (hreplaces : op.replaces = none)
      (hitem : m.inv.getItem oid = some item) (hremoved : m.Removed oid item m')

variable {m : Mem V} {op : InventoryOp V}

lemma effect_create (base : Mem V) (hbase : base.inv = m.inv)
    (hheap : m.heap.nextItem ≤ base.heap.nextItem) (hwf : base.WellFormed) (item : Item V)
    (cell : ItemCell V) (ieid : Option IEID) (source : Option (String × String)) :
    Effect m (.createItem item.oid ieid source) (base.appendNew item cell false).2 := by
  cases hget : base.inv.getItem item.oid with
  | some old =>
    rw [hwf.appendNew_duplicate cell hget]
    exact Effect.kept rfl hbase (Nat.le_succ_of_le hheap)
  | none =>
    rcases hwf.appendNew item cell (Or.inr hget) with ⟨m', heq, happended⟩
    rw [heq]
    rw [hbase] at hget
    exact Effect.created base item cell rfl hget hbase happended

section

variable (hwf : m.WellFormed)
include hwf

lemma effect_appendItemFromValue {oid : OID} {configValue : EResult (ItemRecord V)}
    {state : Option (ItemState V)} :
    Effect m (.appendItemFromValue oid configValue state)
      (step clock bootId m (.appendItemFromValue oid configValue state)) := by
  unfold step Mem.appendItemFromValue
  cases configValue with
  | error e => exact Effect.kept rfl rfl (le_refl _)
  | ok data =>
    by_cases hoid : data.oid = oid
    · subst hoid
      simp only [ne_eq, not_true_eq_false, if_false]
      cases hcheck : checkItemData data.oid data.logic data.action with
      | error e =>
        refine Effect.kept ?_ rfl (le_refl _)
        simp [replaces, hcheck]
      | ok _ =>
        rcases hwf.advance.appendNew data.item
          { state := m.recordState clock bootId data state, enabled := data.enabled }
          (Or.inl rfl) with ⟨m', heq, happended⟩
        simp only [heq]
        refine Effect.replaced { m with heap := m.heap.advance } _ _ ?_ rfl happended
        simp [replaces, hcheck, ItemRecord.item, Item.node]
    · simp only [ne_eq, hoid, not_false_eq_true, if_true]
      refine Effect.kept ?_ rfl (le_refl _)
      simp [replaces, hoid]

lemma effect_appendItemFromConfigData : Effect m (.appendItemFromConfigData config)
      (step clock bootId m (.appendItemFromConfigData config)) := by
  unfold step
  cases hcheck : checkItemData config.oid config.logic config.action with
  | error e =>
    simp only [Mem.appendItemFromConfigData_invalid hcheck]
    refine Effect.kept ?_ rfl (le_refl _)
    simp [replaces, hcheck]
  | ok _ =>
    rcases hwf.appendItemFromConfigData clock bootId hcheck with ⟨m', heq, happended⟩
    simp only [heq]
    refine Effect.replaced { m with heap := m.heap.advance } _ _ ?_ rfl happended
    simp [replaces, hcheck, ItemConfigData.item, Item.node]

lemma effect_appendRemoteItem : Effect m (.appendRemoteItem remote source)
      (step clock bootId m (.appendRemoteItem remote source)) := by
  unfold step
  cases hstate : Mem.replState remote with
  | error e =>
    simp only [Mem.appendRemoteItem_invalid hstate]
    refine Effect.kept ?_ rfl (le_refl _)
    simp [replaces, hstate, Except.isOk, Except.toBool]
  | ok state =>
    rcases hwf.appendRemoteItem source hstate with ⟨m', heq, happended⟩
    simp only [heq]
    refine Effect.replaced m _ _ ?_ rfl happended
    simp [replaces, hstate, ReplicationInventoryItem.item, Item.node, Except.isOk, Except.toBool]

lemma effect_createItem (oid : OID) (ieid : Option IEID) (source : Option (String × String)) :
    Effect m (.createItem oid ieid source) (step clock bootId m (.createItem oid ieid source)) := by
  have hinv := Mem.createSource_inv m source
  have hnext := le_of_eq (Mem.createSource_nextItem m source).symm
  have hsrc := hwf.createSource source
  let base := (m.createSource source).2
  let item : Item V :=
    { ptr := 0, oid := oid, metaValue := none, source := (m.createSource source).1,
      logic := none, action := none }
  unfold step Mem.createItem
  by_cases hkind : oid.kind = .lMacro
  · simp only [if_pos hkind]
    exact effect_create base hinv hnext hsrc item _ ieid source
  · simp only [if_neg hkind]
    cases ieid with
    | none => exact Effect.kept rfl hinv hnext
    | some i =>
      exact effect_create { base with heap := base.heap.advance } hinv hnext
        hsrc.advance item _ (some i) source

lemma effect_removeItem : Effect m (.removeItem oid) (step clock bootId m (.removeItem oid)) := by
  unfold step
  cases hget : m.inv.getItem oid with
  | none =>
    simp only [hwf.removeItem_absent hget]
    exact Effect.kept rfl rfl (le_refl _)
  | some item =>
    rcases hwf.removeItem hget with ⟨m', heq, hremoved⟩
    simp only [heq]
    exact Effect.removed oid item rfl hget hremoved

lemma step_effect (op : InventoryOp V) : Effect m op (step clock bootId m op) := by
  cases op with
  | appendItemFromValue oid configValue state =>
    exact effect_appendItemFromValue clock bootId hwf
  | appendItemFromConfigData config => exact effect_appendItemFromConfigData clock bootId hwf
  | createItem oid ieid source => exact effect_createItem clock bootId hwf oid ieid source
  | appendRemoteItem remote source => exact effect_appendRemoteItem clock bootId hwf
  | removeItem oid => exact effect_removeItem clock bootId hwf

lemma Effect.wellFormed (h : Effect m op m') : m'.WellFormed := by
  cases h with
  | kept hreplaces hinv hheap =>
    have hm' := hwf.of_heap hheap
    rwa [← hinv] at hm'
  | replaced base item cell hreplaces hbase happended
  | created base item cell hreplaces hnew hbase happended => exact happended.wellFormed
  | removed oid item hreplaces hitem hremoved => exact hremoved.wellFormed

end

lemma keepsOwner_of_replaces_none (h : op.replaces = none) : KeepsOwner m op := by
  intro oid node hreplaces
  rw [h] at hreplaces
  cases hreplaces

/-- One operation keeps the agreement exactly when it keeps the owner. -/
theorem Effect.indexesAgree_iff {m' : Mem V} (hagree : m.inv.IndexesAgree) (h : Effect m op m') :
    m'.inv.IndexesAgree <-> KeepsOwner m op := by
  cases h with
  | kept hreplaces hinv hheap =>
    rw [hinv]
    exact iff_of_true hagree (keepsOwner_of_replaces_none hreplaces)
  | replaced base item cell hreplaces hbase happended =>
    rw [← hbase] at hagree
    rw [happended.indexesAgree_iff hagree, hbase]
    constructor
    · intro hkeeps oid node hop
      rw [hreplaces] at hop
      injection hop with hop
      injection hop with hoid hnode
      rw [← hoid, ← hnode]
      exact hkeeps
    · intro hkeeps
      exact hkeeps item.oid item.node hreplaces
  | created base item cell hreplaces hnew hbase happended =>
    rw [← hbase] at hagree hnew
    refine iff_of_true ?_ (keepsOwner_of_replaces_none hreplaces)
    rw [happended.indexesAgree_iff hagree]
    intro old hold
    rw [hnew] at hold
    cases hold
  | removed oid item hreplaces hitem hremoved =>
    exact iff_of_true (hremoved.indexesAgree hitem hagree) (keepsOwner_of_replaces_none hreplaces)

/-!
## Whole runs
-/

section

variable (ops : List (InventoryOp V))

lemma foldl_wellFormed :
    forall {m : Mem V}, m.WellFormed -> (ops.foldl (step clock bootId) m).WellFormed := by
  induction ops with
  | nil =>
    intro m hwf
    exact hwf
  | cons op ops ih =>
    intro m hwf
    exact ih ((step_effect clock bootId hwf op).wellFormed hwf)

lemma run_wellFormed : (run clock bootId ops).WellFormed :=
  foldl_wellFormed clock bootId ops Mem.new_wellFormed

lemma run_append :
    run clock bootId (ops ++ [op]) = step clock bootId (run clock bootId ops) op := by
  unfold run
  rw [List.foldl_append]
  rfl

end

/--
The indexes agree at every point of a run exactly when every operation of the run
keeps the owner of the item it replaces.
-/
theorem run_indexesAgree_iff (clock : Clock) (bootId : Nat) (ops : List (InventoryOp V)) :
    (forall done, done <+: ops -> (run clock bootId done).inv.IndexesAgree) <->
      forall done op, done ++ [op] <+: ops -> KeepsOwner (run clock bootId done) op := by
  constructor
  · intro hagree done op hinit
    have hdone : (run clock bootId done).inv.IndexesAgree :=
      hagree done ((List.prefix_append done [op]).trans hinit)
    have hnext := hagree (done ++ [op]) hinit
    rw [run_append] at hnext
    have heffect := step_effect clock bootId (run_wellFormed clock bootId done) op
    exact (heffect.indexesAgree_iff hdone).mp hnext
  · intro hkeeps done
    induction done using List.reverseRecOn with
    | nil =>
      intro _
      exact Mem.new_indexesAgree
    | append_singleton done op ih =>
      intro hinit
      have hdone := ih ((List.prefix_append done [op]).trans hinit)
      have heffect := step_effect clock bootId (run_wellFormed clock bootId done) op
      rw [run_append]
      exact (heffect.indexesAgree_iff hdone).mpr (hkeeps done op hinit)

/--
A remote item appended over a local one of the same OID stays listed among the local
items although the item map no longer holds it.
-/
theorem remote_over_local_not_indexesAgree :
    ¬ (run { monotonicNs := fun n => n, timeNow := fun _ => F64.zero } 1
      [ .createItem { kind := .sensor, fullId := "a" } (some { bootId := 1, t := 0 }) none,
        .appendRemoteItem
          { oid := { kind := .sensor, fullId := "a" }, act := none, enabled := true,
            ieid := some { bootId := 1, t := 0 }, metaValue := none, status := some 1,
            value := some (some 5), t := some F64.zero }
          { ptr := 0, node := "n1", svc := "eva.repl.1" } ] :
        Mem (Option Int)).inv.IndexesAgree := by
  intro hagree
  have hstale := (hagree.inIndex none { kind := .sensor, fullId := "a" }
    { ptr := 0, oid := { kind := .sensor, fullId := "a" }, metaValue := none,
      source := none, logic := none, action := none }).mp ⟨_, rfl, rfl⟩
  exact absurd hstale.left (by decide)

end InventoryOp

end Eva4.Items
