import Eva4.Items.Inventory

/-!
# Invariants of the inventory

What holds whatever is appended.  An index may keep an item that the item map has replaced.
-/

namespace Eva4.Items

open Lib Table
open AList (erase lookup)

variable {V : Type}

namespace Inventory

def InIndex (inv : Inventory V) (node : Option String) (oid : OID) (x : Item V) : Prop :=
  exists items, lookup node inv.itemsBySource = some items ∧ lookup oid items = some x

structure WellFormed (inv : Inventory V) : Prop where
  items : inv.items.WellFormed
  indexed : forall oid x, inv.getItem oid = some x -> inv.InIndex x.node oid x
  entry : forall node oid x, inv.InIndex node oid x -> x.oid = oid ∧ x.node = node
  index_ne_nil : forall node items, lookup node inv.itemsBySource = some items -> items.entries ≠ []
  mem_sources : forall node, node ∈ inv.sources <-> some node ∈ inv.itemsBySource
  source_node : forall node source, lookup node inv.sources = some source -> source.node = node

lemma not_inIndex_new : ¬ (new : Inventory V).InIndex node oid x := by
  intro h
  rcases h with ⟨items, hitems, _⟩
  cases hitems

lemma new_wellFormed : (new : Inventory V).WellFormed where
  items := ItemMap.empty_wellFormed
  indexed := by
    intro oid x h
    have hnone : (new : Inventory V).getItem oid = none := ItemMap.empty_get oid
    rw [hnone] at h
    cases h
  entry := by
    intro node oid x h
    exact absurd h not_inIndex_new
  index_ne_nil := by
    intro node items h
    cases h
  mem_sources := by
    intro node
    simp [new]
  source_node := by
    intro node source h
    cases h

variable {inv : Inventory V}

lemma WellFormed.getItem_oid (hwf : inv.WellFormed) (h : inv.getItem oid = some x) : x.oid = oid :=
  hwf.items.get_oid h

/-!
## Indexing one item
-/

section

variable (inv) (item : Item V) (node : Option String)

theorem lookup_indexItem : lookup node (inv.indexItem item).itemsBySource = if node = item.node then
        some (AList.insert item.oid item ((lookup item.node inv.itemsBySource).getD ∅))
      else lookup node inv.itemsBySource := by
  unfold indexItem
  cases lookup item.node inv.itemsBySource with
  | some | none => exact lookup_insert_if node item.node _ _

lemma inIndex_indexItem : (inv.indexItem item).InIndex node oid x <->
      (node = item.node ∧ oid = item.oid ∧ x = item) ∨
        (¬ (node = item.node ∧ oid = item.oid) ∧ inv.InIndex node oid x) := by
  unfold InIndex
  rw [lookup_indexItem]
  by_cases hnode : node = item.node
  · have hold : lookup oid ((lookup item.node inv.itemsBySource).getD ∅) =
        some x <-> exists items, lookup item.node inv.itemsBySource = some items ∧
          lookup oid items = some x := by
      cases lookup item.node inv.itemsBySource <;> simp
    rw [hnode, if_pos rfl, ← hold]
    simp only [Option.some.injEq, exists_eq_left', lookup_insert_if, true_and]
    by_cases hoid : oid = item.oid
    · simp [hoid, eq_comm]
    · simp [hoid]
  · simp [hnode]

lemma mem_itemsBySource_indexItem :
    node ∈ (inv.indexItem item).itemsBySource <-> node = item.node ∨ node ∈ inv.itemsBySource := by
  unfold indexItem
  cases lookup item.node inv.itemsBySource <;> simp

end

lemma lookup_sources_indexItem (h : lookup node (inv.indexItem item).sources = some source) :
    (item.source = some source ∧ source.node = node) ∨ lookup node inv.sources = some source := by
  unfold indexItem at h
  cases hitems : lookup item.node inv.itemsBySource with
  | some items =>
    rw [hitems] at h
    exact Or.inr h
  | none =>
    rw [hitems] at h
    cases hsource : item.source with
    | none =>
      rw [hsource] at h
      exact Or.inr h
    | some s =>
      rw [hsource] at h
      simp only [lookup_insert_if] at h
      by_cases hnode : node = s.node
      · rw [if_pos hnode] at h
        cases h
        exact Or.inl ⟨rfl, hnode.symm⟩
      · rw [if_neg hnode] at h
        exact Or.inr h

lemma indexItem_setItems (inv : Inventory V) (item : Item V) (items : ItemMap V) :
    { inv with items := items }.indexItem item = { inv.indexItem item with items := items } := by
  unfold indexItem
  cases lookup item.node inv.itemsBySource <;> rfl

variable (hwf : inv.WellFormed)
include hwf

lemma mem_sources_indexItem :
    node ∈ (inv.indexItem item).sources <-> some node = item.node ∨ node ∈ inv.sources := by
  unfold indexItem
  cases hitems : lookup item.node inv.itemsBySource with
  | some items =>
    constructor
    · intro h
      exact Or.inr h
    · intro h
      rcases h with hnode | hmem
      · rw [← hnode] at hitems
        exact (hwf.mem_sources node).mpr (mem_iff_lookup.mpr ⟨items, hitems⟩)
      · exact hmem
  | none =>
    cases hsource : item.source with
    | none | some => simp [Item.node, hsource]

variable {items : Table OID (Item V)}

lemma indexItem_ne_nil {node : Option String}
    (h : lookup node (inv.indexItem item).itemsBySource = some items) : items.entries ≠ [] := by
  rw [lookup_indexItem] at h
  by_cases hnode : node = item.node
  · rw [if_pos hnode] at h
    cases h
    exact insert_entries_ne_nil
  · rw [if_neg hnode] at h
    exact hwf.index_ne_nil node items h

lemma WellFormed.setItems_indexItem {items : ItemMap V} (hitems : items.WellFormed)
    (hget : forall oid,
      items.get oid = if oid = item.oid then some item else inv.getItem oid) :
    ({ inv.indexItem item with items := items } : Inventory V).WellFormed where
  items := hitems
  indexed := by
    intro oid x hx
    have hx' : items.get oid = some x := hx
    apply (inIndex_indexItem inv item x.node).mpr
    rw [hget oid] at hx'
    by_cases hoid : oid = item.oid
    · rw [if_pos hoid] at hx'
      cases hx'
      exact Or.inl ⟨rfl, hoid, rfl⟩
    · rw [if_neg hoid] at hx'
      exact Or.inr ⟨fun h => hoid h.right, hwf.indexed oid x hx'⟩
  entry := by
    intro node oid x hx
    rcases (inIndex_indexItem inv item node).mp hx with hnew | hold
    · rw [hnew.right.right]
      exact ⟨hnew.right.left.symm, hnew.left.symm⟩
    · exact hwf.entry node oid x hold.right
  index_ne_nil := by
    intro node index h
    exact indexItem_ne_nil hwf h
  mem_sources := by
    intro node
    show node ∈ (inv.indexItem item).sources <-> some node ∈ (inv.indexItem item).itemsBySource
    rw [mem_sources_indexItem hwf, mem_itemsBySource_indexItem, hwf.mem_sources]
  source_node := by
    intro node source h
    rcases lookup_sources_indexItem h with hnew | hold
    · exact hnew.right
    · exact hwf.source_node node source hold

lemma WellFormed.appendItem {replace : Bool} (hok : replace = true ∨ inv.getItem item.oid = none) :
    exists inv', inv.appendItem item replace = (.ok item, inv') ∧ inv'.WellFormed ∧ (forall oid,
        inv'.getItem oid = if oid = item.oid then some item else inv.getItem oid) ∧
      (forall node oid x, inv'.InIndex node oid x <-> (inv.indexItem item).InIndex node oid x) := by
  rcases hwf.items.append hok with ⟨items, heq, hitems, hget⟩
  refine ⟨{ inv.indexItem item with items := items }, ?_,
    hwf.setItems_indexItem hitems hget, hget, fun _ _ _ => Iff.rfl⟩
  unfold Inventory.appendItem
  rw [heq, ← indexItem_setItems]

/-!
## Removing one item
-/

omit hwf in
theorem lookup_unindexItem :
    lookup node (inv.unindexItem item).itemsBySource = if node = item.node then
        (lookup item.node inv.itemsBySource).bind fun items =>
          if (erase item.oid items).entries.isEmpty then none
          else some (erase item.oid items) else lookup node inv.itemsBySource := by
  unfold unindexItem
  cases hitems : lookup item.node inv.itemsBySource with
  | none =>
    by_cases hnode : node = item.node
    · rw [if_pos hnode, hnode]
      exact hitems
    · rw [if_neg hnode]
  | some items =>
    rw [Option.bind_some]
    by_cases hlast : (erase item.oid items).entries.isEmpty = true
    · simp only [if_pos hlast, lookup_erase_if]
    · simp only [if_neg hlast, lookup_insert_if]

omit hwf in
lemma inIndex_unindexItem : (inv.unindexItem item).InIndex node oid x <->
      ¬ (node = item.node ∧ oid = item.oid) ∧ inv.InIndex node oid x := by
  unfold InIndex
  rw [lookup_unindexItem]
  by_cases hnode : node = item.node
  · rw [if_pos hnode, hnode]
    cases lookup item.node inv.itemsBySource with
    | none => simp
    | some items =>
      have hentry : lookup oid (erase item.oid items) = some x <->
          oid ≠ item.oid ∧ lookup oid items = some x := by
        rw [lookup_erase_if]
        by_cases hoid : oid = item.oid <;> simp [hoid]
      by_cases hlast : (erase item.oid items).entries.isEmpty = true
      · have hnone := entries_eq_nil_iff.mp (List.isEmpty_iff.mp hlast) oid
        rw [hnone] at hentry
        rw [Option.bind_some, if_pos hlast]
        simpa using hentry
      · rw [Option.bind_some, if_neg hlast]
        simpa using hentry
  · simp [hnode]

omit hwf in
lemma unindexItem_setItems {inv : Inventory V} {item : Item V} {items : ItemMap V} :
    { inv with items := items }.unindexItem item =
      { inv.unindexItem item with items := items } := by
  unfold unindexItem
  cases lookup item.node inv.itemsBySource with
  | none => rfl
  | some index =>
    simp only
    split <;> rfl

lemma unindexItem_ne_nil {node : Option String}
    (h : lookup node (inv.unindexItem item).itemsBySource = some items) : items.entries ≠ [] := by
  rw [lookup_unindexItem] at h
  by_cases hnode : node = item.node
  · rw [if_pos hnode] at h
    rcases Option.bind_eq_some_iff.mp h with ⟨items', _, h⟩
    split at h
    next => cases h
    next hlast =>
      cases h
      intro hnil
      exact hlast (List.isEmpty_iff.mpr hnil)
  · rw [if_neg hnode] at h
    exact hwf.index_ne_nil node items h

lemma mem_sources_unindexItem (item : Item V) (node : String) :
    node ∈ (inv.unindexItem item).sources <-> some node ∈ (inv.unindexItem item).itemsBySource := by
  unfold unindexItem
  cases hitems : lookup item.node inv.itemsBySource with
  | none => exact hwf.mem_sources node
  | some items =>
    by_cases hlast : (erase item.oid items).entries.isEmpty = true
    · simp only [if_pos hlast]
      cases hnode : item.node with
      | none | some => simp [hwf.mem_sources node]
    · simp only [if_neg hlast, AList.mem_insert]
      constructor
      · intro h
        exact Or.inr ((hwf.mem_sources node).mp h)
      · intro h
        apply (hwf.mem_sources node).mpr
        rcases h with hnode | hmem
        · rw [hnode]
          exact mem_iff_lookup.mpr ⟨items, hitems⟩
        · exact hmem

omit hwf in
lemma lookup_sources_unindexItem (h : lookup node (inv.unindexItem item).sources = some source) :
    lookup node inv.sources = some source := by
  unfold unindexItem at h
  cases hitems : lookup item.node inv.itemsBySource with
  | none =>
    rw [hitems] at h
    exact h
  | some items =>
    rw [hitems] at h
    by_cases hlast : (erase item.oid items).entries.isEmpty = true
    · simp only [if_pos hlast] at h
      cases hnode : item.node with
      | none =>
        rw [hnode] at h
        exact h
      | some n =>
        rw [hnode] at h
        simp only [lookup_erase_if] at h
        by_cases hn : node = n
        · rw [if_pos hn] at h
          cases h
        · rw [if_neg hn] at h
          exact h
    · simp only [if_neg hlast] at h
      exact h

lemma WellFormed.removeItem_absent (h : inv.getItem oid = none) :
    inv.removeItem oid = (none, inv) := by
  unfold Inventory.removeItem
  rw [hwf.items.remove_absent h]

lemma WellFormed.removeItem (h : inv.getItem oid = some item) :
    exists inv', inv.removeItem oid = (some item, inv') ∧ inv'.WellFormed ∧
      (forall o, inv'.getItem o = if o = oid then none else inv.getItem o) ∧
      (forall node o x, inv'.InIndex node o x <->
        ¬ (node = item.node ∧ o = oid) ∧ inv.InIndex node o x) := by
  have hoid : item.oid = oid := hwf.getItem_oid h
  rcases hwf.items.remove h with ⟨items, heq, hitems, hget⟩
  have hindex : forall node o x,
      (inv.unindexItem item).InIndex node o x <->
        ¬ (node = item.node ∧ o = oid) ∧ inv.InIndex node o x := by
    intro node o x
    rw [← hoid]
    exact inIndex_unindexItem
  refine ⟨{ inv.unindexItem item with items := items }, ?_, ?_, hget, hindex⟩
  · unfold Inventory.removeItem
    rw [heq, ← unindexItem_setItems]
  · constructor
    · exact hitems
    · intro o x hx
      have hx' : items.get o = some x := hx
      rw [hget o] at hx'
      by_cases ho : o = oid
      · rw [if_pos ho] at hx'
        cases hx'
      · rw [if_neg ho] at hx'
        exact (hindex x.node o x).mpr ⟨fun hsame => ho hsame.right, hwf.indexed o x hx'⟩
    · intro node o x hx
      exact hwf.entry node o x ((hindex node o x).mp hx).right
    · intro node index hlookup
      exact unindexItem_ne_nil hwf hlookup
    · exact mem_sources_unindexItem hwf item
    · intro node source hlookup
      exact hwf.source_node node source (lookup_sources_unindexItem hlookup)

end Inventory

/-!
## Inventory and heap
-/

namespace Mem

/-- Indexed items are allocated, and no two of them share an address. -/
structure WellFormed (m : Mem V) : Prop where
  inv : m.inv.WellFormed
  fresh : forall node oid x, m.inv.InIndex node oid x -> x.ptr < m.heap.nextItem
  distinct : forall node oid x node' oid' y, m.inv.InIndex node oid x ->
    m.inv.InIndex node' oid' y -> x.ptr = y.ptr -> x = y

lemma new_wellFormed : (Mem.new : Mem V).WellFormed where
  inv := Inventory.new_wellFormed
  fresh := fun _ _ _ h => absurd h Inventory.not_inIndex_new
  distinct := fun _ _ _ _ _ _ h => absurd h Inventory.not_inIndex_new

variable {m : Mem V} {oid : OID}

section

variable (hwf : m.WellFormed)
include hwf

lemma WellFormed.getItem_fresh (h : m.inv.getItem oid = some x) : x.ptr < m.heap.nextItem :=
  hwf.fresh x.node oid x (hwf.inv.indexed oid x h)

lemma WellFormed.of_heap {heap : Heap V} (h : m.heap.nextItem ≤ heap.nextItem) :
    ({ m with heap := heap } : Mem V).WellFormed where
  inv := hwf.inv
  fresh := fun node oid x hx => lt_of_lt_of_le (hwf.fresh node oid x hx) h
  distinct := hwf.distinct

structure Appended (m : Mem V) (item : Item V) (cell : ItemCell V) (m' : Mem V) : Prop where
  wellFormed : m'.WellFormed
  heap : m'.heap = m.heap.allocItem cell
  getItem : forall oid, m'.inv.getItem oid =
    if oid = item.oid then some { item with ptr := m.heap.nextItem }
    else m.inv.getItem oid
  inIndex : forall node oid x, m'.inv.InIndex node oid x <->
    node = item.node ∧ oid = item.oid ∧ x = { item with ptr := m.heap.nextItem } ∨
      ¬ (node = item.node ∧ oid = item.oid) ∧ m.inv.InIndex node oid x

lemma WellFormed.appendNew (item : Item V) (cell : ItemCell V)
    (hok : replace = true ∨ m.inv.getItem item.oid = none) :
    exists m', m.appendNew item cell replace =
        (.ok { item with ptr := m.heap.nextItem }, m') ∧ m.Appended item cell m' := by
  let x : Item V := { item with ptr := m.heap.nextItem }
  have hx : replace = true ∨ m.inv.getItem x.oid = none := hok
  rcases hwf.inv.appendItem hx with ⟨inv', heq, hinv, hget, hindex⟩
  have hentry : forall node oid y, inv'.InIndex node oid y <->
      node = item.node ∧ oid = item.oid ∧ y = x ∨
        ¬ (node = item.node ∧ oid = item.oid) ∧ m.inv.InIndex node oid y := by
    intro node oid y
    rw [hindex node oid y]
    exact Inventory.inIndex_indexItem m.inv x node
  refine ⟨{ inv := inv', heap := m.heap.allocItem cell }, ?_, ?_, rfl, hget, hentry⟩
  · unfold Mem.appendNew Mem.appendItem
    rw [heq]
  · constructor
    · exact hinv
    · intro node oid y hy
      show y.ptr < m.heap.nextItem + 1
      rcases (hentry node oid y).mp hy with hnew | hold
      · rw [hnew.right.right]
        exact Nat.lt_succ_self _
      · exact Nat.lt_succ_of_lt (hwf.fresh node oid y hold.right)
    · intro node oid y node' oid' z hy hz hptr
      rcases (hentry node oid y).mp hy with hynew | hyold
      · rcases (hentry node' oid' z).mp hz with hznew | hzold
        · rw [hynew.right.right, hznew.right.right]
        · have hlt := hwf.fresh node' oid' z hzold.right
          rw [← hptr, hynew.right.right] at hlt
          exact absurd hlt (lt_irrefl _)
      · rcases (hentry node' oid' z).mp hz with hznew | hzold
        · have hlt := hwf.fresh node oid y hyold.right
          rw [hptr, hznew.right.right] at hlt
          exact absurd hlt (lt_irrefl _)
        · exact hwf.distinct node oid y node' oid' z hyold.right hzold.right hptr

variable {item : Item V}

lemma WellFormed.appendNew_duplicate (cell : ItemCell V) (h : m.inv.getItem item.oid = some old) :
    m.appendNew item cell false =
      (.error (alreadyRegistered item.oid), { m with heap := m.heap.allocItem cell }) := by
  let x : Item V := { item with ptr := m.heap.nextItem }
  have hx : m.inv.getItem x.oid = some old := h
  unfold Mem.appendNew Mem.appendItem Inventory.appendItem
  rw [hwf.inv.items.append_duplicate hx]

lemma WellFormed.removeItem_absent (h : m.inv.getItem oid = none) :
    m.removeItem oid = (none, m) := by
  unfold Mem.removeItem
  rw [hwf.inv.removeItem_absent h]

structure Removed (m : Mem V) (oid : OID) (item : Item V) (m' : Mem V) : Prop where
  wellFormed : m'.WellFormed
  heap : m'.heap = m.heap
  getItem : forall o, m'.inv.getItem o = if o = oid then none else m.inv.getItem o
  inIndex : forall node o x, m'.inv.InIndex node o x <->
    ¬ (node = item.node ∧ o = oid) ∧ m.inv.InIndex node o x

lemma WellFormed.removeItem (h : m.inv.getItem oid = some item) :
    exists m', m.removeItem oid = (some item, m') ∧ m.Removed oid item m' := by
  rcases hwf.inv.removeItem h with ⟨inv', heq, hinv, hget, hindex⟩
  refine ⟨{ m with inv := inv' }, ?_, ?_, rfl, hget, hindex⟩
  · unfold Mem.removeItem
    rw [heq]
  · constructor
    · exact hinv
    · intro node o x hx
      exact hwf.fresh node o x ((hindex node o x).mp hx).right
    · intro node o x node' o' y hx hy
      exact hwf.distinct node o x node' o' y ((hindex node o x).mp hx).right
        ((hindex node' o' y).mp hy).right

/-!
## Operations that create items
-/

lemma WellFormed.advance : ({ m with heap := m.heap.advance } : Mem V).WellFormed :=
  hwf.of_heap (le_refl _)

end

lemma appendItemFromConfigData_invalid [EvaCommon V]
    (h : checkItemData config.oid config.logic config.action = .error e) :
    m.appendItemFromConfigData clock bootId config = (.error e, m) := by
  unfold Mem.appendItemFromConfigData
  rw [h]

lemma WellFormed.appendItemFromConfigData [EvaCommon V] (hwf : m.WellFormed) (clock : Clock)
    (bootId : Nat) (h : checkItemData config.oid config.logic config.action = .ok ()) :
    exists m', m.appendItemFromConfigData clock bootId config =
        (.ok { config.item with ptr := m.heap.nextItem }, m') ∧
      ({ m with heap := m.heap.advance } : Mem V).Appended config.item
        { state := m.configState clock bootId config, enabled := config.enabled }
        m' := by
  unfold Mem.appendItemFromConfigData
  rw [h]
  exact hwf.advance.appendNew _ _ (Or.inl rfl)

lemma appendRemoteItem_invalid [EvaCommon V] (h : replState remote = .error e) :
    m.appendRemoteItem remote source = (.error e, m) := by
  unfold Mem.appendRemoteItem
  rw [h]

lemma WellFormed.appendRemoteItem [EvaCommon V] (hwf : m.WellFormed) (source : Source)
    (h : replState remote = .ok state) :
    exists m', m.appendRemoteItem remote source =
        (.ok { remote.item source with ptr := m.heap.nextItem }, m') ∧
      m.Appended (remote.item source) { state := state, enabled := remote.enabled } m' := by
  unfold Mem.appendRemoteItem
  rw [h]
  exact hwf.appendNew _ _ (Or.inl rfl)

lemma WellFormed.getOrCreateSource_node (hwf : m.WellFormed) (sourceId svc : String) :
    (m.getOrCreateSource sourceId svc).1.node = sourceId := by
  unfold Mem.getOrCreateSource
  cases hsource : lookup sourceId m.inv.sources with
  | some source => exact hwf.inv.source_node sourceId source hsource
  | none => rfl

/-- A source that is created is not registered, only its cell is new. -/
structure SourceCreated (m m' : Mem V) : Prop where
  inv : m'.inv = m.inv
  cells : m'.heap.cells = m.heap.cells
  nextItem : m'.heap.nextItem = m.heap.nextItem

lemma getOrCreateSource_created (m : Mem V) (sourceId svc : String) :
    m.SourceCreated (m.getOrCreateSource sourceId svc).2 := by
  unfold Mem.getOrCreateSource
  cases lookup sourceId m.inv.sources with
  | some | none => exact ⟨rfl, rfl, rfl⟩

lemma createSource_inv (m : Mem V) (source : Option (String × String)) :
    (m.createSource source).2.inv = m.inv := by
  cases source with
  | none => rfl
  | some s =>
    simp only [createSource, getOrCreateSource]
    cases lookup s.1 m.inv.sources <;> rfl

lemma createSource_nextItem (m : Mem V) (source : Option (String × String)) :
    (m.createSource source).2.heap.nextItem = m.heap.nextItem := by
  cases source with
  | none => rfl
  | some s =>
    simp only [createSource, getOrCreateSource]
    cases lookup s.1 m.inv.sources <;> rfl

lemma WellFormed.createSource (hwf : m.WellFormed) (source : Option (String × String)) :
    (m.createSource source).2.WellFormed := by
  have h := hwf.of_heap (le_of_eq (createSource_nextItem m source).symm)
  rwa [← createSource_inv m source] at h

end Mem

def blankItem (oid : OID) : Item V where
  ptr := 0
  oid := oid
  metaValue := none
  source := none
  logic := none
  action := none

theorem Mem.createItem_cases [EvaCommon V] (m : Mem V) (clock : Clock) (oid : OID)
    (ieid : Option IEID) :
    (oid.kind ≠ .lMacro ∧ ieid = none ∧
      exists e, m.createItem clock oid ieid none = (.error e, m)) ∨
    exists (base : Mem V) (cell : ItemCell V),
      (base = m ∨ base = { m with heap := m.heap.advance }) ∧ cell.enabled = true ∧
      (forall st, cell.state = some st -> ieid = some st.ieid) ∧
      m.createItem clock oid ieid none = base.appendNew (blankItem oid) cell false := by
  by_cases hkind : oid.kind = .lMacro
  · simp only [createItem, createSource, if_pos hkind]
    refine Or.inr ⟨m, _, Or.inl rfl, rfl, ?_, rfl⟩
    intro st hst
    cases hst
  · simp only [createItem, createSource, if_neg hkind]
    cases ieid with
    | none => exact Or.inl ⟨hkind, rfl, _, rfl⟩
    | some i =>
      refine Or.inr ⟨{ m with heap := m.heap.advance }, _, Or.inr rfl, rfl, ?_, rfl⟩
      intro st hst
      cases hst
      rfl

end Eva4.Items
