import Eva4.Items.InventoryInvariant

/-!
# Registered sources

A source is registered with the first item of its node and dropped with the last one.  An
item that is appended later does not change which source is registered, even if it has
another one.
-/

namespace Eva4.Items

open Lib
open AList (lookup)

variable {V : Type}

namespace Inventory

lemma WellFormed.lookup_sources_indexItem {inv : Inventory V} (hwf : inv.WellFormed) (item : Item V)
    (node : String) :
    lookup node (inv.indexItem item).sources =
      match lookup node inv.sources with
      | some source => some source
      | none => if item.node = some node then item.source else none := by
  have hregistered : lookup node inv.sources = none <->
      lookup (some node) inv.itemsBySource = none := by
    rw [AList.lookup_eq_none, AList.lookup_eq_none]
    exact not_congr (hwf.mem_sources node)
  unfold indexItem
  cases hitems : lookup item.node inv.itemsBySource with
  | some items =>
    cases hsource : lookup node inv.sources with
    | some source => rfl
    | none =>
      have hne : item.node ≠ some node := by
        intro heq
        rw [heq, hregistered.mp hsource] at hitems
        cases hitems
      simp only [if_neg hne]
  | none =>
    cases hsource : item.source with
    | none =>
      have hne : item.node ≠ some node := by
        simp [Item.node, hsource]
      cases lookup node inv.sources with
      | some source => rfl
      | none => simp only [if_neg hne]
    | some s =>
      have hnode : item.node = some s.node := by
        simp [Item.node, hsource]
      simp only [Table.lookup_insert_if, hnode, Option.some.injEq]
      by_cases heq : node = s.node
      · have hnone : lookup node inv.sources = none := by
          rw [hregistered, heq, ← hnode]
          exact hitems
        rw [if_pos heq, hnone, if_pos heq.symm]
      · rw [if_neg heq, if_neg (Ne.symm heq)]
        cases lookup node inv.sources <;> rfl

end Inventory

namespace Mem

variable {m m' : Mem V} {node : String}

lemma WellFormed.appendNew_sources (hwf : m.WellFormed)
    (h : m.appendNew item cell replace = (.ok x, m')) :
    lookup node m'.inv.sources =
      match lookup node m.inv.sources with
      | some source => some source
      | none => if item.node = some node then item.source else none := by
  unfold Mem.appendNew Mem.appendItem Inventory.appendItem at h
  rcases happend : m.inv.items.append { item with ptr := m.heap.nextItem } replace with ⟨r, items⟩
  simp only [happend] at h
  cases r with
  | error e => cases h
  | ok u =>
    injection h with _ hm
    rw [← hm]
    have hindex := hwf.inv.lookup_sources_indexItem
      { item with ptr := m.heap.nextItem } node
    have hset := congrArg (fun inv => lookup node inv.sources)
      (Inventory.indexItem_setItems m.inv { item with ptr := m.heap.nextItem } items)
    exact hset.trans hindex

lemma removeItem_sources (h : lookup node (m.removeItem oid).2.inv.sources = some source) :
    lookup node m.inv.sources = some source := by
  unfold Mem.removeItem Inventory.removeItem at h
  rcases hremove : m.inv.items.remove oid with ⟨r, items⟩
  simp only [hremove] at h
  cases r with
  | none => exact h
  | some item =>
    simp only [Inventory.unindexItem_setItems] at h
    exact Inventory.lookup_sources_unindexItem h

/-!
## Items that share their source
-/

/-- Every item of the node has the source that is registered for the node. -/
def SharesSource (m : Mem V) (node : String) : Prop :=
  forall oid item source, m.inv.getItem oid = some item -> item.source = some source ->
    source.node = node -> lookup node m.inv.sources = some source

lemma new_sharesSource (node : String) : (Mem.new : Mem V).SharesSource node := by
  intro oid item source hitem
  rw [show (Mem.new : Mem V).inv.getItem oid = none from ItemMap.empty_get oid] at hitem
  cases hitem

variable (h : m.SharesSource node)
include h

lemma SharesSource.of_inv (hinv : m'.inv = m.inv) : m'.SharesSource node := by
  intro oid item source
  rw [hinv]
  exact h oid item source

theorem SharesSource.appendNew (hwf : m.WellFormed)
    (happend : m.appendNew item cell replace = (.ok x, m')) (hm' : m.Appended item cell m')
    (hitem : forall source stored, item.source = some source -> source.node = node ->
      lookup node m.inv.sources = some stored -> stored = source) : m'.SharesSource node := by
  intro oid y source hy hsource hnode
  rw [hwf.appendNew_sources happend]
  rw [hm'.getItem oid] at hy
  split at hy
  · cases hy
    change item.source = some source at hsource
    cases hstored : lookup node m.inv.sources with
    | some stored =>
      show some stored = some source
      rw [hitem source stored hsource hnode hstored]
    | none =>
      have hitemNode : item.node = some node := by
        simp [Item.node, hsource, hnode]
      show (if item.node = some node then item.source else none) = some source
      rw [if_pos hitemNode, hsource]
  · rw [h oid y source hy hsource hnode]

theorem SharesSource.removeItem (hwf : m.WellFormed) : (m.removeItem oid).2.SharesSource node := by
  cases hfound : m.inv.getItem oid with
  | none =>
    rw [hwf.removeItem_absent hfound]
    exact h
  | some removed =>
    rcases hwf.removeItem hfound with ⟨m', heq, hm'⟩
    intro o item source hitem hsource hnode
    have hregistered : node ∈ (m.removeItem oid).2.inv.sources := by
      rw [heq] at hitem ⊢
      rw [hm'.wellFormed.inv.mem_sources node]
      have hindex := hm'.wellFormed.inv.indexed o item hitem
      have hitemNode : item.node = some node := by
        simp [Item.node, hsource, hnode]
      rw [hitemNode] at hindex
      rcases hindex with ⟨items, hitems, _⟩
      exact Table.mem_iff_lookup.mpr ⟨items, hitems⟩
    rcases Table.mem_iff_lookup.mp hregistered with ⟨stored, hstored⟩
    rw [heq] at hitem
    rw [hm'.getItem o] at hitem
    split at hitem
    · cases hitem
    · have hbefore := h o item source hitem hsource hnode
      rw [removeItem_sources hstored] at hbefore
      rw [hstored, hbefore]

end Mem

end Eva4.Items
