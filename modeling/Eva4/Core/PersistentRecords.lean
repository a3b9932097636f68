import Eva4.Items.View
import Eva4.Core.LocalAdministration
import Eva4.Core.TellSteps

/-!
# Local items and their configurations

What the operations on local items change: the items under some OIDs, with the configurations
that have to be stored for them.
-/

namespace Eva4.Core

open Lib Items

variable {V : Type}

/-!
## Local items
-/

def recordOf (item : Item V) (enabled : Bool) : ItemRecord V where
  oid := item.oid
  state := none
  metaValue := item.metaValue
  enabled := enabled
  logic := item.logic
  action := item.action

lemma itemConfig_local (h : item.source = none) :
    itemConfig item enabled = .ok (recordOf item enabled) := by
  unfold itemConfig
  rw [h]
  rfl

def World.localItem (w : World V) (oid : OID) : Option (Item V × ItemRecord V) :=
  (w.inv.getItem oid).bind fun item =>
    match itemConfig item (w.enabled item) with
    | .ok config => some (item, config)
    | .error _ => none

def World.localRecord (w : World V) (oid : OID) : Option (ItemRecord V) :=
  (w.localItem oid).map Prod.snd

namespace World

variable {w w' : World V}

lemma localItem_congr (hget : w'.inv.getItem oid = w.inv.getItem oid)
    (henabled : forall item, w.inv.getItem oid = some item ->
      w'.enabled item = w.enabled item) : w'.localItem oid = w.localItem oid := by
  unfold localItem
  rw [hget]
  cases hitem : w.inv.getItem oid with
  | none => rfl
  | some item => simp only [Option.bind_some, henabled item hitem]

lemma localItem_of_getItem (hitem : w.inv.getItem oid = some item) (hlocal : item.source = none) :
    w.localItem oid = some (item, recordOf item (w.enabled item)) := by
  unfold localItem
  rw [hitem]
  simp only [Option.bind_some, itemConfig_local hlocal]

lemma localItem_absent (h : w.inv.getItem oid = none) : w.localItem oid = none := by
  unfold localItem
  rw [h]
  rfl

lemma itemConfig_of_localItem (h : w.localItem oid = some (item, config)) :
    itemConfig item (w.enabled item) = .ok config := by
  unfold localItem at h
  cases hitem : w.inv.getItem oid with
  | none =>
    rw [hitem] at h
    cases h
  | some x =>
    rw [hitem, Option.bind_some] at h
    cases hconfig : itemConfig x (w.enabled x) with
    | error e =>
      rw [hconfig] at h
      cases h
    | ok config' =>
      rw [hconfig] at h
      injection h with h
      injection h with hx hc
      rw [← hx, ← hc]
      exact hconfig

end World

variable {w : World V} {item : Item V}

lemma localItem_appended {base : Mem V} (hwf : w.toMem.WellFormed) (hinv : base.inv = w.inv)
    (hcells : base.heap.cells = w.heap.cells) (hnext : base.heap.nextItem = w.heap.nextItem)
    (h : base.Appended item cell m') (hlocal : item.source = none) : (w.withMem m').localItem oid =
      if oid = item.oid then
        some ({ item with ptr := w.heap.nextItem },
          recordOf { item with ptr := w.heap.nextItem } cell.enabled)
      else w.localItem oid := by
  have hget := h.getItem oid
  rw [hnext, hinv] at hget
  have hcell : forall ptr, m'.heap.cells ptr =
      if ptr = w.heap.nextItem then cell else w.heap.cells ptr := by
    intro ptr
    rw [h.heap]
    show Function.update base.heap.cells base.heap.nextItem cell ptr = _
    rw [hcells, hnext, Function.update_apply]
  by_cases heq : oid = item.oid
  · rw [if_pos heq] at hget ⊢
    rw [World.localItem_of_getItem (w := w.withMem m') hget hlocal]
    have henabled : (w.withMem m').enabled { item with ptr := w.heap.nextItem } = cell.enabled := by
      show (m'.heap.cells w.heap.nextItem).enabled = cell.enabled
      rw [hcell, if_pos rfl]
    rw [henabled]
  · rw [if_neg heq] at hget ⊢
    apply World.localItem_congr hget
    intro x hx
    have hlt := hwf.getItem_fresh hx
    show (m'.heap.cells x.ptr).enabled = (w.heap.cells x.ptr).enabled
    rw [hcell, if_neg (Nat.ne_of_lt hlt)]

lemma localItem_removed (h : w.toMem.Removed oid item m') (o : OID) :
    (w.withMem m').localItem o = if o = oid then none else w.localItem o := by
  have hget := h.getItem o
  by_cases heq : o = oid
  · rw [if_pos heq] at hget ⊢
    exact World.localItem_absent hget
  · rw [if_neg heq] at hget ⊢
    apply World.localItem_congr hget
    intro x _
    show (m'.heap.cells x.ptr).enabled = (w.heap.cells x.ptr).enabled
    rw [h.heap]

/-!
## Enabling
-/

variable [EvaCommon V]

def World.localByMask (w : World V) (mask : OIDMask) : List (Item V) :=
  (w.inv.getItemsByMask mask {} true).filter fun item => item.source.isNone

lemma mem_localByMask (hwf : w.toMem.WellFormed) (h : item ∈ w.localByMask mask) :
    w.inv.getItem item.oid = some item ∧ item.source = none := by
  have hmem := List.mem_filter.mp h
  exact ⟨(getItemsByMask_stored hwf hmem.left).left, Option.isNone_iff_eq_none.mp hmem.right⟩

omit [EvaCommon V] in
theorem foldl_setEnabled (value : Bool) (items : List (Item V)) (w : World V) :
    (items.foldl (fun w item => w.setEnabled item value) w).inv = w.inv ∧
      (items.foldl (fun w item => w.setEnabled item value) w).heap.nextItem = w.heap.nextItem ∧
      (items.foldl (fun w item => w.setEnabled item value) w).sent = w.sent ∧
      forall x : Item V, (items.foldl (fun w item => w.setEnabled item value) w).enabled x =
        if x.ptr ∈ items.map Item.ptr then value else w.enabled x := by
  induction items generalizing w with
  | nil => exact ⟨rfl, rfl, rfl, fun _ => rfl⟩
  | cons item items ih =>
    rcases ih (w.setEnabled item value) with ⟨hinv, hnext, hsent, henabled⟩
    refine ⟨hinv, hnext, hsent, ?_⟩
    intro x
    rw [List.foldl_cons, henabled x]
    have hset : (w.setEnabled item value).enabled x =
        if x.ptr = item.ptr then value else w.enabled x := by
      show (Function.update w.heap.cells item.ptr _ x.ptr).enabled = _
      rw [Function.update_apply]
      split <;> rfl
    rw [hset, List.map_cons]
    by_cases hmem : x.ptr ∈ items.map Item.ptr
    · rw [if_pos hmem, if_pos (List.mem_cons_of_mem _ hmem)]
    · rw [if_neg hmem]
      by_cases heq : x.ptr = item.ptr
      · rw [if_pos heq, if_pos (List.mem_cons.mpr (Or.inl heq))]
      · rw [if_neg heq, if_neg (mt List.mem_cons.mp (not_or.mpr ⟨heq, hmem⟩))]

lemma setLocalEnabled_world :
    (w.setLocalEnabled mask value).2 =
      (w.localByMask mask).foldl (fun w item => w.setEnabled item value) w :=
  rfl

theorem setLocalEnabled_configs (hwf : w.toMem.WellFormed) :
    (w.setLocalEnabled mask value).1 =
      (w.localByMask mask).map fun item => (item.oid, recordOf item value) := by
  show (w.localByMask mask).filterMap _ = _
  rw [← List.filterMap_eq_map]
  apply List.filterMap_congr
  intro item hitem
  rw [itemConfig_local (mem_localByMask hwf hitem).right]
  rfl

lemma localItem_setLocalEnabled (hwf : w.toMem.WellFormed) (mask : OIDMask) (value : Bool) :
    (forall item, item ∈ w.localByMask mask -> (w.setLocalEnabled mask value).2.localItem item.oid =
        some (item, recordOf item value)) ∧
    forall oid, (forall item, item ∈ w.localByMask mask -> item.oid ≠ oid) ->
      (w.setLocalEnabled mask value).2.localItem oid = w.localItem oid := by
  rcases foldl_setEnabled value (w.localByMask mask) w with ⟨hinv, _, _, henabled⟩
  rw [setLocalEnabled_world]
  constructor
  · intro item hitem
    have hstored := mem_localByMask hwf hitem
    rw [World.localItem_of_getItem (by rw [hinv]; exact hstored.left) hstored.right,
      henabled item, if_pos (List.mem_map_of_mem hitem)]
  · intro oid hother
    apply World.localItem_congr
    · rw [hinv]
    · intro x hx
      have hnot : x.ptr ∉ (w.localByMask mask).map Item.ptr := by
        intro hmem
        rcases List.mem_map.mp hmem with ⟨item, hitem, hptr⟩
        exact hwf.ptr_ne hx (mem_localByMask hwf hitem).left (hother item hitem) hptr
      rw [henabled x, if_neg hnot]

/-!
## Creating
-/

lemma createItem_refused {m : Mem V} (hwf : m.WellFormed) (hold : m.inv.getItem oid = some old) :
    (exists e, (m.createItem clock oid ieid none).1 = .error e) ∧
      (m.createItem clock oid ieid none).2.inv = m.inv ∧
      m.heap.nextItem ≤ (m.createItem clock oid ieid none).2.heap.nextItem ∧
      forall ptr, ptr < m.heap.nextItem ->
        (m.createItem clock oid ieid none).2.heap.cells ptr = m.heap.cells ptr := by
  rcases m.createItem_cases clock oid ieid with ⟨_, _, e, heq⟩ | ⟨base, cell, hbase, _, _, heq⟩
  · rw [heq]
    exact ⟨⟨e, rfl⟩, rfl, le_refl _, fun _ _ => rfl⟩
  · have hcells : forall ptr, ptr < m.heap.nextItem ->
        Function.update m.heap.cells m.heap.nextItem cell ptr = m.heap.cells ptr :=
      fun ptr hptr => Function.update_of_ne (Nat.ne_of_lt hptr) ..
    have hblank : m.inv.getItem (blankItem (V := V) oid).oid = some old := hold
    rw [heq]
    rcases hbase with hbase | hbase
    · rw [hbase, hwf.appendNew_duplicate cell hblank]
      exact ⟨⟨_, rfl⟩, rfl, Nat.le_succ _, hcells⟩
    · rw [hbase, hwf.advance.appendNew_duplicate cell hblank]
      exact ⟨⟨_, rfl⟩, rfl, Nat.le_succ _, hcells⟩

lemma createItem_new {m : Mem V} (hwf : m.WellFormed) (hnone : m.inv.getItem oid = none)
    (hieid : oid.kind = .lMacro ∨ ieid.isSome = true) :
    exists (base : Mem V) (cell : ItemCell V) (m' : Mem V), base.inv = m.inv ∧
      base.heap.cells = m.heap.cells ∧ base.heap.nextItem = m.heap.nextItem ∧
      cell.enabled = true ∧ base.Appended (blankItem oid) cell m' ∧
      m.createItem clock oid ieid none =
        (.ok { blankItem oid with ptr := m.heap.nextItem }, m') := by
  rcases m.createItem_cases clock oid ieid with
    ⟨hkind, hmissing, _⟩ | ⟨base, cell, hbase, henabled, _, heq⟩
  · rcases hieid with hmacro | hsome
    · exact absurd hmacro hkind
    · rw [hmissing] at hsome
      cases hsome
  · rw [heq]
    rcases hbase with hbase | hbase
    · rw [hbase]
      rcases hwf.appendNew (blankItem oid) cell (Or.inr hnone) with ⟨m', happend, hm'⟩
      exact ⟨m, cell, m', rfl, rfl, rfl, henabled, hm', happend⟩
    · rw [hbase]
      rcases hwf.advance.appendNew (blankItem oid) cell (Or.inr hnone) with ⟨m', happend, hm'⟩
      exact ⟨{ m with heap := m.heap.advance }, cell, m', rfl, rfl, rfl, henabled, hm', happend⟩

end Eva4.Core
