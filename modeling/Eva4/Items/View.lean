import Eva4.Items.InventoryInvariant

/-!
# Views of items

What an observer sees under an OID: the configuration of the item, its owner, whether it
is enabled and its state.  The address of the item and the indexes are not part of it.
-/

namespace Eva4.Items

variable {V : Type}

structure ItemView (V : Type) where
  metaValue : Option V
  source : Option Source
  logic : Option Logic
  action : Option (ActionConfig V)
  enabled : Bool
  state : Option (ItemState V)

def Item.view (item : Item V) (cell : ItemCell V) : ItemView V where
  metaValue := item.metaValue
  source := item.source
  logic := item.logic
  action := item.action
  enabled := cell.enabled
  state := cell.state

namespace Mem

def view (m : Mem V) (oid : OID) : Option (ItemView V) :=
  (m.inv.getItem oid).map fun item => item.view (m.heap.cells item.ptr)

variable {m : Mem V}

lemma view_of_getItem (h : m.inv.getItem oid = some item) :
    m.view oid = some (item.view (m.heap.cells item.ptr)) := by
  unfold view
  rw [h]
  rfl

lemma view_eq_none_iff : m.view oid = none <-> m.inv.getItem oid = none :=
  Option.map_eq_none_iff

lemma view_congr {m' : Mem V} (hget : m'.inv.getItem oid = m.inv.getItem oid)
    (hcells : forall item, m.inv.getItem oid = some item ->
      m'.heap.cells item.ptr = m.heap.cells item.ptr) : m'.view oid = m.view oid := by
  unfold view
  rw [hget]
  cases hitem : m.inv.getItem oid with
  | none => rfl
  | some item => simp only [Option.map_some, hcells item hitem]

lemma Appended.view {m' : Mem V} (hwf : m.WellFormed) (h : m.Appended item cell m') (oid : OID) :
    m'.view oid = if oid = item.oid then some (item.view cell) else m.view oid := by
  by_cases hoid : oid = item.oid
  · have hget := (h.getItem oid).trans (if_pos hoid)
    rw [if_pos hoid, view_of_getItem hget, h.heap]
    simp [Heap.allocItem, Item.view]
  · rw [if_neg hoid]
    apply view_congr
    · rw [h.getItem oid, if_neg hoid]
    · intro y hy
      rw [h.heap]
      exact Function.update_of_ne (Nat.ne_of_lt (hwf.getItem_fresh hy)) cell m.heap.cells

lemma WellFormed.ptr_ne (hwf : m.WellFormed) (hx : m.inv.getItem oid = some x)
    (hy : m.inv.getItem oid' = some y) (hne : oid' ≠ oid) : y.ptr ≠ x.ptr := by
  intro hptr
  have hsame := hwf.distinct y.node oid' y x.node oid x (hwf.inv.indexed oid' y hy)
    (hwf.inv.indexed oid x hx) hptr
  apply hne
  rw [← hwf.inv.getItem_oid hy, hsame, hwf.inv.getItem_oid hx]

lemma WellFormed.view_setState (hwf : m.WellFormed) (hitem : m.inv.getItem oid = some item)
    (st : ItemState V) (o : OID) : ({ m with heap := m.heap.setState item.ptr st } : Mem V).view o =
      if o = oid then (m.view oid).map fun v => { v with state := some st }
      else m.view o := by
  by_cases ho : o = oid
  · rw [if_pos ho, ho, view_of_getItem hitem]
    have hget : ({ m with heap := m.heap.setState item.ptr st } : Mem V).inv.getItem
        oid = some item := hitem
    rw [view_of_getItem hget]
    simp [Heap.setState, Heap.setCell, Item.view]
  · rw [if_neg ho]
    refine view_congr rfl ?_
    intro y hy
    exact Function.update_of_ne (hwf.ptr_ne hitem hy ho) _ m.heap.cells

end Mem

/-!
## Configurations
-/

/-- The settings of a configuration that are part of the state, applied to a state. -/
def ItemConfigData.edit (config : ItemConfigData V) (st : ItemState V) : ItemState V :=
  { st with
    act := if config.oid.kind = .unit then some 0 else st.act
    status := config.status.getD st.status
    value := config.value.getD st.value
    t := config.t.getD st.t }

lemma Mem.configState_eq_edit [EvaCommon V] {m : Mem V}
    (h : m.configState clock bootId config = some st) :
    st = config.edit (m.getOrGenerateState clock bootId config.oid) := by
  unfold Mem.configState at h
  split at h
  · cases h
  · injection h with h
    exact h.symm

def ItemConfigData.deployed [EvaCommon V] (config : ItemConfigData V) (ieid : IEID)
    (now : F64) (old : Option (ItemView V)) : ItemView V :=
  config.item.view
    { state :=
        if config.oid.kind = .lMacro then none
        else some (config.edit ((old.bind ItemView.state).getD
          (ItemState.new0 ieid config.oid.kind now)))
      enabled := config.enabled }

lemma Mem.configState_eq_deployed [EvaCommon V] (m : Mem V) {clock : Clock} {bootId : Nat}
    {config : ItemConfigData V} :
    config.item.view
        { state := m.configState clock bootId config, enabled := config.enabled } =
      config.deployed (m.heap.ieid clock bootId) (m.heap.now clock) (m.view config.oid) := by
  have hold : (m.view config.oid).bind ItemView.state =
      (m.inv.getItem config.oid).bind fun item => (m.heap.cells item.ptr).state := by
    unfold Mem.view
    cases m.inv.getItem config.oid <;> rfl
  unfold ItemConfigData.deployed Mem.configState Mem.getOrGenerateState
  rw [hold]
  cases (m.inv.getItem config.oid).bind fun item => (m.heap.cells item.ptr).state <;> rfl

end Eva4.Items
