import Eva4.Items.MaskLookup

/-!
# The item map

One tree for each kind of items.  The map refines a finite map from OIDs to
items: lookups return what was appended last and not removed since, refused
operations change nothing, and a lookup by mask returns exactly the stored items
the mask selects.
-/

namespace Eva4.Items

open Lib

variable {V : Type}

structure ItemMap (V : Type) where
  unit : ItemTree V
  sensor : ItemTree V
  lvar : ItemTree V
  lmacroTree : ItemTree V

namespace ItemMap

def empty : ItemMap V where
  unit := ItemTree.empty
  sensor := ItemTree.empty
  lvar := ItemTree.empty
  lmacroTree := ItemTree.empty

variable (m : ItemMap V)

def getTree : ItemKind -> ItemTree V
  | .unit => m.unit
  | .sensor => m.sensor
  | .lvar => m.lvar
  | .lMacro => m.lmacroTree

def setTree (kind : ItemKind) (tree : ItemTree V) : ItemMap V :=
  match kind with
  | .unit => { m with unit := tree }
  | .sensor => { m with sensor := tree }
  | .lvar => { m with lvar := tree }
  | .lMacro => { m with lmacroTree := tree }

def append (item : Item V) (replace : Bool) : EResult Unit × ItemMap V :=
  match appendItemRec (m.getTree item.oid.kind) item.oid.chunks item replace with
  | (r, tree) => (r, m.setTree item.oid.kind tree)

def get (oid : OID) : Option (Item V) :=
  getItemRec (m.getTree oid.kind) oid.chunks

def remove (oid : OID) : Option (Item V) × ItemMap V :=
  match removeItemRec (m.getTree oid.kind) oid.chunks oid with
  | (r, tree) => (r, m.setTree oid.kind tree)

def getByMask [EvaCommon V] (mask : OIDMask) (filter : Filter)
    (includeStateless : Bool) : List (Item V) :=
  match mask.kind with
  | some tp =>
    if tp = .lMacro ∧ includeStateless = false then []
    else
      match mask.chunks with
      | some chunks => getItemByMaskRec filter (m.getTree tp) chunks
      | none => filteredVals filter (m.getTree tp).membersWildcard
  | none =>
    match mask.chunks with
    | some chunks =>
      getItemByMaskRec filter m.unit chunks ++
        getItemByMaskRec filter m.sensor chunks ++
        getItemByMaskRec filter m.lvar chunks ++
        (if includeStateless then getItemByMaskRec filter m.lmacroTree chunks
        else [])
    | none =>
      filteredVals filter m.unit.membersWildcard ++
        filteredVals filter m.sensor.membersWildcard ++
        filteredVals filter m.lvar.membersWildcard ++
        (if includeStateless then filteredVals filter m.lmacroTree.membersWildcard
        else [])

/-!
## Trees of a map
-/

lemma getTree_setTree :
    (m.setTree kind tree).getTree kind' = if kind' = kind then tree else m.getTree kind' := by
  cases kind <;> cases kind' <;> rfl

lemma setTree_getTree : m.setTree kind (m.getTree kind) = m := by
  cases kind <;> rfl

def WellFormed (m : ItemMap V) : Prop :=
  forall kind, ItemTree.WellFormed kind [] (m.getTree kind)

lemma empty_wellFormed : (empty : ItemMap V).WellFormed := by
  intro kind
  cases kind <;> exact ItemTree.empty_wellFormed

variable {m} (hwf : m.WellFormed)
include hwf

lemma WellFormed.setTree (htree : ItemTree.WellFormed kind [] tree) :
    (m.setTree kind tree).WellFormed := by
  intro kind'
  rw [getTree_setTree]
  by_cases hkind : kind' = kind
  · rw [if_pos hkind, hkind]
    exact htree
  · rw [if_neg hkind]
    exact hwf kind'

/-!
## Lookup, insertion and removal
-/

lemma WellFormed.get_eq_some_iff :
    m.get oid = some item <-> (m.getTree oid.kind).Stores oid.chunks oid item :=
  (hwf oid.kind).getItemRec rfl rfl

lemma WellFormed.stores_iff : (m.getTree kind).Stores path oid item <->
      oid.kind = kind ∧ oid.chunks = path ∧ m.get oid = some item := by
  constructor
  · intro h
    have hspec := (hwf kind).of_stores h
    refine ⟨hspec.right.left, hspec.right.right, ?_⟩
    rw [hwf.get_eq_some_iff, hspec.right.left, hspec.right.right]
    exact h
  · intro h
    rw [← h.left, ← h.right.left]
    exact hwf.get_eq_some_iff.mp h.right.right

lemma WellFormed.get_oid (h : m.get oid = some item) : item.oid = oid :=
  ((hwf oid.kind).of_stores (hwf.get_eq_some_iff.mp h)).left

omit hwf in
theorem empty_get (oid : OID) : (empty : ItemMap V).get oid = none := by
  rw [Option.eq_none_iff_forall_ne_some]
  intro x hx
  have hstores := empty_wellFormed.get_eq_some_iff.mp hx
  cases hkind : oid.kind <;> rw [hkind] at hstores <;> exact ItemTree.not_stores_empty hstores

lemma WellFormed.append_duplicate (h : m.get item.oid = some old) :
    m.append item false = (.error (alreadyRegistered item.oid), m) := by
  have hstores := hwf.get_eq_some_iff.mp h
  unfold append
  rw [ItemTree.appendItemRec_duplicate (hwf item.oid.kind) hstores]
  simp only [setTree_getTree]

open ItemTree in
theorem WellFormed.get_setTree (hwf' : (m.setTree oid.kind tree').WellFormed)
    (hstores : StoresAfter (m.getTree oid.kind) tree' oid oid.chunks new) (o : OID) :
    (m.setTree oid.kind tree').get o = if o = oid then new else m.get o := by
  apply Option.ext
  intro x
  rw [hwf'.get_eq_some_iff, getTree_setTree]
  by_cases hkind : o.kind = oid.kind
  · rw [if_pos hkind, hstores]
    by_cases ho : o = oid
    · simp [ho]
    · rw [if_neg ho, hwf.get_eq_some_iff, hkind]
      simp [ho]
  · have hne : o ≠ oid := by
      intro h
      exact hkind (by rw [h])
    rw [if_neg hkind, if_neg hne, hwf.get_eq_some_iff]

lemma WellFormed.append {replace : Bool} (hok : replace = true ∨ m.get item.oid = none) :
    exists m', m.append item replace = (.ok (), m') ∧ m'.WellFormed ∧
      forall oid, m'.get oid = if oid = item.oid then some item else m.get oid := by
  have hok' : replace = true ∨
      forall x, ¬ (m.getTree item.oid.kind).Stores item.oid.chunks item.oid x := by
    rcases hok with htrue | hnone
    · exact Or.inl htrue
    · apply Or.inr
      intro x hx
      rw [hwf.get_eq_some_iff.mpr hx] at hnone
      cases hnone
  rcases (hwf item.oid.kind).appendItemRec rfl (List.nil_append _).symm hok' with
    ⟨tree', heq, htree', hstores⟩
  have hwf' : (m.setTree item.oid.kind tree').WellFormed := hwf.setTree htree'
  refine ⟨m.setTree item.oid.kind tree', ?_, hwf', ?_⟩
  · unfold ItemMap.append
    rw [heq]
  · exact hwf.get_setTree hwf' (ItemTree.storesAfter_some.mpr hstores)

lemma WellFormed.remove_absent (h : m.get oid = none) : m.remove oid = (none, m) := by
  have hnone : forall x, ¬ (m.getTree oid.kind).Stores oid.chunks oid x := by
    intro x hx
    rw [hwf.get_eq_some_iff.mpr hx] at h
    cases h
  unfold ItemMap.remove
  rw [ItemTree.removeItemRec_absent (hwf oid.kind) (List.nil_append _).symm hnone]
  simp only [setTree_getTree]

lemma WellFormed.remove (h : m.get oid = some item) :
    exists m', m.remove oid = (some item, m') ∧ m'.WellFormed ∧
      forall o, m'.get o = if o = oid then none else m.get o := by
  have hstored := hwf.get_eq_some_iff.mp h
  rcases (hwf oid.kind).removeItemRec (List.nil_append _).symm hstored with
    ⟨tree', heq, htree', hstores⟩
  have hwf' : (m.setTree oid.kind tree').WellFormed := hwf.setTree htree'
  refine ⟨m.setTree oid.kind tree', ?_, hwf', ?_⟩
  · unfold ItemMap.remove
    rw [heq]
  · exact hwf.get_setTree hwf' (ItemTree.storesAfter_none.mpr hstores)

end ItemMap

end Eva4.Items
