import Eva4.Items.ItemMap

/-!
# The item map refines a finite map

The abstract map is a partial function from OIDs to items.  Every run of the
item map is followed by it: lookups, refusals, the caches of the tree nodes and
the lookups by mask are all determined by the abstract map.
-/

namespace Eva4.Items

open Lib

variable {V : Type}

/-!
## Selection by mask
-/

def OIDMask.Selects (V : Type) [EvaCommon V] (mask : OIDMask)
    (includeStateless : Bool) (oid : OID) : Prop :=
  (forall tp, mask.kind = some tp -> oid.kind = tp) ∧
    (oid.kind = .lMacro -> includeStateless = true) ∧
    (forall chunks, mask.chunks = some chunks -> chunksMatch V chunks oid.chunks = true)

namespace ItemMap

def maskKinds (mask : OIDMask) (includeStateless : Bool) : List ItemKind :=
  match mask.kind with
  | some tp => if tp = .lMacro ∧ includeStateless = false then [] else [tp]
  | none => [.unit, .sensor, .lvar] ++ (if includeStateless then [.lMacro] else [])

def treeByMask [EvaCommon V] (filter : Filter) (tree : ItemTree V) :
    Option (List String) -> List (Item V)
  | some chunks => getItemByMaskRec filter tree chunks
  | none => filteredVals filter tree.membersWildcard

lemma getByMask_eq [EvaCommon V] (m : ItemMap V) (mask : OIDMask) {filter : Filter}
    {includeStateless : Bool} : m.getByMask mask filter includeStateless =
      (maskKinds mask includeStateless).flatMap
        fun tp => treeByMask filter (m.getTree tp) mask.chunks := by
  unfold getByMask maskKinds
  cases mask.kind with
  | some tp =>
    by_cases h : tp = .lMacro ∧ includeStateless = false
    · simp [h]
    · simp only [if_neg h]
      cases mask.chunks <;> simp [treeByMask]
  | none => cases mask.chunks <;> cases includeStateless <;> simp [treeByMask, getTree]

lemma mem_maskKinds :
    kind ∈ maskKinds mask includeStateless <-> (forall tp, mask.kind = some tp -> kind = tp) ∧
        (kind = .lMacro -> includeStateless = true) := by
  unfold maskKinds
  cases mask.kind with
  | some tp =>
    by_cases h : tp = .lMacro ∧ includeStateless = false
    · simp only [if_pos h]
      rw [h.left, h.right]
      simp
    · simp only [if_neg h]
      constructor
      · intro hkind
        have heq : kind = tp := List.mem_singleton.mp hkind
        constructor
        · intro tp' htp'
          cases htp'
          exact heq
        · intro hmacro
          cases includeStateless with
          | true => rfl
          | false => exact absurd ⟨heq.symm.trans hmacro, rfl⟩ h
      · intro hkind
        exact List.mem_singleton.mpr (hkind.left tp rfl)
  | none => cases includeStateless <;> cases kind <;> simp

lemma nodup_maskKinds : (maskKinds mask includeStateless).Nodup := by
  unfold maskKinds
  cases mask.kind with
  | some tp =>
    by_cases h : tp = .lMacro ∧ includeStateless = false
    · simp only [if_pos h]
      exact List.nodup_nil
    · simp only [if_neg h]
      exact List.nodup_singleton tp
  | none => cases includeStateless <;> decide

variable {m : ItemMap V}

section

variable (hwf : m.WellFormed)
include hwf

lemma WellFormed.mem_treeByMask [EvaCommon V] :
    x ∈ treeByMask filter (m.getTree kind) chunks <-> m.get x.oid = some x ∧ x.oid.kind = kind ∧
        (forall cs, chunks = some cs -> chunksMatch V cs x.oid.chunks = true) ∧
        filter.matches x = true := by
  cases chunks with
  | some cs =>
    rw [treeByMask, (hwf kind).mem_getItemByMaskRec]
    constructor
    · intro h
      rcases h with ⟨path, o, hstores, hmatch, hfilter⟩
      rcases hwf.stores_iff.mp hstores with ⟨hkind, hpath, hget⟩
      have hoid : x.oid = o := hwf.get_oid hget
      rw [hoid]
      refine ⟨hget, hkind, ?_, hfilter⟩
      intro cs' hcs'
      injection hcs' with hcs'
      rw [← hcs', hpath]
      exact hmatch
    · intro h
      rcases h with ⟨hget, hkind, hmatch, hfilter⟩
      exact ⟨x.oid.chunks, x.oid, hwf.stores_iff.mpr ⟨hkind, rfl, hget⟩,
        hmatch cs rfl, hfilter⟩
  | none =>
    rw [treeByMask, mem_filteredVals]
    constructor
    · intro h
      rcases h with ⟨⟨o, ho⟩, hfilter⟩
      rcases ((hwf kind).membersWildcard o).mp ho with ⟨path, _, hstores⟩
      rcases hwf.stores_iff.mp hstores with ⟨hkind, _, hget⟩
      have hoid : x.oid = o := hwf.get_oid hget
      rw [hoid]
      refine ⟨hget, hkind, ?_, hfilter⟩
      intro cs hcs
      cases hcs
    · intro h
      rcases h with ⟨hget, hkind, _, hfilter⟩
      refine ⟨⟨x.oid, ?_⟩, hfilter⟩
      exact ((hwf kind).membersWildcard x.oid).mpr
        ⟨x.oid.chunks, x.oid.chunks_ne_nil,
          hwf.stores_iff.mpr ⟨hkind, rfl, hget⟩⟩

lemma WellFormed.nodup_treeByMask [EvaCommon V] :
    ((treeByMask filter (m.getTree kind) chunks).map Item.oid).Nodup := by
  cases chunks with
  | some cs => exact (hwf kind).nodup_getItemByMaskRec
  | none =>
    apply ItemTree.nodup_filteredVals
    intro o x hx
    rcases ((hwf kind).membersWildcard o).mp hx with ⟨path, _, hstores⟩
    exact ((hwf kind).of_stores hstores).left

lemma WellFormed.mem_getByMask [EvaCommon V] (mask : OIDMask) (filter : Filter)
    (includeStateless : Bool) (x : Item V) :
    x ∈ m.getByMask mask filter includeStateless <->
      m.get x.oid = some x ∧ mask.Selects V includeStateless x.oid ∧ filter.matches x = true := by
  rw [getByMask_eq, List.mem_flatMap]
  simp only [mem_maskKinds, hwf.mem_treeByMask]
  constructor
  · intro h
    rcases h with ⟨tp, ⟨htp, hmacro⟩, hget, hkind, hmatch, hfilter⟩
    rw [← hkind] at htp hmacro
    exact ⟨hget, ⟨htp, hmacro, hmatch⟩, hfilter⟩
  · intro h
    rcases h with ⟨hget, ⟨htp, hmacro, hmatch⟩, hfilter⟩
    exact ⟨x.oid.kind, ⟨htp, hmacro⟩, hget, rfl, hmatch, hfilter⟩

lemma WellFormed.nodup_getByMask [EvaCommon V] {mask : OIDMask} {filter : Filter}
    {includeStateless : Bool} :
    ((m.getByMask mask filter includeStateless).map Item.oid).Nodup := by
  rw [getByMask_eq, List.map_flatMap, List.nodup_flatMap]
  constructor
  · intro tp _
    exact hwf.nodup_treeByMask
  · apply nodup_maskKinds.imp
    intro a b hab o hoa hob
    rcases List.mem_map.mp hoa with ⟨x, hx, hxo⟩
    rcases List.mem_map.mp hob with ⟨y, hy, hyo⟩
    have hxkind := (hwf.mem_treeByMask.mp hx).right.left
    have hykind := (hwf.mem_treeByMask.mp hy).right.left
    rw [hxo] at hxkind
    rw [hyo] at hykind
    exact hab (hxkind.symm.trans hykind)

/-!
## Runs
-/

inductive Op (V : Type) where
  | append (item : Item V) (replace : Bool)
  | remove (oid : OID)

def step (m : ItemMap V) : Op V -> ItemMap V
  | .append item replace => (m.append item replace).2
  | .remove oid => (m.remove oid).2

def run (ops : List (Op V)) : ItemMap V :=
  ops.foldl step empty

/-- What the operation does to a partial function from OIDs to items. -/
def absStep (f : OID -> Option (Item V)) : Op V -> OID -> Option (Item V)
  | .append item replace =>
    if (f item.oid).isSome ∧ replace = false then f
    else Function.update f item.oid (some item)
  | .remove oid => Function.update f oid none

def absRun (ops : List (Op V)) : OID -> Option (Item V) :=
  ops.foldl absStep (fun _ => none)

lemma WellFormed.step (op : Op V) :
    (m.step op).WellFormed ∧ (m.step op).get = absStep m.get op := by
  cases op with
  | append item replace =>
    by_cases hdup : (m.get item.oid).isSome ∧ replace = false
    · rcases Option.isSome_iff_exists.mp hdup.left with ⟨old, hold⟩
      have happend := hwf.append_duplicate hold
      rw [← hdup.right] at happend
      simp only [ItemMap.step, happend, absStep, if_pos hdup]
      exact ⟨hwf, trivial⟩
    · have hok : replace = true ∨ m.get item.oid = none := by
        cases hget : m.get item.oid with
        | none => exact Or.inr rfl
        | some old =>
          cases replace with
          | true => exact Or.inl rfl
          | false => simp [hget] at hdup
      rcases hwf.append hok with ⟨m', heq, hwf', hget⟩
      simp only [ItemMap.step, heq, absStep, if_neg hdup]
      refine ⟨hwf', ?_⟩
      funext oid
      rw [hget oid, Function.update_apply]
  | remove oid =>
    cases hget : m.get oid with
    | none =>
      simp only [ItemMap.step, hwf.remove_absent hget, absStep]
      refine ⟨hwf, ?_⟩
      rw [← hget]
      exact (Function.update_eq_self oid m.get).symm
    | some item =>
      rcases hwf.remove hget with ⟨m', heq, hwf', hget'⟩
      simp only [ItemMap.step, heq, absStep]
      refine ⟨hwf', ?_⟩
      funext o
      rw [hget' o, Function.update_apply]

lemma foldl_step (ops : List (Op V)) : (ops.foldl step m).WellFormed ∧
      (ops.foldl step m).get = ops.foldl absStep m.get := by
  induction ops generalizing m with
  | nil => exact ⟨hwf, rfl⟩
  | cons op rest ih =>
    rcases hwf.step op with ⟨hwf', hget⟩
    rw [List.foldl_cons, List.foldl_cons, ← hget]
    exact ih hwf'

omit hwf in
lemma run_spec {ops : List (Op V)} : (run ops).WellFormed ∧ (run ops).get = absRun ops := by
  have h := foldl_step empty_wellFormed ops
  have hempty : (empty : ItemMap V).get = fun _ => none := funext empty_get
  rw [hempty] at h
  exact h

/-!
## The refinement
-/

/-- Every node caches what is stored strictly below it and has no empty child. -/
def NodesExact (m : ItemMap V) : Prop :=
  forall kind path n, (m.getTree kind).subtree path = some n ->
    (forall oid x, AList.lookup oid n.membersWildcard = some x <->
      exists q below, q ≠ [] ∧ n.subtree q = some below ∧ AList.lookup oid below.members = some x) ∧
    (forall chunk c, List.dlookup chunk n.childs = some c -> c.isEmpty = false)

lemma WellFormed.nodesExact : NodesExact m := by
  intro kind path n hn
  have hwfn := (hwf kind).subtree hn
  constructor
  · intro oid x
    rw [hwfn.membersWildcard oid]
    constructor
    · intro h
      rcases h with ⟨q, hq, below, hbelow, hx⟩
      exact ⟨q, below, hq, hbelow, hx⟩
    · intro h
      rcases h with ⟨q, below, hq, hbelow, hx⟩
      exact ⟨q, hq, below, hbelow, hx⟩
  · intro chunk c hc
    cases hwfn with
    | intro _ _ hne _ _ => exact hne _ _ hc

end

/--
The map follows the abstract map on every run: lookups and results agree, refused
operations leave the trees as they were, every tree node is exact, and lookups by
mask return the selected items once each.
-/
theorem run_refines [EvaCommon V] (ops : List (Op V)) :
    (forall oid, (run ops).get oid = absRun ops oid) ∧ (forall item, (absRun ops item.oid).isSome ->
      (run ops).append item false = (.error (alreadyRegistered item.oid), run ops)) ∧
    (forall item replace, replace = true ∨ absRun ops item.oid = none ->
      ((run ops).append item replace).1 = .ok ()) ∧
    (forall oid, absRun ops oid = none -> (run ops).remove oid = (none, run ops)) ∧
    (forall oid, ((run ops).remove oid).1 = absRun ops oid) ∧ NodesExact (run ops) ∧
    (forall mask filter includeStateless, ((run ops).getByMask mask filter includeStateless).Nodup ∧
      forall x, x ∈ (run ops).getByMask mask filter includeStateless <->
        absRun ops x.oid = some x ∧ mask.Selects V includeStateless x.oid ∧
          filter.matches x = true) := by
  rcases run_spec with ⟨hwf, hget⟩
  rw [← hget]
  refine ⟨fun _ => rfl, ?_, ?_, fun _ h => hwf.remove_absent h, ?_, hwf.nodesExact, ?_⟩
  · intro item hsome
    rcases Option.isSome_iff_exists.mp hsome with ⟨old, hold⟩
    exact hwf.append_duplicate hold
  · intro item replace hok
    rcases hwf.append hok with ⟨m', heq, _, _⟩
    rw [heq]
  · intro oid
    cases hoid : (run ops).get oid with
    | none => rw [hwf.remove_absent hoid]
    | some item =>
      rcases hwf.remove hoid with ⟨m', heq, _, _⟩
      rw [heq]
  · intro mask filter includeStateless
    constructor
    · exact List.Nodup.of_map Item.oid hwf.nodup_getByMask
    · exact hwf.mem_getByMask mask filter includeStateless

end ItemMap

end Eva4.Items
