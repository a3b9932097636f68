import Eva4.Items.IndexAgreement
import Eva4.Items.MapRefinement
import Eva4.Core.DeploySteps

/-!
# Remote items under local administration

Deployment and undeployment name their items by OID and do not look at the owner, so
they leave the remote items alone exactly when no OID they apply is one of a remote
item.  Destruction by mask and enabling select local items only.
-/

namespace Eva4.Core

open Lib Items Prog Mem.Touches

variable {V : Type}

lemma advance_touches {m : Mem V} (hwf : m.WellFormed) : m.Touches prot obs (fun _ => False)
      ({ m with heap := m.heap.advance } : Mem V) :=
  of_untouched (Mem.Evolves.of_inv hwf rfl rfl)
    fun _ _ hy _ => ⟨hy, rfl⟩

variable [EvaCommon V]

/-!
## Deployment
-/

lemma ConfigsAppended.touches {env : Env V} (hlocal : ¬ prot none)
    (h : ConfigsAppended env configs m m') (hwf : m.WellFormed) :
    m.Touches prot obs (fun oid => exists c, c ∈ configs ∧ oid = c.oid) m' := by
  induction h with
  | nil m =>
    apply (refl hwf).congr
    intro oid
    simp
  | @cons c cs m m₁ m' happended _ ih =>
    have hadvanced : m.Touches prot obs (fun _ => False) _ := advance_touches hwf
    have hfirst : Mem.Touches prot obs (fun oid => oid = c.oid) _ m₁ :=
      happended.touches hwf.advance hlocal
    have hrest := ih happended.wellFormed
    apply ((hadvanced.trans hwf hfirst).trans hwf hrest).congr
    intro oid
    simp

variable {w : World V} (env : Env V)

/-!
## Removal
-/

section

omit [EvaCommon V]

lemma removeItems_touches : forall (oids : List OID) {w : World V}, w.toMem.WellFormed ->
      w.toMem.Touches prot obs (fun o => o ∈ oids) ((removeItems oids).exec w).2.toMem := by
  intro oids
  induction oids with
  | nil =>
    intro w hwf
    apply (refl hwf).congr
    intro o
    simp
  | cons oid oids ih =>
    intro w hwf
    unfold removeItems
    simp only [exec_bind, exec_pure, exec_when, exec_modify]
    have hfirst : w.toMem.Touches prot obs (fun o => o = oid) ((removeItem oid).exec w).2.toMem :=
      hwf.touches_removeItem
    split
    · have hrest := ih
        (w := ((removeItem oid).exec w).2.unscheduleSave oid) hfirst.evolves.wellFormed
      apply (hfirst.trans hwf hrest).congr
      intro o
      simp
    · have hrest := ih hfirst.evolves.wellFormed
      apply (hfirst.trans hwf hrest).congr
      intro o
      simp

lemma undeployFromRegistry_touches (hwf : w.toMem.WellFormed) :
    w.toMem.Touches prot obs (fun o => o = oid) ((undeployFromRegistry oid).exec w).2.toMem := by
  unfold undeployFromRegistry destroyInventoryItem
  simp only [exec_bind, exec_when, exec_modify]
  split <;> exact hwf.touches_removeItem

lemma undeployLocalItems_touches (configs : List (EResult OID)) (hwf : w.toMem.WellFormed) :
    w.toMem.Touches prot obs
      (fun o => exists oids, parseOids configs = .ok oids ∧ o ∈ oids)
      ((undeployLocalItems env configs).exec w).2.toMem := by
  unfold undeployLocalItems
  cases hparse : parseOids configs with
  | error e =>
    apply (refl hwf).congr
    intro o
    simp
  | ok oids =>
    rw [exec_tryThen_ok (exec_ret _ w)]
    simp only [exec_bind, exec_pure, exec_ite]
    split
    · unfold undeployFromDb
      simp only [exec_bind, exec_modify]
      apply (removeItems_touches oids hwf).congr
      intro o
      simp
    · apply (exec_each_touches (I := fun _ => True) (fun _ _ _ _ => trivial) hwf
        trivial fun oid _ u hu _ => undeployFromRegistry_touches hu).congr
      intro o
      simp

lemma destroyItem_touches (item : Item V) (hwf : w.toMem.WellFormed) :
    w.toMem.Touches prot obs (fun o => o = item.oid) ((destroyItem item).exec w).2.toMem :=
  hwf.touches_removeItem

end

lemma getItemsByMask_stored (hwf : w.toMem.WellFormed)
    (h : item ∈ w.inv.getItemsByMask mask filter includeStateless) :
    w.inv.getItem item.oid = some item ∧ filter.matches item = true := by
  have hmem := (hwf.inv.items.mem_getByMask mask filter includeStateless item).mp h
  exact ⟨hmem.left, hmem.right.right⟩

theorem destroyLocalItems_touches (mask : OIDMask) (hremote : forall node, prot node -> node ≠ none)
    (hwf : w.toMem.WellFormed) : w.toMem.Touches prot obs (fun _ => False)
      ((destroyLocalItems mask : CoreM V Unit).exec w).2.toMem := by
  have htouches : w.toMem.Touches prot obs _ _ :=
    exec_each_touches (I := fun _ => True) (fun _ _ _ _ => trivial) hwf trivial
      (fun item (_ : item ∈ w.inv.getItemsByMask mask { node := some .localNode } true)
        u hu _ => destroyItem_touches item hu)
  refine of_untouched htouches.evolves (htouches.untouched ?_)
  intro oid htouched y hy hprot
  rcases htouched with ⟨item, hitem, hoid⟩
  have hstored := getItemsByMask_stored hwf hitem
  rw [hoid, hstored.left] at hy
  injection hy with hy
  have hlocal : item.source.isNone = true := by
    have hmatches := hstored.right
    simp only [Filter.matches, Filter.nodeMatches, Bool.and_eq_true] at hmatches
    exact hmatches.left.left.left
  apply hremote y.node hprot
  rw [← hy, Item.node, Option.isNone_iff_eq_none.mp hlocal]
  rfl

/-!
## Enabling
-/

omit [EvaCommon V] in
lemma foldl_setEnabled_touches :
    forall (items : List (Item V)) {w : World V}, w.toMem.WellFormed ->
      (forall item, item ∈ items -> w.toMem.Apart prot item.ptr) ->
      w.toMem.Touches prot obs (fun _ => False)
        (items.foldl (fun w item => w.setEnabled item value) w).toMem := by
  intro items
  induction items with
  | nil =>
    intro w hwf _
    exact refl hwf
  | cons item items ih =>
    intro w hwf hapart
    have hfirst : w.toMem.Touches prot obs (fun _ => False) (w.setEnabled item value).toMem :=
      of_cells hwf rfl rfl (hapart item List.mem_cons_self)
        fun ptr hptr => w.setEnabled_cells hptr
    have hrest := ih hfirst.evolves.wellFormed fun x hx =>
      hfirst.evolves.apart (hapart x (List.mem_cons_of_mem item hx))
    exact (hfirst.trans hwf hrest).congr fun _ => or_self_iff

lemma setLocalItemsEnabled_touches (hremote : forall node, prot node -> node ≠ none)
    (hwf : w.toMem.WellFormed) :
    w.toMem.Touches prot obs (fun _ => False)
      ((setLocalItemsEnabled env mask value).exec w).2.toMem := by
  unfold setLocalItemsEnabled
  simp only [exec_bind, exec_locked, exec_atomic, exec_pure]
  have hsaved : forall (configs : List (OID × ItemRecord V)) (u : World V),
      ((each (fun c => do
        let _ ← saveItemConfig env c.1 c.2
        pure ()) configs).exec u).2.toMem = u.toMem := by
    intro configs u
    apply exec_each_induction _ (fun v : World V => v.toMem = u.toMem) configs u rfl
    intro c _ v hv
    exact hv
  rw [hsaved]
  apply foldl_setEnabled_touches _ hwf
  intro item hitem
  rw [List.mem_filter] at hitem
  have hstored := getItemsByMask_stored hwf hitem.left
  apply hwf.apart_of_inIndex (hwf.inv.indexed item.oid item hstored.left)
  rw [Item.node, Option.isNone_iff_eq_none.mp hitem.right]
  intro hprot
  exact hremote none hprot rfl

/-!
## Calls of the administration
-/

inductive AdminCall (V : Type) where
  | deploy (configs : List (ItemConfigData V)) (lock : Bool)
  | undeploy (configs : List (EResult OID))
  | destroy (mask : OIDMask)
  | setEnabled (mask : OIDMask) (value : Bool)

namespace AdminCall

def run (w : World V) : AdminCall V -> World V
  | .deploy configs lock => ((deployLocalItems env configs lock).exec w).2
  | .undeploy configs => ((undeployLocalItems env configs).exec w).2
  | .destroy mask => ((destroyLocalItems mask : CoreM V Unit).exec w).2
  | .setEnabled mask value => ((setLocalItemsEnabled env mask value).exec w).2

/-- The OIDs a call applies without a look at the owner of the item. -/
def applies (w : World V) : AdminCall V -> OID -> Prop
  | .deploy configs _, oid => exists c, c ∈ appliedConfigs env w.calls configs ∧ oid = c.oid
  | .undeploy configs, oid => exists oids, parseOids configs = .ok oids ∧ oid ∈ oids
  | .destroy _, _ => False
  | .setEnabled _ _, _ => False

/-- Every remote item stays in the inventory with its state and its enabled flag. -/
def LeavesRemoteAlone (w : World V) (call : AdminCall V) : Prop :=
  forall oid y, w.inv.getItem oid = some y -> y.source ≠ none ->
    (call.run env w).inv.getItem oid = some y ∧
      (call.run env w).enabled y = w.enabled y ∧ (call.run env w).state y = w.state y

lemma run_touches (hwf : w.toMem.WellFormed) (call : AdminCall V) :
    w.toMem.Touches (fun node => node ≠ none) id (call.applies env w) (call.run env w).toMem := by
  cases call with
  | deploy configs lock =>
    exact (deployLocalItems_appended env lock configs hwf).touches (fun h => h rfl) hwf
  | undeploy configs => exact undeployLocalItems_touches env configs hwf
  | destroy mask => exact destroyLocalItems_touches mask (fun _ h => h) hwf
  | setEnabled mask value => exact setLocalItemsEnabled_touches env (fun _ h => h) hwf

/--
A call leaves the remote items alone exactly when it applies no OID that is one of a
remote item.
-/
theorem leavesRemoteAlone_iff (env : Env V) (w : World V) (hwf : w.toMem.WellFormed)
    (call : AdminCall V) : call.LeavesRemoteAlone env w <->
      forall oid, call.applies env w oid -> forall y, w.inv.getItem oid = some y ->
        y.source = none := by
  have hiff := (run_touches env hwf call).untouched_iff
  constructor
  · intro halone oid happlies y hy
    apply (Item.node_eq_none_iff y).mp
    apply Classical.not_not.mp
    refine hiff.mp ?_ oid happlies y hy
    intro o x hx hremote
    have hsame := halone o x hx (mt (Item.node_eq_none_iff x).mpr hremote)
    exact ⟨hsame.left, ItemCell.ext hsame.right.right hsame.right.left⟩
  · intro hfree oid y hy hremote
    have huntouched := hiff.mpr ?_ oid y hy (mt (Item.node_eq_none_iff y).mp hremote)
    · exact ⟨huntouched.left, congrArg ItemCell.enabled huntouched.right,
        congrArg ItemCell.state huntouched.right⟩
    · intro o happlies x hx hremote'
      exact hremote' ((Item.node_eq_none_iff x).mpr (hfree o happlies x hx))

def remoteSensorWorld : World (Option Int) :=
  World.ofMem (InventoryOp.run (Env.sample (Option Int)).clock 1
    [.createItem { kind := .sensor, fullId := "a" } (some { bootId := 1, t := 0 })
      (some ("n1", "eva.repl.1"))])

theorem leavesRemoteAlone_deployOther :
    (AdminCall.deploy [{ oid := { kind := .sensor, fullId := "b" } }] true :
      AdminCall (Option Int)).LeavesRemoteAlone (Env.sample (Option Int)) remoteSensorWorld := by
  apply (leavesRemoteAlone_iff (Env.sample (Option Int)) remoteSensorWorld
    (InventoryOp.run_wellFormed _ _ _) _).mpr
  intro oid happlies y hy
  rcases happlies with ⟨c, hc, hoid⟩
  have hnone : remoteSensorWorld.inv.getItem { kind := .sensor, fullId := "b" } = none := by
    decide
  rw [hoid, List.mem_singleton.mp hc, hnone] at hy
  cases hy

/-- Undeploying the OID of a remote item removes the remote item. -/
theorem not_leavesRemoteAlone_undeploy :
    ¬ (AdminCall.undeploy [.ok { kind := .sensor, fullId := "a" }] :
      AdminCall (Option Int)).LeavesRemoteAlone (Env.sample (Option Int)) remoteSensorWorld := by
  intro h
  have hsame := h { kind := .sensor, fullId := "a" }
    { ptr := 0, oid := { kind := .sensor, fullId := "a" }, metaValue := none,
      source := some { ptr := 0, node := "n1", svc := "eva.repl.1" }, logic := none,
      action := none } (by decide) (by decide)
  exact absurd hsame.left (by decide)

end AdminCall

end Eva4.Core
