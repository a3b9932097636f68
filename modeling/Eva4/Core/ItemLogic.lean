import Eva4.Items.MapRefinement
import Eva4.Items.View
import Eva4.Core.CallRules
import Eva4.Core.WorldFrame

/-!
# The logic of local items

A raw event checks the value against the range in the logic of the item and sets the error status
if it is not accepted.  A deployment takes the status and the value of the configuration, or those
of the item it replaces, as they are.
-/

namespace Eva4
namespace Items

variable {V : Type} [EvaCommon V]

/-- Values that compare equal are accepted by the same ranges. -/
def RangesRespectEq (V : Type) [EvaCommon V] : Prop :=
  forall (a b : V) (logic : Option Logic), (a == b) = true ->
    validateLogic (some a) logic = validateLogic (some b) logic

def ItemState.Obeys (st : ItemState V) (logic : Option Logic) : Prop :=
  st.status = itemStatusError ∨ validateLogic (some st.value) logic = true

lemma validateLogic_of_none (h : validateLogic (none : Option V) logic = true) {v : V} :
    validateLogic (some v) logic = true := by
  unfold validateLogic at h ⊢
  cases hrange : logic.bind Logic.range with
  | none => rfl
  | some range =>
    rw [hrange] at h
    cases h

lemma ItemState.setStatusValue_obeys (hrespect : RangesRespectEq V) (st : ItemState V)
    (status : ItemStatus) (value : Option V) (logic : Option Logic) :
    (st.setStatusValue status value logic).2.Obeys logic := by
  unfold ItemState.setStatusValue
  cases herror : status == itemStatusError with
  | true =>
    rw [Bool.true_or, if_pos rfl]
    have hstatus : status = itemStatusError := eq_of_beq herror
    cases value with
    | none => exact Or.inl hstatus
    | some val =>
      simp only
      split <;> exact Or.inl hstatus
  | false =>
    rw [Bool.false_or]
    cases hvalid : validateLogic value logic with
    | false => exact Or.inl rfl
    | true =>
      rw [if_pos rfl]
      apply Or.inr
      cases value with
      | none => exact validateLogic_of_none hvalid
      | some val =>
        simp only
        split
        next hsame =>
          rw [← hvalid]
          exact hrespect st.value val logic hsame
        next => exact hvalid

/-- After a raw event the state obeys the logic, whatever it was before. -/
theorem ItemState.setFromRaw_obeys (hrespect : RangesRespectEq V) (st : ItemState V)
    (raw : RawStateEvent V) (logic : Option Logic) (ieid : IEID) (time : F64) :
    (st.setFromRaw raw logic ieid time).2.Obeys logic := by
  have hcontent := st.setFromRaw_content raw logic ieid time
  have hobeys : (st.setFromRawStatus raw logic).2.Obeys logic :=
    st.setStatusValue_obeys hrespect _ _ logic
  unfold ItemState.Obeys at hobeys ⊢
  rw [hcontent.left, hcontent.right.left]
  exact hobeys

/-- A local item with a range in its logic has a state that obeys it. -/
def ItemView.LogicHolds (v : ItemView V) : Prop :=
  v.source = none -> (v.logic.bind Logic.range).isSome ->
    exists st, v.state = some st ∧ st.Obeys v.logic

end Items

namespace Core

open Lib Items

variable {V : Type} [EvaCommon V]

def World.LogicHolds (w : World V) (oid : OID) : Prop :=
  forall v, w.toMem.view oid = some v -> v.LogicHolds

/-!
## The discipline
-/

def World.stateOf (w : World V) (oid : OID) : Option (ItemState V) :=
  (w.inv.getItem oid).bind w.state

/--
The configuration says or finds the error status, or says or finds a value its range
accepts.  A new item has status one and the unit value.
-/
def World.ConfigFits (w : World V) (config : ItemConfigData V) : Prop :=
  config.status.getD (((w.stateOf config.oid).map ItemState.status).getD 1) = itemStatusError ∨
    validateLogic (some (config.value.getD
        (((w.stateOf config.oid).map ItemState.value).getD EvaCommon.unit)))
      config.logic = true

/-- Deployments copy a state only for a configuration that fits. -/
def DeploysFitting : Label V -> World V -> Prop
  | .copyState config, w => w.ConfigFits config
  | _, _ => True

/-- Every item is the one that was there, as it was, or it obeys its logic. -/
def logicDiscipline (V : Type) [EvaCommon V] : Discipline (World V) (Label V) Lock where
  inv := fun w => w.toMem.WellFormed
  admits := fun _ => DeploysFitting
  step := fun w w' => w.toMem.Evolves (fun _ => False) w'.toMem ∧
    forall oid item, w'.inv.getItem oid = some item ->
      w.inv.getItem oid = some item ∧ w'.heap.cells item.ptr = w.heap.cells item.ptr ∨
        (item.view (w'.heap.cells item.ptr)).LogicHolds
  order := fun _ _ => True

variable {w : World V} {config : ItemConfigData V} {item : Item V}

variable {env : Env V} {oid : OID} {st : ItemState V}

lemma logicDiscipline_step_holds (h : (logicDiscipline V).step w w') (hw : w.LogicHolds oid) :
    w'.LogicHolds oid := by
  intro v hv
  rcases Option.map_eq_some_iff.mp hv with ⟨item, hitem, hview⟩
  rw [← hview]
  rcases h.right oid item hitem with hsame | hholds
  · rw [hsame.right]
    exact hw _ (Mem.view_of_getItem hsame.left)
  · exact hholds

lemma logicDiscipline_later (hw : w.toMem.WellFormed) (h : (logicDiscipline V).Later w w') :
    w.toMem.Evolves (fun _ => False) w'.toMem := by
  induction h with
  | refl => exact Mem.Evolves.refl hw
  | tail _ hstep ih => exact ih.trans hstep.left

lemma found_eq (hfound : Found (logicDiscipline V) item w) (hy : w.inv.getItem oid = some y)
    (hptr : y.ptr = item.ptr) : y = item := by
  rcases hfound with ⟨s, hs, hfinds, hlater⟩
  have hwf : s.toMem.WellFormed := hs
  have hstored : exists o, s.inv.getItem o = some item := by
    rcases hfinds with hget | hmask
    · exact hget
    · rcases hmask with ⟨mask, filter, includeStateless, hmem⟩
      exact ⟨item.oid,
        ((hwf.inv.items.mem_getByMask mask filter includeStateless item).mp hmem).left⟩
  rcases hstored with ⟨o, ho⟩
  rcases (logicDiscipline_later hwf hlater).origin oid y hy with hbefore | hnew
  · exact hwf.distinct y.node oid y item.node o item (hwf.inv.indexed oid y hbefore)
      (hwf.inv.indexed o item ho) hptr
  · have hlt := hwf.getItem_fresh ho
    rw [← hptr] at hlt
    exact absurd hnew.left (not_le_of_gt hlt)

/-!
## Steps
-/

lemma logicDiscipline_idle (hw : w.toMem.WellFormed) (h : Idle w w') :
    (logicDiscipline V).Moves w w' := by
  have hevolves : w.toMem.Evolves (fun _ => False) w'.toMem :=
    Mem.Evolves.of_inv hw h.inv h.nextItem
  refine ⟨hevolves.wellFormed, hevolves, ?_⟩
  intro oid item hitem
  rw [h.inv] at hitem
  exact Or.inl ⟨hitem, by rw [h.cells]⟩

lemma World.applyRaw_obeys (hrespect : RangesRespectEq V) (hst : w.state item = some st)
    (hraw : rawIgnored item raw st = false) :
    exists st', (w.applyRaw env item raw).2 = (w.setState item st').advance ∧
      st'.Obeys item.logic := by
  refine ⟨_, ?_, st.setFromRaw_obeys hrespect raw item.logic
    (w.heap.ieid env.clock env.bootId) (w.heap.now env.clock)⟩
  simp only [World.applyRaw, hst, hraw, Bool.false_eq_true, if_false]

omit [EvaCommon V] in
lemma World.setState_view (w : World V) :
    (item.view ((w.setState item st).advance.heap.cells item.ptr)).state = some st :=
  w.state_setState

lemma logicDiscipline_applyRaw (hrespect : RangesRespectEq V) (hw : w.toMem.WellFormed)
    (hfound : Found (logicDiscipline V) item w) :
    (logicDiscipline V).Moves w (w.applyRaw env item raw).2 := by
  cases hst : w.state item with
  | none =>
    simp only [World.applyRaw, hst]
    exact logicDiscipline_idle hw ⟨rfl, rfl, rfl, le_rfl⟩
  | some st =>
    cases hraw : rawIgnored item raw st with
    | true =>
      simp only [World.applyRaw, hst, hraw, if_true]
      exact logicDiscipline_idle hw ⟨rfl, rfl, rfl, le_rfl⟩
    | false =>
      rcases World.applyRaw_obeys hrespect hst hraw with ⟨st', heq, hobeys⟩
      rw [heq]
      have hevolves : w.toMem.Evolves (fun _ => False) (w.setState item st').advance.toMem :=
        Mem.Evolves.of_inv hw rfl rfl
      refine ⟨hevolves.wellFormed, hevolves, ?_⟩
      intro oid y hy
      have hy' : w.inv.getItem oid = some y := hy
      by_cases hptr : y.ptr = item.ptr
      · apply Or.inr
        rw [found_eq hfound hy' hptr]
        intro _ _
        exact ⟨st', w.setState_view, hobeys⟩
      · exact Or.inl ⟨hy', w.setState_cells item st' hptr⟩

lemma World.ConfigFits.obeys (h : w.ConfigFits config)
    (hst : w.toMem.configState env.clock env.bootId config = some st) : st.Obeys config.logic := by
  rw [Mem.configState_eq_edit hst]
  unfold World.ConfigFits World.stateOf World.state at h
  show config.status.getD _ = itemStatusError ∨
    validateLogic (some (config.value.getD _)) config.logic = true
  unfold Mem.getOrGenerateState
  cases hold : (w.inv.getItem config.oid).bind fun item =>
      (w.heap.cells item.ptr).state with
  | none =>
    rw [hold] at h
    exact h
  | some old =>
    rw [hold] at h
    exact h

/-- Lmacros have no logic, so a configuration with a range starts with a state. -/
theorem configState_isSome_of_range
    (hcheck : checkItemData config.oid config.logic config.action = .ok ())
    (hrange : (config.logic.bind Logic.range).isSome) :
    exists st, w.toMem.configState env.clock env.bootId config = some st := by
  unfold Mem.configState
  cases hkind : config.oid.kind with
  | lMacro =>
    unfold checkItemData at hcheck
    rw [hkind] at hcheck
    cases hlogic : config.logic with
    | none =>
      rw [hlogic] at hrange
      cases hrange
    | some logic =>
      rw [hlogic] at hcheck
      cases hcheck
  | unit | sensor | lvar => exact ⟨_, rfl⟩

lemma logicDiscipline_append (hw : w.toMem.WellFormed)
    (hcheck : checkItemData config.oid config.logic config.action = .ok ())
    (hcopied : Copied env (logicDiscipline V) held config state w) :
    (logicDiscipline V).Moves w (w.withMem (w.toMem.appendNew config.item
      { state := state, enabled := config.enabled } true).2) := by
  rcases hw.appendNew config.item { state := state, enabled := config.enabled }
    (Or.inl rfl) with ⟨m', heq, happended⟩
  rw [heq]
  refine ⟨happended.wellFormed, happended.evolves fun h => h, ?_⟩
  intro oid y hy
  have hy' : m'.inv.getItem oid = some y := hy
  rw [happended.getItem oid] at hy'
  by_cases hoid : oid = config.item.oid
  · rw [if_pos hoid] at hy'
    injection hy' with hy'
    apply Or.inr
    intro _ hrange
    rcases hcopied with ⟨s, _, hfits, hstate, _⟩
    rw [← hy'] at hrange ⊢
    rcases configState_isSome_of_range hcheck hrange with ⟨st, hst⟩
    refine ⟨st, ?_, World.ConfigFits.obeys hfits hst⟩
    rw [← hst, ← hstate, World.withMem_toMem, happended.heap]
    simp [Item.view, Heap.allocItem]
  · rw [if_neg hoid] at hy'
    exact Or.inl ⟨hy', happended.cells (hw.getItem_fresh hy')⟩

lemma logicDiscipline_rawRules (hrespect : RangesRespectEq V) :
    RawRules env (logicDiscipline V) where
  idle := fun _ _ hw h => logicDiscipline_idle hw h
  applyRaw := fun _ _ _ _ _ hw hfound _ => logicDiscipline_applyRaw hrespect hw hfound
  append := fun _ _ _ _ hw hcheck hcopied _ => logicDiscipline_append hw hcheck hcopied

/-!
## Runs
-/

inductive StateCall (V : Type) where
  | deployLocalItems (configs : List (ItemConfigData V))
  | updateStateFromRaw (oid : OID) (raw : RawStateEvent V) (sender : String)
  | updateStateFromRawBulk (raw : List (RawStateBulkEvent V)) (sender : String)

namespace StateCall

def toCoreCall : StateCall V -> CoreCall V
  | .deployLocalItems configs => .deployLocalItems configs
  | .updateStateFromRaw oid raw sender => .updateStateFromRaw oid raw sender
  | .updateStateFromRawBulk raw sender => .updateStateFromRawBulk raw sender

def system (env : Env V) (calls : List (StateCall V)) (w : World V) :
    Sys (World V) (Label V) Lock :=
  CoreCall.system env (calls.map toCoreCall) w

lemma keeps (hs : RawRules env d) (hl : LockRules env d) (c : StateCall V) :
    (c.toCoreCall.task env).prog.Keeps d [] seen ∧ (c.toCoreCall.task env).held = [] := by
  refine ⟨?_, by cases c <;> rfl⟩
  cases c with
  | deployLocalItems configs =>
    exact Prog.Keeps.map (hs.deployLocalItems hl.mayDeploy)
  | updateStateFromRaw oid raw sender =>
    exact Prog.Keeps.map (keeps_updateStateFromRaw hs hl)
  | updateStateFromRawBulk raw sender =>
    exact Prog.Keeps.map (keeps_updateStateFromRawBulk hs hl)

lemma system_follows (hs : RawRules env d) (hl : LockRules env d) (hw : d.inv w) :
    (system env calls w).Follows d := by
  apply Sys.follows_start hw
  intro t ht
  rcases List.mem_map.mp ht with ⟨call, hcall, ht⟩
  rcases List.mem_map.mp hcall with ⟨c, _, hc⟩
  rw [← ht, ← hc]
  exact c.keeps hs hl

end StateCall

/--
The next step of the task sets the item that has the OID from a raw event, or deploys a
configuration under it.
-/
def Touches (env : Env V) (sys : Sys (World V) (Label V) Lock) (i : Nat) (oid : OID) : Prop :=
  exists t, sys.tasks[i]? = some t ∧
    ((exists item raw lock next st,
        t.prog = .act (.applyRaw item raw lock) (fun w => (World.applyRaw env item raw w).2) next ∧
        sys.store.inv.getItem oid = some item ∧ sys.store.state item = some st ∧
        rawIgnored item raw st = false) ∨
      exists config state next,
        t.prog = .act (.append config state)
          (fun w => w.withMem (w.toMem.appendNew config.item
            { state := state, enabled := config.enabled } true).2) next ∧
        oid = config.oid)

lemma touches_holds (hrespect : RangesRespectEq V) (hmid : mid.Follows (logicDiscipline V))
    (hadmits : Sys.Admits (fun _ => DeploysFitting) mid i) (hstep : mid.step i = some next)
    (htouch : Touches env mid i oid) : next.store.LogicHolds oid := by
  rcases htouch with ⟨t, htask, htouch⟩
  intro v hv
  rcases Option.map_eq_some_iff.mp hv with ⟨y, hy, hview⟩
  rw [← hview]
  rcases htouch with hraw | hdeploy
  · rcases hraw with ⟨item, raw, lock, _, st, hprog, hitem, hst, hignored⟩
    rw [Sys.step_store htask hprog hstep] at hy ⊢
    rcases World.applyRaw_obeys hrespect hst hignored with ⟨st', heq, hobeys⟩
    rw [heq] at hy ⊢
    have hsame : y = item := Option.some.inj (Eq.trans hy.symm hitem)
    rw [hsame]
    intro _ _
    exact ⟨st', mid.store.setState_view, hobeys⟩
  · rcases hdeploy with ⟨config, state, _, hprog, hoid⟩
    have hmoved := hmid.moves hadmits htask hprog hstep
    cases hmoved.right oid y hy with
    | inr hholds => exact hholds
    | inl hsame =>
      -- the deployed item is new, it cannot be the one that was there
      have hwf : mid.store.toMem.WellFormed := hmid.inv
      rcases hwf.appendNew config.item { state := state, enabled := config.enabled }
        (Or.inl rfl) with ⟨m', heq, happended⟩
      rw [Sys.step_store htask hprog hstep, heq] at hy
      have hnew := (happended.getItem oid).trans (if_pos hoid)
      have hptr : y.ptr = mid.store.heap.nextItem := by
        rw [← Option.some.inj (hnew.symm.trans hy)]
      exact absurd (hwf.getItem_fresh hsame.left) (by rw [hptr]; exact lt_irrefl _)

lemma logicHolds_reaches (hmid : mid.Follows (logicDiscipline V))
    (hrun : Sys.Reaches (fun _ => DeploysFitting) mid last) (h : mid.store.LogicHolds oid) :
    last.store.LogicHolds oid := by
  induction hrun with
  | refl => exact h
  | step hbefore hadmits hstep ih =>
    have hfollows := Sys.Reaches.follows hmid hbefore
    rcases (hfollows.step hadmits hstep).right with hsame | hmoved
    · rw [hsame]
      exact ih
    · exact logicDiscipline_step_holds hmoved ih

/--
In every run whose deployments copy a state only for a configuration that fits, an item
obeys its logic from the first step on that touches it.
-/
theorem touched_item_obeys_logic (hrespect : RangesRespectEq V) (env : Env V)
    (calls : List (StateCall V)) {w : World V} (hwf : w.toMem.WellFormed)
    {mid next last : Sys (World V) (Label V) Lock} {i : Nat}
    (hrun : Sys.Reaches (fun _ => DeploysFitting) (StateCall.system env calls w) mid)
    (hadmits : Sys.Admits (fun _ => DeploysFitting) mid i) (hstep : mid.step i = some next)
    (hrest : Sys.Reaches (fun _ => DeploysFitting) next last) {oid : OID}
    (htouch : Touches env mid i oid) : last.store.LogicHolds oid := by
  have hstart : (StateCall.system env calls w).Follows (logicDiscipline V) :=
    StateCall.system_follows (logicDiscipline_rawRules hrespect)
      (LockRules.of_order fun _ _ => trivial) hwf
  have hmid := Sys.Reaches.follows hstart hrun
  have hnext := (hmid.step hadmits hstep).left
  exact logicHolds_reaches hnext hrest (touches_holds hrespect hmid hadmits hstep htouch)

/-!
A sensor with a range is deployed; then a raw event sets it to a value out of the range.
-/

def rangedOid : OID :=
  { kind := .sensor, fullId := "a" }

def rangedConfig (value : Option (Option Int)) : ItemConfigData (Option Int) where
  oid := rangedOid
  logic := some
    { range := some { min := some F64.zero, max := none, minEq := true, maxEq := false } }
  value := value

/-- A copied state belongs to a configuration that brings a value its range accepts. -/
def bringsFittingValue : Label (Option Int) -> World (Option Int) -> Bool
  | .copyState config, _ => config.value.isSome && validateLogic config.value config.logic
  | _, _ => true

lemma deploysFitting_of_bringsFittingValue {w : World (Option Int)}
    (h : bringsFittingValue label w = true) : DeploysFitting label w := by
  cases label with
  | copyState config =>
    rw [bringsFittingValue, Bool.and_eq_true] at h
    rcases Option.isSome_iff_exists.mp h.left with ⟨value, hvalue⟩
    apply Or.inr
    rw [hvalue] at h ⊢
    exact h.right
  | _ => trivial

lemma rangesRespectEq_int : RangesRespectEq (Option Int) := by
  intro a b logic h
  rw [eq_of_beq h]

def outOfRange : RawStateEvent (Option Int) where
  status := 1
  value := some (some (-3))

def rangedRun : Option (Sys (World (Option Int)) (Label (Option Int)) Lock) :=
  (StateCall.system (Env.sample (Option Int))
    [.deployLocalItems [rangedConfig (some (some 5))],
      .updateStateFromRaw rangedOid outOfRange "eva.controller.a"]
    World.new).runChecked bringsFittingValue (List.replicate 12 0 ++ List.replicate 6 1)

lemma rangedRun_isSome : rangedRun.isSome = true := by
  decide +kernel

def rangedItem : Item (Option Int) :=
  { (rangedConfig none).item with ptr := 0 }

lemma rangedRun_touches :
    Touches (Env.sample (Option Int)) (rangedRun.get rangedRun_isSome) 1 rangedOid := by
  have hstate : ((rangedRun.get rangedRun_isSome).store.state rangedItem).isSome := by
    decide +kernel
  rcases Option.isSome_iff_exists.mp hstate with ⟨st, hst⟩
  have hitem : (rangedRun.get rangedRun_isSome).store.inv.getItem rangedOid = some rangedItem := by
    decide +kernel
  exact ⟨_, rfl, Or.inl ⟨rangedItem, outOfRange, true, _, st, rfl, hitem, hst, rfl⟩⟩

theorem touched_item_obeys_logic_outOfRange :
    exists mid next, rangedRun = some mid ∧ mid.step 1 = some next ∧
      Touches (Env.sample (Option Int)) mid 1 rangedOid ∧ next.store.LogicHolds rangedOid := by
  have hmid : rangedRun = some (rangedRun.get rangedRun_isSome) := by simp
  have hlabel : ((rangedRun.get rangedRun_isSome).nextLabel 1).all
      (bringsFittingValue · (rangedRun.get rangedRun_isSome).store) = true := by
    decide +kernel
  have hnext : ((rangedRun.get rangedRun_isSome).step 1).isSome := by
    decide +kernel
  rcases Option.isSome_iff_exists.mp hnext with ⟨next, hnext⟩
  have hpass : forall (_ : Held Lock) (label : Label (Option Int)) (w : World (Option Int)),
      bringsFittingValue label w = true -> DeploysFitting label w :=
    fun _ _ w h => deploysFitting_of_bringsFittingValue h
  refine ⟨_, next, hmid, hnext, rangedRun_touches, ?_⟩
  exact touched_item_obeys_logic rangesRespectEq_int _ _ Mem.new_wellFormed
    (Sys.Reaches.of_runChecked hpass hmid) (Sys.Admits.of_nextLabel hpass hlabel) hnext
    .refl rangedRun_touches

def unfitRun : Option (Sys (World (Option Int)) (Label (Option Int)) Lock) :=
  (StateCall.system (Env.sample (Option Int))
    [.deployLocalItems [rangedConfig (some (some (-3)))]] World.new).run
    (List.replicate 12 0)

/-- The call ends; the deployed sensor has status one and a value out of its range. -/
theorem deployed_out_of_range : exists last, unfitRun = some last ∧ last.step 0 = none ∧
      ¬ last.store.LogicHolds rangedOid := by
  refine ⟨_, rfl, rfl, ?_⟩
  intro hholds
  rcases hholds _ rfl rfl rfl with ⟨st, hst, herror | hvalid⟩
  · cases hst
    cases herror
  · cases hst
    exact absurd hvalid (by decide)

end Core
end Eva4
