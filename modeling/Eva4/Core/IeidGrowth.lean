import Eva4.Items.IndexAgreement
import Eva4.Items.View
import Eva4.Core.CallRules
import Eva4.Core.WorldFrame

/-!
# Event ids of local items grow

Replicas accept a state only if its event id is greater than the one they have.  The mutators of
item states assign the id that was just issued; a deployment over an existing item keeps the id
of the state it copies, so it has to find and to leave that state.
-/

namespace Eva4
namespace Items

variable {V : Type}

def Mem.localState (m : Mem V) (oid : OID) : Option (ItemState V) :=
  (m.inv.getItem oid).bind fun item =>
    if item.source.isNone then (m.heap.cells item.ptr).state else none

variable {m : Mem V}

lemma Mem.localState_eq_some_iff : m.localState oid = some st <->
      exists item, m.inv.getItem oid = some item ∧ item.source = none ∧
        (m.heap.cells item.ptr).state = some st := by
  simp [localState, Option.bind_eq_some_iff]

lemma Mem.localState_eq_view (m : Mem V) : m.localState oid =
      (m.view oid).bind fun v => if v.source.isNone then v.state else none := by
  unfold localState view
  cases m.inv.getItem oid <;> rfl

lemma Mem.localState_congr {m' : Mem V} (hget : m'.inv.getItem oid = m.inv.getItem oid)
    (hcells : forall item, m.inv.getItem oid = some item ->
      m'.heap.cells item.ptr = m.heap.cells item.ptr) : m'.localState oid = m.localState oid := by
  rw [m'.localState_eq_view, m.localState_eq_view, view_congr hget hcells]

lemma Mem.Appended.localState (hwf : m.WellFormed) (h : m.Appended item cell m')
    (hlocal : item.source = none) (oid : OID) :
    m'.localState oid = if oid = item.oid then cell.state else m.localState oid := by
  rw [m'.localState_eq_view, m.localState_eq_view, h.view hwf oid]
  by_cases hoid : oid = item.oid
  · simp [if_pos hoid, Item.view, hlocal]
  · rw [if_neg hoid, if_neg hoid]

theorem Mem.WellFormed.appendNew_localState (hwf : m.WellFormed) {item : Item V}
    (hlocal : item.source = none) : (m.appendNew item cell false).2.WellFormed ∧
      (m.appendNew item cell false).2.heap.tick = m.heap.tick ∧
      forall oid st, (m.appendNew item cell false).2.localState oid = some st ->
        m.localState oid = some st ∨ cell.state = some st ∧ m.localState oid = none := by
  cases hget : m.inv.getItem item.oid with
  | some old =>
    rw [hwf.appendNew_duplicate cell hget]
    refine ⟨hwf.of_heap (Nat.le_succ _), rfl, ?_⟩
    intro oid st hst
    apply Or.inl
    rw [← hst]
    symm
    refine localState_congr rfl ?_
    intro y hy
    exact Function.update_of_ne (Nat.ne_of_lt (hwf.getItem_fresh hy)) cell m.heap.cells
  | none =>
    rcases hwf.appendNew item cell (Or.inr hget) with ⟨m', heq, happended⟩
    rw [heq]
    refine ⟨happended.wellFormed, by rw [happended.heap]; rfl, ?_⟩
    intro oid st hst
    rw [happended.localState hwf hlocal oid] at hst
    by_cases hoid : oid = item.oid
    · rw [if_pos hoid] at hst
      refine Or.inr ⟨hst, ?_⟩
      unfold localState
      rw [hoid, hget]
      rfl
    · rw [if_neg hoid] at hst
      exact Or.inl hst

/-- The configuration sets nothing of a state to another value. -/
def ItemConfigData.KeepsContent (config : ItemConfigData V) (st : ItemState V) : Prop :=
  config.status.getD st.status = st.status ∧ config.value.getD st.value = st.value ∧
    config.t.getD st.t = st.t ∧ (config.oid.kind = .unit -> st.act = some 0)

lemma ItemConfigData.KeepsContent.edit_eq {config : ItemConfigData V} (h : config.KeepsContent st) :
    config.edit st = st := by
  rcases h with ⟨hstatus, hvalue, ht, hact⟩
  unfold ItemConfigData.edit
  rw [hstatus, hvalue, ht]
  by_cases hunit : config.oid.kind = .unit
  · rw [if_pos hunit, ← hact hunit]
  · rw [if_neg hunit]

end Items

namespace Core

open Lib Items Mem

variable {V : Type}

/-!
## The discipline
-/

def World.nextIeid (env : Env V) (w : World V) : IEID :=
  w.heap.ieid env.clock env.bootId

def World.LocalIeidsIssued (env : Env V) (w : World V) : Prop :=
  forall oid st, w.localState oid = some st -> st.ieid < w.nextIeid env

/--
A deployment over a local item keeps its content and finds the state it has copied; one
over a remote item does not bring an event id the node has yet to issue.
-/
def KeepsIeidOrder (env : Env V) : Label V -> World V -> Prop
  | .copyState config, w =>
    forall item st, w.inv.getItem config.oid = some item -> item.source.isSome ->
      w.state item = some st -> st.ieid < w.nextIeid env
  | .append config state, w =>
    forall st, w.localState config.oid = some st ->
      config.KeepsContent st ∧ state = some (config.edit st)
  | _, _ => True

def ieidDiscipline (env : Env V) : Discipline (World V) (Label V) Lock where
  inv := fun w => w.toMem.WellFormed ∧ w.LocalIeidsIssued env
  admits := fun _ => KeepsIeidOrder env
  step := fun w w' => w.heap.tick ≤ w'.heap.tick ∧
    forall oid a b, w.localState oid = some a -> w'.localState oid = some b ->
      a = b ∨ a.ieid < b.ieid
  order := fun _ _ => True

lemma ieidDiscipline_later (h : (ieidDiscipline env).Later w w') : w.heap.tick ≤ w'.heap.tick := by
  induction h with
  | refl => exact le_rfl
  | tail _ hstep ih => exact ih.trans hstep.left

section Clock

variable {env : Env V} (hclock : StrictMono env.clock.monotonicNs) {w w' : World V}
include hclock

lemma nextIeid_lt (h : w.heap.tick < w'.heap.tick) : w.nextIeid env < w'.nextIeid env :=
  IEID.lt_iff.mpr (Or.inr ⟨rfl, hclock h⟩)

lemma nextIeid_le (h : w.heap.tick ≤ w'.heap.tick) : w.nextIeid env ≤ w'.nextIeid env := by
  rcases Nat.lt_or_eq_of_le h with hlt | heq
  · exact le_of_lt (nextIeid_lt hclock hlt)
  · unfold World.nextIeid Heap.ieid
    rw [heq]

section

variable (hw : (ieidDiscipline env).inv w)
include hw

theorem ieidDiscipline_of_localState (hwf : w'.toMem.WellFormed)
    (htick : w.heap.tick ≤ w'.heap.tick) (h : forall oid b, w'.localState oid = some b ->
      w.localState oid = some b ∨ b.ieid < w'.nextIeid env ∧
        forall a, w.localState oid = some a -> a = b ∨ a.ieid < b.ieid) :
    (ieidDiscipline env).Moves w w' := by
  refine ⟨⟨hwf, ?_⟩, htick, ?_⟩
  · intro oid b hb
    rcases h oid b hb with hold | hnew
    · exact lt_of_lt_of_le (hw.right oid b hold) (nextIeid_le hclock htick)
    · exact hnew.left
  · intro oid a b ha hb
    rcases h oid b hb with hold | hnew
    · rw [ha] at hold
      injection hold with hold
      exact Or.inl hold
    · exact hnew.right a ha

lemma ieidDiscipline_changes (h : Changes env w w') :
    (ieidDiscipline env).Moves w w' := by
  cases h with
  | idle hidle =>
    have hwf := hw.left.of_heap (le_of_eq hidle.nextItem.symm)
    rw [← hidle.inv] at hwf
    refine ieidDiscipline_of_localState hclock hw hwf hidle.tick ?_
    intro oid b hb
    apply Or.inl
    rw [← hb]
    symm
    apply localState_congr
    · rw [hidle.inv]
    · intro item _
      rw [hidle.cells]
  | @setState item st st' hst hieid =>
    refine ieidDiscipline_of_localState hclock hw (hw.left.of_heap le_rfl) (Nat.le_succ _) ?_
    intro oid b hb
    rcases localState_eq_some_iff.mp hb with ⟨y, hget, hlocal, hy⟩
    have hget' : w.inv.getItem oid = some y := hget
    by_cases hptr : y.ptr = item.ptr
    · have hold : w.localState oid = some st := by
        apply localState_eq_some_iff.mpr
        refine ⟨y, hget', hlocal, ?_⟩
        rw [hptr]
        exact hst
      have hb' : b = st' := by
        have hy' : (w.setState item st').state y = some b := hy
        unfold World.state at hy'
        rw [hptr] at hy'
        injection w.state_setState.symm.trans hy' with hsame
        exact hsame.symm
      rw [hb']
      rcases hieid with hsame | hnew
      · rw [hsame]
        exact Or.inl hold
      · refine Or.inr ⟨?_, ?_⟩
        · rw [hnew]
          exact nextIeid_lt hclock (Nat.lt_succ_self _)
        · intro a ha
          rw [hnew]
          exact Or.inr (hw.right oid a ha)
    · apply Or.inl
      apply localState_eq_some_iff.mpr
      refine ⟨y, hget', hlocal, ?_⟩
      have hcells := w.setState_cells item st' hptr
      rw [← hcells]
      exact hy

/-!
## New items
-/

omit hw in
lemma ieid_lt_of_issued (h : Issued env (ieidDiscipline env) i w) : i < w.nextIeid env := by
  rcases h with ⟨s, hi, hlater⟩
  rw [hi]
  exact nextIeid_lt hclock (ieidDiscipline_later hlater)

lemma ieidDiscipline_appendNew (hm : m = w.toMem ∨ m = w.advance.toMem)
    (hlocal : item.source = none)
    (hcell : forall st, cell.state = some st -> st.ieid < w.nextIeid env) :
    (ieidDiscipline env).Moves w (w.withMem (m.appendNew item cell false).2) := by
  have hbefore : m.WellFormed ∧ w.heap.tick ≤ m.heap.tick ∧ m.localState = w.localState := by
    rcases hm with hm | hm
    · rw [hm]
      exact ⟨hw.left, le_rfl, rfl⟩
    · rw [hm]
      exact ⟨hw.left.advance, Nat.le_succ _, rfl⟩
  rcases hbefore with ⟨hwf, htick, hsame⟩
  rcases hwf.appendNew_localState hlocal with ⟨hwf', htick', hstates⟩
  have hlate : w.heap.tick ≤ (w.withMem (m.appendNew item cell false).2).heap.tick := by
    exact htick
  apply ieidDiscipline_of_localState hclock hw hwf' hlate
  intro oid b hb
  rcases hstates oid b hb with hold | hnew
  · rw [hsame] at hold
    exact Or.inl hold
  · refine Or.inr ⟨lt_of_lt_of_le (hcell b hnew.left) (nextIeid_le hclock hlate), ?_⟩
    intro a ha
    rw [← hsame, hnew.right] at ha
    cases ha

lemma ieidDiscipline_createItem [EvaCommon V]
    (hieid : forall i, ieid = some i -> Issued env (ieidDiscipline env) i w) :
    (ieidDiscipline env).Moves w (w.withMem (w.toMem.createItem env.clock oid ieid none).2) := by
  rcases w.toMem.createItem_cases env.clock oid ieid with
    ⟨_, _, e, heq⟩ | ⟨base, cell, hbase, _, hstate, heq⟩
  · rw [heq]
    exact ieidDiscipline_changes hclock hw (.idle ⟨rfl, rfl, rfl, le_rfl⟩)
  · rw [heq]
    apply ieidDiscipline_appendNew hclock hw hbase rfl
    intro st hst
    exact ieid_lt_of_issued hclock (hieid st.ieid (hstate st hst))

/-!
## Deployment
-/

omit hclock in
theorem copied_ieid_le [EvaCommon V] (hadmits : KeepsIeidOrder env (.copyState config) w)
    (h : w.toMem.configState env.clock env.bootId config = some st) : st.ieid ≤ w.nextIeid env := by
  rw [configState_eq_edit h]
  show (w.toMem.getOrGenerateState env.clock env.bootId config.oid).ieid ≤ _
  unfold getOrGenerateState
  cases hold : (w.inv.getItem config.oid).bind fun item =>
      (w.heap.cells item.ptr).state with
  | none => exact le_rfl
  | some old =>
    rcases Option.bind_eq_some_iff.mp hold with ⟨item, hitem, hstate⟩
    cases hsource : item.source with
    | none =>
      exact le_of_lt (hw.right config.oid old
        (localState_eq_some_iff.mpr ⟨item, hitem, hsource, hstate⟩))
    | some source => exact le_of_lt (hadmits item old hitem (by rw [hsource]; rfl) hstate)

lemma ieidDiscipline_append [EvaCommon V] {held : Held Lock}
    (hcopied : Copied env (ieidDiscipline env) held config state w)
    (hadmits : KeepsIeidOrder env (.append config state) w) :
    (ieidDiscipline env).Moves w (w.withMem (w.toMem.appendNew config.item
      { state := state, enabled := config.enabled } true).2) := by
  rcases hw.left.appendNew config.item { state := state, enabled := config.enabled }
    (Or.inl rfl) with ⟨m', heq, happended⟩
  rw [heq]
  have htick : w.heap.tick = (w.withMem m').heap.tick := by
    rw [World.withMem_toMem, happended.heap]
    rfl
  apply ieidDiscipline_of_localState hclock hw happended.wellFormed (le_of_eq htick)
  intro oid b hb
  have hb' : m'.localState oid = some b := hb
  rw [happended.localState hw.left rfl oid] at hb'
  by_cases hoid : oid = config.item.oid
  · rw [if_pos hoid] at hb'
    refine Or.inr ⟨?_, ?_⟩
    · rcases hcopied with ⟨s, hs, hcopy, hstate, hlater⟩
      have hle := copied_ieid_le hs hcopy (hstate.symm.trans hb')
      have hlt : s.nextIeid env < (w.withMem m').nextIeid env := by
        apply nextIeid_lt hclock
        rw [← htick]
        exact ieidDiscipline_later hlater
      exact lt_of_le_of_lt hle hlt
    · intro a ha
      rw [hoid] at ha
      rcases hadmits a ha with ⟨hkeeps, hcurrent⟩
      rw [hkeeps.edit_eq] at hcurrent
      have hab : state = some b := hb'
      rw [hcurrent] at hab
      injection hab with hab
      exact Or.inl hab
  · rw [if_neg hoid] at hb'
    exact Or.inl hb'

end

lemma ieidDiscipline_stepRules [EvaCommon V] : StepRules env (ieidDiscipline env) where
  changes := fun _ _ hw h => ieidDiscipline_changes hclock hw h
  createItem := fun _ _ _ hw hieid => ieidDiscipline_createItem hclock hw hieid
  append := fun _ _ _ _ hw hcopied hadmits => ieidDiscipline_append hclock hw hcopied hadmits

end Clock

/-!
## Runs
-/

/--
In every run whose deployments over existing items keep their content, a change of a
local item comes with a greater event id.
-/
theorem localIeids_grow [EvaCommon V] (env : Env V) (hclock : StrictMono env.clock.monotonicNs)
    (calls : List (CoreCall V)) {w : World V} (hwf : w.toMem.WellFormed)
    (hissued : w.LocalIeidsIssued env) {mid last : Sys (World V) (Label V) Lock} {i : Nat}
    (hrun : Sys.Reaches (fun _ => KeepsIeidOrder env) (CoreCall.system env calls w) mid)
    (hadmits : Sys.Admits (fun _ => KeepsIeidOrder env) mid i) (hstep : mid.step i = some last)
    (oid : OID) {a b : ItemState V} (ha : mid.store.localState oid = some a)
    (hb : last.store.localState oid = some b) (hchanged : ¬ a.SameContent b) : a.ieid < b.ieid := by
  have hstart : (CoreCall.system env calls w).Follows (ieidDiscipline env) :=
    CoreCall.system_follows (ieidDiscipline_stepRules hclock)
      (LockRules.of_order fun _ _ => trivial) ⟨hwf, hissued⟩
  have hmid : mid.Follows (ieidDiscipline env) := Sys.Reaches.follows hstart hrun
  rcases (hmid.step hadmits hstep).right with hsame | hmoved
  · rw [hsame, ha] at hb
    injection hb with hb
    rw [hb] at hchanged
    exact absurd ItemState.SameContent.refl hchanged
  · rcases hmoved.right oid a b ha hb with heq | hlt
    · rw [heq] at hchanged
      exact absurd ItemState.SameContent.refl hchanged
    · exact hlt

/-!
A world with one sensor: the node issues an event id and creates the sensor with it.
-/

def sensorOid : OID :=
  { kind := .sensor, fullId := "a" }

def createdSensor : World (Option Int) :=
  World.new.advance.withMem (World.new.advance.toMem.createItem
    (Env.sample (Option Int)).clock sensorOid
    (some (World.new.nextIeid (Env.sample (Option Int)))) none).2

lemma createdSensor_inv : (ieidDiscipline (Env.sample (Option Int))).inv createdSensor := by
  have hempty : (ieidDiscipline (Env.sample (Option Int))).inv World.new.advance := by
    refine ⟨new_wellFormed.advance, ?_⟩
    intro oid st hst
    rcases localState_eq_some_iff.mp hst with ⟨item, hitem, _⟩
    have hindex := new_wellFormed.inv.indexed oid item hitem
    exact absurd hindex Inventory.not_inIndex_new
  refine (ieidDiscipline_createItem strictMono_id hempty ?_).left
  intro i hi
  injection hi with hi
  exact ⟨World.new, hi.symm, .refl⟩

def sensorStart : ItemState (Option Int) where
  status := 1
  value := none
  act := none
  ieid := { bootId := 1, t := 0 }
  t := .fin 1

def isPlainOrApplyRaw : Label (Option Int) -> World (Option Int) -> Bool
  | .plain, _ | .applyRaw _ _ _, _ => true
  | _, _ => false

def rawEventRun : Option (Sys (World (Option Int)) (Label (Option Int)) Lock) :=
  (CoreCall.system (Env.sample (Option Int))
    [.updateStateFromRaw sensorOid { status := 2 } "eva.controller.a"]
    createdSensor).runChecked isPlainOrApplyRaw [0, 0, 0, 0, 0, 0]

lemma keepsIeidOrder_of_isPlainOrApplyRaw (h : isPlainOrApplyRaw label w = true) :
    KeepsIeidOrder env label w := by
  cases label with
  | plain | applyRaw => trivial
  | _ => cases h

theorem localIeids_grow_rawEvent :
    exists mid last a b, rawEventRun = some mid ∧ mid.step 0 = some last ∧
      mid.store.localState sensorOid = some a ∧
      last.store.localState sensorOid = some b ∧ ¬ a.SameContent b ∧ a.ieid < b.ieid := by
  have hpass : forall (_ : Held Lock) (label : Label (Option Int)) (w : World (Option Int)),
      isPlainOrApplyRaw label w = true ->
      KeepsIeidOrder (Env.sample (Option Int)) label w :=
    fun _ _ w h => keepsIeidOrder_of_isPlainOrApplyRaw h
  have hchanged : ¬ sensorStart.SameContent
      { sensorStart with status := 2, ieid := { bootId := 1, t := 2 }, t := .fin 2 } :=
    fun hsame => absurd hsame.left (by decide)
  refine ⟨_, _, _, _, rfl, rfl, rfl, rfl, hchanged, ?_⟩
  exact localIeids_grow (Env.sample (Option Int)) strictMono_id _ createdSensor_inv.left
    createdSensor_inv.right (Sys.Reaches.of_runChecked hpass (show rawEventRun = some _ from rfl))
    (Sys.Admits.of_nextLabel (i := 0) hpass (by decide)) rfl sensorOid rfl rfl hchanged

def redeployRun : Option (Sys (World (Option Int)) (Label (Option Int)) Lock) :=
  (CoreCall.system (Env.sample (Option Int))
    [.deployLocalItems [{ oid := sensorOid, value := some (some 5) }]] createdSensor).run
    [0, 0]

/-- The sensor has another value after the append, under the event id it had before. -/
theorem redeploy_keeps_ieid : exists mid last a b, redeployRun = some mid ∧ mid.step 0 = some last ∧
      mid.store.localState sensorOid = some a ∧
      last.store.localState sensorOid = some b ∧ ¬ a.SameContent b ∧ ¬ a.ieid < b.ieid := by
  refine ⟨_, _, _, _, rfl, rfl, rfl, rfl, ?_, lt_irrefl _⟩
  intro hsame
  exact absurd hsame.right.left (by decide)

end Core
end Eva4
