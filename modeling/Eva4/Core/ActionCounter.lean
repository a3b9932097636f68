import Mathlib.Data.Multiset.Count
import Eva4.Lib.Phases
import Eva4.Core.IeidGrowth
import Eva4.Core.LockOrder
import Eva4.Core.TellSteps

/-!
# The action counter

A launch raises the action counter of a local unit, the completion of the action lowers it again,
on whatever item the inventory has then.  A deployment over a unit starts its counter anew.
-/

namespace Eva4.Core

open Lib Items Prog Mem ItemState Multiset

variable {V : Type}

def World.act (w : World V) (oid : OID) : Nat :=
  ((w.localState oid).bind ItemState.act).getD 0

inductive ActionPhase where
  | idle
  /-- The counter has been raised for the action and not yet lowered. -/
  | counted (oid : OID)
  | settled
deriving DecidableEq, Repr

def ActionPhase.next (_ : Multiset ActionPhase) (phase : ActionPhase) (label : Label V)
    (_ : World V) : ActionPhase :=
  match label with
  | .countLaunch oid => .counted oid
  | .countCompletion _ => .settled
  | _ => phase

/-- A unit is deployed again only with its action counter at zero. -/
def RedeploysIdle (_ : Multiset ActionPhase) (_ : ActionPhase) (label : Label V)
    (w : World V) : Prop :=
  match label with
  | .append config _ => config.oid.kind = .unit -> w.act config.oid = 0
  | _ => True

/-- The counter of every local unit is the number of its actions that are counted. -/
structure CountsActions (phases : Multiset ActionPhase) (w : World V) : Prop where
  wellFormed : w.toMem.WellFormed
  stateful : forall oid item, oid.kind = .unit -> w.inv.getItem oid = some item ->
    item.source = none -> (w.localState oid).isSome
  exact : forall oid, oid.kind = .unit -> w.act oid = phases.count (.counted oid)

/-- The inventory changes only with its lock held exclusively. -/
def counterProtocol (env : Env V) : Protocol (World V) (Label V) Lock ActionPhase where
  next := ActionPhase.next
  inv := CountsActions
  admits := RedeploysIdle
  step := fun held w w' => (.inventory, .exclusive) ∈ held ∨ w'.inv = w.inv
  final := fun phase => (forall n, env.publish n = .ok ()) ->
    forall oid, oid.kind = .unit -> phase ≠ .counted oid

/-!
## Steps
-/

section Steps

variable {env : Env V} {w : World V}

lemma Idle.localState (h : Idle w w') (oid : OID) :
    w'.toMem.localState oid = w.toMem.localState oid :=
  localState_congr (by rw [h.inv]) fun item _ => by rw [h.cells]

lemma CountsActions.idle (h : CountsActions phases w) (hidle : Idle w w') :
    CountsActions phases w' := by
  refine ⟨?_, ?_, ?_⟩
  · have hmem : ({ inv := w.inv, heap := w'.heap } : Mem V).WellFormed :=
      h.wellFormed.of_heap hidle.nextItem.ge
    rw [← hidle.inv] at hmem
    exact hmem
  · intro oid item hkind hitem hlocal
    rw [hidle.inv] at hitem
    rw [hidle.localState]
    exact h.stateful oid item hkind hitem hlocal
  · intro oid hkind
    unfold World.act
    rw [hidle.localState]
    exact h.exact oid hkind

/-- While the inventory lock is held nobody else changes the inventory. -/
theorem later_inv (hheld : (.inventory, .shared) ∈ held)
    (h : (counterProtocol env).Later held w w') : w'.inv = w.inv := by
  induction h with
  | refl => rfl
  | tail _ hstep ih =>
    rcases hstep with ⟨other, hcompatible, hmoves⟩
    rcases hmoves with hexclusive | hinv
    · cases hcompatible _ _ hheld hexclusive rfl
    · exact hinv.trans ih

lemma getItem_later (hheld : (.inventory, .shared) ∈ held) (hitem : w.inv.getItem oid = some item)
    (h : (counterProtocol env).Later held w w') : w'.inv.getItem oid = some item := by
  rw [later_inv hheld h]
  exact hitem

lemma localState_setState (hwf : w.toMem.WellFormed) (hitem : w.inv.getItem oid = some item)
    (hlocal : item.source = none) (st : ItemState V) (o : OID) :
    (w.setState item st).localState o = if o = oid then some st else w.localState o := by
  rw [localState_eq_view, localState_eq_view]
  have hview := hwf.view_setState hitem st o
  unfold World.setState
  rw [hview]
  by_cases heq : o = oid
  · rw [if_pos heq, if_pos heq, view_of_getItem hitem]
    simp [Item.view, hlocal]
  · rw [if_neg heq, if_neg heq]

lemma CountsActions.setState (h : CountsActions phases w)
    (hitem : w.inv.getItem oid = some item) (hlocal : item.source = none)
    (hcount : forall o, o.kind = .unit ->
      (if o = oid then st.act.getD 0 else w.act o) = phases'.count (.counted o)) :
    CountsActions phases' (w.setState item st).advance := by
  have hstate : forall o, (w.setState item st).advance.localState o =
      if o = oid then some st else w.localState o :=
    localState_setState h.wellFormed hitem hlocal st
  refine ⟨h.wellFormed.of_heap le_rfl, ?_, ?_⟩
  · intro o x hkind hx hx'
    rw [hstate o]
    split
    · rfl
    · exact h.stateful o x hkind hx hx'
  · intro o hkind
    rw [← hcount o hkind]
    unfold World.act
    rw [hstate o]
    split
    · rfl
    · rfl

lemma localState_of_stored (hitem : w.inv.getItem oid = some item) (hlocal : item.source = none) :
    w.localState oid = w.state item := by
  unfold localState
  rw [hitem]
  simp only [Option.bind_some, hlocal]
  rfl

lemma World.act_of_stored (hitem : w.inv.getItem oid = some item) (hlocal : item.source = none)
    (hst : w.state item = some st) : w.act oid = st.act.getD 0 := by
  unfold World.act
  rw [localState_of_stored hitem hlocal, hst]
  rfl

lemma CountsActions.launch (h : CountsActions (.idle ::ₘ others) w)
    (hitem : w.inv.getItem oid = some item) (hlocal : item.source = none) :
    CountsActions (.counted oid ::ₘ others) (w.mutateState env item actIncr).2 := by
  have hcount : forall o, o.kind = .unit ->
      w.act o + (if o = oid then 1 else 0) =
        (ActionPhase.counted oid ::ₘ others).count (.counted o) := by
    intro o hkind
    rw [h.exact o hkind, count_cons, count_cons]
    simp [ActionPhase.counted.injEq]
  cases hst : w.state item with
  | none =>
    have hkind : oid.kind ≠ .unit := by
      intro hkind
      have hsome := h.stateful oid item hkind hitem hlocal
      rw [localState_of_stored hitem hlocal, hst] at hsome
      cases hsome
    simp only [World.mutateState, hst]
    refine ⟨h.wellFormed, h.stateful, ?_⟩
    intro o ho
    have hne : o ≠ oid := by
      intro heq
      rw [heq] at ho
      exact hkind ho
    rw [← hcount o ho, if_neg hne]
    rfl
  | some st =>
    simp only [World.mutateState, hst]
    apply h.setState hitem hlocal
    intro o ho
    rw [← hcount o ho]
    by_cases heq : o = oid
    · rw [if_pos heq, if_pos heq, heq, World.act_of_stored hitem hlocal hst]
      unfold actIncr
      cases st.act <;> simp
    · rw [if_neg heq, if_neg heq]
      rfl

/-- An action that is counted has a local unit with a state. -/
theorem CountsActions.stored (h : CountsActions (.counted oid ::ₘ others) w)
    (hkind : oid.kind = .unit) :
    exists item, w.inv.getItem oid = some item ∧ item.source = none := by
  have hpos : 0 < w.act oid := by
    rw [h.exact oid hkind, count_cons_self]
    exact Nat.succ_pos _
  cases hstate : w.toMem.localState oid with
  | none =>
    unfold World.act at hpos
    rw [hstate] at hpos
    cases hpos
  | some st =>
    rcases localState_eq_some_iff.mp hstate with ⟨item, hitem, hlocal, _⟩
    exact ⟨item, hitem, hlocal⟩

lemma CountsActions.complete (h : CountsActions (.counted oid ::ₘ others) w)
    (hkind : oid.kind = .unit) (hitem : w.inv.getItem oid = some item) (hlocal : item.source = none)
    : CountsActions (.settled ::ₘ others) (w.mutateState env item actDecr).2 := by
  rcases Option.isSome_iff_exists.mp (h.stateful oid item hkind hitem hlocal) with ⟨st, hst⟩
  rw [localState_of_stored hitem hlocal] at hst
  have hact := h.exact oid hkind
  rw [World.act_of_stored hitem hlocal hst, count_cons_self] at hact
  simp only [World.mutateState, hst]
  apply h.setState hitem hlocal
  intro o ho
  rcases Classical.em (o = oid) with heq | hne
  · rw [if_pos heq, heq, count_cons_of_ne ActionPhase.noConfusion]
    unfold actDecr
    simp [hact]
  · have hother : ActionPhase.counted o ≠ .counted oid := by
      intro heq
      injection heq with heq
      exact hne heq
    rw [if_neg hne, h.exact o ho, count_cons_of_ne hother, count_cons_of_ne ActionPhase.noConfusion]

/-- A deployment starts the counter of a unit anew. -/
theorem CountsActions.append [EvaCommon V] {m : Mem V} (h : CountsActions phases w)
    (hidle : config.oid.kind = .unit -> w.act config.oid = 0) :
    CountsActions phases (w.withMem (w.toMem.appendNew config.item
      { state := m.configState env.clock env.bootId config,
        enabled := config.enabled } true).2) := by
  rcases h.wellFormed.appendNew config.item
    { state := m.configState env.clock env.bootId config, enabled := config.enabled }
    (Or.inl rfl) with ⟨m', heq, happended⟩
  rw [heq]
  have hstate := happended.localState h.wellFormed rfl
  refine ⟨happended.wellFormed, ?_, ?_⟩
  · intro oid item hkind hitem hlocal
    rw [show (w.withMem m').localState oid = m'.localState oid from rfl, hstate oid]
    split
    · next heq =>
      have hmacro : config.oid.kind ≠ .lMacro := by
        rw [show config.oid = oid from heq.symm, hkind]
        decide
      simp only [configState, if_neg hmacro, Option.isSome_some]
    · next hne =>
      have hget := happended.getItem oid
      rw [if_neg hne] at hget
      exact h.stateful oid item hkind (hget.symm.trans hitem) hlocal
  · intro oid hkind
    rw [← h.exact oid hkind]
    unfold World.act
    rw [show (w.withMem m').localState oid = m'.localState oid from rfl, hstate oid]
    split
    · next heq =>
      have hunit : config.oid.kind = .unit := by
        rw [show config.oid = oid from heq.symm]
        exact hkind
      have hzero := hidle hunit
      rw [show config.oid = oid from heq.symm] at hzero
      refine Eq.trans ?_ hzero.symm
      cases hconfig : m.configState env.clock env.bootId config with
      | none => rfl
      | some st =>
        rw [configState_eq_edit hconfig]
        simp [ItemConfigData.edit, hunit]
    · rfl

end Steps

/-!
## Deployments

A deployment is made of steps that change no item and of appends.
-/

inductive DeployStep [EvaCommon V] (env : Env V) :
    Held Lock -> Label V -> (World V -> World V) -> Prop where
  | idle {held : Held Lock} {update : World V -> World V} :
      (forall w, Idle w (update w)) -> DeployStep env held .plain update
  | save (held : Held Lock) (oid : OID) (record : ItemRecord V) :
      DeployStep env held (.saveConfig oid record)
        fun w => (w.send (.saveConfig oid record)).call
  | saveAll (held : Held Lock) (records : List (OID × ItemRecord V)) :
      DeployStep env held (.saveConfigs records)
        fun w => (w.send (.saveConfigs records)).call
  | copy (held : Held Lock) (config : ItemConfigData V) :
      DeployStep env held (.copyState config) World.advance
  | append {held : Held Lock} (config : ItemConfigData V) (m : Mem V) :
      (.inventory, .exclusive) ∈ held ->
      DeployStep env held (.append config (m.configState env.clock env.bootId config))
        fun w => w.withMem (w.toMem.appendNew config.item
          { state := m.configState env.clock env.bootId config, enabled := config.enabled } true).2

section Deployments

variable [EvaCommon V] {env : Env V}

lemma deployStep_tells : TellRules (DeployStep env) where
  tells := by
    intro held update htells
    apply DeployStep.idle
    intro w
    have hmem := (htells w).toMem
    exact ⟨congrArg inv hmem, congrArg (fun m => m.heap.cells) hmem,
      congrArg (fun m => m.heap.nextItem) hmem,
      ge_of_eq (congrArg (fun m => m.heap.tick) hmem)⟩

lemma uses_appendConfig : (appendConfig env config).Uses (DeployStep env) held := by
  apply Uses.locked
  cases checkItemData config.oid config.logic config.action with
  | error e => exact Uses.ret _
  | ok _ =>
    apply Uses.atomic_bind (.copy _ config)
    intro w
    exact Uses.atomic (.append config w.toMem List.mem_cons_self)

variable (configs : List (ItemConfigData V))

lemma uses_appendConfigs : (appendConfigs env configs).Uses (DeployStep env) held := by
  induction configs with
  | nil => exact Uses.ret _
  | cons c cs ih =>
    apply Uses.tryThen uses_appendConfig
    intro item
    apply Uses.tryThen (deployStep_tells.read _)
    intro config
    exact Uses.tryThen ih fun _ => Uses.ret _

lemma uses_deployToDb : (deployToDb env configs lock).Uses (DeployStep env) held := by
  apply Uses.tryThen (uses_appendConfigs configs)
  intro saved
  apply Uses.tryThen (Uses.atomic (.saveAll held saved))
  intro _
  apply Uses.map
  exact Uses.each (deployStep_tells.announceDeployed lock)

lemma uses_deployToRegistry (lock : Bool) (config : ItemConfigData V) :
    (deployToRegistry env lock config).Uses (DeployStep env) held := by
  apply Uses.tryThen uses_appendConfig
  intro item
  apply Uses.tryThen (deployStep_tells.read _)
  intro record
  apply Uses.tryThen (Uses.atomic (.save held item.oid record))
  intro _
  apply Uses.bind (deployStep_tells.read _)
  intro st
  apply Uses.map
  exact Uses.when (TellRules.withStateProcessor fun _ => deployStep_tells.announceItem item)

lemma uses_deployLocalItems : (deployLocalItems env configs lock).Uses (DeployStep env) held := by
  apply Uses.ite
  · intro _
    exact uses_deployToDb configs
  · intro _
    exact Uses.tryEach (uses_deployToRegistry lock)

end Deployments

section Calls

variable [EvaCommon V] {env : Env V}

lemma deployStep_keeps {phase : ActionPhase} (h : DeployStep env held label update)
    (hinv : CountsActions (phase ::ₘ others) w) (hadmits : RedeploysIdle others phase label w) :
    (CountsActions (ActionPhase.next others phase label w ::ₘ others) (update w) ∧
        (counterProtocol env).step held w (update w)) ∧
      ActionPhase.next others phase label w = phase := by
  cases h with
  | idle hidle => exact ⟨⟨hinv.idle (hidle w), Or.inr (hidle w).inv⟩, rfl⟩
  | save | saveAll => exact ⟨⟨hinv.idle ⟨rfl, rfl, rfl, le_rfl⟩, Or.inr rfl⟩, rfl⟩
  | copy config => exact ⟨⟨hinv.idle ⟨rfl, rfl, rfl, Nat.le_succ _⟩, Or.inr rfl⟩, rfl⟩
  | append config m hheld => exact ⟨⟨hinv.append hadmits, Or.inl hheld⟩, rfl⟩

lemma runs_deployLocalItems :
    (deployLocalItems env configs lock).Runs (counterProtocol env)
      (fun phase' _ _ => phase' = .idle) [] .idle seen := by
  refine Runs.of_uses ?_ (uses_deployLocalItems configs) rfl
  intro held phase others label update w hstep hphase hinv hadmits
  have hkeeps := deployStep_keeps hstep hinv hadmits
  exact ⟨hkeeps.left, hkeeps.right.trans hphase⟩

/-- What a launch leaves: an action is counted if it is local and was announced. -/
def LaunchEnds (env : Env V) (oid : OID) (phase : ActionPhase) (r : EResult (Action V))
    (_ : World V) : Prop :=
  match r with
  | .ok a => phase = if a.node.isNone then .counted oid else .idle
  | .error _ => (forall n, env.publish n = .ok ()) -> phase = .idle

def launchHeld : Held Lock :=
  [(.inventory, .shared)]

section

omit [EvaCommon V]

lemma runs_countLaunch (hitem : seen.inv.getItem oid = some item) (hlocal : item.source = none) :
    (countLaunch env item).Runs (counterProtocol env)
      (fun phase r _ => match r with
        | .ok _ => phase = .counted oid
        | .error _ => ¬ forall n, env.publish n = .ok ()) launchHeld .idle seen := by
  apply Runs.locked (fun _ _ _ _ h => h)
  intro s hs
  apply Runs.atomic_bind
  intro others w hinv hw _
  have hstored : w.inv.getItem oid = some item :=
    getItem_later (List.mem_cons_of_mem _ List.mem_cons_self)
      (getItem_later List.mem_cons_self hitem hs) hw
  have hoid : item.oid = oid := hinv.wellFormed.inv.getItem_oid hstored
  have hnext : (counterProtocol env).next others .idle (.countLaunch item.oid) w =
      .counted oid := congrArg ActionPhase.counted hoid
  rw [hnext]
  refine ⟨⟨hinv.launch hstored hlocal, Or.inr ?_⟩, ?_⟩
  · unfold World.mutateState
    cases w.state item <;> rfl
  · cases (w.mutateState env item actIncr).1 with
    | none => exact Runs.ret rfl
    | some st =>
      apply Runs.atomic
      intro others w hinv _ _
      refine ⟨⟨hinv.idle ⟨rfl, rfl, rfl, le_rfl⟩, Or.inr rfl⟩, ?_⟩
      cases hresult : env.publish w.sent.length with
      | ok u => rfl
      | error e =>
        intro hpublish
        rw [hpublish] at hresult
        cases hresult

lemma runs_createAction (hitem : seen.inv.getItem oid = some item) :
    (createAction env oid item params).Runs (counterProtocol env) (LaunchEnds env oid)
      launchHeld .idle seen := by
  unfold createAction
  cases hsource : item.source with
  | some source => exact Runs.ret rfl
  | none =>
    cases item.action with
    | none => exact Runs.ret fun _ => rfl
    | some config =>
      apply Runs.tryThen (runs_countLaunch hitem hsource)
      · intro phase _ w hphase
        rw [hphase]
        exact Runs.ret rfl
      · intro phase e w hfailed hpublish
        exact absurd hpublish hfailed

end

theorem runs_actionParams (hitem : seen.inv.getItem oid = some item) :
    (actionParams oid item params).Runs (counterProtocol env)
      (fun phase _ w => phase = .idle ∧ w.inv.getItem oid = some item) launchHeld .idle seen := by
  cases params with
  | some p => exact Runs.ret ⟨rfl, hitem⟩
  | none =>
    intro others w hinv hw _
    exact ⟨⟨hinv, Or.inr rfl⟩, rfl, rfl, getItem_later List.mem_cons_self hitem hw⟩

lemma runs_launchAction :
    (launchAction env oid params).Runs (counterProtocol env) (LaunchEnds env oid) [] .idle
      seen := by
  have hcheck : (ret (checkActionParams oid params) : CoreM V (EResult Unit)).Runs
      (counterProtocol env) (fun phase _ _ => phase = .idle) [] .idle seen :=
    Runs.ret rfl
  apply Runs.tryThen hcheck
  · intro phase _ w hphase
    rw [hphase]
    apply Runs.locked (fun _ _ _ _ h => h)
    intro _ _
    apply Runs.read_bind
    intro others w hinv _ _
    refine ⟨⟨hinv, Or.inr rfl⟩, ?_⟩
    cases hitem : w.inv.getItem oid with
    | none => exact Runs.ret fun _ => rfl
    | some item =>
      apply Runs.read_bind
      intro others w' hinv' hw' _
      refine ⟨⟨hinv', Or.inr rfl⟩, ?_⟩
      have hitem' := getItem_later List.mem_cons_self hitem hw'
      apply Runs.ite
      · intro _
        exact Runs.ret fun _ => rfl
      · intro _
        apply Runs.tryThen (runs_actionParams hitem')
        · intro phase p w₁ h₁
          rw [h₁.left]
          exact runs_createAction h₁.right
        · intro phase e w₁ h₁ _
          exact h₁.left
  · intro phase e w hphase _
    exact hphase

section

omit [EvaCommon V]

lemma runs_countCompletion (hkind : oid.kind = .unit) (hitem : seen.inv.getItem oid = some item)
    (hlocal : item.source = none) : (countCompletion env item).Runs (counterProtocol env)
      (fun phase _ _ => phase = .settled) launchHeld (.counted oid) seen := by
  apply Runs.locked (fun _ _ _ _ h => h)
  intro s hs
  apply Runs.atomic_bind
  intro others w hinv hw _
  have hstored : w.inv.getItem oid = some item :=
    getItem_later (List.mem_cons_of_mem _ List.mem_cons_self)
      (getItem_later List.mem_cons_self hitem hs) hw
  refine ⟨⟨hinv.complete hkind hstored hlocal, Or.inr ?_⟩, ?_⟩
  · unfold World.mutateState
    cases w.state item <;> rfl
  · cases (w.mutateState env item actDecr).1 with
    | none => exact Runs.ret rfl
    | some st =>
      apply Runs.atomic_bind
      intro others w hinv _ _
      exact ⟨⟨hinv.idle ⟨rfl, rfl, rfl, le_rfl⟩, Or.inr rfl⟩, Runs.ret rfl⟩

/-- A unit whose action is counted is there to be completed. -/
theorem runs_completeAction :
    (completeAction env oid : CoreM V Unit).Runs (counterProtocol env)
      (fun phase _ _ => forall o, o.kind = .unit -> phase ≠ .counted o) [] (.counted oid) seen := by
  refine Runs.ite ?_ ?_
  · intro hunit
    have hkind : oid.kind = .unit := of_decide_eq_true hunit
    refine Runs.locked (fun _ _ _ _ h => h) ?_
    intro _ _
    refine Runs.read_bind ?_
    intro others w hinv _ _
    refine ⟨⟨hinv, Or.inr rfl⟩, ?_⟩
    rcases hinv.stored hkind with ⟨item, hitem, hlocal⟩
    rw [hitem]
    refine Runs.ite ?_ ?_
    · intro _
      apply Obeys.mono _ (runs_countCompletion hkind hitem hlocal)
      intro held phase r w hend
      refine ⟨hend.left, ?_⟩
      rw [hend.right]
      exact fun _ _ => ActionPhase.noConfusion
    · intro hremote
      rw [hlocal] at hremote
      exact absurd rfl hremote
  · intro hother
    refine Runs.ret fun o ho hsame => ?_
    cases hsame
    exact absurd (decide_eq_true ho) hother

end

lemma runs_action :
    (action env oid params).Runs (counterProtocol env)
      (fun phase _ _ => (counterProtocol env).final phase) [] .idle seen := by
  apply Runs.tryThen runs_launchAction
  · intro phase a w hlaunched
    have hphase : phase = if a.node.isNone then .counted oid else .idle := hlaunched
    rw [hphase]
    have hcomplete : (when a.node.isNone (completeAction env oid)).Runs (counterProtocol env)
        (fun phase _ _ => forall o, o.kind = .unit -> phase ≠ .counted o) []
        (if a.node.isNone then .counted oid else .idle) w := by
      apply Runs.ite
      · intro hlocal
        rw [if_pos hlocal]
        exact runs_completeAction
      · intro hremote
        rw [if_neg hremote]
        exact Runs.ret fun _ _ => ActionPhase.noConfusion
    apply Runs.bind hcomplete
    intro phase' _ w' hend
    exact Runs.ret fun _ => hend
  · intro phase e w hfailed hpublish
    rw [hfailed hpublish]
    exact fun _ _ => ActionPhase.noConfusion

end Calls

/-!
## Runs
-/

inductive UnitCall (V : Type) where
  | action (oid : OID) (params : Option (ActionParams V))
  | deployLocalItems (configs : List (ItemConfigData V)) (lock : Bool)

namespace UnitCall

variable [EvaCommon V]

def prog (env : Env V) : UnitCall V -> CoreM V Unit
  | action oid params => (Core.action env oid params).bind fun _ => .ret ()
  | deployLocalItems configs lock => (Core.deployLocalItems env configs lock).bind fun _ => .ret ()

def system (env : Env V) (calls : List (UnitCall V)) (w : World V) :
    Watch (World V) (Label V) Lock ActionPhase where
  sys := { store := w, tasks := calls.map fun call => Task.start (call.prog env) }
  phases := calls.map fun _ => .idle

lemma runs (call : UnitCall V) :
    (call.prog env).Runs (counterProtocol env)
      (fun phase _ _ => (counterProtocol env).final phase) [] .idle seen := by
  cases call with
  | action oid params =>
    exact Runs.map runs_action
  | deployLocalItems configs lock =>
    apply Runs.bind runs_deployLocalItems
    intro phase r w hphase
    rw [hphase]
    exact Runs.ret fun _ _ _ => ActionPhase.noConfusion

end UnitCall

/--
In every run in which units are deployed again only with their action counter at zero: the
counter of a unit is the number of its actions that are counted, and if all announcements
succeed it is zero as soon as every action that was counted has ended.
-/
theorem action_counter_exact [EvaCommon V] (env : Env V) (calls : List (UnitCall V))
    {w : World V} (hwf : w.toMem.WellFormed)
    (hstateful : forall oid item, oid.kind = .unit -> w.inv.getItem oid = some item ->
      item.source = none -> (w.localState oid).isSome)
    (hzero : forall oid, oid.kind = .unit -> w.act oid = 0)
    {last : Watch (World V) (Label V) Lock ActionPhase}
    (hrun : Watch.Reaches ActionPhase.next RedeploysIdle (UnitCall.system env calls w) last)
    {oid : OID} (hkind : oid.kind = .unit) :
    last.sys.store.act oid = last.phases.count (.counted oid) ∧
      ((forall n, env.publish n = .ok ()) ->
        (forall i, last.phases[i]? = some (.counted oid) -> last.ended i = true) ->
          last.sys.store.act oid = 0) := by
  have hstart : (UnitCall.system env calls w).Follows (counterProtocol env) := by
    refine Watch.follows_start ⟨hwf, hstateful, ?_⟩ fun call _ => call.runs
    intro o ho
    rw [hzero o ho, eq_comm, count_eq_zero]
    intro hmem
    rcases List.mem_map.mp (mem_coe.mp hmem) with ⟨_, _, heq⟩
    cases heq
  have hlast : last.Follows (counterProtocol env) := Watch.Reaches.follows hstart hrun
  have hcount : last.sys.store.act oid = last.phases.count (.counted oid) := by
    rw [hlast.inv.exact oid hkind, coe_count]
  refine ⟨hcount, ?_⟩
  intro hpublish hended
  rw [hcount, List.count_eq_zero]
  intro hmem
  rcases List.mem_iff_getElem?.mp hmem with ⟨i, hi⟩
  exact hlast.final (hended i hi) hi hpublish oid hkind rfl

def pumpOid : OID :=
  { kind := .unit, fullId := "pump" }

lemma new_countsActions : CountsActions 0 (World.new : World V) where
  wellFormed := new_wellFormed
  stateful := by
    intro oid item _ hitem
    rw [show (World.new : World V).inv.getItem oid = none from ItemMap.empty_get oid] at hitem
    cases hitem
  exact := by
    intro oid _
    rw [World.act, localState,
      show (World.new : World V).inv.getItem oid = none from ItemMap.empty_get oid]
    rfl

def pumpConfig : ItemConfigData (Option Int) where
  oid := pumpOid
  action := some { svc := "eva.controller.a", timeout := none, config := none }

lemma pumpWorld_countsActions : CountsActions 0 pumpWorld := by
  have hnew : CountsActions 0 (World.new : World (Option Int)).advance :=
    new_countsActions.idle ⟨rfl, rfl, rfl, Nat.le_succ _⟩
  show CountsActions 0 ((World.new : World (Option Int)).advance.withMem
    ((World.new : World (Option Int)).advance.toMem.appendNew pumpConfig.item
      { state := (new : Mem (Option Int)).configState
          (Env.autoCreating (Option Int)).clock (Env.autoCreating (Option Int)).bootId
          pumpConfig,
        enabled := pumpConfig.enabled } true).2)
  exact hnew.append fun _ => rfl

def checkRedeploys (w : Watch (World (Option Int)) (Label (Option Int)) Lock ActionPhase)
    (i : Nat) : Bool :=
  (w.sys.nextLabel i).all fun label =>
    match label with
    | .append config _ => config.oid.kind ≠ .unit || w.sys.store.act config.oid = 0
    | _ => true

lemma admits_of_checkRedeploys
    (w : Watch (World (Option Int)) (Label (Option Int)) Lock ActionPhase) (i : Nat)
    (h : checkRedeploys w i = true) : w.Admits RedeploysIdle i := by
  intro label phase hlabel _
  rw [checkRedeploys, hlabel] at h
  cases label with
  | append config state =>
    intro hkind
    simpa [hkind] using h
  | _ => trivial

def pumpSystem : Watch (World (Option Int)) (Label (Option Int)) Lock ActionPhase :=
  UnitCall.system (Env.autoCreating (Option Int))
    [.action pumpOid (some (.unit (some 1))), .deployLocalItems [pumpConfig] false] pumpWorld

/-- The unit is deployed again, then its action is launched. -/
theorem action_counter_exact_launched :
    exists last, pumpSystem.runChecked ActionPhase.next checkRedeploys
        [1, 1, 1, 1, 0, 0, 0, 0, 0] = some last ∧
      last.phases.count (.counted pumpOid) = 1 ∧ last.sys.store.act pumpOid = 1 := by
  apply exists_of_any (p := fun last => decide (last.phases.count (.counted pumpOid) = 1))
    (by decide)
  intro last hlast hcount
  have hexact := action_counter_exact (Env.autoCreating (Option Int)) _
    pumpWorld_countsActions.wellFormed pumpWorld_countsActions.stateful
    (fun oid hkind => (pumpWorld_countsActions.exact oid hkind).trans rfl)
    (.of_runChecked admits_of_checkRedeploys hlast) (show pumpOid.kind = .unit from rfl)
  have hone : last.phases.count (.counted pumpOid) = 1 := of_decide_eq_true hcount
  exact ⟨hone, hexact.left.trans hone⟩

/-- The unit is deployed again while its action is counted. -/
theorem redeployed_unit_forgets_action :
    exists last, pumpSystem.runChecked ActionPhase.next (fun _ _ => true)
        [0, 0, 0, 0, 0, 0, 0, 0, 1, 1, 1] = some last ∧
      last.phases.count (.counted pumpOid) = 1 ∧ last.sys.store.act pumpOid = 0 :=
  ⟨_, rfl, rfl, rfl⟩

end Eva4.Core
