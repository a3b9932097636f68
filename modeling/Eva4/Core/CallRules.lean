import Eva4.Lib.Interleaving
import Eva4.Core.Actions

/-!
# Calls of the core under a discipline

A discipline that allows the steps the calls are made of, and the locks they ask for,
is followed by every call.  The programs are walked through once, for any discipline;
what is proved about runs of interleaved calls only says what its own discipline allows.
-/

namespace Eva4.Core

open Lib Items Prog World

variable {V : Type}

structure Idle (w w' : World V) : Prop where
  inv : w'.inv = w.inv
  cells : w'.heap.cells = w.heap.cells
  nextItem : w'.heap.nextItem = w.heap.nextItem
  tick : w.heap.tick ≤ w'.heap.tick

/-- A step that changes the state of one item at most, under a new event id. -/
inductive Changes (env : Env V) (w : World V) : World V -> Prop where
  | idle {w' : World V} : Idle w w' -> Changes env w w'
  | setState {item : Item V} {st st' : ItemState V} : w.state item = some st ->
      st' = st ∨ st'.ieid = w.heap.ieid env.clock env.bootId ->
      Changes env w (w.setState item st').advance

variable [EvaCommon V]

def Issued (env : Env V) (d : Discipline (World V) (Label V) Lock) (ieid : IEID)
    (w : World V) : Prop :=
  exists s : World V, ieid = s.heap.ieid env.clock env.bootId ∧ d.Later s.advance w

def Copied (env : Env V) (d : Discipline (World V) (Label V) Lock) (held : Held Lock)
    (config : ItemConfigData V) (state : Option (ItemState V)) (w : World V) : Prop :=
  exists s : World V, d.inv s ∧ d.admits held (.copyState config) s ∧
    state = s.toMem.configState env.clock env.bootId config ∧ d.Later s.advance w

def Finds (inv : Inventory V) (item : Item V) : Prop :=
  (exists oid, inv.getItem oid = some item) ∨
    exists mask filter includeStateless, item ∈ inv.getItemsByMask mask filter includeStateless

def Found (d : Discipline (World V) (Label V) Lock) (item : Item V) (w : World V) : Prop :=
  exists s : World V, d.inv s ∧ Finds s.inv item ∧ d.Later s w

lemma Found.later {w' : World V} (h : Found d item w) (hlater : d.Later w w') :
    Found d item w' := by
  rcases h with ⟨s, hs, hfinds, hbefore⟩
  exact ⟨s, hs, hfinds, hbefore.trans hlater⟩

structure RawRules (env : Env V) (d : Discipline (World V) (Label V) Lock) : Prop where
  idle : forall w w', d.inv w -> Idle w w' -> d.inv w' ∧ d.step w w'
  applyRaw : forall held w item raw lock, d.inv w -> Found d item w ->
    d.admits held (.applyRaw item raw lock) w ->
    d.inv (w.applyRaw env item raw).2 ∧ d.step w (w.applyRaw env item raw).2
  append : forall held w config state, d.inv w ->
    checkItemData config.oid config.logic config.action = .ok () ->
    Copied env d held config state w -> d.admits held (.append config state) w ->
    d.inv (w.withMem (w.toMem.appendNew config.item
        { state := state, enabled := config.enabled } true).2) ∧
      d.step w (w.withMem (w.toMem.appendNew config.item
        { state := state, enabled := config.enabled } true).2)

/-- The steps of all calls are steps of the discipline, whichever item they change. -/
structure StepRules (env : Env V) (d : Discipline (World V) (Label V) Lock) : Prop where
  changes : forall w w', d.inv w -> Changes env w w' -> d.inv w' ∧ d.step w w'
  createItem : forall w oid ieid, d.inv w ->
    (forall i, ieid = some i -> Issued env d i w) ->
    d.inv (w.withMem (w.toMem.createItem env.clock oid ieid none).2) ∧
      d.step w (w.withMem (w.toMem.createItem env.clock oid ieid none).2)
  append : forall held w config state, d.inv w -> Copied env d held config state w ->
    d.admits held (.append config state) w ->
    d.inv (w.withMem (w.toMem.appendNew config.item
        { state := state, enabled := config.enabled } true).2) ∧
      d.step w (w.withMem (w.toMem.appendNew config.item
        { state := state, enabled := config.enabled } true).2)

def MayDeploy (d : Discipline (World V) (Label V) Lock) (held : Held Lock) (lock : Bool) : Prop :=
  d.order held .inventory ∧
    (lock = true -> d.order held .stateProcessor ∧
      d.order ((.inventory, .shared) :: held) .stateProcessor)

/-- A negative delta that sets nothing. -/
def deltaSkipped (clause : SetOtherValueDelta) (delta : F64) : Bool :=
  F64.lt delta F64.zero && decide (clause.onNegative = .skip)

def CreatesTarget (env : Env V) (w : World V) (clause : SetOtherValueDelta)
    (delta : F64) (t : Option F64) (sender : String) : Prop :=
  w.inv.getItem clause.oid = none ∧ env.autoCreate.allowed sender = true ∧
    deltaSkipped clause delta = false ∧ timeIsZero t = false

/-- The locks of the follow-up of an event, asked for only if there is one. -/
def MayFollowUp (env : Env V) (d : Discipline (World V) (Label V) Lock)
    (held : Held Lock) (clause : OnModified V) (o : RawOutcome V) (t : Option F64)
    (sender : String) : Prop :=
  match clause with
  | .setOther c => o.modified = true -> c.oid ≠ [] -> d.order held .inventory
  | .setOtherValueDelta c =>
    forall delta, o.delta = some delta ->
      d.order held .inventory ∧
        forall w, d.admits ((.inventory, .shared) :: held) (.deltaLookup c delta t sender) w ->
          CreatesTarget env w c delta t sender -> MayDeploy d held true

def bulkHeld : Held Lock :=
  [(.stateProcessor, .exclusive)]

structure LockRules (env : Env V) (d : Discipline (World V) (Label V) Lock) : Prop where
  inventory : d.order [] .inventory
  stateProcessor : d.order [] .stateProcessor
  nested : d.order [(.inventory, .shared)] .stateProcessor
  bulkCreate : forall w raw sender,
    d.admits [(.inventory, .shared)] (.bulkLookup raw sender) w ->
    bulkToCreate env w.inv raw sender ≠ [] -> d.order bulkHeld .inventory
  bulkFollowUp : forall w item raw clause o sender,
    d.admits bulkHeld (.applyRaw item raw false) w -> raw.onModified = some clause ->
    (w.applyRaw env item raw).1 = some o ->
    MayFollowUp env d bulkHeld clause o raw.t sender

/-!
## Steps that change the state of an item
-/

lemma World.applyRaw_changes (w : World V) : Changes env w (w.applyRaw env item raw).2 := by
  cases hst : w.state item with
  | none =>
    simp only [applyRaw, hst]
    exact .idle ⟨rfl, rfl, rfl, le_rfl⟩
  | some st =>
    cases hignored : rawIgnored item raw st with
    | true =>
      simp only [applyRaw, hst, hignored, if_true]
      exact .idle ⟨rfl, rfl, rfl, le_rfl⟩
    | false =>
      simp only [applyRaw, hst, hignored, Bool.false_eq_true, if_false]
      exact .setState hst (st.setFromRaw_cases raw item.logic _ _)

omit [EvaCommon V] in
lemma World.mutateState_changes (hf : forall st ieid now, (f st ieid now).ieid = ieid) (w : World V)
    :
    Changes env w (w.mutateState env item f).2 := by
  cases hst : w.state item with
  | none =>
    simp only [mutateState, hst]
    exact .idle ⟨rfl, rfl, rfl, le_rfl⟩
  | some st =>
    simp only [mutateState, hst]
    exact .setState hst (Or.inr (hf st _ _))

lemma lvarNext_ieid {r : ItemState V × Option V} (h : lvarNext op st ieid now = .ok r) :
    r.1.ieid = ieid := by
  cases op with
  | set status value | reset | clear | toggle =>
    cases h
    rfl
  | increment | decrement =>
    simp only [lvarNext] at h
    split at h
    · cases h
    · cases h
      rfl

lemma World.applyLvarOp_changes (w : World V) : Changes env w (w.applyLvarOp env item op).2 := by
  cases hst : w.state item with
  | none =>
    simp only [applyLvarOp, hst]
    exact .idle ⟨rfl, rfl, rfl, le_rfl⟩
  | some st =>
    cases hnext : lvarNext op st (w.heap.ieid env.clock env.bootId) (w.heap.now env.clock) with
    | error e =>
      simp only [applyLvarOp, hst, hnext]
      exact .idle ⟨rfl, rfl, rfl, Nat.le_succ _⟩
    | ok r =>
      simp only [applyLvarOp, hst, hnext]
      exact .setState hst (Or.inr (lvarNext_ieid hnext))

/-!
## Steps that change no item
-/

namespace RawRules

/-- The locks held while a program runs that takes the state processor lock if asked to. -/
def heldWith (lock : Bool) (held : Held Lock) : Held Lock :=
  if lock then (.stateProcessor, .exclusive) :: held else held

omit [EvaCommon V] in
lemma withStateProcessor (horder : lock = true -> d.order held .stateProcessor)
    (hp : p.Yields d P (heldWith lock held) seen) :
    (withStateProcessor lock p).Yields d P held seen := by
  cases lock with
  | true => exact Yields.locked (horder rfl) hp
  | false => exact hp

lemma applyDelta_some {raw : RawStateEvent V} (h : applyDelta clause delta force t = some raw) :
    deltaSkipped clause delta = false ∧ raw.t = t := by
  unfold applyDelta at h
  unfold deltaSkipped
  cases hneg : F64.lt delta F64.zero with
  | false =>
    rw [hneg] at h
    injection h with h
    exact ⟨rfl, by rw [← h]; rfl⟩
  | true =>
    rw [hneg] at h
    cases honNegative : clause.onNegative with
    | skip => simp [honNegative] at h
    | reset | process | overflow =>
      simp only [honNegative, if_true, Option.some.injEq] at h
      exact ⟨by simp, by rw [← h]; rfl⟩

section

variable {held : Held Lock} {seen : World V} {env : Env V}
  {d : Discipline (World V) (Label V) Lock} (h : RawRules env d)
include h

lemma refl (w : World V) (hw : d.inv w) : d.step w w :=
  (h.idle w w hw ⟨rfl, rfl, rfl, le_rfl⟩).right

lemma announceLocalState : (announceLocalState env oid st).Keeps d held seen :=
  Keeps.atomic fun w hw => h.idle w _ hw ⟨rfl, rfl, rfl, le_rfl⟩

lemma saveItemConfig : (saveItemConfig env oid config).Keeps d held seen :=
  Keeps.atomic fun w hw => h.idle w _ hw ⟨rfl, rfl, rfl, le_rfl⟩

lemma saveItemsBulk : (saveItemsBulk env configs).Keeps d held seen :=
  Keeps.atomic fun w hw => h.idle w _ hw ⟨rfl, rfl, rfl, le_rfl⟩

lemma readConfig : (readConfig item).Keeps d held seen :=
  Yields.read h.refl fun _ _ _ _ => trivial

lemma processNewState : (processNewState env oid st db).Keeps d held seen := by
  apply Keeps.bind h.announceLocalState
  intro _ s _
  cases db with
  | some db =>
    refine Yields.ite ?_ fun _ => Keeps.ret ()
    intro _
    exact Keeps.modify fun w hw => h.idle w _ hw ⟨rfl, rfl, rfl, le_rfl⟩
  | none => exact Keeps.modify fun w hw => h.idle w _ hw ⟨rfl, rfl, rfl, le_rfl⟩

lemma announceItem : (announceItem env item).Keeps d held seen := by
  apply Yields.read_bind h.refl
  intro w _ _ _
  cases w.state item with
  | none => exact Keeps.ret ()
  | some st => exact h.processNewState

lemma announceAndPush : (announceAndPush env item).Keeps d held seen := by
  apply Yields.read_bind h.refl
  intro w _ _ _
  cases w.state item with
  | none => exact Keeps.ret ()
  | some st =>
    apply Keeps.bind h.processNewState
    intro _ s _
    cases dbState env item.oid st with
    | none => exact Keeps.ret ()
    | some db => exact Keeps.modify fun w hw => h.idle w _ hw ⟨rfl, rfl, rfl, le_rfl⟩

/-!
## Deployment
-/

lemma appendConfig (horder : d.order held .inventory) :
    (appendConfig env config).Keeps d held seen := by
  apply Yields.locked horder
  cases hcheck : checkItemData config.oid config.logic config.action with
  | error e => exact Keeps.ret _
  | ok u =>
    apply Yields.atomic_bind
    intro s hs _ hcopy
    refine ⟨h.idle s _ hs ⟨rfl, rfl, rfl, Nat.le_succ _⟩, ?_⟩
    apply Yields.atomic
    intro w hw hlater happend
    exact ⟨h.append _ w config _ hw hcheck ⟨s, hs, hcopy, rfl, hlater⟩ happend, trivial⟩

lemma appendConfigs (horder : d.order held .inventory) :
    (appendConfigs env configs).Keeps d held seen := by
  induction configs generalizing seen with
  | nil => exact Keeps.ret _
  | cons c cs ih =>
    apply Keeps.tryThen (h.appendConfig horder)
    intro item s _
    apply Keeps.tryThen h.readConfig
    intro config s _
    exact Keeps.tryThen ih fun _ _ _ => Keeps.ret _

section

variable (hlocks : MayDeploy d held lock)
include hlocks

lemma announceDeployed : (announceDeployed env lock oid).Keeps d held seen := by
  apply Yields.locked hlocks.left
  apply Yields.read_bind h.refl
  intro w _ _ _
  cases w.inv.getItem oid with
  | none => exact Keeps.ret ()
  | some item =>
    apply Yields.read_bind h.refl
    intro w _ _ _
    apply Keeps.when
    intro _
    exact withStateProcessor (fun hlock => (hlocks.right hlock).right) h.announceAndPush

lemma deployToDb : (deployToDb env configs lock).Keeps d held seen := by
  apply Keeps.tryThen (h.appendConfigs hlocks.left)
  intro saved s _
  apply Keeps.tryThen h.saveItemsBulk
  intro _ s _
  apply Keeps.map
  exact Keeps.each fun oid _ s _ => h.announceDeployed hlocks

lemma deployToRegistry : (deployToRegistry env lock config).Keeps d held seen := by
  apply Keeps.tryThen (h.appendConfig hlocks.left)
  intro item s _
  apply Keeps.tryThen h.readConfig
  intro record s _
  apply Keeps.tryThen h.saveItemConfig
  intro _ s _
  apply Yields.read_bind h.refl
  intro w _ _ _
  apply Keeps.map
  apply Keeps.when
  intro _
  exact withStateProcessor (fun hlock => (hlocks.right hlock).left) h.announceItem

lemma deployLocalItems : (deployLocalItems env configs lock).Keeps d held seen := by
  apply Yields.ite
  · intro _
    exact h.deployToDb hlocks
  · intro _
    exact Keeps.tryEach fun config _ s => h.deployToRegistry hlocks

end

/-!
## Raw events
-/

theorem applyAndAnnounce (hitem : Found d item seen) : (applyAndAnnounce env item raw lock).Yields d
      (fun outcome _ => forall o, outcome = some o ->
        exists w : World V, d.admits held (.applyRaw item raw lock) w ∧
          (w.applyRaw env item raw).1 = some o) held seen := by
  apply Yields.atomic_bind
  intro w hw hlater hadmits
  refine ⟨h.applyRaw held w item raw lock hw (hitem.later hlater) hadmits, ?_⟩
  cases houtcome : (w.applyRaw env item raw).1 with
  | none =>
    apply Yields.ret
    intro o ho
    cases ho
  | some outcome =>
    apply Keeps.bind h.processNewState
    intro _ s _
    apply Yields.ret
    intro o ho
    rw [← ho]
    exact ⟨w, hadmits, houtcome⟩

lemma processRawStateWith
    (horder : lock = true -> d.order held .stateProcessor) (hitem : Found d item seen)
    (hfollow : forall w clause o s, d.admits (heldWith lock held) (.applyRaw item raw lock) w ->
      raw.onModified = some clause -> (w.applyRaw env item raw).1 = some o ->
      (followUp clause o).Keeps d held s) :
    (processRawStateWith followUp env item raw lock).Keeps d held seen := by
  apply Yields.ite (fun _ => Keeps.ret _)
  intro _
  apply Yields.read_bind h.refl
  intro w _ hw _
  apply Yields.ite (fun _ => Keeps.ret _)
  intro _
  apply Yields.read_bind h.refl
  intro w' _ hw' _
  apply Yields.ite (fun _ => Keeps.ret _)
  intro _
  have hfound : Found d item w' := hitem.later (hw.trans hw')
  apply Yields.bind (withStateProcessor horder (h.applyAndAnnounce hfound))
  intro outcome s _ houtcome
  cases hclause : raw.onModified with
  | none => exact Keeps.ret _
  | some clause =>
    cases outcome with
    | none => exact Keeps.ret _
    | some o =>
      rcases houtcome o rfl with ⟨w, hadmits, ho⟩
      exact hfollow w clause o s hadmits hclause ho

lemma processRawStatePlain (hitem : Found d item seen) :
    (processRawStatePlain env item raw false).Keeps d held seen := by
  refine Keeps.map (h.processRawStateWith ?_ hitem ?_)
  · intro hlock
    cases hlock
  · intro w clause o s _ _ _
    exact Keeps.ret _

lemma autoCreateItemFromRaw (hlocks : timeIsZero raw.t = false -> MayDeploy d held true) :
    (autoCreateItemFromRaw env oid raw sender).Keeps d held seen := by
  apply Keeps.when
  intro htime
  refine Keeps.map (h.deployLocalItems (hlocks ?_))
  simpa using htime

/-!
## Follow-ups
-/

section

variable (horder : d.order held .inventory)
include horder

lemma setOtherByMask : (setOtherByMask env raw mask).Keeps d held seen := by
  apply Yields.locked horder
  apply Yields.read_bind h.refl
  intro w hw _ _
  apply Keeps.each
  intro item hitem s hs
  exact h.processRawStatePlain ⟨w, hw, Or.inr ⟨_, _, _, hitem⟩, hs⟩

theorem setDeltaTarget : (setDeltaTarget env clause delta force t sender).Yields d
      (fun found _ => found = false -> exists w : World V,
        d.admits ((.inventory, .shared) :: held) (.deltaLookup clause delta t sender) w ∧
          w.inv.getItem clause.oid = none) held seen := by
  apply Yields.locked horder
  apply Yields.read_bind h.refl
  intro w hw _ hadmits
  cases hitem : w.inv.getItem clause.oid with
  | none => exact Yields.ret fun _ => ⟨w, hadmits, hitem⟩
  | some item =>
    apply Yields.read_bind h.refl
    intro w' _ hw' _
    cases (w'.state item).bind fun st => applyDeltaTo st clause delta force t with
    | none =>
      apply Yields.ret
      intro hfound
      cases hfound
    | some raw =>
      have hfound : Found d item w' := ⟨w, hw, Or.inl ⟨clause.oid, hitem⟩, hw'⟩
      apply Keeps.bind (h.processRawStatePlain hfound)
      intro _ s _
      apply Yields.ret
      intro hfound
      cases hfound

lemma setOtherValueDelta (hcreate : forall w, d.admits ((.inventory, .shared) :: held)
      (.deltaLookup clause delta t sender) w ->
      CreatesTarget env w clause delta t sender -> MayDeploy d held true) :
    (setOtherValueDelta env clause delta force t sender).Keeps d held seen := by
  apply Yields.bind (h.setDeltaTarget horder)
  intro found s _ hfound
  apply Keeps.when
  intro hwhen
  simp only [Bool.and_eq_true, Bool.not_eq_true'] at hwhen
  rcases hfound hwhen.left with ⟨w, hadmits, hitem⟩
  cases hdelta : (applyDelta clause delta force t : Option (RawStateEvent V)) with
  | none => exact Keeps.ret ()
  | some raw =>
    have hraw := applyDelta_some hdelta
    apply h.autoCreateItemFromRaw
    intro htime
    rw [hraw.right] at htime
    exact hcreate w hadmits ⟨hitem, hwhen.right, hraw.left, htime⟩

end

lemma processModified (hlocks : MayFollowUp env d held clause o t sender) :
    (processModified env clause o.modified force o.delta t sender).Keeps d held seen := by
  apply Keeps.map
  cases clause with
  | setOther c =>
    apply Keeps.when
    intro hmodified
    apply Keeps.each
    intro mask hmask s _
    exact h.setOtherByMask (hlocks hmodified (List.ne_nil_of_mem hmask))
  | setOtherValueDelta c =>
    cases hdelta : o.delta with
    | none => exact Keeps.ret ()
    | some delta =>
      have hc := hlocks delta hdelta
      exact h.setOtherValueDelta hc.left hc.right

end

end RawRules

/-!
## Local items, actions and lvar operations
-/

namespace StepRules

variable {env : Env V} {d : Discipline (World V) (Label V) Lock} (h : StepRules env d)
include h

lemma raw : RawRules env d where
  idle := fun w w' hw hidle => h.changes w w' hw (.idle hidle)
  applyRaw := fun _ w _ _ _ hw _ _ => h.changes w _ hw w.applyRaw_changes
  append := fun held w config state hw _ hcopied hadmits =>
    h.append held w config state hw hcopied hadmits

lemma newItemIeid : (newItemIeid env oid).Yields d
      (fun ieid w => forall i, ieid = some i -> Issued env d i w) held seen := by
  apply Yields.ite
  · intro _
    apply Yields.ret
    intro i hi
    cases hi
  · intro _
    apply Yields.atomic_bind
    intro w hw _ _
    refine ⟨h.raw.idle w _ hw ⟨rfl, rfl, rfl, Nat.le_succ _⟩, ?_⟩
    apply Yields.ret
    intro i hi
    injection hi with hi
    exact ⟨w, hi.symm, .refl⟩

lemma createLocalItem (horder : d.order held .inventory) :
    (createLocalItem env oid).Keeps d held seen := by
  apply Yields.bind h.newItemIeid
  intro ieid s _ hieid
  refine Keeps.tryThen (Yields.locked horder (Yields.atomic ?_)) ?_
  · intro w hw hlater _
    refine ⟨h.createItem w oid ieid hw ?_, trivial⟩
    intro i hi
    rcases hieid i hi with ⟨s', hs', hbefore⟩
    exact ⟨s', hs', hbefore.trans hlater⟩
  · intro item s _
    apply Keeps.tryThen h.raw.readConfig
    intro config s _
    apply Keeps.tryThen h.raw.saveItemConfig
    intro _ s _
    exact Keeps.map h.raw.announceItem

lemma actionParams : (actionParams oid item params).Keeps d held seen := by
  cases params with
  | some p => exact Keeps.ret _
  | none => exact Yields.read h.raw.refl fun _ _ _ _ => trivial

lemma countLaunch (horder : d.order held .stateProcessor) :
    (countLaunch env item).Keeps d held seen := by
  apply Yields.locked horder
  apply Yields.atomic_bind
  intro w hw _ _
  refine ⟨h.changes w _ hw (w.mutateState_changes fun _ _ _ => rfl), ?_⟩
  cases (w.mutateState env item ItemState.actIncr).1 with
  | none => exact Keeps.ret _
  | some st => exact h.raw.announceLocalState

lemma createAction (horder : d.order held .stateProcessor) :
    (createAction env oid item params).Keeps d held seen := by
  unfold Core.createAction
  cases item.source with
  | some source => exact Keeps.ret _
  | none =>
    cases item.action with
    | none => exact Keeps.ret _
    | some config => exact Keeps.tryThen (h.countLaunch horder) fun _ _ _ => Keeps.ret _

lemma countCompletion (horder : d.order held .stateProcessor) :
    (countCompletion env item).Keeps d held seen := by
  apply Yields.locked horder
  apply Yields.atomic_bind
  intro w hw _ _
  refine ⟨h.changes w _ hw (w.mutateState_changes fun _ _ _ => rfl), ?_⟩
  cases (w.mutateState env item ItemState.actDecr).1 with
  | none => exact Keeps.ret ()
  | some st => exact Keeps.map h.raw.announceLocalState

lemma setLvar : (setLvar env oid op lvar).Keeps d held seen := by
  apply Yields.read_bind h.raw.refl
  intro w _ _ _
  apply Yields.ite (fun _ => Keeps.ret _)
  intro _
  apply Yields.ite
  · intro _
    exact Keeps.atomic fun w hw => h.raw.idle w _ hw ⟨rfl, rfl, rfl, le_rfl⟩
  · intro _
    refine Keeps.tryThen (Keeps.atomic ?_) ?_
    · intro w hw
      exact h.changes w _ hw w.applyLvarOp_changes
    · intro r s _
      exact Keeps.map h.raw.processNewState

variable (horder : d.order held .inventory)
include horder

section

variable (hnested : d.order ((.inventory, .shared) :: held) .stateProcessor)
include hnested

lemma launchAction : (launchAction env oid params).Keeps d held seen := by
  apply Keeps.tryThen (Keeps.ret _)
  intro _ s _
  apply Yields.locked horder
  apply Yields.read_bind h.raw.refl
  intro w _ _ _
  cases w.inv.getItem oid with
  | none => exact Keeps.ret _
  | some item =>
    apply Yields.read_bind h.raw.refl
    intro w _ _ _
    apply Yields.ite (fun _ => Keeps.ret _)
    intro _
    apply Keeps.tryThen h.actionParams
    intro p s _
    exact h.createAction hnested

lemma completeAction : (completeAction env oid).Keeps d held seen := by
  apply Keeps.when
  intro _
  apply Yields.locked horder
  apply Yields.read_bind h.raw.refl
  intro w _ _ _
  cases w.inv.getItem oid with
  | none => exact Keeps.ret ()
  | some item =>
    apply Keeps.when
    intro _
    exact h.countCompletion hnested

lemma action : (action env oid params).Keeps d held seen := by
  apply Keeps.tryThen (h.launchAction horder hnested)
  intro a s _
  apply Keeps.map
  apply Keeps.when
  intro _
  exact h.completeAction horder hnested

end

lemma getOrCreateLvar : (getOrCreateLvar env oid source).Keeps d held seen := by
  apply Keeps.bind (Yields.locked horder (Yields.read h.raw.refl fun _ _ _ _ => trivial))
  intro lvar s _
  cases lvar with
  | some lvar => exact Keeps.ret _
  | none =>
    refine Yields.ite ?_ fun _ => Keeps.ret _
    intro _
    exact Keeps.map (h.createLocalItem horder)

lemma lvarOp : (lvarOp env oid op source).Keeps d held seen := by
  apply Yields.ite (fun _ => Keeps.ret _)
  intro _
  apply Keeps.bind (h.getOrCreateLvar horder)
  intro lvar s _
  cases lvar with
  | none => exact Keeps.ret _
  | some lvar => exact h.setLvar

end StepRules

/-!
## Calls
-/

inductive CoreCall (V : Type) where
  | updateStateFromRaw (oid : OID) (raw : RawStateEvent V) (sender : String)
  | updateStateFromRawBulk (raw : List (RawStateBulkEvent V)) (sender : String)
  | autoCreateItemFromRawEmpty (oid : OID) (sender : String)
  | lvarOp (oid : OID) (op : LvarOp V) (source : String)
  | action (oid : OID) (params : Option (ActionParams V))
  | deployLocalItems (configs : List (ItemConfigData V))

namespace CoreCall

def task (env : Env V) : CoreCall V -> Task (World V) (Label V) Lock
  | .updateStateFromRaw oid raw sender => .start (Core.updateStateFromRaw env oid raw sender)
  | .updateStateFromRawBulk raw sender => .start (Core.updateStateFromRawBulk env raw sender)
  | .autoCreateItemFromRawEmpty oid sender =>
    .start (Core.autoCreateItemFromRawEmpty env oid sender)
  | .lvarOp oid op source => .start (Core.lvarOp env oid op source)
  | .action oid params => .start (Core.action env oid params)
  | .deployLocalItems configs => .start (Core.deployLocalItems env configs true)

def system (env : Env V) (calls : List (CoreCall V)) (w : World V) :
    Sys (World V) (Label V) Lock where
  store := w
  tasks := calls.map (task env)

end CoreCall

section Rules

variable {env : Env V} {d : Discipline (World V) (Label V) Lock}

lemma LockRules.of_order (h : forall held lock, d.order held lock) : LockRules env d where
  inventory := h _ _
  stateProcessor := h _ _
  nested := h _ _
  bulkCreate := fun _ _ _ _ _ => h _ _
  bulkFollowUp := by
    intro w item raw clause o sender _ _ _
    cases clause with
    | setOther c => exact fun _ _ => h _ _
    | setOtherValueDelta c =>
      exact fun _ _ => ⟨h _ _, fun _ _ _ => ⟨h _ _, fun _ => ⟨h _ _, h _ _⟩⟩⟩

lemma LockRules.mayDeploy (h : LockRules env d) : MayDeploy d [] true :=
  ⟨h.inventory, fun _ => ⟨h.stateProcessor, h.nested⟩⟩

lemma LockRules.mayFollowUp (h : LockRules env d) : MayFollowUp env d [] clause o t sender := by
  cases clause with
  | setOther c => exact fun _ _ => h.inventory
  | setOtherValueDelta c => exact fun _ _ => ⟨h.inventory, fun _ _ _ => h.mayDeploy⟩

section

variable (hs : RawRules env d) (hl : LockRules env d)
include hs hl

lemma keeps_updateStateFromRaw : (updateStateFromRaw env oid raw sender).Keeps d [] seen := by
  apply Yields.ite (fun _ => Keeps.ret _)
  intro _
  have hlookup : (locked .inventory .shared (getItem oid) : CoreM V _).Yields d
      (fun found s => forall item, found = some item -> Found d item s) [] seen := by
    refine Yields.locked hl.inventory (Yields.read hs.refl ?_)
    intro w hw _ _ item hitem
    exact ⟨w, hw, Or.inl ⟨oid, hitem⟩, .refl⟩
  apply Yields.bind hlookup
  intro item s _ hfound
  cases item with
  | some item =>
    apply hs.processRawStateWith (fun _ => hl.stateProcessor) (hfound item rfl)
    intro w clause o s _ _ _
    exact hs.processModified hl.mayFollowUp
  | none =>
    refine Yields.ite ?_ fun _ => Keeps.ret _
    intro _
    exact Keeps.map (hs.autoCreateItemFromRaw fun _ => hl.mayDeploy)

theorem keeps_updateStateFromRawBulk : (updateStateFromRawBulk env raw sender).Keeps d [] seen := by
  have hlookup : (locked .inventory .shared
      (read (.bulkLookup raw sender) fun w =>
        (bulkToProcess w.inv raw, bulkToCreate env w.inv raw sender)) :
      CoreM V _).Yields d
      (fun found s => (forall e, e ∈ found.1 -> Found d e.1 s) ∧
        (found.2 ≠ [] -> d.order bulkHeld .inventory)) [] seen := by
    refine Yields.locked hl.inventory (Yields.read hs.refl ?_)
    intro w hw _ hadmits
    refine ⟨?_, fun hne => hl.bulkCreate w raw sender hadmits hne⟩
    intro e he
    rcases List.mem_filterMap.mp he with ⟨r, _, hr⟩
    rcases Option.map_eq_some_iff.mp hr with ⟨item, hitem, heq⟩
    rw [← heq]
    exact ⟨w, hw, Or.inl ⟨r.oid, hitem⟩, .refl⟩
  apply Yields.bind hlookup
  intro found s _ hfound
  apply Yields.locked hl.stateProcessor
  refine Keeps.bind (Keeps.each ?_) ?_
  · intro e he s hs'
    have hitem := (hfound.left e he).later hs'
    refine Keeps.map (hs.processRawStateWith ?_ hitem ?_)
    · intro hlock
      cases hlock
    · intro w clause o s hadmits hclause ho
      exact hs.processModified
        (hl.bulkFollowUp w e.1 e.2 clause o sender hadmits hclause ho)
  · intro _ s _
    apply Keeps.when
    intro hne
    have horder := hfound.right (by simpa using hne)
    refine Keeps.map (hs.deployLocalItems ⟨horder, ?_⟩)
    intro hlock
    cases hlock

lemma keeps_autoCreateItemFromRawEmpty :
    (autoCreateItemFromRawEmpty env oid sender).Keeps d [] seen := by
  apply Keeps.when
  intro _
  exact Keeps.map (hs.deployLocalItems hl.mayDeploy)

end

lemma CoreCall.keeps (hs : StepRules env d) (hl : LockRules env d) (c : CoreCall V) :
    (c.task env).prog.Keeps d [] seen := by
  cases c with
  | updateStateFromRaw oid raw sender =>
    exact Keeps.map (keeps_updateStateFromRaw hs.raw hl)
  | updateStateFromRawBulk raw sender =>
    exact Keeps.map (keeps_updateStateFromRawBulk hs.raw hl)
  | autoCreateItemFromRawEmpty oid sender =>
    exact Keeps.map (keeps_autoCreateItemFromRawEmpty hs.raw hl)
  | lvarOp oid op source =>
    exact Keeps.map (hs.lvarOp hl.inventory)
  | action oid params =>
    exact Keeps.map (hs.action hl.inventory hl.nested)
  | deployLocalItems configs =>
    exact Keeps.map (hs.raw.deployLocalItems hl.mayDeploy)

theorem CoreCall.system_follows (hs : StepRules env d) (hl : LockRules env d)
    {calls : List (CoreCall V)} (hw : d.inv w) : (system env calls w).Follows d := by
  apply Sys.follows_start hw
  intro t ht
  rcases List.mem_map.mp ht with ⟨c, _, hc⟩
  rw [← hc]
  refine ⟨c.keeps hs hl, ?_⟩
  cases c <;> rfl

end Rules

end Eva4.Core
