import Eva4.ActMgr.Manager

/-!
# The lifecycle of an action

Events, the reply to the launch and the timeout write one record in any order, each with a guard
of its own.  Together they only move the status forward, and they fire the triggers when the
action is finished.  They do not leave a finished action alone: the guard of the events admits a
finished status over another one.
-/

namespace Eva4.ActMgr

open Lib Items AList

variable {V : Type}

/-!
## Updates of one record
-/

inductive Update (V : Type) where
  | event (ev : ActionEvent V) (now : F64)
  | reply (uuid : Uuid) (result : EResult Unit) (now : F64)
  | timedOut (uuid : Uuid) (now : F64)

namespace Update

def uuid : Update V -> Uuid
  | .event ev _ => ev.uuid
  | .reply uuid _ _ => uuid
  | .timedOut uuid _ => uuid

def apply (common : Common V) (m : Manager V) : Update V -> Manager V
  | .event ev now => (m.processEvent common ev now).2
  | .reply uuid result now => (m.launchReply common uuid result now).2
  | .timedOut uuid now => m.markActionTimedOut common uuid now

def onAction (common : Common V) (action : Action V) : Update V -> Action V
  | .event ev now =>
    match common.status ev.status with
    | some status => action.applyEvent common ev status now
    | none => action
  | .reply _ (.error e) now => action.markFailed (common.text e) now
  | .reply _ (.ok ()) now => action.markAccepted now
  | .timedOut _ now => action.markFailed common.timeout now

variable {m : Manager V} {uuid : Uuid}

lemma lookup_map_of_none (h : lookup uuid m.actions = none) : lookup k m.actions =
      if k = uuid then (lookup k m.actions).map f else lookup k m.actions := by
  by_cases hk : k = uuid
  · rw [if_pos hk, hk, h, Option.map_none]
  · rw [if_neg hk]

lemma lookup_insert_map (f : Action V -> Action V) (h : lookup uuid m.actions = some action) :
    lookup k (insert uuid (f action) m.actions) =
      if k = uuid then (lookup k m.actions).map f else lookup k m.actions := by
  rw [Table.lookup_insert_if]
  by_cases hk : k = uuid
  · rw [if_pos hk, if_pos hk, hk, h, Option.map_some]
  · rw [if_neg hk, if_neg hk]

lemma lookup_apply (common : Common V) (m : Manager V) (u : Update V) (k : Uuid) :
    lookup k (u.apply common m).actions =
      if k = u.uuid then (lookup k m.actions).map fun a => u.onAction common a
      else lookup k m.actions := by
  cases u with
  | event ev now =>
    simp only [apply, Manager.processEvent, uuid, onAction]
    cases hfound : lookup ev.uuid m.actions with
    | none => exact lookup_map_of_none hfound
    | some action =>
      cases hstatus : common.status ev.status with
      | none =>
        simp only [Option.map_id']
        split <;> rfl
      | some status => exact lookup_insert_map (fun a => a.applyEvent common ev status now) hfound
  | reply uuid' result now =>
    simp only [apply, Manager.launchReply, uuid]
    cases hfound : lookup uuid' m.actions with
    | none => exact lookup_map_of_none hfound
    | some action =>
      cases result with
      | error e => exact lookup_insert_map (fun a => a.markFailed (common.text e) now) hfound
      | ok r => exact lookup_insert_map (fun a => a.markAccepted now) hfound
  | timedOut uuid' now =>
    simp only [apply, Manager.markActionTimedOut, uuid]
    cases hfound : lookup uuid' m.actions with
    | none => exact lookup_map_of_none hfound
    | some action => exact lookup_insert_map (fun a => a.markFailed common.timeout now) hfound

end Update

/-!
## The guards
-/

/-- The triggers have fired if and only if the action is finished. -/
def Action.Exact (action : Action V) : Prop :=
  (action.completed = true <-> Status.completed ≤ action.status) ∧
    (action.coreCompleted = true <-> Status.completed ≤ action.status)

lemma Action.create_exact (args : ActionArgs V) (generated : Uuid) (started : Nat) (now : F64) :
    (Action.create args generated started now).Exact := by
  have hnot : ¬ Status.completed ≤ Status.created := by decide
  exact ⟨iff_of_false Bool.false_ne_true hnot, iff_of_false Bool.false_ne_true hnot⟩

lemma Action.markFailed_status_le (action : Action V) {err : V} {now : F64} :
    action.status ≤ (action.markFailed err now).status := by
  unfold Action.markFailed
  by_cases h : action.status < .completed
  · rw [if_pos h]
    have hlt : Status.completed < Status.failed := by decide
    exact le_of_lt (lt_trans h hlt)
  · rw [if_neg h]

variable {action : Action V}

lemma Action.markFailed_exact (h : action.Exact) {err : V} {now : F64} :
    (action.markFailed err now).Exact := by
  unfold Action.markFailed
  by_cases hlt : action.status < .completed
  · rw [if_pos hlt]
    have hfinished : Status.completed ≤ Status.failed := by decide
    exact ⟨iff_of_true rfl hfinished, iff_of_true rfl hfinished⟩
  · rw [if_neg hlt]
    exact h

lemma Action.markAccepted_status_le (action : Action V) :
    action.status ≤ (action.markAccepted now).status := by
  show action.status ≤ if action.status < .accepted then .accepted else action.status
  by_cases h : action.status < .accepted
  · rw [if_pos h]
    exact le_of_lt h
  · rw [if_neg h]

lemma Action.markAccepted_exact (h : action.Exact) : (action.markAccepted now).Exact := by
  have hsame : Status.completed ≤ (action.markAccepted now).status <->
      Status.completed ≤ action.status := by
    show Status.completed ≤ (if action.status < .accepted then .accepted else action.status) <-> _
    by_cases hlt : action.status < .accepted
    · rw [if_pos hlt]
      have hnot : ¬ Status.completed ≤ Status.accepted := by decide
      exact iff_of_false hnot fun hle => hnot (le_trans hle (le_of_lt hlt))
    · rw [if_neg hlt]
  exact ⟨h.left.trans hsame.symm, h.right.trans hsame.symm⟩

section Events

variable {common : Common V} {ev : ActionEvent V} {status : Status}
  (hstatus : common.status ev.status = some status)
include hstatus

theorem Common.code_lt_iff : common.code s < ev.status <-> s < status := by
  rw [← Common.code_of_status hstatus]
  exact common.code_strictMono.lt_iff_lt

lemma Action.applyEvent_status (action : Action V) (now : F64) :
    (action.applyEvent common ev status now).status =
      if action.status < status then status else action.status := by
  unfold Action.applyEvent
  simp only [Common.code_lt_iff hstatus]
  split <;> rfl

lemma Action.applyEvent_status_le :
    action.status ≤ (action.applyEvent common ev status now).status := by
  rw [Action.applyEvent_status hstatus]
  by_cases h : action.status < status
  · rw [if_pos h]
    exact le_of_lt h
  · rw [if_neg h]

lemma Action.applyEvent_exact (h : action.Exact) :
    (action.applyEvent common ev status now).Exact := by
  by_cases hlt : action.status < status
  · -- a trigger has fired before, or it fires now
    have hfired : forall fired : Bool, (fired = true <-> Status.completed ≤ action.status) ->
        ((fired || (decide (common.code .completed ≤ ev.status) &&
          decide (common.code action.status < common.code .completed))) = true <->
          Status.completed ≤ status) := by
      intro fired hbefore
      have hcode : common.code .completed ≤ ev.status <-> Status.completed ≤ status := by
        rw [← Common.code_of_status hstatus]
        exact common.code_strictMono.le_iff_le
      rw [Bool.or_eq_true, Bool.and_eq_true, decide_eq_true_iff, decide_eq_true_iff,
        hbefore, hcode, common.code_strictMono.lt_iff_lt]
      constructor
      · intro hcase
        rcases hcase with hle | hnew
        · exact le_trans hle (le_of_lt hlt)
        · exact hnew.left
      · intro hle
        rcases le_or_gt Status.completed action.status with hdone | hopen
        · exact Or.inl hdone
        · exact Or.inr ⟨hle, hopen⟩
    unfold Action.applyEvent
    simp only [Common.code_lt_iff hstatus, if_pos hlt]
    exact ⟨hfired action.completed h.left, hfired action.coreCompleted h.right⟩
  · have hsame : action.applyEvent common ev status now =
        { action with time := insert status now action.time } := by
      unfold Action.applyEvent
      simp only [Common.code_lt_iff hstatus, if_neg hlt]
    rw [hsame]
    exact h

end Events

namespace Update

variable {common : Common V} {ev : ActionEvent V}

lemma onAction_invalid (h : common.status ev.status = none) :
    (event ev now).onAction common action = action := by
  simp only [onAction, h]

lemma onAction_valid (h : common.status ev.status = some status) :
    (event ev now).onAction common action = action.applyEvent common ev status now := by
  simp only [onAction, h]

lemma status_le_onAction (u : Update V) : action.status ≤ (u.onAction common action).status := by
  cases u with
  | event ev now =>
    cases hstatus : common.status ev.status with
    | none => rw [onAction_invalid hstatus]
    | some status =>
      rw [onAction_valid hstatus]
      exact Action.applyEvent_status_le hstatus
  | reply uuid result now =>
    cases result with
    | error e => exact action.markFailed_status_le
    | ok r => exact action.markAccepted_status_le
  | timedOut uuid now => exact action.markFailed_status_le

lemma onAction_exact (u : Update V) (h : action.Exact) : (u.onAction common action).Exact := by
  cases u with
  | event ev now =>
    cases hstatus : common.status ev.status with
    | none =>
      rw [onAction_invalid hstatus]
      exact h
    | some status =>
      rw [onAction_valid hstatus]
      exact Action.applyEvent_exact hstatus h
  | reply uuid result now =>
    cases result with
    | error e => exact Action.markFailed_exact h
    | ok r => exact Action.markAccepted_exact h
  | timedOut uuid now => exact Action.markFailed_exact h

end Update

/-!
## Runs
-/

inductive Op (V : Type) where
  | update (u : Update V)
  | cleanup (t : Nat)

namespace Op

def apply (common : Common V) (m : Manager V) : Op V -> Manager V
  | .update u => u.apply common m
  | .cleanup t => m.cleanupActionHistory t

def run (common : Common V) (ops : List (Op V)) (m : Manager V) : Manager V :=
  ops.foldl (fun m op => op.apply common m) m

lemma lookup_cleanup (m : Manager V) (t : Nat) (k : Uuid) :
    lookup k (m.cleanupActionHistory t).actions = (lookup k m.actions).filter fun a =>
        decide (t < a.started + m.keepFor) || decide (a.status < .completed) :=
  Table.lookup_retain

variable {op : Op V}

lemma lookup_apply_some (h : lookup uuid (op.apply common m).actions = some a') :
    exists a, lookup uuid m.actions = some a ∧
      (a' = a ∨ exists u, op = .update u ∧ u.uuid = uuid ∧ a' = u.onAction common a) := by
  cases op with
  | update u =>
    have hlookup := u.lookup_apply common m uuid
    rw [show lookup uuid (u.apply common m).actions = some a' from h] at hlookup
    by_cases heq : uuid = u.uuid
    · rw [if_pos heq] at hlookup
      rcases Option.map_eq_some_iff.mp hlookup.symm with ⟨a, ha, hon⟩
      exact ⟨a, ha, Or.inr ⟨u, rfl, heq.symm, hon.symm⟩⟩
    · rw [if_neg heq] at hlookup
      exact ⟨a', hlookup.symm, Or.inl rfl⟩
  | cleanup t =>
    have hlookup := lookup_cleanup m t uuid
    rw [show lookup uuid (m.cleanupActionHistory t).actions = some a' from h] at hlookup
    have hfilter := Option.filter_eq_some_iff.mp hlookup.symm
    exact ⟨a', hfilter.left, Or.inl rfl⟩

/-- Only the cleaner removes a record, and only a finished one that is old enough. -/
theorem lookup_apply_none (ha : lookup uuid m.actions = some a)
    (h : lookup uuid (op.apply common m).actions = none) :
    exists t, op = .cleanup t ∧ Status.completed ≤ a.status ∧ a.started + m.keepFor ≤ t := by
  cases op with
  | update u =>
    have hlookup := u.lookup_apply common m uuid
    rw [show lookup uuid (u.apply common m).actions = none from h, ha] at hlookup
    split at hlookup <;> cases hlookup
  | cleanup t =>
    have hlookup := lookup_cleanup m t uuid
    rw [show lookup uuid (m.cleanupActionHistory t).actions = none from h, ha] at hlookup
    have hgone := Option.filter_eq_none_iff.mp hlookup.symm a rfl
    simp only [Bool.or_eq_true, decide_eq_true_eq, not_or, not_lt] at hgone
    exact ⟨t, rfl, hgone.right, hgone.left⟩

end Op

/--
The lifecycle of an action at one step: its status does not decrease, its triggers are
exact, an event with an invalid code changes nothing, and only the cleaner removes it.
-/
structure LifecycleStep (common : Common V) (uuid : Uuid) (m : Manager V) (op : Op V) : Prop where
  status_le : forall a a', AList.lookup uuid m.actions = some a ->
    AList.lookup uuid (op.apply common m).actions = some a' ->
    common.code a.status ≤ common.code a'.status
  triggers : forall a, AList.lookup uuid m.actions = some a -> a.Exact
  invalid : forall ev now, op = .update (.event ev now) ->
    common.status ev.status = none -> op.apply common m = m
  removed : forall a, AList.lookup uuid m.actions = some a ->
    AList.lookup uuid (op.apply common m).actions = none ->
    exists t, op = .cleanup t ∧ Status.completed ≤ a.status ∧ a.started + m.keepFor ≤ t

variable {common : Common V} {ev : ActionEvent V} {status : Status} {uuid : Uuid}

lemma lifecycleStep_of_exact (h : forall a, lookup uuid m.actions = some a -> a.Exact) (op : Op V) :
    LifecycleStep common uuid m op where
  status_le := by
    intro a a' ha ha'
    rcases Op.lookup_apply_some ha' with ⟨b, hb, hcase⟩
    rw [ha] at hb
    injection hb with hb
    apply common.code_strictMono.monotone
    rcases hcase with hsame | hupdate
    · rw [hsame, hb]
    · rcases hupdate with ⟨u, _, _, hon⟩
      rw [hon, hb]
      exact u.status_le_onAction
  triggers := h
  invalid := by
    intro ev now hop hstatus
    rw [hop]
    show (m.processEvent common ev now).2 = m
    unfold Manager.processEvent
    rw [hstatus]
    cases lookup ev.uuid m.actions <;> rfl
  removed := fun _ ha hnone => Op.lookup_apply_none ha hnone

lemma exact_run (ops : List (Op V)) :
    forall m : Manager V, (forall a, lookup uuid m.actions = some a -> a.Exact) ->
      forall a, lookup uuid (Op.run common ops m).actions = some a -> a.Exact := by
  induction ops with
  | nil =>
    intro m h
    exact h
  | cons op ops ih =>
    intro m h
    apply ih (op.apply common m)
    intro a' ha'
    rcases Op.lookup_apply_some ha' with ⟨a, ha, hcase⟩
    rcases hcase with hsame | hupdate
    · rw [hsame]
      exact h a ha
    · rcases hupdate with ⟨u, _, _, hon⟩
      rw [hon]
      exact u.onAction_exact (h a ha)

/-- Every step after the launch of a local action keeps its lifecycle. -/
theorem action_lifecycle (common : Common V) (m : Manager V) (args : ActionArgs V)
    (generated : Uuid) (started : Nat) (now : F64) {uuid : Uuid}
    (hstored : (m.launchAction (Action.create args generated started now)).1 =
      .ok (some uuid)) (ops : List (Op V)) (op : Op V) : LifecycleStep common uuid
      (Op.run common ops (m.launchAction (Action.create args generated started now)).2) op := by
  apply lifecycleStep_of_exact
  apply exact_run
  intro a ha
  rw [Manager.lookup_launchAction hstored, if_pos rfl] at ha
  cases ha
  exact Action.create_exact args generated started now

def Common.sample : Common (Option Int) where
  code := Status.rank
  code_strictMono := fun _ _ h => h
  invalidStatus := fun _ => { kind := .invalidData, message := "" }
  text := fun _ => none
  timeout := none

def Manager.empty : Manager (Option Int) where
  actions := ∅
  keepFor := 10

def sampleArgs (fullId : String) : ActionArgs (Option Int) where
  uuid := some 7
  oid := { kind := .unit, fullId := fullId }
  params := .unit (some 1)
  timeout := none
  priority := 100
  config := none
  node := none
  target := "eva.controller.a"
  wait := none

def sampleEvent (status : Nat) : ActionEvent (Option Int) where
  uuid := 7
  status := status
  out := none
  err := none
  exitcode := none

/-- The completion of an action may come before the reply to its launch. -/
theorem action_lifecycle_late_reply : LifecycleStep Common.sample 7
      (Op.run Common.sample [.update (.event (sampleEvent 4) F64.zero)]
        (Manager.empty.launchAction (Action.create (sampleArgs "a") 0 0 F64.zero)).2)
      (.update (.reply 7 (.ok ()) F64.zero)) :=
  action_lifecycle Common.sample Manager.empty (sampleArgs "a") 0 0 F64.zero rfl _ _

/-!
## Finished actions
-/

def Action.result (action : Action V) : Status × Option V × Option V × Option Int :=
  (action.status, action.out, action.err, action.exitcode)

/-- The event has no valid code above the one of the status. -/
def ActionEvent.NotAbove (common : Common V) (ev : ActionEvent V) (status : Status) : Prop :=
  common.status ev.status = none ∨ ev.status ≤ common.code status

lemma Action.markFailed_finished (h : Status.completed ≤ action.status) (err : V) (now : F64) :
    action.markFailed err now = action := by
  unfold Action.markFailed
  rw [if_neg (not_lt_of_ge h)]

lemma Action.markAccepted_result (h : Status.completed ≤ action.status) :
    (action.markAccepted now).result = action.result := by
  have hnot : ¬ action.status < Status.accepted := by
    have hlt : Status.accepted < Status.completed := by decide
    exact not_lt_of_ge (le_trans (le_of_lt hlt) h)
  show (if action.status < .accepted then Status.accepted else action.status,
    action.out, action.err, action.exitcode) = _
  rw [if_neg hnot]
  rfl

lemma Action.applyEvent_result_iff (hstatus : common.status ev.status = some status) :
    (action.applyEvent common ev status now).result = action.result <->
      ¬ action.status < status := by
  constructor
  · intro hresult hlt
    have hnew := Action.applyEvent_status hstatus action now
    rw [if_pos hlt] at hnew
    have hsame : (action.applyEvent common ev status now).status = action.status :=
      congrArg Prod.fst hresult
    rw [hnew] at hsame
    exact absurd hsame (ne_of_gt hlt)
  · intro hlt
    unfold Action.applyEvent
    simp only [Common.code_lt_iff hstatus, if_neg hlt]
    rfl

lemma ActionEvent.notAbove_iff (hstatus : common.status ev.status = some status) :
    ev.NotAbove common current <-> ¬ current < status := by
  have hcode : ev.status ≤ common.code current <-> ¬ current < status := by
    rw [← Common.code_lt_iff hstatus, not_lt]
  unfold ActionEvent.NotAbove
  rw [hstatus, hcode]
  simp

theorem Update.onAction_result_iff (common : Common V) (u : Update V)
    (h : Status.completed ≤ action.status) : (u.onAction common action).result = action.result <->
      forall ev now, u = .event ev now -> ev.NotAbove common action.status := by
  cases u with
  | event ev now =>
    have hiff : (forall ev' now', (Update.event ev now : Update V) = .event ev' now' ->
        ev'.NotAbove common action.status) <-> ev.NotAbove common action.status := by
      constructor
      · intro hall
        exact hall ev now rfl
      · intro hev ev' now' heq
        cases heq
        exact hev
    rw [hiff]
    cases hstatus : common.status ev.status with
    | none =>
      rw [Update.onAction_invalid hstatus]
      exact iff_of_true rfl (Or.inl hstatus)
    | some status =>
      rw [Update.onAction_valid hstatus, Action.applyEvent_result_iff hstatus,
        ActionEvent.notAbove_iff hstatus]
  | reply uuid result now =>
    cases result with
    | error e =>
      apply iff_of_true (congrArg Action.result (action.markFailed_finished h _ now))
      intro ev now' heq
      cases heq
    | ok r =>
      apply iff_of_true (Action.markAccepted_result h)
      intro ev now' heq
      cases heq
  | timedOut uuid now =>
    apply iff_of_true (congrArg Action.result (action.markFailed_finished h _ now))
    intro ev now' heq
    cases heq

namespace Update

def run (common : Common V) (updates : List (Update V)) (m : Manager V) : Manager V :=
  updates.foldl (fun m u => u.apply common m) m

/-- In every run the record of an action is what its own updates make of it, in their order,
whatever comes for other actions in between. -/
theorem updates_independent (common : Common V) (updates : List (Update V)) (m : Manager V)
    (uuid : Uuid) : AList.lookup uuid (run common updates m).actions =
      (AList.lookup uuid m.actions).map fun a =>
        (updates.filter fun u => uuid = u.uuid).foldl (fun a u => u.onAction common a) a := by
  induction updates generalizing m with
  | nil => exact Option.map_id_apply.symm
  | cons u updates ih =>
    change lookup uuid (run common updates (u.apply common m)).actions = _
    rw [ih, u.lookup_apply common m uuid]
    by_cases hown : uuid = u.uuid
    · rw [if_pos hown, List.filter_cons, if_pos (decide_eq_true hown), Option.map_map]
      rfl
    · rw [if_neg hown, List.filter_cons, if_neg fun h => hown (of_decide_eq_true h)]

lemma step_result_iff {common : Common V} (h : Status.completed ≤ a.status) {uuid : Uuid}
    {u : Update V} : (if uuid = u.uuid then u.onAction common a else a).result = a.result <->
      forall ev now, u = .event ev now -> ev.uuid = uuid -> ev.NotAbove common a.status := by
  by_cases heq : uuid = u.uuid
  · rw [if_pos heq, u.onAction_result_iff common h]
    constructor
    · intro hall ev now hev _
      exact hall ev now hev
    · intro hall ev now hev
      apply hall ev now hev
      rw [heq, hev]
      rfl
  · rw [if_neg heq]
    apply iff_of_true rfl
    intro ev now hev huuid
    rw [hev] at heq
    exact absurd huuid.symm heq

end Update

/--
A finished action stays as it finished exactly in the runs whose events for it have no
valid status code above the one it finished with.
-/
theorem finished_action_fixed_iff (common : Common V) {m : Manager V} {uuid : Uuid} {a : Action V}
    (hstored : AList.lookup uuid m.actions = some a) (hfinished : Status.completed ≤ a.status)
    (updates : List (Update V)) :
    (forall before after, updates = before ++ after ->
      exists a', AList.lookup uuid (Update.run common before m).actions = some a' ∧
        a'.result = a.result) <-> forall ev now, Update.event ev now ∈ updates -> ev.uuid = uuid ->
        ev.NotAbove common a.status := by
  induction updates generalizing m a with
  | nil =>
    constructor
    · intro _ ev now hmem
      cases hmem
    · intro _ before after heq
      rw [(List.append_eq_nil_iff.mp heq.symm).left]
      exact ⟨a, hstored, rfl⟩
  | cons u us ih =>
    -- the record after the first update
    let b : Action V := if uuid = u.uuid then u.onAction common a else a
    have hb : lookup uuid (u.apply common m).actions = some b := by
      rw [u.lookup_apply common m uuid, hstored]
      exact (apply_ite some ..).symm
    have hstep : b.result = a.result <-> forall ev now, u = .event ev now ->
        ev.uuid = uuid -> ev.NotAbove common a.status :=
      Update.step_result_iff hfinished
    constructor
    · intro hfixed
      have hfirst : b.result = a.result := by
        rcases hfixed [u] us rfl with ⟨b', hb', hresult⟩
        have hsame : b = b' := Option.some.inj (hb.symm.trans hb')
        rw [hsame]
        exact hresult
      have hstatus : b.status = a.status := congrArg Prod.fst hfirst
      have hrest : forall ev now, Update.event ev now ∈ us -> ev.uuid = uuid ->
          ev.NotAbove common b.status := by
        apply (ih hb (hstatus ▸ hfinished)).mp
        intro before after heq
        rcases hfixed (u :: before) after (by rw [heq]; rfl) with ⟨a', ha', hresult⟩
        exact ⟨a', ha', hresult.trans hfirst.symm⟩
      intro ev now hmem huuid
      rcases List.mem_cons.mp hmem with hhead | htail
      · exact hstep.mp hfirst ev now hhead.symm huuid
      · rw [← hstatus]
        exact hrest ev now htail huuid
    · intro hbelow
      have hfirst : b.result = a.result := by
        apply hstep.mpr
        intro ev now hev huuid
        exact hbelow ev now (by rw [hev]; exact List.mem_cons_self) huuid
      have hstatus : b.status = a.status := congrArg Prod.fst hfirst
      have hrest := (ih hb (hstatus ▸ hfinished)).mpr (by
        intro ev now hmem huuid
        rw [hstatus]
        exact hbelow ev now (List.mem_cons_of_mem u hmem) huuid)
      intro before after heq
      cases before with
      | nil => exact ⟨a, hstored, rfl⟩
      | cons v before =>
        injection heq with hv heq
        rcases hrest before after heq with ⟨a', ha', hresult⟩
        refine ⟨a', ?_, hresult.trans hfirst⟩
        rw [← hv]
        exact ha'

def completedAction : Action (Option Int) :=
  { Action.create (sampleArgs "a") 0 0 F64.zero with
    status := .completed, out := some (some 1), exitcode := some 0, completed := true,
    coreCompleted := true }

def completedManager : Manager (Option Int) :=
  { Manager.empty with actions := AList.insert 7 completedAction ∅ }

/-- A second completion and a timeout leave a completed action as it is. -/
theorem finished_action_fixed_duplicate : Status.completed ≤ completedAction.status ∧
      forall before after,
        [Update.event (sampleEvent 4) F64.zero, .timedOut 7 F64.zero] = before ++ after ->
          exists a', AList.lookup 7
              (Update.run Common.sample before completedManager).actions = some a' ∧
            a'.result = completedAction.result := by
  have hfinished : Status.completed ≤ completedAction.status := by decide
  apply And.intro hfinished
  apply (finished_action_fixed_iff Common.sample (m := completedManager) rfl hfinished
    [.event (sampleEvent 4) F64.zero, .timedOut 7 F64.zero]).mpr
  intro ev now hmem _
  simp only [List.mem_cons, Update.event.injEq, reduceCtorEq, List.not_mem_nil, or_false] at hmem
  rw [hmem.left]
  exact Or.inr (by decide)

/-- A late failure overwrites the result of a completed action. -/
theorem completed_action_fails : exists a a', AList.lookup 7 completedManager.actions = some a ∧
      Status.completed ≤ a.status ∧
      AList.lookup 7 (Update.run Common.sample [.event (sampleEvent 5) F64.zero]
        completedManager).actions = some a' ∧ a.result = (.completed, some (some 1), none, some 0) ∧
      a'.result = (.failed, none, none, none) :=
  ⟨completedAction, _, rfl, by decide, rfl, rfl, rfl⟩

end Eva4.ActMgr
