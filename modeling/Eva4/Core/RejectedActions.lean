import Eva4.Core.ActionCounter

/-!
# Actions that are rejected

A call that fails after it has raised the action counter leaves it raised.
-/

namespace Eva4.Core

open Lib Items Prog ItemState

variable {V : Type} (env : Env V) (oid : OID)

/-- The call of an action, without the task that lowers the counter: that one is spawned for a local
action and comes to its end at any time.  The record of the action may be gone when the call looks
for it, and another node may refuse the action. -/
def actionCall [EvaCommon V] (params : Option (ActionParams V)) (found : EResult Unit) :
    CoreM V (EResult Unit) :=
  (launchAction env oid params).tryThen fun _ => pure found

def World.unitAct (w : World V) : Nat :=
  ((w.inv.getItem oid).bind fun item => (w.state item).bind ItemState.act).getD 0

/-- The counter of the item is raised for an action: its parameters fit, and the item is enabled,
one of this node and has a service for its actions and a state. -/
def World.Counts (params : Option (ActionParams V)) (w : World V) : Prop :=
  checkActionParams oid params = .ok () ∧ exists item, w.inv.getItem oid = some item ∧
    w.enabled item = true ∧ item.source = none ∧ item.action ≠ none ∧ w.state item ≠ none

def Raises (counts : Prop) (w w' : World V) : Prop :=
  (counts ∧ w'.unitAct oid = w.unitAct oid + 1) ∨ (¬ counts ∧ w'.unitAct oid = w.unitAct oid)

variable {env oid} {w : World V}

lemma raises_countLaunch (hitem : w.inv.getItem oid = some item) :
    Raises oid (w.state item ≠ none) w ((countLaunch env item).exec w).2 := by
  simp only [countLaunch, exec_locked, exec_bind, exec_atomic, World.mutateState]
  cases hstate : w.state item with
  | none => exact Or.inr ⟨fun h => h rfl, rfl⟩
  | some st =>
    refine Or.inl ⟨Option.some_ne_none st, ?_⟩
    show (((w.inv.getItem oid).bind fun x =>
      (Function.update w.heap.cells item.ptr _ x.ptr).state.bind ItemState.act).getD 0) = _
    rw [World.unitAct, hitem, Option.bind_some, Option.bind_some, Function.update_self, hstate]
    cases hact : st.act <;> simp [actIncr, hact]

lemma raises_createAction (hitem : w.inv.getItem oid = some item) :
    Raises oid (item.source = none ∧ item.action ≠ none ∧ w.state item ≠ none) w
      ((createAction env oid item params).exec w).2 := by
  unfold createAction
  cases item.source with
  | some source => exact Or.inr ⟨fun h => (nomatch h.left), rfl⟩
  | none =>
    cases item.action with
    | none => exact Or.inr ⟨fun h => h.right.left rfl, rfl⟩
    | some config =>
      rw [exec_tryThen_map_snd]
      simpa using raises_countLaunch hitem

variable [EvaCommon V]

lemma raises_launchAction :
    Raises oid (w.Counts oid params) w ((launchAction env oid params).exec w).2 := by
  unfold launchAction World.Counts
  cases checkActionParams oid params with
  | error e => exact Or.inr ⟨fun h => (nomatch h.left), rfl⟩
  | ok u =>
    simp only [exec_tryThen_ok (exec_ret _ _), exec_locked, exec_bind, getItem, exec_read]
    cases hitem : w.inv.getItem oid with
    | none => exact Or.inr ⟨by simp, rfl⟩
    | some item =>
      simp only [exec_bind, readEnabled, exec_read, exec_ite]
      cases henabled : w.enabled item with
      | false => exact Or.inr ⟨by simp [henabled], rfl⟩
      | true =>
        have hcreate : forall p, Raises oid _ w ((createAction env oid item p).exec w).2 :=
          fun p => raises_createAction hitem
        simp only [Option.some.injEq, exists_eq_left', henabled, true_and, Bool.not_true,
          Bool.false_eq_true, if_false]
        cases params with
        | some p => exact hcreate p
        | none =>
          simp only [exec_tryThen, actionParams, exec_read]
          cases hstate : w.state item with
          | none => exact Or.inr ⟨by simp, rfl⟩
          | some st =>
            rw [hstate] at hcreate
            exact hcreate _

/-- A call that returns an error leaves the counter of the unit as it was if and only if no counter
is raised for such an action. -/
theorem rejected_action_iff (params : Option (ActionParams V)) (found : EResult Unit)
    (hcall : (actionCall env oid params found).exec w = (.error e, w')) :
    w'.unitAct oid = w.unitAct oid <-> ¬ w.Counts oid params := by
  have hraises : Raises oid (w.Counts oid params) w ((launchAction env oid params).exec w).2 :=
    raises_launchAction
  have hw : ((launchAction env oid params).exec w).2 = w' := by
    rw [actionCall, exec_tryThen] at hcall
    cases hlaunch : ((launchAction env oid params).exec w).1 with
    | ok | error =>
      rw [hlaunch] at hcall
      exact congrArg Prod.snd hcall
  rw [hw] at hraises
  rcases hraises with ⟨hcounts, hact⟩ | ⟨hcounts, hact⟩
  · exact iff_of_false (by omega) (not_not.mpr hcounts)
  · exact iff_of_true hact hcounts

theorem macro_params_refused : exists e w', (actionCall (Env.autoCreating (Option Int)) pumpOid
      (some (.lMacro none)) (.ok ())).exec pumpWorld = (.error e, w') ∧
    w'.unitAct pumpOid = pumpWorld.unitAct pumpOid := by
  have hcall : (actionCall (Env.autoCreating (Option Int)) pumpOid (some (.lMacro none))
      (.ok ())).exec pumpWorld =
        (.error { kind := .invalidData, message := "item is not a macro" }, pumpWorld) := rfl
  exact ⟨_, _, hcall, (rejected_action_iff _ _ hcall).mpr fun h => nomatch h.left⟩

/-- Nothing can be announced: the action is refused, and the counter stays at one. -/
theorem unannounced_pump_counted : exists e w',
    (actionCall { Env.autoCreating (Option Int) with publish := fun _ => .error e } pumpOid
      (some (.unit (some 1))) (.ok ())).exec pumpWorld = (.error e, w') ∧
    pumpWorld.unitAct pumpOid = 0 ∧ w'.unitAct pumpOid = 1 :=
  ⟨{ kind := .failed, message := "" }, _, rfl, rfl, rfl⟩

end Eva4.Core
