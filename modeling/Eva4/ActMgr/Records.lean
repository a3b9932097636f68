import Eva4.ActMgr.Lifecycle

/-!
# The records of launched actions

A launched action is known to the manager by its UUID alone, and the UUID may come from
the client.  Its record is kept until the action is finished and expired, unless a launch
with the same UUID puts another record in its place.
-/

namespace Eva4.ActMgr

open Lib Items AList

variable {V : Type}

inductive Call (V : Type) where
  | launch (args : ActionArgs V) (generated : Uuid) (started : Nat) (now : F64)
  | op (o : Op V)

variable (common : Common V)

namespace Call

def apply (common : Common V) (m : Manager V) : Call V -> Manager V
  | .launch args generated started now =>
    (m.launchAction (Action.create args generated started now)).2
  | .op o => o.apply common m

def run (calls : List (Call V)) (m : Manager V) : Manager V :=
  calls.foldl (fun m c => c.apply common m) m

def launched : Call V -> Option (Uuid × Action V)
  | .launch args generated started now =>
    if args.node.isSome then none
    else some (args.uuid.getD generated, Action.create args generated started now)
  | .op _ => none

def time : Call V -> Option Nat
  | .launch _ _ started _ => some started
  | .op (.cleanup t) => some t
  | .op (.update _) => none

variable {m : Manager V}

lemma launchAction_launched (h : (launch args generated started now).launched = some (uuid, a)) :
    a = Action.create args generated started now ∧ (m.launchAction a).1 = .ok (some uuid) := by
  unfold launched at h
  cases hnode : args.node with
  | some node => simp [hnode] at h
  | none =>
    simp only [hnode, Option.isSome_none, Bool.false_eq_true, if_false,
      Option.some.injEq, Prod.mk.injEq] at h
    refine ⟨h.right.symm, ?_⟩
    have hlocal : a.node = none := by
      rw [← h.right]
      exact hnode
    have huuid : a.uuid = some uuid := by
      rw [← h.right, ← h.left]
      unfold Action.create
      simp only [hnode]
      cases args.uuid <;> rfl
    unfold Manager.launchAction
    rw [hlocal, huuid]
    rfl

lemma lookup_apply_launched {c : Call V} (h : c.launched = some (uuid, a)) :
    lookup k (c.apply common m).actions =
      if k = uuid then some a else lookup k m.actions := by
  cases c with
  | launch args generated started now =>
    rcases launchAction_launched (m := m) h with ⟨ha, hstored⟩
    subst ha
    exact Manager.lookup_launchAction hstored
  | op o => cases h

lemma apply_of_launched_none (h : (launch args generated started now).launched = none) :
    (launch args generated started now).apply common m = m := by
  have hremote : args.node.isSome = true := by
    simp only [launched] at h
    split at h
    next hnode => exact hnode
    next => cases h
  show (m.launchAction (Action.create args generated started now)).2 = m
  unfold Manager.launchAction
  rw [show (Action.create args generated started now).node = args.node from rfl, hremote]
  rfl

end Call

/-!
## Descent
-/

/-- The record is what updates for its UUID have made of the launched action. -/
def Descends (uuid : Uuid) : Action V -> Action V -> Prop :=
  Relation.ReflTransGen fun a b => exists u : Update V, u.uuid = uuid ∧ b = u.onAction common a

/-- The action is finished and older than the manager keeps it. -/
def Manager.Expired (m : Manager V) (action : Action V) (t : Nat) : Prop :=
  Status.completed ≤ action.status ∧ action.started + m.keepFor ≤ t

/-- The UUID of a launch is free, or its record belongs to an expired action. -/
def Call.Fresh (m : Manager V) (c : Call V) : Prop :=
  forall uuid a, c.launched = some (uuid, a) ->
    forall r, AList.lookup uuid m.actions = some r -> m.Expired r a.started

lemma Call.fresh_op : (Call.op o).Fresh m := by
  intro uuid a h
  cases h

variable {uuid : Uuid} {common} {m : Manager V} {a : Action V} {c : Call V}

lemma Call.fresh_of_absent (hlaunched : c.launched = some (uuid, a))
    (h : lookup uuid m.actions = none) : c.Fresh m := by
  intro uuid' a' hlaunched' r hr
  rw [hlaunched] at hlaunched'
  injection hlaunched' with hsame
  injection hsame with huuid
  rw [← huuid, h] at hr
  cases hr

/-- All launches of a run are fresh when they are made. -/
def AllFresh (common : Common V) : Manager V -> List (Call V) -> Prop
  | _, [] => True
  | m, c :: cs => c.Fresh m ∧ AllFresh common (c.apply common m) cs

variable {r' : Action V}

theorem Op.apply_descends {o : Op V} (h : lookup uuid (o.apply common m).actions = some r') :
    exists r, lookup uuid m.actions = some r ∧ Descends common uuid r r' := by
  rcases Op.lookup_apply_some h with ⟨r, hr, hcase⟩
  refine ⟨r, hr, ?_⟩
  rcases hcase with hsame | hupdate
  · rw [hsame]
    exact .refl
  · rcases hupdate with ⟨u, _, huuid, hon⟩
    exact .single ⟨u, huuid, hon⟩

lemma Call.apply_descends (hother : forall a, c.launched ≠ some (uuid, a))
    (h : lookup uuid (c.apply common m).actions = some r') :
    exists r, lookup uuid m.actions = some r ∧ Descends common uuid r r' := by
  cases c with
  | op o => exact Op.apply_descends h
  | launch args generated started now =>
    cases hlaunched : (launch args generated started now).launched with
    | none =>
      rw [Call.apply_of_launched_none common hlaunched] at h
      exact ⟨r', h, .refl⟩
    | some stored =>
      have hne : uuid ≠ stored.1 := by
        intro hsame
        exact hother stored.2 (by rw [hlaunched, hsame])
      rw [Call.lookup_apply_launched common hlaunched, if_neg hne] at h
      exact ⟨r', h, .refl⟩

theorem Call.apply_kept {r : Action V} (hr : lookup uuid m.actions = some r) (hfresh : c.Fresh m) :
    (exists r', lookup uuid (c.apply common m).actions = some r' ∧
      Descends common uuid r r') ∨ exists t, c.time = some t ∧ m.Expired r t := by
  cases c with
  | op o =>
    cases hafter : lookup uuid (o.apply common m).actions with
    | none =>
      rcases Op.lookup_apply_none hr hafter with ⟨t, ho, hexpired⟩
      rw [ho]
      exact Or.inr ⟨t, rfl, hexpired⟩
    | some r' =>
      rcases Op.apply_descends hafter with ⟨b, hb, hdescends⟩
      rw [hr] at hb
      injection hb with hb
      rw [hb]
      exact Or.inl ⟨r', hafter, hdescends⟩
  | launch args generated started now =>
    cases hlaunched : (launch args generated started now).launched with
    | none =>
      rw [Call.apply_of_launched_none common hlaunched]
      exact Or.inl ⟨r, hr, .refl⟩
    | some stored =>
      by_cases hsame : uuid = stored.1
      · rw [hsame] at hr
        have hexpired := hfresh stored.1 stored.2 hlaunched r hr
        have hstarted : stored.2.started = started := by
          rw [(Call.launchAction_launched (m := m) hlaunched).left]
          rfl
        rw [hstarted] at hexpired
        exact Or.inr ⟨started, rfl, hexpired⟩
      · apply Or.inl
        refine ⟨r, ?_, .refl⟩
        rw [Call.lookup_apply_launched common hlaunched, if_neg hsame]
        exact hr

/-!
## Runs
-/

/--
What a run does with the record of an action: the record is stored, or it was until a call
at whose time the action was expired.
-/
def RecordKept (common : Common V) (uuid : Uuid) (a : Action V) (m : Manager V)
    (calls : List (Call V)) : Prop :=
  (exists r, AList.lookup uuid (Call.run common calls m).actions = some r ∧
    Descends common uuid a r) ∨
    exists before c after r t, calls = before ++ c :: after ∧ c.time = some t ∧
      AList.lookup uuid (Call.run common before m).actions = some r ∧
      Descends common uuid a r ∧ (Call.run common before m).Expired r t

lemma recordKept_of_allFresh :
    forall (m : Manager V) (r : Action V), lookup uuid m.actions = some r ->
      Descends common uuid a r -> AllFresh common m calls -> RecordKept common uuid a m calls := by
  induction calls with
  | nil =>
    intro m r hr hdescends _
    exact Or.inl ⟨r, hr, hdescends⟩
  | cons c cs ih =>
    intro m r hr hdescends hfresh
    cases Call.apply_kept hr hfresh.left with
    | inr hexpired =>
      rcases hexpired with ⟨t, htime, hexpired⟩
      exact Or.inr ⟨[], c, cs, r, t, rfl, htime, hr, hdescends, hexpired⟩
    | inl hkept =>
      rcases hkept with ⟨r', hr', hstep⟩
      rcases ih (c.apply common m) r' hr' (hdescends.trans hstep) hfresh.right with hstored | hgone
      · exact Or.inl hstored
      · rcases hgone with ⟨before, c', after, r'', t, hcalls, hrest⟩
        exact Or.inr ⟨c :: before, c', after, r'', t, by rw [hcalls]; rfl, hrest⟩

lemma descends_of_not_launched : forall m : Manager V,
      (forall r, lookup uuid m.actions = some r -> Descends common uuid a r) ->
      (forall c, c ∈ calls -> forall b, c.launched ≠ some (uuid, b)) ->
      forall r, lookup uuid (Call.run common calls m).actions = some r ->
        Descends common uuid a r := by
  induction calls with
  | nil =>
    intro m h _
    exact h
  | cons c cs ih =>
    intro m h hother
    refine ih (c.apply common m) ?_ fun c' hc' => hother c' (List.mem_cons_of_mem c hc')
    intro r' hr'
    rcases Call.apply_descends (hother c List.mem_cons_self) hr' with ⟨r, hr, hstep⟩
    exact (h r hr).trans hstep

/--
In every run whose launches are fresh, the record of a launched action is kept until the
action is finished and expired; and as long as no other action is launched under its UUID,
the updates for the UUID go to this record.
-/
theorem launched_record_kept (common : Common V) (m : Manager V) {c : Call V} {uuid : Uuid}
    {a : Action V} (hlaunch : c.launched = some (uuid, a)) {calls : List (Call V)}
    (hfresh : AllFresh common m (c :: calls)) : RecordKept common uuid a (c.apply common m) calls ∧
      ((forall c', c' ∈ calls -> forall b, c'.launched ≠ some (uuid, b)) ->
        forall r, AList.lookup uuid (Call.run common (c :: calls) m).actions = some r ->
          Descends common uuid a r) := by
  have hstored : lookup uuid (c.apply common m).actions = some a := by
    rw [Call.lookup_apply_launched common hlaunch, if_pos rfl]
  refine ⟨recordKept_of_allFresh _ a hstored .refl hfresh.right, ?_⟩
  intro hother
  refine descends_of_not_launched (c.apply common m) ?_ hother
  intro r hr
  rw [hstored] at hr
  injection hr with hr
  rw [hr]
  exact .refl

def sampleLaunch (fullId : String) (started : Nat) : Call (Option Int) :=
  .launch (sampleArgs fullId) 0 started F64.zero

theorem launched_record_kept_event :
    RecordKept Common.sample 7 (Action.create (sampleArgs "a") 0 0 F64.zero)
      ((sampleLaunch "a" 0).apply Common.sample Manager.empty)
      [.op (.update (.event (sampleEvent 4) F64.zero)), .op (.cleanup 20),
        sampleLaunch "b" 30] := by
  refine (launched_record_kept Common.sample Manager.empty (c := sampleLaunch "a" 0) rfl ?_).left
  exact ⟨Call.fresh_of_absent rfl rfl, Call.fresh_op, Call.fresh_op,
    Call.fresh_of_absent rfl rfl, trivial⟩

/-- The second launch puts its record in the place of the unfinished first action. -/
theorem second_launch_replaces_record :
    exists r r', AList.lookup 7 (Call.run Common.sample [sampleLaunch "a" 0]
        Manager.empty).actions = some r ∧ r.status < .completed ∧ r.i.fullId = "a" ∧
      AList.lookup 7 (Call.run Common.sample [sampleLaunch "a" 0, sampleLaunch "b" 1]
        Manager.empty).actions = some r' ∧ r'.i.fullId = "b" :=
  ⟨_, _, rfl, by decide, rfl, rfl, rfl⟩

end Eva4.ActMgr
