import Eva4.Core.CallRules

/-!
# The order of the locks

The state processor lock is not reentrant.  Bulk frames process their events and append the items
they create with this lock held, and the follow-up of an event may deploy a missing item in a way
that asks for it again.  Actions and deployments take it with the inventory lock held.
-/

namespace Eva4.Core

open Lib Items

variable {V : Type} [EvaCommon V]

/-- The rules on steps are void for a discipline about locks alone. -/
theorem StepRules.of_locks {d : Discipline (World V) (Label V) Lock} (hinv : forall w, d.inv w)
    (hstep : forall w w', d.step w w') : StepRules env d where
  changes := fun w w' _ _ => ⟨hinv w', hstep w w'⟩
  createItem := fun _ _ _ _ _ => ⟨hinv _, hstep _ _⟩
  append := fun _ _ _ _ _ _ _ => ⟨hinv _, hstep _ _⟩

/-!
## Asking for a lock that is held
-/

variable (env : Env V)

/-- No target of a delta is created while the state processor lock is held. -/
def CreatesUnlocked (held : Held Lock) : Label V -> World V -> Prop
  | .deltaLookup clause delta t sender, w =>
    (exists mode, (.stateProcessor, mode) ∈ held) -> ¬ CreatesTarget env w clause delta t sender
  | _, _ => True

def reentryDiscipline : Discipline (World V) (Label V) Lock where
  inv := fun _ => True
  admits := CreatesUnlocked env
  step := fun _ _ => True
  order := fun held lock => lock = .stateProcessor -> forall mode, (.stateProcessor, mode) ∉ held

lemma reentryDiscipline_lockRules : LockRules env (reentryDiscipline env) where
  inventory := by
    intro h
    cases h
  stateProcessor := fun _ _ => List.not_mem_nil
  nested := by
    intro _ mode hmem
    simp at hmem
  bulkCreate := by
    intro _ _ _ _ _ h
    cases h
  bulkFollowUp := by
    intro w item raw clause o sender _ _ _
    cases clause with
    | setOther c =>
      intro _ _ h
      cases h
    | setOtherValueDelta c =>
      intro delta _
      constructor
      · intro h
        cases h
      · intro w' hadmits hcreates
        exact absurd hcreates (hadmits ⟨.exclusive, by simp [bulkHeld]⟩)

/--
In every run in which no delta target is created under the state processor lock, no task
asks for that lock while it holds it.
-/
theorem stateProcessor_not_reentered (env : Env V) (calls : List (CoreCall V)) (w : World V)
    {last : Sys (World V) (Label V) Lock}
    (hrun : Sys.Reaches (CreatesUnlocked env) (CoreCall.system env calls w) last) {i : Nat}
    (hrequested : last.requested i = some .stateProcessor) (mode : Mode) :
    (.stateProcessor, mode) ∉ last.heldBy i := by
  have hstart : (CoreCall.system env calls w).Follows (reentryDiscipline env) :=
    CoreCall.system_follows (StepRules.of_locks (fun _ => trivial) fun _ _ => trivial)
      (reentryDiscipline_lockRules env) trivial
  have hlast : last.Follows (reentryDiscipline env) := Sys.Reaches.follows hstart hrun
  exact hlast.order hrequested rfl mode

def deployedWorld (config : ItemConfigData (Option Int)) : World (Option Int) :=
  World.ofMem (Mem.new.appendItemFromConfigData (Env.autoCreating (Option Int)).clock 1 config).2

def meterFrame (delta : String) : CoreCall (Option Int) :=
  .updateStateFromRawBulk
    [{ oid := { kind := .sensor, fullId := "meter" },
       raw :=
        { status := 1, value := some (some 5),
          onModified := some (.setOtherValueDelta
            { oid := { kind := .sensor, fullId := delta }, period := none,
              onNegative := .process, onError := .process }) } }]
    "eva.controller.a"

def meterSystem (delta : String) : Sys (World (Option Int)) (Label (Option Int)) Lock :=
  CoreCall.system (Env.autoCreating (Option Int)) [meterFrame delta, meterFrame delta]
    (deployedWorld { oid := { kind := .sensor, fullId := "meter" }, value := some (some 1) })

def findsTarget : Label (Option Int) -> World (Option Int) -> Bool
  | .deltaLookup clause _ _ _, w => (w.inv.getItem clause.oid).isSome
  | _, _ => true

def targetFoundRun : Option (Sys (World (Option Int)) (Label (Option Int)) Lock) :=
  (meterSystem "meter").runChecked findsTarget (List.replicate 12 0 ++ [1, 1, 1])

theorem stateProcessor_not_reentered_firstRequest :
    exists last, targetFoundRun = some last ∧
      (.stateProcessor, .exclusive) ∈ last.heldBy 0 ∧
      last.requested 1 = some .stateProcessor ∧ (.stateProcessor, .exclusive) ∉ last.heldBy 1 := by
  have hpass : forall held label (w : World (Option Int)), findsTarget label w = true ->
      CreatesUnlocked (Env.autoCreating (Option Int)) held label w := by
    intro held label w h
    cases label with
    | deltaLookup clause delta t sender =>
      intro _ hcreates
      rw [findsTarget, hcreates.left] at h
      cases h
    | _ => trivial
  refine ⟨_, rfl, List.mem_cons_of_mem _ List.mem_cons_self, rfl, ?_⟩
  exact stateProcessor_not_reentered (Env.autoCreating (Option Int)) _ _
    (Sys.Reaches.of_runChecked hpass (show targetFoundRun = some _ from rfl)) rfl .exclusive

/-- The deployment of the missing sensor asks for the lock the frame holds. -/
theorem meterFrame_reenters_stateProcessor :
    exists last, (meterSystem "delta").run (List.replicate 19 0) = some last ∧
      last.requested 0 = some .stateProcessor ∧ (.stateProcessor, .exclusive) ∈ last.heldBy 0 := by
  have hlast : ((meterSystem "delta").run (List.replicate 19 0)).isSome := by decide +kernel
  have hrequested : (((meterSystem "delta").run (List.replicate 19 0)).bind fun sys =>
      sys.requested 0) = some .stateProcessor := by decide +kernel
  have hheld : ((meterSystem "delta").run (List.replicate 19 0)).map (fun sys => sys.heldBy 0) =
      some [(.stateProcessor, .exclusive)] := by decide +kernel
  rcases Option.isSome_iff_exists.mp hlast with ⟨last, hlast⟩
  simp only [hlast, Option.bind_some, Option.map_some, Option.some.injEq] at hrequested hheld
  refine ⟨last, hlast, hrequested, ?_⟩
  rw [hheld]
  exact List.mem_singleton_self _

/-!
## Waiting in a circle
-/

def LooksUp (clause : OnModified V) (o : RawOutcome V) : Prop :=
  match clause with
  | .setOther c => o.modified = true ∧ c.oid ≠ []
  | .setOtherValueDelta _ => o.delta.isSome = true

/-- No bulk frame creates an item or has a follow-up that looks at the inventory. -/
def BulkStaysInside (held : Held Lock) : Label V -> World V -> Prop
  | .bulkLookup raw sender, w => bulkToCreate env w.inv raw sender = []
  | .applyRaw item raw false, w =>
    (exists mode, (.stateProcessor, mode) ∈ held) ->
      forall clause o, raw.onModified = some clause ->
        (w.applyRaw env item raw).1 = some o -> ¬ LooksUp clause o
  | _, _ => True

def lockRank : Lock -> Nat
  | .inventory => 0
  | .stateProcessor => 1

def rankDiscipline : Discipline (World V) (Label V) Lock where
  inv := fun _ => True
  admits := BulkStaysInside env
  step := fun _ _ => True
  order := Sys.Ranked lockRank

lemma rankDiscipline_lockRules : LockRules env (rankDiscipline env) where
  inventory := fun _ h => absurd h List.not_mem_nil
  stateProcessor := fun _ h => absurd h List.not_mem_nil
  nested := by
    intro h hmem
    rw [List.mem_singleton.mp hmem]
    decide
  bulkCreate := fun _ _ _ hnone hne => absurd hnone hne
  bulkFollowUp := by
    intro w item raw clause o sender hadmits hclause ho
    have hnone := hadmits ⟨.exclusive, by simp [bulkHeld]⟩ clause o hclause ho
    cases clause with
    | setOther c => exact fun hmodified hne => absurd ⟨hmodified, hne⟩ hnone
    | setOtherValueDelta c =>
      intro delta hdelta
      have hsome : o.delta.isSome = true := by
        rw [hdelta]
        rfl
      exact absurd hsome hnone

/-- In every run in which bulk frames stay inside their lock no tasks wait in a circle. -/
theorem no_circularWait (env : Env V) (calls : List (CoreCall V)) (w : World V)
    {last : Sys (World V) (Label V) Lock}
    (hrun : Sys.Reaches (BulkStaysInside env) (CoreCall.system env calls w) last)
    (set : Nat -> Prop) : ¬ last.CircularWait set := by
  have hstart : (CoreCall.system env calls w).Follows (rankDiscipline env) :=
    CoreCall.system_follows (StepRules.of_locks (fun _ => trivial) fun _ _ => trivial)
      (rankDiscipline_lockRules env) trivial
  have hlast : last.Follows (rankDiscipline env) := Sys.Reaches.follows hstart hrun
  have hbound : forall lock, lockRank lock ≤ 1 := by
    intro lock
    cases lock <;> decide
  exact hlast.not_circularWait hbound (fun _ _ horder => horder)

def pumpWorld : World (Option Int) :=
  deployedWorld
    { oid := { kind := .unit, fullId := "pump" },
      action := some { svc := "eva.controller.a", timeout := none, config := none } }

def pumpAction : CoreCall (Option Int) :=
  .action { kind := .unit, fullId := "pump" } (some (.unit (some 1)))

def actionsSystem : Sys (World (Option Int)) (Label (Option Int)) Lock :=
  CoreCall.system (Env.autoCreating (Option Int)) [pumpAction, pumpAction] pumpWorld

def isPlain : Label (Option Int) -> World (Option Int) -> Bool
  | .plain, _ => true
  | _, _ => false

/-- The second action waits for the first one, which waits for none. -/
theorem no_circularWait_twoActions :
    exists last, actionsSystem.runChecked isPlain [0, 0, 0, 0, 1, 1, 1] = some last ∧
      last.requested 1 = some .stateProcessor ∧ (.stateProcessor, .exclusive) ∈ last.heldBy 0 ∧
      ¬ last.CircularWait fun _ => True := by
  have hpass : forall held label (w : World (Option Int)), isPlain label w = true ->
      BulkStaysInside (Env.autoCreating (Option Int)) held label w := by
    intro held label w h
    cases label with
    | plain => trivial
    | _ => cases h
  refine ⟨_, rfl, rfl, List.mem_cons_self, ?_⟩
  exact no_circularWait (Env.autoCreating (Option Int)) _ _ (Sys.Reaches.of_runChecked hpass
    (show actionsSystem.runChecked _ [0, 0, 0, 0, 1, 1, 1] = some _ from rfl)) fun _ => True

def createSystem : Sys (World (Option Int)) (Label (Option Int)) Lock :=
  CoreCall.system (Env.autoCreating (Option Int))
    [pumpAction,
      .updateStateFromRawBulk
        [{ oid := { kind := .sensor, fullId := "new" }, raw := { status := 1 } }]
        "eva.controller.a"]
    pumpWorld

/-- The action holds the inventory, the frame the state processor lock. -/
theorem createSystem_circularWait :
    exists last, createSystem.run [1, 1, 1, 1, 0, 0, 0] = some last ∧
      last.CircularWait fun i => i < 2 := by
  refine ⟨_, rfl, ⟨0, by decide⟩, ?_⟩
  intro i hi
  cases i with
  | zero =>
    exact ⟨.stateProcessor, rfl, 1, by decide, by decide, .exclusive, List.mem_singleton_self _⟩
  | succ i =>
    have hzero : i = 0 := by lia
    rw [hzero]
    exact ⟨.inventory, rfl, 0, by decide, by decide, .shared, List.mem_singleton_self _⟩

end Eva4.Core
