import Eva4.Core.WorldFrame

/-!
# The steps of a deployment

What one configuration does to the inventory.  The announcements and saves that follow
leave the items as they are.
-/

namespace Eva4.Core

open Lib Items Prog

variable {V : Type}

def validConfig (config : ItemConfigData V) : Bool :=
  (checkItemData config.oid config.logic config.action).isOk

lemma validConfig_cases : (validConfig config = true ∧
      checkItemData config.oid config.logic config.action = .ok ()) ∨ (validConfig config = false ∧
      exists e, checkItemData config.oid config.logic config.action = .error e) := by
  unfold validConfig
  cases checkItemData config.oid config.logic config.action with
  | ok _ => exact Or.inl ⟨rfl, rfl⟩
  | error e => exact Or.inr ⟨rfl, e, rfl⟩

lemma exec_readConfig_local (h : item.source = none) :
    exists config, (readConfig item).exec w = (.ok config, w) := by
  unfold readConfig itemConfig
  rw [exec_read, h]
  exact ⟨_, rfl⟩

variable [EvaCommon V]

/-!
## Appending configurations
-/

lemma exec_appendConfig (env : Env V) (config : ItemConfigData V) {w : World V} :
    (appendConfig env config).exec w =
      ((w.toMem.appendItemFromConfigData env.clock env.bootId config).1,
        w.withMem (w.toMem.appendItemFromConfigData env.clock env.bootId config).2) := by
  unfold appendConfig Mem.appendItemFromConfigData
  cases checkItemData config.oid config.logic config.action with
  | error | ok => rfl

variable {config : ItemConfigData V} {w : World V}

lemma exec_appendConfig_invalid {env : Env V}
    (h : checkItemData config.oid config.logic config.action = .error e) {w : World V} :
    (appendConfig env config).exec w = (.error e, w) := by
  rw [exec_appendConfig, Mem.appendItemFromConfigData_invalid h]
  rfl

structure ConfigAppended (env : Env V) (config : ItemConfigData V) (w w' : World V) : Prop where
  calls : w'.calls = w.calls
  appended : ({ w.toMem with heap := w.heap.advance } : Mem V).Appended config.item
    { state := w.toMem.configState env.clock env.bootId config, enabled := config.enabled } w'.toMem

lemma exec_appendConfig_valid {env : Env V}
    (h : checkItemData config.oid config.logic config.action = .ok ()) (hwf : w.toMem.WellFormed) :
    exists w' : World V,
      (appendConfig env config).exec w = (.ok { config.item with ptr := w.heap.nextItem }, w') ∧
      ConfigAppended env config w w' := by
  rcases hwf.appendItemFromConfigData env.clock env.bootId h with ⟨m', heq, happended⟩
  refine ⟨w.withMem m', ?_, rfl, happended⟩
  rw [exec_appendConfig, heq]

/-!
## Announcing
-/

omit [EvaCommon V] in
lemma exec_withStateProcessor : (withStateProcessor lock p).exec w = p.exec w := by
  cases lock with
  | false => rfl
  | true => exact exec_locked

section

variable (env : Env V)

lemma exec_announceItem_quiet (item : Item V) (w : World V) :
    Quiet w ((announceItem env item).exec w).2 := by
  unfold announceItem
  rw [exec_bind, exec_readState]
  cases w.state item with
  | none => exact Quiet.refl
  | some st => exact exec_processNewState_quiet env item.oid st _ w

lemma exec_announceAndPush_quiet : Quiet w ((announceAndPush env item).exec w).2 := by
  unfold announceAndPush
  rw [exec_bind, exec_readState]
  cases w.state item with
  | none => exact Quiet.refl
  | some st =>
    simp only [exec_bind]
    have hquiet := exec_processNewState_quiet env item.oid st none w
    cases dbState env item.oid st with
    | none => exact hquiet
    | some db => exact hquiet.trans ⟨rfl, rfl⟩

variable (lock : Bool)

lemma exec_announceDeployed_quiet : Quiet w ((announceDeployed env lock oid).exec w).2 := by
  unfold announceDeployed
  rw [exec_locked, exec_bind, exec_getItem]
  cases w.inv.getItem oid with
  | none => exact Quiet.refl
  | some item =>
    simp only [exec_bind, exec_readState, exec_when]
    split
    · rw [exec_withStateProcessor]
      exact exec_announceAndPush_quiet env
    · exact Quiet.refl

lemma exec_each_announceDeployed_quiet :
    Quiet w ((each (announceDeployed env lock) oids).exec w).2 := by
  apply exec_each_induction (announceDeployed env lock) (Quiet w) oids w Quiet.refl
  intro oid _ u hu
  exact hu.trans (exec_announceDeployed_quiet env lock)

/-!
## Whole deployments
-/

variable (configs : List (ItemConfigData V))

lemma exec_deployToDb_toMem : ((deployToDb env configs lock).exec w).2.toMem =
      ((appendConfigs env configs).exec w).2.toMem := by
  unfold deployToDb
  rw [exec_tryThen]
  cases ((appendConfigs env configs).exec w).1 with
  | error e => rfl
  | ok saved =>
    simp only
    rw [exec_tryThen]
    cases ((saveItemsBulk env saved).exec ((appendConfigs env configs).exec w).2).1 with
    | error e => rfl
    | ok _ =>
      simp only [exec_bind, exec_pure]
      exact (exec_each_announceDeployed_quiet env lock).toMem

lemma exec_deployToRegistry_invalid
    (h : checkItemData config.oid config.logic config.action = .error e) :
    (deployToRegistry env lock config).exec w = (.error e, w) := by
  unfold deployToRegistry
  rw [exec_tryThen_error (exec_appendConfig_invalid h)]

theorem exec_deployToRegistry_valid
    (h : checkItemData config.oid config.logic config.action = .ok ()) (hwf : w.toMem.WellFormed) :
    exists w₁ : World V, ConfigAppended env config w w₁ ∧
      ((deployToRegistry env lock config).exec w).2.toMem = w₁.toMem ∧
      ((deployToRegistry env lock config).exec w).2.calls = w.calls + 1 ∧
      ((deployToRegistry env lock config).exec w).1 = env.storage w.calls := by
  rcases exec_appendConfig_valid h hwf with ⟨w₁, heq, happended⟩
  refine ⟨w₁, happended, ?_⟩
  rcases exec_readConfig_local
    (show ({ config.item with ptr := w.heap.nextItem } : Item V).source = none from rfl) with
    ⟨record, hrecord⟩
  unfold deployToRegistry
  rw [exec_tryThen_ok heq, exec_tryThen_ok hrecord, exec_tryThen]
  unfold saveItemConfig
  rw [exec_atomic, happended.calls]
  cases env.storage w.calls with
  | error e => exact ⟨rfl, congrArg (fun n => n + 1) happended.calls, rfl⟩
  | ok _ =>
    simp only [exec_bind, exec_readState, exec_when, exec_pure]
    split
    · rw [exec_withStateProcessor]
      have hquiet := exec_announceItem_quiet env
        { config.item with ptr := w.heap.nextItem }
        (w₁.send (.saveConfig config.oid record)).call
      exact ⟨hquiet.toMem, hquiet.calls.trans (congrArg (fun n => n + 1) happended.calls), trivial⟩
    · exact ⟨rfl, congrArg (fun n => n + 1) happended.calls, trivial⟩

/-!
## What a deployment appends
-/

/-- The configurations a deployment to the registry appends before it ends. -/
def appliedToRegistry (env : Env V) : Nat -> List (ItemConfigData V) -> List (ItemConfigData V)
  | _, [] => []
  | calls, c :: cs =>
    if validConfig c then
      c :: (if (env.storage calls).isOk then appliedToRegistry env (calls + 1) cs else [])
    else []

/-- The configurations a deployment appends before it ends. -/
def appliedConfigs (env : Env V) (calls : Nat) (configs : List (ItemConfigData V)) :
    List (ItemConfigData V) :=
  if env.inventoryDb then configs.takeWhile validConfig
  else appliedToRegistry env calls configs

inductive ConfigsAppended (env : Env V) : List (ItemConfigData V) -> Mem V -> Mem V -> Prop where
  | nil (m : Mem V) : ConfigsAppended env [] m m
  | cons {c : ItemConfigData V} {cs : List (ItemConfigData V)} {m m₁ m' : Mem V} :
      ({ m with heap := m.heap.advance } : Mem V).Appended c.item
        { state := m.configState env.clock env.bootId c, enabled := c.enabled } m₁ ->
      ConfigsAppended env cs m₁ m' -> ConfigsAppended env (c :: cs) m m'

lemma appendConfigs_appended : forall {w : World V}, w.toMem.WellFormed ->
      ConfigsAppended env (configs.takeWhile validConfig) w.toMem
        ((appendConfigs env configs).exec w).2.toMem := by
  induction configs with
  | nil =>
    intro w _
    exact .nil w.toMem
  | cons c cs ih =>
    intro w hwf
    unfold appendConfigs
    cases validConfig_cases with
    | inr hinvalid =>
      rcases hinvalid with ⟨hvalid, e, he⟩
      rw [exec_tryThen_error (exec_appendConfig_invalid he),
        List.takeWhile_cons_of_neg (by simp [hvalid])]
      exact .nil w.toMem
    | inl hvalid =>
      rcases exec_appendConfig_valid hvalid.right hwf with ⟨w', heq, happended⟩
      have hitem : ({ c.item with ptr := w.heap.nextItem } : Item V).source = none :=
        rfl
      rcases exec_readConfig_local hitem with ⟨config, hconfig⟩
      rw [exec_tryThen_ok heq, exec_tryThen_ok hconfig,
        exec_tryThen_map_snd, List.takeWhile_cons_of_pos hvalid.left]
      exact .cons happended.appended (ih happended.appended.wellFormed)

lemma tryEach_deployToRegistry_appended : forall {w : World V}, w.toMem.WellFormed ->
      ConfigsAppended env (appliedToRegistry env w.calls configs) w.toMem
        ((tryEach (deployToRegistry env lock) configs).exec w).2.toMem := by
  induction configs with
  | nil =>
    intro w _
    exact .nil w.toMem
  | cons c cs ih =>
    intro w hwf
    unfold tryEach appliedToRegistry
    cases validConfig_cases with
    | inr hinvalid =>
      rcases hinvalid with ⟨hvalid, e, he⟩
      rw [exec_tryThen_error (exec_deployToRegistry_invalid env lock he),
        if_neg (by simp [hvalid])]
      exact .nil w.toMem
    | inl hvalid =>
      rcases exec_deployToRegistry_valid env lock hvalid.right hwf with
        ⟨w₁, happended, hmem, hcalls, hresult⟩
      have hfirst := happended.appended
      rw [← hmem] at hfirst
      rw [exec_tryThen, hresult, if_pos hvalid.left]
      cases env.storage w.calls with
      | error e => exact .cons hfirst (.nil _)
      | ok _ =>
        have hrest := ih hfirst.wellFormed
        rw [hcalls] at hrest
        exact .cons hfirst hrest

lemma deployLocalItems_appended (hwf : w.toMem.WellFormed) :
    ConfigsAppended env (appliedConfigs env w.calls configs) w.toMem
      ((deployLocalItems env configs lock).exec w).2.toMem := by
  unfold deployLocalItems appliedConfigs
  cases env.inventoryDb with
  | true =>
    simp only [if_true]
    rw [exec_deployToDb_toMem]
    exact appendConfigs_appended env configs hwf
  | false => exact tryEach_deployToRegistry_appended env lock configs hwf

end

end Eva4.Core
