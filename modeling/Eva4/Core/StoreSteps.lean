import Eva4.Core.Sources
import Eva4.Core.StoreProtocol

/-!
# The steps of the operations on local items

Each operation obeys the protocol: what it changes in memory it stores before it ends.  A
deployment into the database stores nothing if it meets an invalid configuration, so it must
not have appended any before.
-/

namespace Eva4.Core

open Lib Items Prog

variable {V : Type} [EvaCommon V] {env : Env V} {phase : SavePhase V}
  {unsaved : Unsaved V}

/-!
## Steps that change no record
-/

structure KeepsRecords (w w' : World V) : Prop where
  inv : w'.inv = w.inv
  nextItem : w.heap.nextItem ≤ w'.heap.nextItem
  enabled : forall item, w'.enabled item = w.enabled item
  stored : w'.stored = w.stored

section

omit [EvaCommon V]

lemma Stores.keepRecords (h : Stores (own ::ₘ others) w) (hkeeps : KeepsRecords w w') :
    Stores (.working own.unsaved ::ₘ others) w' := by
  apply h.keep
  · have hwf := h.wellFormed.of_heap hkeeps.nextItem
    rw [← hkeeps.inv] at hwf
    exact hwf
  · exact hkeeps.stored
  · intro oid
    apply World.localItem_congr
    · rw [hkeeps.inv]
    · exact fun item _ => hkeeps.enabled item

lemma setState_keepsRecords (w : World V) (item : Item V) (st : ItemState V) :
    KeepsRecords w (w.setState item st) := by
  constructor
  · rfl
  · exact le_refl _
  · intro x
    show (Function.update w.heap.cells item.ptr _ x.ptr).enabled = _
    rw [Function.update_apply]
    split
    next heq => rw [World.enabled, heq]
    next => rfl
  · rfl

end

def QuietStep (_ : Held Lock) (label : Label V) (update : World V -> World V) : Prop :=
  label = .plain ∧ forall w, KeepsRecords w (update w)

omit [EvaCommon V] in
lemma quietStep_tells : TellRules (QuietStep (V := V)) where
  tells := by
    intro held update htells
    apply And.intro rfl
    intro w
    have hmem := (htells w).toMem
    exact ⟨congrArg Mem.inv hmem, ge_of_eq (congrArg (fun m => m.heap.nextItem) hmem),
      fun item => congrArg (fun m => (m.heap.cells item.ptr).enabled) hmem,
      (htells w).stored⟩

lemma runs_quiet {p : CoreM V R} (hp : p.Uses QuietStep held) (hphase : phase.unsaved = unsaved) :
    p.Runs storeProtocol (fun phase' _ _ => phase'.unsaved = unsaved) held phase seen := by
  apply Runs.of_uses (I := fun p : SavePhase V => p.unsaved = unsaved) _ hp hphase
  intro held own others label update w hstep hown hinv _
  rw [hstep.left]
  exact ⟨⟨Stores.keepRecords hinv (hstep.right w), trivial⟩, hown⟩

/-!
## Storing
-/

variable {config : ItemRecord V} {configs : List (ItemConfigData V)} {item : Item V}

lemma runs_readConfig (hphase : phase.unsaved = (oid, some (item, config)) :: unsaved) :
    (readConfig item).Runs storeProtocol (fun phase' r _ => r = .ok config ∧
        phase'.unsaved = (oid, some (item, config)) :: unsaved) held phase seen := by
  intro others w hinv _ _
  have hlocal : w.localItem oid = some (item, config) := by
    apply Stores.holds hinv phase (Multiset.mem_cons_self phase others)
    rw [hphase, List.lookup_cons_self]
  apply And.intro ⟨Stores.keep hinv hinv.wellFormed rfl fun _ => rfl, trivial⟩
  exact ⟨rfl, World.itemConfig_of_localItem hlocal, hphase⟩

omit [EvaCommon V] in
lemma eraseP_head : (((oid, entry) :: unsaved).eraseP fun e => e.1 = oid) = unsaved := by
  apply List.eraseP_cons_of_pos
  exact decide_eq_true rfl

lemma runs_saveItemConfig (hstorage : forall n, env.storage n = .ok ())
    (hphase : phase.unsaved = (oid, some (item, config)) :: unsaved)
    (hrest : forall o e, unsaved.lookup o = some e -> phase.unsaved.lookup o = some e) :
    (saveItemConfig env oid config).Runs storeProtocol
      (fun phase' r _ => r = .ok () ∧ phase'.unsaved = unsaved) held phase seen := by
  apply Runs.atomic
  intro others w hinv _ _
  have hnext : (storeProtocol (V := V)).next others phase (.saveConfig oid config) w =
      .working unsaved := by
    show SavePhase.working (phase.unsaved.eraseP fun entry => entry.1 = oid) = _
    rw [hphase, eraseP_head]
  rw [hnext]
  exact ⟨⟨Stores.write hinv hphase hrest rfl rfl, trivial⟩, hstorage w.calls, rfl⟩

/-!
## Creating
-/

section

omit [EvaCommon V]

lemma lookup_nil_of (l : Unsaved V) (o : OID) (e : Option (Item V × ItemRecord V))
    (h : List.lookup o ([] : Unsaved V) = some e) : l.lookup o = some e := by
  cases h

lemma quiet_generateIeid : (generateIeid env).Uses QuietStep held :=
  Uses.atomic ⟨rfl, fun _ => ⟨rfl, le_refl _, fun _ => rfl, rfl⟩⟩

end

lemma runs_newItemIeid (hphase : phase.unsaved = []) :
    (newItemIeid env oid).Runs storeProtocol
      (fun phase' r _ => (oid.kind = .lMacro ∨ r.isSome = true) ∧ phase'.unsaved = [])
      held phase seen := by
  apply Runs.ite
  · intro hkind
    exact Runs.ret ⟨Or.inl hkind, hphase⟩
  · intro _
    apply Runs.bind (runs_quiet quiet_generateIeid hphase)
    intro phase' ieid w hend
    exact Runs.ret ⟨Or.inr rfl, hend⟩

def AddsItem (unsaved : Unsaved V) (phase : SavePhase V) (r : EResult (Item V)) : Prop :=
  match r with
  | .ok item => exists config, phase.unsaved = (item.oid, some (item, config)) :: unsaved
  | .error _ => phase.unsaved = unsaved

lemma runs_createItem (hieid : oid.kind = .lMacro ∨ ieid.isSome = true)
    (hphase : phase.unsaved = unsaved) : (locked .inventory .exclusive
      (onMem (.createLocal oid) fun m => m.createItem env.clock oid ieid none)).Runs
      storeProtocol (fun phase' r _ => AddsItem unsaved phase' r) held phase seen := by
  apply Runs.locked_atomic
  intro others w hinv hadmits
  apply And.intro ⟨Stores.create hinv hieid hadmits, trivial⟩
  show AddsItem unsaved (.working ((Label.createLocal oid).unsaved w phase.unsaved))
    (w.toMem.createItem env.clock oid ieid none).1
  cases hfound : w.inv.getItem oid with
  | none =>
    rcases createItem_new hinv.wellFormed hfound hieid with
      ⟨base, cell, m', _, _, _, _, _, heq⟩
    rw [heq, Label.unsaved_createLocal_new hfound, hphase]
    exact ⟨_, rfl⟩
  | some old =>
    rcases createItem_refused hinv.wellFormed hfound with ⟨⟨e, he⟩, _⟩
    rw [he, Label.unsaved_createLocal_refused hfound]
    exact hphase

section

variable (hstorage : forall n, env.storage n = .ok ())
include hstorage

lemma runs_store {post : SavePhase V -> EResult R -> World V -> Prop}
    (hphase : phase.unsaved = [(item.oid, some (item, config))])
    (hk : forall phase' w, phase'.unsaved = [] -> k.Runs storeProtocol post held phase' w) :
    ((readConfig item).tryThen fun config =>
      (saveItemConfig env item.oid config).tryThen fun _ => k).Runs storeProtocol post held
      phase seen := by
  apply Runs.tryThen (runs_readConfig hphase)
  · intro phase₁ config' w₁ hread
    rcases hread with ⟨hconfig, hphase₁⟩
    injection hconfig with hconfig
    rw [hconfig]
    apply Runs.tryThen (runs_saveItemConfig hstorage hphase₁ (lookup_nil_of _))
    · intro phase₂ _ w₂ hsaved
      exact hk phase₂ w₂ hsaved.right
    · intro _ e _ hsaved
      cases hsaved.left
  · intro _ e _ hread
    cases hread.left

/-- All that the operation changes is stored when it ends. -/
abbrev CoreM.Saves (p : CoreM V R) (held : Held Lock) (phase : SavePhase V) (seen : World V) :
    Prop :=
  p.Runs storeProtocol (fun phase' _ _ => phase'.unsaved = []) held phase seen

lemma runs_createLocalItem (hphase : phase.unsaved = []) :
    (createLocalItem env oid).Saves held phase seen := by
  apply Runs.bind (runs_newItemIeid hphase)
  intro phase₁ ieid w₁ hieid
  apply Runs.tryThen (runs_createItem hieid.left hieid.right)
  · intro phase₂ item w₂ hadded
    rcases hadded with ⟨config, hphase₂⟩
    apply runs_store hstorage hphase₂
    intro phase₃ w₃ hphase₃
    exact Runs.map (runs_quiet (quietStep_tells.announceItem item) hphase₃)
  · exact fun _ _ _ hadded => hadded

/-!
## Deploying
-/

omit hstorage in
lemma runs_appendConfig (config : ItemConfigData V) (hphase : phase.unsaved = unsaved) :
    (appendConfig env config).Runs storeProtocol
      (fun phase' r _ => AddsItem unsaved phase' r ∧ r.isOk = validConfig config) held phase
      seen := by
  apply Runs.locked
  · exact fun _ _ _ _ hend => hend
  · intro _ _
    unfold validConfig
    cases checkItemData config.oid config.logic config.action with
    | error e => exact Runs.ret ⟨hphase, rfl⟩
    | ok _ =>
      apply Runs.atomic_bind
      intro others w hinv _ _
      have hkeeps : KeepsRecords w w.advance := ⟨rfl, le_refl _, fun _ => rfl, rfl⟩
      apply And.intro ⟨Stores.keepRecords hinv hkeeps, trivial⟩
      apply Runs.atomic
      intro others' w' hinv' _ hadmits
      apply And.intro ⟨Stores.append hinv' hadmits, trivial⟩
      rcases Mem.WellFormed.appendNew hinv'.wellFormed config.item
        { state := w.toMem.configState env.clock env.bootId config,
          enabled := config.enabled } (Or.inl rfl) with ⟨m', heq, _⟩
      simp only [heq]
      refine ⟨⟨recordOf (w'.newItem config.item) config.enabled, ?_⟩, rfl⟩
      show _ :: phase.unsaved = _
      rw [hphase]
      rfl

lemma runs_deployToRegistry (lock : Bool) (config : ItemConfigData V) (hphase : phase.unsaved = [])
    :
    (deployToRegistry env lock config).Saves held phase seen := by
  apply Runs.tryThen (runs_appendConfig config hphase)
  · intro phase₁ item w₁ hadded
    rcases hadded.left with ⟨record, hphase₁⟩
    apply runs_store hstorage hphase₁
    intro phase₂ w₂ hphase₂
    apply Runs.bind (runs_quiet (quietStep_tells.read _) hphase₂)
    intro phase₃ st w₃ hphase₃
    have hannounce : (when st.isSome
        (withStateProcessor lock (announceItem env item))).Uses QuietStep held :=
      Uses.when (TellRules.withStateProcessor fun _ => quietStep_tells.announceItem item)
    exact Runs.map (runs_quiet hannounce hphase₃)
  · exact fun _ _ _ hadded => hadded.left

omit hstorage in
theorem runs_appendConfigs (hvalid : forall c, c ∈ configs -> validConfig c = true)
    (hphase : phase.unsaved = unsaved) : (appendConfigs env configs).Runs storeProtocol
      (fun phase' r _ => exists saved, r = .ok saved ∧
        phase'.unsaved.map (fun e => (e.1, e.2.map Prod.snd)) =
          (saved.map fun c => (c.1, some c.2)).reverse ++
            unsaved.map fun e => (e.1, e.2.map Prod.snd)) held phase seen := by
  induction configs generalizing phase unsaved seen with
  | nil =>
    apply Runs.ret
    exact ⟨[], rfl, by rw [hphase]; rfl⟩
  | cons c cs ih =>
    apply Runs.tryThen (runs_appendConfig c hphase)
    · intro phase₁ item w₁ hadded
      rcases hadded.left with ⟨record, hphase₁⟩
      apply Runs.tryThen (runs_readConfig hphase₁)
      · intro phase₂ record' w₂ hread
        rcases hread with ⟨hrecord, hphase₂⟩
        injection hrecord with hrecord
        rw [hrecord]
        apply Runs.tryThen (ih (fun d hd => hvalid d (List.mem_cons_of_mem c hd)) hphase₂)
        · intro phase₃ saved w₃ hsaved
          rcases hsaved with ⟨saved', heq, hphase₃⟩
          injection heq with heq
          apply Runs.ret
          refine ⟨(item.oid, record) :: saved, rfl, ?_⟩
          rw [hphase₃, heq, List.map_cons, List.map_cons, List.reverse_cons, List.append_assoc]
          rfl
        · intro _ e _ hsaved
          rcases hsaved with ⟨_, heq, _⟩
          cases heq
      · intro _ e _ hread
        cases hread.left
    · intro _ e _ hadded
      have hok := hadded.right
      rw [hvalid c List.mem_cons_self] at hok
      cases hok

lemma runs_saveItemsBulk {configs : List (OID × ItemRecord V)}
    (hphase : phase.unsaved.map (fun e => (e.1, e.2.map Prod.snd)) =
      (configs.map fun c => (c.1, some c.2)).reverse) :
    (saveItemsBulk env configs).Runs storeProtocol
      (fun phase' r _ => r = .ok () ∧ phase'.unsaved = []) held phase seen := by
  apply Runs.atomic
  intro others w hinv _ _
  have hstored : ((w.send (.saveConfigs configs)).call).stored =
      (configs.map fun c => (c.1, some c.2)).foldl
        (fun store e => Function.update store e.1 e.2) w.stored := by
    rw [List.foldl_map]
    rfl
  exact ⟨⟨Stores.writeAll hinv hphase rfl hstored, trivial⟩, hstorage w.calls, rfl⟩

omit hstorage in
theorem runs_appendConfigs_invalid {config : ItemConfigData V} (configs : List (ItemConfigData V))
    (hinvalid : validConfig config = false) (hphase : phase.unsaved = unsaved) :
    (appendConfigs env (config :: configs)).Runs storeProtocol
      (fun phase' r _ => r.isOk = false ∧ phase'.unsaved = unsaved) held phase seen := by
  apply Runs.tryThen (runs_appendConfig config hphase)
  · intro phase₁ item w₁ hadded
    have hok := hadded.right
    rw [hinvalid] at hok
    cases hok
  · intro phase₁ e w₁ hadded
    exact ⟨rfl, hadded.left⟩

def AllOrNone (configs : List (ItemConfigData V)) : Prop :=
  (forall c, c ∈ configs -> validConfig c = true) ∨
    exists c cs, configs = c :: cs ∧ validConfig c = false

lemma runs_deployToDb (hconfigs : AllOrNone configs) (hphase : phase.unsaved = []) :
    (deployToDb env configs lock).Saves held phase seen := by
  rcases hconfigs with hall | hfirst
  · apply Runs.tryThen (runs_appendConfigs hall hphase)
    · intro phase₁ saved w₁ hsaved
      rcases hsaved with ⟨saved', heq, hphase₁⟩
      injection heq with heq
      rw [← heq, List.map_nil, List.append_nil] at hphase₁
      apply Runs.tryThen (runs_saveItemsBulk hstorage hphase₁)
      · intro phase₂ _ w₂ hstored
        exact Runs.map (runs_quiet
          (Uses.each (quietStep_tells.announceDeployed lock)) hstored.right)
      · exact fun _ _ _ hstored => hstored.right
    · intro _ e _ hsaved
      rcases hsaved with ⟨_, heq, _⟩
      cases heq
  · rcases hfirst with ⟨c, cs, heq, hinvalid⟩
    rw [heq]
    apply Runs.tryThen (runs_appendConfigs_invalid cs hinvalid hphase)
    · intro _ _ _ hend
      cases hend.left
    · exact fun _ _ _ hend => hend.right

lemma stores_deployLocalItems (hconfigs : env.inventoryDb = true -> AllOrNone configs)
    (hphase : phase.unsaved = []) :
    (deployLocalItems env configs lock).Saves held phase seen := by
  apply Runs.ite
  · intro hdb
    exact runs_deployToDb hstorage (hconfigs hdb) hphase
  · intro _
    apply Runs.tryEach (I := fun p : SavePhase V => p.unsaved = []) _ hphase
    intro config phase' seen' _ hphase'
    exact runs_deployToRegistry hstorage lock config hphase'

end

/-!
## Removing
-/

lemma runs_removeItem (hphase : phase.unsaved = unsaved) :
    (removeItem oid).Runs storeProtocol (fun phase' r _ => phase'.unsaved =
        if r.isSome = true then (oid, none) :: unsaved else unsaved) held phase seen := by
  apply Runs.locked_atomic
  intro others w hinv hadmits
  apply And.intro ⟨Stores.remove hinv hadmits, trivial⟩
  show (Label.removeLocal oid).unsaved w phase.unsaved =
    if (w.toMem.removeItem oid).1.isSome = true then _ else _
  cases hfound : w.inv.getItem oid with
  | none =>
    rw [Label.unsaved_removeLocal_absent hfound, hinv.wellFormed.removeItem_absent hfound]
    exact hphase
  | some item =>
    rcases hinv.wellFormed.removeItem hfound with ⟨m', heq, _⟩
    rw [Label.unsaved_removeLocal_present hfound, heq, hphase]
    rfl

omit [EvaCommon V] in
lemma quiet_unscheduleSave :
    (modify .plain fun w => w.unscheduleSave oid : CoreM V Unit).Uses QuietStep held :=
  Uses.modify ⟨rfl, fun _ => ⟨rfl, le_refl _, fun _ => rfl, rfl⟩⟩

theorem runs_destroyInventoryItem (hphase : phase.unsaved = [(oid, none)] ∨ phase.unsaved = []) :
    (destroyInventoryItem oid).Saves held phase seen := by
  apply Runs.modify
  intro others w hinv _ hadmits
  have hnext : (storeProtocol (V := V)).next others phase (.destroyStored oid) w = .working [] := by
    show SavePhase.working (phase.unsaved.eraseP fun entry => entry.1 = oid) = _
    rcases hphase with hremoved | hnone
    · rw [hremoved, eraseP_head]
    · rw [hnone, List.eraseP_nil]
  rw [hnext]
  refine ⟨⟨?_, trivial⟩, rfl⟩
  rcases hphase with hremoved | hnone
  · exact Stores.write hinv hremoved (lookup_nil_of _) rfl rfl
  · have habsent := hadmits (by rw [hnone]; rfl)
    rw [← hnone]
    exact Stores.forget hinv habsent.right rfl rfl

lemma runs_removeItems (hphase : phase.unsaved = unsaved) :
    (removeItems oids : CoreM V (List OID)).Runs storeProtocol
      (fun phase' removed _ => phase'.unsaved =
        (removed.map fun oid => (oid, none)).reverse ++ unsaved) held phase seen := by
  induction oids generalizing phase unsaved seen with
  | nil => exact Runs.ret hphase
  | cons oid oids ih =>
    apply Runs.bind (runs_removeItem hphase)
    intro phase₁ item w₁ hremoved
    apply Runs.bind (runs_quiet (Uses.when quiet_unscheduleSave) hremoved)
    intro phase₂ _ w₂ hphase₂
    apply Runs.bind (ih hphase₂)
    intro phase₃ removed w₃ hphase₃
    apply Runs.ret
    rw [hphase₃]
    split
    · rw [List.map_cons, List.reverse_cons, List.append_assoc]
      rfl
    · rfl

section

variable (hphase : phase.unsaved = [])
include hphase

lemma runs_destroyItem : (destroyItem item).Saves held phase seen := by
  apply Runs.bind (runs_removeItem hphase)
  intro phase₁ removed w₁ hremoved
  apply Runs.bind (runs_quiet quiet_unscheduleSave hremoved)
  intro phase₂ _ w₂ hphase₂
  apply runs_destroyInventoryItem
  split at hphase₂
  · exact Or.inl hphase₂
  · exact Or.inr hphase₂

lemma runs_destroyLocalItems : (destroyLocalItems mask : CoreM V Unit).Saves held phase seen := by
  apply Runs.bind (runs_quiet (Uses.locked (quietStep_tells.read _)) hphase)
  intro phase₁ items w₁ hphase₁
  apply Runs.each (I := fun p : SavePhase V => p.unsaved = []) _ hphase₁
  exact fun item _ _ _ hphase' => runs_destroyItem hphase'

lemma runs_undeployFromRegistry :
    (undeployFromRegistry oid : CoreM V Unit).Saves held phase seen := by
  apply Runs.bind (runs_removeItem hphase)
  intro phase₁ removed w₁ hremoved
  have hdestroy : CoreM.Saves (when removed.isSome (destroyInventoryItem oid)) held phase₁ w₁ := by
    apply Runs.ite
    · intro hsome
      rw [if_pos hsome] at hremoved
      exact runs_destroyInventoryItem (Or.inl hremoved)
    · intro hnone
      rw [if_neg hnone] at hremoved
      exact Runs.ret hremoved
  apply Runs.bind hdestroy
  exact fun _ _ _ hphase₂ => runs_quiet quiet_unscheduleSave hphase₂

lemma runs_undeployFromDb : (undeployFromDb oids : CoreM V Unit).Saves held phase seen := by
  apply Runs.bind (runs_removeItems hphase)
  intro phase₁ removed w₁ hremoved
  apply Runs.modify
  intro others w hinv _ _
  have hstored : ((w.send (.destroyItems removed)).call).stored =
      (removed.map fun oid => (oid, none)).foldl
        (fun store e => Function.update store e.1 e.2) w.stored := by
    rw [List.foldl_map]
    rfl
  have hunsaved : phase₁.unsaved.map (fun e => (e.1, e.2.map Prod.snd)) =
      (removed.map fun oid => (oid, none)).reverse := by
    rw [hremoved, List.append_nil, List.map_reverse, List.map_map]
    rfl
  exact ⟨⟨Stores.writeAll hinv hunsaved rfl hstored, trivial⟩, rfl⟩

end

lemma runs_undeployLocalItems (configs : List (EResult OID)) (hphase : phase.unsaved = []) :
    (undeployLocalItems env configs).Saves held phase seen := by
  unfold undeployLocalItems
  cases parseOids configs with
  | error e => exact Runs.ret hphase
  | ok oids =>
    have hundeploy : (if env.inventoryDb then undeployFromDb oids
        else each undeployFromRegistry oids : CoreM V Unit).Saves held phase seen := by
      apply Runs.ite
      · intro _
        exact runs_undeployFromDb hphase
      · intro _
        apply Runs.each (I := fun p : SavePhase V => p.unsaved = []) _ hphase
        exact fun oid _ _ _ hphase' => runs_undeployFromRegistry hphase'
    exact Runs.map hundeploy

/-!
## Enabling
-/

lemma runs_saveEnabled (hstorage : forall n, env.storage n = .ok ()) {items : List (Item V)}
    (hsame : forall x y, x ∈ items -> y ∈ items -> x.oid = y.oid -> x = y)
    (hphase : phase.unsaved = items.map fun item => (item.oid, some (item, recordOf item value))) :
    CoreM.Saves (each (fun c => do
      let _ ← saveItemConfig env c.1 c.2
      pure ()) (items.map fun item => (item.oid, recordOf item value))) held phase seen := by
  induction items generalizing phase seen with
  | nil => exact Runs.ret hphase
  | cons item items ih =>
    have hrest : forall o e,
        (items.map fun item => (item.oid, some (item, recordOf item value))).lookup o =
          some e -> phase.unsaved.lookup o = some e := by
      intro o e he
      rw [hphase, List.map_cons, Stores.lookup_cons_if]
      by_cases heq : o = item.oid
      · rcases Stores.lookup_enabled he with ⟨x, hx, hoid, hentry⟩
        have hxy := hsame x item (List.mem_cons_of_mem item hx) List.mem_cons_self (hoid.trans heq)
        rw [if_pos heq, hentry, hxy]
      · rw [if_neg heq]
        exact he
    have hsave : (do
        let _ ← saveItemConfig env item.oid (recordOf item value)
        pure () : CoreM V Unit).Runs storeProtocol
        (fun phase' _ _ => phase'.unsaved =
          items.map fun item => (item.oid, some (item, recordOf item value)))
        held phase seen := by
      apply Runs.bind (runs_saveItemConfig hstorage hphase hrest)
      exact fun _ _ _ hend => Runs.ret hend.right
    apply Runs.bind hsave
    intro phase₁ _ w₁ hphase₁
    apply ih _ hphase₁
    intro x y hx hy
    exact hsame x y (List.mem_cons_of_mem item hx) (List.mem_cons_of_mem item hy)

lemma runs_setLocalItemsEnabled (hstorage : forall n, env.storage n = .ok ())
    (hphase : phase.unsaved = []) :
    (setLocalItemsEnabled env mask value).Saves held phase seen := by
  have henable : (locked .inventory .shared
      (atomic (.enableLocal mask value) fun w => w.setLocalEnabled mask value) :
        CoreM V _).Runs storeProtocol
      (fun phase' configs _ => exists items : List (Item V),
        configs = (items.map fun item => (item.oid, recordOf item value)) ∧
        (forall x y, x ∈ items -> y ∈ items -> x.oid = y.oid -> x = y) ∧
        phase'.unsaved = items.map fun item => (item.oid, some (item, recordOf item value)))
      held phase seen := by
    apply Runs.locked_atomic
    intro others w hinv hadmits
    apply And.intro ⟨Stores.enable hinv hadmits, trivial⟩
    refine ⟨w.localByMask mask, setLocalEnabled_configs hinv.wellFormed, ?_, ?_⟩
    · intro x y hx hy hoid
      have hfound := (mem_localByMask hinv.wellFormed hx).left
      rw [hoid, (mem_localByMask hinv.wellFormed hy).left] at hfound
      injection hfound with heq
      exact heq.symm
    · show _ ++ phase.unsaved = _
      rw [hphase, List.append_nil]
  apply Runs.bind henable
  intro phase₁ configs w₁ henabled
  rcases henabled with ⟨items, hconfigs, hsame, hphase₁⟩
  rw [hconfigs]
  exact Runs.map (runs_saveEnabled hstorage hsame hphase₁)

/-!
## The sensor of a source
-/

lemma runs_findOrCreateSensor (hphase : phase.unsaved = []) :
    (findOrCreateSensor env oid).Saves held phase seen := by
  apply Runs.bind (runs_quiet (quietStep_tells.read _) hphase)
  intro phase₁ found w₁ hphase₁
  apply Runs.bind (runs_quiet quiet_generateIeid hphase₁)
  intro phase₂ ieid w₂ hphase₂
  cases found with
  | some item => exact Runs.ret hphase₂
  | none =>
    have hcreate : (onMem (.createSensor oid) fun m =>
        m.createItem env.clock oid (some ieid) none).Saves held phase₂ w₂ := by
      apply Runs.atomic
      intro others w hinv _ hadmits
      rcases Option.ne_none_iff_exists'.mp hadmits with ⟨old, hold⟩
      exact ⟨⟨Stores.refuse hinv hold, trivial⟩, hphase₂⟩
    apply Runs.tryThen hcreate
    · exact fun _ _ _ hend => Runs.ret hend
    · exact fun _ _ _ hend => hend

lemma quiet_setSensorState :
    (atomic .plain (World.setSensorState env item online ieid) : CoreM V _).Uses
      QuietStep held := by
  apply Uses.atomic
  apply And.intro rfl
  intro w
  show KeepsRecords w (w.setSensorState env item online ieid).2
  unfold World.setSensorState
  cases w.state item with
  | none => exact ⟨rfl, le_refl _, fun _ => rfl, rfl⟩
  | some st =>
    have hkeeps := setState_keepsRecords w item
      (st.forceSetState (some 1) (some (EvaCommon.ofU8 (if online then 1 else 0))) ieid
        (w.heap.now env.clock))
    exact ⟨hkeeps.inv, hkeeps.nextItem, hkeeps.enabled, hkeeps.stored⟩

lemma runs_setSourceSensor {sensorOid : EResult OID} (hphase : phase.unsaved = []) :
    (setSourceSensor env sensorOid online).Saves held phase seen := by
  apply Runs.locked
  · exact fun _ _ _ _ hend => hend
  · intro _ _
    cases sensorOid with
    | error e => exact Runs.ret hphase
    | ok oid =>
      apply Runs.tryThen (runs_findOrCreateSensor hphase)
      · intro phase₁ sensor w₁ hphase₁
        apply Runs.bind (runs_quiet quiet_setSensorState hphase₁)
        intro phase₂ st w₂ hphase₂
        cases st with
        | none => exact Runs.ret hphase₂
        | some st =>
          exact Runs.map (runs_quiet quietStep_tells.processNewState hphase₂)
      · exact fun _ _ _ hend => hend

end Eva4.Core
