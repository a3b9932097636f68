import Mathlib.Data.List.TakeWhile
import Eva4.Core.RawSteps

/-!
# Bulk frames

A bulk frame looks its items up before it processes any event, and it creates the missing
items at the end, with one deployment.  The module compares this with the events of the
frame processed one by one: item by item, up to event ids and readings of the clock.
-/

namespace Eva4.Core

open Lib Items Prog

variable {V : Type}

/-!
## The same items
-/

section

variable (timeNow : Nat -> F64)

/-- Both times are the same, or both were read from the clock. -/
def SameTime (a b : F64) : Prop :=
  a = b ∨ (exists m, a = timeNow m) ∧ (exists n, b = timeNow n)

structure SameState (a b : ItemState V) : Prop where
  status : a.status = b.status
  value : a.value = b.value
  act : a.act = b.act
  t : SameTime timeNow a.t b.t

/-- The same configuration, and the same state but for event ids and clock readings. -/
structure SameItem (a b : ItemView V) : Prop where
  metaValue : a.metaValue = b.metaValue
  source : a.source = b.source
  logic : a.logic = b.logic
  action : a.action = b.action
  enabled : a.enabled = b.enabled
  state : Option.Rel (SameState timeNow) a.state b.state

end

lemma SameState.refl : SameState timeNow a a :=
  ⟨rfl, rfl, rfl, Or.inl rfl⟩

lemma SameItem.refl : SameItem timeNow a a := by
  refine ⟨rfl, rfl, rfl, rfl, rfl, ?_⟩
  cases a.state with
  | none => exact .none
  | some st => exact .some SameState.refl

/-!
## The events of a frame
-/

def eventsOf (oid : OID) (raw : List (RawStateBulkEvent V)) : List (RawStateEvent V) :=
  (raw.filter fun r => decide (r.oid.kind ≠ .lMacro) && decide (r.oid = oid)).map
    RawStateBulkEvent.raw

variable {oid : OID} {w : World V} {r : RawStateBulkEvent V} {raw rs : List (RawStateBulkEvent V)}
  {sender : String} {env : Env V}

lemma eventsOf_cons_same (hkind : r.oid.kind ≠ .lMacro) :
    eventsOf r.oid (r :: rs) = r.raw :: eventsOf r.oid rs := by
  simp [eventsOf, hkind]

lemma eventsOf_cons_other (h : r.oid.kind = .lMacro ∨ r.oid ≠ oid) :
    eventsOf oid (r :: rs) = eventsOf oid rs := by
  unfold eventsOf
  rcases h with hkind | hoid
  · simp [hkind]
  · simp [hoid]

lemma eventsOf_lMacro (h : oid.kind = .lMacro) : eventsOf oid raw = [] := by
  unfold eventsOf
  rw [List.map_eq_nil_iff, List.filter_eq_nil_iff]
  intro r _ hr
  simp only [Bool.and_eq_true, decide_eq_true_eq] at hr
  exact hr.left (hr.right ▸ h)

lemma length_eventsOf_le_one (h : ((raw.map RawStateBulkEvent.oid).filter p).Nodup)
    (hoid : p oid = true) : (eventsOf oid raw).length ≤ 1 := by
  have hcount := List.nodup_iff_count_le_one.mp h oid
  rw [List.count_filter hoid, List.count_eq_countP, List.countP_map] at hcount
  refine Nat.le_trans ?_ hcount
  unfold eventsOf
  rw [List.length_map, ← List.countP_eq_length_filter]
  apply List.countP_mono_left
  intro r _ hr
  simp only [Bool.and_eq_true, decide_eq_true_eq] at hr
  simpa using hr.right

/-!
## The events that are deployed
-/

lemma validConfig_fromRawEvent (oid : OID) (raw : RawStateEvent V) (sender : String) :
    validConfig (.fromRawEvent oid raw sender : ItemConfigData V) = true := by
  unfold validConfig checkItemData ItemConfigData.fromRawEvent
  cases hkind : oid.kind <;> simp [senderAction, hkind, Except.isOk, Except.toBool]

variable (env)

lemma appliedConfigs_single (calls : Nat) (h : validConfig config = true) :
    appliedConfigs env calls [config] = [config] := by
  unfold appliedConfigs
  split
  · rw [List.takeWhile_cons_of_pos h]
    rfl
  · simp [appliedToRegistry, h]

def savedEvents (storage : Nat -> EResult Unit) : Nat -> List (RawStateBulkEvent V) ->
    List (RawStateBulkEvent V)
  | _, [] => []
  | calls, r :: rs => r :: (if (storage calls).isOk then savedEvents storage (calls + 1) rs else [])

def deployedEvents (w : World V) (raw : List (RawStateBulkEvent V))
    (sender : String) : List (RawStateBulkEvent V) :=
  if env.inventoryDb then bulkToCreate env w.inv raw sender
  else savedEvents env.storage w.calls (bulkToCreate env w.inv raw sender)

lemma mem_of_mem_savedEvents :
    forall {calls : Nat}, r ∈ savedEvents storage calls raw -> r ∈ raw := by
  induction raw with
  | nil => exact fun h => h
  | cons r' rs ih =>
    intro calls h
    rcases List.mem_cons.mp h with hr | hr
    · exact hr ▸ List.mem_cons_self
    · apply List.mem_cons_of_mem
      split at hr
      · exact ih hr
      · cases hr

variable {env} in
lemma mem_deployedEvents (h : r ∈ deployedEvents env w raw sender) :
    r.oid.kind ≠ .lMacro ∧ w.inv.getItem r.oid = none ∧ env.autoCreate.allowed sender = true := by
  have hcreate : r ∈ bulkToCreate env w.inv raw sender := by
    unfold deployedEvents at h
    split at h
    · exact h
    · exact mem_of_mem_savedEvents h
  unfold bulkToCreate at hcreate
  simp only [List.mem_filter, Bool.and_eq_true, Option.isNone_iff_eq_none,
    decide_eq_true_eq] at hcreate
  exact ⟨hcreate.left.right, hcreate.right⟩

lemma appliedToRegistry_rawEvents {raw : List (RawStateBulkEvent V)} :
    forall calls, appliedToRegistry env calls
        (raw.map fun r => .fromRawEvent r.oid r.raw sender) =
      (savedEvents env.storage calls raw).map fun r => .fromRawEvent r.oid r.raw sender := by
  induction raw with
  | nil => exact fun _ => rfl
  | cons r rs ih =>
    intro calls
    simp only [List.map_cons, appliedToRegistry, savedEvents, validConfig_fromRawEvent, if_true]
    split
    · rw [ih]
    · rfl

lemma appliedConfigs_rawEvents : appliedConfigs env w.calls
        ((bulkToCreate env w.inv raw sender).map fun r => .fromRawEvent r.oid r.raw sender) =
      (deployedEvents env w raw sender).map fun r => .fromRawEvent r.oid r.raw sender := by
  unfold appliedConfigs deployedEvents
  split
  · rw [List.takeWhile_eq_self_iff]
    intro config hconfig
    rcases List.mem_map.mp hconfig with ⟨r, _, hr⟩
    rw [← hr]
    exact validConfig_fromRawEvent r.oid r.raw sender
  · exact appliedToRegistry_rawEvents env w.calls

lemma filter_rawEvents : ((deployedEvents env w raw sender).map fun r =>
        (.fromRawEvent r.oid r.raw sender : ItemConfigData V)).filter
          (fun c => decide (c.oid = oid)) =
      (eventsOf oid (deployedEvents env w raw sender)).map fun raw =>
        .fromRawEvent oid raw sender := by
  unfold eventsOf
  rw [List.filter_map, List.map_map]
  have hsame : (deployedEvents env w raw sender).filter
        ((fun c => decide (c.oid = oid)) ∘ fun r =>
          (.fromRawEvent r.oid r.raw sender : ItemConfigData V)) =
      (deployedEvents env w raw sender).filter fun r =>
        decide (r.oid.kind ≠ .lMacro) && decide (r.oid = oid) := by
    apply List.filter_congr
    intro r hr
    simp [(mem_deployedEvents hr).left, ItemConfigData.fromRawEvent]
  rw [hsame]
  apply List.map_congr_left
  intro r hr
  have hoid : r.oid = oid := by
    simp only [List.mem_filter, Bool.and_eq_true, decide_eq_true_eq] at hr
    exact hr.right.right
  simp [hoid]

lemma savedEvents_eq_self (h : forall n, (storage n).isOk = true) :
    forall calls, savedEvents storage calls raw = raw := by
  induction raw with
  | nil => exact fun _ => rfl
  | cons r rs ih =>
    intro calls
    unfold savedEvents
    rw [if_pos (h calls), ih]

variable {env} in
theorem eventsOf_deployedEvents (hstorage : forall n, (env.storage n).isOk = true)
    (hallowed : env.autoCreate.allowed sender = true) (hoid : w.inv.getItem oid = none) :
    eventsOf oid (deployedEvents env w raw sender) = eventsOf oid raw := by
  have hdeployed : deployedEvents env w raw sender = bulkToCreate env w.inv raw sender := by
    unfold deployedEvents
    split
    · rfl
    · exact savedEvents_eq_self hstorage w.calls
  unfold eventsOf
  rw [hdeployed, bulkToCreate, List.filter_filter, List.filter_filter]
  congr 1
  apply List.filter_congr
  intro r _
  by_cases hr : r.oid = oid
  · simp [hr, hoid, hallowed]
  · simp [hr]

variable [EvaCommon V]

/-!
## Events of items that exist
-/

section

variable {raw : RawStateEvent V}

lemma SameState.setFromRaw (h : SameState timeNow a b) {logic : Option Logic} {i j : IEID}
    {m n : Nat} :
    SameState timeNow (a.setFromRaw raw logic i (timeNow m)).2
      (b.setFromRaw raw logic j (timeNow n)).2 := by
  rcases a.setFromRaw_content raw logic i (timeNow m) with ⟨hs, hv, hact, ht⟩
  rcases b.setFromRaw_content raw logic j (timeNow n) with ⟨hs', hv', hact', ht'⟩
  rcases ItemState.setFromRawStatus_congr h.status h.value with
    ⟨hchanged, hstatus, hvalue⟩
  refine ⟨?_, ?_, ?_, ?_⟩
  · rw [hs, hs', hstatus]
  · rw [hv, hv', hvalue]
  · rw [hact, hact', h.act]
  · rw [ht, ht', hchanged]
    cases raw.t with
    | some t =>
      simp only
      split
      · exact h.t
      · exact Or.inl rfl
    | none =>
      simp only
      split
      · exact Or.inr ⟨⟨m, rfl⟩, ⟨n, rfl⟩⟩
      · exact h.t

lemma SameItem.applyRaw (h : SameItem timeNow a b) {oid : OID} {i j : IEID} {m n : Nat} :
    SameItem timeNow (a.applyRaw oid raw i (timeNow m)) (b.applyRaw oid raw j (timeNow n)) := by
  unfold ItemView.applyRaw
  rw [h.source, h.enabled]
  split
  · exact h
  · have hstate := h.state
    cases ha : a.state with
    | none =>
      cases hb : b.state with
      | none => exact h
      | some s =>
        rw [ha, hb] at hstate
        cases hstate
    | some s =>
      cases hb : b.state with
      | none =>
        rw [ha, hb] at hstate
        cases hstate
      | some s' =>
        rw [ha, hb] at hstate
        rcases hstate with ⟨hsame⟩
        simp only
        rw [hsame.status, h.logic]
        split
        · exact h
        · exact ⟨h.metaValue, rfl, rfl, h.action, rfl, .some hsame.setFromRaw⟩

lemma sameView_rawView (raw : RawStateEvent V) (i : IEID) {m : Nat} {j : IEID} {n : Nat}
    {v u : Option (ItemView V)} (h : v.isSome = true ∧ Option.Rel (SameItem timeNow) v u) :
    (rawView allowed sender oid raw i (timeNow m) v).isSome = true ∧
      Option.Rel (SameItem timeNow) (rawView allowed sender oid raw i (timeNow m) v)
        (rawView allowed sender oid raw j (timeNow n) u) := by
  cases h.right with
  | none => cases h.left
  | some hsame => exact ⟨rfl, .some hsame.applyRaw⟩

/-!
## Events one by one
-/

def oneByOne (sender : String) (raw : List (RawStateBulkEvent V)) (w : World V) : World V :=
  raw.foldl (fun u r => ((updateStateFromRaw env r.oid r.raw sender).exec u).2) w

lemma deployRawEvent_viewStep (hwf : w.toMem.WellFormed) (oid : OID) (raw : RawStateEvent V)
    (sender : String) (lock : Bool) :
    ViewStep env oid (deployView (.fromRawEvent oid raw sender)) w.toMem
      ((deployLocalItems env [.fromRawEvent oid raw sender] lock).exec w).2.toMem := by
  have happended := deployLocalItems_appended env lock [.fromRawEvent oid raw sender] hwf
  rw [appliedConfigs_single env _ (validConfig_fromRawEvent oid raw sender)] at happended
  cases happended with
  | cons hfirst hrest =>
    cases hrest with
    | nil => exact appended_viewStep hwf hfirst

lemma updateStateFromRaw_viewStep (hwf : w.toMem.WellFormed) (hkind : oid.kind ≠ .lMacro)
    (hplain : raw.onModified = none) (sender : String) :
    ViewStep env oid (rawView (env.autoCreate.allowed sender) sender oid raw) w.toMem
      ((updateStateFromRaw env oid raw sender).exec w).2.toMem := by
  unfold updateStateFromRaw
  rw [if_neg hkind, exec_bind, exec_locked, exec_getItem]
  cases hitem : w.inv.getItem oid with
  | some item => exact (processRawState_applied env hwf hitem hplain true sender).step _ _
  | none =>
    have hview : w.toMem.view oid = none := Mem.view_eq_none_iff.mpr hitem
    cases hallowed : env.autoCreate.allowed sender with
    | false =>
      apply ViewStep.stay hwf
      simp [hview, rawView]
    | true =>
      simp only [if_true, exec_bind, exec_pure, autoCreateItemFromRaw, exec_when]
      cases hzero : timeIsZero raw.t with
      | true =>
        apply ViewStep.stay hwf
        simp [hview, rawView, hzero]
      | false =>
        apply (deployRawEvent_viewStep env hwf oid raw sender true).congr
        intro ieid now
        simp [hview, rawView, hzero]

end

variable {env} in
theorem ViewStep.runEvents
    (h : ViewStep env r.oid (rawView (env.autoCreate.allowed sender) sender r.oid r.raw) m m')
    (hkind : r.oid.kind ≠ .lMacro)
    (hrun : ViewRun env.clock.timeNow (rawView (env.autoCreate.allowed sender) sender oid)
      (eventsOf oid rs) (m'.view oid) last) :
    ViewRun env.clock.timeNow (rawView (env.autoCreate.allowed sender) sender oid)
      (eventsOf oid (r :: rs)) (m.view oid) last := by
  by_cases hoid : r.oid = oid
  · rw [← hoid] at hrun ⊢
    rw [eventsOf_cons_same hkind]
    exact h.run hrun
  · rw [h.view_ne fun heq => hoid heq.symm] at hrun
    rw [eventsOf_cons_other (Or.inr hoid)]
    exact hrun

theorem oneByOne_viewRun (sender : String) (raw : List (RawStateBulkEvent V)) (oid : OID) :
    forall {w : World V}, w.toMem.WellFormed ->
      (forall r, r ∈ raw -> r.raw.onModified = none) ->
      ViewRun env.clock.timeNow (rawView (env.autoCreate.allowed sender) sender oid)
        (eventsOf oid raw) (w.toMem.view oid) ((oneByOne env sender raw w).toMem.view oid) := by
  induction raw with
  | nil =>
    intro w _ _
    exact .nil _
  | cons r rs ih =>
    intro w hwf hplain
    have hrest : forall r', r' ∈ rs -> r'.raw.onModified = none :=
      fun r' hr' => hplain r' (List.mem_cons_of_mem r hr')
    by_cases hkind : r.oid.kind = .lMacro
    · have hexec : ((updateStateFromRaw env r.oid r.raw sender).exec w).2 = w := by
        unfold updateStateFromRaw
        rw [if_pos hkind]
        rfl
      rw [eventsOf_cons_other (Or.inl hkind), oneByOne, List.foldl_cons, hexec]
      exact ih hwf hrest
    · have hstep := updateStateFromRaw_viewStep env hwf hkind (hplain r List.mem_cons_self) sender
      exact hstep.runEvents hkind (ih hstep.wellFormed hrest)

/-!
## Bulk frames
-/

def inBulk (sender : String) (raw : List (RawStateBulkEvent V)) (w : World V) : World V :=
  ((updateStateFromRawBulk env raw sender).exec w).2

/-- What the first part of a frame does, the events for the items that exist. -/
structure BulkProcessed (sender : String)
    (raw : List (RawStateBulkEvent V)) (w w' : World V) : Prop where
  wellFormed : w'.toMem.WellFormed
  inv : w'.inv = w.inv
  calls : w'.calls = w.calls
  run : forall oid, (w.inv.getItem oid).isSome = true ->
    ViewRun env.clock.timeNow (rawView (env.autoCreate.allowed sender) sender oid)
      (eventsOf oid raw) (w.toMem.view oid) (w'.toMem.view oid)

variable {env} in
lemma BulkProcessed.skip (h : BulkProcessed env sender rs w w')
    (hr : r.oid.kind = .lMacro ∨ w.inv.getItem r.oid = none) :
    BulkProcessed env sender (r :: rs) w w' := by
  refine ⟨h.wellFormed, h.inv, h.calls, ?_⟩
  intro oid hoid
  have hother : r.oid.kind = .lMacro ∨ r.oid ≠ oid := by
    apply hr.imp_right
    intro hnone hsame
    rw [← hsame, hnone] at hoid
    cases hoid
  rw [eventsOf_cons_other hother]
  exact h.run oid hoid

variable {env} in
lemma BulkProcessed.cons (hkind : r.oid.kind ≠ .lMacro) (happlied : RawApplied env r.oid r.raw w w₁)
    (h : BulkProcessed env sender rs w₁ w') : BulkProcessed env sender (r :: rs) w w' := by
  refine ⟨h.wellFormed, h.inv.trans happlied.inv, h.calls.trans happlied.calls, ?_⟩
  intro oid hoid
  rw [← happlied.inv] at hoid
  have hstep := happlied.step (env.autoCreate.allowed sender) sender
  exact hstep.runEvents hkind (h.run oid hoid)

lemma bulkToProcess_processed (sender : String) (raw : List (RawStateBulkEvent V)) :
    forall {w : World V}, w.toMem.WellFormed ->
      (forall r, r ∈ raw -> r.raw.onModified = none) ->
      BulkProcessed env sender raw w
        ((each (fun e => do
          let _ ← processRawState env e.1 e.2 false sender
          pure ()) (bulkToProcess w.inv raw)).exec w).2 := by
  induction raw with
  | nil =>
    intro w hwf _
    exact ⟨hwf, rfl, rfl, fun oid _ => .nil _⟩
  | cons r rs ih =>
    intro w hwf hplain
    have hrest : forall r', r' ∈ rs -> r'.raw.onModified = none :=
      fun r' hr' => hplain r' (List.mem_cons_of_mem r hr')
    by_cases hkind : r.oid.kind = .lMacro
    · have hlist : bulkToProcess w.inv (r :: rs) = bulkToProcess w.inv rs := by
        simp [bulkToProcess, hkind]
      rw [hlist]
      exact (ih hwf hrest).skip (Or.inl hkind)
    · cases hitem : w.inv.getItem r.oid with
      | none =>
        have hlist : bulkToProcess w.inv (r :: rs) = bulkToProcess w.inv rs := by
          simp [bulkToProcess, hkind, hitem]
        rw [hlist]
        exact (ih hwf hrest).skip (Or.inr hitem)
      | some item =>
        have hlist : bulkToProcess w.inv (r :: rs) = (item, r.raw) :: bulkToProcess w.inv rs := by
          simp [bulkToProcess, hkind, hitem]
        have happlied := processRawState_applied env hwf hitem
          (hplain r List.mem_cons_self) false sender
        have htail := ih (happlied.step true sender).wellFormed hrest
        rw [happlied.inv] at htail
        rw [hlist, exec_each_cons]
        simp only [exec_bind, exec_pure]
        exact htail.cons hkind happlied

section

variable (env : Env V) (hwf : w.toMem.WellFormed)
  (hplain : forall r, r ∈ raw -> r.raw.onModified = none) (sender : String)
include hwf hplain

/-- A frame processes the events for items that exist, then it deploys the others. -/
theorem inBulk_steps : exists w₁, BulkProcessed env sender raw w w₁ ∧ ConfigsAppended env
        ((deployedEvents env w raw sender).map fun r => .fromRawEvent r.oid r.raw sender)
        w₁.toMem (inBulk env sender raw w).toMem := by
  have hprocessed := bulkToProcess_processed env sender raw hwf hplain
  refine ⟨_, hprocessed, ?_⟩
  have happended := deployLocalItems_appended env false
    ((bulkToCreate env w.inv raw sender).map fun r => .fromRawEvent r.oid r.raw sender)
    hprocessed.wellFormed
  rw [hprocessed.calls, appliedConfigs_rawEvents] at happended
  unfold inBulk updateStateFromRawBulk
  simp only [exec_bind, exec_locked, exec_read, exec_when]
  cases hempty : (bulkToCreate env w.inv raw sender).isEmpty with
  | true =>
    have hnil : deployedEvents env w raw sender = [] := by
      have hcreate := List.isEmpty_iff.mp hempty
      simp [deployedEvents, hcreate, savedEvents]
    rw [hnil]
    exact .nil _
  | false =>
    simp only [Bool.not_false, if_true, autoCreateItemFromRawBulk, exec_bind, exec_pure]
    exact happended

lemma inBulk_viewRun (hoid : (w.inv.getItem oid).isSome = true) :
    ViewRun env.clock.timeNow (rawView (env.autoCreate.allowed sender) sender oid)
      (eventsOf oid raw) (w.toMem.view oid) ((inBulk env sender raw w).toMem.view oid) := by
  rcases inBulk_steps env hwf hplain sender with ⟨w₁, hprocessed, happended⟩
  have hdeployed := happended.viewRun hprocessed.wellFormed oid
  have hnil : eventsOf oid (deployedEvents env w raw sender) = [] := by
    unfold eventsOf
    rw [List.map_eq_nil_iff, List.filter_eq_nil_iff]
    intro r hr hsame
    simp only [Bool.and_eq_true, decide_eq_true_eq] at hsame
    rw [← hsame.right, (mem_deployedEvents hr).right.left] at hoid
    cases hoid
  rw [filter_rawEvents, hnil] at hdeployed
  rw [hdeployed.nil_eq]
  exact hprocessed.run oid hoid

lemma inBulk_deployRun (hoid : w.inv.getItem oid = none) : ViewRun env.clock.timeNow
      (fun raw => deployView (ItemConfigData.fromRawEvent oid raw sender))
      (eventsOf oid (deployedEvents env w raw sender)) none
      ((inBulk env sender raw w).toMem.view oid) := by
  rcases inBulk_steps env hwf hplain sender with ⟨w₁, hprocessed, happended⟩
  have hdeployed := happended.viewRun hprocessed.wellFormed oid
  have hnone : w₁.toMem.view oid = none := by
    rw [Mem.view_eq_none_iff, hprocessed.inv]
    exact hoid
  rw [filter_rawEvents, hnone] at hdeployed
  exact hdeployed.of_map

end

end Eva4.Core
