import Eva4.Core.BulkFrames

/-!
# Items created by bulk frames

The items that exist come out of a bulk frame as they come out of its events one by one.
A missing item is created one by one from its first event that has no zero time, and the
later events are processed as events; a frame deploys every event, so the last one wins.
-/

namespace Eva4.Core

open Lib Items

variable {V : Type} [EvaCommon V]

/-!
## Drafts

What the events of a frame make of an item they create, with no time where the clock is
read.  One by one, the first event that has no zero time creates the item and the later
ones are processed; in a frame the last status, value and time win.
-/

structure Draft (V : Type) where
  status : ItemStatus
  value : V
  t : Option F64
deriving DecidableEq

namespace Draft

def state (d : Draft V) : ItemState V where
  status := d.status
  value := d.value
  act := none
  ieid := { bootId := 0, t := 0 }
  t := F64.zero

def process (kind : ItemKind) (d : Draft V) (raw : RawStateEvent V) : Draft V :=
  if decide (kind = .lvar) && decide (d.status = 0) && decide (raw.force = .none) then d
  else
    let r := d.state.setFromRawStatus raw none
    { status := r.2.status
      value := r.2.value
      t :=
        match raw.t with
        | some t => if F64.eq t F64.zero then d.t else some t
        | none => if r.1 || raw.force != .none then none else d.t }

def deploy (d : Option (Draft V)) (raw : RawStateEvent V) : Draft V where
  status := raw.status
  value := raw.value.getD ((d.map Draft.value).getD EvaCommon.unit)
  t := raw.t.or (d.bind Draft.t)

def processOrCreate (kind : ItemKind) (d : Option (Draft V)) (raw : RawStateEvent V) :
    Option (Draft V) :=
  match d with
  | some d => some (d.process kind raw)
  | none => if timeIsZero raw.t then none else some (deploy none raw)

end Draft

/-- What the events of a missing item lead to when they are played in their order. -/
def playedEvents (kind : ItemKind) (events : List (RawStateEvent V)) : Option (Draft V) :=
  events.foldl (Draft.processOrCreate kind) none

/-- The last status, the last given value and the last given time of the events. -/
def lastOfEvents (events : List (RawStateEvent V)) : Option (Draft V) :=
  events.getLast?.map fun last =>
    { status := last.status
      value := (events.filterMap RawStateEvent.value).getLast?.getD EvaCommon.unit
      t := (events.filterMap RawStateEvent.t).getLast? }

lemma lastOfEvents_eq_foldl (events : List (RawStateEvent V)) : lastOfEvents events =
      events.foldl (fun d raw => some (Draft.deploy d raw)) none := by
  induction events using List.reverseRecOn with
  | nil => rfl
  | append_singleton events raw ih =>
    rw [List.foldl_append, ← ih]
    unfold lastOfEvents Draft.deploy
    cases hlast : events.getLast? with
    | none =>
      rw [List.getLast?_eq_none_iff.mp hlast]
      cases hv : raw.value <;> cases ht : raw.t <;> simp [hv, ht]
    | some last =>
      cases hv : raw.value <;> cases ht : raw.t <;>
        simp [hv, ht, List.getLast?_append]

/-!
## Drafts and items
-/

def ShowsTime (timeNow : Nat -> F64) (t : Option F64) (x : F64) : Prop :=
  match t with
  | some t => x = t
  | none => exists n, x = timeNow n

/-- The item is what the draft says, created by the sender. -/
structure ShowsDraft (timeNow : Nat -> F64) (oid : OID) (sender : String) (d : Draft V)
    (v : ItemView V) : Prop where
  metaValue : v.metaValue = none
  source : v.source = none
  logic : v.logic = none
  action : v.action = senderAction oid sender
  enabled : v.enabled = true
  state : exists st, v.state = some st ∧ st.status = d.status ∧ st.value = d.value ∧
    (st.act = if oid.kind = .unit then some 0 else none) ∧ ShowsTime timeNow d.t st.t

variable {timeNow : Nat -> F64} {oid : OID} {sender : String}

lemma ShowsDraft.applyRaw (h : ShowsDraft timeNow oid sender d v) {raw : RawStateEvent V}
    {ieid : IEID} {n : Nat} :
    ShowsDraft timeNow oid sender (d.process oid.kind raw)
      (v.applyRaw oid raw ieid (timeNow n)) := by
  rcases h.state with ⟨st, hst, hstatus, hvalue, hact, ht⟩
  unfold ItemView.applyRaw Draft.process
  rw [h.source, h.enabled, hst]
  simp only [Option.isSome_none, Bool.not_true, Bool.false_and, Bool.or_false,
    Bool.false_eq_true, if_false]
  rw [hstatus]
  split
  · exact h
  · rcases st.setFromRaw_content raw none ieid (timeNow n) with ⟨hs, hv, hact', ht'⟩
    rcases ItemState.setFromRawStatus_congr
      (show st.status = d.state.status from hstatus)
      (show st.value = d.state.value from hvalue) with ⟨hchanged, hs', hv'⟩
    rw [h.logic]
    refine ⟨h.metaValue, rfl, rfl, h.action, rfl, _, rfl, hs.trans hs', hv.trans hv',
      hact'.trans hact, ?_⟩
    rw [ht', hchanged]
    cases raw.t with
    | some t =>
      simp only
      split
      · exact ht
      · rfl
    | none =>
      simp only
      split
      · exact ⟨n, rfl⟩
      · exact ht

lemma ShowsDraft.deployed (h : Option.Rel (ShowsDraft timeNow oid sender) d v)
    (hkind : oid.kind ≠ .lMacro) {raw : RawStateEvent V} {ieid : IEID} {n : Nat} :
    ShowsDraft timeNow oid sender (.deploy d raw)
      ((ItemConfigData.fromRawEvent oid raw sender).deployed ieid (timeNow n) v) := by
  -- The state the configuration is applied to: a new one, or the one of the item.
  have hold : exists st : ItemState V,
      (v.bind ItemView.state).getD (ItemState.new0 ieid
        (ItemConfigData.fromRawEvent oid raw sender).oid.kind (timeNow n)) = st ∧
      st.value = (d.map Draft.value).getD EvaCommon.unit ∧
      (st.act = if oid.kind = .unit then some 0 else none) ∧
      ShowsTime timeNow (d.bind Draft.t) st.t := by
    cases h with
    | none => exact ⟨_, rfl, rfl, rfl, n, rfl⟩
    | some hshows =>
      rcases hshows.state with ⟨st, hst, _, hvalue, hact, ht⟩
      refine ⟨st, ?_, hvalue, hact, ht⟩
      rw [Option.bind_some, hst]
      rfl
  rcases hold with ⟨st, hst, hvalue, hact, ht⟩
  have hcond : ¬ (ItemConfigData.fromRawEvent oid raw sender).oid.kind = .lMacro := hkind
  unfold ItemConfigData.deployed
  rw [if_neg hcond, hst]
  refine ⟨rfl, rfl, rfl, rfl, rfl, _, rfl, rfl, ?_, ?_, ?_⟩
  · exact congrArg raw.value.getD hvalue
  · show (if oid.kind = .unit then some 0 else st.act) = _
    rw [hact]
    split <;> rfl
  · show ShowsTime timeNow (raw.t.or (d.bind Draft.t)) (raw.t.getD st.t)
    cases raw.t with
    | some t => rfl
    | none => exact ht

lemma rawView_shows (hkind : oid.kind ≠ .lMacro) (d : Option (Draft V)) {v : Option (ItemView V)}
    (raw : RawStateEvent V) (ieid : IEID) (n : Nat)
    (h : Option.Rel (ShowsDraft timeNow oid sender) d v) :
    Option.Rel (ShowsDraft timeNow oid sender) (Draft.processOrCreate oid.kind d raw)
      (rawView true sender oid raw ieid (timeNow n) v) := by
  cases h with
  | some hshows => exact .some hshows.applyRaw
  | none =>
    unfold Draft.processOrCreate rawView
    cases timeIsZero raw.t with
    | true => exact .none
    | false => exact .some (ShowsDraft.deployed .none hkind)

omit [EvaCommon V] in
lemma sameItem_of_shows (hv : Option.Rel (ShowsDraft timeNow oid sender) d v)
    (hu : Option.Rel (ShowsDraft timeNow oid sender) d u) : Option.Rel (SameItem timeNow) v u := by
  cases hv with
  | none =>
    cases hu
    exact .none
  | @some d v hv =>
    rcases hu with @⟨_, u, hu⟩
    rcases hv.state with ⟨st, hst, hstatus, hvalue, hact, ht⟩
    rcases hu.state with ⟨st', hst', hstatus', hvalue', hact', ht'⟩
    refine .some ⟨hv.metaValue.trans hu.metaValue.symm,
      hv.source.trans hu.source.symm, hv.logic.trans hu.logic.symm,
      hv.action.trans hu.action.symm, hv.enabled.trans hu.enabled.symm, ?_⟩
    rw [hst, hst']
    refine .some ⟨hstatus.trans hstatus'.symm, hvalue.trans hvalue'.symm, hact.trans hact'.symm, ?_⟩
    cases hd : d.t with
    | some t =>
      rw [hd] at ht ht'
      exact Or.inl (Eq.trans ht (Eq.symm ht'))
    | none =>
      rw [hd] at ht ht'
      exact Or.inr ⟨ht, ht'⟩

/-- A clock that stands still at a time of neither draft tells its readings apart. -/
theorem ShowsTime.eq_of_sameTime (h : ShowsTime (fun _ => c) t x)
    (h' : ShowsTime (fun _ => c) t' x') (ht : t ≠ some c) (ht' : t' ≠ some c)
    (hsame : SameTime (fun _ => c) x x') : t = t' := by
  have hreading : SameTime (fun _ => c) x x' -> x = x' := by
    intro hsame
    rcases hsame with heq | hboth
    · exact heq
    · rcases hboth with ⟨⟨_, hx⟩, ⟨_, hx'⟩⟩
      exact hx.trans hx'.symm
  have heq := hreading hsame
  cases t with
  | some a =>
    cases t' with
    | some b => exact congrArg some ((Eq.symm h).trans (heq.trans h'))
    | none =>
      rcases h' with ⟨_, hx'⟩
      exact absurd (congrArg some ((Eq.symm h).trans (heq.trans hx'))) ht
  | none =>
    cases t' with
    | some b =>
      rcases h with ⟨_, hx⟩
      exact absurd (congrArg some ((Eq.symm h').trans (heq.symm.trans hx))) ht'
    | none => rfl

omit [EvaCommon V] in
lemma draft_eq_of_sameItem (hv : Option.Rel (ShowsDraft (fun _ => c) oid sender) d v)
    (hu : Option.Rel (ShowsDraft (fun _ => c) oid sender) e u) (hd : d.bind Draft.t ≠ some c)
    (he : e.bind Draft.t ≠ some c) (hsame : Option.Rel (SameItem fun _ => c) v u) : d = e := by
  cases hsame with
  | none =>
    cases hv
    cases hu
    rfl
  | some hitem =>
    rcases hv with @⟨d, _, hv⟩
    rcases hu with @⟨e, _, hu⟩
    rcases hv.state with ⟨st, hst, hstatus, hvalue, _, ht⟩
    rcases hu.state with ⟨st', hst', hstatus', hvalue', _, ht'⟩
    have hstate := hitem.state
    rw [hst, hst'] at hstate
    rcases hstate with ⟨hstate⟩
    have htime := ht.eq_of_sameTime ht' hd he hstate.t
    cases d
    cases e
    congr
    · exact hstatus.symm.trans (hstate.status.trans hstatus')
    · exact hvalue.symm.trans (hstate.value.trans hvalue')

lemma exists_unusedTime (a b : Option F64) : exists c, a ≠ some c ∧ b ≠ some c := by
  by_cases hnan : a = some .nan ∨ b = some .nan
  · by_cases hinf : a = some (.inf true) ∨ b = some (.inf true)
    · refine ⟨.inf false, ?_, ?_⟩
      · intro h
        simp_all
      · intro h
        simp_all
    · exact ⟨.inf true, fun h => hinf (Or.inl h), fun h => hinf (Or.inr h)⟩
  · exact ⟨.nan, fun h => hnan (Or.inl h), fun h => hnan (Or.inr h)⟩

/-!
## Frames and their events
-/

def Env.withTime (env : Env V) (timeNow : Nat -> F64) : Env V :=
  { env with clock := { env.clock with timeNow := timeNow } }

/-- A frame leaves the same items as its events one by one, whatever the clock shows. -/
def BulkMatches (env : Env V) (w : World V) (raw : List (RawStateBulkEvent V))
    (sender : String) : Prop :=
  forall timeNow oid,
    Option.Rel (SameItem timeNow)
      ((inBulk (env.withTime timeNow) sender raw w).toMem.view oid)
      ((oneByOne (env.withTime timeNow) sender raw w).toMem.view oid)

/--
If the sender may create items: the events of every missing item lead to the last status,
value and time of those that are deployed.
-/
def LastEventsWin (env : Env V) (w : World V) (raw : List (RawStateBulkEvent V))
    (sender : String) : Prop :=
  env.autoCreate.allowed sender = true ->
    forall oid, w.inv.getItem oid = none ->
      playedEvents oid.kind (eventsOf oid raw) =
        lastOfEvents (eventsOf oid (deployedEvents env w raw sender))

/-!
## Frames without repeated events

A frame is the same as its events if no missing item has a second event or one with time
zero, and if every configuration can be saved.
-/

lemma lastEventsWin_of_nodup {raw : List (RawStateBulkEvent V)}
    (hstorage : forall n, (env.storage n).isOk = true)
    (hnodup : ((raw.map RawStateBulkEvent.oid).filter fun oid =>
      (w.inv.getItem oid).isNone).Nodup) (htime : forall r, r ∈ raw -> timeIsZero r.raw.t = false) :
    LastEventsWin env w raw sender := by
  intro hallowed oid hoid
  rw [eventsOf_deployedEvents hstorage hallowed hoid]
  have hlength := length_eventsOf_le_one hnodup (by rw [hoid]; rfl)
  have hevents : forall ev, ev ∈ eventsOf oid raw -> timeIsZero ev.t = false := by
    intro ev hev
    rcases List.mem_map.mp hev with ⟨r, hr, hraw⟩
    rw [← hraw]
    exact htime r (List.mem_of_mem_filter hr)
  match hlist : eventsOf oid raw with
  | [] => rfl
  | [ev] =>
    have hzero := hevents ev (by rw [hlist]; exact List.mem_singleton_self ev)
    rw [lastOfEvents_eq_foldl]
    simp [playedEvents, Draft.processOrCreate, hzero]
  | ev :: ev' :: rest =>
    rw [hlist] at hlength
    simp at hlength

/-!
## Missing and other items
-/

section Frames

variable (env : Env V) {w : World V} {raw : List (RawStateBulkEvent V)}

section

variable (hwf : w.toMem.WellFormed) (hplain : forall r, r ∈ raw -> r.raw.onModified = none)
include hwf hplain

theorem sameItem_of_exists (h : (w.inv.getItem oid).isSome = true) :
    Option.Rel (SameItem env.clock.timeNow)
      ((inBulk env sender raw w).toMem.view oid) ((oneByOne env sender raw w).toMem.view oid) := by
  have hbulk := inBulk_viewRun env hwf hplain sender h
  have hsingle := oneByOne_viewRun env sender raw oid hwf hplain
  rcases Option.isSome_iff_exists.mp h with ⟨item, hitem⟩
  have hstart : (w.toMem.view oid).isSome = true ∧
      Option.Rel (SameItem env.clock.timeNow) (w.toMem.view oid) (w.toMem.view oid) := by
    rw [Mem.view_of_getItem hitem]
    exact ⟨rfl, .some SameItem.refl⟩
  exact (hbulk.related sameView_rawView hsingle hstart).right

theorem sameItem_of_not_allowed (hallowed : env.autoCreate.allowed sender = false)
    (h : w.inv.getItem oid = none) :
    Option.Rel (SameItem env.clock.timeNow) ((inBulk env sender raw w).toMem.view oid)
      ((oneByOne env sender raw w).toMem.view oid) := by
  have hbulk := inBulk_deployRun env hwf hplain sender h
  have hsingle := oneByOne_viewRun env sender raw oid hwf hplain
  have hnil : deployedEvents env w raw sender = [] := by
    apply List.eq_nil_iff_forall_not_mem.mpr
    intro r hr
    rw [(mem_deployedEvents hr).right.right] at hallowed
    cases hallowed
  rw [hnil] at hbulk
  rw [Mem.view_eq_none_iff.mpr h, hallowed] at hsingle
  rw [hsingle.fixed fun _ _ _ => rfl, hbulk.nil_eq]
  exact .none

theorem shows_of_missing (hallowed : env.autoCreate.allowed sender = true)
    (h : w.inv.getItem oid = none) :
    Option.Rel (ShowsDraft env.clock.timeNow oid sender)
        (lastOfEvents (eventsOf oid (deployedEvents env w raw sender)))
        ((inBulk env sender raw w).toMem.view oid) ∧
      Option.Rel (ShowsDraft env.clock.timeNow oid sender)
        (playedEvents oid.kind (eventsOf oid raw))
        ((oneByOne env sender raw w).toMem.view oid) := by
  have hbulk := inBulk_deployRun env hwf hplain sender h
  have hsingle := oneByOne_viewRun env sender raw oid hwf hplain
  rw [Mem.view_eq_none_iff.mpr h, hallowed] at hsingle
  rw [lastOfEvents_eq_foldl]
  by_cases hkind : oid.kind = .lMacro
  · rw [eventsOf_lMacro hkind] at hbulk hsingle ⊢
    rw [eventsOf_lMacro hkind]
    rw [hbulk.nil_eq, hsingle.nil_eq]
    exact ⟨.none, .none⟩
  · exact ⟨hbulk.fold (fun _ _ _ _ _ h => .some (ShowsDraft.deployed h hkind)) .none,
      hsingle.fold (rawView_shows hkind) .none⟩

end

/--
A frame without clauses leaves the same items as its events one by one if and only if
the last events of every missing item are what its events lead to.
-/
theorem bulkMatches_iff (hwf : w.toMem.WellFormed)
    (hplain : forall r, r ∈ raw -> r.raw.onModified = none) (sender : String) :
    BulkMatches env w raw sender <-> LastEventsWin env w raw sender := by
  constructor
  · intro h hallowed oid hoid
    -- The clock stands still at a time that none of the events has.
    rcases exists_unusedTime
      ((lastOfEvents (eventsOf oid (deployedEvents env w raw sender))).bind Draft.t)
      ((playedEvents oid.kind (eventsOf oid raw)).bind Draft.t) with ⟨c, hbulk, hone⟩
    have hshows := shows_of_missing (env.withTime fun _ => c) hwf hplain hallowed hoid
    exact (draft_eq_of_sameItem hshows.left hshows.right hbulk hone
      (h (fun _ => c) oid)).symm
  · intro h timeNow oid
    cases hitem : w.inv.getItem oid with
    | some item =>
      exact sameItem_of_exists (env.withTime timeNow) hwf hplain
        (by rw [hitem]; rfl)
    | none =>
      cases hallowed : env.autoCreate.allowed sender with
      | false => exact sameItem_of_not_allowed (env.withTime timeNow) hwf hplain hallowed hitem
      | true =>
        have hshows := shows_of_missing (env.withTime timeNow) hwf hplain hallowed
          hitem
        have halike := h hallowed oid hitem
        rw [halike] at hshows
        exact sameItem_of_shows hshows.left hshows.right

end Frames

def sensorEvent (id : String) (t : Option F64) : RawStateBulkEvent (Option Int) where
  oid := { kind := .sensor, fullId := id }
  raw := { status := 1, value := some (some 5), t := t }

/-- Two sensors that do not exist, with one event each. -/
theorem bulkMatches_twoSensors : BulkMatches (Env.autoCreating (Option Int)) World.new
      [sensorEvent "a" none, sensorEvent "b" (some (.fin 7))] "eva.controller.a" := by
  apply (bulkMatches_iff (Env.autoCreating (Option Int)) Mem.new_wellFormed (by decide)
    "eva.controller.a").mpr
  exact lastEventsWin_of_nodup (fun _ => rfl) (by decide) (by decide +kernel)

/-- An event with time zero creates its sensor in a frame but not by itself. -/
theorem not_bulkMatches_zeroTime : ¬ BulkMatches (Env.autoCreating (Option Int)) World.new
      [sensorEvent "a" (some F64.zero)] "eva.controller.a" := by
  intro h
  have hsome : forall {timeNow : Nat -> F64} {a b : Option (ItemView (Option Int))},
      Option.Rel (SameItem timeNow) a b -> a.isSome = b.isSome := by
    intro timeNow a b hrel
    cases hrel <;> rfl
  have hsame := hsome (h (fun _ => F64.zero) { kind := .sensor, fullId := "a" })
  exact absurd hsame (by decide +kernel)

end Eva4.Core
