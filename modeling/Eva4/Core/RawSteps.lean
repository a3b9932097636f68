import Eva4.Items.View
import Eva4.Core.DeploySteps
import Eva4.Core.RawState

/-!
# What raw events do to the views of items

An event without a clause for modified items changes the view of its own OID alone, and
what it makes of this view depends on nothing but the event, the view, a new event id and
a reading of the clock.  The same is true of a configuration that is appended.
-/

namespace Eva4
namespace Items

variable {V : Type} [EvaCommon V]

/-- An event as it is applied to an item: remote and disabled items are left alone. -/
def ItemView.applyRaw (oid : OID) (raw : RawStateEvent V) (ieid : IEID) (now : F64)
    (v : ItemView V) : ItemView V :=
  if v.source.isSome || (!v.enabled && raw.force != .full) then v
  else
    match v.state with
    | none => v
    | some st =>
      if decide (oid.kind = .lvar) && decide (st.status = 0) &&
          decide (raw.force = .none) then
        v
      else { v with state := some (st.setFromRaw raw v.logic ieid now).2 }

end Items

namespace Core

open Lib Items

variable {V X : Type}

/-!
## Runs of one view
-/

/-- A step that changes the view of one OID alone. -/
structure ViewStep (env : Env V) (oid : OID)
    (f : IEID -> F64 -> Option (ItemView V) -> Option (ItemView V)) (m m' : Mem V) :
    Prop where
  wellFormed : m'.WellFormed
  view : forall o, m'.view o =
    if o = oid then f (m.heap.ieid env.clock env.bootId) (m.heap.now env.clock) (m.view o)
    else m.view o

variable {env : Env V} {oid : OID}
  {f : IEID -> F64 -> Option (ItemView V) -> Option (ItemView V)}

theorem ViewStep.stay (hwf : m.WellFormed)
    (h : f (m.heap.ieid env.clock env.bootId) (m.heap.now env.clock) (m.view oid) =
      m.view oid) : ViewStep env oid f m m := by
  refine ⟨hwf, ?_⟩
  intro o
  by_cases ho : o = oid
  · rw [if_pos ho, ho, h]
  · rw [if_neg ho]

lemma ViewStep.congr (h : ViewStep env oid f m m')
    (hfg : forall ieid now, f ieid now (m.view oid) = g ieid now (m.view oid)) :
    ViewStep env oid g m m' := by
  refine ⟨h.wellFormed, ?_⟩
  intro o
  rw [h.view o]
  by_cases ho : o = oid
  · rw [if_pos ho, if_pos ho, ho, hfg]
  · rw [if_neg ho, if_neg ho]

/-- A view taken through a list of steps, each with its own event id and clock reading. -/
inductive ViewRun (timeNow : Nat -> F64)
    (f : X -> IEID -> F64 -> Option (ItemView V) -> Option (ItemView V)) :
    List X -> Option (ItemView V) -> Option (ItemView V) -> Prop where
  | nil (v : Option (ItemView V)) : ViewRun timeNow f [] v v
  | cons {x : X} {xs : List X} {v v' : Option (ItemView V)} (ieid : IEID) (n : Nat) :
      ViewRun timeNow f xs (f x ieid (timeNow n) v) v' ->
      ViewRun timeNow f (x :: xs) v v'

lemma ViewStep.run {f : X -> IEID -> F64 -> Option (ItemView V) -> Option (ItemView V)}
    (h : ViewStep env oid (f x) m m') (hrun : ViewRun env.clock.timeNow f xs (m'.view oid) v) :
    ViewRun env.clock.timeNow f (x :: xs) (m.view oid) v := by
  rw [h.view oid, if_pos rfl] at hrun
  exact .cons _ m.heap.tick hrun

lemma ViewStep.view_ne (h : ViewStep env oid f m m') (hne : o ≠ oid) : m'.view o = m.view o :=
  (h.view o).trans (if_neg hne)

section Runs

variable {f : X -> IEID -> F64 -> Option (ItemView V) -> Option (ItemView V)}

lemma ViewRun.fold {R : D -> Option (ItemView V) -> Prop}
    (hstep : forall d v x ieid n, R d v -> R (g d x) (f x ieid (timeNow n) v))
    (hrun : ViewRun timeNow f xs v v') : forall {d : D}, R d v -> R (xs.foldl g d) v' := by
  induction hrun with
  | nil v => exact fun h => h
  | cons ieid n _ ih => exact fun h => ih (hstep _ _ _ ieid n h)

lemma ViewRun.related {R : Option (ItemView V) -> Option (ItemView V) -> Prop}
    (hstep : forall x i m j n v u, R v u ->
      R (f x i (timeNow m) v) (f x j (timeNow n) u)) (hrun : ViewRun timeNow f xs v v') :
    forall {u u' : Option (ItemView V)}, ViewRun timeNow f xs u u' -> R v u -> R v' u' := by
  induction hrun with
  | nil v =>
    intro u u' hother h
    cases hother
    exact h
  | cons ieid n _ ih =>
    intro u u' hother h
    cases hother with
    | cons ieid' n' hother => exact ih hother (hstep _ _ _ _ _ _ _ h)

lemma ViewRun.nil_eq (hrun : ViewRun timeNow f [] v v') : v' = v := by
  cases hrun
  rfl

lemma ViewRun.fixed (hrun : ViewRun timeNow f xs v v') (h : forall x ieid n, f x ieid n v = v) :
    v' = v := by
  induction hrun with
  | nil v => rfl
  | cons ieid n _ ih =>
    rw [h] at ih
    exact ih h

lemma ViewRun.of_map {ys : List Y} :
    forall {v v' : Option (ItemView V)}, ViewRun timeNow f (ys.map g) v v' ->
      ViewRun timeNow (fun y => f (g y)) ys v v' := by
  induction ys with
  | nil =>
    intro v v' hrun
    cases hrun
    exact .nil v
  | cons y ys ih =>
    intro v v' hrun
    cases hrun with
    | cons ieid n hrest => exact .cons ieid n (ih hrest)

end Runs

variable [EvaCommon V]

/-!
## Configurations
-/

def deployView (config : ItemConfigData V) (ieid : IEID) (now : F64)
    (v : Option (ItemView V)) : Option (ItemView V) :=
  some (config.deployed ieid now v)

variable {raw : RawStateEvent V} {w : World V}

lemma appended_viewStep (hwf : m.WellFormed)
    (h : ({ m with heap := m.heap.advance } : Mem V).Appended config.item
      { state := m.configState env.clock env.bootId config, enabled := config.enabled }
      m') : ViewStep env config.oid (deployView config) m m' := by
  refine ⟨h.wellFormed, ?_⟩
  intro oid
  have hview := h.view hwf.advance oid
  by_cases hoid : oid = config.oid
  · apply (hview.trans (if_pos hoid)).trans
    rw [if_pos hoid, m.configState_eq_deployed, hoid]
    rfl
  · rw [if_neg hoid]
    exact hview.trans (if_neg hoid)

theorem ConfigsAppended.viewRun
    (h : ConfigsAppended env configs m m') (hwf : m.WellFormed) (oid : OID) :
    ViewRun env.clock.timeNow deployView
      (configs.filter fun c => decide (c.oid = oid)) (m.view oid) (m'.view oid) := by
  induction h with
  | nil m => exact .nil _
  | @cons c cs m m₁ m' hfirst _ ih =>
    have hstep := appended_viewStep hwf hfirst
    have hrest := ih hfirst.wellFormed
    by_cases hoid : c.oid = oid
    · rw [List.filter_cons_of_pos (by simpa using hoid)]
      rw [← hoid] at hrest ⊢
      exact hstep.run hrest
    · rw [List.filter_cons_of_neg (by simpa using hoid)]
      rw [hstep.view_ne fun h => hoid h.symm] at hrest
      exact hrest

/-!
## Events
-/

def rawView (allowed : Bool) (sender : String) (oid : OID) (raw : RawStateEvent V)
    (ieid : IEID) (now : F64) (v : Option (ItemView V)) : Option (ItemView V) :=
  match v with
  | some v => some (v.applyRaw oid raw ieid now)
  | none =>
    if allowed && !timeIsZero raw.t then deployView (.fromRawEvent oid raw sender) ieid now none
    else none

structure RawApplied (env : Env V) (oid : OID) (raw : RawStateEvent V) (w w' : World V) : Prop where
  inv : w'.inv = w.inv
  calls : w'.calls = w.calls
  step : forall allowed sender, ViewStep env oid (rawView allowed sender oid raw) w.toMem w'.toMem

theorem RawApplied.quiet (h : RawApplied env oid raw w w')
    (hquiet : Quiet w' w'') : RawApplied env oid raw w w'' where
  inv := (congrArg Mem.inv hquiet.toMem).trans h.inv
  calls := hquiet.calls.trans h.calls
  step := by
    intro allowed sender
    rw [hquiet.toMem]
    exact h.step allowed sender

lemma RawApplied.refl (hwf : w.toMem.WellFormed) (hview : w.toMem.view oid = some v)
    (hsame : v.applyRaw oid raw (w.heap.ieid env.clock env.bootId)
      (w.heap.now env.clock) = v) : RawApplied env oid raw w w := by
  refine ⟨rfl, rfl, fun allowed sender => ViewStep.stay hwf ?_⟩
  rw [hview]
  exact congrArg some hsame

lemma exec_applyAndAnnounce_quiet :
    Quiet (w.applyRaw env item raw).2 ((applyAndAnnounce env item raw lock).exec w).2 := by
  unfold applyAndAnnounce
  rw [Prog.exec_bind, Prog.exec_atomic]
  cases (w.applyRaw env item raw).1 with
  | none => exact Quiet.refl
  | some outcome =>
    simp only [Prog.exec_bind, Prog.exec_pure]
    exact exec_processNewState_quiet env item.oid outcome.state _ _

lemma World.applyRaw_applied (hwf : w.toMem.WellFormed) (hitem : w.inv.getItem oid = some item)
    (hsource : item.source = none) (henabled : (!w.enabled item && raw.force != .full) = false)
    (hst : w.state item = some st) : RawApplied env oid raw w (w.applyRaw env item raw).2 := by
  have hview : w.toMem.view oid = some (item.view (w.heap.cells item.ptr)) :=
    Mem.view_of_getItem hitem
  have happly : (item.view (w.heap.cells item.ptr)).applyRaw oid raw
      (w.heap.ieid env.clock env.bootId) (w.heap.now env.clock) =
      if rawIgnored item raw st then item.view (w.heap.cells item.ptr)
      else { item.view (w.heap.cells item.ptr) with
        state := some (st.setFromRaw raw item.logic (w.heap.ieid env.clock env.bootId)
          (w.heap.now env.clock)).2 } := by
    have hcond : ((item.view (w.heap.cells item.ptr)).source.isSome ||
        (!(item.view (w.heap.cells item.ptr)).enabled && raw.force != .full)) = false := by
      rw [Bool.or_eq_false_iff]
      exact ⟨by simp [Item.view, hsource], henabled⟩
    have hcell : (item.view (w.heap.cells item.ptr)).state = some st := hst
    unfold ItemView.applyRaw rawIgnored
    rw [hcond, hcell, hwf.inv.getItem_oid hitem]
    rfl
  unfold World.applyRaw
  rw [hst]
  simp only
  cases hignored : rawIgnored item raw st with
  | true =>
    rw [hignored] at happly
    exact RawApplied.refl hwf hview happly
  | false =>
    rw [hignored] at happly
    refine ⟨rfl, rfl, fun allowed sender => ⟨hwf.of_heap (Nat.le_refl _), ?_⟩⟩
    intro o
    apply (hwf.view_setState hitem _ o).trans
    by_cases ho : o = oid
    · rw [if_pos ho, if_pos ho, ho, hview, Option.map_some]
      exact (congrArg some happly).symm
    · rw [if_neg ho, if_neg ho]

theorem processRawState_applied (env : Env V) (hwf : w.toMem.WellFormed)
    (hitem : w.inv.getItem oid = some item) (hplain : raw.onModified = none) (lock : Bool)
    (sender : String) :
    RawApplied env oid raw w ((processRawState env item raw lock sender).exec w).2 := by
  have hview : w.toMem.view oid = some (item.view (w.heap.cells item.ptr)) :=
    Mem.view_of_getItem hitem
  unfold processRawState processRawStateWith
  cases hsource : item.source with
  | some source =>
    apply RawApplied.refl hwf hview
    simp [ItemView.applyRaw, Item.view, hsource]
  | none =>
    simp only [Option.isSome_none, Bool.false_eq_true, if_false, Prog.exec_bind,
      exec_readEnabled, Prog.exec_ite]
    cases henabled : (!w.enabled item && raw.force != .full) with
    | true =>
      apply RawApplied.refl hwf hview
      have hcond : (!(item.view (w.heap.cells item.ptr)).enabled &&
          raw.force != .full) = true := henabled
      unfold ItemView.applyRaw
      rw [hcond, Bool.or_true]
      rfl
    | false =>
      simp only [Bool.false_eq_true, if_false, exec_readState]
      cases hst : w.state item with
      | none =>
        apply RawApplied.refl hwf hview
        have hcell : (item.view (w.heap.cells item.ptr)).state = none := hst
        unfold ItemView.applyRaw
        rw [hcell]
        split <;> rfl
      | some st =>
        simp only [Option.isNone_some, Bool.false_eq_true, if_false, hplain,
          Prog.exec_pure, exec_withStateProcessor]
        exact (World.applyRaw_applied hwf hitem hsource henabled hst).quiet
          exec_applyAndAnnounce_quiet

end Core
end Eva4
