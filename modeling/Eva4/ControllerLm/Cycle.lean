import Eva4.Lib.Machine

/-!
# Starting and stopping a cycle

The status of a cycle is one atomic value.  A start reads it and then stores `Starting`, the
runner it spawns stores `Running` when it begins and `Stopped` when it ends, and a stop reads the
status before it stores `Stopping`.  All of these are separate steps.
-/

namespace Eva4.ControllerLm

open Lib

inductive CycleStatus where
  | stopped
  | starting
  | running
  | stopping
deriving DecidableEq, Repr

/-- A start that found the cycle stopped, and then the runner it has spawned. -/
inductive StartStage where
  /-- `start` has read `Stopped`. -/
  | loaded
  /-- `start` has stored `Starting`. -/
  | stored
  /-- The runner exists and has not begun. -/
  | spawned
  /-- The runner is at the condition of its loop. -/
  | checking
  /-- The runner is in the loop and waits for the ticker. -/
  | ticking
  /-- The runner is in an iteration: it runs the macro. -/
  | iterating
  /-- The runner has left its loop. -/
  | left
  | ended
deriving DecidableEq, Repr

namespace StartStage

/-- The start has not stored `Running` yet. -/
def Opening (t : StartStage) : Prop :=
  t = .loaded ∨ t = .stored ∨ t = .spawned
deriving Decidable

def Looping (t : StartStage) : Prop :=
  t = .checking ∨ t = .ticking ∨ t = .iterating
deriving Decidable

def Runner (t : StartStage) : Prop :=
  t = .spawned ∨ t.Looping ∨ t = .left
deriving Decidable

end StartStage

/-- The cycle with its starts and the stops that have not stored yet.  `sinceStop` counts the
iterations begun since the first stop after the last start, once that stop has stored. -/
structure Cycle where
  status : CycleStatus
  itersOk : Nat
  timedOut : Nat
  itersErr : Nat
  starts : List StartStage
  pendingStops : Nat
  sinceStop : Option Nat
deriving DecidableEq

inductive CycleEvent where
  | start
  | storeStarting (n : Nat)
  | spawn (n : Nat)
  | storeRunning (n : Nat)
  | check (n : Nat)
  /-- The ticker has ticked, later than one interval after the last tick or not. -/
  | tick (n : Nat) (late : Bool)
  /-- The macro and the error macro, if there is one, have ended. -/
  | ran (n : Nat) (ok : Bool)
  | storeStopped (n : Nat)
  | stop
  | storeStopping
  | reset

variable (s : Cycle)

namespace Cycle

def new : Cycle where
  status := .stopped
  itersOk := 0
  timedOut := 0
  itersErr := 0
  starts := []
  pendingStops := 0
  sinceStop := none

def start : Except String Cycle :=
  if s.status = .stopped then .ok { s with starts := s.starts ++ [.loaded], sinceStop := none }
  else .error "cycle is not in the stopped state"

def stop : Cycle :=
  if s.status ≠ .stopped then { s with pendingStops := s.pendingStops + 1 } else s

def reset : Cycle :=
  { s with itersOk := 0, timedOut := 0, itersErr := 0 }

def setStart (n : Nat) (t : StartStage) : Cycle :=
  { s with starts := s.starts.set n t }

def begun (late : Bool) : Cycle :=
  { s with
    timedOut := if late then s.timedOut + 1 else s.timedOut
    sinceStop := s.sinceStop.map (· + 1) }

def counted (ok : Bool) : Cycle :=
  { s with
    itersOk := if ok then s.itersOk + 1 else s.itersOk
    itersErr := if ok then s.itersErr else s.itersErr + 1 }

def move (n : Nat) (source target : StartStage) (next : Cycle) : Option Cycle :=
  if s.starts[n]? = some source then some (next.setStart n target) else none

def step : Machine Cycle CycleEvent := fun s e =>
  match e with
  | .start =>
    match s.start with
    | .ok s' => some s'
    | .error _ => some s
  | .storeStarting n => s.move n .loaded .stored { s with status := .starting }
  | .spawn n => s.move n .stored .spawned s
  | .storeRunning n => s.move n .spawned .checking { s with status := .running }
  | .check n => s.move n .checking (if s.status = .running then .ticking else .left) s
  | .tick n late => s.move n .ticking .iterating (s.begun late)
  | .ran n ok => s.move n .iterating .checking (s.counted ok)
  | .storeStopped n => s.move n .left .ended { s with status := .stopped }
  | .stop => some s.stop
  | .storeStopping =>
    if s.pendingStops = 0 then none
    else some { s with
      status := .stopping
      pendingStops := s.pendingStops - 1
      sinceStop := some (s.sinceStop.getD 0) }
  | .reset => some s.reset

/-- A start finds the cycle stopped only while no other start is between its read and its store,
and a stop stores only while no start is on its way to the store of `Running`. -/
def Admits : CycleEvent -> Prop
  | .start => s.status = .stopped -> StartStage.loaded ∉ s.starts
  | .storeStopping => forall t, t ∈ s.starts -> ¬ t.Opening
  | _ => True

/-!
## What a step keeps
-/

/-- At most one start has not ended; the status and the count fit its stage. -/
structure Sound : Prop where
  alone : forall {m n : Nat} {a b : StartStage}, s.starts[m]? = some a ->
    s.starts[n]? = some b -> a ≠ .ended -> b ≠ .ended -> m = n
  marked : forall t, t ∈ s.starts -> t ≠ .ended -> t ≠ .loaded -> s.status ≠ .stopped
  stopping : forall count, s.sinceStop = some count -> s.status ≠ .running ∧ count ≤ 1 ∧
    forall t, t ∈ s.starts -> ¬ t.Opening ∧ (t = .ticking -> count = 0)

lemma new_sound : new.Sound where
  alone := by
    intro m n a b ha
    cases ha
  marked := by
    intro t ht
    cases ht
  stopping := by
    intro count hcount
    cases hcount

variable {s} {n : Nat} {t : StartStage}

lemma move_source (hmove : s.move n source target next = some s') : source ∈ s.starts := by
  rcases Option.ite_none_right_eq_some.mp hmove with ⟨hn, _⟩
  exact List.mem_of_getElem? hn

section

variable (h : s.Sound)
include h

lemma Sound.others_ended (ha : s.starts[m]? = some a) (hb : s.starts[n]? = some b)
    (hbusy : a ≠ .ended) (hne : n ≠ m) : b = .ended := by
  by_cases hended : b = .ended
  · exact hended
  · exact absurd (h.alone hb ha hended hbusy) hne

theorem Sound.of_move (hmove : s.move n source target next = some s')
    (hstarts : next.starts = s.starts) (hsource : source ≠ .ended)
    (hmarked : target ≠ .ended -> target ≠ .loaded -> next.status ≠ .stopped)
    (hstopping : forall count, next.sinceStop = some count -> next.status ≠ .running ∧
      count ≤ 1 ∧ ¬ target.Opening ∧ (target = .ticking -> count = 0)) : s'.Sound := by
  rcases of_guard hmove with ⟨hn, hs'⟩
  have hplaces : forall {m : Nat} {t : StartStage}, s'.starts[m]? = some t ->
      (m = n ∧ t = target) ∨ (m ≠ n ∧ t = .ended) := by
    intro m t ht
    rw [← hs', setStart, hstarts] at ht
    rcases getElem?_set_cases hn ht with hsame | hother
    · exact Or.inl hsame
    · exact Or.inr ⟨hother.left, h.others_ended hn hother.right hsource hother.left⟩
  have hmem : forall t, t ∈ s'.starts -> t = target ∨ t = .ended := by
    intro t ht
    rcases List.mem_iff_getElem?.mp ht with ⟨m, hm⟩
    rcases hplaces hm with hsame | hother
    · exact Or.inl hsame.right
    · exact Or.inr hother.right
  have hstatus : s'.status = next.status := by
    rw [← hs']
    rfl
  have hsince : s'.sinceStop = next.sinceStop := by
    rw [← hs']
    rfl
  constructor
  · intro m k a b ha hb hbusya hbusyb
    cases hplaces ha with
    | inr hother => exact absurd hother.right hbusya
    | inl hm =>
      cases hplaces hb with
      | inr hother => exact absurd hother.right hbusyb
      | inl hk => exact hm.left.trans hk.left.symm
  · intro t ht hbusy hloaded
    rw [hstatus]
    rcases hmem t ht with heq | hended
    · rw [heq] at hbusy hloaded
      exact hmarked hbusy hloaded
    · exact absurd hended hbusy
  · intro count hcount
    rw [hsince] at hcount
    rcases hstopping count hcount with ⟨hrunning, hone, hopening, hticking⟩
    rw [hstatus]
    refine ⟨hrunning, hone, ?_⟩
    intro t ht
    rcases hmem t ht with heq | hended
    · rw [heq]
      exact ⟨hopening, hticking⟩
    · rw [hended]
      exact ⟨by decide, fun hticking => StartStage.noConfusion hticking⟩

/-- Once a stop has stored, no start is on its way to the store of `Running`. -/
theorem Sound.not_stopping (ht : t ∈ s.starts) (hopening : t.Opening) : s.sinceStop = none := by
  cases hsince : s.sinceStop with
  | none => rfl
  | some count =>
    rcases h.stopping count hsince with ⟨_, _, hstages⟩
    exact absurd hopening (hstages t ht).left

lemma Sound.start_step (hadmits : s.Admits .start) (hstep : step s .start = some s') :
    s'.Sound := by
  unfold step start at hstep
  by_cases hstopped : s.status = .stopped
  · rw [if_pos hstopped] at hstep
    injection hstep with hs'
    have hended : forall t, t ∈ s.starts -> t = .ended := by
      intro t ht
      by_cases heq : t = .ended
      · exact heq
      · apply absurd hstopped
        apply h.marked t ht heq
        intro hloaded
        rw [hloaded] at ht
        exact hadmits hstopped ht
    have hlast : forall {m : Nat} {t : StartStage}, s'.starts[m]? = some t -> t ≠ .ended ->
        m = s.starts.length ∧ t = .loaded := by
      intro m t ht hbusy
      rw [← hs', getElem?_concat_if] at ht
      split at ht
      · next hm =>
        injection ht with ht
        exact ⟨hm, ht.symm⟩
      · exact absurd (hended t (List.mem_of_getElem? ht)) hbusy
    constructor
    · intro m n a b ha hb hbusya hbusyb
      exact (hlast ha hbusya).left.trans (hlast hb hbusyb).left.symm
    · intro t ht hbusy hloaded
      rcases List.mem_iff_getElem?.mp ht with ⟨m, hm⟩
      exact absurd (hlast hm hbusy).right hloaded
    · intro count hcount
      rw [← hs'] at hcount
      cases hcount
  · rw [if_neg hstopped] at hstep
    cases hstep
    exact h

lemma Sound.storeStopping_step (hadmits : s.Admits .storeStopping)
    (hstep : step s .storeStopping = some s') : s'.Sound := by
  rcases Option.ite_none_left_eq_some.mp hstep with ⟨_, hs'⟩
  cases hs'
  constructor
  · exact h.alone
  · intro t _ _ _ hstopped
    cases hstopped
  · intro count hcount
    injection hcount with hcount
    refine ⟨CycleStatus.noConfusion, ?_⟩
    cases hsince : s.sinceStop with
    | none =>
      rw [hsince] at hcount
      refine ⟨?_, fun t ht => ⟨hadmits t ht, fun _ => hcount.symm⟩⟩
      rw [← hcount]
      exact Nat.zero_le 1
    | some before =>
      rw [hsince] at hcount
      rw [← hcount]
      exact (h.stopping before hsince).right

lemma Sound.step (hadmits : s.Admits e) (hstep : step s e = some s') : s'.Sound := by
  cases e with
  | start => exact h.start_step hadmits hstep
  | storeStopping => exact h.storeStopping_step hadmits hstep
  | storeStarting n =>
    have hnone := h.not_stopping (move_source hstep) (Or.inl rfl)
    apply h.of_move hstep
    · rfl
    · decide
    · exact fun _ _ => CycleStatus.noConfusion
    · intro count hcount
      rw [hnone] at hcount
      cases hcount
  | spawn n =>
    have hnone := h.not_stopping (move_source hstep) (Or.inr (Or.inl rfl))
    apply h.of_move hstep
    · rfl
    · decide
    · exact fun _ _ => h.marked .stored (move_source hstep) (by decide) (by decide)
    · intro count hcount
      rw [hnone] at hcount
      cases hcount
  | storeRunning n =>
    have hnone := h.not_stopping (move_source hstep) (Or.inr (Or.inr rfl))
    apply h.of_move hstep
    · rfl
    · decide
    · exact fun _ _ => CycleStatus.noConfusion
    · intro count hcount
      rw [hnone] at hcount
      cases hcount
  | check n =>
    apply h.of_move hstep
    · rfl
    · decide
    · exact fun _ _ => h.marked .checking (move_source hstep) (by decide) (by decide)
    · intro count hcount
      rcases h.stopping count hcount with ⟨hrunning, hone, _⟩
      rw [if_neg hrunning]
      exact ⟨hrunning, hone, by decide, fun hticking => StartStage.noConfusion hticking⟩
  | tick n late =>
    apply h.of_move hstep
    · rfl
    · decide
    · exact fun _ _ => h.marked .ticking (move_source hstep) (by decide) (by decide)
    · intro count hcount
      rcases Option.map_eq_some_iff.mp hcount with ⟨before, hbefore, hcount⟩
      rcases h.stopping before hbefore with ⟨hrunning, _, hstages⟩
      have hzero : before = 0 := (hstages .ticking (move_source hstep)).right rfl
      refine ⟨hrunning, ?_, by decide, fun hticking => StartStage.noConfusion hticking⟩
      have hone : count = 1 := by
        rw [← hcount, hzero]
      exact Nat.le_of_eq hone
  | ran n ok =>
    apply h.of_move hstep
    · rfl
    · decide
    · exact fun _ _ => h.marked .iterating (move_source hstep) (by decide) (by decide)
    · intro count hcount
      rcases h.stopping count hcount with ⟨hrunning, hone, _⟩
      exact ⟨hrunning, hone, by decide, fun hticking => StartStage.noConfusion hticking⟩
  | storeStopped n =>
    apply h.of_move hstep
    · rfl
    · decide
    · exact fun hended => absurd rfl hended
    · intro count hcount
      rcases h.stopping count hcount with ⟨_, hone, _⟩
      exact ⟨CycleStatus.noConfusion, hone, by decide,
        fun hticking => StartStage.noConfusion hticking⟩
  | stop =>
    injection hstep with hs'
    rw [← hs', stop]
    split
    · exact ⟨h.alone, h.marked, h.stopping⟩
    · exact h
  | reset =>
    cases hstep
    exact ⟨h.alone, h.marked, h.stopping⟩

/-!
## Whole runs
-/

/-- At most one runner, none of them in its loop while the status is `Stopped`, and at most one
more iteration after a stop. -/
structure Safe (s : Cycle) : Prop where
  oneRunner : forall {m n : Nat} {a b : StartStage}, s.starts[m]? = some a ->
    s.starts[n]? = some b -> a.Runner -> b.Runner -> m = n
  stopped : s.status = .stopped -> forall t, t ∈ s.starts -> t.Runner -> t = .left
  afterStop : forall count, s.sinceStop = some count -> count ≤ 1

omit h in
lemma runner_ne_ended (h : t.Runner) : t ≠ .ended := by
  intro hended
  rw [hended] at h
  revert h
  decide

lemma Sound.safe : s.Safe where
  oneRunner ha hb hrunnera hrunnerb :=
    h.alone ha hb (runner_ne_ended hrunnera) (runner_ne_ended hrunnerb)
  stopped := by
    intro hstopped t ht hrunner
    apply absurd hstopped
    apply h.marked t ht (runner_ne_ended hrunner)
    intro hloaded
    rw [hloaded] at hrunner
    revert hrunner
    decide
  afterStop count hcount := (h.stopping count hcount).right.left

end

/-- In every admitted run the cycle starts and stops safely. -/
theorem starts_and_stops_safely {s : Cycle} (hrun : step.Reaches Admits new s) : s.Safe :=
  (hrun.invariant new_sound fun h hadmits hstep => h.step hadmits hstep).safe

def checkAdmits (s : Cycle) : CycleEvent -> Bool
  | .start => decide (s.status = .stopped -> StartStage.loaded ∉ s.starts)
  | .storeStopping => decide (forall t, t ∈ s.starts -> ¬ t.Opening)
  | _ => true

lemma admits_of_check (s : Cycle) (e : CycleEvent) (h : checkAdmits s e = true) : s.Admits e := by
  cases e with
  | start | storeStopping =>
    rw [checkAdmits, decide_eq_true_iff] at h
    exact h
  | _ => trivial

def restarted : List CycleEvent :=
  [.start, .storeStarting 0, .spawn 0, .storeRunning 0, .check 0, .start, .stop, .storeStopping,
    .tick 0 false, .ran 0 true, .check 0, .storeStopped 0, .start, .storeStarting 1, .spawn 1,
    .storeRunning 1]

theorem restarted_safe : exists s, step.runChecked checkAdmits restarted new = some s ∧
      s.starts = [.ended, .checking] ∧ s.itersOk = 1 ∧ s.Safe := by
  apply exists_of_any (p := fun s => decide (s.starts = [.ended, .checking] ∧ s.itersOk = 1))
    (by decide)
  intro s hs hlast
  rcases of_decide_eq_true hlast with ⟨hstarts, hiters⟩
  exact ⟨hstarts, hiters, starts_and_stops_safely (.of_runChecked admits_of_check .start hs)⟩

/-- Two starts that both read `Stopped` before one of them stores leave two runners; and a stop
whose store comes before the runner has stored `Running` is lost: two iterations follow it. -/
theorem overlapping_starts_unsafe : (exists s, step.runChecked (fun _ _ => true)
        [.start, .start, .storeStarting 0, .spawn 0, .storeStarting 1, .spawn 1] new = some s ∧
      s.starts = [.spawned, .spawned] ∧ ¬ s.Safe) ∧ (exists s, step.runChecked (fun _ _ => true)
        [.start, .storeStarting 0, .spawn 0, .stop, .storeStopping, .storeRunning 0, .check 0,
          .tick 0 false, .ran 0 true, .check 0, .tick 0 false] new = some s ∧
      s.sinceStop = some 2 ∧ ¬ s.Safe) := by
  constructor
  · refine ⟨_, rfl, rfl, ?_⟩
    intro hsafe
    have hsame : 0 = 1 := hsafe.oneRunner rfl rfl (Or.inl rfl) (Or.inl rfl)
    cases hsame
  · refine ⟨_, rfl, rfl, ?_⟩
    intro hsafe
    have hone : 2 ≤ 1 := hsafe.afterStop 2 rfl
    omega

end Cycle

end Eva4.ControllerLm
