import Mathlib.Algebra.GroupWithZero.Nat
import Mathlib.Data.List.ReduceOption

/-!
# Opener plans

An opener moves a drive between positions: it sets the direction, switches the drive on, waits
and switches it off.  Close to an end it goes to the end first.
-/

namespace Eva4.ControllerLm.Plan

inductive Logic where
  | ac
  | rdc
deriving DecidableEq

inductive Command where
  | portOn
  | portOff
  | dPortOn
  | dPortOff
  | delay (duration : Nat)
deriving DecidableEq

/-- Durations are in nanoseconds.  A step is `none` if its number of seconds is not a duration: the
conversion of a negative or a too large one panics. -/
structure PlanConfig where
  logic : Logic
  steps : List (Option Nat)
  warmupOpen : Option Nat
  warmupClose : Option Nat
  tuning : Option Nat
  ts : Option Int
  te : Option Int

variable (config : PlanConfig) (fits : Nat -> Bool) (breakOnStatusError : Bool)

def endPos : Int :=
  config.steps.length

def durations : List Nat :=
  config.steps.reduceOption

def delayUp (cur req : Int) : Nat :=
  config.warmupOpen.getD 0 +
    (((durations config).drop cur.toNat).take (req - cur).toNat).sum +
      if req = endPos config then config.tuning.getD 0 else 0

def delayDown (cur req : Int) : Nat :=
  config.warmupClose.getD 0 +
    (((durations config).reverse.drop (endPos config - cur).toNat).take (cur - req).toNat).sum +
      if req = 0 then config.tuning.getD 0 else 0

def goUp (delay : Nat) : List Command :=
  match config.logic with
  | .ac => [.dPortOn, .portOn, .delay delay, .portOff]
  | .rdc => [.dPortOff, .portOn, .delay delay, .portOff]

def goDown (delay : Nat) : List Command :=
  match config.logic with
  | .ac => [.dPortOff, .portOn, .delay delay, .portOff]
  | .rdc => [.portOff, .dPortOn, .delay delay, .dPortOff]

inductive NoPlan where
  | failed (message : String)
  | panicked
  /-- The source calls itself deeper than the fuel allows. -/
  | unfinished
deriving DecidableEq

/-- A sum of durations panics unless it `fits` into one. -/
def generate : Nat -> Int -> Int -> Except NoPlan (List Command)
  | 0, _, _ => .error .unfinished
  | fuel + 1, cur, req =>
    if 127 < endPos config then
      .error (.failed "out of range integral type conversion attempted")
    else if req < 0 ∨ cur < 0 ∨ endPos config < cur ∨ endPos config < req then
      .error (.failed "step out of bounds")
    else if cur < 0 ∧ breakOnStatusError then
      .error (.failed "current step is unknown (the unit has error status)")
    else if none ∈ config.steps then .error .panicked
    else if cur = req then return []
    else if cur < req then
      if config.te.any (· <= req) ∧ req ≠ endPos config then do
        let planTe <- generate fuel cur (endPos config)
        let planTgt <- generate fuel (endPos config) req
        return planTe ++ planTgt
      else if fits (delayUp config cur req) then return goUp config (delayUp config cur req)
      else .error .panicked
    else if config.ts.any (req <= ·) ∧ req ≠ 0 then do
      let planTs <- generate fuel cur 0
      let planTgt <- generate fuel 0 req
      return planTs ++ planTgt
    else if fits (delayDown config cur req) then return goDown config (delayDown config cur req)
    else .error .panicked

/-!
## How a plan is put together
-/

def between (a b : Int) : Nat :=
  (((durations config).drop (min a b).toNat).take (a - b).natAbs).sum

def wait (a b : Int) : Nat :=
  (if a < b then config.warmupOpen else config.warmupClose).getD 0 + between config a b +
    if b = 0 ∨ b = endPos config then config.tuning.getD 0 else 0

def move (a b : Int) : List Command :=
  match config.logic with
  | .ac => [if a < b then .dPortOn else .dPortOff, .portOn, .delay (wait config a b), .portOff]
  | .rdc =>
    if a < b then [.dPortOff, .portOn, .delay (wait config a b), .portOff]
    else [.portOff, .dPortOn, .delay (wait config a b), .dPortOff]

def turn (cur req : Int) : Option Int :=
  if cur < req ∧ config.te.any (· <= req) ∧ req ≠ endPos config then some (endPos config)
  else if req < cur ∧ config.ts.any (req <= ·) ∧ req ≠ 0 then some 0
  else none

def journey (cur req : Int) : List Command :=
  match turn config cur req with
  | none => if cur = req then [] else move config cur req
  | some mid => move config cur mid ++ move config mid req

def WaitsFit (cur req : Int) : Prop :=
  match turn config cur req with
  | none => cur = req ∨ fits (wait config cur req) = true
  | some mid => fits (wait config cur mid) = true ∧ fits (wait config mid req) = true

def Reachable (cur req : Int) : Prop :=
  endPos config <= 127 ∧ 0 <= cur ∧ cur <= endPos config ∧ 0 <= req ∧ req <= endPos config

variable {config fits breakOnStatusError}

lemma delayUp_eq_wait (hcur : 0 <= cur) (hlt : cur < req) :
    delayUp config cur req = wait config cur req := by
  have hlow : min cur req = cur := by omega
  have hcount : (cur - req).natAbs = (req - cur).toNat := by omega
  have hreq : req ≠ 0 := by omega
  simp [delayUp, wait, between, hlt, hlow, hcount, hreq]

lemma durations_length (hsteps : none ∉ config.steps) :
    (durations config).length = config.steps.length := by
  rw [durations, List.reduceOption_length_eq_iff]
  intro step hstep
  exact Option.isSome_iff_ne_none.mpr fun hnone => hsteps (hnone ▸ hstep)

lemma delayDown_eq_wait (hsteps : none ∉ config.steps) (hcur : cur <= endPos config)
    (hreq : 0 <= req) (hgt : req < cur) : delayDown config cur req = wait config cur req := by
  have hlow : min cur req = req := by omega
  have hup : ¬ cur < req := by omega
  have hend : req ≠ endPos config := by omega
  unfold endPos at hcur
  have hfront : config.steps.length - (endPos config - cur).toNat = cur.toNat := by
    unfold endPos
    omega
  have hskip : min cur.toNat config.steps.length - (cur - req).toNat = req.toNat := by omega
  have hcount : cur.toNat - req.toNat = (cur - req).natAbs := by omega
  -- counted from the end, the steps are those from the lower position on
  have hsum : (((durations config).reverse.drop (endPos config - cur).toNat).take
      (cur - req).toNat).sum = between config cur req := by
    rw [List.drop_reverse, List.take_reverse, List.sum_reverse, List.length_take,
      durations_length hsteps, hfront, hskip, List.drop_take, hcount, between, hlow]
  simp only [delayDown, wait, hup, hend, hsum, if_false, or_false]

lemma generate_step (h : Reachable config cur req) :
    generate config fits breakOnStatusError (fuel + 1) cur req =
      if none ∈ config.steps then .error .panicked
      else match turn config cur req with
        | none =>
          if cur = req then .ok []
          else if fits (wait config cur req) then .ok (move config cur req)
          else .error .panicked
        | some mid => do
          let first <- generate config fits breakOnStatusError fuel cur mid
          let second <- generate config fits breakOnStatusError fuel mid req
          return first ++ second := by
  rcases h with ⟨hlen, hcur, hcur', hreq, hreq'⟩
  have hbounds : ¬ (req < 0 ∨ cur < 0 ∨ endPos config < cur ∨ endPos config < req) := by omega
  rw [generate, if_neg (by omega), if_neg hbounds, if_neg (by omega), turn]
  refine if_ctx_congr Iff.rfl (fun _ => rfl) fun hsteps => ?_
  rcases Int.lt_trichotomy cur req with hlt | heq | hgt
  · have hdown : ¬ req < cur := by omega
    rw [if_neg (Int.ne_of_lt hlt), if_neg (Int.ne_of_lt hlt), delayUp_eq_wait hcur hlt]
    simp only [hlt, hdown, if_true, if_false, true_and, false_and, goUp, move]
    split <;> rfl
  · simp [heq]
    rfl
  · have hup : ¬ cur < req := by omega
    rw [if_neg (Int.ne_of_gt hgt), if_neg (Int.ne_of_gt hgt),
      delayDown_eq_wait hsteps hcur' hreq hgt]
    simp only [hgt, hup, if_false, true_and, false_and, goDown, move]
    split <;> rfl

lemma generate_refused (hin : ¬ Reachable config cur req)
    (h : generate config fits breakOnStatusError (fuel + 1) cur req = res) :
    exists message, res = .error (.failed message) := by
  unfold Reachable at hin
  unfold generate at h
  split at h
  · exact ⟨_, h.symm⟩
  · rw [if_pos (by omega)] at h
    exact ⟨_, h.symm⟩

/-- From either end the drive has to go to the other one first. -/
def Circles (config : PlanConfig) (req : Int) : Prop :=
  0 < req ∧ req < endPos config ∧ config.te.any (· <= req) = true ∧ config.ts.any (req <= ·) = true

lemma turn_of_circles (hc : Circles config req) (hne : cur ≠ req) :
    exists mid, turn config cur req = some mid := by
  rcases hc with ⟨hpos, hinner, hte, hts⟩
  unfold turn
  rcases Int.lt_or_gt_of_ne hne with hlt | hgt
  · exact ⟨_, if_pos ⟨hlt, hte, Int.ne_of_lt hinner⟩⟩
  · exact ⟨_, (if_neg (by omega)).trans (if_pos ⟨hgt, hts, Int.ne_of_gt hpos⟩)⟩

theorem turn_some (h : Reachable config cur req) (hturn : turn config cur req = some mid) :
    Reachable config cur mid ∧ Reachable config mid req ∧ cur ≠ mid ∧ mid ≠ req ∧
      turn config cur mid = none ∧ (¬ Circles config req -> turn config mid req = none) := by
  unfold Reachable at h ⊢
  unfold turn at hturn ⊢
  split at hturn
  · next hup =>
    cases hturn
    rw [if_neg (by simp), if_neg (by omega), if_neg (by omega)]
    refine ⟨by omega, by omega, by omega, hup.right.right.symm, rfl, fun hc => if_neg ?_⟩
    exact fun hdown => hc ⟨by omega, by omega, hup.right.left, hdown.right.left⟩
  · split at hturn
    · next hdown =>
      cases hturn
      rw [if_neg (by omega), if_neg (by simp), if_neg (by omega : ¬ (req < 0 ∧ _))]
      refine ⟨by omega, by omega, by omega, hdown.right.right.symm, rfl, fun hc => if_neg ?_⟩
      exact fun hup => hc ⟨by omega, by omega, hup.right.left, hdown.right.left⟩
    · cases hturn

/-!
## Termination
-/

/-- Every number is a duration, and the drive does not circle. -/
def Returns (config : PlanConfig) (fits : Nat -> Bool) (cur req : Int) : Prop :=
  none ∉ config.steps ∧ WaitsFit config fits cur req ∧ (cur ≠ req -> ¬ Circles config req)

lemma generate_cases (hin : Reachable config cur req)
    (h : generate config fits breakOnStatusError fuel cur req = res) :
    res = .error .unfinished ∨ res = .error .panicked ∨
      (res = .ok (journey config cur req) ∧ Returns config fits cur req) := by
  induction fuel generalizing cur req res with
  | zero => exact Or.inl h.symm
  | succ fuel ih =>
    rw [generate_step hin] at h
    by_cases hsteps : none ∈ config.steps
    · exact Or.inr (Or.inl (h.symm.trans (if_pos hsteps)))
    rw [if_neg hsteps] at h
    rw [journey, Returns, WaitsFit]
    cases hturn : turn config cur req with
    | none =>
      by_cases heq : cur = req
      · simp_all
      · have hcircles : ¬ Circles config req := by
          intro hc
          rcases turn_of_circles hc heq with ⟨mid, hsome⟩
          rw [hturn] at hsome
          cases hsome
        by_cases hfits : fits (wait config cur req) = true <;> simp_all
    | some mid =>
      rw [hturn] at h
      rcases turn_some hin hturn with ⟨hfirst, hsecond, hcur, hreq, hnone, hagain⟩
      rcases ih hfirst rfl with hstop | hstop | ⟨hok, _, hfits, _⟩
      · exact Or.inl (by simp only [← h, hstop]; rfl)
      · exact Or.inr (Or.inl (by simp only [← h, hstop]; rfl))
      · rcases ih hsecond rfl with hstop | hstop | ⟨hok', _, hfits', hc⟩
        · exact Or.inl (by simp only [← h, hok, hstop]; rfl)
        · exact Or.inr (Or.inl (by simp only [← h, hok, hstop]; rfl))
        · simp only [WaitsFit, hnone, hagain (hc hreq), hcur, hreq, false_or] at hfits hfits'
          refine Or.inr (Or.inr ⟨?_, hsteps, ⟨hfits, hfits'⟩, fun _ => hc hreq⟩)
          simp only [← h, hok, hok', journey, hnone, hagain (hc hreq), hcur, hreq, if_false]
          rfl

lemma generate_journey (h : Reachable config cur req) (hreturns : Returns config fits cur req) :
    generate config fits breakOnStatusError (fuel + 2) cur req = .ok (journey config cur req) := by
  rcases hreturns with ⟨hsteps, hfits, hc⟩
  rw [generate_step h, if_neg hsteps, journey]
  rw [WaitsFit] at hfits
  cases hturn : turn config cur req with
  | none =>
    rw [hturn] at hfits
    by_cases heq : cur = req
    · simp only [heq, if_true]
    · simp only [heq, hfits.resolve_left heq, if_false, if_true]
  | some mid =>
    rw [hturn] at hfits
    rcases turn_some h hturn with ⟨hfirst, hsecond, hcur, hreq, hnone, hagain⟩
    have hne : cur ≠ req := by
      intro heq
      simp [turn, heq] at hturn
    simp only [generate_step hfirst, generate_step hsecond, if_neg hsteps, hnone, hagain (hc hne),
      if_neg hcur, if_neg hreq, hfits.left, hfits.right, if_true]
    rfl

/-- Between reachable positions a call ends if it `Returns`, and from others it is refused. -/
theorem generate_returns_iff (config : PlanConfig) (fits : Nat -> Bool) (breakOnStatusError : Bool)
    (cur req : Int) :
    (exists fuel, generate config fits breakOnStatusError fuel cur req ≠ .error .unfinished ∧
      generate config fits breakOnStatusError fuel cur req ≠ .error .panicked) <->
      (Reachable config cur req -> Returns config fits cur req) := by
  constructor
  · rintro ⟨fuel, hfinished, hpanicked⟩ hin
    exact (((generate_cases hin rfl).resolve_left hfinished).resolve_left hpanicked).right
  · intro h
    by_cases hin : Reachable config cur req
    · refine ⟨2, ?_⟩
      simp [generate_journey hin (h hin)]
    · have hcall : generate config fits breakOnStatusError 1 cur req = _ := rfl
      rcases generate_refused hin hcall with ⟨message, hrefused⟩
      refine ⟨1, ?_⟩
      simp [hrefused]

def durationFits (delay : Nat) : Bool :=
  delay < 2 ^ 64 * 10 ^ 9

def crossed : PlanConfig where
  logic := .ac
  steps := [some 10, some 10]
  warmupOpen := none
  warmupClose := none
  tuning := none
  ts := some 1
  te := some 1

lemma crossed_circles :
    generate crossed durationFits false fuel 0 1 = .error .unfinished ∧
    generate crossed durationFits false fuel 2 1 = .error .unfinished := by
  induction fuel with
  | zero => exact ⟨rfl, rfl⟩
  | succ fuel ih =>
    cases fuel with
    | zero => exact ⟨rfl, rfl⟩
    | succ fuel =>
      constructor
      · show (generate crossed durationFits false (fuel + 1) 2 1 >>= _) = _
        rw [ih.right]
        rfl
      · show (generate crossed durationFits false (fuel + 1) 0 1 >>= _) = _
        rw [ih.left]
        rfl

/-- The only inner position is close to both ends. -/
theorem crossed_not_generated :
    ¬ exists fuel, generate crossed durationFits false fuel 0 1 ≠ .error .unfinished := by
  rintro ⟨fuel, hfinished⟩
  exact hfinished crossed_circles.left

/-- Unless the thresholds cross, the plan is the journey between the positions. -/
theorem plan_is_journey {config : PlanConfig} (hlen : config.steps.length <= 127)
    (hsteps : none ∉ config.steps)
    (hapart : forall ts te, config.ts = some ts -> config.te = some te -> ts < te) {cur req : Int}
    (hcur : 0 <= cur ∧ cur <= config.steps.length) (hreq : 0 <= req ∧ req <= config.steps.length)
    (breakOnStatusError : Bool) (fuel : Nat) :
    generate config (fun _ => true) breakOnStatusError (fuel + 2) cur req =
      .ok (journey config cur req) := by
  have hin : Reachable config cur req := by
    unfold Reachable endPos
    omega
  have hfits : WaitsFit config (fun _ => true) cur req := by
    unfold WaitsFit
    split <;> simp
  refine generate_journey hin ⟨hsteps, hfits, fun _ hc => ?_⟩
  rcases (Option.any_eq_true ..).mp hc.right.right.left with ⟨te, hte, hle⟩
  rcases (Option.any_eq_true ..).mp hc.right.right.right with ⟨ts, hts, hle'⟩
  have hlt := hapart ts te hts hte
  have hbelow := of_decide_eq_true hle
  have habove := of_decide_eq_true hle'
  omega

def gate : PlanConfig where
  logic := .rdc
  steps := [some 10, some 20, some 30]
  warmupOpen := some 1
  warmupClose := none
  tuning := some 5
  ts := some 1
  te := some 2

theorem gate_from_start : generate gate (fun _ => true) false 2 0 2 = .ok
    [.dPortOff, .portOn, .delay 66, .portOff, .portOff, .dPortOn, .delay 30, .dPortOff] := by
  have hapart : forall ts te, gate.ts = some ts -> gate.te = some te -> ts < te := by
    rintro _ _ ⟨⟩ ⟨⟩
    decide
  exact plan_is_journey (by decide) (by decide) hapart (by decide) (by decide) false 0

/-!
## Interlock
-/

structure Outputs where
  port : Bool
  dport : Bool

def Outputs.apply (out : Outputs) : Command -> Outputs
  | .portOn => { out with port := true }
  | .portOff => { out with port := false }
  | .dPortOn => { out with dport := true }
  | .dPortOff => { out with dport := false }
  | .delay _ => out

def Logic.abortActions : Logic -> List Command
  | .ac => [.portOff]
  | .rdc => [.portOff, .dPortOff]

def Stopped (logic : Logic) (out : Outputs) : Prop :=
  out.port = false ∧ (logic = .rdc -> out.dport = false)

/-- Every command is safe, and the last one leaves the drive stopped. -/
def Interlocked (logic : Logic) : Outputs -> List Command -> Prop
  | out, [] => Stopped logic out
  | out, c :: cs =>
    (match logic with
      | .ac => out.port = true -> (out.apply c).dport = out.dport
      | .rdc => ¬ ((out.apply c).port = true ∧ (out.apply c).dport = true)) ∧
    Interlocked logic (out.apply c) cs

lemma Interlocked.append (h : Interlocked logic out first)
    (hsecond : forall out, Stopped logic out -> Interlocked logic out second) :
    Interlocked logic out (first ++ second) := by
  induction first generalizing out with
  | nil => exact hsecond out h
  | cons c cs ih => exact ⟨h.left, ih h.right⟩

lemma move_interlocked (h : Stopped config.logic out) :
    Interlocked config.logic out (move config a b) := by
  unfold move
  cases hlogic : config.logic with
  | ac =>
    rw [hlogic] at h
    simp [Interlocked, Stopped, Outputs.apply, h.left]
  | rdc =>
    rw [hlogic] at h
    by_cases hup : a < b <;> simp [hup, Interlocked, Stopped, Outputs.apply, h.left, h.right rfl]

lemma journey_interlocked (hout : Stopped config.logic out) :
    Interlocked config.logic out (journey config cur req) := by
  unfold journey
  split
  · split
    · exact hout
    · exact move_interlocked hout
  · exact (move_interlocked hout).append fun _ hmid => move_interlocked hmid

/-- The outputs are safe at every command of a plan, and stopped at its end and when it is
aborted. -/
theorem plan_interlocked {config : PlanConfig} {fits : Nat -> Bool} {breakOnStatusError : Bool}
    {fuel : Nat} {cur req : Int} {seq : List Command}
    (h : generate config fits breakOnStatusError fuel cur req = .ok seq) :
    Interlocked config.logic { port := false, dport := false } seq ∧
      forall done, done <+: seq -> Stopped config.logic
        ((done ++ config.logic.abortActions).foldl Outputs.apply
          { port := false, dport := false }) := by
  constructor
  · by_cases hin : Reachable config cur req
    · rcases generate_cases hin h with hstop | hstop | ⟨hok, _⟩
      · cases hstop
      · cases hstop
      · cases hok
        exact journey_interlocked ⟨rfl, fun _ => rfl⟩
    · cases fuel with
      | zero => cases h
      | succ fuel =>
        rcases generate_refused hin h with ⟨_, hrefused⟩
        cases hrefused
  · intro done _
    rw [List.foldl_append]
    cases config.logic with
    | ac => exact ⟨rfl, Logic.noConfusion⟩
    | rdc => exact ⟨rfl, fun _ => rfl⟩

theorem gate_to_start_interlocked :
    Interlocked .rdc { port := false, dport := false }
      [.portOff, .dPortOn, .delay 65, .dPortOff] :=
  (plan_interlocked (rfl : generate gate durationFits false 1 3 0 = .ok _)).left

end Eva4.ControllerLm.Plan
