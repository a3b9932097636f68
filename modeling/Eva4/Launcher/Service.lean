import Mathlib.Data.List.Basic

/-!
# Runners of services

The runner of a service launches its process again and again while the service is active.  The
process is registered after it was spawned and has got its initial payload.  When it exits with
an error, another process may be started to react to that.
-/

namespace Eva4.Launcher

structure Process where
  owner : Nat
  alive : Bool
deriving DecidableEq

def isAlive (procs : List Process) (pid : Nat) : Bool :=
  procs[pid]?.any Process.alive

def LiveOf (procs : List Process) (k pid : Nat) : Prop :=
  procs[pid]? = some { owner := k, alive := true }

lemma LiveOf.isAlive (h : LiveOf procs k pid) : isAlive procs pid = true := by
  rw [Launcher.isAlive, h]
  rfl

inductive RunnerStage where
  | head
  | checked
  | spawned (pid : Nat)
  | sent (pid : Nat)
  | waiting (pid : Nat)
  | exited (ok : Bool)
  | cleared (ok : Bool)
  | reacting
  | reactRunning (pid : Nat)
  | sleeping
  | ended
deriving DecidableEq

namespace RunnerStage

def process : RunnerStage -> Option Nat
  | spawned pid | sent pid | waiting pid | reactRunning pid => some pid
  | _ => none

/-- The runner starts no process before it looks at the activity again, and the one it is with
is registered. -/
def Settled : RunnerStage -> Prop
  | checked | spawned _ | sent _ | reacting | reactRunning _ => False
  | _ => True

instance : DecidablePred Settled
  | checked | spawned _ | sent _ | reacting | reactRunning _ => .isFalse fun h => h
  | head | waiting _ | exited _ | cleared _ | sleeping | ended => .isTrue trivial

lemma Settled.waiting {stage : RunnerStage} (h : stage.Settled)
    (hprocess : stage.process = some pid) : stage = .waiting pid := by
  cases stage with
  | waiting pid' =>
    injection hprocess with heq
    rw [heq]
  | spawned | sent | reactRunning => exact h.elim
  | _ => cases hprocess

end RunnerStage

/-- The data of a service is the process that is registered. -/
structure Service where
  id : String
  active : Bool
  data : Option Nat
  stage : RunnerStage
  aborted : Bool
deriving DecidableEq

def Service.new (id : String) : Service where
  id := id
  active := true
  data := none
  stage := .head
  aborted := false

inductive RunnerEvent where
  | check
  | spawn
  | spawnFails
  | sendInitial
  | sendFails
  | register
  | waitEnds
  | waitFails
  | clear
  | conclude (failed canRtf : Bool)
  | react
  | reactFails
  | reactEnds
  | sleepEnds
  | cancel
deriving DecidableEq

namespace Service

def deactivate (svc : Service) : Service :=
  { svc with active := false }

def takeData (svc : Service) : Service :=
  { svc with data := none }

def abort (svc : Service) : Service :=
  { svc with aborted := true }

variable (k : Nat)

/-- One step of the runner of the service with this number.  A runner that is aborted goes on
until it gives way. -/
def next (procs : List Process) (svc : Service) (e : RunnerEvent) :
    Option (Service × List Process) :=
  match svc.stage, e with
  | .head, .check => some ({ svc with stage := if svc.active then .checked else .ended }, procs)
  | .checked, .spawn =>
    some ({ svc with stage := .spawned procs.length }, procs ++ [{ owner := k, alive := true }])
  | .checked, .spawnFails => some ({ svc with stage := .sleeping }, procs)
  | .spawned pid, .sendInitial => some ({ svc with stage := .sent pid }, procs)
  | .spawned _, .sendFails => some ({ svc with stage := .sleeping }, procs)
  | .sent pid, .register => some ({ svc with stage := .waiting pid, data := some pid }, procs)
  | .waiting pid, .waitEnds =>
    if isAlive procs pid then none else some ({ svc with stage := .exited true }, procs)
  | .waiting _, .waitFails => some ({ svc with stage := .exited false }, procs)
  | .exited ok, .clear => some ({ svc with stage := .cleared ok, data := none }, procs)
  | .cleared ok, .conclude failed canRtf =>
    some ({ svc with stage :=
      if ok && failed && canRtf && svc.active then .reacting else .sleeping }, procs)
  | .reacting, .react =>
    some ({ svc with stage := .reactRunning procs.length },
      procs ++ [{ owner := k, alive := true }])
  | .reacting, .reactFails => some ({ svc with stage := .sleeping }, procs)
  | .reactRunning pid, .reactEnds =>
    if isAlive procs pid then none else some ({ svc with stage := .sleeping }, procs)
  | .sleeping, .sleepEnds => some ({ svc with stage := .head }, procs)
  | _, .cancel => if svc.aborted then some ({ svc with stage := .ended }, procs) else none
  | _, _ => none

def Loses (procs : List Process) (svc : Service) : RunnerEvent -> Prop
  | .sendFails | .waitFails => exists pid, svc.stage.process = some pid ∧ isAlive procs pid = true
  | _ => False

structure Moves (procs procs' : List Process) (svc svc' : Service) : Prop where
  id : svc'.id = svc.id
  active : svc'.active = svc.active
  aborted : svc'.aborted = svc.aborted
  settled : svc.active = false -> svc.stage.Settled -> svc'.stage.Settled ∧ procs' = procs
  waiting : forall pid, svc'.stage = .waiting pid -> svc'.data = some pid ∧ ¬ svc.stage.Settled
  process : procs' = procs ∧ (forall pid, svc.stage.process = some pid ->
      LiveOf procs k pid -> svc'.stage.process = some pid) ∨
    procs' = procs ++ [{ owner := k, alive := true }] ∧ svc.stage.process = none ∧
      svc'.stage.process = some procs.length

variable {svc : Service} {stage : RunnerStage} {k}

lemma moves_rest
    (hdead : forall pid, svc.stage.process = some pid -> ¬ LiveOf procs k pid) (data : Option Nat)
    (hsettled : svc.active = false -> stage.Settled) (hrest : stage.process = none) :
    Moves k procs procs svc { svc with stage := stage, data := data } where
  id := rfl
  active := rfl
  aborted := rfl
  settled := fun hinactive _ => ⟨hsettled hinactive, rfl⟩
  waiting := by
    intro pid hstage
    have hsame : stage = .waiting pid := hstage
    rw [hsame] at hrest
    cases hrest
  process :=
    Or.inl ⟨rfl, fun pid hprocess hlive => absurd hlive (hdead pid hprocess)⟩

lemma moves_idle (data : Option Nat) (hnone : svc.stage.process = none)
    (hsettled : svc.active = false -> stage.Settled) (hrest : stage.process = none) :
    Moves k procs procs svc { svc with stage := stage, data := data } := by
  apply moves_rest _ data hsettled hrest
  intro pid hpid
  rw [hnone] at hpid
  cases hpid

theorem moves_towards (hstage : svc.stage.process = none) (hactive : svc.active = true)
    (hrest : stage.process = none) : Moves k procs procs svc { svc with stage := stage } := by
  apply moves_idle svc.data hstage _ hrest
  intro hinactive
  rw [hactive] at hinactive
  cases hinactive

lemma moves_spawn (hstage : svc.stage.process = none)
    (hunsettled : ¬ svc.stage.Settled) (hprocess : stage.process = some procs.length)
    (hnew : ¬ stage.Settled) : Moves k procs (procs ++ [{ owner := k, alive := true }]) svc
      { svc with stage := stage } where
  id := rfl
  active := rfl
  aborted := rfl
  settled := fun _ hsettled => absurd hsettled hunsettled
  waiting := by
    intro pid hsame
    have hsame : stage = .waiting pid := hsame
    rw [hsame] at hnew
    exact absurd trivial hnew
  process := Or.inr ⟨rfl, hstage, hprocess⟩

lemma moves_same {data : Option Nat} (hunsettled : ¬ svc.stage.Settled)
    (hprocess : stage.process = svc.stage.process)
    (hwaiting : forall pid, stage = .waiting pid -> data = some pid) :
    Moves k procs procs svc { svc with stage := stage, data := data } where
  id := rfl
  active := rfl
  aborted := rfl
  settled := fun _ hsettled => absurd hsettled hunsettled
  waiting := fun pid hstage => ⟨hwaiting pid hstage, hunsettled⟩
  process := Or.inl ⟨rfl, fun _ hpid _ => hprocess.trans hpid⟩

lemma dead_of_keeps (h : ¬ exists pid, svc.stage.process = some pid ∧ isAlive procs pid = true) :
    forall pid, svc.stage.process = some pid -> ¬ LiveOf procs k pid :=
  fun pid hpid hlive => h ⟨pid, hpid, hlive.isAlive⟩

lemma dead_of_exited (h : stage.process = some pid) (hdead : ¬ isAlive procs pid = true) :
    forall pid', stage.process = some pid' -> ¬ LiveOf procs k pid' := by
  intro pid' hpid' hlive
  rw [h] at hpid'
  cases hpid'
  exact hdead hlive.isAlive

lemma next_moves {k : Nat} (h : svc.next k procs e = some r) (hkeeps : ¬ svc.Loses procs e)
    (haborted : svc.aborted = true -> forall pid, svc.stage.process = some pid ->
      ¬ LiveOf procs k pid) : Moves k procs r.2 svc r.1 := by
  have hunsettled : forall {stage : RunnerStage}, svc.stage = stage -> ¬ stage.Settled ->
      ¬ svc.stage.Settled := fun heq hstage => heq ▸ hstage
  have hprocess : forall {stage : RunnerStage}, svc.stage = stage ->
      svc.stage.process = stage.process := congrArg RunnerStage.process
  unfold next at h
  split at h
  · next hstage =>
    have hnone : svc.stage.process = none := hprocess hstage
    cases h
    split
    · next hactive => exact moves_towards hnone hactive rfl
    · exact moves_idle svc.data hnone (fun _ => trivial) rfl
  · next hstage =>
    cases h
    exact moves_spawn (hprocess hstage) (hunsettled hstage fun h => h) rfl (fun h => h)
  · next hstage =>
    cases h
    exact moves_idle svc.data (hprocess hstage) (fun _ => trivial) rfl
  · next pid hstage =>
    cases h
    refine moves_same (hunsettled hstage fun h => h) (hprocess hstage).symm ?_
    intro _ hwaiting
    cases hwaiting
  · cases h
    exact moves_rest (dead_of_keeps hkeeps) svc.data (fun _ => trivial) rfl
  · next pid hstage =>
    cases h
    refine moves_same (hunsettled hstage fun h => h) (hprocess hstage).symm ?_
    intro pid' hwaiting
    injection hwaiting with hsame
    rw [hsame]
  · next pid hstage =>
    rcases Option.ite_none_left_eq_some.mp h with ⟨hdead, heq⟩
    cases heq
    exact moves_rest (dead_of_exited (hprocess hstage) hdead) svc.data (fun _ => trivial) rfl
  · cases h
    exact moves_rest (dead_of_keeps hkeeps) svc.data (fun _ => trivial) rfl
  · next ok hstage =>
    cases h
    exact moves_idle none (hprocess hstage) (fun _ => trivial) rfl
  · next ok failed canRtf hstage =>
    have hnone : svc.stage.process = none := hprocess hstage
    cases h
    split
    · next hreacts =>
      exact moves_towards hnone (Bool.and_eq_true_iff.mp hreacts).right rfl
    · exact moves_idle svc.data hnone (fun _ => trivial) rfl
  · next hstage =>
    cases h
    exact moves_spawn (hprocess hstage) (hunsettled hstage fun h => h) rfl (fun h => h)
  · next hstage =>
    cases h
    exact moves_idle svc.data (hprocess hstage) (fun _ => trivial) rfl
  · next pid hstage =>
    rcases Option.ite_none_left_eq_some.mp h with ⟨hdead, heq⟩
    cases heq
    exact moves_rest (dead_of_exited (hprocess hstage) hdead) svc.data (fun _ => trivial) rfl
  · next hstage =>
    cases h
    exact moves_idle svc.data (hprocess hstage) (fun _ => trivial) rfl
  · rcases Option.ite_none_right_eq_some.mp h with ⟨hflag, heq⟩
    cases heq
    exact moves_rest (haborted hflag) svc.data (fun _ => trivial) rfl
  · cases h

end Service

end Eva4.Launcher
