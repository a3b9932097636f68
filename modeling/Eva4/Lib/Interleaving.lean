import Eva4.Lib.Machine
import Eva4.Lib.Program

/-!
# Interleaved programs

Tasks run their programs on one store, one step at a time and in any order.  A lock
is granted when no task holds it in a conflicting mode, the task that asks included:
no lock is reentrant.  A lock that queues its requests in a fair way only has fewer
runs than these.
-/

namespace Eva4.Lib

variable {S A L R : Type}

structure Task (S A L : Type) where
  prog : Prog S A L Unit
  held : Held L

def Task.start (p : Prog S A L R) : Task S A L where
  prog := p.bind fun _ => .ret ()
  held := []

structure Sys (S A L : Type) where
  store : S
  tasks : List (Task S A L)

namespace Sys

variable [DecidableEq L]

def grants (sys : Sys S A L) (lock : L) (mode : Mode) : Bool :=
  sys.tasks.all fun t => t.held.all fun h => !(decide (h.1 = lock) && h.2.conflicts mode)

def setTask (sys : Sys S A L) (i : Nat) (t : Task S A L) : Sys S A L :=
  { sys with tasks := sys.tasks.set i t }

/-- The next step of one task, none if it has ended or has to wait. -/
def step (sys : Sys S A L) (i : Nat) : Option (Sys S A L) :=
  match sys.tasks[i]? with
  | none => none
  | some t =>
    match t.prog with
    | .ret _ => none
    | .act _ update next =>
      some ({ sys with store := update sys.store }.setTask i
        { t with prog := next sys.store })
    | .acquire lock mode next =>
      if sys.grants lock mode then
        some (sys.setTask i { prog := next, held := (lock, mode) :: t.held })
      else none
    | .release lock next => some (sys.setTask i { prog := next, held := t.held.drop lock })

/-- A step of a task is one on the store, or a lock is taken or given back. -/
inductive Steps (sys : Sys S A L) (i : Nat) (t : Task S A L) : Sys S A L -> Prop where
  | act {label : A} {update : S -> S} {next : S -> Prog S A L Unit} :
      t.prog = .act label update next ->
      Steps sys i t ({ sys with store := update sys.store }.setTask i
        { t with prog := next sys.store })
  | acquire {lock : L} {mode : Mode} {next : Prog S A L Unit} :
      t.prog = .acquire lock mode next -> sys.grants lock mode = true ->
      Steps sys i t (sys.setTask i { prog := next, held := (lock, mode) :: t.held })
  | release {lock : L} {next : Prog S A L Unit} :
      t.prog = .release lock next ->
      Steps sys i t (sys.setTask i { prog := next, held := t.held.drop lock })

variable {last sys : Sys S A L} {i : Nat} {d : Discipline S A L}
  {allowed : Held L -> A -> (S -> S) -> Prop} {admits : Held L -> A -> S -> Prop} {t : Task S A L}
  {label : A}

lemma step_cases (h : sys.step i = some last) :
    exists t, sys.tasks[i]? = some t ∧ Steps sys i t last := by
  unfold step at h
  cases htask : sys.tasks[i]? with
  | none =>
    rw [htask] at h
    cases h
  | some t =>
    refine ⟨t, rfl, ?_⟩
    simp only [htask] at h
    cases hprog : t.prog with
    | ret result =>
      simp only [hprog] at h
      cases h
    | act label update next =>
      simp only [hprog] at h
      cases h
      exact .act hprog
    | acquire lock mode next =>
      simp only [hprog] at h
      split at h
      next hgrants =>
        cases h
        exact .acquire hprog hgrants
      next => cases h
    | release lock next =>
      simp only [hprog] at h
      cases h
      exact .release hprog

lemma step_store (htask : sys.tasks[i]? = some t) (hprog : t.prog = .act label update next)
    (h : sys.step i = some last) : last.store = update sys.store := by
  simp only [step, htask, hprog, Option.some.injEq] at h
  rw [← h]
  rfl

def run : List Nat -> Sys S A L -> Option (Sys S A L)
  | [], sys => some sys
  | i :: is, sys => (sys.step i).bind (run is)

def Admits (admits : Held L -> A -> S -> Prop) (sys : Sys S A L) (i : Nat) : Prop :=
  forall t label update next, sys.tasks[i]? = some t ->
    t.prog = .act label update next -> admits t.held label sys.store

inductive Reaches (admits : Held L -> A -> S -> Prop) (sys : Sys S A L) : Sys S A L -> Prop where
  | refl : Reaches admits sys sys
  | step {mid last : Sys S A L} {i : Nat} : Reaches admits sys mid ->
      Admits admits mid i -> mid.step i = some last -> Reaches admits sys last

lemma Reaches.head (hadmits : Admits admits sys i) (hstep : sys.step i = some mid)
    (h : Reaches admits mid last) : Reaches admits sys last := by
  induction h with
  | refl => exact .step .refl hadmits hstep
  | step _ hadmits' hstep' ih => exact .step ih hadmits' hstep'

def nextLabel (sys : Sys S A L) (i : Nat) : Option A :=
  match sys.tasks[i]? with
  | none => none
  | some t =>
    match t.prog with
    | .act label _ _ => some label
    | _ => none

/-- A run all of whose labels pass a check, each in the state of its time. -/
def runChecked (check : A -> S -> Bool) : List Nat -> Sys S A L -> Option (Sys S A L)
  | [], sys => some sys
  | i :: is, sys =>
    if (sys.nextLabel i).all (check · sys.store) then (sys.step i).bind (runChecked check is)
    else none

omit [DecidableEq L] in
lemma Admits.of_nextLabel {check : A -> S -> Bool}
    (hcheck : forall held label s, check label s = true -> admits held label s)
    (h : (sys.nextLabel i).all (check · sys.store) = true) : Admits admits sys i := by
  intro t label update next htask hprog
  apply hcheck
  simpa [nextLabel, htask, hprog] using h

lemma Reaches.of_runChecked {check : A -> S -> Bool}
    (hcheck : forall held label s, check label s = true -> admits held label s)
    (h : sys.runChecked check is = some last) : Reaches admits sys last := by
  induction is generalizing sys with
  | nil =>
    injection h with h
    rw [h]
    exact .refl
  | cons i is ih =>
    unfold runChecked at h
    split at h
    next hlabel =>
      rcases Option.bind_eq_some_iff.mp h with ⟨mid, hstep, hrest⟩
      exact Reaches.head (Admits.of_nextLabel hcheck hlabel) hstep (ih hrest)
    next => cases h

/-!
## Following a discipline
-/

/-- The invariant holds and the rest of every task follows the discipline. -/
structure Follows (d : Discipline S A L) (sys : Sys S A L) : Prop where
  inv : d.inv sys.store
  meets : forall t, t ∈ sys.tasks -> t.prog.Meets d (fun _ _ _ => True) t.held sys.store

lemma follows_start {store : S} (hinv : d.inv store) {tasks : List (Task S A L)}
    (h : forall t, t ∈ tasks -> t.prog.Keeps d [] store ∧ t.held = []) :
    Follows d { store := store, tasks := tasks } := by
  refine ⟨hinv, ?_⟩
  intro t ht
  rw [(h t ht).right]
  exact Prog.Meets.mono (fun _ _ _ _ _ => trivial) (h t ht).left

section

variable (h : Follows d sys)
include h

lemma Follows.setTask (ht : t.prog.Meets d (fun _ _ _ => True) t.held sys.store) :
    Follows d (sys.setTask i t) := by
  refine ⟨h.inv, ?_⟩
  intro u hu
  rcases List.mem_or_eq_of_mem_set hu with hmem | heq
  · exact h.meets u hmem
  · rw [heq]
    exact ht

theorem Follows.step (hadmits : Admits d.admits sys i) (hstep : sys.step i = some last) :
    Follows d last ∧ (last.store = sys.store ∨ d.step sys.store last.store) := by
  rcases step_cases hstep with ⟨t, htask, hsteps⟩
  have hmeets := h.meets t (List.mem_of_getElem? htask)
  cases hsteps with
  | act hprog =>
    rw [hprog] at hmeets
    have hs := hmeets sys.store h.inv .refl (hadmits t _ _ _ htask hprog)
    -- the other tasks see the step as one of those made between theirs
    have hbase : Follows d { sys with store := _ } :=
      ⟨hs.left.left, fun u hu => (h.meets u hu).later (.single hs.left.right)⟩
    exact ⟨hbase.setTask hs.right, Or.inr hs.left.right⟩
  | acquire hprog _ =>
    rw [hprog] at hmeets
    exact ⟨h.setTask hmeets.right, Or.inl rfl⟩
  | release hprog =>
    rw [hprog] at hmeets
    exact ⟨h.setTask hmeets, Or.inl rfl⟩

lemma Follows.moves (hadmits : Admits d.admits sys i) (htask : sys.tasks[i]? = some t)
    (hprog : t.prog = .act label update next)
    (hstep : sys.step i = some last) : d.step sys.store last.store := by
  have hmeets := h.meets t (List.mem_of_getElem? htask)
  rw [hprog] at hmeets
  rw [step_store htask hprog hstep]
  exact (hmeets sys.store h.inv .refl (hadmits t label update next htask hprog)).left.right

lemma Reaches.follows (hrun : Reaches d.admits sys last) : Follows d last := by
  induction hrun with
  | refl => exact h
  | step _ hadmits hstep ih => exact (ih.step hadmits hstep).left

end

/-!
## Steps that are allowed
-/

def Uses (allowed : Held L -> A -> (S -> S) -> Prop) (sys : Sys S A L) : Prop :=
  forall t, t ∈ sys.tasks -> exists home, t.prog.UsesTo allowed home t.held

lemma uses_start {calls : List C} {prog : C -> Prog S A L R} {store : S}
    (h : forall c, c ∈ calls -> (prog c).Uses allowed []) :
    Uses allowed { store := store, tasks := calls.map fun c => Task.start (prog c) } := by
  intro t ht
  rcases List.mem_map.mp ht with ⟨c, hc, heq⟩
  refine ⟨[], ?_⟩
  rw [← heq]
  exact Prog.UsesTo.bind (h c hc) fun _ => rfl

section

variable (h : Uses allowed sys)
include h

lemma Uses.setTask (ht : t.prog.UsesTo allowed home t.held) : Uses allowed (sys.setTask i t) := by
  intro u hu
  rcases List.mem_or_eq_of_mem_set hu with hmem | heq
  · exact h u hmem
  · rw [heq]
    exact ⟨home, ht⟩

lemma Uses.step (hstep : sys.step i = some last) : Uses allowed last ∧ (last.store = sys.store ∨
      exists t label update next, sys.tasks[i]? = some t ∧
        t.prog = .act label update next ∧ allowed t.held label update ∧
        last.store = update sys.store) := by
  rcases step_cases hstep with ⟨t, htask, hsteps⟩
  rcases h t (List.mem_of_getElem? htask) with ⟨home, huses⟩
  cases hsteps with
  | act hprog =>
    rw [hprog] at huses
    have hbase : Uses allowed { sys with store := _ } := h
    exact ⟨hbase.setTask (huses.right sys.store),
      Or.inr ⟨t, _, _, _, htask, hprog, huses.left, rfl⟩⟩
  | @acquire lock mode next hprog _ =>
    rw [hprog] at huses
    have hnext : next.UsesTo allowed home ((lock, mode) :: t.held) := huses
    exact ⟨h.setTask hnext, Or.inl rfl⟩
  | @release lock next hprog =>
    rw [hprog] at huses
    have hnext : next.UsesTo allowed home (t.held.drop lock) := huses
    exact ⟨h.setTask hnext, Or.inl rfl⟩

lemma Uses.labelled (hlabel : sys.nextLabel i = some label) (hstep : sys.step i = some last) :
    exists held update, allowed held label update ∧ last.store = update sys.store := by
  unfold nextLabel at hlabel
  cases htask : sys.tasks[i]? with
  | none =>
    rw [htask] at hlabel
    cases hlabel
  | some t =>
    rcases h t (List.mem_of_getElem? htask) with ⟨home, huses⟩
    simp only [htask] at hlabel
    cases hprog : t.prog with
    | act label' update next =>
      simp only [hprog, Option.some.injEq] at hlabel
      rw [hprog, hlabel] at huses
      exact ⟨t.held, update, huses.left, step_store htask hprog hstep⟩
    | ret | acquire | release =>
      simp only [hprog] at hlabel
      cases hlabel

end

theorem Reaches.preserves {inv : S -> Prop}
    (hpreserves : forall held label update s, allowed held label update ->
      admits held label s -> inv s -> inv (update s)) (huses : Uses allowed sys)
    (hinv : inv sys.store) (hrun : Reaches admits sys last) :
    Uses allowed last ∧ inv last.store := by
  induction hrun with
  | refl => exact ⟨huses, hinv⟩
  | step _ hadmits hstep ih =>
    rcases ih.left.step hstep with ⟨huses', hstore | hact⟩
    · rw [hstore]
      exact ⟨huses', ih.right⟩
    · rcases hact with ⟨t, label, update, next, htask, hprog, hallowed, hstore⟩
      rw [hstore]
      exact ⟨huses', hpreserves t.held label update _ hallowed
        (hadmits t label update next htask hprog) ih.right⟩

/-!
## Waiting
-/

def heldBy (sys : Sys S A L) (i : Nat) : Held L :=
  match sys.tasks[i]? with
  | none => []
  | some t => t.held

def requested (sys : Sys S A L) (i : Nat) : Option L :=
  match sys.tasks[i]? with
  | none => none
  | some t =>
    match t.prog with
    | .acquire lock _ _ => some lock
    | _ => none

lemma Follows.order (h : Follows d sys) (hlock : sys.requested i = some lock) :
    d.order (sys.heldBy i) lock := by
  unfold requested at hlock
  unfold heldBy
  cases htask : sys.tasks[i]? with
  | none =>
    rw [htask] at hlock
    cases hlock
  | some t =>
    simp only [htask] at hlock
    cases hprog : t.prog with
    | acquire lock' mode next =>
      simp only [hprog, Option.some.injEq] at hlock
      have hmeets := h.meets t (List.mem_of_getElem? htask)
      rw [hprog, hlock] at hmeets
      exact hmeets.left
    | ret | act | release =>
      simp only [hprog] at hlock
      cases hlock

/-- Each task of the set asks for a lock that another task of the set holds. -/
def CircularWait (sys : Sys S A L) (set : Nat -> Prop) : Prop :=
  (exists i, set i) ∧
    forall i, set i -> exists lock, sys.requested i = some lock ∧
      exists j, set j ∧ j ≠ i ∧ exists mode, (lock, mode) ∈ sys.heldBy j

def Ranked (rank : L -> Nat) (held : Held L) (lock : L) : Prop :=
  forall h, h ∈ held -> rank h.1 < rank lock

/-- Tasks that ask for locks in the order of bounded ranks never wait in a circle. -/
theorem Follows.not_circularWait (hbound : forall lock, rank lock ≤ bound)
    (hrank : forall held lock, d.order held lock -> Ranked rank held lock) (h : Follows d sys)
    {set : Nat -> Prop} : ¬ sys.CircularWait set := by
  intro hcircle
  -- the lock asked for by the next task of the circle has a higher rank
  have hclimb : forall n i lock, set i -> sys.requested i = some lock ->
      bound - rank lock = n -> False := by
    intro n
    induction n using Nat.strongRecOn with
    | ind n ih =>
      intro i lock hi hlock hn
      rcases hcircle.right i hi with ⟨lock₁, hlock₁, j, hj, _, mode, hheld⟩
      rw [hlock] at hlock₁
      injection hlock₁ with hsame
      rcases hcircle.right j hj with ⟨lock', hlock', _⟩
      have hlt := hrank _ _ (h.order hlock') (lock₁, mode) hheld
      have hle := hbound lock'
      exact ih (bound - rank lock') (by lia) j lock' hj hlock' rfl
  rcases hcircle.left with ⟨i, hi⟩
  rcases hcircle.right i hi with ⟨lock, hlock, _⟩
  exact hclimb (bound - rank lock) i lock hi hlock rfl

end Sys

end Eva4.Lib
