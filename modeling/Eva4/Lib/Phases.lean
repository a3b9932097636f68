import Mathlib.Data.Multiset.Basic
import Eva4.Lib.Interleaving

/-!
# Tasks with phases

The phase of a task is what the labels of its own steps tell about it, with the store they were
made on and the phases the other tasks had then.  A protocol is an invariant of the store and of
the phases of all tasks together.  Each program is checked alone, against any phases the other
tasks may have.
-/

namespace Eva4.Lib

variable {S A L P R : Type}

/-!
## Locks held together
-/

def Held.Compatible (held other : Held L) : Prop :=
  forall h k, h ∈ held -> k ∈ other -> h.1 = k.1 -> h.2.conflicts k.2 = false

lemma Mode.conflicts_comm (m n : Mode) : m.conflicts n = n.conflicts m := by
  cases m <;> cases n <;> rfl

variable {held other : Held L}

lemma Held.Compatible.symm (h : held.Compatible other) : other.Compatible held := by
  intro k l hk hl heq
  rw [Mode.conflicts_comm]
  exact h l k hl hk heq.symm

lemma Held.Compatible.drop [DecidableEq L] (h : held.Compatible other) :
    (held.drop lock).Compatible other := by
  intro k l hk hl
  exact h k l (List.mem_of_mem_eraseP hk) hl

/-!
## Protocols
-/

/-- The phase after a step, from the phases of the others and the own one before it. -/
abbrev Observer (S A P : Type) : Type :=
  Multiset P -> P -> A -> S -> P

/-- A condition on a step, with the phases of the others and the own one before it. -/
abbrev Condition (S A P : Type) : Type :=
  Multiset P -> P -> A -> S -> Prop

/--
How the phase of a task changes with its steps, an invariant of the phases of all tasks and
of the store, a condition on the steps that are taken, what a step may do to the store, and
the phases a task may end in.
-/
structure Protocol (S A L P : Type) where
  next : Observer S A P
  inv : Multiset P -> S -> Prop
  admits : Condition S A P
  step : Held L -> S -> S -> Prop
  final : P -> Prop

def Protocol.Later (d : Protocol S A L P) (held : Held L) : S -> S -> Prop :=
  Relation.ReflTransGen fun s s' => exists other, held.Compatible other ∧ d.step other s s'

namespace Prog

variable [DecidableEq L]

/-- Every admitted step of the program, made in its phase, keeps the protocol. -/
def Obeys (d : Protocol S A L P) (post : Held L -> P -> R -> S -> Prop) :
    Prog S A L R -> Held L -> P -> S -> Prop
  | .ret result, held, phase, seen => post held phase result seen
  | .act label update next, held, phase, seen =>
    forall others s, d.inv (phase ::ₘ others) s -> d.Later held seen s ->
      d.admits others phase label s ->
        (d.inv (d.next others phase label s ::ₘ others) (update s) ∧ d.step held s (update s)) ∧
          (next s).Obeys d post held (d.next others phase label s) (update s)
  | .acquire lock mode next, held, phase, seen =>
    forall s, d.Later held seen s -> next.Obeys d post ((lock, mode) :: held) phase s
  | .release lock next, held, phase, seen =>
    forall s, d.Later held seen s -> next.Obeys d post (held.drop lock) phase s

variable {d : Protocol S A L P} {p : Prog S A L R} {I : P -> Prop} {phase : P} {seen : S}

variable {f : S -> R × S} {post : Held L -> P -> R -> S -> Prop}

lemma Obeys.mono (hpost : forall held phase r s, post held phase r s -> post' held phase r s)
    (h : p.Obeys d post held phase seen) : p.Obeys d post' held phase seen := by
  induction p generalizing held phase seen with
  | ret result => exact hpost held phase result seen h
  | act label update next ih =>
    intro others s hinv hlater hadmits
    have hs := h others s hinv hlater hadmits
    exact ⟨hs.left, ih s hs.right⟩
  | acquire lock mode next ih | release lock next ih =>
    intro s hlater
    exact ih (h s hlater)

lemma Obeys.later (hlater : d.Later held seen seen')
    (hpost : forall held phase r s s', post held phase r s -> post held phase r s')
    (h : p.Obeys d post held phase seen) : p.Obeys d post held phase seen' := by
  cases p with
  | ret result => exact hpost held phase result seen seen' h
  | act label update next =>
    intro others s hinv hs
    exact h others s hinv (hlater.trans hs)
  | acquire | release =>
    intro s hs
    exact h s (hlater.trans hs)

lemma Obeys.bind {post : Held L -> P -> Q -> S -> Prop}
    (h : p.Obeys d (fun held' phase' r s => (k r).Obeys d post held' phase' s)
      held phase seen) : (p.bind k).Obeys d post held phase seen := by
  induction p generalizing held phase seen with
  | ret result => exact h
  | act label update next ih =>
    intro others s hinv hlater hadmits
    have hs := h others s hinv hlater hadmits
    exact ⟨hs.left, ih s hs.right⟩
  | acquire lock mode next ih | release lock next ih =>
    intro s hlater
    exact ih (h s hlater)

/-- The program obeys the protocol and gives back its locks; what holds in the end is known
of its phase, its result and the store it saw last. -/
def Runs (d : Protocol S A L P) (post : P -> R -> S -> Prop) (p : Prog S A L R)
    (held : Held L) (phase : P) (seen : S) : Prop :=
  p.Obeys d (fun held' phase' r s => held' = held ∧ post phase' r s) held phase seen

variable {post : P -> R -> S -> Prop} {post' : P -> Q -> S -> Prop}

lemma Runs.ret (h : post phase r seen) : (Prog.ret r : Prog S A L R).Runs d post held phase seen :=
  ⟨rfl, h⟩

lemma Runs.mono (hpost : forall phase r s, post phase r s -> post₂ phase r s)
    (h : p.Runs d post held phase seen) : p.Runs d post₂ held phase seen := by
  apply Obeys.mono _ h
  intro held' phase' r s hend
  exact ⟨hend.left, hpost phase' r s hend.right⟩

lemma Runs.bind (hp : p.Runs d post held phase seen)
    (hk : forall phase' r s, post phase' r s -> (k r).Runs d post' held phase' s) :
    (p >>= k).Runs d post' held phase seen := by
  apply Obeys.bind
  apply Obeys.mono _ hp
  intro held' phase' r s hpost
  rw [hpost.left]
  exact hk phase' r s hpost.right

lemma Runs.map {g : R -> Q} (hp : p.Runs d (fun phase' r => post' phase' (g r)) held phase seen) :
    (p >>= fun r => .ret (g r)).Runs d post' held phase seen :=
  Runs.bind hp fun _ _ _ hend => Runs.ret hend

lemma Runs.atomic_bind (h : forall others s, d.inv (phase ::ₘ others) s -> d.Later held seen s ->
      d.admits others phase label s ->
        (d.inv (d.next others phase label s ::ₘ others) (f s).2 ∧ d.step held s (f s).2) ∧
          (k (f s).1).Runs d post' held (d.next others phase label s) (f s).2) :
    (atomic label f >>= k).Runs d post' held phase seen :=
  h

lemma Runs.read_bind {f : S -> R}
    (h : forall others s, d.inv (phase ::ₘ others) s -> d.Later held seen s ->
      d.admits others phase label s ->
        (d.inv (d.next others phase label s ::ₘ others) s ∧ d.step held s s) ∧
          (k (f s)).Runs d post' held (d.next others phase label s) s) :
    (read label f >>= k).Runs d post' held phase seen :=
  h

lemma Runs.modify_bind {f : S -> S} {k : Unit -> Prog S A L Q}
    (h : forall others s, d.inv (phase ::ₘ others) s -> d.Later held seen s ->
      d.admits others phase label s ->
        (d.inv (d.next others phase label s ::ₘ others) (f s) ∧ d.step held s (f s)) ∧
          (k ()).Runs d post' held (d.next others phase label s) (f s)) :
    (modify label f >>= k).Runs d post' held phase seen :=
  h

lemma Runs.atomic (h : forall others s, d.inv (phase ::ₘ others) s -> d.Later held seen s ->
      d.admits others phase label s ->
        (d.inv (d.next others phase label s ::ₘ others) (f s).2 ∧ d.step held s (f s).2) ∧
          post (d.next others phase label s) (f s).1 (f s).2) :
    (atomic label f : Prog S A L R).Runs d post held phase seen := by
  intro others s hinv hlater hadmits
  have hs := h others s hinv hlater hadmits
  exact ⟨hs.left, rfl, hs.right⟩

lemma Runs.modify {f : S -> S} {post : P -> Unit -> S -> Prop}
    (h : forall others s, d.inv (phase ::ₘ others) s -> d.Later held seen s ->
      d.admits others phase label s ->
        (d.inv (d.next others phase label s ::ₘ others) (f s) ∧ d.step held s (f s)) ∧
          post (d.next others phase label s) () (f s)) :
    (modify label f : Prog S A L Unit).Runs d post held phase seen := by
  intro others s hinv hlater hadmits
  have hs := h others s hinv hlater hadmits
  exact ⟨hs.left, rfl, hs.right⟩

/-- The lock is given back later, and what is known in the end has to hold then too. -/
theorem Runs.locked {lock : L} (hpost : forall phase' r s s', post phase' r s -> post phase' r s')
    (hp : forall s, d.Later held seen s -> p.Runs d post ((lock, mode) :: held) phase s) :
    (locked lock mode p).Runs d post held phase seen := by
  intro s hlater
  apply Obeys.bind
  apply Obeys.mono _ (hp s hlater)
  intro held' phase' r s' hend s'' _
  refine ⟨?_, hpost phase' r s' s'' hend.right⟩
  rw [hend.left, Held.drop_cons]

lemma Runs.locked_atomic {lock : L} {post : P -> R -> Prop}
    (h : forall others s, d.inv (phase ::ₘ others) s -> d.admits others phase label s ->
      (d.inv (d.next others phase label s ::ₘ others) (f s).2 ∧
        d.step ((lock, mode) :: held) s (f s).2) ∧ post (d.next others phase label s) (f s).1) :
    (Prog.locked lock mode (Prog.atomic label f)).Runs d (fun phase' r _ => post phase' r) held
      phase seen :=
  Runs.locked (fun _ _ _ _ hend => hend) fun _ _ =>
    Runs.atomic fun others s hinv _ hadmits => h others s hinv hadmits

lemma Runs.ite [Decidable c] (hp : c -> p.Runs d post held phase seen)
    (hq : ¬ c -> q.Runs d post held phase seen) :
    (if c then p else q).Runs d post held phase seen := by
  split
  · exact hp ‹c›
  · exact hq ‹¬ c›

lemma Runs.tryThen {p : Prog S A L (Except E R)} {k : R -> Prog S A L (Except E Q)}
    {post : P -> Except E R -> S -> Prop} {post' : P -> Except E Q -> S -> Prop}
    (hp : p.Runs d post held phase seen)
    (hk : forall phase' r s, post phase' (.ok r) s -> (k r).Runs d post' held phase' s)
    (herror : forall phase' e s, post phase' (.error e) s -> post' phase' (.error e) s) :
    (p.tryThen k).Runs d post' held phase seen := by
  apply Runs.bind hp
  intro phase' r s hr
  cases r with
  | ok r => exact hk phase' r s hr
  | error e => exact Runs.ret (herror phase' e s hr)

lemma Runs.each {f : X -> Prog S A L Unit} (hf : forall x phase seen, x ∈ xs -> I phase ->
      (f x).Runs d (fun phase' _ _ => I phase') held phase seen) (hphase : I phase) :
    (each f xs).Runs d (fun phase' _ _ => I phase') held phase seen := by
  induction xs generalizing phase seen with
  | nil => exact Runs.ret hphase
  | cons x xs ih =>
    apply Runs.bind (hf x phase seen List.mem_cons_self hphase)
    intro phase' _ s hphase'
    exact ih (fun y p s' hy => hf y p s' (List.mem_cons_of_mem x hy)) hphase'

lemma Runs.tryEach {f : X -> Prog S A L (Except E Unit)}
    (hf : forall x phase seen, x ∈ xs -> I phase ->
      (f x).Runs d (fun phase' _ _ => I phase') held phase seen) (hphase : I phase) :
    (tryEach f xs).Runs d (fun phase' _ _ => I phase') held phase seen := by
  induction xs generalizing phase seen with
  | nil => exact Runs.ret hphase
  | cons x xs ih =>
    apply Runs.tryThen (hf x phase seen List.mem_cons_self hphase)
    · intro phase' _ s hphase'
      exact ih (fun y p s' hy => hf y p s' (List.mem_cons_of_mem x hy)) hphase'
    · exact fun _ _ _ hphase' => hphase'

theorem Runs.of_uses (hkeeps : forall held phase others label update s, allowed held label update ->
      I phase -> d.inv (phase ::ₘ others) s -> d.admits others phase label s ->
        (d.inv (d.next others phase label s ::ₘ others) (update s) ∧
          d.step held s (update s)) ∧ I (d.next others phase label s)) (hp : p.Uses allowed held)
    (hphase : I phase) : p.Runs d (fun phase' _ _ => I phase') held phase seen := by
  have hall : forall held', p.UsesTo allowed held held' ->
      p.Obeys d (fun held' phase' _ _ => held' = held ∧ I phase') held' phase seen := by
    clear hp
    induction p generalizing phase seen with
    | ret result =>
      intro held' hp
      exact ⟨hp, hphase⟩
    | act label update next ih =>
      intro held' hp others s hinv _ hadmits
      have hs := hkeeps held' phase others label update s hp.left hphase hinv hadmits
      exact ⟨hs.left, ih s hs.right held' (hp.right s)⟩
    | acquire lock mode next ih | release lock next ih =>
      intro held' hp s _
      exact ih hphase _ hp
  exact hall held hp

end Prog

/-!
## Watched systems
-/

structure Watch (S A L P : Type) where
  sys : Sys S A L
  phases : List P

namespace Watch

variable [DecidableEq L]

def phasesAfter (next : Observer S A P) (w : Watch S A L P) (i : Nat) : List P :=
  match w.sys.nextLabel i, w.phases[i]? with
  | some label, some phase =>
    w.phases.set i (next (w.phases.eraseIdx i : List P) phase label w.sys.store)
  | _, _ => w.phases

def step (next : Observer S A P) (w : Watch S A L P) (i : Nat) : Option (Watch S A L P) :=
  (w.sys.step i).map fun sys => { sys := sys, phases := w.phasesAfter next i }

def Admits (admits : Condition S A P) (w : Watch S A L P) (i : Nat) : Prop :=
  forall label phase, w.sys.nextLabel i = some label -> w.phases[i]? = some phase ->
    admits (w.phases.eraseIdx i : List P) phase label w.sys.store

inductive Reaches (next : Observer S A P) (admits : Condition S A P)
    (w : Watch S A L P) : Watch S A L P -> Prop where
  | refl : Reaches next admits w w
  | step {mid last : Watch S A L P} {i : Nat} : Reaches next admits w mid ->
      Admits admits mid i -> mid.step next i = some last -> Reaches next admits w last

def runChecked (next : Observer S A P) (check : Watch S A L P -> Nat -> Bool) :
    List Nat -> Watch S A L P -> Option (Watch S A L P)
  | [], w => some w
  | i :: is, w => if check w i then (w.step next i).bind (runChecked next check is) else none

variable {w : Watch S A L P} {i : Nat} {d : Protocol S A L P} {phase : P} {t : Task S A L}

lemma Reaches.head (hadmits : Admits admits w i) (hstep : w.step next i = some mid)
    (h : Reaches next admits mid last) : Reaches next admits w last := by
  induction h with
  | refl => exact .step .refl hadmits hstep
  | step _ hadmits' hstep' ih => exact .step ih hadmits' hstep'

lemma Reaches.of_runChecked (hcheck : forall w i, check w i = true -> Admits admits w i)
    (h : w.runChecked next check is = some last) : Reaches next admits w last := by
  induction is generalizing w with
  | nil =>
    injection h with h
    rw [h]
    exact .refl
  | cons i is ih =>
    unfold runChecked at h
    split at h
    next hok =>
      rcases Option.bind_eq_some_iff.mp h with ⟨mid, hstep, hrest⟩
      exact Reaches.head (hcheck w i hok) hstep (ih hrest)
    next => cases h

/-- The invariant holds, the rest of every task obeys the protocol in its phase, and no two
tasks hold conflicting locks. -/
structure Follows (d : Protocol S A L P) (w : Watch S A L P) : Prop where
  inv : d.inv (w.phases : Multiset P) w.sys.store
  length : w.phases.length = w.sys.tasks.length
  obeys : forall (i : Nat) (t : Task S A L) phase, w.sys.tasks[i]? = some t ->
    w.phases[i]? = some phase ->
      t.prog.Obeys d (fun _ phase _ _ => d.final phase) t.held phase w.sys.store
  locks : forall (i j : Nat) (t u : Task S A L), i ≠ j -> w.sys.tasks[i]? = some t ->
    w.sys.tasks[j]? = some u -> t.held.Compatible u.held

theorem follows_start {store : S} {calls : List X} {prog : X -> Prog S A L R} {phase : X -> P}
    (hinv : d.inv (calls.map phase : List P) store) (h : forall call, call ∈ calls ->
      (prog call).Runs d (fun phase _ _ => d.final phase) [] (phase call) store) : Follows d
      { sys := { store := store, tasks := calls.map fun call => Task.start (prog call) },
        phases := calls.map phase } := by
  refine ⟨hinv, ?_, ?_, ?_⟩
  · rw [List.length_map, List.length_map]
  · intro i t p htask hphase
    rw [List.getElem?_map] at htask
    rcases Option.map_eq_some_iff.mp htask with ⟨call, hcall, heq⟩
    rw [List.getElem?_map, hcall] at hphase
    injection hphase with hphase
    rw [← heq, ← hphase]
    apply Prog.Obeys.bind
    apply Prog.Obeys.mono _ (h call (List.mem_of_getElem? hcall))
    intro held phase' r s hend
    exact hend.right
  · intro i j t u _ htask _ k l hk
    rw [List.getElem?_map] at htask
    rcases Option.map_eq_some_iff.mp htask with ⟨call, _, heq⟩
    rw [← heq] at hk
    cases hk

section

omit [DecidableEq L]

lemma phases_eq_cons (h : w.phases[i]? = some phase) :
    (w.phases : Multiset P) = phase ::ₘ (w.phases.eraseIdx i : List P) := by
  rcases List.getElem?_eq_some_iff.mp h with ⟨hi, heq⟩
  rw [← heq]
  exact Multiset.coe_eq_coe.mpr (List.getElem_cons_eraseIdx_perm hi).symm

lemma phases_set_eq_cons (h : w.phases[i]? = some phase) :
    (w.phases.set i phase' : List P) =
      phase' ::ₘ ((w.phases.eraseIdx i : List P) : Multiset P) := by
  have hi : i < w.phases.length := (List.getElem?_eq_some_iff.mp h).1
  have hset : i < (w.phases.set i phase').length := by
    rw [List.length_set]
    exact hi
  have hperm := List.getElem_cons_eraseIdx_perm hset
  rw [List.getElem_set_self, List.eraseIdx_set_eq] at hperm
  exact Multiset.coe_eq_coe.mpr hperm.symm

end

lemma compatible_of_grants {sys : Sys S A L} (hgrants : sys.grants lock mode = true)
    (hheld : held.Compatible t.held) (ht : t ∈ sys.tasks) :
    Held.Compatible ((lock, mode) :: held) t.held := by
  intro k l hk hl heq
  rcases List.mem_cons.mp hk with hnew | hold
  · have hall := List.all_eq_true.mp (List.all_eq_true.mp hgrants t ht) l hl
    rw [hnew] at heq ⊢
    simp only [heq.symm, decide_true, Bool.true_and, Bool.not_eq_true'] at hall
    rw [Mode.conflicts_comm]
    exact hall
  · exact hheld k l hold hl heq

variable (h : Follows d w)
include h

lemma Follows.replace (hphase : w.phases[i]? = some phase)
    (hinv : d.inv (phase' ::ₘ ((w.phases.eraseIdx i : List P) : Multiset P)) s)
    (hobeys : t.prog.Obeys d (fun _ phase _ _ => d.final phase) t.held phase' s)
    (hlater : forall (j : Nat) (u : Task S A L), j ≠ i -> w.sys.tasks[j]? = some u ->
      d.Later u.held w.sys.store s)
    (hlocks : forall (j : Nat) (u : Task S A L), j ≠ i -> w.sys.tasks[j]? = some u ->
      t.held.Compatible u.held) : Follows d
      { sys := { store := s, tasks := w.sys.tasks.set i t }, phases := w.phases.set i phase' } := by
  have hi : i < w.sys.tasks.length := by
    rw [← h.length]
    exact (List.getElem?_eq_some_iff.mp hphase).1
  refine ⟨?_, ?_, ?_, ?_⟩
  · rw [phases_set_eq_cons hphase]
    exact hinv
  · rw [List.length_set, List.length_set]
    exact h.length
  · intro j u other htask hother
    by_cases heq : j = i
    · rw [heq, List.getElem?_set_self hi] at htask
      rw [heq, List.getElem?_set_self (h.length.symm ▸ hi)] at hother
      injection htask with htask
      injection hother with hother
      rw [← htask, ← hother]
      exact hobeys
    · rw [List.getElem?_set_ne (Ne.symm heq)] at htask hother
      exact (h.obeys j u other htask hother).later (hlater j u heq htask)
        fun _ _ _ _ _ hfinal => hfinal
  · intro j k u v hjk hj hk
    rcases Classical.em (j = i) with heq | hji
    · have hki : k ≠ i := fun hk => hjk (heq.trans hk.symm)
      rw [heq, List.getElem?_set_self hi] at hj
      rw [List.getElem?_set_ne (Ne.symm hki)] at hk
      cases hj
      exact hlocks k v hki hk
    · rw [List.getElem?_set_ne (Ne.symm hji)] at hj
      by_cases heq : k = i
      · rw [heq, List.getElem?_set_self hi] at hk
        cases hk
        exact (hlocks j u hji hj).symm
      · rw [List.getElem?_set_ne (Ne.symm heq)] at hk
        exact h.locks j k u v hjk hj hk

lemma Follows.step (hadmits : Admits d.admits w i) (hstep : w.step d.next i = some last) :
    Follows d last := by
  rcases Option.map_eq_some_iff.mp hstep with ⟨sys, hsys, heq⟩
  rw [← heq]
  rcases Sys.step_cases hsys with ⟨t, htask, hsteps⟩
  have hi : i < w.phases.length := by
    rw [h.length]
    exact (List.getElem?_eq_some_iff.mp htask).1
  have hphase : w.phases[i]? = some w.phases[i] := List.getElem?_eq_getElem hi
  have hinv := h.inv
  rw [phases_eq_cons hphase] at hinv
  have hsame : w.phases.set i w.phases[i] = w.phases := List.set_getElem_self hi
  have hobeys := h.obeys i t _ htask hphase
  have hcompatible : forall (j : Nat) (u : Task S A L), j ≠ i ->
      w.sys.tasks[j]? = some u -> t.held.Compatible u.held :=
    fun j u hne hu => h.locks i j t u (Ne.symm hne) htask hu
  cases hsteps with
  | @act label update next hprog =>
    have hlabel : w.sys.nextLabel i = some label := by
      simp only [Sys.nextLabel, htask, hprog]
    have hphases : w.phasesAfter d.next i =
        w.phases.set i (d.next (w.phases.eraseIdx i : List P) w.phases[i] label w.sys.store) := by
      simp only [phasesAfter, hlabel, hphase]
    rw [hprog] at hobeys
    have hs := hobeys _ w.sys.store hinv .refl (hadmits label _ hlabel hphase)
    rw [hphases]
    refine h.replace hphase hs.left.left hs.right ?_ hcompatible
    intro j u hne hu
    exact .single ⟨t.held, (hcompatible j u hne hu).symm, hs.left.right⟩
  | acquire hprog hgrants =>
    have hphases : w.phasesAfter d.next i = w.phases := by
      simp only [phasesAfter, Sys.nextLabel, htask, hprog]
    rw [hprog] at hobeys
    rw [hphases, ← hsame]
    apply h.replace hphase hinv (hobeys w.sys.store .refl) fun _ _ _ _ => .refl
    intro j u hne hu
    exact compatible_of_grants hgrants (hcompatible j u hne hu) (List.mem_of_getElem? hu)
  | @release lock next hprog =>
    have hphases : w.phasesAfter d.next i = w.phases := by
      simp only [phasesAfter, Sys.nextLabel, htask, hprog]
    rw [hprog] at hobeys
    rw [hphases, ← hsame]
    apply h.replace hphase hinv (hobeys w.sys.store .refl) fun _ _ _ _ => .refl
    intro j u hne hu
    exact (hcompatible j u hne hu).drop

lemma Reaches.follows (hrun : Reaches d.next d.admits w last) : Follows d last := by
  induction hrun with
  | refl => exact h
  | step _ hadmits hstep ih => exact ih.step hadmits hstep

def ended (w : Watch S A L P) (i : Nat) : Bool :=
  match w.sys.tasks[i]? with
  | none => false
  | some t =>
    match t.prog with
    | .ret _ => true
    | _ => false

lemma Follows.final (hended : w.ended i = true) (hphase : w.phases[i]? = some phase) :
    d.final phase := by
  unfold ended at hended
  cases htask : w.sys.tasks[i]? with
  | none =>
    rw [htask] at hended
    cases hended
  | some t =>
    have hobeys := h.obeys i t phase htask hphase
    cases hprog : t.prog with
    | ret result =>
      rw [hprog] at hobeys
      exact hobeys
    | act | acquire | release => simp only [htask, hprog, Bool.false_eq_true] at hended

end Watch

end Eva4.Lib
