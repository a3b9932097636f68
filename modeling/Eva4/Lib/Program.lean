import Mathlib.Data.List.Basic
import Mathlib.Logic.Relation

/-!
# Programs with locks

A program is a tree of atomic steps on a shared store and of lock operations.  A step
has a label that tells what it is about; the rest of the program sees the store as it
was before the step.

A program can be run alone, and it can be checked against a discipline, a set of rules
that hold whatever other programs do between its steps.
-/

namespace Eva4.Lib

/-!
## Locks
-/

inductive Mode where
  | shared
  | exclusive
deriving DecidableEq, Repr

def Mode.conflicts : Mode -> Mode -> Bool
  | .shared, .shared => false
  | _, _ => true

/-- The locks a program holds, the last one it got first. -/
abbrev Held (L : Type) : Type :=
  List (L × Mode)

def Held.drop {L : Type} [DecidableEq L] (held : Held L) (lock : L) : Held L :=
  held.eraseP fun h => h.1 = lock

@[simp]
lemma Held.drop_cons [DecidableEq L] (held : Held L) (lock : L) {mode : Mode} :
    Held.drop ((lock, mode) :: held) lock = held := by
  simp [Held.drop]

/-!
## Programs
-/

inductive Prog (S A L R : Type) where
  | ret (result : R)
  | act (label : A) (update : S -> S) (next : S -> Prog S A L R)
  | acquire (lock : L) (mode : Mode) (next : Prog S A L R)
  | release (lock : L) (next : Prog S A L R)

namespace Prog

variable {S A L R Q X E : Type}

def bind : Prog S A L R -> (R -> Prog S A L Q) -> Prog S A L Q
  | .ret result, k => k result
  | .act label update next, k => .act label update fun s => (next s).bind k
  | .acquire lock mode next, k => .acquire lock mode (next.bind k)
  | .release lock next, k => .release lock (next.bind k)

instance : Monad (Prog S A L) where
  pure := .ret
  bind := bind

variable (label : A)

def atomic (f : S -> R × S) : Prog S A L R :=
  .act label (fun s => (f s).2) fun s => .ret (f s).1

def modify (f : S -> S) : Prog S A L Unit :=
  .act label f fun _ => .ret ()

def read (f : S -> R) : Prog S A L R :=
  .act label (fun s => s) fun s => .ret (f s)

def locked (lock : L) (mode : Mode) (p : Prog S A L R) : Prog S A L R :=
  .acquire lock mode (p.bind fun r => .release lock (.ret r))

def when (c : Bool) (p : Prog S A L Unit) : Prog S A L Unit :=
  if c then p else .ret ()

variable (p : Prog S A L (Except E R))

def tryThen (k : R -> Prog S A L (Except E Q)) : Prog S A L (Except E Q) :=
  p.bind fun
    | .ok r => k r
    | .error e => .ret (.error e)

def each (f : X -> Prog S A L Unit) : List X -> Prog S A L Unit
  | [] => .ret ()
  | x :: xs => (f x).bind fun _ => each f xs

def tryEach (f : X -> Prog S A L (Except E Unit)) : List X -> Prog S A L (Except E Unit)
  | [] => .ret (.ok ())
  | x :: xs => (f x).tryThen fun _ => tryEach f xs

/-!
## Running alone
-/

def exec : Prog S A L R -> S -> R × S
  | .ret result, s => (result, s)
  | .act _ update next, s => (next s).exec (update s)
  | .acquire _ _ next, s => next.exec s
  | .release _ next, s => next.exec s

@[simp]
lemma exec_ret (r : R) (s : S) : (ret r : Prog S A L R).exec s = (r, s) :=
  (rfl)

@[simp]
lemma exec_pure : (pure r : Prog S A L R).exec s = (r, s) :=
  (rfl)

@[simp]
lemma exec_bind (p : Prog S A L R) (k : R -> Prog S A L Q) (s : S) :
    (p >>= k).exec s = (k (p.exec s).1).exec (p.exec s).2 := by
  induction p generalizing s with
  | ret result => rfl
  | act label update next ih => exact ih s (update s)
  | acquire lock mode next ih | release lock next ih => exact ih s

@[simp]
lemma exec_atomic : (atomic label f : Prog S A L R).exec s = f s :=
  (rfl)

@[simp]
lemma exec_modify : (modify label f : Prog S A L Unit).exec s = ((), f s) :=
  (rfl)

@[simp]
lemma exec_read : (read label f : Prog S A L R).exec s = (f s, s) :=
  (rfl)

@[simp]
lemma exec_locked {p : Prog S A L R} : (locked lock mode p).exec s = p.exec s :=
  exec_bind p _ s

@[simp]
lemma exec_ite [Decidable c] {p q : Prog S A L R} :
    (if c then p else q).exec s = if c then p.exec s else q.exec s :=
  apply_ite (fun t : Prog S A L R => t.exec s) c p q

@[simp]
lemma exec_when {p : Prog S A L Unit} : (when c p).exec s = if c then p.exec s else ((), s) :=
  exec_ite

lemma exec_tryThen :
    (p.tryThen k).exec s =
      match (p.exec s).1 with
      | .ok r => (k r).exec (p.exec s).2
      | .error e => (.error e, (p.exec s).2) := by
  refine (exec_bind p _ s).trans ?_
  cases (p.exec s).1 <;> rfl

lemma exec_tryThen_ok {p : Prog S A L (Except E R)} (h : p.exec s = (.ok r, s'))
    (k : R -> Prog S A L (Except E Q)) : (p.tryThen k).exec s = (k r).exec s' := by
  rw [exec_tryThen, h]

lemma exec_tryThen_error {p : Prog S A L (Except E R)} (h : p.exec s = (.error e, s')) :
    (p.tryThen k).exec s = (.error e, s') := by
  rw [exec_tryThen, h]

lemma exec_tryThen_map_snd {g : R -> Except E Q} {s : S} :
    ((p.tryThen fun r => (pure (g r) : Prog S A L (Except E Q))).exec s).2 = (p.exec s).2 := by
  rw [exec_tryThen]
  cases (p.exec s).1 <;> rfl

@[simp]
lemma exec_each_nil : (each f []).exec s = ((), s) :=
  (rfl)

@[simp]
lemma exec_each_cons {f : X -> Prog S A L Unit} {x : X} {xs : List X} {s : S} :
    (each f (x :: xs)).exec s = (each f xs).exec ((f x).exec s).2 :=
  exec_bind (f x) _ s

lemma exec_each_induction (f : X -> Prog S A L Unit) (I : S -> Prop) :
    forall (xs : List X) (s : S), I s ->
      (forall x, x ∈ xs -> forall t, I t -> I ((f x).exec t).2) -> I ((each f xs).exec s).2 := by
  intro xs
  induction xs with
  | nil =>
    intro s hs _
    exact hs
  | cons x xs ih =>
    intro s hs hkeep
    rw [exec_each_cons]
    apply ih
    · exact hkeep x List.mem_cons_self s hs
    · intro y hy
      exact hkeep y (List.mem_cons_of_mem x hy)

end Prog

/-!
## Disciplines
-/

/--
An invariant of the store, a condition on the steps that are taken, what every step does
to the store, and which locks may be requested with which locks held.
-/
structure Discipline (S A L : Type) where
  inv : S -> Prop
  admits : Held L -> A -> S -> Prop
  step : S -> S -> Prop
  order : Held L -> L -> Prop

/-- What the store can become by any number of steps of any program. -/
def Discipline.Later {S A L : Type} (d : Discipline S A L) : S -> S -> Prop :=
  Relation.ReflTransGen d.step

abbrev Discipline.Moves {S A L : Type} (d : Discipline S A L) (s s' : S) : Prop :=
  d.inv s' ∧ d.step s s'

namespace Prog

variable {S A L R : Type} [DecidableEq L]

/--
Every admitted step and every request of the program follows the discipline.  Other
programs may run before each step, so it sees a store later than the one seen last.
-/
def Meets (d : Discipline S A L) (post : Held L -> R -> S -> Prop) :
    Prog S A L R -> Held L -> S -> Prop
  | .ret result, held, seen => post held result seen
  | .act label update next, held, seen =>
    forall s, d.inv s -> d.Later seen s -> d.admits held label s ->
      (d.inv (update s) ∧ d.step s (update s)) ∧ (next s).Meets d post held (update s)
  | .acquire lock mode next, held, seen =>
    d.order held lock ∧ next.Meets d post ((lock, mode) :: held) seen
  | .release lock next, held, seen => next.Meets d post (held.drop lock) seen

/--
The program follows the discipline, ends with the locks it started with, and its result
is one the predicate allows.
-/
def Yields (d : Discipline S A L) (P : R -> S -> Prop) (p : Prog S A L R)
    (held : Held L) (seen : S) : Prop :=
  p.Meets d (fun held' r s => held' = held ∧ P r s) held seen

abbrev Keeps (d : Discipline S A L) (p : Prog S A L R) (held : Held L) (seen : S) : Prop :=
  p.Yields d (fun _ _ => True) held seen

variable {p : Prog S A L R} {k : R -> Prog S A L Q} {label : A} {held : Held L}

lemma Meets.mono (hpost : forall held r s, d.Later seen s -> post held r s -> post' held r s)
    (h : p.Meets d post held seen) : p.Meets d post' held seen := by
  induction p generalizing held seen with
  | ret result => exact hpost held result seen .refl h
  | act label update next ih =>
    intro s hinv hlater hadmits
    have hs := h s hinv hlater hadmits
    refine ⟨hs.left, ih s ?_ hs.right⟩
    intro held' r s' hs'
    exact hpost held' r s' ((hlater.tail hs.left.right).trans hs')
  | acquire lock mode next ih => exact ⟨h.left, ih hpost h.right⟩
  | release lock next ih => exact ih hpost h

lemma Meets.later (hlater : d.Later seen seen') (h : p.Meets d (fun _ _ _ => True) held seen) :
    p.Meets d (fun _ _ _ => True) held seen' := by
  induction p generalizing held with
  | ret result => trivial
  | act label update next ih =>
    intro s hinv hs hadmits
    exact h s hinv (hlater.trans hs) hadmits
  | acquire lock mode next ih => exact ⟨h.left, ih h.right⟩
  | release lock next ih => exact ih h

lemma Meets.bind (h : p.Meets d (fun held' r s => (k r).Meets d post held' s) held seen) :
    (p.bind k).Meets d post held seen := by
  induction p generalizing held seen with
  | ret result => exact h
  | act label update next ih =>
    intro s hinv hlater hadmits
    have hs := h s hinv hlater hadmits
    exact ⟨hs.left, ih s hs.right⟩
  | acquire lock mode next ih => exact ⟨h.left, ih h.right⟩
  | release lock next ih => exact ih h

lemma Yields.ret (h : P r seen) : (Prog.ret r : Prog S A L R).Yields d P held seen :=
  ⟨rfl, h⟩

lemma Keeps.ret (r : R) : (Prog.ret r : Prog S A L R).Keeps d held seen :=
  Yields.ret trivial

lemma Yields.bind (hp : p.Yields d P held seen)
    (hk : forall r s, d.Later seen s -> P r s -> (k r).Yields d P' held s) :
    (p >>= k).Yields d P' held seen := by
  apply Meets.bind
  apply Meets.mono _ hp
  intro held' r s hlater hpost
  rw [hpost.left]
  exact hk r s hlater hpost.right

lemma Keeps.bind (hp : p.Keeps d held seen)
    (hk : forall r s, d.Later seen s -> (k r).Yields d P' held s) :
    (p >>= k).Yields d P' held seen :=
  Yields.bind hp fun r s hlater _ => hk r s hlater

lemma Keeps.map {g : R -> Q} (hp : p.Keeps d held seen) :
    (p >>= fun r => .ret (g r)).Keeps d held seen :=
  Keeps.bind hp fun _ _ _ => Keeps.ret _

theorem Yields.atomic_bind (h : forall s, d.inv s -> d.Later seen s -> d.admits held label s ->
      d.Moves s (f s).2 ∧ (k (f s).1).Yields d P' held (f s).2) :
    (atomic label f >>= k).Yields d P' held seen :=
  h

lemma Yields.atomic (h : forall s, d.inv s -> d.Later seen s -> d.admits held label s ->
      d.Moves s (f s).2 ∧ P (f s).1 (f s).2) :
    (atomic label f : Prog S A L R).Yields d P held seen := by
  intro s hinv hlater hadmits
  have hs := h s hinv hlater hadmits
  exact ⟨hs.left, rfl, hs.right⟩

lemma Keeps.atomic (h : forall s, d.inv s -> d.Moves s (f s).2) :
    (atomic label f : Prog S A L R).Keeps d held seen :=
  Yields.atomic fun s hinv _ _ => ⟨h s hinv, trivial⟩

lemma Keeps.modify {f : S -> S} (h : forall s, d.inv s -> d.Moves s (f s)) :
    (modify label f : Prog S A L Unit).Keeps d held seen := by
  intro s hinv _ _
  exact ⟨h s hinv, rfl, trivial⟩

theorem Yields.read_bind (hrefl : forall s, d.inv s -> d.step s s) {f : S -> R}
    (h : forall s, d.inv s -> d.Later seen s -> d.admits held label s ->
      (k (f s)).Yields d P' held s) : (read label f >>= k).Yields d P' held seen := by
  intro s hinv hlater hadmits
  exact ⟨⟨hinv, hrefl s hinv⟩, h s hinv hlater hadmits⟩

lemma Yields.read (hrefl : forall s, d.inv s -> d.step s s) {f : S -> R}
    (h : forall s, d.inv s -> d.Later seen s -> d.admits held label s -> P (f s) s) :
    (read label f : Prog S A L R).Yields d P held seen := by
  intro s hinv hlater hadmits
  exact ⟨⟨hinv, hrefl s hinv⟩, rfl, h s hinv hlater hadmits⟩

lemma Yields.locked (horder : d.order held lock) (hp : p.Yields d P ((lock, mode) :: held) seen) :
    (locked lock mode p).Yields d P held seen := by
  refine ⟨horder, ?_⟩
  apply Meets.bind
  apply Meets.mono _ hp
  intro held' r s _ hpost
  refine ⟨?_, hpost.right⟩
  rw [hpost.left, Held.drop_cons]

lemma Yields.ite [Decidable c] (hp : c -> p.Yields d P held seen)
    (hq : ¬ c -> q.Yields d P held seen) : (if c then p else q).Yields d P held seen := by
  split
  · exact hp ‹c›
  · exact hq ‹¬ c›

lemma Keeps.when {p : Prog S A L Unit} (hp : c = true -> p.Keeps d held seen) :
    (when c p).Keeps d held seen :=
  Yields.ite hp fun _ => Keeps.ret ()

lemma Yields.tryThen {p : Prog S A L (Except E R)} {k : R -> Prog S A L (Except E Q)}
    {P : Except E R -> S -> Prop} (hp : p.Yields d P held seen)
    (hk : forall r s, d.Later seen s -> P (.ok r) s -> (k r).Keeps d held s) :
    (p.tryThen k).Keeps d held seen := by
  apply Yields.bind hp
  intro r s hlater hr
  cases r with
  | ok r => exact hk r s hlater hr
  | error e => exact Keeps.ret (Except.error e)

lemma Keeps.tryThen {p : Prog S A L (Except E R)} {k : R -> Prog S A L (Except E Q)}
    (hp : p.Keeps d held seen) (hk : forall r s, d.Later seen s -> (k r).Keeps d held s) :
    (p.tryThen k).Keeps d held seen :=
  Yields.tryThen hp fun r s hlater _ => hk r s hlater

lemma Keeps.each {f : X -> Prog S A L Unit}
    (h : forall x, x ∈ xs -> forall s, d.Later seen s -> (f x).Keeps d held s) :
    (each f xs).Keeps d held seen := by
  induction xs generalizing seen with
  | nil => exact Keeps.ret ()
  | cons x xs ih =>
    apply Yields.bind (h x List.mem_cons_self seen .refl)
    intro _ s hlater _
    apply ih
    intro y hy s' hs'
    exact h y (List.mem_cons_of_mem x hy) s' (hlater.trans hs')

lemma Keeps.tryEach {f : X -> Prog S A L (Except E Unit)} {xs : List X}
    (h : forall x, x ∈ xs -> forall s, (f x).Keeps d held s) :
    (tryEach f xs).Keeps d held seen := by
  induction xs generalizing seen with
  | nil => exact Keeps.ret (Except.ok ())
  | cons x xs ih =>
    apply Keeps.tryThen (h x List.mem_cons_self seen)
    intro _ s _
    exact ih fun y hy => h y (List.mem_cons_of_mem x hy)

/-!
## The steps of a program

Some rules look at nothing but the steps a program is made of.
-/

/-- All steps are of those that are allowed, whatever the store is, and the program ends with
the locks of its home. -/
def UsesTo (allowed : Held L -> A -> (S -> S) -> Prop) (home : Held L) :
    Prog S A L R -> Held L -> Prop
  | .ret _, held => held = home
  | .act label update next, held =>
    allowed held label update ∧ forall s, (next s).UsesTo allowed home held
  | .acquire lock mode next, held => next.UsesTo allowed home ((lock, mode) :: held)
  | .release lock next, held => next.UsesTo allowed home (held.drop lock)

abbrev Uses (allowed : Held L -> A -> (S -> S) -> Prop) (p : Prog S A L R) (held : Held L) : Prop :=
  p.UsesTo allowed held held

section Uses

lemma UsesTo.bind (hp : p.UsesTo allowed mid held) (hk : forall r, (k r).UsesTo allowed home mid) :
    (p.bind k).UsesTo allowed home held := by
  induction p generalizing held with
  | ret result =>
    have hmid : held = mid := hp
    rw [hmid]
    exact hk result
  | act label update next ih => exact ⟨hp.left, fun s => ih s (hp.right s)⟩
  | acquire lock mode next ih | release lock next ih => exact ih hp

lemma Uses.ret (r : R) : (Prog.ret r : Prog S A L R).Uses allowed held :=
  rfl

lemma Uses.bind (hp : p.Uses allowed held) (hk : forall r, (k r).Uses allowed held) :
    (p >>= k).Uses allowed held :=
  UsesTo.bind hp hk

lemma Uses.map {g : R -> Q} (hp : p.Uses allowed held) :
    (p >>= fun r => .ret (g r)).Uses allowed held :=
  Uses.bind hp fun _ => Uses.ret _

lemma Uses.atomic (h : allowed held label fun s => (f s).2) :
    (atomic label f : Prog S A L R).Uses allowed held :=
  ⟨h, fun _ => rfl⟩

theorem Uses.atomic_bind (h : allowed held label fun s => (f s).2)
    (hk : forall s, (k (f s).1).Uses allowed held) :
    (Prog.atomic label f >>= k).Uses allowed held :=
  ⟨h, hk⟩

lemma Uses.modify {f : S -> S} (h : allowed held label f) :
    (modify label f : Prog S A L Unit).Uses allowed held :=
  ⟨h, fun _ => rfl⟩

lemma Uses.read {f : S -> R} (h : allowed held label fun s => s) :
    (read label f : Prog S A L R).Uses allowed held :=
  ⟨h, fun _ => rfl⟩

lemma Uses.locked (hp : p.Uses allowed ((lock, mode) :: held)) :
    (locked lock mode p).Uses allowed held := by
  refine UsesTo.bind hp fun r => ?_
  exact Held.drop_cons held lock

lemma Uses.ite [Decidable c] (hp : c -> p.Uses allowed held) (hq : ¬ c -> q.Uses allowed held) :
    (if c then p else q).Uses allowed held := by
  split
  · exact hp ‹c›
  · exact hq ‹¬ c›

lemma Uses.when {p : Prog S A L Unit} (hp : p.Uses allowed held) : (when c p).Uses allowed held :=
  Uses.ite (fun _ => hp) fun _ => Uses.ret ()

lemma Uses.tryThen {p : Prog S A L (Except E R)} {k : R -> Prog S A L (Except E Q)}
    (hp : p.Uses allowed held) (hk : forall r, (k r).Uses allowed held) :
    (p.tryThen k).Uses allowed held := by
  apply UsesTo.bind hp
  intro r
  cases r with
  | ok r => exact hk r
  | error e => exact Uses.ret (Except.error e)

lemma Uses.each {f : X -> Prog S A L Unit} (h : forall x, (f x).Uses allowed held) :
    (each f xs).Uses allowed held := by
  induction xs with
  | nil => exact Uses.ret ()
  | cons x xs ih => exact UsesTo.bind (h x) fun _ => ih

lemma Uses.tryEach {f : X -> Prog S A L (Except E Unit)} {xs : List X}
    (h : forall x, (f x).Uses allowed held) : (tryEach f xs).Uses allowed held := by
  induction xs with
  | nil => exact Uses.ret (Except.ok ())
  | cons x xs ih => exact Uses.tryThen (h x) fun _ => ih

end Uses

end Prog

end Eva4.Lib
