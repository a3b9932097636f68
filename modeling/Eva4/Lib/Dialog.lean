import Mathlib.Data.List.Basic

/-!
# Dialogs

A dialog is a program that asks its surroundings one call after another and goes on with the
answers, until it ends with a result or with an error.  What it may ask is described for all
answers that meet a condition.
-/

namespace Eva4.Lib

theorem exists_of_bind_ok {f : A -> Except E B}
    (h : (x >>= f) = .ok b) : exists a, x = .ok a ∧ f a = .ok b := by
  cases x with
  | ok a => exact ⟨a, rfl, h⟩
  | error e => cases h

inductive Dialog (C : Type) (A : C -> Type) (E R : Type) where
  | ret (result : R)
  | fail (error : E)
  | ask (call : C) (next : A call -> Dialog C A E R)

namespace Dialog

variable {C : Type} {A : C -> Type} {E R Q X : Type}

def bind : Dialog C A E R -> (R -> Dialog C A E Q) -> Dialog C A E Q
  | .ret result, k => k result
  | .fail error, _ => .fail error
  | .ask call next, k => .ask call fun answer => (next answer).bind k

instance monad : Monad (Dialog C A E) where
  pure := .ret
  bind := bind

def request (call : C) : Dialog C A E (A call) :=
  .ask call .ret

def lift : Except E R -> Dialog C A E R
  | .ok result => .ret result
  | .error error => .fail error

instance monadLift : MonadLift (Except E) (Dialog C A E) where
  monadLift := lift

def attempt : Dialog C A E R -> Dialog C A E (Except E R)
  | .ret result => .ret (.ok result)
  | .fail error => .ret (.error error)
  | .ask call next => .ask call fun answer => (next answer).attempt

def collect (f : X -> Dialog C A E R) : List X -> Dialog C A E (List R)
  | [] => .ret []
  | x :: xs => (f x).bind fun r => (collect f xs).bind fun rs => .ret (r :: rs)

/-!
## What may be asked
-/

/-- Some answers that meet the condition lead to the call. -/
inductive Issues (answers : (c : C) -> A c -> Prop) : Dialog C A E R -> C -> Prop where
  | now {c : C} {next : A c -> Dialog C A E R} : Issues answers (.ask c next) c
  | later {c c' : C} {next : A c -> Dialog C A E R} {a : A c} :
      answers c a -> Issues answers (next a) c' -> Issues answers (.ask c next) c'

inductive Returns (answers : (c : C) -> A c -> Prop) : Dialog C A E R -> R -> Prop where
  | ret {r : R} : Returns answers (.ret r) r
  | ask {c : C} {next : A c -> Dialog C A E R} {a : A c} {r : R} :
      answers c a -> Returns answers (next a) r -> Returns answers (.ask c next) r

/-- Which answers are expected, and which calls are allowed after what was answered before. -/
structure Rules (C : Type) (A : C -> Type) (S : Type) where
  answers : (c : C) -> A c -> Prop
  allowed : S -> C -> Prop
  next : S -> (c : C) -> A c -> S

/-- All calls are allowed when they are made, and the end is as described. -/
def Follows {S : Type} (rules : Rules C A S) (P : S -> Except E R -> Prop) :
    Dialog C A E R -> S -> Prop
  | .ret result, s => P s (.ok result)
  | .fail error, s => P s (.error error)
  | .ask call next, s => rules.allowed s call ∧
      forall a, rules.answers call a -> (next a).Follows rules P (rules.next s call a)

section Follows

variable {d : Dialog C A E R}

lemma Follows.bind {k : R -> Dialog C A E Q} (hd : d.Follows rules P s)
    (hk : forall s r, P s (.ok r) -> (k r).Follows rules P' s)
    (herror : forall s e, P s (.error e) -> P' s (.error e)) : (d >>= k).Follows rules P' s := by
  induction d generalizing s with
  | ret result => exact hk s result hd
  | fail error => exact herror s error hd
  | ask call next ih => exact ⟨hd.left, fun a ha => ih a (hd.right a ha)⟩

lemma Follows.attempt {P : S -> Except E (Except E R) -> Prop}
    (h : d.Follows rules (fun s r => P s (.ok r)) s) : d.attempt.Follows rules P s := by
  induction d generalizing s with
  | ret | fail => exact h
  | ask call next ih => exact ⟨h.left, fun a ha => ih a (h.right a ha)⟩

lemma Follows.mono (h : d.Follows rules P s) (hP : forall s r, P s r -> P' s r) :
    d.Follows rules P' s := by
  induction d generalizing s with
  | ret | fail => exact hP s _ h
  | ask call next ih => exact ⟨h.left, fun a ha => ih a (h.right a ha)⟩

lemma Follows.lift (h : P s x) : (lift x : Dialog C A E R).Follows rules P s := by
  cases x with
  | ok | error => exact h

end Follows

/-!
## Rules without a state
-/

def onResult (P : R -> Prop) : Except E R -> Prop
  | .ok r => P r
  | .error _ => True

def plainRules (answers : (c : C) -> A c -> Prop) (allowed : C -> Prop) : Rules C A Unit where
  answers := answers
  allowed := fun _ => allowed
  next := fun _ _ _ => ()

/-- All calls are of the allowed ones, and the result is as described. -/
abbrev Keeps (answers : (c : C) -> A c -> Prop) (allowed : C -> Prop) (P : R -> Prop)
    (d : Dialog C A E R) : Prop :=
  d.Follows (plainRules answers allowed) (fun _ => onResult P) ()

variable {answers : (c : C) -> A c -> Prop} {allowed : C -> Prop}

variable {d : Dialog C A E R} {c : C} {k : R -> Dialog C A E Q} {r : R}

lemma Keeps.of_issues (hissues : d.Issues answers c) (h : d.Keeps answers allowed P) :
    allowed c := by
  induction hissues with
  | now => exact h.left
  | later hanswer _ ih => exact ih (h.right _ hanswer)

lemma Keeps.bind (hd : d.Keeps answers allowed P)
    (hk : forall r, P r -> (k r).Keeps answers allowed P') : (d >>= k).Keeps answers allowed P' :=
  Follows.bind hd (fun _ => hk) fun _ _ _ => trivial

lemma Keeps.request {P : A c -> Prop} (h : allowed c) (hP : forall a, answers c a -> P a) :
    (request c : Dialog C A E (A c)).Keeps answers allowed P :=
  ⟨h, hP⟩

lemma Keeps.lift (h : forall r, x = .ok r -> P r) :
    (lift x : Dialog C A E R).Keeps answers allowed P := by
  cases x with
  | ok r => exact h r rfl
  | error e => trivial

lemma Keeps.attempt (h : d.Keeps answers allowed P) :
    d.attempt.Keeps answers allowed (onResult P) :=
  Follows.attempt h

lemma Keeps.mono (h : d.Keeps answers allowed P) (hP : forall r, P r -> P' r) :
    d.Keeps answers allowed P' := by
  refine Follows.mono h ?_
  intro _ r hr
  cases r with
  | ok r => exact hP r hr
  | error e => trivial

/-- A dialog of which only the calls matter. -/
abbrev Asks (answers : (c : C) -> A c -> Prop) (allowed : C -> Prop) (d : Dialog C A E R) : Prop :=
  d.Keeps answers allowed fun _ => True

lemma Asks.bind (hd : d.Asks answers allowed) (hk : forall r, (k r).Asks answers allowed) :
    (d >>= k).Asks answers allowed :=
  Keeps.bind hd fun r _ => hk r

lemma Asks.ret (r : R) : (Dialog.ret r : Dialog C A E R).Asks answers allowed :=
  trivial

lemma Asks.fail (e : E) : (Dialog.fail e : Dialog C A E R).Asks answers allowed :=
  trivial

lemma Asks.request (h : allowed c) : (request c : Dialog C A E (A c)).Asks answers allowed :=
  Keeps.request h fun _ _ => trivial

lemma Asks.lift : (lift x : Dialog C A E R).Asks answers allowed :=
  Keeps.lift fun _ _ => trivial

lemma Asks.attempt (h : d.Asks answers allowed) : d.attempt.Asks answers allowed :=
  (Keeps.attempt h).mono fun _ _ => trivial

lemma Asks.collect {f : X -> Dialog C A E R} (h : forall x, (f x).Asks answers allowed) :
    (collect f xs).Asks answers allowed := by
  induction xs with
  | nil => trivial
  | cons x xs ih => exact Asks.bind (h x) fun r => Asks.bind ih fun rs => Asks.ret (r :: rs)

theorem Follows.of_asks_invariant {I : S -> Prop} (h : d.Asks rules.answers asked)
    (hallowed : forall s c, I s -> asked c -> rules.allowed s c)
    (hnext : forall s c a, I s -> asked c -> I (rules.next s c a)) (hs : I s) :
    d.Follows rules (fun s' _ => I s') s := by
  induction d generalizing s with
  | ret | fail => exact hs
  | ask call next ih =>
    exact ⟨hallowed s call hs h.left, fun a ha => ih a (h.right a ha) (hnext s call a hs h.left)⟩

theorem Follows.of_asks {s : S}
    (h : d.Asks rules.answers quiet) (hallowed : forall c, quiet c -> rules.allowed s c)
    (hnext : forall c, quiet c -> forall a, rules.next s c a = s) :
    d.Follows rules (fun s' _ => s' = s) s := by
  apply Follows.of_asks_invariant (I := fun s' => s' = s) h
  · intro s' c hs hc
    rw [hs]
    exact hallowed c hc
  · intro s' c a hs hc
    rw [hs]
    exact hnext c hc a
  · rfl

lemma Issues.bind (hreturns : d.Returns answers r) (h : (k r).Issues answers c) :
    (d >>= k).Issues answers c := by
  induction hreturns with
  | ret => exact h
  | ask hanswer _ ih => exact .later hanswer (ih h)

lemma Returns.request (h : answers c a) :
    (Dialog.request c : Dialog C A E (A c)).Returns answers a :=
  .ask h .ret

lemma Returns.attempt (h : d.Returns answers r) : d.attempt.Returns answers (.ok r) := by
  induction h with
  | ret => exact .ret
  | ask hanswer _ ih => exact .ask hanswer ih

lemma Issues.attempt (h : d.Issues answers c) : d.attempt.Issues answers c := by
  induction h with
  | now => exact .now
  | later hanswer _ ih => exact .later hanswer ih

lemma Issues.bind_left (h : d.Issues answers c) : (d >>= k).Issues answers c := by
  induction h with
  | now => exact .now
  | later hanswer _ ih => exact .later hanswer ih

lemma Returns.bind (hreturns : d.Returns answers r) (h : (k r).Returns answers q) :
    (d >>= k).Returns answers q := by
  induction hreturns with
  | ret => exact h
  | ask hanswer _ ih => exact .ask hanswer (ih h)

/-!
## Surroundings with a state

The surroundings may answer in several ways, and what they answer may depend on their state and
change it.
-/

section Runs

variable {S : Type}

/-- A dialog from a state of its surroundings to another one, with the way it ends. -/
inductive Runs (serves : S -> (c : C) -> A c -> S -> Prop) :
    Dialog C A E R -> S -> S -> Except E R -> Prop where
  | ret {r : R} {s : S} : Runs serves (.ret r) s s (.ok r)
  | fail {e : E} {s : S} : Runs serves (.fail e) s s (.error e)
  | ask {c : C} {next : A c -> Dialog C A E R} {a : A c} {s mid s' : S} {r : Except E R} :
      serves s c a mid -> Runs serves (next a) mid s' r -> Runs serves (.ask c next) s s' r

variable {s : S}

lemma Runs.of_bind (h : (d >>= k).Runs serves s s' q) :
    (exists e, q = .error e ∧ d.Runs serves s s' (.error e)) ∨
      exists mid r, d.Runs serves s mid (.ok r) ∧ (k r).Runs serves mid s' q := by
  induction d generalizing s with
  | ret result => exact Or.inr ⟨s, result, .ret, h⟩
  | fail error =>
    cases h
    exact Or.inl ⟨error, rfl, .fail⟩
  | ask call next ih =>
    cases h with
    | ask hserves hrest =>
      rcases ih _ hrest with hfail | hboth
      · rcases hfail with ⟨e, hq, hruns⟩
        exact Or.inl ⟨e, hq, .ask hserves hruns⟩
      · rcases hboth with ⟨mid, r, hfirst, hsecond⟩
        exact Or.inr ⟨mid, r, .ask hserves hfirst, hsecond⟩

lemma Runs.of_bind_ok (h : (d >>= k).Runs serves s s' (.ok q)) :
    exists mid r, d.Runs serves s mid (.ok r) ∧ (k r).Runs serves mid s' (.ok q) := by
  rcases Runs.of_bind h with hfail | hboth
  · rcases hfail with ⟨e, hq, _⟩
    cases hq
  · exact hboth

lemma Runs.of_request {r : Except E (A c)} (h : (request c : Dialog C A E (A c)).Runs serves s s' r)
    :
    exists a, serves s c a s' ∧ r = .ok a := by
  cases h with
  | ask hserves hrest =>
    cases hrest
    exact ⟨_, hserves, rfl⟩

lemma Runs.of_lift {r : Except E R} (h : (lift x : Dialog C A E R).Runs serves s s' r) :
    s' = s ∧ r = x := by
  cases x with
  | ok | error =>
    cases h
    exact ⟨rfl, rfl⟩

lemma Runs.of_attempt {r : Except E (Except E R)} (h : d.attempt.Runs serves s s' r) :
    exists q, r = .ok q ∧ d.Runs serves s s' q := by
  induction d generalizing s with
  | ret result =>
    cases h
    exact ⟨.ok result, rfl, .ret⟩
  | fail error =>
    cases h
    exact ⟨.error error, rfl, .fail⟩
  | ask call next ih =>
    cases h with
    | ask hserves hrest =>
      rcases ih _ hrest with ⟨q, hr, hruns⟩
      exact ⟨q, hr, .ask hserves hruns⟩

lemma Runs.same_of_asks {r : Except E R} (hasks : d.Asks (fun _ _ => True) quiet)
    (hquiet : forall s c a s', quiet c -> serves s c a s' -> s' = s) (h : d.Runs serves s s' r) :
    s' = s := by
  induction h with
  | ret | fail => rfl
  | ask hserves _ ih =>
    rw [ih (hasks.right _ trivial)]
    exact hquiet _ _ _ _ hasks.left hserves

def exec (serve : S -> (c : C) -> A c × S) : Dialog C A E R -> S -> S × Except E R
  | .ret result, s => (s, .ok result)
  | .fail error, s => (s, .error error)
  | .ask call next, s => (next (serve s call).1).exec serve (serve s call).2

lemma Runs.of_exec (hserve : forall s c, serves s c (serve s c).1 (serve s c).2)
    (d : Dialog C A E R) (s : S) : d.Runs serves s (d.exec serve s).1 (d.exec serve s).2 := by
  induction d generalizing s with
  | ret result => exact .ret
  | fail error => exact .fail
  | ask call next ih => exact .ask (hserve s call) (ih (serve s call).1 (serve s call).2)

end Runs

end Dialog

end Eva4.Lib
