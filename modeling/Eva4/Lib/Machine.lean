import Mathlib.Data.List.Basic

/-!
# Machines

A machine goes from state to state by events, and takes an event only where it can happen.  Its
runs are restricted by a condition on the events and the states in which they happen.
-/

namespace Eva4.Lib

/-- What a run has led to, found by evaluation. -/
theorem exists_of_any {Q : S -> Prop}
    (h : o.any p = true) (hQ : forall s, o = some s -> p s = true -> Q s) :
    exists s, o = some s ∧ Q s := by
  rcases (Option.any_eq_true ..).mp h with ⟨s, hs, hp⟩
  exact ⟨s, hs, hQ s hs hp⟩

/-- The state after an event, if the event can happen. -/
abbrev Machine (S E : Type) : Type :=
  S -> E -> Option S

namespace Machine

variable {S E : Type}

/-- The states reached by events that meet a condition. -/
inductive Reaches (m : Machine S E) (admits : S -> E -> Prop) (first : S) : S -> Prop where
  | start : Reaches m admits first first
  | step {mid last : S} {e : E} : Reaches m admits first mid -> admits mid e ->
      m mid e = some last -> Reaches m admits first last

variable {m : Machine S E}

theorem Reaches.invariant {I : S -> Prop} (hfirst : I first)
    (hstep : forall {s e s'}, I s -> admits s e -> m s e = some s' -> I s')
    (h : Reaches m admits first last) : I last := by
  induction h with
  | start => exact hfirst
  | step _ hadmits hlast ih => exact hstep ih hadmits hlast

/-!
## Given events
-/

def runChecked (m : Machine S E) (check : S -> E -> Bool) : List E -> S -> Option S
  | [], s => some s
  | e :: rest, s => if check s e then (m s e).bind (runChecked m check rest) else none

lemma Reaches.of_runChecked (hcheck : forall s e, check s e = true -> admits s e)
    (hmid : Reaches m admits first mid) (h : m.runChecked check events mid = some last) :
    Reaches m admits first last := by
  induction events generalizing mid with
  | nil =>
    cases h
    exact hmid
  | cons e rest ih =>
    unfold runChecked at h
    split at h
    · next hok =>
      rcases Option.bind_eq_some_iff.mp h with ⟨next, hnext, hrest⟩
      exact ih (.step hmid (hcheck mid e hok) hnext) hrest
    · cases h

end Machine

theorem of_guard [Decidable c] (h : (if c then some a else none) = some b) : c ∧ a = b := by
  rcases Option.ite_none_right_eq_some.mp h with ⟨hc, hsome⟩
  injection hsome with hab
  exact ⟨hc, hab⟩

/-!
## Lists of tasks
-/

section Tasks

variable {tasks : List A} {m : Nat}

lemma getElem?_set_if (h : tasks[n]? = some a) (b : A) (m : Nat) :
    (tasks.set n b)[m]? = if m = n then some b else tasks[m]? := by
  by_cases heq : m = n
  · rw [if_pos heq, heq]
    exact List.getElem?_set_self (List.getElem?_eq_some_iff.mp h).1
  · rw [if_neg heq]
    exact List.getElem?_set_ne (Ne.symm heq)

lemma getElem?_concat_if (tasks : List A) (a : A) (m : Nat) :
    (tasks ++ [a])[m]? = if m = tasks.length then some a else tasks[m]? := by
  by_cases heq : m = tasks.length
  · rw [if_pos heq, heq]
    exact List.getElem?_concat_length
  · rw [if_neg heq]
    rcases Nat.lt_or_gt_of_ne heq with hlt | hgt
    · exact List.getElem?_append_left hlt
    · rw [List.getElem?_eq_none_iff.mpr (Nat.le_of_lt hgt), List.getElem?_eq_none_iff,
        List.length_append]
      exact hgt

lemma getElem?_concat_cases (hm : (tasks ++ [b])[m]? = some c) : c = b ∨ tasks[m]? = some c := by
  rw [getElem?_concat_if] at hm
  split at hm
  · injection hm with hb
    exact Or.inl hb.symm
  · exact Or.inr hm

lemma getElem?_set_cases (h : tasks[n]? = some a) (hm : (tasks.set n b)[m]? = some c) :
    (m = n ∧ c = b) ∨ (m ≠ n ∧ tasks[m]? = some c) := by
  rw [getElem?_set_if h] at hm
  split at hm
  · next heq =>
    injection hm with hb
    exact Or.inl ⟨heq, hb.symm⟩
  · next hne => exact Or.inr ⟨hne, hm⟩

/-- Of two tasks that hold one key, both are the same task. -/
def OneAt (Holds : A -> K -> Prop) (tasks : List A) : Prop :=
  forall ⦃m n : Nat⦄ ⦃a b : A⦄ ⦃k : K⦄, tasks[m]? = some a -> tasks[n]? = some b -> Holds a k ->
    Holds b k -> m = n

section

variable {Holds : A -> K -> Prop}

lemma OneAt.nil : OneAt Holds [] := by
  intro m n a b k ha
  cases ha

lemma OneAt.set (h : OneAt Holds tasks) (hn : tasks[n]? = some a)
    (hb : forall {m : Nat} {c : A} {k : K}, Holds b k -> tasks[m]? = some c -> Holds c k -> m = n) :
    OneAt Holds (tasks.set n b) := by
  intro m m' c c' k hc hc' hk hk'
  rcases getElem?_set_cases hn hc with ⟨hm, rfl⟩ | ⟨_, hold⟩
  · rcases getElem?_set_cases hn hc' with ⟨hm', _⟩ | ⟨_, hold'⟩
    · exact hm.trans hm'.symm
    · exact hm.trans (hb hk hold' hk').symm
  · rcases getElem?_set_cases hn hc' with ⟨hm', rfl⟩ | ⟨_, hold'⟩
    · exact (hb hk' hold hk).trans hm'.symm
    · exact h hold hold' hk hk'

lemma OneAt.concat (h : OneAt Holds tasks)
    (hb : forall {k : K}, Holds b k -> forall c, c ∈ tasks -> ¬ Holds c k) :
    OneAt Holds (tasks ++ [b]) := by
  intro m m' c c' k hc hc' hk hk'
  rw [getElem?_concat_if] at hc hc'
  split at hc <;> split at hc'
  · next hm hm' => exact hm.trans hm'.symm
  · cases hc
    exact absurd hk' (hb hk c' (List.mem_of_getElem? hc'))
  · cases hc'
    exact absurd hk (hb hk' c (List.mem_of_getElem? hc))
  · exact h hc hc' hk hk'

end

lemma forall_mem_set {P : A -> Prop} (h : forall a, a ∈ tasks -> P a) (hb : P b) :
    forall a, a ∈ tasks.set n b -> P a := by
  intro a ha
  rcases List.mem_or_eq_of_mem_set ha with hold | hnew
  · exact h a hold
  · rw [hnew]
    exact hb

lemma forall_mem_concat {P : A -> Prop} (h : forall a, a ∈ tasks -> P a) (hb : P b) :
    forall a, a ∈ tasks ++ [b] -> P a := by
  intro a ha
  rcases List.mem_append.mp ha with hold | hnew
  · exact h a hold
  · rw [List.mem_singleton.mp hnew]
    exact hb

lemma set_same (h : tasks[n]? = some a) : tasks.set n a = tasks := by
  rcases List.getElem?_eq_some_iff.mp h with ⟨hlt, heq⟩
  rw [← heq]
  exact List.set_getElem_self hlt

lemma mem_set_of_mem (h : tasks[n]? = some a) (hc : c ∈ tasks) : c = a ∨ c ∈ tasks.set n b := by
  rcases List.mem_iff_getElem?.mp hc with ⟨m, hm⟩
  by_cases heq : m = n
  · rw [heq, h] at hm
    injection hm with hac
    exact Or.inl hac.symm
  · right
    apply List.mem_iff_getElem?.mpr
    exists m
    rw [getElem?_set_if h, if_neg heq]
    exact hm

lemma map_set_same (h : tasks[n]? = some a) (hkey : key b = key a) :
    (tasks.set n b).map key = tasks.map key := by
  apply List.ext_getElem?
  intro m
  rw [List.getElem?_map, List.getElem?_map, getElem?_set_if h]
  split
  · next heq =>
    rw [heq, h]
    exact congrArg some hkey
  · rfl

lemma place_unique (hnodup : (tasks.map key).Nodup) (ha : tasks[m]? = some a)
    (hb : tasks[n]? = some b) (hkey : key a = key b) : m = n := by
  have hm : m < (tasks.map key).length := by
    rw [List.length_map]
    exact (List.getElem?_eq_some_iff.mp ha).1
  apply (List.getElem?_inj hm hnodup).mp
  rw [List.getElem?_map, List.getElem?_map, ha, hb]
  exact congrArg some hkey

end Tasks

end Eva4.Lib
