import Eva4.Items.Basic

/-!
# Rules of the logic manager

A rule asks about a property of the state of an item.  It is processed when the property did not
meet the condition before, and it is matched if the new one does.
-/

namespace Eva4.ControllerLm

open Items

section

variable (V : Type)

class StateValue extends BEq V where
  tryIntoU64 : V -> Option (BitVec 64)
  getBit : BitVec 64 -> Nat -> Bool

structure StateX where
  status : Int
  value : V
  act : Option Nat

inductive StatePropExt where
  | status
  | value
  | act

inductive InitialKind where
  | process
  | skip
  | only
deriving DecidableEq

/-- A condition.  The numbers are those of statuses, bits and action counters, each of which is
exact as a float. -/
structure Range where
  matchesAny : Bool
  matchesNumber : Int -> Bool
  matchesValue : V -> Bool

structure Rule where
  id : String
  oid : OIDMask
  prop : StatePropExt
  condition : Range V
  initial : InitialKind
  block : Bool
  bit : Option Nat
  brk : Bool
  chilloutTime : Option Nat
  run : OID
  priority : Nat

structure Source where
  oid : OID
  state : StateX V

/-- While the chillout is active, the latest event is kept for its end. -/
structure Chillout where
  active : Bool
  event : Option (Source V)

def Chillout.none {V : Type} : Chillout V where
  active := false
  event := Option.none

inductive Effect where
  | matched (rule : Nat) (oid : OID)
  | runMacro (rule : Nat) (run : OID) (source : Source V) (block : Bool)
  | sleep (rule : Nat) (chilloutTime : Nat)

def Effect.matchedRule {V : Type} : Effect V -> Option Nat
  | matched rule _ => some rule
  | _ => none

structure Env where
  maskMatches : OIDMask -> OID -> Bool
  getSubscribers : List (Rule V) -> OID -> List (Rule V)
  packParams : Rule V -> Source V -> EResult Unit

end

namespace Rule

variable {V : Type} [StateValue V] (rule : Rule V)

def matchesBit (bit : Nat) (v : BitVec 64) : Bool :=
  rule.condition.matchesNumber (if StateValue.getBit V v bit then 1 else 0)

variable (state : StateX V)

def matchesState : Bool :=
  rule.condition.matchesAny ||
    match rule.prop with
    | .status => rule.condition.matchesNumber state.status
    | .value =>
      match rule.bit with
      | some bit =>
        match StateValue.tryIntoU64 state.value with
        | some v => rule.matchesBit bit v
        | none => false
      | none => rule.condition.matchesValue state.value
    | .act =>
      match state.act with
      | some act => rule.condition.matchesNumber act
      | none => false

section

variable (prev : Option (StateX V))

def needProcess : Bool :=
  match prev with
  | some stPrev =>
    if rule.initial = .only then false
    else
      rule.condition.matchesAny ||
        match rule.prop with
        | .status => stPrev.status != state.status && !rule.condition.matchesNumber stPrev.status
        | .value =>
          stPrev.value != state.value &&
            match rule.bit with
            | some bit =>
              match StateValue.tryIntoU64 stPrev.value with
              | some v => !rule.matchesBit bit v
              | none => true
            | none => !rule.condition.matchesValue stPrev.value
        | .act =>
          stPrev.act != state.act &&
            match stPrev.act with
            | some act => !rule.condition.matchesNumber act
            | none => true
  | none => decide (rule.initial ≠ .skip)

/-- What is left after the parameters of the macro were serialized. -/
def runMatched (source : Source V) : List (Effect V) :=
  .runMacro rule.priority rule.run source rule.block ::
    match rule.chilloutTime with
    | some time => [.sleep rule.priority time]
    | none => []

/-- The chillout, the effects, and whether the rules that follow are processed. -/
def process (env : Env V) (rule : Rule V) (oid : OID) (state : StateX V)
    (prev : Option (StateX V)) (chillout : Chillout V) :
    Chillout V × List (Effect V) × EResult Bool :=
  let source : Source V := { oid := oid, state := state }
  if rule.needProcess state prev && rule.matchesState state then
    if rule.chilloutTime.isSome && chillout.active then
      ({ chillout with event := some source }, [.matched rule.priority oid], .ok (!rule.brk))
    else
      let started := { chillout with active := chillout.active || rule.chilloutTime.isSome }
      match env.packParams rule source with
      | .error e => (started, [.matched rule.priority oid], .error e)
      | .ok () => (started, .matched rule.priority oid :: rule.runMatched source, .ok (!rule.brk))
  else (chillout, [], .ok true)

/-- The end of a chillout runs the macro for the event that was kept. -/
def processChillout (env : Env V) (rule : Rule V) (chillout : Chillout V) :
    Chillout V × List (Effect V) :=
  match chillout.event with
  | some source =>
    match env.packParams rule source with
    | .error _ => (.none, [])
    | .ok () => (.none, [.runMacro rule.priority rule.run source true])
  | none => (.none, [])

/-!
## Rising edges
-/

inductive Property (V : Type) where
  | number (n : Int)
  | value (v : V)

/-- A property that is absent or that cannot be converted is none. -/
def property : Option (Property V) :=
  match rule.prop, rule.bit with
  | .status, _ => some (.number state.status)
  | .value, some bit =>
    (StateValue.tryIntoU64 state.value).map fun v =>
      .number (if StateValue.getBit V v bit then 1 else 0)
  | .value, none => some (.value state.value)
  | .act, _ => state.act.map fun act => .number act

def Property.meets (condition : Range V) : Property V -> Bool
  | .number n => condition.matchesNumber n
  | .value v => condition.matchesValue v

def meets (rule : Rule V) (state : StateX V) : Bool :=
  (rule.property state).any fun p => p.meets rule.condition

def Holds : Prop :=
  exists p, rule.property state = some p ∧ p.meets rule.condition = true

lemma meets_iff : rule.meets state = true <-> rule.Holds state :=
  Option.any_eq_true ..

/-- Values that are equal meet the same conditions and are converted in the same way. -/
structure RespectsEqual : Prop where
  matchesValue : forall v w : V, (v == w) = true ->
    rule.condition.matchesValue v = rule.condition.matchesValue w
  tryIntoU64 : forall v w : V, (v == w) = true -> StateValue.tryIntoU64 v = StateValue.tryIntoU64 w

lemma matchesState_eq :
    rule.matchesState state = (rule.condition.matchesAny || rule.meets state) := by
  unfold matchesState meets property
  congr 1
  cases rule.prop with
  | status => rfl
  | value =>
    cases rule.bit with
    | none => rfl
    | some bit => cases StateValue.tryIntoU64 state.value with
        | none | some => rfl
  | act => cases state.act with
      | none | some => rfl

def changes (stPrev state : StateX V) : Bool :=
  match rule.prop with
  | .status => stPrev.status != state.status
  | .value => stPrev.value != state.value
  | .act => stPrev.act != state.act

lemma needProcess_some : rule.needProcess state (some stPrev) =
      (decide (rule.initial ≠ .only) && (rule.condition.matchesAny ||
        (rule.changes stPrev state && !rule.meets stPrev))) := by
  by_cases honly : rule.initial = .only
  · simp only [needProcess, honly, if_true, ne_eq, not_true, decide_false, Bool.false_and]
  · simp only [needProcess, honly, if_false, ne_eq, not_false_iff, decide_true, Bool.true_and]
    congr 1
    unfold meets property changes
    cases rule.prop with
    | status => rfl
    | value =>
      cases rule.bit with
      | none => rfl
      | some bit => cases StateValue.tryIntoU64 stPrev.value with
          | none | some => rfl
    | act => cases stPrev.act with
        | none | some => rfl

variable {state} in
lemma meets_of_not_changes {rule : Rule V} (hrespects : rule.RespectsEqual)
    (h : rule.changes stPrev state = false) : rule.meets stPrev = rule.meets state := by
  unfold meets property
  unfold changes at h
  cases hprop : rule.prop with
  | status =>
    rw [hprop] at h
    have hsame : stPrev.status = state.status := bne_eq_false_iff_eq.mp h
    simp only [hsame]
  | value =>
    rw [hprop] at h
    have hsame : (stPrev.value == state.value) = true := by
      rw [← Bool.not_eq_false']
      exact h
    have hvalue := hrespects.matchesValue _ _ hsame
    have hbits := hrespects.tryIntoU64 _ _ hsame
    cases rule.bit with
    | none => exact hvalue
    | some bit => simp only [hbits]
  | act =>
    rw [hprop] at h
    have hsame : stPrev.act = state.act := bne_eq_false_iff_eq.mp h
    simp only [hsame]

def fires : Bool :=
  rule.needProcess state prev && rule.matchesState state

def Admits : Prop :=
  (prev = none ∧ rule.initial ≠ .skip) ∨ (prev ≠ none ∧ rule.initial ≠ .only)

end

lemma fires_any {rule : Rule V} (hany : rule.condition.matchesAny = true) (state : StateX V) :
    rule.fires state prev = true <-> rule.Admits prev := by
  rw [fires, matchesState_eq, hany, Bool.true_or, Bool.and_true]
  cases prev with
  | none => simp [needProcess, Admits]
  | some stPrev => simp [needProcess_some, hany, Admits]

lemma fires_edge {rule : Rule V} (hrespects : rule.RespectsEqual)
    (hany : rule.condition.matchesAny = false) (state : StateX V) :
    rule.fires state prev = true <-> rule.Holds state ∧ ((prev = none ∧ rule.initial ≠ .skip) ∨
        exists stPrev, prev = some stPrev ∧ rule.initial ≠ .only ∧ ¬ rule.Holds stPrev) := by
  rw [fires, matchesState_eq, hany, Bool.false_or, Bool.and_eq_true, meets_iff, and_comm]
  apply and_congr_right
  intro hholds
  cases prev with
  | none => simp [needProcess]
  | some stPrev =>
    have hchanges : rule.meets stPrev = false -> rule.changes stPrev state = true := by
      intro hnot
      cases hchanges : rule.changes stPrev state with
      | true => rfl
      | false =>
        rw [meets_of_not_changes hrespects hchanges, (meets_iff rule state).mpr hholds] at hnot
        cases hnot
    rw [needProcess_some, hany, Bool.false_or]
    constructor
    · intro h
      have hboth := Bool.and_eq_true_iff.mp h
      have hnot := (Bool.and_eq_true_iff.mp hboth.right).2
      refine Or.inr ⟨stPrev, rfl, of_decide_eq_true hboth.left, ?_⟩
      rw [← meets_iff, Bool.not_eq_true]
      rw [Bool.not_eq_true'] at hnot
      exact hnot
    · intro h
      rcases h with ⟨hnone, _⟩ | ⟨stPrev', heq, hinitial, hnot⟩
      · cases hnone
      · injection heq with heq
        rw [← heq, ← meets_iff, Bool.not_eq_true] at hnot
        rw [hchanges hnot, hnot, decide_eq_true hinitial]
        rfl

/-!
## What a rule does
-/

omit [StateValue V] in
lemma runMatched_matched : (rule.runMatched source).filterMap Effect.matchedRule = [] := by
  unfold runMatched
  cases rule.chilloutTime with
  | none | some => rfl

variable {state} in
theorem process_spec {rule : Rule V} {oid : OID}
    (hpack : env.packParams rule { oid := oid, state := state } = .ok ()) (prev : Option (StateX V))
    (chillout : Chillout V) :
    (rule.process env oid state prev chillout).2.1.filterMap Effect.matchedRule =
        (if rule.fires state prev then [rule.priority] else []) ∧
      (rule.process env oid state prev chillout).2.2 =
        .ok (!(rule.fires state prev && rule.brk)) := by
  cases hfires : rule.fires state prev with
  | false =>
    unfold fires at hfires
    simp only [process, hfires, Bool.false_eq_true, if_false]
    exact ⟨rfl, rfl⟩
  | true =>
    unfold fires at hfires
    simp only [process, hfires, if_true]
    split
    · exact ⟨rfl, rfl⟩
    · rw [hpack]
      exact ⟨congrArg (rule.priority :: ·) (runMatched_matched rule), rfl⟩

end Rule

end Eva4.ControllerLm
