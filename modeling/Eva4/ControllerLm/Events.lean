import Eva4.Lib.Table
import Eva4.ControllerLm.Rule
import Mathlib.Data.List.Induction
import Mathlib.Data.List.Sort

/-!
# State events of the logic manager

The rules that have subscribed to an item are processed in the order of their priorities, until
one that is matched breaks.  The state of the last event of each item is kept.
-/

namespace Eva4.ControllerLm

open Lib Items

variable {V : Type} [StateValue V]

structure Controller (V : Type) where
  prevStates : Table OID (StateX V)
  chillouts : Table Nat (Chillout V)

inductive Input (V : Type) where
  | stateEvent (oid : OID) (state : StateX V)
  | chilloutEnd (rule : Rule V)

/-- The priority of a rule is its place in the configuration. -/
def setPriorities (config : List (Rule V)) : List (Rule V) :=
  config.mapIdx fun i rule => { rule with priority := i }

variable (env : Env V) (rules : List (Rule V)) (inputs : List (Input V)) (oid : OID)

variable (state : StateX V) (c : Controller V)

namespace Controller

def new : Controller V where
  prevStates := ∅
  chillouts := ∅

def chillout (rule : Rule V) : Chillout V :=
  (c.chillouts.lookup rule.priority).getD .none

def setChillout (rule : Rule V) (chillout : Chillout V) : Controller V :=
  { c with chillouts := c.chillouts.insert rule.priority chillout }

/-- An error is logged and the next rule is processed. -/
def processRules (env : Env V) (oid : OID) (state : StateX V) (prev : Option (StateX V)) :
    List (Rule V) -> Controller V -> Controller V × List (Effect V)
  | [], c => (c, [])
  | rule :: rest, c =>
    let processed := rule.process env oid state prev (c.chillout rule)
    let c' := c.setChillout rule processed.1
    match processed.2.2 with
    | .ok false => (c', processed.2.1)
    | _ =>
      let last := processRules env oid state prev rest c'
      (last.1, processed.2.1 ++ last.2)

def byPriority : List (Rule V) :=
  rules.insertionSort fun a b => a.priority ≤ b.priority

def processState : Controller V × List (Effect V) :=
  let prev := c.prevStates.lookup oid
  let last := processRules env oid state prev (byPriority (env.getSubscribers rules oid)) c
  ({ last.1 with prevStates := last.1.prevStates.insert oid state }, last.2)

def step : Input V -> Controller V × List (Effect V)
  | .stateEvent oid state => c.processState env rules oid state
  | .chilloutEnd rule =>
    let ended := rule.processChillout env (c.chillout rule)
    (c.setChillout rule ended.1, ended.2)

def run : Controller V :=
  inputs.foldl (fun c input => (c.step env rules input).1) new

def matchedBy : List Nat :=
  ((run env rules inputs).processState env rules oid state).2.filterMap Effect.matchedRule

end Controller

/-!
## Previous states
-/

def Input.stateOf : Input V -> Option (StateX V)
  | .stateEvent oid' state => if oid = oid' then some state else none
  | .chilloutEnd _ => none

def previous : Option (StateX V) :=
  (inputs.filterMap (Input.stateOf oid)).getLast?

namespace Controller

lemma processRules_prevStates :
    (processRules env oid state prev rules c).1.prevStates = c.prevStates := by
  induction rules generalizing c with
  | nil => rfl
  | cons rule rest ih =>
    unfold processRules
    dsimp only
    split
    · rfl
    · rw [ih]
      rfl

lemma processState_prevStates :
    (c.processState env rules oid state).1.prevStates = c.prevStates.insert oid state := by
  unfold processState
  dsimp only
  rw [processRules_prevStates]

lemma run_concat :
    run env rules (inputs ++ [input]) = ((run env rules inputs).step env rules input).1 := by
  unfold run
  rw [List.foldl_append]
  rfl

theorem run_prevStates : (run env rules inputs).prevStates.lookup oid = previous inputs oid := by
  induction inputs using List.reverseRecOn with
  | nil => rfl
  | append_singleton inputs input ih =>
    rw [run_concat, previous, List.filterMap_append]
    cases input with
    | chilloutEnd rule =>
      rw [show [Input.chilloutEnd rule].filterMap (Input.stateOf oid) = [] from rfl,
        List.append_nil]
      exact ih
    | stateEvent oid' state =>
      rw [step, processState_prevStates, Table.lookup_insert_if]
      by_cases heq : oid = oid'
      · have hlast : [Input.stateEvent oid' state].filterMap (Input.stateOf oid) = [state] := by
          simp only [List.filterMap_cons, Input.stateOf, heq, if_true, List.filterMap_nil]
        rw [if_pos heq, hlast, List.getLast?_concat]
      · have hnone : [Input.stateEvent oid' state].filterMap (Input.stateOf oid) = [] := by
          simp only [List.filterMap_cons, Input.stateOf, heq, if_false, List.filterMap_nil]
        rw [if_neg heq, hnone, List.append_nil]
        exact ih

/-!
## The loop over the rules
-/

/-- The rules that fire, up to the first one that breaks. -/
def firing (state : StateX V) (prev : Option (StateX V)) : List (Rule V) -> List Nat
  | [] => []
  | rule :: rest =>
    if rule.fires state prev then rule.priority :: if rule.brk then [] else firing state prev rest
    else firing state prev rest

variable {env} in
lemma processRules_matched (hpack : forall rule source,
    env.packParams rule source = .ok ()) (oid : OID) (state : StateX V)
    (prev : Option (StateX V)) (rules : List (Rule V)) (c : Controller V) :
    (processRules env oid state prev rules c).2.filterMap Effect.matchedRule =
      firing state prev rules := by
  induction rules generalizing c with
  | nil => rfl
  | cons rule rest ih =>
    have hspec := Rule.process_spec (hpack rule { oid := oid, state := state }) prev
      (c.chillout rule)
    unfold processRules firing
    dsimp only
    cases hfires : rule.fires state prev with
    | false =>
      rw [hfires] at hspec
      have hresult : _ = Except.ok true := hspec.right
      rw [hresult]
      rw [List.filterMap_append, hspec.left, ih]
      rfl
    | true =>
      rw [hfires] at hspec
      cases hbrk : rule.brk with
      | false =>
        rw [hbrk] at hspec
        have hresult : _ = Except.ok true := hspec.right
        rw [hresult]
        rw [List.filterMap_append, hspec.left, ih]
        rfl
      | true =>
        rw [hspec.right, hbrk]
        exact hspec.left

variable {rules} {state}

lemma mem_of_mem_firing (h : priority ∈ firing state prev rules) :
    exists rule, rule ∈ rules ∧ rule.priority = priority := by
  induction rules with
  | nil => cases h
  | cons rule rest ih =>
    have hrest : priority ∈ firing state prev rest ->
        exists rule', rule' ∈ rule :: rest ∧ rule'.priority = priority := by
      intro hmem
      rcases ih hmem with ⟨rule', hrule', heq⟩
      exact ⟨rule', List.mem_cons_of_mem _ hrule', heq⟩
    unfold firing at h
    split at h
    · rcases List.mem_cons.mp h with heq | hmem
      · exact ⟨rule, List.mem_cons_self, heq.symm⟩
      · split at hmem
        · cases hmem
        · exact hrest hmem
    · exact hrest h

lemma mem_firing_cons (hne : priority ≠ first.priority) :
    priority ∈ firing state prev (first :: rest) <->
      ¬ (first.fires state prev = true ∧ first.brk = true) ∧ priority ∈ firing state prev rest := by
  rw [firing]
  cases hfires : first.fires state prev with
  | false => simp
  | true =>
    cases hbrk : first.brk with
    | false | true => simp [hne]

lemma first_mem_firing (state : StateX V) (prev : Option (StateX V))
    (hlt : forall rule, rule ∈ rest -> first.priority < rule.priority) :
    first.priority ∈ firing state prev (first :: rest) <-> first.fires state prev = true := by
  rw [firing]
  cases hfires : first.fires state prev with
  | true => simp
  | false =>
    simp only [Bool.false_eq_true, if_false, iff_false]
    intro hmem
    rcases mem_of_mem_firing hmem with ⟨rule, hrule, heq⟩
    exact Nat.lt_irrefl _ (heq ▸ hlt rule hrule)

lemma mem_firing_iff (hsorted : rules.Pairwise fun a b => a.priority < b.priority)
    (hmem : rule ∈ rules) : rule.priority ∈ firing state prev rules <->
      (forall earlier, earlier ∈ rules -> earlier.priority < rule.priority ->
        earlier.brk = true -> earlier.priority ∉ firing state prev rules) ∧
      rule.fires state prev = true := by
  induction rules with
  | nil => cases hmem
  | cons first rest ih =>
    rcases List.pairwise_cons.mp hsorted with ⟨hlt, hrest⟩
    have hfirst := first_mem_firing state prev hlt
    rcases List.mem_cons.mp hmem with heq | hin
    · rw [heq, hfirst]
      refine ⟨fun hfires => ⟨?_, hfires⟩, fun h => h.right⟩
      intro earlier hearlier hbefore
      rcases List.mem_cons.mp hearlier with hsame | hin
      · exact absurd hbefore (hsame ▸ Nat.lt_irrefl _)
      · exact absurd hbefore (Nat.lt_asymm (hlt earlier hin))
    · have hne : forall other, other ∈ rest -> other.priority ≠ first.priority :=
        fun other hother => Nat.ne_of_gt (hlt other hother)
      rw [mem_firing_cons (hne rule hin), ih hrest hin]
      constructor
      · intro h
        rcases h with ⟨hnot, hothers, hfires⟩
        refine ⟨?_, hfires⟩
        intro earlier hearlier hbefore hbrk
        rcases List.mem_cons.mp hearlier with hsame | hearlier
        · rw [hsame, hfirst]
          rw [hsame] at hbrk
          exact fun hfirstFires => hnot ⟨hfirstFires, hbrk⟩
        · rw [mem_firing_cons (hne earlier hearlier)]
          exact fun hboth => hothers earlier hearlier hbefore hbrk hboth.right
      · intro h
        rcases h with ⟨hall, hfires⟩
        have hnot : ¬ (first.fires state prev = true ∧ first.brk = true) :=
          fun hboth => hall first List.mem_cons_self (hlt rule hin) hboth.right
            (hfirst.mpr hboth.left)
        refine ⟨hnot, ?_, hfires⟩
        intro earlier hearlier hbefore hbrk hfiring
        apply hall earlier (List.mem_cons_of_mem _ hearlier) hbefore hbrk
        exact (mem_firing_cons (hne earlier hearlier)).mpr ⟨hnot, hfiring⟩

/-!
## Priorities
-/

section

omit [StateValue V]

lemma setPriorities_sorted (config : List (Rule V)) :
    (setPriorities config).Pairwise fun a b => a.priority < b.priority := by
  rw [List.pairwise_iff_getElem]
  intro i j hi hj hlt
  simp only [setPriorities, List.getElem_mapIdx]
  exact hlt

lemma priority_unique (hsorted : rules.Pairwise fun a b => a.priority < b.priority) (ha : a ∈ rules)
    (hb : b ∈ rules) (heq : a.priority = b.priority) : a = b := by
  have hnodup : (rules.map Rule.priority).Nodup :=
    (List.pairwise_map.mpr hsorted).imp Nat.ne_of_lt
  exact List.inj_on_of_nodup_map hnodup ha hb heq

end

omit [StateValue V] in
/-- The order in which the subscribers are found does not matter. -/
theorem byPriority_eq {sorted : List (Rule V)}
    (hsorted : sorted.Pairwise fun a b => a.priority < b.priority) (hperm : found.Perm sorted) :
    byPriority found = sorted := by
  have hsame : (byPriority found).Perm sorted := (List.perm_insertionSort _ found).trans hperm
  apply hsame.eq_of_pairwise ?_ (List.pairwise_insertionSort _ _) (hsorted.imp Nat.le_of_lt)
  intro a b ha hb hab hba
  exact priority_unique hsorted (hsame.mem_iff.mp ha) hb (Nat.le_antisymm hab hba)

end Controller

/-- The subscribers of an item are the rules whose masks match it, parameters can be
serialized, and conditions do not tell equal values apart. -/
structure Env.Lawful (rules : List (Rule V)) : Prop where
  getSubscribers : forall oid, (env.getSubscribers rules oid).Perm
    (rules.filter fun rule => env.maskMatches rule.oid oid)
  packParams : forall rule source, env.packParams rule source = .ok ()
  respectsEqual : forall rule, rule ∈ rules -> rule.RespectsEqual

namespace Controller

def Unbroken (rules : List (Rule V)) (inputs : List (Input V)) (oid : OID)
    (state : StateX V) (rule : Rule V) : Prop :=
  forall earlier, earlier ∈ rules -> earlier.priority < rule.priority -> earlier.brk = true ->
    earlier.priority ∉ matchedBy env rules inputs oid state

variable {env} {rules}

lemma matchedBy_eq (hlaw : env.Lawful rules)
    (hsorted : rules.Pairwise fun a b => a.priority < b.priority) (inputs : List (Input V))
    (oid : OID) (state : StateX V) :
    matchedBy env rules inputs oid state = firing state (previous inputs oid)
      (rules.filter fun rule => env.maskMatches rule.oid oid) := by
  unfold matchedBy processState
  rw [processRules_matched hlaw.packParams, run_prevStates,
    byPriority_eq (hsorted.filter _) (hlaw.getSubscribers oid)]

variable {oid} in
lemma matched_iff_fires (hlaw : env.Lawful rules)
    (hsorted : rules.Pairwise fun a b => a.priority < b.priority) (inputs : List (Input V))
    (state : StateX V) (hrule : rule ∈ rules) (hmask : env.maskMatches rule.oid oid = true) :
    rule.priority ∈ matchedBy env rules inputs oid state <->
      Unbroken env rules inputs oid state rule ∧ rule.fires state (previous inputs oid) = true := by
  have hsubscribed := hsorted.filter fun rule => env.maskMatches rule.oid oid
  unfold Unbroken
  rw [matchedBy_eq hlaw hsorted,
    mem_firing_iff hsubscribed (List.mem_filter.mpr ⟨hrule, hmask⟩)]
  apply and_congr_left
  intro _
  constructor
  · intro hothers earlier hearlier hbefore hbrk hmatched
    rcases mem_of_mem_firing hmatched with ⟨found, hfound, heq⟩
    have hsame : found = earlier :=
      priority_unique hsorted (List.mem_of_mem_filter hfound) hearlier heq
    rw [hsame] at hfound
    exact hothers earlier hfound hbefore hbrk hmatched
  · intro hall earlier hearlier
    exact hall earlier (List.mem_of_mem_filter hearlier)

/--
After every sequence of inputs, a rule whose mask matches the item is matched by an event if and
only if no rule with break that comes before is, the condition holds for the new state, and
either there was no event of the item and it is not skipped, or there was one, the rule is not
for initial states only and the condition did not hold for the state before.  A rule with any
condition is matched by each event that its initial setting admits.
-/
theorem rule_matched_iff {env : Env V} {config : List (Rule V)}
    (hlaw : env.Lawful (setPriorities config)) (inputs : List (Input V)) (oid : OID)
    (state : StateX V) {rule : Rule V} (hrule : rule ∈ setPriorities config)
    (hmask : env.maskMatches rule.oid oid = true) : (rule.condition.matchesAny = false ->
      (rule.priority ∈ matchedBy env (setPriorities config) inputs oid state <->
        Unbroken env (setPriorities config) inputs oid state rule ∧ rule.Holds state ∧
          ((previous inputs oid = none ∧ rule.initial ≠ .skip) ∨
            exists stPrev, previous inputs oid = some stPrev ∧ rule.initial ≠ .only ∧
              ¬ rule.Holds stPrev))) ∧ (rule.condition.matchesAny = true ->
      (rule.priority ∈ matchedBy env (setPriorities config) inputs oid state <->
        Unbroken env (setPriorities config) inputs oid state rule ∧
          ((previous inputs oid = none ∧ rule.initial ≠ .skip) ∨
            (previous inputs oid ≠ none ∧ rule.initial ≠ .only)))) := by
  have hmatched := matched_iff_fires hlaw (setPriorities_sorted config) inputs state hrule hmask
  constructor
  · intro hany
    rw [hmatched, Rule.fires_edge (hlaw.respectsEqual rule hrule) hany]
  · intro hany
    rw [hmatched, Rule.fires_any hany]
    rfl

/-!
## A concrete rule
-/

local instance : StateValue Int where
  tryIntoU64 v := if 0 ≤ v then some (BitVec.ofNat 64 v.toNat) else none
  getBit v bit := v.getLsbD bit

def sampleRule : Rule Int where
  id := "rule"
  oid := { kind := none, chunks := none }
  prop := .value
  condition :=
    { matchesAny := false, matchesNumber := fun n => decide (5 ≤ n),
      matchesValue := fun v => decide (5 ≤ v) }
  initial := .process
  block := false
  bit := none
  brk := true
  chilloutTime := none
  run := { kind := .lMacro, fullId := "m" }
  priority := 0

def sampleEnv : Env Int where
  maskMatches := fun _ _ => true
  getSubscribers := fun rules _ => rules.reverse
  packParams := fun _ _ => .ok ()

def sampleState (v : Int) : StateX Int where
  status := 1
  value := v
  act := none

lemma sampleEnv_lawful : sampleEnv.Lawful (setPriorities [sampleRule]) where
  getSubscribers := fun _ => .refl _
  packParams := fun _ _ => rfl
  respectsEqual := by
    intro rule _
    constructor
    · intro v w heq
      rw [eq_of_beq heq]
    · intro v w heq
      rw [eq_of_beq heq]

lemma sampleRule_holds_iff : sampleRule.Holds (sampleState v) <-> 5 ≤ v := by
  rw [← Rule.meets_iff]
  exact decide_eq_true_iff

/-- The value rises from three to seven. -/
theorem rule_matched_iff_rising :
    previous [Input.stateEvent { kind := .sensor, fullId := "a" } (sampleState 3)]
        { kind := .sensor, fullId := "a" } = some (sampleState 3) ∧
      0 ∈ matchedBy sampleEnv (setPriorities [sampleRule])
        [.stateEvent { kind := .sensor, fullId := "a" } (sampleState 3)]
        { kind := .sensor, fullId := "a" } (sampleState 7) := by
  have hprev : previous [Input.stateEvent { kind := .sensor, fullId := "a" } (sampleState 3)]
      { kind := .sensor, fullId := "a" } = some (sampleState 3) := rfl
  have hedge := rule_matched_iff sampleEnv_lawful
    [.stateEvent { kind := .sensor, fullId := "a" } (sampleState 3)]
    { kind := .sensor, fullId := "a" } (sampleState 7) (List.mem_singleton_self sampleRule) rfl
  refine ⟨hprev, (hedge.left rfl).mpr ⟨?_, ?_, Or.inr ⟨sampleState 3, hprev, ?_, ?_⟩⟩⟩
  · intro earlier _ hbefore
    exact absurd hbefore (Nat.not_lt_zero _)
  · rw [sampleRule_holds_iff]
    decide
  · decide
  · rw [sampleRule_holds_iff]
    decide

end Controller

end Eva4.ControllerLm
