import Eva4.Lib.Machine
import Eva4.InventoryDb

/-!
# The worker and the shutdown of the database

States are pushed into a buffer that keeps the latest one of each item.  The worker locks
`busy`, takes the buffer, gives it to the storage and unlocks.  A shutdown waits until `busy` is
not locked and the buffer is empty.  It looks at one after the other: the lock it gets when it
tries `busy` is dropped before the buffer is read.
-/

namespace Eva4.InventoryDb

open Lib Items

inductive WorkerStage (S : Type) where
  | waiting
  | locked
  | taken (states : Table OID S)
  | saving (states : Table OID S)

namespace WorkerStage

def busy {S : Type} : WorkerStage S -> Bool
  | waiting => false
  | _ => true

/-- What is neither in the buffer nor stored. -/
def inFlight {S : Type} : WorkerStage S -> Table OID S
  | taken states | saving states => states
  | _ => ∅

end WorkerStage

/-- A shutdown, with the number of states that were pushed before it was called. -/
inductive ShutdownStage where
  | notCalled
  | called (before : Nat)
  | unlocked (before : Nat)
  | sleeping (before : Nat)
  | returned (before : Nat)
deriving DecidableEq

def ShutdownStage.before : ShutdownStage -> Option Nat
  | notCalled => none
  | called before | unlocked before | sleeping before | returned before => some before

/-- The database, with the states that were pushed and those of the calls of the storage that
have returned. -/
structure Database (S : Type) where
  stateBuf : Table OID S
  worker : WorkerStage S
  shutdown : ShutdownStage
  pushed : List (OID × S)
  saved : List (Table OID S)

inductive DbEvent (S : Type) where
  | pushState (oid : OID) (state : S)
  | lock
  | take
  | saveStates
  | unlock
  | shutdown
  | tryLock
  | readBuf
  | wake

namespace Database

variable {S : Type}

def new : Database S where
  stateBuf := ∅
  worker := .waiting
  shutdown := .notCalled
  pushed := []
  saved := []

def pushState (oid : OID) (state : S) (db : Database S) : Database S :=
  { db with stateBuf := db.stateBuf.insert oid state, pushed := db.pushed ++ [(oid, state)] }

def take (db : Database S) : Database S :=
  { db with
    stateBuf := ∅
    worker := if db.stateBuf.entries.isEmpty then .waiting else .taken db.stateBuf }

def step : Machine (Database S) (DbEvent S) := fun db e =>
  match e with
  | .pushState oid state => some (db.pushState oid state)
  | .lock =>
    match db.worker with
    | .waiting => some { db with worker := .locked }
    | _ => none
  | .take =>
    match db.worker with
    | .locked => some db.take
    | _ => none
  | .saveStates =>
    match db.worker with
    | .taken states => some { db with worker := .saving states }
    | _ => none
  | .unlock =>
    match db.worker with
    | .saving states => some { db with worker := .waiting, saved := db.saved ++ [states] }
    | _ => none
  | .shutdown =>
    match db.shutdown with
    | .notCalled => some { db with shutdown := .called db.pushed.length }
    | _ => none
  | .tryLock =>
    match db.shutdown with
    | .called before =>
      some { db with shutdown := if db.worker.busy then .sleeping before else .unlocked before }
    | _ => none
  | .readBuf =>
    match db.shutdown with
    | .unlocked before =>
      some { db with shutdown := if db.stateBuf.entries.isEmpty then .returned before
        else .sleeping before }
    | _ => none
  | .wake =>
    match db.shutdown with
    | .sleeping before => some { db with shutdown := .called before }
    | _ => none

/-!
## What is kept
-/

section

variable (db : Database S)

def Saved (oid : OID) (state : S) : Prop :=
  exists states, states ∈ db.saved ∧ states.lookup oid = some state

def Held (oid : OID) (state : S) : Prop :=
  db.stateBuf.lookup oid = some state ∨ db.worker.inFlight.lookup oid = some state ∨
    db.Saved oid state

/-- The buffer is not taken while the shutdown is between its two looks. -/
def Undisturbed : DbEvent S -> Prop
  | .take => db.stateBuf.entries ≠ [] -> forall before, db.shutdown ≠ .unlocked before
  | _ => True

/-- No other state of the item is in the buffer. -/
def KeepsOlder : DbEvent S -> Prop
  | .pushState oid state => forall older, db.stateBuf.lookup oid = some older -> older = state
  | _ => True

end

/-- A state that was pushed, or one of the same item that was pushed after it. -/
def Stands (exact : Prop) (pushed : List (OID × S)) (i : Nat) (oid : OID)
    (state state' : S) : Prop :=
  exists j, i ≤ j ∧ pushed[j]? = some (oid, state') ∧ (exact -> state' = state)

structure Keeps (exact : Prop) (db : Database S) : Prop where
  bounded : forall before, db.shutdown.before = some before -> before ≤ db.pushed.length
  held : forall i oid state, db.pushed[i]? = some (oid, state) ->
    exists state', Stands exact db.pushed i oid state state' ∧ db.Held oid state'
  unlocked : forall before, db.shutdown = .unlocked before -> db.worker.inFlight = ∅
  returned : forall before, db.shutdown = .returned before ->
    forall i oid state, i < before -> db.pushed[i]? = some (oid, state) ->
      exists state', Stands exact db.pushed i oid state state' ∧ db.Saved oid state'

section

variable {db : Database S}

lemma Keeps.before_le (h : db.Keeps exact) (hstage : db.shutdown = stage)
    (hbefore : stage.before = some before) : before ≤ db.pushed.length := by
  apply h.bounded
  rw [hstage]
  exact hbefore

lemma Keeps.worker (h : db.Keeps exact) {saved : List (Table OID S)}
    (hheld : forall oid state, db.Held oid state ->
      Held { db with stateBuf := buf, worker := stage, saved := saved } oid state)
    (hsaved : forall states, states ∈ db.saved -> states ∈ saved)
    (hunlocked : forall before, db.shutdown = .unlocked before -> stage.inFlight = ∅) :
    Keeps exact { db with stateBuf := buf, worker := stage, saved := saved } where
  bounded := h.bounded
  held := by
    intro i oid state hi
    rcases h.held i oid state hi with ⟨state', hstands, hin⟩
    exact ⟨state', hstands, hheld oid state' hin⟩
  unlocked := hunlocked
  returned := by
    intro before hreturned i oid state hlt hi
    rcases h.returned before hreturned i oid state hlt hi with ⟨state', hstands, states, hin⟩
    exact ⟨state', hstands, states, hsaved states hin.left, hin.right⟩

lemma Keeps.shutdown (h : db.Keeps exact) (hle : before ≤ db.pushed.length)
    (hbefore : stage.before = some before)
    (hunlocked : forall before, stage = .unlocked before -> db.worker.inFlight = ∅)
    (hreturned : forall before, stage = .returned before ->
      db.stateBuf = ∅ ∧ db.worker.inFlight = ∅) :
    Keeps exact { db with shutdown := stage } where
  bounded := by
    intro before' hbefore'
    rw [hbefore] at hbefore'
    cases hbefore'
    exact hle
  held := h.held
  unlocked := hunlocked
  returned := by
    intro before hstage i oid state _ hi
    rcases h.held i oid state hi with ⟨state', hstands, hheld⟩
    have hempty := hreturned before hstage
    refine ⟨state', hstands, ?_⟩
    rw [Held, hempty.left, hempty.right] at hheld
    rcases hheld with hbuf | hflight | hsaved
    · cases hbuf
    · cases hflight
    · exact hsaved

section

variable {pushed : List (OID × S)}

lemma Stands.concat (h : Stands exact pushed i oid state state') {new : OID × S} :
    Stands exact (pushed ++ [new]) i oid state state' := by
  rcases h with ⟨j, hle, hj, hexact⟩
  refine ⟨j, hle, ?_, hexact⟩
  rw [List.getElem?_append_left (List.getElem?_eq_some_iff.mp hj).1]
  exact hj

theorem Stands.newer {new : S} (h : Stands exact pushed i oid state state')
    (hnew : exact -> state' = new) :
    Stands exact (pushed ++ [(oid, new)]) i oid state new := by
  rcases h with ⟨j, hle, hj, hexact⟩
  have hlt : j < pushed.length := (List.getElem?_eq_some_iff.mp hj).1
  refine ⟨pushed.length, hle.trans (Nat.le_of_lt hlt), List.getElem?_concat_length, ?_⟩
  exact fun he => (hnew he).symm.trans (hexact he)

end

lemma held_pushState (h : db.Held oid state) {new : S}
    (hne : db.stateBuf.lookup oid = some state -> oid ≠ oid') :
    (db.pushState oid' new).Held oid state := by
  rcases h with hbuf | hrest
  · apply Or.inl
    rw [pushState, Table.lookup_insert_if, if_neg (hne hbuf)]
    exact hbuf
  · exact Or.inr hrest

section

variable {exact : Prop}

lemma Keeps.pushState (h : db.Keeps exact) (holder : exact -> db.KeepsOlder (.pushState oid state))
    :
    (db.pushState oid state).Keeps exact where
  bounded := by
    intro before hbefore
    apply (h.bounded before hbefore).trans
    rw [Database.pushState, List.length_append]
    exact Nat.le_add_right _ _
  held := by
    intro i oid' state' hi
    have hnew : (db.pushState oid state).Held oid state := by
      apply Or.inl
      rw [Database.pushState, Table.lookup_insert_if, if_pos rfl]
    have hi' := hi
    rw [Database.pushState, getElem?_concat_if] at hi'
    split at hi'
    · injection hi' with heq
      injection heq with hoid hstate
      rw [← hoid, ← hstate] at hi ⊢
      exact ⟨state, ⟨i, Nat.le_refl i, hi, fun _ => rfl⟩, hnew⟩
    · rcases h.held i oid' state' hi' with ⟨kept, hstands, hheld⟩
      by_cases hreplaced : db.stateBuf.lookup oid' = some kept ∧ oid' = oid
      · rw [hreplaced.right] at hstands ⊢
        rw [hreplaced.right] at hreplaced
        exact ⟨state, hstands.newer fun he => holder he kept hreplaced.left, hnew⟩
      · exact ⟨kept, hstands.concat,
          held_pushState hheld fun hbuf heq => hreplaced ⟨hbuf, heq⟩⟩
  unlocked := h.unlocked
  returned := by
    intro before hreturned i oid' state' hlt hi
    have hle : before ≤ db.pushed.length := h.before_le hreturned rfl
    rw [Database.pushState, List.getElem?_append_left (hlt.trans_le hle)] at hi
    rcases h.returned before hreturned i oid' state' hlt hi with ⟨kept, hstands, hsaved⟩
    exact ⟨kept, hstands.concat, hsaved⟩

lemma empty_of_isEmpty {states : Table OID S} (h : states.entries.isEmpty = true) : states = ∅ :=
  AList.ext (List.isEmpty_iff.mp h)

lemma take_inFlight (db : Database S) : db.take.worker.inFlight = db.stateBuf := by
  rw [take]
  split
  · next hempty => exact (empty_of_isEmpty hempty).symm
  · rfl

lemma held_take (hworker : db.worker = .locked) (h : db.Held oid state) :
    db.take.Held oid state := by
  rcases h with hbuf | hflight | hsaved
  · apply Or.inr ∘ Or.inl
    rw [take_inFlight]
    exact hbuf
  · rw [hworker] at hflight
    cases hflight
  · exact Or.inr (Or.inr hsaved)

theorem Keeps.take (h : db.Keeps exact) (hworker : db.worker = .locked)
    (hcalm : db.Undisturbed .take) : db.take.Keeps exact := by
  apply h.worker
  · exact fun oid state hheld => held_take hworker hheld
  · exact fun states hmem => hmem
  · intro before hbefore
    have hflight := take_inFlight db
    by_cases hempty : db.stateBuf.entries = []
    · exact hflight.trans (AList.ext hempty)
    · exact absurd hbefore (hcalm hempty before)

lemma Keeps.sameInFlight (h : db.Keeps exact) (hsame : stage.inFlight = db.worker.inFlight) :
    Keeps exact { db with worker := stage } := by
  apply h.worker
  · intro oid state hheld
    rw [Held, ← hsame] at hheld
    exact hheld
  · exact fun states hmem => hmem
  · intro before hbefore
    rw [hsame]
    exact h.unlocked before hbefore

lemma Keeps.unlock (h : db.Keeps exact) (hworker : db.worker = .saving states) :
    Keeps exact { db with worker := .waiting, saved := db.saved ++ [states] } := by
  have hmore : forall states', states' ∈ db.saved -> states' ∈ db.saved ++ [states] :=
    fun _ hmem => List.mem_append_left _ hmem
  apply h.worker
  · intro oid state hheld
    rw [Held, hworker] at hheld
    rcases hheld with hbuf | hflight | ⟨states', hmem, hlookup⟩
    · exact Or.inl hbuf
    · exact Or.inr (Or.inr ⟨states, List.mem_append_right _ (List.mem_singleton_self _), hflight⟩)
    · exact Or.inr (Or.inr ⟨states', hmore states' hmem, hlookup⟩)
  · exact hmore
  · exact fun _ _ => rfl

lemma inFlight_of_not_busy {stage : WorkerStage S} (h : ¬ stage.busy = true) :
    stage.inFlight = ∅ := by
  cases stage with
  | waiting | locked => rfl
  | taken | saving => exact absurd rfl h

lemma Keeps.tryLock (h : db.Keeps exact) (hle : before ≤ db.pushed.length) :
    Keeps exact { db with shutdown :=
        if db.worker.busy then .sleeping before else .unlocked before } := by
  split
  · apply h.shutdown hle rfl
    · intro before' heq
      cases heq
    · intro before' heq
      cases heq
  · next hfree =>
    apply h.shutdown hle rfl
    · exact fun _ _ => inFlight_of_not_busy hfree
    · intro before' heq
      cases heq

lemma Keeps.readBuf (h : db.Keeps exact) (hle : before ≤ db.pushed.length)
    (hstage : db.shutdown = .unlocked before) :
    Keeps exact { db with shutdown :=
        if db.stateBuf.entries.isEmpty then .returned before else .sleeping before } := by
  split
  · next hempty =>
    apply h.shutdown hle rfl
    · intro before' heq
      cases heq
    · exact fun _ _ => ⟨empty_of_isEmpty hempty, h.unlocked before hstage⟩
  · apply h.shutdown hle rfl
    · intro before' heq
      cases heq
    · intro before' heq
      cases heq

end

lemma Keeps.called (h : db.Keeps exact) (hle : before ≤ db.pushed.length) :
    Keeps exact { db with shutdown := .called before } := by
  apply h.shutdown hle rfl
  · intro before' heq
    cases heq
  · intro before' heq
    cases heq

end

lemma Keeps.step (h : db.Keeps exact) (hcalm : db.Undisturbed e) (holder : exact -> db.KeepsOlder e)
    (hstep : Database.step db e = some db') : db'.Keeps exact := by
  cases e with
  | pushState oid state =>
    cases hstep
    exact h.pushState holder
  | lock =>
    simp only [Database.step] at hstep
    split at hstep
    · next hworker =>
      cases hstep
      apply h.sameInFlight
      rw [hworker]
      rfl
    · cases hstep
  | take =>
    simp only [Database.step] at hstep
    split at hstep
    · next hworker =>
      cases hstep
      exact h.take hworker hcalm
    · cases hstep
  | saveStates =>
    simp only [Database.step] at hstep
    split at hstep
    · next states hworker =>
      cases hstep
      apply h.sameInFlight
      rw [hworker]
      rfl
    · cases hstep
  | unlock =>
    simp only [Database.step] at hstep
    split at hstep
    · next states hworker =>
      cases hstep
      exact h.unlock hworker
    · cases hstep
  | shutdown =>
    simp only [Database.step] at hstep
    split at hstep
    · cases hstep
      exact h.called (Nat.le_refl _)
    · cases hstep
  | tryLock =>
    simp only [Database.step] at hstep
    split at hstep
    · next before hstage =>
      cases hstep
      exact h.tryLock (h.before_le hstage rfl)
    · cases hstep
  | readBuf =>
    simp only [Database.step] at hstep
    split at hstep
    · next before hstage =>
      cases hstep
      exact h.readBuf (h.before_le hstage rfl) hstage
    · cases hstep
  | wake =>
    simp only [Database.step] at hstep
    split at hstep
    · next before hstage =>
      cases hstep
      exact h.called (h.before_le hstage rfl)
    · cases hstep

lemma new_keeps : (new : Database S).Keeps exact where
  bounded := by
    intro before hbefore
    cases hbefore
  held := by
    intro i oid state hi
    cases hi
  unlocked := fun _ _ => rfl
  returned := by
    intro before hreturned
    cases hreturned

/--
In every run in which the worker does not take the buffer while a shutdown is between its look
at `busy` and its look at the buffer: when the shutdown has returned, the storage has been
given each state that was pushed before the call, or one of the same item that was pushed after
it.  If moreover no state replaces another one in the buffer, it has been given each of them.
-/
theorem shutdown_saves_pushed :
    (forall (last : Database S) (before : Nat), step.Reaches Undisturbed new last ->
      last.shutdown = .returned before ->
      forall i oid state, i < before -> last.pushed[i]? = some (oid, state) ->
        exists j state', i ≤ j ∧ last.pushed[j]? = some (oid, state') ∧ last.Saved oid state') ∧
    forall (last : Database S) (before : Nat),
      step.Reaches (fun db e => db.Undisturbed e ∧ db.KeepsOlder e) new last ->
      last.shutdown = .returned before ->
      forall i oid state, i < before -> last.pushed[i]? = some (oid, state) ->
        last.Saved oid state := by
  constructor
  · intro last before hrun hreturned i oid state hlt hi
    have hkeeps : last.Keeps False :=
      hrun.invariant new_keeps fun h he hstep => h.step he False.elim hstep
    rcases hkeeps.returned before hreturned i oid state hlt hi with
      ⟨state', ⟨j, hle, hj, _⟩, hsaved⟩
    exact ⟨j, state', hle, hj, hsaved⟩
  · intro last before hrun hreturned i oid state hlt hi
    have hkeeps : last.Keeps True :=
      hrun.invariant new_keeps fun h he hstep => h.step he.left (fun _ => he.right) hstep
    rcases hkeeps.returned before hreturned i oid state hlt hi with
      ⟨state', ⟨_, _, _, hexact⟩, hsaved⟩
    rw [hexact trivial] at hsaved
    exact hsaved

/-!
## Concrete runs
-/

def checkCalm (db : Database Nat) : DbEvent Nat -> Bool
  | .take =>
    match db.shutdown with
    | .unlocked _ => false
    | _ => true
  | .pushState oid _ => (db.stateBuf.lookup oid).isNone
  | _ => true

lemma calm_of_check (db : Database Nat) (e : DbEvent Nat) (h : checkCalm db e = true) :
    db.Undisturbed e ∧ db.KeepsOlder e := by
  cases e with
  | take =>
    refine ⟨?_, trivial⟩
    intro _ before hstage
    rw [checkCalm, hstage] at h
    cases h
  | pushState oid state =>
    refine ⟨trivial, ?_⟩
    intro older holder
    rw [checkCalm, holder] at h
    cases h
  | _ => exact ⟨trivial, trivial⟩

def sensorA : OID where
  kind := .sensor
  fullId := "a"

def sensorB : OID where
  kind := .sensor
  fullId := "b"

def sampleEvents : List (DbEvent Nat) :=
  [.pushState sensorA 1, .lock, .take, .pushState sensorB 2, .shutdown, .tryLock, .saveStates,
    .unlock, .wake, .tryLock, .readBuf, .lock, .take, .saveStates, .unlock, .wake, .tryLock,
    .readBuf]

/-- The shutdown waits for a state that is being saved and for one in the buffer. -/
theorem shutdown_saves_pushed_two :
    exists last, step.runChecked checkCalm sampleEvents new = some last ∧
      last.shutdown = .returned 2 ∧ last.Saved sensorA 1 ∧ last.Saved sensorB 2 := by
  apply exists_of_any (p := fun last => decide (last.shutdown = .returned 2 ∧
    last.pushed = [(sensorA, 1), (sensorB, 2)])) (by decide)
  intro last hlast hend
  have hboth := of_decide_eq_true hend
  have hreaches : step.Reaches (fun db e => db.Undisturbed e ∧ db.KeepsOlder e) new last :=
    .of_runChecked calm_of_check .start hlast
  have hsaved := shutdown_saves_pushed.right last 2 hreaches hboth.left
  rw [hboth.right] at hsaved
  exact ⟨hboth.left, hsaved 0 sensorA 1 (by decide) rfl, hsaved 1 sensorB 2 (by decide) rfl⟩

lemma not_saved {db : Database Nat}
    (h : db.saved.all (fun states => states.lookup oid != some state) = true) :
    ¬ db.Saved oid state := by
  intro hsaved
  rcases hsaved with ⟨states, hmem, hlookup⟩
  have hne := List.all_eq_true.mp h states hmem
  rw [hlookup] at hne
  exact absurd rfl (bne_iff_ne.mp hne)

/-- The worker takes the buffer after the shutdown has found `busy` unlocked and before it looks
at the buffer.  A state that a newer one has replaced in the buffer is not saved either. -/
theorem shutdown_returns_before_save :
    (exists last, step.runChecked (fun _ _ => true)
        [.pushState sensorA 1, .shutdown, .tryLock, .lock, .take, .readBuf] new = some last ∧
      last.shutdown = .returned 1 ∧ last.pushed = [(sensorA, 1)] ∧
      (exists states, last.worker = .taken states) ∧ ¬ last.Saved sensorA 1) ∧
    exists last, step.runChecked (fun _ _ => true)
        [.pushState sensorA 1, .pushState sensorA 2, .lock, .take, .saveStates, .unlock,
          .shutdown, .tryLock, .readBuf] new = some last ∧
      last.shutdown = .returned 2 ∧ last.pushed = [(sensorA, 1), (sensorA, 2)] ∧
      ¬ last.Saved sensorA 1 := by
  constructor
  · exact ⟨_, rfl, rfl, rfl, ⟨_, rfl⟩, not_saved rfl⟩
  · exact ⟨_, rfl, rfl, rfl, not_saved rfl⟩

end Database

end Eva4.InventoryDb
