import Eva4.Hmi.StateFrames

/-!
# The newest state

Between the update of the table and the queue other offers may go on.  The states come in order as
long as no offer overtakes an older one of the same item there.
-/

namespace Eva4.Hmi

open Lib AList
open Items

variable {D : Type}

namespace WsClient

/-!
## States between the table and the queue
-/

def unsent (s : WsClient D) : List (StateFrame D) :=
  s.tasks.filterMap OfferTask.updated

variable {s : WsClient D} {st : StateFrame D} {k : Nat} {task : OfferTask D}

lemma mem_unsent : st ∈ s.unsent <-> exists task, task ∈ s.tasks ∧ task.updated = some st :=
  List.mem_filterMap

lemma mem_unsent_of_getElem? (htask : s.tasks[k]? = some task) (h : task.updated = some st) :
    st ∈ s.unsent :=
  mem_unsent.mpr ⟨task, List.mem_of_getElem? htask, h⟩

lemma unsent_setTask (h : st ∈ (s.setTask k task).unsent) :
    st ∈ s.unsent ∨ task.updated = some st := by
  rcases mem_unsent.mp h with ⟨other, hmem, hupdated⟩
  rcases List.mem_or_eq_of_mem_set hmem with hold | hnew
  · exact Or.inl (mem_unsent.mpr ⟨other, hold, hupdated⟩)
  · rw [hnew] at hupdated
    exact Or.inr hupdated

lemma unsent_of_setTask (hbefore : s.tasks[k]? = some before) (h : st ∈ s.unsent) :
    before.updated = some st ∨ st ∈ (s.setTask k task).unsent := by
  rcases mem_unsent.mp h with ⟨other, hmem, hupdated⟩
  rcases mem_set_of_mem hbefore hmem with heq | hkept
  · rw [heq] at hupdated
    exact Or.inl hupdated
  · exact Or.inr (mem_unsent.mpr ⟨other, hkept, hupdated⟩)

lemma unsent_setTask_self (hbefore : s.tasks[k]? = some before) (h : task.updated = some st) :
    st ∈ (s.setTask k task).unsent := by
  apply mem_unsent.mpr
  refine ⟨task, ?_, h⟩
  exact List.mem_set (List.getElem?_eq_some_iff.mp hbefore).1 task

section

variable (s : WsClient D)

/-- A frame is put into the queue when no older one of the item is on its way there. -/
def Admits : WsEvent D -> Prop
  | .trySend k => forall (task : OfferTask D) (st : StateFrame D), s.tasks[k]? = some task ->
      task.updated = some st ->
        forall other, other ∈ s.unsent -> other.oid = st.oid -> st.ieid <= other.ieid
  | _ => True

/-!
## What is known in every state
-/

def Known (st : StateFrame D) : Prop :=
  exists ieid, AList.lookup st.oid s.repl = some ieid ∧ st.ieid <= ieid

structure Ordered : Prop where
  order : s.EntersInOrder
  /-- What is on its way is not older than what has come in. -/
  below : forall st next, st ∈ s.entered -> next ∈ s.unsent -> st.oid = next.oid ->
    st.ieid <= next.ieid
  known : forall st, st ∈ s.offered -> s.Known st
  entered : forall st, st ∈ s.entered -> st ∈ s.offered
  unsent : forall st, st ∈ s.unsent -> st ∈ s.offered

/-- What the table has of an item is in the queue or on its way there, and everything from the
queue goes to the client. -/
structure Complete : Prop where
  newest : forall oid ieid, AList.lookup oid s.repl = some ieid ->
    exists st, (st ∈ s.entered ∨ st ∈ s.unsent) ∧ st.oid = oid ∧ st.ieid = ieid
  delivery : s.entered = s.received ++ s.buffer ++ s.queue.filterMap WsFrame.stateOf

end

structure Sound (config : WsConfig) (s : WsClient D) : Prop where
  ordered : s.Ordered
  complete : s.terminated = false -> s.Complete
  plain : config.buffered = false -> s.buffer = []

theorem Sound.endsNewest (hs : s.Sound config) (hsettled : s.Settled) : s.EndsNewest := by
  rcases hsettled with ⟨hopen, hqueue, hbuffer, hdone⟩
  have hcomplete := hs.complete hopen
  have hreceived : s.entered = s.received := by
    have hdelivery := hcomplete.delivery
    rw [hqueue, hbuffer, List.append_nil] at hdelivery
    exact hdelivery.trans (List.append_nil _)
  have hempty : forall st, st ∉ s.unsent := by
    intro st hmem
    rcases mem_unsent.mp hmem with ⟨task, htask, hupdated⟩
    rw [(hdone task htask).left] at hupdated
    cases hupdated
  intro st hst
  rcases hs.ordered.known st hst with ⟨ieid, hlookup, _⟩
  rcases hcomplete.newest st.oid ieid hlookup with ⟨newest, hwhere, hoid, hieid⟩
  have hentered : newest ∈ s.entered := Or.resolve_right hwhere (hempty newest)
  rcases exists_lastOf StateFrame.oid hentered with ⟨last, hlast⟩
  rw [hoid] at hlast
  have hle := hs.ordered.order.le_lastOf hlast newest hentered hoid
  refine ⟨last, ?_, ?_, ?_⟩
  · rw [← hreceived]
    exact hlast
  · exact hs.ordered.entered last (mem_of_lastOf hlast).left
  · intro other hother hsame
    rcases hs.ordered.known other hother with ⟨ieid', hlookup', hbelow⟩
    rw [hsame, hlookup] at hlookup'
    injection hlookup' with heq
    rw [← heq, ← hieid] at hbelow
    exact le_trans hbelow hle

/-!
## Offers
-/

section Offers

variable {s' : WsClient D}

lemma updateRepl_cases (h : s.updateRepl k task = some s') :
    exists st rest, task.updated = none ∧ task.rest = st :: rest ∧ ((s' = s.accept k st rest ∧
          forall ieid, lookup st.oid s.repl = some ieid -> ieid <= st.ieid) ∨
        (s' = s.drop k st rest ∧
          exists ieid, lookup st.oid s.repl = some ieid ∧ st.ieid < ieid)) := by
  unfold updateRepl at h
  split at h
  · next st rest hupdated hrest =>
    refine ⟨st, rest, hupdated, hrest, ?_⟩
    split at h
    · next hnone =>
      injection h with h
      refine Or.inl ⟨h.symm, ?_⟩
      intro ieid hsome
      rw [hsome] at hnone
      cases hnone
    · next ieid hsome =>
      split at h
      · next hgt =>
        injection h with h
        exact Or.inr ⟨h.symm, ieid, hsome, hgt⟩
      · next hle =>
        injection h with h
        refine Or.inl ⟨h.symm, ?_⟩
        intro ieid' hsome'
        rw [hsome] at hsome'
        cases hsome'
        exact not_lt.mp hle
  · cases h

lemma Ordered.accept (hs : s.Ordered)
    (hnewer : forall ieid, lookup st.oid s.repl = some ieid -> ieid <= st.ieid) :
    (s.accept k st rest).Ordered := by
  have hbound : forall {old : StateFrame D}, old ∈ s.offered -> old.oid = st.oid ->
      old.ieid <= st.ieid := by
    intro old hold hoid
    rcases hs.known old hold with ⟨ieid, hlookup, hle⟩
    rw [hoid] at hlookup
    exact le_trans hle (hnewer ieid hlookup)
  constructor
  · exact hs.order
  · intro old next hold hnext hoid
    rcases unsent_setTask hnext with hbefore | hnew
    · exact hs.below old next hold hbefore hoid
    · injection hnew with hnew
      rw [← hnew] at hoid
      rw [← hnew]
      exact hbound (hs.entered old hold) hoid
  · intro old hold
    change exists ieid, lookup old.oid (insert st.oid st.ieid s.repl) = some ieid ∧ old.ieid <= ieid
    rw [Table.lookup_insert_if]
    split
    · next hoid =>
      refine ⟨st.ieid, rfl, ?_⟩
      rcases List.mem_append.mp hold with hbefore | hnew
      · exact hbound hbefore hoid
      · rw [List.mem_singleton.mp hnew]
    · next hoid =>
      rcases List.mem_append.mp hold with hbefore | hnew
      · exact hs.known old hbefore
      · rw [List.mem_singleton.mp hnew] at hoid
        exact absurd rfl hoid
  · intro old hold
    exact List.mem_append_left [st] (hs.entered old hold)
  · intro next hnext
    rcases unsent_setTask hnext with hbefore | hnew
    · exact List.mem_append_left [st] (hs.unsent next hbefore)
    · cases hnew
      exact List.mem_append_right s.offered (List.mem_singleton.mpr rfl)

lemma Complete.accept (hs : s.Complete) (htask : s.tasks[k]? = some task)
    (hupdated : task.updated = none) : (s.accept k st rest).Complete := by
  refine ⟨?_, hs.delivery⟩
  intro oid ieid hlookup
  change lookup oid (insert st.oid st.ieid s.repl) = some ieid at hlookup
  rw [Table.lookup_insert_if] at hlookup
  split at hlookup
  · next hoid =>
    injection hlookup with hieid
    exact ⟨st, Or.inr (unsent_setTask_self htask rfl), hoid.symm, hieid⟩
  · rcases hs.newest oid ieid hlookup with ⟨newest, hwhere, hrest⟩
    refine ⟨newest, ?_, hrest⟩
    rcases hwhere with hentered | hunsent
    · exact Or.inl hentered
    · rcases unsent_of_setTask htask hunsent with hself | hkept
      · rw [hupdated] at hself
        cases hself
      · exact Or.inr hkept

lemma Ordered.drop (hs : s.Ordered)
    (holder : exists ieid, lookup st.oid s.repl = some ieid ∧ st.ieid < ieid) :
    (s.drop k st rest).Ordered := by
  have hunsent : forall next, next ∈ (s.drop k st rest).unsent -> next ∈ s.unsent := by
    intro next hnext
    rcases unsent_setTask hnext with hbefore | hnew
    · exact hbefore
    · cases hnew
  constructor
  · exact hs.order
  · intro old next hold hnext
    exact hs.below old next hold (hunsent next hnext)
  · intro old hold
    rcases List.mem_append.mp hold with hbefore | hnew
    · exact hs.known old hbefore
    · rw [List.mem_singleton.mp hnew]
      rcases holder with ⟨ieid, hlookup, hlt⟩
      exact ⟨ieid, hlookup, le_of_lt hlt⟩
  · intro old hold
    exact List.mem_append_left [st] (hs.entered old hold)
  · intro next hnext
    exact List.mem_append_left [st] (hs.unsent next (hunsent next hnext))

lemma Complete.keep (hs : s.Complete) (hrepl : s'.repl = s.repl)
    (hwhere : forall st, st ∈ s.entered ∨ st ∈ s.unsent -> st ∈ s'.entered ∨ st ∈ s'.unsent)
    (hdelivery : s'.entered = s'.received ++ s'.buffer ++ s'.queue.filterMap WsFrame.stateOf) :
    s'.Complete := by
  refine ⟨?_, hdelivery⟩
  intro oid ieid hlookup
  rw [hrepl] at hlookup
  rcases hs.newest oid ieid hlookup with ⟨newest, hnewest, hrest⟩
  exact ⟨newest, hwhere newest hnewest, hrest⟩

lemma Complete.drop (hs : s.Complete) (htask : s.tasks[k]? = some task)
    (hupdated : task.updated = none) : (s.drop k st rest).Complete := by
  refine hs.keep rfl ?_ hs.delivery
  intro old hold
  rcases hold with hentered | hunsent
  · exact Or.inl hentered
  · rcases unsent_of_setTask htask hunsent with hself | hkept
    · rw [hupdated] at hself
      cases hself
    · exact Or.inr hkept

lemma Sound.updateRepl (hs : s.Sound config) (htask : s.tasks[k]? = some task)
    (h : s.updateRepl k task = some s') : s'.Sound config := by
  rcases updateRepl_cases h with ⟨st, rest, hupdated, _, hcases⟩
  rcases hcases with haccept | hdrop
  · rw [haccept.left]
    refine ⟨hs.ordered.accept haccept.right, ?_, hs.plain⟩
    intro hopen
    exact (hs.complete hopen).accept htask hupdated
  · rw [hdrop.left]
    refine ⟨hs.ordered.drop hdrop.right, ?_, hs.plain⟩
    intro hopen
    exact (hs.complete hopen).drop htask hupdated

/-!
## The queue
-/

lemma Ordered.enter (hs : s.Ordered) (htask : s.tasks[k]? = some task)
    (hupdated : task.updated = some st)
    (holdest : forall other, other ∈ s.unsent -> other.oid = st.oid -> st.ieid <= other.ieid) :
    (s.enter k st task.rest).Ordered := by
  have hst : st ∈ s.unsent := mem_unsent_of_getElem? htask hupdated
  have hunsent : forall next, next ∈ (s.enter k st task.rest).unsent -> next ∈ s.unsent := by
    intro next hnext
    rcases unsent_setTask hnext with hbefore | hnew
    · exact hbefore
    · cases hnew
  constructor
  · apply hs.order.concat
    intro old hold hoid
    exact hs.below old st hold hst hoid
  · intro old next hold hnext hoid
    rcases List.mem_append.mp hold with hbefore | hnew
    · exact hs.below old next hbefore (hunsent next hnext) hoid
    · rw [List.mem_singleton.mp hnew] at hoid
      rw [List.mem_singleton.mp hnew]
      exact holdest next (hunsent next hnext) hoid.symm
  · exact hs.known
  · intro old hold
    rcases List.mem_append.mp hold with hbefore | hnew
    · exact hs.entered old hbefore
    · rw [List.mem_singleton.mp hnew]
      exact hs.unsent st hst
  · intro next hnext
    exact hs.unsent next (hunsent next hnext)

lemma Complete.enter (hs : s.Complete) (htask : s.tasks[k]? = some task)
    (hupdated : task.updated = some st) : (s.enter k st task.rest).Complete := by
  refine hs.keep rfl ?_ ?_
  · intro old hold
    rcases hold with hentered | hunsent
    · exact Or.inl (List.mem_append_left [st] hentered)
    · rcases unsent_of_setTask htask hunsent with hself | hkept
      · rw [hupdated] at hself
        cases hself
        exact Or.inl (List.mem_append_right s.entered (List.mem_singleton.mpr rfl))
      · exact Or.inr hkept
  · change s.entered ++ [st] = s.received ++ s.buffer ++
      (s.queue ++ [WsFrame.state st]).filterMap WsFrame.stateOf
    rw [List.filterMap_append, ← List.append_assoc, ← hs.delivery]
    rfl

lemma Ordered.fewer (hs : s.Ordered) (hrepl : s'.repl = s.repl) (hentered : s'.entered = s.entered)
    (hoffered : s'.offered = s.offered) (hunsent : forall st, st ∈ s'.unsent -> st ∈ s.unsent) :
    s'.Ordered := by
  constructor
  · unfold EntersInOrder
    rw [hentered]
    exact hs.order
  · intro old next hold hnext
    rw [hentered] at hold
    exact hs.below old next hold (hunsent next hnext)
  · intro old hold
    rw [hoffered] at hold
    unfold Known
    rw [hrepl]
    exact hs.known old hold
  · rw [hentered, hoffered]
    exact hs.entered
  · intro next hnext
    rw [hoffered]
    exact hs.unsent next (hunsent next hnext)

lemma Sound.trySendState (hs : s.Sound config) (htask : s.tasks[k]? = some task)
    (hadmits : s.Admits (.trySend k)) (h : s.trySendState config k task = some s') :
    s'.Sound config := by
  unfold WsClient.trySendState at h
  split at h
  · cases h
  · next st hupdated =>
    split at h
    · cases h
      refine ⟨hs.ordered.enter htask hupdated (hadmits task st htask hupdated), ?_, hs.plain⟩
      intro hopen
      exact (hs.complete hopen).enter htask hupdated
    · cases h
      constructor
      · refine hs.ordered.fewer rfl rfl rfl ?_
        intro next hnext
        rcases unsent_setTask hnext with hbefore | hnew
        · exact hbefore
        · cases hnew
      · intro hopen
        cases hopen
      · exact hs.plain

end Offers

/-!
## The sender
-/

variable {config : WsConfig} {s' : WsClient D}

section

variable (hs : s.Sound config)
include hs

theorem Sound.sender (hrepl : s'.repl = s.repl) (htasks : s'.tasks = s.tasks)
    (hentered : s'.entered = s.entered) (hoffered : s'.offered = s.offered)
    (hmoved : s'.terminated = false -> s.terminated = false ∧
      s'.received ++ s'.buffer ++ s'.queue.filterMap WsFrame.stateOf =
        s.received ++ s.buffer ++ s.queue.filterMap WsFrame.stateOf)
    (hplain : config.buffered = false -> s'.buffer = []) : s'.Sound config := by
  have hunsent : s'.unsent = s.unsent := by
    unfold unsent
    rw [htasks]
  constructor
  · apply hs.ordered.fewer hrepl hentered hoffered
    rw [hunsent]
    exact fun _ h => h
  · intro hopen
    rcases hmoved hopen with ⟨hbefore, hsame⟩
    apply (hs.complete hbefore).keep hrepl
    · rw [hentered, hunsent]
      exact fun _ h => h
    · rw [hentered, hsame]
      exact (hs.complete hbefore).delivery
  · exact hplain

lemma Sound.stopSender {queue : List (WsFrame D)} :
    (WsClient.stopSender { s with queue := queue }).Sound config := by
  refine hs.sender rfl rfl rfl rfl ?_ fun _ => rfl
  intro hopen
  cases hopen

lemma Sound.setQueue {queue : List (WsFrame D)}
    (hstates : queue.filterMap WsFrame.stateOf = s.queue.filterMap WsFrame.stateOf) :
    WsClient.Sound config { s with queue := queue } := by
  refine hs.sender rfl rfl rfl rfl ?_ hs.plain
  intro hopen
  refine ⟨hopen, ?_⟩
  rw [hstates]

lemma Sound.sendState (hqueue : s.queue = .state st :: rest) :
    (WsClient.sendState config { s with queue := rest } sent st).Sound config := by
  have hstates : s.queue.filterMap WsFrame.stateOf = st :: rest.filterMap WsFrame.stateOf := by
    rw [hqueue]
    exact List.filterMap_cons_some rfl
  unfold WsClient.sendState
  split
  · next hbuffered =>
    refine hs.sender rfl rfl rfl rfl ?_ ?_
    · intro hopen
      refine ⟨hopen, ?_⟩
      rw [hstates]
      simp only [List.append_assoc, List.cons_append, List.nil_append]
    · intro hplain
      rw [hbuffered] at hplain
      cases hplain
  · next hplain =>
    split
    · refine hs.sender rfl rfl rfl rfl ?_ hs.plain
      intro hopen
      refine ⟨hopen, ?_⟩
      rw [hstates, hs.plain (Bool.eq_false_iff.mpr hplain)]
      simp only [List.append_assoc, List.cons_append, List.nil_append]
    · exact hs.stopSender

lemma Sound.receive {sent : Bool} (h : s.receive config sent = some s') : s'.Sound config := by
  unfold WsClient.receive at h
  split at h
  · next frame rest hqueue =>
    cases h
    cases frame with
    | state st => exact hs.sendState hqueue
    | bye => exact hs.stopSender
    | other =>
      cases sent with
      | false => exact hs.stopSender
      | true =>
        apply hs.setQueue
        rw [hqueue]
        rfl
  · cases h

lemma Sound.sendBuffer : (s.sendBuffer config sent).Sound config := by
  unfold WsClient.sendBuffer
  split
  · exact hs
  · split
    · refine hs.sender rfl rfl rfl rfl ?_ fun _ => rfl
      intro hopen
      refine ⟨hopen, ?_⟩
      rw [List.append_nil]
    · refine hs.sender rfl rfl rfl rfl ?_ fun _ => rfl
      intro hopen
      cases hopen

lemma Sound.tick (h : s.tick config sent = some s') : s'.Sound config := by
  unfold WsClient.tick at h
  split at h
  · cases h
    exact hs.sendBuffer
  · cases h

lemma Sound.sendNoState {frame : WsFrame D} (hframe : frame.stateOf = none)
    (h : s.sendNoState frame = some s') : s'.Sound config := by
  unfold WsClient.sendNoState at h
  split at h
  · cases h
    apply hs.setQueue
    rw [List.filterMap_append, List.filterMap_cons_none hframe, List.filterMap_nil, List.append_nil]
  · cases h

lemma Sound.addTask : (s.addTask states).Sound config := by
  have hunsent : (s.addTask states).unsent = s.unsent := by
    unfold unsent WsClient.addTask
    rw [List.filterMap_append]
    exact List.append_nil _
  constructor
  · refine hs.ordered.fewer rfl rfl rfl ?_
    rw [hunsent]
    exact fun _ h => h
  · intro hopen
    refine (hs.complete hopen).keep rfl ?_ (hs.complete hopen).delivery
    rw [hunsent]
    exact fun _ h => h
  · exact hs.plain

lemma Sound.step (hadmits : s.Admits e) (h : WsClient.step config s e = some s') :
    s'.Sound config := by
  cases e with
  | notifyState st =>
    cases h
    exact hs.addTask
  | sendInitial states =>
    cases h
    exact hs.addTask
  | update k =>
    rcases Option.bind_eq_some_iff.mp h with ⟨task, htask, hupdate⟩
    exact hs.updateRepl htask hupdate
  | trySend k =>
    rcases Option.bind_eq_some_iff.mp h with ⟨task, htask, hsend⟩
    exact hs.trySendState htask hadmits hsend
  | send bye =>
    refine hs.sendNoState ?_ h
    cases bye with
    | true | false => rfl
  | close =>
    cases h
    refine hs.sender rfl rfl rfl rfl ?_ hs.plain
    intro hopen
    cases hopen
  | receive sent => exact hs.receive h
  | tick sent => exact hs.tick h

end

lemma sound_new : Sound config (new : WsClient D) := by
  constructor
  · constructor
    · exact List.Pairwise.nil
    · intro st next hst
      cases hst
    · intro st hst
      cases hst
    · intro st hst
      cases hst
    · intro st hst
      cases hst
  · intro _
    constructor
    · intro oid ieid hlookup
      cases hlookup
    · rfl
  · intro _
    rfl

/-- States come in order if none overtakes an older one on its way to the queue, and then the
client ends with the newest. -/
theorem client_ends_with_newest_state {s : WsClient D}
    (hrun : Machine.Reaches (WsClient.step config) Admits new s) :
    s.EntersInOrder ∧ (s.Settled -> s.EndsNewest) := by
  have hs : s.Sound config := hrun.invariant (I := Sound config) sound_new
    fun hs hadmits hstep => hs.step hadmits hstep
  exact ⟨hs.ordered.order, hs.endsNewest⟩

/-!
## Two states of an item
-/

def lamp : OID where
  kind := .unit
  fullId := "lamp"

def lampState (t : Nat) : StateFrame Unit where
  oid := lamp
  ieid := { bootId := 1, t := t }
  data := ()

def plainSender : WsConfig where
  byToken := true
  buffered := false

def checkOldest (s : WsClient Unit) : WsEvent Unit -> Bool
  | .trySend k => (s.tasks[k]?.bind OfferTask.updated).all fun st => s.unsent.all fun other =>
    decide (other.oid = st.oid -> st.ieid <= other.ieid)
  | _ => true

lemma admits_of_checkOldest (s : WsClient Unit) (e : WsEvent Unit) (h : checkOldest s e = true) :
    s.Admits e := by
  cases e with
  | trySend k =>
    intro task st htask hupdated other hother
    change (s.tasks[k]?.bind OfferTask.updated).all _ = true at h
    rw [htask, Option.bind_some, hupdated] at h
    exact of_decide_eq_true (List.all_eq_true.mp h other hother)
  | _ => trivial

def oldestFirst : List (WsEvent Unit) :=
  [.sendInitial [lampState 1], .notifyState (lampState 2), .update 0, .update 1, .trySend 0,
    .trySend 1, .receive true, .receive true]

/-- The newer state overtakes the older one between the table and the queue. -/
def newestFirst : List (WsEvent Unit) :=
  [.sendInitial [lampState 1], .notifyState (lampState 2), .update 0, .update 1, .trySend 1,
    .trySend 0, .receive true, .receive true]

/-- The older state goes first, and the client ends with the newer one. -/
theorem lamp_ends_with_newest :
    exists s : WsClient Unit, Machine.Reaches (WsClient.step plainSender) Admits new s ∧
      (s.received = [lampState 1, lampState 2] ∧ s.Settled) ∧ s.EntersInOrder ∧ s.EndsNewest := by
  have hrun : ((Machine.runChecked (WsClient.step plainSender) checkOldest oldestFirst new).any
      fun s => decide (s.received = [lampState 1, lampState 2] ∧ s.terminated = false ∧
        s.queue = [] ∧ s.buffer = [] ∧
        forall task, task ∈ s.tasks -> task.updated = none ∧ task.rest = [])) = true := by
    decide
  rcases (Option.any_eq_true ..).mp hrun with ⟨s, hs, hlast⟩
  rcases of_decide_eq_true hlast with ⟨hreceived, hsettled⟩
  have hreach := Machine.Reaches.of_runChecked admits_of_checkOldest .start hs
  have hboth := client_ends_with_newest_state hreach
  exact ⟨s, hreach, ⟨hreceived, hsettled⟩, hboth.left, hboth.right hsettled⟩

/-- The newer state goes first, and the client ends with the older one. -/
theorem lamp_ends_with_older :
    exists s, Machine.runChecked (WsClient.step plainSender) (fun _ _ => true) newestFirst new =
      some s ∧ s.Settled ∧ ¬ s.EntersInOrder ∧ ¬ s.EndsNewest := by
  refine ⟨_, rfl, ⟨rfl, rfl, rfl, by decide⟩, ?_, ?_⟩
  · intro horder
    have hle := (List.pairwise_cons.mp horder).left (lampState 1) List.mem_cons_self rfl
    exact absurd hle (by decide)
  · intro hnewest
    rcases hnewest (lampState 1) List.mem_cons_self with ⟨last, hlast, _, hall⟩
    cases hlast
    have hle := hall (lampState 2) (List.mem_cons_of_mem _ List.mem_cons_self) rfl
    exact absurd hle (by decide)

end WsClient

end Eva4.Hmi
