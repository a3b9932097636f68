import Eva4.Lib.Register
import Eva4.Core.ReplicationSteps

/-!
# Replicated states do not depend on the order of their events

State events of a node may be repeated, delayed and reordered on their way.  A remote
item takes an event only if its event id is greater than its own, so it is a register
that takes newer writes.  Events of lvars and sensors that carry an action counter are
refused before that.
-/

namespace Eva4
namespace Items

def ReplicationStateEvent.dbState {V : Type} (rse : ReplicationStateEvent V) : DbState V where
  status := rse.status
  value := rse.value
  ieid := rse.ieid
  t := rse.t

end Items

namespace Core

open Lib Items

variable {V : Type}

def stateRegister : Register (ItemState V) (ReplicationStateEvent V) IEID where
  key := ItemState.ieid
  writeKey := ReplicationStateEvent.ieid
  write := fun st rse => st.setFromRs rse.replicationState
  key_write := fun _ _ => rfl

def kindAdmits (oid : OID) (rse : ReplicationStateEvent V) : Bool :=
  match checkReplicated oid rse with
  | .ok () => true
  | .error _ => false

/--
The state is the newest one of a start and the events: all of it if the start is, else
what is stored of it, and the action counter if every event carries one.
-/
structure Newest (start : ItemState V) (events : List (ReplicationStateEvent V))
    (st : ItemState V) : Prop where
  ofStart : (forall e, e ∈ events -> e.ieid ≤ start.ieid) -> st = start
  ofEvent : forall e, e ∈ events -> start.ieid < e.ieid ->
    (forall e', e' ∈ events -> e'.ieid ≤ e.ieid) ->
    st.toDbState = e.dbState ∧ ((forall e', e' ∈ events -> e'.act.isSome) -> st.act = e.act)

lemma stateRegister_newest (start : ItemState V)
    (hdistinct : forall e, e ∈ events -> forall e', e' ∈ events -> e.ieid = e'.ieid -> e = e') :
    Newest start events (stateRegister.accepts start events) where
  ofStart := fun h => Register.accepts_of_le h
  ofEvent := by
    intro e he hnew hgreatest
    have hwritten : exists st : ItemState V, stateRegister.accepts start events =
        st.setFromRs e.replicationState :=
      Register.accepts_greatest (r := stateRegister) he hnew hgreatest
        fun e' he' heq => hdistinct e' he' e he heq
    rcases hwritten with ⟨st, hst⟩
    rw [hst]
    refine ⟨rfl, ?_⟩
    intro hact
    rcases Option.isSome_iff_exists.mp (hact e he) with ⟨n, hn⟩
    simp [ItemState.setFromRs, ReplicationStateEvent.replicationState, hn]

/-!
## One event
-/

structure StateMessage (V : Type) where
  event : ReplicationStateEvent V
  item : Option OID
  sender : String

def StateMessage.payload (m : StateMessage V) : ReplicationStateEventExtended V :=
  match m.item with
  | none => .basic m.event
  | some oid => .basicItem oid m.event

variable [EvaCommon V] (env : Env V)

lemma exec_updateStateFromRse_refused (h : kindAdmits oid rse = false) :
    ((updateStateFromRse env oid rse sender).exec w).2 = w := by
  unfold kindAdmits at h
  cases hcheck : checkReplicated oid rse with
  | ok u =>
    rw [hcheck] at h
    cases h
  | error e =>
    unfold updateStateFromRse
    rw [hcheck]
    rfl

lemma exec_updateStateFromRse_admitted (sender : String) (h : kindAdmits oid rse = true)
    (hitem : w.inv.getItem oid = some item) (hsource : item.source = some source)
    (hnode : rse.node = source.node) (hst : w.state item = some st) :
    ((updateStateFromRse env oid rse sender).exec w).2 = w.afterEvent oid item source rse st := by
  unfold kindAdmits at h
  cases hcheck : checkReplicated oid rse with
  | error e =>
    rw [hcheck] at h
    cases h
  | ok u =>
    have hfound : (replicatedItem oid rse sender).exec w = (.ok item, w) := by
      simp only [replicatedItem, Prog.exec_bind, Prog.exec_locked, exec_getItem, hitem,
        Prog.exec_pure]
    unfold updateStateFromRse
    rw [hcheck, Prog.exec_tryThen_ok (Prog.exec_ret _ w), Prog.exec_tryThen_ok hfound,
      exec_setReplicatedState_own env hsource hnode hst]

section

omit [EvaCommon V]

lemma World.afterEvent_state {w : World V} (oid : OID) {item : Item V}
    (hst : w.state item = some st) :
    (w.afterEvent oid item source rse st).state item =
      some (stateRegister.accept st rse) := by
  unfold World.afterEvent
  by_cases hlt : st.ieid < rse.ieid
  · rw [if_pos hlt, Register.accept_of_lt (r := stateRegister) hlt]
    exact w.state_setState
  · rw [if_neg hlt, Register.accept_of_le (r := stateRegister) (not_lt.mp hlt)]
    exact hst

lemma World.afterEvent_sent (w : World V) (oid : OID) (item : Item V) (source : Source)
    (rse : ReplicationStateEvent V) (st : ItemState V) :
    exists event : RemoteStateEvent V, event.ieid = rse.ieid ∧
      (w.afterEvent oid item source rse st).sent =
        .remoteState (decide (st.ieid < (stateRegister.accept st rse).ieid)) oid event ::
          w.sent := by
  unfold World.afterEvent
  by_cases hlt : st.ieid < rse.ieid
  · rw [if_pos hlt, Register.accept_of_lt (r := stateRegister) hlt]
    refine ⟨RemoteStateEvent.fromLocalStateEvent (st.setFromRs rse.replicationState)
      source.node (w.sourceOnline source), rfl, ?_⟩
    rw [decide_eq_true (show st.ieid < (stateRegister.write st rse).ieid from hlt)]
    rfl
  · rw [if_neg hlt, Register.accept_of_le (r := stateRegister) (not_lt.mp hlt)]
    refine ⟨RemoteStateEvent.fromReplicationStateEvent rse, rfl, ?_⟩
    rw [decide_eq_false (lt_irrefl _)]
    rfl

end

/-!
## Any number of events
-/

def processMessages (oid : OID) (messages : List (StateMessage V)) (w : World V) : World V :=
  messages.foldl (fun w m => ((updateStateFromRepl env oid m.payload m.sender).exec w).2) w

def admittedEvents (oid : OID) (messages : List (StateMessage V)) :
    List (ReplicationStateEvent V) :=
  (messages.map StateMessage.event).filter (kindAdmits oid)

section Messages

variable {oid : OID} {item : Item V} {source : Source}

lemma processMessages_concat : processMessages env oid (messages ++ [m]) w =
      ((updateStateFromRse env oid m.event m.sender).exec
        (processMessages env oid messages w)).2 := by
  unfold processMessages
  rw [List.foldl_append, List.foldl_cons, List.foldl_nil]
  unfold StateMessage.payload
  cases m.item <;> rfl

omit [EvaCommon V] in
lemma admittedEvents_concat :
    admittedEvents oid (messages ++ [m]) =
      if kindAdmits oid m.event then admittedEvents oid messages ++ [m.event]
      else admittedEvents oid messages := by
  unfold admittedEvents
  cases hadmits : kindAdmits oid m.event <;> simp [hadmits]

theorem processMessages_state (hitem : w.inv.getItem oid = some item)
    (hsource : item.source = some source) (hst : w.state item = some st)
    (hnode : forall m, m ∈ messages -> m.event.node = source.node) :
    (processMessages env oid messages w).inv.getItem oid = some item ∧
      (processMessages env oid messages w).state item =
        some (stateRegister.accepts st (admittedEvents oid messages)) := by
  induction messages using List.reverseRecOn with
  | nil => exact ⟨hitem, hst⟩
  | append_singleton messages m ih =>
    rcases ih fun m' hm' => hnode m' (List.mem_append_left [m] hm') with ⟨hitem', hst'⟩
    have hm : m.event.node = source.node :=
      hnode m (List.mem_append_right messages (List.mem_singleton_self m))
    rw [processMessages_concat, admittedEvents_concat]
    cases hadmits : kindAdmits oid m.event with
    | false =>
      rw [exec_updateStateFromRse_refused env hadmits]
      exact ⟨hitem', hst'⟩
    | true =>
      rw [exec_updateStateFromRse_admitted env m.sender hadmits hitem' hsource hm hst']
      constructor
      · unfold World.afterEvent
        split <;> exact hitem'
      · rw [World.afterEvent_state oid hst', if_pos rfl]
        unfold Register.accepts
        rw [List.foldl_append]
        rfl

/--
Whatever the order of the messages and however often they are repeated, the item ends
with the newest state, and an event is announced as the actual one exactly if it raised
the event id of the item.
-/
theorem replicatedState_newest (env : Env V) {w : World V} {st : ItemState V}
    (hitem : w.inv.getItem oid = some item) (hsource : item.source = some source)
    (hst : w.state item = some st) (messages : List (StateMessage V))
    (hnode : forall m, m ∈ messages -> m.event.node = source.node)
    (hdistinct : forall e, e ∈ admittedEvents oid messages ->
      forall e', e' ∈ admittedEvents oid messages -> e.ieid = e'.ieid -> e = e') :
    (exists last, (processMessages env oid messages w).inv.getItem oid = some item ∧
      (processMessages env oid messages w).state item = some last ∧
      Newest st (admittedEvents oid messages) last) ∧
    forall before m after, messages = before ++ m :: after -> if kindAdmits oid m.event then
        exists a b event, (processMessages env oid before w).state item = some a ∧
          (processMessages env oid (before ++ [m]) w).state item = some b ∧
          event.ieid = m.event.ieid ∧ (processMessages env oid (before ++ [m]) w).sent =
            .remoteState (decide (a.ieid < b.ieid)) oid event ::
              (processMessages env oid before w).sent else
        processMessages env oid (before ++ [m]) w = processMessages env oid before w := by
  constructor
  · rcases processMessages_state env hitem hsource hst hnode with ⟨hitem', hst'⟩
    exact ⟨_, hitem', hst', stateRegister_newest st hdistinct⟩
  · intro before m after hsplit
    have hbefore : forall m', m' ∈ before -> m'.event.node = source.node := by
      intro m' hm'
      apply hnode
      rw [hsplit]
      exact List.mem_append_left _ hm'
    have hm : m.event.node = source.node := by
      apply hnode
      rw [hsplit]
      exact List.mem_append_right _ List.mem_cons_self
    rcases processMessages_state env hitem hsource hst hbefore with ⟨hitem', hst'⟩
    rw [processMessages_concat]
    cases hadmits : kindAdmits oid m.event with
    | false => rw [if_neg (by simp), exec_updateStateFromRse_refused env hadmits]
    | true =>
      rw [if_pos rfl, exec_updateStateFromRse_admitted env m.sender hadmits hitem' hsource hm hst']
      rcases World.afterEvent_sent (processMessages env oid before w) oid item source
        m.event (stateRegister.accepts st (admittedEvents oid before))
        with ⟨event, hieid, hsent⟩
      exact ⟨_, _, event, hst', World.afterEvent_state oid hst', hieid, hsent⟩

end Messages

def replicaSource : Source where
  ptr := 0
  node := "n1"
  svc := "eva.repl.1"

def replicaItem (kind : ItemKind) : Item (Option Int) where
  ptr := 0
  oid := { kind := kind, fullId := "a" }
  metaValue := none
  source := some replicaSource
  logic := none
  action := none

def replicaStart : ItemState (Option Int) where
  status := 1
  value := some 1
  act := none
  ieid := { bootId := 1, t := 1 }
  t := .fin 1

def replicaWorld (kind : ItemKind) : World (Option Int) :=
  World.ofMem ((Mem.new : Mem (Option Int)).appendRemoteItem
    { oid := { kind := kind, fullId := "a" }, act := none, enabled := true,
      ieid := some { bootId := 1, t := 1 }, metaValue := none, status := some 1,
      value := some (some 1), t := some (.fin 1) }
    replicaSource).2

def replicaMessage (n : Nat) : StateMessage (Option Int) where
  event :=
    { status := 1, value := some n, act := some 1, ieid := { bootId := 1, t := n },
      t := .fin n, node := "n1", forceAccept := false }
  item := none
  sender := "eva.repl.1"

/-- A unit gets two events, the newer one first and once more after the older one. -/
theorem replicatedState_newest_repeated :
    exists last, (processMessages (Env.sample (Option Int))
        { kind := .unit, fullId := "a" }
        [replicaMessage 3, replicaMessage 2, replicaMessage 3]
        (replicaWorld .unit)).state (replicaItem .unit) = some last ∧
      last.toDbState = (replicaMessage 3).event.dbState ∧ last.act = some 1 := by
  have hevents : admittedEvents { kind := .unit, fullId := "a" }
      [replicaMessage 3, replicaMessage 2, replicaMessage 3] =
        [(replicaMessage 3).event, (replicaMessage 2).event, (replicaMessage 3).event] := by
    decide
  have hitem : (replicaWorld .unit).inv.getItem { kind := .unit, fullId := "a" } =
      some (replicaItem .unit) := by decide
  have hsource : (replicaItem .unit).source = some replicaSource := rfl
  have hst : (replicaWorld .unit).state (replicaItem .unit) = some replicaStart := by decide
  rcases (replicatedState_newest (Env.sample (Option Int)) hitem hsource hst
    [replicaMessage 3, replicaMessage 2, replicaMessage 3] (by decide)
    (by rw [hevents]; decide)).left with ⟨last, _, hlast, hnewest⟩
  have hevent := hnewest.ofEvent (replicaMessage 3).event (by decide) (by decide) (by decide)
  exact ⟨last, hlast, hevent.left, hevent.right (by decide)⟩

/-- A sensor refuses an event with an action counter, however new it is. -/
theorem sensor_refuses_event_with_act :
    (processMessages (Env.sample (Option Int)) { kind := .sensor, fullId := "a" }
        [replicaMessage 3] (replicaWorld .sensor)).state (replicaItem .sensor) =
      some replicaStart ∧
    replicaStart.ieid < (replicaMessage 3).event.ieid ∧
    (replicaMessage 3).event.node = replicaSource.node := by
  decide

end Core
end Eva4
