import Eva4.Lib.Machine
import Eva4.Psrpc.Rpc

/-!
# Pending calls

The table of the calls that wait for a reply.  A call enters it before its message is
published.  It is taken out by the processor when a reply comes, or by the call itself when its
message can not be published.  A call whose future is dropped by the caller takes nothing out.
-/

namespace Eva4.Psrpc

open Lib

inductive CallPhase where
  | publishing
  | awaiting
  | ended
deriving DecidableEq, Repr

/-- A call that has entered the table, with the reply that was sent to it. -/
structure CallTask where
  id : Uuid
  phase : CallPhase
  reply : Option (ReplyKind × Bytes)
deriving DecidableEq

def CallTask.Waiting (t : CallTask) : Prop :=
  t.phase ≠ .ended ∧ t.reply = none
deriving Decidable

/-- The table leads from an id to the call that has the other end of the channel. -/
structure CallState where
  calls : Table Uuid Nat
  tasks : List CallTask

inductive CallEvent where
  /-- The message is packed, and the call enters the table. -/
  | register (id : Uuid)
  | published (n : Nat)
  /-- The message could not be published, or not in time. -/
  | publishFailed (n : Nat)
  /-- The processor gets a message. -/
  | receive (message : PsMessage)
  /-- The call takes its reply from the channel and returns. -/
  | resume (n : Nat)
  /-- The future of the call is dropped. -/
  | cancel (n : Nat)

variable (s : CallState)

namespace CallState

def new : CallState where
  calls := ∅
  tasks := []

def setTask (n : Nat) (t : CallTask) : CallState :=
  { s with tasks := s.tasks.set n t }

def send (n : Nat) (reply : ReplyKind × Bytes) : CallState :=
  match s.tasks[n]? with
  | some t => s.setTask n { t with reply := some reply }
  | none => s

/-- Ids are never given twice. -/
def step (myRpcTopic : String) : Machine CallState CallEvent := fun s e =>
  match e with
  | .register id =>
    if (s.tasks.all fun t => t.id != id) then
      some {
        calls := s.calls.insert id s.tasks.length
        tasks := s.tasks ++ [{ id := id, phase := .publishing, reply := none }] }
    else none
  | .published n =>
    s.tasks[n]?.bind fun t =>
      if t.phase = .publishing then some (s.setTask n { t with phase := .awaiting }) else none
  | .publishFailed n =>
    s.tasks[n]?.bind fun t =>
      if t.phase = .publishing then
        some ({ s with calls := s.calls.erase t.id }.setTask n { t with phase := .ended })
      else none
  | .receive message =>
    match processMessage myRpcTopic s.calls message with
    | (calls, .delivered n kind data) => some ({ s with calls := calls }.send n (kind, data))
    | (calls, _) => some { s with calls := calls }
  | .resume n =>
    s.tasks[n]?.bind fun t =>
      if t.phase = .awaiting ∧ t.reply.isSome then some (s.setTask n { t with phase := .ended })
      else none
  | .cancel n =>
    s.tasks[n]?.bind fun t =>
      if t.phase = .ended then none else some (s.setTask n { t with phase := .ended })

/-- No future is dropped while its call waits for a reply. -/
def KeepsWaiting : CallEvent -> Prop
  | .cancel n => forall t, s.tasks[n]? = some t -> ¬ t.Waiting
  | _ => True

def WaitsAt (id : Uuid) (n : Nat) : Prop :=
  exists t : CallTask, s.tasks[n]? = some t ∧ t.id = id ∧ t.Waiting

/-- The table leads to the calls that wait, and to no other. -/
structure Exact : Prop where
  lookup : forall id n, s.calls.lookup id = some n <-> s.WaitsAt id n
  nodup : (s.tasks.map CallTask.id).Nodup

lemma new_exact : new.Exact where
  lookup id n := by
    constructor
    · intro h
      cases h
    · intro h
      rcases h with ⟨t, ht, _⟩
      cases ht
  nodup := List.nodup_nil

/-!
## Steps
-/

variable {s} {n : Nat} {t : CallTask}

lemma waitsAt_iff (ht : s.tasks[n]? = some t) (id : Uuid) :
    s.WaitsAt id n <-> t.id = id ∧ t.Waiting := by
  constructor
  · intro h
    rcases h with ⟨u, hu, hboth⟩
    rw [ht] at hu
    injection hu with heq
    rw [heq]
    exact hboth
  · exact fun h => ⟨t, ht, h⟩

lemma waitsAt_setTask (ht : s.tasks[n]? = some t) {t' : CallTask} {id : Uuid} {m : Nat} :
    (s.setTask n t').WaitsAt id m <->
      if m = n then t'.id = id ∧ t'.Waiting else s.WaitsAt id m := by
  have hset : (s.setTask n t').tasks[m]? = if m = n then some t' else s.tasks[m]? :=
    getElem?_set_if ht t' m
  by_cases heq : m = n
  · rw [if_pos heq] at hset
    rw [if_pos heq, waitsAt_iff hset]
  · rw [if_neg heq] at hset
    rw [if_neg heq, WaitsAt, WaitsAt, hset]

section

variable (h : s.Exact)
include h

/-- A call that goes on, or ends after its reply has come. -/
theorem Exact.replace (ht : s.tasks[n]? = some t) (hid : t'.id = t.id)
    (hwaiting : t'.Waiting <-> t.Waiting) : (s.setTask n t').Exact := by
  constructor
  · intro id m
    show s.calls.lookup id = some m <-> _
    rw [h.lookup, waitsAt_setTask ht]
    split
    · next heq => rw [heq, waitsAt_iff ht, hid, hwaiting]
    · exact Iff.rfl
  · show ((s.tasks.set n t').map CallTask.id).Nodup
    rw [map_set_same ht hid]
    exact h.nodup

lemma Exact.leave (ht : s.tasks[n]? = some t) (hid : t'.id = t.id) (hwaiting : ¬ t'.Waiting) :
    ({ s with calls := s.calls.erase t.id }.setTask n t').Exact := by
  constructor
  · intro id m
    have hset : ({ s with calls := s.calls.erase t.id }.setTask n t').WaitsAt id m <->
        if m = n then t'.id = id ∧ t'.Waiting else s.WaitsAt id m := waitsAt_setTask ht
    show (s.calls.erase t.id).lookup id = some m <-> _
    rw [hset, Table.lookup_erase_if]
    rcases Classical.em (m = n) with heq | hne
    · rw [if_pos heq]
      constructor
      · intro hlookup
        split at hlookup
        · cases hlookup
        · next hne =>
          rw [h.lookup, heq, waitsAt_iff ht] at hlookup
          exact absurd hlookup.left.symm hne
      · exact fun hboth => absurd hboth.right hwaiting
    · rw [if_neg hne]
      split
      · next heq =>
        constructor
        · intro hlookup
          cases hlookup
        · intro hwaits
          rcases hwaits with ⟨u, hu, huid, _⟩
          exact absurd (place_unique h.nodup hu ht (huid.trans heq)) hne
      · exact h.lookup id m
  · show ((s.tasks.set n t').map CallTask.id).Nodup
    rw [map_set_same ht hid]
    exact h.nodup

lemma Exact.enter {id : Uuid} (hfresh : forall t, t ∈ s.tasks -> t.id ≠ id) : ({
      calls := s.calls.insert id s.tasks.length
      tasks := s.tasks ++ [{ id := id, phase := .publishing, reply := none }] } :
        CallState).Exact := by
  constructor
  · intro other m
    show (s.calls.insert id s.tasks.length).lookup other = some m <-> _
    rw [Table.lookup_insert_if]
    have hlast := getElem?_concat_if s.tasks { id := id, phase := .publishing, reply := none } m
    rcases Classical.em (m = s.tasks.length) with heq | hne
    · rw [if_pos heq] at hlast
      rw [waitsAt_iff hlast]
      constructor
      · intro hlookup
        split at hlookup
        · next hid => exact ⟨hid.symm, CallPhase.noConfusion, rfl⟩
        · rcases (h.lookup other m).mp hlookup with ⟨t, ht, _⟩
          have hlt := (List.getElem?_eq_some_iff.mp ht).1
          omega
      · intro hboth
        rw [if_pos hboth.left.symm, heq]
    · rw [if_neg hne] at hlast
      rw [WaitsAt, hlast]
      split
      · next hid =>
        constructor
        · intro hlookup
          injection hlookup with heq
          exact absurd heq.symm hne
        · intro hwaits
          rcases hwaits with ⟨t, ht, htid, _⟩
          exact absurd (htid.trans hid) (hfresh t (List.mem_of_getElem? ht))
      · exact h.lookup other m
  · show ((s.tasks ++ [_]).map CallTask.id).Nodup
    rw [List.map_append, List.nodup_append]
    refine ⟨h.nodup, List.nodup_singleton id, ?_⟩
    intro a ha b hb
    rcases List.mem_map.mp ha with ⟨t, ht, hta⟩
    rw [List.mem_singleton.mp hb, ← hta]
    exact hfresh t ht

lemma Exact.receive (hstep : step topic s (.receive message) = some s') : s'.Exact := by
  have hprocessed := processMessage_processed topic s.calls message
  rw [step] at hstep
  revert hprocessed hstep
  generalize processMessage topic s.calls message = outcome
  intro hstep hprocessed
  cases hprocessed with
  | delivered kind hlookup =>
    rcases (h.lookup _ _).mp hlookup with ⟨t, ht, hid, _⟩
    injection hstep with hs'
    rw [← hs', send, ht, ← hid]
    apply h.leave ht
    · rfl
    · intro hwaiting
      cases hwaiting.right
  | request | orphaned | dropped | forwarded =>
    cases hstep
    exact h

end

lemma Exact.step {s' : CallState} (h : s.Exact) (hadmits : s.KeepsWaiting e)
    (hstep : step topic s e = some s') : s'.Exact := by
  cases e with
  | register id =>
    rcases of_guard hstep with ⟨hfresh, rfl⟩
    apply h.enter
    intro t ht
    exact bne_iff_ne.mp (List.all_eq_true.mp hfresh t ht)
  | published n =>
    rcases Option.bind_eq_some_iff.mp hstep with ⟨t, ht, hstep⟩
    rcases of_guard hstep with ⟨hphase, rfl⟩
    apply h.replace ht
    · rfl
    · simp [CallTask.Waiting, hphase]
  | publishFailed n =>
    rcases Option.bind_eq_some_iff.mp hstep with ⟨t, ht, hstep⟩
    rcases of_guard hstep with ⟨_, rfl⟩
    apply h.leave ht
    · rfl
    · exact fun hwaiting => hwaiting.left rfl
  | receive message => exact h.receive hstep
  | resume n =>
    rcases Option.bind_eq_some_iff.mp hstep with ⟨t, ht, hstep⟩
    rcases of_guard hstep with ⟨hready, rfl⟩
    apply h.replace ht
    · rfl
    · constructor
      · exact fun hwaiting => absurd rfl hwaiting.left
      · intro hwaiting
        rw [hwaiting.right] at hready
        cases hready.right
  | cancel n =>
    rcases Option.bind_eq_some_iff.mp hstep with ⟨t, ht, hstep⟩
    rcases Option.ite_none_left_eq_some.mp hstep with ⟨_, hstep⟩
    cases hstep
    apply h.replace ht
    · rfl
    · constructor
      · exact fun hwaiting => absurd rfl hwaiting.left
      · exact fun hwaiting => absurd hwaiting (hadmits t ht)

/-- In every run in which no future is dropped while its call waits for a reply, the ids in the
table are those of the calls that wait. -/
theorem pending_exact {topic : String} {s : CallState}
    (hrun : (step topic).Reaches KeepsWaiting new s) (id : Uuid) :
    id ∈ s.calls <-> exists t, t ∈ s.tasks ∧ t.id = id ∧ t.Waiting := by
  have hexact : s.Exact :=
    hrun.invariant new_exact fun hinv hadmits hstep => hinv.step hadmits hstep
  rw [Table.mem_iff_lookup]
  constructor
  · intro h
    rcases h with ⟨n, hlookup⟩
    rcases (hexact.lookup id n).mp hlookup with ⟨t, ht, hboth⟩
    exact ⟨t, List.mem_of_getElem? ht, hboth⟩
  · intro h
    rcases h with ⟨t, hmem, hboth⟩
    rcases List.mem_iff_getElem?.mp hmem with ⟨n, ht⟩
    exact ⟨n, (hexact.lookup id n).mpr ⟨t, ht, hboth⟩⟩

def checkWaiting (s : CallState) : CallEvent -> Bool
  | .cancel n => s.tasks[n]?.all fun t => !decide t.Waiting
  | _ => true

lemma keepsWaiting_of_check (s : CallState) (e : CallEvent) (h : checkWaiting s e = true) :
    s.KeepsWaiting e := by
  cases e with
  | cancel n =>
    intro t ht
    rw [checkWaiting, ht] at h
    simpa using h
  | _ => trivial

def shortReply : PsMessage where
  topic := "NODE/RPC/a"
  data := [1, 0x11, 0, 0] ++ wordBytes 16 7 ++ [2, 3]

/-- One call gets its reply and is dropped while it reads it, another one waits. -/
theorem pending_exact_replied : exists s, (step "NODE/RPC/a").runChecked checkWaiting
        [.register 7, .register 8, .published 0, .receive shortReply, .receive shortReply,
          .cancel 0] new = some s ∧ 7 ∉ s.calls ∧ 8 ∈ s.calls ∧
      forall id, id ∈ s.calls <-> exists t, t ∈ s.tasks ∧ t.id = id ∧ t.Waiting := by
  apply exists_of_any (p := fun s => !decide (7 ∈ s.calls) && decide (8 ∈ s.calls)) (by decide)
  intro s hs hids
  rw [Bool.and_eq_true, Bool.not_eq_true', decide_eq_false_iff_not, decide_eq_true_iff] at hids
  exact ⟨hids.left, hids.right, pending_exact (.of_runChecked keepsWaiting_of_check .start hs)⟩

/-- A call that is dropped while it waits stays in the table. -/
theorem dropped_call_stays : exists s, (step "NODE/RPC/a").runChecked (fun _ _ => true)
        [.register 7, .published 0, .cancel 0] new = some s ∧
      7 ∈ s.calls ∧ forall t, t ∈ s.tasks -> ¬ t.Waiting := by
  refine ⟨_, rfl, ?_⟩
  decide

end CallState

end Eva4.Psrpc
