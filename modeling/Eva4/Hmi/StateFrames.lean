import Eva4.Lib.Machine
import Eva4.Lib.Table
import Eva4.Lib.Versions
import Eva4.Items.Basic

/-!
# State frames of a websocket

Tasks offer states to a websocket: each notification is one, and so is each delivery of initial
states.  An offer updates the table of the newest ids first and puts the frame into the queue
then; the sender takes frames from the queue.
-/

namespace Eva4.Hmi

open Lib
open Items

variable {D : Type}

structure StateFrame (D : Type) where
  oid : OID
  ieid : IEID
  data : D
deriving DecidableEq

inductive WsFrame (D : Type) where
  | state (st : StateFrame D)
  | bye
  /-- Logs, server events, answers to pings and streams. -/
  | other
deriving DecidableEq

def WsFrame.stateOf : WsFrame D -> Option (StateFrame D)
  | .state st => some st
  | _ => none

/-- A task that offers states: the one between its update and the queue, and those to come. -/
structure OfferTask (D : Type) where
  updated : Option (StateFrame D)
  rest : List (StateFrame D)

structure WsConfig where
  /-- Opened with a token, not with a key. -/
  byToken : Bool
  /-- States are collected and sent at intervals. -/
  buffered : Bool

structure WsClient (D : Type) where
  repl : Table OID IEID
  queue : List (WsFrame D)
  closed : Bool
  /-- The end of the connection has begun. -/
  terminated : Bool
  tasks : List (OfferTask D)
  buffer : List (StateFrame D)
  received : List (StateFrame D)
  /-- The states that have come into the queue, kept for the record only. -/
  entered : List (StateFrame D)
  /-- The states that have been offered, kept for the record only. -/
  offered : List (StateFrame D)

inductive WsEvent (D : Type) where
  | notifyState (st : StateFrame D)
  /-- The core has answered with the states of the items. -/
  | sendInitial (states : List (StateFrame D))
  | update (k : Nat)
  | trySend (k : Nat)
  /-- Another frame is put into the queue. -/
  | send (bye : Bool)
  | close
  /-- The sender takes a frame, and the client gets what is sent, or not. -/
  | receive (sent : Bool)
  | tick (sent : Bool)

def wsQueue : Nat := 32768

namespace WsClient

variable (s : WsClient D)

def setTask (k : Nat) (task : OfferTask D) : WsClient D :=
  { s with tasks := s.tasks.set k task }

def accept (k : Nat) (st : StateFrame D) (rest : List (StateFrame D)) : WsClient D :=
  setTask
    { s with offered := s.offered ++ [st], repl := AList.insert st.oid st.ieid s.repl } k
    { updated := some st, rest := rest }

def drop (k : Nat) (st : StateFrame D) (rest : List (StateFrame D)) : WsClient D :=
  setTask { s with offered := s.offered ++ [st] } k { updated := none, rest := rest }

def updateRepl (k : Nat) (task : OfferTask D) : Option (WsClient D) :=
  match task.updated, task.rest with
  | none, st :: rest =>
    match AList.lookup st.oid s.repl with
    | none => some (s.accept k st rest)
    | some ieid => if ieid > st.ieid then some (s.drop k st rest) else some (s.accept k st rest)
  | _, _ => none

variable (config : WsConfig) (s : WsClient D)

/-- The channel of a connection with a token is closed at once. -/
def askTerminate : WsClient D :=
  { s with closed := s.closed || config.byToken, terminated := true }

def hasRoom : Bool :=
  !s.closed && decide (s.queue.length < wsQueue)

def enter (k : Nat) (st : StateFrame D) (rest : List (StateFrame D)) : WsClient D :=
  setTask { s with queue := s.queue ++ [.state st], entered := s.entered ++ [st] } k
    { updated := none, rest := rest }

/-- A frame that finds no room ends the connection, and the rest of the offers with it. -/
def trySendState (k : Nat) (task : OfferTask D) : Option (WsClient D) :=
  match task.updated with
  | none => none
  | some st =>
    if s.hasRoom then some (s.enter k st task.rest)
    else some ((s.askTerminate config).setTask k { updated := none, rest := [] })

/-- The sender stops with what it has collected, and the channel with it. -/
def stopSender : WsClient D :=
  { s with queue := [], buffer := [], closed := true, terminated := true }

variable (sent : Bool)

def sendState (st : StateFrame D) : WsClient D :=
  if config.buffered then { s with buffer := s.buffer ++ [st] }
  else if sent then { s with received := s.received ++ [st] }
  else s.stopSender

def sendOther : WsClient D :=
  if sent then s else s.stopSender

def sendFrame : WsFrame D -> WsClient D
  | .state st => s.sendState config sent st
  | .bye => s.stopSender
  | .other => s.sendOther sent

/-- The sender goes on after a send that fails, without what it has collected. -/
def sendBuffer : WsClient D :=
  if s.buffer.isEmpty then s
  else if sent then { s with received := s.received ++ s.buffer, buffer := [] }
  else { s.askTerminate config with buffer := [] }

def tick : Option (WsClient D) :=
  if config.buffered then some (s.sendBuffer config sent) else none

def receive : Option (WsClient D) :=
  match s.queue with
  | frame :: rest => some (sendFrame config { s with queue := rest } sent frame)
  | [] => none

def sendNoState (frame : WsFrame D) : Option (WsClient D) :=
  if s.hasRoom then some { s with queue := s.queue ++ [frame] } else none

def addTask (states : List (StateFrame D)) : WsClient D :=
  { s with tasks := s.tasks ++ [{ updated := none, rest := states }] }

def step : Machine (WsClient D) (WsEvent D)
  | s, .notifyState st => some (s.addTask [st])
  | s, .sendInitial states => some (s.addTask states)
  | s, .update k => s.tasks[k]?.bind (s.updateRepl k)
  | s, .trySend k => s.tasks[k]?.bind (s.trySendState config k)
  | s, .send bye => s.sendNoState (if bye then .bye else .other)
  | s, .close => some { s with closed := true, terminated := true }
  | s, .receive sent => s.receive config sent
  | s, .tick sent => s.tick config sent

def new : WsClient D where
  repl := ∅
  queue := []
  closed := false
  terminated := false
  tasks := []
  buffer := []
  received := []
  entered := []
  offered := []

def EntersInOrder : Prop :=
  InOrder StateFrame.oid StateFrame.ieid s.entered

/-- All offers have been made and sent, and the connection is still there. -/
def Settled : Prop :=
  s.terminated = false ∧ s.queue = [] ∧ s.buffer = [] ∧
    forall task, task ∈ s.tasks -> task.updated = none ∧ task.rest = []

/-- The last state that the client has of an item is the newest that was offered. -/
def EndsNewest : Prop :=
  forall st, st ∈ s.offered -> exists last, lastOf StateFrame.oid st.oid s.received = some last ∧
    last ∈ s.offered ∧ forall st', st' ∈ s.offered -> st'.oid = st.oid -> st'.ieid <= last.ieid

end WsClient

end Eva4.Hmi
