import Eva4.Lib.Dialog
import Eva4.Lib.Bytes
import Eva4.Items.Basic

/-!
# Requests on the wire

A request of the Modbus client goes over the bus of the platform, a serial line, TCP or UDP.  All
of them have to send the request before they wait for the answer to it.  What a transport does on
its connections is a dialog; the frames of the protocol come from another crate.
-/

namespace Eva4.ControllerModbus

open Lib Dialog
open Items (Error EResult)

/-!
## Transports
-/

inductive ModbusProto where
  | rtu
  | ascii
  | tcpUdp
deriving DecidableEq, Repr

inductive Transport where
  | bus (svc : String)
  /-- Any protocol but RTU is taken for ASCII. -/
  | serial (proto : ModbusProto)
  /-- With a pool of connections or with a new connection for each request. -/
  | tcp (keepAlive : Bool)
  | udp
deriving DecidableEq

inductive Connection where
  | bus
  | serial
  | pooled (n : Nat)
  | fresh (n : Nat)
deriving DecidableEq

inductive WireCall where
  | lock
  /-- Waits until the delay after the last frame has passed. -/
  | frameDelay
  | markLastFrame
  /-- Ends the program if it is configured to do so. -/
  | poc
  | poolGet
  | connect
  | replaceResource (c : Connection)
  | write (c : Connection) (data : Bytes)
  | read (c : Connection) (len : Nat)
  /-- Sends a datagram. -/
  | sendTo (c : Connection) (data : Bytes)
  | recvFrom (c : Connection)

-- a datagram is sent in part or in full, and one that is received is from the target or not
def WireCall.Answer : WireCall -> Type
  | .poolGet => Nat
  | .connect => EResult Nat
  | .write _ _ => EResult Unit
  | .read _ _ => EResult Bytes
  | .sendTo _ _ => EResult Nat
  | .recvFrom _ => EResult (Bytes × Bool)
  | _ => Unit

abbrev Wire (R : Type) : Type :=
  Dialog WireCall WireCall.Answer Error R

def wireTell (call : WireCall) : Wire Unit := do
  let _ <- Dialog.request call
  pure ()

def poolGet : Wire Nat := do
  let n : Nat <- Dialog.request WireCall.poolGet
  pure n

def connect : Wire Nat := do
  let answer : EResult Nat <- Dialog.request WireCall.connect
  answer

def writeAll (c : Connection) (data : Bytes) : Wire Unit := do
  let answer : EResult Unit <- Dialog.request (WireCall.write c data)
  answer

def readExact (c : Connection) (len : Nat) : Wire Bytes := do
  let answer : EResult Bytes <- Dialog.request (WireCall.read c len)
  answer

def sendTo (c : Connection) (data : Bytes) : Wire Nat := do
  let answer : EResult Nat <- Dialog.request (WireCall.sendTo c data)
  answer

def recvFrom (c : Connection) : Wire (Bytes × Bool) := do
  let answer : EResult (Bytes × Bool) <- Dialog.request (WireCall.recvFrom c)
  answer

structure Rmodbus where
  guessResponseFrameLen : Bytes -> ModbusProto -> Except String Nat
  generateAsciiFrame : Bytes -> Except String Bytes
  parseAsciiFrame : Bytes -> Except String Bytes

def ioError (message : String) : Error where
  kind := .io
  message := message

def failedError (message : String) : Error where
  kind := .failed
  message := message

def mapErr {A : Type} (f : String -> Error) : Except String A -> EResult A
  | .ok a => .ok a
  | .error text => .error (f text)

def orElse {R : Type} (d : Wire R) (failing : Wire Unit) : Wire R := do
  match <- d.attempt with
  | .ok r => pure r
  | .error e => do
    failing
    .fail e

variable (rmodbus : Rmodbus)

/-- Reads the head of an answer, and the rest of it if there is one. -/
def readFrame (proto : ModbusProto) (head : Nat) (c : Connection)
    (error : String -> Error) (failing : Wire Unit) : Wire Bytes := do
  let buf <- orElse (readExact c head) failing
  let len : Nat <-
    orElse (mapErr error (rmodbus.guessResponseFrameLen buf proto) : EResult Nat) failing
  if head < len then do
    let rest <- orElse (readExact c (len - head)) failing
    pure (buf ++ rest)
  else pure buf

/-!
## Sending and receiving
-/

def busProcessRequest (_svc : String) (payload : Bytes) : Wire Bytes := do
  -- the bus client sends the call and then waits for its reply, of any length
  writeAll .bus payload
  readExact .bus 0

def unwrapOrPoc (d : Wire Unit) : Wire Unit :=
  orElse d do
    wireTell .markLastFrame
    wireTell .poc

def serialProcessRequest (proto : ModbusProto) (payload : Bytes) : Wire Bytes := do
  wireTell .lock
  wireTell .frameDelay
  if proto = .rtu then do
    unwrapOrPoc (writeAll .serial payload)
    let response <- readFrame rmodbus .rtu 3 .serial ioError (wireTell .markLastFrame)
    wireTell .markLastFrame
    pure response
  else do
    let asciiFrame : Bytes <- (mapErr ioError (rmodbus.generateAsciiFrame payload) : EResult Bytes)
    unwrapOrPoc (writeAll .serial asciiFrame)
    let response <- readFrame rmodbus .ascii 7 .serial ioError (wireTell .markLastFrame)
    wireTell .markLastFrame
    (mapErr ioError (rmodbus.parseAsciiFrame response) : EResult Bytes)

/-- What the two ways of the TCP transport have in common: the payload is not used. -/
def processModbusRequest (c : Connection) (_payload : Bytes) : Wire Bytes :=
  readFrame rmodbus .tcpUdp 6 c failedError (pure ())

def pooledWrite (n : Nat) (payload : Bytes) : Wire Connection := do
  match <- (writeAll (.pooled n) payload).attempt with
  | .ok _ => pure (.pooled n)
  | .error _ => do
    let m <- connect
    writeAll (.fresh m) payload
    wireTell (.replaceResource (.fresh m))
    pure (.fresh m)

def tcpProcessRequest (keepAlive : Bool) (payload : Bytes) : Wire Bytes :=
  if keepAlive then do
    let n <- poolGet
    let client <- pooledWrite n payload
    processModbusRequest rmodbus client payload
  else do
    let n <- connect
    processModbusRequest rmodbus (.fresh n) payload

def receivePacket (n : Nat) : Wire Bytes := do
  let packet <- recvFrom (.pooled n)
  if packet.2 then pure packet.1
  else .fail (ioError "communication error, invalid packet source")

def udpProcessRequest (payload : Bytes) : Wire Bytes := do
  let n <- poolGet
  let len <- sendTo (.pooled n) payload
  if len ≠ payload.length then .fail (ioError "communication error, payload not sent in full")
  else receivePacket n

def processRequest (payload : Bytes) : Transport -> Wire Bytes
  | .bus svc => busProcessRequest svc payload
  | .serial proto => serialProcessRequest rmodbus proto payload
  | .tcp keepAlive => tcpProcessRequest rmodbus keepAlive payload
  | .udp => udpProcessRequest payload

/-!
## The order of writes and reads
-/

/-- A write that was made, and whether all of it was. -/
structure Write where
  c : Connection
  data : Bytes
  complete : Bool
deriving DecidableEq

def writesOn (c : Connection) (writes : List Write) : List Write :=
  writes.filter fun w => w.c = c

def framed (payload : Bytes) : Transport -> Bytes
  | .serial .rtu => payload
  | .serial _ => (rmodbus.generateAsciiFrame payload).toOption.getD []
  | _ => payload

/-- The frame has been written in full to the connection, once, and nothing else has. -/
def SentOn (frame : Bytes) (c : Connection) (writes : List Write) : Prop :=
  writesOn c writes = [{ c := c, data := frame, complete := true }]

/-- The first write, or one more on a new connection if the first one on a connection of the TCP
pool has failed. -/
def MayWrite (t : Transport) (frame : Bytes) (c : Connection) (data : Bytes)
    (writes : List Write) : Prop :=
  data = frame ∧ (writes = [] ∨
    t = .tcp true ∧ exists n m,
      writes = [{ c := .pooled n, data := frame, complete := false }] ∧ c = .fresh m)

/-- Only the frame is written, and nothing is read from a connection before it was. -/
def wireRules (t : Transport) (frame : Bytes) :
    Dialog.Rules WireCall WireCall.Answer (List Write) where
  answers := fun _ _ => True
  allowed := fun writes call =>
    match call with
    | .write c data => MayWrite t frame c data writes
    | .sendTo c data => MayWrite t frame c data writes
    | .read c _ => SentOn frame c writes
    | .recvFrom c => SentOn frame c writes
    | _ => True
  next := fun writes call =>
    match call with
    | .write c data => fun answer : EResult Unit =>
      writes ++ [{ c := c, data := data, complete := answer.toBool }]
    | .sendTo c data => fun answer : EResult Nat =>
      writes ++ [{ c := c, data := data, complete := answer.toOption = some data.length }]
    | _ => fun _ => writes

/-- A request that is answered was sent in full, once, on one connection. -/
def EndsSent (frame : Bytes) (writes : List Write) (r : EResult Bytes) : Prop :=
  r.toBool = true -> exists c, SentOn frame c writes

/-- Whatever happens, the request is sent before anything is read. -/
def SentBeforeRead (t : Transport) (payload : Bytes) : Prop :=
  (processRequest rmodbus payload t).Follows (wireRules t (framed rmodbus payload t))
    (EndsSent (framed rmodbus payload t)) []

/-- What a transport may do on a connection that has the request, and on no connection at all. -/
def Receives (c : Connection) : WireCall -> Prop
  | .write _ _ => False
  | .sendTo _ _ => False
  | .read c' _ => c' = c
  | .recvFrom c' => c' = c
  | _ => True

section Receiving

lemma sentOn_singleton : SentOn frame c [{ c := c, data := frame, complete := true }] := by
  simp [SentOn, writesOn]

lemma Receives.allowed (h : SentOn frame c writes) (call : WireCall) (hc : Receives c call) :
    (wireRules t frame).allowed writes call := by
  cases call with
  | write | sendTo => exact hc.elim
  | read | recvFrom =>
    rw [hc]
    exact h
  | _ => trivial

lemma Receives.next (hc : Receives c call) : (wireRules t frame).next writes call a = writes := by
  cases call with
  | write | sendTo => exact hc.elim
  | _ => rfl

lemma follows_of_receives {d : Wire Bytes} (h : SentOn frame c writes)
    (hd : d.Asks (fun _ _ => True) (Receives c)) :
    d.Follows (wireRules t frame) (EndsSent frame) writes := by
  apply Follows.mono
    (Follows.of_asks hd (Receives.allowed h) fun call hc a => Receives.next hc)
  intro writes' r hw _
  rw [hw]
  exact ⟨c, h⟩

end Receiving

section Asks

lemma orElse_asks (hd : d.Asks (fun _ _ => True) (Receives c))
    (hf : failing.Asks (fun _ _ => True) (Receives c)) :
    (orElse d failing).Asks (fun _ _ => True) (Receives c) := by
  refine Asks.bind (Asks.attempt hd) fun r => ?_
  cases r with
  | ok r => exact Asks.ret r
  | error e => exact Asks.bind hf fun _ => Asks.fail e

lemma readExact_asks : (readExact c len).Asks (fun _ _ => True) (Receives c) :=
  Asks.bind (Asks.request (c := WireCall.read c len) rfl) fun _ => Asks.lift

lemma readFrame_asks (hf : failing.Asks (fun _ _ => True) (Receives c)) :
    (readFrame rmodbus proto head c error failing).Asks (fun _ _ => True) (Receives c) := by
  refine Asks.bind (orElse_asks readExact_asks hf) fun buf => ?_
  refine Asks.bind (orElse_asks Asks.lift hf) fun len => ?_
  by_cases hlen : head < len
  · rw [if_pos hlen]
    exact Asks.bind (orElse_asks readExact_asks hf) fun rest =>
      Asks.ret (buf ++ rest)
  · rw [if_neg hlen]
    exact Asks.ret buf

end Asks

/-!
## One write and then the reads
-/

section Writing

variable {t : Transport} {frame : Bytes} {c : Connection}

lemma writeAll_follows : (writeAll c frame).Follows (wireRules t frame)
      (fun writes r => writes = [{ c := c, data := frame, complete := r.toBool }]) [] := by
  refine ⟨⟨rfl, Or.inl rfl⟩, ?_⟩
  intro answer _
  exact Follows.lift rfl

def FirstWrite (c : Connection) (frame : Bytes) (writes : List Write) (r : EResult Unit) : Prop :=
  r.toBool = true -> writes = [{ c := c, data := frame, complete := true }]

lemma writeAll_firstWrite :
    (writeAll c frame).Follows (wireRules t frame) (FirstWrite c frame) [] := by
  apply Follows.mono writeAll_follows
  intro writes r hw hr
  rw [hw, hr]

lemma unwrapOrPoc_firstWrite :
    (unwrapOrPoc (writeAll c frame)).Follows (wireRules t frame) (FirstWrite c frame) [] := by
  refine Follows.bind (P := fun writes r => forall x, r = .ok x -> FirstWrite c frame writes x)
    (Follows.attempt (Follows.mono writeAll_firstWrite ?_)) ?_ ?_
  · intro writes r hr x hx
    cases hx
    exact hr
  · intro writes r hr
    cases r with
    | ok u => exact hr _ rfl
    | error e => exact ⟨trivial, fun _ _ => ⟨trivial, fun _ _ => nofun⟩⟩
  · intro writes e _
    exact nofun

lemma follows_of_firstWrite {d : Wire Unit}
    (hd : d.Follows (wireRules t frame) (FirstWrite c frame) [])
    (hk : (k ()).Asks (fun _ _ => True) (Receives c)) :
    (d >>= k).Follows (wireRules t frame) (EndsSent frame) [] := by
  refine Follows.bind hd ?_ ?_
  · intro writes u hw
    rw [hw rfl]
    exact follows_of_receives sentOn_singleton hk
  · intro writes e _
    exact nofun

end Writing

variable (payload : Bytes)

lemma bus_sentBeforeRead : SentBeforeRead rmodbus (.bus svc) payload :=
  follows_of_firstWrite writeAll_firstWrite readExact_asks

lemma markLastFrame_asks : (wireTell .markLastFrame).Asks (fun _ _ => True) (Receives .serial) :=
  Asks.bind (Asks.request (show Receives .serial .markLastFrame from trivial)) fun _ => Asks.ret ()

lemma rtu_sentBeforeRead : SentBeforeRead rmodbus (.serial .rtu) payload := by
  refine ⟨trivial, fun _ _ => ⟨trivial, fun _ _ => ?_⟩⟩
  apply follows_of_firstWrite unwrapOrPoc_firstWrite
  refine Asks.bind (readFrame_asks rmodbus markLastFrame_asks) ?_
  intro response
  exact Asks.bind markLastFrame_asks fun _ => Asks.ret response

lemma ascii_sentBeforeRead (h : proto ≠ .rtu) : SentBeforeRead rmodbus (.serial proto) payload := by
  have hframed : framed rmodbus payload (.serial proto)
      = (rmodbus.generateAsciiFrame payload).toOption.getD [] := by
    cases proto with
    | rtu => exact (h rfl).elim
    | ascii | tcpUdp => rfl
  unfold SentBeforeRead
  rw [hframed]
  change (serialProcessRequest rmodbus proto payload).Follows _ _ []
  unfold serialProcessRequest
  rw [if_neg h]
  refine ⟨trivial, fun _ _ => ⟨trivial, fun _ _ => ?_⟩⟩
  cases rmodbus.generateAsciiFrame payload with
  | error text => exact nofun
  | ok asciiFrame =>
    apply follows_of_firstWrite unwrapOrPoc_firstWrite
    refine Asks.bind (readFrame_asks rmodbus markLastFrame_asks) ?_
    intro response
    exact Asks.bind markLastFrame_asks fun _ => Asks.lift

/-- The connection that is read next has the request, once and in full, and either the first
write was made or a second one was, on a new connection. -/
theorem pooledWrite_follows :
    (pooledWrite n payload).Follows (wireRules (.tcp true) payload)
      (fun writes r => forall c, r = .ok c -> SentOn payload c writes) [] := by
  refine ⟨⟨rfl, Or.inl rfl⟩, ?_⟩
  intro written _
  cases written with
  | ok u =>
    intro c hc
    cases hc
    exact sentOn_singleton
  | error e =>
    refine ⟨trivial, ?_⟩
    intro connected _
    cases connected with
    | error e => exact nofun
    | ok m =>
      refine ⟨⟨rfl, Or.inr ⟨rfl, n, m, rfl, rfl⟩⟩, ?_⟩
      intro written _
      cases written with
      | error e => exact nofun
      | ok u =>
        refine ⟨trivial, ?_⟩
        intro _ _ c hc
        cases hc
        simp [wireRules, SentOn, writesOn, Except.toBool]

lemma pooled_sentBeforeRead : SentBeforeRead rmodbus (.tcp true) payload := by
  refine ⟨trivial, ?_⟩
  intro n _
  change (pooledWrite n payload >>= _).Follows _ _ []
  refine Follows.bind (pooledWrite_follows payload) ?_ ?_
  · intro writes c hc
    exact follows_of_receives (hc c rfl)
      (readFrame_asks rmodbus (Asks.ret ()))
  · intro writes e _
    exact nofun

lemma receivePacket_asks : (receivePacket n).Asks (fun _ _ => True) (Receives (.pooled n)) := by
  have hrecv : (recvFrom (.pooled n)).Asks (fun _ _ => True) (Receives (.pooled n)) :=
    Asks.bind (Asks.request (c := WireCall.recvFrom (.pooled n)) rfl) fun _ => Asks.lift
  refine Asks.bind hrecv fun packet => ?_
  split
  · exact Asks.ret _
  · exact Asks.fail _

lemma udp_sentBeforeRead : SentBeforeRead rmodbus .udp payload := by
  refine ⟨trivial, ?_⟩
  intro n _
  refine ⟨⟨rfl, Or.inl rfl⟩, ?_⟩
  intro sent _
  cases sent with
  | error e => exact nofun
  | ok len =>
    change Follows _ _ (if len ≠ payload.length then _ else receivePacket n) _
    by_cases hlen : len = payload.length
    · rw [if_neg (not_not_intro hlen)]
      apply follows_of_receives (c := .pooled n)
      · simp [wireRules, framed, SentOn, writesOn, Except.toOption, hlen]
      · exact receivePacket_asks
    · rw [if_pos hlen]
      exact nofun

/-- A new TCP connection is read at once, and nothing was written to it. -/
theorem not_unpooled_sentBeforeRead : ¬ SentBeforeRead rmodbus (.tcp false) payload := by
  intro h
  have hread : SentOn payload (.fresh 0) [] := (h.right (.ok 0) trivial).left
  exact List.cons_ne_nil _ _ hread.symm

/-- The request is sent before the answer is read, with any payload and whatever the other side
does, on every transport but TCP without a pool of connections. -/
theorem sent_before_read_iff (t : Transport) :
    SentBeforeRead rmodbus t payload <-> t ≠ .tcp false := by
  constructor
  · intro h ht
    rw [ht] at h
    exact not_unpooled_sentBeforeRead rmodbus payload h
  · intro ht
    cases t with
    | bus svc => exact bus_sentBeforeRead rmodbus payload
    | serial proto =>
      by_cases hp : proto = .rtu
      · rw [hp]
        exact rtu_sentBeforeRead rmodbus payload
      · exact ascii_sentBeforeRead rmodbus payload hp
    | tcp keepAlive =>
      cases keepAlive with
      | false => exact (ht rfl).elim
      | true => exact pooled_sentBeforeRead rmodbus payload
    | udp => exact udp_sentBeforeRead rmodbus payload

def Rmodbus.sample : Rmodbus where
  guessResponseFrameLen := fun buf _ => .ok (6 + (buf.getD 5 0).toNat)
  generateAsciiFrame := fun data => .ok data
  parseAsciiFrame := fun data => .ok data

/-- A request for one holding register is never written. -/
theorem unpooled_request_not_sent :
    ¬ SentBeforeRead Rmodbus.sample (.tcp false) [0, 2, 0, 0, 0, 6, 1, 3, 0, 0, 0, 1] := by
  apply not_unpooled_sentBeforeRead

end Eva4.ControllerModbus
