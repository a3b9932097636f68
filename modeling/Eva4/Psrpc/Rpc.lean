import Eva4.Lib.Table
import Eva4.Psrpc.Options

/-!
# Calls and replies

A call is published to the topic of its target, handled there, and its reply is published to
the topic of the caller, where the processor hands it to the call that waits for it.  A message
is a byte string: its header, fields that end with a zero byte, and a payload.
-/

namespace Eva4.Psrpc

open Lib

def rpcRequest : UInt8 := 0x01

def rpcReply : UInt8 := 0x11

def rpcError : UInt8 := 0x12

def protoVersion : UInt8 := 1

abbrev Uuid : Type :=
  BitVec (8 * 16)

structure PsMessage where
  topic : String
  data : Bytes
deriving DecidableEq

structure Publication extends PsMessage where
  qos : Int
deriving DecidableEq

variable {K V : Type} [ErrorKinds K]

def dataErr {A : Type} : Except String A -> EResult K A
  | .ok a => .ok a
  | .error text => .error (.invalidData text)

def fieldOr (missing : String) : Option Bytes -> EResult K Bytes
  | some field => .ok field
  | none => .error (.invalidData missing)

def optionalBytes (s : Option String) : Bytes :=
  (s.map asBytes).getD []

/-- A message: two bytes that tell its type, the flags and two reserved bytes, the name of the
sender, the key id, and the payload. -/
def frame (first second flags : UInt8) (name : String) (keyId : Option String)
    (packed : Bytes) : Bytes :=
  [first, second, flags, 0, 0] ++
    (asBytes name ++ 0 :: (optionalBytes keyId ++ 0 :: packed))

/-!
## The caller
-/

structure RpcClient where
  name : String
  nodeRpcTopic : String
  qos : Int

def RpcClient.myRpcTopic (client : RpcClient) : String :=
  client.nodeRpcTopic ++ client.name

variable (packing : Packing V)

def packParams : Option V -> EResult K Bytes
  | none => .ok []
  | some p => dataErr (packing.pack p)

def callPayload (callId : Uuid) (method : String) (params : Option V) : EResult K Bytes := do
  let packed <- packParams packing params
  return wordBytes 16 callId ++ (asBytes method ++ 0 :: packed)

variable (crypto : Crypto) (packing : Packing V)

def RpcClient.callMessage (client : RpcClient)
    (iv : Nonce) (callId : Uuid) (target method : String) (params : Option V)
    (opts : Options) : EResult K Publication := do
  let payload <- callPayload packing callId method params
  let packed <- opts.packPayload crypto iv payload
  return {
    topic := client.nodeRpcTopic ++ target
    data := frame protoVersion rpcRequest opts.flags client.name opts.keyId packed
    qos := client.qos }

inductive ReplyKind where
  | success
  | error
deriving DecidableEq, Repr

def readReply (kind : ReplyKind) (payload : Bytes) : EResult K V :=
  match kind with
  | .success => dataErr (packing.unpack payload)
  | .error =>
    if payload.length < 2 then .error (.invalidData "invalid reply err payload")
    else
      let code := wordOf 2 (payload.take 2)
      if 2 < payload.length then do
        let text <- strFromUtf8 (payload.drop 2)
        .error { kind := ErrorKinds.ofCode code, message := some text }
      else .error { kind := ErrorKinds.ofCode code, message := none }

def finishCall (opts : Options) (kind : ReplyKind)
    (message : Bytes) : EResult K V := do
  let payload <- opts.unpackPayload crypto message 20
  readReply packing kind payload

/-!
## The target
-/

structure RpcServer (K V : Type) where
  nodeRpcTopic : String
  qos : Int
  handleCall : Option String -> String -> Option V -> EResult K V
  getKey : String -> EResult K String
  publish : Publication -> EResult K Unit

inductive Effect (V : Type) where
  | invoked (keyId : Option String) (method : String) (params : Option V)
  | published (publication : Publication)

structure Header where
  sender : String
  opts : Options
  keyId : Option String
  payloadPos : Nat

section

variable (server : RpcServer K V)

def readOptions (encryption : Encryption) (compression : Compression) (keyIdPayload : Bytes) :
    EResult K (Options × Option String) :=
  let opts := Options.new.withCompression compression
  if encryption = .no then .ok (opts, none)
  else do
    let keyId <- strFromUtf8 keyIdPayload
    let keyValue <- server.getKey keyId
    let key : EncryptionKey := { id := keyId, value := keyValue }
    return (opts.withEncryption crypto encryption key, some keyId)

def readHeader (data : Bytes) : EResult K Header := do
  let (encryption, compression) <- parseFlags (data.getD 2 0)
  let fields := splitn 0 3 (data.drop 5)
  let sender <- strFromUtf8 (fields.getD 0 [])
  let keyIdPayload <- fieldOr "key id missing" fields[1]?
  let _payload <- fieldOr "payload missing" fields[2]?
  let (opts, keyId) <- readOptions crypto server encryption compression keyIdPayload
  return {
    sender := sender
    opts := opts
    keyId := keyId
    payloadPos := (asBytes sender).length + keyIdPayload.length + 7 }

structure Request (V : Type) where
  callId : Uuid
  method : String
  params : Option V

def unpackParams (paramsPayload : Bytes) : EResult K (Option V) :=
  if paramsPayload.isEmpty then .ok none
  else (dataErr (packing.unpack paramsPayload)).map some

def readRequest (payload : Bytes) : EResult K (Request V) := do
  if payload.length < 17 then .error (.invalidData "RPC payload too short")
  else
    let fields := splitn 0 2 (payload.drop 16)
    let method <- strFromUtf8 (fields.getD 0 [])
    let paramsPayload <- fieldOr "params missing" fields[1]?
    let params <- unpackParams packing paramsPayload
    return { callId := wordOf 16 (payload.take 16), method := method, params := params }

def replyMessage (iv : Nonce) (opts : Options) (callId : Uuid) : EResult K V -> EResult K Bytes
  | .ok v => do
    let packed <- dataErr (packing.pack v)
    let payload <- opts.packPayload crypto iv packed
    return [protoVersion, rpcReply, 0, 0] ++ wordBytes 16 callId ++ payload
  | .error e => do
    let buf := wordBytes 2 (ErrorKinds.code e.kind) ++ optionalBytes e.message
    let payload <- opts.packPayload crypto iv buf
    return [protoVersion, rpcError, 0, 0] ++ wordBytes 16 callId ++ payload

def readCall (data : Bytes) : EResult K (Header × Request V) := do
  let header <- readHeader crypto server data
  let payload <- header.opts.unpackPayload crypto data header.payloadPos
  let request <- readRequest packing payload
  return (header, request)

end

def handleCall (crypto : Crypto) (packing : Packing V) (server : RpcServer K V) (iv : Nonce)
    (data : Bytes) : List (Effect V) × EResult K Unit :=
  match readCall crypto packing server data with
  | .error e => ([], .error e)
  | .ok (header, request) =>
    let invoked := Effect.invoked header.keyId request.method request.params
    let result := server.handleCall header.keyId request.method request.params
    match replyMessage crypto packing iv header.opts request.callId result with
    | .error e => ([invoked], .error e)
    | .ok reply =>
      let publication : Publication := {
        topic := server.nodeRpcTopic ++ header.sender
        data := reply
        qos := server.qos }
      ([invoked, .published publication], server.publish publication)

/-!
## The processor
-/

inductive Received (T : Type) where
  | request (data : Bytes)
  | delivered (tx : T) (kind : ReplyKind) (data : Bytes)
  | orphaned (callId : Uuid)
  | dropped (warning : String)
  | forwarded (message : PsMessage)
deriving DecidableEq

def processMessage {T : Type} (myRpcTopic : String) (calls : Table Uuid T)
    (message : PsMessage) : Table Uuid T × Received T :=
  if message.topic = myRpcTopic then
    let payload := message.data
    if payload.length < 5 then (calls, .dropped "invalid payload received: too small")
    else if payload.getD 0 0 ≠ protoVersion then (calls, .dropped "invalid protocol version")
    else
      let op := payload.getD 1 0
      if op = rpcRequest then (calls, .request payload)
      else if op = rpcReply ∨ op = rpcError then
        if payload.length < 22 then (calls, .dropped "invalid reply payload received: too small")
        else
          let callId : Uuid := wordOf 16 ((payload.take 20).drop 4)
          match calls.lookup callId with
          | some tx =>
            (calls.erase callId, .delivered tx (if op = rpcReply then .success else .error) payload)
          | none => (calls, .orphaned callId)
      else (calls, .dropped ("invalid payload type: " ++ toString op))
  else (calls, .forwarded message)

/-- The processor takes a call out of the table only to hand its reply to it. -/
inductive Processed {T : Type} (calls : Table Uuid T) (data : Bytes) :
    Table Uuid T × Received T -> Prop where
  | delivered {callId : Uuid} {tx : T} (kind : ReplyKind) (h : calls.lookup callId = some tx) :
      Processed calls data (calls.erase callId, .delivered tx kind data)
  | request : Processed calls data (calls, .request data)
  | orphaned (callId : Uuid) : Processed calls data (calls, .orphaned callId)
  | dropped (warning : String) : Processed calls data (calls, .dropped warning)
  | forwarded (message : PsMessage) : Processed calls data (calls, .forwarded message)

lemma processMessage_processed (myRpcTopic : String) (calls : Table Uuid T)
    (message : PsMessage) :
    Processed calls message.data (processMessage myRpcTopic calls message) := by
  unfold processMessage
  dsimp only
  split
  · split
    · exact .dropped _
    · split
      · exact .dropped _
      · split
        · exact .request
        · split
          · split
            · exact .dropped _
            · split
              · next tx hlookup => exact .delivered _ hlookup
              · exact .orphaned _
          · exact .dropped _
  · exact .forwarded message

end Eva4.Psrpc
