import Eva4.Psrpc.Rpc

/-!
# Round trips

The target of a call reads what the caller has written, and answers to it.  The reply is handed
to the call that waits for it unless it is too short for the processor, and read as it was
written unless it is an error with an empty message.
-/

namespace Eva4.Psrpc

open Lib Options

variable {K V : Type} [ErrorKinds K]

/-!
## Requests
-/

/-- The key of the options is the one that is got for their key id. -/
def RpcServer.HoldsKey (crypto : Crypto) (server : RpcServer K V) (opts : Options) : Prop :=
  forall id, opts.keyId = some id -> exists value, server.getKey id = .ok value ∧
    opts.encryption.keyHash crypto value = opts.keyHash

/-- Neither the name of the sender nor the key id contains a zero byte. -/
structure Separable (name : String) (keyId : Option String) : Prop where
  name : 0 ∉ asBytes name
  keyId : forall id, keyId = some id -> 0 ∉ asBytes id

variable {packing : Packing V} {crypto : Crypto} {opts : Options} {name : String}
  {server : RpcServer K V}

section

variable {keyId : Option String}

lemma Separable.optionalBytes (h : Separable name keyId) : 0 ∉ optionalBytes keyId := by
  cases hid : keyId with
  | none => exact List.not_mem_nil
  | some id => exact h.keyId id hid

lemma splitn_frame (h : Separable name keyId) {first second flags : UInt8} {packed : Bytes} :
    splitn 0 3 ((frame first second flags name keyId packed).drop 5) =
      [asBytes name, optionalBytes keyId, packed] := by
  show splitn 0 3 (asBytes name ++ 0 :: (optionalBytes keyId ++ 0 :: packed)) = _
  rw [splitn_append h.name, splitn_append h.optionalBytes, splitn]

lemma unpackPayload_frame
    (h : forall header, opts.unpackPayload crypto (header ++ packed) header.length =
      (.ok payload : EResult K Bytes)) {first second flags : UInt8} {name : String} :
    opts.unpackPayload crypto (frame first second flags name keyId packed)
      ((asBytes name).length + (optionalBytes keyId).length + 7) =
        (.ok payload : EResult K Bytes) := by
  have hframe : frame first second flags name keyId packed =
      [first, second, flags, 0, 0] ++ asBytes name ++ 0 ::
        (optionalBytes keyId ++ [0]) ++ packed := by
    simp [frame]
  have hlen : ([first, second, flags, 0, 0] ++ asBytes name ++ 0 ::
      (optionalBytes keyId ++ [0])).length =
        (asBytes name).length + (optionalBytes keyId).length + 7 := by
    simp only [List.length_append, List.length_cons, List.length_nil]
    omega
  rw [hframe, ← hlen]
  exact h _

end

lemma readOptions_keyId (hkey : server.HoldsKey crypto opts) :
    readOptions crypto server opts.encryption opts.compression (optionalBytes opts.keyId) =
      .ok (opts, opts.keyId) := by
  unfold readOptions
  by_cases hno : opts.encryption = .no
  · rw [if_pos hno, rebuild_plain hno, keyId_of_no hno]
  · rcases keyId_of_cipher hno with ⟨id, hid⟩
    rcases hkey id hid with ⟨value, hvalue, hhash⟩
    have hbytes : optionalBytes opts.keyId = asBytes id := by
      rw [hid]
      rfl
    rw [if_neg hno, hbytes, strFromUtf8_asBytes]
    show (server.getKey id).bind _ = _
    rw [hvalue]
    show Except.ok (_, some id) = _
    rw [rebuild_encrypted hid hhash, hid]

lemma readHeader_frame (hsep : Separable name opts.keyId) (hkey : server.HoldsKey crypto opts) :
    readHeader crypto server
      (frame first second opts.flags name opts.keyId packed) =
      .ok {
        sender := name
        opts := opts
        keyId := opts.keyId
        payloadPos := (asBytes name).length + (optionalBytes opts.keyId).length + 7 } := by
  unfold readHeader
  rw [splitn_frame hsep]
  show (parseFlags opts.flags).bind _ = _
  rw [parseFlags_flags]
  show (strFromUtf8 (asBytes name)).bind _ = _
  rw [strFromUtf8_asBytes]
  show (readOptions crypto server opts.encryption opts.compression
    (optionalBytes opts.keyId)).bind _ = _
  rw [readOptions_keyId hkey]
  rfl

lemma unpackParams_packParams (hpacking : packing.Lawful) :
    exists packed, packParams packing params = (.ok packed : EResult K Bytes) ∧
      unpackParams packing packed = (.ok params : EResult K (Option V)) := by
  cases params with
  | none => exact ⟨[], rfl, rfl⟩
  | some p =>
    rcases hpacking.unpack_pack p with ⟨packed, hpack, hne, hunpack⟩
    have hfull : ¬ packed.isEmpty = true := fun h => hne (List.isEmpty_iff.mp h)
    refine ⟨packed, ?_, ?_⟩
    · rw [packParams, hpack]
      rfl
    · rw [unpackParams, if_neg hfull, hunpack]
      rfl

lemma readRequest_callPayload (hpacking : packing.Lawful) (hmethod : 0 ∉ asBytes method) :
    exists payload, callPayload packing callId method params = (.ok payload : EResult K Bytes) ∧
      readRequest packing payload =
        (.ok { callId := callId, method := method, params := params } : EResult K (Request V)) := by
  rcases unpackParams_packParams (K := K) hpacking with ⟨packed, hpack, hunpack⟩
  refine ⟨wordBytes 16 callId ++ (asBytes method ++ 0 :: packed), ?_, ?_⟩
  · rw [callPayload, hpack]
    rfl
  · have hlen : ¬ (wordBytes 16 callId ++ (asBytes method ++ 0 :: packed)).length < 17 := by
      simp only [List.length_append, List.length_cons, length_wordBytes]
      omega
    rw [readRequest, if_neg hlen, List.take_left' length_wordBytes,
      List.drop_left' length_wordBytes, splitn_append hmethod, splitn,
      wordOf_wordBytes]
    show (strFromUtf8 (asBytes method)).bind _ = _
    rw [strFromUtf8_asBytes]
    show (unpackParams packing packed).bind _ = _
    rw [hunpack]
    rfl

def RpcServer.answer (server : RpcServer K V) (sender : String) (keyId : Option String)
    (method : String) (params : Option V) (reply : Bytes) : List (Effect V) :=
  [.invoked keyId method params,
    .published { topic := server.nodeRpcTopic ++ sender, data := reply, qos := server.qos }]

lemma handleCall_callMessage (hcrypto : crypto.Lawful) (hpacking : packing.Lawful)
    {client : RpcClient} (hsep : Separable client.name opts.keyId)
    (hkey : server.HoldsKey crypto opts) (hmethod : 0 ∉ asBytes method)
    (hreply : replyMessage crypto packing replyIv opts callId
      (server.handleCall opts.keyId method params) = .ok reply) :
    exists message, client.callMessage crypto packing iv callId target method params opts =
        (.ok message : EResult K Publication) ∧
      (handleCall crypto packing server replyIv message.data).1 =
        server.answer client.name opts.keyId method params reply := by
  rcases readRequest_callPayload (K := K) hpacking hmethod with
    ⟨payload, hpayload, hrequest⟩
  rcases opts.unpackPayload_packPayload (K := K) hcrypto with
    ⟨packed, hpacked, hunpacked⟩
  refine ⟨{ topic := client.nodeRpcTopic ++ target
            data := frame protoVersion rpcRequest opts.flags client.name opts.keyId packed
            qos := client.qos }, ?_, ?_⟩
  · rw [RpcClient.callMessage, hpayload]
    show (opts.packPayload crypto iv payload).bind _ = _
    rw [hpacked]
    rfl
  · have hread : readCall crypto packing server
        (frame protoVersion rpcRequest opts.flags client.name opts.keyId packed) =
          .ok ({
            sender := client.name
            opts := opts
            keyId := opts.keyId
            payloadPos := (asBytes client.name).length + (optionalBytes opts.keyId).length + 7 },
            { callId := callId, method := method, params := params }) := by
      rw [readCall, readHeader_frame hsep hkey]
      show (opts.unpackPayload crypto _ _).bind _ = _
      rw [unpackPayload_frame hunpacked]
      show (readRequest packing payload).bind _ = _
      rw [hrequest]
      rfl
    rw [handleCall, hread]
    simp only [hreply, RpcServer.answer]

/-!
## Replies
-/

def replyKind : EResult K V -> ReplyKind
  | .ok _ => .success
  | .error _ => .error

def ReplyKind.op : ReplyKind -> UInt8
  | .success => rpcReply
  | .error => rpcError

def replyHeader (kind : ReplyKind) (callId : Uuid) : Bytes :=
  [protoVersion, kind.op, 0, 0] ++ wordBytes 16 callId

lemma length_replyHeader : (replyHeader kind callId).length = 20 := by
  rfl

def replyBody (packing : Packing V) : EResult K V -> EResult K Bytes
  | .ok v => dataErr (packing.pack v)
  | .error e => .ok (wordBytes 2 (ErrorKinds.code e.kind) ++ optionalBytes e.message)

lemma replyMessage_eq {crypto : Crypto} {packing : Packing V} {iv : Nonce} {opts : Options}
    {callId : Uuid} {result : EResult K V} : replyMessage crypto packing iv opts callId result =
      (replyBody packing result).bind fun body =>
        (opts.packPayload crypto iv body).bind fun packed =>
          .ok (replyHeader (replyKind result) callId ++ packed) := by
  cases result with
  | ok | error => rfl

/-- An error with an empty message is read as one without a message. -/
def reread : EResult K V -> EResult K V
  | .ok v => .ok v
  | .error e => .error { e with message := if e.message = some "" then none else e.message }

lemma readReply_error :
    readReply packing .error (wordBytes 2 (ErrorKinds.code kind) ++ text) =
      if text.length = 0 then .error { kind := kind, message := none }
      else (strFromUtf8 text).bind fun s =>
        (.error { kind := kind, message := some s } : EResult K V) := by
  have hlen : (wordBytes 2 (ErrorKinds.code kind) ++ text).length = 2 + text.length := by
    rw [List.length_append, length_wordBytes]
  have hfit : ¬ 2 + text.length < 2 := by omega
  simp only [readReply, hlen, if_neg hfit, List.take_left' length_wordBytes,
    List.drop_left' length_wordBytes, wordOf_wordBytes, ErrorKinds.ofCode_code]
  by_cases hzero : text.length = 0
  · have hshort : ¬ 2 < 2 + text.length := by omega
    rw [if_pos hzero, if_neg hshort]
  · have hlong : 2 < 2 + text.length := by omega
    rw [if_neg hzero, if_pos hlong]
    rfl

lemma readReply_replyBody (hpacking : packing.Lawful) (result : EResult K V) :
    exists body, replyBody packing result = .ok body ∧
      readReply packing (replyKind result) body = reread result := by
  cases result with
  | ok v =>
    rcases hpacking.unpack_pack v with ⟨packed, hpack, _, hunpack⟩
    refine ⟨packed, ?_, ?_⟩
    · rw [replyBody, hpack]
      rfl
    · show dataErr (packing.unpack packed) = _
      rw [hunpack]
      rfl
  | error e =>
    refine ⟨_, rfl, ?_⟩
    rw [replyKind, readReply_error]
    rcases e with ⟨kind, message⟩
    cases message with
    | none => rfl
    | some s =>
      show (if (asBytes s).length = 0 then _ else (strFromUtf8 (asBytes s)).bind _) = _
      rw [reread, strFromUtf8_asBytes]
      by_cases hempty : s = ""
      · rw [if_pos (length_asBytes_eq_zero_iff.mpr hempty), if_pos (by rw [hempty])]
      · have hsome : ¬ some s = some "" := fun heq => hempty (Option.some.inj heq)
        rw [if_neg (mt length_asBytes_eq_zero_iff.mp hempty), if_neg hsome]
        rfl

theorem finishCall_replyMessage (hcrypto : crypto.Lawful) (hpacking : packing.Lawful) (iv : Nonce)
    (opts : Options) (callId : Uuid) (result : EResult K V) :
    exists body packed, replyBody packing result = .ok body ∧
      opts.packPayload crypto iv body = (.ok packed : EResult K Bytes) ∧
      replyMessage crypto packing iv opts callId result =
        .ok (replyHeader (replyKind result) callId ++ packed) ∧
      finishCall crypto packing opts (replyKind result)
        (replyHeader (replyKind result) callId ++ packed) = reread result := by
  rcases readReply_replyBody hpacking result with ⟨body, hbody, hread⟩
  rcases opts.unpackPayload_packPayload (K := K) hcrypto with ⟨packed, hpacked, hunpacked⟩
  refine ⟨body, packed, hbody, hpacked, ?_, ?_⟩
  · rw [replyMessage_eq, hbody]
    show (opts.packPayload crypto iv body).bind _ = _
    rw [hpacked]
    rfl
  · have hpayload := hunpacked (replyHeader (replyKind result) callId)
    rw [length_replyHeader] at hpayload
    rw [finishCall, hpayload]
    exact hread

theorem processMessage_reply {topic : String} {calls : Table Uuid T} {kind : ReplyKind}
    {callId : Uuid} {packed : Bytes} :
    processMessage topic calls { topic := topic, data := replyHeader kind callId ++ packed } =
      if packed.length < 2 then (calls, .dropped "invalid reply payload received: too small")
      else
        match calls.lookup callId with
        | some tx => (calls.erase callId, .delivered tx kind (replyHeader kind callId ++ packed))
        | none => (calls, .orphaned callId) := by
  have hlen : (replyHeader kind callId ++ packed).length = 20 + packed.length := by
    rw [List.length_append, length_replyHeader]
  have hlong : ¬ 20 + packed.length < 5 := by omega
  have hversion : (replyHeader kind callId ++ packed).getD 0 0 = protoVersion := rfl
  have hop : (replyHeader kind callId ++ packed).getD 1 0 = kind.op := rfl
  have hreply : kind.op = rpcReply ∨ kind.op = rpcError := by
    cases kind with
    | success => exact Or.inl rfl
    | error => exact Or.inr rfl
  have hrequest : ¬ kind.op = rpcRequest := by
    cases kind <;> decide
  have hkind : (if kind.op = rpcReply then ReplyKind.success else .error) = kind := by
    cases kind <;> rfl
  have hid : ((replyHeader kind callId ++ packed).take 20).drop 4 = wordBytes 16 callId := by
    rfl
  have hshort : 20 + packed.length < 22 <-> packed.length < 2 := by omega
  simp only [processMessage, if_true, hlen, if_neg hlong, hversion, ne_eq, not_true_eq_false,
    if_false, hop, if_neg hrequest, if_pos hreply, hkind, hshort]
  cases hlookup : calls.lookup callId with
  | none | some => rw [hid, wordOf_wordBytes, hlookup]

/-- The target of a call is given exactly the method, the parameters and the key id of the
call, and publishes its reply to the topic of the caller, with the id of the call. -/
theorem request_reaches_handler {crypto : Crypto} (hcrypto : crypto.Lawful) {packing : Packing V}
    (hpacking : packing.Lawful) {client : RpcClient} {server : RpcServer K V} {opts : Options}
    (hsep : Separable client.name opts.keyId) (hkey : server.HoldsKey crypto opts) {method : String}
    (hmethod : 0 ∉ asBytes method) (target : String) (params : Option V) (callId : Uuid)
    (iv replyIv : Nonce) :
    exists message packed,
      client.callMessage crypto packing iv callId target method params opts =
        (.ok message : EResult K Publication) ∧
      (handleCall crypto packing server replyIv message.data).1 =
        [.invoked opts.keyId method params,
          .published {
            topic := server.nodeRpcTopic ++ client.name
            data := replyHeader (replyKind (server.handleCall opts.keyId method params)) callId
              ++ packed
            qos := server.qos }] := by
  rcases finishCall_replyMessage hcrypto hpacking replyIv opts callId
    (server.handleCall opts.keyId method params) with ⟨_, packed, _, _, hreply, _⟩
  rcases handleCall_callMessage hcrypto hpacking hsep hkey hmethod hreply with
    ⟨message, hmessage, hanswer⟩
  exact ⟨message, packed, hmessage, hanswer⟩

/-!
## Sample parties
-/

def Crypto.sample : Crypto where
  sha256 _ := Vector.replicate 32 0
  compress data := .ok (66 :: 90 :: data)
  decompress small := .ok (small.drop 2)
  encryptAead _ _ _ data := .ok (data, Vector.replicate 16 0)
  decryptAead _ _ _ buf _ := .ok buf

lemma Crypto.sample_lawful : Crypto.sample.Lawful where
  decompress_compress data := ⟨66 :: 90 :: data, rfl, rfl⟩
  decrypt_encrypt _ _ _ data _ := ⟨data, Vector.replicate 16 0, rfl, rfl⟩

def Packing.sample : Packing UInt8 where
  pack v := .ok [v]
  unpack data :=
    match data with
    | [v] => .ok v
    | _ => .error "invalid length"

lemma Packing.sample_lawful : Packing.sample.Lawful where
  unpack_pack v := ⟨[v], rfl, List.cons_ne_nil v [], rfl⟩

/-- Errors that are known by their numbers. -/
instance : ErrorKinds (BitVec 16) where
  invalidData := 1
  io := 2
  accessDenied := 3
  code kind := kind
  ofCode code := code
  ofCode_code _ := rfl

def RpcClient.sample : RpcClient where
  name := "a"
  nodeRpcTopic := "NODE/RPC/"
  qos := 1

def RpcServer.sample : RpcServer (BitVec 16) UInt8 where
  nodeRpcTopic := "NODE/RPC/"
  qos := 1
  handleCall _ _ _ := .ok 5
  getKey _ := .ok "secret"
  publish _ := .ok ()

def Options.sample : Options :=
  (Options.new.withCompression .bzip2).withEncryption Crypto.sample .aes256Gcm
    { id := "k", value := "secret" }

lemma separable_sample : Separable RpcClient.sample.name sample.keyId where
  name := by decide
  keyId id hid := by
    have hname : id = "k" := (Option.some.inj hid).symm
    rw [hname]
    decide

lemma holdsKey_sample : RpcServer.sample.HoldsKey Crypto.sample sample :=
  fun _ _ => ⟨"secret", rfl, rfl⟩

/-- An encrypted and compressed call without parameters. -/
theorem request_reaches_handler_encrypted :
    0 ∉ asBytes "test" ∧ exists message packed,
      RpcClient.sample.callMessage Crypto.sample Packing.sample (Vector.replicate 12 0) 7 "b"
        "test" none Options.sample = (.ok message : EResult (BitVec 16) Publication) ∧
      (handleCall Crypto.sample Packing.sample RpcServer.sample (Vector.replicate 12 1)
        message.data).1 =
        [.invoked (some "k") "test" none,
          .published {
            topic := "NODE/RPC/" ++ "a"
            data := replyHeader .success 7 ++ packed
            qos := 1 }] :=
  ⟨by decide, request_reaches_handler Crypto.sample_lawful Packing.sample_lawful
    separable_sample holdsKey_sample (by decide) "b" none 7 (Vector.replicate 12 0)
    (Vector.replicate 12 1)⟩

/-- A reply the processor does not drop and the caller reads as it was given. -/
def Readable (packing : Packing V) (opts : Options) : EResult K V -> Prop
  | .ok v => opts.encryption = .no -> opts.compression = .no -> forall data,
      packing.pack v = .ok data -> 2 <= data.length
  | .error e => e.message ≠ some ""

omit [ErrorKinds K] in
lemma reread_eq_iff :
    reread result = result <-> forall e, result = .error e -> e.message ≠ some "" := by
  cases result with
  | ok v =>
    constructor
    · intro _ e he
      cases he
    · exact fun _ => rfl
  | error e =>
    constructor
    · intro h other hother hempty
      cases hother
      rw [reread, if_pos hempty] at h
      injection h with hsame
      rw [← hsame] at hempty
      cases hempty
    · intro h
      rw [reread, if_neg (h e rfl)]

lemma readable_iff (hpacking : packing.Lawful) {result : EResult K V}
    (hbody : replyBody packing result = .ok body) : Readable packing opts result <->
      ¬ (opts.encryption = .no ∧ opts.compression = .no ∧ body.length < 2) ∧
        reread result = result := by
  rw [reread_eq_iff]
  cases result with
  | ok v =>
    rcases hpacking.unpack_pack v with ⟨data, hpack, _, _⟩
    rw [replyBody, hpack] at hbody
    injection hbody with hdata
    constructor
    · intro h
      constructor
      · intro hplain
        have hlen := h hplain.left hplain.right.left data hpack
        rw [hdata] at hlen
        omega
      · intro e he
        cases he
    · intro h henc hcomp other hother
      rw [hpack] at hother
      injection hother with heq
      rw [← heq, hdata]
      exact Nat.le_of_not_lt fun hlt => h.left ⟨henc, hcomp, hlt⟩
  | error e =>
    injection hbody with hbytes
    have hlen : 2 <= body.length := by
      rw [← hbytes, List.length_append, length_wordBytes]
      omega
    constructor
    · intro h
      constructor
      · intro hplain
        omega
      · intro other hother
        cases hother
        exact h
    · intro h
      exact h.right e rfl

/-- The reply to a pending call is handed to this call, which returns the result of the
handler, if and only if the result is readable. -/
theorem reply_reaches_caller_iff {crypto : Crypto} (hcrypto : crypto.Lawful)
    (hbzip2 : forall data small, crypto.compress data = .ok small -> 2 <= small.length)
    {packing : Packing V} (hpacking : packing.Lawful) {client : RpcClient} {server : RpcServer K V}
    (htopic : server.nodeRpcTopic = client.nodeRpcTopic) {opts : Options}
    (hsep : Separable client.name opts.keyId) (hkey : server.HoldsKey crypto opts) {method : String}
    (hmethod : 0 ∉ asBytes method) (target : String) (params : Option V) (callId : Uuid)
    (iv replyIv : Nonce) {T : Type} (calls : Table Uuid T) {tx : T}
    (hpending : calls.lookup callId = some tx) :
    exists message reply,
      client.callMessage crypto packing iv callId target method params opts =
        (.ok message : EResult K Publication) ∧
      (handleCall crypto packing server replyIv message.data).1 =
        server.answer client.name opts.keyId method params reply ∧
      ((exists kind,
          processMessage client.myRpcTopic calls
              { topic := server.nodeRpcTopic ++ client.name, data := reply } =
            (calls.erase callId, .delivered tx kind reply) ∧
          finishCall crypto packing opts kind reply =
            server.handleCall opts.keyId method params) <->
        Readable packing opts (server.handleCall opts.keyId method params)) := by
  rcases finishCall_replyMessage hcrypto hpacking replyIv opts callId
    (server.handleCall opts.keyId method params) with
      ⟨body, packed, hbody, hpacked, hreply, hfinish⟩
  rcases handleCall_callMessage hcrypto hpacking hsep hkey hmethod hreply with
    ⟨message, hmessage, hanswer⟩
  refine ⟨message, _, hmessage, hanswer, ?_⟩
  have hshort := length_packPayload_lt hbzip2 hpacked
  rw [RpcClient.myRpcTopic, htopic, processMessage_reply, readable_iff hpacking hbody, ← hshort]
  by_cases hlt : packed.length < 2
  · rw [if_pos hlt]
    constructor
    · intro h
      rcases h with ⟨kind, hdelivered, _⟩
      cases (Prod.mk.inj hdelivered).right
    · intro h
      exact absurd hlt h.left
  · rw [if_neg hlt, hpending]
    constructor
    · intro h
      rcases h with ⟨kind, hdelivered, hresult⟩
      injection (Prod.mk.inj hdelivered).right with _ hkind _
      rw [← hkind, hfinish] at hresult
      exact ⟨hlt, hresult⟩
    · intro h
      refine ⟨_, rfl, ?_⟩
      rw [hfinish]
      exact h.right

def pendingCalls : Table Uuid String :=
  (∅ : Table Uuid String).insert 7 "waiting call"

/-- The reply to an encrypted call, of one byte before it is packed. -/
theorem reply_reaches_caller_encrypted : pendingCalls.lookup 7 = some "waiting call" ∧
    exists message reply,
      RpcClient.sample.callMessage Crypto.sample Packing.sample (Vector.replicate 12 0) 7 "b"
        "test" none Options.sample = (.ok message : EResult (BitVec 16) Publication) ∧
      (handleCall Crypto.sample Packing.sample RpcServer.sample (Vector.replicate 12 1)
        message.data).1 = RpcServer.sample.answer "a" (some "k") "test" none reply ∧
      ((exists kind,
          processMessage RpcClient.sample.myRpcTopic pendingCalls
              { topic := "NODE/RPC/" ++ "a", data := reply } =
            (pendingCalls.erase 7, .delivered "waiting call" kind reply) ∧
          finishCall Crypto.sample Packing.sample Options.sample kind reply =
            (.ok 5 : EResult (BitVec 16) UInt8)) <->
        Readable Packing.sample Options.sample (.ok 5 : EResult (BitVec 16) UInt8)) := by
  have hbzip2 : forall data small, Crypto.sample.compress data = .ok small ->
      2 <= small.length := by
    intro data small hsmall
    injection hsmall with hdata
    rw [← hdata, List.length_cons, List.length_cons]
    omega
  exact ⟨rfl, reply_reaches_caller_iff Crypto.sample_lawful hbzip2 Packing.sample_lawful rfl
    separable_sample holdsKey_sample (by decide) "b" none 7 (Vector.replicate 12 0)
    (Vector.replicate 12 1) pendingCalls rfl⟩

/-- A plain reply of one byte is dropped, and the call waits on. -/
theorem one_byte_reply_dropped : pendingCalls.lookup 7 = some "waiting call" ∧
    exists message reply,
      RpcClient.sample.callMessage Crypto.sample Packing.sample (Vector.replicate 12 0) 7 "b"
        "test" none Options.new = (.ok message : EResult (BitVec 16) Publication) ∧
      (handleCall Crypto.sample Packing.sample RpcServer.sample (Vector.replicate 12 1)
        message.data).1 = RpcServer.sample.answer "a" none "test" none reply ∧
      processMessage RpcClient.sample.myRpcTopic pendingCalls
          { topic := "NODE/RPC/" ++ "a", data := reply } =
        (pendingCalls, .dropped "invalid reply payload received: too small") :=
  ⟨rfl, _, _, rfl, rfl, rfl⟩

end Eva4.Psrpc
