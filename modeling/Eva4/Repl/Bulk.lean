import Eva4.Items.Basic
import Eva4.Lib.Dialog
import Eva4.Psrpc.RoundTrip
import Mathlib.Data.Countable.Basic
import Mathlib.Data.Rat.Encodable
import Mathlib.Logic.Equiv.List
import Mathlib.Tactic.DeriveCountable

/-!
# Bulk frames

A node publishes the states and the inventory of its items in frames, packed as its options
say.  A node that knows the sender reads them and publishes them to its own core, except those
the key of the frame may not write.
-/

namespace Eva4.Repl

open Lib Psrpc
open Items (OID ReplicationState ReplicationStateEvent ReplicationInventoryItem
  ReplicationStateEventExtended)

variable {K V : Type} [ErrorKinds K]

/-!
## Events
-/

structure FullItemState (V : Type) where
  oid : OID
  state : ReplicationState V

inductive ReplicationData (V : Type) where
  | inventory (item : ReplicationInventoryItem V)
  | state (state : FullItemState V)

def ReplicationData.oid : ReplicationData V -> OID
  | inventory item => item.oid
  | state st => st.oid

abbrev IntoEvent (V : Type) : Type :=
  ReplicationState V -> String -> ReplicationStateEvent V

def ReplicationData.intoReplicationStateEventExtendedBulk (intoEvent : IntoEvent V)
    (systemName : String) : ReplicationData V -> ReplicationStateEventExtended V
  | inventory item => .inventory systemName item
  | state st => .basicItem st.oid (intoEvent st.state systemName)

/-!
## The notifier
-/

variable (crypto : Crypto)

/-- The options of a key, which are always those of the longer cipher. -/
def getEncOpts (getKey : String -> EResult K String) (keyId : String) : EResult K Options := do
  let keyValue <- getKey keyId
  return Options.new.withEncryption crypto .aes256Gcm { id := keyId, value := keyValue }

structure BulkSendConfig where
  encryptionKey : Option String
  compress : Bool
  topic : String

structure Notifier (K : Type) where
  systemName : String
  cfg : BulkSendConfig
  getKey : String -> EResult K String
  qos : Int

structure Topics where
  psItemBulkState : String
  replicationState : String

def Notifier.bulkOptions (node : Notifier K) : EResult K Options := do
  let opts <-
    match node.cfg.encryptionKey with
    | some keyId => getEncOpts crypto node.getKey keyId
    | none => .ok Options.new
  return opts.withCompression (if node.cfg.compress then .bzip2 else .no)

def Notifier.notifyBulk (topics : Topics) (crypto : Crypto)
    (packing : Packing (List (ReplicationData V))) (iv : Nonce) (node : Notifier K)
    (data : List (ReplicationData V)) : EResult K Publication := do
  let opts <- node.bulkOptions crypto
  let packed <- dataErr (packing.pack data)
  let payload <- opts.packPayload crypto iv packed
  return {
    topic := topics.psItemBulkState ++ node.cfg.topic
    data := frame 0x00 protoVersion opts.flags node.systemName node.cfg.encryptionKey payload
    qos := node.qos }

/-!
## The reader
-/

structure NodeInfo where
  enabled : Bool
  apiEnabled : Bool
  online : Bool
  lastEvent : Nat

/-- Which items a key may write, and the lists this was put together from. -/
structure Acl where
  checkItemWrite : OID -> Bool
  containsAcl : String -> Bool

structure Reader (K V : Type) where
  systemName : String
  secureTopics : Option (List String)
  nodes : String -> Option NodeInfo
  getKey : String -> EResult K String
  getAcl : String -> EResult K Acl
  /-- How the publication of a node that is marked online ends. -/
  markNode : String -> EResult K Unit
  now : Nat
  intoEvent : IntoEvent V

/-- How the processing of a frame ends when nothing is published. -/
inductive BulkEnd (K : Type) where
  | ignored
  | failed (error : Error K)
  | panicked

abbrev BulkStep (K A : Type) : Type :=
  Except (BulkEnd K) A

def orFail {A : Type} : EResult K A -> BulkStep K A
  | .ok a => .ok a
  | .error e => .error (.failed e)

def endIf (c : Prop) [Decidable c] (outcome : BulkEnd K) : BulkStep K Unit :=
  if c then .error outcome else .ok ()

/-- A result with the node table it leaves and the nodes that were announced to be online. -/
structure Processed (K A : Type) where
  result : BulkStep K A
  nodes : String -> Option NodeInfo
  announced : List String

def topicAfter (head topic : String) : Option String :=
  if head.toList <+: topic.toList then some (String.ofList (topic.toList.drop head.length))
  else none

variable (reader : Reader K V)

namespace Reader

def isSecure (bulkTopic : String) : Bool :=
  reader.secureTopics.any fun topics => topics.contains bulkTopic

def untouched {A : Type} (result : BulkStep K A) : Processed K A :=
  { result := result, nodes := reader.nodes, announced := [] }

/-- The sender has to be known and enabled; one that has no API is seen to be online. -/
def admitSender (sname : String) : Processed K Unit :=
  match reader.nodes sname with
  | none => reader.untouched (.error .ignored)
  | some node =>
    if !node.enabled then reader.untouched (.error .ignored)
    else if node.apiEnabled then reader.untouched (.ok ())
    else {
      result := if node.online then .ok () else orFail (reader.markNode sname)
      nodes := Function.update reader.nodes sname
        (some { node with online := true, lastEvent := reader.now })
      announced := if node.online then [] else [sname] }

def frameOptions (reader : Reader K V) (encryption : Encryption)
    (compression : Compression) (keyIdBuf : Bytes) : EResult K (Options × Option Acl) :=
  if encryption = .no then .ok (Options.new.withCompression compression, none)
  else do
    let keyId <- strFromUtf8 keyIdBuf
    let opts <- getEncOpts crypto reader.getKey keyId
    let acl <- reader.getAcl keyId
    return (opts.withCompression compression, some acl)

def bulkEvents (auth : Option Acl) (systemName : String)
    (data : List (ReplicationData V)) : List (ReplicationStateEventExtended V) :=
  (data.filter fun d => auth.all fun acl => acl.checkItemWrite d.oid).map
    (ReplicationData.intoReplicationStateEventExtendedBulk reader.intoEvent systemName)

def frameHead (reader : Reader K V) (bulkTopic : String) (data : Bytes) :
    BulkStep K ((Encryption × Compression) × String) := do
  endIf (data.length < 4) (.failed (.invalidData "invalid bulk frame len"))
  endIf (data.getD 0 0 ≠ 0x00) (.failed (.invalidData "invalid bulk frame header"))
  endIf (data.getD 1 0 ≠ protoVersion) (.failed (.invalidData "unsupported bulk proto"))
  let flags <- orFail (parseFlags (data.getD 2 0))
  endIf (reader.isSecure bulkTopic = true ∧ flags.1 ≠ .aes256Gcm)
    (.failed (.access "unencrypted message ignored"))
  -- the slice behind the header is out of range
  endIf (data.length < 5) .panicked
  let sname <- orFail (strFromUtf8 ((splitn 0 3 (data.drop 5)).getD 0 []))
  return (flags, sname)

def frameEvents (packing : Packing (List (ReplicationData V)))
    (packEvents : Packing (List (ReplicationStateEventExtended V))) (reader : Reader K V)
    (encryption : Encryption) (compression : Compression) (sname : String) (data : Bytes) :
    BulkStep K Bytes := do
  endIf (sname = reader.systemName) .ignored
  let fields := splitn 0 3 (data.drop 5)
  let systemNameBuf := fields.getD 0 []
  let keyIdBuf <- orFail (fieldOr "bulk frame is missing key id" fields[1]?)
  let _payload <- orFail (fieldOr "bulk frame is missing payload" fields[2]?)
  let (opts, auth) <- orFail (reader.frameOptions crypto encryption compression keyIdBuf)
  let p <- orFail (opts.unpackPayload crypto data (systemNameBuf.length + keyIdBuf.length + 7))
  let bulk <- orFail (dataErr (packing.unpack p))
  orFail (dataErr (packEvents.pack (reader.bulkEvents auth sname bulk)))

def processFrame (packing : Packing (List (ReplicationData V)))
    (packEvents : Packing (List (ReplicationStateEventExtended V))) (reader : Reader K V)
    (bulkTopic : String) (data : Bytes) : Processed K Bytes :=
  match reader.frameHead bulkTopic data with
  | .error outcome => reader.untouched (.error outcome)
  | .ok ((encryption, compression), sname) =>
    let admitted := reader.admitSender sname
    { admitted with
      result := admitted.result >>= fun _ =>
        reader.frameEvents crypto packing packEvents encryption compression sname data }

def processBulkState (topics : Topics) (crypto : Crypto)
    (packing : Packing (List (ReplicationData V)))
    (packEvents : Packing (List (ReplicationStateEventExtended V))) (reader : Reader K V)
    (message : PsMessage) : Processed K PsMessage :=
  match topicAfter topics.psItemBulkState message.topic with
  | none => reader.untouched (.error .ignored)
  | some bulkTopic =>
    let processed := reader.processFrame crypto packing packEvents bulkTopic message.data
    { processed with
      result := processed.result.map fun payload =>
        { topic := topics.replicationState, data := payload } }

def psProcessBulkState (topics : Topics) (crypto : Crypto)
    (packing : Packing (List (ReplicationData V)))
    (packEvents : Packing (List (ReplicationStateEventExtended V))) (reader : Reader K V)
    (message : PsMessage) : BulkStep K PsMessage :=
  (reader.processBulkState topics crypto packing packEvents message).result

end Reader

/-!
## Round trip
-/

lemma topicAfter_append : topicAfter head (head ++ rest) = some rest := by
  have hlist : (head ++ rest).toList = head.toList ++ rest.toList := String.toList_append
  have hhead : head.toList <+: (head ++ rest).toList := by
    rw [hlist]
    exact List.prefix_append _ _
  rw [topicAfter, if_pos hhead, hlist, ← String.length_toList, List.drop_left, String.ofList_toList]

omit [ErrorKinds K] in
lemma endIf_of_not [Decidable c] (h : ¬ c) : endIf c outcome = .ok () :=
  if_neg h

/-- Both nodes get the same value for the key of the frames. -/
def SharesKey (node : Notifier K) (reader : Reader K V) : Prop :=
  forall id, node.cfg.encryptionKey = some id -> exists value,
    node.getKey id = .ok value ∧ reader.getKey id = .ok value

/-- The key of the frames, if there is one, has the rights `auth`. -/
def Reader.Authorizes (keyId : Option String) (auth : Option Acl) : Prop :=
  auth.isSome = keyId.isSome ∧
    forall id acl, keyId = some id -> auth = some acl -> reader.getAcl id = .ok acl

variable {reader} {crypto} {packing : Packing (List (ReplicationData V))}
  {auth : Option Acl} {bulkTopic : String} {node : Notifier K}
  {packEvents : Packing (List (ReplicationStateEventExtended V))}

omit [ErrorKinds K] in
lemma getEncOpts_ok {id : String} (h : getKey id = .ok value) : getEncOpts crypto getKey id =
      .ok (Options.new.withEncryption crypto .aes256Gcm { id := id, value := value }) := by
  rw [getEncOpts, h]
  rfl

lemma frameOptions_bulkOptions (hkey : SharesKey node reader)
    (hauth : reader.Authorizes node.cfg.encryptionKey auth) :
    exists opts, node.bulkOptions crypto = .ok opts ∧
      opts.encryption = (if node.cfg.encryptionKey.isSome then .aes256Gcm else .no) ∧
      reader.frameOptions crypto opts.encryption opts.compression
        (optionalBytes node.cfg.encryptionKey) = .ok (opts, auth) := by
  rw [Notifier.bulkOptions]
  cases hid : node.cfg.encryptionKey with
  | none =>
    have hnone : auth = none := by
      have hsome := hauth.left
      rw [hid] at hsome
      exact Option.isSome_eq_false_iff.mp hsome |> Option.isNone_iff_eq_none.mp
    refine ⟨_, rfl, rfl, ?_⟩
    rw [hnone]
    exact if_pos rfl
  | some id =>
    rcases hkey id hid with ⟨value, hvalue, hsame⟩
    have hsome := hauth.left
    rw [hid] at hsome
    rcases Option.isSome_iff_exists.mp hsome with ⟨acl, hacl⟩
    have hget := hauth.right id acl hid hacl
    refine ⟨(Options.new.withEncryption crypto .aes256Gcm
      { id := id, value := value }).withCompression
        (if node.cfg.compress then .bzip2 else .no), ?_, rfl, ?_⟩
    · show (getEncOpts crypto node.getKey id).bind _ = _
      rw [getEncOpts_ok hvalue]
      rfl
    · show (strFromUtf8 (asBytes id)).bind _ = _
      rw [strFromUtf8_asBytes]
      show (getEncOpts crypto reader.getKey id).bind _ = _
      rw [getEncOpts_ok hsame]
      show (reader.getAcl id).bind _ = _
      rw [hget, hacl]
      rfl

omit [ErrorKinds K] in
lemma admitSender_ok (hknown : reader.nodes sname = some info)
    (henabled : info.enabled = true) (hmark : info.apiEnabled = false -> info.online = false ->
      reader.markNode sname = .ok ()) : (reader.admitSender sname).result = .ok () := by
  simp only [Reader.admitSender, hknown, henabled, Bool.not_true, Bool.false_eq_true, if_false]
  cases hapi : info.apiEnabled with
  | true => rfl
  | false =>
    cases honline : info.online with
    | true => rfl
    | false =>
      rw [if_neg Bool.false_ne_true, if_neg Bool.false_ne_true, hmark hapi honline]
      rfl

lemma notifyBulk_frame (hopts : node.bulkOptions crypto = .ok opts)
    (hpack : packing.pack data = .ok packed)
    (hsealed : opts.packPayload crypto iv packed = (.ok sealed : EResult K Bytes)) :
    node.notifyBulk topics crypto packing iv data = .ok {
      topic := topics.psItemBulkState ++ node.cfg.topic
      data := frame 0x00 protoVersion opts.flags node.systemName node.cfg.encryptionKey sealed
      qos := node.qos } := by
  rw [Notifier.notifyBulk, hopts]
  show (dataErr (packing.pack data)).bind _ = _
  rw [hpack]
  show (opts.packPayload crypto iv packed).bind _ = _
  rw [hsealed]
  rfl

lemma frameHead_frame {opts : Options} (hsep : Separable name keyId)
    (hsecure : ¬ (reader.isSecure bulkTopic = true ∧ opts.encryption ≠ .aes256Gcm)) :
    reader.frameHead bulkTopic (frame 0x00 protoVersion opts.flags name keyId sealed) =
      .ok ((opts.encryption, opts.compression), name) := by
  have hlen : 7 <= (frame 0x00 protoVersion opts.flags name keyId sealed).length := by
    simp only [frame, List.length_append, List.length_cons, List.length_nil]
    omega
  have hslice : ¬ (frame 0x00 protoVersion opts.flags name keyId sealed).length < 5 := by
    omega
  show (orFail (parseFlags opts.flags)).bind _ = _
  rw [Options.parseFlags_flags]
  show (endIf (reader.isSecure bulkTopic = true ∧ opts.encryption ≠ .aes256Gcm) _).bind _ = _
  rw [endIf_of_not hsecure, endIf_of_not hslice, splitn_frame hsep]
  show (orFail (strFromUtf8 (asBytes name))).bind _ = _
  rw [strFromUtf8_asBytes]
  rfl

theorem processFrame_frame (hsep : Separable name keyId)
    (hsender : (reader.admitSender name).result = .ok ()) (hother : name ≠ reader.systemName)
    (hsecure : ¬ (reader.isSecure bulkTopic = true ∧ opts.encryption ≠ .aes256Gcm))
    (hopts : reader.frameOptions crypto opts.encryption opts.compression
      (optionalBytes keyId) = .ok (opts, auth))
    (hunsealed : forall header, opts.unpackPayload crypto (header ++ sealed) header.length =
      (.ok packed : EResult K Bytes)) (hunpack : packing.unpack packed = .ok data)
    (hpayload : packEvents.pack (reader.bulkEvents auth name data) = .ok payload) :
    (reader.processFrame crypto packing packEvents bulkTopic
      (frame 0x00 protoVersion opts.flags name keyId sealed)).result = .ok payload := by
  rw [Reader.processFrame, frameHead_frame hsep hsecure]
  show (reader.admitSender name).result.bind _ = _
  rw [hsender]
  show (endIf (name = reader.systemName) _).bind _ = _
  rw [endIf_of_not hother, splitn_frame hsep]
  show (orFail (reader.frameOptions crypto opts.encryption opts.compression
    (optionalBytes keyId))).bind _ = _
  rw [hopts]
  show (orFail (opts.unpackPayload crypto _ ((asBytes name).length +
    (optionalBytes keyId).length + 7))).bind _ = _
  rw [unpackPayload_frame hunsealed]
  show (orFail (dataErr (packing.unpack packed))).bind _ = _
  rw [hunpack]
  show orFail (dataErr (packEvents.pack (reader.bulkEvents auth name data))) = _
  rw [hpayload]
  rfl

theorem processFrame_notifyBulk (hcrypto : crypto.Lawful) (hpacking : packing.Lawful)
    (hpackEvents : packEvents.Lawful) (hsep : Separable node.systemName node.cfg.encryptionKey)
    (hkey : SharesKey node reader) (hauth : reader.Authorizes node.cfg.encryptionKey auth)
    (hsender : (reader.admitSender node.systemName).result = .ok ())
    (hother : node.systemName ≠ reader.systemName)
    (hsecure : reader.isSecure bulkTopic = true -> node.cfg.encryptionKey ≠ none) :
    exists message payload, node.notifyBulk topics crypto packing iv data = .ok message ∧
      packEvents.pack (reader.bulkEvents auth node.systemName data) = .ok payload ∧
      message.topic = topics.psItemBulkState ++ node.cfg.topic ∧
      (reader.processFrame crypto packing packEvents bulkTopic message.data).result =
        .ok payload := by
  rcases frameOptions_bulkOptions hkey hauth with ⟨opts, hopts, henc, hframe⟩
  rcases hpacking.unpack_pack data with ⟨packed, hpack, _, hunpack⟩
  rcases opts.unpackPayload_packPayload (K := K) hcrypto with ⟨sealed, hsealed, hunsealed⟩
  rcases hpackEvents.unpack_pack (reader.bulkEvents auth node.systemName data) with
    ⟨payload, hpayload, _, _⟩
  have hencrypted : ¬ (reader.isSecure bulkTopic = true ∧ opts.encryption ≠ .aes256Gcm) := by
    intro h
    have hsome := Option.isSome_iff_ne_none.mpr (hsecure h.left)
    rw [hsome, if_pos rfl] at henc
    exact h.right henc
  exact ⟨_, payload, notifyBulk_frame hopts hpack hsealed, hpayload, rfl,
    processFrame_frame hsep hsender hother hencrypted hframe hunsealed hunpack hpayload⟩

section

omit [ErrorKinds K]

lemma orFail_bind_eq {f : A -> BulkStep K B} (h : forall e, x ≠ .error (.failed e)) :
    orFail r >>= f = x <-> exists a, r = .ok a ∧ f a = x := by
  cases r with
  | ok a => simp [orFail, bind, Except.bind]
  | error e => simpa [orFail, bind, Except.bind] using (h e).symm

lemma endIf_bind_eq (c : Prop) [Decidable c] (f : Unit -> BulkStep K B) :
    endIf c outcome >>= f = x <-> (c ∧ .error outcome = x) ∨ (¬ c ∧ f () = x) := by
  unfold endIf
  split <;> simp_all [bind, Except.bind]

end

/-- A frame with a good header, with these flags and from this sender. -/
def Reader.Passes (reader : Reader K V) (bulkTopic : String) (data : Bytes)
    (flags : Encryption × Compression) (sname : String) : Prop :=
  data.getD 0 0 = 0x00 ∧ data.getD 1 0 = protoVersion ∧
    parseFlags (data.getD 2 0) = (.ok flags : EResult K _) ∧
    ¬ (reader.isSecure bulkTopic = true ∧ flags.1 ≠ .aes256Gcm) ∧ 5 <= data.length ∧
    strFromUtf8 ((splitn 0 3 (data.drop 5)).getD 0 []) = (.ok sname : EResult K _)

lemma frameHead_ok_iff : reader.frameHead bulkTopic data = .ok (flags, sname) <->
    reader.Passes bulkTopic data flags sname := by
  unfold Reader.frameHead Reader.Passes
  simp only [endIf_bind_eq, reduceCtorEq, and_false, false_or, ne_eq, not_not, not_lt,
    not_false_eq_true, implies_true, orFail_bind_eq]
  constructor
  · rintro ⟨_, hfirst, hproto, flags, hflags, hsecure, hlen, sname, hsname, hboth⟩
    cases hboth
    exact ⟨hfirst, hproto, hflags, hsecure, hlen, hsname⟩
  · rintro ⟨hfirst, hproto, hflags, hsecure, hlen, hsname⟩
    exact ⟨by omega, hfirst, hproto, flags, hflags, hsecure, hlen, sname, hsname, rfl⟩

lemma processFrame_secure (hsecure : reader.isSecure bulkTopic = true)
    (hplain : parseFlags (data.getD 2 0) = (.ok (.no, compression) :
      EResult K (Encryption × Compression))) :
    (reader.processFrame crypto packing packEvents bulkTopic data).result ≠ .ok payload := by
  unfold Reader.processFrame
  split
  · nofun
  · next hhead =>
    rcases frameHead_ok_iff.mp hhead with ⟨_, _, hflags, hencrypted, _⟩
    cases hplain.symm.trans hflags
    exact absurd ⟨hsecure, Encryption.noConfusion⟩ hencrypted

def eventNode : ReplicationStateEventExtended V -> String
  | .basic rse => rse.node
  | .inventory node _ => node
  | .basicItem _ event => event.node

omit [ErrorKinds K] in
lemma bulkEvents_node (hintoEvent : forall st name, (reader.intoEvent st name).node = name)
    (h : e ∈ reader.bulkEvents auth systemName data) : eventNode e = systemName := by
  rcases List.mem_map.mp h with ⟨d, _, hd⟩
  rw [← hd]
  cases d with
  | inventory item => rfl
  | state st => exact hintoEvent st.state systemName

/-- A frame that ends before the last byte of the header and is not refused for its header. -/
def Reader.CutOff (reader : Reader K V) (bulkTopic : String) (data : Bytes) : Prop :=
  data.length = 4 ∧ data.getD 0 0 = 0x00 ∧ data.getD 1 0 = protoVersion ∧
    exists flags, parseFlags (data.getD 2 0) = (.ok flags : EResult K _) ∧
      ¬ (reader.isSecure bulkTopic = true ∧ flags.1 ≠ .aes256Gcm)

lemma frameHead_panics_iff : reader.frameHead bulkTopic data = .error .panicked <->
    reader.CutOff bulkTopic data := by
  unfold Reader.frameHead Reader.CutOff
  simp only [endIf_bind_eq, orFail_bind_eq, Except.error.injEq, reduceCtorEq, and_false, false_or,
    ne_eq, not_not, not_lt, not_false_eq_true, implies_true, and_true, pure, Except.pure,
    exists_false, or_false]
  constructor
  · rintro ⟨hlen, hfirst, hproto, flags, hflags, hsecure, hshort⟩
    exact ⟨by omega, hfirst, hproto, flags, hflags, hsecure⟩
  · rintro ⟨hlen, hfirst, hproto, flags, hflags, hsecure⟩
    exact ⟨by omega, hfirst, hproto, flags, hflags, hsecure, by omega⟩

lemma frameEvents_not_panics : reader.frameEvents crypto packing packEvents encryption compression
    sname data ≠ .error .panicked := by
  have hlast : forall r : EResult K Bytes, orFail r ≠ .error .panicked := by
    intro r
    cases r <;> simp [orFail]
  unfold Reader.frameEvents
  simp only [ne_eq, endIf_bind_eq, orFail_bind_eq, Except.error.injEq, reduceCtorEq, and_false,
    false_or, not_false_eq_true, implies_true, hlast, exists_false]

omit [ErrorKinds K] in
lemma admitSender_not_panics (sname : String) :
    (reader.admitSender sname).result ≠ .error .panicked := by
  unfold Reader.admitSender Reader.untouched
  split
  · simp
  · split
    · simp
    · split
      · simp
      · dsimp only
        split
        · simp
        · cases reader.markNode sname <;> simp [orFail]

lemma processFrame_panics_iff (data : Bytes) :
    (reader.processFrame crypto packing packEvents bulkTopic data).result = .error .panicked <->
      reader.CutOff bulkTopic data := by
  rw [← frameHead_panics_iff, Reader.processFrame]
  split
  · next outcome hhead => simp [hhead, Reader.untouched]
  · next hhead =>
    rw [hhead]
    refine iff_of_false (fun h => ?_) nofun
    dsimp only at h
    cases hadmitted : (reader.admitSender _).result with
    | error outcome =>
      rw [hadmitted] at h
      cases h
      exact admitSender_not_panics _ hadmitted
    | ok u =>
      rw [hadmitted] at h
      exact frameEvents_not_panics h

/-- No message makes the reader panic, and no position the reading of a payload, if and only if no
frame is cut off. -/
theorem bulk_frame_panics_iff (topics : Topics) (crypto : Crypto)
    (packing : Packing (List (ReplicationData V)))
    (packEvents : Packing (List (ReplicationStateEventExtended V))) (reader : Reader K V)
    (message : PsMessage) :
    (reader.psProcessBulkState topics crypto packing packEvents message ≠ .error .panicked ∧
      forall (opts : Options) pos, opts.unpackPayload? crypto message.data pos =
        some (opts.unpackPayload crypto message.data pos : EResult K Bytes)) <->
      forall bulkTopic, topicAfter topics.psItemBulkState message.topic = some bulkTopic ->
        ¬ reader.CutOff bulkTopic message.data := by
  rw [and_iff_left fun opts => opts.unpackPayload?_eq crypto message.data,
    Reader.psProcessBulkState, Reader.processBulkState]
  cases htopic : topicAfter topics.psItemBulkState message.topic with
  | none => simp [Reader.untouched]
  | some bulkTopic =>
    simp only [Option.some.injEq, forall_eq']
    have hpanics : (reader.processFrame crypto packing packEvents bulkTopic message.data).result =
      .error .panicked <-> _ := processFrame_panics_iff message.data
    rw [← hpanics]
    cases (reader.processFrame crypto packing packEvents bulkTopic message.data).result with
    | ok | error => simp [Except.map]

/-!
## Rejected frames
-/

/-- The frame of a message passes for one of an enabled node without an API. -/
def Reader.MeetsPassiveNode (topics : Topics) (reader : Reader K V) (message : PsMessage) : Prop :=
  exists bulkTopic flags sname node,
    topicAfter topics.psItemBulkState message.topic = some bulkTopic ∧
    reader.Passes bulkTopic message.data flags sname ∧ reader.nodes sname = some node ∧
    node.enabled = true ∧ node.apiEnabled = false

section

variable (hclock : forall name node, reader.nodes name = some node -> node.lastEvent < reader.now)
include hclock

omit [ErrorKinds K] in
lemma admitSender_untouched_iff :
    (reader.admitSender sname).nodes = reader.nodes ∧ (reader.admitSender sname).announced = [] <->
      ¬ exists node, reader.nodes sname = some node ∧ node.enabled = true ∧
        node.apiEnabled = false := by
  unfold Reader.admitSender Reader.untouched
  cases hnode : reader.nodes sname with
  | none => simp
  | some node =>
    cases henabled : node.enabled with
    | false => simp [henabled]
    | true =>
      cases hapi : node.apiEnabled with
      | true => simp [henabled, hapi]
      | false =>
        refine iff_of_false (fun h => ?_) (not_not.mpr ⟨node, rfl, henabled, hapi⟩)
        have hsame := congrFun h.left sname
        simp only [henabled, hapi, Bool.not_true, Bool.false_eq_true, if_false,
          Function.update_self, hnode, Option.some.injEq] at hsame
        have hlater := hclock sname node hnode
        rw [← hsame] at hlater
        exact absurd hlater (Nat.lt_irrefl _)

lemma processBulkState_untouched_iff :
    ((reader.processBulkState topics crypto packing packEvents message).nodes = reader.nodes ∧
      (reader.processBulkState topics crypto packing packEvents message).announced = []) <->
    ¬ reader.MeetsPassiveNode topics message := by
  unfold Reader.processBulkState Reader.MeetsPassiveNode
  cases topicAfter topics.psItemBulkState message.topic with
  | none => simp [Reader.untouched]
  | some bulkTopic =>
    simp only [Reader.processFrame]
    cases hhead : reader.frameHead bulkTopic message.data with
    | error outcome =>
      simp only [Reader.untouched]
      refine iff_of_true ⟨trivial, trivial⟩ ?_
      rintro ⟨_, flags, sname, node, htopic, hpasses, _⟩
      cases htopic
      cases hhead.symm.trans (frameHead_ok_iff.mpr hpasses)
    | ok head =>
      have hpasses := frameHead_ok_iff.mp hhead
      refine (admitSender_untouched_iff hclock).trans (not_congr ⟨?_, ?_⟩)
      · rintro ⟨node, hnode⟩
        exact ⟨bulkTopic, head.1, head.2, node, rfl, hpasses, hnode⟩
      · rintro ⟨_, flags, sname, node, htopic, hsame, hnode⟩
        cases htopic
        cases hhead.symm.trans (frameHead_ok_iff.mpr hsame)
        exact ⟨node, hnode⟩

end

/-- A rejected frame leaves the nodes as they were and announces none if and only if it is rejected
before the node of its sender is looked up, or that node is unknown, disabled or has an API. -/
theorem rejected_frame_iff (topics : Topics) (crypto : Crypto)
    (packing : Packing (List (ReplicationData V)))
    (packEvents : Packing (List (ReplicationStateEventExtended V))) (reader : Reader K V)
    (message : PsMessage)
    (hclock : forall name node, reader.nodes name = some node -> node.lastEvent < reader.now) :
    let processed := reader.processBulkState topics crypto packing packEvents message
    (forall e, processed.result = .error (.failed e) ->
      processed.nodes = reader.nodes ∧ processed.announced = []) <->
    forall e, processed.result = .error (.failed e) -> ¬ reader.MeetsPassiveNode topics message :=
  forall_congr' fun _ => imp_congr_right fun _ => processBulkState_untouched_iff hclock

/-!
## Sample nodes

There are countably many events, so they can be packed.
-/

instance countableString : Countable String :=
  have hchar : Function.Injective Char.toNat := fun _ _ h => Char.toNat_inj.mp h
  have hstring : Function.Injective String.toList := fun _ _ h => String.toList_injective h
  have : Countable Char := hchar.countable
  hstring.countable

deriving instance Countable for Items.ItemKind, Items.OID, Items.IEID, Items.F64

deriving instance Countable for ReplicationState, ReplicationInventoryItem,
  ReplicationStateEvent, ReplicationStateEventExtended, FullItemState, ReplicationData

noncomputable def countablePacking (A : Type) [Countable A] : Packing A where
  pack a := .ok (List.replicate ((exists_injective_nat A).choose a + 1) 0)
  unpack data :=
    match Function.partialInv (exists_injective_nat A).choose (data.length - 1) with
    | some a => .ok a
    | none => .error "invalid data"

lemma countablePacking_lawful [Countable A] : (countablePacking A).Lawful where
  unpack_pack a := by
    have hinv := Function.partialInv_left (exists_injective_nat A).choose_spec a
    refine ⟨_, rfl, List.cons_ne_nil _ _, ?_⟩
    simp only [countablePacking, List.length_replicate, Nat.add_sub_cancel, hinv]

def Notifier.sample : Notifier (BitVec 16) where
  systemName := "a"
  cfg := { encryptionKey := some "k", compress := true, topic := "t" }
  getKey _ := .ok "secret"
  qos := 1

def Reader.sample : Reader (BitVec 16) (Option Int) where
  systemName := "b"
  secureTopics := some ["t"]
  nodes name :=
    if name = "a" then
      some { enabled := true, apiEnabled := false, online := false, lastEvent := 3 }
    else none
  getKey _ := .ok "secret"
  getAcl _ := .ok {
    checkItemWrite := fun oid => decide ("g/".toList <+: oid.fullId.toList)
    containsAcl := fun id => id == "group" }
  markNode _ := .ok ()
  now := 7
  intoEvent st name := {
    status := st.status
    value := st.value
    act := st.act
    ieid := st.ieid
    t := st.t
    node := name
    forceAccept := false }

/-- The four bytes of a header without its last one. -/
theorem cut_frame_panics : Reader.sample.psProcessBulkState ⟨"BULK/", "RPL/"⟩ Crypto.sample
    (countablePacking _) (countablePacking _) ⟨"BULK/a", [0, 1, 0, 0]⟩ = .error .panicked := by
  rfl

/-- A frame of another protocol changes nothing. -/
theorem other_protocol_changes_nothing : (Reader.sample.processBulkState ⟨"BULK/", "RPL/"⟩
    Crypto.sample (countablePacking _) (countablePacking _)
      ⟨"BULK/t", [0, 2, 2, 0, 0, 97]⟩).nodes = Reader.sample.nodes := by
  refine ((rejected_frame_iff ⟨"BULK/", "RPL/"⟩ Crypto.sample (countablePacking _)
    (countablePacking _) Reader.sample ⟨"BULK/t", [0, 2, 2, 0, 0, 97]⟩ ?_).mpr ?_ _ rfl).left
  · intro name node hnode
    simp only [Reader.sample, Option.ite_none_right_eq_some, Option.some.injEq] at hnode
    rw [← hnode.right]
    decide
  · rintro _ _ ⟨_, _, _, _, _, hpasses, _⟩
    exact absurd hpasses.right.left (by decide)

/-- Anybody can set a known node online, with a frame that has no key id and no payload. -/
theorem forged_frame_marks_online :
    let processed := Reader.sample.processBulkState ⟨"BULK/", "RPL/"⟩ Crypto.sample
      (countablePacking _) (countablePacking _) ⟨"BULK/t", [0, 1, 2, 0, 0, 97]⟩
    (exists e, processed.result = .error (.failed e)) ∧ processed.announced = ["a"] ∧
      (Reader.sample.nodes "a").map (·.online) = some false ∧
      processed.nodes "a" = some ⟨true, false, true, 7⟩ :=
  ⟨⟨_, rfl⟩, rfl, rfl, rfl⟩

end Eva4.Repl
