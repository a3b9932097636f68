import Eva4.Repl.Bulk

/-!
# Traps

The trap controller receives datagrams, either SNMP traps, which start a macro, or traps of the
platform's own format, which update items and start actions.  Datagrams come from anywhere, so a
trap has to pass the checks of the configuration before it has an effect.
-/

namespace Eva4.ControllerTrap

open Lib Psrpc Dialog
open Items (OID ItemStatus)
open Repl (Acl)

variable {K V Net Ip : Type} [ErrorKinds K]

/-!
## Configuration and libraries
-/

def maxTrapSize : Nat := 65000

inductive Proto where
  | snmpV1
  | snmpV2c
  | evaV1
deriving DecidableEq, Repr

structure Config (Net : Type) where
  protocol : Proto
  communities : Option (List String)
  hostsAllow : Option (List Net)
  process : Option OID
  requireAuth : Bool
  mibsEnabled : Bool

/-- The value of a variable of an SNMP trap.  A number is what it can be read as. -/
inductive ObjectSyntax where
  | number (asU64 : Option Nat) (asI64 : Option Int) (asBool : Option Bool) (asStr : Option String)
  | counter32 (n : Nat)
  | gauge32 (n : Nat)
  | uInteger32 (n : Nat)
  | counter64 (n : Nat)
  | string (v : Bytes)
  | other

structure SnmpVar where
  oid : List Nat
  val : ObjectSyntax

structure SnmpMessage where
  community : String
  vars : List SnmpVar

structure Libs (K V Net Ip : Type) where
  contains : Net -> Ip -> Bool
  ipText : Ip -> String
  parseSnmpV1 : Bytes -> Except String SnmpMessage
  parseSnmpV2c : Bytes -> Except String SnmpMessage
  /-- The name of a variable in the MIBs. -/
  getName : List Nat -> Except String String
  idString : List Nat -> String
  u64 : Nat -> V
  i64 : Int -> V
  u32 : Nat -> V
  bool : Bool -> V
  string : String -> V
  toLowercase : String -> String
  parseOid : String -> EResult K OID
  parseStatus : String -> EResult K ItemStatus
  parseValue : String -> EResult K V
  invalidParams : String -> Error K
  accessDenied : OID -> Error K

inductive Failure (K : Type) where
  | error (e : Error K)
  | panic

abbrev Step (K A : Type) : Type :=
  Except (Failure K) A

def orFail {A : Type} : EResult K A -> Step K A
  | .ok a => .ok a
  | .error e => .error (.error e)

/-!
## Calls
-/

structure TrapData (V : Type) where
  trapSource : String
  trapCommunity : String
  trapVars : Table String V

structure Update (V : Type) where
  oid : OID
  status : ItemStatus
  value : Option V

inductive Trap (V : Type) where
  | update (data : Update V)
  | unitAction (oid : OID) (value : V)
  | unitActionToggle (oid : OID)

def Trap.oid : Trap V -> OID
  | update data => data.oid
  | unitAction oid _ => oid
  | unitActionToggle oid => oid

inductive Call (V : Type) where
  | recvFrom
  /-- The value of a key, which is cached as options made of it. -/
  | getKey (keyId : String)
  | getAcl (keyId : String)
  /-- Publishes a state or calls the core for an action. -/
  | process (trap : Trap V)
  | runMacro (i : OID) (kwargs : TrapData V)

def Call.Answer (K Ip : Type) : Call V -> Type
  | recvFrom => EResult K (Ip × Bytes)
  | getKey _ => EResult K String
  | getAcl _ => EResult K Acl
  | process _ => EResult K Unit
  | runMacro _ _ => EResult K Unit

abbrev Io (K V Ip R : Type) : Type :=
  Dialog (Call V) (Call.Answer K Ip) (Failure K) R

/-!
## SNMP traps
-/

section Handlers

variable (libs : Libs K V Net Ip) (crypto : Crypto) (config : Config Net)

def canProcess (ip : Ip) : Bool :=
  match config.hostsAllow with
  | some ha => ha.any fun h => libs.contains h ip
  | none => true

variable (data : Bytes)

/-- The buffer has its full size, whatever was received. -/
def snmpBuf : Bytes :=
  let received := data.take maxTrapSize
  received ++ List.replicate (maxTrapSize - received.length) 0

def parseSnmp : Option (Except String SnmpMessage) :=
  match config.protocol with
  | .snmpV1 => some (libs.parseSnmpV1 (snmpBuf data))
  | .snmpV2c => some (libs.parseSnmpV2c (snmpBuf data))
  | .evaV1 => none

def varName (oid : List Nat) : String :=
  if config.mibsEnabled then
    match libs.getName oid with
    | .ok name => name
    | .error _ => libs.idString oid
  else libs.idString oid

def varValue : ObjectSyntax -> Option V
  | .number (some n) _ _ _ => some (libs.u64 n)
  | .number none (some n) _ _ => some (libs.i64 n)
  | .number none none (some b) _ => some (libs.bool b)
  | .number none none none (some s) => some (libs.string s)
  | .number none none none none => none
  | .counter32 n => some (libs.u32 n)
  | .gauge32 n => some (libs.u32 n)
  | .uInteger32 n => some (libs.u32 n)
  | .counter64 n => some (libs.u64 n)
  | .string v => (fromUtf8 v).map libs.string
  | .other => none

def trapVars (vars : List SnmpVar) : Table String V :=
  vars.foldl (fun table var =>
    match varValue libs var.val with
    | some v => table.insert (varName libs config var.oid) v
    | none => table) ∅

def processSnmp (ip : Ip) (msg : SnmpMessage) : Io K V Ip Unit :=
  -- a community that is not in the list is reported, and the trap is processed all the same
  let vars := trapVars libs config msg.vars
  if vars.keys = [] then pure ()
  else
    match config.process with
    | some process => do
      let _ <- Dialog.request (Call.runMacro process {
        trapSource := libs.ipText ip
        trapCommunity := msg.community
        trapVars := vars })
      pure ()
    | none => pure ()

def handleSnmp (ip : Ip) (data : Bytes) : Io K V Ip Unit :=
  if canProcess libs config ip then
    match parseSnmp libs config data with
    | some (.ok msg) => processSnmp libs config ip msg
    | _ => pure ()
  else pure ()

/-!
## Native traps
-/

structure Header where
  compression : Compression
  senderBuf : Bytes
  keyIdBuf : Bytes
  keyId : String

def parseHeader : Step K Header :=
  if data.length < 4 then .error (.error (.invalidData "invalid frame"))
  else if data.getD 1 0 ≠ protoVersion then .error (.error (.invalidData "unsupported proto"))
  else do
    let (encryption, compression) <- orFail (parseFlags (data.getD 2 0))
    if encryption = .no then .error (.error (.access "encryption is required"))
    -- the slice behind the header is out of range
    else if data.length < 5 then .error .panic
    else do
      let fields := splitn 0 3 (data.drop 5)
      let senderBuf := fields.getD 0 []
      let _senderName <- orFail (strFromUtf8 senderBuf)
      let keyIdBuf <- orFail (fieldOr "frame is missing key id" fields[1]?)
      let _payload <- orFail (fieldOr "frame is missing payload" fields[2]?)
      let keyId <- orFail (strFromUtf8 keyIdBuf)
      .ok { compression := compression, senderBuf := senderBuf, keyIdBuf := keyIdBuf,
            keyId := keyId }

def unpackFrame (header : Header) (opts : Options) : EResult K Bytes :=
  (opts.withCompression header.compression).unpackPayload crypto data
    (header.keyIdBuf.length + header.senderBuf.length + 7)

def encOpts (keyId keyValue : String) : Options :=
  Options.new.withEncryption crypto .aes256Gcm { id := keyId, value := keyValue }

def getEncOpts (keyId : String) : Io K V Ip Options := do
  let answer : EResult K String <- Dialog.request (Call.getKey keyId)
  let keyValue : String <- (orFail answer : Step K String)
  pure (encOpts crypto keyId keyValue)

def getAcl (keyId : String) : Io K V Ip Acl := do
  let answer : EResult K Acl <- Dialog.request (Call.getAcl keyId)
  (orFail answer : Step K Acl)

def openFrame : Io K V Ip (Bytes × Option Acl) := do
  let header : Header <- (parseHeader data : Step K Header)
  let opts <- getEncOpts crypto header.keyId
  let acl <- getAcl header.keyId
  let payload : Bytes <- (orFail (unpackFrame crypto data header opts) : Step K Bytes)
  pure (payload, some acl)

def frameData (requireAuth : Bool) : Io K V Ip (Bytes × Option Acl) :=
  match data with
  | [] => .fail .panic
  | first :: _ =>
    if first = 0x00 then openFrame crypto data
    else if requireAuth then .fail (.error (.access "encryption is required"))
    else pure (data, none)

variable (acl : Option Acl)

def requireItemWrite (oid : OID) : EResult K Unit :=
  match acl with
  | some acl => if acl.checkItemWrite oid then .ok () else .error (libs.accessDenied oid)
  | none => .ok ()

def orMissing {A : Type} (message : String) : Option A -> EResult K A
  | some a => .ok a
  | none => .error (.invalidData message)

def parseUpdate (args : List String) : Step K (Trap V) := do
  let oidStr <- orFail (orMissing "trap OID missing" args[0]?)
  let oid <- orFail (libs.parseOid oidStr)
  let statusStr <- orFail (orMissing "update trap status missing" args[1]?)
  orFail (requireItemWrite libs acl oid)
  let status <- orFail (libs.parseStatus statusStr)
  match args[2]? with
  | none => .ok (.update { oid := oid, status := status, value := none })
  | some v =>
    match libs.parseValue v with
    | .ok value => .ok (.update { oid := oid, status := status, value := some value })
    | .error _ => .error .panic

def actionTrap (oid : OID) (actionType : String) (args : List String) : EResult K (Trap V) :=
  if actionType = "t" ∨ actionType = "toggle" then .ok (.unitActionToggle oid)
  else if actionType = "x" ∨ actionType = "exec" ∨ actionType = "1" then do
    let valueStr <- orMissing "action trap value missing" args[2]?
    let value <- libs.parseValue valueStr
    .ok (.unitAction oid value)
  else .error (libs.invalidParams s!"invalid action type: {actionType}")

def parseAction (args : List String) : Step K (Trap V) := do
  let oidStr <- orFail (orMissing "trap OID missing" args[0]?)
  let oid <- orFail (libs.parseOid oidStr)
  let actionType <- orFail (orMissing "action trap type missing" args[1]?)
  orFail (requireItemWrite libs acl oid)
  orFail (actionTrap libs oid actionType args)

/-- A line that is empty or has another command is skipped. -/
def parseLine (line : Bytes) : Step K (Option (Trap V)) := do
  let lineStr <- orFail (strFromUtf8 line)
  if lineStr = "" then .ok none
  else
    let parts := (lineStr.toList.splitOn ' ').map String.ofList
    let command := libs.toLowercase (parts.headD "")
    let args := parts.tail
    if command = "u" ∨ command = "update" then (parseUpdate libs acl args).map some
    else if command = "a" ∨ command = "action" then (parseAction libs acl args).map some
    else .ok none

def parseLines (acl : Option Acl) : List Bytes -> Step K (List (Trap V))
  | [] => .ok []
  | line :: lines => do
    let trap <- parseLine libs acl line
    let traps <- parseLines acl lines
    .ok (trap.toList ++ traps)

def trapLines (payload : Bytes) : List Bytes :=
  payload.splitOn 10

def parseNativeTrap (requireAuth : Bool) : Io K V Ip (List (Trap V)) := do
  let frame <- frameData crypto data requireAuth
  (parseLines libs frame.2 (trapLines frame.1) : Step K (List (Trap V)))

/-- Failed publications and actions are logged. -/
def processTraps : List (Trap V) -> Io K V Ip Unit
  | [] => pure ()
  | trap :: traps => do
    let _ <- Dialog.request (Call.process trap)
    processTraps traps

def handleNative (ip : Ip) (data : Bytes) : Io K V Ip Unit :=
  if canProcess libs config ip then
    match config.protocol with
    | .evaV1 => do
      match <- (parseNativeTrap libs crypto (data.take maxTrapSize) config.requireAuth).attempt with
      | .ok traps => processTraps traps
      | .error (.error _) => pure ()
      | .error .panic => .fail .panic
    | _ => pure ()
  else pure ()

def handle (ip : Ip) (data : Bytes) : Io K V Ip Unit :=
  match config.protocol with
  | .evaV1 => handleNative libs crypto config ip data
  | _ => handleSnmp libs config ip data

/-- The handlers are started again when receiving fails. -/
def launchHandler : Nat -> Io K V Ip Unit
  | 0 => pure ()
  | n + 1 => do
    let answer : EResult K (Ip × Bytes) <- Dialog.request Call.recvFrom
    match answer with
    | .ok (ip, data) => do
      handle libs crypto config ip data
      launchHandler n
    | .error _ => launchHandler n

end Handlers

/-!
## Lines
-/

section Lines

variable {libs : Libs K V Net Ip}

omit [ErrorKinds K] in
lemma orFail_ok (h : orFail x = .ok a) : x = .ok a := by
  cases x with
  | ok b => exact congrArg Except.ok (Except.ok.inj h)
  | error e => cases h

variable {acl : Acl} {r : Option (Trap V)} {trap : Trap V}

omit [ErrorKinds K] in
lemma requireItemWrite_ok (h : requireItemWrite libs (some acl) oid = .ok ()) :
    acl.checkItemWrite oid = true := by
  by_contra hwrite
  rw [requireItemWrite, if_neg hwrite] at h
  cases h

/-- With rights a line means what it means without them, and writes what they allow. -/
def Permitted (acl : Acl) (plain : Step K (Trap V)) (trap : Trap V) : Prop :=
  plain = .ok trap ∧ acl.checkItemWrite trap.oid = true

lemma parseUpdate_permitted (h : parseUpdate libs (some acl) args = .ok trap) :
    Permitted acl (parseUpdate libs none args) trap := by
  rcases exists_of_bind_ok h with ⟨oidStr, hoidStr, h⟩
  rcases exists_of_bind_ok h with ⟨oid, hoid, h⟩
  rcases exists_of_bind_ok h with ⟨statusStr, hstatusStr, h⟩
  rcases exists_of_bind_ok h with ⟨_, hwrite, h⟩
  have hplain : parseUpdate libs none args = .ok trap := by
    unfold parseUpdate
    rw [hoidStr]
    change (orFail (libs.parseOid oidStr) >>= _) = _
    rw [hoid]
    rw [hstatusStr]
    exact h
  refine ⟨hplain, ?_⟩
  have htrap : trap.oid = oid := by
    rcases exists_of_bind_ok h with ⟨status, _, h⟩
    cases hvalue : args[2]? with
    | none =>
      rw [hvalue] at h
      cases h
      rfl
    | some v =>
      rw [hvalue] at h
      cases hparsed : libs.parseValue v with
      | error e =>
        simp only [hparsed] at h
        cases h
      | ok value =>
        simp only [hparsed] at h
        cases h
        rfl
  rw [htrap]
  exact requireItemWrite_ok (orFail_ok hwrite)

lemma actionTrap_oid (h : actionTrap libs oid actionType args = .ok trap) : trap.oid = oid := by
  unfold actionTrap at h
  split at h
  · cases h
    rfl
  · split at h
    · rcases exists_of_bind_ok h with ⟨valueStr, _, h⟩
      rcases exists_of_bind_ok h with ⟨value, _, h⟩
      cases h
      rfl
    · cases h

lemma parseAction_permitted (h : parseAction libs (some acl) args = .ok trap) :
    Permitted acl (parseAction libs none args) trap := by
  rcases exists_of_bind_ok h with ⟨oidStr, hoidStr, h⟩
  rcases exists_of_bind_ok h with ⟨oid, hoid, h⟩
  rcases exists_of_bind_ok h with ⟨actionType, hactionType, h⟩
  rcases exists_of_bind_ok h with ⟨_, hwrite, h⟩
  have hplain : parseAction libs none args = .ok trap := by
    unfold parseAction
    rw [hoidStr]
    change (orFail (libs.parseOid oidStr) >>= _) = _
    rw [hoid]
    rw [hactionType]
    exact h
  refine ⟨hplain, ?_⟩
  rw [actionTrap_oid (orFail_ok h)]
  exact requireItemWrite_ok (orFail_ok hwrite)

omit [ErrorKinds K] in
lemma permitted_of_map {checked plain : Step K (Trap V)}
    (h : forall trap, checked = .ok trap -> Permitted acl plain trap)
    (hr : checked.map some = .ok r) :
    plain.map some = .ok r ∧ forall trap, r = some trap -> acl.checkItemWrite trap.oid = true := by
  cases checked with
  | error e => cases hr
  | ok checked =>
    rcases h checked rfl with ⟨hplain, hwrite⟩
    refine ⟨by rw [hplain]; exact hr, ?_⟩
    intro trap htrap
    have hsome : some checked = r := Except.ok.inj hr
    rw [htrap] at hsome
    cases hsome
    exact hwrite

variable (libs) in
/-- The line is accepted, as far as its form goes. -/
def ValidLine (line : Bytes) : Prop :=
  exists r, parseLine libs none line = .ok r

variable (libs) in
def AllowedLine (acl : Option Acl) (line : Bytes) : Prop :=
  forall a trap, acl = some a -> parseLine libs none line = .ok (some trap) ->
    a.checkItemWrite trap.oid = true

lemma parseLine_permitted {line : Bytes} (h : parseLine libs (some acl) line = .ok r) :
    parseLine libs none line = .ok r ∧
      forall trap, r = some trap -> acl.checkItemWrite trap.oid = true := by
  rcases exists_of_bind_ok h with ⟨lineStr, hlineStr, h⟩
  unfold parseLine
  rw [hlineStr]
  change (if lineStr = "" then _ else _) = _ ∧ _
  by_cases hempty : lineStr = ""
  · rw [if_pos hempty] at h ⊢
    exact ⟨h, fun trap htrap => by rw [htrap] at h; cases h⟩
  · rw [if_neg hempty] at h ⊢
    dsimp only at h ⊢
    split at h
    · next hupdate =>
      rw [if_pos hupdate]
      exact permitted_of_map (fun trap ht => parseUpdate_permitted ht) h
    · next hupdate =>
      rw [if_neg hupdate]
      split at h
      · next haction =>
        rw [if_pos haction]
        exact permitted_of_map (fun trap ht => parseAction_permitted ht) h
      · next haction =>
        rw [if_neg haction]
        exact ⟨h, fun trap htrap => by rw [htrap] at h; cases h⟩

theorem parseLine_ok {acl : Option Acl} (h : parseLine libs acl line = .ok r) :
    parseLine libs none line = .ok r ∧ AllowedLine libs acl line := by
  cases acl with
  | none => exact ⟨h, nofun⟩
  | some acl =>
    rcases parseLine_permitted h with ⟨hplain, hwrite⟩
    refine ⟨hplain, ?_⟩
    intro a trap ha htrap
    rw [hplain] at htrap
    cases ha
    exact hwrite trap (Except.ok.inj htrap)

theorem parseLines_ok {acl : Option Acl} (h : parseLines libs acl lines = .ok traps) :
    (forall line, line ∈ lines -> ValidLine libs line ∧ AllowedLine libs acl line) ∧
      forall trap, trap ∈ traps -> exists line, line ∈ lines ∧
        parseLine libs none line = .ok (some trap) := by
  induction lines generalizing traps with
  | nil =>
    have htraps : [] = traps := Except.ok.inj h
    rw [← htraps]
    exact ⟨nofun, nofun⟩
  | cons line lines ih =>
    rcases exists_of_bind_ok h with ⟨first, hfirst, h⟩
    rcases exists_of_bind_ok h with ⟨rest, hrest, h⟩
    rcases parseLine_ok hfirst with ⟨hplain, hallowed⟩
    rcases ih hrest with ⟨hlines, htraps⟩
    cases h
    constructor
    · exact List.forall_mem_cons.mpr ⟨⟨⟨first, hplain⟩, hallowed⟩, hlines⟩
    · intro trap htrap
      rcases List.mem_append.mp htrap with hmem | hmem
      · rw [Option.mem_toList] at hmem
        rw [Option.mem_def.mp hmem] at hplain
        exact ⟨line, List.mem_cons_self, hplain⟩
      · rcases htraps trap hmem with ⟨source, hsource, hparsed⟩
        exact ⟨source, List.mem_cons_of_mem line hsource, hparsed⟩

end Lines

/-!
## Who may have an effect
-/

structure Learned (Ip : Type) where
  datagram : Option (Ip × Bytes)
  key : Option (String × String)
  acl : Option (String × Acl)

def Learned.received (ip : Ip) (data : Bytes) : Learned Ip where
  datagram := some (ip, data)
  key := none
  acl := none

def Learned.next (s : Learned Ip) : (call : Call V) -> call.Answer K Ip -> Learned Ip
  | .recvFrom => fun answer : EResult K (Ip × Bytes) =>
    { datagram := answer.toOption, key := none, acl := none }
  | .getKey keyId => fun answer : EResult K String =>
    { s with key := answer.toOption.map fun value => (keyId, value) }
  | .getAcl keyId => fun answer : EResult K Acl =>
    { s with acl := answer.toOption.map fun acl => (keyId, acl) }
  | .process _ => fun _ => s
  | .runMacro _ _ => fun _ => s

section Rules

variable (libs : Libs K V Net Ip) (crypto : Crypto) (config : Config Net)

variable (K) in
/-- The lines of a datagram: decrypted with the key that the frame names, of which also the
rights are, or the datagram as it is if no authentication is required. -/
inductive Origin (s : Learned Ip) (data : Bytes) : Bytes -> Option Acl -> Prop where
  | decrypted {header : Header} {value : String} {acl : Acl} {payload : Bytes} :
      data.head? = some 0 -> (parseHeader data : Step K Header) = .ok header ->
      s.key = some (header.keyId, value) -> s.acl = some (header.keyId, acl) ->
      (unpackFrame crypto data header (encOpts crypto header.keyId value) : EResult K Bytes) =
        .ok payload ->
      Origin s data payload (some acl)
  | plain : config.requireAuth = false -> Origin s data data none

/-- A native trap has an effect only if its sender is allowed, all lines of its batch are valid,
and the rights allow all of them. -/
def MayProcess (s : Learned Ip) (trap : Trap V) : Prop :=
  exists ip data payload acl, s.datagram = some (ip, data) ∧ canProcess libs config ip = true ∧
    Origin K crypto config s (data.take maxTrapSize) payload acl ∧
    (forall line, line ∈ trapLines payload -> ValidLine libs line ∧ AllowedLine libs acl line) ∧
    exists line, line ∈ trapLines payload ∧ parseLine libs none line = .ok (some trap)

/-- An SNMP trap runs the macro only if its sender and its community are allowed. -/
def MayRun (s : Learned Ip) : Prop :=
  exists ip data msg, s.datagram = some (ip, data) ∧ canProcess libs config ip = true ∧
    parseSnmp libs config data = some (.ok msg) ∧
    forall communities, config.communities = some communities -> msg.community ∈ communities

def trapRules (Admits : Ip -> Bytes -> Prop) :
    Dialog.Rules (Call V) (Call.Answer K Ip) (Learned Ip) where
  answers := fun call =>
    match call with
    | .recvFrom => fun answer : EResult K (Ip × Bytes) =>
      forall ip data, answer = .ok (ip, data) -> Admits ip data
    | _ => fun _ => True
  allowed := fun s call =>
    match call with
    | .process trap => MayProcess libs crypto config s trap
    | .runMacro _ _ => MayRun libs config s
    | _ => True
  next := Learned.next

/-- A datagram has no effect that its sender is not allowed to have. -/
def Authorised (ip : Ip) (data : Bytes) : Prop :=
  (handle libs crypto config ip data).Follows
    (trapRules libs crypto config fun _ _ => True) (fun _ _ => True) (Learned.received ip data)

/-- An SNMP trap of an allowed host with a community that is not in the list, with variables,
and there is a macro to run. -/
def WrongCommunity (ip : Ip) (data : Bytes) : Prop :=
  canProcess libs config ip = true ∧ config.process ≠ none ∧
    exists msg communities, parseSnmp libs config data = some (.ok msg) ∧
      config.communities = some communities ∧ msg.community ∉ communities ∧
      (trapVars libs config msg.vars).keys ≠ []

end Rules

section Native

variable {libs : Libs K V Net Ip}

lemma openFrame_follows (hfirst : data.head? = some 0) :
    (openFrame crypto data).Follows (trapRules libs crypto config Admits)
      (fun s' r => s'.datagram = s.datagram ∧ forall payload acl, r = .ok (payload, acl) ->
        Origin K crypto config s' data payload acl) s := by
  change Follows _ _ (lift (parseHeader data) >>= _) s
  cases hheader : (parseHeader data : Step K Header) with
  | error e => exact ⟨rfl, nofun⟩
  | ok header =>
    refine ⟨trivial, ?_⟩
    intro key _
    cases key with
    | error e => exact ⟨rfl, nofun⟩
    | ok value =>
      refine ⟨trivial, ?_⟩
      intro acl _
      cases acl with
      | error e => exact ⟨rfl, nofun⟩
      | ok acl =>
        cases hpayload : (unpackFrame crypto data header
            (encOpts crypto header.keyId value) : EResult K Bytes) with
        | error e => exact ⟨rfl, nofun⟩
        | ok payload =>
          refine ⟨rfl, ?_⟩
          intro payload' acl' h
          have hpair := Except.ok.inj h
          injection hpair with hp ha
          rw [← hp, ← ha]
          exact Origin.decrypted hfirst hheader rfl rfl hpayload

lemma frameData_follows :
    (frameData crypto data config.requireAuth).Follows (trapRules libs crypto config Admits)
      (fun s' r => s'.datagram = s.datagram ∧ forall payload acl, r = .ok (payload, acl) ->
        Origin K crypto config s' data payload acl) s := by
  cases data with
  | nil => exact ⟨rfl, nofun⟩
  | cons first rest =>
    unfold frameData
    dsimp only
    by_cases hfirst : first = 0
    · rw [if_pos hfirst]
      exact openFrame_follows (by rw [hfirst]; rfl)
    · rw [if_neg hfirst]
      cases hauth : config.requireAuth with
      | true => exact ⟨rfl, nofun⟩
      | false =>
        refine ⟨rfl, ?_⟩
        intro payload acl h
        have hpair := Except.ok.inj h
        injection hpair with hp ha
        rw [← hp, ← ha]
        exact Origin.plain hauth

lemma parseNativeTrap_follows {ip : Ip} (hs : s.datagram = some (ip, data))
    (hip : canProcess libs config ip = true) :
    (parseNativeTrap libs crypto (data.take maxTrapSize) config.requireAuth).Follows
      (trapRules libs crypto config Admits) (fun s' r => forall traps, r = .ok traps ->
        forall trap, trap ∈ traps -> MayProcess libs crypto config s' trap) s := by
  refine Follows.bind frameData_follows ?_ ?_
  · intro s' frame hframe
    rcases hframe with ⟨hdatagram, horigin⟩
    apply Follows.lift
    intro traps htraps trap htrap
    rcases parseLines_ok htraps with ⟨hlines, hsources⟩
    exact ⟨ip, data, frame.1, frame.2, hdatagram.trans hs, hip, horigin _ _ rfl, hlines,
      hsources trap htrap⟩
  · intro s' e _
    exact nofun

lemma processTraps_follows (h : forall trap, trap ∈ traps -> MayProcess libs crypto config s trap) :
    (processTraps traps).Follows (trapRules libs crypto config Admits) (fun _ _ => True) s := by
  induction traps with
  | nil => trivial
  | cons trap traps ih =>
    rcases List.forall_mem_cons.mp h with ⟨htrap, hrest⟩
    exact ⟨htrap, fun _ _ => ih hrest⟩

lemma handleNative_follows (hs : s.datagram = some (ip, data)) :
    (handleNative libs crypto config ip data).Follows (trapRules libs crypto config Admits)
      (fun _ _ => True) s := by
  unfold handleNative
  cases hip : canProcess libs config ip with
  | false => trivial
  | true =>
    cases config.protocol with
    | snmpV1 | snmpV2c => trivial
    | evaV1 =>
      refine Follows.bind
        (P := fun s' r => forall result, r = .ok result -> forall traps, result = .ok traps ->
          forall trap, trap ∈ traps -> MayProcess libs crypto config s' trap)
        (Follows.attempt (Follows.mono (parseNativeTrap_follows hs hip) ?_))
        ?_ fun _ _ _ => trivial
      · intro s' r h result hresult
        cases hresult
        exact h
      · intro s' result h
        cases result with
        | ok traps => exact processTraps_follows (h _ rfl traps rfl)
        | error failure =>
          cases failure with
          | error | panic => trivial

end Native

section Snmp

variable {libs : Libs K V Net Ip} {crypto : Crypto} {s : Learned Ip}

section

omit [ErrorKinds K]

lemma mayRun_iff (hs : s.datagram = some (ip, data)) (hip : canProcess libs config ip = true)
    (hmsg : parseSnmp libs config data = some (.ok msg)) : MayRun libs config s <->
      forall communities, config.communities = some communities -> msg.community ∈ communities := by
  constructor
  · intro h
    rcases h with ⟨ip', data', msg', hs', _, hmsg', hcommunity⟩
    rw [hs] at hs'
    injection hs' with hpair
    injection hpair with _ hdata
    rw [← hdata, hmsg] at hmsg'
    rw [Except.ok.inj (Option.some.inj hmsg')]
    exact hcommunity
  · intro h
    exact ⟨ip, data, msg, hs, hip, hmsg, h⟩

lemma wrongCommunity_iff (hip : canProcess libs config ip = true)
    (hmsg : parseSnmp libs config data = some (.ok msg)) : WrongCommunity libs config ip data <->
      config.process ≠ none ∧ (trapVars libs config msg.vars).keys ≠ [] ∧
        exists communities, config.communities = some communities ∧
          msg.community ∉ communities := by
  constructor
  · intro h
    rcases h with ⟨_, hprocess, msg', communities, hmsg', hcommunities, hcommunity, hvars⟩
    rw [hmsg] at hmsg'
    rw [← Except.ok.inj (Option.some.inj hmsg')] at hcommunity hvars
    exact ⟨hprocess, hvars, communities, hcommunities, hcommunity⟩
  · intro h
    rcases h with ⟨hprocess, hvars, communities, hcommunities, hcommunity⟩
    exact ⟨hip, hprocess, msg, communities, hmsg, hcommunities, hcommunity, hvars⟩

end

/-- The macro is run for every message with variables, so all depends on the community. -/
theorem processSnmp_follows_iff (hs : s.datagram = some (ip, data))
    (hip : canProcess libs config ip = true) (hmsg : parseSnmp libs config data = some (.ok msg)) :
    (processSnmp libs config ip msg).Follows (trapRules libs crypto config Admits)
      (fun _ _ => True) s <-> ¬ WrongCommunity libs config ip data := by
  rw [wrongCommunity_iff hip hmsg]
  unfold processSnmp
  by_cases hvars : (trapVars libs config msg.vars).keys = []
  · rw [if_pos hvars]
    exact iff_of_true trivial fun h => h.right.left hvars
  · rw [if_neg hvars]
    cases hprocess : config.process with
    | none => exact iff_of_true trivial fun h => h.left rfl
    | some process =>
      constructor
      · intro h hwrong
        rcases hwrong with ⟨_, _, communities, hcommunities, hcommunity⟩
        exact hcommunity ((mayRun_iff hs hip hmsg).mp h.left communities hcommunities)
      · intro h
        refine ⟨(mayRun_iff hs hip hmsg).mpr ?_, fun _ _ => trivial⟩
        intro communities hcommunities
        by_contra hcommunity
        exact h ⟨Option.some_ne_none process, hvars, communities, hcommunities, hcommunity⟩

lemma handleSnmp_follows_iff (hs : s.datagram = some (ip, data)) :
    (handleSnmp libs config ip data).Follows (trapRules libs crypto config Admits)
      (fun _ _ => True) s <-> ¬ WrongCommunity libs config ip data := by
  unfold handleSnmp
  cases hip : canProcess libs config ip with
  | false => exact iff_of_true trivial fun h => by rw [h.left] at hip; cases hip
  | true =>
    cases hparsed : parseSnmp libs config data with
    | none =>
      refine iff_of_true trivial fun h => ?_
      rcases h with ⟨_, _, msg, _, hmsg, _⟩
      rw [hparsed] at hmsg
      cases hmsg
    | some parsed =>
      cases parsed with
      | ok msg => exact processSnmp_follows_iff hs hip hparsed
      | error e =>
        refine iff_of_true trivial fun h => ?_
        rcases h with ⟨_, _, msg, _, hmsg, _⟩
        rw [hparsed] at hmsg
        cases hmsg

end Snmp

/-!
## Every datagram
-/

section Datagrams

variable {libs : Libs K V Net Ip} {crypto : Crypto} {config : Config Net}

lemma handle_follows_iff (hs : s.datagram = some (ip, data)) :
    (handle libs crypto config ip data).Follows (trapRules libs crypto config Admits)
      (fun _ _ => True) s <-> ¬ WrongCommunity libs config ip data := by
  cases hproto : config.protocol with
  | evaV1 =>
    have hhandle : handle libs crypto config ip data = handleNative libs crypto config ip data := by
      simp only [handle, hproto]
    rw [hhandle]
    refine iff_of_true (handleNative_follows hs) fun h => ?_
    rcases h with ⟨_, _, msg, _, hmsg, _⟩
    simp only [parseSnmp, hproto] at hmsg
    cases hmsg
  | snmpV1 | snmpV2c =>
    have hhandle : handle libs crypto config ip data = handleSnmp libs config ip data := by
      simp only [handle, hproto]
    rw [hhandle]
    exact handleSnmp_follows_iff hs

/-- A datagram has only the effects its sender may have, unless it is an SNMP trap with a
community that is not in the list. -/
theorem trap_authorised_iff (ip : Ip) (data : Bytes) :
    Authorised libs crypto config ip data <-> ¬ WrongCommunity libs config ip data :=
  handle_follows_iff rfl

end Datagrams

namespace Sample

def trapBytes : Bytes :=
  [0x30, 0x22, 0x02, 0x01, 0x01, 0x04, 0x06, 0x70, 0x75, 0x62, 0x6c, 0x69, 0x63, 0xa7, 0x15, 0x02,
    0x01, 0x01, 0x02, 0x01, 0x00, 0x02, 0x01, 0x00, 0x30, 0x0a, 0x30, 0x08, 0x06, 0x03, 0x2b, 0x06,
    0x01, 0x41, 0x01, 0x07]

def message : SnmpMessage where
  community := "public"
  vars := [{ oid := [1, 3, 6, 1], val := .counter32 7 }]

/-- All hosts are in the network, and one trap can be read from a buffer. -/
def libs : Libs (BitVec 16) String Unit Unit where
  contains := fun _ _ => true
  ipText := fun _ => "192.0.2.1"
  parseSnmpV1 := fun _ => .error "not a message of version 1"
  parseSnmpV2c := fun data =>
    if trapBytes <+: data then .ok message else .error "not a message of version 2c"
  getName := fun _ => .error "no such name"
  idString := fun _ => "1.3.6.1"
  u64 := toString
  i64 := toString
  u32 := toString
  bool := toString
  string := id
  toLowercase := id
  parseOid := fun s => .ok { kind := .unit, fullId := s }
  parseStatus := fun _ => .ok 1
  parseValue := .ok
  invalidParams := fun message => .invalidData message
  accessDenied := fun _ => .access "access denied"

def config : Config Unit where
  protocol := .snmpV2c
  communities := some ["private"]
  hostsAllow := some [()]
  process := some { kind := .lMacro, fullId := "trap" }
  requireAuth := true
  mibsEnabled := false

end Sample

/-- Only the community private is allowed, and a trap with the community public runs the macro. -/
theorem wrong_community_runs_macro :
    ¬ Authorised Sample.libs Crypto.sample Sample.config () Sample.trapBytes := by
  intro h
  apply (handle_follows_iff rfl).mp h
  have hpublic : "public" ∉ ["private"] := by decide
  have hmessage : parseSnmp Sample.libs Sample.config Sample.trapBytes =
      some (.ok Sample.message) := by
    have hread : Sample.trapBytes <+: snmpBuf Sample.trapBytes := List.prefix_append _ _
    simp [parseSnmp, Sample.libs, Sample.config, hread]
  exact ⟨rfl, nofun, Sample.message, _, hmessage, rfl, hpublic, nofun⟩

section Datagrams

variable {libs : Libs K V Net Ip} {crypto : Crypto} {config : Config Net}

/-- The controller goes on with one datagram after another, and what was got for one is not used
for the next. -/
theorem launchHandler_follows (n : Nat) (s : Learned Ip) :
    (launchHandler libs crypto config n).Follows
      (trapRules libs crypto config fun ip data => ¬ WrongCommunity libs config ip data)
      (fun _ _ => True) s := by
  induction n generalizing s with
  | zero => trivial
  | succ n ih =>
    refine ⟨trivial, ?_⟩
    intro answer hanswer
    cases answer with
    | error e => exact ih _
    | ok datagram =>
      rcases datagram with ⟨ip, data⟩
      change Follows _ _ (handle libs crypto config ip data >>= _) (Learned.received ip data)
      refine Follows.bind ((handle_follows_iff rfl).mpr (hanswer ip data rfl)) ?_
        fun _ _ _ => trivial
      intro s' _ _
      exact ih s'

end Datagrams

end Eva4.ControllerTrap
