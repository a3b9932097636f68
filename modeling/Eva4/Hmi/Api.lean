import Eva4.Hmi.Session

/-!
# API methods

Every method is a dialog: it reads its parameters, logs the request, checks that the session may
do what it asks for, and then calls the core, a service, the database or the file system.
-/

namespace Eva4
variable (config : HmiConfig)

namespace Hmi

open Lib
open Items

variable {V : Type} [Values V]

inductive Response (V : Type) where
  | value (v : V)
  | ok
  | auth (token : Token)
  | neighbors (tokens : List Token)
  | test (info : V) (acl : Acl) (hmiSvcId : Option String)
  | itemAccess (access : List (OID × Bool × Bool))
  | historicalStates (data : CompactStateHistory V)
  | dataframe (times : List Rat) (columns : List (OIDMask × String × List V))
  | actionResult (result : V)
  | app (url : String)
  | userData (value : V)
  | services (ids : List String)
  | databases (ids : List (String × Bool))
  | content (text : String)
  | entries (paths : List String)
  | dataObject (object : DataObject V)
  | code (text : String)

def decode (schema : Schema) (params : V) : EResult (schema.Params V) :=
  Values.decode schema params

def invalidParams (message : String) : Error where
  kind := .invalidParams
  message := message

def invalidData (message : String) : Error where
  kind := .invalidData
  message := message

def errNoUser : Error :=
  accessError "not authenticated with login/password"

def log (level : LogLevel) : Api V Unit :=
  tell (.logRequest level)

variable (params : V) (aci : ACI)

def demoModeAbort : EResult Unit :=
  if config.demoMode then .error { kind := .unsupported, message := "disabled in demo mode" }
  else .ok ()

def ACI.require (allowed : Bool) (what : String) : EResult Unit :=
  if allowed then .ok () else .error (aci.auth.acl.denied what)

def requireItemWrite (oid : OID) : EResult Unit :=
  aci.require (aci.auth.acl.checkItemWrite oid) oid.asStr

def requireItemRead (oid : OID) : EResult Unit :=
  aci.require (aci.auth.acl.checkItemRead oid) oid.asStr

def requireItemMaskRead (mask : OIDMask) : EResult Unit :=
  aci.require (aci.auth.acl.checkItemMaskRead mask) "mask"

def requireOp (op : Op) : EResult Unit :=
  aci.require (aci.auth.acl.checkOp op) "op"

def requireAdmin : EResult Unit :=
  aci.require aci.auth.acl.admin "admin"

def runApiFilter (method : String) (params : V) (aci : ACI) : Api V Unit :=
  match config.apiFilter with
  | none => pure ()
  | some i => do
    let reply <- bus "eva.core" "run" (.filter i method params aci.source aci.auth.acl)
    let res : ActionResponse V <- decode .actionResponse reply
    match res.exitcode with
    | none => .fail (accessError "API filter timeout")
    | some code =>
      if code = 0 then pure ()
      else
        match res.err.filter (fun e => !Values.isEmpty e),
          res.out.filter (fun o => !Values.isEmpty o) with
        | some err, _ => .fail (accessError (Values.toText err))
        | none, some out => .fail (accessError (Values.toText out))
        | none, none => .fail (accessError "Denied by API filter")

/-!
## The session and the user
-/

def methodTest : Api V (Response V) := do
  log .debug
  let _ <- decode .empty params
  let info <- bus "eva.core" "test" .empty
  pure (.test info aci.auth.acl (if aci.auth.acl.admin then some config.svcId else none))

def methodPing (_aci : ACI) : Api V (Response V) := do
  log .debug
  let _ <- decode .empty params
  pure (.value (Values.unit : V))

def methodSessionListNeighbors : Api V (Response V) := do
  log .debug
  let _ <- decode .empty params
  if config.allowListNeighbors then do
    let tokens : List Token <- ask .loadAllTokens
    pure (.neighbors (tokens.filter fun t =>
      match aci.auth.getToken with
      | some own => own.id != t.id
      | none => true))
  else .fail (accessError "the method is not allowed to be called")

def methodSessionSetReadonly : Api V (Response V) := do
  log .debug
  let _ <- decode .empty params
  match aci.auth.getToken with
  | some token => do
    ask (.setTokenMode token.id tokenModeReadonly)
    pure (.auth { token with mode := tokenModeReadonly })
  | none => .fail { kind := .failed, message := "no token provided" }

def methodResetUser : Api V (Response V) := do
  log .warn
  demoModeAbort config
  match aci.auth.getToken with
  | some token => do
    aci.checkWrite
    let p : Params.ResetUser V <- decode .resetUser params
    let _ <- bus token.authSvc "reset.user" (.resetUser token.user p.password p.xopts)
    pure .ok
  | none => .fail errNoUser

def methodSetPassword : Api V (Response V) := do
  log .warn
  demoModeAbort config
  match aci.auth.getToken with
  | some token => do
    aci.checkWrite
    let p : Params.SetPassword <- decode .setPassword params
    let _ <- bus token.authSvc "auth.user"
      (.login token.user p.currentPassword aci.source none false)
    let _ <- bus token.authSvc "user.set_password" (.setPassword token.user p.password)
    pure .ok
  | none => .fail errNoUser

def methodGetProfileField : Api V (Response V) := do
  log .trace
  match aci.auth.getToken with
  | some token => do
    let field : String <- decode .profileField params
    let result <- bus token.authSvc "user.get_profile_field" (.profileField token.user field none)
    pure (.value result)
  | none => .fail errNoUser

def methodSetProfileField : Api V (Response V) := do
  log .info
  demoModeAbort config
  match aci.auth.getToken with
  | some token => do
    aci.checkWrite
    let p : Params.SetProfileField V <- decode .setProfileField params
    let _ <- bus token.authSvc "user.set_profile_field"
      (.profileField token.user p.field (some p.value))
    pure .ok
  | none => .fail errNoUser

def errNotUser : Error :=
  accessError "not authenticated as a user"

def methodUserDataGet : Api V (Response V) := do
  log .trace
  let key : String <- decode .userDataKey params
  match aci.auth.getToken with
  | some token => do
    let value : V <- ask (.getUserData token.user key)
    pure (.userData value)
  | none => .fail errNotUser

def methodUserDataSet : Api V (Response V) := do
  log .trace
  let p : Params.UserDataSet V <- decode .userDataSet params
  match aci.auth.getToken with
  | some token => do
    ask (.setUserData token.user p.key p.value)
    pure .ok
  | none => .fail errNotUser

def methodUserDataDelete : Api V (Response V) := do
  log .trace
  let key : String <- decode .userDataKey params
  match aci.auth.getToken with
  | some token => do
    ask (.deleteUserData token.user key)
    pure .ok
  | none => .fail errNotUser

/-!
## Item states and logs
-/

def methodItemState : Api V (Response V) := do
  log .debug
  let p : Params.State V <- decode .state params
  let result <- bus "eva.core" "item.state" (.state p aci.auth.acl)
  pure (.value result)

def methodItemCheckAccess : Api V (Response V) := do
  log .debug
  let ids : List String <- decode .idOrList params
  let oids : List OID <- (ids.mapM (Values.parseOid V) : EResult (List OID))
  pure (.itemAccess (oids.map fun oid =>
    (oid, aci.auth.acl.checkItemRead oid, aci.auth.acl.checkItemWrite oid)))

def parseTs (t : Option V) : EResult (Option Rat) :=
  match t with
  | none => .ok none
  | some t => (Values.asTimestamp t).map some

/-- The last day by default. -/
def parsePeriod (tStart tEnd : Option V) : EResult Period := do
  let s <- parseTs tStart
  let e <- parseTs tEnd
  let period : Period :=
    { tStart := s.getD (config.nowFloat - 86400), tEnd := e.getD config.nowFloat }
  if period.tEnd < period.tStart then .error (invalidParams "invalid period") else .ok period

def splitOnce (separator : Char) (text : String) : String × Option String :=
  let before := text.toList.takeWhile (· != separator)
  (String.ofList before,
    if before.length = text.toList.length then none
    else some (String.ofList (text.toList.drop (before.length + 1))))

/-- A number of points is turned into a period of seconds, one at least. -/
def fillPoints (period : Period) (points : Nat) : EResult Fill :=
  if 10000 < points then .error (invalidParams "too many points (max 10k)")
  else if points < 2 then .error (invalidParams "points can not be less than 2")
  else
    let seconds := (period.tEnd - period.tStart) / ((points - 1 : Nat) : Rat)
    let seconds := if seconds < 1 then 1 else seconds
    .ok (.seconds (Nat.min (seconds + 1 / 2).floor.toNat 4294967295))

variable (V) in
def parseFill (period : Period) (fill : String) : EResult (Fill × Option Nat) := do
  let (fillStr, precision) := splitOnce ':' fill
  let f <-
    if endsWith fillStr "A" then do
      let points <- Values.parseU32 V (String.ofList fillStr.toList.dropLast)
      fillPoints period points
    else Values.parseFill V fillStr
  match precision with
  | none => .ok (f, none)
  | some p => (Values.parseU32 V p).map fun n => (f, some n)

variable (V) in
def parseOptionalFill (period : Period) (fill : Option String) :
    EResult (Option (Fill × Option Nat)) :=
  match fill with
  | none => .ok none
  | some fill => (parseFill V period fill).map some

def dbSvc (database : Option String) : String :=
  "eva.db." ++ database.getD config.defaultHistoryDbSvc

/-- A longer list of times is cut, a shorter one and other times are an error. -/
def alignHistory (times : List Rat) (data : CompactStateHistory V) :
    EResult (CompactStateHistory V) :=
  if data.setTime.isEmpty then .ok data
  else if data.setTime.length < times.length then .error (invalidData "dataframe times mismatch")
  else
    let cut : CompactStateHistory V :=
      if times.length < data.setTime.length then
        { setTime := data.setTime.take times.length
          status := data.status.map (List.take times.length)
          value := data.value.map (List.take times.length) }
      else data
    if cut.setTime = times then .ok cut else .error (invalidData "dataframe times mismatch")

def historyColumns (mask : OIDMask) (data : CompactStateHistory V) :
    List (OIDMask × String × List V) :=
  (data.status.map fun s => (mask, "status", s)).toList ++
    (data.value.map fun v => (mask, "value", v)).toList

def collectHistory (history : OIDMask -> Api V (CompactStateHistory V)) :
    List OIDMask -> Option (List Rat) -> List (OIDMask × String × List V) ->
      Api V (List Rat × List (OIDMask × String × List V))
  | [], times, columns => pure (times.getD [], columns)
  | mask :: rest, times, columns => do
    let data <- history mask
    match times with
    | some ts => do
      let data <- alignHistory ts data
      collectHistory history rest (some ts) (columns ++ historyColumns mask data)
    | none => collectHistory history rest (some data.setTime) (columns ++ historyColumns mask data)

def methodItemStateHistory : Api V (Response V) := do
  log .debug
  let p : Params.StateHistory V <- decode .stateHistory params
  let period <- parsePeriod config p.tStart p.tEnd
  let fill <- parseOptionalFill V period p.fill
  match p.i with
  | .single mask => do
    requireItemMaskRead aci mask
    let result <- bus (dbSvc config p.database) "state_history"
      (.history (.single mask) period fill p.limit p.prop p.xopts)
    match p.outputFormat with
    | .list => pure (.value result)
    | .dict => do
      let data : CompactStateHistory V <- decode .compactStateHistory result
      pure (.historicalStates data)
  | .multi masks =>
    if p.outputFormat ≠ .list then
      .fail (invalidParams "only output type list is supported for multiple OIDs")
    else if fill.isSome then do
      (masks.forM (requireItemMaskRead aci) : EResult Unit)
      let history (mask : OIDMask) : Api V (CompactStateHistory V) := do
        let result <- bus (dbSvc config p.database) "state_history"
          (.history (.single mask) period fill p.limit p.prop p.xopts)
        (decode .compactStateHistory result : EResult (CompactStateHistory V))
      let (times, columns) <- collectHistory history masks none []
      pure (.dataframe times columns)
    else .fail (invalidParams "fill must be specified for multiple OIDs")

def methodItemStateLog : Api V (Response V) := do
  log .debug
  let p : Params.StateLog V <- decode .stateLog params
  let oid <- Values.wildcardOid V p.i
  requireItemRead aci oid
  let tStart <- parseTs p.tStart
  let tEnd <- parseTs p.tEnd
  let result <- bus (dbSvc config p.database) "state_log"
    (.stateLog p.i tStart tEnd p.limit p.xopts)
  pure (.value result)

def requireMasksRead : Params.SingleOrMulti -> EResult Unit
  | .single mask => requireItemMaskRead aci mask
  | .multi masks => masks.forM (requireItemMaskRead aci)

def methodItemStateHistoryCombined : Api V (Response V) := do
  log .debug
  let p : Params.StateHistoryCombined V <- decode .stateHistoryCombined params
  let period <- parsePeriod config p.tStart p.tEnd
  let fill <- parseFill V period p.fill
  requireMasksRead aci p.i
  let result <- bus (dbSvc config p.database) "state_history_combined"
    (.history p.i period (some fill) none none p.xopts)
  pure (.value result)

def apiLogFilterFor (filter : Params.ApiLogFilter V) : EResult (Params.ApiLogFilter V) :=
  if config.publicApiLog || aci.auth.acl.checkOp .moderator then .ok filter
  else
    match aci.auth.getToken with
    | none => .error (accessError "token authentication required")
    | some token =>
      match filter.user with
      | none => .ok { filter with user := some token.user }
      | some user =>
        if token.user = user then .ok filter
        else .error (accessError "admin access is required to get other users' logs")

def methodApiLogGet : Api V (Response V) := do
  log .debug
  let filter : Params.ApiLogFilter V <-
    (if Values.isUnit params then .ok { user := none, other := params }
      else decode .apiLogFilter params : EResult (Params.ApiLogFilter V))
  let filter <- apiLogFilterFor config aci filter
  let entries : V <- ask (.queryApiLog filter)
  pure (.value entries)

def methodLogGet : Api V (Response V) := do
  log .debug
  requireOp aci .log
  let p : Params.LogGet V <- decode .logGet params
  let result <- bus "eva.core" "log.get" (.logGet p)
  pure (.value result)

/-!
## Actions and logic variables
-/

def methodAction : Api V (Response V) := do
  let p : Params.Action V <- decode .action params
  log .info
  aci.checkWrite
  requireItemWrite aci p.i
  runApiFilter config "action" params aci
  let result <- bus "eva.core" "action" (.action p)
  let result <- Values.uuidToText result
  pure (.actionResult result)

def methodRun : Api V (Response V) := do
  let p : Params.Run V <- decode .run params
  log .info
  aci.checkWrite
  requireItemWrite aci p.i
  runApiFilter config "run" params aci
  let result <- bus "eva.core" "run" (.run p aci.source aci.auth.acl)
  let result <- Values.uuidToText result
  pure (.actionResult result)

def methodActionToggle : Api V (Response V) := do
  let p : Params.Toggle <- decode .toggle params
  log .info
  aci.checkWrite
  requireItemWrite aci p.i
  runApiFilter config "action.toggle" params aci
  let result <- bus "eva.core" "action.toggle" (.toggle p)
  let result <- Values.uuidToText result
  pure (.actionResult result)

def resultOid (result : V) : EResult OID := do
  let oid : Option String <- decode .resultOid result
  match oid with
  | none => .error (invalidData "no OID in the result")
  | some text => Values.parseOid V text

def methodActionResult : Api V (Response V) := do
  log .debug
  let u : String <- decode .uuid params
  let u <- Values.parseUuid V u
  let result <- bus "eva.core" "action.result" (.uuid u)
  let result <- Values.uuidToText result
  let oid <- resultOid result
  requireItemRead aci oid
  pure (.actionResult result)

def methodActionTerminate : Api V (Response V) := do
  let p : Params.Terminate <- decode .terminate params
  log .warn
  aci.checkWrite
  runApiFilter config "action.terminate" params aci
  let u <- Values.parseUuid V p.u
  let info <- bus "eva.core" "action.result" (.uuid u)
  if Values.isMap info then do
    let oid <- resultOid info
    requireItemWrite aci oid
  else pure ()
  let _ <- bus "eva.core" "action.terminate" (.uuid u)
  pure .ok

def itemMethod (level : LogLevel) (method : String) (params : V)
    (aci : ACI) : Api V V := do
  let p : Params.Item <- decode .item params
  log level
  aci.checkWrite
  requireItemWrite aci p.i
  runApiFilter config method params aci
  bus "eva.core" method (.item p)

def methodActionKill : Api V (Response V) := do
  let _ <- itemMethod config .warn "action.kill" params aci
  pure .ok

def methodLvarReset : Api V (Response V) := do
  let _ <- itemMethod config .info "lvar.reset" params aci
  pure .ok

def methodLvarClear : Api V (Response V) := do
  let _ <- itemMethod config .info "lvar.clear" params aci
  pure .ok

def methodLvarToggle : Api V (Response V) := do
  let _ <- itemMethod config .info "lvar.toggle" params aci
  pure .ok

def methodLvarIncr : Api V (Response V) := do
  let result <- itemMethod config .info "lvar.incr" params aci
  pure (.value result)

/-- Here the filter is run before the ACL is asked. -/
def methodLvarDecr : Api V (Response V) := do
  let p : Params.Item <- decode .item params
  log .info
  aci.checkWrite
  runApiFilter config "lvar.decr" params aci
  requireItemWrite aci p.i
  let result <- bus "eva.core" "lvar.decr" (.item p)
  pure (.value result)

def methodLvarSet : Api V (Response V) := do
  let p : Params.Set V <- decode .set params
  log .info
  aci.checkWrite
  requireItemWrite aci p.i
  runApiFilter config "lvar.set" params aci
  let _ <- bus "eva.core" "lvar.set" (.set p)
  pure .ok

/-!
## Calls to other services
-/

def methodBusCall (target method : String) (params : V) (aci : ACI) : Api V (Response V) := do
  log .debug
  aci.checkWrite
  requireAdmin aci
  runApiFilter config ("bus::" ++ target ++ "::" ++ method) params aci
  let payload := if Values.isMap params && Values.isEmpty params then .empty else .params params
  let result <- bus target method payload
  pure (.value result)

def methodXCall (target method : String) (params : V) (aci : ACI) : Api V (Response V) := do
  log .debug
  runApiFilter config ("x::" ++ target ++ "::" ++ method) params aci
  let result <- bus target "x" (.xCall method params aci.source aci.auth.acl)
  pure (.value result)

def methodDbList (_aci : ACI) : Api V (Response V) := do
  log .debug
  let _ <- decode .empty params
  let reply <- bus "eva.core" "svc.list" (.services "^eva\\.db\\..*$")
  let services : List SvcId <- decode .services reply
  let ids := (services.filter SvcId.enabled).filterMap fun svc =>
    if startsWith svc.id "eva.db." then some (String.ofList (svc.id.toList.drop 7)) else none
  pure (.databases (ids.map fun id => (id, id == config.defaultHistoryDbSvc)))

def methodLlcList (_aci : ACI) : Api V (Response V) := do
  log .debug
  let _ <- decode .empty params
  let reply <- bus "eva.core" "svc.list" (.services "^.*\\.llc\\..*$")
  let services : List SvcId <- decode .services reply
  pure (.services ((services.filter SvcId.enabled).map SvcId.id))

def methodDobjList : Api V (Response V) := do
  log .debug
  requireOp aci .developer
  let _ <- decode .empty params
  let result <- bus "eva.core" "dobj.list" .empty
  pure (.value result)

def getDataObject (i : String) : Api V (DataObject V) := do
  let reply <- bus "eva.core" "dobj.get_config" (.id i)
  (decode .dataObject reply : EResult (DataObject V))

def methodDobjGetStruct : Api V (Response V) := do
  log .debug
  requireOp aci .developer
  let i : String <- decode .id params
  let object <- getDataObject i
  pure (.dataObject
    { object with fields := object.fields.map fun field => { field with oid := none } })

def methodDobjGetStructCode : Api V (Response V) := do
  log .debug
  requireOp aci .developer
  let p : Params.StructCode V <- decode .structCode params
  let generate (i : String) : Api V String := do
    let object <- getDataObject i
    Values.generateStruct p.lang p.config object
  let codes <- Dialog.collect generate p.i
  pure (.code (String.intercalate "\n" (codes.map fun code => code ++ "\n")))

/-!
## Private files
-/

def formatPath (op : PvtOp) (path : String) : EResult PathBuf :=
  formatAndCheckPath config.urlDecode config.pvtPath (userPvtPath config.userDirs aci.auth.user)
    aci.auth.acl op path

def PathBuf.parent (path : PathBuf) : PathBuf :=
  match path.components with
  | [] => { path with components := [".."] }
  | _ :: _ => { path with components := path.components.dropLast }

def notFoundAs {R : Type} (path : String) : EResult R -> EResult R
  | .ok r => .ok r
  | .error e =>
    if e.kind = .resourceNotFound then .error { kind := .resourceNotFound, message := path }
    else .error e

def methodPvtPut : Api V (Response V) := do
  let p : Params.PvtPut <- decode .pvtPut params
  log .info
  aci.checkWrite
  runApiFilter config "pvt.put" params aci
  let path <- formatPath config aci .write p.path
  ask (.createDirAll path.parent)
  ask (.writeFile path p.content)
  pure .ok

def methodPvtGet : Api V (Response V) := do
  log .debug
  let requested : String <- decode .pvtPath params
  let path <- formatPath config aci .read requested
  let content : EResult String <- (ask (.readToString path) : Api V String).attempt
  let content <- notFoundAs requested content
  pure (.content content)

def methodPvtUnlink : Api V (Response V) := do
  let requested : String <- decode .pvtPath params
  log .info
  aci.checkWrite
  runApiFilter config "pvt.unlink" params aci
  let path <- formatPath config aci .write requested
  let removed : EResult Unit <- (ask (.removeFile path) : Api V Unit).attempt
  notFoundAs requested removed
  pure .ok

def methodPvtList : Api V (Response V) := do
  log .debug
  let p : Params.PvtList <- decode .pvtList params
  let path <- formatPath config aci .list p.path
  let listed : EResult (List String) <- (ask (.listDir path p) : Api V (List String)).attempt
  let entries <- notFoundAs p.path listed
  pure (.entries (entries.filter
    (checkPvtRead (userPvtPath config.userDirs aci.auth.user) aci.auth.acl)))

end Hmi
end Eva4
