import Eva4.Hmi.Api

/-!
# Requests

A request names a method and has parameters.  It is authenticated by the token or the API key
among its parameters, logins and logouts apart, and then handed to the method.
-/

namespace Eva4.Hmi

open Lib
open Items

variable {V : Type} [Values V]

/-!
## Logins
-/

def genSource (ip : Option String) : String :=
  ip.getD "-"

variable (config : HmiConfig) (key : String)

def loginKey (ip : Option String) : Api V Token := do
  match <- authKey key (ip.getD "") config.authSvcs with
  | some (acl, svc) =>
    match acl.apiKeyId with
    | some id => do
      let token <- createToken config ("." ++ id) acl svc ip
      log .info
      tell .logSuccess
      pure token
    | none => .fail { kind := .failed, message := "API key ID not found" }
  | none => do
    log .info
    tell (.logError (accessError "access denied"))
    .fail (accessError "access denied")

structure LoginRequest (V : Type) where
  login : String
  password : String
  xopts : Option V
  tokenId : Option String
  externallyVerified : Bool

/-- An error that ends the login; all others let the next service be asked. -/
def endsLogin (e : Error) : Bool :=
  match e.kind with
  | .accessDenied => startsWith e.message "|"
  | .accessDeniedMoreDataRequired => true
  | _ => false

def tokenIdOf (V : Type) [Values V] (token : String) : EResult TokenId :=
  match stripTokenPrefix token with
  | none => .error (invalidData "invalid token format")
  | some text =>
    match Values.tokenId V text with
    | .ok id => .ok id
    | .error _ => .error (invalidData "invalid token format")

/-- The check is made with the login as it was typed. -/
def checkConcurrent (config : HmiConfig) (typed : String) (acl : Acl) : Api V Unit :=
  if !acl.admin && !config.allowConcurrent then do
    let active : Bool <- ask (.isActiveSessionFor typed)
    if active then .fail (accessError "concurrent login not allowed") else pure ()
  else pure ()

def setNormal (login ti : String) (ip : Option String) : Api V Token := do
  let id <- tokenIdOf V ti
  let token <- getToken config id ip
  if token.user ≠ login then .fail (accessError "token user does not match")
  else if token.isReadonly then do
    ask (.setTokenMode token.id tokenModeNormal)
    pure { token with mode := tokenModeNormal }
  else pure token

/-- The login was accepted by a service; the account may have another name. -/
def acceptLogin (request : LoginRequest V) (ip : Option String)
    (svc : String) (accepted : AclAndParams) : Api V Token := do
  checkConcurrent config request.login accepted.acl
  match request.tokenId with
  | some ti => setNormal config (accepted.login.getD request.login) ti ip
  | none => do
    let token <- createToken config (accepted.login.getD request.login) accepted.acl svc ip
    log .info
    tell .logSuccess
    pure token

def login (config : HmiConfig) (request : LoginRequest V) (ip : Option String) :
    List String -> Api V Token
  | [] => do
    log .info
    tell (.logError (accessError "access denied"))
    .fail (accessError "access denied")
  | svc :: rest => do
    match <- (bus svc "auth.user" (.login request.login request.password (genSource ip)
        request.xopts request.externallyVerified)).attempt with
    | .ok reply => do
      let accepted : AclAndParams <- decode .aclAndParams reply
      acceptLogin config request ip svc accepted
    | .error e => if endsLogin e then .fail e else login config request ip rest

structure Meta where
  ip : Option String
  key : Option String
  credentials : Option (String × String)
  externalToken : Option String
  agent : Option String

def noCredentials (m : Meta) : Error :=
  match m.agent with
  | some agent =>
    if startsWith agent "evaHI " then { kind := .evaHIAuthenticationRequired, message := "" }
    else accessError "No authentication data provided"
  | none => accessError "No authentication data provided"

def loginMeta (m : Meta) : Api V Token :=
  match m.key, m.credentials with
  | some key, _ => loginKey config key m.ip
  | none, some (user, password) =>
    login config ⟨user, password, none, none, false⟩ m.ip config.authSvcs
  | none, none =>
    match m.externalToken, config.oidcVerifier with
    | some token, some verify =>
      match verify token with
      | .ok sub => do
        match <- (login config ⟨sub, "", none, none, true⟩ m.ip config.authSvcs).attempt with
        | .ok token => pure token
        | .error _ => .fail (noCredentials m)
      | .error _ => .fail (noCredentials m)
    | _, _ => .fail (noCredentials m)

def methodLogin (params : Option V) (m : Meta) : Api V (Response V) := do
  match params with
  | none => do
    let token <- loginMeta config m
    pure (.auth token)
  | some params => do
    let p : Params.Login V <- decode .login params
    let token <- match p with
      | .userAuth user password xopts =>
        login config ⟨user, password, xopts, none, false⟩ m.ip config.authSvcs
      | .keyAuth k => loginKey config k m.ip
      | .tokenInfo token => do
        let id <- tokenIdOf V token
        getToken config id m.ip
      | .tokenSetNormal user password token xopts =>
        login config ⟨user, password, xopts, some token, false⟩ m.ip config.authSvcs
      | .empty => loginMeta config m
    pure (.auth token)

def methodLogout (params : Option V) : Api V (Response V) := do
  match params with
  | none => .fail (invalidParams "no params provided")
  | some params => do
    let token : String <- decode .token params
    let id <- tokenIdOf V token
    let _ <- (destroyToken id : Api V Unit).attempt
    pure .ok

/-!
## Embedded configurations
-/

def cachedEhmiToken (configKey : String) : Api V (Option String) := do
  match <- (ask (.ehmiConfigTokenId configKey) : Api V (Option String)) with
  | none => pure none
  | some ti => do
    let id <- Values.tokenId V ti
    match <- (getToken config id none).attempt with
    | .ok _ => pure (some ti)
    | .error _ => pure none

def ehmiToken : Api V Token :=
  if startsWith key tokenPrefix then do
    match <- authenticate config key none with
    | .token token => pure token
    | .key _ _ => .fail { kind := .core, message := "auth token failed" }
  else loginKey config key none

def cacheEhmiConfig (key configKey : String) (ehmiConfig : V) : Option String -> Api V String
  | some ti => pure ti
  | none => do
    let token <- ehmiToken config key
    ask (.insertEhmiConfig (Values.shortString V token.id) configKey token.id ehmiConfig)
    pure (Values.shortString V token.id)

variable (params : V)

def methodEhmiCreateConfig (aci : ACI) : Api V (Response V) := do
  log .debug
  let configKey := Values.configKey aci.source key params
  let p : Params.EhmiConfig V <- decode .ehmiConfig params
  match p.hmiUrl with
  | none => .fail (invalidParams "hmi_url not provided")
  | some hmiUrl => do
    let cached <- cachedEhmiToken config configKey
    let ti <- cacheEhmiConfig config key configKey p.config cached
    let url := String.ofList (hmiUrl.toList.reverse.dropWhile (· == '/')).reverse
    pure (.app (url ++ "/ui/ehmi/" ++ p.app.getD "ec" ++ "/?ck=" ++ configKey ++ "&uid=" ++
      Values.uid V ti))

def methodEhmiGetConfig : Api V (Response V) := do
  let ck : String <- decode .configKey params
  let result : V <- ask (.getEhmiConfig ck)
  pure (.value result)

/-!
## Methods
-/

inductive Method where
  | test
  | ping
  | setPassword
  | resetUser
  | getProfileField
  | setProfileField
  | itemState
  | itemCheckAccess
  | itemStateHistory
  | itemStateLog
  | itemStateHistoryCombined
  | logGet
  | apiLogGet
  | action
  | actionToggle
  | actionResult
  | actionKill
  | actionTerminate
  | run
  | lvarSet
  | lvarReset
  | lvarClear
  | lvarToggle
  | lvarIncr
  | lvarDecr
  | sessionListNeighbors
  | sessionSetReadonly
  | ehmiCreateConfig
  | userDataGet
  | userDataSet
  | userDataDelete
  | dbList
  | llcList
  | pvtPut
  | pvtGet
  | pvtUnlink
  | pvtList
  | dobjList
  | dobjGetStruct
  | dobjGenerateStructCode
deriving DecidableEq

def methodNames : List (String × Method) :=
  [("test", .test), ("ping", .ping), ("set_password", .setPassword),
    ("user.reset", .resetUser), ("profile.get_field", .getProfileField),
    ("profile.set_field", .setProfileField), ("item.state", .itemState), ("state", .itemState),
    ("item.check_access", .itemCheckAccess), ("check_item_access", .itemCheckAccess),
    ("item.state_history", .itemStateHistory), ("state_history", .itemStateHistory),
    ("item.state_log", .itemStateLog), ("state_log", .itemStateLog),
    ("item.state_history_combined", .itemStateHistoryCombined),
    ("log.get", .logGet), ("log_get", .logGet), ("api_log.get", .apiLogGet),
    ("action", .action), ("action.toggle", .actionToggle), ("action_toggle", .actionToggle),
    ("action.result", .actionResult), ("result", .actionResult),
    ("action.kill", .actionKill), ("kill", .actionKill),
    ("action.terminate", .actionTerminate), ("terminate", .actionTerminate), ("run", .run),
    ("lvar.set", .lvarSet), ("set", .lvarSet), ("lvar.reset", .lvarReset),
    ("reset", .lvarReset), ("lvar.clear", .lvarClear), ("clear", .lvarClear),
    ("lvar.toggle", .lvarToggle), ("toggle", .lvarToggle), ("lvar.incr", .lvarIncr),
    ("increment", .lvarIncr), ("lvar.decr", .lvarDecr), ("decrement", .lvarDecr),
    ("session.list_neighbors", .sessionListNeighbors),
    ("get_neighbor_clients", .sessionListNeighbors),
    ("session.set_readonly", .sessionSetReadonly), ("set_token_readonly", .sessionSetReadonly),
    ("ehmi.create_config", .ehmiCreateConfig), ("user_data.get", .userDataGet),
    ("user_data.set", .userDataSet), ("user_data.delete", .userDataDelete),
    ("db.list", .dbList), ("llc.list", .llcList), ("pvt.put", .pvtPut), ("pvt.get", .pvtGet),
    ("pvt.unlink", .pvtUnlink), ("pvt.list", .pvtList), ("dobj.list", .dobjList),
    ("dobj.get_struct", .dobjGetStruct),
    ("dobj.generate_struct_code", .dobjGenerateStructCode)]

inductive Route where
  | bus (target method : String)
  | x (target method : String)
  | method (m : Method)

def splitColons : List Char -> List Char × Option (List Char)
  | ':' :: ':' :: rest => ([], some rest)
  | c :: rest => (c :: (splitColons rest).1, (splitColons rest).2)
  | [] => ([], none)

def errNoMethod : Error where
  kind := .methodNotFound
  message := "no such RPC method"

def errNoBusMethod : Error :=
  invalidParams "bus method not specified"

def busRoute (busCall : List Char) : EResult Route :=
  match splitColons busCall with
  | (target, some method) => .ok (.bus (String.ofList target) (String.ofList method))
  | (_, none) => .error errNoBusMethod

/-- Only the part up to the next colons is the method. -/
def xRoute (xCall : List Char) : EResult Route :=
  match splitColons xCall with
  | (target, some rest) => .ok (.x (String.ofList target) (String.ofList (splitColons rest).1))
  | (_, none) => .error errNoBusMethod

variable (method : String)

def route : EResult Route :=
  if startsWith method "bus::" then busRoute (method.toList.drop 5)
  else if startsWith method "x::" then xRoute (method.toList.drop 3)
  else
    match methodNames.lookup method with
    | some m => .ok (.method m)
    | none => .error errNoMethod

def runMethod (aci : ACI) : Method -> Api V (Response V)
  | .test => methodTest config params aci
  | .ping => methodPing params aci
  | .setPassword => methodSetPassword config params aci
  | .resetUser => methodResetUser config params aci
  | .getProfileField => methodGetProfileField params aci
  | .setProfileField => methodSetProfileField config params aci
  | .itemState => methodItemState params aci
  | .itemCheckAccess => methodItemCheckAccess params aci
  | .itemStateHistory => methodItemStateHistory config params aci
  | .itemStateLog => methodItemStateLog config params aci
  | .itemStateHistoryCombined => methodItemStateHistoryCombined config params aci
  | .logGet => methodLogGet params aci
  | .apiLogGet => methodApiLogGet config params aci
  | .action => methodAction config params aci
  | .actionToggle => methodActionToggle config params aci
  | .actionResult => methodActionResult params aci
  | .actionKill => methodActionKill config params aci
  | .actionTerminate => methodActionTerminate config params aci
  | .run => methodRun config params aci
  | .lvarSet => methodLvarSet config params aci
  | .lvarReset => methodLvarReset config params aci
  | .lvarClear => methodLvarClear config params aci
  | .lvarToggle => methodLvarToggle config params aci
  | .lvarIncr => methodLvarIncr config params aci
  | .lvarDecr => methodLvarDecr config params aci
  | .sessionListNeighbors => methodSessionListNeighbors config params aci
  | .sessionSetReadonly => methodSessionSetReadonly params aci
  | .ehmiCreateConfig => methodEhmiCreateConfig config key params aci
  | .userDataGet => methodUserDataGet params aci
  | .userDataSet => methodUserDataSet params aci
  | .userDataDelete => methodUserDataDelete params aci
  | .dbList => methodDbList config params aci
  | .llcList => methodLlcList params aci
  | .pvtPut => methodPvtPut config params aci
  | .pvtGet => methodPvtGet config params aci
  | .pvtUnlink => methodPvtUnlink config params aci
  | .pvtList => methodPvtList config params aci
  | .dobjList => methodDobjList params aci
  | .dobjGetStruct => methodDobjGetStruct params aci
  | .dobjGenerateStructCode => methodDobjGetStructCode params aci

def runRoute (aci : ACI) : Route -> Api V (Response V)
  | .bus target method => methodBusCall config target method params aci
  | .x target method => methodXCall config target method params aci
  | .method m => runMethod config key params aci m

/-!
## Calls
-/

def requestKey (m : Meta) (params : V) : EResult (Option String × V) :=
  if Values.isMap params then
    match Values.removeKey params with
    | (some v, rest) => (Values.asString v).map fun key => (some key, rest)
    | (none, rest) => .ok (m.key, rest)
  else .error { kind := .accessDenied, message := "" }

def logResult : EResult (Response V) -> Api V Unit
  | .ok _ => tell .logSuccess
  | .error e => tell (.logError e)

def serve (method key : String) (params : V) (aci : ACI) : Api V (Response V) := do
  let r <- route method
  let result <- (runRoute config key params aci r).attempt
  logResult result
  result

def authenticatedCall (params : V) (m : Meta) : Api V (Response V) := do
  match <- (requestKey m params : Api V (Option String × V)) with
  | (none, _) => do
    tell (.logUnauthorized false)
    .fail (accessError "No token/API key specified")
  | (some key, params) => do
    match <- (authenticate config key m.ip).attempt with
    | .error e => do
      tell (.logUnauthorized true)
      .fail e
    | .ok auth => serve config method key params ⟨auth, method, genSource m.ip⟩

def callNamed (params : Option V) (m : Meta) : Api V (Response V) :=
  if method = "login" then methodLogin config params m
  else if method = "logout" then methodLogout params
  else if method = "ehmi.get_config" then methodEhmiGetConfig (params.getD Values.unit)
  else
    match params with
    | none => .fail (invalidParams "")
    | some params => authenticatedCall config method params m

def parseCall : EResult (String × V) := do
  let p : Params.Call <- decode .call params
  let (method, callParams) <- Values.parseCallStr p.q
  let callParams := match p.k with
    | some key => Values.insertKey key callParams
    | none => callParams
  if method = "call" then .error errNoMethod
  else if method = "s" then .ok ("item.state", callParams)
  else if method = "h" then .ok ("item.state_history", callParams)
  else if method = "ehmi" then .ok ("ehmi.create_config", callParams)
  else .ok (method, callParams)

def resolve (params : Option V) : EResult (String × Option V) :=
  if method = "call" then (parseCall (params.getD Values.unit)).map fun c => (c.1, some c.2)
  else .ok (method, params)

def call (params : Option V) (m : Meta) : Api V (Response V) := do
  let (method, params) <- resolve method params
  callNamed config method params m

/-!
## Plain values
-/

/-- Texts, and maps of the key of the caller and an entry of user data.  An accepted login is a
text, the name of the account. -/
inductive Plain where
  | unit
  | text (s : String)
  | map (k : Option String) (data : Option (String × String))

def Plain.decode : (schema : Schema) -> Plain -> EResult (schema.Params Plain)
  | .empty, .map _ none => .ok ()
  | .userDataSet, .map _ (some (key, value)) =>
    .ok ({ key := key, value := .text value } : Params.UserDataSet Plain)
  | .action, .map _ (some (id, value)) => .ok {
      i := ⟨.unit, id⟩, status := none, value := .text value, priority := none, wait := none
      note := none }
  | .aclAndParams, .text account =>
    .ok { login := some account, note := none, acl := Acl.ofPvt ⟨[], []⟩ ⟨[], []⟩ }
  | _, _ => .error (invalidParams "")

instance plainValues : Values Plain where
  unit := .unit
  isUnit
    | .unit => true
    | _ => false
  isEmpty
    | .map none none => true
    | _ => false
  isMap
    | .map _ _ => true
    | _ => false
  toText _ := ""
  removeKey
    | .map k data => (k.map .text, .map none data)
    | v => (none, v)
  insertKey
    | key, .map none data => .map (some key) data
    | _, v => v
  asString
    | .text s => .ok s
    | _ => .error (invalidData "")
  asTimestamp _ := .error (invalidData "")
  decode := Plain.decode
  tokenId text := .ok { u := text, salt := "" }
  shortString id := id.u
  parseCallStr q := .ok (q, .map none none)
  parseOid _ := .error (invalidData "")
  parseUuid s := .ok s
  uuidToText v := .ok v
  wildcardOid _ := .error (invalidData "")
  parseFill text := .ok (.other text)
  parseU32 _ := .error (invalidData "")
  configKey source key _ := source ++ key
  uid text := text
  generateStruct _ _ _ := .ok ""

def plainConfig : HmiConfig where
  svcId := "eva.hmi.default"
  authSvcs := ["eva.aaa.localauth"]
  now := 1000
  nowFloat := 1000
  sessionTimeout := some 3600
  sessionProlong := true
  sessionStickIp := false
  allowListNeighbors := false
  allowConcurrent := true
  demoMode := false
  publicApiLog := false
  apiFilter := none
  pvtPath := none
  userDirs := none
  defaultHistoryDbSvc := "default"
  urlDecode := some
  oidcVerifier := none

end Eva4.Hmi
