import Eva4.Lib.Dialog
import Eva4.Hmi.Payloads
import Eva4.Hmi.PvtPath

/-!
# Sessions

Tokens, and how a request is authenticated by a token or an API key.  What the service asks the
bus, its database, the file system and its logs is a call of a dialog.
-/

namespace Eva4.Hmi

open Lib Dialog
open Items

/-!
## Tokens
-/

def tokenModeNormal : Nat := 1
def tokenModeReadonly : Nat := 2

structure Token where
  id : TokenId
  mode : Nat
  t : Int
  user : String
  acl : Acl
  authSvc : String
  ip : Option String

def Token.isReadonly (token : Token) : Bool :=
  token.mode == tokenModeReadonly

inductive Auth where
  | token (token : Token)
  | key (keyId : String) (acl : Acl)

def Auth.acl : Auth -> Acl
  | .token t => t.acl
  | .key _ acl => acl

def Auth.getToken : Auth -> Option Token
  | .token t => some t
  | .key _ _ => none

def Auth.user : Auth -> Option String
  | .token t => some t.user
  | .key keyId _ => some keyId

structure ACI where
  auth : Auth
  method : String
  source : String

def ACI.writable (aci : ACI) : Bool :=
  match aci.auth with
  | .token token => !token.isReadonly
  | .key _ _ => true

def ACI.checkWrite (aci : ACI) : EResult Unit :=
  if aci.writable then .ok () else .error (accessError "Session is in the read-only mode")

structure HmiConfig where
  svcId : String
  authSvcs : List String
  /-- The time of the request, in seconds. -/
  now : Int
  nowFloat : Rat
  sessionTimeout : Option Int
  sessionProlong : Bool
  sessionStickIp : Bool
  allowListNeighbors : Bool
  allowConcurrent : Bool
  demoMode : Bool
  publicApiLog : Bool
  apiFilter : Option OID
  pvtPath : Option String
  userDirs : Option String
  defaultHistoryDbSvc : String
  urlDecode : String -> Option String
  /-- The user that an external token was issued for. -/
  oidcVerifier : Option (String -> EResult String)

/-!
## Calls
-/

inductive LogLevel where
  | error
  | warn
  | info
  | debug
  | trace
deriving DecidableEq

inductive HmiCall (V : Type) where
  | bus (target method : String) (payload : Payload V)
  | logRequest (level : LogLevel)
  | logSuccess
  | logError (e : Error)
  | logUnauthorized (authProvided : Bool)
  | accounting (subj : String)
  | queryApiLog (filter : Params.ApiLogFilter V)
  | loadToken (id : TokenId)
  | loadAllTokens
  | isActiveSessionFor (login : String)
  | newTokenId
  | saveToken (token : Token)
  | deleteToken (id : TokenId)
  | setTokenTime (id : TokenId) (t : Int)
  | setTokenMode (id : TokenId) (mode : Nat)
  | closeWebsockets (id : TokenId)
  | ehmiConfigTokenId (configKey : String)
  | insertEhmiConfig (ti configKey : String) (token : TokenId) (config : V)
  | getEhmiConfig (configKey : String)
  | getUserData (user key : String)
  | setUserData (user key : String) (value : V)
  | deleteUserData (user key : String)
  | createDirAll (path : PathBuf)
  | writeFile (path : PathBuf) (content : String)
  | readToString (path : PathBuf)
  | removeFile (path : PathBuf)
  | listDir (path : PathBuf) (params : Params.PvtList)

def HmiCall.Reply {V : Type} : HmiCall V -> Type
  | .bus _ _ _ => V
  | .queryApiLog _ => V
  | .loadToken _ => Option Token
  | .loadAllTokens => List Token
  | .isActiveSessionFor _ => Bool
  | .newTokenId => TokenId
  | .ehmiConfigTokenId _ => Option String
  | .getEhmiConfig _ => V
  | .getUserData _ _ => V
  | .readToString _ => String
  | .listDir _ _ => List String
  | _ => Unit

abbrev HmiCall.Answer {V : Type} (call : HmiCall V) : Type :=
  EResult call.Reply

abbrev Api (V R : Type) : Type :=
  Dialog (HmiCall V) HmiCall.Answer Error R

variable {V : Type}

def ask (call : HmiCall V) : Api V call.Reply := do
  let answer : EResult call.Reply <- Dialog.request call
  answer

def tell (call : HmiCall V) : Api V Unit := do
  let _ <- (ask call).attempt
  pure ()

def bus (target method : String) (payload : Payload V) : Api V V :=
  ask (.bus target method payload)

section Rules

variable {s : S} {c : HmiCall V}

lemma follows_ask (hallowed : rules.allowed s c)
    (h : forall answer, rules.answers c answer -> P (rules.next s c answer) answer) :
    (ask c).Follows rules P s :=
  ⟨hallowed, fun answer hanswer => .lift (h answer hanswer)⟩

lemma asks_ask (h : allowed c) : (ask c).Asks answers allowed :=
  Asks.bind (Asks.request h) fun _ => Asks.lift

lemma asks_tell (h : allowed c) : (tell c).Asks answers allowed :=
  Asks.bind (Asks.attempt (asks_ask h)) fun _ => Asks.ret ()

end Rules

/-!
## Authentication
-/

def errInvalidToken : Error :=
  accessError "invalid token"

variable (config : HmiConfig)

def checkTokenIp (token : Token) (ip : Option String) : EResult Unit :=
  match token.ip with
  | some tokenIp =>
    if config.sessionStickIp then
      if ip = some tokenIp then .ok () else .error (accessError "token access denied")
    else .ok ()
  | none => .ok ()

def getExpiration : EResult Int :=
  match config.sessionTimeout with
  | some timeout => .ok timeout
  | none => .error (accessError "sessions are disabled")

def Token.isExpired (token : Token) : EResult Bool := do
  let expiration <- getExpiration config
  .ok (decide (token.t + expiration < config.now))

def Token.touch (token : Token) : Api V Token :=
  if config.sessionProlong then do
    ask (.setTokenTime token.id config.now)
    pure { token with t := config.now }
  else pure token

def getToken (id : TokenId) (ip : Option String) : Api V Token := do
  match <- (ask (.loadToken id) : Api V (Option Token)) with
  | some token => do
    checkTokenIp config token ip
    if <- token.isExpired config then .fail errInvalidToken
    else token.touch config
  | none => .fail errInvalidToken

variable [Values V]

def tokenPrefix : String := "token:"

def stripTokenPrefix (key : String) : Option String :=
  if startsWith key tokenPrefix then
    some (String.ofList (key.toList.drop tokenPrefix.toList.length))
  else none

/-- The services are asked in turn; the errors of all but the last are dropped. -/
def authKey (key source : String) : List String -> Api V (Option (Acl × String))
  | [] => pure none
  | svc :: rest => do
    match <- (bus svc "auth.key" (.key key source)).attempt with
    | .ok result => do
      let acl : Acl <- Values.decode .acl result
      pure (some (acl, svc))
    | .error _ => authKey key source rest

def authenticate (key : String) (ip : Option String) : Api V Auth :=
  match stripTokenPrefix key with
  | some tokenStr => do
    let id <- Values.tokenId V tokenStr
    let token <- getToken config id ip
    pure (.token token)
  | none => do
    match <- authKey key (ip.getD "") config.authSvcs with
    | some (acl, _) =>
      match acl.apiKeyId with
      | some keyId => pure (.key ("." ++ keyId) acl)
      | none => .fail { kind := .core, message := "API key ID not found" }
    | none => .fail (accessError "access denied")

def createToken (user : String) (acl : Acl) (authSvc : String) (ip : Option String) : Api V Token :=
  match config.sessionTimeout with
  | some _ => do
    let id : TokenId <- ask .newTokenId
    let token : Token :=
      { id := id, mode := tokenModeNormal, t := config.now, user := user, acl := acl,
        authSvc := authSvc, ip := ip }
    ask (.saveToken token)
    pure token
  | none => .fail (accessError "sessions are disabled")

def reportLogout (id : TokenId) : Api V Unit := do
  match <- (ask (.loadToken id) : Api V (Option Token)).attempt with
  | .ok (some _) => tell (.accounting "logout")
  | _ => pure ()

def destroyToken (id : TokenId) : Api V Unit := do
  reportLogout id
  ask (.deleteToken id)
  tell (.closeWebsockets id)

end Eva4.Hmi
