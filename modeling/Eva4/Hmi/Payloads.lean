import Eva4.Hmi.Acl

/-!
# Payloads

The parameters of the API methods and the payloads of the calls they make.  Values, and how they
are turned into parameters and back, belong to the common crate and its serializer; they are
operations of a type of values.
-/

namespace Eva4.Hmi

open Items

structure TokenId where
  u : String
  salt : String
deriving DecidableEq

variable (V : Type)

namespace Params

structure Call where
  q : String
  k : Option String

inductive Login (V : Type) where
  | tokenSetNormal (user password token : String) (xopts : Option V)
  | userAuth (user password : String) (xopts : Option V)
  | keyAuth (k : String)
  | tokenInfo (token : String)
  | empty

structure ResetUser where
  password : String
  xopts : Option V

structure SetPassword where
  currentPassword : String
  password : String

structure SetProfileField where
  field : String
  value : V

structure State where
  i : V
  full : Bool
  regex : Option String

inductive SingleOrMulti where
  | single (mask : OIDMask)
  | multi (masks : List OIDMask)

inductive OutputFormat where
  | list
  | dict
deriving DecidableEq

/-- Without a database the default one is meant. -/
structure StateHistory where
  i : SingleOrMulti
  tStart : Option V
  tEnd : Option V
  fill : Option String
  limit : Option Nat
  prop : Option String
  xopts : V
  database : Option String
  outputFormat : OutputFormat

structure StateLog where
  i : OIDMask
  tStart : Option V
  tEnd : Option V
  limit : Option Nat
  xopts : V
  database : Option String

structure StateHistoryCombined where
  i : SingleOrMulti
  tStart : Option V
  tEnd : Option V
  fill : String
  xopts : V
  database : Option String

structure ApiLogFilter where
  user : Option String
  other : V

structure LogGet where
  level : Option V
  time : Option Nat
  limit : Option Nat
  module : Option String
  rx : Option String
  msg : Option String

structure Action where
  i : OID
  status : Option Int
  value : V
  priority : Option Nat
  wait : Option Rat
  note : Option String

structure Run where
  i : OID
  args : List V
  kwargs : List (String × V)
  priority : Option Nat
  wait : Option Rat
  note : Option String

structure Toggle where
  i : OID
  priority : Option Nat
  wait : Option Rat
  note : Option String

structure Terminate where
  u : String
  note : Option String

structure Item where
  i : OID
  note : Option String

structure Set where
  i : OID
  status : Option Int
  value : Option V
  note : Option String

structure EhmiConfig where
  app : Option String
  hmiUrl : Option String
  config : V

structure UserDataSet where
  key : String
  value : V

structure PvtPut where
  path : String
  content : String

structure PvtList where
  path : String
  masks : Option (List String)
  kind : String
  recursive : Bool

inductive Language where
  | c
  | rust

structure StructCode where
  i : List String
  lang : Language
  config : V

end Params

/-!
## Replies
-/

structure ActionResponse where
  exitcode : Option Int
  out : Option V
  err : Option V

structure CompactStateHistory where
  setTime : List Rat
  status : Option (List V)
  value : Option (List V)

structure SvcId where
  id : String
  enabled : Bool

structure DataObjectField where
  name : String
  oid : Option OID
  other : V

structure DataObject where
  name : String
  fields : List (DataObjectField V)

structure AclAndParams where
  login : Option String
  note : Option String
  acl : Acl

inductive Schema where
  | call
  | empty
  | login
  | token
  | resetUser
  | setPassword
  | profileField
  | setProfileField
  | state
  | idOrList
  | stateHistory
  | stateLog
  | stateHistoryCombined
  | apiLogFilter
  | logGet
  | action
  | run
  | toggle
  | uuid
  | terminate
  | item
  | set
  | ehmiConfig
  | configKey
  | userDataKey
  | userDataSet
  | pvtPut
  | pvtPath
  | pvtList
  | id
  | structCode
  | actionResponse
  | resultOid
  | compactStateHistory
  | services
  | dataObject
  | acl
  | aclAndParams

def Schema.Params (V : Type) : Schema -> Type
  | .call => Params.Call
  | .empty => Unit
  | .login => Params.Login V
  | .token => String
  | .resetUser => Params.ResetUser V
  | .setPassword => Params.SetPassword
  | .profileField => String
  | .setProfileField => Params.SetProfileField V
  | .state => Params.State V
  | .idOrList => List String
  | .stateHistory => Params.StateHistory V
  | .stateLog => Params.StateLog V
  | .stateHistoryCombined => Params.StateHistoryCombined V
  | .apiLogFilter => Params.ApiLogFilter V
  | .logGet => Params.LogGet V
  | .action => Params.Action V
  | .run => Params.Run V
  | .toggle => Params.Toggle
  | .uuid => String
  | .terminate => Params.Terminate
  | .item => Params.Item
  | .set => Params.Set V
  | .ehmiConfig => Params.EhmiConfig V
  | .configKey => String
  | .userDataKey => String
  | .userDataSet => Params.UserDataSet V
  | .pvtPut => Params.PvtPut
  | .pvtPath => String
  | .pvtList => Params.PvtList
  | .id => String
  | .structCode => Params.StructCode V
  | .actionResponse => ActionResponse V
  | .resultOid => Option String
  | .compactStateHistory => CompactStateHistory V
  | .services => List SvcId
  | .dataObject => DataObject V
  | .acl => Acl
  | .aclAndParams => AclAndParams

/-!
## Calls
-/

inductive Fill where
  | seconds (n : Nat)
  | other (text : String)

structure Period where
  tStart : Rat
  tEnd : Rat

inductive Payload (V : Type) where
  | empty
  | params (params : V)
  | key (key source : String)
  | login (login password source : String) (xopts : Option V) (externallyVerified : Bool)
  | resetUser (login password : String) (xopts : Option V)
  | setPassword (i password : String)
  | profileField (i field : String) (value : Option V)
  | state (params : Params.State V) (acl : Acl)
  | history (i : Params.SingleOrMulti) (period : Period) (fill : Option (Fill × Option Nat))
      (limit : Option Nat) (prop : Option String) (xopts : V)
  | stateLog (i : OIDMask) (tStart tEnd : Option Rat) (limit : Option Nat) (xopts : V)
  | logGet (params : Params.LogGet V)
  | action (params : Params.Action V)
  | run (params : Params.Run V) (source : String) (acl : Acl)
  | filter (i : OID) (method : String) (params : V) (source : String) (acl : Acl)
  | toggle (params : Params.Toggle)
  | uuid (u : String)
  | item (params : Params.Item)
  | set (params : Params.Set V)
  | xCall (method : String) (params : V) (source : String) (acl : Acl)
  | services (filter : String)
  | id (i : String)

class Values (V : Type) where
  unit : V
  isUnit : V -> Bool
  isEmpty : V -> Bool
  isMap : V -> Bool
  toText : V -> String
  /-- The entry with the key of the caller, and the map without it. -/
  removeKey : V -> Option V × V
  insertKey : String -> V -> V
  asString : V -> EResult String
  asTimestamp : V -> EResult Rat
  decode : (schema : Schema) -> V -> EResult (schema.Params V)
  tokenId : String -> EResult TokenId
  shortString : TokenId -> String
  parseCallStr : String -> EResult (String × V)
  parseOid : String -> EResult OID
  parseUuid : String -> EResult String
  /-- The result of an action with its uuid as a text. -/
  uuidToText : V -> EResult V
  wildcardOid : OIDMask -> EResult OID
  parseFill : String -> EResult Fill
  parseU32 : String -> EResult Nat
  configKey : String -> String -> V -> String
  uid : String -> String
  generateStruct : Params.Language -> V -> DataObject V -> EResult String

end Eva4.Hmi
