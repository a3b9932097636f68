import Eva4.Hmi.Dispatch

/-!
# Read-only sessions

A token in read-only mode does not stop a request by itself: every method checks it, or does not.
-/

namespace Eva4.Hmi

open Lib Dialog
open Items

variable {V : Type}

/-!
## Effects
-/

def coreReads : List String :=
  ["test", "item.state", "action.result", "log.get", "svc.list", "dobj.list", "dobj.get_config"]

def dbReads : List String :=
  ["state_history", "state_log", "state_history_combined"]

def Reads (target method : String) : Prop :=
  (target = "eva.core" ∧ method ∈ coreReads) ∨
    (startsWith target "eva.db." = true ∧ method ∈ dbReads) ∨ method = "user.get_profile_field"

/-- What a read-only session may do: reads, logs, its own mode and time, and the cache of embedded
configurations. -/
def Harmless (own : TokenId) : HmiCall V -> Prop
  | .bus target method _ => Reads target method
  | .setTokenTime id _ => id = own
  | .setTokenMode id _ => id = own
  | .saveToken _ => False
  | .deleteToken _ => False
  | .closeWebsockets _ => False
  | .setUserData _ _ _ => False
  | .deleteUserData _ _ => False
  | .createDirAll _ => False
  | .writeFile _ _ => False
  | .removeFile _ => False
  | _ => True

variable [Values V]

/-- The token is in read-only mode, and the cache keeps the token that a configuration was made
with. -/
def ReadonlyAnswers (own : TokenId) : (c : HmiCall V) -> c.Answer -> Prop
  | .loadToken id, answer => forall t : Token, answer = (.ok (some t) : EResult (Option Token)) ->
      t.id = id ∧ (id = own -> t.isReadonly = true)
  | .ehmiConfigTokenId _, answer =>
    forall ti : String, answer = (.ok (some ti) : EResult (Option String)) ->
      forall id, Values.tokenId V ti = .ok id -> id = own
  | _, _ => True

variable (level : LogLevel)

section Methods

variable {own : TokenId}

/-- The dialog does no harm if the token is read-only. -/
abbrev Safe {R : Type} (own : TokenId) (d : Api V R) : Prop :=
  d.Asks (ReadonlyAnswers own) (Harmless own)

variable {aci : ACI} {key : String} {token : Token} {c : HmiCall V}

lemma safe_ask (h : Harmless own c) : Safe own (ask c) :=
  asks_ask h

lemma safe_tell (h : Harmless own c) : Safe own (tell c) :=
  asks_tell h

lemma safe_lift {x : EResult A} {k : A -> Api V R} (hk : forall a, Safe own (k a)) : Safe own (do
      let a <- x
      k a) :=
  Asks.bind Asks.lift hk

lemma safe_log : Safe own (log level : Api V Unit) :=
  safe_tell trivial

lemma safe_core (h : method ∈ coreReads) (payload : Payload V) :
    Safe own (bus "eva.core" method payload) :=
  safe_ask (Or.inl ⟨rfl, h⟩)

lemma startsWith_append : startsWith (s ++ t) s = true := by
  unfold startsWith
  rw [String.toList_append, List.isPrefixOf_iff_prefix]
  exact List.prefix_append s.toList t.toList

variable (config : HmiConfig)

lemma safe_db (database : Option String) (h : method ∈ dbReads) (payload : Payload V) :
    Safe own (bus (dbSvc config database) method payload) :=
  safe_ask (Or.inr (Or.inl ⟨startsWith_append, h⟩))

theorem safe_checkWrite (h : aci.writable = false) :
    Safe own ((aci.checkWrite : Api V Unit) >>= k) := by
  have herror : aci.checkWrite = .error (accessError "Session is in the read-only mode") := by
    unfold ACI.checkWrite
    rw [h]
    rfl
  rw [herror]
  trivial

/-!
## Methods that check the session
-/

theorem safe_refused (params : EResult A) (level : LogLevel) (h : aci.writable = false)
    (k : A -> Api V R) : Safe own (do
      let p <- params
      log level
      aci.checkWrite
      k p) := by
  apply safe_lift
  intro p
  apply Asks.bind (safe_log level)
  intro _
  exact safe_checkWrite h

lemma safe_itemMethod {level : LogLevel} {method : String} {params : V} (h : aci.writable = false) :
    Safe own (itemMethod config level method params aci) :=
  safe_refused _ level h _

lemma safe_userMethod (level : LogLevel) (h : aci.writable = false) (k : Token -> Api V R) :
    Safe own (do
      log level
      demoModeAbort config
      match aci.auth.getToken with
      | some token => do
        aci.checkWrite
        k token
      | none => .fail errNoUser) := by
  apply Asks.bind (safe_log level)
  intro _
  apply safe_lift
  intro _
  cases aci.auth.getToken with
  | none => exact Asks.fail _
  | some token => exact safe_checkWrite h

lemma safe_busCall (target method : String) {params : V} (h : aci.writable = false) :
    Safe own (methodBusCall config target method params aci) := by
  apply Asks.bind (safe_log .debug)
  intro _
  exact safe_checkWrite h

/-!
## Methods that read
-/

lemma safe_reading {params : EResult A} {k : A -> Api V R} (hk : forall p, Safe own (k p)) :
    Safe own (do
      log level
      let p <- params
      k p) := by
  apply Asks.bind (safe_log level)
  intro _
  exact safe_lift hk

lemma safe_returning {d : Api V A} (h : Safe own d) (f : A -> R) : Safe own (do
      let a <- d
      pure (f a)) :=
  Asks.bind h fun a => Asks.ret (f a)

variable (params : V)

lemma safe_test {aci : ACI} : Safe own (methodTest config params aci) :=
  safe_reading .debug fun _ => safe_returning (safe_core (by decide) _) _

lemma safe_ping (aci : ACI) : Safe own (methodPing params aci) :=
  safe_reading .debug fun _ => Asks.ret _

lemma safe_listNeighbors : Safe own (methodSessionListNeighbors config params aci) := by
  apply safe_reading .debug
  intro _
  split
  · refine safe_returning ?_ _
    exact safe_ask trivial
  · exact Asks.fail _

lemma safe_setReadonly (hauth : aci.auth = .token token) (hown : token.id = own) :
    Safe own (methodSessionSetReadonly params aci) := by
  unfold methodSessionSetReadonly
  rw [hauth]
  apply safe_reading .debug
  intro _
  refine safe_returning ?_ _
  exact safe_ask hown

lemma safe_getProfileField : Safe own (methodGetProfileField params aci) := by
  apply Asks.bind (safe_log .trace)
  intro _
  cases aci.auth.getToken with
  | none => exact Asks.fail _
  | some token =>
    apply safe_lift
    intro field
    refine safe_returning ?_ _
    exact safe_ask (Or.inr (Or.inr rfl))

lemma safe_userDataGet : Safe own (methodUserDataGet params aci) := by
  apply safe_reading .trace
  intro key
  cases aci.auth.getToken with
  | none => exact Asks.fail _
  | some token =>
    refine safe_returning ?_ _
    exact safe_ask trivial

lemma safe_itemState {aci : ACI} : Safe own (methodItemState params aci) :=
  safe_reading .debug fun _ => safe_returning (safe_core (by decide) _) _

lemma safe_itemCheckAccess : Safe own (methodItemCheckAccess params aci) := by
  apply safe_reading .debug
  intro ids
  exact safe_returning Asks.lift _

lemma safe_collectHistory (h : forall mask, Safe own (history mask)) (masks : List OIDMask)
    (times : Option (List Rat)) (columns : List (OIDMask × String × List V)) :
    Safe own (collectHistory history masks times columns) := by
  induction masks generalizing times columns with
  | nil => exact Asks.ret _
  | cons mask rest ih =>
    apply Asks.bind (h mask)
    intro data
    cases times with
    | none => exact ih _ _
    | some ts =>
      apply safe_lift
      intro aligned
      exact ih _ _

section

variable (aci : ACI)

lemma safe_itemStateHistory : Safe own (methodItemStateHistory config params aci) := by
  apply safe_reading .debug
  intro p
  apply safe_lift
  intro period
  apply safe_lift
  intro fill
  cases p.i with
  | single mask =>
    apply safe_lift
    intro _
    apply Asks.bind (safe_db config p.database (by decide) _)
    intro result
    cases p.outputFormat with
    | list => exact Asks.ret _
    | dict => exact safe_returning Asks.lift _
  | multi masks =>
    simp only []
    split
    · exact Asks.fail _
    · split
      · apply safe_lift
        intro _
        apply Asks.bind
        · apply safe_collectHistory
          intro mask
          apply Asks.bind (safe_db config p.database (by decide) _)
          intro result
          exact Asks.lift
        · intro frame
          exact Asks.ret _
      · exact Asks.fail _

lemma safe_itemStateLog : Safe own (methodItemStateLog config params aci) := by
  apply safe_reading .debug
  intro p
  apply safe_lift
  intro oid
  apply safe_lift
  intro _
  apply safe_lift
  intro tStart
  apply safe_lift
  intro tEnd
  exact safe_returning (safe_db config p.database (by decide) _) _

lemma safe_itemStateHistoryCombined :
    Safe own (methodItemStateHistoryCombined config params aci) := by
  apply safe_reading .debug
  intro p
  apply safe_lift
  intro period
  -- Unification would evaluate the parser, whose result does not matter here.
  generalize parseFill V period p.fill = parsed
  apply safe_lift
  intro fill
  apply safe_lift
  intro _
  exact safe_returning (safe_db config p.database (by decide) _) _

lemma safe_apiLogGet : Safe own (methodApiLogGet config params aci) := by
  apply safe_reading .debug
  intro filter
  apply safe_lift
  intro filter'
  refine safe_returning ?_ _
  exact safe_ask trivial

end

lemma safe_logGet : Safe own (methodLogGet params aci) := by
  apply safe_reading .debug
  intro _
  apply safe_lift
  intro p
  exact safe_returning (safe_core (by decide) _) _

lemma safe_actionResult : Safe own (methodActionResult params aci) := by
  apply safe_reading .debug
  intro u
  apply safe_lift
  intro uuid
  apply Asks.bind (safe_core (by decide) _)
  intro reply
  apply safe_lift
  intro result
  apply safe_lift
  intro oid
  exact safe_returning Asks.lift _

lemma safe_dbList (params : V) (aci : ACI) : Safe own (methodDbList config params aci) := by
  apply safe_reading .debug
  intro _
  apply Asks.bind (safe_core (by decide) _)
  intro reply
  exact safe_returning Asks.lift _

lemma safe_llcList (aci : ACI) : Safe own (methodLlcList params aci) := by
  apply safe_reading .debug
  intro _
  apply Asks.bind (safe_core (by decide) _)
  intro reply
  exact safe_returning Asks.lift _

lemma safe_dobjList : Safe own (methodDobjList params aci) := by
  apply safe_reading .debug
  intro _
  apply safe_lift
  intro _
  exact safe_returning (safe_core (by decide) _) _

lemma safe_getDataObject (i : String) : Safe own (getDataObject i : Api V (DataObject V)) := by
  apply Asks.bind (safe_core (by decide) _)
  intro reply
  exact Asks.lift

lemma safe_dobjGetStruct : Safe own (methodDobjGetStruct params aci) := by
  apply safe_reading .debug
  intro _
  apply safe_lift
  intro i
  exact safe_returning (safe_getDataObject i) _

lemma safe_dobjGetStructCode : Safe own (methodDobjGetStructCode params aci) := by
  apply safe_reading .debug
  intro _
  apply safe_lift
  intro p
  apply safe_returning
  apply Asks.collect
  intro i
  apply Asks.bind (safe_getDataObject i)
  intro object
  exact Asks.lift

lemma safe_pvtGet (params : V) : Safe own (methodPvtGet config params aci) := by
  apply safe_reading .debug
  intro requested
  apply safe_lift
  intro path
  apply Asks.bind (Asks.attempt (safe_ask (c := .readToString path) trivial))
  intro content
  exact safe_returning Asks.lift _

lemma safe_pvtList (params : V) : Safe own (methodPvtList config params aci) := by
  apply safe_reading .debug
  intro p
  apply safe_lift
  intro path
  apply Asks.bind (Asks.attempt (safe_ask (c := .listDir path p) trivial))
  intro listed
  exact safe_returning Asks.lift _

/-!
## The token itself
-/

lemma keeps_ask (h : Harmless own c) (hP : forall r, ReadonlyAnswers own c (.ok r) -> P r) :
    (ask c).Keeps (ReadonlyAnswers own) (Harmless own) P := by
  refine Keeps.bind (Keeps.request h fun _ ha => ha) ?_
  intro answer hanswer
  apply Keeps.lift
  intro r hr
  have hanswer_eq : answer = .ok r := hr
  rw [hanswer_eq] at hanswer
  exact hP r hanswer

def IsOwn (own : TokenId) (token : Token) : Prop :=
  token.id = own ∧ token.isReadonly = true

lemma keeps_touch (h : IsOwn own token) :
    (token.touch config : Api V Token).Keeps (ReadonlyAnswers own) (Harmless own) (IsOwn own) := by
  unfold Token.touch
  split
  · refine Keeps.bind (safe_ask h.left) ?_
    intro _ _
    exact h
  · exact h

lemma keeps_getToken :
    (getToken config own ip : Api V Token).Keeps (ReadonlyAnswers own) (Harmless own)
      (IsOwn own) := by
  have hload : (ask (.loadToken own) : Api V (Option Token)).Keeps (ReadonlyAnswers own)
      (Harmless own) fun token => forall t, token = some t -> IsOwn own t := by
    refine keeps_ask (c := .loadToken own) trivial ?_
    intro token hanswer t ht
    rcases hanswer t (congrArg Except.ok ht) with ⟨hid, hmode⟩
    exact ⟨hid, hmode rfl⟩
  refine Keeps.bind hload ?_
  intro token htoken
  cases token with
  | none => trivial
  | some t =>
    refine Keeps.bind Asks.lift ?_
    intro _ _
    refine Keeps.bind Asks.lift ?_
    intro expired _
    split
    · trivial
    · exact keeps_touch config (htoken t rfl)

lemma keeps_tokenId (h : forall id, Values.tokenId V text = .ok id -> id = own) :
    (Values.tokenId V text : Api V TokenId).Keeps (ReadonlyAnswers own) (Harmless own)
      fun id => id = own :=
  Keeps.lift h

def IsKeyOf (V : Type) [Values V] (own : TokenId) (key : String) : Prop :=
  exists text, stripTokenPrefix key = some text ∧ Values.tokenId V text = .ok own

lemma safe_cachedEhmiToken :
    Safe own (cachedEhmiToken config configKey : Api V (Option String)) := by
  have hload : (ask (.ehmiConfigTokenId configKey) : Api V (Option String)).Keeps
      (ReadonlyAnswers own) (Harmless own) fun cached => forall ti, cached = some ti ->
        forall id, Values.tokenId V ti = .ok id -> id = own := by
    refine keeps_ask (c := .ehmiConfigTokenId configKey) trivial ?_
    intro cached hanswer ti hti
    exact hanswer ti (congrArg Except.ok hti)
  refine Keeps.bind hload ?_
  intro cached hcached
  cases cached with
  | none => trivial
  | some ti =>
    refine Keeps.bind (keeps_tokenId (hcached ti rfl)) ?_
    intro id hid
    rw [hid]
    refine Keeps.bind (Keeps.attempt (keeps_getToken config)) ?_
    intro result _
    cases result with
    | ok | error => trivial

section

variable (hkey : IsKeyOf V own key)
include hkey

lemma keeps_authenticate :
    (authenticate config key ip : Api V Auth).Keeps (ReadonlyAnswers own) (Harmless own)
      fun auth => exists token, auth = .token token ∧ IsOwn own token := by
  rcases hkey with ⟨text, htext, hid⟩
  unfold authenticate
  rw [htext]
  refine Keeps.bind (keeps_tokenId fun id hid' => ?_) ?_
  · rw [hid] at hid'
    exact (Except.ok.inj hid').symm
  · intro id hown
    rw [hown]
    refine Keeps.bind (keeps_getToken config) ?_
    intro token htoken
    exact ⟨token, rfl, htoken⟩

lemma safe_ehmiToken : Safe own (ehmiToken config key : Api V Token) := by
  have htoken : startsWith key tokenPrefix = true := by
    rcases hkey with ⟨text, htext, _⟩
    unfold stripTokenPrefix at htext
    split at htext
    · next h => exact h
    · cases htext
  unfold ehmiToken
  rw [htoken]
  refine Keeps.bind (keeps_authenticate config hkey) ?_
  intro auth hauth
  rcases hauth with ⟨token, hauth, _⟩
  rw [hauth]
  trivial

lemma safe_ehmiCreateConfig (params : V) :
    Safe own (methodEhmiCreateConfig config key params aci) := by
  apply safe_reading .debug
  intro p
  cases p.hmiUrl with
  | none => trivial
  | some hmiUrl =>
    apply Asks.bind (safe_cachedEhmiToken config)
    intro cached
    apply safe_returning
    cases cached with
    | some ti => trivial
    | none =>
      apply Asks.bind (safe_ehmiToken config hkey)
      intro token
      refine safe_returning ?_ _
      exact safe_ask trivial

/-!
## Requests
-/

/-- The methods that change stored user data, with parameters that they take. -/
def StoresUserData : Method -> Prop
  | .userDataSet => exists p, decode .userDataSet params = .ok p
  | .userDataDelete => exists key, decode .userDataKey params = .ok key
  | _ => False

omit hkey in
lemma safe_unread {params : EResult A} (h : ¬ exists p, params = .ok p) (k : A -> Api V R) :
    Safe own (do
      log level
      let p <- params
      k p) := by
  apply Asks.bind (safe_log level)
  intro _
  cases params with
  | ok p => exact absurd ⟨p, rfl⟩ h
  | error e => trivial

lemma safe_runMethod (params : V) (hauth : aci.auth = .token token) (hown : IsOwn own token)
    {m : Method} (hm : ¬ StoresUserData params m) :
    Safe own (runMethod config key params aci m) := by
  have hwrite : aci.writable = false := by
    unfold ACI.writable
    rw [hauth]
    simp only [hown.right, Bool.not_true]
  cases m with
  | test => exact safe_test config params
  | ping => exact safe_ping params aci
  | setPassword | resetUser => exact safe_userMethod config .warn hwrite _
  | getProfileField => exact safe_getProfileField params
  | setProfileField => exact safe_userMethod config .info hwrite _
  | itemState => exact safe_itemState params
  | itemCheckAccess => exact safe_itemCheckAccess params
  | itemStateHistory => exact safe_itemStateHistory config params aci
  | itemStateLog => exact safe_itemStateLog config params aci
  | itemStateHistoryCombined => exact safe_itemStateHistoryCombined config params aci
  | logGet => exact safe_logGet params
  | apiLogGet => exact safe_apiLogGet config params aci
  | action | actionToggle | run | lvarSet | lvarDecr | pvtPut | pvtUnlink =>
    exact safe_refused _ .info hwrite _
  | actionResult => exact safe_actionResult params
  | actionKill => exact safe_returning (safe_itemMethod config hwrite) _
  | actionTerminate => exact safe_refused _ .warn hwrite _
  | lvarReset | lvarClear | lvarToggle | lvarIncr =>
    exact safe_returning (safe_itemMethod config hwrite) _
  | sessionListNeighbors => exact safe_listNeighbors config params
  | sessionSetReadonly => exact safe_setReadonly params hauth hown.left
  | ehmiCreateConfig => exact safe_ehmiCreateConfig config hkey params
  | userDataGet => exact safe_userDataGet params
  | userDataSet | userDataDelete => exact safe_unread .trace hm _
  | dbList => exact safe_dbList config params aci
  | llcList => exact safe_llcList params aci
  | pvtGet => exact safe_pvtGet config params
  | pvtList => exact safe_pvtList config params
  | dobjList => exact safe_dobjList params
  | dobjGetStruct => exact safe_dobjGetStruct params
  | dobjGenerateStructCode => exact safe_dobjGetStructCode params

end

lemma route_ne_x (hx : startsWith name "x::" = false) : route name ≠ .ok (.x target method) := by
  intro h
  unfold route at h
  split at h
  · unfold busRoute at h
    split at h
    · injection h with h
      cases h
    · cases h
  · rw [hx] at h
    simp only [Bool.false_eq_true, if_false] at h
    split at h
    · injection h with h
      cases h
    · cases h

def ChangesUserData (name : String) (params : V) : Prop :=
  exists m, route name = .ok (.method m) ∧ StoresUserData params m

lemma safe_logResult (result : EResult (Response V)) : Safe own (logResult result) := by
  cases result with
  | ok | error => exact safe_tell trivial

lemma safe_serve (hx : startsWith name "x::" = false) (hkey : IsKeyOf V own key) {params : V}
    (hdata : ¬ ChangesUserData name params) (hauth : aci.auth = .token token)
    (hown : IsOwn own token) : Safe own (serve config name key params aci) := by
  have hroute : (route name : Api V Route).Keeps (ReadonlyAnswers own) (Harmless own)
      fun r => route name = .ok r :=
    Keeps.lift fun r hr => hr
  refine Keeps.bind hroute ?_
  intro r hr
  have hrun : Safe own (runRoute config key params aci r) := by
    cases r with
    | bus target method =>
      apply safe_busCall
      unfold ACI.writable
      rw [hauth]
      simp only [hown.right, Bool.not_true]
    | x target method => exact absurd hr (route_ne_x hx)
    | method m => exact safe_runMethod config hkey params hauth hown fun h => hdata ⟨m, hr, h⟩
  apply Asks.bind (Asks.attempt hrun)
  intro result
  apply Asks.bind (safe_logResult result)
  intro _
  exact Asks.lift

end Methods

/-- A request that is authenticated by the token, with its method and its other parameters. -/
structure ByToken (own : TokenId) (m : Meta) (method : String) (params : Option V)
    (name key : String) (rest : V) : Prop where
  request : exists p, resolve method params = .ok (name, some p) ∧
    requestKey m p = .ok (some key, rest)
  named : name ≠ "login" ∧ name ≠ "logout" ∧ name ≠ "ehmi.get_config"
  key : IsKeyOf V own key

theorem ByToken.call_eq {key : String} (h : ByToken own m method params name key rest) :
    call config method params m = ((authenticate config key m.ip).attempt >>= fun
      | .error e => tell (.logUnauthorized true) >>= fun _ => .fail e
      | .ok auth => serve config name key rest ⟨auth, name, genSource m.ip⟩ : Api V _) := by
  rcases h.request with ⟨p, hresolve, hkey⟩
  rcases h.named with ⟨hlogin, hlogout, hehmi⟩
  unfold call
  rw [hresolve]
  change callNamed config name (some p) m = _
  unfold callNamed
  rw [if_neg hlogin, if_neg hlogout, if_neg hehmi]
  change authenticatedCall config name p m = _
  unfold authenticatedCall
  rw [hkey]
  rfl

/-!
## What gets through
-/

section Runs

variable {own : TokenId}

lemma returns_ask {c : HmiCall V} {r : c.Reply} (h : ReadonlyAnswers own c (.ok r)) :
    (ask c).Returns (ReadonlyAnswers own) r :=
  Returns.bind (Returns.request h) .ret

lemma returns_log : (log level : Api V Unit).Returns (ReadonlyAnswers own) () :=
  Returns.bind (Returns.attempt (returns_ask (c := .logRequest level) (r := ()) trivial)) .ret

lemma issues_ask (c : HmiCall V) : (ask c).Issues (ReadonlyAnswers own) c :=
  Issues.bind_left .now

def lastToken (config : HmiConfig) (timeout : Int) (own : TokenId) : Token where
  id := own
  mode := tokenModeReadonly
  t := config.now - timeout
  user := "user"
  acl := .ofPvt ⟨[], []⟩ ⟨[], []⟩
  authSvc := "eva.aaa.localauth"
  ip := none

lemma returns_getToken (htimeout : config.sessionTimeout = some timeout) :
    exists token, (getToken config own ip : Api V Token).Returns (ReadonlyAnswers own) token := by
  have hload : (ask (.loadToken own) : Api V (Option Token)).Returns (ReadonlyAnswers own)
      (some (lastToken config timeout own)) := by
    refine returns_ask (c := .loadToken own) ?_
    intro t ht
    injection ht with ht
    cases ht
    exact ⟨rfl, fun _ => rfl⟩
  have hexpired : (lastToken config timeout own).isExpired config = .ok false := by
    unfold Token.isExpired getExpiration
    rw [htimeout]
    change Except.ok (decide (config.now - timeout + timeout < config.now)) = Except.ok false
    rw [Int.sub_add_cancel, decide_eq_false (Int.lt_irrefl config.now)]
  have htouch : exists token, ((lastToken config timeout own).touch config : Api V Token).Returns
      (ReadonlyAnswers own) token := by
    unfold Token.touch
    split
    · exact ⟨_, Returns.bind (returns_ask (c := .setTokenTime own config.now) (r := ())
        trivial) .ret⟩
    · exact ⟨_, .ret⟩
  rcases htouch with ⟨token, htouch⟩
  refine ⟨token, Returns.bind hload ?_⟩
  simp only [hexpired]
  exact htouch

lemma returns_authenticate (htimeout : config.sessionTimeout = some timeout)
    (hkey : IsKeyOf V own key) :
    exists token, (authenticate config key ip : Api V Auth).Returns (ReadonlyAnswers own)
      (.token token) := by
  rcases hkey with ⟨text, htext, hid⟩
  have hreturns : exists token, (getToken config own ip : Api V Token).Returns
      (ReadonlyAnswers own) token := returns_getToken htimeout
  rcases hreturns with ⟨token, htoken⟩
  exists token
  unfold authenticate
  rw [htext]
  simp only [hid]
  exact Returns.bind .ret (Returns.bind htoken .ret)

lemma issues_userDataSet {p : Params.UserDataSet V} (hp : decode .userDataSet params = .ok p)
    (token : Token) (method source : String) :
    (methodUserDataSet params ⟨.token token, method, source⟩).Issues (ReadonlyAnswers own)
      (.setUserData token.user p.key p.value) := by
  refine Issues.bind (returns_log .trace) ?_
  rw [hp]
  exact Issues.bind .ret (Issues.bind_left (issues_ask _))

lemma issues_userDataDelete {params : V} (hkey : decode .userDataKey params = .ok key)
    (method source : String) :
    (methodUserDataDelete params ⟨.token token, method, source⟩).Issues (ReadonlyAnswers own)
      (.deleteUserData token.user key) := by
  refine Issues.bind (returns_log .trace) ?_
  rw [hkey]
  exact Issues.bind .ret (Issues.bind_left (issues_ask _))

lemma issues_call (htimeout : config.sessionTimeout = some timeout)
    {rest : V} (h : ByToken own m method params name key rest)
    (hroute : route name = .ok (.method meth)) {c : Token -> HmiCall V}
    (hissues : forall token source,
      (runMethod config key rest ⟨.token token, name, source⟩ meth).Issues (ReadonlyAnswers own)
        (c token)) :
    exists token, (call config method params m).Issues (ReadonlyAnswers own) (c token) := by
  rcases returns_authenticate htimeout h.key with ⟨token, hauth⟩
  exists token
  rw [h.call_eq]
  refine Issues.bind (Returns.attempt hauth) ?_
  unfold serve
  rw [hroute]
  exact Issues.bind .ret (Issues.bind_left (Issues.attempt (hissues token (genSource m.ip))))

end Runs

/-- A request that is authenticated by a token in read-only mode changes nothing, just if it does
not go to a method that changes user data. -/
theorem readonly_request_harmless_iff {config : HmiConfig} {timeout : Int}
    (htimeout : config.sessionTimeout = some timeout) {own : TokenId} {m : Meta} {method : String}
    {params : Option V} {name key : String} {rest : V}
    (h : ByToken own m method params name key rest) (hx : startsWith name "x::" = false) :
    (forall c, (call config method params m).Issues (ReadonlyAnswers own) c -> Harmless own c) <->
      ¬ ChangesUserData name rest := by
  constructor
  · intro hharmless hdata
    rcases hdata with ⟨meth, hroute, hstores⟩
    cases meth with
    | userDataSet =>
      rcases hstores with ⟨p, hp⟩
      rcases issues_call htimeout h hroute fun token source =>
        issues_userDataSet hp token name source with ⟨token, hissues⟩
      exact hharmless _ hissues
    | userDataDelete =>
      rcases hstores with ⟨dataKey, hkey⟩
      rcases issues_call htimeout h hroute fun token source =>
        issues_userDataDelete hkey name source with ⟨token, hissues⟩
      exact hharmless _ hissues
    | _ => exact hstores
  · intro hdata c hissues
    rw [h.call_eq] at hissues
    refine Keeps.of_issues hissues (P := fun _ => True) ?_
    refine Keeps.bind (Keeps.attempt (keeps_authenticate config h.key)) ?_
    intro result hresult
    cases result with
    | error e => exact Asks.bind (safe_tell trivial) fun _ => Asks.fail e
    | ok auth =>
      rcases hresult with ⟨token, hauth, hown⟩
      exact safe_serve config hx h.key hdata hauth hown

/-!
## Requests with plain values
-/

def noMeta : Meta where
  ip := none
  key := none
  credentials := none
  externalToken := none
  agent := none

def sessionId : TokenId where
  u := "session"
  salt := ""

lemma isKeyOf_session : IsKeyOf Plain sessionId "token:session" :=
  ⟨"session", by decide, rfl⟩

/-- An action is not launched. -/
theorem readonly_action_harmless :
    (exists p, decode .action (Plain.map none (some ("pump", "1"))) = .ok p) ∧
      forall c, (call plainConfig "action"
        (some (Plain.map (some "token:session") (some ("pump", "1")))) noMeta).Issues
          (ReadonlyAnswers sessionId) c -> Harmless sessionId c := by
  have hby : ByToken sessionId noMeta "action"
      (some (Plain.map (some "token:session") (some ("pump", "1")))) "action" "token:session"
      (Plain.map none (some ("pump", "1"))) :=
    ⟨⟨_, rfl, rfl⟩, by decide, isKeyOf_session⟩
  have htimeout : plainConfig.sessionTimeout = some 3600 := rfl
  refine ⟨⟨_, rfl⟩, (readonly_request_harmless_iff htimeout hby (by decide)).mpr ?_⟩
  intro hdata
  rcases hdata with ⟨m, hroute, hstores⟩
  injection hroute with hroute
  cases hroute
  exact hstores

/-- User data is set with a token in read-only mode. -/
theorem readonly_user_data_set : exists token, (call plainConfig "user_data.set"
        (some (Plain.map (some "token:session") (some ("a", "b")))) noMeta).Issues
          (ReadonlyAnswers sessionId) (.setUserData (Token.user token) "a" (.text "b")) ∧
      ¬ Harmless sessionId (.setUserData (Token.user token) "a" (Plain.text "b")) := by
  have hby : ByToken sessionId noMeta "user_data.set"
      (some (Plain.map (some "token:session") (some ("a", "b")))) "user_data.set" "token:session"
      (Plain.map none (some ("a", "b"))) :=
    ⟨⟨_, rfl, rfl⟩, by decide, isKeyOf_session⟩
  have htimeout : plainConfig.sessionTimeout = some 3600 := rfl
  have hroute : route "user_data.set" = .ok (.method .userDataSet) := by rfl
  have hdecode : decode .userDataSet (Plain.map none (some ("a", "b"))) =
      .ok ({ key := "a", value := .text "b" } : Params.UserDataSet Plain) := rfl
  rcases issues_call htimeout hby hroute fun token source =>
    issues_userDataSet hdecode token "user_data.set" source with ⟨token, hissues⟩
  exact ⟨token, hissues, fun hfalse => hfalse⟩

end Eva4.Hmi
