import Eva4.Lib.Machine
import Eva4.Hmi.Dispatch

/-!
# Concurrent logins

Logins, key logins and logouts are dialogs that run at the same time on one table of tokens.  A
login asks whether the account has a token, and saves a new one some calls later.
-/

namespace Eva4.Hmi

open Lib Dialog
open Items

variable {V : Type}

/-!
## The table of tokens
-/

/-- A token of the table; whether a user login made it is kept for the record only. -/
structure StoredToken where
  token : Token
  byLogin : Bool

/-- A user login made the token, for an account that is no administrator. -/
def StoredToken.isSessionOf (user : String) (stored : StoredToken) : Bool :=
  stored.byLogin && !stored.token.acl.admin && stored.token.user == user

variable (failure : Option (Error × Bool))

/-- The outcome of a change; a failed one may have been made. -/
def changeTokens (tokens changed : List StoredToken) : EResult Unit × List StoredToken :=
  match failure with
  | none => (.ok (), changed)
  | some (e, true) => (.error e, changed)
  | some (e, false) => (.error e, tokens)

def readTokens {R : Type} (result : R) : EResult R :=
  match failure with
  | none => .ok result
  | some (e, _) => .error e

def updateToken (id : TokenId) (f : Token -> Token) (tokens : List StoredToken) :
    List StoredToken :=
  tokens.map fun stored =>
    if stored.token.id = id then { stored with token := f stored.token } else stored

def errDuplicate : Error where
  kind := .io
  message := "UNIQUE constraint failed: tokens.id"

def insertToken (tokens : List StoredToken) (new : StoredToken) : EResult Unit × List StoredToken :=
  if tokens.any fun stored => stored.token.id = new.token.id then (.error errDuplicate, tokens)
  else changeTokens failure tokens (tokens ++ [new])

def respond (tokens : List StoredToken) (byLogin : Bool)
    (answers : (c : HmiCall V) -> c.Answer) (failure : Option (Error × Bool)) :
    (c : HmiCall V) -> c.Answer × List StoredToken
  | .saveToken token => insertToken failure tokens { token := token, byLogin := byLogin }
  | .deleteToken id =>
    changeTokens failure tokens (tokens.filter fun stored => stored.token.id ≠ id)
  | .setTokenTime id t =>
    changeTokens failure tokens (updateToken id (fun token => { token with t := t }) tokens)
  | .setTokenMode id mode =>
    changeTokens failure tokens (updateToken id (fun token => { token with mode := mode }) tokens)
  | .loadToken id =>
    (readTokens failure
      ((tokens.find? fun stored => stored.token.id = id).map StoredToken.token), tokens)
  | .isActiveSessionFor login =>
    (readTokens failure (tokens.any fun stored => stored.token.user == login), tokens)
  | c => (answers c, tokens)

/-!
## Tasks
-/

/-- A running request; the login for which its check has found no token is kept for the record
only, until the token is saved. -/
structure LoginTask (V : Type) where
  byLogin : Bool
  cleared : Option String
  dialog : Api V Unit

def LoginTask.pending (task : LoginTask V) : Option String :=
  match task.dialog with
  | .ask _ _ => task.cleared
  | _ => none

structure Sessions (V : Type) where
  tokens : List StoredToken
  tasks : List (LoginTask V)

inductive SessionEvent (V : Type) where
  | login (now : Int) (request : LoginRequest V) (ip : Option String)
  | loginKey (now : Int) (key : String) (ip : Option String)
  | logout (id : TokenId)
  | step (n : Nat) (answers : (c : HmiCall V) -> c.Answer) (failure : Option (Error × Bool))
  | cleanUp (keep : StoredToken -> Bool)

def clearedBy (login : String) : EResult Bool -> Option String
  | .ok false => some login
  | _ => none

def clearedAfter (cleared : Option String) : (c : HmiCall V) -> c.Answer -> Option String
  | .isActiveSessionFor login, answer => clearedBy login answer
  | .saveToken _, _ => none
  | _, _ => cleared

def LoginTask.answered (task : LoginTask V) (c : HmiCall V) (next : c.Answer -> Api V Unit)
    (answer : c.Answer) : LoginTask V :=
  { task with cleared := clearedAfter task.cleared c answer, dialog := next answer }

namespace Sessions

def start (s : Sessions V) (byLogin : Bool) (dialog : Api V Unit) : Sessions V :=
  { s with tasks := s.tasks ++ [{ byLogin := byLogin, cleared := none, dialog := dialog }] }

def advance (s : Sessions V) (n : Nat) (answers : (c : HmiCall V) -> c.Answer)
    (failure : Option (Error × Bool)) (task : LoginTask V) : Option (Sessions V) :=
  match task.dialog with
  | .ask c next =>
    let (answer, tokens) := respond s.tokens task.byLogin answers failure c
    some { tokens := tokens, tasks := s.tasks.set n (task.answered c next answer) }
  | _ => none

variable [Values V]

def step (config : HmiConfig) : Machine (Sessions V) (SessionEvent V)
  | s, .login now request ip =>
    some (s.start true (do
      let _ <- login { config with now := now } request ip config.authSvcs
      pure ()))
  | s, .loginKey now key ip =>
    some (s.start false (do
      let _ <- loginKey { config with now := now } key ip
      pure ()))
  | s, .logout id => some (s.start false (destroyToken id))
  | s, .step n answers failure => s.tasks[n]?.bind (s.advance n answers failure)
  | s, .cleanUp keep => some { s with tokens := s.tokens.filter keep }

def new : Sessions V where
  tokens := []
  tasks := []

/-- No two tokens are for one account that is no administrator. -/
def OneSession (s : Sessions V) : Prop :=
  forall user, s.tokens.countP (StoredToken.isSessionOf user) <= 1

end Sessions

/-!
## The calls of a login
-/

variable [Values V]

/-- An account that is no administrator has the name that was typed. -/
def KeepsName : (c : HmiCall V) -> c.Answer -> Prop
  | .bus _ _ (.login typed _ _ _ _), answer => forall (reply : V) (accepted : AclAndParams),
      answer = (.ok reply : EResult V) -> decode .aclAndParams reply = .ok accepted ->
        accepted.acl.admin = false -> accepted.login.getD typed = typed
  | _, _ => True

/-- A token for an account that is no administrator is saved after the check for its name. -/
def loginRules : Dialog.Rules (HmiCall V) HmiCall.Answer (Option String) where
  answers := KeepsName
  allowed := fun cleared c => forall token, c = .saveToken token ->
    token.acl.admin = false -> cleared = some token.user
  next := clearedAfter

def Quiet : HmiCall V -> Prop
  | .isActiveSessionFor _ => False
  | .saveToken _ => False
  | _ => True

lemma Quiet.allowed {c : HmiCall V} (h : Quiet c) (cleared : Option String) :
    loginRules.allowed cleared c := by
  intro token hc
  rw [hc] at h
  exact False.elim h

lemma Quiet.next {c : HmiCall V} (h : Quiet c) (cleared : Option String) (answer : c.Answer) :
    loginRules.next cleared c answer = cleared := by
  cases c with
  | isActiveSessionFor | saveToken => exact False.elim h
  | _ => rfl

variable {R : Type} {cleared : Option String} {d : Api V R}

lemma follows_quiet (h : d.Asks KeepsName Quiet) (cleared : Option String) :
    d.Follows loginRules (fun s _ => s = cleared) cleared :=
  Follows.of_asks h (fun _ hc => hc.allowed cleared)
    fun _ hc => hc.next cleared

lemma quiet_touch {token : Token} : (token.touch config : Api V Token).Asks KeepsName Quiet := by
  unfold Token.touch
  split
  · exact Asks.bind (asks_ask trivial) fun _ => Asks.ret _
  · exact Asks.ret _

lemma quiet_getToken {config : HmiConfig} {id : TokenId} {ip : Option String} :
    (getToken config id ip : Api V Token).Asks KeepsName Quiet := by
  apply Asks.bind (asks_ask trivial)
  intro loaded
  cases loaded with
  | none => exact Asks.fail _
  | some token =>
    apply Asks.bind Asks.lift
    intro _
    apply Asks.bind Asks.lift
    intro expired
    cases expired with
    | true => exact Asks.fail _
    | false => exact quiet_touch

lemma quiet_setNormal {config : HmiConfig} {login ti : String} {ip : Option String} :
    (setNormal config login ti ip : Api V Token).Asks KeepsName Quiet := by
  apply Asks.bind Asks.lift
  intro id
  apply Asks.bind quiet_getToken
  intro token
  split
  · exact Asks.fail _
  · split
    · exact Asks.bind (asks_ask trivial) fun _ => Asks.ret _
    · exact Asks.ret _

lemma quiet_log : (log level : Api V Unit).Asks KeepsName Quiet :=
  asks_tell trivial

abbrev Checked {R : Type} (d : Api V R) (cleared : Option String) : Prop :=
  d.Follows loginRules (fun _ _ => True) cleared

lemma Checked.of_quiet (h : d.Asks KeepsName Quiet) : Checked d cleared :=
  (follows_quiet h cleared).mono fun _ _ _ => trivial

lemma Checked.bind (hd : Checked d cleared) (hk : forall s r, Checked (k r) s) :
    Checked (d >>= k) cleared :=
  Follows.bind hd (fun s r _ => hk s r) fun _ _ _ => trivial

lemma Checked.after_quiet (hd : d.Asks KeepsName Quiet) (hk : forall r, Checked (k r) cleared) :
    Checked (d >>= k) cleared := by
  refine Follows.bind (follows_quiet hd cleared) ?_ fun _ _ _ => trivial
  intro s r hs
  rw [hs]
  exact hk r

lemma checked_createToken (h : acl.admin = false -> cleared = some user) :
    Checked (createToken config user acl svc ip : Api V Token) cleared := by
  unfold createToken
  cases config.sessionTimeout with
  | none => trivial
  | some timeout =>
    refine Checked.after_quiet (d := ask .newTokenId) (asks_ask trivial) ?_
    intro id
    refine Checked.bind (follows_ask ?_ fun _ _ => trivial) fun _ _ => trivial
    intro token htoken hadmin
    injection htoken with htoken
    rw [← htoken] at hadmin
    rw [← htoken]
    exact h hadmin

theorem follows_checkConcurrent (hconfig : config.allowConcurrent = false) (typed : String) :
    (checkConcurrent config typed acl : Api V Unit).Follows loginRules
      (fun s => onResult fun _ => acl.admin = false -> s = some typed) cleared := by
  unfold checkConcurrent
  rw [hconfig]
  cases hadmin : acl.admin with
  | true =>
    intro h
    cases h
  | false =>
    have hask : (ask (.isActiveSessionFor typed) : Api V Bool).Follows loginRules
        (fun s r => r = .ok false -> s = some typed) cleared := by
      apply follows_ask
      · intro token htoken
        cases htoken
      · intro answer _ hanswer
        rw [hanswer]
        rfl
    refine Follows.bind hask ?_ fun _ _ _ => trivial
    intro s active hs
    cases active with
    | true => trivial
    | false =>
      intro _
      exact hs rfl

lemma checked_acceptLogin (hconfig : config.allowConcurrent = false) {request : LoginRequest V}
    {ip : Option String} {svc : String} (hname : accepted.acl.admin = false ->
      accepted.login.getD request.login = request.login) {cleared : Option String} :
    Checked (acceptLogin config request ip svc accepted) cleared := by
  refine Follows.bind (follows_checkConcurrent hconfig request.login)
    ?_ fun _ _ _ => trivial
  intro s _ hs
  cases request.tokenId with
  | some ti => exact Checked.of_quiet quiet_setNormal
  | none =>
    have hfree : accepted.acl.admin = false -> s = some (accepted.login.getD request.login) := by
      intro hadmin
      rw [hname hadmin]
      exact hs hadmin
    refine Checked.bind (checked_createToken hfree) ?_
    intro _ token
    apply Checked.after_quiet quiet_log
    intro _
    exact Checked.after_quiet (asks_tell trivial) fun _ => trivial

theorem checked_login (hconfig : config.allowConcurrent = false) (request : LoginRequest V)
    (ip : Option String) (svcs : List String) (cleared : Option String) :
    Checked (login config request ip svcs) cleared := by
  induction svcs with
  | nil =>
    apply Checked.after_quiet quiet_log
    intro _
    exact Checked.after_quiet (asks_tell trivial) fun _ => trivial
  | cons svc rest ih =>
    have hbus : (bus svc "auth.user" (.login request.login request.password (genSource ip)
        request.xopts request.externallyVerified)).attempt.Follows loginRules
        (fun s r => s = cleared ∧ forall (reply : V) accepted, r = .ok (.ok reply) ->
          decode .aclAndParams reply = .ok accepted -> accepted.acl.admin = false ->
            accepted.login.getD request.login = request.login) cleared := by
      apply Follows.attempt
      apply follows_ask
      · exact Quiet.allowed (c := .bus _ _ _) trivial cleared
      · intro answer hanswer
        refine ⟨rfl, ?_⟩
        intro reply accepted hreply hdecode
        injection hreply with hreply
        exact hanswer reply accepted hreply hdecode
    refine Follows.bind hbus ?_ fun _ _ _ => trivial
    intro s r hr
    rw [hr.left]
    cases r with
    | error e =>
      show Checked (if endsLogin e = true then _ else _) cleared
      split
      · trivial
      · exact ih
    | ok reply =>
      refine Follows.bind (P := fun s r => s = cleared ∧ decode .aclAndParams reply = r)
        (.lift ⟨rfl, rfl⟩) ?_ fun _ _ _ => trivial
      intro _ accepted hdecode
      rw [hdecode.left]
      exact checked_acceptLogin hconfig
        (hr.right reply accepted rfl hdecode.right)

end Eva4.Hmi
