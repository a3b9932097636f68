import Eva4.Lib.Table
import Eva4.Lib.Machine
import Eva4.Items.Basic

/-!
# One-time users

A one-time user gets a random login and a random password.  The first authentication request
with its login takes the account out of the table entry, and a clean-up pass drops the entries
that are used or expired.
-/

namespace Eva4.LocalAuth

open Lib Table
open Items

variable {D : Type}

/-!
## Passwords
-/

structure Digests (D : Type) where
  sha256 : String -> D
  sha512 : String -> D
  pbkdf2Hmac : String -> D -> EResult D

inductive Password (D : Type) where
  | sha256 (hash : D)
  | sha512 (hash : D)
  | pbkdf2 (salt hash : D)

variable (digests : Digests D)

def Password.verify [DecidableEq D] (password : String) : Password D -> EResult Bool
  | .sha256 hash => .ok (digests.sha256 password = hash)
  | .sha512 hash => .ok (digests.sha512 password = hash)
  | .pbkdf2 salt hash => do
    let passwordHash <- digests.pbkdf2Hmac password salt
    .ok (passwordHash = hash)

structure User (D : Type) where
  login : String
  password : Password D
  acls : List String

/-!
## Table entries
-/

/-- An entry; the serial number of its creation is kept for the record only. -/
structure OneTimeUser (D : Type) where
  serial : Nat
  created : Nat
  user : Option (User D)

def errInvalidLoginPass : Error where
  kind := .accessDenied
  message := "invalid login/password"

def errUsedTwice : Error where
  kind := .accessDenied
  message := "one-time account can not be used twice"

namespace OneTimeUser

def create (serial now : Nat) (login passwordPlain : String)
    (acls : List String) : OneTimeUser D where
  serial := serial
  created := now
  user := some { login := login, password := .sha256 (digests.sha256 passwordPlain), acls := acls }

/-- The account is taken out before its password is verified. -/
def getAcls [DecidableEq D] (password : String) (entry : OneTimeUser D) :
    EResult (List String) × OneTimeUser D :=
  match entry.user with
  | some user =>
    match user.password.verify digests password with
    | .ok true => (.ok user.acls, { entry with user := none })
    | .ok false => (.error errInvalidLoginPass, { entry with user := none })
    | .error e => (.error e, { entry with user := none })
  | none => (.error errUsedTwice, entry)

def isValid (expires now : Nat) (entry : OneTimeUser D) : Bool :=
  decide (now - entry.created < expires) && entry.user.isSome

end OneTimeUser

/-!
## The service
-/

/-- What a creation request returned, with the time of the creation. -/
structure Issued where
  login : String
  password : String
  created : Nat
deriving DecidableEq

structure Authenticated where
  serial : Nat
  password : String
  time : Nat
deriving DecidableEq

structure OneTimeConfig (D : Type) where
  digests : Digests D
  oneTimeExpires : Option Nat
  users : Table String (User D)
  otpSvc : Bool

/-- The table and the clock, with the record of what was issued and accepted. -/
structure OneTimeService (D : Type) where
  now : Nat
  oneTimeUsers : Table String (OneTimeUser D)
  issued : List Issued
  authenticated : List Authenticated

structure AuthUser where
  login : String
  password : String
  externallyVerified : Bool
  otpCheck : EResult Unit
  aclFormat : EResult String

inductive OneTimeEvent where
  | createOneTime (login : Option String) (acls : List String)
      (random : List (EResult String)) (password : EResult String)
  | authUser (request : AuthUser)
  | clearOneTimeUsers
  | elapse (duration : Nat)

def oneTimeUserPrefix : String := "OT."

def stripOneTimeUserPrefix (login : String) : Option String :=
  if oneTimeUserPrefix.toList.isPrefixOf login.toList then
    some (String.ofList (login.toList.drop oneTimeUserPrefix.toList.length))
  else none

def errNotEnabled : Error where
  kind := .unsupported
  message := "one-time users are not enabled"

variable (config : OneTimeConfig D) (s : OneTimeService D)

namespace OneTimeService

def new (now : Nat) : OneTimeService D where
  now := now
  oneTimeUsers := ∅
  issued := []
  authenticated := []

/-- The random strings are tried in turn; the loop goes on if there are no more. -/
def freshLogin (s : OneTimeService D) (login : Option String) :
    List (EResult String) -> Option (EResult String)
  | [] => none
  | .error e :: _ => some (.error e)
  | .ok randStr :: rest =>
    let name := match login with
      | some l => l ++ "." ++ randStr
      | none => randStr
    match s.oneTimeUsers.lookup name with
    | none => some (.ok name)
    | some _ => freshLogin s login rest

def issue (name passwordPlain : String) (acls : List String) : OneTimeService D :=
  { s with
    oneTimeUsers := s.oneTimeUsers.insert name
      (.create config.digests s.issued.length s.now name passwordPlain acls)
    issued := s.issued ++
      [{ login := oneTimeUserPrefix ++ name, password := passwordPlain, created := s.now }] }

def createOneTime (login : Option String)
    (acls : List String) (random : List (EResult String)) (password : EResult String) :
    Option (EResult (String × String) × OneTimeService D) :=
  match config.oneTimeExpires with
  | none => some (.error errNotEnabled, s)
  | some _ =>
    match s.freshLogin login random with
    | none => none
    | some (.error e) => some (.error e, s)
    | some (.ok name) =>
      match password with
      | .error e => some (.error e, s)
      | .ok passwordPlain =>
        some (.ok (oneTimeUserPrefix ++ name, passwordPlain),
          s.issue config name passwordPlain acls)

def accept (entry : OneTimeUser D) (r : AuthUser) (now : Nat) : Authenticated where
  serial := entry.serial
  password := r.password
  time := now

variable [DecidableEq D]

def accountAcls (r : AuthUser) : EResult (List String × Bool) × OneTimeService D :=
  match stripOneTimeUserPrefix r.login with
  | some name =>
    match s.oneTimeUsers.lookup name with
    | some entry =>
      match entry.getAcls config.digests r.password with
      | (.ok acls, entry') =>
        (.ok (acls, true),
          { s with
            oneTimeUsers := s.oneTimeUsers.insert name entry'
            authenticated := s.authenticated ++ [accept entry r s.now] })
      | (.error e, entry') =>
        (.error e, { s with oneTimeUsers := s.oneTimeUsers.insert name entry' })
    | none => (.error errInvalidLoginPass, s)
  | none =>
    match config.users.lookup r.login with
    | some user =>
      if r.externallyVerified then (.ok (user.acls, false), s)
      else
        match user.password.verify config.digests r.password with
        | .ok true => (.ok (user.acls, false), s)
        | .ok false => (.error errInvalidLoginPass, s)
        | .error e => (.error e, s)
    | none => (.error errInvalidLoginPass, s)

def authUser (r : AuthUser) : EResult String × OneTimeService D :=
  match s.accountAcls config r with
  | (.ok (_, oneTime), s') =>
    if !oneTime && !r.externallyVerified && config.otpSvc then
      (r.otpCheck.bind fun _ => r.aclFormat, s')
    else (r.aclFormat, s')
  | (.error e, s') => (.error e, s')

/-- The clean-up passes run only if one-time users are enabled. -/
def clearOneTimeUsers : Option (OneTimeService D) :=
  config.oneTimeExpires.map fun expires =>
    { s with oneTimeUsers := s.oneTimeUsers.retain fun _ entry => entry.isValid expires s.now }

def step : Machine (OneTimeService D) OneTimeEvent
  | s, .createOneTime login acls random password =>
    (s.createOneTime config login acls random password).map Prod.snd
  | s, .authUser request => some (s.authUser config request).2
  | s, .clearOneTimeUsers => s.clearOneTimeUsers config
  | s, .elapse duration => some { s with now := s.now + duration }

/-!
## What an event does
-/

/-- The account is out of the entry afterwards, whether its password was the given one or not. -/
theorem getAcls_spec (password : String) (entry : OneTimeUser D) :
    (entry.getAcls digests password).2 = { entry with user := none } ∧
      forall acls, (entry.getAcls digests password).1 = .ok acls ->
        exists user, entry.user = some user ∧ user.password.verify digests password = .ok true := by
  unfold OneTimeUser.getAcls
  split
  · next user huser =>
    split
    · next hverify => exact ⟨rfl, fun _ _ => ⟨user, huser, hverify⟩⟩
    · refine ⟨rfl, ?_⟩
      intro acls h
      cases h
    · refine ⟨rfl, ?_⟩
      intro acls h
      cases h
  · next hused =>
    constructor
    · cases entry
      cases hused
      rfl
    · intro acls h
      cases h

def useUp (name : String) (entry : OneTimeUser D) : OneTimeService D :=
  { s with oneTimeUsers := s.oneTimeUsers.insert name { entry with user := none } }

def record (a : Authenticated) : OneTimeService D :=
  { s with authenticated := s.authenticated ++ [a] }

/-- A request leaves the service as it is, or uses up the entry of its login. -/
inductive Answered (config : OneTimeConfig D) (s : OneTimeService D) (r : AuthUser) :
    OneTimeService D -> Prop where
  | same : Answered config s r s
  | refused {name : String} {entry : OneTimeUser D}
      (hname : stripOneTimeUserPrefix r.login = some name)
      (hentry : s.oneTimeUsers.lookup name = some entry) :
      Answered config s r (s.useUp name entry)
  | accepted {name : String} {entry : OneTimeUser D} {user : User D}
      (hname : stripOneTimeUserPrefix r.login = some name)
      (hentry : s.oneTimeUsers.lookup name = some entry) (huser : entry.user = some user)
      (hverify : user.password.verify config.digests r.password = .ok true) :
      Answered config s r ((s.useUp name entry).record (accept entry r s.now))

lemma accountAcls_answered (r : AuthUser) : Answered config s r (s.accountAcls config r).2 := by
  unfold accountAcls
  split
  · next name hname =>
    split
    · next entry hentry =>
      have hspec := getAcls_spec config.digests r.password entry
      split
      · next acls entry' hacls =>
        rw [hacls] at hspec
        rcases hspec.right acls rfl with ⟨user, huser, hverify⟩
        rw [show entry' = { entry with user := none } from hspec.left]
        exact .accepted hname hentry huser hverify
      · next e entry' hacls =>
        rw [hacls] at hspec
        rw [show entry' = { entry with user := none } from hspec.left]
        exact .refused hname hentry
    · exact .same
  · split
    · split
      · exact .same
      · split
        · exact .same
        · exact .same
        · exact .same
    · exact .same

lemma authUser_answered {r : AuthUser} : Answered config s r (s.authUser config r).2 := by
  have hanswered := accountAcls_answered config s r
  unfold authUser
  split
  · next hacls =>
    rw [hacls] at hanswered
    split
    · exact hanswered
    · exact hanswered
  · next hacls =>
    rw [hacls] at hanswered
    exact hanswered

theorem authUser_recorded {r : AuthUser} (hname : stripOneTimeUserPrefix r.login = some name)
    (h : (s.authUser config r).1 = .ok reply) : exists entry,
      s.oneTimeUsers.lookup name = some entry ∧
      (s.authUser config r).2.authenticated = s.authenticated ++ [accept entry r s.now] := by
  unfold authUser accountAcls at h ⊢
  rw [hname] at h ⊢
  dsimp only at h ⊢
  cases hlookup : s.oneTimeUsers.lookup name with
  | none =>
    rw [hlookup] at h
    cases h
  | some entry =>
    rw [hlookup] at h
    refine ⟨entry, rfl, ?_⟩
    dsimp only at h ⊢
    generalize entry.getAcls config.digests r.password = answer at h
    rcases answer with ⟨acls, entry'⟩
    cases acls with
    | error e => cases h
    | ok acls => rfl

variable {s} {s' : OneTimeService D} {config} {e : OneTimeEvent} {name : String}
  {entry : OneTimeUser D} {P : Authenticated -> Issued -> Prop}

omit [DecidableEq D] in
lemma createOneTime_cases
    (h : (s.createOneTime config login acls random password).map Prod.snd = some s') :
    s' = s ∨ exists name passwordPlain, s' = s.issue config name passwordPlain acls := by
  unfold createOneTime at h
  split at h
  · injection h with hs'
    exact Or.inl hs'.symm
  · split at h
    · cases h
    · injection h with hs'
      exact Or.inl hs'.symm
    · next name _ =>
      split at h
      · injection h with hs'
        exact Or.inl hs'.symm
      · next passwordPlain =>
        injection h with hs'
        exact Or.inr ⟨name, passwordPlain, hs'.symm⟩

inductive Does (config : OneTimeConfig D) (s : OneTimeService D) (e : OneTimeEvent) :
    OneTimeService D -> Prop where
  | nothing : Does config s e s
  | issues (name passwordPlain : String) (acls : List String) :
      Does config s e (s.issue config name passwordPlain acls)
  | answers {r : AuthUser} {s' : OneTimeService D} (he : e = .authUser r)
      (hanswered : Answered config s r s') : Does config s e s'
  | retains (keep : String -> OneTimeUser D -> Bool) :
      Does config s e { s with oneTimeUsers := s.oneTimeUsers.retain keep }
  | waits (duration : Nat) : Does config s e { s with now := s.now + duration }

lemma step_does (hstep : step config s e = some s') : Does config s e s' := by
  cases e with
  | createOneTime login acls random password =>
    rcases createOneTime_cases hstep with hsame | hissue
    · rw [hsame]
      exact .nothing
    · rcases hissue with ⟨name, passwordPlain, hs'⟩
      rw [hs']
      exact .issues name passwordPlain acls
  | authUser r =>
    cases hstep
    exact .answers rfl (authUser_answered config s)
  | clearOneTimeUsers =>
    rcases Option.map_eq_some_iff.mp hstep with ⟨expires, _, hs'⟩
    rw [← hs']
    exact .retains _
  | elapse duration =>
    cases hstep
    exact .waits duration

/-!
## Every run
-/

/-- No two requests were accepted for one user. -/
def AtMostOnce (s : OneTimeService D) : Prop :=
  (s.authenticated.map Authenticated.serial).Nodup

/-- The accepted passwords are those that were issued with the users. -/
def OwnPassword (s : OneTimeService D) : Prop :=
  forall a, a ∈ s.authenticated -> exists i, s.issued[a.serial]? = some i ∧ a.password = i.password

section

variable (config : OneTimeConfig D) (s : OneTimeService D)

/-- No request was accepted after the user had expired. -/
def InTime : Prop :=
  forall expires, config.oneTimeExpires = some expires -> forall a, a ∈ s.authenticated ->
    exists i, s.issued[a.serial]? = some i ∧ a.time < i.created + expires

/-- The given password has the digest of no other password that was issued. -/
def NoCollision : OneTimeEvent -> Prop
  | .authUser r => forall i, i ∈ s.issued ->
      config.digests.sha256 r.password = config.digests.sha256 i.password -> r.password = i.password
  | _ => True

def account (r : AuthUser) : Option (OneTimeUser D) :=
  (stripOneTimeUserPrefix r.login).bind fun name => s.oneTimeUsers.lookup name

/-- A request for an account that has not been used comes before it expires. -/
def Timely : OneTimeEvent -> Prop
  | .authUser r => forall entry expires, s.account r = some entry -> entry.user.isSome ->
      config.oneTimeExpires = some expires -> entry.isValid expires s.now
  | _ => True

def Recorded (P : Authenticated -> Issued -> Prop) (s : OneTimeService D) : Prop :=
  forall a, a ∈ s.authenticated -> exists i, s.issued[a.serial]? = some i ∧ P a i

structure Sound : Prop where
  issued : forall {name : String} {entry : OneTimeUser D},
    s.oneTimeUsers.lookup name = some entry -> exists i, s.issued[entry.serial]? = some i ∧
      i.login = oneTimeUserPrefix ++ name ∧ i.created = entry.created ∧
      forall user, entry.user = some user ->
        user.password = .sha256 (config.digests.sha256 i.password)
  unused : forall {name : String} {entry : OneTimeUser D},
    s.oneTimeUsers.lookup name = some entry -> entry.user ≠ none ->
      forall a, a ∈ s.authenticated -> a.serial ≠ entry.serial
  once : s.AtMostOnce
  known : s.Recorded fun _ _ => True

end

section

omit [DecidableEq D]

lemma new_sound {config : OneTimeConfig D} {now : Nat} : (new now).Sound config where
  issued := fun h => by cases h
  unused := fun h => by cases h
  once := List.nodup_nil
  known := fun _ ha => absurd ha List.not_mem_nil

lemma Sound.name_unique (h : s.Sound config) (hentry : s.oneTimeUsers.lookup name = some entry)
    (hother : s.oneTimeUsers.lookup other = some entry') (hserial : entry.serial = entry'.serial) :
    name = other := by
  rcases h.issued hentry with ⟨i, hi, hlogin, _⟩
  rcases h.issued hother with ⟨j, hj, hlogin', _⟩
  rw [hserial, hj] at hi
  injection hi with hij
  rw [← hij, hlogin'] at hlogin
  have hlists := congrArg String.toList hlogin
  rw [String.toList_append, String.toList_append] at hlists
  exact String.toList_inj.mp (List.append_cancel_left hlists).symm

lemma issued_of_issue {n : Nat} (h : s.issued[n]? = some i) :
    (s.issue config name passwordPlain acls).issued[n]? = some i := by
  unfold issue
  rw [List.getElem?_append_left (List.getElem?_eq_some_iff.mp h).1]
  exact h

lemma Recorded.issue (h : s.Recorded P) : (s.issue config name passwordPlain acls).Recorded P := by
  intro a ha
  rcases h a ha with ⟨i, hi, hrelated⟩
  exact ⟨i, issued_of_issue hi, hrelated⟩

lemma Recorded.record (h : s.Recorded P) (hi : s.issued[a.serial]? = some i) (hrelated : P a i) :
    (s.record a).Recorded P := by
  intro b hb
  rcases List.mem_append.mp hb with hold | hnew
  · exact h b hold
  · rw [List.mem_singleton.mp hnew]
    exact ⟨i, hi, hrelated⟩

variable (h : s.Sound config)
include h

lemma Sound.issue : (s.issue config name passwordPlain acls).Sound config where
  issued := by
    intro other entry hentry
    unfold OneTimeService.issue at hentry
    rw [lookup_insert_if] at hentry
    split at hentry
    · next heq =>
      injection hentry with hentry
      rw [← hentry, heq]
      refine ⟨_, List.getElem?_concat_length, rfl, rfl, ?_⟩
      intro user huser
      injection huser with huser
      rw [← huser]
    · rcases h.issued hentry with ⟨i, hi, hrest⟩
      exact ⟨i, issued_of_issue hi, hrest⟩
  unused := by
    intro other entry hentry hfresh a ha
    unfold OneTimeService.issue at hentry
    rw [lookup_insert_if] at hentry
    split at hentry
    · injection hentry with hentry
      rcases h.known a ha with ⟨i, hi, _⟩
      rw [← hentry]
      exact Nat.ne_of_lt (List.getElem?_eq_some_iff.mp hi).1
    · exact h.unused hentry hfresh a ha
  once := h.once
  known := h.known.issue

lemma Sound.useUp (hentry : s.oneTimeUsers.lookup name = some entry) :
    (s.useUp name entry).Sound config where
  issued := by
    intro other entry' hentry'
    unfold OneTimeService.useUp at hentry'
    rw [lookup_insert_if] at hentry'
    split at hentry'
    · next heq =>
      injection hentry' with hentry'
      rcases h.issued hentry with ⟨i, hi, hlogin, hcreated, _⟩
      rw [← hentry', heq]
      refine ⟨i, hi, hlogin, hcreated, ?_⟩
      intro user huser
      cases huser
    · exact h.issued hentry'
  unused := by
    intro other entry' hentry' hfresh
    unfold OneTimeService.useUp at hentry'
    rw [lookup_insert_if] at hentry'
    split at hentry'
    · cases hentry'
      exact absurd rfl hfresh
    · exact h.unused hentry' hfresh
  once := h.once
  known := h.known

lemma Sound.record (hentry : s.oneTimeUsers.lookup name = some entry) (hfresh : entry.user ≠ none) :
    ((s.useUp name entry).record (accept entry r s.now)).Sound config where
  issued := (h.useUp hentry).issued
  unused := by
    intro other entry' hentry' hfresh' a ha
    rcases List.mem_append.mp ha with hold | hnew
    · exact (h.useUp hentry).unused hentry' hfresh' a hold
    · rw [List.mem_singleton.mp hnew]
      intro hserial
      unfold OneTimeService.record OneTimeService.useUp at hentry'
      rw [lookup_insert_if] at hentry'
      split at hentry'
      · cases hentry'
        exact hfresh' rfl
      · next hne => exact hne (h.name_unique hentry' hentry hserial.symm)
  once := by
    unfold AtMostOnce OneTimeService.record
    rw [List.map_append]
    apply List.nodup_append.mpr
    refine ⟨h.once, List.nodup_singleton _, ?_⟩
    intro serial hserial other hother heq
    rcases List.mem_map.mp hserial with ⟨a, ha, hserial⟩
    rw [List.map_singleton, List.mem_singleton] at hother
    apply h.unused hentry hfresh a ha
    rw [hserial, heq, hother]
    rfl
  known := by
    rcases h.issued hentry with ⟨i, hi, _⟩
    exact (h.useUp hentry).known.record hi trivial

lemma Sound.retain : { s with oneTimeUsers := s.oneTimeUsers.retain keep }.Sound config :=
  { h with
    issued := fun hentry => h.issued (lookup_of_retain hentry)
    unused := fun hentry => h.unused (lookup_of_retain hentry) }

end

lemma Sound.digest_eq (h : s.Sound config) (hentry : s.oneTimeUsers.lookup name = some entry)
    (huser : entry.user = some user)
    (hverify : user.password.verify config.digests password = .ok true) :
    exists i, s.issued[entry.serial]? = some i ∧ i.created = entry.created ∧
      config.digests.sha256 password = config.digests.sha256 i.password := by
  rcases h.issued hentry with ⟨i, hi, _, hcreated, hpassword⟩
  rw [hpassword user huser] at hverify
  injection hverify with hverify
  exact ⟨i, hi, hcreated, of_decide_eq_true hverify⟩

lemma Sound.step (h : s.Sound config) (hstep : OneTimeService.step config s e = some s') :
    s'.Sound config := by
  cases step_does hstep with
  | nothing => exact h
  | issues name passwordPlain acls => exact h.issue
  | @answers r _ he hanswered =>
    cases hanswered with
    | same => exact h
    | refused _ hentry => exact h.useUp hentry
    | accepted _ hentry huser hverify =>
      exact h.record hentry (by rw [huser]; exact Option.some_ne_none _)
  | retains keep => exact h.retain
  | waits duration => exact ⟨h.issued, h.unused, h.once, h.known⟩

theorem Recorded.step (h : s.Recorded P) (hsound : s.Sound config)
    (hstep : OneTimeService.step config s e = some s')
    (hnew : forall r entry i, e = .authUser r -> s.account r = some entry ->
      entry.user.isSome -> s.issued[entry.serial]? = some i -> i.created = entry.created ->
      config.digests.sha256 r.password = config.digests.sha256 i.password ->
      P (accept entry r s.now) i) : s'.Recorded P := by
  cases step_does hstep with
  | nothing => exact h
  | issues name passwordPlain acls => exact h.issue
  | @answers r _ he hanswered =>
    cases hanswered with
    | same | refused => exact h
    | @accepted name entry user hname hentry huser hverify =>
      rcases hsound.digest_eq hentry huser hverify with ⟨i, hi, hcreated, hdigest⟩
      have haccount : s.account r = some entry :=
        Option.bind_eq_some_iff.mpr ⟨name, hname, hentry⟩
      have hsome : entry.user.isSome := by
        rw [huser]
        rfl
      have hused : (s.useUp name entry).Recorded P := h
      exact hused.record hi (hnew r entry i he haccount hsome hi hcreated hdigest)
  | retains | waits => exact h

lemma OwnPassword.step (h : s.OwnPassword) (hsound : s.Sound config)
    (hcollision : NoCollision config s e) (hstep : OneTimeService.step config s e = some s') :
    s'.OwnPassword := by
  apply Recorded.step h hsound hstep
  intro r entry i he _ _ hi _ hdigest
  rw [he] at hcollision
  exact hcollision i (List.mem_of_getElem? hi) hdigest

lemma InTime.step (h : s.InTime config) (hsound : s.Sound config) (htimely : Timely config s e)
    (hstep : OneTimeService.step config s e = some s') : s'.InTime config := by
  intro expires hexpires
  apply Recorded.step (h expires hexpires) hsound hstep
  intro r entry i he haccount hsome _ hcreated _
  rw [he] at htimely
  have hvalid := htimely entry expires haccount hsome hexpires
  have helapsed := of_decide_eq_true (Bool.and_eq_true_iff.mp hvalid).left
  change s.now < i.created + expires
  omega

section

variable (config : OneTimeConfig D)

/-- A login of a one-time user that is granted is recorded for a user who was given this login.
A one-time user logs in at most once, and with its own password unless another one has the same
digest; and never after it has expired, if no request comes between its expiration and the next
clean-up pass. -/
theorem one_time_users_log_in_once (config : OneTimeConfig D) (now : Nat) :
    (forall s r name reply, Machine.Reaches (step config) (fun _ _ => True) (new now) s ->
      stripOneTimeUserPrefix r.login = some name -> (s.authUser config r).1 = .ok reply ->
        exists n i, s.issued[n]? = some i ∧ i.login = oneTimeUserPrefix ++ name ∧
          (s.authUser config r).2.authenticated = s.authenticated ++
            [{ serial := n, password := r.password, time := s.now }]) ∧
    (forall s, Machine.Reaches (step config) (fun _ _ => True) (new now) s -> s.AtMostOnce) ∧
    (forall s, Machine.Reaches (step config) (NoCollision config) (new now) s ->
      s.AtMostOnce ∧ s.OwnPassword) ∧ (forall s, Machine.Reaches (step config)
        (fun s e => NoCollision config s e ∧ Timely config s e) (new now) s ->
      s.AtMostOnce ∧ s.OwnPassword ∧ s.InTime config) := by
  have hown : (new now : OneTimeService D).OwnPassword := fun _ ha => absurd ha List.not_mem_nil
  have hsound : forall {s}, Machine.Reaches (step config) (fun _ _ => True) (new now) s ->
      s.Sound config := by
    intro s hrun
    exact hrun.invariant (I := fun s => s.Sound config) new_sound fun h _ hstep => h.step hstep
  refine ⟨?_, fun s hrun => (hsound hrun).once, ?_, ?_⟩
  · intro s r name reply hrun hname hreply
    rcases authUser_recorded config s hname hreply with ⟨entry, hentry, hrecorded⟩
    rcases (hsound hrun).issued hentry with ⟨i, hi, hlogin, _⟩
    exact ⟨entry.serial, i, hi, hlogin, hrecorded⟩
  · intro s hrun
    have hboth := hrun.invariant (I := fun s => s.Sound config ∧ s.OwnPassword)
      ⟨new_sound, hown⟩
      fun h hcollision hstep => ⟨h.left.step hstep, h.right.step h.left hcollision hstep⟩
    exact ⟨hboth.left.once, hboth.right⟩
  · intro s hrun
    have hall := hrun.invariant (I := fun s => s.Sound config ∧ s.OwnPassword ∧ s.InTime config)
      ⟨new_sound, hown, fun _ _ _ ha => absurd ha List.not_mem_nil⟩
      fun h hadmits hstep =>
        ⟨h.left.step hstep, h.right.left.step h.left hadmits.left hstep,
          h.right.right.step h.left hadmits.right hstep⟩
    exact ⟨hall.left.once, hall.right⟩

variable (s : OneTimeService D)

def checkNoCollision : OneTimeEvent -> Bool
  | .authUser r => s.issued.all fun i =>
    decide (config.digests.sha256 r.password = config.digests.sha256 i.password ->
      r.password = i.password)
  | _ => true

lemma noCollision_of_check (e : OneTimeEvent) (h : checkNoCollision config s e = true) :
    NoCollision config s e := by
  cases e with
  | authUser r =>
    intro i hi
    exact of_decide_eq_true (List.all_eq_true.mp h i hi)
  | createOneTime | clearOneTimeUsers | elapse => trivial

def checkTimely : OneTimeEvent -> Bool
  | .authUser r =>
    (s.account r).all fun entry => config.oneTimeExpires.all fun expires =>
      !entry.user.isSome || entry.isValid expires s.now
  | _ => true

end

omit [DecidableEq D] in
lemma timely_of_check (h : checkTimely config s e = true) : Timely config s e := by
  cases e with
  | authUser r =>
    intro entry expires hentry huser hexpires
    simp only [checkTimely, hentry, hexpires, Option.all_some, huser] at h
    exact h
  | createOneTime | clearOneTimeUsers | elapse => trivial

/-!
## Runs
-/

def plainConfig : OneTimeConfig String where
  digests :=
    { sha256 := fun p => p, sha512 := fun p => p, pbkdf2Hmac := fun p _ => .ok p }
  oneTimeExpires := some 10
  users := ∅
  otpSvc := false

def createGuest : OneTimeEvent :=
  .createOneTime none ["ops"] [.ok "guest"] (.ok "secret")

def guest : AuthUser where
  login := "OT.guest"
  password := "secret"
  externallyVerified := false
  otpCheck := .ok ()
  aclFormat := .ok "acl"

/-- The second of two logins before the expiration is refused. -/
theorem guest_logs_in_once : exists s, (step plainConfig).runChecked
        (fun s e => checkNoCollision plainConfig s e && checkTimely plainConfig s e)
        [createGuest, .elapse 5, .authUser guest, .authUser guest, .clearOneTimeUsers] (new 0) =
          some s ∧
      s.authenticated.length = 1 ∧ s.AtMostOnce ∧ s.OwnPassword ∧ s.InTime plainConfig := by
  apply exists_of_any (p := fun s => decide (s.authenticated.length = 1)) (by decide)
  intro s hs hone
  refine ⟨of_decide_eq_true hone, ?_⟩
  apply (one_time_users_log_in_once plainConfig 0).right.right.right s
  apply Machine.Reaches.of_runChecked _ .start hs
  intro s e hcheck
  rcases Bool.and_eq_true_iff.mp hcheck with ⟨hcollision, htimely⟩
  exact ⟨noCollision_of_check plainConfig s e hcollision, timely_of_check htimely⟩

/-- A user that has expired logs in before the next clean-up pass. -/
theorem expired_guest_logs_in :
    exists s, Machine.Reaches (step plainConfig) (NoCollision plainConfig) (new 0) s ∧
      s.issued[0]? = some { login := "OT.guest", password := "secret", created := 0 } ∧
      s.authenticated = [{ serial := 0, password := "secret", time := 20 }] ∧
      ¬ s.InTime plainConfig := by
  refine ⟨_, .of_runChecked (noCollision_of_check plainConfig) .start (show
    (step plainConfig).runChecked _ [createGuest, .elapse 20, .authUser guest] _ = _ from rfl),
    rfl, rfl, ?_⟩
  intro hintime
  rcases hintime 10 rfl _ List.mem_cons_self with ⟨i, hi, htime⟩
  cases hi
  exact absurd htime (by decide)

end OneTimeService

end Eva4.LocalAuth
