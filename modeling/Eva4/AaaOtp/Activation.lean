import Eva4.Lib.Machine
import Eva4.Lib.Table
import Eva4.Items.Basic

/-!
# Activation of one-time passwords

The service has its OTPs in memory and in the registry.  An OTP is made at the first check of a
login and activated, first in memory and then in the registry, by the first check with a valid
code.  Registry writes take their time, may fail and may be done after the service has gone; when
it starts, it loads the OTPs from the registry.
-/

namespace Eva4.AaaOtp

open Lib Table
open Items (Error EResult)

structure Otp where
  secret : String
  active : Bool
deriving DecidableEq

inductive StringOrInt where
  | str (v : String)
  | int (v : Nat)

def StringOrInt.intoString : StringOrInt -> String
  | str v => v
  | int v => toString v

structure Env where
  exclude : List String
  svcId : String
  /-- A code is valid for a secret at a time. -/
  isValid : Nat -> String -> String -> Bool

/-- The outcome of a check: a code was verified at a time against a secret, or a secret is sent
out. -/
inductive Outcome where
  | verified (secret code : String) (time : Nat)
  | setup (secret : String)
  | required
  | invalid
  | excluded
  | failed (e : Error)

def Outcome.reply (svcId : String) : Outcome -> EResult Unit
  | verified .. | excluded => .ok ()
  | setup secret => .error {
      kind := .accessDeniedMoreDataRequired, message := "|OTP|" ++ svcId ++ "|SETUP=" ++ secret }
  | required => .error {
      kind := .accessDeniedMoreDataRequired, message := "|OTP|" ++ svcId ++ "|REQ" }
  | invalid => .error {
      kind := .accessDeniedMoreDataRequired, message := "|OTP|" ++ svcId ++ "|INVALID" }
  | failed e => .error e

/-- A write to the registry that is under way; without an OTP the key is deleted. -/
structure Write where
  login : String
  otp : Option Otp
  /-- The code and the time of the check that waits for the answer. -/
  awaited : Option (String × Nat)

def Write.apply (w : Write) (registry : Table String Otp) : Table String Otp :=
  match w.otp with
  | some o => registry.insert w.login o
  | none => registry.erase w.login

structure Service where
  otps : Table String Otp
  registry : Table String Otp
  writes : List Write

abbrev Handled : Type :=
  Service × Option (String × Outcome)

inductive Event where
  /-- With the time of the check and the secret that is made if there is none. -/
  | check (login : String) (otp : Option StringOrInt) (time : Nat) (rand : EResult String)
  | destroy (login : String)
  /-- The registry does a write; the answer may get lost. -/
  | written (n : Nat) (answer : EResult Unit)
  | writeFailed (n : Nat) (e : Error)
  | restart

namespace Service

def start (registry : Table String Otp) : Service where
  otps := registry
  registry := registry
  writes := []

def check (env : Env) (s : Service) (login : String) (otp : Option StringOrInt) (time : Nat)
    (rand : EResult String) : Handled :=
  if login ∈ env.exclude then (s, some (login, .excluded))
  else
    match s.otps.lookup login with
    | some o =>
      match otp with
      | some code =>
        if env.isValid time o.secret code.intoString then
          if o.active then (s, some (login, .verified o.secret code.intoString time))
          else
            ({ s with
              otps := s.otps.insert login { o with active := true }
              writes := s.writes ++ [{
                login := login, otp := some { o with active := true }
                awaited := some (code.intoString, time) }] },
              none)
        else (s, some (login, .invalid))
      | none =>
        if o.active then (s, some (login, .required))
        else (s, some (login, .setup o.secret))
    | none =>
      match rand with
      | .ok secret =>
        ({ s with otps := s.otps.insert login { secret := secret, active := false } },
          some (login, .setup secret))
      | .error e => (s, some (login, .failed e))

def destroy (s : Service) (login : String) : Service :=
  match s.otps.lookup login with
  | some _ =>
    { s with
      otps := s.otps.erase login
      writes := s.writes ++ [{ login := login, otp := none, awaited := none }] }
  | none => s

def answered (w : Write) (answer : EResult Unit) : Option (String × Outcome) :=
  match w.otp, w.awaited, answer with
  | some o, some (code, time), .ok _ => some (w.login, .verified o.secret code time)
  | some _, some _, .error e => some (w.login, .failed e)
  | _, _, _ => none

def handle (env : Env) (s : Service) : Event -> Option Handled
  | .check login otp time rand => some (s.check env login otp time rand)
  | .destroy login => some (s.destroy login, none)
  | .written n answer =>
    s.writes[n]?.map fun w =>
      ({ s with registry := w.apply s.registry, writes := s.writes.eraseIdx n }, answered w answer)
  | .writeFailed n e =>
    s.writes[n]?.map fun w => ({ s with writes := s.writes.eraseIdx n }, answered w (.error e))
  | .restart =>
    some ({ s with
      otps := s.registry
      writes := s.writes.map fun w => { w with awaited := none } }, none)

end Service

inductive Checked (env : Env) (s : Service) (login : String) (otp : Option StringOrInt)
    (time : Nat) : Handled -> Prop where
  | refused {outcome : Outcome} (hsetup : forall secret, outcome ≠ .setup secret)
      (hverified : forall secret code t, outcome ≠ .verified secret code t) :
      Checked env s login otp time (s, some (login, outcome))
  | verified {o : Otp} {code : StringOrInt} (hotp : otp = some code)
      (ho : s.otps.lookup login = some o) (hactive : o.active = true)
      (hvalid : env.isValid time o.secret code.intoString = true) :
      Checked env s login otp time (s, some (login, .verified o.secret code.intoString time))
  | activated {o : Otp} {code : StringOrInt} (ho : s.otps.lookup login = some o)
      (hactive : o.active ≠ true) (hvalid : env.isValid time o.secret code.intoString = true) :
      Checked env s login otp time
        ({ s with
          otps := s.otps.insert login { o with active := true }
          writes := s.writes ++ [{
            login := login, otp := some { o with active := true }
            awaited := some (code.intoString, time) }] }, none)
  | sent {o : Otp} (ho : s.otps.lookup login = some o) (hactive : o.active ≠ true) :
      Checked env s login otp time (s, some (login, .setup o.secret))
  | created {secret : String} (hnone : s.otps.lookup login = none) :
      Checked env s login otp time
        ({ s with otps := s.otps.insert login { secret := secret, active := false } },
          some (login, .setup secret))

lemma Service.check_checked (env : Env) (s : Service) (login : String) (otp : Option StringOrInt)
    (time : Nat) (rand : EResult String) :
    Checked env s login otp time (s.check env login otp time rand) := by
  unfold Service.check
  split
  · exact .refused nofun nofun
  · split
    · next o ho =>
      split
      · next code =>
        split
        · next hvalid =>
          split
          · next hactive => exact .verified rfl ho hactive hvalid
          · next hactive => exact .activated ho hactive hvalid
        · exact .refused nofun nofun
      · split
        · exact .refused nofun nofun
        · next hactive => exact .sent ho hactive
    · next hnone =>
      split
      · exact .created hnone
      · exact .refused nofun nofun

/-!
## Activated secrets
-/

/-- What must not happen to a login whose OTP is in force. -/
inductive Breach where
  | otherVerified (login : String)
  | sentOut (login : String)
deriving DecidableEq

/-- The service with the secrets in force, each since a check has returned `Ok` and until a
destroy is requested. -/
structure Watched where
  service : Service
  inForce : Table String String
  breaches : List Breach

namespace Watched

def start (registry : Table String Otp) : Watched where
  service := .start registry
  inForce := ∅
  breaches := []

/-- A check may return `Ok` only with a code that is valid for the secret in force. -/
def observe (env : Env) (s : Watched) : Option (String × Outcome) -> Watched
  | some (login, .verified secret code time) =>
    { s with
      inForce := s.inForce.insert login secret
      breaches := s.breaches ++
        if env.isValid time ((s.inForce.lookup login).getD secret) code then []
        else [.otherVerified login] }
  | some (login, .setup _) =>
    { s with
      breaches := s.breaches ++
        if s.inForce.lookup login = none then [] else [.sentOut login] }
  | _ => s

/-- A request to destroy an OTP ends it, whatever comes of the request. -/
def requested (s : Watched) : Event -> Watched
  | .destroy login => { s with inForce := s.inForce.erase login }
  | _ => s

def step (env : Env) : Machine Watched Event := fun s e =>
  (s.service.handle env e).map fun handled =>
    ({ s.requested e with service := handled.1 }).observe env handled.2

/-- Nothing has happened to secrets in force, and none has been replaced. -/
structure Kept (s : Watched) : Prop where
  breaches : s.breaches = []
  secret : forall login secret o, s.inForce.lookup login = some secret ->
    s.service.otps.lookup login = some o -> o.secret = secret

end Watched

/-- The active OTP is in memory and in the registry, and no write is under way that changes it. -/
structure Secured (s : Service) (login secret : String) : Prop where
  memory : s.otps.lookup login = some { secret := secret, active := true }
  registry : s.registry.lookup login = some { secret := secret, active := true }
  writes : forall w, w ∈ s.writes -> w.login = login ->
    w.otp = some { secret := secret, active := true }

/-- When a valid code comes for an active OTP, the registry has it; when the registry confirms an
activation to the check that waits for it, the OTP is in memory.  No other write is under way
that changes it. -/
def Secures (env : Env) (s : Service) : Event -> Prop
  | .check login (some code) time _ => forall o, s.otps.lookup login = some o -> o.active = true ->
      env.isValid time o.secret code.intoString = true -> s.registry.lookup login = some o ∧
        forall w, w ∈ s.writes -> w.login = login -> w.otp = some o
  | .written n (.ok _) => forall w o, s.writes[n]? = some w -> w.otp = some o ->
      w.awaited ≠ none -> s.otps.lookup w.login = some o ∧
        forall w', w' ∈ s.writes.eraseIdx n -> w'.login = w.login -> w'.otp = some o
  | _ => True

/-- An OTP is stored as active, after a check with a valid code. -/
def Write.Valid (env : Env) (w : Write) : Prop :=
  forall o, w.otp = some o -> o.active = true ∧ forall code time, w.awaited = some (code, time) ->
    env.isValid time o.secret code = true

namespace Watched

structure Sound (env : Env) (s : Watched) : Prop where
  breaches : s.breaches = []
  writes : forall w, w ∈ s.service.writes -> w.Valid env
  secured : forall login secret, s.inForce.lookup login = some secret ->
    Secured s.service login secret

variable {s : Watched}

lemma start_sound : (start registry).Sound env where
  breaches := rfl
  writes w hw := by cases hw
  secured login secret h := by cases h

lemma Sound.kept (h : s.Sound env) : s.Kept where
  breaches := h.breaches
  secret login secret o hforce hlookup := by
    rw [(h.secured login secret hforce).memory] at hlookup
    rw [← Option.some.inj hlookup]

end Watched

/-!
## A secured OTP stays so
-/

section Secured

variable {login secret : String} {answer : Option (String × Outcome)}

/-- The answer, if it is for the login, does not send a secret out and no other one was used. -/
structure Harmless (answer : Option (String × Outcome)) (login secret : String) : Prop where
  setup : forall other, answer ≠ some (login, .setup other)
  verified : forall other code time, answer = some (login, .verified other code time) ->
    other = secret

lemma harmless_other (h : l ≠ login) : Harmless (some (l, outcome)) login secret where
  setup _ heq := h (Prod.mk.inj (Option.some.inj heq)).left
  verified _ _ _ heq := absurd (Prod.mk.inj (Option.some.inj heq)).left h

lemma harmless_none : Harmless none login secret where
  setup := nofun
  verified := nofun

section

variable (h : Secured s login secret)
include h

lemma Secured.frame (hotps : s'.otps.lookup login = s.otps.lookup login)
    (hregistry : s'.registry.lookup login = s.registry.lookup login)
    (hwrites : forall w, w ∈ s'.writes -> w.login = login ->
      exists w', w' ∈ s.writes ∧ w'.login = login ∧ w'.otp = w.otp) : Secured s' login secret where
  memory := hotps.trans h.memory
  registry := hregistry.trans h.registry
  writes w hw hlogin := by
    rcases hwrites w hw hlogin with ⟨w', hw', hlogin', hotp⟩
    rw [← hotp]
    exact h.writes w' hw' hlogin'

lemma Secured.check_same (hchecked : Checked env s login otp time handled) :
    handled.1 = s ∧ Harmless handled.2 login secret := by
  cases hchecked with
  | refused hsetup hverified =>
    refine ⟨rfl, ?_, ?_⟩
    · intro other heq
      cases heq
      exact hsetup other rfl
    · intro other code t heq
      cases heq
      exact absurd rfl (hverified other code t)
  | verified _ ho =>
    rw [h.memory] at ho
    cases ho
    refine ⟨rfl, nofun, ?_⟩
    intro other _ _ heq
    cases heq
    rfl
  | activated ho hactive | sent ho hactive =>
    rw [h.memory] at ho
    cases ho
    exact absurd rfl hactive
  | created hnone =>
    rw [h.memory] at hnone
    cases hnone

lemma Secured.check_other (hne : l ≠ login) (hchecked : Checked env s l otp time handled) :
    Secured handled.1 login secret ∧ Harmless handled.2 login secret := by
  have hinsert : forall o : Otp, (s.otps.insert l o).lookup login = s.otps.lookup login := by
    intro o
    rw [lookup_insert_if, if_neg hne.symm]
  cases hchecked with
  | refused | verified | sent => exact ⟨h, harmless_other hne⟩
  | activated =>
    refine ⟨h.frame (hinsert _) rfl ?_, harmless_none⟩
    intro w hw hlogin
    rcases List.mem_append.mp hw with hold | hnew
    · exact ⟨w, hold, hlogin, rfl⟩
    · rw [List.mem_singleton.mp hnew] at hlogin
      exact absurd hlogin hne
  | created =>
    exact ⟨h.frame (hinsert _) rfl fun w hw hlogin => ⟨w, hw, hlogin, rfl⟩, harmless_other hne⟩

lemma Secured.destroy_other (hne : l ≠ login) : Secured (s.destroy l) login secret := by
  unfold Service.destroy
  split
  · refine h.frame ((lookup_erase_if ..).trans (if_neg hne.symm)) rfl ?_
    intro w hw hlogin
    rcases List.mem_append.mp hw with hold | hnew
    · exact ⟨w, hold, hlogin, rfl⟩
    · rw [List.mem_singleton.mp hnew] at hlogin
      exact absurd hlogin hne
  · exact h

lemma Secured.apply (hw : w ∈ s.writes) :
    (w.apply s.registry).lookup login = s.registry.lookup login := by
  unfold Write.apply
  by_cases heq : login = w.login
  · rw [h.writes w hw heq.symm, heq, lookup_insert_if, if_pos rfl, ← heq, h.registry]
  · split
    · exact (lookup_insert_if ..).trans (if_neg heq)
    · exact (lookup_erase_if ..).trans (if_neg heq)

lemma Secured.answered (hw : w ∈ s.writes) (answer : EResult Unit) :
    Harmless (Service.answered w answer) login secret := by
  unfold Service.answered
  split
  · next o hotp _ =>
    constructor
    · exact nofun
    · intro other _ _ heq
      cases heq
      have hsame := h.writes w hw rfl
      rw [hotp] at hsame
      rw [Option.some.inj hsame]
  · exact ⟨nofun, nofun⟩
  · exact harmless_none

/-- Whatever is requested or happens, short of a request to destroy the OTP. -/
theorem Secured.handle (he : e ≠ .destroy login) (hs : s.handle env e = some handled) :
    Secured handled.1 login secret ∧ Harmless handled.2 login secret := by
  cases e with
  | check l otp time rand =>
    cases hs
    have hchecked := s.check_checked env l otp time rand
    by_cases heq : l = login
    · rw [heq] at hchecked ⊢
      rcases h.check_same hchecked with ⟨hsame, hharmless⟩
      rw [hsame]
      exact ⟨h, hharmless⟩
    · exact h.check_other heq hchecked
  | destroy l =>
    cases hs
    have hne : l ≠ login := fun heq => he (by rw [heq])
    exact ⟨h.destroy_other hne, harmless_none⟩
  | written n result =>
    rcases Option.map_eq_some_iff.mp hs with ⟨w, hn, hs⟩
    rw [← hs]
    have hw := List.mem_of_getElem? hn
    refine ⟨h.frame rfl (h.apply hw) ?_, h.answered hw result⟩
    exact fun w' hw' hlogin => ⟨w', List.mem_of_mem_eraseIdx hw', hlogin, rfl⟩
  | writeFailed n e =>
    rcases Option.map_eq_some_iff.mp hs with ⟨w, hn, hs⟩
    rw [← hs]
    refine ⟨h.frame rfl rfl ?_, h.answered (List.mem_of_getElem? hn) _⟩
    exact fun w' hw' hlogin => ⟨w', List.mem_of_mem_eraseIdx hw', hlogin, rfl⟩
  | restart =>
    cases hs
    refine ⟨h.frame (h.registry.trans h.memory.symm) rfl ?_, harmless_none⟩
    intro w hw hlogin
    rcases List.mem_map.mp hw with ⟨w', hw', heq⟩
    rw [← heq] at hlogin ⊢
    exact ⟨w', hw', hlogin, rfl⟩

end

end Secured

/-!
## Verified codes
-/

section

variable {s : Service} {secret code : String} {time : Nat}

lemma answered_verified {w : Write}
    (h : Service.answered w answer = some (l, .verified secret code time)) :
    exists o, w.otp = some o ∧ o.secret = secret ∧ w.login = l ∧ w.awaited = some (code, time) ∧
      answer = .ok () := by
  unfold Service.answered at h
  split at h
  · next o _ _ _ hotp hawaited =>
    cases h
    exact ⟨o, hotp, rfl, rfl, hawaited, rfl⟩
  · cases h
  · cases h

variable (hwrites : forall w, w ∈ s.writes -> w.Valid env) (hs : s.handle env e = some handled)
include hwrites hs

/-- A check that returns `Ok` was given a code for the secret, which is secured. -/
theorem Secures.secured (hsecures : Secures env s e)
    (h : handled.2 = some (login, .verified secret code time)) :
    Secured handled.1 login secret ∧ env.isValid time secret code = true := by
  cases e with
  | check l otp t rand =>
    cases hs
    have hchecked := s.check_checked env l otp t rand
    generalize s.check env l otp t rand = result at h hchecked
    cases hchecked with
    | refused _ hverified =>
      cases h
      exact absurd rfl (hverified secret code time)
    | @verified o given hotp ho hactive hvalid =>
      cases h
      cases hotp
      rcases hsecures o ho hactive hvalid with ⟨hregistry, hothers⟩
      rcases o with ⟨secret, active⟩
      cases hactive
      exact ⟨⟨ho, hregistry, hothers⟩, hvalid⟩
    | activated | sent | created => cases h
  | written n answer =>
    rcases Option.map_eq_some_iff.mp hs with ⟨w, hn, rfl⟩
    rcases answered_verified h with ⟨⟨secret', active⟩, hotp, rfl, rfl, hawaited, rfl⟩
    rcases hwrites w (List.mem_of_getElem? hn) _ hotp with ⟨rfl, hvalid⟩
    rcases hsecures w _ hn hotp (by rw [hawaited]; nofun) with ⟨hmemory, hothers⟩
    refine ⟨⟨hmemory, ?_, hothers⟩, hvalid code time hawaited⟩
    show (w.apply s.registry).lookup w.login = _
    rw [Write.apply, hotp]
    exact (lookup_insert_if ..).trans (if_pos rfl)
  | writeFailed n error =>
    rcases Option.map_eq_some_iff.mp hs with ⟨w, hn, rfl⟩
    rcases answered_verified h with ⟨_, _, _, _, _, hok⟩
    cases hok
  | destroy | restart =>
    cases hs
    cases h

lemma handle_valid : forall w, w ∈ handled.1.writes -> w.Valid env := by
  cases e with
  | check l otp t rand =>
    cases hs
    have hchecked := s.check_checked env l otp t rand
    generalize s.check env l otp t rand = result at hchecked
    cases hchecked with
    | refused | verified | sent | created => exact hwrites
    | activated _ _ hvalid =>
      apply forall_mem_concat hwrites
      intro o ho
      cases ho
      refine ⟨rfl, ?_⟩
      intro code time hawaited
      cases hawaited
      exact hvalid
  | destroy l =>
    cases hs
    unfold Service.destroy
    split
    · exact forall_mem_concat hwrites nofun
    · exact hwrites
  | written | writeFailed =>
    rcases Option.map_eq_some_iff.mp hs with ⟨w, _, rfl⟩
    exact fun w hw => hwrites w (List.mem_of_mem_eraseIdx hw)
  | restart =>
    cases hs
    intro w hw
    rcases List.mem_map.mp hw with ⟨old, hold, rfl⟩
    exact fun o ho => ⟨(hwrites old hold o ho).left, nofun⟩

end

/-!
## Whole runs
-/

namespace Watched

variable {s s' : Watched} {env : Env} {e : Event}

lemma requested_inForce (h : (s.requested e).inForce.lookup login = some secret) :
    s.inForce.lookup login = some secret ∧ e ≠ .destroy login := by
  cases e with
  | destroy l =>
    change (s.inForce.erase l).lookup login = some secret at h
    rw [lookup_erase_if] at h
    split at h
    · cases h
    · next hne => exact ⟨h, fun heq => hne (Event.destroy.inj heq).symm⟩
  | check | written | writeFailed | restart => exact ⟨h, nofun⟩

lemma Sound.observe (h : s.Sound env)
    (hharmless : forall login secret, s.inForce.lookup login = some secret ->
      Harmless answer login secret)
    (hsecured : forall login secret code time, answer = some (login, .verified secret code time) ->
      Secured s.service login secret ∧ env.isValid time secret code = true) :
    (s.observe env answer).Sound env := by
  unfold Watched.observe
  split
  · next login secret code time =>
    rcases hsecured login secret code time rfl with ⟨hnew, hvalid⟩
    refine ⟨?_, h.writes, forall_insert h.secured hnew⟩
    have hsame : (s.inForce.lookup login).getD secret = secret := by
      cases hforce : s.inForce.lookup login with
      | none => rfl
      | some old => exact ((hharmless login old hforce).verified secret code time rfl).symm
    rw [h.breaches, hsame, if_pos hvalid]
    rfl
  · next login secret =>
    refine ⟨?_, h.writes, h.secured⟩
    have hbefore : s.inForce.lookup login = none := by
      apply Option.eq_none_iff_forall_ne_some.mpr
      exact fun old hforce => (hharmless login old hforce).setup secret rfl
    rw [h.breaches, if_pos hbefore]
    rfl
  · exact h

lemma Sound.step (h : s.Sound env) (hsecures : Secures env s.service e)
    (hstep : step env s e = some s') : s'.Sound env := by
  rcases Option.map_eq_some_iff.mp hstep with ⟨⟨service, answer⟩, hhandle, hs'⟩
  have hkeeps : forall login secret, (s.requested e).inForce.lookup login = some secret ->
      Secured service login secret ∧ Harmless answer login secret := by
    intro login secret hforce
    rcases requested_inForce hforce with ⟨hbefore, he⟩
    exact (h.secured login secret hbefore).handle he hhandle
  have hbreaches : (s.requested e).breaches = [] := by
    cases e with
    | check | destroy | written | writeFailed | restart => exact h.breaches
  rw [← hs']
  apply Sound.observe
  · exact ⟨hbreaches, handle_valid h.writes hhandle,
      fun login secret hforce => (hkeeps login secret hforce).left⟩
  · exact fun login secret hforce => (hkeeps login secret hforce).right
  · exact fun login secret code time => Secures.secured h.writes hhandle hsecures

def checkSecures (env : Env) (s : Watched) : Event -> Bool
  | .check login (some code) time _ => (s.service.otps.lookup login).all fun o => !o.active ||
      !env.isValid time o.secret code.intoString || (s.service.registry.lookup login = some o &&
        s.service.writes.all fun w => w.login ≠ login || w.otp = some o)
  | .written n (.ok _) => s.service.writes[n]?.all fun w => w.otp.all fun o => w.awaited = none ||
      (s.service.otps.lookup w.login = some o &&
        (s.service.writes.eraseIdx n).all fun w' => w'.login ≠ w.login || w'.otp = some o)
  | _ => true

lemma secures_of_check (s : Watched) (e : Event) (h : checkSecures env s e = true) :
    Secures env s.service e := by
  unfold checkSecures at h
  unfold Secures
  split at h
  · intro o ho hactive hvalid
    simpa [ho, hactive, hvalid, imp_iff_not_or] using h
  · intro w o hn ho hawaited
    simpa [hn, ho, hawaited, imp_iff_not_or] using h
  · trivial

def sampleSecret : String :=
  "AAAQEAYEAUDAOCAJBIFQYDIOB4"

def sampleEnv : Env where
  exclude := []
  svcId := "eva.aaa.otp"
  isValid time secret code := decide (time = 0 ∧ secret = sampleSecret ∧ code = "990870")

def sampleCheck (code : Option String) : Event :=
  .check "operator" (code.map .str) 0 (.ok sampleSecret)

def otherCheck : Event :=
  .check "operator" none 0 (.ok "CAIREEYUCULBOGAZDINRYHI6D4")

def storedRun : List Event :=
  [sampleCheck none, sampleCheck (some "990870"), .written 0 (.ok ()), .restart, otherCheck,
    sampleCheck (some "990870")]

/-- The registry cannot be written when the OTP is activated, and the check fails.  The next one
returns `Ok`. -/
def unsavedRun : List Event :=
  [sampleCheck none, sampleCheck (some "990870"),
    .writeFailed 0 { kind := .io, message := "timeout" }, sampleCheck (some "990870"), .restart,
    otherCheck]

end Watched

end Eva4.AaaOtp
