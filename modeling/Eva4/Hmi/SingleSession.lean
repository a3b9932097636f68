import Eva4.Hmi.Logins

/-!
# One session of an account

The check for a session and the new token are separate calls of a login.  They belong together as
long as no other login makes the same check between them, and the check is made for the name that
the token gets.
-/

namespace Eva4.Hmi

open Lib
open Items
open StoredToken (isSessionOf)

variable {V : Type}

/-!
## What a call changes
-/

variable {failure : Option (Error × Bool)} {tokens : List StoredToken} {c : HmiCall V}
  {user : String} {answers : (c : HmiCall V) -> c.Answer} {task : LoginTask V}

lemma countP_changeTokens (htokens : tokens.countP p <= bound)
    (hchanged : changed.countP p <= bound) :
    (changeTokens failure tokens changed).2.countP p <= bound := by
  unfold changeTokens
  split
  · exact hchanged
  · exact hchanged
  · exact htokens

lemma countP_updateToken (id : TokenId) (huser : forall t, (f t).user = t.user)
    (hacl : forall t, (f t).acl = t.acl) (user : String) (tokens : List StoredToken) :
    (updateToken id f tokens).countP (isSessionOf user) = tokens.countP (isSessionOf user) := by
  unfold updateToken
  rw [List.countP_map]
  apply List.countP_congr
  intro stored _
  have hsame : isSessionOf user { stored with token := f stored.token } =
      isSessionOf user stored := by
    unfold isSessionOf
    rw [huser, hacl]
  simp only [Function.comp]
  split
  · rw [hsame]
  · exact Iff.rfl

lemma countP_insertToken (failure : Option (Error × Bool)) (tokens : List StoredToken)
    (new : StoredToken) (p : StoredToken -> Bool) :
    (insertToken failure tokens new).2.countP p <= tokens.countP p + if p new then 1 else 0 := by
  unfold insertToken
  split
  · exact Nat.le_add_right _ _
  · apply countP_changeTokens
    · exact Nat.le_add_right _ _
    · rw [List.countP_append, List.countP_singleton]

theorem countP_respond {byLogin : Bool} :
    (respond tokens byLogin answers failure c).2.countP (isSessionOf user) <=
        tokens.countP (isSessionOf user) ∨
      exists token, c = .saveToken token ∧ byLogin = true ∧ token.acl.admin = false ∧
        token.user = user ∧
        (respond tokens byLogin answers failure c).2.countP (isSessionOf user) <=
          tokens.countP (isSessionOf user) + 1 := by
  cases c with
  | saveToken token =>
    have hcount := countP_insertToken failure tokens { token := token, byLogin := byLogin }
      (isSessionOf user)
    cases hnew : isSessionOf user { token := token, byLogin := byLogin } with
    | false =>
      rw [hnew] at hcount
      exact Or.inl hcount
    | true =>
      rw [hnew] at hcount
      have hparts : (byLogin = true ∧ token.acl.admin = false) ∧ token.user = user := by
        simpa [isSessionOf] using hnew
      exact Or.inr ⟨token, rfl, hparts.left.left, hparts.left.right, hparts.right, hcount⟩
  | deleteToken id =>
    exact Or.inl (countP_changeTokens (Nat.le_refl _) List.filter_sublist.countP_le)
  | setTokenTime id t =>
    have hcount := countP_updateToken id (f := fun token => { token with t := t })
      (fun _ => rfl) (fun _ => rfl) user tokens
    exact Or.inl (countP_changeTokens (Nat.le_refl _) (Nat.le_of_eq hcount))
  | setTokenMode id mode =>
    have hcount := countP_updateToken id (f := fun token => { token with mode := mode })
      (fun _ => rfl) (fun _ => rfl) user tokens
    exact Or.inl (countP_changeTokens (Nat.le_refl _) (Nat.le_of_eq hcount))
  | _ => exact Or.inl (Nat.le_refl _)

variable {login : String} {next : c.Answer -> Api V Unit}

lemma countP_of_inactive
    (h : readTokens failure (tokens.any fun stored => stored.token.user == login) = .ok false) :
    tokens.countP (isSessionOf login) = 0 := by
  unfold readTokens at h
  split at h
  · injection h with hnone
    rw [List.countP_eq_zero]
    intro stored hmem hsession
    exact List.any_eq_false.mp hnone stored hmem (Bool.and_eq_true_iff.mp hsession).right
  · cases h

lemma clearedBy_eq_some (h : clearedBy login answer = some user) :
    answer = .ok false ∧ login = user := by
  unfold clearedBy at h
  split at h
  · injection h with hlogin
    exact ⟨rfl, hlogin⟩
  · cases h

theorem clearedAfter_respond
    (h : clearedAfter cleared c (respond tokens byLogin answers failure c).1 = some user) :
    (cleared = some user ∧ forall token, c ≠ .saveToken token) ∨ (c = .isActiveSessionFor user ∧
        (respond tokens byLogin answers failure c).2.countP (isSessionOf user) = 0) := by
  cases c with
  | saveToken token => cases h
  | isActiveSessionFor login =>
    rcases clearedBy_eq_some h with ⟨hanswer, hlogin⟩
    rw [← hlogin]
    exact Or.inr ⟨rfl, countP_of_inactive hanswer⟩
  | _ =>
    refine Or.inl ⟨h, ?_⟩
    intro token hc
    cases hc

lemma keepsName_respond [Values V] (h : KeepsName c (answers c)) :
    KeepsName c (respond tokens byLogin answers failure c).1 := by
  cases c with
  | bus target method payload => exact h
  | _ => trivial

lemma LoginTask.pending_of_ask (h : task.dialog = .ask c next) : task.pending = task.cleared := by
  unfold pending
  rw [h]

lemma LoginTask.cleared_of_pending (h : task.pending = some user) : task.cleared = some user := by
  unfold pending at h
  split at h
  · exact h
  · cases h

def LoginTask.Grants (task : LoginTask V) (user : String) : Prop :=
  task.byLogin = true ∧ task.pending = some user

theorem LoginTask.pending_answered (hdialog : task.dialog = .ask c next)
    (h : (task.answered c next (respond tokens task.byLogin answers failure c).1).pending =
      some user) : (task.pending = some user ∧ forall token, c ≠ .saveToken token) ∨
      (c = .isActiveSessionFor user ∧ (respond tokens task.byLogin answers failure c).2.countP
          (isSessionOf user) = 0) := by
  rw [task.pending_of_ask hdialog]
  exact clearedAfter_respond (LoginTask.cleared_of_pending h)

/-!
## One step
-/

namespace Sessions

variable {s : Sessions V}

lemma advance_eq_some (h : s.advance n answers failure task = some s') :
    exists c next, task.dialog = .ask c next ∧
      s'.tokens = (respond s.tokens task.byLogin answers failure c).2 ∧ s'.tasks = s.tasks.set n
        (task.answered c next (respond s.tokens task.byLogin answers failure c).1) := by
  unfold advance at h
  split at h
  · next c next hdialog =>
    cases h
    exact ⟨c, next, hdialog, rfl, rfl⟩
  · cases h

lemma start_pending {m : Nat} (h : (s.start byLogin dialog).tasks[m]? = some task)
    (hpending : task.pending = some user) : s.tasks[m]? = some task := by
  rcases getElem?_concat_cases h with hnew | hold
  · rw [hnew] at hpending
    cases LoginTask.cleared_of_pending hpending
  · exact hold

variable [Values V]

/-- Nothing else is between its check for a name and its token when the name is checked. -/
def ChecksAlone (s : Sessions V) (n : Nat) (c : HmiCall V) : Prop :=
  forall login, c = .isActiveSessionFor login -> forall (m : Nat) (other : LoginTask V),
    s.tasks[m]? = some other -> other.byLogin = true -> other.pending = some login -> m = n

/-- The services keep the typed names, and logins of one name do not overlap. -/
def Admits (s : Sessions V) : SessionEvent V -> Prop
  | .step n answers _ =>
      forall (task : LoginTask V) (c : HmiCall V) (next : c.Answer -> Api V Unit),
        s.tasks[n]? = some task -> task.byLogin = true -> task.dialog = .ask c next ->
          KeepsName c (answers c) ∧ s.ChecksAlone n c
  | _ => True

structure Sound (s : Sessions V) : Prop where
  single : s.OneSession
  checked : forall task, task ∈ s.tasks -> task.byLogin = true -> Checked task.dialog task.cleared
  free : forall (task : LoginTask V) user, task ∈ s.tasks -> task.byLogin = true ->
    task.pending = some user -> s.tokens.countP (isSessionOf user) = 0
  alone : OneAt LoginTask.Grants s.tasks

section Step

variable {n : Nat}

section

variable (hs : s.Sound) (htask : s.tasks[n]? = some task) (hdialog : task.dialog = .ask c next)
include hs htask hdialog

theorem Sound.countP_respond_cases :
    (respond s.tokens task.byLogin answers failure c).2.countP (isSessionOf user) <=
        s.tokens.countP (isSessionOf user) ∨
      ((exists token, c = .saveToken token) ∧ task.byLogin = true ∧ task.pending = some user ∧
        (respond s.tokens task.byLogin answers failure c).2.countP (isSessionOf user) <= 1) := by
  rcases countP_respond with hle | hsave
  · exact Or.inl hle
  · rcases hsave with ⟨token, hc, hlogin, hadmin, huser, hle⟩
    have hmem := List.mem_of_getElem? htask
    have hrules := hs.checked task hmem hlogin
    rw [hdialog] at hrules
    have hpending : task.pending = some user := by
      rw [task.pending_of_ask hdialog, ← huser]
      exact hrules.left token hc hadmin
    rw [hs.free task user hmem hlogin hpending] at hle
    exact Or.inr ⟨⟨token, hc⟩, hlogin, hpending, hle⟩

lemma Sound.free_respond (hfree : s.tokens.countP (isSessionOf user) = 0)
    (hother : (exists token, c = .saveToken token) -> task.byLogin = true ->
      task.pending ≠ some user) : (respond s.tokens task.byLogin answers failure c).2.countP
      (isSessionOf user) = 0 := by
  rcases hs.countP_respond_cases htask hdialog with hle | hsave
  · rw [hfree] at hle
    exact Nat.eq_zero_of_le_zero hle
  · exact absurd hsave.right.right.left (hother hsave.left hsave.right.left)

theorem Sound.answered_alone (hadmits : s.Admits (.step n answers failure))
    (hnew : (task.answered c next (respond s.tokens task.byLogin answers failure c).1).Grants user)
    (hother : s.tasks[m]? = some other) (hgrants : other.Grants user) : m = n := by
  rcases LoginTask.pending_answered hdialog hnew.right with hbefore | hcheck
  · exact hs.alone hother htask hgrants ⟨hnew.left, hbefore.left⟩
  · exact (hadmits task c next htask hnew.left hdialog).right user hcheck.left m other hother
      hgrants.left hgrants.right

end

lemma Sound.advance (hs : s.Sound) (htask : s.tasks[n]? = some task)
    (hadmits : s.Admits (.step n answers failure))
    (h : s.advance n answers failure task = some s') : s'.Sound := by
  rcases advance_eq_some h with ⟨c, next, hdialog, htokens, htasks⟩
  have hmem := List.mem_of_getElem? htask
  constructor
  · intro user
    rw [htokens]
    rcases hs.countP_respond_cases htask hdialog with hle | hsave
    · exact Nat.le_trans hle (hs.single user)
    · exact hsave.right.right.right
  · rw [htasks]
    apply forall_mem_set hs.checked
    intro hlogin
    have hrules := hs.checked task hmem hlogin
    rw [hdialog] at hrules
    exact hrules.right _ (keepsName_respond (hadmits task c next htask hlogin hdialog).left)
  · intro other user hother hlogin hpending
    rw [htasks] at hother
    rw [htokens]
    rcases List.mem_iff_getElem?.mp hother with ⟨m, hm⟩
    rcases getElem?_set_cases htask hm with hself | hold
    · rw [hself.right] at hlogin hpending
      cases LoginTask.pending_answered hdialog hpending with
      | inr hcheck => exact hcheck.right
      | inl hbefore =>
        apply hs.free_respond htask hdialog (hs.free task user hmem hlogin hbefore.left)
        intro hsave
        rcases hsave with ⟨token, hc⟩
        exact absurd hc (hbefore.right token)
    · apply hs.free_respond htask hdialog
        (hs.free other user (List.mem_of_getElem? hold.right) hlogin hpending)
      intro _ htaskLogin htaskPending
      exact hold.left (hs.alone hold.right htask ⟨hlogin, hpending⟩ ⟨htaskLogin, htaskPending⟩)
  · rw [htasks]
    exact hs.alone.set htask (hs.answered_alone htask hdialog hadmits)

end Step

/-!
## Runs
-/

lemma Sound.start (hs : s.Sound) (h : byLogin = true -> Checked dialog none) :
    (s.start byLogin dialog).Sound := by
  constructor
  · exact hs.single
  · exact forall_mem_concat hs.checked h
  · intro task user hmem hlogin hpending
    rcases List.mem_iff_getElem?.mp hmem with ⟨m, hm⟩
    exact hs.free task user (List.mem_of_getElem? (start_pending hm hpending)) hlogin hpending
  · intro m n task other user hm hn htask hother
    exact hs.alone (start_pending hm htask.right) (start_pending hn hother.right) htask hother

lemma Sound.cleanUp (hs : s.Sound) : Sound { s with tokens := s.tokens.filter keep } := by
  constructor
  · intro user
    exact Nat.le_trans List.filter_sublist.countP_le (hs.single user)
  · exact hs.checked
  · intro task user hmem hlogin hpending
    have hle : (s.tokens.filter keep).countP (isSessionOf user) <=
        s.tokens.countP (isSessionOf user) := List.filter_sublist.countP_le
    rw [hs.free task user hmem hlogin hpending] at hle
    exact Nat.eq_zero_of_le_zero hle
  · exact hs.alone

lemma Sound.step (hconfig : config.allowConcurrent = false) (hs : s.Sound) (hadmits : s.Admits e)
    (h : Sessions.step config s e = some s') : s'.Sound := by
  cases e with
  | login now request ip =>
    cases h
    have hnow : HmiConfig.allowConcurrent { config with now := now } = false := hconfig
    apply hs.start
    intro _
    exact Checked.bind (checked_login hnow request ip config.authSvcs none) fun _ _ => trivial
  | loginKey | logout =>
    cases h
    exact hs.start (fun hfalse => nomatch hfalse)
  | step n answers failure =>
    rcases Option.bind_eq_some_iff.mp h with ⟨task, htask, hadvance⟩
    exact hs.advance htask hadmits hadvance
  | cleanUp keep =>
    cases h
    exact hs.cleanUp

lemma sound_new : Sound (new : Sessions V) := by
  constructor
  · intro user
    exact Nat.zero_le 1
  · intro task hmem
    cases hmem
  · intro task user hmem
    cases hmem
  · intro m n task other user hm
    cases hm

/-- Logins that do not overlap, under the names that were typed, leave no account with two
sessions. -/
theorem one_session_of_each_account {config : HmiConfig} (hconfig : config.allowConcurrent = false)
    {s : Sessions V} (hrun : Machine.Reaches (Sessions.step config) Admits new s) :
    s.OneSession := by
  have hsound : s.Sound := hrun.invariant (I := Sound) sound_new
    fun hs hadmits hstep => hs.step hconfig hadmits hstep
  exact hsound.single

/-!
## Two logins
-/

def plainAnswers (account id : String) : (c : HmiCall Plain) -> c.Answer
  | .bus _ _ _ => .ok (Plain.text account)
  | .newTokenId => .ok ({ u := id, salt := "" } : TokenId)
  | _ => .error (invalidData "")

def loginAs (user : String) : SessionEvent Plain :=
  .login 1000 ⟨user, "secret", none, none, false⟩ none

def steps (n count : Nat) (account id : String) : List (SessionEvent Plain) :=
  List.replicate count (.step n (plainAnswers account id) none)

def singleConfig : HmiConfig :=
  { plainConfig with allowConcurrent := false }

def keepsTyped : (c : HmiCall Plain) -> c.Answer -> Bool
  | .bus _ _ (.login typed _ _ _ _), answer =>
    match (answer : EResult Plain) with
    | .ok (.text account) => account == typed
    | _ => true
  | _, _ => true

lemma keepsName_of_keepsTyped {c : HmiCall Plain} {answer : c.Answer}
    (h : keepsTyped c answer = true) : KeepsName c answer := by
  cases c with
  | bus target method payload =>
    cases payload with
    | login typed password source xopts verified =>
      intro reply accepted hreply hdecode _
      rw [hreply] at h
      cases reply with
      | text account =>
        cases hdecode
        exact eq_of_beq h
      | _ => cases hdecode
    | _ => trivial
  | _ => trivial

def checkSingle (s : Sessions Plain) : SessionEvent Plain -> Bool
  | .step n answers _ => (s.tasks.zipIdx.all fun other => other.2 == n || other.1.pending.isNone) &&
    s.tasks[n]?.all fun task =>
      match task.dialog with
      | .ask c _ => keepsTyped c (answers c)
      | _ => true
  | _ => true

lemma admits_of_checkSingle (s : Sessions Plain) (e : SessionEvent Plain)
    (h : checkSingle s e = true) : s.Admits e := by
  cases e with
  | step n answers failure =>
    intro task c next htask _ hdialog
    rcases Bool.and_eq_true_iff.mp h with ⟨hothers, hkeeps⟩
    constructor
    · rw [htask] at hkeeps
      change (match task.dialog with
        | .ask c _ => keepsTyped c (answers c)
        | _ => true) = true at hkeeps
      rw [hdialog] at hkeeps
      exact keepsName_of_keepsTyped hkeeps
    · intro login _ m other hother _ hpending
      have hclear := List.all_eq_true.mp hothers _ (List.mk_mem_zipIdx_iff_getElem?.mpr hother)
      simpa [hpending] using hclear
  | _ => trivial

def isRefused (task : LoginTask Plain) : Bool :=
  match task.dialog with
  | .fail _ => true
  | _ => false

/-- Bob logs in twice, and the second login is refused. -/
theorem bob_has_one_session :
    exists s : Sessions Plain, Machine.Reaches (Sessions.step singleConfig) Admits new s ∧
      s.tokens.length = 1 ∧ s.tasks.map isRefused = [false, true] ∧ s.OneSession := by
  have hrun : ((Machine.runChecked (Sessions.step singleConfig) checkSingle
      ([loginAs "bob"] ++ steps 0 4 "bob" "a" ++ [loginAs "bob"] ++ steps 1 2 "bob" "b") new).any
        fun s => decide (s.tokens.length = 1 ∧ s.tasks.map isRefused = [false, true])) = true := by
    decide
  rcases (Option.any_eq_true ..).mp hrun with ⟨s, hs, hlast⟩
  have hreach := Machine.Reaches.of_runChecked admits_of_checkSingle .start hs
  rcases of_decide_eq_true hlast with ⟨hlength, hrefused⟩
  exact ⟨s, hreach, hlength, hrefused, one_session_of_each_account rfl hreach⟩

/-- Both logins make their checks before a token is saved. -/
def overlappingLogins : List (SessionEvent Plain) :=
  [loginAs "bob", loginAs "bob"] ++ steps 0 2 "bob" "a" ++ steps 1 4 "bob" "b" ++
    steps 0 2 "bob" "a"

/-- One login after the other, the second under another name of the account. -/
def renamedLogin : List (SessionEvent Plain) :=
  [loginAs "bob"] ++ steps 0 4 "bob" "a" ++ [loginAs "BOB"] ++ steps 1 4 "bob" "b"

lemma exists_two_sessions {events : List (SessionEvent Plain)}
    (h : ((Machine.runChecked (Sessions.step singleConfig) (fun _ _ => true) events new).any
      fun s => decide (s.tokens.countP (isSessionOf "bob") = 2)) = true) :
    exists s, Machine.runChecked (Sessions.step singleConfig) (fun _ _ => true) events new =
      some s ∧ ¬ s.OneSession := by
  apply exists_of_any h
  intro s _ hcount hone
  have hle := hone "bob"
  rw [of_decide_eq_true hcount] at hle
  exact absurd hle (by decide)

/-- Bob has two tokens after two logins at the same time, and after logins under two names. -/
theorem bob_has_two_sessions :
    (exists s, Machine.runChecked (Sessions.step singleConfig) (fun _ _ => true)
        overlappingLogins new = some s ∧ ¬ s.OneSession) ∧
      exists s, Machine.runChecked (Sessions.step singleConfig) (fun _ _ => true)
        renamedLogin new = some s ∧ ¬ s.OneSession :=
  ⟨exists_two_sessions (by decide), exists_two_sessions (by decide)⟩

end Sessions

end Eva4.Hmi
