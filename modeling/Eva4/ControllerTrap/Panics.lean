import Eva4.ControllerTrap.Traps

/-!
# Datagrams and panics

Reading a datagram indexes its bytes.  An index that is out of range does not give an error but
ends the task, and no further datagram is received.
-/

namespace Eva4.ControllerTrap

open Lib Psrpc Dialog

/-- A datagram without a byte, or the header of an encrypted frame with nothing behind it. -/
def Overruns (K : Type) [ErrorKinds K] (data : Bytes) : Prop :=
  data = [] ∨ data.length = 4 ∧ data.getD 0 0 = 0 ∧ data.getD 1 0 = protoVersion ∧
    exists encryption compression, encryption ≠ .no ∧
      parseFlags (data.getD 2 0) = (.ok (encryption, compression) : EResult K _)

variable {K V Ip A B : Type}

/-- With no answers of this kind does the task panic. -/
def NeverPanics (answers : (c : Call V) -> c.Answer K Ip -> Prop) (d : Io K V Ip A) : Prop :=
  d.Follows (Dialog.plainRules answers fun _ => True) (fun _ r => r ≠ .error .panic) ()

/-!
## Steps
-/

lemma orFail_ne_panic (x : EResult K A) : orFail x ≠ .error .panic := by
  cases x with
  | ok | error => exact nofun

lemma error_ne_panic {failure : Failure K} (h : (.error failure : Step K A) ≠ .error .panic) :
    (.error failure : Step K B) ≠ .error .panic := by
  intro hpanic
  cases hpanic
  exact h rfl

lemma bind_ne_panic {x : Step K A} {f : A -> Step K B} (hx : x ≠ .error .panic)
    (hf : forall a, f a ≠ .error .panic) : x >>= f ≠ .error .panic := by
  cases x with
  | ok a => exact hf a
  | error failure => exact error_ne_panic hx

lemma map_ne_panic {x : Step K A} {f : A -> B} (hx : x ≠ .error .panic) :
    x.map f ≠ .error .panic := by
  cases x with
  | ok a => exact nofun
  | error failure => exact error_ne_panic hx

lemma NeverPanics.bind {d : Io K V Ip A} (hd : NeverPanics answers d)
    (hk : forall a, NeverPanics answers (k a)) : NeverPanics answers (d >>= k) :=
  Follows.bind hd (fun _ a _ => hk a) fun _ _ => error_ne_panic

lemma NeverPanics.request (call : Call V) :
    NeverPanics answers (request call : Io K V Ip (call.Answer K Ip)) :=
  ⟨trivial, fun _ _ => nofun⟩

lemma NeverPanics.lift {x : Step K A} (h : x ≠ .error .panic) :
    NeverPanics answers (liftM x : Io K V Ip A) :=
  Follows.lift h

variable [ErrorKinds K] {libs : Libs K V Net Ip}

/-!
## Frames
-/

lemma parseHeader_panic_iff : parseHeader data = (.error .panic : Step K Header) <->
    data.length = 4 ∧ data.getD 1 0 = protoVersion ∧ exists encryption compression,
      encryption ≠ .no ∧
        parseFlags (data.getD 2 0) = (.ok (encryption, compression) : EResult K _) := by
  unfold parseHeader
  by_cases hshort : data.length < 4
  · rw [if_pos hshort]
    exact iff_of_false nofun fun h => by omega
  rw [if_neg hshort]
  by_cases hproto : data.getD 1 0 = protoVersion
  · rw [if_neg (not_not_intro hproto)]
    cases hflags : (parseFlags (data.getD 2 0) : EResult K _) with
    | error e =>
      refine iff_of_false nofun fun h => ?_
      rcases h with ⟨_, _, _, _, _, h⟩
      cases h
    | ok flags =>
      rcases flags with ⟨encryption, compression⟩
      change (if encryption = .no then _ else _) = _ <-> _
      by_cases hplain : encryption = .no
      · rw [if_pos hplain]
        refine iff_of_false nofun fun h => ?_
        rcases h with ⟨_, _, _, _, hencryption, h⟩
        cases h
        exact hencryption hplain
      rw [if_neg hplain]
      by_cases hfour : data.length < 5
      · rw [if_pos hfour]
        exact iff_of_true rfl ⟨by omega, hproto, encryption, compression, hplain, rfl⟩
      · rw [if_neg hfour]
        refine iff_of_false ?_ fun h => by omega
        refine bind_ne_panic (orFail_ne_panic _) fun _ => ?_
        refine bind_ne_panic (orFail_ne_panic _) fun _ => ?_
        refine bind_ne_panic (orFail_ne_panic _) fun _ => ?_
        exact bind_ne_panic (orFail_ne_panic _) fun _ => nofun
  · rw [if_pos hproto]
    exact iff_of_false nofun fun h => hproto h.right.left

variable {crypto : Crypto}

lemma openFrame_neverPanics {data : Bytes}
    (hheader : parseHeader data ≠ (.error .panic : Step K Header)) :
    NeverPanics answers (openFrame crypto data : Io K V Ip _) := by
  refine (NeverPanics.lift hheader).bind fun header => ?_
  refine NeverPanics.bind ?_ fun opts => NeverPanics.bind ?_ fun acl => ?_
  · refine (NeverPanics.request (.getKey _)).bind fun answer => ?_
    exact (NeverPanics.lift (orFail_ne_panic answer)).bind fun _ => nofun
  · exact (NeverPanics.request (.getAcl _)).bind fun answer =>
      NeverPanics.lift (orFail_ne_panic answer)
  · exact (NeverPanics.lift (orFail_ne_panic _)).bind fun _ => nofun

lemma frameData_neverPanics (h : ¬ Overruns K data) :
    NeverPanics answers (frameData crypto data requireAuth : Io K V Ip _) := by
  cases data with
  | nil => exact (h (.inl rfl)).elim
  | cons first rest =>
    by_cases hfirst : first = 0
    · rw [frameData, if_pos hfirst]
      apply openFrame_neverPanics
      intro hpanic
      rcases parseHeader_panic_iff.mp hpanic with ⟨hfour, hproto, hflags⟩
      exact h (.inr ⟨hfour, hfirst, hproto, hflags⟩)
    · rw [frameData, if_neg hfirst]
      cases requireAuth with
      | true | false => exact nofun

lemma parseNativeTrap_of_overruns (h : Overruns K data) :
    parseNativeTrap libs crypto data requireAuth = .fail .panic := by
  rcases h with hempty | ⟨hfour, hfirst, hproto, hflags⟩
  · rw [hempty]
    rfl
  · cases data with
    | nil => rfl
    | cons first rest =>
      have hheader := (parseHeader_panic_iff (K := K)).mpr ⟨hfour, hproto, hflags⟩
      rw [parseNativeTrap, frameData, if_pos (show first = 0 from hfirst), openFrame, hheader]
      rfl

/-!
## Lines
-/

lemma parseAction_ne_panic : parseAction libs acl args ≠ .error .panic := by
  refine bind_ne_panic (orFail_ne_panic _) fun oidStr => ?_
  refine bind_ne_panic (orFail_ne_panic _) fun oid => ?_
  refine bind_ne_panic (orFail_ne_panic _) fun actionType => ?_
  exact bind_ne_panic (orFail_ne_panic _) fun _ => orFail_ne_panic _

section

variable (hvalue : forall s, exists v, libs.parseValue s = .ok v)
include hvalue

lemma parseUpdate_ne_panic : parseUpdate libs acl args ≠ .error .panic := by
  refine bind_ne_panic (orFail_ne_panic _) fun oidStr => ?_
  refine bind_ne_panic (orFail_ne_panic _) fun oid => ?_
  refine bind_ne_panic (orFail_ne_panic _) fun statusStr => ?_
  refine bind_ne_panic (orFail_ne_panic _) fun _ => ?_
  refine bind_ne_panic (orFail_ne_panic _) fun status => ?_
  cases args[2]? with
  | none => exact nofun
  | some s =>
    rcases hvalue s with ⟨v, hv⟩
    dsimp only
    rw [hv]
    exact nofun

lemma parseLine_ne_panic : parseLine libs acl line ≠ .error .panic := by
  refine bind_ne_panic (orFail_ne_panic _) fun lineStr => ?_
  split
  · exact nofun
  · dsimp only
    split
    · exact map_ne_panic (parseUpdate_ne_panic hvalue)
    · split
      · exact map_ne_panic parseAction_ne_panic
      · exact nofun

lemma parseLines_ne_panic : parseLines libs acl lines ≠ .error .panic := by
  induction lines with
  | nil => exact nofun
  | cons line lines ih =>
    exact bind_ne_panic (parseLine_ne_panic hvalue) fun trap =>
      bind_ne_panic ih fun traps => nofun

lemma parseNativeTrap_neverPanics {data : Bytes} (h : ¬ Overruns K data) :
    NeverPanics answers (parseNativeTrap libs crypto data requireAuth) := by
  refine (frameData_neverPanics h).bind fun frame => ?_
  exact NeverPanics.lift (parseLines_ne_panic hvalue)

/-!
## The receive loop
-/

/-- All datagrams that come are as described, as they are in the buffer. -/
def received (Admits : Bytes -> Prop) : (c : Call V) -> c.Answer K Ip -> Prop
  | .recvFrom, answer => forall ip data, answer = .ok (ip, data) -> Admits (data.take maxTrapSize)
  | .getKey _, _ => True
  | .getAcl _, _ => True
  | .process _, _ => True
  | .runMacro _ _, _ => True

/-- The calls end, and nothing they answer makes the task fail. -/
def Continues (d : Io K V Ip Unit) : Prop :=
  d.Follows (Dialog.plainRules (received fun data => ¬ Overruns K data) fun _ => True)
    (fun _ r => r = .ok ()) ()

omit hvalue in
lemma Continues.bind {d' : Io K V Ip Unit} (hd : Continues d) (hd' : Continues d') :
    Continues (d >>= fun _ => d') :=
  Follows.bind hd (fun _ _ _ => hd') fun _ _ => nofun

omit hvalue in
lemma processTraps_continues : Continues (processTraps traps : Io K V Ip Unit) := by
  induction traps with
  | nil => exact rfl
  | cons trap traps ih => exact ⟨trivial, fun _ _ => ih⟩

omit hvalue in
lemma handleSnmp_continues : Continues (handleSnmp libs config ip data) := by
  unfold handleSnmp
  split
  · split
    · unfold processSnmp
      dsimp only
      split
      · exact rfl
      · split
        · exact ⟨trivial, fun _ _ => rfl⟩
        · exact rfl
    · exact rfl
  · exact rfl

lemma handleNative_continues (h : ¬ Overruns K (data.take maxTrapSize)) :
    Continues (handleNative libs crypto config ip data) := by
  unfold handleNative
  split
  · split
    · refine Follows.bind (P := fun _ r => exists result, r = .ok result ∧
        result ≠ .error .panic) (Follows.attempt ?_) ?_ fun _ _ h => ?_
      · exact Follows.mono (parseNativeTrap_neverPanics hvalue h) fun _ r hr => ⟨r, rfl, hr⟩
      · rintro _ result ⟨_, hresult, hpanic⟩
        cases hresult
        cases result with
        | ok traps => exact processTraps_continues
        | error failure =>
          cases failure with
          | error e => exact rfl
          | panic => exact (hpanic rfl).elim
      · rcases h with ⟨_, h, _⟩
        cases h
    · exact rfl
  · exact rfl

lemma launchHandler_continues (config : Config Net) (n : Nat) :
    Continues (launchHandler libs crypto config n) := by
  induction n with
  | zero => exact rfl
  | succ n ih =>
    refine ⟨trivial, fun answer hanswer => ?_⟩
    cases answer with
    | error e => exact ih
    | ok datagram =>
      refine Continues.bind ?_ ih
      unfold handle
      split
      · exact handleNative_continues hvalue (hanswer _ _ rfl)
      · exact handleSnmp_continues

end

/-- A datagram stops the controller exactly if it overruns, and with no such datagram the loop
goes on after each one. -/
theorem datagram_panics_iff (hvalue : forall s, exists v, libs.parseValue s = .ok v) :
    (forall data requireAuth, NeverPanics (fun _ _ => True)
      (parseNativeTrap libs crypto data requireAuth) <-> ¬ Overruns K data) ∧
    forall config n, Continues (launchHandler libs crypto config n) := by
  refine ⟨fun data requireAuth => ⟨?_, ?_⟩, launchHandler_continues hvalue⟩
  · intro h hover
    rw [parseNativeTrap_of_overruns hover] at h
    exact h rfl
  · intro h
    exact parseNativeTrap_neverPanics hvalue h

/-- The sample datagrams are an empty one and a header without a sender. -/
theorem empty_datagram_panics :
    (forall data, data = [] ∨ data = [0, protoVersion, 2, 0] ->
      ¬ NeverPanics (fun _ _ => True) (parseNativeTrap Sample.libs Crypto.sample data true)) ∧
    forall ip, handleNative Sample.libs Crypto.sample { Sample.config with protocol := .evaV1 }
      ip [] = .fail .panic := by
  refine ⟨fun data hdata h => ?_, fun _ => rfl⟩
  have hover : Overruns (BitVec 16) data := by
    rcases hdata with rfl | rfl
    · exact .inl rfl
    · exact .inr ⟨rfl, rfl, rfl, _, _, Encryption.noConfusion, rfl⟩
  rw [parseNativeTrap_of_overruns hover] at h
  exact h rfl

theorem short_frame_refused :
    ¬ Overruns (BitVec 16) [0, protoVersion] ∧ NeverPanics (fun _ _ => True)
      (parseNativeTrap Sample.libs Crypto.sample [0, protoVersion] true) := by
  have hsafe : ¬ Overruns (BitVec 16) [0, protoVersion] := by
    rintro (h | ⟨h, _⟩)
    · cases h
    · cases h
  exact ⟨hsafe, ((datagram_panics_iff fun s => ⟨s, rfl⟩).left _ true).mpr hsafe⟩

end Eva4.ControllerTrap
