import Eva4.Lib.Machine
import Eva4.Repl.Bulk

/-!
# Cached keys and rights

The values of keys, the options made of them and the rights of keys are cached.  A lookup that
finds nothing asks the key service over the bus and stores the answer.  When a key is changed,
it is removed from the three caches, one after the other; when a list of rights is changed, the
rights that were made of it are removed.  Events that come before the nodes are loaded, or when
the service is terminating, are dropped.
-/

namespace Eva4.Repl

open Lib Psrpc Table

/-- A value with the time at which the key service has given it. -/
structure Stamped (A : Type) where
  data : A
  fetched : Nat

inductive LookupKind where
  | key
  | encOpts
  | acl
deriving DecidableEq

inductive Answer where
  | key (value : String)
  | encOpts (opts : Options)
  | acl (acl : Acl)

/-- Where a lookup is.  Those of options and of rights look up the key on their way. -/
inductive LookupPhase where
  | start
  | checkKey
  | callKey
  /-- The key service has answered, the answer is not stored yet. -/
  | holdKey (value : Stamped String)
  | haveKey (value : Stamped String)
  | callAcl (value : String)
  | holdAcl (acl : Stamped Acl)
  /-- The options are stored and about to be returned. -/
  | readyOpts (opts : Stamped Options)
  | readyAcl (acl : Stamped Acl)
  | returned (answer : Stamped Answer)
  | failed

structure Lookup where
  kind : LookupKind
  keyId : String
  phase : LookupPhase

/-- Which caches the handler of an event has already cleared. -/
inductive ClearStage where
  | keys
  | encOpts
  | handled
deriving DecidableEq

/-- A change of a key that is being handled or has been handled. -/
structure KeyChange where
  keyId : String
  since : Nat
  stage : ClearStage

structure AclChange where
  aclId : String
  since : Nat

structure Caches where
  now : Nat
  loaded : Bool
  keys : Table String (Stamped String)
  encOpts : Table String (Stamped Options)
  acls : Table String (Stamped Acl)
  lookups : List Lookup
  keyChanges : List KeyChange
  aclChanges : List AclChange

inductive CacheEvent where
  | load
  | terminate
  | lookup (kind : LookupKind) (keyId : String)
  /-- The lookup goes on, up to its next call. -/
  | proceed (n : Nat)
  | keyAnswer (n : Nat) (value : String)
  | aclAnswer (n : Nat) (acl : Acl)
  | callFailed (n : Nat)
  /-- The handler of a changed key clears the first cache, or drops the event. -/
  | keyChanged (keyId : String)
  /-- The handler clears the next cache. -/
  | clear (m : Nat)
  | aclChanged (aclId : String)

variable (s : Caches)

namespace Caches

def new : Caches where
  now := 0
  loaded := false
  keys := ∅
  encOpts := ∅
  acls := ∅
  lookups := []
  keyChanges := []
  aclChanges := []

def setPhase (n : Nat) (t : Lookup) (phase : LookupPhase) : Caches :=
  { s with lookups := s.lookups.set n { t with phase := phase } }

variable (crypto : Crypto)

/-- The step of a lookup that does not wait for an answer: what it stores and how it goes on. -/
def advance (s : Caches) (t : Lookup) : Option (Caches × LookupPhase) :=
  match t.phase, t.kind with
  | .start, .key =>
    match s.keys.lookup t.keyId with
    | some v => some (s, .returned ⟨.key v.data, v.fetched⟩)
    | none => some (s, .callKey)
  | .start, .encOpts =>
    match s.encOpts.lookup t.keyId with
    | some o => some (s, .returned ⟨.encOpts o.data, o.fetched⟩)
    | none => some (s, .checkKey)
  | .start, .acl =>
    match s.acls.lookup t.keyId with
    | some a => some (s, .returned ⟨.acl a.data, a.fetched⟩)
    | none => some (s, .checkKey)
  | .checkKey, _ =>
    match s.keys.lookup t.keyId with
    | some v => some (s, .haveKey v)
    | none => some (s, .callKey)
  | .holdKey v, _ => some ({ s with keys := s.keys.insert t.keyId v }, .haveKey v)
  | .haveKey v, .key => some (s, .returned ⟨.key v.data, v.fetched⟩)
  | .haveKey v, .encOpts =>
    let key : EncryptionKey := { id := t.keyId, value := v.data }
    let opts : Stamped Options :=
      ⟨Options.new.withEncryption crypto .aes256Gcm key, v.fetched⟩
    some ({ s with encOpts := s.encOpts.insert t.keyId opts }, .readyOpts opts)
  | .haveKey v, .acl => some (s, .callAcl v.data)
  | .holdAcl a, _ => some ({ s with acls := s.acls.insert t.keyId a }, .readyAcl a)
  | .readyOpts o, _ => some (s, .returned ⟨.encOpts o.data, o.fetched⟩)
  | .readyAcl a, _ => some (s, .returned ⟨.acl a.data, a.fetched⟩)
  | _, _ => none

def clearNext (m : Nat) (c : KeyChange) : Option Caches :=
  match c.stage with
  | .keys =>
    some { s with
      encOpts := s.encOpts.erase c.keyId
      keyChanges := s.keyChanges.set m { c with stage := .encOpts } }
  | .encOpts =>
    some { s with
      acls := s.acls.erase c.keyId
      keyChanges := s.keyChanges.set m { c with stage := .handled } }
  | .handled => none

def act (s : Caches) : CacheEvent -> Option Caches
  | .load => some { s with loaded := true }
  | .terminate => some { s with loaded := false }
  | .lookup kind keyId =>
    some { s with lookups := s.lookups ++ [{ kind := kind, keyId := keyId, phase := .start }] }
  | .proceed n =>
    s.lookups[n]?.bind fun t => (s.advance crypto t).map fun next => next.1.setPhase n t next.2
  | .keyAnswer n value =>
    s.lookups[n]?.bind fun t =>
      match t.phase with
      | .callKey => some (s.setPhase n t (.holdKey ⟨value, s.now⟩))
      | _ => none
  | .aclAnswer n acl =>
    s.lookups[n]?.bind fun t =>
      match t.phase with
      | .callAcl _ => some (s.setPhase n t (.holdAcl ⟨acl, s.now⟩))
      | _ => none
  | .callFailed n =>
    s.lookups[n]?.bind fun t =>
      match t.phase with
      | .callKey | .callAcl _ => some (s.setPhase n t .failed)
      | _ => none
  | .keyChanged keyId =>
    some { s with
      keys := if s.loaded then s.keys.erase keyId else s.keys
      keyChanges := s.keyChanges ++ [{
        keyId := keyId, since := s.now, stage := if s.loaded then .keys else .handled }] }
  | .clear m => s.keyChanges[m]?.bind (s.clearNext m)
  | .aclChanged aclId =>
    some { s with
      acls := if s.loaded then Table.retain (fun _ a => !a.data.containsAcl aclId) s.acls
        else s.acls
      aclChanges := s.aclChanges ++ [{ aclId := aclId, since := s.now }] }

def returning (s : Caches) (n : Nat) : Option (String × Stamped Answer) :=
  s.lookups[n]?.bind fun t =>
    (s.advance crypto t).bind fun next =>
      match next.2 with
      | .returned answer => some (t.keyId, answer)
      | _ => none

def step : Machine Caches CacheEvent := fun s e =>
  (s.act crypto e).map fun s' => { s' with now := s'.now + 1 }

/-!
## Revoked values
-/

end Caches

def Lookup.keyInHand (t : Lookup) : Option Nat :=
  match t.phase, t.kind with
  | .holdKey v, _ => some v.fetched
  | .haveKey _, .acl => none
  | .haveKey v, _ => some v.fetched
  | .readyOpts o, _ => some o.fetched
  | _, _ => none

def Lookup.aclInHand (t : Lookup) : Option (Stamped Acl) :=
  match t.phase with
  | .holdAcl a => some a
  | .readyAcl a => some a
  | _ => none

namespace Caches

/-- A change is handled only while no lookup has in hand what is changed, and is dropped only
while no cache has it. -/
def NothingInHand : CacheEvent -> Prop
  | .keyChanged keyId => (forall t, t ∈ s.lookups -> t.keyId = keyId ->
      t.keyInHand = none ∧ t.aclInHand = none) ∧
      (s.loaded = false -> s.keys.lookup keyId = none ∧ s.encOpts.lookup keyId = none ∧
        s.acls.lookup keyId = none)
  | .aclChanged aclId => (forall t, t ∈ s.lookups -> forall a, t.aclInHand = some a ->
      a.data.containsAcl aclId = false) ∧ (s.loaded = false -> forall k a,
        s.acls.lookup k = some a -> a.data.containsAcl aclId = false)
  | _ => True

/-- An answer is not older than any change that has been handled and concerns it. -/
def Fresh (keyId : String) (answer : Stamped Answer) : Prop :=
  (forall c, c ∈ s.keyChanges -> c.keyId = keyId -> c.stage = .handled ->
    c.since <= answer.fetched) ∧
  forall acl, answer.data = .acl acl -> forall c, c ∈ s.aclChanges ->
    acl.containsAcl c.aclId = true -> c.since <= answer.fetched

def KeyClean (keyId : String) (fetched : Nat) : Prop :=
  forall c, c ∈ s.keyChanges -> c.keyId = keyId -> c.since <= fetched

def AclClean (a : Stamped Acl) : Prop :=
  forall c, c ∈ s.aclChanges -> a.data.containsAcl c.aclId = true -> c.since <= a.fetched

/-- What a lookup has in hand is not older than any change. -/
structure HandClean (t : Lookup) : Prop where
  key : forall fetched, t.keyInHand = some fetched -> s.KeyClean t.keyId fetched
  acl : forall a, t.aclInHand = some a -> s.KeyClean t.keyId a.fetched ∧ s.AclClean a

/-- The caches that were cleared hold nothing older than the change. -/
structure Clean : Prop where
  past : forall c, c ∈ s.keyChanges -> c.since <= s.now
  aclPast : forall c, c ∈ s.aclChanges -> c.since <= s.now
  keys : forall keyId v, s.keys.lookup keyId = some v -> s.KeyClean keyId v.fetched
  encOpts : forall keyId o, s.encOpts.lookup keyId = some o -> forall c, c ∈ s.keyChanges ->
    c.keyId = keyId -> c.stage ≠ .keys -> c.since <= o.fetched
  acls : forall keyId a, s.acls.lookup keyId = some a ->
    (forall c, c ∈ s.keyChanges -> c.keyId = keyId -> c.stage = .handled ->
      c.since <= a.fetched) ∧ s.AclClean a
  hands : forall t, t ∈ s.lookups -> s.HandClean t

lemma new_clean : new.Clean where
  past _ h := by cases h
  aclPast _ h := by cases h
  keys _ _ h := by cases h
  encOpts _ _ h := by cases h
  acls _ _ h := by cases h
  hands _ h := by cases h

variable {s} {keyId : String} {crypto : Crypto} {t : Lookup}
  {next : Caches × LookupPhase}

lemma handClean_empty (hkey : t.keyInHand = none) (hacl : t.aclInHand = none) : s.HandClean t where
  key fetched h := by
    rw [hkey] at h
    cases h
  acl a h := by
    rw [hacl] at h
    cases h

section

variable (h : s.Clean)
include h

lemma Clean.tick : ({ s with now := s.now + 1 } : Caches).Clean :=
  { h with
    past c hc := Nat.le_succ_of_le (h.past c hc)
    aclPast c hc := Nat.le_succ_of_le (h.aclPast c hc)
    hands t ht := ⟨(h.hands t ht).key, (h.hands t ht).acl⟩ }

lemma Clean.keyClean_now : s.KeyClean keyId s.now :=
  fun c hc _ => h.past c hc

variable {answer : Stamped Answer} {n : Nat} {phase : LookupPhase}

lemma Clean.setPhase (hhand : s.HandClean { t with phase := phase }) :
    (s.setPhase n t phase).Clean :=
  { h with
    hands := forall_mem_set (fun u hu => ⟨(h.hands u hu).key, (h.hands u hu).acl⟩)
      ⟨hhand.key, hhand.acl⟩ }

lemma Clean.addLookup : ({ s with lookups := s.lookups ++
      [{ kind := kind, keyId := keyId, phase := .start }] } : Caches).Clean :=
  { h with
    hands := forall_mem_concat (fun u hu => ⟨(h.hands u hu).key, (h.hands u hu).acl⟩)
      (handClean_empty rfl rfl) }

/-!
## Storing
-/

lemma Clean.storeKey (hv : s.KeyClean keyId v.fetched) :
    ({ s with keys := s.keys.insert keyId v } : Caches).Clean :=
  { h with
    keys := forall_insert h.keys hv
    hands t ht := ⟨(h.hands t ht).key, (h.hands t ht).acl⟩ }

lemma Clean.storeOpts (ho : s.KeyClean keyId o.fetched) :
    ({ s with encOpts := s.encOpts.insert keyId o } : Caches).Clean :=
  { h with
    encOpts := forall_insert h.encOpts fun c hc hkey _ => ho c hc hkey
    hands t ht := ⟨(h.hands t ht).key, (h.hands t ht).acl⟩ }

lemma Clean.storeAcl (hkey : s.KeyClean keyId a.fetched) (hacl : s.AclClean a) :
    ({ s with acls := s.acls.insert keyId a } : Caches).Clean :=
  { h with
    acls := forall_insert h.acls ⟨fun c hc hid _ => hkey c hc hid, hacl⟩
    hands t ht := ⟨(h.hands t ht).key, (h.hands t ht).acl⟩ }

structure Advanced (s : Caches) (t : Lookup) (next : Caches × LookupPhase) : Prop where
  clean : next.1.Clean
  hand : next.1.HandClean { t with phase := next.2 }
  fresh : forall answer, next.2 = .returned answer -> s.Fresh t.keyId answer

lemma Clean.returns (hfresh : s.Fresh t.keyId answer) : s.Advanced t (s, .returned answer) where
  clean := h
  hand := handClean_empty rfl rfl
  fresh other hother := by
    cases hother
    exact hfresh

lemma Clean.goesOn (hhand : s.HandClean { t with phase := phase })
    (hnot : forall answer, phase ≠ .returned answer) : s.Advanced t (s, phase) where
  clean := h
  hand := hhand
  fresh answer hanswer := absurd hanswer (hnot answer)

omit h in
lemma KeyClean.fresh (h : s.KeyClean keyId answer.fetched)
    (hnot : forall acl, answer.data ≠ .acl acl) : s.Fresh keyId answer :=
  ⟨fun c hc hid _ => h c hc hid, fun acl hacl => absurd hacl (hnot acl)⟩

omit h in
lemma handClean_haveKey (hv : s.KeyClean t.keyId v.fetched) :
    s.HandClean { t with phase := .haveKey v } where
  key fetched h := by
    rcases t with ⟨kind, keyId, phase⟩
    cases kind with
    | acl => cases h
    | key | encOpts =>
      cases h
      exact hv
  acl _ h := by cases h

omit h in
lemma fresh_acl (hkey : forall c, c ∈ s.keyChanges -> c.keyId = keyId -> c.stage = .handled ->
      c.since <= a.fetched) (hacl : s.AclClean a) : s.Fresh keyId ⟨.acl a.data, a.fetched⟩ := by
  refine ⟨hkey, ?_⟩
  intro acl heq
  cases heq
  exact hacl

lemma Clean.fresh_encOpts (ho : s.encOpts.lookup keyId = some o) :
    s.Fresh keyId ⟨.encOpts o.data, o.fetched⟩ := by
  constructor
  · intro c hc hid hstage
    apply h.encOpts keyId o ho c hc hid
    rw [hstage]
    exact ClearStage.noConfusion
  · intro acl heq
    cases heq

lemma Clean.start
    (hnext : s.advance crypto { kind := kind, keyId := keyId, phase := .start } = some next) :
    s.Advanced { kind := kind, keyId := keyId, phase := .start } next := by
  cases kind with
  | key =>
    simp only [advance] at hnext
    split at hnext
    · next v hv =>
      cases hnext
      exact h.returns ((h.keys keyId v hv).fresh fun _ => Answer.noConfusion)
    · cases hnext
      exact h.goesOn (handClean_empty rfl rfl) fun _ => LookupPhase.noConfusion
  | encOpts =>
    simp only [advance] at hnext
    split at hnext
    · next o ho =>
      cases hnext
      exact h.returns (h.fresh_encOpts ho)
    · cases hnext
      exact h.goesOn (handClean_empty rfl rfl) fun _ => LookupPhase.noConfusion
  | acl =>
    simp only [advance] at hnext
    split at hnext
    · next a ha =>
      cases hnext
      exact h.returns (fresh_acl (h.acls keyId a ha).left (h.acls keyId a ha).right)
    · cases hnext
      exact h.goesOn (handClean_empty rfl rfl) fun _ => LookupPhase.noConfusion

theorem Clean.haveKey (ht : s.HandClean { kind := kind, keyId := keyId, phase := .haveKey v })
    (hnext : s.advance crypto { kind := kind, keyId := keyId, phase := .haveKey v } =
      some next) : s.Advanced { kind := kind, keyId := keyId, phase := .haveKey v } next := by
  cases kind with
  | key =>
    cases hnext
    have hv : s.KeyClean keyId v.fetched := ht.key v.fetched rfl
    exact h.returns (hv.fresh fun _ => Answer.noConfusion)
  | encOpts =>
    cases hnext
    have hv : s.KeyClean keyId v.fetched := ht.key v.fetched rfl
    constructor
    · exact h.storeOpts hv
    · refine ⟨?_, fun _ hacl => by cases hacl⟩
      intro fetched hfetched
      cases hfetched
      exact hv
    · exact fun _ => LookupPhase.noConfusion
  | acl =>
    cases hnext
    exact h.goesOn (handClean_empty rfl rfl) fun _ => LookupPhase.noConfusion

lemma advance_advanced (ht : s.HandClean t) (hnext : s.advance crypto t = some next) :
    s.Advanced t next := by
  rcases t with ⟨kind, keyId, phase⟩
  cases phase with
  | start => exact h.start hnext
  | checkKey =>
    simp only [advance] at hnext
    split at hnext
    · next v hv =>
      cases hnext
      exact h.goesOn (handClean_haveKey (h.keys keyId v hv)) fun _ => LookupPhase.noConfusion
    · cases hnext
      exact h.goesOn (handClean_empty rfl rfl) fun _ => LookupPhase.noConfusion
  | callKey | callAcl | returned | failed => cases hnext
  | holdKey v =>
    cases hnext
    have hv : s.KeyClean keyId v.fetched := ht.key v.fetched rfl
    constructor
    · exact h.storeKey hv
    · exact handClean_haveKey hv
    · exact fun _ => LookupPhase.noConfusion
  | haveKey v => exact h.haveKey ht hnext
  | holdAcl a =>
    cases hnext
    have ha : s.KeyClean keyId a.fetched ∧ s.AclClean a := ht.acl a rfl
    constructor
    · exact h.storeAcl ha.left ha.right
    · constructor
      · intro _ hkey
        cases hkey
      · intro other hother
        cases hother
        exact ha
    · exact fun _ => LookupPhase.noConfusion
  | readyOpts o =>
    cases hnext
    have ho : s.KeyClean keyId o.fetched := ht.key o.fetched rfl
    exact h.returns (ho.fresh fun _ => Answer.noConfusion)
  | readyAcl a =>
    cases hnext
    have ha : s.KeyClean keyId a.fetched ∧ s.AclClean a := ht.acl a rfl
    exact h.returns (fresh_acl (fun c hc hid _ => ha.left c hc hid) ha.right)

/-!
## Changes
-/

theorem Clean.keyChanged (hhands : s.NothingInHand (.keyChanged keyId))
    (hact : s.act crypto (.keyChanged keyId) = some s') : s'.Clean := by
  rcases hhands with ⟨hhands, hdropped⟩
  cases hact
  constructor
  · exact forall_mem_concat h.past (Nat.le_refl s.now)
  · exact h.aclPast
  · intro k v hv
    cases hloaded : s.loaded with
    | true =>
      simp only [hloaded, if_true, lookup_erase_if] at hv
      split at hv
      · cases hv
      · next hne => exact forall_mem_concat (h.keys k v hv) fun hid => absurd hid.symm hne
    | false =>
      simp only [hloaded, Bool.false_eq_true, if_false] at hv
      apply forall_mem_concat (h.keys k v hv)
      rintro rfl
      rw [(hdropped hloaded).1] at hv
      cases hv
  · intro k o ho
    apply forall_mem_concat (h.encOpts k o ho)
    rintro rfl hstage
    cases hloaded : s.loaded with
    | true => simp [hloaded] at hstage
    | false =>
      rw [(hdropped hloaded).2.1] at ho
      cases ho
  · intro k a ha
    refine ⟨forall_mem_concat (h.acls k a ha).left ?_, (h.acls k a ha).right⟩
    rintro rfl hstage
    cases hloaded : s.loaded with
    | true => simp [hloaded] at hstage
    | false =>
      rw [(hdropped hloaded).2.2] at ha
      cases ha
  · intro t ht
    constructor
    · intro fetched hfetched
      apply forall_mem_concat ((h.hands t ht).key fetched hfetched)
      intro hid
      rw [(hhands t ht hid.symm).left] at hfetched
      cases hfetched
    · intro a ha
      refine ⟨forall_mem_concat ((h.hands t ht).acl a ha).left ?_, ((h.hands t ht).acl a ha).right⟩
      intro hid
      rw [(hhands t ht hid.symm).right] at ha
      cases ha

lemma Clean.aclChanged (hhands : s.NothingInHand (.aclChanged aclId))
    (hact : s.act crypto (.aclChanged aclId) = some s') : s'.Clean := by
  rcases hhands with ⟨hhands, hdropped⟩
  cases hact
  have hclean : forall a, s.AclClean a -> a.data.containsAcl aclId = false -> forall c,
      c ∈ s.aclChanges ++ [{ aclId := aclId, since := s.now }] ->
        a.data.containsAcl c.aclId = true -> c.since <= a.fetched := by
    intro a ha hnot
    apply forall_mem_concat ha
    intro hcontains
    rw [hnot] at hcontains
    cases hcontains
  constructor
  · exact h.past
  · exact forall_mem_concat h.aclPast (Nat.le_refl s.now)
  · exact h.keys
  · exact h.encOpts
  · intro k a ha
    cases hloaded : s.loaded with
    | true =>
      simp only [hloaded, if_true] at ha
      rw [lookup_retain, Option.filter_eq_some_iff, Bool.not_eq_true'] at ha
      exact ⟨(h.acls k a ha.left).left, hclean a (h.acls k a ha.left).right ha.right⟩
    | false =>
      simp only [hloaded, Bool.false_eq_true, if_false] at ha
      exact ⟨(h.acls k a ha).left, hclean a (h.acls k a ha).right (hdropped hloaded k a ha)⟩
  · intro t ht
    refine ⟨(h.hands t ht).key, ?_⟩
    intro a ha
    have hhand := (h.hands t ht).acl a ha
    exact ⟨hhand.left, hclean a hhand.right (hhands t ht a ha)⟩

omit h in
theorem keyClean_of_set (hc : c ∈ s.keyChanges) (h : s.KeyClean keyId fetched) :
    forall d, d ∈ s.keyChanges.set m { c with stage := stage } -> d.keyId = keyId ->
      d.since <= fetched := by
  apply forall_mem_set h
  exact h c hc

lemma Clean.clearNext (hc : c ∈ s.keyChanges) (hs' : s.clearNext m c = some s') : s'.Clean := by
  have hpast : forall stage d, d ∈ s.keyChanges.set m { c with stage := stage } ->
      d.since <= s.now := by
    intro stage
    apply forall_mem_set h.past
    exact h.past c hc
  have hhands : forall stage t, t ∈ s.lookups -> ({ s with
      keyChanges := s.keyChanges.set m { c with stage := stage } } : Caches).HandClean t := by
    intro stage t ht
    constructor
    · exact fun fetched hfetched => keyClean_of_set hc ((h.hands t ht).key fetched hfetched)
    · exact fun a ha => ⟨keyClean_of_set hc ((h.hands t ht).acl a ha).left,
        ((h.hands t ht).acl a ha).right⟩
  unfold Caches.clearNext at hs'
  split at hs'
  · next hstage =>
    cases hs'
    constructor
    · exact hpast .encOpts
    · exact h.aclPast
    · exact fun k v hv => keyClean_of_set hc (h.keys k v hv)
    · apply forall_erase
      intro k o ho hne
      apply forall_mem_set (h.encOpts k o ho)
      exact fun hid => absurd hid.symm hne
    · intro k a ha
      refine ⟨forall_mem_set (h.acls k a ha).left ?_, (h.acls k a ha).right⟩
      intro _ hhandled
      cases hhandled
    · exact fun t ht => ⟨(hhands .encOpts t ht).key, (hhands .encOpts t ht).acl⟩
  · next hstage =>
    cases hs'
    constructor
    · exact hpast .handled
    · exact h.aclPast
    · exact fun k v hv => keyClean_of_set hc (h.keys k v hv)
    · intro k o ho
      have hlater : c.stage ≠ .keys := by
        rw [hstage]
        exact ClearStage.noConfusion
      apply forall_mem_set (h.encOpts k o ho)
      exact fun hid _ => h.encOpts k o ho c hc hid hlater
    · apply forall_erase
      intro k a ha hne
      refine ⟨forall_mem_set (h.acls k a ha).left ?_, (h.acls k a ha).right⟩
      exact fun hid => absurd hid.symm hne
    · exact fun t ht => ⟨(hhands .handled t ht).key, (hhands .handled t ht).acl⟩
  · cases hs'

/-!
## Runs
-/

lemma Clean.proceeds (hact : s.act crypto (.proceed n) = some s') :
    exists t next, s.lookups[n]? = some t ∧ s.Advanced t next ∧
      s' = next.1.setPhase n t next.2 := by
  rcases Option.bind_eq_some_iff.mp hact with ⟨t, ht, hact⟩
  rcases Option.map_eq_some_iff.mp hact with ⟨next, hnext, hs'⟩
  exact ⟨t, next, ht, advance_advanced h (h.hands t (List.mem_of_getElem? ht)) hnext, hs'.symm⟩

lemma Clean.act (hadmits : s.NothingInHand e) (hact : s.act crypto e = some s') : s'.Clean := by
  cases e with
  | load | terminate =>
    cases hact
    exact { h with hands := fun t ht => ⟨(h.hands t ht).key, (h.hands t ht).acl⟩ }
  | lookup kind keyId =>
    cases hact
    exact h.addLookup
  | proceed n =>
    rcases h.proceeds hact with ⟨t, next, _, hadvanced, hs'⟩
    rw [hs']
    exact hadvanced.clean.setPhase hadvanced.hand
  | keyAnswer n value =>
    rcases Option.bind_eq_some_iff.mp hact with ⟨t, ht, hact⟩
    split at hact
    · cases hact
      apply h.setPhase
      constructor
      · intro fetched hfetched
        cases hfetched
        exact h.keyClean_now
      · intro _ hacl
        cases hacl
    · cases hact
  | aclAnswer n acl =>
    rcases Option.bind_eq_some_iff.mp hact with ⟨t, ht, hact⟩
    split at hact
    · cases hact
      apply h.setPhase
      constructor
      · intro _ hkey
        cases hkey
      · intro a ha
        cases ha
        exact ⟨h.keyClean_now, fun c hc _ => h.aclPast c hc⟩
    · cases hact
  | callFailed n =>
    rcases Option.bind_eq_some_iff.mp hact with ⟨t, ht, hact⟩
    split at hact
    · cases hact
      exact h.setPhase (handClean_empty rfl rfl)
    · cases hact
      exact h.setPhase (handClean_empty rfl rfl)
    · cases hact
  | keyChanged keyId => exact h.keyChanged hadmits hact
  | clear m =>
    rcases Option.bind_eq_some_iff.mp hact with ⟨c, hc, hact⟩
    exact h.clearNext (List.mem_of_getElem? hc) hact
  | aclChanged aclId => exact h.aclChanged hadmits hact

lemma Clean.step (hadmits : s.NothingInHand e) (hstep : Caches.step crypto s e = some s') :
    s'.Clean := by
  rcases Option.map_eq_some_iff.mp hstep with ⟨mid, hmid, hs'⟩
  rw [← hs']
  exact (h.act hadmits hmid).tick

end

/-- In every run in which a change is handled only while no lookup has in hand what is changed, and
dropped only while no cache has it, no lookup returns a value older than a handled change. -/
theorem no_revoked_value {crypto : Crypto} {s : Caches}
    (hrun : (Caches.step crypto).Reaches NothingInHand new s) {n : Nat} {keyId : String}
    {answer : Stamped Answer} (hreturns : s.returning crypto n = some (keyId, answer)) :
    s.Fresh keyId answer := by
  have hclean : s.Clean :=
    hrun.invariant new_clean fun hinv hadmits hstep => hinv.step hadmits hstep
  rcases Option.bind_eq_some_iff.mp hreturns with ⟨t, ht, hreturns⟩
  rcases Option.bind_eq_some_iff.mp hreturns with ⟨next, hnext, hreturns⟩
  have hadvanced := advance_advanced hclean (hclean.hands t (List.mem_of_getElem? ht)) hnext
  split at hreturns
  · next other hphase =>
    injection hreturns with heq
    rw [← (Prod.mk.inj heq).left, ← (Prod.mk.inj heq).right]
    exact hadvanced.fresh other hphase
  · cases hreturns

/-!
## Concrete runs
-/

def checkHands (s : Caches) : CacheEvent -> Bool
  | .keyChanged _ | .aclChanged _ =>
    s.loaded && s.lookups.all fun t => t.keyInHand.isNone && t.aclInHand.isNone
  | _ => true

lemma nothingInHand_of_check (s : Caches) (e : CacheEvent) (h : checkHands s e = true) :
    s.NothingInHand e := by
  cases e with
  | keyChanged keyId =>
    simp only [checkHands, Bool.and_eq_true, List.all_eq_true, Option.isNone_iff_eq_none] at h
    exact ⟨fun t ht _ => h.right t ht, by simp [h.left]⟩
  | aclChanged aclId =>
    simp only [checkHands, Bool.and_eq_true, List.all_eq_true, Option.isNone_iff_eq_none] at h
    refine ⟨?_, by simp [h.left]⟩
    intro t ht a ha
    rw [(h.right t ht).right] at ha
    cases ha
  | _ => trivial

/-- A key is looked up, changed and looked up again. -/
theorem no_revoked_value_refetched :
    exists s answer, (Caches.step Crypto.sample).runChecked checkHands
        [.load, .lookup .key "k", .proceed 0, .keyAnswer 0 "old", .proceed 0, .proceed 0,
          .keyChanged "k", .clear 0, .clear 0,
          .lookup .key "k", .proceed 1, .keyAnswer 1 "new", .proceed 1] new = some s ∧
      s.returning Crypto.sample 1 = some ("k", answer) ∧ 6 <= answer.fetched ∧
      s.Fresh "k" answer := by
  simp only [exists_and_left]
  apply exists_of_any (p := fun s => (s.returning Crypto.sample 1).any fun returned =>
    decide (returned.1 = "k") && decide (6 <= returned.2.fetched)) (by decide)
  intro s hs hany
  rcases (Option.any_eq_true ..).mp hany with ⟨returned, hreturned, hboth⟩
  rw [Bool.and_eq_true, decide_eq_true_iff, decide_eq_true_iff] at hboth
  have hanswer : s.returning Crypto.sample 1 = some ("k", returned.2) := by
    rw [hreturned, ← hboth.left]
  exact ⟨returned.2, hanswer, hboth.right,
    no_revoked_value (.of_runChecked nothingInHand_of_check .start hs) hanswer⟩

/-- The answer to a lookup comes before the key is changed and is stored after that: the next
lookup returns the old value.  So it does if the change is dropped. -/
theorem revoked_key_returned :
    (exists s answer, (Caches.step Crypto.sample).runChecked (fun _ _ => true)
        [.load, .lookup .key "k", .proceed 0, .keyAnswer 0 "old", .keyChanged "k", .clear 0,
          .clear 0, .proceed 0, .proceed 0, .lookup .key "k"] new = some s ∧
      s.returning Crypto.sample 1 = some ("k", answer) ∧ ¬ s.Fresh "k" answer) ∧
    exists s answer, (Caches.step Crypto.sample).runChecked (fun _ _ => true)
        [.lookup .key "k", .proceed 0, .keyAnswer 0 "old", .proceed 0, .proceed 0,
          .keyChanged "k", .load, .lookup .key "k"] new = some s ∧
      s.returning Crypto.sample 1 = some ("k", answer) ∧ ¬ s.Fresh "k" answer := by
  refine ⟨⟨_, _, rfl, rfl, ?_⟩, _, _, rfl, rfl, ?_⟩
  · intro hfresh
    have hsince := hfresh.left _ List.mem_cons_self rfl rfl
    exact absurd hsince (by decide)
  · intro hfresh
    have hsince := hfresh.left _ List.mem_cons_self rfl rfl
    exact absurd hsince (by decide)

end Caches

end Eva4.Repl
