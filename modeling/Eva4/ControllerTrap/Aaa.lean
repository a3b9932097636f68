import Eva4.Repl.Caches

/-!
# Keys and rights of traps

The trap controller gets the keys and the rights for encrypted traps from the key service and
caches them, with the code that the replication service has.  It handles one trap after another.
It is subscribed to the events of changed keys, for which it clears two of the three caches, and
not to the events of changed ACLs.
-/

namespace Eva4.ControllerTrap

open Lib Psrpc
open Repl (Acl Answer Caches Lookup LookupPhase Stamped)

/-!
## Traps and changes
-/

inductive TrapPhase where
  | looksForOpts (lookup : LookupPhase)
  | looksForAcl (opts : Stamped Options) (lookup : LookupPhase)
  /-- All is there to accept the trap or to refuse it. -/
  | decides (opts : Stamped Options) (acl : Stamped Acl)

structure TrapTask where
  keyId : String
  received : Nat
  phase : TrapPhase

/-- The handler of an event clears the keys first. -/
inductive Handling where
  | made
  | keysCleared
  | handled (time : Nat)
deriving DecidableEq

/-- A change of a key at the key service, and how far its event was handled. -/
structure KeyUpdate where
  keyId : String
  since : Nat
  stage : Handling

structure AclUpdate where
  aclId : String
  since : Nat
  published : Option Nat

/-- Of the caches only the tables and the clock are used. -/
structure Controller where
  caches : Caches
  ready : Bool
  task : Option TrapTask
  keyUpdates : List KeyUpdate
  aclUpdates : List AclUpdate

inductive TrapEvent where
  | trap (keyId : String)
  /-- The lookup of the trap goes on, up to its next call. -/
  | proceed
  | keyAnswer (value : String)
  | aclAnswer (acl : Acl)
  | callFailed
  | finish
  | markReady
  | changeKey (keyId : String)
  /-- The event of a key is delivered. -/
  | deliver (m : Nat)
  | clearOpts (m : Nat)
  | changeAcl (aclId : String)
  | publishAcl (m : Nat)

def TrapTask.lookup (task : TrapTask) : Option Lookup :=
  match task.phase with
  | .looksForOpts phase => some { kind := .encOpts, keyId := task.keyId, phase := phase }
  | .looksForAcl _ phase => some { kind := .acl, keyId := task.keyId, phase := phase }
  | .decides _ _ => none

def TrapTask.storing (task : TrapTask) : Lookup :=
  task.lookup.getD { kind := .acl, keyId := task.keyId, phase := .failed }

def TrapPhase.follow : TrapPhase -> LookupPhase -> TrapPhase
  | .looksForOpts _, .returned ⟨.encOpts opts, fetched⟩ => .looksForAcl ⟨opts, fetched⟩ .start
  | .looksForOpts _, phase => .looksForOpts phase
  | .looksForAcl opts _, .returned ⟨.acl acl, fetched⟩ => .decides opts ⟨acl, fetched⟩
  | .looksForAcl opts _, phase => .looksForAcl opts phase
  | .decides opts acl, _ => .decides opts acl

variable (s : Controller)

namespace Controller

def new : Controller where
  caches := Caches.new
  ready := false
  task := none
  keyUpdates := []
  aclUpdates := []

def follow (s : Controller) (task : TrapTask) (caches : Caches) (phase : LookupPhase) :
    Controller :=
  { s with caches := caches, task := some { task with phase := task.phase.follow phase } }

def setStage (m : Nat) (c : KeyUpdate) (stage : Handling) : Controller :=
  { s with keyUpdates := s.keyUpdates.set m { c with stage := stage } }

def deliver (m : Nat) (c : KeyUpdate) : Option Controller :=
  match c.stage with
  | .made =>
    if s.ready then
      some ({ s with caches := { s.caches with keys := s.caches.keys.erase c.keyId } }.setStage
        m c .keysCleared)
    else some (s.setStage m c (.handled s.caches.now))
  | _ => none

def clearOpts (m : Nat) (c : KeyUpdate) : Option Controller :=
  match c.stage with
  | .keysCleared =>
    some ({ s with caches := { s.caches with encOpts := s.caches.encOpts.erase c.keyId } }.setStage
      m c (.handled s.caches.now))
  | _ => none

/-- Nothing of the controller is subscribed to the event. -/
def publishAcl (m : Nat) (c : AclUpdate) : Option Controller :=
  match c.published with
  | none =>
    some { s with aclUpdates := s.aclUpdates.set m { c with published := some s.caches.now } }
  | some _ => none

def act (crypto : Crypto) (s : Controller) : TrapEvent -> Option Controller
  | .trap keyId =>
    match s.task with
    | none =>
      some { s with task := some {
        keyId := keyId, received := s.caches.now, phase := .looksForOpts .start } }
    | some _ => none
  | .proceed =>
    s.task.bind fun task => task.lookup.bind fun t =>
      (s.caches.advance crypto t).map fun next => s.follow task next.1 next.2
  | .keyAnswer value =>
    s.task.bind fun task => task.lookup.bind fun t =>
      match t.phase with
      | .callKey => some (s.follow task s.caches (.holdKey ⟨value, s.caches.now⟩))
      | _ => none
  | .aclAnswer acl =>
    s.task.bind fun task => task.lookup.bind fun t =>
      match t.phase with
      | .callAcl _ => some (s.follow task s.caches (.holdAcl ⟨acl, s.caches.now⟩))
      | _ => none
  | .callFailed =>
    s.task.bind fun task => task.lookup.bind fun t =>
      match t.phase with
      | .callKey | .callAcl _ => some { s with task := none }
      | _ => none
  | .finish =>
    s.task.bind fun task =>
      match task.phase with
      | .decides _ _ => some { s with task := none }
      | _ => none
  | .markReady => some { s with ready := true }
  | .changeKey keyId =>
    some { s with keyUpdates := s.keyUpdates ++
      [{ keyId := keyId, since := s.caches.now, stage := .made }] }
  | .deliver m => s.keyUpdates[m]?.bind (s.deliver m)
  | .clearOpts m => s.keyUpdates[m]?.bind (s.clearOpts m)
  | .changeAcl aclId =>
    some { s with aclUpdates := s.aclUpdates ++
      [{ aclId := aclId, since := s.caches.now, published := none }] }
  | .publishAcl m => s.aclUpdates[m]?.bind (s.publishAcl m)

def step (crypto : Crypto) : Machine Controller TrapEvent := fun s e =>
  (s.act crypto e).map fun s' => { s' with caches := { s'.caches with now := s'.caches.now + 1 } }

end Controller

/-!
## Current keys and rights
-/

def Handling.Delivered (stage : Handling) : Prop :=
  stage ≠ .made

def Handling.Done (stage : Handling) : Prop :=
  exists time, stage = .handled time

def Handling.By (t : Nat) (stage : Handling) : Prop :=
  exists time, stage = .handled time ∧ time <= t

def Published (published : Option Nat) : Prop :=
  published ≠ none

/-- An event that nobody waits for is handled when it is published. -/
def PublishedBy (t : Nat) (published : Option Nat) : Prop :=
  exists time, published = some time ∧ time <= t

lemma Handling.By.done {stage : Handling} (h : stage.By t) : stage.Done := by
  rcases h with ⟨time, hstage, _⟩
  exact ⟨time, hstage⟩

lemma Handling.Done.delivered {stage : Handling} (h : stage.Done) : stage.Delivered := by
  rcases h with ⟨time, hstage⟩
  rw [hstage]
  exact Handling.noConfusion

lemma PublishedBy.published {published : Option Nat} (h : PublishedBy t published) :
    Published published := by
  rcases h with ⟨time, hpublished, _⟩
  rw [hpublished]
  exact Option.some_ne_none time

/-- What a lookup of options is about to store, of a value of the key. -/
def storesKey (t : Lookup) : Option Nat :=
  match t.phase, t.kind with
  | .holdKey v, _ => some v.fetched
  | .haveKey v, .encOpts => some v.fetched
  | _, _ => none

def storesAcl (t : Lookup) : Option (Stamped Acl) :=
  match t.phase with
  | .holdAcl a => some a
  | _ => none

namespace Controller

/-- The key and the rights of a trap are not older than any change whose event was handled before
the trap was received. -/
structure Current (keyId : String) (received : Nat) (opts : Stamped Options)
    (acl : Stamped Acl) : Prop where
  opts : forall c, c ∈ s.keyUpdates -> c.keyId = keyId -> c.stage.By received ->
    c.since <= opts.fetched
  rights : forall c, c ∈ s.keyUpdates -> c.keyId = keyId -> c.stage.By received ->
    c.since <= acl.fetched
  acl : forall c, c ∈ s.aclUpdates -> acl.data.containsAcl c.aclId = true ->
    PublishedBy received c.published -> c.since <= acl.fetched

/-- No older value of the key is about to be stored, and no older rights of it are there. -/
structure KeyRefetched (c : KeyUpdate) : Prop where
  ready : s.ready = true
  acls : forall a, s.caches.acls.lookup c.keyId = some a -> c.since <= a.fetched
  storesKey : forall task, s.task = some task -> task.keyId = c.keyId ->
    forall fetched, storesKey task.storing = some fetched -> c.since <= fetched
  storesAcl : forall task, s.task = some task -> task.keyId = c.keyId ->
    forall a, storesAcl task.storing = some a -> c.since <= a.fetched

/-- No older rights that contain the ACL are there or about to be stored. -/
structure AclRefetched (c : AclUpdate) : Prop where
  acls : forall keyId a, s.caches.acls.lookup keyId = some a ->
    a.data.containsAcl c.aclId = true -> c.since <= a.fetched
  storesAcl : forall task, s.task = some task -> forall a, storesAcl task.storing = some a ->
    a.data.containsAcl c.aclId = true -> c.since <= a.fetched

/-- The event of a change comes only when nothing older is left that it does not clear. -/
def Refetched : TrapEvent -> Prop
  | .deliver m => forall c, s.keyUpdates[m]? = some c -> s.KeyRefetched c
  | .publishAcl m => forall c, s.aclUpdates[m]? = some c -> s.AclRefetched c
  | _ => True

/-!
## What is stored and used
-/

/-- Not older than any change of the key that is handled as far as described. -/
def KeyFresh (P : Handling -> Prop) (keyId : String) (fetched : Nat) : Prop :=
  forall c, c ∈ s.keyUpdates -> c.keyId = keyId -> P c.stage -> c.since <= fetched

def AclFresh (P : Option Nat -> Prop) (a : Stamped Acl) : Prop :=
  forall c, c ∈ s.aclUpdates -> a.data.containsAcl c.aclId = true -> P c.published ->
    c.since <= a.fetched

/-- What is to be stored is newer than all changes that were delivered, what is to be used is
newer than those that were handled before the trap was received. -/
def LookupClean (received : Nat) (t : Lookup) : Prop :=
  match t.phase, t.kind with
  | .holdKey v, _ => s.KeyFresh Handling.Delivered t.keyId v.fetched
  | .haveKey v, .encOpts => s.KeyFresh Handling.Delivered t.keyId v.fetched
  | .holdAcl a, _ => s.KeyFresh Handling.Delivered t.keyId a.fetched ∧ s.AclFresh Published a
  | .readyOpts o, _ => s.KeyFresh (Handling.By received) t.keyId o.fetched
  | .readyAcl a, _ => s.KeyFresh (Handling.By received) t.keyId a.fetched ∧
      s.AclFresh (PublishedBy received) a
  | .returned ⟨.encOpts _, fetched⟩, _ => s.KeyFresh (Handling.By received) t.keyId fetched
  | .returned ⟨.acl acl, fetched⟩, _ => s.KeyFresh (Handling.By received) t.keyId fetched ∧
      s.AclFresh (PublishedBy received) ⟨acl, fetched⟩
  | _, _ => True

def PhaseClean (keyId : String) (received : Nat) : TrapPhase -> Prop
  | .looksForOpts phase =>
    s.LookupClean received { kind := .encOpts, keyId := keyId, phase := phase }
  | .looksForAcl opts phase => s.KeyFresh (Handling.By received) keyId opts.fetched ∧
      s.LookupClean received { kind := .acl, keyId := keyId, phase := phase }
  | .decides opts acl => s.Current keyId received opts acl

structure Clean : Prop where
  keyPast : forall c, c ∈ s.keyUpdates -> c.since <= s.caches.now
  aclPast : forall c, c ∈ s.aclUpdates -> c.since <= s.caches.now
  keys : forall k v, s.caches.keys.lookup k = some v -> s.KeyFresh Handling.Delivered k v.fetched
  encOpts : forall k o, s.caches.encOpts.lookup k = some o -> s.KeyFresh Handling.Done k o.fetched
  acls : forall k a, s.caches.acls.lookup k = some a ->
    s.KeyFresh Handling.Delivered k a.fetched ∧ s.AclFresh Published a
  received : forall task, s.task = some task -> task.received < s.caches.now
  phase : forall task, s.task = some task -> s.PhaseClean task.keyId task.received task.phase

lemma new_clean : new.Clean where
  keyPast _ h := by cases h
  aclPast _ h := by cases h
  keys _ _ h := by cases h
  encOpts _ _ h := by cases h
  acls _ _ h := by cases h
  received _ h := by cases h
  phase _ h := by cases h

variable {s} {s' : Controller} {t : Lookup} {crypto : Crypto} {fetched received : Nat}
  {task : TrapTask} {a : Stamped Acl} {c : KeyUpdate} {k : String}

lemma KeyFresh.mono (h : s.KeyFresh P k fetched) (hQ : forall stage, Q stage -> P stage) :
    s.KeyFresh Q k fetched :=
  fun c hc hk hstage => h c hc hk (hQ c.stage hstage)

lemma AclFresh.mono {P : Option Nat -> Prop} (h : s.AclFresh P a)
    (hQ : forall published, Q published -> P published) : s.AclFresh Q a :=
  fun c hc hcontains hpublished => h c hc hcontains (hQ c.published hpublished)

lemma Clean.keyFresh_now (h : s.Clean) : s.KeyFresh P k s.caches.now :=
  fun c hc _ _ => h.keyPast c hc

/-- What was fresh in one state is fresh in another one, as far as a lookup stores or uses it. -/
structure Transfers (s s' : Controller) (keyId : String) (received : Nat) (t : Lookup) : Prop where
  storesKey : forall fetched, storesKey t = some fetched ->
    s.KeyFresh Handling.Delivered keyId fetched -> s'.KeyFresh Handling.Delivered keyId fetched
  storesAcl : forall a, storesAcl t = some a ->
    s.KeyFresh Handling.Delivered keyId a.fetched ∧ s.AclFresh Published a ->
      s'.KeyFresh Handling.Delivered keyId a.fetched ∧ s'.AclFresh Published a
  opts : forall fetched, s.KeyFresh (Handling.By received) keyId fetched ->
    s'.KeyFresh (Handling.By received) keyId fetched
  acl : forall a, s.AclFresh (PublishedBy received) a -> s'.AclFresh (PublishedBy received) a

lemma transfers_same (hkey : s'.keyUpdates = s.keyUpdates) (hacl : s'.aclUpdates = s.aclUpdates) :
    Transfers s s' keyId received t := by
  have hkeyFresh : forall P fetched, s.KeyFresh P keyId fetched -> s'.KeyFresh P keyId fetched := by
    intro P fetched h
    unfold KeyFresh
    rw [hkey]
    exact h
  have haclFresh : forall P a, s.AclFresh P a -> s'.AclFresh P a := by
    intro P a h
    unfold AclFresh
    rw [hacl]
    exact h
  exact ⟨fun _ _ => hkeyFresh _ _, fun _ _ h => ⟨hkeyFresh _ _ h.left, haclFresh _ _ h.right⟩,
    fun _ => hkeyFresh _ _, fun _ => haclFresh _ _⟩

lemma LookupClean.transfer (h : s.LookupClean received t) (hs : Transfers s s' t.keyId received t) :
    s'.LookupClean received t := by
  rcases t with ⟨kind, keyId, phase⟩
  cases phase with
  | holdKey v => exact hs.storesKey v.fetched rfl h
  | haveKey v =>
    cases kind with
    | key => trivial
    | encOpts => exact hs.storesKey v.fetched rfl h
    | acl => trivial
  | holdAcl a => exact hs.storesAcl a rfl h
  | readyOpts o => exact hs.opts o.fetched h
  | readyAcl a => exact ⟨hs.opts a.fetched h.left, hs.acl a h.right⟩
  | returned answer =>
    rcases answer with ⟨data, fetched⟩
    cases data with
    | key value => trivial
    | encOpts opts => exact hs.opts fetched h
    | acl acl => exact ⟨hs.opts fetched h.left, hs.acl ⟨acl, fetched⟩ h.right⟩
  | _ => trivial

lemma PhaseClean.transfer {task : TrapTask} (h : s.PhaseClean task.keyId task.received task.phase)
    (hs : Transfers s s' task.keyId task.received task.storing) :
    s'.PhaseClean task.keyId task.received task.phase := by
  rcases task with ⟨keyId, received, phase⟩
  cases phase with
  | looksForOpts lookup => exact LookupClean.transfer h hs
  | looksForAcl opts lookup => exact ⟨hs.opts opts.fetched h.left, h.right.transfer hs⟩
  | decides opts acl =>
    exact ⟨hs.opts opts.fetched h.opts, hs.opts acl.fetched h.rights, hs.acl acl h.acl⟩

lemma Clean.setCaches (h : s.Clean) {caches : Caches} (hnow : caches.now = s.caches.now)
    (hkeys : forall k v, caches.keys.lookup k = some v -> s.KeyFresh Handling.Delivered k v.fetched)
    (hencOpts : forall k o, caches.encOpts.lookup k = some o ->
      s.KeyFresh Handling.Done k o.fetched) (hacls : forall k a, caches.acls.lookup k = some a ->
      s.KeyFresh Handling.Delivered k a.fetched ∧ s.AclFresh Published a) :
    ({ s with caches := caches } : Controller).Clean where
  keyPast c hc := by
    rw [hnow]
    exact h.keyPast c hc
  aclPast c hc := by
    rw [hnow]
    exact h.aclPast c hc
  keys := hkeys
  encOpts := hencOpts
  acls := hacls
  received task htask := by
    rw [hnow]
    exact h.received task htask
  phase task htask := PhaseClean.transfer (h.phase task htask) (transfers_same rfl rfl)

lemma Clean.advance (h : s.Clean) (hkind : t.kind ≠ .key) (ht : s.LookupClean received t)
    {next : Caches × LookupPhase} (hnext : s.caches.advance crypto t = some next) :
    ({ s with caches := next.1 } : Controller).Clean ∧
      s.LookupClean received { t with phase := next.2 } := by
  rcases t with ⟨kind, keyId, phase⟩
  cases phase with
  | start =>
    cases kind with
    | key => exact (hkind rfl).elim
    | encOpts =>
      simp only [Caches.advance] at hnext
      split at hnext
      · next o ho =>
        cases hnext
        exact ⟨h, (h.encOpts keyId o ho).mono fun _ => Handling.By.done⟩
      · cases hnext
        exact ⟨h, trivial⟩
    | acl =>
      simp only [Caches.advance] at hnext
      split at hnext
      · next a ha =>
        cases hnext
        rcases h.acls keyId a ha with ⟨hkey, hacl⟩
        exact ⟨h, hkey.mono fun _ hby => hby.done.delivered,
          hacl.mono fun _ => PublishedBy.published⟩
      · cases hnext
        exact ⟨h, trivial⟩
  | checkKey =>
    simp only [Caches.advance] at hnext
    split at hnext
    · next v hv =>
      cases hnext
      refine ⟨h, ?_⟩
      cases kind with
      | key => exact (hkind rfl).elim
      | encOpts => exact h.keys keyId v hv
      | acl => trivial
    · cases hnext
      exact ⟨h, trivial⟩
  | callKey | callAcl | returned | failed => cases hnext
  | holdKey v =>
    cases hnext
    have hv : s.KeyFresh Handling.Delivered keyId v.fetched := ht
    refine ⟨h.setCaches rfl (Table.forall_insert h.keys hv) h.encOpts h.acls, ?_⟩
    cases kind with
    | key => exact (hkind rfl).elim
    | encOpts => exact hv
    | acl => trivial
  | haveKey v =>
    cases kind with
    | key => exact (hkind rfl).elim
    | encOpts =>
      cases hnext
      have hv : s.KeyFresh Handling.Delivered keyId v.fetched := ht
      constructor
      · exact h.setCaches rfl h.keys
          (Table.forall_insert h.encOpts (hv.mono fun _ => Handling.Done.delivered)) h.acls
      · exact hv.mono fun _ hby => hby.done.delivered
    | acl =>
      cases hnext
      exact ⟨h, trivial⟩
  | holdAcl a =>
    cases hnext
    have ha : s.KeyFresh Handling.Delivered keyId a.fetched ∧ s.AclFresh Published a := ht
    constructor
    · exact h.setCaches rfl h.keys h.encOpts (Table.forall_insert h.acls ha)
    · exact ⟨ha.left.mono fun _ hby => hby.done.delivered,
        ha.right.mono fun _ => PublishedBy.published⟩
  | readyOpts | readyAcl =>
    cases hnext
    exact ⟨h, ht⟩

theorem phaseClean_follow (ht : task.lookup = some t)
    (hphase : s.PhaseClean task.keyId task.received task.phase)
    (hclean : s.LookupClean task.received { t with phase := phase }) :
    s.PhaseClean task.keyId task.received (task.phase.follow phase) := by
  rcases task with ⟨keyId, received, old⟩
  cases old with
  | looksForOpts lookup =>
    cases ht
    cases phase with
    | returned answer =>
      rcases answer with ⟨data, fetched⟩
      cases data with
      | key | acl => exact hclean
      | encOpts opts => exact ⟨hclean, trivial⟩
    | _ => exact hclean
  | looksForAcl opts lookup =>
    cases ht
    cases phase with
    | returned answer =>
      rcases answer with ⟨data, fetched⟩
      cases data with
      | key | encOpts => exact ⟨hphase.left, hclean⟩
      | acl acl => exact ⟨hphase.left, hclean.left, hclean.right⟩
    | _ => exact ⟨hphase.left, hclean⟩
  | decides opts acl => cases ht

lemma Clean.follow (h : s.Clean) (htask : s.task = some task) (ht : task.lookup = some t)
    {phase : LookupPhase} (hclean : s.LookupClean task.received { t with phase := phase }) :
    (s.follow task s.caches phase).Clean :=
  { h with
    received other hother := by
      cases hother
      exact h.received task htask
    phase other hother := by
      cases hother
      have hphase := phaseClean_follow ht (h.phase task htask) hclean
      exact PhaseClean.transfer hphase
        (transfers_same rfl rfl) }

lemma Clean.endTask (h : s.Clean) : ({ s with task := none } : Controller).Clean :=
  { h with
    received _ htask := by cases htask
    phase _ htask := by cases htask }

lemma Clean.markReady (h : s.Clean) : ({ s with ready := true } : Controller).Clean :=
  { h with
    phase task htask := PhaseClean.transfer (h.phase task htask) (transfers_same rfl rfl) }

/-!
## Changes
-/

lemma KeyFresh.concat (h : s.KeyFresh P k fetched) (hP : ¬ P .made) :
    KeyFresh { s with keyUpdates := s.keyUpdates ++
      [{ keyId := keyId, since := since, stage := .made }] } P k fetched :=
  forall_mem_concat h fun _ hmade => absurd hmade hP

lemma AclFresh.concat {P : Option Nat -> Prop} (h : s.AclFresh P a) (hP : ¬ P none) :
    AclFresh { s with aclUpdates := s.aclUpdates ++
      [{ aclId := aclId, since := since, published := none }] } P a :=
  forall_mem_concat h fun _ hnone => absurd hnone hP

lemma not_delivered_made : ¬ Handling.Delivered .made := fun h => h rfl

lemma not_done_made : ¬ Handling.Done .made := fun h => h.delivered rfl

lemma not_by_made {t : Nat} : ¬ Handling.By t .made := fun h => h.done.delivered rfl

lemma not_published_none : ¬ Published none := fun h => h rfl

lemma not_publishedBy_none {t : Nat} : ¬ PublishedBy t none := fun h => h.published rfl

lemma KeyFresh.setStage (h : s.KeyFresh P k fetched)
    (hc : c.keyId = k -> P stage -> c.since <= fetched) :
    (s.setStage m c stage).KeyFresh P k fetched := by
  apply forall_mem_set h
  exact hc

lemma AclFresh.setPublished {P : Option Nat -> Prop} (h : s.AclFresh P a) {c : AclUpdate}
    (hc : a.data.containsAcl c.aclId = true -> P published -> c.since <= a.fetched) :
    AclFresh { s with aclUpdates := s.aclUpdates.set m { c with published := published } } P a := by
  apply forall_mem_set h
  exact hc

section

variable (h : s.Clean)
include h

/-- A change at the key service is seen by nobody before its event. -/
theorem Clean.changeKey : ({ s with keyUpdates := s.keyUpdates ++
      [{ keyId := keyId, since := s.caches.now, stage := .made }] } : Controller).Clean :=
  { h with
    keyPast := forall_mem_concat h.keyPast (Nat.le_refl _)
    keys k v hv := (h.keys k v hv).concat not_delivered_made
    encOpts k o ho := (h.encOpts k o ho).concat not_done_made
    acls k a ha := ⟨(h.acls k a ha).left.concat not_delivered_made, (h.acls k a ha).right⟩
    phase task htask := by
      apply PhaseClean.transfer (h.phase task htask)
      constructor
      · exact fun _ _ hf => hf.concat not_delivered_made
      · exact fun _ _ ha => ⟨ha.left.concat not_delivered_made, ha.right⟩
      · exact fun _ hf => hf.concat not_by_made
      · exact fun _ ha => ha }

lemma Clean.changeAcl : ({ s with aclUpdates := s.aclUpdates ++
      [{ aclId := aclId, since := s.caches.now, published := none }] } : Controller).Clean :=
  { h with
    aclPast := forall_mem_concat h.aclPast (Nat.le_refl _)
    acls k a ha := ⟨(h.acls k a ha).left, (h.acls k a ha).right.concat not_published_none⟩
    phase task htask := by
      apply PhaseClean.transfer (h.phase task htask)
      constructor
      · exact fun _ _ hf => hf
      · exact fun _ _ ha => ⟨ha.left, ha.right.concat not_published_none⟩
      · exact fun _ hf => hf
      · exact fun _ ha => ha.concat not_publishedBy_none }

lemma Clean.deliver (hc : c ∈ s.keyUpdates) (hfetched : s.KeyRefetched c)
    (hs' : s.deliver m c = some s') : s'.Clean := by
  have hnotBy : forall t, ¬ Handling.By t .keysCleared := by
    rintro t ⟨time, htime, _⟩
    cases htime
  unfold Controller.deliver at hs'
  split at hs'
  · rw [if_pos hfetched.ready] at hs'
    cases hs'
    constructor
    · apply forall_mem_set h.keyPast
      exact h.keyPast c hc
    · exact h.aclPast
    · apply Table.forall_erase
      intro k v hv hne
      exact (h.keys k v hv).setStage fun hk => absurd hk.symm hne
    · intro k o ho
      refine (h.encOpts k o ho).setStage fun _ hdone => ?_
      rcases hdone with ⟨time, htime⟩
      cases htime
    · intro k a ha
      refine ⟨(h.acls k a ha).left.setStage fun hk _ => ?_, (h.acls k a ha).right⟩
      rw [← hk] at ha
      exact hfetched.acls a ha
    · exact h.received
    · intro task htask
      apply PhaseClean.transfer (h.phase task htask)
      constructor
      · intro fetched hstores hf
        exact hf.setStage fun hk _ => hfetched.storesKey task htask hk.symm fetched hstores
      · intro a hstores ha
        exact ⟨ha.left.setStage fun hk _ => hfetched.storesAcl task htask hk.symm a hstores,
          ha.right⟩
      · exact fun fetched hf => hf.setStage fun _ hby => absurd hby (hnotBy _)
      · exact fun a ha => ha
  · cases hs'

/-- The cache of options is cleared, and the event is handled after all traps received so far. -/
theorem Clean.clearOpts (hc : c ∈ s.keyUpdates) (hs' : s.clearOpts m c = some s') : s'.Clean := by
  unfold Controller.clearOpts at hs'
  split at hs'
  · next hstage =>
    have hdelivered : c.stage.Delivered := by
      rw [hstage]
      exact Handling.noConfusion
    cases hs'
    constructor
    · apply forall_mem_set h.keyPast
      exact h.keyPast c hc
    · exact h.aclPast
    · intro k v hv
      exact (h.keys k v hv).setStage fun hk _ => h.keys k v hv c hc hk hdelivered
    · apply Table.forall_erase
      intro k o ho hne
      exact (h.encOpts k o ho).setStage fun hk => absurd hk.symm hne
    · intro k a ha
      rcases h.acls k a ha with ⟨hkey, hacl⟩
      exact ⟨hkey.setStage fun hk _ => hkey c hc hk hdelivered, hacl⟩
    · exact h.received
    · intro task htask
      apply PhaseClean.transfer (h.phase task htask)
      constructor
      · exact fun fetched _ hf => hf.setStage fun hk _ => hf c hc hk hdelivered
      · exact fun a _ ha => ⟨ha.left.setStage fun hk _ => ha.left c hc hk hdelivered, ha.right⟩
      · intro fetched hf
        refine hf.setStage fun _ hby => ?_
        rcases hby with ⟨time, htime, hle⟩
        rw [← Handling.handled.inj htime] at hle
        exact absurd (h.received task htask) (Nat.not_lt_of_le hle)
      · exact fun a ha => ha
  · cases hs'

/-- Nothing is cleared, so nothing older may be there. -/
theorem Clean.publishAcl {c : AclUpdate} (hc : c ∈ s.aclUpdates) (hfetched : s.AclRefetched c)
    (hs' : s.publishAcl m c = some s') : s'.Clean := by
  unfold Controller.publishAcl at hs'
  split at hs'
  · cases hs'
    constructor
    · exact h.keyPast
    · apply forall_mem_set h.aclPast
      exact h.aclPast c hc
    · exact h.keys
    · exact h.encOpts
    · intro k a ha
      refine ⟨(h.acls k a ha).left, (h.acls k a ha).right.setPublished fun hcontains _ => ?_⟩
      exact hfetched.acls k a ha hcontains
    · exact h.received
    · intro task htask
      apply PhaseClean.transfer (h.phase task htask)
      constructor
      · exact fun _ _ hf => hf
      · intro a hstores ha
        exact ⟨ha.left, ha.right.setPublished fun hcontains _ =>
          hfetched.storesAcl task htask a hstores hcontains⟩
      · exact fun _ hf => hf
      · intro a ha
        refine ha.setPublished fun _ hby => ?_
        rcases hby with ⟨time, htime, hle⟩
        cases htime
        exact absurd (h.received task htask) (Nat.not_lt_of_le hle)
  · cases hs'

/-!
## Runs
-/

lemma Clean.tick :
    ({ s with caches := { s.caches with now := s.caches.now + 1 } } : Controller).Clean :=
  { h with
    keyPast c hc := Nat.le_succ_of_le (h.keyPast c hc)
    aclPast c hc := Nat.le_succ_of_le (h.aclPast c hc)
    received task htask := Nat.lt_succ_of_lt (h.received task htask)
    phase task htask := PhaseClean.transfer (h.phase task htask) (transfers_same rfl rfl) }

omit h in
lemma lookup_kind (h : task.lookup = some t) : t.kind ≠ .key ∧ t.keyId = task.keyId := by
  rcases task with ⟨keyId, received, phase⟩
  cases phase with
  | looksForOpts | looksForAcl =>
    cases h
    exact ⟨Repl.LookupKind.noConfusion, rfl⟩
  | decides opts acl => cases h

omit h in
lemma PhaseClean.lookupClean (h : s.PhaseClean task.keyId task.received task.phase)
    (ht : task.lookup = some t) : s.LookupClean task.received t := by
  rcases task with ⟨keyId, received, phase⟩
  cases phase with
  | looksForOpts lookup =>
    cases ht
    exact h
  | looksForAcl opts lookup =>
    cases ht
    exact h.right
  | decides opts acl => cases ht

lemma Clean.trap : ({ s with
      caches := { s.caches with now := s.caches.now + 1 }
      task := some { keyId := keyId, received := s.caches.now, phase := .looksForOpts .start } } :
        Controller).Clean :=
  { h with
    keyPast c hc := Nat.le_succ_of_le (h.keyPast c hc)
    aclPast c hc := Nat.le_succ_of_le (h.aclPast c hc)
    received task htask := by
      cases htask
      exact Nat.lt_succ_self _
    phase task htask := by
      cases htask
      trivial }

lemma Clean.proceed (hact : s.act crypto .proceed = some s') : s'.Clean := by
  rcases Option.bind_eq_some_iff.mp hact with ⟨task, htask, hact⟩
  rcases Option.bind_eq_some_iff.mp hact with ⟨t, ht, hact⟩
  rcases Option.map_eq_some_iff.mp hact with ⟨next, hnext, hs'⟩
  rw [← hs']
  have hclean := (h.phase task htask).lookupClean ht
  rcases h.advance (lookup_kind ht).left hclean hnext with ⟨hcaches, hphase⟩
  exact hcaches.follow htask ht (hphase.transfer (transfers_same rfl rfl))

lemma Clean.keyAnswer {value : String} (hact : s.act crypto (.keyAnswer value) = some s') :
    s'.Clean := by
  rcases Option.bind_eq_some_iff.mp hact with ⟨task, htask, hact⟩
  rcases Option.bind_eq_some_iff.mp hact with ⟨t, ht, hact⟩
  split at hact
  · cases hact
    exact h.follow htask ht h.keyFresh_now
  · cases hact

lemma Clean.aclAnswer {acl : Acl} (hact : s.act crypto (.aclAnswer acl) = some s') : s'.Clean := by
  rcases Option.bind_eq_some_iff.mp hact with ⟨task, htask, hact⟩
  rcases Option.bind_eq_some_iff.mp hact with ⟨t, ht, hact⟩
  split at hact
  · cases hact
    exact h.follow htask ht
      ⟨h.keyFresh_now, fun c hc _ _ => h.aclPast c hc⟩
  · cases hact

lemma Clean.step {e : TrapEvent} (hadmits : s.Refetched e)
    (hstep : Controller.step crypto s e = some s') : s'.Clean := by
  rcases Option.map_eq_some_iff.mp hstep with ⟨mid, hact, hs'⟩
  rw [← hs']
  cases e with
  | trap keyId =>
    cases htask : s.task with
    | some task => simp only [act, htask, reduceCtorEq] at hact
    | none =>
      simp only [act, htask] at hact
      cases hact
      exact h.trap
  | proceed => exact (h.proceed hact).tick
  | keyAnswer value => exact (h.keyAnswer hact).tick
  | aclAnswer acl => exact (h.aclAnswer hact).tick
  | callFailed =>
    rcases Option.bind_eq_some_iff.mp hact with ⟨task, htask, hact⟩
    rcases Option.bind_eq_some_iff.mp hact with ⟨t, ht, hact⟩
    split at hact
    · cases hact
      exact h.endTask.tick
    · cases hact
      exact h.endTask.tick
    · cases hact
  | finish =>
    rcases Option.bind_eq_some_iff.mp hact with ⟨task, htask, hact⟩
    split at hact
    · cases hact
      exact h.endTask.tick
    · cases hact
  | markReady =>
    cases hact
    exact h.markReady.tick
  | changeKey keyId =>
    cases hact
    exact h.changeKey.tick
  | deliver m =>
    rcases Option.bind_eq_some_iff.mp hact with ⟨c, hc, hact⟩
    exact (h.deliver (List.mem_of_getElem? hc) (hadmits c hc) hact).tick
  | clearOpts m =>
    rcases Option.bind_eq_some_iff.mp hact with ⟨c, hc, hact⟩
    exact (h.clearOpts (List.mem_of_getElem? hc) hact).tick
  | changeAcl aclId =>
    cases hact
    exact h.changeAcl.tick
  | publishAcl m =>
    rcases Option.bind_eq_some_iff.mp hact with ⟨c, hc, hact⟩
    exact (h.publishAcl (List.mem_of_getElem? hc) (hadmits c hc) hact).tick

end

/-- In every run in which the event of a change comes only when nothing older is left that it
does not clear, a trap is decided with a key and rights that are not older than any change whose
event was handled before the trap was received. -/
theorem traps_decided_with_current {crypto : Crypto} {s : Controller}
    (hrun : (Controller.step crypto).Reaches Refetched new s) {task : TrapTask}
    (htask : s.task = some task) {opts : Stamped Options} {acl : Stamped Acl}
    (hphase : task.phase = .decides opts acl) : s.Current task.keyId task.received opts acl := by
  have hclean : s.Clean :=
    hrun.invariant new_clean fun hinv hadmits hstep => hinv.step hadmits hstep
  have hcurrent := hclean.phase task htask
  rw [hphase] at hcurrent
  exact hcurrent

/-!
## Concrete runs
-/

/-- No rights of the key or with the ACL are cached, and no trap is handled. -/
def checkRefetched (s : Controller) : TrapEvent -> Bool
  | .deliver m => s.ready && s.task.isNone && s.keyUpdates[m]?.all fun c =>
    (s.caches.acls.lookup c.keyId).isNone
  | .publishAcl m => s.task.isNone && s.aclUpdates[m]?.all fun c =>
    s.caches.acls.entries.all fun a => !a.2.data.containsAcl c.aclId
  | _ => true

lemma refetched_of_check (s : Controller) (e : TrapEvent) (h : checkRefetched s e = true) :
    s.Refetched e := by
  cases e with
  | deliver m =>
    intro c hc
    simp only [checkRefetched, hc, Bool.and_eq_true, Option.isNone_iff_eq_none,
      Option.all_some] at h
    rcases h with ⟨⟨hready, htask⟩, hnone⟩
    constructor
    · exact hready
    · simp [hnone]
    · simp [htask]
    · simp [htask]
  | publishAcl m =>
    intro c hc
    simp only [checkRefetched, hc, Bool.and_eq_true, Option.isNone_iff_eq_none,
      Option.all_some] at h
    rcases h with ⟨htask, hacls⟩
    constructor
    · intro k a ha hcontains
      have hnot := List.all_eq_true.mp hacls _ (AList.mem_lookup_iff.mp ha)
      rw [hcontains] at hnot
      cases hnot
    · simp [htask]
  | _ => trivial

def sampleAcl : Acl where
  checkItemWrite := fun _ => true
  containsAcl := fun aclId => aclId = "operator"

def askingTrap (keyId : String) : List TrapEvent :=
  [.trap keyId, .proceed, .proceed, .keyAnswer "secret", .proceed, .proceed, .proceed,
    .proceed, .proceed, .proceed]

def fetchingTrap (keyId : String) (acl : Acl) : List TrapEvent :=
  askingTrap keyId ++ [.aclAnswer acl, .proceed, .proceed]

def deciding (s : Controller) (p : TrapTask -> Stamped Options -> Stamped Acl -> Bool) : Bool :=
  s.task.any fun task =>
    match task.phase with
    | .decides opts acl => p task opts acl
    | _ => false

lemma exists_of_deciding (h : s.deciding p = true) :
    exists task opts acl, s.task = some task ∧ task.phase = .decides opts acl ∧
      p task opts acl = true := by
  rcases (Option.any_eq_true ..).mp h with ⟨task, htask, h⟩
  split at h
  · next opts acl hphase => exact ⟨task, opts, acl, htask, hphase, h⟩
  · cases h

/-- The rights of a key cannot be got, those of another one are without the ACL that is changed
then, and so is the first key before its next trap. -/
theorem fetching_trap_decided_with_current :
    exists s task opts acl, (Controller.step Crypto.sample).runChecked checkRefetched
        ([.markReady] ++ askingTrap "k" ++ [.callFailed] ++
          fetchingTrap "l" { sampleAcl with containsAcl := fun _ => false } ++
          [.finish, .changeKey "k", .deliver 0, .clearOpts 0, .changeAcl "operator",
            .publishAcl 0] ++
          fetchingTrap "k" sampleAcl) new = some s ∧ s.task = some task ∧
      task.phase = .decides opts acl ∧ s.Current task.keyId task.received opts acl := by
  simp only [exists_and_left]
  apply exists_of_any (p := fun s => s.deciding fun _ _ _ => true) (by decide)
  intro s hs hdeciding
  rcases exists_of_deciding hdeciding with ⟨task, opts, acl, htask, hphase, _⟩
  exact ⟨task, htask, opts, acl, hphase,
    traps_decided_with_current (.of_runChecked refetched_of_check .start hs) htask hphase⟩

def staleRights (s : Controller) (task : TrapTask) (_ : Stamped Options) (acl : Stamped Acl) :
    Bool :=
  (s.keyUpdates.any fun c => c.keyId = task.keyId && decide (acl.fetched < c.since) &&
    match c.stage with
    | .handled time => decide (time <= task.received)
    | _ => false) ||
  s.aclUpdates.any fun c => acl.data.containsAcl c.aclId && decide (acl.fetched < c.since) &&
    c.published.any fun time => decide (time <= task.received)

lemma not_current_of_stale (h : staleRights s task opts acl = true) :
    ¬ s.Current task.keyId task.received opts acl := by
  intro hcurrent
  rcases Bool.or_eq_true_iff.mp h with h | h
  · rcases List.any_eq_true.mp h with ⟨c, hc, h⟩
    rcases Bool.and_eq_true_iff.mp h with ⟨h, hstage⟩
    rcases Bool.and_eq_true_iff.mp h with ⟨hkey, hold⟩
    have hby : c.stage.By task.received := by
      split at hstage
      · next time htime => exact ⟨time, htime, of_decide_eq_true hstage⟩
      · cases hstage
    have hnew := hcurrent.rights c hc (of_decide_eq_true hkey) hby
    exact absurd (of_decide_eq_true hold) (Nat.not_lt_of_le hnew)
  · rcases List.any_eq_true.mp h with ⟨c, hc, h⟩
    rcases Bool.and_eq_true_iff.mp h with ⟨h, hpublished⟩
    rcases Bool.and_eq_true_iff.mp h with ⟨hcontains, hold⟩
    rcases (Option.any_eq_true ..).mp hpublished with ⟨time, htime, hle⟩
    have hnew := hcurrent.acl c hc hcontains ⟨time, htime, of_decide_eq_true hle⟩
    exact absurd (of_decide_eq_true hold) (Nat.not_lt_of_le hnew)

def EndsStale (events : List TrapEvent) : Prop :=
  exists s task opts acl, (Controller.step Crypto.sample).runChecked (fun _ _ => true) events new =
      some s ∧ s.task = some task ∧ task.phase = .decides opts acl ∧
    ¬ s.Current task.keyId task.received opts acl

lemma endsStale_of_run
    (h : (((Controller.step Crypto.sample).runChecked (fun _ _ => true) events new).any fun s =>
      s.deciding (staleRights s)) = true) : EndsStale events := by
  rcases (Option.any_eq_true ..).mp h with ⟨s, hs, hdeciding⟩
  rcases exists_of_deciding hdeciding with ⟨task, opts, acl, htask, hphase, hstale⟩
  exact ⟨s, task, opts, acl, hs, htask, hphase, not_current_of_stale hstale⟩

/-- A trap is decided with the rights of an earlier one, after an ACL they contain was changed,
and after the ACLs of the key were. -/
theorem later_trap_decided_with_stale : EndsStale (.markReady :: fetchingTrap "k" sampleAcl ++
        [.finish, .changeAcl "operator", .publishAcl 0, .trap "k", .proceed, .proceed]) ∧
      EndsStale (.markReady :: fetchingTrap "k" sampleAcl ++
        [.finish, .changeKey "k", .deliver 0, .clearOpts 0, .trap "k", .proceed, .proceed,
          .keyAnswer "secret", .proceed, .proceed, .proceed, .proceed]) := by
  constructor
  · exact endsStale_of_run (by decide)
  · exact endsStale_of_run (by decide)

end Controller

end Eva4.ControllerTrap
