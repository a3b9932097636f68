import Eva4.Lib.Phases
import Eva4.SvcMgr.Manager

/-!
# Agreement of the services map and the registry

A call writes the two copies of the parameters one after the other, and other calls may run in
between.  The phase of a call tells which of its writes is still to come and which parameters it
will write.
-/

namespace Eva4.SvcMgr

open Lib Items Prog World AList Multiset
open AList (insert lookup)

variable {X : Type}

/-!
## Phases of calls
-/

inductive Phase (X : Type) where
  /-- The call has not started. -/
  | idle
  | working
  /-- The parameters have been read to be stored with another enabled flag. -/
  | holding (id : String) (base : Params X)
  /-- The registry has been written, the services map follows. -/
  | written (id : String) (params base : Option (Params X))
  /-- The service has been removed from the services map, the registry follows. -/
  | removed (id : String)
  /-- No service to be purged has been found, the registry follows. -/
  | absent (id : String)

namespace Phase

def pending : Phase X -> Option String
  | idle => none
  | working => none
  | holding id _ => some id
  | written id _ _ => some id
  | removed id => some id
  | absent id => some id

def Splits (id : String) : Phase X -> Prop
  | written id' _ _ => id' = id
  | removed id' => id' = id
  | _ => False

def Holds (w : World X) : Phase X -> Prop
  | idle => True
  | working => True
  | holding id base => lookup id w.services = some base
  | written id params base =>
    lookup id w.registry = params ∧
      forall p, base = some p -> lookup id w.services = some p ∧
        exists enabled, params = some { p with enabled := enabled }.withMemWarn
  | removed id => lookup id w.services = none
  | absent id => lookup id w.services = none

def begun : Phase X -> Phase X
  | idle => working
  | phase => phase

def base : Phase X -> Option (Params X)
  | holding _ params => some params
  | _ => none

end Phase

def Env.registryOk (env : Env) (w : World X) : Bool :=
  (env.registry w.calls).isOk

def Phase.next (env : Env) (_ : Multiset (Phase X)) (phase : Phase X) (label : Label X)
    (w : World X) : Phase X :=
  match label with
  | .call => phase.begun
  | .init _ => phase.begun
  | .getParams id enabled =>
    match lookup id w.services with
    | none => .working
    | some params => if params.enabled = enabled then .working else .holding id params
  | .keySet id params => if env.registryOk w then .written id (some params) phase.base else .working
  | .insert _ _ => .working
  | .keyDelete id => if env.registryOk w then .written id none none else .working
  | .remove _ => .working
  | .purgeInit id => if id ∈ w.services then .working else .absent id
  | .purgeRemove id => .removed id
  | .purgeDelete _ =>
    match phase with
    | .removed id => if env.registryOk w then .working else .removed id
    | _ => .working

/-- No other call is yet to write the parameters of the service. -/
def Alone (id : String) (others : Multiset (Phase X)) : Prop :=
  forall phase, phase ∈ others -> phase.pending ≠ some id

def Label.writes : Label X -> Option String
  | .keySet id _ => some id
  | .insert id _ => some id
  | .keyDelete id => some id
  | .remove id => some id
  | .purgeRemove id => some id
  | .purgeDelete id => some id
  | _ => none

/-- Parameters are written with no other write to them pending, and the deletion of a
service that has been removed from the services map succeeds. -/
structure Admitted (env : Env) (others : Multiset (Phase X)) (phase : Phase X)
    (label : Label X) (w : World X) : Prop where
  alone : forall id, label.writes = some id -> Alone id others
  deletes : forall id, label = .purgeDelete id -> phase = .removed id -> env.registryOk w = true

/-!
## What each step keeps
-/

structure Agreed (phases : Multiset (Phase X)) (w : World X) : Prop where
  agree : forall id, (forall phase, phase ∈ phases -> ¬ phase.Splits id) ->
    lookup id w.services = lookup id w.registry
  holds : forall phase, phase ∈ phases -> phase.Holds w

def protocol (env : Env) : Protocol (World X) (Label X) Empty (Phase X) where
  next := Phase.next env
  inv := Agreed
  admits := Admitted env
  step := fun _ _ _ => True
  final := fun phase => phase.pending = none

variable {phase : Phase X} {w : World X} {id : String}

lemma Phase.Splits.pending (h : phase.Splits id) : phase.pending = some id := by
  cases phase with
  | written | removed => exact congrArg some h
  | idle | working | holding id' base | absent id' => cases h

/-- What a call relies on is about the service it has pending. -/
theorem Phase.Holds.congr (h : phase.Holds w) (hsame : forall id, phase.pending = some id ->
      lookup id w'.services = lookup id w.services ∧
        lookup id w'.registry = lookup id w.registry) : phase.Holds w' := by
  cases phase with
  | idle | working => trivial
  | holding id base | removed id | absent id => exact (hsame id rfl).left.trans h
  | written id params base =>
    refine ⟨(hsame id rfl).right.trans h.left, ?_⟩
    intro p hp
    rw [(hsame id rfl).left]
    exact h.right p hp

lemma Agreed.write (h : Agreed (phase ::ₘ others) w) (halone : Alone id others)
    (hown : forall other, phase.Splits other -> other = id) (hservices : forall other, other ≠ id ->
      lookup other w'.services = lookup other w.services) (hregistry : forall other, other ≠ id ->
      lookup other w'.registry = lookup other w.registry) (hholds : phase'.Holds w')
    (hid : ¬ phase'.Splits id -> lookup id w'.services = lookup id w'.registry) :
    Agreed (phase' ::ₘ others) w' := by
  constructor
  · intro other hsplits
    rcases Classical.em (other = id) with heq | hne
    · rw [heq]
      rw [heq] at hsplits
      exact hid (hsplits phase' (mem_cons_self ..))
    · rw [hservices other hne, hregistry other hne]
      apply h.agree
      intro p hp
      rcases mem_cons.mp hp with heq | hmem
      · rw [heq]
        exact fun hsplit => hne (hown other hsplit)
      · exact hsplits p (mem_cons_of_mem hmem)
  · intro p hp
    rcases mem_cons.mp hp with heq | hmem
    · rw [heq]
      exact hholds
    · apply (h.holds p (mem_cons_of_mem hmem)).congr
      intro other hother
      have hne : other ≠ id := by
        intro heq
        rw [heq] at hother
        exact halone p hmem hother
      exact ⟨hservices other hne, hregistry other hne⟩

theorem Agreed.quiet (h : Agreed (phase ::ₘ others) w) (hservices : w'.services = w.services)
    (hregistry : w'.registry = w.registry)
    (hsplits : forall id, phase.Splits id -> phase'.Splits id) (hholds : phase'.Holds w') :
    Agreed (phase' ::ₘ others) w' := by
  constructor
  · intro id hnone
    rw [hservices, hregistry]
    apply h.agree
    intro p hp hsplit
    rcases mem_cons.mp hp with heq | hmem
    · rw [heq] at hsplit
      exact hnone phase' (mem_cons_self ..) (hsplits id hsplit)
    · exact hnone p (mem_cons_of_mem hmem) hsplit
  · intro p hp
    rcases mem_cons.mp hp with heq | hmem
    · rw [heq]
      exact hholds
    · apply (h.holds p (mem_cons_of_mem hmem)).congr
      intro id _
      rw [hservices, hregistry]
      exact ⟨rfl, rfl⟩

/-!
## What each call keeps
-/

section Calls

lemma Phase.begun_holds (h : phase.Holds w) : phase.begun.Holds w := by
  cases phase <;> exact h

lemma Phase.begun_splits (h : phase.Splits id) : phase.begun.Splits id := by
  cases phase <;> exact h

lemma Phase.begun_begun : phase.begun.begun = phase.begun := by
  cases phase <;> rfl

lemma Agreed.begun (h : Agreed (phase ::ₘ others) w) (hservices : w'.services = w.services)
    (hregistry : w'.registry = w.registry) : Agreed (phase.begun ::ₘ others) w' := by
  apply h.quiet hservices hregistry fun _ => Phase.begun_splits
  apply Phase.begun_holds
  apply (h.holds phase (mem_cons_self ..)).congr
  intro id _
  rw [hservices, hregistry]
  exact ⟨rfl, rfl⟩

lemma callRegistry_services : (callRegistry env write w).2.services = w.services := by
  unfold callRegistry
  cases env.registry w.calls <;> rfl

lemma callRegistry_cases :
    (env.registryOk w = true ∧ (callRegistry env write w).1 = .ok () ∧
        (callRegistry env write w).2.registry = write w.registry) ∨
      (env.registryOk w = false ∧ (exists e, (callRegistry env write w).1 = .error e) ∧
        (callRegistry env write w).2.registry = w.registry) := by
  unfold Env.registryOk callRegistry
  cases env.registry w.calls with
  | ok u => exact Or.inl ⟨rfl, rfl, rfl⟩
  | error e => exact Or.inr ⟨rfl, ⟨e, rfl⟩, rfl⟩

lemma runs_startStopService :
    (startStopService env method id init).Runs (protocol env)
      (fun phase' _ _ => phase' = phase.begun) [] phase seen := by
  apply Runs.atomic
  intro others w hinv _ _
  exact ⟨⟨hinv.begun rfl rfl, trivial⟩, rfl⟩

lemma runs_keyDeleteRecursive :
    (keyDeleteRecursive env : SvcM X (EResult Unit)).Runs (protocol env)
      (fun phase' _ _ => phase' = phase.begun) [] phase seen := by
  apply Runs.atomic
  intro others w hinv _ _
  refine ⟨⟨hinv.begun (callRegistry_services ..) ?_, trivial⟩, rfl⟩
  rcases callRegistry_cases with h | h
  · exact h.right.right
  · exact h.right.right

lemma runs_init :
    (read (.init id) fun w : World X => w.getServiceInit id allowAny).Runs
      (protocol env) (fun phase' _ _ => phase' = phase.begun) [] phase seen := by
  intro others w hinv _ _
  exact ⟨⟨hinv.begun rfl rfl, trivial⟩, rfl, rfl⟩

lemma runs_requestInit :
    ((read (.init id) fun w : World X => w.getServiceInit id allowAny).tryThen
      fun init => do
        let result ← startStopService env method id init
        pure (mapErr env text result)).Runs (protocol env)
      (fun phase' _ _ => phase' = phase.begun) [] phase seen := by
  refine Runs.tryThen runs_init ?_ fun _ _ _ h => h
  intro phase₁ init w₁ h₁
  apply Runs.bind runs_startStopService
  intro phase₂ result w₂ h₂
  apply Runs.ret
  rw [h₂, h₁, Phase.begun_begun]

theorem runs_firstWrite
    (hnext : forall others w, Phase.next env others phase label w =
      if env.registryOk w then .written id params base else .working)
    (hadmits : forall others w, Admitted env others phase label w -> Alone id others)
    (hid : forall registry, lookup id (write registry) = params)
    (hother : forall registry other, other ≠ id ->
      lookup other (write registry) = lookup other registry)
    (hsplits : forall other, ¬ phase.Splits other)
    (hbase : forall p w, base = some p -> phase.Holds w ->
      lookup id w.services = some p ∧
        exists enabled, params = some { p with enabled := enabled }.withMemWarn) :
    (atomic label (callRegistry env write) : SvcM X (EResult Unit)).Runs (protocol env)
      (fun phase' r _ => match r with
        | .ok _ => phase' = .written id params base
        | .error _ => phase' = .working) [] phase seen := by
  apply Runs.atomic
  intro others w hinv _ hadmitted
  have hstep : (protocol env).next others phase label w =
    if env.registryOk w then .written id params base else .working := hnext others w
  rcases callRegistry_cases with h | h
  · rw [hstep, h.left, if_pos rfl, h.right.left]
    refine ⟨⟨?_, trivial⟩, rfl⟩
    refine hinv.write (hadmits others w hadmitted)
      (fun other h => absurd h (hsplits other)) ?_ ?_ ?_ fun hnot => absurd rfl hnot
    · intro other _
      rw [callRegistry_services]
    · intro other hne
      rw [h.right.right, hother _ _ hne]
    · constructor
      · rw [h.right.right, hid]
      · intro p hp
        rw [callRegistry_services]
        exact hbase p w hp (hinv.holds phase (mem_cons_self ..))
  · rcases h.right.left with ⟨e, he⟩
    rw [hstep, h.left, if_neg Bool.false_ne_true, he]
    refine ⟨⟨?_, trivial⟩, rfl⟩
    exact hinv.quiet (callRegistry_services ..) h.right.right
      (fun other hsplit => absurd hsplit (hsplits other)) trivial

theorem runs_follow (hnext : forall others phase w, Phase.next env others phase label w = .working)
    (hadmits : forall others phase w, Admitted env others phase label w -> Alone id others)
    (hid : forall w, lookup id (f w).services = params) (hother : forall w other, other ≠ id ->
      lookup other (f w).services = lookup other w.services)
    (hregistry : forall w, (f w).registry = w.registry) :
    (modify label f : SvcM X Unit).Runs (protocol env)
      (fun phase' _ _ => phase' = .working) [] (.written id params base) seen := by
  intro others w hinv _ hadmitted
  have hwritten := (hinv.holds _ (mem_cons_self ..)).left
  have hstep : (protocol env).next others (.written id params base) label w = .working :=
    hnext others _ w
  rw [hstep]
  refine ⟨⟨?_, trivial⟩, rfl, rfl⟩
  refine hinv.write (hadmits others _ w hadmitted) (fun other h => h.symm) (hother w) ?_ trivial ?_
  · intro other _
    rw [hregistry]
  · intro _
    rw [hid, hregistry]
    exact hwritten.symm

lemma runs_deployService {params : Params X}
    (hbegun : phase.begun = .working ∨ exists base enabled,
      phase.begun = .holding id base ∧ params = { base with enabled := enabled }) :
    (deployService env id params).Runs (protocol env)
      (fun phase' _ _ => phase'.pending = none) [] phase seen := by
  apply Runs.bind runs_requestInit
  intro phase₁ _ w₁ h₁
  rw [h₁]
  refine Runs.tryThen (runs_firstWrite (fun _ _ => rfl) (fun _ _ h => h.alone id rfl)
    (fun _ => lookup_insert _) (fun _ _ hne => lookup_insert_ne hne)
    ?_ ?_) ?_ ?_
  · intro other hsplit
    rcases hbegun with h | ⟨base, enabled, h, _⟩
    · rw [h] at hsplit
      cases hsplit
    · rw [h] at hsplit
      cases hsplit
  · intro p w hp hholds
    rcases hbegun with h | ⟨base, enabled, h, hparams⟩
    · rw [h] at hp
      cases hp
    · rw [h] at hp hholds
      cases hp
      exact ⟨hholds, enabled, congrArg (fun q => some q.withMemWarn) hparams⟩
  · intro phase₂ _ w₂ h₂
    rw [h₂]
    refine Runs.bind (runs_follow (fun _ _ _ => rfl) (fun _ _ _ h => h.alone id rfl) ?_ ?_ ?_) ?_
    · intro w
      exact lookup_insert _
    · intro w other hne
      exact lookup_insert_ne hne
    · intro w
      rfl
    · intro phase₃ _ w₃ h₃
      rw [h₃]
      apply Runs.ite
      · intro _
        apply Obeys.mono _ runs_requestInit
        intro held phase' r w h
        refine ⟨h.left, ?_⟩
        rw [h.right]
        rfl
      · intro _
        exact Runs.ret rfl
  · intro phase₂ e w₂ h₂
    rw [h₂]
    rfl

lemma runs_setServiceEnabled :
    (setServiceEnabled env id enabled : SvcM X (EResult Unit)).Runs (protocol env)
      (fun phase' _ _ => phase'.pending = none) [] .idle seen := by
  have hread : (read (.getParams id enabled)
      fun w : World X => w.getServiceParams id).Runs (protocol env)
      (fun phase' r _ => match r with
        | .ok params => phase' = if params.enabled = enabled then .working else .holding id params
        | .error _ => phase' = .working) [] .idle seen := by
    intro others w hinv _ _
    refine ⟨⟨?_, trivial⟩, rfl, ?_⟩
    · apply hinv.quiet rfl rfl fun _ h => h.elim
      simp only [protocol, Phase.next]
      split
      · trivial
      · next params hstored =>
        split
        · trivial
        · exact hstored
    · simp only [protocol, Phase.next, getServiceParams]
      cases lookup id w.services <;> rfl
  apply Runs.tryThen hread
  · intro phase₁ params w₁ h₁
    have hphase : phase₁ = if params.enabled = enabled then .working else .holding id params := h₁
    apply Runs.ite
    · intro hsame
      rw [hphase, if_pos hsame]
      exact Runs.ret rfl
    · intro hdiffers
      rw [hphase, if_neg hdiffers]
      exact runs_deployService (Or.inr ⟨params, enabled, rfl, rfl⟩)
  · intro phase₁ e w₁ h₁
    rw [h₁]
    rfl

lemma runs_undeployService : (undeployService env id : SvcM X (EResult Unit)).Runs (protocol env)
      (fun phase' _ _ => phase'.pending = none) [] .idle seen := by
  refine Runs.tryThen runs_init ?_ ?_
  · intro phase₁ init w₁ h₁
    refine Runs.tryThen runs_startStopService ?_ ?_
    · intro phase₂ _ w₂ h₂
      rw [h₂, h₁]
      refine Runs.tryThen (runs_firstWrite (fun _ _ => rfl) (fun _ _ h => h.alone id rfl)
        (fun _ => lookup_erase _ _) (fun _ _ hne => lookup_erase_ne hne)
        (fun _ h => h) fun _ _ hp => nomatch hp) ?_ ?_
      · intro phase₃ _ w₃ h₃
        rw [h₃]
        refine Runs.bind (runs_follow (fun _ _ _ => rfl)
          (fun _ _ _ h => h.alone id rfl) ?_ ?_ ?_) ?_
        · intro w
          exact lookup_erase _ _
        · intro w other hne
          exact lookup_erase_ne hne
        · intro w
          rfl
        · intro phase₄ _ w₄ h₄
          rw [h₄]
          exact Runs.ret rfl
      · intro phase₃ e w₃ h₃
        rw [h₃]
        rfl
    · intro phase₂ e w₂ h₂
      rw [h₂, h₁]
      rfl
  · intro phase₁ e w₁ h₁
    rw [h₁]
    rfl

lemma runs_purgeDelete (hphase : phase = .absent id ∨ phase = .removed id) :
    (keyDelete env (.purgeDelete id) id : SvcM X (EResult Unit)).Runs (protocol env)
      (fun phase' _ _ => phase' = .working) [] phase seen := by
  apply Runs.atomic
  intro others w hinv _ hadmits
  have hown : forall other, phase.Splits other -> other = id := by
    intro other hsplit
    rcases hphase with h | h
    · rw [h] at hsplit
      cases hsplit
    · rw [h] at hsplit
      exact hsplit.symm
  have hnone : lookup id w.services = none := by
    have hholds := hinv.holds phase (mem_cons_self ..)
    rcases hphase with h | h
    · rw [h] at hholds
      exact hholds
    · rw [h] at hholds
      exact hholds
  have hnext : (protocol env).next others phase (.purgeDelete id) w = .working := by
    rcases hphase with h | h
    · rw [h]
      rfl
    · rw [h]
      simp only [protocol, Phase.next, hadmits.deletes id rfl h, if_true]
  rw [hnext]
  refine ⟨⟨?_, trivial⟩, rfl⟩
  rcases callRegistry_cases with h | h
  · refine hinv.write (hadmits.alone id rfl) hown ?_ ?_ trivial ?_
    · intro other _
      rw [callRegistry_services]
    · intro other hne
      rw [h.right.right, lookup_erase_ne hne]
    · intro _
      rw [callRegistry_services, h.right.right, lookup_erase]
      exact hnone
  · refine hinv.quiet (callRegistry_services ..) h.right.right ?_ trivial
    intro other hsplit
    rcases hphase with habsent | hremoved
    · rw [habsent] at hsplit
      cases hsplit
    · rw [hadmits.deletes id rfl hremoved] at h
      cases h.left

lemma runs_purgeKeys (hphase : phase = .absent id ∨ phase = .removed id) :
    (purgeKeys env id : SvcM X (EResult Unit)).Runs (protocol env)
      (fun phase' _ _ => phase'.pending = none) [] phase seen := by
  apply Runs.tryThen (runs_purgeDelete hphase)
  · intro phase₁ _ w₁ h₁
    rw [h₁]
    apply Runs.tryThen runs_keyDeleteRecursive
    · intro phase₂ _ w₂ h₂
      rw [h₂]
      apply Obeys.mono _ runs_keyDeleteRecursive
      intro held phase' r w h
      refine ⟨h.left, ?_⟩
      rw [h.right]
      rfl
    · intro phase₂ e w₂ h₂
      rw [h₂]
      rfl
  · intro phase₁ e w₁ h₁
    rw [h₁]
    rfl

lemma runs_purgeService : (purgeService env id : SvcM X (EResult Unit)).Runs (protocol env)
      (fun phase' _ _ => phase'.pending = none) [] .idle seen := by
  have hread : (read (.purgeInit id)
      fun w : World X => w.getServiceInit id true).Runs (protocol env)
      (fun phase' r _ => match r with
        | .ok _ => phase' = .working
        | .error e => phase' = .absent id ∧ e.kind = .resourceNotFound) [] .idle seen := by
    intro others w hinv _ _
    refine ⟨⟨?_, trivial⟩, rfl, ?_⟩
    · apply hinv.quiet rfl rfl fun _ h => h.elim
      simp only [protocol, Phase.next]
      split
      · trivial
      · next hmissing => exact lookup_eq_none.mpr hmissing
    · simp only [protocol, Phase.next, getServiceInit]
      cases hstored : lookup id w.services with
      | none => exact ⟨if_neg (lookup_eq_none.mp hstored), rfl⟩
      | some params =>
        have hmem : id ∈ w.services := lookup_isSome.mp (by rw [hstored]; rfl)
        simp only [if_pos hmem, Bool.or_true, if_true]
  apply Runs.bind hread
  intro phase₁ r w₁ h₁
  cases r with
  | error e =>
    apply Runs.ite
    · intro _
      exact runs_purgeKeys (Or.inl h₁.left)
    · intro hkind
      exact absurd h₁.right hkind
  | ok init =>
    apply Runs.tryThen runs_startStopService
    · intro phase₂ _ w₂ h₂
      rw [h₂, h₁]
      intro others w hinv _ hadmits
      refine ⟨⟨?_, trivial⟩, runs_purgeKeys (Or.inr rfl)⟩
      refine hinv.write (hadmits.alone id rfl) (fun _ h => h.elim) ?_ (fun _ _ => rfl) ?_
        fun hnot => absurd rfl hnot
      · intro other hne
        exact lookup_erase_ne hne
      · exact lookup_erase _ _
    · intro phase₂ e w₂ h₂
      rw [h₂, h₁]
      rfl

lemma runs_call {call : Call X} :
    (call.prog env).Runs (protocol env) (fun phase' _ _ => phase'.pending = none) [] .idle
      seen := by
  cases call with
  | deployService id params => exact runs_deployService (Or.inl rfl)
  | setServiceEnabled id enabled => exact runs_setServiceEnabled
  | undeployService id => exact runs_undeployService
  | purgeService id => exact runs_purgeService

end Calls

/-!
## Runs
-/

def system (env : Env) (calls : List (Call X)) (w : World X) :
    Watch (World X) (Label X) Empty (Phase X) where
  sys := { store := w, tasks := calls.map fun call => Task.start (call.prog env) }
  phases := calls.map fun _ => .idle

/-- No call has started and not yet ended. -/
def Quiescent (w : Watch (World X) (Label X) Empty (Phase X)) : Prop :=
  forall i phase, w.phases[i]? = some phase -> phase = .idle ∨ w.ended i = true

lemma system_follows {env : Env} {calls : List (Call X)}
    (hagree : forall id, lookup id w.services = lookup id w.registry) :
    (system env calls w).Follows (protocol env) := by
  refine Watch.follows_start ⟨fun id _ => hagree id, ?_⟩ fun call _ => runs_call
  intro phase hphase
  rcases List.mem_map.mp (mem_coe.mp hphase) with ⟨_, _, heq⟩
  rw [← heq]
  trivial

/--
In every run in which nobody writes the parameters of a service while another call has a
write to them pending, and in which no deletion fails after the services map has been
written: the services map and the registry agree whenever no call is in progress, and what
is stored for another enabled flag is what was stored before with that flag.
-/
theorem service_params_agree (env : Env) (calls : List (Call X)) {w : World X}
    (hagree : forall id, lookup id w.services = lookup id w.registry)
    {last : Watch (World X) (Label X) Empty (Phase X)}
    (hrun : Watch.Reaches (Phase.next env) (Admitted env) (system env calls w) last) :
    (Quiescent last -> forall id,
      lookup id last.sys.store.services = lookup id last.sys.store.registry) ∧
    (forall id base, Phase.holding id base ∈ last.phases ->
      lookup id last.sys.store.services = some base) ∧
    (forall id params base, Phase.written id params (some base) ∈ last.phases ->
      lookup id last.sys.store.services = some base ∧
        exists enabled, params = some { base with enabled := enabled }.withMemWarn) := by
  have hfollows : last.Follows (protocol env) :=
    Watch.Reaches.follows (system_follows hagree) hrun
  refine ⟨?_, ?_, ?_⟩
  · intro hquiet id
    apply hfollows.inv.agree
    intro phase hphase hsplits
    rcases List.mem_iff_getElem?.mp (mem_coe.mp hphase) with ⟨i, hi⟩
    rcases hquiet i phase hi with hidle | hended
    · rw [hidle] at hsplits
      cases hsplits
    · have hnone : phase.pending = none := hfollows.final hended hi
      rw [hsplits.pending] at hnone
      cases hnone
  · intro id base hmem
    exact hfollows.inv.holds _ (mem_coe.mpr hmem)
  · intro id params base hmem
    exact (hfollows.inv.holds _ (mem_coe.mpr hmem)).right base rfl

def Env.sample : Env where
  launcher := fun _ => .ok ()
  registry := fun _ => .ok ()
  display := Error.message

def sampleParams : Params Unit where
  enabled := true
  workers := 1
  memWarn := some 1
  launcher := "eva.launcher.main"
  settings := ()

def sampleWorld : World Unit where
  services := insert "a" sampleParams ∅
  registry := insert "a" sampleParams ∅
  calls := 0
  sent := []

def sampleCalls : List (Call Unit) :=
  [.setServiceEnabled "a" false, .deployService "b" sampleParams]

def checkAlone (w : Watch (World Unit) (Label Unit) Empty (Phase Unit)) (i : Nat) : Bool :=
  (w.sys.nextLabel i).all fun label => label.writes.all fun id =>
    (w.phases.eraseIdx i).all fun phase => phase.pending ≠ some id

lemma admits_of_checkAlone (w : Watch (World Unit) (Label Unit) Empty (Phase Unit)) (i : Nat)
    (h : checkAlone w i = true) : w.Admits (Admitted Env.sample) i := by
  intro label phase hlabel hphase
  refine ⟨?_, fun _ _ _ => rfl⟩
  intro id hwrites other hother
  simp only [checkAlone, hlabel, hwrites, Option.all_some, List.all_eq_true] at h
  exact of_decide_eq_true (h other (mem_coe.mp hother))

def sampleSteps : List Nat :=
  [0, 1, 1, 0, 0, 1, 0, 1, 0, 1]

def sampleRun : Option (Watch (World Unit) (Label Unit) Empty (Phase Unit)) :=
  (system Env.sample sampleCalls sampleWorld).runChecked (Phase.next Env.sample) checkAlone
    sampleSteps

lemma quiescent_of_ended {w : Watch (World Unit) (Label Unit) Empty (Phase Unit)}
    (h : (List.range w.phases.length).all w.ended = true) : Quiescent w := by
  intro i phase hphase
  have hi : i < w.phases.length := (List.getElem?_eq_some_iff.mp hphase).1
  exact Or.inr (List.all_eq_true.mp h i (List.mem_range.mpr hi))

theorem service_params_agree_disabled :
    exists last, sampleRun = some last ∧ Quiescent last ∧
      lookup "a" last.sys.store.services = some { sampleParams with enabled := false } ∧
      forall id, lookup id last.sys.store.services = lookup id last.sys.store.registry := by
  apply exists_of_any (p := fun last => (List.range last.phases.length).all last.ended &&
    decide (lookup "a" last.sys.store.services =
      some { sampleParams with enabled := false })) (by decide)
  intro last hlast hend
  rw [Bool.and_eq_true] at hend
  have hquiet := quiescent_of_ended hend.left
  refine ⟨hquiet, of_decide_eq_true hend.right, ?_⟩
  exact (service_params_agree Env.sample sampleCalls (fun _ => rfl)
    (.of_runChecked admits_of_checkAlone hlast)).left hquiet

def Env.failing : Env :=
  { Env.sample with registry := fun _ => .error { kind := .failed, message := "registry error" } }

/-- A service that is purged while the registry fails is gone from the services map and
still in the registry when the call has ended. -/
theorem failed_purge_splits :
    exists last, (system Env.failing [.purgeService "a"] sampleWorld).runChecked
        (Phase.next Env.failing) (fun _ _ => true) [0, 0, 0, 0] = some last ∧ Quiescent last ∧
      lookup "a" last.sys.store.services = none ∧
      lookup "a" last.sys.store.registry = some sampleParams :=
  ⟨_, rfl, quiescent_of_ended rfl, rfl, rfl⟩

end Eva4.SvcMgr
