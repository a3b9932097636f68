import Eva4.Core.DestructionSteps

/-!
# Destruction is final

The programs of the calls and of the destruction obey the protocol.  Once the destruction
has ended, nothing is left of what earlier calls have appended, and no marked object is
registered, in all runs in which items are appended in time.
-/

namespace Eva4.Core

open Lib Items DestructionPhase Prog Multiset

variable {V : Type} [EvaCommon V] {env : Env V} {node : String} {held : Held Lock} {era : Era}
  {owns : Bool} {source : Option Source} {appended : List Nat}

/-!
## The calls
-/

def KeepsStep (_ : Held Lock) (label : Label V) (update : World V -> World V) : Prop :=
  label = .plain ∧ forall w, KeepsInventory w (update w)

omit [EvaCommon V] in
lemma keepsStep_rules : KeepsRules (KeepsStep (V := V)) where
  keeps := fun _ _ h => ⟨rfl, h⟩

variable {w : World V} {p : CoreM V R} {rse : ReplicationStateEvent V} {s : Source}

lemma runs_keeps (hp : p.Uses KeepsStep held) : p.Runs (destructionProtocol node foreign)
      (fun phase _ _ => phase = call era owns source appended) held
      (call era owns source appended) seen := by
  apply Runs.of_uses (I := fun phase => phase = call era owns source appended) _ hp rfl
  intro held phase others label update w hstep hphase hinv _
  rw [hstep.left]
  rw [hphase] at hinv ⊢
  exact ⟨⟨Destroys.call_keeps hinv (hstep.right w), trivial⟩, rfl⟩

inductive ProcessorStep (s : Source) : Held Lock -> Label V -> (World V -> World V) -> Prop where
  | keeps {held : Held Lock} {update : World V -> World V} :
      (forall w, KeepsInventory w (update w)) -> ProcessorStep s held .plain update
  | append (held : Held Lock) (remote : ReplicationInventoryItem V) :
      ProcessorStep s held (.appendRemote remote s) (World.appendStep remote s)
  | remove (held : Held Lock) (oid : OID) :
      ProcessorStep s held (.removeRemote oid) (World.removeStep oid)

lemma processorStep_rules : SourceRules s (ProcessorStep (V := V) s) where
  keeps := fun _ _ h => .keeps h
  append := .append
  remove := .remove

omit [EvaCommon V] in
/-- A processor that holds the source is in time: while the items are listed and removed it
cannot hold the source, and afterwards it has a new object. -/
theorem appendsInTime (h : Destroys node foreign (call era owns (some s) appended ::ₘ others) w)
    (remote : ReplicationInventoryItem V)
    (hadmits : AppendsInTime others (call era owns (some s) appended)
      (.appendRemote remote s) w) : (¬ exists rest, removing rest ∈ others) ∧
      (returned ∈ others -> era ≠ .before ∧ w.sourceDestroyed s = false) := by
  have hown : CallHolds node foreign _ w era owns (some s) appended := h.own_holds
  rcases hadmits with howns | hfree
  · constructor
    · intro hremoving
      rcases hremoving with ⟨rest, hrest⟩
      exact Bool.noConfusion (h.others_free howns hrest)
    · intro hreturned
      have howner := hown.owner (mem_cons_of_mem hreturned) howns
      exact ⟨howner.left, howner.right s rfl⟩
  · rcases hfree with hnone | hafter
    · constructor
      · intro hremoving
        rcases hremoving with ⟨rest, hrest⟩
        exact Bool.noConfusion (hnone _ hrest)
      · intro hreturned
        exact Bool.noConfusion (hnone _ hreturned)
    · constructor
      · exact h.not_listing hafter.left
      · intro _
        exact hafter.right

lemma runs_processor (hp : p.Uses (ProcessorStep s) held) :
    p.Runs (destructionProtocol node foreign)
      (fun phase _ _ => exists appended', phase = call era owns (some s) appended') held
      (call era owns (some s) appended) seen := by
  apply Runs.of_uses _ hp ⟨appended, rfl⟩
  intro held phase others label update w hstep hphase hinv hadmits
  rcases hphase with ⟨appended', hphase⟩
  rw [hphase] at hinv hadmits ⊢
  cases hstep with
  | keeps hkeeps => exact ⟨⟨Destroys.call_keeps hinv (hkeeps w), trivial⟩, appended', rfl⟩
  | remove oid => exact ⟨⟨Destroys.call_remove hinv, trivial⟩, appended', rfl⟩
  | append remote =>
    have hintime := appendsInTime hinv remote hadmits
    have hhandle := (CallHolds.handle (Destroys.own_holds hinv)) s rfl
    cases hok : (Mem.replState remote).isOk with
    | true =>
      have hnext : (destructionProtocol node foreign).next others
          (call era owns (some s) appended') (.appendRemote remote s) w =
          call era owns (some s) (w.heap.nextItem :: appended') := if_pos hok
      rw [hnext]
      exact ⟨⟨Destroys.call_append hinv hhandle.left hhandle.right hintime.left
        hintime.right hok, trivial⟩, _, rfl⟩
    | false =>
      have hnext : (destructionProtocol node foreign).next others
          (call era owns (some s) appended') (.appendRemote remote s) w =
          call era owns (some s) appended' := by
        apply if_neg
        rw [hok]
        exact Bool.false_ne_true
      cases hstate : Mem.replState remote with
      | ok state =>
        rw [hstate] at hok
        cases hok
      | error e =>
        rw [hnext, World.appendStep_invalid hstate]
        exact ⟨⟨hinv, trivial⟩, appended', rfl⟩

lemma runs_processUnlocked :
    (processUnlocked env remoteInv node sender quick).Runs (destructionProtocol node foreign)
      (fun phase _ _ => exists s appended', phase = call era owns (some s) appended') held
      (call era owns source appended) seen := by
  have hfound : (locked .inventory .shared
      (onMem (.takeSource node sender) fun m =>
        ((m.inv.getItemsBySource node, (m.getOrCreateSource node sender).1),
          (m.getOrCreateSource node sender).2))).Runs (destructionProtocol node foreign)
      (fun phase found (_ : World V) => phase = call era owns (some found.2) appended) held
      (call era owns source appended) seen := by
    apply Runs.locked_atomic
    intro others w hinv _
    exact ⟨⟨Destroys.call_take hinv, trivial⟩, rfl⟩
  apply Runs.bind hfound
  intro phase found w hphase
  rw [hphase]
  apply Runs.mono _ (runs_processor
    (processorStep_rules.processSourceItems))
  intro phase' _ _ hend
  exact ⟨found.2, hend⟩

lemma runs_processRemoteInventory : (processRemoteInventory env remoteInv node sender quick).Runs
      (destructionProtocol node foreign) (fun _ _ _ => True) held
      (call era false none appended) seen := by
  apply Runs.ite (fun _ => Runs.ret trivial)
  intro _
  apply Runs.ite
  · intro _
    apply Runs.bind runs_processUnlocked
    exact fun _ _ _ _ => Runs.ret trivial
  · intro _
    apply Runs.atomic_bind
    intro others w hinv _ hadmits
    apply And.intro ⟨Destroys.call_lock hinv hadmits, trivial⟩
    by_cases hlocked : node ∈ w.invProcess
    · simp only [World.lockSource, if_pos hlocked, Bool.false_eq_true, if_false]
      exact Runs.ret trivial
    · have hphase : (destructionProtocol node foreign).next others
          (call era false none appended) (.lockSource node) w =
          call era true none appended := by
        show call era (if node ∈ w.invProcess then false else true) none appended = _
        rw [if_neg hlocked]
      rw [hphase]
      simp only [World.lockSource, if_neg hlocked, if_true]
      apply Runs.bind runs_processUnlocked
      intro phase _ _ hend
      rcases hend with ⟨s, appended', hend⟩
      rw [hend]
      apply Runs.modify_bind
      intro others' w' hinv' _ _
      exact ⟨⟨Destroys.call_unlock hinv', trivial⟩, Runs.ret trivial⟩

lemma runs_replicatedItem (hrse : rse.node = node) :
    (replicatedItem oid rse sender).Runs (destructionProtocol node foreign)
      (fun phase _ _ => exists appended', phase = call era owns source appended') held
      (call era owns source appended) seen := by
  have hread : (locked .inventory .shared (getItem oid)).Uses (KeepsStep (V := V)) held :=
    Uses.locked (Uses.read (keepsStep_rules.reads _))
  apply Runs.bind (runs_keeps hread)
  intro phase found w hphase
  rw [hphase]
  cases found with
  | some item => exact Runs.ret ⟨appended, rfl⟩
  | none =>
    apply Runs.ite
    · intro _
      apply Runs.locked_atomic
      intro others w' hinv hadmits
      exact ⟨⟨Destroys.call_accept hinv hrse hadmits, trivial⟩, _, rfl⟩
    · intro _
      exact Runs.ret ⟨appended, rfl⟩

lemma runs_updateStateFromRse (hrse : rse.node = node) :
    (updateStateFromRse env oid rse sender).Runs (destructionProtocol node foreign)
      (fun _ _ _ => True) held (call era owns source appended) seen := by
  have hchecked : (ret (checkReplicated oid rse) : CoreM V (EResult Unit)).Runs
      (destructionProtocol node foreign)
      (fun phase _ _ => phase = call era owns source appended) held
      (call era owns source appended) seen := Runs.ret rfl
  apply Runs.tryThen hchecked
  · intro phase _ w hphase
    rw [hphase]
    apply Runs.tryThen (runs_replicatedItem hrse)
    · intro phase' item w' hend
      rcases hend with ⟨appended', hend⟩
      rw [hend]
      apply Runs.mono _ (runs_keeps keepsStep_rules.setReplicatedState)
      exact fun _ _ _ _ => trivial
    · exact fun _ _ _ _ => trivial
  · exact fun _ _ _ _ => trivial

def RemoteCall.IsOf (node : String) : RemoteCall V -> Prop
  | .inventory _ sourceId _ _ => sourceId = node
  | .state _ (.basic rse) _ => rse.node = node
  | .state _ (.inventory sourceId _) _ => sourceId = node
  | .state _ (.basicItem _ event) _ => event.node = node

lemma runs_remoteCall {call : RemoteCall V} (hcall : call.IsOf node) :
    (call.prog env).Runs (destructionProtocol node foreign) (fun _ _ _ => True) held
      (.call era false none appended) seen := by
  cases call with
  | inventory remoteInv sourceId sender quick =>
    rw [show sourceId = node from hcall]
    exact Runs.map runs_processRemoteInventory
  | state oid rsex sender =>
    cases rsex with
    | basic | basicItem =>
      exact Runs.map (runs_updateStateFromRse hcall)
    | inventory sourceId item =>
      rw [show sourceId = node from hcall]
      exact Runs.map runs_processRemoteInventory

/-!
## The destruction
-/

lemma runs_waitForSource :
    (waitForSource fuel node).Runs (destructionProtocol node foreign)
      (fun phase free (_ : World V) => free = true -> phase = owning) held
      (destroying source) seen := by
  induction fuel generalizing seen with
  | zero => exact Runs.ret fun hfree => Bool.noConfusion hfree
  | succ fuel ih =>
    apply Runs.atomic_bind
    intro others w hinv _ _
    apply And.intro ⟨Destroys.lock hinv, trivial⟩
    have hphase : (destructionProtocol node foreign).next others (destroying source)
        (.lockSource node) w =
        if node ∈ w.invProcess then destroying source else owning := rfl
    rw [hphase]
    by_cases hlocked : node ∈ w.invProcess
    · simp only [World.lockSource, if_pos hlocked, Bool.false_eq_true, if_false]
      exact ih
    · simp only [World.lockSource, if_neg hlocked, if_true]
      exact Runs.ret fun _ => rfl

lemma runs_removeAll :
    (each removeSourceItem rest).Runs (destructionProtocol node foreign)
      (fun phase _ (_ : World V) => phase = removing []) held (removing rest) seen := by
  induction rest generalizing seen with
  | nil => exact Runs.ret rfl
  | cons oid rest ih =>
    have hremove : (removeSourceItem oid).Runs (destructionProtocol node foreign)
        (fun phase _ (_ : World V) => phase = removing rest) held
        (removing (oid :: rest)) seen := by
      have hlocked : (locked .inventory .exclusive
          (onMem (.removeRemote oid) fun m => m.removeItem oid)).Runs
          (destructionProtocol node foreign)
          (fun phase _ (_ : World V) => phase = removing rest) held
          (removing (oid :: rest)) seen := by
        apply Runs.locked_atomic
        intro others w hinv _
        apply And.intro ⟨Destroys.remove hinv, trivial⟩
        show removing ((oid :: rest).erase oid) = removing rest
        rw [List.erase_cons_head]
      exact Runs.map hlocked
    apply Runs.bind hremove
    intro phase _ w hphase
    rw [hphase]
    exact ih

lemma runs_destroySource :
    (destroySource fuel node).Runs (destructionProtocol node foreign)
      (fun _ _ (_ : World V) => True) held (destroying source) seen := by
  have htake : (locked .inventory .shared
      (onMem (.takeSource node "") fun m => m.getOrCreateSource node "")).Runs
      (destructionProtocol node foreign)
      (fun phase s (_ : World V) => phase = destroying (some s)) held
      (destroying source) seen := by
    apply Runs.locked_atomic
    intro others w hinv _
    exact ⟨⟨Destroys.take hinv, trivial⟩, rfl⟩
  apply Runs.bind htake
  intro phase s w hphase
  rw [hphase]
  apply Runs.modify_bind
  intro others w' hinv _ _
  apply And.intro ⟨Destroys.mark hinv, trivial⟩
  apply Runs.bind runs_waitForSource
  intro phase' free w'' hfree
  apply Runs.ite
  · intro htrue
    rw [hfree htrue]
    have hlist : (locked .inventory .shared
        (read (.listItems node) fun w => w.inv.getItemsBySource node)).Runs
        (destructionProtocol node foreign)
        (fun phase items (_ : World V) => phase = removing (items.elim [] AList.keys)) held
        owning w'' := by
      apply Runs.locked
      · exact fun _ _ _ _ hphase => hphase
      · intro _ _ others w₁ hinv₁ _ _
        exact ⟨⟨Destroys.list hinv₁, trivial⟩, rfl, rfl⟩
    apply Runs.bind hlist
    intro phase₁ items w₁ hphase₁
    rw [hphase₁]
    apply Runs.bind runs_removeAll
    intro phase₂ _ w₂ hphase₂
    rw [hphase₂]
    intro others₃ w₃ hinv₃ _ _
    exact ⟨⟨Destroys.finish hinv₃, trivial⟩, rfl, trivial⟩
  · intro _
    exact Runs.ret trivial

/-!
## Runs
-/

def SourceCall.started (env : Env V) (call : SourceCall V) : CoreM V Unit := do
  Prog.modify .invoke fun w => w
  call.prog env

def SourceCall.phase : SourceCall V -> DestructionPhase
  | .destroy _ _ => waiting
  | _ => idle

def destructionSystem (env : Env V) (fuel : Nat) (node : String)
    (calls : List (RemoteCall V)) (w : World V) :
    Watch (World V) (Label V) Lock DestructionPhase where
  sys :=
    { store := w,
      tasks := (SourceCall.destroy fuel node :: calls.map .remote).map fun call =>
        Task.start (call.started env) }
  phases := (SourceCall.destroy fuel node :: calls.map .remote).map SourceCall.phase

/-- The sources that are registered are different objects, none of them marked. -/
structure CleanSources (w : World V) : Prop where
  allocated : forall node source, AList.lookup node w.inv.sources = some source ->
    source.ptr < w.heap.nextSource
  distinct : forall node node' source source', AList.lookup node w.inv.sources = some source ->
    AList.lookup node' w.inv.sources = some source' -> source.ptr = source'.ptr -> node = node'
  clean : forall node source, AList.lookup node w.inv.sources = some source ->
    w.sourceDestroyed source = false

def ForeignSource (node : String) (w : World V) (ptr : Nat) : Prop :=
  exists other source, other ≠ node ∧ AList.lookup other w.inv.sources = some source ∧
    source.ptr = ptr

section

omit [EvaCommon V]

lemma CleanSources.nodeMemory (h : CleanSources w) (hwf : w.toMem.WellFormed)
    (hagree : forall oid x, w.inv.InIndex (some node) oid x -> w.inv.getItem oid = some x) :
    NodeMemory node (ForeignSource node w) w where
  wellFormed := hwf
  agree := hagree
  others := fun other source hother hsource => ⟨other, source, hother, hsource, rfl⟩
  foreign_clean := by
    intro ptr hptr
    rcases hptr with ⟨other, source, _, hsource, heq⟩
    rw [← heq]
    exact ⟨h.allocated other source hsource, h.clean other source hsource⟩
  own := by
    intro source hsource hforeign
    rcases hforeign with ⟨other, source', hother, hsource', heq⟩
    exact hother (h.distinct other node source' source hsource' hsource heq)

lemma destroys_start (hmemory : NodeMemory node foreign w) (fuel : Nat)
    {calls : List (RemoteCall V)} : Destroys node foreign
      ((SourceCall.destroy fuel node :: calls.map .remote).map SourceCall.phase :
        List DestructionPhase) w := by
  have hidle : (calls.map SourceCall.remote).map SourceCall.phase =
      List.replicate calls.length idle := by
    rw [List.map_map]
    exact List.map_const
  rw [List.map_cons, hidle]
  constructor
  · exact hmemory
  · rw [coe_countP, List.countP_cons, List.countP_replicate]
    rfl
  · rw [coe_countP, List.countP_cons, List.countP_replicate]
    exact Nat.zero_le 1
  · intro phase hphase
    rcases List.mem_cons.mp (mem_coe.mp hphase) with heq | hmem
    · rw [heq]
      trivial
    · rw [List.eq_of_mem_replicate hmem]
      trivial

end

lemma runs_started {call : SourceCall V} {calls : List (RemoteCall V)}
    (hcalls : forall c, c ∈ calls -> c.IsOf node)
    (hcall : call ∈ SourceCall.destroy fuel node :: calls.map .remote) :
    (call.started env).Runs (destructionProtocol node foreign) (fun _ _ _ => True) held
      call.phase seen := by
  rcases List.mem_cons.mp hcall with heq | hmem
  · rw [heq]
    apply Runs.modify_bind
    intro others w hinv _ _
    exact ⟨⟨Destroys.start hinv, trivial⟩, runs_destroySource⟩
  · rcases List.mem_map.mp hmem with ⟨c, hc, heq⟩
    rw [← heq]
    apply Runs.modify_bind
    intro others w hinv _ _
    exact ⟨⟨Destroys.call_invoke hinv, trivial⟩, runs_remoteCall (hcalls c hc)⟩

/--
In every run in which items are appended in time: once the source has been destroyed, no item
is left that was appended by a call started before, and no source that is marked destroyed is
registered.
-/
theorem destruction_is_final (env : Env V) (fuel : Nat) {node : String}
    {calls : List (RemoteCall V)} (hcalls : forall c, c ∈ calls -> c.IsOf node)
    {w : World V} (hwf : w.toMem.WellFormed)
    (hagree : forall oid x, w.inv.InIndex (some node) oid x -> w.inv.getItem oid = some x)
    (hsources : CleanSources w) {last : Watch (World V) (Label V) Lock DestructionPhase}
    (hrun : Watch.Reaches DestructionPhase.next AppendsInTime
      (destructionSystem env fuel node calls w) last) (hreturned : returned ∈ last.phases) :
    (forall owns source appended ptr, call .before owns source appended ∈ last.phases ->
      ptr ∈ appended -> forall oid x, last.sys.store.inv.getItem oid = some x -> x.ptr ≠ ptr) ∧
      forall other source, AList.lookup other last.sys.store.inv.sources = some source ->
        last.sys.store.sourceDestroyed source = false := by
  have hmemory := hsources.nodeMemory hwf hagree
  have hstart : (destructionSystem env fuel node calls w).Follows
      (destructionProtocol node (ForeignSource node w)) :=
    Watch.follows_start (destroys_start hmemory fuel)
      fun _ hcall => runs_started hcalls hcall
  have hlast : Destroys node (ForeignSource node w) last.phases last.sys.store :=
    (Watch.Reaches.follows hstart hrun).inv
  have hdone : returned ∈ (last.phases : Multiset DestructionPhase) :=
    mem_coe.mpr hreturned
  constructor
  · intro owns source appended ptr hcall hptr oid x hx
    have hholds : CallHolds _ _ _ _ .before owns source appended :=
      hlast.holds _ (mem_coe.mpr hcall)
    exact hholds.gone hdone rfl ptr hptr oid x hx
  · intro other source hsource
    by_cases heq : other = node
    · rw [heq] at hsource
      exact hlast.holds returned hdone source hsource
    · exact (hlast.memory.foreign_clean _ (hlast.memory.others other source heq hsource)).right

lemma new_cleanSources : CleanSources (World.new : World (Option Int)) where
  allocated := fun _ _ h => by cases h
  distinct := fun _ _ _ _ h => by cases h
  clean := fun _ _ h => by cases h

def checkListed (w : Watch (World (Option Int)) (Label (Option Int)) Lock DestructionPhase)
    (i : Nat) : Bool :=
  (w.sys.nextLabel i).all fun label =>
    match label with
    | .lockSource _ => w.phases.all fun phase => !phase.listed
    | .appendRemote _ _ => w.phases.all fun phase => !phase.listed
    | .acceptRemote _ _ _ => w.phases.all fun phase => !phase.listed
    | _ => true

lemma admits_of_checkListed
    (w : Watch (World (Option Int)) (Label (Option Int)) Lock DestructionPhase) (i : Nat)
    (h : checkListed w i = true) : w.Admits AppendsInTime i := by
  intro label phase hlabel _
  have hnone : (w.phases.all fun phase => !phase.listed) = true ->
      forall other, other ∈ (w.phases.eraseIdx i : Multiset DestructionPhase) ->
        other.listed = false := by
    intro hall other hother
    have hmem : other ∈ w.phases := List.mem_of_mem_eraseIdx (mem_coe.mp hother)
    simpa using List.all_eq_true.mp hall other hmem
  rw [checkListed, hlabel] at h
  cases phase with
  | call era owns source appended =>
    cases label with
    | lockSource sourceId =>
      intro _ hreturned
      exact Bool.noConfusion (hnone h _ hreturned)
    | appendRemote remote s => exact Or.inr (Or.inl (hnone h))
    | acceptRemote oid rse sender => exact Or.inl (hnone h)
    | _ => trivial
  | _ => trivial

def destroyedSystem : Watch (World (Option Int)) (Label (Option Int)) Lock DestructionPhase :=
  destructionSystem (Env.sample (Option Int)) 1 "n" [sensorInventory "a", sensorInventory "b"]
    World.new

/-- The first call has appended its sensor, then the source is destroyed. -/
theorem destruction_is_final_removed :
    exists last, destroyedSystem.runChecked DestructionPhase.next checkListed
        (List.replicate 11 1 ++ List.replicate 13 0) = some last ∧
      returned ∈ last.phases ∧
      call .before false (some { ptr := 0, node := "n", svc := "svc" }) [0] ∈ last.phases ∧
      forall oid x, last.sys.store.inv.getItem oid = some x -> x.ptr ≠ 0 := by
  apply exists_of_any (p := fun last => decide (returned ∈ last.phases ∧
    call .before false (some { ptr := 0, node := "n", svc := "svc" }) [0] ∈ last.phases))
    (by decide)
  intro last hlast hend
  have hphases := of_decide_eq_true hend
  have hcalls : forall c, c ∈ [sensorInventory "a", sensorInventory "b"] -> c.IsOf "n" := by
    intro c hc
    rcases List.mem_cons.mp hc with heq | hmem
    · rw [heq]
      rfl
    · rw [List.mem_singleton.mp hmem]
      rfl
  have hfinal := destruction_is_final (Env.sample (Option Int)) 1 hcalls Mem.new_wellFormed
    (fun oid x hx => absurd hx Inventory.not_inIndex_new) new_cleanSources
    (.of_runChecked admits_of_checkListed hlast) hphases.left
  exact ⟨hphases.left, hphases.right, hfinal.left _ _ _ 0 hphases.right (List.mem_singleton_self 0)⟩

/-- A call that takes no lock has seen that the source is not destroyed, and appends its
sensor after the destruction: the object it brings back is marked. -/
theorem quick_call_restores_source :
    exists last, destroyedSystem.runChecked DestructionPhase.next (fun _ _ => true)
        (List.replicate 11 1 ++ List.replicate 6 2 ++ List.replicate 13 0 ++ [2, 2]) = some last ∧
      returned ∈ last.phases ∧
      call .before false (some { ptr := 0, node := "n", svc := "svc" }) [1] ∈ last.phases ∧
      exists x source, last.sys.store.inv.getItem (remoteSensor "b").oid = some x ∧
        AList.lookup "n" last.sys.store.inv.sources = some source ∧
        x.ptr = 1 ∧ x.node = some "n" ∧ last.sys.store.sourceDestroyed source = true := by
  refine ⟨_, rfl, by decide, by decide, _, _, rfl, rfl, rfl, rfl, rfl⟩

end Eva4.Core
