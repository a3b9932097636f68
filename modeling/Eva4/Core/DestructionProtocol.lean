import Eva4.Lib.Phases
import Eva4.Core.SourceSteps

/-!
# Destroying a source while it is processed

A source is destroyed in stages: its object is marked, the processor that holds the source
is waited for, its items are listed, and what was listed is removed.  The calls of the node
that run meanwhile differ in when they were started, whether they hold the source, and which
object they have for it.
-/

namespace Eva4.Core

open Lib Items AList

variable {V : Type}

/-!
## Phases
-/

/-- When a call was started: before the destruction, while it runs, or after it. -/
inductive Era where
  | before
  | during
  | after
deriving DecidableEq

/-- The stages of the destruction, and what is known of a call: its era, whether it holds the
source, the source object it has and the addresses of the items it has appended. -/
inductive DestructionPhase where
  | waiting
  | destroying (source : Option Source)
  | owning
  | removing (rest : List OID)
  | returned
  | idle
  | call (era : Era) (owns : Bool) (source : Option Source) (appended : List Nat)
deriving DecidableEq

namespace DestructionPhase

def isDestroyer : DestructionPhase -> Bool
  | idle => false
  | call _ _ _ _ => false
  | _ => true

def owns : DestructionPhase -> Bool
  | owning => true
  | removing _ => true
  | call _ owns _ _ => owns
  | _ => false

def listed : DestructionPhase -> Bool
  | removing _ => true
  | returned => true
  | _ => false

def era (others : Multiset DestructionPhase) : Era :=
  if waiting ∈ others then .before else if returned ∈ others then .after else .during

def next [EvaCommon V] : Observer (World V) (Label V) DestructionPhase :=
  fun others phase label w =>
    match phase, label with
    | waiting, .invoke => destroying none
    | destroying _, .takeSource sourceId sender =>
      destroying (some (w.toMem.getOrCreateSource sourceId sender).1)
    | destroying source, .lockSource sourceId =>
      if sourceId ∈ w.invProcess then destroying source else owning
    | owning, .listItems sourceId => removing ((w.inv.getItemsBySource sourceId).elim [] AList.keys)
    | removing rest, .removeRemote oid => removing (rest.erase oid)
    | removing _, .unlockSource _ => returned
    | idle, .invoke => call (era others) false none []
    | call era owns source appended, .lockSource sourceId =>
      call era (if sourceId ∈ w.invProcess then owns else true) source appended
    | call era _ source appended, .unlockSource _ => call era false source appended
    | call era owns _ appended, .takeSource sourceId sender =>
      call era owns (some (w.toMem.getOrCreateSource sourceId sender).1) appended
    | call era owns source appended, .appendRemote remote _ =>
      if (Mem.replState remote).isOk then call era owns source (w.heap.nextItem :: appended)
      else call era owns source appended
    | call era owns source appended, .acceptRemote _ _ _ =>
      call era owns source (w.heap.nextItem :: appended)
    | phase, _ => phase

end DestructionPhase

open DestructionPhase

/--
An item that is appended by a call that does not hold the source is appended before the items
are listed, or after the destruction by a call that was not started before it, and then with
an object that is not marked.  A processor that was started before the destruction takes the
source before it ends.
-/
def AppendsInTime : Condition (World V) (Label V) DestructionPhase :=
  fun others phase label w =>
    match phase, label with
    | call era _ _ _, .lockSource _ => era = .before -> returned ∉ others
    | call era owns _ _, .appendRemote _ source =>
      owns = true ∨ (forall other, other ∈ others -> other.listed = false) ∨
        returned ∈ others ∧ era ≠ .before ∧ w.sourceDestroyed source = false
    | call era _ _ _, .acceptRemote _ _ _ =>
      (forall other, other ∈ others -> other.listed = false) ∨ returned ∈ others ∧ era ≠ .before
    | _, _ => True

/-!
## The memory
-/

/--
The index of the node agrees with the items.  The sources of other nodes are among some
objects that are not marked, the source of the node is not.
-/
structure NodeMemory (node : String) (foreign : Nat -> Prop) (w : World V) : Prop where
  wellFormed : w.toMem.WellFormed
  agree : forall oid x, w.inv.InIndex (some node) oid x -> w.inv.getItem oid = some x
  others : forall other source, other ≠ node ->
    AList.lookup other w.inv.sources = some source -> foreign source.ptr
  foreign_clean : forall ptr, foreign ptr -> ptr < w.heap.nextSource ∧
    (w.heap.sourceCells ptr).destroyed = false
  own : forall source, AList.lookup node w.inv.sources = some source -> ¬ foreign source.ptr

namespace NodeMemory

variable {w w' : World V} (h : NodeMemory node foreign w)
include h

lemma of_eq (hinv : w'.inv = w.inv) (hnext : w'.heap.nextItem = w.heap.nextItem)
    (hcells : w'.heap.sourceCells = w.heap.sourceCells)
    (hsource : w'.heap.nextSource = w.heap.nextSource) : NodeMemory node foreign w' where
  wellFormed := by
    have hwf := h.wellFormed.of_heap (le_of_eq hnext.symm)
    rw [← hinv] at hwf
    exact hwf
  agree := by
    rw [hinv]
    exact h.agree
  others := by
    rw [hinv]
    exact h.others
  foreign_clean := by
    rw [hsource, hcells]
    exact h.foreign_clean
  own := by
    rw [hinv]
    exact h.own

lemma markDestroyed (hsource : ¬ foreign source.ptr) :
    NodeMemory node foreign (w.markDestroyed source) :=
  { h with
    wellFormed := h.wellFormed.of_heap (le_refl _)
    foreign_clean := by
      intro ptr hptr
      have hne : ptr ≠ source.ptr := by
        intro heq
        rw [heq] at hptr
        exact hsource hptr
      apply And.intro (h.foreign_clean ptr hptr).left
      show (Function.update w.heap.sourceCells source.ptr _ ptr).destroyed = false
      rw [Function.update_of_ne hne]
      exact (h.foreign_clean ptr hptr).right }

theorem take (sourceId : String) : NodeMemory node foreign (w.takeStep sourceId sender) := by
  cases hsource : lookup sourceId w.inv.sources with
  | some source =>
    rw [World.takeStep_registered hsource]
    exact h
  | none =>
    rw [World.takeStep_new hsource]
    constructor
    · exact h.wellFormed.of_heap (le_refl _)
    · exact h.agree
    · exact h.others
    · intro ptr hptr
      have hclean := h.foreign_clean ptr hptr
      apply And.intro (Nat.lt_succ_of_lt hclean.left)
      show (Function.update w.heap.sourceCells w.heap.nextSource _ ptr).destroyed = false
      rw [Function.update_of_ne (Nat.ne_of_lt hclean.left)]
      exact hclean.right
    · exact h.own

lemma not_foreign_take : ¬ foreign (w.toMem.getOrCreateSource node sender).1.ptr := by
  unfold Mem.getOrCreateSource
  cases hsource : lookup node w.inv.sources with
  | some source => exact h.own source hsource
  | none =>
    intro hforeign
    exact absurd (h.foreign_clean _ hforeign).left (Nat.lt_irrefl _)

lemma remove : NodeMemory node foreign (w.removeStep oid) := by
  cases hfound : w.inv.getItem oid with
  | none =>
    rw [World.removeStep_absent h.wellFormed hfound]
    exact h
  | some item =>
    rcases World.removeStep_present h.wellFormed hfound with ⟨m', heq, hm'⟩
    have hsources : forall other source,
        lookup other (w.withMem m').inv.sources = some source ->
          lookup other w.inv.sources = some source := by
      rw [← heq]
      exact fun _ _ hsource => Mem.removeItem_sources hsource
    rw [heq]
    constructor
    · exact hm'.wellFormed
    · intro o x hx
      rcases (hm'.inIndex (some node) o x).mp hx with ⟨hother, hx⟩
      have hitem := h.agree o x hx
      rw [show (w.withMem m').inv.getItem o = _ from hm'.getItem o]
      split
      next ho =>
        rw [ho, hfound] at hitem
        injection hitem with hitem
        rw [hitem, (h.wellFormed.inv.entry (some node) o x hx).right] at hother
        exact absurd ⟨rfl, ho⟩ hother
      next => exact hitem
    · intro other source hother hsource
      exact h.others other source hother (hsources other source hsource)
    · intro ptr hptr
      show ptr < m'.heap.nextSource ∧ (m'.heap.sourceCells ptr).destroyed = false
      rw [hm'.heap]
      exact h.foreign_clean ptr hptr
    · intro source hsource
      exact h.own source (hsources node source hsource)

lemma append [EvaCommon V] {remote : ReplicationInventoryItem V} (hnode : source.node = node)
    (hsource : ¬ foreign source.ptr) :
    NodeMemory node foreign (w.appendStep remote source) := by
  cases hstate : Mem.replState remote with
  | error e =>
    rw [World.appendStep_invalid hstate]
    exact h
  | ok state =>
    rcases World.appendStep_valid h.wellFormed hstate with ⟨m', heq, hm', hsources⟩
    have hitemNode : (remote.item source).node = some node := by
      rw [← hnode]
      rfl
    rw [heq]
    constructor
    · exact hm'.wellFormed
    · intro o x hx
      rw [show (w.withMem m').inv.getItem o = _ from hm'.getItem o]
      rcases (hm'.inIndex (some node) o x).mp hx with hitem | hold
      · rw [if_pos hitem.right.left, hitem.right.right]
      · have hne : o ≠ (remote.item source).oid := by
          intro ho
          exact hold.left ⟨hitemNode.symm, ho⟩
        rw [if_neg hne]
        exact h.agree o x hold.right
    · intro other s hother hs
      rw [show lookup other (w.withMem m').inv.sources = _ from hsources other] at hs
      cases hstored : lookup other w.inv.sources with
      | some stored =>
        rw [hstored] at hs
        injection hs with hs
        rw [← hs]
        exact h.others other stored hother hstored
      | none =>
        have hne : source.node ≠ other := by
          rw [hnode]
          exact Ne.symm hother
        rw [hstored] at hs
        simp only [if_neg hne] at hs
        cases hs
    · intro ptr hptr
      show ptr < m'.heap.nextSource ∧ (m'.heap.sourceCells ptr).destroyed = false
      rw [hm'.heap]
      exact h.foreign_clean ptr hptr
    · intro s hs
      rw [show lookup node (w.withMem m').inv.sources = _ from hsources node] at hs
      cases hstored : lookup node w.inv.sources with
      | some stored =>
        rw [hstored] at hs
        injection hs with hs
        rw [← hs]
        exact h.own stored hstored
      | none =>
        rw [hstored] at hs
        simp only [if_pos hnode] at hs
        cases hs
        exact hsource

end NodeMemory

/-!
## What is known of a task
-/

section

variable (node : String)

section

variable (foreign : Nat -> Prop)

def IsHandle (source : Option Source) : Prop :=
  forall s, source = some s -> s.node = node ∧ ¬ foreign s.ptr

/-- The call holds the source if it says so.  What it has appended, and is still there, is an
item of the node.  After the destruction a call that holds the source has a new object for
it, and nothing is left of what the calls before have appended. -/
structure CallHolds (done : Prop) (w : World V) (era : Era) (owns : Bool) (source : Option Source)
    (appended : List Nat) : Prop where
  locked : owns = true -> node ∈ w.invProcess
  handle : IsHandle node foreign source
  fresh : forall ptr, ptr ∈ appended -> ptr < w.heap.nextItem
  ofNode : forall ptr, ptr ∈ appended -> forall oid x, w.inv.getItem oid = some x ->
    x.ptr = ptr -> x.node = some node
  owner : done -> owns = true -> era ≠ .before ∧
    forall s, source = some s -> w.sourceDestroyed s = false
  gone : done -> era = .before -> forall ptr, ptr ∈ appended ->
    forall oid x, w.inv.getItem oid = some x -> x.ptr ≠ ptr

def PhaseHolds (done : Prop) (w : World V) : DestructionPhase -> Prop
  | waiting => True
  | destroying source => IsHandle node foreign source
  | owning => node ∈ w.invProcess
  | removing rest => node ∈ w.invProcess ∧
      forall oid x, w.inv.getItem oid = some x -> x.node = some node -> oid ∈ rest
  | returned => forall s, AList.lookup node w.inv.sources = some s -> w.sourceDestroyed s = false
  | idle => True
  | call era owns source appended => CallHolds node foreign done w era owns source appended

end

/-- A step brings no item that was not there, except new ones before the items are listed or
after all is done, and no marked object after all is done. -/
structure Moves (listing done : Prop) (w w' : World V) : Prop where
  nextItem : w.heap.nextItem ≤ w'.heap.nextItem
  items : forall oid x, w'.inv.getItem oid = some x -> w.inv.getItem oid = some x ∨
    ¬ listing ∧ w.heap.nextItem ≤ x.ptr
  clean : done -> forall s, w.sourceDestroyed s = false -> w'.sourceDestroyed s = false
  sources : done -> forall s, AList.lookup node w'.inv.sources = some s ->
    AList.lookup node w.inv.sources = some s ∨ w'.sourceDestroyed s = false

end

lemma CallHolds.mono {era : Era} {owns : Bool}
    (h : CallHolds node foreign done w era owns source appended)
    (hmoves : Moves node listing done w w')
    (hlocked : owns = true -> node ∈ w.invProcess -> node ∈ w'.invProcess) :
    CallHolds node foreign done w' era owns source appended where
  locked := fun howns => hlocked howns (h.locked howns)
  handle := h.handle
  fresh := fun ptr hptr => Nat.lt_of_lt_of_le (h.fresh ptr hptr) hmoves.nextItem
  ofNode := by
    intro ptr hptr oid x hx heq
    rcases hmoves.items oid x hx with hold | hnew
    · exact h.ofNode ptr hptr oid x hold heq
    · have hlt := h.fresh ptr hptr
      rw [← heq] at hlt
      exact absurd hlt (Nat.not_lt_of_le hnew.right)
  owner := by
    intro hdone howns
    have howner := h.owner hdone howns
    apply And.intro howner.left
    intro s hs
    exact hmoves.clean hdone s (howner.right s hs)
  gone := by
    intro hdone hera ptr hptr oid x hx
    rcases hmoves.items oid x hx with hold | hnew
    · exact h.gone hdone hera ptr hptr oid x hold
    · intro heq
      have hlt := h.fresh ptr hptr
      rw [← heq] at hlt
      exact absurd hlt (Nat.not_lt_of_le hnew.right)

lemma PhaseHolds.mono {phase : DestructionPhase} (h : PhaseHolds node foreign done w phase)
    (hmoves : Moves node listing done w w')
    (hlisting : forall rest, phase = removing rest -> listing) (hdone : phase = returned -> done)
    (hlocked : phase.owns = true -> node ∈ w.invProcess -> node ∈ w'.invProcess) :
    PhaseHolds node foreign done w' phase := by
  cases phase with
  | waiting => trivial
  | destroying source => exact h
  | owning => exact hlocked rfl h
  | removing rest =>
    apply And.intro (hlocked rfl h.left)
    intro oid x hx hnode
    rcases hmoves.items oid x hx with hold | hnew
    · exact h.right oid x hold hnode
    · exact absurd (hlisting rest rfl) hnew.left
  | returned =>
    intro s hs
    rcases hmoves.sources (hdone rfl) s hs with hold | hclean
    · exact hmoves.clean (hdone rfl) s (h s hold)
    · exact hclean
  | idle => trivial
  | call era owns source appended => exact CallHolds.mono h hmoves hlocked

namespace Moves

variable {w : World V}

lemma of_eq (hinv : w'.inv = w.inv) (hnext : w'.heap.nextItem = w.heap.nextItem)
    (hcells : w'.heap.sourceCells = w.heap.sourceCells) : Moves node listing done w w' where
  nextItem := le_of_eq hnext.symm
  items := by
    intro oid x hx
    rw [hinv] at hx
    exact Or.inl hx
  clean := by
    intro _ s hs
    unfold World.sourceDestroyed at hs ⊢
    rw [hcells]
    exact hs
  sources := by
    intro _ s hs
    rw [hinv] at hs
    exact Or.inl hs

lemma markDestroyed (hdone : ¬ done) : Moves node listing done w (w.markDestroyed source) where
  nextItem := le_refl _
  items := fun _ _ hx => Or.inl hx
  clean := fun h => absurd h hdone
  sources := fun h => absurd h hdone

lemma take : Moves node listing done w (w.takeStep sourceId sender) := by
  cases hsource : lookup sourceId w.inv.sources with
  | some source =>
    rw [World.takeStep_registered hsource]
    exact of_eq rfl rfl rfl
  | none =>
    rw [World.takeStep_new hsource]
    constructor
    · exact le_refl _
    · exact fun _ _ hx => Or.inl hx
    · intro _ s hs
      show (Function.update w.heap.sourceCells w.heap.nextSource _ s.ptr).destroyed = false
      by_cases heq : s.ptr = w.heap.nextSource
      · rw [heq, Function.update_self]
      · rw [Function.update_of_ne heq]
        exact hs
    · exact fun _ _ hs => Or.inl hs

lemma remove (hwf : w.toMem.WellFormed) : Moves node listing done w (w.removeStep oid) := by
  cases hfound : w.inv.getItem oid with
  | none =>
    rw [World.removeStep_absent hwf hfound]
    exact of_eq rfl rfl rfl
  | some item =>
    rcases World.removeStep_present hwf hfound with ⟨m', hnew, hm'⟩
    constructor
    · rw [hnew]
      exact le_of_eq (congrArg Heap.nextItem hm'.heap).symm
    · intro o x hx
      rw [hnew, show (w.withMem m').inv.getItem o = _ from hm'.getItem o] at hx
      split at hx
      · cases hx
      · exact Or.inl hx
    · intro _ s hs
      rw [hnew]
      show (m'.heap.sourceCells s.ptr).destroyed = false
      rw [hm'.heap]
      exact hs
    · intro _ s hs
      exact Or.inl (Mem.removeItem_sources hs)

/-- The object that comes with the new item must not be marked after all is done. -/
theorem append [EvaCommon V] (hwf : w.toMem.WellFormed) (hlisting : ¬ listing)
    (hsource : done -> w.sourceDestroyed source = false) :
    Moves node listing done w (w.appendStep remote source) := by
  cases hstate : Mem.replState remote with
  | error e =>
    rw [World.appendStep_invalid hstate]
    exact of_eq rfl rfl rfl
  | ok state =>
    rcases World.appendStep_valid hwf hstate with ⟨m', hworld, hm', hsources⟩
    have hclean : forall s, w.sourceDestroyed s = false ->
        (w.withMem m').sourceDestroyed s = false := by
      intro s hs
      show (m'.heap.sourceCells s.ptr).destroyed = false
      rw [hm'.heap]
      exact hs
    rw [hworld]
    constructor
    · show w.heap.nextItem ≤ m'.heap.nextItem
      rw [hm'.heap]
      exact Nat.le_succ _
    · intro o x hx
      rw [show (w.withMem m').inv.getItem o = _ from hm'.getItem o] at hx
      split at hx
      · cases hx
        exact Or.inr ⟨hlisting, le_refl _⟩
      · exact Or.inl hx
    · intro _
      exact hclean
    · intro hdone s hs
      rw [show lookup node (w.withMem m').inv.sources = _ from hsources node] at hs
      cases hstored : lookup node w.inv.sources with
      | some stored =>
        rw [hstored] at hs
        exact Or.inl hs
      | none =>
        rw [hstored] at hs
        simp only at hs
        split at hs
        · cases hs
          exact Or.inr (hclean source (hsource hdone))
        · cases hs

end Moves

end Eva4.Core
