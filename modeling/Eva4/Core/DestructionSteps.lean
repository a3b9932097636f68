import Mathlib.Data.Multiset.Count
import Eva4.Core.ReplicationFrame
import Eva4.Core.DestructionProtocol

/-!
# Steps of a destruction

The invariant of the destruction and the calls together, and the steps that keep it.
-/

namespace Eva4.Core

open Lib Items DestructionPhase World Multiset

variable {V : Type}

/-- One task destroys the source, at most one holds it, and each is in the state its phase
tells. -/
structure Destroys (node : String) (foreign : Nat -> Prop)
    (phases : Multiset DestructionPhase) (w : World V) : Prop where
  memory : NodeMemory node foreign w
  destroyer : phases.countP (fun phase => phase.isDestroyer = true) = 1
  oneOwner : phases.countP (fun phase => phase.owns = true) ≤ 1
  holds : forall phase, phase ∈ phases -> PhaseHolds node foreign (returned ∈ phases) w phase

namespace Destroys

variable {w : World V}

lemma own_holds (h : Destroys node foreign (own ::ₘ others) w) :
    PhaseHolds node foreign (returned ∈ own ::ₘ others) w own :=
  h.holds own (mem_cons_self own others)

lemma none_beside {p : DestructionPhase -> Bool}
    (hcount : (own ::ₘ others).countP (fun phase => p phase = true) ≤ 1) (hown : p own = true)
    (hother : other ∈ others) : p other = false := by
  rw [countP_cons, if_pos hown] at hcount
  have hnone : others.countP (fun phase => p phase = true) = 0 := by lia
  exact Bool.eq_false_of_not_eq_true (countP_eq_zero.mp hnone other hother)

section

variable (h : Destroys node foreign (own ::ₘ others) w)
include h

lemma others_calls (hown : own.isDestroyer = true) (hother : other ∈ others) :
    other.isDestroyer = false :=
  none_beside (le_of_eq h.destroyer) hown hother

lemma others_free (hown : own.owns = true) (hother : other ∈ others) : other.owns = false :=
  none_beside h.oneOwner hown hother

lemma not_owns (hfree : node ∉ w.invProcess) (hother : other ∈ others) : other.owns = false := by
  have hholds := h.holds other (mem_cons_of_mem hother)
  cases other with
  | owning => exact absurd hholds hfree
  | removing rest => exact absurd hholds.left hfree
  | call era owns source appended =>
    cases owns with
    | false => rfl
    | true => exact absurd (CallHolds.locked hholds rfl) hfree
  | waiting | destroying | returned | idle => rfl

lemma replace (hmemory : NodeMemory node foreign w')
    (hdestroyer : own'.isDestroyer = own.isDestroyer) (hdone : own' = returned <-> own = returned)
    (hmoves : Moves node (exists rest, removing rest ∈ others) (returned ∈ own ::ₘ others) w w')
    (hlocked : forall other, other ∈ others -> other.owns = true ->
      node ∈ w.invProcess -> node ∈ w'.invProcess) (howns : own'.owns = true -> own.owns = true ∨
      forall other, other ∈ others -> other.owns = false)
    (hholds : PhaseHolds node foreign (returned ∈ own ::ₘ others) w' own') :
    Destroys node foreign (own' ::ₘ others) w' := by
  have hsame : (returned ∈ own' ::ₘ others) = (returned ∈ own ::ₘ others) := by
    rw [mem_cons, mem_cons]
    exact propext (or_congr_left (eq_comm.trans (hdone.trans eq_comm)))
  constructor
  · exact hmemory
  · have hcount := h.destroyer
    rw [countP_cons] at hcount ⊢
    rw [hdestroyer]
    exact hcount
  · have hcount := h.oneOwner
    rw [countP_cons] at hcount ⊢
    cases hown' : own'.owns with
    | false => lia
    | true =>
      rcases howns hown' with hown | hfree
      · simp only [hown, if_true] at hcount ⊢
        exact hcount
      · have hnone : others.countP (fun phase => phase.owns = true) = 0 := by
          rw [countP_eq_zero]
          intro other hother
          rw [hfree other hother]
          exact Bool.false_ne_true
        lia
  · intro phase hphase
    rw [hsame]
    rcases mem_cons.mp hphase with heq | hother
    · rw [heq]
      exact hholds
    · apply (h.holds phase (mem_cons_of_mem hother)).mono hmoves
      · intro rest heq
        rw [heq] at hother
        exact ⟨rest, hother⟩
      · intro heq
        rw [heq] at hother
        exact mem_cons_of_mem hother
      · exact hlocked phase hother

lemma replace_kept (hmemory : NodeMemory node foreign w')
    (hdestroyer : own'.isDestroyer = own.isDestroyer) (hown : own ≠ returned)
    (hown' : own' ≠ returned)
    (hmoves : Moves node (exists rest, removing rest ∈ others) (returned ∈ own ::ₘ others) w w')
    (hlocked : w'.invProcess = w.invProcess) (howns : own'.owns = true -> own.owns = true)
    (hholds : PhaseHolds node foreign (returned ∈ own ::ₘ others) w' own') :
    Destroys node foreign (own' ::ₘ others) w' := by
  apply h.replace hmemory hdestroyer (iff_of_false hown' hown) hmoves
  · rw [hlocked]
    exact fun _ _ _ => id
  · exact fun hown' => Or.inl (howns hown')
  · exact hholds

end

/-!
## Steps of the calls
-/

section Calls

variable {era : Era} {owns : Bool}

lemma call_invoke (h : Destroys node foreign (idle ::ₘ others) w) :
    Destroys node foreign (call (DestructionPhase.era others) false none [] ::ₘ others) w := by
  refine h.replace_kept h.memory rfl (by simp) (by simp) (Moves.of_eq rfl rfl rfl) rfl id ?_
  constructor
  · exact fun howns => Bool.noConfusion howns
  · intro s hs
    cases hs
  · exact fun _ hptr => absurd hptr List.not_mem_nil
  · exact fun _ hptr => absurd hptr List.not_mem_nil
  · exact fun _ howns => Bool.noConfusion howns
  · exact fun _ _ _ hptr => absurd hptr List.not_mem_nil

section

variable (h : Destroys node foreign (call era owns source appended ::ₘ others) w)
include h

lemma call_same (hmemory : NodeMemory node foreign w')
    (hmoves : Moves node (exists rest, removing rest ∈ others)
      (returned ∈ call era owns source appended ::ₘ others) w w')
    (hlocked : w'.invProcess = w.invProcess) :
    Destroys node foreign (call era owns source appended ::ₘ others) w' := by
  refine h.replace_kept hmemory rfl (by simp) (by simp) hmoves hlocked id ?_
  apply CallHolds.mono h.own_holds hmoves
  rw [hlocked]
  exact fun _ => id

lemma call_keeps (hkeeps : KeepsInventory w w') :
    Destroys node foreign (call era owns source appended ::ₘ others) w' := by
  apply h.call_same
  · exact h.memory.of_eq hkeeps.inv hkeeps.nextItem hkeeps.sourceCells hkeeps.nextSource
  · exact Moves.of_eq hkeeps.inv hkeeps.nextItem hkeeps.sourceCells
  · exact hkeeps.invProcess

lemma call_remove :
    Destroys node foreign (call era owns source appended ::ₘ others) (w.removeStep oid) := by
  apply h.call_same
  · exact h.memory.remove
  · exact Moves.remove h.memory.wellFormed
  · rfl

end

theorem take_clean (h : Destroys node foreign phases w) (hdone : returned ∈ phases)
    (sender : String) : (w.takeStep node sender).sourceDestroyed
      (w.toMem.getOrCreateSource node sender).1 = false := by
  cases hsource : AList.lookup node w.inv.sources with
  | some stored =>
    rw [takeStep_registered hsource]
    unfold Mem.getOrCreateSource
    rw [hsource]
    exact h.holds returned hdone stored hsource
  | none =>
    rw [takeStep_new hsource]
    unfold Mem.getOrCreateSource
    rw [hsource]
    show (Function.update w.heap.sourceCells w.heap.nextSource _
      w.heap.nextSource).destroyed = false
    rw [Function.update_self]

lemma take_isHandle (h : Destroys node foreign phases w) (sender : String) :
    IsHandle node foreign (some (w.toMem.getOrCreateSource node sender).1) := by
  intro s hs
  cases hs
  exact ⟨h.memory.wellFormed.getOrCreateSource_node node sender, h.memory.not_foreign_take⟩

lemma takeSource (h : Destroys node foreign (own ::ₘ others) w)
    (hfree : node ∉ w.invProcess) (hdestroyer : own'.isDestroyer = own.isDestroyer)
    (hdone : own' = returned <-> own = returned)
    (hholds : PhaseHolds node foreign (returned ∈ own ::ₘ others)
      { w with invProcess := node :: w.invProcess } own') :
    Destroys node foreign (own' ::ₘ others) { w with invProcess := node :: w.invProcess } := by
  have hmemory : NodeMemory node foreign { w with invProcess := node :: w.invProcess } :=
    h.memory.of_eq rfl rfl rfl rfl
  apply h.replace hmemory hdestroyer hdone
  · exact Moves.of_eq rfl rfl rfl
  · exact fun _ _ _ => List.mem_cons_of_mem node
  · intro _
    exact Or.inr fun _ => h.not_owns hfree
  · exact hholds

lemma call_lock (h : Destroys node foreign (call era owns none appended ::ₘ others) w)
    (hera : era = .before -> returned ∉ others) : Destroys node foreign
      (call era (if node ∈ w.invProcess then owns else true) none appended ::ₘ others)
      (w.lockSource node).2 := by
  unfold lockSource
  by_cases hlocked : node ∈ w.invProcess
  · simp only [if_pos hlocked]
    exact h
  · simp only [if_neg hlocked]
    have hown : CallHolds node foreign _ w era owns none appended := h.own_holds
    apply h.takeSource hlocked
    · rfl
    · constructor <;> exact DestructionPhase.noConfusion
    · refine { hown with locked := fun _ => List.mem_cons_self, owner := ?_ }
      intro hdone _
      constructor
      · intro hbefore
        rcases mem_cons.mp hdone with heq | hreturned
        · cases heq
        · exact hera hbefore hreturned
      · intro s hs
        cases hs

lemma call_unlock (h : Destroys node foreign (call era true source appended ::ₘ others) w) :
    Destroys node foreign (call era false source appended ::ₘ others) (w.unlockSource node) := by
  have hown : CallHolds node foreign _ w era true source appended := h.own_holds
  have hmemory : NodeMemory node foreign (w.unlockSource node) :=
    h.memory.of_eq rfl rfl rfl rfl
  apply h.replace hmemory
  · rfl
  · constructor <;> exact DestructionPhase.noConfusion
  · exact Moves.of_eq rfl rfl rfl
  · intro other hother howns
    rw [h.others_free rfl hother] at howns
    cases howns
  · exact fun howns => Bool.noConfusion howns
  · exact { hown with
      locked := fun howns => Bool.noConfusion howns
      owner := fun _ howns => Bool.noConfusion howns }

theorem node_of_appended [EvaCommon V] (h : Destroys node foreign phases w) (hnode : s.node = node)
    (hx : (w.appendStep remote s).inv.getItem oid = some x) (hptr : x.ptr = w.heap.nextItem) :
    x.node = some node := by
  have hold : forall o y, w.inv.getItem o = some y -> y.ptr ≠ w.heap.nextItem :=
    fun _ _ hy => Nat.ne_of_lt (h.memory.wellFormed.getItem_fresh hy)
  cases hstate : Mem.replState remote with
  | error e =>
    rw [appendStep_invalid hstate] at hx
    exact absurd hptr (hold oid x hx)
  | ok state =>
    rcases appendStep_valid h.memory.wellFormed hstate with ⟨m', heq, hm', _⟩
    rw [heq, show (w.withMem m').inv.getItem oid = _ from hm'.getItem oid] at hx
    split at hx
    · injection hx with hx
      rw [← hx, ← hnode]
      rfl
    · exact absurd hptr (hold oid x hx)

lemma not_listing (h : Destroys node foreign (own ::ₘ others) w) (hreturned : returned ∈ others) :
    ¬ exists rest, removing rest ∈ others := by
  intro hremoving
  rcases hremoving with ⟨rest, hrest⟩
  rcases exists_cons_of_mem hreturned with ⟨calls, heq⟩
  have hle : (returned ::ₘ calls).countP (fun phase => phase.isDestroyer = true) ≤ 1 := by
    rw [← heq, ← h.destroyer]
    exact countP_le_of_le _ (le_cons_self others own)
  rw [heq] at hrest
  rcases mem_cons.mp hrest with hsame | hcalls
  · cases hsame
  · exact Bool.noConfusion (none_beside hle rfl hcalls)

variable (h : Destroys node foreign (call era owns source appended ::ₘ others) w)
include h

lemma call_take : Destroys node foreign
      (call era owns (some (w.toMem.getOrCreateSource node sender).1) appended ::ₘ others)
      (w.takeStep node sender) := by
  have hmoves : Moves node (exists rest, removing rest ∈ others)
      (returned ∈ call era owns source appended ::ₘ others) w (w.takeStep node sender) :=
    Moves.take
  have hown := CallHolds.mono h.own_holds hmoves fun _ hlocked => hlocked
  refine h.replace_kept (h.memory.take node) rfl (by simp) (by simp) hmoves rfl id ?_
  refine { hown with handle := h.take_isHandle sender, owner := ?_ }
  intro hdone howns
  apply And.intro (hown.owner hdone howns).left
  intro s hs
  cases hs
  exact h.take_clean hdone sender

/-- An item is appended while the items are not listed; after the destruction not by a call
that was started before it, and not with an object that is marked. -/
theorem call_append [EvaCommon V] (hnode : s.node = node) (hs : ¬ foreign s.ptr)
    (hlisting : ¬ exists rest, removing rest ∈ others)
    (hdone : returned ∈ others -> era ≠ .before ∧ w.sourceDestroyed s = false)
    (hok : (Mem.replState remote).isOk = true) :
    Destroys node foreign (call era owns source (w.heap.nextItem :: appended) ::ₘ others)
      (w.appendStep remote s) := by
  have hdone' : returned ∈ call era owns source appended ::ₘ others ->
      era ≠ .before ∧ w.sourceDestroyed s = false := by
    intro hmem
    rcases mem_cons.mp hmem with heq | hreturned
    · cases heq
    · exact hdone hreturned
  have hmoves : Moves node (exists rest, removing rest ∈ others)
      (returned ∈ call era owns source appended ::ₘ others) w (w.appendStep remote s) :=
    Moves.append h.memory.wellFormed hlisting fun hmem => (hdone' hmem).right
  have hown := CallHolds.mono h.own_holds hmoves fun _ hlocked => hlocked
  have hnext : w.heap.nextItem < (w.appendStep remote s).heap.nextItem := by
    cases hstate : Mem.replState remote with
    | error e =>
      rw [hstate] at hok
      cases hok
    | ok state =>
      rcases appendStep_valid h.memory.wellFormed hstate with ⟨m', heq, hm', _⟩
      rw [heq]
      show w.heap.nextItem < m'.heap.nextItem
      rw [hm'.heap]
      exact Nat.lt_succ_self _
  refine h.replace_kept (h.memory.append hnode hs) rfl (by simp) (by simp) hmoves rfl id ?_
  refine { hown with fresh := ?_, ofNode := ?_, gone := ?_ }
  · intro ptr hptr
    rcases List.mem_cons.mp hptr with heq | hold
    · rw [heq]
      exact hnext
    · exact hown.fresh ptr hold
  · intro ptr hptr oid x hx hxptr
    rcases List.mem_cons.mp hptr with heq | hold
    · exact h.node_of_appended hnode hx (hxptr.trans heq)
    · exact hown.ofNode ptr hold oid x hx hxptr
  · intro hmem hbefore
    exact absurd hbefore (hdone' hmem).left

lemma call_accept [EvaCommon V] {oid : OID} (hrse : rse.node = node) {sender : String}
    (hintime : (forall other, other ∈ others -> other.listed = false) ∨
      returned ∈ others ∧ era ≠ .before) :
    Destroys node foreign (call era owns source (w.heap.nextItem :: appended) ::ₘ others)
      (w.acceptStep oid rse sender) := by
  have htaken : Destroys node foreign (call era owns source appended ::ₘ others)
      (w.takeStep node sender) :=
    h.call_same (h.memory.take node) Moves.take rfl
  have hnext : (w.takeStep node sender).heap.nextItem = w.heap.nextItem :=
    (Mem.getOrCreateSource_created w.toMem node sender).nextItem
  have hhandle := h.take_isHandle sender _ rfl
  have happended : Destroys node foreign
      (call era owns source ((w.takeStep node sender).heap.nextItem :: appended) ::ₘ others)
      ((w.takeStep node sender).appendStep (blankRecord oid rse.act)
        (w.toMem.getOrCreateSource node sender).1) := by
    apply htaken.call_append hhandle.left hhandle.right
    · rcases hintime with hnone | hafter
      · intro hremoving
        rcases hremoving with ⟨rest, hrest⟩
        exact Bool.noConfusion (hnone _ hrest)
      · exact h.not_listing hafter.left
    · intro hreturned
      apply And.intro
      · rcases hintime with hnone | hafter
        · exact Bool.noConfusion (hnone _ hreturned)
        · exact hafter.right
      · exact h.take_clean (mem_cons_of_mem hreturned) sender
    · rcases replState_blankRecord (V := V) with ⟨state, hstate⟩
      rw [hstate]
      rfl
  rw [hnext] at happended
  unfold acceptStep
  rw [hrse]
  exact happended

end Calls

/-!
## Steps of the destruction
-/

lemma start (h : Destroys node foreign (waiting ::ₘ others) w) :
    Destroys node foreign (destroying none ::ₘ others) w := by
  refine h.replace_kept h.memory rfl (by simp) (by simp) (Moves.of_eq rfl rfl rfl) rfl id ?_
  intro s hs
  cases hs

lemma take (h : Destroys node foreign (destroying source ::ₘ others) w) :
    Destroys node foreign (destroying (some (w.toMem.getOrCreateSource node sender).1) ::ₘ others)
      (w.takeStep node sender) :=
  h.replace_kept (h.memory.take node) rfl (by simp) (by simp) Moves.take rfl
    id (h.take_isHandle sender)

lemma mark {source : Source} (h : Destroys node foreign (destroying (some source) ::ₘ others) w) :
    Destroys node foreign (destroying (some source) ::ₘ others) (w.markDestroyed source) := by
  have hhandle : IsHandle node foreign (some source) := h.own_holds
  have hnot : returned ∉ destroying (some source) ::ₘ others := by
    intro hreturned
    rcases mem_cons.mp hreturned with heq | hother
    · cases heq
    · exact Bool.noConfusion (h.others_calls rfl hother)
  exact h.replace_kept (h.memory.markDestroyed (hhandle source rfl).right) rfl (by simp) (by simp)
    (Moves.markDestroyed hnot) rfl id hhandle

lemma lock (h : Destroys node foreign (destroying source ::ₘ others) w) : Destroys node foreign
      ((if node ∈ w.invProcess then destroying source else owning) ::ₘ others)
      (w.lockSource node).2 := by
  unfold lockSource
  by_cases hlocked : node ∈ w.invProcess
  · simp only [if_pos hlocked]
    exact h
  · simp only [if_neg hlocked]
    apply h.takeSource hlocked
    · rfl
    · constructor <;> exact DestructionPhase.noConfusion
    · exact List.mem_cons_self

lemma list (h : Destroys node foreign (owning ::ₘ others) w) : Destroys node foreign
      (removing ((w.inv.getItemsBySource node).elim [] AList.keys) ::ₘ others) w := by
  refine h.replace_kept h.memory rfl (by simp) (by simp) (Moves.of_eq rfl rfl rfl) rfl id ?_
  apply And.intro h.own_holds
  intro oid x hx hnode
  have hindex := h.memory.wellFormed.inv.indexed oid x hx
  rw [hnode] at hindex
  rcases hindex with ⟨items, hitems, hitem⟩
  unfold Inventory.getItemsBySource
  rw [hitems]
  exact AList.mem_keys.mp (Table.mem_iff_lookup.mpr ⟨x, hitem⟩)

lemma remove (h : Destroys node foreign (removing rest ::ₘ others) w) :
    Destroys node foreign (removing (rest.erase oid) ::ₘ others) (w.removeStep oid) := by
  have hwf := h.memory.wellFormed
  have hown : PhaseHolds node foreign _ w (removing rest) := h.own_holds
  refine h.replace_kept h.memory.remove rfl (by simp) (by simp) (Moves.remove hwf) rfl
    id ?_
  apply And.intro hown.left
  intro o x hx hnode
  cases hfound : w.inv.getItem oid with
  | none =>
    rw [removeStep_absent hwf hfound] at hx
    have hne : o ≠ oid := by
      intro heq
      rw [heq, hfound] at hx
      cases hx
    exact (List.mem_erase_of_ne hne).mpr (hown.right o x hx hnode)
  | some item =>
    rcases removeStep_present hwf hfound with ⟨m', hnew, hm'⟩
    rw [hnew, show (w.withMem m').inv.getItem o = _ from hm'.getItem o] at hx
    split at hx
    · cases hx
    next hne => exact (List.mem_erase_of_ne hne).mpr (hown.right o x hx hnode)

lemma no_source (h : NodeMemory node foreign w)
    (hnone : forall oid x, w.inv.getItem oid = some x -> x.node ≠ some node) (s : Source) :
    AList.lookup node w.inv.sources ≠ some s := by
  intro hs
  have hmem : node ∈ w.inv.sources := Table.mem_iff_lookup.mpr ⟨s, hs⟩
  rw [h.wellFormed.inv.mem_sources node] at hmem
  rcases Table.mem_iff_lookup.mp hmem with ⟨items, hitems⟩
  rcases List.exists_mem_of_ne_nil _ (h.wellFormed.inv.index_ne_nil _ items hitems) with
    ⟨entry, hentry⟩
  have hindex : w.inv.InIndex (some node) entry.1 entry.2 :=
    ⟨items, hitems, AList.mem_lookup_iff.mpr hentry⟩
  exact hnone entry.1 entry.2 (h.agree entry.1 entry.2 hindex)
    (h.wellFormed.inv.entry _ _ _ hindex).right

/-- The last step of the destruction: no item of the node is left. -/
theorem finish (h : Destroys node foreign (removing [] ::ₘ others) w) :
    Destroys node foreign (returned ::ₘ others) (w.unlockSource node) := by
  have hown : PhaseHolds node foreign _ w (removing []) := h.own_holds
  have hnone : forall oid x, w.inv.getItem oid = some x -> x.node ≠ some node := by
    intro oid x hx hnode
    exact absurd (hown.right oid x hx hnode) List.not_mem_nil
  constructor
  · exact h.memory.of_eq rfl rfl rfl rfl
  · have hcount := h.destroyer
    rw [countP_cons] at hcount ⊢
    exact hcount
  · have hcount := h.oneOwner
    rw [countP_cons] at hcount ⊢
    simp only [DestructionPhase.owns, if_true, Bool.false_eq_true, if_false] at hcount ⊢
    lia
  · intro phase hphase
    rcases mem_cons.mp hphase with heq | hother
    · rw [heq]
      intro s hs
      exact absurd hs (no_source h.memory hnone s)
    · have hholds := h.holds phase (mem_cons_of_mem hother)
      have hcall := h.others_calls rfl hother
      have hfree := h.others_free rfl hother
      cases phase with
      | idle => trivial
      | call era owns source appended =>
        have hcallHolds : CallHolds node foreign _ w era owns source appended := hholds
        have hnot : owns ≠ true := by
          intro howns
          rw [show owns = false from hfree] at howns
          cases howns
        exact { hcallHolds with
          locked := fun howns => absurd howns hnot
          owner := fun _ howns => absurd howns hnot
          gone := fun _ _ ptr hptr oid x hx heq =>
            hnone oid x hx (hcallHolds.ofNode ptr hptr oid x hx heq) }
      | waiting | destroying | owning | removing | returned => cases hcall

end Destroys

def destructionProtocol [EvaCommon V] (node : String) (foreign : Nat -> Prop) :
    Protocol (World V) (Label V) Lock DestructionPhase where
  next := DestructionPhase.next
  inv := Destroys node foreign
  admits := AppendsInTime
  step := fun _ _ _ => True
  final := fun _ => True

end Eva4.Core
